/-
This file defines the runs of one client with RDP, which start with a call of csp_connect on a node.
-/
import Libcsp.HeldSlots
import Libcsp.RouterCases

namespace Libcsp

variable {cfg : Config}

/-! ## One client -/

/-- The slot of a client with RDP, and what userspace knows of it. -/
structure Client (cfg : Config) where
  ctx : Ctx cfg
  /-- `csp_rdp_connect` waits, and may retry. -/
  waiting : Option Bool
  /-- `csp_connect` has returned the connection, and userspace has not closed it. -/
  held : Bool
  /-- History: the connection has been in RDP_OPEN. -/
  answered : Bool

/-- These events concern the connection. -/
inductive ClientInput (cfg : Config) where
  /-- `csp_rdp_connect` ends its wait. -/
  | wake
  /-- The router hands a packet to the connection. -/
  | arrive (packet : Packet)
  /-- The router checks the timeouts. -/
  | timeouts
  | send (packet : Packet)
  | read
  | close
  /-- The rest of the node and the time change the static data. -/
  | environment (stack : Stack cfg)

namespace Client

/-- The result of a call on the connection. -/
def put (client : Client cfg) (ctx : Ctx cfg) : Client cfg :=
  { client with ctx, answered := client.answered || ctx.conn.rdp.state == .open }

/-- The end of `csp_connect`, as in `connectReturns`. -/
def returns (client : Client cfg) (retry : Bool) : Option CspErr × Ctx cfg → Client cfg
  | (none, ctx) => { client.put ctx with waiting := some retry }
  | (some .none, ctx) => { client.put ctx with waiting := none, held := true }
  | (some _, ctx) => { client.put (cspClose ctx) with waiting := none }

/-- A packet that finds the slot closed goes elsewhere, and userspace calls with its handle only. -/
def step (client : Client cfg) : ClientInput cfg → Client cfg
  | .wake =>
      match client.waiting with
      | none => client
      | some retry => client.returns false (rdpConnectWake client.ctx retry)
  | .arrive packet =>
      if client.ctx.conn.state = .open then client.put (routeDeliver client.ctx packet) else client
  | .timeouts =>
      if client.ctx.conn.state = .open && client.ctx.conn.idin.has cspFRdp then
        client.put (rdpCheckTimeouts client.ctx)
      else client
  | .send packet => if client.held then client.put (cspSend client.ctx (some packet)) else client
  | .read => if client.held then client.put (cspRead client.ctx).2 else client
  | .close => if client.held then { client.put (cspClose client.ctx) with held := false } else client
  | .environment stack => { client with ctx.stack := stack }

end Client

def clientMachine (cfg : Config) : Machine (Client cfg) (ClientInput cfg) where
  initial client := client.answered = false
  step := Client.step
  allowed _ _ := True

/-! ## Calls on a client -/

/-- The call leaves a client without a socket, and posts nothing. -/
structure Ctx.Unposted (ctx after : Ctx cfg) : Prop where
  client : after.conn.destSocket = none
  posted : after.stack.posted = ctx.stack.posted

theorem Ctx.Unposted.trans {first second third : Ctx cfg} (left : first.Unposted second)
    (right : second.Unposted third) : first.Unposted third :=
  ⟨right.client, right.posted.trans left.posted⟩

section Calls
variable {ctx : Ctx cfg} (client : ctx.conn.destSocket = none)
include client

theorem connClose_unposted (closedBy : UInt8) : ctx.Unposted (connClose ctx closedBy) :=
  ⟨(connClose_destSocket ctx closedBy).trans client, connClose_posted ctx closedBy⟩

/-- A connection that is no server is not posted. -/
theorem routePost_client : routePost ctx = ctx := by
  simp only [routePost, client]

/-- A client does not lose its connection before CLOSE_WAIT. -/
theorem rdpCheckTimeouts_client :
    rdpCheckTimeouts ctx =
      if ctx.conn.rdp.state = .closeWait then
        if rdpConnTimedOut ctx then connClose ctx (rdpClosedByProtocol ||| rdpClosedByTimeout) else ctx
      else
        rdpRxQueueFlush (rdpTimeoutOpen
          { ctx with stack := rdpTimeoutLoop ctx.conn ctx.stack.txQueue.size ctx.stack }) := by
  have accepted : (ctx.conn.destSocket.isSome && rdpConnTimedOut ctx) = false := by simp [client]
  simp only [rdpCheckTimeouts, accepted, Bool.false_eq_true, if_false]

end Calls

/-! ## Nodes -/

/-- The client that starts in this slot. -/
def Node.client (node : Node cfg) (slot : Nat) : Client cfg where
  ctx := node.ctx slot
  waiting := node.waiting slot
  held := node.held slot
  answered := false

/-- The node has the client in this slot. -/
structure Node.Shows (node : Node cfg) (slot : Nat) (client : Client cfg) : Prop where
  ctx : client.ctx = node.ctx slot
  waiting : client.waiting = node.waiting slot
  held : client.held = node.held slot
  unposted : client.ctx.conn.destSocket = none

section Shows
variable {node : Node cfg} {slot : Nat} {client : Client cfg}

theorem Node.Shows.starts (shows : node.Shows slot client) (unanswered : client.answered = false) :
    node.client slot = client := by
  obtain ⟨ctx, waiting, held, answered⟩ := client
  obtain ⟨rfl, rfl, rfl, _⟩ := shows
  obtain rfl : answered = false := unanswered
  rfl

theorem Node.Shows.put (shows : node.Shows slot client) {ctx : Ctx cfg} (unposted : client.ctx.Unposted ctx) :
    (node.put slot ctx).Shows slot (client.put ctx) := by
  have posted : ctx.stack.posted = node.stack.posted := by
    rw [unposted.posted, shows.ctx]
    rfl
  refine ⟨?_, shows.waiting, ?_, unposted.client⟩
  · rw [Slots.ctx, Node.put_conns_self]
    rfl
  · rw [node.put_held_same slot posted]
    exact shows.held

theorem Node.Shows.setHeld (shows : node.Shows slot client) (held : Bool) :
    (node.setHeld slot held).Shows slot { client with held } :=
  ⟨shows.ctx, shows.waiting, (Function.update_self slot held node.held).symm, shows.unposted⟩

theorem Node.Shows.setWaiting (shows : node.Shows slot client) (waiting : Option Bool) :
    (node.setWaiting slot waiting).Shows slot { client with waiting } :=
  ⟨shows.ctx, (Function.update_self slot waiting node.waiting).symm, shows.held, shows.unposted⟩

/-- The end of `csp_connect` is that of the client. -/
theorem Node.Shows.returns (shows : node.Shows slot client) (retry : Bool) {result : Option CspErr × Ctx cfg}
    (unposted : client.ctx.Unposted result.2) :
    (connectReturns node slot retry result).Shows slot (client.returns retry result) := by
  obtain ⟨outcome, after⟩ := result
  cases outcome with
  | none => exact (shows.put unposted).setWaiting (some retry)
  | some err =>
      have closed := shows.put (unposted.trans (connClose_unposted unposted.client rdpClosedByUserspace))
      cases err with
      | none => exact ((shows.put unposted).setWaiting none).setHeld true
      | _ => exact closed.setWaiting none

end Shows

end Libcsp

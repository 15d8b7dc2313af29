/-
This file determines when a new client connection does not depend on the past of its slot.
-/
import Libcsp.FreeSlots
import Libcsp.Loopback
import Libcsp.Residue

namespace Libcsp

variable {cfg : Config}

namespace Client

/-- The user and the peer see no difference. -/
structure Alike (first second : Client cfg) : Prop where
  state : first.ctx.conn.rdp.state = second.ctx.conn.rdp.state
  connState : first.ctx.conn.state = second.ctx.conn.state
  sent : first.ctx.stack.io.outbox = second.ctx.stack.io.outbox
  delivered : first.ctx.conn.rxLog = second.ctx.conn.rxLog
  unread : first.ctx.conn.rxQueue = second.ctx.conn.rxQueue
  waiting : first.waiting = second.waiting
  held : first.held = second.held

/-- Before its answer, the connection neither compares nor sends the `rcv_cur` of the last one. -/
def KeepsFresh (client : Client cfg) : ClientInput cfg → Prop
  | .arrive packet =>
      client.answered = false → client.ctx.conn.state = .open → packet.id.has cspFRdp = true →
        client.ctx.FreshArrival packet
  | .timeouts => client.answered = false → client.ctx.conn.state = .open → client.ctx.FreshTick
  | _ => True

end Client

/-! ## Two clients -/

/-- Two clients are the same, or differ before their answer in what the last connection has left. -/
inductive Client.Related : Client cfg → Client cfg → Prop where
  | same (client : Client cfg) : Client.Related client client
  | waits {client : Client cfg} (residue : Residue) (unanswered : client.ctx.Unanswered)
      (held : client.held = false) (answered : client.answered = false) :
      Client.Related client { client with ctx := client.ctx.leave residue }

theorem Client.Related.alike {first second : Client cfg} (related : Client.Related first second) :
    first.Alike second := by
  cases related with
  | same => exact ⟨rfl, rfl, rfl, rfl, rfl, rfl, rfl⟩
  | waits => exact ⟨rfl, rfl, rfl, rfl, rfl, rfl, rfl⟩

/-- An attempt of `csp_rdp_connect` waits for an answer, or has failed. -/
structure TriesConnect (result : Option CspErr × Ctx cfg) : Prop where
  rdp : result.2.conn.idin.has cspFRdp = true
  client : result.2.conn.destSocket = none
  early : result.2.conn.rdp.state ≠ .open ∧ result.2.conn.rdp.state ≠ .synRcvd
  outcome : result.1 = none ∧ (result.2.conn.state = .open → result.2.conn.rdp.state ≠ .closed) ∨
    (∃ err, result.1 = some err ∧ err ≠ .none) ∧ result.2.Silent

section Step
variable {client : Client cfg} (residue : Residue) (held : client.held = false) (answered : client.answered = false)
include held answered

theorem Client.Related.put {after : Ctx cfg} (unanswered : after.Unanswered) (waiting : Option Bool) :
    Client.Related { client.put after with waiting }
      { Client.put { client with ctx := client.ctx.leave residue } (after.leave residue) with waiting } := by
  refine @Client.Related.waits cfg { client.put after with waiting } residue unanswered held ?_
  simp [Client.put, answered, unanswered.early.1]

theorem Client.Related.returns (retry : Bool) {result : Option CspErr × Ctx cfg} (tries : TriesConnect result) :
    Client.Related (client.returns retry result)
      (Client.returns { client with ctx := client.ctx.leave residue } retry (residue.leave result)) := by
  obtain ⟨outcome, after⟩ := result
  obtain ⟨rdp, isClient, early, ⟨rfl, inUse⟩ | ⟨⟨err, rfl, failed⟩, silent⟩⟩ := tries
  · exact .put residue held answered ⟨rdp, isClient, early, inUse⟩ (some retry)
  · have closed := connClose_unanswered rdp isClient early rdpClosedByUserspace
    have left := connClose_leave residue rdpClosedByUserspace silent
    have put := Client.Related.put residue held answered closed none
    rw [← left] at put
    cases err with
    | none => exact absurd rfl failed
    | _ => exact put

end Step

/-- The start of a connection does not answer it. -/
theorem Client.returns_unanswered {client : Client cfg} (answered : client.answered = false) (retry : Bool)
    {result : Option CspErr × Ctx cfg} (tries : TriesConnect result) :
    (client.returns retry result).answered = false := by
  obtain ⟨outcome, after⟩ := result
  have early := tries.early.1
  have closed := (connClose_unanswered tries.rdp tries.client tries.early rdpClosedByUserspace).early.1
  have put : (client.put after).answered = false := by simp [Client.put, answered, early]
  have put' : (client.put (cspClose after)).answered = false := by simp [Client.put, cspClose, answered, closed]
  cases outcome with
  | none => exact put
  | some err =>
      cases err with
      | none => exact put
      | _ => exact put'

/-- A failed attempt leaves the state RDP_SYN_SENT without a RESET. -/
theorem rdpCloseInternal_tries {ctx : Ctx cfg} (rdp : ctx.conn.idin.has cspFRdp = true)
    (client : ctx.conn.destSocket = none) :
    TriesConnect (some .timedout, (rdpCloseInternal ctx rdpClosedByProtocol false).2) := by
  rcases rdpCloseInternal_cases ctx rdpClosedByProtocol false with ⟨closed, same⟩ |
    ⟨_, _, _, _, _, _, _, ⟨_, same⟩ | ⟨_, same⟩⟩
  · rw [same]
    exact ⟨rdp, client, by simp [closed], .inr ⟨⟨_, rfl, by simp⟩, .inl closed⟩⟩
  · rw [same]
    exact ⟨rdp, client, by simp, .inr ⟨⟨_, rfl, by simp⟩, .inr (.inl rfl)⟩⟩
  · rw [same]
    exact ⟨rdp, client, by simp, .inr ⟨⟨_, rfl, by simp⟩, .inl rfl⟩⟩

theorem rdpConnectAttempt_tries {ctx : Ctx cfg} (rdp : ctx.conn.idin.has cspFRdp = true)
    (client : ctx.conn.destSocket = none) (early : ctx.conn.rdp.state ≠ .open) :
    TriesConnect (rdpConnectAttempt ctx) := by
  have sent := rdpSendSyn_serves { ctx with conn.rdp := rdpNewAttempt cfg ctx.stack.now ctx.conn.rdp }
  rw [rdpConnectAttempt, if_neg early]
  generalize rdpSendSyn { ctx with conn.rdp := rdpNewAttempt cfg ctx.stack.now ctx.conn.rdp } = result at sent
  obtain ⟨err, after⟩ := result
  have idin : after.conn.idin = ctx.conn.idin := sent.idin
  have destSocket : after.conn.destSocket = ctx.conn.destSocket := sent.destSocket
  have state : after.conn.rdp.state = .synSent := sent.rdpState
  cases err with
  | none => exact ⟨idin ▸ rdp, destSocket.trans client, by simp [state], .inl ⟨rfl, fun _ => by simp [state]⟩⟩
  | _ => exact rdpCloseInternal_tries (idin ▸ rdp) (destSocket.trans client)

theorem rdpConnectWake_tries {ctx : Ctx cfg} (unanswered : ctx.Unanswered) (retry : Bool) :
    TriesConnect (rdpConnectWake ctx retry) := by
  have early := unanswered.early.1
  simp only [rdpConnectWake]
  rw [if_neg (by simp [early])]
  split
  · exact @rdpConnectAttempt_tries cfg
      ⟨{ ctx.conn with rdp.txWait := false }, rdpQueueFlush ctx.stack (some ctx.conn.index)⟩
      unanswered.rdp unanswered.client early
  · exact @rdpCloseInternal_tries cfg { ctx with conn.rdp.txWait := false } unanswered.rdp unanswered.client

section Unanswered
variable {client : Client cfg} (residue : Residue) (unanswered : client.ctx.Unanswered)
  (held : client.held = false) (answered : client.answered = false)
include unanswered held answered

theorem Client.Related.wake :
    Client.Related (client.step .wake) (Client.step { client with ctx := client.ctx.leave residue } .wake) := by
  have related := @Client.Related.waits cfg client residue unanswered held answered
  obtain ⟨ctx, waiting, _, _⟩ := client
  cases waiting with
  | none => exact related
  | some retry =>
      simp only [Client.step]
      rw [rdpConnectWake_leave]
      exact .returns residue held answered false (rdpConnectWake_tries unanswered retry)

theorem Client.Related.arrive {packet : Packet} (fresh : client.KeepsFresh (.arrive packet))
    (fresh' : Client.KeepsFresh { client with ctx := client.ctx.leave residue } (.arrive packet)) :
    Client.Related (client.step (.arrive packet))
      (Client.step { client with ctx := client.ctx.leave residue } (.arrive packet)) := by
  by_cases inUse : client.ctx.conn.state = .open
  · have inUse' : (client.ctx.leave residue).conn.state = .open := inUse
    simp only [Client.step]
    rw [if_pos inUse, if_pos inUse']
    rcases routeDeliver_leave residue unanswered inUse (fresh answered inUse) (fresh' answered inUse) with
      same | ⟨left, waits⟩
    · rw [same]
      exact .same _
    · rw [left]
      exact .put residue held answered waits client.waiting
  · have free' : ¬(client.ctx.leave residue).conn.state = .open := inUse
    simp only [Client.step]
    rw [if_neg inUse, if_neg free']
    exact .waits residue unanswered held answered

theorem Client.Related.timeouts (fresh : client.KeepsFresh .timeouts)
    (fresh' : Client.KeepsFresh { client with ctx := client.ctx.leave residue } .timeouts) :
    Client.Related (client.step .timeouts)
      (Client.step { client with ctx := client.ctx.leave residue } .timeouts) := by
  by_cases inUse : client.ctx.conn.state = .open
  · have checked : (client.ctx.conn.state = .open && client.ctx.conn.idin.has cspFRdp) = true := by
      simp [inUse, unanswered.rdp]
    have checked' : ((client.ctx.leave residue).conn.state = .open &&
      (client.ctx.leave residue).conn.idin.has cspFRdp) = true := checked
    obtain ⟨left, waits⟩ :=
      rdpCheckTimeouts_leave residue unanswered inUse (fresh answered inUse) (fresh' answered inUse)
    simp only [Client.step]
    rw [if_pos checked, if_pos checked', left]
    exact .put residue held answered waits client.waiting
  · have free : ¬(client.ctx.conn.state = .open && client.ctx.conn.idin.has cspFRdp) = true := by
      simp [inUse]
    have free' : ¬((client.ctx.leave residue).conn.state = .open &&
      (client.ctx.leave residue).conn.idin.has cspFRdp) = true := free
    simp only [Client.step]
    rw [if_neg free, if_neg free']
    exact .waits residue unanswered held answered

end Unanswered

/-- Userspace has no handle to call with. -/
theorem Client.step_unheld {client : Client cfg} (held : client.held = false) :
    (∀ packet, client.step (.send packet) = client) ∧ client.step .read = client ∧ client.step .close = client := by
  have unheld : ¬client.held = true := by simp [held]
  exact ⟨fun _ => if_neg unheld, if_neg unheld, if_neg unheld⟩

/-- Each input keeps the two clients together. -/
theorem Client.Related.step {first second : Client cfg} (related : Client.Related first second)
    {input : ClientInput cfg} (fresh : first.KeepsFresh input) (fresh' : second.KeepsFresh input) :
    Client.Related (first.step input) (second.step input) := by
  cases related with
  | same => exact .same _
  | waits residue unanswered held answered =>
      have stays := @Client.Related.waits cfg first residue unanswered held answered
      have unheld := Client.step_unheld held
      have unheld' := @Client.step_unheld cfg { first with ctx := first.ctx.leave residue } held
      cases input with
      | wake => exact .wake residue unanswered held answered
      | arrive packet => exact .arrive residue unanswered held answered fresh fresh'
      | timeouts => exact .timeouts residue unanswered held answered fresh fresh'
      | send packet =>
          rw [unheld.1, unheld'.1]
          exact stays
      | read =>
          rw [unheld.2.1, unheld'.2.1]
          exact stays
      | close =>
          rw [unheld.2.2, unheld'.2.2]
          exact stays
      | environment stack =>
          refine @Client.Related.waits cfg { first with ctx := ⟨first.ctx.conn, stack⟩ } residue ?_ held answered
          exact unanswered.of_same rfl rfl rfl rfl

/-! ## The call of csp_connect -/

/-- The slot has the content that another history has left, and its receive history starts anew. -/
def Node.place (node : Node cfg) (slot : Nat) (conn : Conn cfg) : Node cfg :=
  { node with conns := Function.update node.conns slot { conn with rxLog := [] } }

/-- The fields of the two slots that `csp_connect` reads and no call resets. -/
structure Conn.StartsAlike (first second : Conn cfg) : Prop where
  early : first.rdp.state ≠ .open
  early' : second.rdp.state ≠ .open
  closedBy : second.rdp.closedBy = first.rdp.closedBy

/-- Histories with handshakes on connections with RDP only leave their free slots so. -/
theorem freeSlots_startAlike {past past' : Node cfg}
    (reached : ((nodeMachine cfg).restrict fun node input => input.KeepsHandshakes node).Reachable past)
    (reached' : ((nodeMachine cfg).restrict fun node input => input.KeepsHandshakes node).Reachable past')
    {slot : Nat} (free : (past.conns slot).state = .closed) (free' : (past'.conns slot).state = .closed) :
    (past.conns slot).StartsAlike (past'.conns slot) := by
  have clean := freeSlots_clean reached slot free
  have clean' := freeSlots_clean reached' slot free'
  exact ⟨by simp [clean.rdpState], by simp [clean'.rdpState], clean'.closedBy.trans clean.closedBy.symm⟩

/-- All results but the connection itself stem from the call. -/
theorem Client.returns_ctx (client : Client cfg) (ctx : Ctx cfg) (retry : Bool) (result : Option CspErr × Ctx cfg) :
    Client.returns { client with ctx } retry result = client.returns retry result := by
  obtain ⟨outcome, after⟩ := result
  cases outcome with
  | none => rfl
  | some err => cases err <;> rfl

/-- The next slot is the same for all free contents of a slot. -/
theorem Node.nextSlot_place (node : Node cfg) (slot : Nat) {first second : Conn cfg}
    (same : second.state = first.state) : (node.place slot second).nextSlot = (node.place slot first).nextSlot := by
  apply connSearch_congr
  intro other
  by_cases own : other = slot
  · subst own
    simpa [Node.place] using same
  · simp [Node.place, own]

section Start
variable (node : Node cfg) {slot : Nat} (prio : UInt8) (dest : UInt16) (dport : UInt8) (opts : UInt32)

/-- The slot when `csp_rdp_connect` starts. -/
def Node.startOf (conn : Conn cfg) : Ctx cfg :=
  ⟨Conn.client { conn with rxLog := [] } node.connDflSo node.stack.now prio dest dport opts, node.stack⟩

theorem Node.startOf_tries {conn : Conn cfg} (early : conn.rdp.state ≠ .open)
    (rdp : hasOpt opts cspSoRdpReq = true) :
    TriesConnect (rdpConnectStart (node.startOf prio dest dport opts conn)) :=
  rdpConnectAttempt_tries ((connectFlags_carries (by rfl)).rdp (connectOpts_rdp rdp node.connDflSo)) (by rfl)
    (by exact early)

theorem cspConnect_client {past : Node cfg} (reached : (nodeMachine cfg).Reachable past)
    (free : (past.conns slot).state = .closed) (early : (past.conns slot).rdp.state ≠ .open)
    (next : (node.place slot (past.conns slot)).nextSlot = some slot) (rdp : hasOpt opts cspSoRdpReq = true) :
    (cspConnect (node.place slot (past.conns slot)) prio dest dport opts).client slot =
      Client.returns ⟨node.startOf prio dest dport opts (past.conns slot), none, false, false⟩ true
        (rdpConnectStart (node.startOf prio dest dport opts (past.conns slot))) := by
  obtain ⟨opened, renewed, connected⟩ := cspConnect_of_next next prio dest dport opts
  have drained := flushRxList_drained node.stack.io (freeSlots_drained reached slot free)
  have start : opened.ctx slot = node.startOf prio dest dport opts (past.conns slot) := by
    simp only [renewed, Node.renew, Node.allocate, Node.place, Slots.ctx, Function.update_self, drained]
    rfl
  have shows : opened.Shows slot ⟨node.startOf prio dest dport opts (past.conns slot), none, false, false⟩ := by
    refine ⟨start.symm, ?_, ?_, rfl⟩
    · simp only [renewed, Node.renew, Node.allocate, Function.update_self]
    · simp only [renewed, Node.renew, Node.allocate, Function.update_self]
  have flag : (opened.conns slot).idin.has cspFRdp = true :=
    (congrArg (fun ctx : Ctx cfg => ctx.conn.idin.has cspFRdp) start).trans
      ((connectFlags_carries (by rfl)).rdp (connectOpts_rdp rdp node.connDflSo))
  have connects := rdpConnectStart_connects (node.startOf prio dest dport opts (past.conns slot))
  have tries := node.startOf_tries prio dest dport opts early rdp
  rw [connected, if_pos flag, start]
  exact (shows.returns true ⟨tries.client, connects.posted⟩).starts (Client.returns_unanswered rfl true tries)

/-- The two connections start the same, but for what the slot has left. -/
theorem cspConnect_related {past past' : Node cfg} (reached : (nodeMachine cfg).Reachable past)
    (reached' : (nodeMachine cfg).Reachable past') (free : (past.conns slot).state = .closed)
    (free' : (past'.conns slot).state = .closed) (alike : (past.conns slot).StartsAlike (past'.conns slot))
    (next : (node.place slot (past.conns slot)).nextSlot = some slot) (rdp : hasOpt opts cspSoRdpReq = true) :
    Client.Related
      ((cspConnect (node.place slot (past.conns slot)) prio dest dport opts).client slot)
      ((cspConnect (node.place slot (past'.conns slot)) prio dest dport opts).client slot) := by
  have next' : (node.place slot (past'.conns slot)).nextSlot = some slot :=
    (node.nextSlot_place slot (free'.trans free.symm)).trans next
  have placed := reachable_placed reached
  have placed' := reachable_placed reached'
  have index : (past'.conns slot).index = (past.conns slot).index := (placed'.1 slot).trans (placed.1 slot).symm
  have port : (past'.conns slot).sportOutgoing = (past.conns slot).sportOutgoing :=
    (placed'.2.ports slot).trans (placed.2.ports slot).symm
  rw [cspConnect_client node prio dest dport opts reached free alike.early next rdp,
    cspConnect_client node prio dest dport opts reached' free' alike.early' next' rdp]
  have same : (node.startOf prio dest dport opts (past'.conns slot)).conn =
      { (node.startOf prio dest dport opts (past.conns slot)).conn with
        rdp := (node.startOf prio dest dport opts (past'.conns slot)).conn.rdp } := by
    simp only [Node.startOf, Conn.client, Conn.renew, index, port]
  have started : rdpConnectStart (node.startOf prio dest dport opts (past'.conns slot)) =
      (node.startOf prio dest dport opts (past'.conns slot)).conn.residue.leave
        (rdpConnectStart (node.startOf prio dest dport opts (past.conns slot))) :=
    rdpConnectStart_residue node.stack same alike.closedBy alike.early alike.early'
  have tries := node.startOf_tries prio dest dport opts alike.early rdp
  have related := @Client.Related.returns cfg
    ⟨node.startOf prio dest dport opts (past.conns slot), none, false, false⟩
    (node.startOf prio dest dport opts (past'.conns slot)).conn.residue rfl rfl true _ tries
  rw [← started] at related
  rw [← Client.returns_ctx ⟨node.startOf prio dest dport opts (past'.conns slot), none, false, false⟩]
  exact related

end Start

/-! ## Runs -/

/-- The runs of two clients stay together. -/
theorem Client.Related.trace {first second : Client cfg} (related : Client.Related first second)
    (inputs : List (ClientInput cfg))
    (fresh : ((clientMachine cfg).restrict Client.KeepsFresh).Allows first inputs)
    (fresh' : ((clientMachine cfg).restrict Client.KeepsFresh).Allows second inputs) :
    Client.Related ((clientMachine cfg).trace first inputs) ((clientMachine cfg).trace second inputs) := by
  induction inputs generalizing first second with
  | nil => exact related
  | cons input rest ih =>
      obtain ⟨⟨_, keeps⟩, fresh⟩ := fresh
      obtain ⟨⟨_, keeps'⟩, fresh'⟩ := fresh'
      exact ih (related.step keeps keeps') fresh fresh'

/-- The user and the peer of a new connection with RDP see nothing of the past of its slot, as long as the
connection does not use the old `rcv_cur` before its answer. -/
theorem freshStarts_alike {past past' : Node cfg} (reached : (nodeMachine cfg).Reachable past)
    (reached' : (nodeMachine cfg).Reachable past') {slot : Nat} (free : (past.conns slot).state = .closed)
    (free' : (past'.conns slot).state = .closed) (alike : (past.conns slot).StartsAlike (past'.conns slot))
    (node : Node cfg) (next : (node.place slot (past.conns slot)).nextSlot = some slot)
    {prio dport : UInt8} {dest : UInt16} {opts : UInt32} (rdp : hasOpt opts cspSoRdpReq = true)
    {first second : Client cfg}
    (start : (cspConnect (node.place slot (past.conns slot)) prio dest dport opts).client slot = first)
    (start' : (cspConnect (node.place slot (past'.conns slot)) prio dest dport opts).client slot = second)
    (inputs : List (ClientInput cfg))
    (fresh : ((clientMachine cfg).restrict Client.KeepsFresh).Allows first inputs)
    (fresh' : ((clientMachine cfg).restrict Client.KeepsFresh).Allows second inputs) :
    Client.Alike ((clientMachine cfg).trace first inputs) ((clientMachine cfg).trace second inputs) := by
  subst start start'
  have related := cspConnect_related node prio dest dport opts reached reached' free free' alike next rdp
  exact (related.trace inputs fresh fresh').alike


/-! ## Concrete runs -/

instance (conn : Nat) (Fits : Packet → Prop) [DecidablePred Fits] (items : List Packet) :
    Decidable (Scanned conn Fits items) := inferInstanceAs (Decidable (_ → _))

instance (conn : Conn cfg) (now : UInt32) : DecidablePred (conn.NotDue now) :=
  fun _ => inferInstanceAs (Decidable (_ ∨ _))

instance (ctx : Ctx cfg) (packet : Packet) : Decidable (ctx.Refuses packet) := inferInstanceAs (Decidable (_ ∧ _))

instance (ctx : Ctx cfg) (packet : Packet) : Decidable (ctx.FreshArrival packet) :=
  decidable_of_iff
    ((ctx.conn.rdp.state = .synSent → packet.hasRdp rdpRst = true →
        rstInSequence ctx.conn.rdp packet.header = false) ∧
      (ctx.Refuses packet → ctx.NoReply))
    ⟨fun fresh => ⟨fresh.1, fresh.2⟩, fun fresh => ⟨fresh.rst, fresh.refused⟩⟩

instance (ctx : Ctx cfg) : Decidable ctx.FreshTick :=
  decidable_of_iff
    ((ctx.conn.rdp.state = .synSent →
        Scanned ctx.conn.index (ctx.conn.NotDue ctx.stack.now) ctx.stack.txQueue.items) ∧
      (ctx.conn.rdp.state = .synSent →
        Scanned ctx.conn.index (fun packet => packet.hostSeqNr ≠ ctx.conn.rdp.rcvCur + 1) ctx.stack.rxQueue.items))
    ⟨fun fresh => ⟨fresh.1, fresh.2⟩, fun fresh => ⟨fresh.tx, fresh.rx⟩⟩

instance (client : Client cfg) : ∀ input, Decidable (client.KeepsFresh input)
  | .arrive _ => inferInstanceAs (Decidable (_ → _ → _ → _))
  | .timeouts => inferInstanceAs (Decidable (_ → _ → _))
  | .wake => .isTrue trivial
  | .send _ => .isTrue trivial
  | .read => .isTrue trivial
  | .close => .isTrue trivial
  | .environment _ => .isTrue trivial

instance (client : Client cfg) (input : ClientInput cfg) :
    Decidable (((clientMachine cfg).restrict Client.KeepsFresh).allowed client input) :=
  inferInstanceAs (Decidable (True ∧ _))

/-- A table with one slot, which each connection reuses. -/
def oneSlot : Config := { connMax := 1 }

def lonelyNode : Node oneSlot := Node.init (Io.init oneSlot (fun _ => default) [] []) default

theorem lonelyNode_reachable : (nodeMachine oneSlot).Reachable lonelyNode := .start ⟨_, _, rfl⟩

/-- A packet for the client of the table. -/
def clientPacket (flags : UInt8) (seqNr ackNr : UInt16) (body : List UInt8) : Packet :=
  { rdpSegment flags seqNr ackNr body with id := { (default : CspId) with flags := cspFRdp, dport := 17 } }

/-- The slot had a connection to a peer that started with the number 5000. -/
def reusedNode : Node oneSlot :=
  (nodeMachine oneSlot).trace lonelyNode
    [.connect 2 5 10 cspSoRdpReq, .route (some (0, clientPacket (rdpSyn ||| rdpAck) 5000 0 [])), .wake 0, .close 0,
      .route (some (0, clientPacket (rdpRst ||| rdpAck) 5001 1 []))]

theorem reusedNode_reachable : (nodeMachine oneSlot).Reachable reusedNode :=
  lonelyNode_reachable.trace _ (by decide +kernel)

/-- A connect to another peer on the slot with this past. -/
def reconnect (past : Node oneSlot) : Client oneSlot :=
  (cspConnect (reusedNode.place 0 (past.conns 0)) 2 9 10 cspSoRdpReq).client 0

/-- The peer answers, and sends data. -/
def answeredRun : List (ClientInput oneSlot) :=
  [.arrive (clientPacket rdpRst 300 0 []), .timeouts, .arrive (clientPacket (rdpSyn ||| rdpAck) 7000 0 []), .wake,
    .arrive (clientPacket rdpAck 7001 0 [1, 2, 3])]

theorem reusedSlot_alike :
    Client.Alike ((clientMachine oneSlot).trace (reconnect lonelyNode) answeredRun)
      ((clientMachine oneSlot).trace (reconnect reusedNode) answeredRun) :=
  @freshStarts_alike oneSlot lonelyNode reusedNode lonelyNode_reachable reusedNode_reachable 0 (by decide +kernel)
    (by decide +kernel) ⟨by decide +kernel, by decide +kernel, by decide +kernel⟩ reusedNode (by decide +kernel)
    2 10 9 cspSoRdpReq (by decide +kernel) _ _ rfl rfl answeredRun (by decide +kernel) (by decide +kernel)

/-- A late RESET for the last connection of the slot ends the new one. -/
theorem reusedSlot_differs :
    ¬∀ past past' : Node oneSlot, (nodeMachine oneSlot).Reachable past → (nodeMachine oneSlot).Reachable past' →
      ∀ slot, (past.conns slot).state = .closed → (past'.conns slot).state = .closed →
        ∀ node : Node oneSlot, (node.place slot (past.conns slot)).nextSlot = some slot →
          ∀ prio dest dport opts, hasOpt opts cspSoRdpReq = true → ∀ inputs,
            Client.Alike
              ((clientMachine oneSlot).trace
                ((cspConnect (node.place slot (past.conns slot)) prio dest dport opts).client slot) inputs)
              ((clientMachine oneSlot).trace
                ((cspConnect (node.place slot (past'.conns slot)) prio dest dport opts).client slot) inputs) := by
  intro alike
  have runs := alike lonelyNode reusedNode lonelyNode_reachable reusedNode_reachable 0 (by decide +kernel)
    (by decide +kernel) reusedNode (by decide +kernel) 2 9 10 cspSoRdpReq (by decide +kernel)
    [.arrive (clientPacket rdpRst 5001 0 [])]
  exact absurd runs.state (by decide +kernel)

end Libcsp

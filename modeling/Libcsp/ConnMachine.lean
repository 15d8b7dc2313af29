/-
This file defines the runs of one RDP connection: any packets, timers, and calls in any order.
-/
import Libcsp.Route
import Libcsp.RdpSpec
import Libcsp.SeqNumber
import Libcsp.Lib.Transition

namespace Libcsp

variable {cfg : Config}

/-- These events concern one connection. -/
inductive ConnInput (cfg : Config) where
  /-- `csp_rdp_connect` starts. -/
  | connect
  /-- `csp_rdp_connect` ends its wait, in the first or in the second attempt. -/
  | wake (retry : Bool)
  /-- The router hands a packet to the connection. -/
  | arrive (packet : Packet)
  /-- The router calls `csp_rdp_check_timeouts`. -/
  | timeouts
  | send (packet : Packet)
  | read
  | close
  /-- The rest of the node and the time change everything but the RDP queues. -/
  | environment (stack : Stack cfg)

def connStep (ctx : Ctx cfg) : ConnInput cfg → Ctx cfg
  | .connect => connectResult (rdpConnectStart ctx)
  | .wake retry => connectResult (rdpConnectWake ctx retry)
  | .arrive packet => routeDeliver ctx packet
  | .timeouts => rdpCheckTimeouts ctx
  | .send packet => cspSend ctx (some packet)
  | .read => (cspRead ctx).2
  | .close => cspClose ctx
  | .environment stack =>
      { ctx with stack := { stack with txQueue := ctx.stack.txQueue, rxQueue := ctx.stack.rxQueue } }

/-- The router looks only at open connections, and `csp_rdp_connect` starts on a new slot. -/
def connAllowed (ctx : Ctx cfg) : ConnInput cfg → Prop
  | .connect => ctx.conn.state = .open ∧ ctx.conn.rdp.state = .closed
  | .wake _ => ctx.conn.state = .open
  | .arrive _ => ctx.conn.state = .open
  | .timeouts => ctx.conn.state = .open
  | _ => True

instance (ctx : Ctx cfg) : ∀ input, Decidable (connAllowed ctx input)
  | .connect => inferInstanceAs (Decidable (_ ∧ _))
  | .wake _ => inferInstanceAs (Decidable (_ = _))
  | .arrive _ => inferInstanceAs (Decidable (_ = _))
  | .timeouts => inferInstanceAs (Decidable (_ = _))
  | .send _ => .isTrue trivial
  | .read => .isTrue trivial
  | .close => .isTrue trivial
  | .environment _ => .isTrue trivial

/-- The slot is allocated for RDP, and the node has no other RDP connection. -/
structure Ctx.Fresh (ctx : Ctx cfg) : Prop where
  connState : ctx.conn.state = .open
  rdp : ctx.conn.idin.has cspFRdp = true
  state : ctx.conn.rdp.state = .closed
  txQueue : ctx.stack.txQueue.items = []
  rxQueue : ctx.stack.rxQueue.items = []

def connMachine (cfg : Config) : Machine (Ctx cfg) (ConnInput cfg) where
  initial := Ctx.Fresh
  step := connStep
  allowed := connAllowed

instance (ctx : Ctx cfg) (input : ConnInput cfg) : Decidable ((connMachine cfg).allowed ctx input) :=
  inferInstanceAs (Decidable (connAllowed ctx input))

/-- The slot is in use for an RDP connection. -/
structure Ctx.OpenRdp (ctx : Ctx cfg) : Prop where
  connState : ctx.conn.state = .open
  rdp : ctx.conn.idin.has cspFRdp = true

theorem Ctx.OpenRdp.uses {ctx : Ctx cfg} (openRdp : ctx.OpenRdp) : ctx.conn.usesRdp = true := by
  simp [Conn.usesRdp, openRdp.rdp]

theorem Ctx.Helps.openRdp {ctx after : Ctx cfg} (helps : ctx.Helps after) (openRdp : ctx.OpenRdp) :
    after.OpenRdp := by
  obtain ⟨_, _, _, _, _, _, _, _, _, rfl⟩ := helps
  exact ⟨openRdp.connState, openRdp.rdp⟩

/-! ## Concrete packets -/

/-- A received RDP packet with this header and body. -/
def rdpSegment (flags : UInt8) (seqNr ackNr : UInt16) (body : List UInt8) : Packet :=
  setRdpHeader
    { (default : Packet) with
      buf := 100
      length := UInt16.ofNat (body.length + 5)
      id := { (default : CspId) with flags := cspFRdp }
      mem := writeBytes (fun _ => 0) dataAt body }
    flags seqNr ackNr

/-- A SYN with a window of four segments. -/
def synSegment (seqNr : UInt16) : Packet :=
  rdpSegment rdpSyn seqNr 0 ([0, 0, 0, 4] ++ List.replicate 20 0)

/-- A packet of the user before RDP adds its header. -/
def userPacket (payload : List UInt8) : Packet :=
  { (default : Packet) with
    buf := 101
    length := UInt16.ofNat payload.length
    mem := writeBytes (fun _ => 0) dataAt payload }

/-- An RDP slot that waits for a SYN on an idle node. -/
def freshServer : Ctx cfg :=
  { conn := { (default : Conn cfg) with
      state := .open
      idin := { (default : CspId) with flags := cspFRdp }
      idout := { (default : CspId) with flags := cspFRdp } }
    stack := Stack.init (Io.init cfg (fun _ => default) [] []) }

theorem freshServer_fresh : (freshServer : Ctx cfg).Fresh :=
  ⟨rfl, (by decide : CspId.has { (default : CspId) with flags := cspFRdp } cspFRdp = true), rfl, rfl, rfl⟩

end Libcsp

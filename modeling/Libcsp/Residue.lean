/-
This file shows which calls do not read the numbers that the last connection has left in a slot.
-/
import Libcsp.Client

namespace Libcsp

variable {cfg : Config}

/-- `csp_connect` sets all other fields of the RDP part. -/
structure Residue where
  rcvCur : UInt16
  rcvIrs : UInt16
  rcvLsa : UInt16

/-- The slot has these numbers from its last connection. -/
def Conn.leave (conn : Conn cfg) (residue : Residue) : Conn cfg :=
  { conn with rdp := { conn.rdp with
      rcvCur := residue.rcvCur, rcvIrs := residue.rcvIrs, rcvLsa := residue.rcvLsa } }

/-- The last connection has left these numbers. -/
def Conn.residue (conn : Conn cfg) : Residue := ⟨conn.rdp.rcvCur, conn.rdp.rcvIrs, conn.rdp.rcvLsa⟩

def Ctx.leave (ctx : Ctx cfg) (residue : Residue) : Ctx cfg := ⟨ctx.conn.leave residue, ctx.stack⟩

/-- The result of a call on such a slot. -/
def Residue.leave {Result : Type} (residue : Residue) (result : Result × Ctx cfg) : Result × Ctx cfg :=
  (result.1, result.2.leave residue)

def RdpBranch.leave (branch : RdpBranch cfg) (residue : Residue) : RdpBranch cfg :=
  { branch with ctx := branch.ctx.leave residue }

@[simp] theorem Conn.leave_index (conn : Conn cfg) (residue : Residue) : (conn.leave residue).index = conn.index := rfl

/-- No buffer is free for a control message. -/
def Ctx.NoReply (ctx : Ctx cfg) : Prop := (bufferGet ctx.stack.io.pool 20).1 = none

instance (ctx : Ctx cfg) : Decidable ctx.NoReply := inferInstanceAs (Decidable (_ = none))

variable (residue : Residue)

/-! ## Control messages -/

/-- A message without ACK notes no acknowledgement. -/
theorem rdpSendCmpFinish_leave (conn : Conn cfg) (stack : Stack cfg) (packet : Packet) {flags : UInt8}
    (plain : flags &&& rdpAck = 0) (ackNr : UInt16) :
    rdpSendCmpFinish ⟨conn.leave residue, stack⟩ packet flags ackNr =
      (rdpSendCmpFinish ⟨conn, stack⟩ packet flags ackNr).leave residue := by
  have noAck : (flags &&& rdpAck != 0) = false := by simp [plain]
  simp only [rdpSendCmpFinish, noAck]
  rfl

theorem rdpSendCmpPacket_leave (ctx : Ctx cfg) (packet : Packet) {flags : UInt8} (plain : flags &&& rdpAck = 0)
    (seqNr ackNr : UInt16) :
    rdpSendCmpPacket (ctx.leave residue) packet flags seqNr ackNr =
      residue.leave (rdpSendCmpPacket ctx packet flags seqNr ackNr) := by
  simp only [rdpSendCmpPacket, Ctx.leave, Conn.leave_index]
  cases rdpHeaderAdd cfg packet with
  | none => rfl
  | some framed =>
      simp only
      split
      · generalize bufferClone ctx.stack.io.pool (some (cmpPacket ctx.stack framed flags seqNr ackNr)) = cloned
        obtain ⟨_ | copy, pool⟩ := cloned
        · rfl
        · simp only [rdpSendCmpFinish_leave residue _ _ _ plain]
          rfl
      · simp only [rdpSendCmpFinish_leave residue _ _ _ plain]
        rfl

theorem rdpSendSyn_leave (ctx : Ctx cfg) : rdpSendSyn (ctx.leave residue) = residue.leave (rdpSendSyn ctx) := by
  simp only [rdpSendSyn, Ctx.leave]
  generalize bufferGet ctx.stack.io.pool 100 = got
  obtain ⟨_ | packet, pool⟩ := got
  · rfl
  · exact rdpSendCmpPacket_leave residue { ctx with stack := { ctx.stack with io := { ctx.stack.io with pool } } }
      { packet with length := 24, mem := putSynOptions ctx.stack.options packet.mem } (by decide)
      ctx.conn.rdp.sndIss 0

/-- Without a buffer, the numbers of the message do not matter. -/
theorem rdpSendCmp_noReply {ctx : Ctx cfg} (noReply : ctx.NoReply) (flags : UInt8) (seqNr ackNr : UInt16) :
    rdpSendCmp ctx none flags seqNr ackNr =
      (.nomem, { ctx with stack := { ctx.stack with io := { ctx.stack.io with
        pool := (bufferGet ctx.stack.io.pool 20).2 } } }) := by
  rw [Ctx.NoReply] at noReply
  simp only [rdpSendCmp]
  generalize bufferGet ctx.stack.io.pool 20 = got at noReply
  obtain ⟨packet, pool⟩ := got
  subst noReply
  rfl

/-! ## Close -/

theorem rdpEnterCloseWait_leave {ctx : Ctx cfg} {sendRst : Bool} (silent : sendRst = true → ctx.NoReply) :
    rdpEnterCloseWait (ctx.leave residue) sendRst = (rdpEnterCloseWait ctx sendRst).leave residue := by
  cases sendRst with
  | false => rfl
  | true =>
      have noReply := silent rfl
      simp only [rdpEnterCloseWait, if_true]
      rw [rdpSendCmp_noReply (by exact noReply), rdpSendCmp_noReply (by exact noReply)]
      rfl

/-- The close sends no RESET. -/
def Ctx.Silent (ctx : Ctx cfg) : Prop :=
  ctx.conn.rdp.state = .closed ∨ ctx.conn.rdp.state = .closeWait ∨ ctx.NoReply

theorem rdpBeginClose_leave {ctx : Ctx cfg} (closedBy : UInt8) {sendRst : Bool}
    (silent : sendRst = true → ctx.conn.rdp.state = .closeWait ∨ ctx.NoReply) :
    rdpBeginClose (ctx.leave residue) closedBy sendRst = (rdpBeginClose ctx closedBy sendRst).leave residue := by
  by_cases waits : ctx.conn.rdp.state = .closeWait
  · have waits' : (ctx.leave residue).conn.rdp.state = .closeWait := waits
    rw [rdpBeginClose, rdpBeginClose, if_pos waits, if_pos waits']
    rfl
  · have waits' : ¬(ctx.leave residue).conn.rdp.state = .closeWait := waits
    rw [rdpBeginClose, rdpBeginClose, if_neg waits, if_neg waits']
    exact @rdpEnterCloseWait_leave cfg residue
      { ctx with conn.rdp.closedBy := ctx.conn.rdp.closedBy ||| closedBy } sendRst fun sends =>
        (silent sends).resolve_left waits

theorem rdpCloseInternal_leave {ctx : Ctx cfg} (closedBy : UInt8) {sendRst : Bool}
    (silent : sendRst = true → ctx.Silent) :
    rdpCloseInternal (ctx.leave residue) closedBy sendRst =
      residue.leave (rdpCloseInternal ctx closedBy sendRst) := by
  rw [rdpCloseInternal_eq, rdpCloseInternal_eq]
  by_cases closed : ctx.conn.rdp.state = .closed
  · have closed' : (ctx.leave residue).conn.rdp.state = .closed := closed
    rw [if_pos closed, if_pos closed']
    rfl
  · have closed' : ¬(ctx.leave residue).conn.rdp.state = .closed := closed
    rw [if_neg closed, if_neg closed', rdpBeginClose_leave residue closedBy fun sends =>
      (silent sends).resolve_left closed]
    generalize rdpBeginClose ctx closedBy sendRst = after
    by_cases all : after.conn.rdp.closedBy = rdpClosedByAll
    · have all' : (after.leave residue).conn.rdp.closedBy = rdpClosedByAll := all
      rw [if_neg (not_not_intro all), if_neg (not_not_intro all')]
      rfl
    · have all' : (after.leave residue).conn.rdp.closedBy ≠ rdpClosedByAll := all
      rw [if_pos all, if_pos all']
      rfl

theorem connRelease_leave (ctx : Ctx cfg) : connRelease (ctx.leave residue) = (connRelease ctx).leave residue := by
  cases rdp : ctx.conn.idin.has cspFRdp with
  | true =>
      have rdp' : (ctx.leave residue).conn.idin.has cspFRdp = true := rdp
      simp only [connRelease, connFlushRxQueue, rdp, rdp', if_true]
      rfl
  | false =>
      have rdp' : (ctx.leave residue).conn.idin.has cspFRdp = false := rdp
      simp only [connRelease, connFlushRxQueue, rdp, rdp', Bool.false_eq_true, if_false]
      rfl

theorem connClose_leave {ctx : Ctx cfg} (closedBy : UInt8) (silent : ctx.Silent) :
    connClose (ctx.leave residue) closedBy = (connClose ctx closedBy).leave residue := by
  have closed := @rdpCloseInternal_leave cfg residue ctx closedBy true fun _ => silent
  by_cases free : ctx.conn.state = .closed
  · have free' : (ctx.leave residue).conn.state = .closed := free
    rw [connClose_closed _ _ free, connClose_closed _ _ free']
  · have free' : ¬(ctx.leave residue).conn.state = .closed := free
    cases uses : ctx.conn.usesRdp with
    | true =>
        have uses' : (ctx.leave residue).conn.usesRdp = true := uses
        simp only [connClose, free, free', uses, uses', if_false, if_true, rdpClose, closed]
        generalize rdpCloseInternal ctx closedBy true = result
        obtain ⟨err, after⟩ := result
        cases err with
        | again => rfl
        | _ => exact connRelease_leave residue after
    | false =>
        have uses' : (ctx.leave residue).conn.usesRdp = false := uses
        simp only [connClose, free, free', uses, uses', Bool.false_eq_true, if_false]
        exact connRelease_leave residue ctx

/-! ## The first calls of a connection -/

/-- An attempt behind the choice of its number. -/
def rdpConnectSyn (ctx : Ctx cfg) : Option CspErr × Ctx cfg :=
  match rdpSendSyn ctx with
  | (.none, ctx) => (none, ctx)
  | (_, ctx) => (some .timedout, (rdpCloseInternal ctx rdpClosedByProtocol false).2)

theorem rdpConnectAttempt_early {ctx : Ctx cfg} (early : ctx.conn.rdp.state ≠ .open) :
    rdpConnectAttempt ctx =
      rdpConnectSyn { ctx with conn.rdp := rdpNewAttempt cfg ctx.stack.now ctx.conn.rdp } := if_neg early

theorem rdpConnectSyn_leave (ctx : Ctx cfg) :
    rdpConnectSyn (ctx.leave residue) = residue.leave (rdpConnectSyn ctx) := by
  rw [rdpConnectSyn, rdpConnectSyn, rdpSendSyn_leave]
  generalize rdpSendSyn ctx = result
  obtain ⟨err, after⟩ := result
  have closed := @rdpCloseInternal_leave cfg residue after rdpClosedByProtocol false (by simp)
  cases err with
  | none => rfl
  | _ => exact congrArg (fun result => (some CspErr.timedout, result.2)) closed

theorem rdpConnectAttempt_leave {ctx : Ctx cfg} (early : ctx.conn.rdp.state ≠ .open) :
    rdpConnectAttempt (ctx.leave residue) = residue.leave (rdpConnectAttempt ctx) := by
  have early' : (ctx.leave residue).conn.rdp.state ≠ .open := early
  rw [rdpConnectAttempt_early early, rdpConnectAttempt_early early']
  exact rdpConnectSyn_leave residue { ctx with conn.rdp := rdpNewAttempt cfg ctx.stack.now ctx.conn.rdp }

/-- `csp_rdp_connect` sets the rest of the RDP part. -/
theorem rdpConnectStart_residue {first second : Conn cfg} (stack : Stack cfg)
    (same : second = { first with rdp := second.rdp }) (closedBy : second.rdp.closedBy = first.rdp.closedBy)
    (early : first.rdp.state ≠ .open) (early' : second.rdp.state ≠ .open) :
    rdpConnectStart ⟨second, stack⟩ = second.residue.leave (rdpConnectStart ⟨first, stack⟩) := by
  rw [rdpConnectStart, rdpConnectStart, rdpConnectAttempt_early (by exact early'),
    rdpConnectAttempt_early (by exact early)]
  refine (congrArg rdpConnectSyn ?_).trans (rdpConnectSyn_leave second.residue _)
  obtain ⟨_, _, _, _, _, _, _, _, _, _, ⟨_, _, _, _, _, _, _, _, _, _, _, _, _, _, _, _⟩, _⟩ := second
  obtain rfl := closedBy
  simp only [Conn.mk.injEq] at same
  obtain ⟨rfl, rfl, rfl, rfl, rfl, rfl, rfl, rfl, rfl, rfl, _, rfl⟩ := same
  rfl

theorem rdpConnectWake_leave (ctx : Ctx cfg) (retry : Bool) :
    rdpConnectWake (ctx.leave residue) retry = residue.leave (rdpConnectWake ctx retry) := by
  have closed := @rdpCloseInternal_leave cfg residue { ctx with conn.rdp.txWait := false } rdpClosedByProtocol false
    (by simp)
  have woken : (ctx.leave residue).conn.rdp.txWait = ctx.conn.rdp.txWait := rfl
  have state : (ctx.leave residue).conn.rdp.state = ctx.conn.rdp.state := rfl
  simp only [rdpConnectWake, woken, state]
  by_cases opened : (ctx.conn.rdp.txWait && decide (ctx.conn.rdp.state = .open)) = true
  · rw [if_pos opened, if_pos opened]
    rfl
  · rw [if_neg opened, if_neg opened]
    by_cases retries : (ctx.conn.rdp.txWait && decide (ctx.conn.rdp.state = .synSent) && retry) = true
    · rw [if_pos retries, if_pos retries]
      rw [Bool.and_eq_true, Bool.and_eq_true, decide_eq_true_eq] at retries
      exact @rdpConnectAttempt_leave cfg residue
        ⟨{ ctx.conn with rdp.txWait := false }, rdpQueueFlush ctx.stack (some ctx.conn.index)⟩
        (by simp [retries.1.2])
    · rw [if_neg retries, if_neg retries]
      exact congrArg (fun result => (some CspErr.timedout, result.2)) closed

/-! ## Connections without an answer -/

/-- The handshake is not over: each state that sets the numbers of the slot is still ahead. -/
structure Ctx.Unanswered (ctx : Ctx cfg) : Prop where
  rdp : ctx.conn.idin.has cspFRdp = true
  client : ctx.conn.destSocket = none
  early : ctx.conn.rdp.state ≠ .open ∧ ctx.conn.rdp.state ≠ .synRcvd
  inUse : ctx.conn.state = .open → ctx.conn.rdp.state ≠ .closed

/-- The packet is refused with a message that carries `rcv_cur`. -/
def Ctx.Refuses (ctx : Ctx cfg) (packet : Packet) : Prop :=
  packet.hasRdp rdpRst = false ∧
    (ctx.conn.rdp.state = .synSent ∧ (packet.hasRdp rdpSyn && packet.hasRdp rdpAck) = false ∨
      ctx.conn.rdp.state = .closeWait ∧ packet.hasRdp rdpSyn = false ∧ packet.hasRdp rdpAck = true ∧
        rdpAckValid ctx.conn.rdp packet.ackNr = true)

/-- The connection neither compares `rcv_cur` with the number of the packet nor answers with it. -/
structure Ctx.FreshArrival (ctx : Ctx cfg) (packet : Packet) : Prop where
  rst : ctx.conn.rdp.state = .synSent → packet.hasRdp rdpRst = true →
    rstInSequence ctx.conn.rdp packet.header = false
  refused : ctx.Refuses packet → ctx.NoReply

theorem Ctx.Unanswered.states {ctx : Ctx cfg} (unanswered : ctx.Unanswered) (inUse : ctx.conn.state = .open) :
    ctx.conn.rdp.state = .synSent ∨ ctx.conn.rdp.state = .closeWait := by
  have closed := unanswered.inUse inUse
  obtain ⟨opened, received⟩ := unanswered.early
  cases state : ctx.conn.rdp.state with
  | synSent => exact .inl rfl
  | closeWait => exact .inr rfl
  | closed => exact absurd state closed
  | synRcvd => exact absurd state received
  | «open» => exact absurd state opened

/-- All that matters are the states, the flags, and the socket. -/
theorem Ctx.Unanswered.of_same {ctx after : Ctx cfg} (unanswered : ctx.Unanswered)
    (idin : after.conn.idin = ctx.conn.idin) (destSocket : after.conn.destSocket = ctx.conn.destSocket)
    (connState : after.conn.state = ctx.conn.state) (state : after.conn.rdp.state = ctx.conn.rdp.state) :
    after.Unanswered := by
  refine ⟨idin ▸ unanswered.rdp, destSocket.trans unanswered.client, state ▸ unanswered.early, ?_⟩
  rw [connState, state]
  exact unanswered.inUse

/-- The close of a connection without an answer leaves it without one. -/
theorem connClose_unanswered {ctx : Ctx cfg} (rdp : ctx.conn.idin.has cspFRdp = true)
    (client : ctx.conn.destSocket = none) (early : ctx.conn.rdp.state ≠ .open ∧ ctx.conn.rdp.state ≠ .synRcvd)
    (closedBy : UInt8) : (connClose ctx closedBy).Unanswered := by
  have uses : ctx.conn.usesRdp = true := by simp [Conn.usesRdp, rdp]
  rcases connClose_cases ctx closedBy with ⟨free, same⟩ |
    ⟨_, ⟨_, _, _, _, _, _, _, _, _, same⟩ |
      ⟨_, _, ⟨_, ⟨_, _, _, _, _, _, _, _, _, same⟩, _⟩, _⟩ | ⟨plain, _⟩⟩
  · rw [same]
    exact ⟨rdp, client, early, fun inUse => absurd (free.symm.trans inUse) (by simp)⟩
  · rw [same]
    exact ⟨rdp, client, ⟨by simp, by simp⟩, fun _ => by simp⟩
  · rw [same]
    exact ⟨rdp, client, ⟨by simp, by simp⟩, fun inUse => by cases inUse⟩
  · rw [uses] at plain
    cases plain

theorem connEnqueuePacket_leave (conn : Conn cfg) (packet : Option Packet) :
    connEnqueuePacket (conn.leave residue) packet =
      ((connEnqueuePacket conn packet).1, (connEnqueuePacket conn packet).2.leave residue) := by
  have rxQueue : (conn.leave residue).rxQueue = conn.rxQueue := rfl
  simp only [connEnqueuePacket, rxQueue]
  cases conn.rxQueue.enqueue packet with
  | none => rfl
  | some queue => rfl

/-- A branch of the state machine without an answer leaves the packet to one of the first two labels, and a close
there sends no RESET. -/
structure RdpBranch.Waits (branch : RdpBranch cfg) : Prop where
  unanswered : branch.ctx.Unanswered
  exit : branch.exit = .discardOpen false ∨
    (∃ closedBy, branch.exit = .discardClose closedBy) ∧ branch.ctx.Silent

theorem rdpFinish_leave {branch : RdpBranch cfg} (waits : branch.Waits) :
    rdpFinish (branch.leave residue) = residue.leave (rdpFinish branch) ∧ (rdpFinish branch).1 = false ∧
      (rdpFinish branch).2.Unanswered := by
  obtain ⟨exit, packet, ctx⟩ := branch
  obtain ⟨unanswered, exit⟩ := waits
  rcases exit with rfl | ⟨⟨closedBy, rfl⟩, silent⟩
  · exact ⟨rfl, rfl, unanswered.of_same rfl rfl rfl rfl⟩
  · have client : ctx.conn.destSocket = none := unanswered.client
    have client' : (ctx.leave residue).conn.destSocket = none := client
    have closed := connClose_unanswered unanswered.rdp client unanswered.early closedBy
    have left := connClose_leave residue closedBy silent
    simp only [rdpFinish, RdpBranch.leave, rdpDiscardClose, client, client', Option.isNone_none, if_true, left]
    obtain ⟨rxQueue, rxLog, woken⟩ := connEnqueuePacket_changes (connClose ctx closedBy).conn none
    refine ⟨?_, trivial, ?_⟩
    · have enqueued := connEnqueuePacket_leave residue (connClose ctx closedBy).conn none
      simp only [Ctx.leave, enqueued]
      rfl
    · rw [woken]
      exact closed.of_same rfl rfl rfl rfl

theorem rdpRstAck_leave (ctx : Ctx cfg) (header : RdpHeader) :
    rdpRstAck (ctx.leave residue) header = (rdpRstAck ctx header).leave residue := by
  unfold rdpRstAck
  split
  · rfl
  · rfl

theorem rdpRstAck_unanswered {ctx : Ctx cfg} (unanswered : ctx.Unanswered) (header : RdpHeader) :
    (rdpRstAck ctx header).Unanswered := by
  unfold rdpRstAck
  split
  · exact unanswered.of_same rfl rfl rfl rfl
  · exact unanswered

/-- The two branches of a slot with other numbers. -/
structure RdpBranch.Leaves (residue : Residue) (branch left : RdpBranch cfg) : Prop extends branch.Waits where
  same : left = branch.leave residue

section Arrivals
variable {ctx : Ctx cfg} {packet : Packet} (unanswered : ctx.Unanswered) (fresh : ctx.FreshArrival packet)
include unanswered fresh

theorem rdpRecvRst_leave (inUse : ctx.conn.state = .open) (fresh' : (ctx.leave residue).FreshArrival packet)
    (rst : packet.hasRdp rdpRst = true) (framed : Packet) :
    RdpBranch.Leaves residue (rdpRecvRst ctx packet.header framed)
      (rdpRecvRst (ctx.leave residue) packet.header framed) := by
  have acked := rdpRstAck_unanswered unanswered packet.header
  have left := rdpRstAck_leave residue ctx packet.header
  have state := (rdpRstAck_serves ctx packet.header).rdpState
  have rcvCur : (rdpRstAck ctx packet.header).conn.rdp.rcvCur = ctx.conn.rdp.rcvCur := by
    unfold rdpRstAck
    split <;> rfl
  rcases unanswered.states inUse with sent | waits
  · have apart : rstInSequence (rdpRstAck ctx packet.header).conn.rdp packet.header = false := by
      rw [rstInSequence, rcvCur]
      exact fresh.rst sent rst
    have apart' : rstInSequence ((rdpRstAck ctx packet.header).leave residue).conn.rdp packet.header = false :=
      fresh'.rst sent rst
    have sent' : ((rdpRstAck ctx packet.header).leave residue).conn.rdp.state = .synSent := state.trans sent
    simp only [rdpRecvRst, left, state.trans sent, sent', apart, apart', Bool.false_eq_true, if_false]
    exact ⟨⟨acked, .inl rfl⟩, rfl⟩
  · have waits' : ((rdpRstAck ctx packet.header).leave residue).conn.rdp.state = .closeWait := state.trans waits
    simp only [rdpRecvRst, left, state.trans waits, waits']
    exact ⟨⟨acked, .inr ⟨⟨_, rfl⟩, .inr (.inl (state.trans waits))⟩⟩, rfl⟩

theorem rdpRecvSynSent_leave (sent : ctx.conn.rdp.state = .synSent) (rst : packet.hasRdp rdpRst = false)
    (other : (packet.hasRdp rdpSyn && packet.hasRdp rdpAck) = false) (framed : Packet) :
    RdpBranch.Leaves residue (rdpRecvSynSent ctx packet.header framed)
      (rdpRecvSynSent (ctx.leave residue) packet.header framed) := by
  have noReply := fresh.refused ⟨rst, .inl ⟨sent, other⟩⟩
  have noReply' : (ctx.leave residue).NoReply := noReply
  have other : (packet.header.has rdpSyn && packet.header.has rdpAck) = false := other
  simp only [rdpRecvSynSent, other, Bool.false_eq_true, if_false]
  cases packet.header.has rdpAck with
  | true =>
      simp only [if_true, rdpSendCmp_noReply noReply, rdpSendCmp_noReply noReply']
      exact ⟨⟨unanswered.of_same rfl rfl rfl rfl, .inl rfl⟩, rfl⟩
  | false =>
      simp only [Bool.false_eq_true, if_false]
      exact ⟨⟨unanswered, .inr ⟨⟨_, rfl⟩, .inr (.inr noReply)⟩⟩, rfl⟩

theorem rdpRecvCloseWait_leave (waits : ctx.conn.rdp.state = .closeWait) (rst : packet.hasRdp rdpRst = false)
    (framed : Packet) :
    RdpBranch.Leaves residue (rdpRecvCloseWait ctx packet.header framed)
      (rdpRecvCloseWait (ctx.leave residue) packet.header framed) := by
  have left : RdpBranch.Leaves residue ⟨.discardOpen false, framed, ctx⟩
      ⟨.discardOpen false, framed, ctx.leave residue⟩ := ⟨⟨unanswered, .inl rfl⟩, rfl⟩
  have valid : rdpAckValid (ctx.leave residue).conn.rdp packet.header.ackNr =
    rdpAckValid ctx.conn.rdp packet.header.ackNr := rfl
  simp only [rdpRecvCloseWait, valid]
  cases plain : packet.header.has rdpSyn || !packet.header.has rdpAck with
  | true => exact left
  | false =>
      simp only [Bool.false_eq_true, if_false]
      cases acked : rdpAckValid ctx.conn.rdp packet.header.ackNr with
      | false => exact left
      | true =>
          rw [Bool.or_eq_false_iff, Bool.not_eq_false'] at plain
          have noReply := fresh.refused ⟨rst, .inr ⟨waits, plain.1, plain.2, acked⟩⟩
          simp only [Bool.not_true, Bool.false_eq_true, if_false]
          rw [rdpSendCmp_noReply (by exact noReply), rdpSendCmp_noReply (by exact noReply)]
          exact ⟨⟨unanswered.of_same rfl rfl rfl rfl, .inl rfl⟩, rfl⟩

theorem rdpNewPacketBody_leave (inUse : ctx.conn.state = .open) (fresh' : (ctx.leave residue).FreshArrival packet)
    (other : (packet.hasRdp rdpSyn && packet.hasRdp rdpAck) = false ∨ packet.hasRdp rdpRst = true ∨
      ctx.conn.rdp.state = .closeWait) :
    RdpBranch.Leaves residue (rdpNewPacketBody ctx packet) (rdpNewPacketBody (ctx.leave residue) packet) := by
  have state : (ctx.leave residue).conn.rdp.state = ctx.conn.rdp.state := rfl
  have header : packet.header.has rdpRst = packet.hasRdp rdpRst := rfl
  simp only [rdpNewPacketBody, header]
  cases rst : packet.hasRdp rdpRst with
  | true => exact rdpRecvRst_leave residue unanswered fresh inUse fresh' rst _
  | false =>
      simp only [Bool.false_eq_true, if_false, state]
      rcases unanswered.states inUse with sent | waits
      · simp only [sent]
        refine rdpRecvSynSent_leave residue unanswered fresh sent rst ?_ _
        rcases other with other | reset | waits
        · exact other
        · rw [rst] at reset
          cases reset
        · rw [sent] at waits
          cases waits
      · simp only [waits]
        exact rdpRecvCloseWait_leave residue unanswered fresh waits rst _

end Arrivals

/-- The answer to the SYN sets the three numbers. -/
theorem rdpNewPacket_answered {ctx : Ctx cfg} {packet : Packet} (sent : ctx.conn.rdp.state = .synSent)
    (rst : packet.hasRdp rdpRst = false) (answer : (packet.hasRdp rdpSyn && packet.hasRdp rdpAck) = true) :
    rdpNewPacket (ctx.leave residue) packet = rdpNewPacket ctx packet := by
  have sent' : (ctx.leave residue).conn.rdp.state = .synSent := sent
  have rst : packet.header.has rdpRst = false := rst
  have answer : (packet.header.has rdpSyn && packet.header.has rdpAck) = true := answer
  simp only [rdpNewPacket, rdpNewPacketBody, rst, sent, sent', Bool.false_eq_true, if_false, rdpRecvSynSent, answer,
    if_true]
  rfl

theorem routeRdp_leave {ctx : Ctx cfg} {packet : Packet} (unanswered : ctx.Unanswered) (inUse : ctx.conn.state = .open)
    (fresh : ctx.FreshArrival packet) (fresh' : (ctx.leave residue).FreshArrival packet) :
    routeRdp (ctx.leave residue) packet = routeRdp ctx packet ∨
      routeRdp (ctx.leave residue) packet = (routeRdp ctx packet).leave residue ∧ (routeRdp ctx packet).Unanswered := by
  have keeps : (packet.hasRdp rdpSyn && packet.hasRdp rdpAck) = false ∨ packet.hasRdp rdpRst = true ∨
      ctx.conn.rdp.state = .closeWait →
        routeRdp (ctx.leave residue) packet = (routeRdp ctx packet).leave residue ∧
          (routeRdp ctx packet).Unanswered := by
    intro other
    obtain ⟨waits, body⟩ := rdpNewPacketBody_leave residue unanswered fresh inUse fresh' other
    obtain ⟨left, stays, after⟩ := rdpFinish_leave residue waits
    rw [← body] at left
    simp only [routeRdp, rdpNewPacket, left, Residue.leave]
    generalize rdpFinish (rdpNewPacketBody ctx packet) = result at stays after
    obtain ⟨close, last⟩ := result
    obtain rfl : close = false := stays
    exact ⟨rfl, after⟩
  rcases unanswered.states inUse with sent | waits
  · cases rst : packet.hasRdp rdpRst with
    | true => exact .inr (keeps (.inr (.inl rst)))
    | false =>
        cases answer : packet.hasRdp rdpSyn && packet.hasRdp rdpAck with
        | false => exact .inr (keeps (.inl answer))
        | true =>
            left
            rw [routeRdp, rdpNewPacket_answered residue sent rst answer, routeRdp]
  · exact .inr (keeps (.inr (.inr waits)))

theorem routePlain_leave {ctx : Ctx cfg} (unanswered : ctx.Unanswered) (packet : Packet) :
    routePlain (ctx.leave residue) packet = (routePlain ctx packet).leave residue ∧
      (routePlain ctx packet).Unanswered := by
  have enqueued := connEnqueuePacket_leave residue ctx.conn (some packet)
  obtain ⟨rxQueue, rxLog, changed⟩ := connEnqueuePacket_changes ctx.conn (some packet)
  simp only [routePlain, Ctx.leave, enqueued]
  generalize connEnqueuePacket ctx.conn (some packet) = result at changed
  obtain ⟨err, conn⟩ := result
  obtain rfl : conn = { ctx.conn with rxQueue, rxLog } := changed
  have client : ctx.conn.destSocket = none := unanswered.client
  cases err with
  | none =>
      simp only
      rw [routePost_client (by exact client), routePost_client (by exact client)]
      exact ⟨rfl, unanswered.of_same rfl rfl rfl rfl⟩
  | _ => exact ⟨rfl, unanswered.of_same rfl rfl rfl rfl⟩

theorem routeDeliver_leave {ctx : Ctx cfg} {packet : Packet} (unanswered : ctx.Unanswered)
    (inUse : ctx.conn.state = .open) (fresh : packet.id.has cspFRdp = true → ctx.FreshArrival packet)
    (fresh' : packet.id.has cspFRdp = true → (ctx.leave residue).FreshArrival packet) :
    routeDeliver (ctx.leave residue) packet = routeDeliver ctx packet ∨
      routeDeliver (ctx.leave residue) packet = (routeDeliver ctx packet).leave residue ∧
        (routeDeliver ctx packet).Unanswered := by
  unfold routeDeliver
  split
  · rename_i rdp
    exact routeRdp_leave residue unanswered inUse (fresh rdp) (fresh' rdp)
  · exact .inr (routePlain_leave residue unanswered packet)

/-! ## Timers -/

/-- A scan for the connection stops at once without a packet of its own, and else it may look at all packets. -/
def Scanned (conn : Nat) (Fits : Packet → Prop) (items : List Packet) : Prop :=
  (∃ own ∈ items, own.conn = conn) → ∀ packet ∈ items, Fits packet

theorem Scanned.takes {conn : Nat} {Fits : Packet → Prop} {items after : List Packet} {packet : Packet}
    (scanned : Scanned conn Fits items) (tagged : ∀ packet, Fits packet → Fits (packet.tagged conn))
    (takes : SharedQueue.Takes Packet.conn conn (Packet.tagged conn) items (some packet) after) :
    Fits packet ∧ ∀ packet ∈ after, Fits packet := by
  have member := List.mem_of_find?_eq_some takes.find.symm
  have all := scanned ⟨packet, member, takes.own⟩
  exact ⟨all packet member, (takes.all tagged all).1⟩

/-- The segment is not sent again now. -/
def Conn.NotDue (conn : Conn cfg) (now : UInt32) (packet : Packet) : Prop :=
  rdpSeqBefore packet.seqNr conn.rdp.sndUna = true ∨ rdpTimedOut conn now packet = false

theorem rdpTimeoutLoop_leave (conn : Conn cfg) (count : Nat) {stack : Stack cfg}
    (scanned : Scanned conn.index (conn.NotDue stack.now) stack.txQueue.items) :
    rdpTimeoutLoop (conn.leave residue) count stack = rdpTimeoutLoop conn count stack := by
  induction count generalizing stack with
  | zero => rfl
  | succ count ih =>
      obtain ⟨found, queue, got, takes⟩ := rdpQueueTxGet_takes stack conn.index
      simp only [rdpTimeoutLoop, Conn.leave_index, got]
      cases found with
      | none => rfl
      | some packet =>
          obtain ⟨early, rest⟩ := scanned.takes (fun _ early => early) takes
          have acked : rdpSeqBefore packet.seqNr (conn.leave residue).rdp.sndUna =
            rdpSeqBefore packet.seqNr conn.rdp.sndUna := rfl
          have late : rdpTimedOut (conn.leave residue) stack.now packet = rdpTimedOut conn stack.now packet := rfl
          simp only [acked, late]
          cases before : rdpSeqBefore packet.seqNr conn.rdp.sndUna with
          | true => exact ih fun _ => rest
          | false =>
              have waits := early.resolve_left (by simp [before])
              obtain ⟨longer, same, items⟩ := rdpQueueTxAdd_room { stack with txQueue := queue } conn.index packet
                (room_of_takes takes)
              simp only [waits, Bool.false_eq_true, if_false, same]
              refine @ih { stack with txQueue := longer } fun _ other member => ?_
              rcases List.mem_append.mp (items ▸ member) with old | new
              · exact rest other old
              · rw [List.mem_singleton.mp new]
                exact early

/-- The scan finds no packet that follows `rcv_cur`. -/
theorem rdpRxFlushScan_leave (count : Nat) {ctx : Ctx cfg}
    (scanned : Scanned ctx.conn.index (fun packet => packet.hostSeqNr ≠ ctx.conn.rdp.rcvCur + 1)
      ctx.stack.rxQueue.items)
    (scanned' : Scanned ctx.conn.index (fun packet => packet.hostSeqNr ≠ residue.rcvCur + 1)
      ctx.stack.rxQueue.items) :
    rdpRxFlushScan count (ctx.leave residue) = residue.leave (rdpRxFlushScan count ctx) ∧
      (rdpRxFlushScan count ctx).1 = false := by
  induction count generalizing ctx with
  | zero => exact ⟨rfl, rfl⟩
  | succ count ih =>
      have rxQueue : (ctx.conn.leave residue).rxQueue = ctx.conn.rxQueue := rfl
      obtain ⟨found, queue, got, takes⟩ := rdpQueueRxGet_takes ctx.stack ctx.conn.index
      simp only [rdpRxFlushScan, Ctx.leave, Conn.leave_index, rxQueue, got]
      by_cases full : ctx.conn.rxQueue.free ≤ 2
      · simp only [full, if_true]
        exact ⟨rfl, trivial⟩
      · simp only [full, if_false]
        cases found with
        | none => exact ⟨rfl, rfl⟩
        | some packet =>
            obtain ⟨apart, rest⟩ := scanned.takes (fun _ apart => apart) takes
            obtain ⟨apart', rest'⟩ := scanned'.takes (fun _ apart => apart) takes
            have other : packet.hostSeqNr ≠ (ctx.conn.leave residue).rdp.rcvCur + 1 := apart'
            obtain ⟨longer, same, items⟩ := rdpQueueRxAdd_room { ctx.stack with rxQueue := queue } ctx.conn.index
              packet (room_of_takes takes)
            simp only [apart, other, if_false, same]
            refine @ih { ctx with stack := { ctx.stack with rxQueue := longer } } ?_ ?_
            · intro _ kept member
              rcases List.mem_append.mp (items ▸ member) with old | new
              · exact rest kept old
              · rw [List.mem_singleton.mp new]
                exact apart
            · intro _ kept member
              rcases List.mem_append.mp (items ▸ member) with old | new
              · exact rest' kept old
              · rw [List.mem_singleton.mp new]
                exact apart'

theorem rdpRxQueueFlush_leave {ctx : Ctx cfg}
    (scanned : Scanned ctx.conn.index (fun packet => packet.hostSeqNr ≠ ctx.conn.rdp.rcvCur + 1)
      ctx.stack.rxQueue.items)
    (scanned' : Scanned ctx.conn.index (fun packet => packet.hostSeqNr ≠ residue.rcvCur + 1)
      ctx.stack.rxQueue.items) :
    rdpRxQueueFlush (ctx.leave residue) = (rdpRxQueueFlush ctx).leave residue := by
  obtain ⟨left, stays⟩ := rdpRxFlushScan_leave residue ctx.stack.rxQueue.size scanned scanned'
  have size : (ctx.leave residue).stack.rxQueue.size = ctx.stack.rxQueue.size := rfl
  simp only [rdpRxQueueFlush, rdpRxFlushLoop, size, left, Residue.leave]
  generalize rdpRxFlushScan ctx.stack.rxQueue.size ctx = result at stays
  obtain ⟨passed, after⟩ := result
  obtain rfl : passed = false := stays
  rfl

/-- No segment goes out again with `rcv_cur`, and no stored packet is compared with it in vain. -/
structure Ctx.FreshTick (ctx : Ctx cfg) : Prop where
  tx : ctx.conn.rdp.state = .synSent →
    Scanned ctx.conn.index (ctx.conn.NotDue ctx.stack.now) ctx.stack.txQueue.items
  rx : ctx.conn.rdp.state = .synSent →
    Scanned ctx.conn.index (fun packet => packet.hostSeqNr ≠ ctx.conn.rdp.rcvCur + 1) ctx.stack.rxQueue.items

theorem rdpCheckTimeouts_leave {ctx : Ctx cfg} (unanswered : ctx.Unanswered) (inUse : ctx.conn.state = .open)
    (fresh : ctx.FreshTick) (fresh' : (ctx.leave residue).FreshTick) :
    rdpCheckTimeouts (ctx.leave residue) = (rdpCheckTimeouts ctx).leave residue ∧
      (rdpCheckTimeouts ctx).Unanswered := by
  have client : (ctx.leave residue).conn.destSocket = none := unanswered.client
  rw [rdpCheckTimeouts_client unanswered.client, rdpCheckTimeouts_client client]
  rcases unanswered.states inUse with sent | waits
  · have sent' : (ctx.leave residue).conn.rdp.state = .synSent := sent
    have loop := rdpTimeoutLoop_leave residue ctx.conn ctx.stack.txQueue.size (fresh.tx sent)
    have serves := rdpTimeoutPackets_serves ctx
    obtain ⟨_, _, changed⟩ := rdpTimeoutLoop_changes ctx.conn ctx.stack.txQueue.size ctx.stack
    have rxQueue : (rdpTimeoutLoop ctx.conn ctx.stack.txQueue.size ctx.stack).rxQueue = ctx.stack.rxQueue := by
      rw [changed]
    have idle : ∀ middle : Ctx cfg, middle.conn.rdp.state = .synSent → rdpTimeoutOpen middle = middle :=
      fun middle early => if_neg (by simp [early])
    have active : ¬ctx.conn.rdp.state = .closeWait := by simp [sent]
    have active' : ¬(ctx.leave residue).conn.rdp.state = .closeWait := active
    rw [if_neg active, if_neg active']
    refine ⟨?_, unanswered.of_same serves.idin serves.destSocket serves.connState serves.rdpState⟩
    rw [idle _ (by exact sent), idle _ (by exact sent')]
    have left : (⟨(ctx.leave residue).conn, rdpTimeoutLoop (ctx.leave residue).conn (ctx.leave residue).stack.txQueue.size
        (ctx.leave residue).stack⟩ : Ctx cfg) =
          Ctx.leave { ctx with stack := rdpTimeoutLoop ctx.conn ctx.stack.txQueue.size ctx.stack } residue :=
      congrArg (Ctx.mk _) loop
    rw [left]
    apply rdpRxQueueFlush_leave
    · rw [rxQueue]
      exact fresh.rx sent
    · rw [rxQueue]
      exact fresh'.rx sent'
  · have waits' : (ctx.leave residue).conn.rdp.state = .closeWait := waits
    have late : rdpConnTimedOut (ctx.leave residue) = rdpConnTimedOut ctx := rfl
    rw [if_pos waits, if_pos waits', late]
    split
    · exact ⟨connClose_leave residue _ (.inr (.inl waits)),
        connClose_unanswered unanswered.rdp unanswered.client unanswered.early _⟩
    · exact ⟨rfl, unanswered⟩

end Libcsp

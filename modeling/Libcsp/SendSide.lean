/-
This file states what the state machine does to the sending numbers of a connection.
-/
import Libcsp.ConnMachine

namespace Libcsp

variable {cfg : Config}

/-- The identity and the sending side of a connection. -/
structure SendView where
  index : Nat
  idin : CspId
  idout : CspId
  state : RdpState
  sndNxt : UInt16
  sndUna : UInt16
  sndIss : UInt16
  windowSize : UInt32
  deriving DecidableEq

def Conn.sendView (conn : Conn cfg) : SendView :=
  { index := conn.index
    idin := conn.idin
    idout := conn.idout
    state := conn.rdp.state
    sndNxt := conn.rdp.sndNxt
    sndUna := conn.rdp.sndUna
    sndIss := conn.rdp.sndIss
    windowSize := conn.rdp.windowSize }

abbrev Ctx.sendView (ctx : Ctx cfg) : SendView := ctx.conn.sendView

theorem Ctx.Helps.sendView {ctx after : Ctx cfg} (helps : ctx.Helps after) :
    after.sendView = ctx.sendView := by
  obtain ⟨_, _, _, _, _, _, _, _, _, rfl⟩ := helps
  rfl

/-- The state machine stores the acknowledgement of this header, outside of the state RDP_SYN_RCVD. -/
def storesAck (rdp : Rdp) (header : RdpHeader) : Bool :=
  if header.has rdpRst then header.has rdpAck
  else
    match rdp.state with
    | .closed => false
    | .synSent => header.has rdpSyn && header.has rdpAck
    | .synRcvd => false
    | .open =>
        !header.has rdpSyn && header.has rdpAck && rdpSeqValid rdp header.seqNr &&
          rdpAckValid rdp header.ackNr
    | .closeWait => !header.has rdpSyn && header.has rdpAck && rdpAckValid rdp header.ackNr

/-- One packet changes the sending side in one of these ways. -/
inductive SendStep (conn : Conn cfg) (header : RdpHeader) : SendView → Prop where
  | keeps : SendStep conn header conn.sendView
  | stores (stored : storesAck conn.rdp header = true) :
      SendStep conn header { conn.sendView with sndUna := header.ackNr + 1 }
  | leaves (state : RdpState) (left : state = .closeWait ∨ state = .closed) :
      SendStep conn header { conn.sendView with state }
  | storesAndLeaves (state : RdpState) (left : state = .closeWait ∨ state = .closed)
      (stored : storesAck conn.rdp header = true) :
      SendStep conn header { conn.sendView with state, sndUna := header.ackNr + 1 }
  | accepts (iss : UInt16) (windowSize : UInt32) (closed : conn.rdp.state = .closed) :
      SendStep conn header { conn.sendView with
        state := .synRcvd, sndNxt := iss + 1, sndUna := iss, sndIss := iss, windowSize }
  | connects (sent : conn.rdp.state = .synSent) (plain : header.has rdpRst = false)
      (stored : storesAck conn.rdp header = true) :
      SendStep conn header { conn.sendView with state := .open, sndUna := header.ackNr + 1 }
  | posts (received : conn.rdp.state = .synRcvd) (acked : header.ackNr = conn.rdp.sndIss) :
      SendStep conn header { conn.sendView with state := .open, sndUna := header.ackNr + 1 }

/-- A close of an open RDP connection leaves the open states. -/
theorem connClose_sendView {ctx : Ctx cfg} (openRdp : ctx.OpenRdp) (closedBy : UInt8) :
    ∃ state, (state = RdpState.closeWait ∨ state = .closed) ∧
      (connClose ctx closedBy).sendView = { ctx.sendView with state } := by
  rcases connClose_cases ctx closedBy with ⟨closed, _⟩ | ⟨_, ⟨_, _, _, _, _, _, _, _, _, same⟩ |
    ⟨_, _, ⟨_, ⟨_, _, _, _, _, _, _, _, _, same⟩, _⟩, _⟩ | ⟨plain, _⟩⟩
  · rw [openRdp.connState] at closed
    cases closed
  · exact ⟨.closeWait, .inl rfl, by rw [same]; rfl⟩
  · exact ⟨.closed, .inr rfl, by rw [same]; rfl⟩
  · rw [openRdp.uses] at plain
    cases plain

/-! ## One packet -/

theorem rdpFinish_discardOpen (ctx : Ctx cfg) (closeConnection : Bool) (packet : Packet) :
    (rdpFinish ⟨.discardOpen closeConnection, packet, ctx⟩).2.sendView = ctx.sendView := rfl

/-- A branch that discards its packet and closes leaves the open states. -/
theorem rdpFinish_discardClose {ctx : Ctx cfg} (openRdp : ctx.OpenRdp) (closedBy : UInt8)
    (packet : Packet) :
    ∃ state, (state = RdpState.closeWait ∨ state = .closed) ∧
      (rdpFinish ⟨.discardClose closedBy, packet, ctx⟩).2.sendView = { ctx.sendView with state } := by
  have closes : ∃ state, (state = RdpState.closeWait ∨ state = .closed) ∧
      (rdpDiscardClose ctx closedBy).sendView = { ctx.sendView with state } := by
    simp only [rdpDiscardClose]
    split
    · obtain ⟨state, left, same⟩ := connClose_sendView openRdp closedBy
      refine ⟨state, left, same ▸ ?_⟩
      obtain ⟨_, _, woken⟩ := connEnqueuePacket_changes (connClose ctx closedBy).conn none
      rw [woken]
      rfl
    · exact connClose_sendView openRdp _
  exact closes

/-- A RESET stores its acknowledgement first, whatever the state says. -/
theorem rdpRstAck_sendView {ctx : Ctx cfg} (openRdp : ctx.OpenRdp) (header : RdpHeader)
    (rst : header.has rdpRst = true) :
    (rdpRstAck ctx header).OpenRdp ∧
      ((rdpRstAck ctx header).sendView = ctx.sendView ∨
        (storesAck ctx.conn.rdp header = true ∧
          (rdpRstAck ctx header).sendView = { ctx.sendView with sndUna := header.ackNr + 1 })) := by
  unfold rdpRstAck
  split
  · rename_i ack
    exact ⟨⟨openRdp.connState, openRdp.rdp⟩, .inr ⟨by simpa [storesAck, rst] using ack, rfl⟩⟩
  · exact ⟨openRdp, .inl rfl⟩

theorem rdpRecvRst_sendStep {ctx : Ctx cfg} (openRdp : ctx.OpenRdp) (header : RdpHeader)
    (packet : Packet) (rst : header.has rdpRst = true) :
    SendStep ctx.conn header (rdpFinish (rdpRecvRst ctx header packet)).2.sendView := by
  obtain ⟨openRdp', view⟩ := rdpRstAck_sendView openRdp header rst
  have result : (rdpFinish (rdpRecvRst ctx header packet)).2.sendView = (rdpRstAck ctx header).sendView ∨
      ∃ state, (state = RdpState.closeWait ∨ state = .closed) ∧
        (rdpFinish (rdpRecvRst ctx header packet)).2.sendView =
          { (rdpRstAck ctx header).sendView with state } := by
    simp only [rdpRecvRst]
    generalize rdpRstAck ctx header = acked at openRdp'
    split
    · exact .inl rfl
    · exact .inr (rdpFinish_discardClose openRdp' _ packet)
    · split
      · have answers := (rdpSendCmp_answers
          { acked with conn := { acked.conn with
              timestamp := acked.stack.now, rdp := { acked.conn.rdp with state := .closeWait } } }
          none acked.conn.rdp.sndNxt acked.conn.rdp.rcvCur
          (by decide : (rdpAck ||| rdpRst) &&& rdpSyn = 0) (.inl rfl)).helps
        generalize (rdpSendCmp _ _ _ _ _).2 = answered at answers ⊢
        obtain ⟨state, left, same⟩ := rdpFinish_discardClose
          (answers.openRdp ⟨openRdp'.connState, openRdp'.rdp⟩)
          (if useRdpFastClose then rdpClosedByProtocol ||| rdpClosedByTimeout
            else rdpClosedByProtocol) packet
        exact .inr ⟨state, left, same.trans (by rw [answers.sendView]; rfl)⟩
      · exact .inl rfl
  rcases result with same | ⟨state, left, same⟩
  · rcases view with view | ⟨stored, view⟩
    · rw [same, view]
      exact .keeps
    · rw [same, view]
      exact .stores stored
  · rcases view with view | ⟨stored, view⟩
    · rw [same, view]
      exact .leaves state left
    · rw [same, view]
      exact .storesAndLeaves state left stored

theorem rdpRecvClosed_sendStep {ctx : Ctx cfg} (openRdp : ctx.OpenRdp) (header : RdpHeader)
    (packet : Packet) (closed : ctx.conn.rdp.state = .closed) :
    SendStep ctx.conn header (rdpFinish (rdpRecvClosed ctx header packet)).2.sendView := by
  simp only [rdpRecvClosed]
  split
  · have answers := (rdpSendCmp_answers ctx none ctx.conn.rdp.sndNxt ctx.conn.rdp.rcvCur
      (by decide : rdpRst &&& rdpSyn = 0) (.inl rfl)).helps
    generalize (rdpSendCmp _ _ _ _ _).2 = answered at answers ⊢
    obtain ⟨state, left, same⟩ :=
      rdpFinish_discardClose (answers.openRdp openRdp) rdpClosedByProtocol packet
    rw [same, answers.sendView]
    exact .leaves state left
  · have helps := rdpSendCmp_helps
      { ctx with conn := { ctx.conn with
          rdp := rdpAcceptSyn cfg ctx.conn.rdp ctx.stack.now header packet } }
      none (rdpAck ||| rdpSyn) (rdpAcceptSyn cfg ctx.conn.rdp ctx.stack.now header packet).sndIss
      (rdpAcceptSyn cfg ctx.conn.rdp ctx.stack.now header packet).rcvIrs
    generalize (rdpSendCmp _ _ _ _ _).2 = answered at helps ⊢
    rw [rdpFinish_discardOpen, helps.sendView]
    exact .accepts _ _ closed

theorem rdpRecvSynSent_sendStep {ctx : Ctx cfg} (openRdp : ctx.OpenRdp) (header : RdpHeader)
    (packet : Packet) (rst : header.has rdpRst = false) (sent : ctx.conn.rdp.state = .synSent) :
    SendStep ctx.conn header (rdpFinish (rdpRecvSynSent ctx header packet)).2.sendView := by
  simp only [rdpRecvSynSent]
  split
  · rename_i answered
    have helps := rdpSendCmp_helps
      { ctx with conn := { ctx.conn with rdp := { ctx.conn.rdp with
          rcvCur := header.seqNr
          rcvIrs := header.seqNr
          rcvLsa := header.seqNr - 1
          sndUna := header.ackNr + 1
          ackTimestamp := ctx.stack.now
          state := .open } } }
      none rdpAck ctx.conn.rdp.sndNxt header.seqNr
    generalize (rdpSendCmp _ _ _ _ _).2 = after at helps ⊢
    have view : ({ after with conn := { after.conn with
        rdp := { after.conn.rdp with txWait := true } } } : Ctx cfg).sendView = after.sendView := rfl
    rw [rdpFinish_discardOpen, view, helps.sendView]
    exact .connects sent rst (by simp only [storesAck, rst, sent]; exact answered)
  · split
    · have helps := rdpSendCmp_helps ctx none rdpRst ctx.conn.rdp.sndNxt ctx.conn.rdp.rcvCur
      generalize (rdpSendCmp _ _ _ _ _).2 = after at helps ⊢
      have view : ({ after with conn := { after.conn with
        rdp := { after.conn.rdp with txWait := true } } } : Ctx cfg).sendView = after.sendView := rfl
      rw [rdpFinish_discardOpen, view, helps.sendView]
      exact .keeps
    · obtain ⟨state, left, same⟩ := rdpFinish_discardClose openRdp rdpClosedByProtocol packet
      rw [same]
      exact .leaves state left

theorem rdpRecvCloseWait_sendStep (ctx : Ctx cfg) (header : RdpHeader) (packet : Packet)
    (rst : header.has rdpRst = false) (waiting : ctx.conn.rdp.state = .closeWait) :
    SendStep ctx.conn header (rdpFinish (rdpRecvCloseWait ctx header packet)).2.sendView := by
  simp only [rdpRecvCloseWait]
  split
  · exact .keeps
  · rename_i flags
    split
    · exact .keeps
    · rename_i valid
      have helps := rdpSendCmp_helps { ctx with conn := { ctx.conn with
          rdp := { ctx.conn.rdp with sndUna := header.ackNr + 1 } } }
        none (rdpAck ||| rdpRst) ctx.conn.rdp.sndNxt ctx.conn.rdp.rcvCur
      generalize (rdpSendCmp _ _ _ _ _).2 = after at helps ⊢
      rw [rdpFinish_discardOpen, helps.sendView]
      refine .stores ?_
      simp only [storesAck, rst, waiting]
      simpa using And.intro flags valid

/-- After the checks, the acknowledgement is stored and nothing else changes. -/
theorem rdpRecvAcked_sendView (ctx : Ctx cfg) (header : RdpHeader) (packet : Packet) :
    (rdpFinish (rdpRecvAcked ctx header packet)).2.sendView =
      { ctx.sendView with sndUna := header.ackNr + 1 } := by
  have finish : ∀ branch : RdpBranch cfg, (∀ closedBy, branch.exit ≠ .discardClose closedBy) →
      (rdpFinish branch).2.sendView = branch.ctx.sendView := by
    rintro ⟨exit, packet, after⟩ stays
    cases exit with
    | discardClose closedBy => exact absurd rfl (stays closedBy)
    | discardOpen closeConnection => rfl
    | acceptedOpen => rfl
  simp only [rdpRecvAcked]
  split
  · rw [rdpFinish_discardOpen]
    split
    · exact (rdpFlushEack_helps _ packet).sendView
    · rfl
  · rw [finish]
    · exact (rdpRecvData_receives _ header packet).helps.sendView
    · intro closedBy
      simp only [rdpRecvData]
      repeat' split
      all_goals simp

/-- The opening of a server connection changes its state, also when the accept queue is full. -/
theorem rdpOpenServer_sendView {ctx : Ctx cfg} (openRdp : ctx.OpenRdp) :
    (rdpOpenServer ctx).2.OpenRdp ∧
      (rdpOpenServer ctx).2.sendView = { ctx.sendView with state := .open } := by
  simp only [rdpOpenServer]
  split
  · exact ⟨⟨openRdp.connState, openRdp.rdp⟩, rfl⟩
  · split
    · exact ⟨⟨openRdp.connState, openRdp.rdp⟩, rfl⟩
    · exact ⟨⟨openRdp.connState, openRdp.rdp⟩, rfl⟩

theorem rdpRecvOpen_sendStep {ctx : Ctx cfg} (openRdp : ctx.OpenRdp) (header : RdpHeader)
    (packet : Packet) (rst : header.has rdpRst = false)
    (state : ctx.conn.rdp.state = .synRcvd ∨ ctx.conn.rdp.state = .open) :
    SendStep ctx.conn header (rdpFinish (rdpRecvOpen ctx header packet)).2.sendView := by
  simp only [rdpRecvOpen]
  split
  · split
    · obtain ⟨state, left, same⟩ := rdpFinish_discardClose openRdp rdpClosedByProtocol packet
      rw [same]
      exact .leaves state left
    · exact .keeps
  · rename_i flags
    split
    · rw [rdpFinish_discardOpen]
      split
      · rw [(rdpSendCmp_helps _ _ _ _ _).sendView]
        exact .keeps
      · rw [(rdpSendEack_receives _).helps.sendView]
        exact .keeps
    · rename_i seqValid
      split
      · exact .keeps
      · rename_i ackValid
        split
        · rename_i received
          split
          · obtain ⟨state, left, same⟩ := rdpFinish_discardClose openRdp rdpClosedByProtocol packet
            rw [same]
            exact .leaves state left
          · rename_i acked
            obtain ⟨openRdp', view⟩ := rdpOpenServer_sendView openRdp
            generalize rdpOpenServer ctx = result at openRdp' view
            obtain ⟨_ | _, after⟩ := result
            · obtain ⟨state, left, same⟩ := rdpFinish_discardClose openRdp' rdpClosedByProtocol packet
              rw [same, view]
              exact .leaves state left
            · simp only
              rw [rdpRecvAcked_sendView, view]
              exact .posts received (not_ne_iff.mp acked)
        · rename_i notReceived
          have opened := state.resolve_left notReceived
          rw [rdpRecvAcked_sendView]
          refine .stores ?_
          simp only [storesAck, rst, opened]
          simpa [and_assoc] using And.intro flags (And.intro seqValid ackValid)

/-- This is all that one RDP packet does to the sending side. -/
theorem rdpNewPacket_sendStep {ctx : Ctx cfg} (openRdp : ctx.OpenRdp) (packet : Packet) :
    SendStep ctx.conn packet.header (rdpNewPacket ctx packet).2.sendView := by
  simp only [rdpNewPacket, rdpNewPacketBody]
  cases rst : packet.header.has rdpRst with
  | true => exact rdpRecvRst_sendStep openRdp packet.header _ rst
  | false =>
      rw [if_neg Bool.false_ne_true]
      cases state : ctx.conn.rdp.state with
      | closed => exact rdpRecvClosed_sendStep openRdp packet.header _ state
      | synSent => exact rdpRecvSynSent_sendStep openRdp packet.header _ rst state
      | synRcvd => exact rdpRecvOpen_sendStep openRdp packet.header _ rst (.inl state)
      | «open» => exact rdpRecvOpen_sendStep openRdp packet.header _ rst (.inr state)
      | closeWait => exact rdpRecvCloseWait_sendStep ctx packet.header _ rst state

/-! ## The other inputs -/

/-- A close keeps the sending side or only leaves the open states. -/
def Leaves (before after : SendView) : Prop :=
  after = before ∨
    ∃ state, (state = RdpState.closeWait ∨ state = .closed) ∧ after = { before with state }

theorem Leaves.trans {first second third : SendView} (left : Leaves first second)
    (right : Leaves second third) : Leaves first third := by
  rcases right with rfl | ⟨state, left', rfl⟩
  · exact left
  · rcases left with rfl | ⟨_, _, rfl⟩
    · exact .inr ⟨state, left', rfl⟩
    · exact .inr ⟨state, left', rfl⟩

theorem connClose_leaves (ctx : Ctx cfg) (closedBy : UInt8) :
    Leaves ctx.sendView (connClose ctx closedBy).sendView := by
  rcases connClose_cases ctx closedBy with ⟨_, same⟩ | ⟨_, ⟨_, _, _, _, _, _, _, _, _, same⟩ |
    ⟨_, _, ⟨_, ⟨_, _, _, _, _, _, _, _, _, same⟩, _⟩, _⟩ | ⟨_, same⟩⟩
  · exact .inl (by rw [same])
  · exact .inr ⟨.closeWait, .inl rfl, by rw [same]; rfl⟩
  · exact .inr ⟨.closed, .inr rfl, by rw [same]; rfl⟩
  · obtain ⟨_, _, _, released, _⟩ := connRelease_changes ctx
    exact .inl (by rw [same, released]; rfl)

theorem rdpCloseInternal_leaves (ctx : Ctx cfg) (closedBy : UInt8) (sendRst : Bool) :
    Leaves ctx.sendView (rdpCloseInternal ctx closedBy sendRst).2.sendView := by
  rcases rdpCloseInternal_cases ctx closedBy sendRst with ⟨_, same⟩ |
    ⟨_, _, _, _, _, _, _, ⟨_, same⟩ | ⟨_, same⟩⟩
  · exact .inl (by rw [same])
  · exact .inr ⟨.closeWait, .inl rfl, by rw [same]; rfl⟩
  · exact .inr ⟨.closed, .inr rfl, by rw [same]; rfl⟩

/-- An attempt to connect ends in RDP_SYN_SENT with fresh numbers, or it gives up. -/
theorem rdpConnectAttempt_sendView (ctx : Ctx cfg) (notOpen : ctx.conn.rdp.state ≠ .open) :
    ∃ view : SendView, view.idin = ctx.conn.idin ∧ view.state = .synSent ∧
      view.sndNxt = view.sndIss + 1 ∧
      Leaves view (connectResult (rdpConnectAttempt ctx)).sendView := by
  simp only [rdpConnectAttempt, notOpen, if_false]
  have helps := rdpSendSyn_helps
    { ctx with conn := { ctx.conn with rdp := rdpNewAttempt cfg ctx.stack.now ctx.conn.rdp } }
  generalize rdpSendSyn _ = result at helps
  obtain ⟨err, after⟩ := result
  have sent := helps.sendView
  refine ⟨after.sendView, by rw [sent]; rfl, by rw [sent]; rfl, by rw [sent]; rfl, ?_⟩
  split
  · rename_i same
    cases same
    exact .inl rfl
  · rename_i same
    cases same
    exact (rdpCloseInternal_leaves after _ _).trans (connClose_leaves _ _)

theorem cspRead_sendView (ctx : Ctx cfg) : (cspRead ctx).2.sendView = ctx.sendView := by
  simp only [cspRead]
  split
  · rfl
  · split
    · rfl
    · split
      · exact (rdpCheckAck_answers _).helps.sendView
      · rfl

theorem rdpTimeoutOpen_sendView (ctx : Ctx cfg) : (rdpTimeoutOpen ctx).sendView = ctx.sendView := by
  have acked : (if ctx.conn.rdp.delayedAcks ≠ 0 then rdpCheckAck ctx else ctx).sendView =
      ctx.sendView := by
    split
    · exact (rdpCheckAck_answers ctx).helps.sendView
    · rfl
  simp only [rdpTimeoutOpen]
  generalize (if ctx.conn.rdp.delayedAcks ≠ 0 then rdpCheckAck ctx else ctx) = after at acked ⊢
  split
  · split
    · exact acked
    · exact acked
  · rfl

theorem rdpCheckTimeouts_leaves (ctx : Ctx cfg) :
    Leaves ctx.sendView (rdpCheckTimeouts ctx).sendView := by
  simp only [rdpCheckTimeouts]
  split
  · exact connClose_leaves _ _
  · split
    · split
      · exact connClose_leaves _ _
      · exact .inl rfl
    · rw [(rdpRxQueueFlush_receives _).helps.sendView, rdpTimeoutOpen_sendView]
      exact .inl rfl

/-- A send takes the next number when the window has room, and else changes nothing. -/
theorem cspSend_sendView (ctx : Ctx cfg) (packet : Packet) :
    (cspSend ctx (some packet)).sendView = ctx.sendView ∨
      (ctx.conn.rdp.state = .open ∧ rdpIsConnReadyForTx ctx.conn = true ∧
        (cspSend ctx (some packet)).sendView =
          { ctx.sendView with sndNxt := ctx.conn.rdp.sndNxt + 1 }) := by
  have sent : (rdpSend ctx packet).2.2.sendView = ctx.sendView ∨
      (ctx.conn.rdp.state = .open ∧ rdpIsConnReadyForTx ctx.conn = true ∧
        (rdpSend ctx packet).2.2.sendView =
          { ctx.sendView with sndNxt := ctx.conn.rdp.sndNxt + 1 }) := by
    simp only [rdpSend]
    split
    · exact .inl rfl
    · rename_i opened
      split
      · exact .inl rfl
      · rename_i ready
        simp only [rdpSendSegment]
        split
        · exact .inl rfl
        · split
          · exact .inl rfl
          · exact .inr ⟨not_ne_iff.mp opened, by simpa using ready, rfl⟩
  simp only [cspSend]
  split
  · exact .inl rfl
  · split
    · generalize rdpSend ctx packet = result at sent
      obtain ⟨err, packet, after⟩ := result
      split
      · rename_i same
        cases same
        exact sent
      · rename_i same
        cases same
        exact sent
    · exact .inl rfl

theorem routePlain_leaves (ctx : Ctx cfg) (packet : Packet) :
    Leaves ctx.sendView (routePlain ctx packet).sendView := by
  obtain ⟨_, _, enqueued⟩ := connEnqueuePacket_changes ctx.conn (some packet)
  simp only [routePlain]
  generalize connEnqueuePacket ctx.conn (some packet) = result at enqueued
  obtain ⟨err, conn⟩ := result
  have same : conn.sendView = ctx.sendView := by
    rw [show conn = _ from enqueued]
    rfl
  split
  · rename_i queued
    cases queued
    simp only [routePost]
    split
    · exact .inl same
    · split
      · rw [← same]
        exact connClose_leaves _ _
      · exact .inl same
  · rename_i queued
    cases queued
    exact .inl same

/-- A failed start or wait leaves, and a retry starts with fresh numbers. -/
theorem rdpConnectWake_sendView (ctx : Ctx cfg) (retry : Bool) :
    Leaves ctx.sendView (connectResult (rdpConnectWake ctx retry)).sendView ∨
      (ctx.conn.rdp.state = .synSent ∧ ∃ view : SendView, view.idin = ctx.conn.idin ∧
        view.state = .synSent ∧ view.sndNxt = view.sndIss + 1 ∧
        Leaves view (connectResult (rdpConnectWake ctx retry)).sendView) := by
  simp only [rdpConnectWake]
  split
  · exact .inl (.inl rfl)
  · split
    · rename_i again
      have sent : ctx.conn.rdp.state = .synSent := by
        simp only [Bool.and_eq_true, decide_eq_true_eq] at again
        exact again.1.2
      exact .inr ⟨sent, rdpConnectAttempt_sendView
        ⟨{ ctx.conn with rdp := { ctx.conn.rdp with txWait := false } },
          rdpQueueFlush ctx.stack (some ctx.conn.index)⟩ (by simp [sent])⟩
    · have closes := rdpCloseInternal_leaves
        ⟨{ ctx.conn with rdp := { ctx.conn.rdp with txWait := false } }, ctx.stack⟩
        rdpClosedByProtocol false
      exact .inl (closes.trans (connClose_leaves _ _))

theorem Leaves.idin {before after : SendView} (leaves : Leaves before after) :
    after.idin = before.idin := by
  rcases leaves with rfl | ⟨_, _, rfl⟩ <;> rfl

theorem SendStep.idin {conn : Conn cfg} {header : RdpHeader} {after : SendView}
    (step : SendStep conn header after) : after.idin = conn.idin := by
  cases step <;> rfl

/-- No event changes the header that the connection expects. -/
theorem connStep_idin {ctx : Ctx cfg} {input : ConnInput cfg} (rdp : ctx.conn.idin.has cspFRdp = true)
    (allowed : connAllowed ctx input) : (connStep ctx input).conn.idin = ctx.conn.idin := by
  cases input with
  | connect =>
      obtain ⟨view, idin, _, _, leaves⟩ := rdpConnectAttempt_sendView
        ⟨{ ctx.conn with rdp := { ctx.conn.rdp with
            windowSize := ctx.stack.options.windowSize
            connTimeout := ctx.stack.options.connTimeout
            packetTimeout := ctx.stack.options.packetTimeout
            delayedAcks := ctx.stack.options.delayedAcks
            ackTimeout := ctx.stack.options.ackTimeout
            ackDelayCount := ctx.stack.options.ackDelayCount
            ackTimestamp := ctx.stack.now } }, ctx.stack⟩ (by simp [allowed.2])
      exact leaves.idin.trans idin
  | wake retry =>
      rcases rdpConnectWake_sendView ctx retry with leaves | ⟨_, view, idin, _, _, leaves⟩
      · exact leaves.idin
      · exact leaves.idin.trans idin
  | arrive packet =>
      simp only [connStep, routeDeliver]
      split
      · have step := (rdpNewPacket_sendStep ⟨allowed, rdp⟩ packet).idin
        simp only [routeRdp]
        generalize rdpNewPacket ctx packet = result at step
        obtain ⟨_ | _, middle⟩ := result
        · exact step
        · exact (connClose_leaves middle rdpClosedByUserspace).idin.trans step
      · exact (routePlain_leaves ctx packet).idin
  | timeouts => exact (rdpCheckTimeouts_leaves ctx).idin
  | send packet =>
      rcases cspSend_sendView ctx packet with same | ⟨_, _, next⟩
      · exact congrArg SendView.idin same
      · exact congrArg SendView.idin next
  | read => exact congrArg SendView.idin (cspRead_sendView ctx)
  | close => exact (connClose_leaves ctx _).idin
  | environment stack => rfl

end Libcsp

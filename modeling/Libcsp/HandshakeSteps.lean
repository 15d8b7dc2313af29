/-
This file states what one input does to the initial sequence numbers of a connection.
-/
import Libcsp.SynNumbers
import Libcsp.Delivery
import Libcsp.ConnIdentity

namespace Libcsp

variable {cfg : Config}

/-! ## The handshake -/

/-- The state of a connection and the numbers of its handshake. -/
structure HandshakeView where
  connState : ConnState
  state : RdpState
  sndIss : UInt16
  sndUna : UInt16
  rcvIrs : UInt16

def Conn.handshakeView (conn : Conn cfg) : HandshakeView :=
  ⟨conn.state, conn.rdp.state, conn.rdp.sndIss, conn.rdp.sndUna, conn.rdp.rcvIrs⟩

/-- The packet is the SYN/ACK that a client waits for. -/
def opensClient (rdp : Rdp) (packet : Packet) : Bool :=
  rdp.state == .synSent && !packet.hasRdp rdpRst && packet.hasRdp rdpSyn && packet.hasRdp rdpAck

/-- The connection waits in CLOSE_WAIT, or its slot is free. -/
def HasLeft (connState : ConnState) (state : RdpState) : Prop :=
  (state = .closeWait ∧ connState = .open) ∨ (state = .closed ∧ connState = .closed)

theorem HasLeft.not_live {connState : ConnState} {state : RdpState} (left : HasLeft connState state) :
    state ≠ .synRcvd ∧ state ≠ .open ∧ state ≠ .synSent := by
  rcases left with ⟨rfl, _⟩ | ⟨rfl, _⟩ <;> simp

/-- One input does one of these things to the handshake. -/
inductive HandshakeStep (conn : Conn cfg) : ConnInput cfg → HandshakeView → Prop where
  | keeps (input : ConnInput cfg) (within : beginsAttempt conn.rdp input = false) :
      HandshakeStep conn input conn.handshakeView
  | acks (packet : Packet) (sndUna : UInt16) :
      HandshakeStep conn (.arrive packet) { conn.handshakeView with sndUna }
  | leaves (input : ConnInput cfg) (view : HandshakeView) (left : HasLeft view.connState view.state)
      (same : beginsAttempt conn.rdp input = false → view.sndIss = conn.rdp.sndIss) :
      HandshakeStep conn input view
  | accepts (packet : Packet) (begins : beginsAttempt conn.rdp (.arrive packet : ConnInput cfg) = true)
      (iss : UInt16) :
      HandshakeStep conn (.arrive packet)
        { conn.handshakeView with state := .synRcvd, sndIss := iss, sndUna := iss, rcvIrs := packet.seqNr }
  | attempts (input : ConnInput cfg) (begins : beginsAttempt conn.rdp input = true)
      (fromUser : ∀ packet, input ≠ .arrive packet) (sndIss sndUna : UInt16) :
      HandshakeStep conn input { conn.handshakeView with state := .synSent, sndIss, sndUna }
  | connects (packet : Packet) (opens : opensClient conn.rdp packet = true) :
      HandshakeStep conn (.arrive packet)
        { conn.handshakeView with state := .open, sndUna := packet.ackNr + 1, rcvIrs := packet.seqNr }
  | posts (packet : Packet) (received : conn.rdp.state = .synRcvd) (acked : packet.ackNr = conn.rdp.sndIss) :
      HandshakeStep conn (.arrive packet)
        { conn.handshakeView with state := .open, sndUna := packet.ackNr + 1 }

/-- Only another attempt changes the number of the connection. -/
theorem HandshakeStep.sndIss {conn : Conn cfg} {input : ConnInput cfg} {after : HandshakeView}
    (step : HandshakeStep conn input after) (within : beginsAttempt conn.rdp input = false) :
    after.sndIss = conn.rdp.sndIss := by
  cases step with
  | leaves _ _ _ same => exact same within
  | accepts packet begins => exact absurd within (by simp [begins])
  | attempts _ begins => exact absurd within (by simp [begins])
  | keeps => rfl
  | acks => rfl
  | connects => rfl
  | posts => rfl

/-- A RESET leaves a closed connection alone. -/
theorem rdpNewPacket_rstClosed {ctx : Ctx cfg} {packet : Packet} (closed : ctx.conn.rdp.state = .closed)
    (rst : packet.hasRdp rdpRst = true) :
    (rdpNewPacket ctx packet).2.conn.rdp.state = .closed := by
  have rst : packet.header.has rdpRst = true := rst
  have acked : (rdpRstAck ctx packet.header).conn.rdp.state = .closed := by
    unfold rdpRstAck
    split
    · exact closed
    · exact closed
  simp only [rdpNewPacket, rdpNewPacketBody, rst, if_true, rdpRecvRst, acked]
  exact acked

/-- The receiving side takes the number of the peer from a SYN only. -/
inductive RxHandshake (conn : Conn cfg) (packet : Packet) (after : RxView) : Prop where
  | keeps (connState : after.connState = conn.state) (rcvIrs : after.rcvIrs = conn.rdp.rcvIrs)
      (state : after.state = conn.rdp.state ∨ (conn.rdp.state = .synRcvd ∧ after.state = .open))
  | takes (connState : after.connState = conn.state) (rcvIrs : after.rcvIrs = packet.seqNr)
      (syn : packet.hasRdp rdpSyn = true)
      (state : (conn.rdp.state = .closed ∧ after.state = .synRcvd) ∨
        (conn.rdp.state = .synSent ∧ after.state = .open ∧ packet.hasRdp rdpAck = true))
  | leaves (left : HasLeft after.connState after.state)

theorem RxCloses.hasLeft {before after : RxView} (connState : before.connState = .open)
    (closes : RxCloses before after) : HasLeft after.connState after.state := by
  cases closes with
  | waits => exact .inl ⟨rfl, connState⟩
  | releases => exact .inr ⟨rfl, rfl⟩

theorem RxStep.handshake {ctx : Ctx cfg} {packet : Packet} {after : RxView} (connState : ctx.conn.state = .open)
    (step : RxStep ctx packet after) : RxHandshake ctx.conn packet after := by
  cases step with
  | keeps => exact .keeps rfl rfl (.inl rfl)
  | opens received => exact .keeps rfl rfl (.inr ⟨received, rfl⟩)
  | stores state =>
      rcases state with received | opened
      · exact .keeps rfl rfl (.inr ⟨received, rfl⟩)
      · exact .keeps rfl rfl (.inl opened.symm)
  | delivers state =>
      rcases state with received | opened
      · exact .keeps rfl rfl (.inr ⟨received, rfl⟩)
      · exact .keeps rfl rfl (.inl opened.symm)
  | accepts closed syn => exact .takes rfl rfl syn (.inl ⟨closed, rfl⟩)
  | connects sent syn ack => exact .takes rfl rfl syn (.inr ⟨sent, rfl, ack⟩)
  | closes after closes => exact .leaves (closes.hasLeft connState)

/-- The two sides of a connection that keeps its number leave the handshake together. -/
theorem HandshakeStep.of_kept {conn : Conn cfg} {packet : Packet} {received : RxView} {state : RdpState}
    (sndUna : UInt16) (receive : RxHandshake conn packet received) (same : received.state = state)
    (kept : state = conn.rdp.state ∨ state = .closeWait ∨ state = .closed) :
    HandshakeStep conn (.arrive packet) ⟨received.connState, state, conn.rdp.sndIss, sndUna, received.rcvIrs⟩ := by
  subst same
  rcases receive with ⟨connState, rcvIrs, same | ⟨before, after⟩⟩ | ⟨_, _, _, ⟨before, after⟩ | ⟨before, after, _⟩⟩ |
    left
  · rw [connState, rcvIrs, same]
    exact .acks packet sndUna
  · rw [after, before] at kept
    rcases kept with kept | kept | kept <;> cases kept
  · rw [after, before] at kept
    rcases kept with kept | kept | kept <;> cases kept
  · rw [after, before] at kept
    rcases kept with kept | kept | kept <;> cases kept
  · exact .leaves _ _ left fun _ => rfl

/-- One RDP packet does one of these things to the handshake. -/
theorem rdpNewPacket_handshake {ctx : Ctx cfg} (openRdp : ctx.OpenRdp) (own : ctx.OwnsRx) (packet : Packet) :
    HandshakeStep ctx.conn (.arrive packet) (rdpNewPacket ctx packet).2.conn.handshakeView := by
  have send := rdpNewPacket_sendStep openRdp packet
  have receive := (rdpNewPacket_rx openRdp own packet).handshake openRdp.connState
  have reset := @rdpNewPacket_rstClosed cfg ctx packet
  generalize (rdpNewPacket ctx packet).2 = after at send receive reset ⊢
  have same : after.rxView.state = after.sendView.state := rfl
  change HandshakeStep ctx.conn (.arrive packet) ⟨after.rxView.connState, after.sendView.state,
    after.sendView.sndIss, after.sendView.sndUna, after.rxView.rcvIrs⟩
  change ctx.conn.rdp.state = .closed → packet.hasRdp rdpRst = true → after.sendView.state = .closed at reset
  generalize after.sendView = sent at *
  generalize after.rxView = received at *
  cases send with
  | keeps => exact .of_kept _ receive same (.inl rfl)
  | stores stored => exact .of_kept _ receive same (.inl rfl)
  | leaves state left => exact .of_kept _ receive same (.inr left)
  | storesAndLeaves state left stored => exact .of_kept _ receive same (.inr left)
  | accepts iss windowSize closed =>
      rcases receive with ⟨_, _, kept | ⟨before, _⟩⟩ | ⟨connState, rcvIrs, syn, ⟨_, _⟩ | ⟨before, _⟩⟩ | left
      · simp [same, closed] at kept
      · simp [closed] at before
      · rw [connState, rcvIrs]
        refine .accepts packet ?_ iss
        have rst : packet.hasRdp rdpRst = false := by
          by_contra rst
          simpa using reset closed (by simpa using rst)
        simp [beginsAttempt, closed, rst, syn]
      · simp [closed] at before
      · exact absurd same left.not_live.1
  | connects before plain stored =>
      rcases receive with ⟨_, _, kept | ⟨received, _⟩⟩ | ⟨connState, rcvIrs, syn, ⟨closed, _⟩ | ⟨_, _, ack⟩⟩ | left
      · simp [same, before] at kept
      · simp [before] at received
      · simp [before] at closed
      · rw [connState, rcvIrs]
        refine .connects packet ?_
        have rst : packet.hasRdp rdpRst = false := plain
        simp [opensClient, before, rst, syn, ack]
      · exact absurd same left.not_live.2.1
  | posts before acked =>
      rcases receive with ⟨connState, rcvIrs, _⟩ | ⟨_, _, _, ⟨closed, _⟩ | ⟨sent, _⟩⟩ | left
      · rw [connState, rcvIrs]
        exact .posts packet before acked
      · simp [before] at closed
      · simp [before] at sent
      · exact absurd same left.not_live.2.1

/-! ## The other inputs -/

/-- A close that keeps the number of the connection leaves the handshake. -/
theorem HandshakeStep.of_closes {conn : Conn cfg} {input : ConnInput cfg} {after : Ctx cfg} {view : RxView}
    (connState : view.connState = .open) (closes : RxCloses view after.rxView)
    (same : beginsAttempt conn.rdp input = false → after.conn.rdp.sndIss = conn.rdp.sndIss) :
    HandshakeStep conn input after.conn.handshakeView :=
  .leaves input after.conn.handshakeView (closes.hasLeft connState) same

/-- An input that changes neither side keeps the handshake. -/
theorem HandshakeStep.of_same {ctx after : Ctx cfg} {input : ConnInput cfg} {side : RxSide}
    (within : beginsAttempt ctx.conn.rdp input = false)
    (received : after.rxView = { ctx.rxView with toRxSide := side })
    (sent : after.conn.rdp.sndIss = ctx.conn.rdp.sndIss ∧ after.conn.rdp.sndUna = ctx.conn.rdp.sndUna) :
    HandshakeStep ctx.conn input after.conn.handshakeView := by
  have connState : after.conn.state = ctx.conn.state := congrArg RxView.connState received
  have state : after.conn.rdp.state = ctx.conn.rdp.state := congrArg RxView.state received
  have rcvIrs : after.conn.rdp.rcvIrs = ctx.conn.rdp.rcvIrs := congrArg RxView.rcvIrs received
  have view : after.conn.handshakeView = ctx.conn.handshakeView := by
    simp only [Conn.handshakeView, connState, state, rcvIrs, sent]
  rw [view]
  exact .keeps input within

/-- An input that ends in RDP_SYN_SENT has started an attempt. -/
theorem HandshakeStep.of_attempt {ctx after : Ctx cfg} {input : ConnInput cfg} {view : RxView}
    (received : after.rxView = view) (same : view.connState = ctx.conn.state ∧ view.rcvIrs = ctx.conn.rdp.rcvIrs)
    (sent : view.state = .synSent) (begins : beginsAttempt ctx.conn.rdp input = true)
    (fromUser : ∀ packet, input ≠ .arrive packet) : HandshakeStep ctx.conn input after.conn.handshakeView := by
  subst received
  have view : after.conn.handshakeView = { ctx.conn.handshakeView with
      state := .synSent, sndIss := after.conn.rdp.sndIss, sndUna := after.conn.rdp.sndUna } := by
    simp only [Conn.handshakeView, HandshakeView.mk.injEq, true_and]
    exact ⟨same.1, sent, same.2⟩
  rw [view]
  exact .attempts input begins fromUser _ _

theorem connClose_handshake {ctx : Ctx cfg} {input : ConnInput cfg}
    (rdp : ctx.conn.state = .open → ctx.conn.idin.has cspFRdp = true) (closedBy : UInt8)
    (within : beginsAttempt ctx.conn.rdp input = false) :
    HandshakeStep ctx.conn input (connClose ctx closedBy).conn.handshakeView := by
  cases connState : ctx.conn.state with
  | closed =>
      rw [show connClose ctx closedBy = ctx by simp [connClose, connState]]
      exact .keeps input within
  | «open» =>
      exact .of_closes connState (connClose_rxCloses ⟨connState, rdp connState⟩ closedBy)
        fun _ => (connClose_leaves ctx closedBy).numbers.1

/-- A router that hands a packet over may also close the connection. -/
theorem routeRdp_handshake {ctx : Ctx cfg} (openRdp : ctx.OpenRdp) (own : ctx.OwnsRx) (packet : Packet) :
    HandshakeStep ctx.conn (.arrive packet) (routeRdp ctx packet).conn.handshakeView := by
  have step := rdpNewPacket_handshake openRdp own packet
  have lasts := (rdpNewPacketBody_lasts ctx packet).trans (rdpFinish_lasts (rdpNewPacketBody ctx packet))
  simp only [routeRdp]
  rw [← rdpNewPacket] at lasts
  generalize rdpNewPacket ctx packet = result at step lasts
  obtain ⟨_ | _, after⟩ := result
  · exact step
  · simp only [cspClose]
    have idin : after.conn.idin = ctx.conn.idin := congrArg ConnIdentity.idin lasts.identity
    cases connState : after.conn.state with
    | closed =>
        rw [show connClose after rdpClosedByUserspace = after by simp [connClose, connState]]
        exact step
    | «open» =>
        refine .of_closes connState (connClose_rxCloses ⟨connState, idin ▸ openRdp.rdp⟩ _) fun within => ?_
        exact (connClose_leaves after _).numbers.1.trans (step.sndIss within)

/-- Each input of a connection does one of these things to the handshake. -/
theorem connStep_handshake {ctx : Ctx cfg} {input : ConnInput cfg}
    (rdp : ctx.conn.state = .open → ctx.conn.idin.has cspFRdp = true) (own : ctx.OwnsRx)
    (allowed : connAllowed ctx input) (onlyRdp : input.OnlyRdp ctx) :
    HandshakeStep ctx.conn input (connStep ctx input).conn.handshakeView := by
  cases input with
  | connect =>
      obtain ⟨connState, closed⟩ := allowed
      rcases rdpConnectStart_rx ⟨connState, rdp connState⟩ (by simp [closed]) with received | closes
      · exact .of_attempt received ⟨rfl, rfl⟩ rfl rfl (by simp)
      · exact .of_closes connState closes fun within => by cases within
  | wake retry =>
      have openRdp : ctx.OpenRdp := ⟨allowed, rdp allowed⟩
      cases begins : beginsAttempt ctx.conn.rdp (.wake retry : ConnInput cfg) with
      | true =>
          have sent : ctx.conn.rdp.state = .synSent := by
            simp only [beginsAttempt, Bool.and_eq_true, beq_iff_eq] at begins
            exact begins.1.2
          rcases rdpConnectWake_rx openRdp retry with received | received | closes | closes
          · exact .of_attempt received ⟨rfl, rfl⟩ sent begins (by simp)
          · exact .of_attempt received ⟨rfl, rfl⟩ rfl begins (by simp)
          · exact .of_closes openRdp.connState closes fun within => absurd within (by simp [begins])
          · exact .of_closes openRdp.connState closes fun within => absurd within (by simp [begins])
      | false =>
          rcases rdpConnectWake_within begins with same | same
          · rw [connStep, same]
            exact .keeps _ begins
          · have closes := @rdpCloseInternal_rxCloses cfg { ctx with conn.rdp.txWait := false }
              ⟨openRdp.connState, openRdp.rdp⟩ rdpClosedByProtocol false
            have leaves := (rdpCloseInternal_leaves { ctx with conn.rdp.txWait := false } rdpClosedByProtocol
              false).trans (connClose_leaves _ rdpClosedByUserspace)
            rw [connStep, same]
            exact .of_closes openRdp.connState closes fun _ => leaves.numbers.1
  | arrive packet =>
      have flag : packet.id.has cspFRdp = true := onlyRdp
      rw [connStep, routeDeliver, if_pos flag]
      exact routeRdp_handshake ⟨allowed, rdp allowed⟩ own packet
  | timeouts =>
      have sent := rdpCheckTimeouts_leaves ctx
      rcases rdpCheckTimeouts_rx ⟨allowed, rdp allowed⟩ own with closes | ⟨_, same⟩ | ⟨side, flushes, same⟩
      · have connState : ctx.conn.state = .open := allowed
        exact .of_closes connState closes fun _ => sent.numbers.1
      · rw [connStep, same]
        exact .keeps _ rfl
      · exact .of_same rfl same sent.numbers
  | send packet =>
      refine .of_same rfl (cspSend_rxView ctx packet) ?_
      rcases cspSend_sendView ctx packet with same | ⟨_, _, next⟩
      · exact ⟨congrArg SendView.sndIss same, congrArg SendView.sndUna same⟩
      · exact ⟨congrArg SendView.sndIss next, congrArg SendView.sndUna next⟩
  | read =>
      have same := cspRead_sendView ctx
      exact .of_same rfl (cspRead_rxView ctx) ⟨congrArg SendView.sndIss same, congrArg SendView.sndUna same⟩
  | close => exact connClose_handshake rdp _ rfl
  | environment stack => exact .keeps _ rfl

/-! ## The queues -/

/-- The queue keeps its owner, and a close leaves nothing to retransmit. -/
structure Ctx.TxKept (ctx after : Ctx cfg) (input : ConnInput cfg) : Prop where
  own : after.OwnsTx
  closed : after.conn.rdp.state = .closed → after.stack.txQueue.items = [] ∨
    (ctx.conn.rdp.state = .closed ∧ beginsAttempt ctx.conn.rdp input = false)

theorem Ctx.TxCloses.kept {ctx middle after : Ctx cfg} {input : ConnInput cfg} (closes : middle.TxCloses after) :
    ctx.TxKept after input := by
  refine ⟨closes.own, fun closed => ?_⟩
  rcases closes.left with waits | ⟨_, empty⟩
  · rw [closed] at waits
    cases waits
  · exact .inl empty

theorem connClose_txKept {ctx : Ctx cfg} {input : ConnInput cfg}
    (rdp : ctx.conn.state = .open → ctx.conn.idin.has cspFRdp = true) (own : ctx.OwnsTx) (closedBy : UInt8)
    (within : beginsAttempt ctx.conn.rdp input = false) : ctx.TxKept (connClose ctx closedBy) input := by
  cases connState : ctx.conn.state with
  | closed =>
      rw [show connClose ctx closedBy = ctx by simp [connClose, connState]]
      exact ⟨own, fun closed => .inr ⟨closed, within⟩⟩
  | «open» => exact (connClose_txCloses ⟨connState, rdp connState⟩ own closedBy).kept

theorem routeRdp_txKept {ctx : Ctx cfg} (openRdp : ctx.OpenRdp) (own : ctx.OwnsTx)
    (quiet : ctx.conn.rdp.state = .closed → ctx.stack.QueuesNoSyn) (packet : Packet) :
    ctx.TxKept (routeRdp ctx packet) (.arrive packet) := by
  have outcome := rdpNewPacket_tx openRdp own packet
  have lasts := (rdpNewPacketBody_lasts ctx packet).trans (rdpFinish_lasts (rdpNewPacketBody ctx packet))
  rw [← rdpNewPacket] at lasts
  have received : ctx.TxKept (rdpNewPacket ctx packet).2 (.arrive packet) := by
    cases outcome with
    | keeps step state =>
        refine ⟨step.own, fun closed => .inr ⟨state closed, ?_⟩⟩
        by_contra begins
        simp only [beginsAttempt, Bool.not_eq_false, Bool.and_eq_true, beq_iff_eq, Bool.not_eq_true'] at begins
        obtain ⟨after, same, synRcvd, _⟩ := rdpNewPacket_accepts begins.1.1 (quiet begins.1.1) begins.1.2 begins.2
        rw [same, synRcvd] at closed
        cases closed
    | lists step takes state => exact ⟨step.own, fun closed => by rw [state] at closed; cases closed⟩
    | closes closes => exact closes.kept
  simp only [routeRdp]
  generalize rdpNewPacket ctx packet = result at received lasts
  obtain ⟨_ | _, after⟩ := result
  · exact received
  · simp only [cspClose]
    have idin : after.conn.idin = ctx.conn.idin := congrArg ConnIdentity.idin lasts.identity
    cases connState : after.conn.state with
    | closed =>
        rw [show connClose after rdpClosedByUserspace = after by simp [connClose, connState]]
        exact received
    | «open» => exact (connClose_txCloses ⟨connState, idin ▸ openRdp.rdp⟩ received.own _).kept

/-- Each input keeps the owner of the retransmission queue. -/
theorem connStep_txKept {ctx : Ctx cfg} {input : ConnInput cfg}
    (rdp : ctx.conn.state = .open → ctx.conn.idin.has cspFRdp = true) (own : ctx.OwnsTx)
    (quiet : ctx.conn.rdp.state = .closed → ctx.stack.QueuesNoSyn)
    (allowed : connAllowed ctx input) (onlyRdp : input.OnlyRdp ctx) : ctx.TxKept (connStep ctx input) input := by
  cases input with
  | connect =>
      obtain ⟨connState, closed⟩ := allowed
      rcases @rdpConnectAttempt_tx cfg ⟨{ ctx.conn with rdp := { ctx.conn.rdp with
          windowSize := ctx.stack.options.windowSize
          connTimeout := ctx.stack.options.connTimeout
          packetTimeout := ctx.stack.options.packetTimeout
          delayedAcks := ctx.stack.options.delayedAcks
          ackTimeout := ctx.stack.options.ackTimeout
          ackDelayCount := ctx.stack.options.ackDelayCount
          ackTimestamp := ctx.stack.now } }, ctx.stack⟩ ⟨connState, rdp connState⟩ own (by simp [closed])
        with ⟨keeps, sent⟩ | closes
      · exact ⟨keeps.own, fun closed => by rw [connStep, rdpConnectStart, sent] at closed; cases closed⟩
      · exact closes.kept
  | wake retry =>
      rcases rdpConnectWake_tx ⟨allowed, rdp allowed⟩ own retry with same | ⟨own', _, sent, _⟩ | closes
      · rw [connStep, same]
        refine ⟨own, fun closed => .inr ⟨closed, ?_⟩⟩
        have closed : ctx.conn.rdp.state = .closed := closed
        simp [beginsAttempt, closed]
      · exact ⟨own', fun closed => by rw [connStep, sent] at closed; cases closed⟩
      · exact closes.kept
  | arrive packet =>
      have flag : packet.id.has cspFRdp = true := onlyRdp
      rw [connStep, routeDeliver, if_pos flag]
      exact routeRdp_txKept ⟨allowed, rdp allowed⟩ own quiet packet
  | timeouts =>
      rcases rdpCheckTimeouts_tx ⟨allowed, rdp allowed⟩ own with closes | ⟨waiting, same⟩ | purges
      · exact closes.kept
      · rw [connStep, same]
        exact ⟨own, fun closed => by rw [waiting] at closed; cases closed⟩
      · exact ⟨purges.own, fun closed => .inr ⟨purges.state.symm.trans closed, rfl⟩⟩
  | send packet =>
      rcases cspSend_tx own packet with ⟨_, sends⟩ | ⟨_, refuses⟩
      · refine ⟨sends.own, fun closed => .inr ⟨?_, rfl⟩⟩
        rw [connStep, sends.conn] at closed
        exact closed
      · obtain ⟨txWait, conn⟩ := refuses.conn
        refine ⟨?_, fun closed => .inr ⟨?_, rfl⟩⟩
        · rw [connStep, Ctx.OwnsTx, refuses.txQueue, conn]
          exact own
        · rw [connStep, conn] at closed
          exact closed
  | read =>
      have receives := cspRead_receives ctx
      exact ⟨(receives.keepsTx own).own, fun closed => .inr ⟨receives.helps.rdpState.symm.trans closed, rfl⟩⟩
  | close => exact connClose_txKept rdp own _ rfl
  | environment stack => exact ⟨own, fun closed => .inr ⟨closed, rfl⟩⟩

/-! ## All that one input keeps -/

/-- A slot has a connection with RDP or is free, and the shared queues have only its packets. A closed connection
retransmits no SYN. -/
structure Ctx.Settled (ctx : Ctx cfg) : Prop where
  rdp : ctx.conn.state = .open → ctx.conn.idin.has cspFRdp = true ∧ ctx.conn.idout.has cspFRdp = true
  free : ctx.conn.state = .closed → ctx.conn.rdp.state = .closed
  tx : ctx.OwnsTx
  rx : ctx.OwnsRx
  quiet : ctx.conn.rdp.state = .closed → ctx.stack.QueuesNoSyn

theorem connStep_lasts {ctx : Ctx cfg} (input : ConnInput cfg) : ctx.conn.Lasts (connStep ctx input).conn := by
  have result : ∀ {connected : Option CspErr × Ctx cfg}, ctx.conn.Lasts connected.2.conn →
      ctx.conn.Lasts (connectResult connected).conn := by
    rintro ⟨_ | err, after⟩ lasts
    · exact lasts
    · cases err with
      | none => exact lasts
      | _ => exact lasts.trans (connClose_lasts _ _)
  cases input with
  | connect => exact result (rdpConnectStart_lasts ctx)
  | wake retry => exact result (rdpConnectWake_lasts ctx retry)
  | arrive packet => exact routeDeliver_lasts ctx packet
  | timeouts => exact rdpCheckTimeouts_lasts ctx
  | send packet => exact cspSend_lasts ctx packet
  | read => exact cspRead_lasts ctx
  | close => exact connClose_lasts ctx _
  | environment stack => exact .refl _

/-- A free slot has a closed connection. -/
theorem HandshakeStep.free {ctx : Ctx cfg} {input : ConnInput cfg} {after : HandshakeView}
    (step : HandshakeStep ctx.conn input after) (free : ctx.conn.state = .closed → ctx.conn.rdp.state = .closed)
    (allowed : connAllowed ctx input) (closed : after.connState = .closed) : after.state = .closed := by
  cases step with
  | keeps => exact free closed
  | acks => exact free closed
  | leaves _ _ left =>
      rcases left with ⟨_, opened⟩ | ⟨state, _⟩
      · rw [opened] at closed
        cases closed
      · exact state
  | accepts packet begins =>
      have opened : ctx.conn.state = .open := allowed
      exact absurd (opened.symm.trans closed) (by simp)
  | attempts _ begins fromUser =>
      have opened : ctx.conn.state = .open := by
        cases input with
        | connect => exact allowed.1
        | wake retry => exact allowed
        | arrive packet => exact absurd rfl (fromUser packet)
        | _ => cases begins
      exact absurd (opened.symm.trans closed) (by simp)
  | connects packet =>
      have opened : ctx.conn.state = .open := allowed
      exact absurd (opened.symm.trans closed) (by simp)
  | posts packet =>
      have opened : ctx.conn.state = .open := allowed
      exact absurd (opened.symm.trans closed) (by simp)

/-- The packets of one connection stand on this shelf. -/
def ownShelf (conn : Nat) : Shelf where
  stored packet := packet.conn = conn
  queued _ := True
  mailed _ _ _ := True

theorem ownShelf_suits (conn : Nat) : (ownShelf conn).Suits conn := ⟨fun _ _ => rfl, fun _ _ _ => trivial⟩

theorem Ctx.OwnsRx.holds {ctx : Ctx cfg} (own : ctx.OwnsRx) : ctx.Holds (ownShelf ctx.conn.index) :=
  ⟨own, fun _ _ => trivial, fun _ _ _ => trivial⟩

theorem connStep_settled {ctx : Ctx cfg} {input : ConnInput cfg} (settled : ctx.Settled)
    (allowed : connAllowed ctx input) (onlyRdp : input.OnlyRdp ctx) : (connStep ctx input).Settled := by
  have lasts := @connStep_lasts cfg ctx input
  have idin : (connStep ctx input).conn.idin = ctx.conn.idin := congrArg ConnIdentity.idin lasts.identity
  have idout : (connStep ctx input).conn.idout = ctx.conn.idout := congrArg ConnIdentity.idout lasts.identity
  have step := connStep_handshake (fun inUse => (settled.rdp inUse).1) settled.rx allowed onlyRdp
  have kept := connStep_txKept (fun inUse => (settled.rdp inUse).1) settled.tx settled.quiet allowed onlyRdp
  refine ⟨fun inUse => ?_, step.free settled.free allowed, kept.own, ?_, fun closed => ?_⟩
  · rw [idin, idout]
    exact settled.rdp (lasts.inUse inUse)
  · intro packet member
    rw [lasts.index]
    exact connStep_stored settled.rx.holds (ownShelf_suits _) (fun _ _ => ⟨rfl, trivial⟩) (fun _ => trivial) input
      packet member
  · rcases kept.closed closed with empty | ⟨before, within⟩
    · exact fun packet member => absurd (empty ▸ member) List.not_mem_nil
    · intro packet member number
      have syns := connStep_syns ((settled.quiet before).sendsSyns number) (by simp [before])
        (fun inUse => (settled.rdp inUse).2) onlyRdp within
      exact syns.queued packet member

end Libcsp

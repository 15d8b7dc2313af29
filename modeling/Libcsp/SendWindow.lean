/-
This file determines when the send window of a connection only moves forward.
-/
import Libcsp.SendSide

namespace Libcsp

variable {cfg : Config}

/-! ## Runs -/

/-- The history says whether the connection has been in RDP_OPEN since its last handshake. -/
structure WindowRun (cfg : Config) where
  ctx : Ctx cfg
  opened : Bool

def hasOpened (opened : Bool) (state : RdpState) : Bool :=
  state == .open || opened && state == .closeWait

def WindowRun.step (run : WindowRun cfg) (input : ConnInput cfg) : WindowRun cfg :=
  { ctx := connStep run.ctx input
    opened := hasOpened run.opened (connStep run.ctx input).conn.rdp.state }

def windowMachine (cfg : Config) : Machine (WindowRun cfg) (ConnInput cfg) where
  initial run := run.ctx.Fresh ∧ run.opened = false
  step := WindowRun.step
  allowed run := connAllowed run.ctx

instance (run : WindowRun cfg) (input : ConnInput cfg) :
    Decidable ((windowMachine cfg).allowed run input) :=
  inferInstanceAs (Decidable (connAllowed run.ctx input))

/-- The unacknowledged numbers fit the window, and `snd_una` is not after `snd_nxt`. -/
def SendView.InWindow (view : SendView) : Prop :=
  seqAhead view.sndUna view.sndNxt ≤ view.windowSize.toNat ∧
    seqAhead view.sndUna view.sndNxt < 32768

instance (view : SendView) : Decidable view.InWindow := inferInstanceAs (Decidable (_ ∧ _))

/-- In this state, the stored acknowledgement keeps the window. -/
def KeepsWindow (run : WindowRun cfg) (header : RdpHeader) : RdpState → Prop
  | .synSent =>
      header.has rdpRst = false → ({ run.ctx.sendView with sndUna := header.ackNr + 1 }).InWindow
  | .open =>
      rdpSeqBetween (header.ackNr + 1) run.ctx.conn.rdp.sndUna run.ctx.conn.rdp.sndNxt = true
  | .closeWait =>
      run.opened = true →
        rdpSeqBetween (header.ackNr + 1) run.ctx.conn.rdp.sndUna run.ctx.conn.rdp.sndNxt = true
  | _ => True

/-- A stored acknowledgement lies between `snd_una` and `snd_nxt`, and the one that opens a client
connection is at most a window behind `snd_nxt`. A send keeps within half of the number space. -/
def AcksForward (run : WindowRun cfg) : ConnInput cfg → Prop
  | .arrive packet =>
      packet.id.has cspFRdp = true → storesAck run.ctx.conn.rdp packet.header = true →
        KeepsWindow run packet.header run.ctx.conn.rdp.state
  | .send _ =>
      rdpIsConnReadyForTx run.ctx.conn = true →
        seqAhead run.ctx.conn.rdp.sndUna run.ctx.conn.rdp.sndNxt + 1 < 32768
  | _ => True

instance (run : WindowRun cfg) (header : RdpHeader) : ∀ state, Decidable (KeepsWindow run header state)
  | .synSent => inferInstanceAs (Decidable (_ → _))
  | .open => inferInstanceAs (Decidable (_ = _))
  | .closeWait => inferInstanceAs (Decidable (_ → _))
  | .closed => .isTrue trivial
  | .synRcvd => .isTrue trivial

instance (run : WindowRun cfg) : ∀ input, Decidable (AcksForward run input)
  | .arrive _ => inferInstanceAs (Decidable (_ → _ → _))
  | .send _ => inferInstanceAs (Decidable (_ → _))
  | .connect => .isTrue trivial
  | .wake _ => .isTrue trivial
  | .timeouts => .isTrue trivial
  | .read => .isTrue trivial
  | .close => .isTrue trivial
  | .environment _ => .isTrue trivial

instance (run : WindowRun cfg) (input : ConnInput cfg) :
    Decidable (((windowMachine cfg).restrict AcksForward).allowed run input) :=
  inferInstanceAs (Decidable (connAllowed run.ctx input ∧ AcksForward run input))

/-- This invariant of the sending side holds in every state of such a run. -/
structure SendView.Sound (view : SendView) (opened : Bool) : Prop where
  rdp : view.idin.has cspFRdp = true
  waits : opened = true → view.state = .open ∨ view.state = .closeWait
  handshake : view.state = .synSent ∨ view.state = .synRcvd → view.sndNxt = view.sndIss + 1
  isOpen : view.state = .open → opened = true
  window : opened = true → view.InWindow

def WindowRun.Sound (run : WindowRun cfg) : Prop := run.ctx.sendView.Sound run.opened

/-- The second state does not move `snd_una` backward. -/
def Forward (before after : SendView) (opened opened' : Bool) : Prop :=
  opened = true → opened' = true → rdpSeqBefore after.sndUna before.sndUna = false

theorem hasOpened_of_left {opened : Bool} {state : RdpState}
    (left : state = .closeWait ∨ state = .closed) (opens : hasOpened opened state = true) :
    opened = true := by
  rcases left with rfl | rfl
  · simpa [hasOpened] using opens
  · simp [hasOpened] at opens

theorem SendView.Sound.hasOpened_same {view : SendView} {opened : Bool} (sound : view.Sound opened) :
    hasOpened opened view.state = opened := by
  cases opens : opened with
  | true => rcases sound.waits opens with state | state <;> simp [hasOpened, state]
  | false =>
      have notOpen : view.state ≠ .open := fun state => by simpa [opens] using sound.isOpen state
      simp [hasOpened, notOpen]

theorem SendView.Sound.leaves {before after : SendView} {opened : Bool} (sound : before.Sound opened)
    (leaves : Leaves before after) : after.Sound (hasOpened opened after.state) := by
  rcases leaves with rfl | ⟨state, left, rfl⟩
  · rw [sound.hasOpened_same]
    exact sound
  · refine ⟨sound.rdp, fun opens => ?_, fun state => ?_, fun state => ?_, fun opens => ?_⟩
    · rcases left with rfl | rfl
      · exact .inr rfl
      · simp [hasOpened] at opens
    · rcases left with rfl | rfl <;> rcases state with state | state <;> cases state
    · rcases left with rfl | rfl <;> cases state
    · exact sound.window (hasOpened_of_left left opens)

/-- An acknowledgement between `snd_una` and `snd_nxt` shrinks the window from behind. -/
theorem SendView.InWindow.store {view : SendView} (window : view.InWindow) {una : UInt16}
    (between : rdpSeqBetween una view.sndUna view.sndNxt = true) :
    ({ view with sndUna := una } : SendView).InWindow ∧ rdpSeqBefore una view.sndUna = false := by
  have inside := rdpSeqBetween_iff.mp between
  have rest := seqAhead_of_common_start inside
  obtain ⟨fits, half⟩ := window
  refine ⟨⟨?_, ?_⟩, rdpSeqBefore_eq_false.mpr ?_⟩
  · change seqAhead una view.sndNxt ≤ view.windowSize.toNat
    omega
  · change seqAhead una view.sndNxt < 32768
    omega
  · omega

theorem SendView.Sound.stores {view : SendView} {opened : Bool} {una : UInt16} (sound : view.Sound opened)
    (forward : opened = true → rdpSeqBetween una view.sndUna view.sndNxt = true) :
    ({ view with sndUna := una } : SendView).Sound opened ∧
      (opened = true → rdpSeqBefore una view.sndUna = false) :=
  ⟨⟨sound.rdp, sound.waits, sound.handshake, sound.isOpen,
      fun opens => ((sound.window opens).store (forward opens)).1⟩,
    fun opens => ((sound.window opens).store (forward opens)).2⟩

/-- One packet of such a run keeps the invariant and moves `snd_una` forward. -/
theorem SendStep.sound {run : WindowRun cfg} {packet : Packet} {after : SendView}
    (sound : run.ctx.sendView.Sound run.opened) (flag : packet.id.has cspFRdp = true)
    (condition : AcksForward run (.arrive packet))
    (step : SendStep run.ctx.conn packet.header after) :
    after.Sound (hasOpened run.opened after.state) ∧
      Forward run.ctx.sendView after run.opened (hasOpened run.opened after.state) := by
  have backward : ∀ view : SendView, rdpSeqBefore view.sndUna view.sndUna = false := fun view =>
    rdpSeqBefore_eq_false.mpr (by simp)
  have stored : storesAck run.ctx.conn.rdp packet.header = true →
      ({ run.ctx.sendView with sndUna := packet.header.ackNr + 1 } : SendView).Sound run.opened ∧
        (run.opened = true →
          rdpSeqBefore (packet.header.ackNr + 1) run.ctx.conn.rdp.sndUna = false) := by
    intro stores
    refine sound.stores fun opens => ?_
    have between := condition flag stores
    rcases sound.waits opens with state | state
    · rw [show run.ctx.conn.rdp.state = _ from state] at between
      exact between
    · rw [show run.ctx.conn.rdp.state = _ from state] at between
      exact between opens
  cases step with
  | keeps =>
      rw [sound.hasOpened_same]
      exact ⟨sound, fun _ _ => backward _⟩
  | stores stores =>
      obtain ⟨sound', forward⟩ := stored stores
      have same : hasOpened run.opened run.ctx.sendView.state = run.opened := sound.hasOpened_same
      exact ⟨same.symm ▸ sound', fun opens _ => forward opens⟩
  | leaves state left =>
      exact ⟨sound.leaves (.inr ⟨state, left, rfl⟩), fun _ _ => backward _⟩
  | storesAndLeaves state left stores =>
      obtain ⟨sound', forward⟩ := stored stores
      exact ⟨sound'.leaves (.inr ⟨state, left, rfl⟩), fun opens _ => forward opens⟩
  | accepts iss windowSize closed =>
      refine ⟨⟨sound.rdp, by simp [hasOpened], fun _ => rfl, by simp, by simp [hasOpened]⟩, ?_⟩
      intro _ opens
      simp [hasOpened] at opens
  | connects sent plain stores =>
      have window := condition flag stores
      rw [sent] at window
      refine ⟨⟨sound.rdp, fun _ => .inl rfl, by simp, by simp [hasOpened], fun _ => window plain⟩, ?_⟩
      intro opens
      rcases sound.waits opens with state | state <;>
        simp [show run.ctx.conn.rdp.state = _ from state] at sent
  | posts received acked =>
      have next : run.ctx.conn.rdp.sndNxt = packet.header.ackNr + 1 := by
        rw [acked]
        exact sound.handshake (.inr received)
      have empty : seqAhead (packet.header.ackNr + 1) run.ctx.conn.rdp.sndNxt = 0 :=
        seqAhead_eq_zero.mpr next.symm
      refine ⟨⟨sound.rdp, fun _ => .inl rfl, by simp, by simp [hasOpened], fun _ => ⟨?_, ?_⟩⟩, ?_⟩
      · exact empty.le.trans (Nat.zero_le _)
      · exact empty.trans_lt (by decide)
      · intro opens
        rcases sound.waits opens with state | state <;>
          simp [show run.ctx.conn.rdp.state = _ from state] at received

/-- The close that a packet asks for only matters in the states without a window. -/
theorem SendStep.closes {conn : Conn cfg} {header : RdpHeader} {middle after : SendView}
    (step : SendStep conn header middle) (leaves : Leaves middle after) :
    SendStep conn header after ∨
      ((conn.rdp.state = .closed ∨ conn.rdp.state = .synRcvd) ∧ after.idin = conn.idin ∧
        (after.state = .closeWait ∨ after.state = .closed)) := by
  rcases leaves with rfl | ⟨state, left, rfl⟩
  · exact .inl step
  · cases step with
    | keeps => exact .inl (.leaves state left)
    | stores stored => exact .inl (.storesAndLeaves state left stored)
    | leaves => exact .inl (.leaves state left)
    | storesAndLeaves _ _ stored => exact .inl (.storesAndLeaves state left stored)
    | accepts _ _ closed => exact .inr ⟨.inl closed, rfl, left⟩
    | connects _ _ stored => exact .inl (.storesAndLeaves state left stored)
    | posts received => exact .inr ⟨.inr received, rfl, left⟩

/-- The check before a send leaves room for one more number in the window. -/
theorem SendView.InWindow.send {conn : Conn cfg} (window : conn.sendView.InWindow)
    (ready : rdpIsConnReadyForTx conn = true)
    (half : seqAhead conn.rdp.sndUna conn.rdp.sndNxt + 1 < 32768) :
    ({ conn.sendView with sndNxt := conn.rdp.sndNxt + 1 } : SendView).InWindow := by
  have next : seqAhead conn.rdp.sndUna (conn.rdp.sndNxt + 1) =
      seqAhead conn.rdp.sndUna conn.rdp.sndNxt + 1 := seqAhead_succ (by omega)
  have notFull : seqAhead conn.rdp.sndUna conn.rdp.sndNxt ≠ conn.rdp.windowSize.toNat := by
    intro full
    -- In a full window the last number that may be sent is the one before `snd_nxt`.
    have size : conn.rdp.sndNxt - conn.rdp.sndUna = conn.rdp.windowSize.toUInt16 := by
      apply UInt16.toNat_inj.mp
      rw [seqAhead_eq] at full half
      rw [UInt32.toNat_toUInt16, full, Nat.mod_eq_of_lt (by omega)]
    have last : conn.rdp.sndUna + conn.rdp.windowSize.toUInt16 - 1 = conn.rdp.sndNxt - 1 := by
      rw [← size]
      grind
    rw [rdpIsConnReadyForTx, Bool.not_eq_true', rdpSeqAfter, last, rdpSeqBefore_eq_false,
      seqAhead_eq] at ready
    have behind : conn.rdp.sndNxt - 1 - conn.rdp.sndNxt = 65535 := by
      rw [sub_right_comm, sub_self]
      rfl
    rw [behind] at ready
    exact absurd ready (by decide)
  have fits : seqAhead conn.rdp.sndUna conn.rdp.sndNxt ≤ conn.rdp.windowSize.toNat := window.1
  refine ⟨?_, ?_⟩
  · change seqAhead conn.rdp.sndUna (conn.rdp.sndNxt + 1) ≤ conn.rdp.windowSize.toNat
    omega
  · change seqAhead conn.rdp.sndUna (conn.rdp.sndNxt + 1) < 32768
    omega

/-- This is one step of such a run. -/
theorem windowRun_step {run : WindowRun cfg} {input : ConnInput cfg}
    (sound : run.ctx.sendView.Sound run.opened) (allowed : connAllowed run.ctx input)
    (condition : AcksForward run input) :
    (run.step input).ctx.sendView.Sound (run.step input).opened ∧
      Forward run.ctx.sendView (run.step input).ctx.sendView run.opened (run.step input).opened := by
  have leaving : ∀ {after : SendView}, Leaves run.ctx.sendView after →
      after.Sound (hasOpened run.opened after.state) ∧
        Forward run.ctx.sendView after run.opened (hasOpened run.opened after.state) := by
    intro after leaves
    refine ⟨sound.leaves leaves, fun _ _ => ?_⟩
    have same : after.sndUna = run.ctx.sendView.sndUna := by
      rcases leaves with rfl | ⟨_, _, rfl⟩ <;> rfl
    rw [same]
    exact rdpSeqBefore_eq_false.mpr (by simp)
  -- A new handshake starts from a state without a window.
  have starting : ∀ {view after : SendView}, run.opened = false → view.idin = run.ctx.conn.idin →
      view.state = .synSent → view.sndNxt = view.sndIss + 1 → Leaves view after →
      after.Sound (hasOpened run.opened after.state) ∧
        Forward run.ctx.sendView after run.opened (hasOpened run.opened after.state) := by
    intro view after notOpened idin state next leaves
    have fresh : view.Sound false :=
      ⟨by rw [idin]; exact sound.rdp, by simp, fun _ => next, by simp [state], by simp⟩
    rw [notOpened]
    exact ⟨fresh.leaves leaves, by simp [Forward]⟩
  have unopened : ∀ {state}, run.ctx.conn.rdp.state = state → state ≠ .open → state ≠ .closeWait →
      run.opened = false := by
    intro state same notOpen notWaiting
    by_contra opens
    rcases sound.waits (by simpa using opens) with opened | waiting
    · exact notOpen (same.symm.trans opened)
    · exact notWaiting (same.symm.trans waiting)
  cases input with
  | connect =>
      obtain ⟨view, idin, state, next, leaves⟩ := rdpConnectAttempt_sendView
        ⟨{ run.ctx.conn with rdp := { run.ctx.conn.rdp with
            windowSize := run.ctx.stack.options.windowSize
            connTimeout := run.ctx.stack.options.connTimeout
            packetTimeout := run.ctx.stack.options.packetTimeout
            delayedAcks := run.ctx.stack.options.delayedAcks
            ackTimeout := run.ctx.stack.options.ackTimeout
            ackDelayCount := run.ctx.stack.options.ackDelayCount
            ackTimestamp := run.ctx.stack.now } }, run.ctx.stack⟩ (by simp [allowed.2])
      exact starting (unopened allowed.2 (by simp) (by simp)) idin state next leaves
  | wake retry =>
      rcases rdpConnectWake_sendView run.ctx retry with leaves | ⟨sent, view, idin, state, next, leaves⟩
      · exact leaving leaves
      · exact starting (unopened sent (by simp) (by simp)) idin state next leaves
  | arrive packet =>
      simp only [WindowRun.step, connStep, routeDeliver]
      split
      · rename_i flag
        have step := rdpNewPacket_sendStep ⟨allowed, sound.rdp⟩ packet
        simp only [routeRdp]
        generalize rdpNewPacket run.ctx packet = result at step
        obtain ⟨_ | _, middle⟩ := result
        · exact step.sound sound flag condition
        · rcases step.closes (connClose_leaves middle rdpClosedByUserspace) with step |
            ⟨before, idin, left⟩
          · exact step.sound sound flag condition
          · have notOpened : run.opened = false := by
              rcases before with closed | received
              · exact unopened closed (by simp) (by simp)
              · exact unopened received (by simp) (by simp)
            have off : hasOpened run.opened (cspClose middle).conn.rdp.state = false := by
              rw [notOpened]
              rcases left with state | state <;>
                simp [hasOpened, show (cspClose middle).conn.rdp.state = _ from state]
            rw [off]
            refine ⟨⟨by rw [show (cspClose middle).sendView.idin = _ from idin]; exact sound.rdp, by simp, ?_, ?_, by simp⟩, by simp [Forward]⟩
            · intro handshake
              rcases left with state | state <;>
                simp [show (cspClose middle).sendView.state = _ from state] at handshake
            · intro opened
              rcases left with state | state <;>
                simp [show (cspClose middle).sendView.state = _ from state] at opened
      · exact leaving (routePlain_leaves _ _)
  | timeouts => exact leaving (rdpCheckTimeouts_leaves run.ctx)
  | send packet =>
      rcases cspSend_sendView run.ctx packet with same | ⟨opened, ready, next⟩
      · exact leaving (.inl same)
      · have opens : run.opened = true := sound.isOpen opened
        have window := (sound.window opens).send ready (condition ready)
        have state : hasOpened run.opened (cspSend run.ctx (some packet)).conn.rdp.state = true := by
          rw [show (cspSend run.ctx (some packet)).conn.rdp.state = _ from congrArg SendView.state next]
          simp [hasOpened, Conn.sendView, opened]
        simp only [WindowRun.step, connStep, state]
        rw [next]
        refine ⟨⟨sound.rdp, fun _ => .inl opened, ?_, fun _ => rfl, fun _ => window⟩, fun _ _ => ?_⟩
        · intro handshake
          rcases handshake with sent | received
          · simp [show run.ctx.conn.rdp.state = _ from sent] at opened
          · simp [show run.ctx.conn.rdp.state = _ from received] at opened
        · exact rdpSeqBefore_eq_false.mpr (by simp [Conn.sendView])
  | read => exact leaving (.inl (cspRead_sendView run.ctx))
  | close => exact leaving (connClose_leaves _ _)
  | environment stack => exact leaving (.inl rfl)

theorem windowRun_sound {run : WindowRun cfg}
    (reached : ((windowMachine cfg).restrict AcksForward).Reachable run) :
    run.Sound := by
  refine Machine.Reachable.invariant ?_ ?_ reached
  · rintro run ⟨fresh, notOpened⟩
    have closed : run.ctx.sendView.state = .closed := fresh.state
    rw [WindowRun.Sound, notOpened]
    exact ⟨fresh.rdp, by simp, by simp [closed], by simp [closed], by simp⟩
  · rintro run input sound ⟨allowed, condition⟩
    exact (windowRun_step sound allowed condition).1

/-- In a run whose stored acknowledgements lie in the window, the unacknowledged numbers fit the
window, and no step moves `snd_una` backward. -/
theorem sendWindow_advances :
    ∀ run : WindowRun cfg, ((windowMachine cfg).restrict AcksForward).Reachable run →
      (run.opened = true →
        seqAhead run.ctx.conn.rdp.sndUna run.ctx.conn.rdp.sndNxt ≤
            run.ctx.conn.rdp.windowSize.toNat ∧
          rdpSeqAfter run.ctx.conn.rdp.sndUna run.ctx.conn.rdp.sndNxt = false) ∧
      ∀ input, connAllowed run.ctx input → AcksForward run input → run.opened = true →
        (run.step input).opened = true →
          rdpSeqBefore (run.step input).ctx.conn.rdp.sndUna run.ctx.conn.rdp.sndUna = false := by
  intro run reached
  have sound := windowRun_sound reached
  refine ⟨fun opens => ?_, fun input allowed condition => ?_⟩
  · obtain ⟨fits, half⟩ := sound.window opens
    exact ⟨fits, rdpSeqBefore_eq_false.mpr half⟩
  · exact (windowRun_step sound allowed condition).2

/-- The server has sent two segments, and the acknowledgement of both has arrived. -/
def twoAcked : WindowRun {} :=
  (windowMachine {}).trace ⟨freshServer, false⟩
    [.arrive (synSegment 100), .arrive (rdpSegment rdpAck 101 0 []), .send (userPacket [1]),
      .send (userPacket [2]), .arrive (rdpSegment rdpAck 101 2 [])]

theorem twoAcked_advances :
    rdpSeqAfter twoAcked.ctx.conn.rdp.sndUna twoAcked.ctx.conn.rdp.sndNxt = false := by
  have start : ((windowMachine {}).restrict AcksForward).initial ⟨freshServer, false⟩ :=
    ⟨freshServer_fresh, rfl⟩
  have reached := (Machine.Reachable.start start).trace
    [.arrive (synSegment 100), .arrive (rdpSegment rdpAck 101 0 []), .send (userPacket [1]),
      .send (userPacket [2]), .arrive (rdpSegment rdpAck 101 2 [])] (by decide +kernel)
  exact ((sendWindow_advances twoAcked reached).1 (by decide +kernel)).2

/-- A delayed acknowledgement of the first segment moves `snd_una` backward. -/
theorem twoAcked_moves_backward :
    (windowMachine {}).Reachable twoAcked ∧ twoAcked.opened = true ∧
      twoAcked.ctx.conn.state = .open ∧
      rdpSeqBefore (twoAcked.step (.arrive (rdpSegment rdpAck 101 1 []))).ctx.conn.rdp.sndUna
        twoAcked.ctx.conn.rdp.sndUna = true := by
  have start : (windowMachine {}).initial ⟨freshServer, false⟩ := ⟨freshServer_fresh, rfl⟩
  refine ⟨(Machine.Reachable.start start).trace _ ?_, ?_, ?_, ?_⟩
  · decide +kernel
  · decide +kernel
  · decide +kernel
  · decide +kernel

end Libcsp

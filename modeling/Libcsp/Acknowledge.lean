/-
This file states when csp_rdp_check_ack sends an acknowledgement that is due.
-/
import Libcsp.AcceptedSegment

namespace Libcsp

variable {cfg : Config}

/-! ## What is due -/

/-- The number of delivered segments that the last ACK does not cover. -/
def Conn.unacknowledged (conn : Conn cfg) : Nat := seqAhead conn.rdp.rcvLsa conn.rdp.rcvCur

/-- The milliseconds since the last ACK. -/
def Conn.sinceAck (conn : Conn cfg) (now : UInt32) : Nat := (now - conn.rdp.ackTimestamp).toNat

/-- The options of the peer ask for an ACK now. -/
def Conn.AckDue (conn : Conn cfg) (now : UInt32) : Prop :=
  conn.rdp.delayedAcks = 0 ∨ conn.rdp.ackDelayCount.toNat < conn.unacknowledged ∨
    conn.rdp.ackTimeout.toNat < conn.sinceAck now

instance (conn : Conn cfg) (now : UInt32) : Decidable (conn.AckDue now) :=
  inferInstanceAs (Decidable (_ ∨ _ ∨ _))

/-- The call sends one ACK, which carries `rcv_cur`. -/
def Ctx.SendsAck (ctx after : Ctx cfg) : Prop :=
  ∃ (packet : Packet) (counter : UInt8),
    after.stack.io.outbox = ctx.stack.io.outbox ++ [(cmpId ctx.conn, packet)] ∧
      packet.Carries (counter <<< 4 ||| rdpAck) ctx.conn.rdp.sndNxt ctx.conn.rdp.rcvCur []

/-! ## What the tests see -/

/-- The signed test sees the distance up to half a turn. -/
def WithinHalf (half step distance : Nat) : Prop :=
  (step < distance ∧ distance ≤ step + half) ∨ distance + half ≤ step

instance (half step distance : Nat) : Decidable (WithinHalf half step distance) :=
  inferInstanceAs (Decidable (_ ∨ _))

theorem rdpTimeAfter_add_iff (start timeout now : UInt32) :
    rdpTimeAfter now (start + timeout) = true ↔ WithinHalf (2 ^ 31) timeout.toNat (now - start).toNat := by
  have before : rdpTimeAfter now (start + timeout) =
      Serial.before (start.toBitVec + timeout.toBitVec) now.toBitVec := by
    rw [rdpTimeAfter, rdpTimeBefore, Serial.before, ← UInt32.toBitVec_add, ← UInt32.toBitVec_sub,
      BitVec.msb_eq_toInt]
    simp only [Int32.lt_iff_toInt_lt]
    rfl
  rw [before, Serial.before_add_iff (by decide)]
  rfl

theorem rdpSeqAfter_add_iff (start count seq : UInt16) :
    rdpSeqAfter seq (start + count) = true ↔ WithinHalf (2 ^ 15) count.toNat (seqAhead start seq) := by
  rw [rdpSeqAfter, rdpSeqBefore_eq, UInt16.toBitVec_add, Serial.before_add_iff (by decide)]
  rfl

/-- The tests of `csp_rdp_should_ack` on the distances. -/
def Conn.SeesAck (conn : Conn cfg) (now : UInt32) : Prop :=
  conn.rdp.delayedAcks = 0 ∨ WithinHalf (2 ^ 31) conn.rdp.ackTimeout.toNat (conn.sinceAck now) ∨
    WithinHalf (2 ^ 15) (conn.rdp.ackDelayCount.toNat % 2 ^ 16) conn.unacknowledged

instance (conn : Conn cfg) (now : UInt32) : Decidable (conn.SeesAck now) :=
  inferInstanceAs (Decidable (_ ∨ _ ∨ _))

theorem rdpShouldAck_iff (conn : Conn cfg) (now : UInt32) : rdpShouldAck conn now = true ↔ conn.SeesAck now := by
  have timer := rdpTimeAfter_add_iff conn.rdp.ackTimestamp conn.rdp.ackTimeout now
  have counter := rdpSeqAfter_add_iff conn.rdp.rcvLsa conn.rdp.ackDelayCount.toUInt16 conn.rdp.rcvCur
  rw [UInt32.toNat_toUInt16] at counter
  unfold rdpShouldAck Conn.SeesAck Conn.sinceAck Conn.unacknowledged
  rw [← timer, ← counter]
  by_cases always : conn.rdp.delayedAcks = 0
  · simp [always]
  · rw [if_neg always, or_iff_right always]
    split
    · rename_i rings
      simp [rings]
    · rename_i quiet
      rw [or_iff_right quiet]

/-- The empty receive queue has more room than twice the window, read as a signed number. -/
def Conn.WindowFits (conn : Conn cfg) : Prop :=
  (2 * conn.rdp.windowSize).toInt32.toInt < (cfg.connRxqueueLen : Int)

instance (conn : Conn cfg) : Decidable conn.WindowFits := inferInstanceAs (Decidable (_ < _))

theorem rdpRxQueueShort_iff {conn : Conn cfg} (empty : conn.rxQueue.items = []) :
    rdpRxQueueShort conn = false ↔ conn.WindowFits := by
  rw [rdpRxQueueShort, decide_eq_false_iff_not, Conn.WindowFits, BoundedQueue.free, empty, Int.not_le]
  rfl

/-! ## The call -/

theorem rdpHeaderAdd_empty (packet : Packet) (room : rdpHeaderSize ≤ cfg.bufferSize) :
    ∃ framed, rdpHeaderAdd cfg { packet with length := 0 } = some framed := by
  have fits : ¬(0 : UInt16).toNat + rdpHeaderSize > cfg.bufferSize := by
    simp only [UInt16.toNat_zero]
    omega
  rw [rdpHeaderAdd, if_neg fits]
  exact ⟨_, rfl⟩

/-- A control message without SYN leaves at once. -/
theorem rdpSendCmpPacket_plain {ctx : Ctx cfg} {packet framed : Packet} {flags : UInt8}
    (added : rdpHeaderAdd cfg packet = some framed) (plain : flags &&& rdpSyn = 0) (seqNr ackNr : UInt16) :
    rdpSendCmpPacket ctx packet flags seqNr ackNr =
      (.none, rdpSendCmpFinish { ctx with stack.rdpIncr := ctx.stack.rdpIncr + 1 }
        (cmpPacket ctx.stack framed flags seqNr ackNr) flags ackNr) := by
  rw [rdpSendCmpPacket, added]
  simp [plain]

/-- With a buffer an ACK leaves. -/
theorem rdpSendCmp_sendsAck {ctx : Ctx cfg} (available : (bufferGet ctx.stack.io.pool 20).1.isSome) :
    ctx.SendsAck (rdpSendCmp ctx none rdpAck ctx.conn.rdp.sndNxt ctx.conn.rdp.rcvCur).2 := by
  have room : rdpHeaderSize ≤ cfg.bufferSize := by
    by_contra small
    simp only [rdpHeaderSize] at small
    rw [bufferGet, if_pos (by omega)] at available
    cases available
  rw [rdpSendCmp]
  cases got : bufferGet ctx.stack.io.pool 20 with
  | mk taken pool =>
      cases taken with
      | none =>
          rw [got] at available
          cases available
      | some packet =>
          obtain ⟨framed, added⟩ := @rdpHeaderAdd_empty cfg packet room
          have carries := setRdpHeader_carries added (ctx.stack.rdpIncr <<< 4 ||| rdpAck)
            ctx.conn.rdp.sndNxt ctx.conn.rdp.rcvCur
          refine ⟨cmpPacket ctx.stack framed rdpAck ctx.conn.rdp.sndNxt ctx.conn.rdp.rcvCur,
            ctx.stack.rdpIncr, ?_, carries⟩
          simp only
          rw [rdpSendCmpPacket_plain added (by decide)]
          obtain ⟨_, _, _, finished, outbox⟩ := rdpSendCmpFinish_sends
            (⟨ctx.conn, { ctx.stack with io.pool := pool, rdpIncr := ctx.stack.rdpIncr + 1 }⟩ : Ctx cfg)
            (cmpPacket ctx.stack framed rdpAck ctx.conn.rdp.sndNxt ctx.conn.rdp.rcvCur) rdpAck
            ctx.conn.rdp.rcvCur
          exact (congrArg (fun ctx : Ctx cfg => ctx.stack.io.outbox) finished).trans outbox

theorem Ctx.not_sendsAck_self (ctx : Ctx cfg) : ¬ctx.SendsAck ctx := by
  rintro ⟨packet, counter, outbox, _⟩
  have lengths := congrArg List.length outbox
  rw [List.length_append, List.length_singleton] at lengths
  omega

/-- An ACK that is due leaves exactly when twice the window stays below the length of the receive queue, and when
one of the tests sees that the ACK is due. -/
theorem rdpCheckAck_sendsAck_iff (ctx : Ctx cfg) (empty : ctx.conn.rxQueue.items = [])
    (available : (bufferGet ctx.stack.io.pool 20).1.isSome) :
    (ctx.conn.AckDue ctx.stack.now → ctx.SendsAck (rdpCheckAck ctx)) ↔
      (ctx.conn.AckDue ctx.stack.now → ctx.conn.WindowFits ∧ ctx.conn.SeesAck ctx.stack.now) := by
  apply imp_congr_right
  intro _
  rw [← rdpRxQueueShort_iff empty, ← rdpShouldAck_iff, rdpCheckAck]
  cases short : rdpRxQueueShort ctx.conn with
  | true =>
      rw [if_pos rfl]
      simp [ctx.not_sendsAck_self]
  | false =>
      rw [if_neg (by decide)]
      cases sees : rdpShouldAck ctx.conn ctx.stack.now with
      | true =>
          rw [if_pos rfl]
          simp [rdpSendCmp_sendsAck available]
      | false =>
          rw [if_neg (by decide)]
          simp [ctx.not_sendsAck_self]

/-- A connection without delayed acknowledgements owes an ACK at all times. -/
theorem openEnd_sendsAck : openEnd.SendsAck (rdpCheckAck openEnd) := by
  have due : openEnd.conn.AckDue openEnd.stack.now := .inl rfl
  exact (rdpCheckAck_sendsAck_iff openEnd rfl (by decide)).mpr (fun _ => ⟨by decide, .inl rfl⟩) due

/-- A server after the handshake with a peer whose SYN announces a window of eight segments. -/
def wideServer : Ctx {} :=
  (rdpNewPacket (rdpNewPacket freshServer (rdpSegment rdpSyn 100 0 ([0, 0, 0, 8] ++ List.replicate 20 0))).2
    (rdpSegment rdpAck 101 0 [])).2

/-- The peer of this server gets no ACK. -/
theorem wideServer_silent :
    wideServer.conn.rdp.state = .open ∧ wideServer.conn.rdp.windowSize = 8 ∧ wideServer.conn.rxQueue.items = [] ∧
      (bufferGet wideServer.stack.io.pool 20).1.isSome ∧ wideServer.conn.AckDue wideServer.stack.now ∧
      ¬wideServer.SendsAck (rdpCheckAck wideServer) := by
  have short : rdpRxQueueShort wideServer.conn = true := by decide +kernel
  refine ⟨by decide +kernel, by decide +kernel, by decide +kernel, by decide +kernel, by decide +kernel, ?_⟩
  rw [rdpCheckAck, if_pos short]
  exact wideServer.not_sendsAck_self

end Libcsp

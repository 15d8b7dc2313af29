/-
This file shows that the sender removes the segments whose numbers the receiver put into an EACK.
-/
import Libcsp.Delivery
import Libcsp.EackFlush

namespace Libcsp

variable {cfg peerCfg : Config}

/-! ## The way to the decoder -/

/-- The halfwords of two packets agree inside the bytes that agree. -/
theorem data16_congr {first second : Packet} {count : Nat} (same : first.dataBytes count = second.dataBytes count)
    {index : Nat} (inside : 2 * index + 1 < count) : first.data16 index = second.data16 index := by
  have bytes : ∀ place < count, first.data place = second.data place := by
    intro place below
    have found := congrArg (fun bytes => bytes[place]?) same
    simpa [Packet.dataBytes, below] using found
  exact be16_congr (bytes (2 * index) (by omega)) (bytes (2 * index + 1) inside)

/-- The decoder reads the data in front of the header. -/
theorem eackNumbers_congr {first second : Packet} (length : first.length = second.length)
    (body : first.body = second.body) : eackNumbers first = eackNumbers second := by
  have count : eackCount first = eackCount second := by rw [eackCount, eackCount, length]
  rw [eackNumbers, eackNumbers, count]
  apply List.map_congr_left
  intro index inside
  have below := List.mem_range.mp inside
  rw [Packet.body, Packet.body, length] at body
  rw [eackCount] at below
  exact data16_congr body (by omega)

/-- The decoder reads the list in front of a new header. -/
theorem Packet.ListsNumbers.carried {packet sent : Packet} {numbers : List UInt16} (lists : packet.ListsNumbers numbers)
    {flags : UInt8} {seqNr ackNr : UInt16} (carries : sent.Carries flags seqNr ackNr packet.payload) :
    eackNumbers sent = numbers := by
  have length := carries.length
  have size := lists.length
  rw [Packet.payload_length] at length
  have count : eackCount sent = numbers.length := by
    rw [eackCount, length]
    omega
  have whole : sent.length.toNat - rdpHeaderSize = packet.length.toNat := by omega
  have body : sent.dataBytes packet.length.toNat = packet.dataBytes packet.length.toNat := by
    have body := carries.body
    rwa [Packet.body, whole] at body
  rw [eackNumbers, count]
  refine Eq.trans ?_ lists.entries
  apply List.map_congr_left
  intro index inside
  have below := List.mem_range.mp inside
  exact data16_congr body (by omega)

/-- The transport and the byte order of the header leave the list alone. -/
theorem eackNumbers_arrived {arrived sent : Packet} (same : arrived.SameBytes sent)
    (long : rdpHeaderSize ≤ sent.length.toNat) : eackNumbers (rdpHeaderToHost arrived) = eackNumbers sent := by
  apply eackNumbers_congr
  · exact same.1
  · rw [rdpHeaderToHost_body]
    exact (same.sameSegment (by rw [same.1]; exact long)).body

/-! ## The two ends -/

section Receiver
variable {receiver : Ctx cfg}

/-- The receiver has no buffer, or it sends the list of the numbers and has its segments in their order. -/
theorem rdpSendEack_cases (own : receiver.OwnsRx) :
    (∃ pool, bufferGet receiver.stack.io.pool 100 = (none, pool) ∧
        rdpSendEack receiver =
          (.nomem, { receiver with stack := { receiver.stack with io := { receiver.stack.io with pool } } })) ∨
      ∃ pool queue eack, 100 ≤ cfg.bufferSize ∧ queue.items = receiver.stack.rxQueue.items ∧
        (receiver.stack.rxQueue.items.length ≤ 47 →
          eack.ListsNumbers (receiver.stack.rxQueue.items.map Packet.hostSeqNr)) ∧
        rdpSendEack receiver = rdpSendCmp
          ⟨receiver.conn, { receiver.stack with rxQueue := queue, io := { receiver.stack.io with pool } }⟩
          (some eack) (rdpAck ||| rdpEak) receiver.conn.rdp.sndNxt receiver.conn.rdp.rcvCur := by
  unfold rdpSendEack
  obtain ⟨got, _⟩ | ⟨packet, rest, large, _, got⟩ := bufferGet_cases receiver.stack.io.pool 100
  · rw [got]
    exact .inl ⟨_, rfl, rfl⟩
  · rw [got]
    generalize (⟨rest, Function.update receiver.stack.io.pool.refcount packet.buf 1⟩ : Pool cfg) = pool
    obtain ⟨queue, turned, order, lists⟩ := rdpEackLoop_lists receiver.conn.index receiver.stack.rxQueue.items []
      { packet with length := 0 } [] (100 - rdpHeaderSize)
      { receiver.stack with io := { receiver.stack.io with pool } } (List.append_nil _).symm own
    have listed := fun few => lists packet.listsNumbers_nil (by rw [List.length_nil]; exact few) rfl
    simp only [BoundedQueue.size]
    generalize rdpEackLoop receiver.conn.index receiver.stack.rxQueue.items.length { packet with length := 0 }
      (100 - rdpHeaderSize) { receiver.stack with io := { receiver.stack.io with pool } } = result at turned listed ⊢
    obtain ⟨eack, stack⟩ := result
    obtain rfl := turned
    exact .inr ⟨pool, queue, eack, large, order, fun few => listed (by omega), rfl⟩

/-- The receiver keeps its segments in their order, with or without a buffer for the EACK. -/
theorem rdpSendEack_rxQueue (own : receiver.OwnsRx) :
    (rdpSendEack receiver).2.stack.rxQueue.items = receiver.stack.rxQueue.items := by
  obtain ⟨pool, _, failed⟩ | ⟨pool, queue, eack, _, order, _, called⟩ := rdpSendEack_cases own
  · rw [failed]
  · rw [called]
    obtain ⟨_, _, _, _, _, sent⟩ := rdpSendCmp_changes
      ⟨receiver.conn, { receiver.stack with rxQueue := queue, io := { receiver.stack.io with pool } }⟩
      (some eack) (rdpAck ||| rdpEak) receiver.conn.rdp.sndNxt receiver.conn.rdp.rcvCur
    rw [sent]
    exact order

/-- With a buffer, an EACK with the numbers of the stored segments leaves. -/
theorem rdpSendEack_sends (own : receiver.OwnsRx) (few : cfg.rdpMaxWindow * 2 ≤ 47)
    (available : (bufferGet receiver.stack.io.pool 100).1.isSome) :
    (rdpSendEack receiver).1 = .none ∧ ∃ eack,
      (rdpSendEack receiver).2.stack.io.outbox = receiver.stack.io.outbox ++ [(cmpId receiver.conn, eack)] ∧
        rdpHeaderSize ≤ eack.length.toNat ∧
        eackNumbers eack = receiver.stack.rxQueue.items.map Packet.hostSeqNr := by
  have bounded := receiver.stack.rxQueue.bounded
  obtain ⟨pool, failed, _⟩ | ⟨pool, queue, eack, large, _, lists, called⟩ := rdpSendEack_cases own
  · rw [failed] at available
    cases available
  · have listed := lists (Nat.le_trans bounded few)
    have length := listed.length
    rw [List.length_map] at length
    have fits : ¬eack.length.toNat + rdpHeaderSize > cfg.bufferSize := by
      rw [length, rdpHeaderSize]
      omega
    have added : ∃ framed, rdpHeaderAdd cfg eack = some framed := by
      rw [rdpHeaderAdd, if_neg fits]
      exact ⟨_, rfl⟩
    obtain ⟨framed, added⟩ := added
    have carries := setRdpHeader_carries added (receiver.stack.rdpIncr <<< 4 ||| (rdpAck ||| rdpEak))
      receiver.conn.rdp.sndNxt receiver.conn.rdp.rcvCur
    rw [called, rdpSendCmp, rdpSendCmpPacket_plain added (by decide)]
    obtain ⟨_, _, _, finished, outbox⟩ := rdpSendCmpFinish_sends
      (⟨receiver.conn, { receiver.stack with
        rxQueue := queue
        io := { receiver.stack.io with pool }
        rdpIncr := receiver.stack.rdpIncr + 1 }⟩ : Ctx cfg)
      (cmpPacket receiver.stack framed (rdpAck ||| rdpEak) receiver.conn.rdp.sndNxt receiver.conn.rdp.rcvCur)
      (rdpAck ||| rdpEak) receiver.conn.rdp.rcvCur
    refine ⟨rfl, cmpPacket receiver.stack framed (rdpAck ||| rdpEak) receiver.conn.rdp.sndNxt receiver.conn.rdp.rcvCur,
      ?_, ?_, listed.carried carries⟩
    · exact (congrArg (fun ctx : Ctx cfg => ctx.stack.io.outbox) finished).trans outbox
    · have whole := carries.length
      change rdpHeaderSize ≤ (setRdpHeader framed _ _ _).length.toNat
      rw [whole]
      exact Nat.le_add_left _ _

end Receiver

/-- The EACK frees exactly the segments with these numbers, and all others stay in their order. -/
structure RemovesHeld (sender : Ctx cfg) (eack : Packet) (held : List UInt16) : Prop where
  removed : ∃ pool packets, (rdpFlushEack sender eack).stack.io = { sender.stack.io with pool } ∧
    pool = freeAll sender.stack.io.pool packets ∧
    packets.map Packet.buf = (sender.stack.txQueue.items.filter fun packet => packet.seqNr ∈ held).map Packet.buf
  kept : List.Forall₂ Packet.Restamped (rdpFlushEack sender eack).stack.txQueue.items
    (sender.stack.txQueue.items.filter fun packet => packet.seqNr ∉ held)

theorem rdpFlushEack_removes {sender : Ctx cfg} (own : sender.OwnsTx) (eack : Packet) :
    RemovesHeld sender eack (eackNumbers eack) := by
  obtain ⟨queue, pool, flushed, freed, kept⟩ := rdpFlushEack_packets sender own eack
  have lists : ∀ packet : Packet, eackLists eack packet.seqNr = decide (packet.seqNr ∈ eackNumbers eack) := by
    intro packet
    rw [Bool.eq_iff_iff, decide_eq_true_iff]
    exact eackLists_iff eack packet.seqNr
  simp only [lists] at freed kept
  refine ⟨⟨pool, _, by rw [flushed], freed, ?_⟩, ?_⟩
  · rw [List.map_map]
    apply List.map_congr_left
    intro packet _
    obtain ⟨_, _, same⟩ := eackMarkAll_restamped sender.stack.now sender.conn.rdp.packetTimeout eack packet
    rw [Function.comp_apply, same]
  · rw [flushed, kept, List.forall₂_map_left_iff]
    simp only [decide_not]
    apply List.forall₂_same.mpr
    intro packet _
    exact eackMarkAll_restamped sender.stack.now sender.conn.rdp.packetTimeout eack packet

/-- The receiver keeps its reassembly queue, and the sender removes the segments whose numbers are in this queue. -/
theorem rdpSendEack_rdpFlushEack (receiver : Ctx cfg) (sender : Ctx peerCfg) (few : cfg.rdpMaxWindow * 2 ≤ 47)
    (ownRx : receiver.OwnsRx) (ownTx : sender.OwnsTx) :
    (rdpSendEack receiver).2.stack.rxQueue.items = receiver.stack.rxQueue.items ∧
      ((bufferGet receiver.stack.io.pool 100).1.isSome → (rdpSendEack receiver).1 = .none ∧ ∃ eack,
        (rdpSendEack receiver).2.stack.io.outbox = receiver.stack.io.outbox ++ [(cmpId receiver.conn, eack)] ∧
          ∀ arrived : Packet, arrived.SameBytes eack →
            RemovesHeld sender (rdpHeaderToHost arrived) (receiver.stack.rxQueue.items.map Packet.hostSeqNr)) := by
  refine ⟨rdpSendEack_rxQueue ownRx, fun available => ?_⟩
  obtain ⟨built, eack, outbox, long, numbers⟩ := rdpSendEack_sends ownRx few available
  refine ⟨built, eack, outbox, fun arrived same => ?_⟩
  have removes := rdpFlushEack_removes ownTx (rdpHeaderToHost arrived)
  rwa [eackNumbers_arrived same long, numbers] at removes

/-- An open connection that holds the segment 2 and misses the segment 1. -/
def holdingEnd : Ctx {} :=
  { openEnd with
    stack := rdpQueueRxAdd openEnd.stack openEnd.conn.index (rdpHeaderToHost (rdpSegment rdpAck 2 0 [7])) }

/-- Of two sent segments, the sender removes the one that the receiver holds. -/
theorem holdingEnd_sentTwo : holdingEnd.stack.rxQueue.items.map Packet.hostSeqNr = [2] ∧
    (rdpSendEack holdingEnd).2.stack.rxQueue.items = holdingEnd.stack.rxQueue.items ∧
    ∃ eack, (rdpSendEack holdingEnd).2.stack.io.outbox =
        holdingEnd.stack.io.outbox ++ [(cmpId holdingEnd.conn, eack)] ∧
      ∀ arrived : Packet, arrived.SameBytes eack → RemovesHeld (sentTwo 1 10) (rdpHeaderToHost arrived)
        (holdingEnd.stack.rxQueue.items.map Packet.hostSeqNr) := by
  have ownRx : ∀ packet ∈ holdingEnd.stack.rxQueue.items, packet.conn = holdingEnd.conn.index := by decide +kernel
  have ownTx : (sentTwo 1 10).OwnsTx := by decide +kernel
  obtain ⟨kept, sends⟩ := rdpSendEack_rdpFlushEack holdingEnd (sentTwo 1 10) (by decide) ownRx ownTx
  exact ⟨by decide +kernel, kept, (sends (by decide +kernel)).2⟩

end Libcsp

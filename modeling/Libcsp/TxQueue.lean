/-
This file states what the state machine does to the segments of the retransmission queue.
-/
import Libcsp.ConnMachine
import Libcsp.QueueFlush

namespace Libcsp

variable {cfg : Config}

/-! ## Segments -/

/-- Two copies of one segment differ only in the acknowledgement, the timestamps, and the tag. -/
structure Packet.SameSegment (first second : Packet) : Prop where
  length : first.length = second.length
  flags : first.rdpFlags = second.rdpFlags
  seqNr : first.seqNr = second.seqNr
  body : first.body = second.body

theorem Packet.SameSegment.refl (packet : Packet) : packet.SameSegment packet := ⟨rfl, rfl, rfl, rfl⟩

theorem Packet.SameSegment.trans {first second third : Packet} (left : first.SameSegment second)
    (right : second.SameSegment third) : first.SameSegment third :=
  ⟨left.length.trans right.length, left.flags.trans right.flags, left.seqNr.trans right.seqNr,
    left.body.trans right.body⟩

theorem Packet.SameSegment.hasRdp {first second : Packet} (same : first.SameSegment second)
    (flag : UInt8) : first.hasRdp flag = second.hasRdp flag := by
  rw [Packet.hasRdp, Packet.hasRdp, same.flags]

theorem refreshAck_same (packet : Packet) (ackNr : UInt16) (now : UInt32) :
    (refreshAck packet ackNr now).SameSegment packet := by
  have header : rdpHeaderRef (refreshAck packet ackNr now) = rdpHeaderRef packet := rfl
  refine ⟨rfl, ?_, ?_, ?_⟩
  · rw [Packet.rdpFlags, header]
    exact putBe16_other (.inl (by omega))
  · rw [Packet.seqNr, header]
    exact be16_putBe16_other (.inl (by omega))
  · unfold Packet.body Packet.dataBytes
    apply List.map_congr_left
    intro index inside
    have short : index < packet.length.toNat - rdpHeaderSize := List.mem_range.mp inside
    refine putBe16_other (.inl ?_)
    simp only [rdpHeaderRef]
    omega

theorem Packet.tagged_same (packet : Packet) (conn : Nat) : (packet.tagged conn).SameSegment packet :=
  ⟨rfl, rfl, rfl, rfl⟩

/-- The numbers and payloads of the data segments. The queue also holds copies of SYN messages. -/
def dataOf (items : List Packet) : List (UInt16 × List UInt8) :=
  (items.filter fun packet => !packet.hasRdp rdpSyn).map fun packet => (packet.seqNr, packet.body)

theorem dataOf_append (left right : List Packet) : dataOf (left ++ right) = dataOf left ++ dataOf right := by
  simp [dataOf]

theorem dataOf_syn {packet : Packet} (syn : packet.hasRdp rdpSyn = true) : dataOf [packet] = [] := by
  simp [dataOf, syn]

theorem dataOf_segment {packet : Packet} (data : packet.hasRdp rdpSyn = false) :
    dataOf [packet] = [(packet.seqNr, packet.body)] := by
  simp [dataOf, data]

theorem Packet.SameSegment.dataOf {first second : Packet} (same : first.SameSegment second) :
    dataOf [first] = dataOf [second] := by
  cases syn : second.hasRdp rdpSyn with
  | true => rw [dataOf_syn syn, dataOf_syn ((same.hasRdp rdpSyn).trans syn)]
  | false =>
      rw [dataOf_segment syn, dataOf_segment ((same.hasRdp rdpSyn).trans syn), same.seqNr, same.body]

/-- Copies of the segments have the same data. -/
theorem dataOf_map {copy : Packet → Packet} (same : ∀ packet, (copy packet).SameSegment packet) (items : List Packet) :
    dataOf (items.map copy) = dataOf items := by
  induction items with
  | nil => rfl
  | cons head rest ih =>
      rw [List.map_cons, ← List.singleton_append, dataOf_append, (same head).dataOf, ih, ← dataOf_append,
        List.singleton_append]

theorem dataOf_filter (keeps : UInt16 → Bool) (items : List Packet) :
    dataOf (items.filter fun packet => keeps packet.seqNr) = (dataOf items).filter fun segment => keeps segment.1 := by
  simp only [dataOf, List.filter_map, List.filter_filter]
  apply congrArg
  apply List.filter_congr
  intro packet _
  exact Bool.and_comm _ _

theorem dataOf_filter_of_false {packet : Packet} (keeps : UInt16 → Bool)
    (dropped : keeps packet.seqNr = false) :
    (Libcsp.dataOf [packet]).filter (fun segment => keeps segment.1) = [] := by
  cases syn : packet.hasRdp rdpSyn with
  | true => rw [dataOf_syn syn, List.filter_nil]
  | false => simp [dataOf_segment syn, dropped]

theorem dataOf_filter_of_true {packet : Packet} (keeps : UInt16 → Bool)
    (kept : keeps packet.seqNr = true) :
    (Libcsp.dataOf [packet]).filter (fun segment => keeps segment.1) = Libcsp.dataOf [packet] := by
  cases syn : packet.hasRdp rdpSyn with
  | true => rw [dataOf_syn syn, List.filter_nil]
  | false => simp [dataOf_segment syn, kept]

/-! ## The marks of the inner loop -/

/-- The sequence numbers in an EACK. -/
def eackNumbers (eack : Packet) : List UInt16 := (List.range (eackCount eack)).map eack.data16

theorem eackLists_iff (eack : Packet) (seqNr : UInt16) : eackLists eack seqNr = true ↔ seqNr ∈ eackNumbers eack := by
  simp [eackLists, eackNumbers]

/-- An expedited packet is due at once, and then it has a quarantine. -/
def Packet.expedite (packet : Packet) (now packetTimeout : UInt32) : Packet :=
  { packet with
    timestampTx := now - packetTimeout - 1
    rdpQuarantine := now + packetTimeout / 2 }

/-- A listed number is larger than the one of the packet, as plain numbers. -/
def Packet.BelowListed (packet eack : Packet) : Prop := ∃ number ∈ eackNumbers eack, packet.seqNr < number

instance (packet eack : Packet) : Decidable (packet.BelowListed eack) :=
  inferInstanceAs (Decidable (∃ number ∈ eackNumbers eack, _))

theorem eackMark_expedite (now packetTimeout : UInt32) (number : UInt16) (packet : Packet) :
    eackMark now packetTimeout number (packet.expedite now packetTimeout) = packet.expedite now packetTimeout := by
  unfold eackMark
  split <;> rfl

theorem eackMarks_expedite (now packetTimeout : UInt32) (numbers : List UInt16) (packet : Packet) :
    numbers.foldl (fun packet number => eackMark now packetTimeout number packet) (packet.expedite now packetTimeout) =
      packet.expedite now packetTimeout := by
  induction numbers with
  | nil => rfl
  | cons number rest ih => rw [List.foldl_cons, eackMark_expedite, ih]

theorem eackMarks_eq (now packetTimeout : UInt32) (numbers : List UInt16) (packet : Packet) :
    numbers.foldl (fun packet number => eackMark now packetTimeout number packet) packet =
      if (∃ number ∈ numbers, packet.seqNr < number) ∧ rdpTimeAfter now packet.rdpQuarantine = true then
        packet.expedite now packetTimeout
      else packet := by
  induction numbers with
  | nil => simp
  | cons number rest ih =>
      rw [List.foldl_cons]
      by_cases selected : packet.seqNr < number ∧ rdpTimeAfter now packet.rdpQuarantine = true
      · have marked : eackMark now packetTimeout number packet = packet.expedite now packetTimeout := by
          rw [eackMark, if_pos (by simpa using selected)]
          rfl
        rw [marked, eackMarks_expedite, if_pos ⟨⟨number, List.mem_cons_self, selected.1⟩, selected.2⟩]
      · have unmarked : eackMark now packetTimeout number packet = packet := by
          rw [eackMark, if_neg (by simpa using selected)]
        rw [unmarked, ih]
        have same : ((∃ other ∈ number :: rest, packet.seqNr < other) ∧ rdpTimeAfter now packet.rdpQuarantine = true) ↔
            ((∃ other ∈ rest, packet.seqNr < other) ∧ rdpTimeAfter now packet.rdpQuarantine = true) := by
          simp only [List.mem_cons, exists_eq_or_imp]
          tauto
        exact (if_congr same rfl rfl).symm

/-- The inner loop expedites a packet at most once. -/
theorem eackMarkAll_eq (now packetTimeout : UInt32) (eack packet : Packet) :
    eackMarkAll now packetTimeout eack packet =
      if packet.BelowListed eack ∧ rdpTimeAfter now packet.rdpQuarantine = true then
        packet.expedite now packetTimeout
      else packet := by
  have folded : eackMarkAll now packetTimeout eack packet =
      (eackNumbers eack).foldl (fun packet number => eackMark now packetTimeout number packet) packet := by
    rw [eackMarkAll, eackNumbers, List.foldl_map]
  exact folded.trans (eackMarks_eq now packetTimeout (eackNumbers eack) packet)

theorem eackMarkAll_same (now packetTimeout : UInt32) (eack packet : Packet) :
    (eackMarkAll now packetTimeout eack packet).SameSegment packet := by
  rw [eackMarkAll_eq]
  split
  · exact ⟨rfl, rfl, rfl, rfl⟩
  · exact .refl packet

/-! ## Scans of a queue with one owner -/

/-- All packets of the retransmission queue belong to the connection. -/
def Ctx.OwnsTx (ctx : Ctx cfg) : Prop := ∀ packet ∈ ctx.stack.txQueue.items, packet.conn = ctx.conn.index

theorem rdpQueueTxGet_own {stack : Stack cfg} {conn : Nat} {head : Packet} {rest : List Packet}
    (items : stack.txQueue.items = head :: rest) (own : head.conn = conn) :
    ∃ queue, rdpQueueTxGet stack conn = (some head, { stack with txQueue := queue }) ∧
      queue.items = rest := by
  obtain ⟨found, queue, got, takes⟩ := rdpQueueTxGet_takes stack conn
  rw [items] at takes
  obtain ⟨rfl, rest⟩ := takes.of_own_head own
  exact ⟨queue, got, rest⟩

/-- The place of the taken head is free for its return, whatever the output path did meanwhile. -/
theorem rdpQueueTxAdd_back {stack : Stack cfg} {head : Packet} {rest : List Packet}
    {queue : BoundedQueue Packet (cfg.rdpMaxWindow * 2)} (items : stack.txQueue.items = head :: rest)
    (tail : queue.items = rest) (io : Io cfg) (conn : Nat) (packet : Packet) :
    ∃ longer, rdpQueueTxAdd { stack with io, txQueue := queue } conn packet =
        { stack with io, txQueue := longer } ∧
      longer.items = rest ++ [packet.tagged conn] := by
  have room : queue.items.length < cfg.rdpMaxWindow * 2 := by
    have bounded := stack.txQueue.bounded
    rw [items, List.length_cons] at bounded
    rw [tail]
    omega
  obtain ⟨longer, added, whole⟩ :=
    rdpQueueTxAdd_room { stack with io, txQueue := queue } conn packet room
  exact ⟨longer, added, by rw [whole, tail]⟩

theorem own_of_snoc {packet : Packet} {rest : List Packet} {conn : Nat}
    (own : ∀ packet ∈ rest, packet.conn = conn) :
    ∀ other ∈ rest ++ [packet.tagged conn], other.conn = conn := by
  intro other member
  rcases List.mem_append.mp member with member | member
  · exact own other member
  · rw [List.mem_singleton.mp member]
    rfl

/-- A retransmission gives at most a copy of the packet to the output path. -/
theorem rdpRetransmit_sends (conn : Conn cfg) (stack : Stack cfg) (packet : Packet) :
    ∃ io sent, rdpRetransmit conn stack packet = { stack with io } ∧
      io.outbox = stack.io.outbox ++ sent ∧ ∀ entry ∈ sent, entry.2.SameSegment packet := by
  have copied : ∀ copy, (bufferClone stack.io.pool (some packet)).1 = some copy →
      copy.SameSegment packet := by
    intro copy cloned
    rw [bufferClone_some] at cloned
    obtain ⟨_, _, rfl⟩ := Option.map_eq_some_iff.mp cloned
    exact ⟨rfl, rfl, rfl, rfl⟩
  simp only [rdpRetransmit]
  generalize bufferClone stack.io.pool (some packet) = result at copied
  obtain ⟨copy, pool⟩ := result
  refine ⟨_, _, rfl, sendDirect_outbox _ conn.idout copy none, ?_⟩
  intro entry member
  cases copy with
  | none => cases member
  | some copy =>
      rw [List.mem_singleton.mp member]
      exact copied copy rfl

/-- The timer frees the acknowledged segments, keeps all others, and sends only what it keeps. -/
theorem rdpTimeoutLoop_own (conn : Conn cfg) (unvisited visited : List Packet) (stack : Stack cfg)
    (items : stack.txQueue.items = unvisited ++ visited)
    (own : ∀ packet ∈ stack.txQueue.items, packet.conn = conn.index) :
    ∃ io queue sent, rdpTimeoutLoop conn unvisited.length stack =
        { stack with io, txQueue := queue } ∧
      (∀ packet ∈ queue.items, packet.conn = conn.index) ∧
      dataOf queue.items = dataOf visited ++
        (dataOf unvisited).filter (fun segment => !rdpSeqBefore segment.1 conn.rdp.sndUna) ∧
      io.outbox = stack.io.outbox ++ sent ∧
      ∀ entry ∈ sent, ∃ packet ∈ unvisited, entry.2.SameSegment packet := by
  induction unvisited generalizing visited stack with
  | nil =>
      refine ⟨stack.io, stack.txQueue, [], rfl, own, ?_, (List.append_nil _).symm, by simp⟩
      rw [items]
      exact (List.append_nil _).symm
  | cons head unvisited ih =>
      rw [List.cons_append] at items
      obtain ⟨queue, got, tail⟩ := rdpQueueTxGet_own items (own head (by simp [items]))
      have ownTail : ∀ packet ∈ unvisited ++ visited, packet.conn = conn.index := fun packet member =>
        own packet (by rw [items]; exact List.mem_cons_of_mem _ member)
      have split : dataOf (head :: unvisited) = dataOf [head] ++ dataOf unvisited :=
        dataOf_append [head] unvisited
      -- The rest of the loop, when the head goes back as a copy of the same segment.
      have back : ∀ (io : Io cfg) (packet : Packet) (sent : List (CspId × Packet)),
          packet.SameSegment head → rdpSeqBefore head.seqNr conn.rdp.sndUna = false →
          io.outbox = stack.io.outbox ++ sent →
          (∀ entry ∈ sent, entry.2.SameSegment packet) →
          ∃ io' queue' sent', rdpTimeoutLoop conn unvisited.length
              (rdpQueueTxAdd { stack with io, txQueue := queue } conn.index packet) =
              { stack with io := io', txQueue := queue' } ∧
            (∀ packet ∈ queue'.items, packet.conn = conn.index) ∧
            dataOf queue'.items = dataOf visited ++
              (dataOf (head :: unvisited)).filter
                (fun segment => !rdpSeqBefore segment.1 conn.rdp.sndUna) ∧
            io'.outbox = stack.io.outbox ++ sent' ∧
            ∀ entry ∈ sent', ∃ packet ∈ head :: unvisited, entry.2.SameSegment packet := by
        intro io packet sent same kept outbox copies
        obtain ⟨longer, added, whole⟩ := rdpQueueTxAdd_back items tail io conn.index packet
        obtain ⟨io', queue', sent', looped, own', data, outbox', copies'⟩ :=
          ih (visited ++ [packet.tagged conn.index]) { stack with io, txQueue := longer }
            (by rw [whole, List.append_assoc]) (by rw [whole]; exact own_of_snoc ownTail)
        refine ⟨io', queue', sent ++ sent', by rw [added, looped], own', ?_, ?_, ?_⟩
        · have copy : dataOf [packet.tagged conn.index] = dataOf [head] :=
            ((packet.tagged_same conn.index).trans same).dataOf
          rw [data, dataOf_append, copy, split, List.filter_append,
            dataOf_filter_of_true (fun seqNr => !rdpSeqBefore seqNr conn.rdp.sndUna) (by simp [kept]),
            List.append_assoc]
        · rw [outbox', outbox, List.append_assoc]
        · intro entry member
          rcases List.mem_append.mp member with member | member
          · exact ⟨head, List.mem_cons_self, (copies entry member).trans same⟩
          · obtain ⟨packet, inside, same⟩ := copies' entry member
            exact ⟨packet, List.mem_cons_of_mem _ inside, same⟩
      simp only [List.length_cons, rdpTimeoutLoop, got]
      split
      · rename_i acked
        obtain ⟨io, queue', sent, looped, own', data, outbox, copies⟩ :=
          ih visited (Stack.free { stack with txQueue := queue } head) tail
            (by rw [show (Stack.free { stack with txQueue := queue } head).txQueue.items = _ from tail]; exact ownTail)
        refine ⟨io, queue', sent, looped, own', ?_, outbox, ?_⟩
        · rw [data, split, List.filter_append,
            dataOf_filter_of_false (fun seqNr => !rdpSeqBefore seqNr conn.rdp.sndUna) (by simp [acked]),
            List.nil_append]
        · intro entry member
          obtain ⟨packet, inside, same⟩ := copies entry member
          exact ⟨packet, List.mem_cons_of_mem _ inside, same⟩
      · rename_i unacked
        have kept : rdpSeqBefore head.seqNr conn.rdp.sndUna = false := by simpa using unacked
        split
        · have refreshed := refreshAck_same head conn.rdp.rcvCur stack.now
          obtain ⟨io, sent, resent, outbox, copies⟩ := rdpRetransmit_sends conn
            { stack with txQueue := queue } (refreshAck head conn.rdp.rcvCur stack.now)
          rw [resent]
          exact back io _ sent refreshed kept outbox copies
        · exact back stack.io head [] (.refl head) kept (List.append_nil _).symm (by simp)

/-- The loop frees the listed packets and puts all others back in their order. -/
theorem rdpFlushEackLoop_packets (conn : Nat) (packetTimeout : UInt32) (eack : Packet)
    (unvisited visited : List Packet) (stack : Stack cfg)
    (items : stack.txQueue.items = unvisited ++ visited)
    (own : ∀ packet ∈ stack.txQueue.items, packet.conn = conn) :
    ∃ queue pool, rdpFlushEackLoop conn packetTimeout eack unvisited.length stack =
        { stack with txQueue := queue, io := { stack.io with pool } } ∧
      pool = freeAll stack.io.pool ((unvisited.filter fun packet => eackLists eack packet.seqNr).map
        (eackMarkAll stack.now packetTimeout eack)) ∧
      queue.items = visited ++ (unvisited.filter fun packet => !eackLists eack packet.seqNr).map
        (eackMarkAll stack.now packetTimeout eack) := by
  induction unvisited generalizing visited stack with
  | nil => exact ⟨_, _, rfl, rfl, items.trans (List.append_nil _).symm⟩
  | cons head unvisited ih =>
      rw [List.cons_append] at items
      have ownHead : head.conn = conn := own head (by simp [items])
      obtain ⟨queue, got, tail⟩ := rdpQueueTxGet_own items ownHead
      have ownTail : ∀ packet ∈ unvisited ++ visited, packet.conn = conn := fun packet member =>
        own packet (by rw [items]; exact List.mem_cons_of_mem _ member)
      simp only [List.length_cons, rdpFlushEackLoop, got]
      by_cases listed : eackLists eack head.seqNr = true
      · rw [if_pos listed]
        obtain ⟨last, pool, looped, freed, whole⟩ := ih visited
          (Stack.free { stack with txQueue := queue } (eackMarkAll stack.now packetTimeout eack head)) tail
          (by rw [show (Stack.free { stack with txQueue := queue } _).txQueue.items = _ from tail]; exact ownTail)
        refine ⟨last, pool, looped, freed.trans ?_, whole.trans ?_⟩
        · rw [List.filter_cons_of_pos (by exact listed), List.map_cons, freeAll_cons]
          rfl
        · rw [List.filter_cons_of_neg (by simp [listed])]
          rfl
      · rw [if_neg listed]
        have tagged : (eackMarkAll stack.now packetTimeout eack head).tagged conn =
            eackMarkAll stack.now packetTimeout eack head := by
          apply Packet.tagged_self
          rw [eackMarkAll_eq]
          split <;> exact ownHead
        obtain ⟨longer, added, whole⟩ := rdpQueueTxAdd_back items tail stack.io conn
          (eackMarkAll stack.now packetTimeout eack head)
        rw [tagged] at whole
        obtain ⟨last, pool, looped, freed, whole'⟩ :=
          ih (visited ++ [eackMarkAll stack.now packetTimeout eack head]) { stack with txQueue := longer }
            (by rw [whole, List.append_assoc])
            (by rw [whole, ← tagged]; exact own_of_snoc ownTail)
        refine ⟨last, pool, by rw [added, looped], freed.trans ?_, whole'.trans ?_⟩
        · rw [List.filter_cons_of_neg (by exact listed)]
        · rw [List.filter_cons_of_pos (by simp [listed]), List.map_cons, List.append_assoc, List.singleton_append]

/-- The EACK frees the listed segments and keeps all others. -/
theorem rdpFlushEackLoop_own (conn : Nat) (packetTimeout : UInt32) (eack : Packet) (stack : Stack cfg)
    (own : ∀ packet ∈ stack.txQueue.items, packet.conn = conn) :
    ∃ io queue, rdpFlushEackLoop conn packetTimeout eack stack.txQueue.items.length stack =
        { stack with io, txQueue := queue } ∧
      (∀ packet ∈ queue.items, packet.conn = conn) ∧
      dataOf queue.items =
        (dataOf stack.txQueue.items).filter (fun segment => !eackLists eack segment.1) ∧
      io.outbox = stack.io.outbox := by
  obtain ⟨queue, pool, looped, _, kept⟩ := rdpFlushEackLoop_packets conn packetTimeout eack stack.txQueue.items []
    stack (List.append_nil _).symm own
  rw [List.nil_append] at kept
  refine ⟨{ stack.io with pool }, queue, looped, ?_, ?_, rfl⟩
  · intro packet member
    rw [kept] at member
    obtain ⟨before, queued, rfl⟩ := List.mem_map.mp member
    rw [eackMarkAll_eq]
    split <;> exact own before (List.mem_of_mem_filter queued)
  · rw [kept, dataOf_map fun packet => eackMarkAll_same stack.now packetTimeout eack packet]
    exact dataOf_filter (fun seqNr => !eackLists eack seqNr) stack.txQueue.items

/-! ## One packet -/

/-- A step keeps the owner of the queue, frees the listed data segments, and sends no data. -/
structure Ctx.TxStep (ctx after : Ctx cfg) (lists : UInt16 → Bool) : Prop where
  index : after.conn.index = ctx.conn.index
  own : after.OwnsTx
  data : dataOf after.stack.txQueue.items =
    (dataOf ctx.stack.txQueue.items).filter (fun segment => !lists segment.1)
  control : ctx.stack.io.SendsControl after.stack.io

/-- A step that lists nothing keeps all data segments. -/
abbrev Ctx.KeepsTx (ctx after : Ctx cfg) : Prop := ctx.TxStep after fun _ => false

theorem Ctx.KeepsTx.refl {ctx : Ctx cfg} (own : ctx.OwnsTx) : ctx.KeepsTx ctx :=
  ⟨rfl, own, by simp, .refl _⟩

theorem Ctx.KeepsTx.data_eq {ctx after : Ctx cfg} (keeps : ctx.KeepsTx after) :
    dataOf after.stack.txQueue.items = dataOf ctx.stack.txQueue.items := by
  simpa using keeps.data

theorem Ctx.KeepsTx.trans {first second third : Ctx cfg} {lists : UInt16 → Bool}
    (left : first.KeepsTx second) (right : second.TxStep third lists) : first.TxStep third lists :=
  ⟨right.index.trans left.index, right.own, by rw [right.data, left.data_eq],
    left.control.trans right.control⟩

theorem Ctx.Receives.keepsTx {ctx after : Ctx cfg} (receives : ctx.Receives after)
    (own : ctx.OwnsTx) : ctx.KeepsTx after := by
  obtain ⟨_, _, _, _, _, _, _, _, rfl, control⟩ := receives
  exact ⟨rfl, own, by simp, control⟩

/-- A copy of a SYN is no data segment. -/
theorem rdpSendCmp_keepsTx {ctx : Ctx cfg} (own : ctx.OwnsTx) (packet : Option Packet)
    {flags : UInt8} (seqNr ackNr : UInt16)
    (control : packet = none ∨ flags &&& rdpEak ≠ 0 ∨ flags &&& rdpSyn ≠ 0) :
    ctx.KeepsTx (rdpSendCmp ctx packet flags seqNr ackNr).2 := by
  obtain ⟨io, rdpIncr, txQueue, rcvLsa, ackTimestamp, sent, same, outbox, sends, takes⟩ :=
    rdpSendCmp_sends ctx packet flags seqNr ackNr
  rw [same]
  have messages : ctx.stack.io.SendsControl io := by
    refine ⟨sent, outbox, fun entry member => ?_⟩
    obtain ⟨_, _, carries⟩ := sends entry member
    exact rdpSendCmp_control control carries
  rcases takes with items | ⟨syn, copy, tagged, ⟨_, carries⟩, items⟩
  · refine ⟨rfl, fun other member => own other ?_, ?_, messages⟩
    · rw [← items]
      exact member
    · rw [items]
      simp
  · refine ⟨rfl, fun other member => ?_, ?_, messages⟩
    · rcases List.mem_append.mp (items ▸ member) with member | member
      · exact own other member
      · rw [List.mem_singleton.mp member]
        exact tagged
    · have marked : copy.hasRdp rdpSyn = true := by
        rw [carries.hasRdp (by simp)]
        simpa using syn
      rw [items, dataOf_append, dataOf_syn marked]
      simp

/-- The entries of an EACK lie in front of its header. -/
theorem eackLists_toHost (packet : Packet) :
    eackLists (rdpHeaderToHost packet) = eackLists packet := by
  funext seqNr
  have entries : ∀ index ∈ List.range (eackCount packet),
      (rdpHeaderToHost packet).data16 index = packet.data16 index := by
    intro index inside
    have inside := List.mem_range.mp inside
    simp only [eackCount] at inside
    have before : dataAt + 2 * index + 2 ≤ rdpHeaderRef packet := by
      simp only [rdpHeaderRef]
      omega
    unfold Packet.data16
    refine be16_congr ?_ ?_
    · exact (putLe16_other (.inl (by omega))).trans (putLe16_other (.inl (by omega)))
    · exact (putLe16_other (.inl (by omega))).trans (putLe16_other (.inl (by omega)))
  unfold eackLists
  rw [show eackCount (rdpHeaderToHost packet) = eackCount packet from rfl, Bool.eq_iff_iff]
  simp only [List.any_eq_true]
  constructor
  · rintro ⟨index, inside, same⟩
    exact ⟨index, inside, entries index inside ▸ same⟩
  · rintro ⟨index, inside, same⟩
    exact ⟨index, inside, (entries index inside).symm ▸ same⟩

theorem rdpFlushEack_txStep {ctx : Ctx cfg} (own : ctx.OwnsTx) (eack : Packet) :
    ctx.TxStep (rdpFlushEack ctx eack) (eackLists eack) := by
  obtain ⟨io, queue, flushed, own', data, outbox⟩ := rdpFlushEackLoop_own ctx.conn.index
    ctx.conn.rdp.packetTimeout eack ctx.stack own
  rw [rdpFlushEack, BoundedQueue.size, flushed]
  exact ⟨rfl, own', data, .of_outbox outbox⟩

/-- The state machine processes the list of this EACK. -/
def takesEack (rdp : Rdp) (packet : Packet) : Bool :=
  !packet.hasRdp rdpRst && !packet.hasRdp rdpSyn && packet.hasRdp rdpAck && packet.hasRdp rdpEak &&
    rdpSeqValid rdp packet.seqNr && rdpAckValid rdp packet.ackNr &&
    decide (rdpHeaderSize < packet.length.toNat)

/-- A close releases the queue, or it waits for the other parties. -/
structure Ctx.TxCloses (ctx after : Ctx cfg) : Prop where
  index : after.conn.index = ctx.conn.index
  own : after.OwnsTx
  left : after.conn.rdp.state = .closeWait ∨
    (after.conn.rdp.state = .closed ∧ after.stack.txQueue.items = [])

/-- One packet does one of these things to the retransmission queue. -/
inductive Ctx.TxOutcome (ctx : Ctx cfg) (packet : Packet) (after : Ctx cfg) : Prop where
  | keeps (step : ctx.KeepsTx after)
      (state : after.conn.rdp.state = .closed → ctx.conn.rdp.state = .closed)
  | lists (step : ctx.TxStep after (eackLists packet)) (takes : takesEack ctx.conn.rdp packet = true)
      (state : after.conn.rdp.state = .open)
  | closes (closes : ctx.TxCloses after)

theorem connClose_txCloses {ctx : Ctx cfg} (openRdp : ctx.OpenRdp) (own : ctx.OwnsTx)
    (closedBy : UInt8) : ctx.TxCloses (connClose ctx closedBy) := by
  rcases connClose_cases ctx closedBy with ⟨closed, _⟩ | ⟨_, ⟨_, _, _, _, _, _, _, _, _, same⟩ |
    ⟨_, _, ⟨_, ⟨_, _, _, _, _, _, _, _, _, same⟩, _⟩, flushed⟩ | ⟨plain, _⟩⟩
  · rw [openRdp.connState] at closed
    cases closed
  · rw [same]
    exact ⟨rfl, own, .inl rfl⟩
  · have empty := congrArg BoundedQueue.items (flushed openRdp.rdp).1
    rw [same] at empty ⊢
    refine ⟨rfl, fun other member => ?_, .inr ⟨rfl, empty⟩⟩
    rw [show _ = [] from empty] at member
    cases member
  · rw [openRdp.uses] at plain
    cases plain

theorem Ctx.TxStep.free {ctx after : Ctx cfg} {lists : UInt16 → Bool} (step : ctx.TxStep after lists)
    (packet : Packet) : ctx.TxStep (after.free packet) lists :=
  ⟨step.index, step.own, step.data, step.control⟩

/-- The label `discard_open` only frees the packet. -/
theorem rdpFinish_discardOpen_tx {ctx after : Ctx cfg} {packet : Packet}
    (keeps : ctx.KeepsTx after) (state : after.conn.rdp.state = .closed → ctx.conn.rdp.state = .closed)
    (closeConnection : Bool) (freed : Packet) :
    ctx.TxOutcome packet (rdpFinish ⟨.discardOpen closeConnection, freed, after⟩).2 :=
  .keeps (keeps.free freed) state

theorem rdpFinish_discardClose_tx {ctx after : Ctx cfg} {packet : Packet}
    (keeps : ctx.KeepsTx after) (openRdp : after.OpenRdp) (closedBy : UInt8) (freed : Packet) :
    ctx.TxOutcome packet (rdpFinish ⟨.discardClose closedBy, freed, after⟩).2 := by
  obtain ⟨closedBy', _, _, same⟩ := rdpDiscardClose_changes after closedBy
  obtain ⟨index, own, left⟩ := connClose_txCloses openRdp keeps.own closedBy'
  refine .closes ?_
  simp only [rdpFinish, same]
  exact ⟨index.trans keeps.index, own, left⟩

theorem rdpRecvRst_tx {ctx : Ctx cfg} (openRdp : ctx.OpenRdp) (own : ctx.OwnsTx)
    (header : RdpHeader) (freed packet : Packet) :
    ctx.TxOutcome packet (rdpFinish (rdpRecvRst ctx header freed)).2 := by
  have acked : ctx.KeepsTx (rdpRstAck ctx header) ∧ (rdpRstAck ctx header).OpenRdp ∧
      (rdpRstAck ctx header).conn.rdp.state = ctx.conn.rdp.state := by
    unfold rdpRstAck
    split
    · exact ⟨⟨rfl, own, by simp, .refl _⟩, ⟨openRdp.connState, openRdp.rdp⟩, rfl⟩
    · exact ⟨.refl own, openRdp, rfl⟩
  obtain ⟨keeps, openRdp', state⟩ := acked
  simp only [rdpRecvRst]
  generalize rdpRstAck ctx header = middle at keeps openRdp' state
  have discards : ∀ closeConnection, ctx.TxOutcome packet
      (rdpFinish ⟨.discardOpen closeConnection, freed, middle⟩).2 := fun closeConnection =>
    rdpFinish_discardOpen_tx keeps (fun closed => state.symm.trans closed) closeConnection freed
  split
  · exact discards _
  · exact rdpFinish_discardClose_tx keeps openRdp' _ freed
  · split
    · have answers := rdpSendCmp_answers
        { middle with conn := { middle.conn with
            timestamp := middle.stack.now, rdp := { middle.conn.rdp with state := .closeWait } } }
        none middle.conn.rdp.sndNxt middle.conn.rdp.rcvCur
        (by decide : (rdpAck ||| rdpRst) &&& rdpSyn = 0) (.inl rfl)
      have openAfter := answers.helps.openRdp ⟨openRdp'.connState, openRdp'.rdp⟩
      have keepsAfter := answers.receives.keepsTx keeps.own
      generalize (rdpSendCmp _ _ _ _ _).2 = answered at openAfter keepsAfter
      exact rdpFinish_discardClose_tx
        ⟨keepsAfter.index.trans keeps.index, keepsAfter.own, by simp [keepsAfter.data_eq, keeps.data_eq],
          keeps.control.trans keepsAfter.control⟩ openAfter _ freed
    · exact discards _

theorem rdpRecvClosed_tx {ctx : Ctx cfg} (openRdp : ctx.OpenRdp) (own : ctx.OwnsTx)
    (header : RdpHeader) (freed packet : Packet) :
    ctx.TxOutcome packet (rdpFinish (rdpRecvClosed ctx header freed)).2 := by
  simp only [rdpRecvClosed]
  split
  · have answers := rdpSendCmp_answers ctx none ctx.conn.rdp.sndNxt ctx.conn.rdp.rcvCur
      (by decide : rdpRst &&& rdpSyn = 0) (.inl rfl)
    exact rdpFinish_discardClose_tx (answers.receives.keepsTx own) (answers.helps.openRdp openRdp) _ freed
  · have keeps := @rdpSendCmp_keepsTx cfg
      { ctx with conn := { ctx.conn with
          rdp := rdpAcceptSyn cfg ctx.conn.rdp ctx.stack.now header freed } } own
      none (rdpAck ||| rdpSyn) (rdpAcceptSyn cfg ctx.conn.rdp ctx.stack.now header freed).sndIss
      (rdpAcceptSyn cfg ctx.conn.rdp ctx.stack.now header freed).rcvIrs (.inl rfl)
    have state := (rdpSendCmp_helps
      { ctx with conn := { ctx.conn with
          rdp := rdpAcceptSyn cfg ctx.conn.rdp ctx.stack.now header freed } }
      none (rdpAck ||| rdpSyn) (rdpAcceptSyn cfg ctx.conn.rdp ctx.stack.now header freed).sndIss
      (rdpAcceptSyn cfg ctx.conn.rdp ctx.stack.now header freed).rcvIrs).rdpState
    generalize (rdpSendCmp _ _ _ _ _).2 = answered at keeps state
    exact @rdpFinish_discardOpen_tx cfg ctx answered packet
      ⟨keeps.index, keeps.own, keeps.data, keeps.control⟩ (by simp [state, rdpAcceptSyn]) _ freed

theorem rdpRecvSynSent_tx {ctx : Ctx cfg} (openRdp : ctx.OpenRdp) (own : ctx.OwnsTx)
    (header : RdpHeader) (freed packet : Packet) (sent : ctx.conn.rdp.state = .synSent) :
    ctx.TxOutcome packet (rdpFinish (rdpRecvSynSent ctx header freed)).2 := by
  simp only [rdpRecvSynSent]
  split
  · have answers := rdpSendCmp_answers
      { ctx with conn := { ctx.conn with rdp := { ctx.conn.rdp with
          rcvCur := header.seqNr
          rcvIrs := header.seqNr
          rcvLsa := header.seqNr - 1
          sndUna := header.ackNr + 1
          ackTimestamp := ctx.stack.now
          state := .open } } }
      none ctx.conn.rdp.sndNxt header.seqNr (by decide : rdpAck &&& rdpSyn = 0) (.inl rfl)
    have state := answers.helps.rdpState
    have keeps := answers.receives.keepsTx own
    generalize (rdpSendCmp _ _ _ _ _).2 = answered at keeps state
    exact @rdpFinish_discardOpen_tx cfg ctx
      { answered with conn := { answered.conn with rdp := { answered.conn.rdp with txWait := true } } }
      packet ⟨keeps.index, keeps.own, keeps.data, keeps.control⟩ (by simp [state]) _ freed
  · split
    · have answers := rdpSendCmp_answers ctx none ctx.conn.rdp.sndNxt ctx.conn.rdp.rcvCur
        (by decide : rdpRst &&& rdpSyn = 0) (.inl rfl)
      have state := answers.helps.rdpState
      have keeps := answers.receives.keepsTx own
      generalize (rdpSendCmp _ _ _ _ _).2 = answered at keeps state
      exact @rdpFinish_discardOpen_tx cfg ctx
        { answered with conn := { answered.conn with rdp := { answered.conn.rdp with txWait := true } } }
        packet ⟨keeps.index, keeps.own, keeps.data, keeps.control⟩ (by simp [state, sent]) _ freed
    · exact rdpFinish_discardClose_tx (.refl own) openRdp _ freed

theorem rdpRecvCloseWait_tx {ctx : Ctx cfg} (own : ctx.OwnsTx) (header : RdpHeader)
    (freed packet : Packet) (waiting : ctx.conn.rdp.state = .closeWait) :
    ctx.TxOutcome packet (rdpFinish (rdpRecvCloseWait ctx header freed)).2 := by
  have discards : ctx.TxOutcome packet (rdpFinish ⟨.discardOpen false, freed, ctx⟩).2 :=
    rdpFinish_discardOpen_tx (.refl own) id _ freed
  simp only [rdpRecvCloseWait]
  split
  · exact discards
  · split
    · exact discards
    · have answers := rdpSendCmp_answers
        { ctx with conn := { ctx.conn with rdp := { ctx.conn.rdp with sndUna := header.ackNr + 1 } } }
        none ctx.conn.rdp.sndNxt ctx.conn.rdp.rcvCur
        (by decide : (rdpAck ||| rdpRst) &&& rdpSyn = 0) (.inl rfl)
      have state := answers.helps.rdpState
      have keeps := answers.receives.keepsTx own
      generalize (rdpSendCmp _ _ _ _ _).2 = answered at keeps state
      exact @rdpFinish_discardOpen_tx cfg ctx answered packet
        ⟨keeps.index, keeps.own, keeps.data, keeps.control⟩ (by simp [state, waiting]) _ freed

/-- The data part of the state machine ends at one of the two labels that keep the connection. -/
theorem rdpRecvData_finish (ctx : Ctx cfg) (header : RdpHeader) (packet : Packet) :
    (rdpFinish (rdpRecvData ctx header packet)).2 = (rdpRecvData ctx header packet).ctx ∨
      ∃ freed, (rdpFinish (rdpRecvData ctx header packet)).2 =
        (rdpRecvData ctx header packet).ctx.free freed := by
  simp only [rdpRecvData]
  repeat' split
  all_goals first
    | exact .inl rfl
    | exact .inr ⟨_, rfl⟩

theorem rdpRecvAcked_tx {ctx : Ctx cfg} (own : ctx.OwnsTx) (header : RdpHeader) (packet : Packet)
    (opened : ctx.conn.rdp.state = .open) :
    (ctx.KeepsTx (rdpFinish (rdpRecvAcked ctx header packet)).2 ∨
        (header.has rdpEak = true ∧ rdpHeaderSize < packet.length.toNat ∧
          ctx.TxStep (rdpFinish (rdpRecvAcked ctx header packet)).2 (eackLists packet))) ∧
      (rdpFinish (rdpRecvAcked ctx header packet)).2.conn.rdp.state = .open := by
  simp only [rdpRecvAcked]
  split
  · rename_i eak
    split
    · rename_i long
      obtain ⟨index, own', data, control⟩ := @rdpFlushEack_txStep cfg
        { ctx with conn := { ctx.conn with rdp := { ctx.conn.rdp with sndUna := header.ackNr + 1 } } }
        own packet
      have state := (rdpFlushEack_helps
        { ctx with conn := { ctx.conn with rdp := { ctx.conn.rdp with sndUna := header.ackNr + 1 } } }
        packet).rdpState
      exact ⟨.inr ⟨eak, long, ⟨index, own', data, control⟩⟩, state.trans opened⟩
    · exact ⟨.inl ⟨rfl, own, by simp [rdpFinish, Ctx.free, Stack.free], .of_outbox rfl⟩, opened⟩
  · have receives := rdpRecvData_receives
      { ctx with conn := { ctx.conn with rdp := { ctx.conn.rdp with sndUna := header.ackNr + 1 } } }
      header packet
    obtain ⟨index, own', data, control⟩ := receives.keepsTx own
    have state := receives.helps.rdpState
    rcases rdpRecvData_finish
      { ctx with conn := { ctx.conn with rdp := { ctx.conn.rdp with sndUna := header.ackNr + 1 } } }
      header packet with same | ⟨freed, same⟩
    · rw [same]
      exact ⟨.inl ⟨index, own', data, control⟩, state.trans opened⟩
    · rw [same]
      exact ⟨.inl ⟨index, own', data, control⟩, state.trans opened⟩

theorem rdpOpenServer_keepsTx {ctx : Ctx cfg} (openRdp : ctx.OpenRdp) (own : ctx.OwnsTx) :
    ctx.KeepsTx (rdpOpenServer ctx).2 ∧ (rdpOpenServer ctx).2.OpenRdp ∧
      (rdpOpenServer ctx).2.conn.rdp = { ctx.conn.rdp with state := .open } := by
  simp only [rdpOpenServer]
  split
  · exact ⟨⟨rfl, own, by simp, .refl _⟩, ⟨openRdp.connState, openRdp.rdp⟩, rfl⟩
  · split
    · exact ⟨⟨rfl, own, by simp, .refl _⟩, ⟨openRdp.connState, openRdp.rdp⟩, rfl⟩
    · rename_i posted
      obtain ⟨_, rfl⟩ := Stack.post_changes posted
      exact ⟨⟨rfl, own, by simp, .refl _⟩, ⟨openRdp.connState, openRdp.rdp⟩, rfl⟩

theorem rdpRecvOpen_tx {ctx : Ctx cfg} (openRdp : ctx.OpenRdp) (own : ctx.OwnsTx) (packet : Packet)
    (rst : packet.hasRdp rdpRst = false)
    (state : ctx.conn.rdp.state = .synRcvd ∨ ctx.conn.rdp.state = .open) :
    ctx.TxOutcome packet
      (rdpFinish (rdpRecvOpen ctx packet.header (rdpHeaderToHost packet))).2 := by
  have notClosed : ctx.conn.rdp.state ≠ .closed := by
    rcases state with state | state <;> simp [state]
  have discards : ctx.TxOutcome packet
      (rdpFinish ⟨.discardOpen false, rdpHeaderToHost packet, ctx⟩).2 :=
    rdpFinish_discardOpen_tx (.refl own) id _ _
  have closes : ctx.TxOutcome packet
      (rdpFinish ⟨.discardClose rdpClosedByProtocol, rdpHeaderToHost packet, ctx⟩).2 :=
    rdpFinish_discardClose_tx (.refl own) openRdp _ _
  simp only [rdpRecvOpen]
  split
  · split
    · exact closes
    · exact discards
  · rename_i flags
    split
    · split
      · have keeps := rdpSendCmp_keepsTx own none ctx.conn.rdp.sndIss ctx.conn.rdp.rcvIrs
          (.inl rfl : _ ∨ (rdpAck ||| rdpSyn) &&& rdpEak ≠ 0 ∨ (rdpAck ||| rdpSyn) &&& rdpSyn ≠ 0)
        have same := (rdpSendCmp_helps ctx none (rdpAck ||| rdpSyn) ctx.conn.rdp.sndIss
          ctx.conn.rdp.rcvIrs).rdpState
        exact rdpFinish_discardOpen_tx keeps (fun closed => same.symm.trans closed) _ _
      · have receives := rdpSendEack_receives ctx
        have same := receives.helps.rdpState
        exact rdpFinish_discardOpen_tx (receives.keepsTx own) (fun closed => same.symm.trans closed) _ _
    · rename_i seqValid
      split
      · exact discards
      · rename_i ackValid
        -- The checks so far are those of an EACK.
        have takes : packet.hasRdp rdpEak = true → rdpHeaderSize < packet.length.toNat →
            takesEack ctx.conn.rdp packet = true := by
          intro eak long
          simp only [Bool.or_eq_true, Bool.not_eq_true', not_or, Bool.not_eq_true,
            Bool.not_eq_false] at flags seqValid ackValid
          simp only [takesEack, rst, eak, long, Bool.not_false, Bool.true_and, Bool.and_true,
            decide_true, Bool.and_eq_true, Bool.not_eq_true']
          exact ⟨⟨flags, seqValid⟩, ackValid⟩
        -- The rest is the same for a connection that has just been opened.
        have acked : ∀ {middle : Ctx cfg}, ctx.KeepsTx middle → middle.conn.rdp.state = .open →
            ctx.TxOutcome packet
              (rdpFinish (rdpRecvAcked middle packet.header (rdpHeaderToHost packet))).2 := by
          intro middle keeps opened
          obtain ⟨kept | ⟨eak, long, lists⟩, opened'⟩ :=
            rdpRecvAcked_tx keeps.own packet.header (rdpHeaderToHost packet) opened
          · exact .keeps (keeps.trans kept) (by simp [opened'])
          · rw [eackLists_toHost] at lists
            exact .lists (keeps.trans lists) (takes eak long) opened'
        split
        · split
          · exact closes
          · obtain ⟨keeps, openRdp', rdp⟩ := rdpOpenServer_keepsTx openRdp own
            generalize rdpOpenServer ctx = result at keeps openRdp' rdp
            obtain ⟨_ | _, middle⟩ := result
            · exact rdpFinish_discardClose_tx keeps openRdp' _ _
            · exact acked keeps (congrArg Rdp.state rdp)
        · rename_i notReceived
          exact acked (.refl own) (state.resolve_left notReceived)

/-- This is all that one RDP packet does to the retransmission queue. -/
theorem rdpNewPacket_tx {ctx : Ctx cfg} (openRdp : ctx.OpenRdp) (own : ctx.OwnsTx) (packet : Packet) :
    ctx.TxOutcome packet (rdpNewPacket ctx packet).2 := by
  simp only [rdpNewPacket, rdpNewPacketBody]
  cases rst : packet.header.has rdpRst with
  | true => exact rdpRecvRst_tx openRdp own _ _ packet
  | false =>
      rw [if_neg Bool.false_ne_true]
      cases state : ctx.conn.rdp.state with
      | closed => exact rdpRecvClosed_tx openRdp own _ _ packet
      | synSent => exact rdpRecvSynSent_tx openRdp own _ _ packet state
      | synRcvd => exact rdpRecvOpen_tx openRdp own packet rst (.inl state)
      | «open» => exact rdpRecvOpen_tx openRdp own packet rst (.inr state)
      | closeWait => exact rdpRecvCloseWait_tx own _ _ packet state

/-! ## The other inputs -/

theorem rdpTimeoutOpen_answers (ctx : Ctx cfg) :
    ∃ middle txWait, ctx.Answers middle ∧
      rdpTimeoutOpen ctx =
        { middle with conn := { middle.conn with rdp := { middle.conn.rdp with txWait } } } := by
  have acked : ctx.Answers (if ctx.conn.rdp.delayedAcks ≠ 0 then rdpCheckAck ctx else ctx) := by
    split
    · exact rdpCheckAck_answers ctx
    · exact .refl ctx
  simp only [rdpTimeoutOpen]
  generalize (if ctx.conn.rdp.delayedAcks ≠ 0 then rdpCheckAck ctx else ctx) = middle at acked ⊢
  split
  · split
    · exact ⟨middle, true, acked, rfl⟩
    · exact ⟨middle, middle.conn.rdp.txWait, acked, rfl⟩
  · exact ⟨ctx, ctx.conn.rdp.txWait, .refl ctx, rfl⟩

/-- What the output path gets from the timers: control messages and copies of queued packets. -/
def Io.SendsCopies (io after : Io cfg) (queued : List Packet) : Prop :=
  ∃ sent, after.outbox = io.outbox ++ sent ∧
    ∀ entry ∈ sent, entry.2.IsControl ∨ ∃ packet ∈ queued, entry.2.SameSegment packet

/-- The timers purge the acknowledged segments. -/
structure Ctx.TxPurges (ctx after : Ctx cfg) : Prop where
  index : after.conn.index = ctx.conn.index
  own : after.OwnsTx
  state : after.conn.rdp.state = ctx.conn.rdp.state
  data : dataOf after.stack.txQueue.items = (dataOf ctx.stack.txQueue.items).filter
    (fun segment => !rdpSeqBefore segment.1 ctx.conn.rdp.sndUna)
  copies : ctx.stack.io.SendsCopies after.stack.io ctx.stack.txQueue.items

/-- The timers close the connection, or wait in CLOSE_WAIT, or purge the acknowledged segments. -/
theorem rdpCheckTimeouts_tx {ctx : Ctx cfg} (openRdp : ctx.OpenRdp) (own : ctx.OwnsTx) :
    ctx.TxCloses (rdpCheckTimeouts ctx) ∨
      (ctx.conn.rdp.state = .closeWait ∧ rdpCheckTimeouts ctx = ctx) ∨
      ctx.TxPurges (rdpCheckTimeouts ctx) := by
  simp only [rdpCheckTimeouts]
  split
  · exact .inl (connClose_txCloses openRdp own _)
  · split
    · rename_i waiting
      split
      · exact .inl (connClose_txCloses openRdp own _)
      · exact .inr (.inl ⟨waiting, rfl⟩)
    · obtain ⟨io, queue, sent, looped, ownQueue, data, outbox, copies⟩ := rdpTimeoutLoop_own ctx.conn
        ctx.stack.txQueue.items [] ctx.stack (List.append_nil _).symm own
      rw [BoundedQueue.size, looped]
      obtain ⟨middle, txWait, answers, timed⟩ :=
        rdpTimeoutOpen_answers ⟨ctx.conn, { ctx.stack with io, txQueue := queue }⟩
      have keeps := answers.receives.keepsTx ownQueue
      have receives := rdpRxQueueFlush_receives
        { middle with conn := { middle.conn with rdp := { middle.conn.rdp with txWait } } }
      have flushed := receives.keepsTx keeps.own
      obtain ⟨sent', outbox', messages⟩ := keeps.control.trans flushed.control
      rw [timed]
      refine .inr (.inr ⟨flushed.index.trans keeps.index, flushed.own,
        receives.helps.rdpState.trans answers.helps.rdpState, ?_, sent ++ sent', ?_, ?_⟩)
      · rw [flushed.data_eq]
        exact keeps.data_eq.trans data
      · rw [outbox', show Io.outbox (Stack.io _) = io.outbox from rfl, outbox, List.append_assoc]
      · intro entry member
        rcases List.mem_append.mp member with member | member
        · exact .inr (copies entry member)
        · exact .inl (messages entry member)

theorem Ctx.TxCloses.of_index {ctx middle after : Ctx cfg} (closes : middle.TxCloses after)
    (index : middle.conn.index = ctx.conn.index) : ctx.TxCloses after :=
  ⟨closes.index.trans index, closes.own, closes.left⟩

/-- A failed connect closes what the RDP module has left. -/
theorem rdpCloseInternal_txCloses {ctx : Ctx cfg} (openRdp : ctx.OpenRdp) (own : ctx.OwnsTx)
    (closedBy : UInt8) (sendRst : Bool) :
    ctx.TxCloses (cspClose (rdpCloseInternal ctx closedBy sendRst).2) := by
  rcases rdpCloseInternal_cases ctx closedBy sendRst with ⟨_, same⟩ |
    ⟨_, _, _, _, _, _, _, ⟨_, same⟩ | ⟨_, same⟩⟩
  · rw [same]
    exact connClose_txCloses openRdp own _
  · rw [same]
    exact (connClose_txCloses (by exact ⟨openRdp.connState, openRdp.rdp⟩) (by exact own) _).of_index rfl
  · rw [same]
    exact (connClose_txCloses (by exact ⟨openRdp.connState, openRdp.rdp⟩) (by exact own) _).of_index rfl

/-- An attempt to connect adds at most a copy of its SYN to the queue. -/
theorem rdpConnectAttempt_tx {ctx : Ctx cfg} (openRdp : ctx.OpenRdp) (own : ctx.OwnsTx)
    (notOpen : ctx.conn.rdp.state ≠ .open) :
    (ctx.KeepsTx (connectResult (rdpConnectAttempt ctx)) ∧
        (connectResult (rdpConnectAttempt ctx)).conn.rdp.state = .synSent) ∨
      ctx.TxCloses (connectResult (rdpConnectAttempt ctx)) := by
  have helps := rdpSendSyn_helps
    { ctx with conn := { ctx.conn with rdp := rdpNewAttempt cfg ctx.stack.now ctx.conn.rdp } }
  have keeps : ctx.KeepsTx (rdpSendSyn
      { ctx with conn := { ctx.conn with rdp := rdpNewAttempt cfg ctx.stack.now ctx.conn.rdp } }).2 := by
    simp only [rdpSendSyn]
    split
    · exact ⟨rfl, own, by simp, .of_outbox rfl⟩
    · rename_i packet pool _
      obtain ⟨index, own', data, control⟩ := @rdpSendCmp_keepsTx cfg
        ⟨{ ctx.conn with rdp := rdpNewAttempt cfg ctx.stack.now ctx.conn.rdp },
          { ctx.stack with io := { ctx.stack.io with pool } }⟩ own
        (some { packet with length := 24, mem := putSynOptions ctx.stack.options packet.mem })
        rdpSyn (cfg.randR ctx.stack.now).toUInt16 0 (.inr (.inr (by decide)))
      exact ⟨index, own', data, control⟩
  simp only [rdpConnectAttempt, notOpen, if_false]
  generalize rdpSendSyn _ = result at helps keeps
  obtain ⟨err, after⟩ := result
  split
  · rename_i same
    cases same
    exact .inl ⟨keeps, helps.rdpState⟩
  · rename_i same
    cases same
    obtain ⟨index, own', left⟩ := rdpCloseInternal_txCloses
      (helps.openRdp ⟨openRdp.connState, openRdp.rdp⟩) keeps.own rdpClosedByProtocol false
    exact .inr ⟨index.trans keeps.index, own', left⟩

/-- The end of a wait keeps the queue, or releases it, or starts the second attempt without data. -/
theorem rdpConnectWake_tx {ctx : Ctx cfg} (openRdp : ctx.OpenRdp) (own : ctx.OwnsTx) (retry : Bool) :
    let after := connectResult (rdpConnectWake ctx retry)
    after = { ctx with conn.rdp.txWait := false } ∨
      (after.OwnsTx ∧ after.conn.index = ctx.conn.index ∧ after.conn.rdp.state = .synSent ∧
        dataOf after.stack.txQueue.items = []) ∨
      ctx.TxCloses after := by
  simp only [rdpConnectWake]
  split
  · exact .inl rfl
  · split
    · rename_i again
      simp only [Bool.and_eq_true, decide_eq_true_eq] at again
      rcases @rdpConnectAttempt_tx cfg
        ⟨{ ctx.conn with rdp := { ctx.conn.rdp with txWait := false } },
          rdpQueueFlush ctx.stack (some ctx.conn.index)⟩
        ⟨openRdp.connState, openRdp.rdp⟩ (by intro packet member; cases member)
        (by simp [again.1.2]) with ⟨keeps, state⟩ | ⟨index, own', left⟩
      · exact .inr (.inl ⟨keeps.own, keeps.index, state, keeps.data_eq⟩)
      · exact .inr (.inr ⟨index, own', left⟩)
    · obtain ⟨index, own', left⟩ := @rdpCloseInternal_txCloses cfg
        ⟨{ ctx.conn with rdp := { ctx.conn.rdp with txWait := false } }, ctx.stack⟩
        ⟨openRdp.connState, openRdp.rdp⟩ own rdpClosedByProtocol false
      exact .inr (.inr ⟨index, own', left⟩)

/-- A plain packet leaves the queue alone, unless a full accept queue closes the connection. -/
theorem routePlain_tx {ctx : Ctx cfg} (openRdp : ctx.OpenRdp) (own : ctx.OwnsTx) (packet : Packet) :
    (ctx.KeepsTx (routePlain ctx packet) ∧
        (routePlain ctx packet).conn.rdp = ctx.conn.rdp) ∨
      ctx.TxCloses (routePlain ctx packet) := by
  obtain ⟨_, _, enqueued⟩ := connEnqueuePacket_changes ctx.conn (some packet)
  simp only [routePlain]
  generalize connEnqueuePacket ctx.conn (some packet) = result at enqueued
  obtain ⟨err, conn⟩ := result
  rw [show conn = _ from enqueued]
  split
  · rename_i queued
    cases queued
    simp only [routePost]
    split
    · exact .inl ⟨⟨rfl, own, by simp, .refl _⟩, rfl⟩
    · split
      · exact .inr ((connClose_txCloses (by exact ⟨openRdp.connState, openRdp.rdp⟩) (by exact own)
          _).of_index rfl)
      · rename_i posted
        obtain ⟨_, rfl⟩ := Stack.post_changes posted
        exact .inl ⟨⟨rfl, own, by simp, .refl _⟩, rfl⟩
  · rename_i queued
    cases queued
    exact .inl ⟨⟨rfl, own, by simp [Ctx.free, Stack.free], .of_outbox rfl⟩, rfl⟩

theorem cspRead_receives (ctx : Ctx cfg) : ctx.Receives (cspRead ctx).2 := by
  simp only [cspRead]
  split
  · exact .refl ctx
  · split
    · exact .refl ctx
    · split
      · exact Ctx.Receives.trans ⟨_, _, _, _, _, _, _, _, rfl, .refl _⟩ (rdpCheckAck_answers _).receives
      · exact ⟨_, _, _, _, _, _, _, _, rfl, .refl _⟩

/-! ## Sends -/

/-- `csp_rdp_send` returns `CSP_ERR_NONE` for this packet. -/
def acceptsSend (ctx : Ctx cfg) (packet : Packet) : Bool :=
  ctx.conn.state == .open && ctx.conn.idout.has cspFRdp && (rdpSend ctx packet).1 == .none

/-- An accepted packet takes the next number, and goes out with a copy in the queue if it has room. -/
structure Ctx.TxSends (ctx after : Ctx cfg) (payload : List UInt8) : Prop where
  opened : ctx.conn.rdp.state = .open
  ready : rdpIsConnReadyForTx ctx.conn = true
  conn : after.conn = { ctx.conn with rdp := { ctx.conn.rdp with sndNxt := ctx.conn.rdp.sndNxt + 1 } }
  own : after.OwnsTx
  full : ctx.stack.txQueue.items.length = cfg.rdpMaxWindow * 2 →
    after.stack.txQueue.items = ctx.stack.txQueue.items
  room : ctx.stack.txQueue.items.length < cfg.rdpMaxWindow * 2 →
    dataOf after.stack.txQueue.items =
      dataOf ctx.stack.txQueue.items ++ [(ctx.conn.rdp.sndNxt, payload)]
  sends : ∃ packet : Packet, packet.Carries rdpAck ctx.conn.rdp.sndNxt ctx.conn.rdp.rcvCur payload ∧
    after.stack.io.outbox = ctx.stack.io.outbox ++ [(ctx.conn.idout, packet)]
  rxQueue : after.stack.rxQueue = ctx.stack.rxQueue

/-- A call that is not accepted leaves both queues and the connection alone, up to the semaphore. -/
structure Ctx.TxRefuses (ctx after : Ctx cfg) : Prop where
  conn : ∃ txWait, after.conn = { ctx.conn with rdp := { ctx.conn.rdp with txWait } }
  txQueue : after.stack.txQueue = ctx.stack.txQueue
  rxQueue : after.stack.rxQueue = ctx.stack.rxQueue
  outbox : ctx.conn.idout.has cspFRdp = true → after.stack.io.outbox = ctx.stack.io.outbox

theorem rdpSendSegment_cases {ctx : Ctx cfg} (own : ctx.OwnsTx) (packet : Packet) :
    (∃ err packet' pool, err ≠ CspErr.none ∧ rdpSendSegment ctx packet =
        (err, packet', { ctx with stack := { ctx.stack with io := { ctx.stack.io with pool } } })) ∨
      ∃ framed pool queue, framed.Carries rdpAck ctx.conn.rdp.sndNxt ctx.conn.rdp.rcvCur packet.payload ∧
        rdpSendSegment ctx packet =
          (.none, framed,
            { conn := { ctx.conn with rdp.sndNxt := ctx.conn.rdp.sndNxt + 1 }
              stack := { ctx.stack with io := { ctx.stack.io with pool }, txQueue := queue } }) ∧
        (∀ packet ∈ queue.items, packet.conn = ctx.conn.index) ∧
        (ctx.stack.txQueue.items.length = cfg.rdpMaxWindow * 2 →
          queue.items = ctx.stack.txQueue.items) ∧
        (ctx.stack.txQueue.items.length < cfg.rdpMaxWindow * 2 →
          dataOf queue.items =
            dataOf ctx.stack.txQueue.items ++ [(ctx.conn.rdp.sndNxt, packet.payload)]) := by
  simp only [rdpSendSegment]
  split
  · exact .inl ⟨.nomem, _, ctx.stack.io.pool, by simp, rfl⟩
  · rename_i framed added
    have carries := setRdpHeader_carries added rdpAck ctx.conn.rdp.sndNxt ctx.conn.rdp.rcvCur
    split
    · exact .inl ⟨.nomem, _, _, by simp, rfl⟩
    · rename_i copy pool cloned
      have copied : copy.SameSegment (dataHeader ctx.conn framed) := by
        rw [bufferClone_some, Prod.mk.injEq] at cloned
        obtain ⟨clone, _, rfl⟩ := Option.map_eq_some_iff.mp cloned.1
        exact ⟨rfl, rfl, rfl, rfl⟩
      refine .inr ⟨dataHeader ctx.conn framed, (rdpQueueAdd (ctx.stack.txQueue, pool) ctx.conn.index
        { copy with timestampTx := ctx.stack.now, rdpQuarantine := 0 }).2, _, carries, rfl, ?_⟩
      by_cases room : ctx.stack.txQueue.items.length < cfg.rdpMaxWindow * 2
      · obtain ⟨items, _⟩ := rdpQueueAdd_room (ctx.stack.txQueue, pool) ctx.conn.index
          { copy with timestampTx := ctx.stack.now, rdpQuarantine := 0 } room
        refine ⟨fun other member => ?_, fun full => absurd room (by omega), fun _ => ?_⟩
        · exact own_of_snoc own other (items ▸ member)
        · have plain : (dataHeader ctx.conn framed).hasRdp rdpSyn = false := by
            rw [Packet.hasRdp, show (dataHeader ctx.conn framed).rdpFlags = rdpAck from carries.flags]
            rfl
          have same : dataOf [Packet.tagged ctx.conn.index
              { copy with timestampTx := ctx.stack.now, rdpQuarantine := 0 }] =
              [(ctx.conn.rdp.sndNxt, packet.payload)] := by
            have segment : (Packet.tagged ctx.conn.index
                { copy with timestampTx := ctx.stack.now, rdpQuarantine := 0 }).SameSegment
                (dataHeader ctx.conn framed) :=
              ⟨copied.length, copied.flags, copied.seqNr, copied.body⟩
            rw [segment.dataOf, dataOf_segment plain,
              show (dataHeader ctx.conn framed).seqNr = _ from carries.seqNr,
              show (dataHeader ctx.conn framed).body = _ from carries.body]
          rw [← same, ← dataOf_append]
          exact congrArg dataOf items
      · have full : ctx.stack.txQueue.items.length = cfg.rdpMaxWindow * 2 :=
          le_antisymm ctx.stack.txQueue.bounded (not_lt.mp room)
        have items := congrArg (fun shared => shared.1.items) (rdpQueueAdd_full
          (ctx.stack.txQueue, pool) ctx.conn.index
          { copy with timestampTx := ctx.stack.now, rdpQuarantine := 0 } full)
        exact ⟨fun other member => own other (items ▸ member), fun _ => items,
          fun free => absurd free room⟩

/-- A call of `csp_rdp_send` fails and changes neither queue, or it takes the packet. -/
theorem rdpSend_cases {ctx : Ctx cfg} (own : ctx.OwnsTx) (packet : Packet) :
    (∃ err packet' txWait pool, err ≠ CspErr.none ∧ rdpSend ctx packet =
        (err, packet',
          { conn := { ctx.conn with rdp.txWait := txWait }
            stack := { ctx.stack with io := { ctx.stack.io with pool } } })) ∨
      (ctx.conn.rdp.state = .open ∧ rdpIsConnReadyForTx ctx.conn = true ∧
        ∃ framed pool queue,
          framed.Carries rdpAck ctx.conn.rdp.sndNxt ctx.conn.rdp.rcvCur packet.payload ∧
          rdpSend ctx packet =
            (.none, framed,
              { conn := { ctx.conn with rdp.sndNxt := ctx.conn.rdp.sndNxt + 1 }
                stack := { ctx.stack with io := { ctx.stack.io with pool }, txQueue := queue } }) ∧
          (∀ packet ∈ queue.items, packet.conn = ctx.conn.index) ∧
          (ctx.stack.txQueue.items.length = cfg.rdpMaxWindow * 2 →
            queue.items = ctx.stack.txQueue.items) ∧
          (ctx.stack.txQueue.items.length < cfg.rdpMaxWindow * 2 →
            dataOf queue.items =
              dataOf ctx.stack.txQueue.items ++ [(ctx.conn.rdp.sndNxt, packet.payload)])) := by
  simp only [rdpSend]
  split
  · exact .inl ⟨.reset, packet, ctx.conn.rdp.txWait, ctx.stack.io.pool, by simp, rfl⟩
  · rename_i opened
    split
    · exact .inl ⟨.timedout, packet, false, ctx.stack.io.pool, by simp, rfl⟩
    · rename_i ready
      rcases rdpSendSegment_cases own packet with ⟨err, packet', pool, failed, same⟩ |
        ⟨framed, pool, queue, sent⟩
      · exact .inl ⟨err, packet', ctx.conn.rdp.txWait, pool, failed, same⟩
      · exact .inr ⟨not_ne_iff.mp opened, by simpa using ready, framed, pool, queue, sent⟩

/-- A send is accepted or refused as a whole. -/
theorem cspSend_tx {ctx : Ctx cfg} (own : ctx.OwnsTx) (packet : Packet) :
    (acceptsSend ctx packet = true ∧ ctx.TxSends (cspSend ctx (some packet)) packet.payload) ∨
      (acceptsSend ctx packet = false ∧ ctx.TxRefuses (cspSend ctx (some packet))) := by
  simp only [cspSend, acceptsSend]
  by_cases connState : ctx.conn.state = .open
  · by_cases flag : ctx.conn.idout.has cspFRdp = true
    · simp only [connState, flag, beq_self_eq_true, Bool.true_and, ne_eq, not_true_eq_false, if_false,
        if_true]
      rcases rdpSend_cases own packet with ⟨err, packet', txWait, pool, failed, same⟩ |
        ⟨opened, ready, framed, pool, queue, carries, same, own', full, room⟩
      · rw [same]
        refine .inr ⟨by simpa using failed, ?_⟩
        cases err with
        | none => exact absurd rfl failed
        | _ => exact ⟨⟨txWait, rfl⟩, rfl, rfl, fun _ => rfl⟩
      · rw [same]
        refine .inl ⟨rfl, opened, ready, rfl, own', full, room, ⟨framed, carries, ?_⟩, rfl⟩
        exact sendDirect_outbox _ _ _ _
    · simp only [connState, flag, ne_eq, not_true_eq_false, if_false]
      exact .inr ⟨by simp, ⟨ctx.conn.rdp.txWait, rfl⟩, rfl, rfl, fun on => absurd on flag⟩
  · simp only [connState, ne_eq, not_false_eq_true, if_true]
    exact .inr ⟨by simp [connState], ⟨ctx.conn.rdp.txWait, rfl⟩, rfl, rfl, fun _ => rfl⟩

end Libcsp

/-
This file compares csp_dedup_is_duplicate with the history of the packets that it let through.
-/
import Libcsp.Crc32
import Libcsp.Lib.Ring

namespace Libcsp

variable {cfg : Config}

/-! ## A run of the check -/

/-- A packet, and the time of its arrival in milliseconds. -/
structure DedupArrival where
  time : Nat
  packet : Packet

/-- The clock reads this value. -/
def DedupArrival.clock (arrival : DedupArrival) : UInt32 := UInt32.ofNat arrival.time

/-- The CRC32 of the header and the payload. -/
def DedupArrival.sum (cfg : Config) (arrival : DedupArrival) : UInt32 :=
  cfg.crc32Memory (idPrepend cfg arrival.packet).bytes

theorem DedupArrival.sum_eq (cfg : Config) (arrival : DedupArrival)
    (room : arrival.packet.length.toNat + idHeaderSize cfg < 2 ^ 16) :
    arrival.sum cfg = cfg.crc32Memory (headerBytes cfg arrival.packet.id ++ arrival.packet.payload) := by
  rw [sum, idPrepend_bytes cfg arrival.packet room, headerBytes]

/-- The ring of the check, and the packets for which it returned false. -/
structure DedupRun where
  dedup : Dedup
  passed : List DedupArrival

/-- The answer of the check for an arrival. -/
def DedupRun.answer (cfg : Config) (run : DedupRun) (arrival : DedupArrival) : Bool :=
  (dedupIsDuplicate cfg arrival.clock run.dedup arrival.packet).1

/-- One call of the check. -/
def DedupRun.present (cfg : Config) (run : DedupRun) (arrival : DedupArrival) : DedupRun where
  dedup := (dedupIsDuplicate cfg arrival.clock run.dedup arrival.packet).2.1
  passed := if run.answer cfg arrival then run.passed else run.passed ++ [arrival]

/-- The calls for these arrivals after the start of the node. -/
def DedupRun.after (cfg : Config) (arrivals : List DedupArrival) : DedupRun :=
  arrivals.foldl (DedupRun.present cfg) ⟨default, []⟩

theorem DedupRun.after_concat (arrivals : List DedupArrival) (arrival : DedupArrival) :
    DedupRun.after cfg (arrivals ++ [arrival]) = (DedupRun.after cfg arrivals).present cfg arrival :=
  List.foldl_concat ..

/-! ## The ring and the history -/

/-- The checksum and the time stamp of a slot. -/
def Dedup.slot (dedup : Dedup) (index : Nat) : UInt32 × UInt32 := (dedup.array index, dedup.timestamp index)

/-- The ring holds the last packets that passed. -/
def DedupRun.Recalls (cfg : Config) (run : DedupRun) : Prop :=
  Ring.Holds dedupCount (0, 0) run.dedup.slot run.dedup.next
    (run.passed.map fun past => (past.sum cfg, past.clock))

theorem Dedup.slot_update (dedup : Dedup) (crc now : UInt32) (next : Nat) :
    Dedup.slot ⟨Function.update dedup.array dedup.next crc, Function.update dedup.timestamp dedup.next now, next⟩ =
      Function.update dedup.slot dedup.next (crc, now) := by
  funext index
  by_cases same : index = dedup.next
  · subst same
    simp [slot]
  · simp [slot, Function.update_of_ne same]

/-- The test of the loop. -/
def dedupMatches (crc now : UInt32) (slot : UInt32 × UInt32) : Prop := crc = slot.1 ∧ now < slot.2 + dedupWindowMs

theorem DedupRun.answer_iff (run : DedupRun) (arrival : DedupArrival) : run.answer cfg arrival = true ↔
    ∃ index < dedupCount, dedupMatches (arrival.sum cfg) arrival.clock (run.dedup.slot index) := by
  have any : ((List.range dedupCount).any fun index => arrival.sum cfg == run.dedup.array index &&
      decide (arrival.clock < run.dedup.timestamp index + dedupWindowMs)) = true ↔
      ∃ index < dedupCount, dedupMatches (arrival.sum cfg) arrival.clock (run.dedup.slot index) := by
    simp [dedupMatches, Dedup.slot]
  rw [← any, answer, dedupIsDuplicate]
  simp only [DedupArrival.sum]
  split
  · rename_i found
    exact iff_of_true rfl found
  · rename_i missing
    exact iff_of_false Bool.false_ne_true missing

theorem DedupRun.present_recalls {run : DedupRun} (recalls : run.Recalls cfg) (arrival : DedupArrival) :
    (run.present cfg arrival).Recalls cfg := by
  unfold Recalls present answer
  rw [dedupIsDuplicate]
  simp only
  split
  · exact recalls
  · simp only [Bool.false_eq_true, if_false, List.map_append, List.map_singleton]
    rw [Dedup.slot_update]
    exact recalls.push (arrival.sum cfg, arrival.clock)

theorem DedupRun.after_recalls (cfg : Config) (arrivals : List DedupArrival) :
    (DedupRun.after cfg arrivals).Recalls cfg := by
  induction arrivals using List.reverseRecOn with
  | nil => exact Ring.Holds.init dedupCount (0, 0)
  | append_singleton arrivals arrival ih =>
      rw [after_concat]
      exact present_recalls ih arrival

/-! ## The window -/

/-- One of the last packets that passed has the checksum of the arrival. -/
def DedupRun.Remembers (cfg : Config) (run : DedupRun) (arrival past : DedupArrival) : Prop :=
  past ∈ run.passed.drop (run.passed.length - dedupCount) ∧ past.sum cfg = arrival.sum cfg

/-- The window of a packet ends here. -/
def DedupArrival.windowEnd (past : DedupArrival) : Nat := past.time + dedupWindowMs.toNat

/-- The number of turns that the clock has made. -/
def clockTurn (time : Nat) : Nat := time / 2 ^ 32

/-- The same packet passed less than 100 ms ago. -/
def DedupRun.Duplicate (cfg : Config) (run : DedupRun) (arrival : DedupArrival) : Prop :=
  ∃ past, run.Remembers cfg arrival past ∧ arrival.time < past.windowEnd

/-- The window is over, but the clock started again and reads less than its end. -/
def LooksYoung (arrival past : DedupArrival) : Prop :=
  clockTurn past.windowEnd < clockTurn arrival.time ∧ arrival.time % 2 ^ 32 < past.windowEnd % 2 ^ 32

/-- The window is open, but its end is behind the next start of the clock. -/
def LooksOld (arrival past : DedupArrival) : Prop := clockTurn arrival.time < clockTurn past.windowEnd

/-- The window is open, and the clock does not start again before its end. -/
def LooksRight (arrival past : DedupArrival) : Prop :=
  clockTurn arrival.time = clockTurn past.windowEnd ∧ arrival.time < past.windowEnd

/-- A blank slot matches the arrival. -/
def DedupRun.MatchesBlank (cfg : Config) (run : DedupRun) (arrival : DedupArrival) : Prop :=
  run.passed.length < dedupCount ∧ arrival.sum cfg = 0 ∧ arrival.time % 2 ^ 32 < dedupWindowMs.toNat

theorem clock_lt_iff {arrival past : DedupArrival} (order : past.time ≤ arrival.time) :
    arrival.clock < past.clock + dedupWindowMs ↔ LooksRight arrival past ∨ LooksYoung arrival past := by
  have reading : arrival.clock < past.clock + dedupWindowMs ↔
      arrival.time % 2 ^ 32 < past.windowEnd % 2 ^ 32 := by
    rw [UInt32.lt_iff_toNat_lt, UInt32.toNat_add, DedupArrival.clock, DedupArrival.clock, UInt32.toNat_ofNat',
      UInt32.toNat_ofNat', Nat.mod_add_mod, DedupArrival.windowEnd]
  rw [reading, LooksRight, LooksYoung, clockTurn, clockTurn]
  have window : dedupWindowMs.toNat = 100 := rfl
  simp only [DedupArrival.windowEnd, window]
  omega

theorem open_iff (arrival past : DedupArrival) :
    arrival.time < past.windowEnd ↔ LooksRight arrival past ∨ LooksOld arrival past := by
  rw [LooksRight, LooksOld, clockTurn, clockTurn]
  omega

/-! ## The answer -/

theorem DedupRun.passed_subset (cfg : Config) (arrivals : List DedupArrival) :
    (DedupRun.after cfg arrivals).passed ⊆ arrivals := by
  induction arrivals using List.reverseRecOn with
  | nil => exact List.nil_subset []
  | append_singleton arrivals arrival ih =>
      rw [after_concat, present]
      simp only
      split
      · exact List.subset_append_of_subset_left [arrival] ih
      · exact List.append_subset.mpr
          ⟨List.subset_append_of_subset_left [arrival] ih, List.subset_append_right arrivals [arrival]⟩

/-- The check matches a remembered packet or a blank slot. -/
theorem DedupRun.answer_history {run : DedupRun} (recalls : run.Recalls cfg) {arrival : DedupArrival}
    (order : ∀ past ∈ run.passed, past.time ≤ arrival.time) : run.answer cfg arrival = true ↔
      (∃ past, run.Remembers cfg arrival past ∧ (LooksRight arrival past ∨ LooksYoung arrival past)) ∨
        run.MatchesBlank cfg arrival := by
  have blank : dedupMatches (arrival.sum cfg) arrival.clock (0, 0) ↔
      arrival.sum cfg = 0 ∧ arrival.time % 2 ^ 32 < dedupWindowMs.toNat := by
    rw [dedupMatches, UInt32.lt_iff_toNat_lt, UInt32.zero_add, DedupArrival.clock, UInt32.toNat_ofNat']
  rw [answer_iff, recalls.exists_slot, blank, List.length_map, MatchesBlank]
  apply or_congr_left
  rw [← List.map_drop]
  constructor
  · rintro ⟨_, member, same, young⟩
    obtain ⟨past, inside, rfl⟩ := List.mem_map.mp member
    exact ⟨past, ⟨inside, same.symm⟩, (clock_lt_iff (order past (List.mem_of_mem_drop inside))).mp young⟩
  · rintro ⟨past, ⟨inside, same⟩, young⟩
    exact ⟨_, List.mem_map_of_mem inside, same.symm,
      (clock_lt_iff (order past (List.mem_of_mem_drop inside))).mpr young⟩

/-- In every sequence of arrivals, the answer for the next one is right exactly when a remembered packet shows
it to be a duplicate, or when packets that look young and blank slots coincide with packets that look old. -/
theorem dedup_answer_iff (cfg : Config) (arrivals : List DedupArrival) (arrival : DedupArrival)
    (ordered : (arrivals ++ [arrival]).Pairwise fun first last => first.time ≤ last.time) :
    ((DedupRun.after cfg arrivals).answer cfg arrival = true ↔
        (DedupRun.after cfg arrivals).Duplicate cfg arrival) ↔
      (∃ past, (DedupRun.after cfg arrivals).Remembers cfg arrival past ∧ LooksRight arrival past) ∨
        ((∃ past, (DedupRun.after cfg arrivals).Remembers cfg arrival past ∧ LooksYoung arrival past) ∨
            (DedupRun.after cfg arrivals).MatchesBlank cfg arrival ↔
          ∃ past, (DedupRun.after cfg arrivals).Remembers cfg arrival past ∧ LooksOld arrival past) := by
  have order : ∀ past ∈ (DedupRun.after cfg arrivals).passed, past.time ≤ arrival.time := by
    intro past member
    have inside := DedupRun.passed_subset cfg arrivals member
    exact (List.pairwise_append.mp ordered).2.2 past inside arrival (List.mem_singleton_self arrival)
  rw [DedupRun.answer_history (DedupRun.after_recalls cfg arrivals) order, DedupRun.Duplicate]
  simp only [open_iff, and_or_left, exists_or, or_assoc]
  by_cases right : ∃ past, (DedupRun.after cfg arrivals).Remembers cfg arrival past ∧ LooksRight arrival past
  · simp [right]
  · rw [or_iff_right right, or_iff_right right, or_iff_right right]

/-- The header and this payload have the CRC32 0. -/
def zeroSumPacket : Packet := userPacket [0x21, 0xE7, 0xCA, 0xCC]

theorem DedupRun.after_single {arrival : DedupArrival} (fresh : DedupRun.answer cfg ⟨default, []⟩ arrival = false) :
    (DedupRun.after cfg [arrival]).passed = [arrival] := by
  show (if DedupRun.answer cfg ⟨default, []⟩ arrival then [] else [] ++ [arrival]) = [arrival]
  rw [fresh]
  rfl

theorem DedupRun.duplicate_single {first arrival : DedupArrival}
    (fresh : DedupRun.answer cfg ⟨default, []⟩ first = false) :
    (DedupRun.after cfg [first]).Duplicate cfg arrival ↔
      first.sum cfg = arrival.sum cfg ∧ arrival.time < first.windowEnd := by
  have all : 1 - dedupCount = 0 := rfl
  simp [Duplicate, Remembers, after_single fresh, all, and_assoc]

theorem dedup_answer_again :
    (DedupRun.after crcConfig [⟨1000, zeroSumPacket⟩]).answer crcConfig ⟨1010, zeroSumPacket⟩ = true ↔
      (DedupRun.after crcConfig [⟨1000, zeroSumPacket⟩]).Duplicate crcConfig ⟨1010, zeroSumPacket⟩ := by
  have passed := @DedupRun.after_single crcConfig ⟨1000, zeroSumPacket⟩ (by decide +kernel)
  have remembers : (DedupRun.after crcConfig [⟨1000, zeroSumPacket⟩]).Remembers crcConfig ⟨1010, zeroSumPacket⟩
      ⟨1000, zeroSumPacket⟩ := by
    rw [DedupRun.Remembers, passed]
    exact ⟨List.mem_singleton_self _, rfl⟩
  exact (dedup_answer_iff crcConfig [⟨1000, zeroSumPacket⟩] ⟨1010, zeroSumPacket⟩ (by simp)).mpr
    (.inl ⟨_, remembers, by decide, by decide⟩)

/-- A packet is dropped at the start of the node, a duplicate passes before the clock starts again, and a packet
is dropped 49 days after its twin. -/
theorem dedup_answer_wrong :
    ((DedupRun.after crcConfig []).answer crcConfig ⟨5, zeroSumPacket⟩ = true ∧
      ¬(DedupRun.after crcConfig []).Duplicate crcConfig ⟨5, zeroSumPacket⟩) ∧
    ((DedupRun.after crcConfig [⟨4294967246, userPacket [7]⟩]).answer crcConfig ⟨4294967286, userPacket [7]⟩ = false ∧
      (DedupRun.after crcConfig [⟨4294967246, userPacket [7]⟩]).Duplicate crcConfig ⟨4294967286, userPacket [7]⟩) ∧
    (DedupRun.after crcConfig [⟨1000, userPacket [7]⟩]).answer crcConfig ⟨4294967796, userPacket [7]⟩ = true ∧
      ¬(DedupRun.after crcConfig [⟨1000, userPacket [7]⟩]).Duplicate crcConfig ⟨4294967796, userPacket [7]⟩ := by
  refine ⟨⟨by decide +kernel, ?_⟩, ⟨by decide +kernel, ?_⟩, by decide +kernel, ?_⟩
  · rintro ⟨past, ⟨member, _⟩, _⟩
    cases member
  · rw [DedupRun.duplicate_single (by decide +kernel)]
    exact ⟨rfl, by decide⟩
  · rw [DedupRun.duplicate_single (by decide +kernel)]
    rintro ⟨_, young⟩
    exact absurd young (by decide)

end Libcsp

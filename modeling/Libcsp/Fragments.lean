/-
This file describes the frames that the transmitters of csp_if_can.c emit for a packet.
-/
import Libcsp.Can
import Libcsp.Lib.Chunks

namespace Libcsp

open BitField Chunks

variable {cfg : Config} {qfifoLen : Nat}

/-! ## The loop -/

/-- A run of data bytes is a part of the payload. -/
theorem Packet.dataBytes_slice (packet : Packet) {place size : Nat}
    (inside : place + size ≤ packet.length.toNat) :
    ((List.range size).map fun index => packet.data (place + index)) =
      (packet.payload.drop place).take size := by
  apply List.ext_getElem
  · simp [Packet.payload_length]
    omega
  · intro index _ _
    simp [Packet.payload, Packet.dataBytes]

theorem Packet.dataBytes_take (packet : Packet) {size : Nat} (inside : size ≤ packet.length.toNat) :
    packet.dataBytes size = packet.payload.take size := by
  have slice := @Packet.dataBytes_slice packet 0 size (by omega)
  simp only [Nat.zero_add, List.drop_zero] at slice
  exact slice

/-- The loop sends one chunk of the payload in each frame. -/
theorem canNextFrames_eq (makeId : Nat → Nat → Nat → Nat) (packet : Packet) (first : Nat)
    {rounds sent : Nat} (enough : count first canFrameSize packet.length.toNat - 1 - sent ≤ rounds)
    (fragmentCount : Nat) :
    canNextFrames makeId packet rounds
        (min packet.length.toNat (start first canFrameSize (sent + 1))) fragmentCount =
      (List.range (count first canFrameSize packet.length.toNat - 1 - sent)).map fun index =>
        { id := makeId (start first canFrameSize (sent + index + 1))
            (min canFrameSize (packet.length.toNat - start first canFrameSize (sent + index + 1)))
            (fragmentCount + index)
          data := chunk first canFrameSize packet.payload (sent + index + 1) } := by
  have size : 0 < canFrameSize := by decide
  induction rounds generalizing sent fragmentCount with
  | zero =>
      have none : count first canFrameSize packet.length.toNat - 1 - sent = 0 := by omega
      rw [none]
      rfl
  | succ rounds ih =>
      have inside := @start_lt_iff first canFrameSize sent size packet.length.toNat
      rw [canNextFrames]
      by_cases more : start first canFrameSize (sent + 1) < packet.length.toNat
      · have counted := inside.mp more
        have place : min packet.length.toNat (start first canFrameSize (sent + 1)) =
            start first canFrameSize (sent + 1) := by omega
        have bytes : (if packet.length.toNat - start first canFrameSize (sent + 1) ≥ canFrameSize then
            canFrameSize else packet.length.toNat - start first canFrameSize (sent + 1)) =
            min canFrameSize (packet.length.toNat - start first canFrameSize (sent + 1)) := by
          split <;> omega
        have next : start first canFrameSize (sent + 1 + 1) =
            start first canFrameSize (sent + 1) + canFrameSize := by
          rw [start, start, Nat.mul_succ, Nat.add_assoc]
        have after : start first canFrameSize (sent + 1) +
            min canFrameSize (packet.length.toNat - start first canFrameSize (sent + 1)) =
            min packet.length.toNat (start first canFrameSize (sent + 1 + 1)) := by
          rw [next]
          omega
        have rest : count first canFrameSize packet.length.toNat - 1 - sent =
            (count first canFrameSize packet.length.toNat - 1 - (sent + 1)) + 1 := by omega
        have data : (List.range (min canFrameSize
              (packet.length.toNat - start first canFrameSize (sent + 1)))).map
              (fun index => packet.data (start first canFrameSize (sent + 1) + index)) =
            chunk first canFrameSize packet.payload (sent + 1) := by
          rw [packet.dataBytes_slice (by omega), chunk, start]
          rw [List.take_eq_take_iff, List.length_drop, Packet.payload_length]
          rw [start] at more
          omega
        rw [place, if_pos more]
        simp only [bytes, after, data]
        rw [ih (by omega), rest, List.range_succ_eq_map, List.map_cons, List.map_map]
        congr 1
        apply List.map_congr_left
        intro index _
        simp only [Function.comp_apply, Nat.succ_eq_add_one, Nat.add_assoc, Nat.add_comm 1 index]
      · have none : count first canFrameSize packet.length.toNat - 1 - sent = 0 := by
          have := mt inside.mpr more
          omega
        rw [if_neg (by omega), none]
        rfl

/-! ## The frames of CFP 2.0 -/

/-- The low bits of the identifier tell the place of the frame in the packet. -/
def cfp2Place (frames index : Nat) : Nat :=
  (if index = 0 then cfp2Begin else (index &&& cfp2FcMask) <<< 2) ||| can2EndBit (index + 1 == frames)

def can2Count (packet : Packet) : Nat := count 4 canFrameSize packet.length.toNat

def can2FrameAt (addr : UInt16) (senderCount : UInt32) (packet : Packet) (index : Nat) : CanFrame where
  id := cfp2ConnId packet.id addr senderCount ||| cfp2Place (can2Count packet) index
  data := (if index = 0 then beBytes 4 (cfp2HeaderExtension packet.id) else []) ++
    chunk 4 canFrameSize packet.payload index

theorem can2Count_pos (packet : Packet) : 0 < can2Count packet := Nat.le_add_right 1 _

theorem canFrameSize_pos : 0 < canFrameSize := by decide

/-- The END frame is the one that reaches the end of the payload. -/
theorem can2_last {packet : Packet} {index : Nat} (counted : index < can2Count packet) :
    (min packet.length.toNat (start 4 canFrameSize (index + 1)) == packet.length.toNat) =
      (index + 1 == can2Count packet) := by
  have inside : _ ↔ index + 1 < can2Count packet :=
    start_lt_iff canFrameSize_pos packet.length.toNat
  rw [Bool.eq_iff_iff, beq_iff_eq, beq_iff_eq]
  omega

theorem can2FrameAt_zero (addr : UInt16) (senderCount : UInt32) (packet : Packet) :
    can2FrameAt addr senderCount packet 0 =
      { id := cfp2ConnId packet.id addr senderCount ||| cfp2Begin |||
          can2EndBit (min packet.length.toNat 4 == packet.length.toNat)
        data := beBytes 4 (cfp2HeaderExtension packet.id) ++
          packet.dataBytes (min packet.length.toNat 4) } := by
  have last := can2_last (can2Count_pos packet)
  have data : packet.dataBytes (min packet.length.toNat 4) = packet.payload.take 4 := by
    rw [packet.dataBytes_take (by omega), List.take_eq_take_iff, Packet.payload_length]
    omega
  rw [show start 4 canFrameSize (0 + 1) = 4 from rfl] at last
  rw [last, data, can2FrameAt, cfp2Place, Nat.lor_assoc]
  rfl

theorem can2FrameAt_succ (addr : UInt16) (senderCount : UInt32) {packet : Packet} {index : Nat}
    (counted : index + 1 < can2Count packet) :
    can2FrameAt addr senderCount packet (index + 1) =
      { id := cfp2ConnId packet.id addr senderCount ||| ((1 + index) &&& cfp2FcMask) <<< 2 |||
          can2EndBit (start 4 canFrameSize (index + 1) + min canFrameSize
            (packet.length.toNat - start 4 canFrameSize (index + 1)) == packet.length.toNat)
        data := chunk 4 canFrameSize packet.payload (index + 1) } := by
  have last := can2_last counted
  have next : start 4 canFrameSize (index + 1 + 1) = start 4 canFrameSize (index + 1) + canFrameSize := by
    rw [start, start, Nat.mul_succ, Nat.add_assoc]
  have inside := (@start_lt_iff 4 canFrameSize index canFrameSize_pos packet.length.toNat).mpr counted
  have place : start 4 canFrameSize (index + 1) +
      min canFrameSize (packet.length.toNat - start 4 canFrameSize (index + 1)) =
      min packet.length.toNat (start 4 canFrameSize (index + 1 + 1)) := by
    rw [next]
    omega
  rw [place, last, can2FrameAt, cfp2Place, if_neg (Nat.succ_ne_zero index),
    if_neg (Nat.succ_ne_zero index), List.nil_append, Nat.lor_assoc, Nat.add_comm 1]

theorem can2Frames_eq (addr : UInt16) (senderCount : UInt32) (packet : Packet) :
    can2Frames addr senderCount packet =
      (List.range (can2Count packet)).map (can2FrameAt addr senderCount packet) := by
  have first : (if packet.length.toNat ≥ 4 then 4 else packet.length.toNat) =
      min packet.length.toNat 4 := by
    split <;> omega
  have enough : count 4 canFrameSize packet.length.toNat - 1 - 0 ≤ packet.length.toNat := by
    simp only [count, canFrameSize]
    omega
  have next := canNextFrames_eq (fun txCount dataBytes fragmentCount =>
    cfp2ConnId packet.id addr senderCount ||| (fragmentCount &&& cfp2FcMask) <<< 2 |||
      can2EndBit (txCount + dataBytes == packet.length.toNat)) packet 4 enough 1
  rw [show start 4 canFrameSize (0 + 1) = 4 from rfl] at next
  have split : can2Count packet = (count 4 canFrameSize packet.length.toNat - 1 - 0) + 1 := by
    have := can2Count_pos packet
    rw [can2Count] at this ⊢
    omega
  simp only [can2Frames, first, next]
  rw [split, List.range_succ_eq_map, List.map_cons, List.map_map, can2FrameAt_zero, List.cons.injEq]
  refine ⟨rfl, List.map_congr_left ?_⟩
  intro index inside
  have counted : index + 1 < can2Count packet := by
    have := List.mem_range.mp inside
    omega
  rw [Function.comp_apply, Nat.succ_eq_add_one, can2FrameAt_succ addr senderCount counted, Nat.zero_add]

/-! ## The identifier of CFP 2.0 -/

/-- The masks cut each value to the width of its field. -/
theorem cfp2ConnId_eq (id : CspId) (addr : UInt16) (senderCount : UInt32) :
    cfp2ConnId id addr senderCount =
      (id.pri.toNat % 2 ^ 2) <<< 27 ||| (id.dst.toNat % 2 ^ 14) <<< 13 |||
        (addr.toNat % 2 ^ 5) <<< 7 ||| (senderCount.toNat % 2 ^ 2) <<< 5 := by
  simp only [← Nat.and_two_pow_sub_one_eq_mod]
  rfl

theorem cfp2Place_eq (frames index : Nat) :
    cfp2Place frames index = (if index = 0 then 0 else index % 2 ^ 3) <<< 2 |||
      (if index = 0 then 1 else 0) <<< 1 ||| (if index + 1 = frames then 1 else 0) <<< 0 := by
  simp only [cfp2Place, can2EndBit, beq_iff_eq, ← Nat.and_two_pow_sub_one_eq_mod]
  split <;> split <;> simp [cfp2Begin, cfp2End, cfp2FcMask]

/-- The place does not reach into the other fields. -/
theorem cfp2Place_above (frames index : Nat) {offset : Nat} (high : 5 ≤ offset) (size : Nat) :
    field (cfp2Place frames index) offset size = 0 := by
  have small : index % 2 ^ 3 < 2 ^ 3 := Nat.mod_lt _ (by decide)
  have bound : 2 ^ 5 ≤ 2 ^ offset := Nat.pow_le_pow_right (by decide) high
  rw [cfp2Place_eq, field_or, field_or, field_above, field_above, field_above]
  · rfl
  all_goals split <;> omega

theorem cfp2IdConnMask_eq : cfp2IdConnMask =
    (2 ^ 14 - 1) <<< 13 ||| (2 ^ 5 - 1) <<< 7 ||| (2 ^ 2 - 1) <<< 27 ||| (2 ^ 2 - 1) <<< 5 := rfl

/-- The mask keeps the four fields of the packet. -/
theorem and_cfp2IdConnMask (id : Nat) :
    id &&& cfp2IdConnMask = field id 13 14 <<< 13 ||| field id 7 5 <<< 7 ||| field id 27 2 <<< 27 |||
      field id 5 2 <<< 5 := by
  rw [cfp2IdConnMask_eq, Nat.and_or_distrib_left, Nat.and_or_distrib_left, Nat.and_or_distrib_left,
    and_mask, and_mask, and_mask, and_mask]

theorem cfp2ConnId_fields (id : CspId) (addr : UInt16) (senderCount : UInt32) :
    field (cfp2ConnId id addr senderCount) 13 14 = id.dst.toNat % 2 ^ 14 ∧
      field (cfp2ConnId id addr senderCount) 7 5 = addr.toNat % 2 ^ 5 ∧
      field (cfp2ConnId id addr senderCount) 27 2 = id.pri.toNat % 2 ^ 2 ∧
      field (cfp2ConnId id addr senderCount) 5 2 = senderCount.toNat % 2 ^ 2 := by
  rw [cfp2ConnId_eq]
  refine ⟨?_, ?_, ?_, ?_⟩ <;>
    simp (disch := omega) only [field_or, field_same, field_below, field_above, Nat.or_zero, Nat.zero_or]

/-- All frames of a packet have its key. -/
theorem can2FrameAt_key (addr : UInt16) (senderCount : UInt32) (packet : Packet) (index : Nat) :
    (can2FrameAt addr senderCount packet index).id &&& cfp2IdConnMask =
      cfp2ConnId packet.id addr senderCount := by
  obtain ⟨dst, sender, prio, counter⟩ := cfp2ConnId_fields packet.id addr senderCount
  have order : ∀ a b c d : Nat, a ||| b ||| c ||| d = c ||| a ||| b ||| d := by
    intro a b c d
    rw [Nat.lor_comm (a ||| b) c, ← Nat.lor_assoc]
  simp only [and_cfp2IdConnMask, can2FrameAt, field_or, dst, sender, prio, counter,
    cfp2Place_above _ _ (show 5 ≤ 13 by decide), cfp2Place_above _ _ (show 5 ≤ 7 by decide),
    cfp2Place_above _ _ (show 5 ≤ 27 by decide), cfp2Place_above _ _ (show 5 ≤ 5 by decide), Nat.or_zero]
  rw [cfp2ConnId_eq, order]

/-- The keys of two packets agree when the masked fields do. -/
theorem cfp2ConnId_inj {first second : CspId} {firstAddr secondAddr : UInt16}
    {firstCount secondCount : UInt32} :
    cfp2ConnId first firstAddr firstCount = cfp2ConnId second secondAddr secondCount ↔
      first.dst.toNat % 2 ^ 14 = second.dst.toNat % 2 ^ 14 ∧
        firstAddr.toNat % 2 ^ 5 = secondAddr.toNat % 2 ^ 5 ∧
        first.pri.toNat % 2 ^ 2 = second.pri.toNat % 2 ^ 2 ∧
        firstCount.toNat % 2 ^ 2 = secondCount.toNat % 2 ^ 2 := by
  obtain ⟨dst, sender, prio, counter⟩ := cfp2ConnId_fields first firstAddr firstCount
  obtain ⟨dst', sender', prio', counter'⟩ := cfp2ConnId_fields second secondAddr secondCount
  constructor
  · intro same
    rw [← dst, ← sender, ← prio, ← counter, same, dst', sender', prio', counter']
    exact ⟨rfl, rfl, rfl, rfl⟩
  · rintro ⟨sameDst, sameSender, samePrio, sameCounter⟩
    rw [cfp2ConnId_eq, cfp2ConnId_eq, sameDst, sameSender, samePrio, sameCounter]

theorem can2FrameAt_begins (addr : UInt16) (senderCount : UInt32) (packet : Packet) (index : Nat) :
    ((can2FrameAt addr senderCount packet index).id &&& cfp2Begin ≠ 0) ↔ index = 0 := by
  have bit : field (can2FrameAt addr senderCount packet index).id 1 1 = if index = 0 then 1 else 0 := by
    have small : index % 2 ^ 3 < 2 ^ 3 := Nat.mod_lt _ (by decide)
    rw [can2FrameAt, cfp2Place_eq, cfp2ConnId_eq]
    by_cases first : index = 0
    all_goals
      simp (disch := omega) only [first, if_true, if_false, field_or, field_same, field_below,
        Nat.or_zero, Nat.zero_or]
      split <;> rfl
  have mask := and_mask (can2FrameAt addr senderCount packet index).id 1 1
  rw [show cfp2Begin = (2 ^ 1 - 1) <<< 1 from rfl, mask, bit]
  split <;> simp [*]

theorem can2FrameAt_ends (addr : UInt16) (senderCount : UInt32) (packet : Packet) (index : Nat) :
    ((can2FrameAt addr senderCount packet index).id &&& cfp2End ≠ 0) ↔ index + 1 = can2Count packet := by
  have bit : field (can2FrameAt addr senderCount packet index).id 0 1 =
      if index + 1 = can2Count packet then 1 else 0 := by
    rw [can2FrameAt, cfp2Place_eq, cfp2ConnId_eq]
    by_cases last : index + 1 = can2Count packet
    all_goals
      simp (disch := omega) only [last, if_true, if_false, field_or, field_same, field_below,
        Nat.or_zero, Nat.zero_or]
  have mask := and_mask (can2FrameAt addr senderCount packet index).id 1 0
  rw [show cfp2End = (2 ^ 1 - 1) <<< 0 from rfl, mask, bit]
  split <;> simp [*]

theorem can2FrameAt_counter (addr : UInt16) (senderCount : UInt32) (packet : Packet) {index : Nat}
    (later : index ≠ 0) :
    (can2FrameAt addr senderCount packet index).id >>> 2 &&& cfp2FcMask = index % 2 ^ 3 := by
  have small : index % 2 ^ 3 < 2 ^ 3 := Nat.mod_lt _ (by decide)
  have whole : (can2FrameAt addr senderCount packet index).id >>> 2 &&& cfp2FcMask =
      field (can2FrameAt addr senderCount packet index).id 2 3 := rfl
  have last : field ((if index + 1 = can2Count packet then 1 else 0) <<< 0) 2 3 = 0 :=
    field_above (by split <;> decide)
  have first : field (0 <<< 1) 2 3 = 0 := field_above (by decide)
  rw [whole, can2FrameAt, cfp2Place_eq, cfp2ConnId_eq, if_neg later, if_neg later]
  simp (disch := omega) only [field_or, first, last, field_same, field_below, Nat.or_zero, Nat.zero_or]

/-! ## The CSP header of CFP 2.0 -/

/-- The identifier with each field cut to its width in the CSP 2 header. -/
def CspId.cut2 (id : CspId) : CspId where
  pri := UInt8.ofNat (id.pri.toNat % 2 ^ 2)
  dst := UInt16.ofNat (id.dst.toNat % 2 ^ 14)
  src := UInt16.ofNat (id.src.toNat % 2 ^ 14)
  dport := UInt8.ofNat (id.dport.toNat % 2 ^ 6)
  sport := UInt8.ofNat (id.sport.toNat % 2 ^ 6)
  flags := UInt8.ofNat (id.flags.toNat % 2 ^ 6)

theorem toNat_ofNat8_mod (value : Nat) {bits : Nat} (small : bits ≤ 8) :
    (UInt8.ofNat (value % 2 ^ bits)).toNat = value % 2 ^ bits := by
  rw [UInt8.toNat_ofNat', Nat.mod_mod_of_dvd' (Nat.pow_dvd_pow 2 small)]

theorem toNat_ofNat16_mod (value : Nat) {bits : Nat} (small : bits ≤ 16) :
    (UInt16.ofNat (value % 2 ^ bits)).toNat = value % 2 ^ bits := by
  rw [UInt16.toNat_ofNat', Nat.mod_mod_of_dvd' (Nat.pow_dvd_pow 2 small)]

theorem CspId.cut2_toNat (id : CspId) :
    id.cut2.pri.toNat = id.pri.toNat % 2 ^ 2 ∧ id.cut2.dst.toNat = id.dst.toNat % 2 ^ 14 ∧
      id.cut2.src.toNat = id.src.toNat % 2 ^ 14 ∧ id.cut2.dport.toNat = id.dport.toNat % 2 ^ 6 ∧
      id.cut2.sport.toNat = id.sport.toNat % 2 ^ 6 ∧ id.cut2.flags.toNat = id.flags.toNat % 2 ^ 6 :=
  ⟨toNat_ofNat8_mod _ (by decide), toNat_ofNat16_mod _ (by decide), toNat_ofNat16_mod _ (by decide),
    toNat_ofNat8_mod _ (by decide), toNat_ofNat8_mod _ (by decide), toNat_ofNat8_mod _ (by decide)⟩

theorem CspId.cut2_fits (id : CspId) : id.cut2.Fits {} := by
  obtain ⟨pri, dst, src, dport, sport, flags⟩ := id.cut2_toNat
  constructor
  · rw [pri]
    exact Nat.mod_lt _ (by decide)
  · rw [dst]
    exact Nat.mod_lt _ (by decide)
  · rw [src]
    exact Nat.mod_lt _ (by decide)
  · rw [dport]
    exact Nat.mod_lt _ (by decide)
  · rw [sport]
    exact Nat.mod_lt _ (by decide)
  · rw [flags]
    exact Nat.mod_lt _ (by decide)

/-- The header of the packet as the receiver rebuilds it. -/
def can2Header (id : CspId) : List UInt8 := beBytes 6 (id2Word id.cut2)

theorem can2Header_fields (id : CspId) : id2Fields (beValue (can2Header id)) = id.cut2 := by
  rw [can2Header, beValue_beBytes]
  exact @id2Fields_word {} _ id.cut2_fits rfl

theorem CspId.cut2_of_fits {id : CspId} (fits : id.Fits cfg) (version : cfg.version = 2) :
    id.cut2 = id := by
  obtain ⟨pri, dst, src, dport, sport, flags⟩ := fits
  simp only [idGetHostBits, if_pos version] at dst src flags
  rw [CspId.cut2, Nat.mod_eq_of_lt pri, Nat.mod_eq_of_lt dst, Nat.mod_eq_of_lt src,
    Nat.mod_eq_of_lt dport, Nat.mod_eq_of_lt sport, Nat.mod_eq_of_lt flags, UInt8.ofNat_toNat,
    UInt16.ofNat_toNat, UInt16.ofNat_toNat, UInt8.ofNat_toNat, UInt8.ofNat_toNat, UInt8.ofNat_toNat]

/-- The identifier and the first data bytes are the header that `csp_id2_prepend` would write. -/
theorem can2FrameAt_header (addr : UInt16) (senderCount : UInt32) (packet : Packet) :
    beBytes 2 ((can2FrameAt addr senderCount packet 0).id >>> 13) ++
      beBytes 4 (cfp2HeaderExtension packet.id) = can2Header packet.id := by
  obtain ⟨pri, dst, src, dport, sport, flags⟩ := packet.id.cut2_toNat
  have high : field (can2FrameAt addr senderCount packet 0).id 13 16 =
      field (id2Word packet.id.cut2) 32 16 := by
    rw [can2FrameAt, cfp2ConnId_eq, id2Word, pri, dst, src, dport, sport, flags]
    simp (disch := omega) only [field_or, field_inside, field_above, Nat.or_zero,
      cfp2Place_above _ _ (show 5 ≤ 13 by decide)]
  have low : field (cfp2HeaderExtension packet.id) 0 32 = field (id2Word packet.id.cut2) 0 32 := by
    have extension : cfp2HeaderExtension packet.id =
        (packet.id.src.toNat % 2 ^ 14) <<< 18 ||| (packet.id.dport.toNat % 2 ^ 6) <<< 12 |||
          (packet.id.sport.toNat % 2 ^ 6) <<< 6 ||| (packet.id.flags.toNat % 2 ^ 6) <<< 0 := by
      simp only [← Nat.and_two_pow_sub_one_eq_mod]
      rfl
    rw [extension, id2Word, pri, dst, src, dport, sport, flags]
    simp (disch := omega) only [field_or, field_inside, field_below, Nat.zero_or]
  rw [can2Header, show 6 = 2 + 4 from rfl, beBytes_add]
  apply congrArg₂
  · apply beBytes_congr
    rw [field_eq, field_eq, ← Nat.shiftRight_eq_div_pow] at high
    exact high
  · apply beBytes_congr
    rw [field_eq, field_eq, Nat.pow_zero, Nat.div_one, Nat.div_one] at low
    exact low

end Libcsp

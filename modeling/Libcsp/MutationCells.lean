/-
This file states what a load and a store of the mutation engine do to the cells of an item.
-/
import Libcsp.Mutation

namespace Libcsp

/-! ## Slices -/

theorem powSubstitute_two (i : Nat) : powSubstitute 2 i = UInt64.ofNat (2 ^ i) := by
  have loop : ∀ count : Nat,
      (List.range count).foldl (fun result _ => result * UInt64.ofInt 2) 1 = UInt64.ofNat (2 ^ count) := by
    intro count
    induction count with
    | zero => rfl
    | succ count ih =>
        rw [List.range_succ, List.foldl_append, ih, List.foldl_cons, List.foldl_nil, Nat.pow_succ, UInt64.ofNat_mul]
        rfl
  have positive : ¬((i : Int) < 0) := by omega
  rw [powSubstitute, if_neg positive, Int.toNat_natCast, loop]

theorem powSubstitute_bit (i index : Nat) :
    (powSubstitute 2 i).toBitVec.getLsbD index = (decide (index < 64) && decide (i = index)) := by
  rw [powSubstitute_two]
  have value : (UInt64.ofNat (2 ^ i)).toBitVec = BitVec.ofNat 64 (2 ^ i) := rfl
  rw [value, BitVec.getLsbD_ofNat, Nat.testBit_two_pow]

/-- A mask above the word is zero, and each number contains it. -/
theorem relevant_iff (number : UInt64) (i : Nat) :
    number &&& powSubstitute 2 i = powSubstitute 2 i ↔ 64 ≤ i ∨ number.toBitVec.getLsbD i = true := by
  rw [← UInt64.toBitVec_inj, UInt64.toBitVec_and]
  constructor
  · intro same
    rcases Nat.lt_or_ge i 64 with inside | above
    · have bit := congrArg (BitVec.getLsbD · i) same
      simp only [BitVec.getLsbD_and, powSubstitute_bit, inside, decide_true, Bool.and_self, Bool.and_true] at bit
      exact .inr bit
    · exact .inl above
  · intro covered
    apply BitVec.eq_of_getLsbD_eq
    intro index inside
    rw [BitVec.getLsbD_and, powSubstitute_bit]
    by_cases same : i = index
    · subst same
      have bit : number.toBitVec.getLsbD i = true := covered.resolve_left (by omega)
      rw [bit, Bool.true_and]
    · simp only [same, decide_false, Bool.and_false]

/-- The bits that a pass copies. They include the places behind the end of the number. -/
def covers (number : UInt64) (i : Nat) : Bool := decide (64 ≤ i) || number.toBitVec.getLsbD i

theorem sliceStep_bit (number : UInt64) (start : Nat) (slice : UInt64) (count index : Nat) :
    (sliceStep number start slice (start + count)).toBitVec.getLsbD index =
      (slice.toBitVec.getLsbD index ||
        (covers number (start + count) && (decide (index < 64) && decide (count = index)))) := by
  have known : covers number (start + count) = true ↔
      number &&& powSubstitute 2 (start + count : Nat) = powSubstitute 2 (start + count : Nat) := by
    rw [relevant_iff, covers, Bool.or_eq_true, decide_eq_true_eq]
  by_cases relevant : number &&& powSubstitute 2 (start + count : Nat) = powSubstitute 2 (start + count : Nat)
  · rw [sliceStep, if_pos relevant, known.mpr relevant, UInt64.toBitVec_or, BitVec.getLsbD_or,
      Nat.add_sub_cancel_left, powSubstitute_bit, Bool.true_and]
  · rw [sliceStep, if_neg relevant, Bool.eq_false_iff.mpr (mt known.mp relevant), Bool.false_and, Bool.or_false]

/-- A slice has the bits of the number, and it has ones where the number ends. -/
theorem sliceItUp_bit (number : UInt64) (start : Nat) {count : Nat} (positive : 0 < count) (index : Nat) :
    (sliceItUp number start (start + count - 1)).toBitVec.getLsbD index =
      (decide (index < 64) && (decide (index < count) && covers number (start + index))) := by
  have size : start + count - 1 + 1 - start = count := by omega
  rw [sliceItUp, size]
  clear positive size
  induction count with
  | zero => simp
  | succ count ih =>
      rw [List.range'_1_concat, List.foldl_append, List.foldl_cons, List.foldl_nil, sliceStep_bit, ih]
      rcases Nat.lt_trichotomy index count with before | rfl | after
      · have different : count ≠ index := by omega
        simp [before, different, Nat.lt_succ_of_lt before]
      · simp [Bool.and_comm]
      · have different : count ≠ index := by omega
        have none : ¬index < count := by omega
        have none' : ¬index < count + 1 := by omega
        simp [none, none', different]

/-! ## Cells -/

theorem intOfWord_wordOfInt {value : Int} (low : -2 ^ 31 ≤ value) (high : value < 2 ^ 31) :
    intOfWord (wordOfInt value) = value := by
  rw [intOfWord, wordOfInt, UInt32.toUInt32_toUInt64, Int32.toInt32_toUInt32, Int32.toInt_ofInt_of_le low high]

/-- The 32 bits of a slice, counted from the last cell. -/
def sliceWord (number : UInt64) (place : Nat) : UInt32 :=
  (sliceItUp number (place * 32) ((place + 1) * 32 - 1)).toUInt32

theorem sliceWord_bit (number : UInt64) (place : Nat) {index : Nat} (inside : index < 32) :
    (sliceWord number place).toBitVec.getLsbD index = covers number (place * 32 + index) := by
  have bits := @sliceItUp_bit number (place * 32) 32 (by decide) index
  rw [show place * 32 + 32 - 1 = (place + 1) * 32 - 1 by omega] at bits
  rw [sliceWord, UInt64.toBitVec_toUInt32, BitVec.getLsbD_setWidth, bits, decide_eq_true inside,
    decide_eq_true (show index < 64 by omega), Bool.true_and, Bool.true_and, Bool.true_and]

theorem sliceWord_low (number : UInt64) : sliceWord number 0 = number.toUInt32 := by
  rw [← UInt32.toBitVec_inj]
  apply BitVec.eq_of_getLsbD_eq
  intro index inside
  rw [sliceWord_bit number 0 inside, covers, decide_eq_false (by omega), Bool.false_or, Nat.zero_mul, Nat.zero_add,
    UInt64.toBitVec_toUInt32, BitVec.getLsbD_setWidth, decide_eq_true inside, Bool.true_and]

theorem sliceWord_high (number : UInt64) : sliceWord number 1 = (number >>> 32).toUInt32 := by
  rw [← UInt32.toBitVec_inj]
  apply BitVec.eq_of_getLsbD_eq
  intro index inside
  rw [sliceWord_bit number 1 inside, covers, decide_eq_false (by omega), Bool.false_or, 
    UInt64.toBitVec_toUInt32, BitVec.getLsbD_setWidth, decide_eq_true inside, Bool.true_and,
    UInt64.toBitVec_shiftRight]
  exact (BitVec.getLsbD_ushiftRight _ _ _).symm

/-- The later cells lie behind the end of the number. -/
theorem sliceWord_later (number : UInt64) {place : Nat} (later : 2 ≤ place) : sliceWord number place = -1 := by
  rw [← UInt32.toBitVec_inj]
  apply BitVec.eq_of_getLsbD_eq
  intro index inside
  rw [sliceWord_bit number place inside, covers, decide_eq_true (by omega), Bool.true_or]
  exact (BitVec.getLsbD_allOnes.trans (decide_eq_true inside)).symm

theorem loadCells_succ (data : ProbeBuffer) (pos span : Nat) :
    loadCells data pos (span + 1) = loadCells data pos span <<< 32 ||| wordOfInt (data (pos + span)) := by
  rw [loadCells, List.range_succ, List.foldl_append]
  rfl

theorem joined_low (word : UInt64) (cell : UInt32) : (word <<< 32 ||| cell.toUInt64).toUInt32 = cell := by
  rw [← UInt32.toBitVec_inj]
  apply BitVec.eq_of_getLsbD_eq
  intro index inside
  rw [UInt64.toBitVec_toUInt32, BitVec.getLsbD_setWidth, UInt64.toBitVec_or, BitVec.getLsbD_or,
    UInt64.toBitVec_shiftLeft]
  have below : (word.toBitVec <<< ((32 : UInt64).toBitVec % 64)).getLsbD index = false := by
    have shifted := @BitVec.getLsbD_shiftLeft _ index word.toBitVec 32
    rw [decide_eq_true inside, Bool.not_true, Bool.and_false, Bool.false_and] at shifted
    exact shifted
  rw [below, Bool.false_or, UInt32.toBitVec_toUInt64, BitVec.getLsbD_setWidth, decide_eq_true inside,
    decide_eq_true (show index < 64 by omega), Bool.true_and, Bool.true_and]

theorem joined_high (word : UInt64) (cell : UInt32) :
    ((word <<< 32 ||| cell.toUInt64) >>> 32).toUInt32 = word.toUInt32 := by
  rw [← UInt32.toBitVec_inj]
  apply BitVec.eq_of_getLsbD_eq
  intro index inside
  have above : cell.toBitVec.getLsbD (32 + index) = false := BitVec.getLsbD_of_ge _ _ (by omega)
  have bit : ((word <<< 32 ||| cell.toUInt64) >>> 32).toBitVec.getLsbD index = word.toBitVec.getLsbD index := by
    have moved := BitVec.getLsbD_ushiftRight (word <<< 32 ||| cell.toUInt64).toBitVec 32 index
    have shifted := @BitVec.getLsbD_shiftLeft _ (32 + index) word.toBitVec 32
    rw [decide_eq_true (show 32 + index < 64 by omega), decide_eq_false (show ¬32 + index < 32 by omega),
      Bool.not_false, Bool.true_and, Bool.true_and, Nat.add_sub_cancel_left] at shifted
    rw [UInt64.toBitVec_or, BitVec.getLsbD_or, UInt32.toBitVec_toUInt64, BitVec.getLsbD_setWidth, above, Bool.and_false,
      Bool.or_false] at moved
    exact moved.trans shifted
  rw [UInt64.toBitVec_toUInt32, UInt64.toBitVec_toUInt32, BitVec.getLsbD_setWidth, BitVec.getLsbD_setWidth, bit]

theorem loadCells_low (data : ProbeBuffer) (pos span : Nat) :
    (loadCells data pos (span + 1)).toUInt32 = (Int32.ofInt (data (pos + span))).toUInt32 := by
  rw [loadCells_succ, wordOfInt, joined_low]

theorem loadCells_high (data : ProbeBuffer) (pos span : Nat) :
    (loadCells data pos (span + 2) >>> 32).toUInt32 = (Int32.ofInt (data (pos + span))).toUInt32 := by
  rw [loadCells_succ, wordOfInt, joined_high, loadCells_low]

theorem storeCells_apply (data : ProbeBuffer) (pos span : Nat) (number : UInt64) (index : Nat) :
    storeCells data pos span number index =
      if pos ≤ index ∧ index < pos + span then (sliceWord number (span - (index - pos) - 1)).toInt32.toInt
      else data index := by
  have loop : ∀ (value : Nat → Int) (count : Nat),
      (List.range count).foldl (fun data counter => Function.update data (pos + counter) (value counter)) data index =
        if pos ≤ index ∧ index < pos + count then value (index - pos) else data index := by
    intro value count
    induction count with
    | zero =>
        rw [if_neg (by omega)]
        rfl
    | succ count ih =>
        rw [List.range_succ, List.foldl_append, List.foldl_cons, List.foldl_nil]
        by_cases last : index = pos + count
        · subst last
          rw [Function.update_self, if_pos (by omega), Nat.add_sub_cancel_left]
        · rw [Function.update_of_ne last, ih]
          by_cases inside : pos ≤ index ∧ index < pos + count
          · rw [if_pos inside, if_pos (by omega)]
          · rw [if_neg inside, if_neg (by omega)]
  rw [storeCells, loop]
  by_cases inside : pos ≤ index ∧ index < pos + span
  · rw [if_pos inside, if_pos inside, sliceWord, show span - (index - pos) - 1 + 1 = span - (index - pos) by omega]
    rfl
  · rw [if_neg inside, if_neg inside]

theorem fullNumber_low (type : DataType) (word : UInt64) :
    (fullNumber type (loadValue type word)).toUInt32 = word.toUInt32 := by
  cases type with
  | bin => rfl
  | int =>
      change (wordOfInt (intOfWord word)).toUInt32 = word.toUInt32
      rw [wordOfInt, intOfWord, Int32.ofInt_toInt, UInt32.toUInt32_toUInt64]
      rfl

theorem fullNumber_high (type : DataType) (word : UInt64) :
    (fullNumber type (loadValue type word) >>> 32).toUInt32 =
      if type = .int then (0 : UInt32) else (word >>> 32).toUInt32 := by
  cases type with
  | bin => rfl
  | int =>
      have high := joined_high 0 (Int32.ofInt (intOfWord word)).toUInt32
      have zero : (0 : UInt64) <<< 32 = 0 := rfl
      rw [zero, UInt64.zero_or] at high
      exact high

/-- A load and a store without a mutation keep the last two cells of a binary item and the last cell of an integer. -/
theorem storeCells_load (cells : Nat → Int32) (type : DataType) (pos span index : Nat) :
    storeCells (fun index => (cells index).toInt) pos span
        (fullNumber type (loadValue type (loadCells (fun index => (cells index).toInt) pos span))) index =
      if pos ≤ index ∧ index + 2 < pos + span then -1
      else if type = .int ∧ pos ≤ index ∧ index + 2 = pos + span then 0
      else (cells index).toInt := by
  rw [storeCells_apply]
  by_cases outside : pos ≤ index ∧ index < pos + span
  · obtain ⟨after, before⟩ := outside
    rw [if_pos ⟨after, before⟩]
    obtain ⟨place, behind⟩ : ∃ place, span = index - pos + place + 1 := ⟨span - (index - pos) - 1, by omega⟩
    have same : span - (index - pos) - 1 = place := by omega
    rw [same]
    rcases place with _ | _ | place
    · rw [if_neg (by omega), if_neg (by omega), sliceWord_low, fullNumber_low, behind, Nat.add_zero, loadCells_low,
        Int32.toInt32_toUInt32, Int32.ofInt_toInt, Nat.add_sub_cancel' after]
    · rw [if_neg (by omega), sliceWord_high, fullNumber_high, behind, loadCells_high, Int32.ofInt_toInt,
        Nat.add_sub_cancel' after]
      cases type with
      | bin => simp
      | int =>
        have second : index + 2 = pos + (index - pos + 1 + 1) := by omega
        simp [after, ← second]
    · rw [if_pos (by omega), sliceWord_later _ (by omega)]
      rfl
  · rw [if_neg outside, if_neg (by omega), if_neg (by omega)]

end Libcsp

/-
This file gives the laws of bit fields in a word and of its big-endian bytes.
-/
import Mathlib.Data.Nat.Bitwise
import Mathlib.Data.UInt
import Mathlib.Tactic.Ring
import Mathlib.Tactic.Common

namespace Libcsp.BitField

/-- This value is the field of `size` bits at the offset. -/
def field (word offset size : Nat) : Nat := word >>> offset &&& (2 ^ size - 1)

theorem field_eq (word offset size : Nat) : field word offset size = word / 2 ^ offset % 2 ^ size := by
  rw [field, Nat.and_two_pow_sub_one_eq_mod, Nat.shiftRight_eq_div_pow]

theorem field_lt (word offset size : Nat) : field word offset size < 2 ^ size := by
  rw [field_eq]
  exact Nat.mod_lt _ (Nat.two_pow_pos size)

/-- A union of words has the union of their fields. -/
@[simp] theorem field_or (first second offset size : Nat) :
    field (first ||| second) offset size = field first offset size ||| field second offset size := by
  rw [field, Nat.shiftRight_or_distrib, Nat.and_or_distrib_right, field, field]

/-- A value that fits comes back from its own place. -/
theorem field_same {value offset size : Nat} (fits : value < 2 ^ size) :
    field (value <<< offset) offset size = value := by
  rw [field_eq, Nat.shiftLeft_eq, Nat.mul_div_cancel _ (Nat.two_pow_pos offset), Nat.mod_eq_of_lt fits]

/-- A value above the field leaves it zero. -/
theorem field_below {value place offset size : Nat} (above : offset + size ≤ place) :
    field (value <<< place) offset size = 0 := by
  obtain ⟨gap, rfl⟩ := Nat.exists_eq_add_of_le above
  have split : value <<< (offset + size + gap) = 2 ^ offset * (2 ^ size * (value * 2 ^ gap)) := by
    rw [Nat.shiftLeft_eq]
    ring
  rw [field_eq, split, Nat.mul_div_cancel_left _ (Nat.two_pow_pos offset), Nat.mul_mod_right]

/-- A value below the field leaves it zero. -/
theorem field_above {value place offset size : Nat} (small : value * 2 ^ place < 2 ^ offset) :
    field (value <<< place) offset size = 0 := by
  rw [field_eq, Nat.shiftLeft_eq, Nat.div_eq_of_lt small, Nat.zero_mod]

/-- A truncation keeps the fields below it. -/
theorem field_mod {word bits offset size : Nat} (inside : offset + size ≤ bits) :
    field (word % 2 ^ bits) offset size = field word offset size := by
  obtain ⟨gap, rfl⟩ := Nat.exists_eq_add_of_le inside
  rw [field_eq, field_eq, Nat.pow_add, Nat.pow_add, Nat.mul_assoc, Nat.mod_mul_right_div_self,
    Nat.mod_mod_of_dvd _ (Nat.dvd_mul_right _ _)]

/-- A value inside the field moves with it. -/
theorem field_inside {value place offset size : Nat} (after : offset ≤ place)
    (fits : value * 2 ^ (place - offset) < 2 ^ size) :
    field (value <<< place) offset size = value <<< (place - offset) := by
  obtain ⟨gap, rfl⟩ := Nat.exists_eq_add_of_le after
  rw [Nat.add_sub_cancel_left] at fits ⊢
  have split : value <<< (offset + gap) = 2 ^ offset * (value * 2 ^ gap) := by
    rw [Nat.shiftLeft_eq]
    ring
  rw [field_eq, split, Nat.mul_div_cancel_left _ (Nat.two_pow_pos offset), Nat.mod_eq_of_lt fits,
    Nat.shiftLeft_eq]

/-- A mask of consecutive bits selects one field. -/
theorem and_mask (word size offset : Nat) :
    word &&& ((2 ^ size - 1) <<< offset) = field word offset size <<< offset := by
  apply Nat.eq_of_testBit_eq
  intro index
  rw [Nat.testBit_and, Nat.testBit_shiftLeft, Nat.testBit_shiftLeft, field, Nat.testBit_and,
    Nat.testBit_shiftRight, Nat.testBit_two_pow_sub_one]
  by_cases inside : offset ≤ index
  · have place : offset + (index - offset) = index := by omega
    simp [inside, place]
  · simp [inside]

/-- A field completes the bits below it. -/
theorem or_field (word offset size : Nat) :
    field word offset size <<< offset ||| word % 2 ^ offset = word % 2 ^ (offset + size) := by
  apply Nat.eq_of_testBit_eq
  intro index
  rw [field_eq, Nat.testBit_or, Nat.testBit_shiftLeft, Nat.testBit_mod_two_pow, Nat.testBit_mod_two_pow,
    Nat.testBit_mod_two_pow, Nat.testBit_div_two_pow]
  by_cases above : offset ≤ index
  · have inside : index - offset < size ↔ index < offset + size := by omega
    simp [above, inside, Nat.not_lt.mpr above]
  · have inside : index < offset + size := by omega
    simp [above, inside, Nat.lt_of_not_le above]

/-- The complement of a mask of low bits clears these bits. -/
theorem toNat_and_not_mask (word : UInt16) {low : Nat} (inside : low ≤ 16) :
    (word &&& ~~~UInt16.ofNat (2 ^ low - 1)).toNat = word.toNat / 2 ^ low * 2 ^ low := by
  have wide := Nat.pow_le_pow_right (by decide : 0 < 2) inside
  have positive := Nat.two_pow_pos low
  have small : 2 ^ low - 1 < 2 ^ 16 := by omega
  have complement : UInt16.size - 1 - (2 ^ low - 1) = 2 ^ 16 - ((2 ^ low - 1) + 1) := by
    rw [Nat.sub_sub, Nat.add_comm 1]
    rfl
  apply Nat.eq_of_testBit_eq
  intro index
  rw [UInt16.toNat_and, UInt16.toNat_not, UInt16.toNat_ofNat_of_lt' small, complement, Nat.testBit_and,
    Nat.testBit_two_pow_sub_succ small, Nat.testBit_two_pow_sub_one, ← Nat.shiftRight_eq_div_pow,
    ← Nat.shiftLeft_eq, Nat.testBit_shiftLeft, Nat.testBit_shiftRight]
  by_cases above : low ≤ index
  · have place : low + (index - low) = index := by omega
    simp only [place, above, decide_true, Bool.true_and]
    by_cases short : index < 16
    · simp [short]
      omega
    · have zero := Nat.testBit_lt_two_pow
        (Nat.lt_of_lt_of_le word.toNat_lt (Nat.pow_le_pow_right (by decide) (Nat.le_of_not_lt short)))
      rw [zero, Bool.false_and]
  · simp [above, Nat.lt_of_not_le above]

/-- Two words agree above the mask exactly when their high parts are equal. -/
theorem and_not_mask_eq_iff (first second : UInt16) {low : Nat} (inside : low ≤ 16) :
    first &&& ~~~UInt16.ofNat (2 ^ low - 1) = second &&& ~~~UInt16.ofNat (2 ^ low - 1) ↔
      first.toNat / 2 ^ low = second.toNat / 2 ^ low := by
  rw [← UInt16.toNat_inj, toNat_and_not_mask first inside, toNat_and_not_mask second inside]
  exact ⟨Nat.eq_of_mul_eq_mul_right (Nat.two_pow_pos low), fun same => by rw [same]⟩

/-! ## Big-endian bytes -/

/-- These are the low `count` bytes of the word, the highest first. -/
def beBytes : Nat → Nat → List UInt8
  | 0, _ => []
  | count + 1, word => UInt8.ofNat (word / 256 ^ count) :: beBytes count word

def beValue (bytes : List UInt8) : Nat := bytes.foldl (fun word byte => word * 256 + byte.toNat) 0

@[simp] theorem beBytes_length (count word : Nat) : (beBytes count word).length = count := by
  induction count with
  | zero => rfl
  | succ count ih => rw [beBytes, List.length_cons, ih]

theorem foldl_beBytes (count word start : Nat) :
    (beBytes count word).foldl (fun word byte => word * 256 + byte.toNat) start =
      start * 256 ^ count + word % 256 ^ count := by
  induction count generalizing start with
  | zero => simp [beBytes, Nat.mod_one]
  | succ count ih =>
      rw [beBytes, List.foldl_cons, ih, UInt8.toNat_ofNat']
      have split : word % 256 ^ (count + 1) =
          256 ^ count * (word / 256 ^ count % 256) + word % 256 ^ count := by
        rw [Nat.pow_succ, Nat.mod_mul, Nat.add_comm]
      rw [split]
      ring

/-- The high bytes come first. -/
theorem beBytes_add (high low word : Nat) :
    beBytes (high + low) word = beBytes high (word / 256 ^ low) ++ beBytes low word := by
  induction high with
  | zero => rw [Nat.zero_add, beBytes, List.nil_append]
  | succ high ih =>
      rw [Nat.succ_add, beBytes, beBytes, ih, Nat.div_div_eq_div_mul, ← Nat.pow_add,
        Nat.add_comm low high, List.cons_append]

/-- The bytes give the truncated word back. -/
theorem beValue_beBytes (count word : Nat) : beValue (beBytes count word) = word % 256 ^ count := by
  rw [beValue, foldl_beBytes, Nat.zero_mul, Nat.zero_add]

theorem foldl_bytes (bytes : List UInt8) (start : Nat) :
    bytes.foldl (fun word byte => word * 256 + byte.toNat) start = start * 256 ^ bytes.length + beValue bytes := by
  induction bytes generalizing start with
  | nil => simp [beValue]
  | cons byte rest ih =>
      have whole : beValue (byte :: rest) = (0 * 256 + byte.toNat) * 256 ^ rest.length + beValue rest := by
        rw [beValue, List.foldl_cons, ih]
      rw [List.foldl_cons, ih, whole, List.length_cons]
      ring

theorem beValue_cons (byte : UInt8) (rest : List UInt8) :
    beValue (byte :: rest) = byte.toNat * 256 ^ rest.length + beValue rest := by
  rw [beValue, List.foldl_cons, foldl_bytes, Nat.zero_mul, Nat.zero_add]

theorem beValue_lt (bytes : List UInt8) : beValue bytes < 256 ^ bytes.length := by
  induction bytes with
  | nil => exact Nat.one_pos
  | cons byte rest ih =>
      have small : byte.toNat + 1 ≤ 256 := byte.toNat_lt
      rw [beValue_cons, List.length_cons, Nat.pow_succ]
      have bound := Nat.mul_le_mul_right (256 ^ rest.length) small
      rw [Nat.add_mul] at bound
      omega

theorem beBytes_congr {count first second : Nat} (same : first % 256 ^ count = second % 256 ^ count) :
    beBytes count first = beBytes count second := by
  induction count with
  | zero => rfl
  | succ count ih =>
      have low : first % 256 ^ count = second % 256 ^ count := by
        have := congrArg (· % 256 ^ count) same
        simpa only [Nat.mod_mod_of_dvd _ (Nat.pow_dvd_pow 256 (Nat.le_succ count))] using this
      have high : first / 256 ^ count % 256 = second / 256 ^ count % 256 := by
        have := congrArg (· / 256 ^ count) same
        simpa only [Nat.pow_succ, Nat.mod_mul_right_div_self] using this
      have head : UInt8.ofNat (first / 256 ^ count) = UInt8.ofNat (second / 256 ^ count) := by
        apply UInt8.toNat_inj.mp
        simpa only [UInt8.toNat_ofNat'] using high
      rw [beBytes, beBytes, ih low, head]

/-- The value of the bytes gives the bytes back. -/
theorem beBytes_beValue (bytes : List UInt8) : beBytes bytes.length (beValue bytes) = bytes := by
  induction bytes with
  | nil => rfl
  | cons byte rest ih =>
      have positive : 0 < 256 ^ rest.length := Nat.pow_pos (by decide)
      have high : (byte.toNat * 256 ^ rest.length + beValue rest) / 256 ^ rest.length = byte.toNat := by
        rw [Nat.mul_comm, Nat.mul_add_div positive, Nat.div_eq_of_lt (beValue_lt rest), Nat.add_zero]
      have low : (byte.toNat * 256 ^ rest.length + beValue rest) % 256 ^ rest.length =
          beValue rest % 256 ^ rest.length := by
        rw [Nat.mul_comm, Nat.mul_add_mod]
      rw [beValue_cons, List.length_cons, beBytes, high, UInt8.ofNat_toNat, beBytes_congr low, ih]

end Libcsp.BitField

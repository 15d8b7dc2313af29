/-
This file defines a reflected CRC bit by bit, and relates it to a table for several bits at once.
-/
import Mathlib.Data.BitVec
import Mathlib.Tactic.Common

namespace Libcsp.SerialCrc

variable {width : Nat} (poly : BitVec width)

/-- The register takes one bit of the message. The sum of this bit and of the last bit of the register decides
whether the polynomial is subtracted. -/
def takeBit (register : BitVec width) (bit : Bool) : BitVec width :=
  if register.getLsbD 0 ^^ bit then (register >>> 1) ^^^ poly else register >>> 1

/-- The register after the whole message. -/
def takeBits (register : BitVec width) (message : List Bool) : BitVec width := message.foldl (takeBit poly) register

/-- The register moves by some bits without a message. -/
def shifts : Nat → BitVec width → BitVec width
  | 0, register => register
  | count + 1, register => shifts count (takeBit poly register false)

/-- The last bits of a value, the least significant bit first. -/
def lowBits : Nat → BitVec width → List Bool
  | 0, _ => []
  | count + 1, value => value.getLsbD 0 :: lowBits count (value >>> 1)

variable {poly} {register value : BitVec width} {count : Nat}

/-! ## The message -/

theorem takeBits_append (first second : List Bool) :
    takeBits poly register (first ++ second) = takeBits poly (takeBits poly register first) second :=
  List.foldl_append

/-- The last bits do not depend on the width. -/
theorem lowBits_setWidth {wide : Nat} (wider : width ≤ wide) :
    lowBits count (value.setWidth wide) = lowBits count value := by
  induction count generalizing value with
  | zero => rfl
  | succ count ih =>
      have last : (value.setWidth wide).getLsbD 0 = value.getLsbD 0 := by
        rw [BitVec.getLsbD_setWidth]
        cases bit : value.getLsbD 0 with
        | false => exact Bool.and_false _
        | true => simpa using Nat.lt_of_lt_of_le (BitVec.lt_of_getLsbD bit) wider
      have moved : value.setWidth wide >>> 1 = (value >>> 1).setWidth wide := by
        rw [BitVec.setWidth_ushiftRight wider]
      rw [lowBits, last, moved, ih, lowBits]

/-- The message may be added to the register first. -/
theorem takeBit_xor_value :
    takeBit poly (register ^^^ value) false = takeBit poly register (value.getLsbD 0) ^^^ (value >>> 1) := by
  simp only [takeBit, BitVec.getLsbD_xor, BitVec.ushiftRight_xor_distrib, Bool.xor_false]
  by_cases subtracted : (register.getLsbD 0 ^^ value.getLsbD 0) = true
  · rw [if_pos subtracted, if_pos subtracted, BitVec.xor_assoc, BitVec.xor_assoc, BitVec.xor_comm poly]
  · rw [if_neg subtracted, if_neg subtracted]

/-- The rest of the value stays in the register that had the value added. -/
theorem takeBits_lowBits :
    takeBits poly register (lowBits count value) ^^^ (value >>> count) = shifts poly count (register ^^^ value) := by
  induction count generalizing register value with
  | zero => exact congrArg (register ^^^ ·) (BitVec.ushiftRight_zero value)
  | succ count ih =>
      calc takeBits poly register (lowBits (count + 1) value) ^^^ (value >>> (count + 1))
          = takeBits poly (takeBit poly register (value.getLsbD 0)) (lowBits count (value >>> 1)) ^^^
              ((value >>> 1) >>> count) := by rw [← BitVec.shiftRight_add, Nat.add_comm 1 count]; rfl
        _ = shifts poly count (takeBit poly register (value.getLsbD 0) ^^^ (value >>> 1)) := ih
        _ = shifts poly (count + 1) (register ^^^ value) := by rw [← takeBit_xor_value]; rfl

/-! ## The table -/

/-- A shift of a sum is the sum of the shifts. -/
theorem takeBit_xor (first second : BitVec width) :
    takeBit poly (first ^^^ second) false = takeBit poly first false ^^^ takeBit poly second false := by
  simp only [takeBit, BitVec.getLsbD_xor, BitVec.ushiftRight_xor_distrib, Bool.xor_false]
  cases first.getLsbD 0 <;> cases second.getLsbD 0
  · rfl
  · exact BitVec.xor_assoc _ _ _
  · simp only [Bool.true_xor, Bool.not_false, if_true, Bool.false_eq_true, if_false]
    rw [BitVec.xor_assoc, BitVec.xor_assoc, BitVec.xor_comm poly]
  · simp only [Bool.true_xor, Bool.not_true, if_true, Bool.false_eq_true, if_false]
    rw [BitVec.xor_assoc, BitVec.xor_comm (second >>> 1), ← BitVec.xor_assoc poly, BitVec.xor_self,
      BitVec.zero_xor]

theorem shifts_xor (first second : BitVec width) :
    shifts poly count (first ^^^ second) = shifts poly count first ^^^ shifts poly count second := by
  induction count generalizing first second with
  | zero => rfl
  | succ count ih => simp only [shifts, takeBit_xor, ih]

/-- The polynomial is not subtracted while the last bits of the register are zero. -/
theorem shifts_clear (clear : ∀ index < count, register.getLsbD index = false) :
    shifts poly count register = register >>> count := by
  induction count generalizing register with
  | zero => exact (BitVec.ushiftRight_zero register).symm
  | succ count ih =>
      have moved : takeBit poly register false = register >>> 1 := by
        simp only [takeBit, clear 0 (Nat.succ_pos count), Bool.xor_false, Bool.false_eq_true, if_false]
      have rest : ∀ index < count, (register >>> 1).getLsbD index = false := by
        intro index small
        rw [BitVec.getLsbD_ushiftRight]
        exact clear (1 + index) (by omega)
      rw [shifts, moved, ih rest, ← BitVec.shiftRight_add, Nat.add_comm 1 count]

/-- A table of the shifts of the last bits gives the shifts of the whole register. -/
theorem shifts_table : shifts poly count register =
    shifts poly count (register &&& (BitVec.allOnes count).setWidth width) ^^^ (register >>> count) := by
  let mask := (BitVec.allOnes count).setWidth width
  have parts : register = (register &&& mask) ^^^ (register &&& ~~~mask) := by
    ext index inside
    simp only [BitVec.getElem_xor, BitVec.getElem_and, BitVec.getElem_not]
    cases register[index] <;> cases mask[index] <;> rfl
  have clear : ∀ index < count, (register &&& ~~~mask).getLsbD index = false := by
    intro index small
    simp [mask, small]
  have high : (register &&& ~~~mask) >>> count = register >>> count := by
    ext index inside
    simpa [mask] using BitVec.lt_of_getLsbD
  calc shifts poly count register
      = shifts poly count (register &&& mask) ^^^ shifts poly count (register &&& ~~~mask) := by
        rw [← shifts_xor, ← parts]
    _ = shifts poly count (register &&& mask) ^^^ (register >>> count) := by rw [shifts_clear clear, high]

end Libcsp.SerialCrc

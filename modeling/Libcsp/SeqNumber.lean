/-
This file reads the comparisons of csp_rdp.c as statements about distances of serial numbers.
-/
import Libcsp.Rdp
import Libcsp.Lib.Serial

namespace Libcsp

/-- This distance counts the numbers from `first` forward to `last`. -/
def seqAhead (first last : UInt16) : Nat := Serial.ahead first.toBitVec last.toBitVec

theorem seqAhead_eq (first last : UInt16) : seqAhead first last = (last - first).toNat := rfl

theorem seqAhead_lt (first last : UInt16) : seqAhead first last < 65536 := Serial.ahead_lt _ _

@[simp] theorem seqAhead_self (first : UInt16) : seqAhead first first = 0 := Serial.ahead_self _

theorem seqAhead_eq_zero {first last : UInt16} : seqAhead first last = 0 ↔ first = last := by
  rw [seqAhead, Serial.ahead_eq_zero, UInt16.toBitVec_inj]

theorem rdpSeqBetween_eq (seq start last : UInt16) :
    rdpSeqBetween seq start last = Serial.between seq.toBitVec start.toBitVec last.toBitVec := by
  simp only [rdpSeqBetween, Serial.between, ge_iff_le, UInt16.le_iff_toNat_le]
  rfl

theorem rdpSeqBefore_eq (seq cmp : UInt16) :
    rdpSeqBefore seq cmp = Serial.before seq.toBitVec cmp.toBitVec := by
  rw [Serial.before, ← UInt16.toBitVec_sub, rdpSeqBefore, BitVec.msb_eq_toInt]
  simp only [Int16.lt_iff_toInt_lt]
  rfl

theorem rdpSeqBetween_iff {seq start last : UInt16} :
    rdpSeqBetween seq start last = true ↔ seqAhead start seq ≤ seqAhead start last := by
  rw [rdpSeqBetween_eq, Serial.between_iff]
  rfl

theorem rdpSeqBefore_eq_false {seq cmp : UInt16} :
    rdpSeqBefore seq cmp = false ↔ seqAhead cmp seq < 32768 := by
  rw [rdpSeqBefore_eq, Serial.before_eq_false_iff]
  rfl

theorem seqAhead_of_common_start {first second start : UInt16}
    (order : seqAhead start first ≤ seqAhead start second) :
    seqAhead first second = seqAhead start second - seqAhead start first :=
  Serial.ahead_of_common_start order

/-- One step forward adds one, as long as the circle does not close. -/
theorem seqAhead_succ {first last : UInt16} (room : seqAhead first last + 1 < 65536) :
    seqAhead first (last + 1) = seqAhead first last + 1 :=
  @Serial.ahead_trans 16 _ _ (last + 1).toBitVec (by
    have one : Serial.ahead last.toBitVec (last + 1).toBitVec = 1 := by
      simp [Serial.ahead]
    rw [one]
    exact room) |>.trans (by simp [Serial.ahead, seqAhead])

theorem seqAhead_succ_left {first last : UInt16} (different : first ≠ last) :
    seqAhead (first + 1) last + 1 = seqAhead first last := by
  have positive := mt seqAhead_eq_zero.mp different
  have bound := seqAhead_lt first last
  simp only [seqAhead_eq, UInt16.toNat_sub, UInt16.toNat_add, UInt16.reduceToNat] at *
  have := first.toNat_lt
  have := last.toNat_lt
  omega

end Libcsp

/-
This file develops serial-number arithmetic: the order of numbers that wrap at a power of two.
-/
import Mathlib.Data.BitVec
import Mathlib.Data.List.Range
import Mathlib.Tactic.Ring
import Mathlib.Tactic.Common

namespace Libcsp.Serial

variable {w : Nat}

/-- The signed difference decides the order of two nearby serial numbers. -/
def before (a b : BitVec w) : Bool := (a - b).msb

/-- The closed arc from `first` to `last` contains `a`. -/
def between (a first last : BitVec w) : Bool := decide ((a - first).toNat ≤ (last - first).toNat)

/-- This distance counts the steps from `a` forward to `b`. -/
def ahead (a b : BitVec w) : Nat := (b - a).toNat

theorem ahead_lt (a b : BitVec w) : ahead a b < 2 ^ w := (b - a).isLt

@[simp] theorem ahead_self (a : BitVec w) : ahead a a = 0 := by simp [ahead]

theorem ahead_eq_zero {a b : BitVec w} : ahead a b = 0 ↔ a = b := by
  constructor
  · intro zero
    have difference : b - a = 0 := BitVec.eq_of_toNat_eq (by simpa [ahead] using zero)
    exact (sub_eq_zero.mp difference).symm
  · rintro rfl
    exact ahead_self a

theorem ahead_right_inj {a b reference : BitVec w} (same : ahead a reference = ahead b reference) :
    a = b := sub_right_injective (BitVec.eq_of_toNat_eq same)

theorem between_iff {a first last : BitVec w} :
    between a first last = true ↔ ahead first a ≤ ahead first last := by
  simp [between, ahead]

/-- Arcs that share their first point subtract as natural numbers. -/
theorem ahead_of_common_start {a b first : BitVec w} (order : ahead first a ≤ ahead first b) :
    ahead a b = ahead first b - ahead first a := by
  have split : b - a = (b - first) - (a - first) := by ring
  unfold ahead at *
  rw [split, BitVec.toNat_sub_of_le order]

/-- Two consecutive arcs add up when they fit in one turn. -/
theorem ahead_trans {a b c : BitVec w} (fits : ahead a b + ahead b c < 2 ^ w) :
    ahead a c = ahead a b + ahead b c := by
  have split : c - a = (b - a) + (c - b) := by ring
  unfold ahead at *
  rw [split, BitVec.toNat_add_of_lt fits]

/-- The arcs between two different numbers make one turn. -/
theorem ahead_turn {a b : BitVec w} (different : a ≠ b) : ahead a b + ahead b a = 2 ^ w := by
  have opposite : a - b = -(b - a) := by ring
  have nonzero : (b - a).toNat ≠ 0 := fun zero => different (ahead_eq_zero.mp zero)
  unfold ahead
  rw [opposite, BitVec.toNat_neg_of_pos (by
    rw [BitVec.lt_def]
    simp only [BitVec.toNat_ofNat, Nat.zero_mod]
    omega)]
  have := (b - a).isLt
  omega

/-- The signed order fails exactly on the half turn that starts at `b`. -/
theorem before_eq_false_iff {a b : BitVec w} : before a b = false ↔ ahead b a < 2 ^ (w - 1) := by
  rw [before, BitVec.msb_eq_decide, decide_eq_false_iff_not, not_le, ahead]

/-- The signed order sees that more than `step` steps are past, unless the distance is a half turn away. -/
theorem before_add_iff {start step now : BitVec w} (positive : 0 < w) :
    before (start + step) now = true ↔
      (step.toNat < ahead start now ∧ ahead start now ≤ step.toNat + 2 ^ (w - 1)) ∨
        ahead start now + 2 ^ (w - 1) ≤ step.toNat := by
  have turn : 2 ^ w = 2 * 2 ^ (w - 1) := by
    rw [← Nat.pow_succ', Nat.succ_eq_add_one, Nat.sub_add_cancel positive]
  have split : start + step - now = step - (now - start) := by ring
  have near : before (start + step) now = true ↔ ¬(step - (now - start)).toNat < 2 ^ (w - 1) := by
    rw [← split, ← ahead, ← before_eq_false_iff, Bool.not_eq_false]
  have small := step.isLt
  have less := (now - start).isLt
  rw [near, ahead]
  by_cases order : (now - start).toNat ≤ step.toNat
  · rw [BitVec.toNat_sub_of_le order]
    omega
  · have wraps : (step - (now - start)).toNat = 2 ^ w - (now - start).toNat + step.toNat := by
      rw [BitVec.toNat_sub, Nat.mod_eq_of_lt (by omega)]
    rw [wraps]
    omega

/-! ## Windows of numbers -/

/-- The numbers are distinct, and all lie in the last `span` steps in front of `last`. -/
structure Recent (last : BitVec w) (span : Nat) (numbers : List (BitVec w)) : Prop where
  distinct : numbers.Nodup
  near : ∀ number ∈ numbers, 0 < ahead number last ∧ ahead number last ≤ span

theorem Recent.nil (last : BitVec w) (span : Nat) : Recent last span [] := ⟨List.nodup_nil, by simp⟩

theorem Recent.sublist {last : BitVec w} {span : Nat} {numbers fewer : List (BitVec w)}
    (recent : Recent last span numbers) (sub : fewer.Sublist numbers) : Recent last span fewer :=
  ⟨recent.distinct.sublist sub, fun number member => recent.near number (sub.subset member)⟩

/-- A window of `span` steps has room for `span` numbers. -/
theorem Recent.length_le {last : BitVec w} {span : Nat} {numbers : List (BitVec w)}
    (recent : Recent last span numbers) : numbers.length ≤ span := by
  have distances : (numbers.map fun number => ahead number last).Nodup :=
    recent.distinct.map fun _ _ same => ahead_right_inj same
  have inside : (numbers.map fun number => ahead number last) ⊆ List.range' 1 span := by
    intro distance member
    obtain ⟨number, among, rfl⟩ := List.mem_map.mp member
    have := recent.near number among
    exact List.mem_range'_1.mpr (by omega)
  have bound := (distances.subperm inside).length_le
  rwa [List.length_map, List.length_range'] at bound

/-- The next number enters the window when its end moves on. -/
theorem Recent.snoc {last : BitVec w} {span : Nat} {numbers : List (BitVec w)}
    (recent : Recent last span numbers) (room : span + 1 < 2 ^ w) :
    Recent (last + 1) (span + 1) (numbers ++ [last]) := by
  have one : ahead last (last + 1) = 1 := by
    have small : 1 < 2 ^ w := by omega
    simp [ahead, Nat.mod_eq_of_lt small]
  refine ⟨?_, fun number member => ?_⟩
  · refine List.Nodup.append recent.distinct (List.nodup_singleton last) ?_
    intro number member same
    obtain rfl := List.mem_singleton.mp same
    simpa using (recent.near _ member).1
  · rcases List.mem_append.mp member with member | member
    · obtain ⟨positive, near⟩ := recent.near number member
      rw [@ahead_trans _ _ last _ (by omega), one]
      omega
    · rw [List.mem_singleton.mp member, one]
      omega

/-- A purge of the numbers before `start` leaves those from `start` on, when the window is not so
long that the signed order turns around. -/
theorem Recent.purge {start last : BitVec w} {span : Nat} {numbers : List (BitVec w)}
    (recent : Recent last span numbers) (half : ahead start last < 2 ^ (w - 1))
    (short : span ≤ 2 ^ (w - 1) + ahead start last) :
    Recent last (ahead start last) (numbers.filter fun number => !before number start) := by
  refine ⟨recent.distinct.filter _, fun number member => ?_⟩
  obtain ⟨member, kept⟩ := List.mem_filter.mp member
  have forward : ahead start number < 2 ^ (w - 1) := before_eq_false_iff.mp (by simpa using kept)
  obtain ⟨positive, near⟩ := recent.near number member
  refine ⟨positive, ?_⟩
  by_contra beyond
  have order : ahead start last ≤ ahead start number := by
    by_contra closer
    have arc := @ahead_of_common_start _ number last start (by omega)
    omega
  have arc := ahead_of_common_start order
  have turn : ahead last number + ahead number last = 2 ^ w := ahead_turn (by
    rintro rfl
    simp at positive)
  have double : 2 ^ w = 2 ^ (w - 1) + 2 ^ (w - 1) := by
    cases w with
    | zero =>
        have := ahead_lt number last
        omega
    | succ w =>
        rw [Nat.add_sub_cancel]
        ring
  omega

end Libcsp.Serial

/-
This file bounds the work on items that leave a few items of lower rank behind.
-/
import Mathlib.Algebra.Order.BigOperators.Group.List
import Mathlib.Algebra.Order.Ring.Nat
import Mathlib.Tactic.Common

namespace Libcsp.Spread

variable {width limit index : Nat} {ranks children : List Nat}

/-- An item of a rank causes at most this much work when each item leaves at most `width` items behind. -/
def work (width : Nat) (ranks : List Nat) : Nat := (ranks.map fun rank => (width + 1) ^ rank).sum

theorem work_append (width : Nat) (first second : List Nat) :
    work width (first ++ second) = work width first + work width second := by
  rw [work, List.map_append, List.sum_append]
  rfl

theorem work_perm (width : Nat) {other : List Nat} (perm : ranks.Perm other) : work width ranks = work width other :=
  (perm.map _).sum_eq

theorem work_le (lower : ∀ rank ∈ ranks, rank ≤ limit) : work width ranks ≤ ranks.length * (width + 1) ^ limit := by
  have each : ∀ value ∈ ranks.map fun rank => (width + 1) ^ rank, value ≤ (width + 1) ^ limit := by
    intro value member
    obtain ⟨rank, inside, rfl⟩ := List.mem_map.mp member
    exact Nat.pow_le_pow_right (Nat.succ_pos width) (lower rank inside)
  have total := List.sum_le_card_nsmul _ _ each
  rwa [List.length_map, nsmul_eq_mul, Nat.cast_id] at total

/-- The items that are left behind cause less work than the item itself. -/
theorem work_children {rank : Nat} (few : children.length ≤ width) (lower : ∀ child ∈ children, child < rank) :
    work width children < (width + 1) ^ rank := by
  cases rank with
  | zero =>
      have none : children = [] :=
        List.eq_nil_iff_forall_not_mem.mpr fun child member => Nat.not_lt_zero _ (lower child member)
      rw [none, Nat.pow_zero]
      exact Nat.zero_lt_one
  | succ rank =>
      have positive : 0 < (width + 1) ^ rank := Nat.pow_pos (Nat.succ_pos width)
      calc work width children ≤ children.length * (width + 1) ^ rank :=
            work_le fun child member => Nat.le_of_lt_succ (lower child member)
        _ ≤ width * (width + 1) ^ rank := Nat.mul_le_mul_right _ few
        _ < (width + 1) * (width + 1) ^ rank := by rw [Nat.succ_mul]; omega
        _ = (width + 1) ^ (rank + 1) := by rw [Nat.pow_succ, Nat.mul_comm]

/-- The work shrinks when an item is replaced by what it leaves behind. -/
theorem work_spread (inside : index < ranks.length) (few : children.length ≤ width)
    (lower : ∀ child ∈ children, child < ranks[index]) :
    work width (ranks.eraseIdx index ++ children) < work width ranks := by
  have split := work_perm width (List.getElem_cons_eraseIdx_perm inside)
  have less := work_children few lower
  rw [work_append, ← split]
  change work width (ranks.eraseIdx index) + _ < (width + 1) ^ ranks[index] + work width (ranks.eraseIdx index)
  omega

end Libcsp.Spread

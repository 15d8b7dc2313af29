/-
This file relates a ring of slots to the list of the values that were pushed into it.
-/
import Mathlib.Data.List.Basic
import Mathlib.Logic.Function.Basic
import Mathlib.Tactic.Common

namespace Libcsp.Ring

variable {Value : Type} {capacity next : Nat} {blank : Value} {slot : Nat → Value} {pushed : List Value}

/-- The ring started with blank slots, and it holds the last pushed values. -/
structure Holds (capacity : Nat) (blank : Value) (slot : Nat → Value) (next : Nat) (pushed : List Value) : Prop where
  turn : next = pushed.length % capacity
  recent : ∀ index (inside : index < pushed.length), pushed.length ≤ index + capacity →
    slot (index % capacity) = pushed[index]
  fresh : ∀ index, pushed.length ≤ index → slot index = blank

theorem Holds.init (capacity : Nat) (blank : Value) : Holds capacity blank (fun _ => blank) 0 [] where
  turn := (Nat.zero_mod capacity).symm
  recent _ inside := absurd inside (Nat.not_lt_zero _)
  fresh _ _ := rfl

/-- Two indices that are less than one turn apart have different slots. -/
theorem mod_ne {first last : Nat} (before : first < last) (near : last < first + capacity) :
    first % capacity ≠ last % capacity := by
  intro same
  have whole : (last - first) % capacity = 0 := Nat.sub_mod_eq_zero_of_mod_eq same.symm
  rw [Nat.mod_eq_of_lt (by omega)] at whole
  omega

/-- The next slot takes the pushed value. -/
theorem Holds.push (holds : Holds capacity blank slot next pushed) (value : Value) :
    Holds capacity blank (Function.update slot next value) ((next + 1) % capacity) (pushed ++ [value]) where
  turn := by
    rw [holds.turn, List.length_append, List.length_singleton, Nat.mod_add_mod]
  recent index inside near := by
    rw [List.length_append, List.length_singleton] at inside near
    by_cases last : index = pushed.length
    · subst last
      rw [← holds.turn, Function.update_self, List.getElem_concat_length rfl]
    · have earlier : index < pushed.length := by omega
      have other : index % capacity ≠ next := by
        rw [holds.turn]
        exact mod_ne earlier (by omega)
      rw [Function.update_of_ne other, List.getElem_append_left earlier]
      exact holds.recent index earlier (by omega)
  fresh index outside := by
    rw [List.length_append, List.length_singleton] at outside
    have other : index ≠ next := by
      have below := Nat.mod_le pushed.length capacity
      rw [holds.turn]
      omega
    rw [Function.update_of_ne other]
    exact holds.fresh index (by omega)

/-- The last index with the slot that is below the bound. -/
theorem exists_index {index count : Nat} (slotted : index < capacity) (reached : index < count) :
    ∃ last < count, last % capacity = index ∧ count ≤ last + capacity := by
  refine ⟨index + capacity * ((count - 1 - index) / capacity), ?_, ?_, ?_⟩
  · have := Nat.mul_div_le (count - 1 - index) capacity
    omega
  · rw [Nat.add_mul_mod_self_left, Nat.mod_eq_of_lt slotted]
  · have := Nat.lt_mul_div_succ (count - 1 - index) (Nat.zero_lt_of_lt slotted)
    rw [Nat.mul_add, Nat.mul_one] at this
    omega

theorem mem_drop_iff {value : Value} : value ∈ pushed.drop (pushed.length - capacity) ↔
    ∃ index, ∃ inside : index < pushed.length, pushed.length ≤ index + capacity ∧ pushed[index] = value := by
  rw [List.mem_drop_iff_getElem]
  constructor
  · rintro ⟨index, inside, rfl⟩
    exact ⟨pushed.length - capacity + index, by omega, by omega, rfl⟩
  · rintro ⟨index, inside, near, rfl⟩
    refine ⟨index - (pushed.length - capacity), by omega, ?_⟩
    congr 1
    omega

/-- A search in the slots is a search in the last values, and in a blank slot before the first turn is full. -/
theorem Holds.exists_slot (holds : Holds capacity blank slot next pushed) (test : Value → Prop) :
    (∃ index < capacity, test (slot index)) ↔
      (∃ value ∈ pushed.drop (pushed.length - capacity), test value) ∨
        (pushed.length < capacity ∧ test blank) := by
  constructor
  · rintro ⟨index, slotted, passes⟩
    by_cases reached : index < pushed.length
    · obtain ⟨last, inside, rfl, near⟩ := exists_index slotted reached
      rw [holds.recent last inside near] at passes
      exact .inl ⟨_, mem_drop_iff.mpr ⟨last, inside, near, rfl⟩, passes⟩
    · rw [holds.fresh index (Nat.not_lt.mp reached)] at passes
      exact .inr ⟨by omega, passes⟩
  · rintro (⟨value, member, passes⟩ | ⟨room, passes⟩)
    · obtain ⟨index, inside, near, rfl⟩ := mem_drop_iff.mp member
      have positive : 0 < capacity := by omega
      refine ⟨index % capacity, Nat.mod_lt index positive, ?_⟩
      rw [holds.recent index inside near]
      exact passes
    · exact ⟨pushed.length, room, by rwa [holds.fresh _ (Nat.le_refl _)]⟩

end Libcsp.Ring

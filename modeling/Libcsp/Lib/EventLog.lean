/-
This file gives the rules of a log in which events open and close the way for the use of a thing.
-/
import Mathlib.Data.List.Induction
import Mathlib.Tactic.Common

namespace Libcsp

variable {Event : Type} {uses closes opens : Event → Prop} {log : List Event} {event : Event}

/-- An opening event comes after each closing one. -/
def OpenAfter (closes opens : Event → Prop) (log : List Event) : Prop :=
  ∀ before closing after, log = before ++ closing :: after → closes closing → ∃ opening ∈ after, opens opening

/-- Each use finds the way open. -/
def UsesOpen (uses closes opens : Event → Prop) (log : List Event) : Prop :=
  ∀ before use after, log = before ++ use :: after → uses use → OpenAfter closes opens before

/-- A member of a longer log is the new event or a member of the shorter log. -/
theorem concat_eq_append_cons {before after : List Event} {member : Event}
    (split : log ++ [event] = before ++ member :: after) :
    before = log ∧ member = event ∨ ∃ rest, after = rest ++ [event] ∧ log = before ++ member :: rest := by
  induction after using List.reverseRecOn with
  | nil =>
      obtain ⟨same, last⟩ := List.append_inj' split rfl
      rw [List.cons.injEq] at last
      exact .inl ⟨same.symm, last.1.symm⟩
  | append_singleton rest final _ =>
      rw [← List.cons_append, ← List.append_assoc] at split
      obtain ⟨same, last⟩ := List.append_inj' split rfl
      rw [List.cons.injEq] at last
      exact .inr ⟨rest, by rw [last.1], same⟩

theorem OpenAfter.concat (way : OpenAfter closes opens log) (harmless : ¬closes event) :
    OpenAfter closes opens (log ++ [event]) := by
  intro before closing after split closed
  rcases concat_eq_append_cons split with ⟨-, rfl⟩ | ⟨rest, rfl, earlier⟩
  · exact absurd closed harmless
  · obtain ⟨opening, member, opened⟩ := way before closing rest earlier closed
    exact ⟨opening, List.mem_append_left _ member, opened⟩

/-- An opening event opens the way whatever came before. -/
theorem OpenAfter.opened (opened : opens event) (harmless : ¬closes event) : OpenAfter closes opens (log ++ [event]) := by
  intro before closing after split closed
  rcases concat_eq_append_cons split with ⟨-, rfl⟩ | ⟨rest, rfl, -⟩
  · exact absurd closed harmless
  · exact ⟨event, List.mem_append_right _ List.mem_cons_self, opened⟩

theorem UsesOpen.nil : UsesOpen uses closes opens [] := by
  intro before use after split
  exact absurd split (List.append_ne_nil_of_right_ne_nil before (List.cons_ne_nil _ _)).symm

theorem UsesOpen.concat (kept : UsesOpen uses closes opens log) (way : uses event → OpenAfter closes opens log) :
    UsesOpen uses closes opens (log ++ [event]) := by
  intro before use after split used
  rcases concat_eq_append_cons split with ⟨rfl, rfl⟩ | ⟨rest, rfl, earlier⟩
  · exact way used
  · exact kept before use rest earlier used

end Libcsp

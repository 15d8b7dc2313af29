/-
This file gives the laws of a search that keeps the match of the highest rank so far.
-/
import Mathlib.Tactic.Common

namespace Libcsp.BestMatch

variable {Entry : Type} (admits : Entry → Bool) (rank : Entry → Nat)

/-- An entry replaces the best match when it matches and its rank is not lower than the bound. -/
def search : Option Entry → Nat → List Entry → Option Entry
  | best, _, [] => best
  | best, bound, head :: rest =>
      if admits head && decide (bound ≤ rank head) then search (some head) (rank head) rest
      else search best bound rest

variable {admits rank}

theorem search_mem {best : Option Entry} {bound : Nat} {entries : List Entry} {found : Entry}
    (result : search admits rank best bound entries = some found) :
    best = some found ∨ found ∈ entries ∧ admits found := by
  induction entries generalizing best bound with
  | nil => exact .inl result
  | cons head rest ih =>
      rw [search] at result
      split at result
      · rename_i better
        rw [Bool.and_eq_true] at better
        obtain same | ⟨member, holds⟩ := ih result
        · obtain rfl := Option.some.inj same
          exact .inr ⟨List.mem_cons_self, better.1⟩
        · exact .inr ⟨List.mem_cons_of_mem head member, holds⟩
      · obtain same | ⟨member, holds⟩ := ih result
        · exact .inl same
        · exact .inr ⟨List.mem_cons_of_mem head member, holds⟩

/-- The bound is the rank of the best match, or zero before the first match. -/
def Bounds (rank : Entry → Nat) (best : Option Entry) (bound : Nat) : Prop :=
  bound = best.elim 0 rank

theorem search_none {best : Option Entry} {bound : Nat} {entries : List Entry}
    (bounds : Bounds rank best bound) :
    search admits rank best bound entries = none ↔ best = none ∧ ∀ entry ∈ entries, admits entry = false := by
  induction entries generalizing best bound with
  | nil => simp [search]
  | cons head rest ih =>
      rw [search]
      split
      · rename_i better
        rw [Bool.and_eq_true] at better
        simp [ih (show Bounds rank (some head) (rank head) from rfl), better.1]
      · rename_i worse
        rw [ih bounds, List.forall_mem_cons]
        constructor
        · rintro ⟨rfl, others⟩
          have low : bound = 0 := bounds
          simp only [low, Nat.zero_le, decide_true, Bool.and_true, Bool.not_eq_true] at worse
          exact ⟨rfl, worse, others⟩
        · rintro ⟨empty, -, others⟩
          exact ⟨empty, others⟩

/-- No match has a higher rank than the result. -/
theorem search_max {best : Option Entry} {bound : Nat} {entries : List Entry} {found : Entry}
    (bounds : Bounds rank best bound) (result : search admits rank best bound entries = some found) :
    bound ≤ rank found ∧ ∀ entry ∈ entries, admits entry → rank entry ≤ rank found := by
  induction entries generalizing best bound with
  | nil =>
      rw [search] at result
      subst result
      exact ⟨Nat.le_of_eq bounds, by simp⟩
  | cons head rest ih =>
      rw [search] at result
      rw [List.forall_mem_cons]
      split at result
      · rename_i better
        simp only [Bool.and_eq_true, decide_eq_true_eq] at better
        obtain ⟨above, others⟩ := ih rfl result
        exact ⟨Nat.le_trans better.2 above, fun _ => above, others⟩
      · rename_i worse
        simp only [Bool.and_eq_true, decide_eq_true_eq, not_and, Nat.not_le] at worse
        obtain ⟨above, others⟩ := ih bounds result
        exact ⟨above, fun holds => Nat.le_trans (Nat.le_of_lt (worse holds)) above, others⟩

/-- The search depends on the match and the rank of each entry only. -/
theorem search_map {Image : Type} (image : Entry → Image) {admitsImage : Image → Bool} {rankImage : Image → Nat}
    (sameMatch : ∀ entry, admitsImage (image entry) = admits entry)
    (sameRank : ∀ entry, rankImage (image entry) = rank entry)
    (best : Option Entry) (bound : Nat) (entries : List Entry) :
    search admitsImage rankImage (best.map image) bound (entries.map image) =
      (search admits rank best bound entries).map image := by
  induction entries generalizing best bound with
  | nil => rfl
  | cons head rest ih =>
      rw [List.map_cons, search, search, sameMatch, sameRank]
      split
      · exact ih (some head) (rank head)
      · exact ih best bound

end Libcsp.BestMatch

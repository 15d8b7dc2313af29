/-
This file gives the laws of a list of tagged events, which interleaves one run for each tag.
-/
import Mathlib.Data.List.Basic
import Mathlib.Tactic.Common

namespace Libcsp.Interleave

variable {Tag Event : Type} [DecidableEq Tag] {tag other : Tag} {event : Event}
  {events : List (Tag × Event)}

/-- The events with the tag, in their order. -/
def part (tag : Tag) (events : List (Tag × Event)) : List Event :=
  (events.filter (·.1 = tag)).map (·.2)

@[simp] theorem part_nil (tag : Tag) : part tag ([] : List (Tag × Event)) = [] := rfl

theorem part_append (tag : Tag) (first second : List (Tag × Event)) :
    part tag (first ++ second) = part tag first ++ part tag second := by
  rw [part, List.filter_append, List.map_append]
  rfl

@[simp] theorem part_snoc_same (tag : Tag) (events : List (Tag × Event)) (event : Event) :
    part tag (events ++ [(tag, event)]) = part tag events ++ [event] := by
  rw [part_append]
  simp [part]

theorem part_snoc_other (different : tag ≠ other) (events : List (Tag × Event)) (event : Event) :
    part other (events ++ [(tag, event)]) = part other events := by
  rw [part_append]
  simp [part, different]

theorem mem_part : event ∈ part tag events ↔ (tag, event) ∈ events := by
  simp [part]

/-- Each tag has events in the order of its own list. An event at the end is the next one of its tag. -/
theorem part_follows_snoc {Item : Type} {itemOf : Event → Item} {whole : Tag → List Item}
    (follows : ∀ other, (part other (events ++ [(tag, event)])).map itemOf <+: whole other) :
    (∀ other, (part other events).map itemOf <+: whole other) ∧
      (whole tag)[(part tag events).length]? = some (itemOf event) := by
  obtain ⟨rest, all⟩ := follows tag
  rw [part_snoc_same, List.map_append, List.map_singleton, List.append_assoc] at all
  constructor
  · intro other
    by_cases same : tag = other
    · subst same
      exact ⟨_, all⟩
    · have unchanged := follows other
      rwa [part_snoc_other same] at unchanged
  · rw [← all, List.getElem?_append_right (Nat.le_of_eq (List.length_map _)), List.length_map, Nat.sub_self]
    rfl

end Libcsp.Interleave

/-
This file relates two bounded queues item by item, and shows that both do the same under each operation.
-/
import Libcsp.Lib.BoundedQueue
import Mathlib.Data.List.Forall2

namespace Libcsp.BoundedQueue

variable {Item : Type} {capacity : Nat} {rel rel' : Item → Item → Prop}

/-- The items of the two queues correspond in their order. -/
def Related (rel : Item → Item → Prop) (first second : BoundedQueue Item capacity) : Prop :=
  List.Forall₂ rel first.items second.items

theorem Related.empty : (empty : BoundedQueue Item capacity).Related rel .empty := .nil

theorem Related.refl (same : ∀ item, rel item item) (queue : BoundedQueue Item capacity) : queue.Related rel queue :=
  List.forall₂_same.mpr fun item _ => same item

section Operations
variable {first second : BoundedQueue Item capacity} (related : first.Related rel second)
include related

theorem Related.imp (weaker : ∀ item item', rel item item' → rel' item item') : first.Related rel' second :=
  List.Forall₂.imp weaker related

theorem Related.length : first.items.length = second.items.length := related.length_eq

theorem Related.size : first.size = second.size := related.length_eq

theorem Related.free : first.free = second.free := by
  rw [BoundedQueue.free, BoundedQueue.free, related.length]

/-- Both queues are full, or both take the item. -/
theorem Related.enqueue {item item' : Item} (same : rel item item') :
    (first.enqueue item = none ∧ second.enqueue item' = none) ∨
      ∃ next next' : BoundedQueue Item capacity, first.enqueue item = some next ∧
        second.enqueue item' = some next' ∧ next.Related rel next' := by
  by_cases room : first.items.length < capacity
  · refine .inr ⟨_, _, enqueue_of_room item room, enqueue_of_room item' (related.length ▸ room), ?_⟩
    exact List.rel_append related (.cons same .nil)
  · have bounded := first.bounded
    have full : first.items.length = capacity := by omega
    exact .inl ⟨enqueue_eq_none.mpr full, enqueue_eq_none.mpr (related.length ▸ full)⟩

/-- Both queues are empty, or both return their first item. -/
theorem Related.dequeue :
    (first.dequeue = none ∧ second.dequeue = none) ∨
      ∃ (item item' : Item) (next next' : BoundedQueue Item capacity), first.dequeue = some (item, next) ∧
        second.dequeue = some (item', next') ∧ rel item item' ∧ next.Related rel next' := by
  obtain ⟨items, bounded⟩ := first
  obtain ⟨items', bounded'⟩ := second
  cases related with
  | nil => exact .inl ⟨rfl, rfl⟩
  | cons head tail => exact .inr ⟨_, _, _, _, rfl, rfl, head, tail⟩

end Operations

/-! ## A pair that differs -/

/-- All items correspond, and one pair differs. -/
inductive Differ (rel differs : Item → Item → Prop) : List Item → List Item → Prop where
  | here {item item' : Item} {rest rest' : List Item} (same : rel item item') (apart : differs item item')
      (tail : List.Forall₂ rel rest rest') : Differ rel differs (item :: rest) (item' :: rest')
  | later {item item' : Item} {rest rest' : List Item} (same : rel item item')
      (tail : Differ rel differs rest rest') : Differ rel differs (item :: rest) (item' :: rest')

variable {differs : Item → Item → Prop} {items items' : List Item} {item item' : Item}

theorem Differ.concat (differ : Differ rel differs items items') (same : rel item item') :
    Differ rel differs (items ++ [item]) (items' ++ [item']) := by
  induction differ with
  | here first apart tail => exact .here first apart (List.rel_append tail (.cons same .nil))
  | later first _ ih => exact .later first ih

theorem Differ.last (related : List.Forall₂ rel items items') (same : rel item item') (apart : differs item item') :
    Differ rel differs (items ++ [item]) (items' ++ [item']) := by
  induction related with
  | nil => exact .here same apart .nil
  | cons first _ ih => exact .later first ih

theorem Differ.length (differ : Differ rel differs items items') : items.length = items'.length := by
  induction differ with
  | here _ _ tail => exact congrArg Nat.succ tail.length_eq
  | later _ _ ih => exact congrArg Nat.succ ih

/-- A pair that differs breaks each relation that excludes the difference. -/
theorem Differ.not_related {other : Item → Item → Prop} (differ : Differ rel differs items items')
    (excludes : ∀ item item', differs item item' → ¬other item item') : ¬List.Forall₂ other items items' := by
  induction differ with
  | here _ apart _ =>
      rintro (_ | ⟨same, _⟩)
      exact excludes _ _ apart same
  | later _ _ ih =>
      rintro (_ | ⟨_, tail⟩)
      exact ih tail

end Libcsp.BoundedQueue

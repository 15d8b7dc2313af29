/-
This file defines a FIFO queue whose capacity is part of its type.
-/
import Mathlib.Data.List.Basic
import Mathlib.Tactic.Common

namespace Libcsp

/-- A queue that cannot hold more than `capacity` items. -/
structure BoundedQueue (Item : Type) (capacity : Nat) where
  items : List Item
  bounded : items.length ≤ capacity

namespace BoundedQueue

variable {Item : Type} {capacity : Nat}

@[ext] theorem ext {first second : BoundedQueue Item capacity}
    (same : first.items = second.items) : first = second := by
  cases first
  cases second
  cases same
  rfl

def empty : BoundedQueue Item capacity := ⟨[], Nat.zero_le _⟩

instance : Inhabited (BoundedQueue Item capacity) := ⟨empty⟩

def size (queue : BoundedQueue Item capacity) : Nat := queue.items.length

/-- This value is the number of free slots. -/
def free (queue : BoundedQueue Item capacity) : Nat := capacity - queue.items.length

/-- An enqueue on a full queue fails and changes nothing. -/
def enqueue (queue : BoundedQueue Item capacity) (item : Item) :
    Option (BoundedQueue Item capacity) :=
  if room : queue.items.length < capacity then
    some ⟨queue.items ++ [item], by
      simp only [List.length_append, List.length_singleton]
      omega⟩
  else none

/-- A dequeue on an empty queue fails. -/
def dequeue (queue : BoundedQueue Item capacity) : Option (Item × BoundedQueue Item capacity) :=
  match queue with
  | ⟨[], _⟩ => none
  | ⟨item :: rest, bounded⟩ => some (item, ⟨rest, by simp only [List.length_cons] at bounded; omega⟩)

@[simp] theorem empty_items : (empty : BoundedQueue Item capacity).items = [] := rfl

@[simp] theorem empty_size : (empty : BoundedQueue Item capacity).size = 0 := rfl

theorem enqueue_eq_none {queue : BoundedQueue Item capacity} {item : Item} :
    queue.enqueue item = none ↔ queue.items.length = capacity := by
  have := queue.bounded
  unfold enqueue
  split
  · simp only [reduceCtorEq, false_iff]
    omega
  · simp only [true_iff]
    omega

theorem enqueue_eq_some {queue next : BoundedQueue Item capacity} {item : Item} :
    queue.enqueue item = some next ↔
      queue.items.length < capacity ∧ next.items = queue.items ++ [item] := by
  unfold enqueue
  split
  · rename_i room
    simp only [Option.some.injEq, room, true_and]
    exact ⟨fun same => by rw [← same], fun same => (BoundedQueue.ext same).symm⟩
  · rename_i full
    simp [full]

theorem enqueue_of_room {queue : BoundedQueue Item capacity} (item : Item)
    (room : queue.items.length < capacity) :
    queue.enqueue item = some ⟨queue.items ++ [item], by
      simp only [List.length_append, List.length_singleton]
      omega⟩ := by
  simp [enqueue, room]

theorem dequeue_eq_none {queue : BoundedQueue Item capacity} :
    queue.dequeue = none ↔ queue.items = [] := by
  rcases queue with ⟨_ | ⟨item, rest⟩, bounded⟩ <;> simp [dequeue]

theorem dequeue_eq_some {queue next : BoundedQueue Item capacity} {item : Item} :
    queue.dequeue = some (item, next) ↔ queue.items = item :: next.items := by
  rcases queue with ⟨_ | ⟨head, rest⟩, bounded⟩
  · simp [dequeue]
  · simp only [dequeue, Option.some.injEq, Prod.mk.injEq, List.cons.injEq]
    exact ⟨fun same => ⟨same.1, by rw [← same.2]⟩, fun same => ⟨same.1, BoundedQueue.ext same.2⟩⟩

end BoundedQueue
end Libcsp

/-
This file defines a reliable channel, which delivers each value once and in order.
-/
import Mathlib.Logic.Relation
import Mathlib.Data.List.Infix
import Mathlib.Tactic.Common

namespace Libcsp

/-- The history of a channel. -/
structure Fifo (α : Type) where
  sent : List α
  delivered : List α

namespace Fifo

variable {α : Type}

/-- The sender appends a value, or the receiver gets the first value that it does not have. -/
inductive Step : Fifo α → Fifo α → Prop where
  | send (fifo : Fifo α) (value : α) : Step fifo { fifo with sent := fifo.sent ++ [value] }
  | deliver (fifo : Fifo α) (value : α) (next : fifo.sent[fifo.delivered.length]? = some value) :
      Step fifo { fifo with delivered := fifo.delivered ++ [value] }

/-- Any number of steps. -/
abbrev Runs : Fifo α → Fifo α → Prop := Relation.ReflTransGen Step

/-- All that the channel has delivered is a prefix of all that was sent. -/
def InOrder (fifo : Fifo α) : Prop := fifo.delivered <+: fifo.sent

/-- The next value continues a prefix. -/
theorem prefix_snoc {delivered sent : List α} {value : α} (inOrder : delivered <+: sent)
    (next : sent[delivered.length]? = some value) : delivered ++ [value] <+: sent := by
  obtain ⟨short, rfl⟩ := List.getElem?_eq_some_iff.mp next
  exact List.concat_get_prefix inOrder short

theorem Step.inOrder {before after : Fifo α} (step : Step before after) (inOrder : before.InOrder) :
    after.InOrder := by
  cases step with
  | send value => exact inOrder.trans (List.prefix_append before.sent [value])
  | deliver value next => exact prefix_snoc inOrder next

theorem Runs.inOrder {before after : Fifo α} (runs : Runs before after) (inOrder : before.InOrder) :
    after.InOrder := by
  induction runs with
  | refl => exact inOrder
  | tail _ last ih => exact last.inOrder ih

/-- A list of values goes in one after the other. -/
theorem Runs.send (fifo : Fifo α) (values : List α) :
    Runs fifo { fifo with sent := fifo.sent ++ values } := by
  induction values generalizing fifo with
  | nil => simpa using Relation.ReflTransGen.refl
  | cons value rest ih =>
      have more := ih { fifo with sent := fifo.sent ++ [value] }
      simp only [List.append_assoc, List.singleton_append] at more
      exact .head (.send fifo value) more

end Fifo
end Libcsp

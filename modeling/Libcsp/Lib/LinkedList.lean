/-
This file relates the link fields of nodes to the list that they form.
-/
import Mathlib.Data.List.Induction
import Mathlib.Data.List.Nodup
import Mathlib.Logic.Function.Basic
import Mathlib.Tactic.Common

namespace Libcsp.LinkedList

variable {Node : Type} {next other : Node → Option Node} {start target : Option Node}
variable {node last : Node} {nodes front back : List Node}

/-- The links lead from the start through the nodes, in their order, to the end. -/
def Linked (next : Node → Option Node) : Option Node → List Node → Prop
  | start, [] => start = none
  | start, node :: rest => start = some node ∧ Linked next (next node) rest

instance decidableLinked [DecidableEq Node] :
    (start : Option Node) → (nodes : List Node) → Decidable (Linked next start nodes)
  | start, [] => inferInstanceAs (Decidable (start = none))
  | start, node :: rest =>
      have := decidableLinked (next node) rest
      inferInstanceAs (Decidable (start = some node ∧ Linked next (next node) rest))

/-- The links determine the list. -/
theorem Linked.unique {second : List Node} (linked : Linked next start nodes)
    (again : Linked next start second) : nodes = second := by
  induction nodes generalizing start second with
  | nil =>
      cases second with
      | nil => rfl
      | cons node rest => cases linked.symm.trans again.1
  | cons node rest ih =>
      cases second with
      | nil => cases again.symm.trans linked.1
      | cons head more =>
          obtain rfl := Option.some.inj (linked.1.symm.trans again.1)
          rw [ih linked.2 again.2]

theorem Linked.head? (linked : Linked next start nodes) : start = nodes.head? := by
  cases nodes with
  | nil => exact linked
  | cons node rest => exact linked.1

theorem Linked.tail (linked : Linked next start (front ++ node :: back)) : Linked next (next node) back := by
  induction front generalizing start with
  | nil => exact linked.2
  | cons head rest ih => exact ih linked.2

/-- A list with an end visits no node twice. -/
theorem Linked.nodup (linked : Linked next start nodes) : nodes.Nodup := by
  induction nodes generalizing start with
  | nil => exact List.nodup_nil
  | cons node rest ih =>
      rw [List.nodup_cons]
      constructor
      · intro again
        obtain ⟨front, back, rfl⟩ := List.append_of_mem again
        -- Both tails start behind the node.
        have same := congrArg List.length (linked.2.unique linked.2.tail)
        simp only [List.length_append, List.length_cons] at same
        omega
      · exact ih linked.2

theorem Linked.getLast_iff (linked : Linked next start (front ++ node :: back)) :
    (front ++ node :: back).getLast? = some node ↔ back = [] := by
  have distinct := linked.nodup
  cases back using List.reverseRecOn with
  | nil => simp
  | append_singleton more final _ =>
      rw [← List.cons_append, ← List.append_assoc, List.getLast?_concat]
      constructor
      · intro same
        obtain rfl := Option.some.inj same
        simp [List.nodup_append, List.nodup_cons] at distinct
      · intro empty
        simp at empty

/-- Only the links of the members count. -/
theorem Linked.congr (same : ∀ node ∈ nodes, next node = other node) :
    Linked next start nodes ↔ Linked other start nodes := by
  induction nodes generalizing start with
  | nil => exact Iff.rfl
  | cons node rest ih =>
      rw [Linked, Linked, same node List.mem_cons_self]
      exact and_congr_right fun _ => ih fun later member => same later (List.mem_cons_of_mem node member)

variable [DecidableEq Node]

/-- A store into another node leaves the list. -/
theorem Linked.update (foreign : node ∉ nodes) :
    Linked (Function.update next node target) start nodes ↔ Linked next start nodes := by
  apply Linked.congr
  intro member inside
  apply Function.update_of_ne
  rintro rfl
  exact foreign inside

/-- A store of the end into a member cuts the list there. -/
theorem Linked.cut (linked : Linked next start (front ++ node :: back)) :
    Linked (Function.update next node none) start (front ++ [node]) := by
  have distinct := linked.nodup
  induction front generalizing start with
  | nil =>
      refine ⟨linked.1, ?_⟩
      rw [Function.update_self]
      rfl
  | cons head rest ih =>
      have foreign : head ≠ node := by
        rintro rfl
        rw [List.cons_append, List.nodup_cons] at distinct
        exact distinct.1 (List.mem_append_right rest List.mem_cons_self)
      refine ⟨linked.1, ?_⟩
      rw [Function.update_of_ne foreign]
      exact ih linked.2 (List.nodup_cons.mp distinct).2

/-- A node goes away when its predecessor gets its successor. -/
theorem Linked.unlink (linked : Linked next start (front ++ [last] ++ node :: back)) :
    Linked (Function.update next last (next node)) start (front ++ [last] ++ back) := by
  have distinct := linked.nodup
  induction front generalizing start with
  | nil =>
      have foreign : last ∉ back := by
        rw [List.nil_append, List.singleton_append, List.nodup_cons] at distinct
        exact fun inside => distinct.1 (List.mem_cons_of_mem node inside)
      refine ⟨linked.1, ?_⟩
      rw [Function.update_self]
      exact (Linked.update foreign).mpr linked.2.2
  | cons head rest ih =>
      have apart : head ≠ last := by
        rintro rfl
        simp only [List.cons_append, List.nodup_cons] at distinct
        exact distinct.1 (by simp)
      refine ⟨linked.1, ?_⟩
      rw [Function.update_of_ne apart]
      simp only [List.cons_append, List.nodup_cons] at distinct
      exact ih linked.2 distinct.2

/-- The last node gets the new node as its successor. -/
theorem Linked.append (linked : Linked next start (front ++ [last])) (foreign : node ∉ front ++ [last])
    (ends : next node = none) :
    Linked (Function.update next last (some node)) start (front ++ [last] ++ [node]) := by
  have distinct := linked.nodup
  induction front generalizing start with
  | nil =>
      have apart : node ≠ last := fun same => foreign (by simp [same])
      refine ⟨linked.1, Function.update_self last (some node) next, ?_⟩
      rw [Function.update_of_ne apart]
      exact ends
  | cons head rest ih =>
      have apart : head ≠ last := by
        rintro rfl
        rw [List.cons_append, List.nodup_cons] at distinct
        exact distinct.1 (by simp)
      refine ⟨linked.1, ?_⟩
      rw [Function.update_of_ne apart]
      exact ih linked.2 (fun inside => foreign (List.mem_cons_of_mem head inside)) (List.nodup_cons.mp distinct).2

end Libcsp.LinkedList

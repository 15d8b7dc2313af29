/-
This file gives the laws of a list that is cut into a first chunk and further chunks of one size.
-/
import Mathlib.Data.List.Basic
import Mathlib.Tactic.Common

namespace Libcsp.Chunks

variable {Item : Type}

/-- The place where the chunk starts. -/
def start (first size : Nat) : Nat → Nat
  | 0 => 0
  | index + 1 => first + size * index

def chunk (first size : Nat) (items : List Item) : Nat → List Item
  | 0 => items.take first
  | index + 1 => (items.drop (first + size * index)).take size

/-- The number of chunks. There is always a first one. -/
def count (first size length : Nat) : Nat := 1 + (length - first + (size - 1)) / size

variable {first size : Nat} {items : List Item} {index : Nat}

/-- Each chunk continues the list. -/
theorem take_start (first size : Nat) (items : List Item) (index : Nat) :
    items.take (start first size index) ++ chunk first size items index =
      items.take (start first size (index + 1)) := by
  cases index with
  | zero => simp [start, chunk]
  | succ index =>
      rw [start, start, chunk, Nat.mul_succ, ← Nat.add_assoc, ← List.take_add]

/-- A chunk that is not the first one starts inside the list exactly when it is counted. -/
theorem start_lt_iff (positive : 0 < size) (length : Nat) :
    start first size (index + 1) < length ↔ index + 1 < count first size length := by
  have step : index < (length - first + (size - 1)) / size ↔ size * (index + 1) ≤ length - first + (size - 1) := by
    rw [← Nat.succ_le_iff, Nat.le_div_iff_mul_le positive, Nat.mul_comm]
  rw [count, start, Nat.add_comm 1, Nat.add_lt_add_iff_right, step, Nat.mul_succ]
  omega

theorem start_lt (positive : 0 < size) {low high : Nat} (order : low < high) (later : 0 < low) :
    start first size low < start first size high := by
  obtain ⟨low, rfl⟩ : ∃ next, low = next + 1 := ⟨low - 1, by omega⟩
  obtain ⟨high, rfl⟩ : ∃ next, high = next + 1 := ⟨high - 1, by omega⟩
  have inside : size * low < size * high := (Nat.mul_lt_mul_left positive).mpr (by omega)
  rw [start, start]
  omega

/-- The chunks cover the list. -/
theorem take_count (positive : 0 < size) (items : List Item) :
    items.take (start first size (count first size items.length)) = items := by
  apply List.take_of_length_le
  obtain ⟨last, isLast⟩ : ∃ last, count first size items.length = last + 1 :=
    ⟨_, by rw [count, Nat.add_comm]⟩
  rw [isLast]
  by_contra inside
  have counted := (@start_lt_iff first size last positive items.length).mp (by omega)
  omega

/-- A counted chunk before the last one is full. -/
theorem chunk_length (positive : 0 < size) (counted : index < count first size items.length) :
    (chunk first size items index).length =
      min items.length (start first size (index + 1)) - start first size index := by
  cases index with
  | zero => simp [chunk, start, Nat.min_comm]
  | succ index =>
      have inside := (start_lt_iff positive items.length).mpr counted
      rw [start] at inside
      rw [chunk, List.length_take, List.length_drop, start, start, Nat.mul_succ]
      omega

theorem chunk_ne_nil (positive : 0 < size) (later : index ≠ 0)
    (counted : index < count first size items.length) : chunk first size items index ≠ [] := by
  obtain ⟨index, rfl⟩ : ∃ before, index = before + 1 := ⟨index - 1, by omega⟩
  have inside := (start_lt_iff positive items.length).mpr counted
  have next : start first size (index + 1) < start first size (index + 1 + 1) :=
    start_lt positive (by omega) (Nat.succ_pos index)
  have length := chunk_length positive counted
  intro empty
  rw [empty, List.length_nil] at length
  omega

/-! ## Places -/

theorem range_lt_last {kept : List Nat} {number : Nat} (sub : (kept ++ [index]).Sublist (List.range number)) :
    index < number ∧ ∀ other ∈ kept, other < index := by
  have inside := List.mem_range.mp (sub.subset (List.mem_append_right kept List.mem_cons_self))
  have ordered := List.pairwise_lt_range.sublist sub
  rw [List.pairwise_append] at ordered
  exact ⟨inside, fun other member => ordered.2.2 other member index List.mem_cons_self⟩

theorem head_of_sublist_range {kept : List Nat} {number : Nat} (sub : kept.Sublist (List.range number))
    (begins : 0 ∈ kept) : kept.head? = some 0 := by
  have ordered := List.pairwise_lt_range.sublist sub
  cases kept with
  | nil => cases begins
  | cons first rest =>
      rcases List.mem_cons.mp begins with same | later
      · rw [← same]
        rfl
      · have := (List.pairwise_cons.mp ordered).1 0 later
        omega

/-! ## Several chunks -/

/-- These chunks one after the other. -/
def join (first size : Nat) (items : List Item) (places : List Nat) : List Item :=
  (places.map (chunk first size items)).flatten

theorem join_append (places more : List Nat) :
    join first size items (places ++ more) =
      join first size items places ++ join first size items more := by
  rw [join, join, join, List.map_append, List.flatten_append]

theorem join_singleton : join first size items [index] = chunk first size items index := by
  simp [join]

theorem join_range (number : Nat) :
    join first size items (List.range number) = items.take (start first size number) := by
  induction number with
  | zero => simp [join, start]
  | succ number ih => rw [List.range_succ, join_append, ih, join_singleton, take_start]

/-- All the chunks together are the list. -/
theorem join_all (positive : 0 < size) (items : List Item) :
    join first size items (List.range (count first size items.length)) = items := by
  rw [join_range, take_count positive]

theorem join_sublist {places more : List Nat} (sub : places.Sublist more) :
    (join first size items places).Sublist (join first size items more) := by
  induction sub with
  | slnil => exact List.Sublist.refl _
  | cons index sub ih =>
      simp only [join, List.map_cons, List.flatten_cons] at ih ⊢
      exact ih.trans (List.sublist_append_right _ _)
  | cons_cons index sub ih =>
      simp only [join, List.map_cons, List.flatten_cons] at ih ⊢
      exact (List.Sublist.refl _).append ih

theorem join_length_le (positive : 0 < size) {places : List Nat}
    (sub : places.Sublist (List.range (count first size items.length))) :
    (join first size items places).length ≤ items.length := by
  have bound := (@join_sublist _ first size items _ _ sub).length_le
  rwa [join_all positive] at bound

/-- Each missing chunk that is not empty makes the result shorter. -/
theorem join_length_of_sublist {places more : List Nat} (sub : places.Sublist more)
    (filled : ∀ index ∈ more, chunk first size items index ≠ []) :
    (join first size items places).length + more.length ≤
      (join first size items more).length + places.length := by
  induction sub with
  | slnil => exact Nat.le_refl _
  | cons index sub ih =>
      have nonempty := List.length_pos_iff.mpr (filled index List.mem_cons_self)
      have rest := ih fun other member => filled other (List.mem_cons_of_mem _ member)
      simp only [join, List.map_cons, List.flatten_cons, List.length_append, List.length_cons] at rest ⊢
      omega
  | cons_cons index sub ih =>
      have rest := ih fun other member => filled other (List.mem_cons_of_mem _ member)
      simp only [join, List.map_cons, List.flatten_cons, List.length_append, List.length_cons] at rest ⊢
      omega

/-- Chunks with a gap between them do not give the whole list. -/
theorem join_incomplete (positive : 0 < size) {places : List Nat}
    (sub : places.Sublist (List.range (count first size items.length))) (begins : 0 ∈ places)
    (missing : places.length < count first size items.length) :
    (join first size items places).length < items.length := by
  obtain ⟨number, isNext⟩ : ∃ number, count first size items.length = number + 1 :=
    ⟨_, by rw [count, Nat.add_comm]⟩
  have whole : join first size items (List.range (count first size items.length)) = items :=
    join_all positive items
  rw [isNext, List.range_succ_eq_map] at sub whole
  rw [isNext] at missing
  cases places with
  | nil => cases begins
  | cons place rest =>
      have tail : rest.Sublist ((List.range number).map Nat.succ) ∧ place = 0 := by
        cases sub with
        | cons _ inside =>
            have zero := inside.subset begins
            simp at zero
        | cons_cons _ inside => exact ⟨inside, rfl⟩
      obtain ⟨inside, rfl⟩ := tail
      have filled : ∀ index ∈ (List.range number).map Nat.succ, chunk first size items index ≠ [] := by
        intro index member
        obtain ⟨before, small, rfl⟩ := List.mem_map.mp member
        have below := List.mem_range.mp small
        exact chunk_ne_nil positive (Nat.succ_ne_zero before) (by rw [isNext]; omega)
      have bound := join_length_of_sublist inside filled
      have total := congrArg List.length whole
      simp only [join, List.map_cons, List.flatten_cons, List.length_append, List.length_cons,
        List.length_map, List.length_range] at bound total missing ⊢
      omega

theorem eq_range_of_join (positive : 0 < size) {places : List Nat}
    (sub : places.Sublist (List.range (count first size items.length))) (begins : 0 ∈ places)
    (whole : (join first size items places).length = items.length) :
    places = List.range (count first size items.length) := by
  apply sub.eq_of_length
  rw [List.length_range]
  by_contra differs
  have bound := sub.length_le
  rw [List.length_range] at bound
  have short := join_incomplete positive sub begins (by omega)
  omega

end Libcsp.Chunks

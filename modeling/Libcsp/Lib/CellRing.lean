/-
This file relates a ring of equally wide cells in a byte memory to the list of the items in the cells.
-/
import Libcsp.Lib.Ring

namespace Libcsp.CellRing

variable {Byte : Type} {mem : Nat → Byte} {width size first : Nat} {bytes item value : List Byte}
  {items rest : List (List Byte)}

/-! ## Bytes -/

def load (mem : Nat → Byte) (address count : Nat) : List Byte := (List.range count).map fun index => mem (address + index)

def store (mem : Nat → Byte) (address : Nat) (bytes : List Byte) : Nat → Byte := fun index =>
  if inside : address ≤ index ∧ index < address + bytes.length then bytes[index - address] else mem index

@[simp] theorem load_length (mem : Nat → Byte) (address count : Nat) : (load mem address count).length = count := by
  rw [load, List.length_map, List.length_range]

theorem load_store (mem : Nat → Byte) (address : Nat) (bytes : List Byte) :
    load (store mem address bytes) address bytes.length = bytes := by
  apply List.ext_getElem (load_length _ _ _)
  intro index inside _
  rw [load_length] at inside
  have within : address ≤ address + index ∧ address + index < address + bytes.length := by omega
  simp [load, store, inside]

/-- A store does not change the bytes outside. -/
theorem load_store_other {address other count : Nat}
    (apart : other + count ≤ address ∨ address + bytes.length ≤ other) :
    load (store mem address bytes) other count = load mem other count := by
  apply List.map_congr_left
  intro index inside
  have small := List.mem_range.mp inside
  exact dif_neg (by omega)

theorem load_append (mem : Nat → Byte) (address first second : Nat) :
    load mem address (first + second) = load mem address first ++ load mem (address + first) second := by
  simp only [load, List.range_add, List.map_append, List.map_map, Function.comp_def, Nat.add_assoc]

/-- A store behind a loaded area extends it. -/
theorem load_store_behind (mem : Nat → Byte) (address count : Nat) (bytes : List Byte) :
    load (store mem (address + count) bytes) address (count + bytes.length) = load mem address count ++ bytes := by
  rw [load_append, load_store_other (.inl (Nat.le_refl _)), load_store]

/-! ## Cells -/

/-- The ring holds the items in the cells from the first one on. -/
structure Holds (mem : Nat → Byte) (width size first : Nat) (items : List (List Byte)) : Prop where
  start : first < size
  bounded : items.length ≤ size
  cells : ∀ index (inside : index < items.length), load mem ((first + index) % size * width) width = items[index]

theorem Holds.init (mem : Nat → Byte) (width : Nat) (positive : 0 < size) : Holds mem width size 0 [] where
  start := positive
  bounded := Nat.zero_le size
  cells _ inside := absurd inside (Nat.not_lt_zero _)

/-- Different cells have no byte in common. -/
theorem cells_apart {slot other : Nat} (different : slot ≠ other) :
    slot * width + width ≤ other * width ∨ other * width + width ≤ slot * width := by
  rcases Nat.lt_or_gt_of_ne different with below | above
  · exact .inl (by rw [← Nat.succ_mul]; exact Nat.mul_le_mul_right width below)
  · exact .inr (by rw [← Nat.succ_mul]; exact Nat.mul_le_mul_right width above)

/-- The cell behind the last item takes the next one. -/
theorem Holds.push (holds : Holds mem width size first items) (room : items.length < size)
    (wide : value.length = width) :
    Holds (store mem ((first + items.length) % size * width) value) width size first (items ++ [value]) where
  start := holds.start
  bounded := by
    rw [List.length_append, List.length_singleton]
    exact room
  cells index inside := by
    rw [List.length_append, List.length_singleton] at inside
    by_cases last : index = items.length
    · subst last wide
      rw [load_store, List.getElem_concat_length rfl]
    · have earlier : index < items.length := by omega
      have different : (first + index) % size ≠ (first + items.length) % size := Ring.mod_ne (by omega) (by omega)
      rw [load_store_other (wide ▸ cells_apart different), List.getElem_append_left earlier]
      exact holds.cells index earlier

/-- The first cell has the first item, and the rest is in the other cells. -/
theorem Holds.pop (holds : Holds mem width size first (item :: rest)) :
    load mem (first * width) width = item ∧ Holds mem width size ((first + 1) % size) rest := by
  have start := holds.start
  have bounded := holds.bounded
  rw [List.length_cons] at bounded
  refine ⟨?_, Nat.mod_lt _ (by omega), by omega, ?_⟩
  · have cell := holds.cells 0 (Nat.succ_pos _)
    rwa [Nat.add_zero, Nat.mod_eq_of_lt start] at cell
  · intro index inside
    have cell := holds.cells (index + 1) (Nat.succ_lt_succ inside)
    rw [Nat.mod_add_mod, Nat.add_assoc, Nat.add_comm 1 index]
    exact cell

end Libcsp.CellRing

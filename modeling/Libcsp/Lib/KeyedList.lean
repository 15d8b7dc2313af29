/-
This file gives the laws of a list of entries that a search finds by their keys.
-/
import Mathlib.Data.Finset.Card
import Mathlib.Data.List.Nodup
import Mathlib.Tactic.Common

namespace Libcsp.KeyedList

variable {Entry Key : Type} [DecidableEq Key] (keyOf : Entry → Key)

/-- The search finds the first entry with the key. -/
def lookup (key : Key) (entries : List Entry) : Option Entry :=
  entries.find? fun entry => keyOf entry = key

/-- The first entry with the key of the new entry becomes the new entry. -/
def store (entry : Entry) : List Entry → List Entry
  | [] => []
  | head :: rest => if keyOf head = keyOf entry then entry :: rest else head :: store entry rest

/-- The first entry with the key goes away. -/
def remove (key : Key) : List Entry → List Entry
  | [] => []
  | head :: rest => if keyOf head = key then rest else head :: remove key rest

/-- No two entries have the same key. -/
def Distinct (entries : List Entry) : Prop := (entries.map keyOf).Nodup

variable {keyOf} {key : Key} {entries : List Entry}

theorem lookup_key {entry : Entry} (found : lookup keyOf key entries = some entry) :
    keyOf entry = key := by
  have holds := List.find?_some found
  simpa using holds

theorem lookup_mem {entry : Entry} (found : lookup keyOf key entries = some entry) :
    entry ∈ entries :=
  List.mem_of_find?_eq_some found

theorem lookup_eq_none : lookup keyOf key entries = none ↔ ∀ entry ∈ entries, keyOf entry ≠ key := by
  simp [lookup]

theorem lookup_cons (head : Entry) :
    lookup keyOf key (head :: entries) =
      if keyOf head = key then some head else lookup keyOf key entries := by
  rw [lookup, List.find?_cons]
  split <;> rename_i same <;> simp at same <;> simp [same, lookup]

theorem Distinct.cons {head : Entry} (distinct : Distinct keyOf entries)
    (fresh : lookup keyOf (keyOf head) entries = none) : Distinct keyOf (head :: entries) := by
  rw [Distinct, List.map_cons, List.nodup_cons]
  refine ⟨fun member => ?_, distinct⟩
  obtain ⟨entry, inside, same⟩ := List.mem_map.mp member
  exact lookup_eq_none.mp fresh entry inside same

theorem lookup_of_mem {entry : Entry} (distinct : Distinct keyOf entries) (member : entry ∈ entries) :
    lookup keyOf (keyOf entry) entries = some entry := by
  induction entries with
  | nil => cases member
  | cons head rest ih =>
      rw [Distinct, List.map_cons, List.nodup_cons] at distinct
      rw [lookup_cons]
      rcases List.mem_cons.mp member with rfl | later
      · rw [if_pos rfl]
      · have other : keyOf head ≠ keyOf entry := by
          intro same
          exact distinct.1 (by rw [same]; exact List.mem_map_of_mem later)
        rw [if_neg other]
        exact ih distinct.2 later

/-! ## Store -/

theorem store_keys (entry : Entry) : (store keyOf entry entries).map keyOf = entries.map keyOf := by
  induction entries with
  | nil => rfl
  | cons head rest ih =>
      rw [store]
      split
      · rename_i same
        rw [List.map_cons, List.map_cons, same]
      · rw [List.map_cons, List.map_cons, ih]

theorem Distinct.store (distinct : Distinct keyOf entries) (entry : Entry) :
    Distinct keyOf (store keyOf entry entries) := by
  rw [Distinct, store_keys]
  exact distinct

theorem lookup_store_same {entry old : Entry}
    (found : lookup keyOf (keyOf entry) entries = some old) :
    lookup keyOf (keyOf entry) (store keyOf entry entries) = some entry := by
  induction entries with
  | nil => cases found
  | cons head rest ih =>
      rw [KeyedList.store]
      split
      · rw [lookup_cons, if_pos rfl]
      · rename_i other
        rw [lookup_cons, if_neg other] at found ⊢
        exact ih found

theorem lookup_store_other {entry : Entry} (other : keyOf entry ≠ key) :
    lookup keyOf key (store keyOf entry entries) = lookup keyOf key entries := by
  induction entries with
  | nil => rfl
  | cons head rest ih =>
      rw [KeyedList.store]
      split
      · rename_i same
        rw [lookup_cons, lookup_cons, same, if_neg other, if_neg other]
      · rw [lookup_cons, lookup_cons, ih]

theorem length_store (entry : Entry) : (store keyOf entry entries).length = entries.length := by
  have keys := congrArg List.length (@store_keys _ _ _ keyOf entries entry)
  simpa using keys

/-- An update at the first index with the key stores the entry. -/
theorem set_eq_store (keyOf : Entry → Key) {entry : Entry} {index : Nat}
    (found : entries.findIdx? (fun other => keyOf other = keyOf entry) = some index) :
    index < entries.length ∧ entries.set index entry = store keyOf entry entries := by
  induction entries generalizing index with
  | nil => cases found
  | cons head rest ih =>
      rw [List.findIdx?_cons] at found
      rw [store]
      split at found
      · rename_i same
        obtain rfl := Option.some.inj found
        rw [if_pos (of_decide_eq_true same)]
        exact ⟨Nat.succ_pos _, rfl⟩
      · rename_i other
        obtain ⟨later, next, rfl⟩ := Option.map_eq_some_iff.mp found
        obtain ⟨inside, equal⟩ := ih next
        rw [if_neg (by simpa using other), List.set_cons_succ, equal]
        exact ⟨Nat.succ_lt_succ inside, rfl⟩

theorem findIdx_eq_none (keyOf : Entry → Key) (entry : Entry) :
    entries.findIdx? (fun other => keyOf other = keyOf entry) = none ↔
      lookup keyOf (keyOf entry) entries = none := by
  rw [List.findIdx?_eq_none_iff, lookup_eq_none]
  simp

/-! ## Put -/

/-- The entry replaces the first entry with its key, or it goes to the end. -/
def put (keyOf : Entry → Key) (entry : Entry) (entries : List Entry) : List Entry :=
  if (lookup keyOf (keyOf entry) entries).isSome then store keyOf entry entries else entries ++ [entry]

theorem lookup_isSome : (lookup keyOf key entries).isSome ↔ key ∈ entries.map keyOf := by
  simp [lookup]

theorem lookup_append (more : List Entry) :
    lookup keyOf key (entries ++ more) = (lookup keyOf key entries).or (lookup keyOf key more) := by
  rw [lookup, List.find?_append, lookup, lookup]

theorem put_keys (keyOf : Entry → Key) (entry : Entry) (entries : List Entry) :
    (put keyOf entry entries).map keyOf =
      if keyOf entry ∈ entries.map keyOf then entries.map keyOf else entries.map keyOf ++ [keyOf entry] := by
  by_cases found : keyOf entry ∈ entries.map keyOf
  · rw [put, if_pos (lookup_isSome.mpr found), if_pos found, store_keys]
  · rw [put, if_neg (mt lookup_isSome.mp found), if_neg found, List.map_append, List.map_singleton]

theorem mem_put_keys (entry : Entry) :
    key ∈ (put keyOf entry entries).map keyOf ↔ key ∈ entries.map keyOf ∨ key = keyOf entry := by
  rw [put_keys]
  split
  · rename_i found
    constructor
    · exact Or.inl
    · rintro (member | rfl)
      · exact member
      · exact found
  · rw [List.mem_append, List.mem_singleton]

theorem Distinct.put (distinct : Distinct keyOf entries) (entry : Entry) :
    Distinct keyOf (put keyOf entry entries) := by
  rw [Distinct, put_keys]
  split
  · exact distinct
  · rename_i fresh
    rw [← List.concat_eq_append]
    exact List.Nodup.concat fresh distinct

theorem lookup_put_same (entry : Entry) :
    lookup keyOf (keyOf entry) (put keyOf entry entries) = some entry := by
  rw [put]
  split
  · rename_i found
    obtain ⟨old, found⟩ := Option.isSome_iff_exists.mp found
    exact lookup_store_same found
  · rename_i missing
    rw [lookup_append, Option.not_isSome_iff_eq_none.mp missing, lookup_cons, if_pos rfl]
    rfl

theorem lookup_put_other {entry : Entry} (other : keyOf entry ≠ key) :
    lookup keyOf key (put keyOf entry entries) = lookup keyOf key entries := by
  rw [put]
  split
  · exact lookup_store_other other
  · rw [lookup_append, lookup_cons, if_neg other, show lookup keyOf key [] = none from rfl,
      Option.or_none]

theorem mem_store {entry other : Entry} (member : other ∈ store keyOf entry entries) :
    other = entry ∨ other ∈ entries := by
  induction entries with
  | nil => cases member
  | cons head rest ih =>
      rw [store] at member
      split at member
      · obtain same | later := List.mem_cons.mp member
        · exact .inl same
        · exact .inr (List.mem_cons_of_mem head later)
      · obtain rfl | later := List.mem_cons.mp member
        · exact .inr List.mem_cons_self
        · exact (ih later).imp_right (List.mem_cons_of_mem head)

theorem mem_put {entry other : Entry} (member : other ∈ put keyOf entry entries) :
    other = entry ∨ other ∈ entries := by
  rw [put] at member
  split at member
  · exact mem_store member
  · obtain old | new := List.mem_append.mp member
    · exact .inr old
    · exact .inl (List.mem_singleton.mp new)

/-- A put keeps the keys and their order. -/
theorem put_keys_begin (keyOf : Entry → Key) (entry : Entry) (entries : List Entry) :
    entries.map keyOf <+: (put keyOf entry entries).map keyOf := by
  rw [put_keys]
  split
  · exact List.prefix_rfl
  · exact List.prefix_append _ _

/-- The entries arrive one after the other. -/
def putAll (keyOf : Entry → Key) (entries arrivals : List Entry) : List Entry :=
  arrivals.foldl (fun entries entry => put keyOf entry entries) entries

theorem putAll_append (first second : List Entry) :
    putAll keyOf entries (first ++ second) = putAll keyOf (putAll keyOf entries first) second :=
  List.foldl_append

theorem putAll_keys_begin (keyOf : Entry → Key) (entries arrivals : List Entry) :
    entries.map keyOf <+: (putAll keyOf entries arrivals).map keyOf := by
  induction arrivals generalizing entries with
  | nil => exact List.prefix_rfl
  | cons entry rest ih => exact (put_keys_begin keyOf entry entries).trans (ih _)

theorem mem_putAll {arrivals : List Entry} {other : Entry} (member : other ∈ putAll keyOf entries arrivals) :
    other ∈ entries ∨ other ∈ arrivals := by
  induction arrivals generalizing entries with
  | nil => exact .inl member
  | cons entry rest ih =>
      obtain old | new := ih member
      · obtain rfl | old := mem_put old
        · exact .inr List.mem_cons_self
        · exact .inl old
      · exact .inr (List.mem_cons_of_mem entry new)

theorem mem_putAll_keys {arrivals : List Entry} :
    key ∈ (putAll keyOf entries arrivals).map keyOf ↔ key ∈ entries.map keyOf ∨ key ∈ arrivals.map keyOf := by
  induction arrivals generalizing entries with
  | nil => simp [putAll]
  | cons entry rest ih =>
      rw [show putAll keyOf entries (entry :: rest) = putAll keyOf (put keyOf entry entries) rest from rfl,
        ih, mem_put_keys, List.map_cons, List.mem_cons, or_assoc]

theorem Distinct.putAll (distinct : Distinct keyOf entries) (arrivals : List Entry) :
    Distinct keyOf (putAll keyOf entries arrivals) := by
  induction arrivals generalizing entries with
  | nil => exact distinct
  | cons entry rest ih => exact ih (distinct.put entry)

/-- A lookup gives the last arrival with the key. -/
theorem lookup_putAll (arrivals : List Entry) :
    lookup keyOf key (putAll keyOf entries arrivals) =
      (lookup keyOf key arrivals.reverse).or (lookup keyOf key entries) := by
  induction arrivals generalizing entries with
  | nil => rfl
  | cons entry rest ih =>
      rw [show KeyedList.putAll keyOf entries (entry :: rest) =
          KeyedList.putAll keyOf (put keyOf entry entries) rest from rfl,
        ih, List.reverse_cons, lookup_append, Option.or_assoc, lookup_cons]
      by_cases same : keyOf entry = key
      · subst same
        rw [if_pos rfl, lookup_put_same]
        rfl
      · rw [if_neg same, lookup_put_other same]
        rfl

/-- The list holds one entry for each key that arrived. -/
theorem length_putAll_nil (arrivals : List Entry) :
    (putAll keyOf [] arrivals).length = (arrivals.map keyOf).dedup.length := by
  have distinct : Distinct keyOf (putAll keyOf [] arrivals) :=
    Distinct.putAll (show Distinct keyOf [] from List.nodup_nil) arrivals
  have same : ((putAll keyOf [] arrivals).map keyOf).toFinset = (arrivals.map keyOf).toFinset := by
    ext key
    simp only [List.mem_toFinset, mem_putAll_keys, List.map_nil, List.not_mem_nil, false_or]
  rw [← List.length_map keyOf, ← List.toFinset_card_of_nodup distinct, same, List.card_toFinset]

/-- Entries with new keys go to the end in their order. -/
theorem putAll_distinct {arrivals : List Entry} (distinct : Distinct keyOf (entries ++ arrivals)) :
    putAll keyOf entries arrivals = entries ++ arrivals := by
  induction arrivals generalizing entries with
  | nil => rw [List.append_nil]; rfl
  | cons entry rest ih =>
      have fresh : ¬(lookup keyOf (keyOf entry) entries).isSome := by
        rw [lookup_isSome]
        intro member
        rw [Distinct, List.map_append, List.nodup_append] at distinct
        exact distinct.2.2 _ member _ (List.mem_map_of_mem List.mem_cons_self) rfl
      have appended : put keyOf entry entries = entries ++ [entry] := if_neg fresh
      have shifted : entries ++ entry :: rest = entries ++ [entry] ++ rest := by rw [List.append_assoc]; rfl
      rw [shifted] at distinct ⊢
      rw [putAll, List.foldl_cons, appended]
      exact ih distinct

/-- When each arrival adds an entry the list is the list of the arrivals. -/
theorem putAll_full {arrivals : List Entry}
    (full : (putAll keyOf [] arrivals).length = arrivals.length) : putAll keyOf [] arrivals = arrivals := by
  rw [length_putAll_nil] at full
  have whole : (arrivals.map keyOf).dedup = arrivals.map keyOf :=
    (List.dedup_sublist _).eq_of_length (by rw [full, List.length_map])
  exact putAll_distinct (show Distinct keyOf ([] ++ arrivals) from List.dedup_eq_self.mp whole)

/-! ## Remove -/

theorem remove_sublist (key : Key) : (remove keyOf key entries).Sublist entries := by
  induction entries with
  | nil => exact .slnil
  | cons head rest ih =>
      rw [remove]
      split
      · exact List.sublist_cons_self head rest
      · exact ih.cons_cons head

theorem Distinct.remove (distinct : Distinct keyOf entries) (key : Key) :
    Distinct keyOf (remove keyOf key entries) :=
  distinct.sublist ((remove_sublist key).map keyOf)

theorem lookup_remove_same (distinct : Distinct keyOf entries) :
    lookup keyOf key (remove keyOf key entries) = none := by
  induction entries with
  | nil => rfl
  | cons head rest ih =>
      rw [Distinct, List.map_cons, List.nodup_cons] at distinct
      rw [KeyedList.remove]
      split
      · rename_i same
        rw [lookup_eq_none]
        intro entry member equal
        exact distinct.1 (by rw [same, ← equal]; exact List.mem_map_of_mem member)
      · rename_i other
        rw [lookup_cons, if_neg other]
        exact ih distinct.2

theorem lookup_remove_other {other : Key} (different : other ≠ key) :
    lookup keyOf key (remove keyOf other entries) = lookup keyOf key entries := by
  induction entries with
  | nil => rfl
  | cons head rest ih =>
      rw [KeyedList.remove]
      split
      · rename_i same
        rw [lookup_cons, same, if_neg different]
      · rw [lookup_cons, lookup_cons, ih]

theorem length_remove {entry : Entry} (found : lookup keyOf key entries = some entry) :
    (remove keyOf key entries).length + 1 = entries.length := by
  induction entries with
  | nil => cases found
  | cons head rest ih =>
      rw [KeyedList.remove]
      split
      · rfl
      · rename_i other
        rw [lookup_cons, if_neg other] at found
        rw [List.length_cons, List.length_cons, ih found]

end Libcsp.KeyedList

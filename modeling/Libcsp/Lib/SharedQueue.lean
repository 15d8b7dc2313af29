/-
This file develops a FIFO queue that several owners share through a tag on each item.
A lookup takes the first item of one owner and moves the items that it passes to the tail.
-/
import Mathlib.Data.List.Basic
import Mathlib.Tactic.Common

namespace Libcsp.SharedQueue

variable {Item Tag : Type} [DecidableEq Tag] (tag : Item → Tag) (owner : Tag)

/-- The items of one owner, in the order of the queue. -/
def itemsOf (queue : List Item) : List Item := queue.filter fun item => tag item = owner

/-- The operation for `owner` leaves the items of every other owner as they are. -/
def Isolated (before after : List Item) : Prop :=
  ∀ other, other ≠ owner → itemsOf tag other after = itemsOf tag other before

/-- The operation for `owner` removes at most a front part of the items of another owner. -/
def Shrinks (before after : List Item) : Prop :=
  ∀ other, other ≠ owner → itemsOf tag other after <:+ itemsOf tag other before

@[simp] theorem itemsOf_append (first second : List Item) :
    itemsOf tag owner (first ++ second) = itemsOf tag owner first ++ itemsOf tag owner second := by
  simp [itemsOf]

theorem itemsOf_cons_other {item : Item} {rest : List Item} (foreign : tag item ≠ owner) :
    itemsOf tag owner (item :: rest) = itemsOf tag owner rest := by
  simp [itemsOf, foreign]

theorem itemsOf_cons_self (item : Item) (rest : List Item) :
    itemsOf tag (tag item) (item :: rest) = item :: itemsOf tag (tag item) rest := by
  simp [itemsOf]

theorem itemsOf_eq_nil {queue : List Item} (foreign : ∀ item ∈ queue, tag item ≠ owner) :
    itemsOf tag owner queue = [] := by
  simpa [itemsOf] using foreign

variable {tag owner}

theorem Isolated.refl (queue : List Item) : Isolated tag owner queue queue := fun _ _ => rfl

theorem Shrinks.refl (queue : List Item) : Shrinks tag owner queue queue :=
  fun _ _ => List.suffix_rfl

theorem Shrinks.trans {first second third : List Item} (left : Shrinks tag owner first second)
    (right : Shrinks tag owner second third) : Shrinks tag owner first third :=
  fun other different => (right other different).trans (left other different)

theorem Isolated.shrinks {before after : List Item} (same : Isolated tag owner before after) :
    Shrinks tag owner before after :=
  fun other different => same other different ▸ List.suffix_rfl

theorem Isolated.trans {first second third : List Item} (left : Isolated tag owner first second)
    (right : Isolated tag owner second third) : Isolated tag owner first third :=
  fun other different => (right other different).trans (left other different)

/-- No other owner has an item, so there is nothing to lose. -/
theorem Shrinks.isolated {before after : List Item} (shrinks : Shrinks tag owner before after)
    (own : ∀ item ∈ before, tag item = owner) : Isolated tag owner before after := by
  intro other different
  have none : itemsOf tag other before = [] :=
    itemsOf_eq_nil tag other fun item member same => different (same.symm.trans (own item member))
  have shrunk := shrinks other different
  rw [none] at shrunk ⊢
  exact List.eq_nil_of_suffix_nil shrunk

/-- An item of the owner that leaves or enters the queue is no matter for the others. -/
theorem isolated_tail {item : Item} {rest : List Item} (own : tag item = owner) :
    Isolated tag owner (item :: rest) rest := by
  intro other different
  rw [itemsOf_cons_other tag other (fun same => different (same.symm.trans own))]

theorem isolated_snoc {item : Item} {queue : List Item} (own : tag item = owner) :
    Isolated tag owner queue (queue ++ [item]) := by
  intro other different
  have absent : itemsOf tag other [item] = [] :=
    itemsOf_eq_nil tag other (by simpa using fun same => different (same.symm.trans own))
  rw [itemsOf_append, absent, List.append_nil]

/-- A queue that lost its foreign head shows the loss after any further operation. -/
theorem not_isolated_of_lost_head {item : Item} {rest after : List Item} (foreign : tag item ≠ owner)
    (shrinks : Shrinks tag owner rest after) : ¬Isolated tag owner (item :: rest) after := by
  intro same
  have shorter := (shrinks (tag item) foreign).length_le
  rw [same (tag item) foreign, itemsOf_cons_self, List.length_cons] at shorter
  omega

/-! ## The lookup -/

variable (tag owner) (retag : Item → Item)

/-- The lookup of `owner` in `queue` returns `found` and leaves `after`. The items that it passes
get a new tag and go to the tail. -/
inductive Takes : List Item → Option Item → List Item → Prop where
  | missing {queue : List Item} (foreign : ∀ item ∈ queue, tag item ≠ owner) :
      Takes queue none (queue.map retag)
  | found {passed rest : List Item} {item : Item} (foreign : ∀ other ∈ passed, tag other ≠ owner)
      (own : tag item = owner) : Takes (passed ++ item :: rest) (some item) (rest ++ passed.map retag)

variable {tag owner retag}

/-- The lookup returns the oldest item of the owner. -/
theorem Takes.find {queue after : List Item} {found : Option Item}
    (takes : Takes tag owner retag queue found after) :
    found = queue.find? fun item => tag item = owner := by
  cases takes with
  | missing foreign => exact (List.find?_eq_none.mpr (by simpa using foreign)).symm
  | found foreign own =>
      rw [List.find?_append, List.find?_eq_none.mpr (by simpa using foreign)]
      simp [own]

omit [DecidableEq Tag] in
theorem Takes.own {queue after : List Item} {item : Item}
    (takes : Takes tag owner retag queue (some item) after) : tag item = owner := by
  cases takes with
  | found foreign own => exact own

omit [DecidableEq Tag] in
/-- Up to the order, the lookup keeps what the new tag does not change. -/
theorem Takes.perm {Key : Type} {key : Item → Key} (kept : ∀ item, key (retag item) = key item)
    {queue after : List Item} {found : Option Item} (takes : Takes tag owner retag queue found after) :
    (queue.map key).Perm (found.toList.map key ++ after.map key) := by
  have same (items : List Item) : (items.map retag).map key = items.map key := by
    rw [List.map_map]
    exact List.map_congr_left fun item _ => kept item
  cases takes with
  | missing foreign =>
      rw [same]
      exact List.Perm.refl _
  | found foreign own =>
      rw [List.map_append, List.map_cons, List.map_append, same]
      exact List.perm_middle.trans (List.perm_append_comm.cons _)

omit [DecidableEq Tag] in
theorem Takes.length {queue after : List Item} {found : Option Item}
    (takes : Takes tag owner retag queue found after) :
    after.length + found.toList.length = queue.length := by
  cases takes with
  | missing => simp
  | found => simp; omega

omit [DecidableEq Tag] in
/-- A property of all items that a retag keeps. -/
theorem Takes.all {Fits : Item → Prop} {queue after : List Item} {found : Option Item}
    (takes : Takes tag owner retag queue found after) (tags : ∀ item, Fits item → Fits (retag item))
    (all : ∀ item ∈ queue, Fits item) :
    (∀ item ∈ after, Fits item) ∧ ∀ item, found = some item → Fits item := by
  cases takes with
  | missing =>
      refine ⟨fun item member => ?_, fun item none => by cases none⟩
      obtain ⟨source, inside, rfl⟩ := List.mem_map.mp member
      exact tags source (all source inside)
  | @found passed rest item =>
      refine ⟨fun other member => ?_, fun other same => ?_⟩
      · obtain behind | passed' := List.mem_append.mp member
        · exact all other (List.mem_append_right _ (List.mem_cons_of_mem _ behind))
        · obtain ⟨source, inside, rfl⟩ := List.mem_map.mp passed'
          exact tags source (all source (List.mem_append_left _ inside))
      · obtain rfl := Option.some.inj same
        exact all item (List.mem_append_right _ List.mem_cons_self)

/-- A retag that writes the owner's tag on a passed item. -/
theorem shrinks_passed (retagged : ∀ item, tag (retag item) = owner) (passed rest : List Item) :
    Shrinks tag owner (passed ++ rest) (rest ++ passed.map retag) := by
  intro other different
  have none : itemsOf tag other (passed.map retag) = [] := by
    apply itemsOf_eq_nil
    intro item member same
    obtain ⟨source, _, rfl⟩ := List.mem_map.mp member
    exact different (same.symm.trans (retagged source))
  rw [itemsOf_append, itemsOf_append, none, List.append_nil]
  exact List.suffix_append _ _

theorem Takes.shrinks (retagged : ∀ item, tag (retag item) = owner) {queue after : List Item}
    {found : Option Item} (takes : Takes tag owner retag queue found after) :
    Shrinks tag owner queue after := by
  cases takes with
  | missing =>
      have passed := shrinks_passed retagged queue []
      rwa [List.append_nil, List.nil_append] at passed
  | @found passed rest item _ own =>
      have whole := shrinks_passed retagged passed (item :: rest)
      rw [List.cons_append] at whole
      exact whole.trans (isolated_tail own).shrinks

/-- A lookup that passes a foreign head shrinks what is behind this head. -/
theorem Takes.shrinks_behind (retagged : ∀ item, tag (retag item) = owner) {head : Item}
    {rest after : List Item} {found : Option Item} (foreign : tag head ≠ owner)
    (takes : Takes tag owner retag (head :: rest) found after) : Shrinks tag owner rest after := by
  generalize whole : head :: rest = queue at takes
  cases takes with
  | missing =>
      rw [← whole, List.map_cons]
      have passed := shrinks_passed retagged rest []
      rw [List.append_nil, List.nil_append] at passed
      intro other different
      rw [itemsOf_cons_other tag other (fun same => different (same.symm.trans (retagged head)))]
      exact passed other different
  | @found passed rest' item _ own =>
      cases passed with
      | nil =>
          rw [List.nil_append, List.cons.injEq] at whole
          rw [whole.1] at foreign
          exact absurd own foreign
      | cons first passed =>
          rw [List.cons_append, List.cons.injEq] at whole
          obtain ⟨rfl, rfl⟩ := whole
          have tail := (shrinks_passed retagged passed (item :: rest')).trans
            (isolated_tail own).shrinks
          intro other different
          rw [List.map_cons, itemsOf_append, itemsOf_cons_other tag other
            (fun same => different (same.symm.trans (retagged head))), ← itemsOf_append]
          exact tail other different

omit [DecidableEq Tag] in
theorem Takes.of_own_head {head : Item} {rest after : List Item} {found : Option Item}
    (own : tag head = owner) (takes : Takes tag owner retag (head :: rest) found after) :
    found = some head ∧ after = rest := by
  generalize whole : head :: rest = queue at takes
  cases takes with
  | missing foreign => exact absurd own (foreign head (by simp [← whole]))
  | @found passed rest' item foreign _ =>
      cases passed with
      | nil =>
          rw [List.nil_append, List.cons.injEq] at whole
          obtain ⟨rfl, rfl⟩ := whole
          simp
      | cons first passed =>
          rw [List.cons_append, List.cons.injEq] at whole
          exact absurd own (foreign head (by simp [whole.1]))

/-- The lookup is isolated exactly when it passes no item. -/
theorem Takes.isolated_iff (retagged : ∀ item, tag (retag item) = owner) {queue after : List Item}
    {found : Option Item} (takes : Takes tag owner retag queue found after) :
    Isolated tag owner queue after ↔ ∀ item, queue.head? = some item → tag item = owner := by
  cases queue with
  | nil =>
      generalize whole : [] = queue at takes
      cases takes with
      | missing => simp [← whole, Isolated.refl]
      | found => simp at whole
  | cons head rest =>
      simp only [List.head?_cons, Option.some.injEq, forall_eq']
      constructor
      · intro same
        by_contra foreign
        exact not_isolated_of_lost_head foreign (takes.shrinks_behind retagged foreign) same
      · intro own
        rw [(takes.of_own_head own).2]
        exact isolated_tail own

/-! ## Scans -/

variable {Progress : Type} (tag owner retag) (goesOn : Progress → Prop)
  (advance : Progress → Item → Progress)

/-- A scan looks up the owner's items round by round. It drops an item or returns it to the tail,
possibly with new content. The progress so far decides whether it goes on, and an item that it
drops may restart the count of the rounds. -/
inductive Scan : Progress → Nat → List Item → List Item → Prop where
  | halt {progress : Progress} {rounds : Nat} (queue : List Item) (halted : ¬goesOn progress) :
      Scan progress rounds queue queue
  | done (progress : Progress) (queue : List Item) : Scan progress 0 queue queue
  | missing {progress : Progress} {rounds : Nat} {queue after : List Item}
      (goes : goesOn progress) (takes : Takes tag owner retag queue none after) :
      Scan progress (rounds + 1) queue after
  | drop {progress : Progress} {rounds further : Nat} {queue after last : List Item} {item : Item}
      (goes : goesOn progress) (takes : Takes tag owner retag queue (some item) after)
      (enough : rounds ≤ further) (scan : Scan (advance progress item) further after last) :
      Scan progress (rounds + 1) queue last
  | keep {progress : Progress} {rounds : Nat} {queue after last : List Item} {item : Item}
      (kept : Item) (goes : goesOn progress)
      (takes : Takes tag owner retag queue (some item) after) (own : tag kept = owner)
      (scan : Scan (advance progress item) rounds (after ++ [kept]) last) :
      Scan progress (rounds + 1) queue last

variable {tag owner retag goesOn advance}

theorem Scan.shrinks (retagged : ∀ item, tag (retag item) = owner) {progress : Progress}
    {rounds : Nat} {queue last : List Item}
    (scan : Scan tag owner retag goesOn advance progress rounds queue last) :
    Shrinks tag owner queue last := by
  induction scan with
  | halt queue => exact Shrinks.refl queue
  | done progress queue => exact Shrinks.refl queue
  | missing goes takes => exact takes.shrinks retagged
  | drop goes takes enough scan ih => exact (takes.shrinks retagged).trans ih
  | keep kept goes takes own scan ih =>
      exact ((takes.shrinks retagged).trans (isolated_snoc own).shrinks).trans ih

/-- An own head or a kept item does not matter for the isolation. -/
theorem isolated_behind_own {head : Item} {rest last : List Item} (own : tag head = owner) :
    Isolated tag owner (head :: rest) last ↔ Isolated tag owner rest last :=
  ⟨fun same other different =>
      (same other different).trans (isolated_tail own other different).symm,
    (isolated_tail own).trans⟩

theorem isolated_before_kept {queue last : List Item} {kept : Item} (own : tag kept = owner) :
    Isolated tag owner (queue ++ [kept]) last ↔ Isolated tag owner queue last :=
  ⟨(isolated_snoc own).trans, fun same other different =>
    (same other different).trans (isolated_snoc own other different).symm⟩

/-- A scan is isolated exactly when it halts in front of the first foreign item. The unvisited
items form the front of the queue, and the scan has rounds for all of them. -/
theorem Scan.isolated_iff_unvisited (retagged : ∀ item, tag (retag item) = owner)
    (stays : ∀ progress item, goesOn (advance progress item) → goesOn progress)
    {progress : Progress} {rounds : Nat} {unvisited visited queue last : List Item}
    (scan : Scan tag owner retag goesOn advance progress rounds queue last)
    (whole : queue = unvisited ++ visited) (ownVisited : ∀ item ∈ visited, tag item = owner)
    (enough : unvisited.length ≤ rounds) :
    Isolated tag owner queue last ↔
      (∀ item ∈ unvisited, tag item = owner) ∨
        ¬goesOn ((unvisited.takeWhile fun item => tag item = owner).foldl advance progress) := by
  have front : ∀ items : List Item, ∀ progress, goesOn (items.foldl advance progress) →
      goesOn progress := by
    intro items
    induction items with
    | nil => exact fun _ goes => goes
    | cons item items ih => exact fun progress goes => stays progress item (ih _ goes)
  -- A queue that was visited whole belongs to the owner.
  have exhausted : unvisited = [] → Isolated tag owner queue last := by
    rintro rfl
    exact (scan.shrinks retagged).isolated (by simpa [whole] using ownVisited)
  induction scan generalizing unvisited visited with
  | halt queue halted =>
      exact ⟨fun _ => .inr fun goes => halted (front _ _ goes), fun _ => Isolated.refl queue⟩
  | done progress queue =>
      have empty : unvisited = [] := List.eq_nil_of_length_eq_zero (Nat.le_zero.mp enough)
      exact ⟨fun _ => .inl (by simp [empty]), fun _ => Isolated.refl queue⟩
  | missing goes takes =>
      cases unvisited with
      | nil => exact ⟨fun _ => .inl (by simp), fun _ => exhausted rfl⟩
      | cons head rest =>
          rw [List.cons_append] at whole
          subst whole
          have foreign : tag head ≠ owner := fun own => by simpa using (takes.of_own_head own).1
          have lost := not_isolated_of_lost_head foreign (takes.shrinks_behind retagged foreign)
          simp [lost, foreign, goes]
  | drop goes takes further scan ih =>
      cases unvisited with
      | nil => exact ⟨fun _ => .inl (by simp), fun _ => exhausted rfl⟩
      | cons head rest =>
          rw [List.cons_append] at whole
          subst whole
          by_cases own : tag head = owner
          · obtain ⟨same, rfl⟩ := takes.of_own_head own
            rw [Option.some.injEq] at same
            subst same
            have room := Nat.le_trans (Nat.le_of_succ_le_succ enough) further
            have behind := ih rfl ownVisited room (by
              rintro rfl
              exact (scan.shrinks retagged).isolated (by simpa using ownVisited))
            rw [isolated_behind_own own]
            refine behind.trans ?_
            simp [own]
          · have lost := not_isolated_of_lost_head own
              ((takes.shrinks_behind retagged own).trans (scan.shrinks retagged))
            simp [lost, own, goes]
  | keep kept goes takes ownKept scan ih =>
      cases unvisited with
      | nil => exact ⟨fun _ => .inl (by simp), fun _ => exhausted rfl⟩
      | cons head rest =>
          rw [List.cons_append] at whole
          subst whole
          by_cases own : tag head = owner
          · obtain ⟨same, rfl⟩ := takes.of_own_head own
            rw [Option.some.injEq] at same
            subst same
            have ownTail : ∀ item ∈ visited ++ [kept], tag item = owner := by
              simpa [or_imp, forall_and, ownKept] using ownVisited
            have behind := ih (List.append_assoc _ _ _) ownTail (Nat.le_of_succ_le_succ enough) (by
              rintro rfl
              exact (scan.shrinks retagged).isolated (by simpa using ownTail))
            rw [isolated_behind_own own, ← isolated_before_kept ownKept]
            refine behind.trans ?_
            simp [own]
          · have lost := not_isolated_of_lost_head own
              (((takes.shrinks_behind retagged own).trans (isolated_snoc ownKept).shrinks).trans
                (scan.shrinks retagged))
            simp [lost, own, goes]

/-- A scan with a round for each item is isolated exactly when it halts in front of the first
foreign item. -/
theorem Scan.isolated_iff (retagged : ∀ item, tag (retag item) = owner)
    (stays : ∀ progress item, goesOn (advance progress item) → goesOn progress)
    {progress : Progress} {rounds : Nat} {queue last : List Item}
    (scan : Scan tag owner retag goesOn advance progress rounds queue last)
    (enough : queue.length ≤ rounds) :
    Isolated tag owner queue last ↔
      (∀ item ∈ queue, tag item = owner) ∨
        ¬goesOn ((queue.takeWhile fun item => tag item = owner).foldl advance progress) :=
  scan.isolated_iff_unvisited retagged stays (List.append_nil queue).symm (by simp) enough

end Libcsp.SharedQueue

/-
This file follows the entries of the routing table over a run of calls, and states when a run stays
inside the array.
-/
import Libcsp.Rtable

namespace Libcsp
open KeyedList

/-- The key that a call stores. -/
def RouteSet.key (cfg : Config) (args : RouteSet) : RouteKey :=
  (args.address, UInt16.ofNat (Rtable.effectiveNetmask cfg args.netmask).toNat)

/-- The entry that a call stores. A call with a NULL interface stores nothing. -/
def RouteSet.slot (cfg : Config) (args : RouteSet) : Option RouteSlot :=
  args.ifc.map fun ifc =>
    { address := args.address, netmask := (args.key cfg).2, via := args.via, iface := some ifc }

theorem RouteSet.slot_key {cfg : Config} {args : RouteSet} {slot : RouteSlot}
    (stores : args.slot cfg = some slot) : slot.key = args.key cfg := by
  obtain ⟨ifc, -, rfl⟩ := Option.map_eq_some_iff.mp stores
  rfl

/-- An unbounded table with the same calls. A clear leaves as many entries of zeros. -/
def contents (cfg : Config) : List RouteSlot → List RtableCall → List RouteSlot
  | entries, [] => entries
  | entries, .set args :: rest =>
      contents cfg ((args.slot cfg).elim entries fun slot => put RouteSlot.key slot entries) rest
  | entries, .clear :: rest => contents cfg (entries.map fun _ => {}) rest
  | entries, .free :: rest => contents cfg (entries.map fun _ => {}) rest

/-- The keys that the calls ask the table to hold. A clear turns each key into zeros. -/
def keysHeld (cfg : Config) : List RouteKey → List RtableCall → List RouteKey
  | keys, [] => keys
  | keys, .set args :: rest =>
      if args.ifc = none ∨ args.key cfg ∈ keys then keysHeld cfg keys rest
      else keysHeld cfg (keys ++ [args.key cfg]) rest
  | keys, .clear :: rest => keysHeld cfg (keys.map fun _ => (0, 0)) rest
  | keys, .free :: rest => keysHeld cfg (keys.map fun _ => (0, 0)) rest

variable {cfg : Config} {size : Nat} {t : Rtable size}

theorem contents_keys (cfg : Config) (entries : List RouteSlot) (calls : List RtableCall) :
    (contents cfg entries calls).map RouteSlot.key = keysHeld cfg (entries.map RouteSlot.key) calls := by
  have zeros (entries : List RouteSlot) : (entries.map fun _ => ({} : RouteSlot)).map RouteSlot.key =
      (entries.map RouteSlot.key).map fun _ => ((0, 0) : RouteKey) := by
    rw [List.map_map, List.map_map]
    rfl
  induction calls generalizing entries with
  | nil => rfl
  | cons call rest ih =>
      cases call with
      | set args =>
          rw [contents, ih, keysHeld]
          cases stores : args.slot cfg with
          | none =>
              have null : args.ifc = none := Option.map_eq_none_iff.mp stores
              rw [if_pos (.inl null)]
              rfl
          | some slot =>
              have given : args.ifc ≠ none := by
                intro null
                rw [RouteSet.slot, null] at stores
                cases stores
              rw [Option.elim_some, put_keys, RouteSet.slot_key stores]
              by_cases known : args.key cfg ∈ entries.map RouteSlot.key
              · rw [if_pos known, if_pos (.inr known)]
              · rw [if_neg known, if_neg (by simp [given, known])]
      | clear => rw [contents, ih, keysHeld, zeros]
      | free => rw [contents, ih, keysHeld, zeros]

theorem length_contents (cfg : Config) (entries : List RouteSlot) (calls : List RtableCall) :
    entries.length ≤ (contents cfg entries calls).length := by
  induction calls generalizing entries with
  | nil => exact Nat.le_refl _
  | cons call rest ih =>
      cases call with
      | set args =>
          apply Nat.le_trans _ (ih _)
          cases args.slot cfg with
          | none => exact Nat.le_refl _
          | some slot => simpa using (put_keys_begin RouteSlot.key slot entries).length_le
      | clear => simpa [contents] using ih (entries.map fun _ => {})
      | free => simpa [contents] using ih (entries.map fun _ => {})

theorem contents_append (cfg : Config) (entries : List RouteSlot) (first second : List RtableCall) :
    contents cfg entries (first ++ second) = contents cfg (contents cfg entries first) second := by
  induction first generalizing entries with
  | nil => rfl
  | cons call rest ih => cases call <;> exact ih _

/-! ## Calls -/

namespace Rtable

/-- The stored netmask is not longer than the host part. -/
theorem effectiveNetmask_range (cfg : Config) (netmask : Int) :
    0 ≤ effectiveNetmask cfg netmask ∧ effectiveNetmask cfg netmask ≤ idGetHostBits cfg := by
  rw [effectiveNetmask]
  split <;> omega

theorem set_none (args : RouteSet) (stores : args.slot cfg = none) :
    rtableCall cfg t (.set args) = some t := by
  have null : args.ifc = none := Option.map_eq_none_iff.mp stores
  rw [rtableCall, set, if_pos (.inl null)]
  rfl

/-- A call that stores an entry succeeds when the store does. -/
theorem set_eq {args : RouteSet} {slot : RouteSlot} (stores : args.slot cfg = some slot) :
    t.set cfg args.address args.netmask args.ifc args.via =
      (t.setInternal slot).map fun next => (.none, next) := by
  obtain ⟨ifc, given, rfl⟩ := Option.map_eq_some_iff.mp stores
  have range := effectiveNetmask_range cfg args.netmask
  have accepted : ¬ (args.ifc = none ∨ effectiveNetmask cfg args.netmask > idGetHostBits cfg) := by
    rw [given]
    rintro (null | long)
    · cases null
    · omega
  rw [set, if_neg accepted, given, Option.bind_eq_bind, Option.map_eq_bind]
  rfl

theorem set_some {args : RouteSet} {slot : RouteSlot} (stores : args.slot cfg = some slot) :
    rtableCall cfg t (.set args) = t.setInternal slot := by
  rw [rtableCall, set_eq stores, Option.map_map]
  exact Option.map_id'

/-- A call inside the array keeps the fill count inside and has the effect of the unbounded table. -/
theorem Bounded.call_some (bounded : t.Bounded) {call : RtableCall}
    (room : (contents cfg t.entries [call]).length ≤ size) :
    ∃ next, rtableCall cfg t call = some next ∧ next.Bounded ∧
      next.entries = contents cfg t.entries [call] := by
  cases call with
  | set args =>
      cases stores : args.slot cfg with
      | none => exact ⟨t, set_none args stores, bounded, by rw [contents, stores]; rfl⟩
      | some slot =>
          rw [contents, stores] at room ⊢
          rw [set_some stores]
          apply bounded.setInternal_some
          by_cases known : slot.key ∈ t.entries.map RouteSlot.key
          · exact .inl known
          · right
            have longer := congrArg List.length (put_keys RouteSlot.key slot t.entries)
            rw [if_neg known, List.length_map, List.length_append, List.length_map, bounded.length_entries] at longer
            exact Nat.lt_of_lt_of_le (Nat.lt_of_lt_of_eq (Nat.lt_succ_self _) longer.symm) room
  | clear => exact ⟨t.clear, rfl, bounded.clear, bounded.clear_entries⟩
  | free => exact ⟨t.free, rfl, bounded.clear, bounded.clear_entries⟩

/-- Only a set of a new key on a full table leaves the array. -/
theorem Bounded.call_none (bounded : t.Bounded) {call : RtableCall}
    (overflow : size < (contents cfg t.entries [call]).length) : rtableCall cfg t call = none := by
  have length := bounded.length_entries
  cases call with
  | set args =>
      cases stores : args.slot cfg with
      | none =>
          rw [contents, stores, contents, Option.elim_none, length] at overflow
          exact absurd overflow (Nat.not_lt.mpr bounded)
      | some slot =>
          rw [contents, stores, contents, Option.elim_some] at overflow
          have longer := congrArg List.length (put_keys RouteSlot.key slot t.entries)
          rw [List.length_map] at longer
          rw [set_some stores]
          split at longer
          · rw [longer, List.length_map, length] at overflow
            exact absurd overflow (Nat.not_lt.mpr bounded)
          · rename_i fresh
            rw [List.length_append, List.length_map, length, List.length_singleton] at longer
            exact bounded.setInternal_none fresh (Nat.le_antisymm bounded (by omega))
  | clear =>
      rw [contents, contents, List.length_map, length] at overflow
      exact absurd overflow (Nat.not_lt.mpr bounded)
  | free =>
      rw [contents, contents, List.length_map, length] at overflow
      exact absurd overflow (Nat.not_lt.mpr bounded)

end Rtable

/-! ## Runs -/

theorem rtableRun_some (cfg : Config) (bounded : t.Bounded) {calls : List RtableCall}
    (room : (contents cfg t.entries calls).length ≤ size) :
    ∃ next, rtableRun cfg t calls = some next ∧ next.Bounded ∧ next.entries = contents cfg t.entries calls := by
  induction calls generalizing t with
  | nil => exact ⟨t, rfl, bounded, rfl⟩
  | cons call rest ih =>
      have split := contents_append cfg t.entries [call] rest
      rw [List.singleton_append] at split
      rw [split] at room ⊢
      obtain ⟨next, called, inside, entries⟩ :=
        bounded.call_some (Nat.le_trans (length_contents cfg _ rest) room)
      rw [← entries] at room ⊢
      rw [rtableRun, called, Option.bind_some]
      exact ih inside room

theorem rtableRun_none (bounded : t.Bounded) {calls : List RtableCall}
    (overflow : size < (contents cfg t.entries calls).length) : rtableRun cfg t calls = none := by
  induction calls generalizing t with
  | nil =>
      rw [contents, bounded.length_entries] at overflow
      exact absurd overflow (Nat.not_lt.mpr bounded)
  | cons call rest ih =>
      have split := contents_append cfg t.entries [call] rest
      rw [List.singleton_append] at split
      rw [split] at overflow
      rw [rtableRun]
      by_cases room : (contents cfg t.entries [call]).length ≤ size
      · obtain ⟨next, called, inside, entries⟩ := bounded.call_some room
        rw [← entries] at overflow
        rw [called, Option.bind_some]
        exact ih inside overflow
      · rw [bounded.call_none (Nat.lt_of_not_le room), Option.bind_none]

theorem length_keysHeld (calls : List RtableCall) :
    (keysHeld cfg [] calls).length = (contents cfg [] calls).length := by
  have keys := contents_keys cfg [] calls
  rw [List.map_nil] at keys
  rw [← keys, List.length_map]

/-- Each moment of the run has a fill count and accesses inside the array, and a set of a new key on
a full table leaves the entries. -/
structure StaysInside (cfg : Config) (size : Nat) (done rest : List RtableCall) (t : Rtable size) : Prop where
  reached : rtableRun cfg (Rtable.init size) done = some t
  count : t.inptr ≤ size
  lookups : ∀ addr, (t.findRoute cfg addr).isSome
  visits : t.iterate.isSome
  full : ∀ args later, rest = .set args :: later → args.ifc ≠ none → t.inptr = size →
    args.key cfg ∉ t.entries.map RouteSlot.key →
    ∃ next, rtableCall cfg t (.set args) = some next ∧ next.slots = t.slots

/-- A new key on a full table needs one slot more than there is. -/
theorem Rtable.Bounded.no_room (bounded : t.Bounded) {args : RouteSet} (given : args.ifc ≠ none)
    (full : t.inptr = size) (fresh : args.key cfg ∉ t.entries.map RouteSlot.key) (later : List RtableCall) :
    size < (contents cfg t.entries (.set args :: later)).length := by
  have longer := length_contents cfg (contents cfg t.entries [.set args]) later
  rw [← contents_append, List.singleton_append] at longer
  apply Nat.lt_of_lt_of_le _ longer
  obtain ⟨ifc, given⟩ := Option.ne_none_iff_exists'.mp given
  obtain ⟨slot, stores⟩ : ∃ slot, args.slot cfg = some slot := by
    rw [RouteSet.slot, given]
    exact ⟨_, rfl⟩
  have keys := congrArg List.length (put_keys RouteSlot.key slot t.entries)
  rw [RouteSet.slot_key stores, if_neg fresh, List.length_append, List.length_map, List.length_map,
    bounded.length_entries, full] at keys
  rw [contents, stores, contents, Option.elim_some, keys]
  exact Nat.lt_succ_self size

/-- A run of sets and clears stays inside the array exactly when the calls never hold more keys than
the array has slots. -/
theorem rtableRun_inside_iff (cfg : Config) (size : Nat) (calls : List RtableCall) :
    (∀ done rest, calls = done ++ rest → ∃ t, StaysInside cfg size done rest t) ↔
      (keysHeld cfg [] calls).length ≤ size := by
  rw [length_keysHeld]
  constructor
  · intro inside
    obtain ⟨t, whole⟩ := inside calls [] (List.append_nil calls).symm
    by_contra overflow
    have stopped := rtableRun_none (Rtable.init_bounded size) (Nat.lt_of_not_le overflow)
    cases stopped.symm.trans whole.reached
  · rintro room done rest rfl
    rw [contents_append] at room
    obtain ⟨t, runs, bounded, entries⟩ := rtableRun_some cfg (Rtable.init_bounded size)
      (Nat.le_trans (length_contents cfg _ rest) room)
    rw [Rtable.init_entries] at entries
    rw [← entries] at room
    refine ⟨t, runs, bounded, ?_, ?_, ?_⟩
    · intro addr
      rw [bounded.findRoute_eq]
      rfl
    · rw [bounded.iterate_eq]
      rfl
    · rintro args later rfl given full fresh
      exact absurd room (Nat.not_le_of_lt (bounded.no_room given full fresh later))

/-- These are eleven routes with the keys 0/5 to 10/5 on one interface. -/
def elevenRoutes : List RtableCall :=
  (List.range 11).map fun address => .set { address := UInt16.ofNat address, netmask := 5, ifc := some 1, via := 0xFFFF }

/-- The eleventh route goes behind an array of ten slots. -/
theorem elevenRoutes_overrun :
    ¬ ∀ done rest, elevenRoutes = done ++ rest → ∃ t, StaysInside { version := 1 } 10 done rest t := by
  intro inside
  obtain ⟨t, whole⟩ := inside elevenRoutes [] (List.append_nil _).symm
  have stopped : rtableRun { version := 1 } (Rtable.init 10) elevenRoutes = none := by decide +kernel
  cases stopped.symm.trans whole.reached

end Libcsp

/-
This file compares the routing table after a clear with the table of a node that starts.
-/
import Libcsp.RtableRuns

namespace Libcsp
open KeyedList

/-- The keys of the calls that store an entry. -/
def setKeys (cfg : Config) (sets : List RouteSet) : List RouteKey :=
  sets.filterMap fun args => if args.ifc = none then none else some (args.key cfg)

/-- The calls use no more keys than the table has slots. -/
def Fits (cfg : Config) (size : Nat) (sets : List RouteSet) : Prop :=
  (setKeys cfg sets).dedup.length ≤ size

/-- The entries that the calls store, in the order of the calls. -/
def setSlots (cfg : Config) (sets : List RouteSet) : List RouteSlot := sets.filterMap (RouteSet.slot cfg)

variable {cfg : Config} {size : Nat}

theorem contents_sets (entries : List RouteSlot) (sets : List RouteSet) :
    contents cfg entries (sets.map .set) = putAll RouteSlot.key entries (setSlots cfg sets) := by
  induction sets generalizing entries with
  | nil => rfl
  | cons args rest ih =>
      have arrivals : setSlots cfg (args :: rest) = (args.slot cfg).toList ++ setSlots cfg rest := by
        rw [setSlots, List.filterMap_cons]
        cases args.slot cfg <;> rfl
      rw [List.map_cons, contents, ih, arrivals, putAll_append]
      cases args.slot cfg <;> rfl

theorem setSlots_keys (sets : List RouteSet) : (setSlots cfg sets).map RouteSlot.key = setKeys cfg sets := by
  rw [setSlots, setKeys, List.map_filterMap]
  congr 1
  funext args
  rw [RouteSet.slot]
  cases args.ifc <;> rfl

theorem setSlots_iface {sets : List RouteSet} {slot : RouteSlot} (member : slot ∈ setSlots cfg sets) :
    slot.iface ≠ none := by
  obtain ⟨args, -, stores⟩ := List.mem_filterMap.mp member
  obtain ⟨ifc, -, rfl⟩ := Option.map_eq_some_iff.mp stores
  exact Option.some_ne_none ifc

theorem length_contents_sets (sets : List RouteSet) :
    (contents cfg [] (sets.map .set)).length = (setKeys cfg sets).dedup.length := by
  rw [contents_sets, length_putAll_nil, setSlots_keys]

/-- The sets run on the table of a node that starts. -/
theorem Fits.run {sets : List RouteSet} (fits : Fits cfg size sets) :
    ∃ t, rtableRun cfg (Rtable.init size) (sets.map .set) = some t ∧ t.Bounded ∧
      t.entries = putAll RouteSlot.key [] (setSlots cfg sets) := by
  obtain ⟨t, runs, bounded, entries⟩ := rtableRun_some cfg (Rtable.init_bounded size)
    (show (contents cfg [] (sets.map .set)).length ≤ size by rwa [length_contents_sets])
  exact ⟨t, runs, bounded, by rw [entries, Rtable.init_entries, contents_sets]⟩

/-- The run through the clear gives each lookup and each visit the result of a run from the start,
and no lookup returns a NULL interface. -/
def ClearsTable (cfg : Config) (size : Nat) (before : List RouteSet) (wipe : RtableCall)
    (after : List RouteSet) : Prop :=
  ∃ t fresh : Rtable size,
    rtableRun cfg (Rtable.init size) (before.map .set ++ wipe :: after.map .set) = some t ∧
    rtableRun cfg (Rtable.init size) (after.map .set) = some fresh ∧
    (∀ addr, t.findRoute cfg addr = fresh.findRoute cfg addr) ∧ t.iterate = fresh.iterate ∧
    ∀ addr slot, t.findRoute cfg addr = some (some slot) → slot.iface ≠ none

/-- The entries after the clear and the later calls start from zeros. -/
theorem contents_wipe (cfg : Config) (before : List RouteSet) {wipe : RtableCall} (isWipe : wipe = .clear ∨ wipe = .free)
    (after : List RouteSet) :
    contents cfg [] (before.map .set ++ wipe :: after.map .set) =
      putAll RouteSlot.key (List.replicate (setKeys cfg before).dedup.length {}) (setSlots cfg after) := by
  rw [contents_append, ← length_contents_sets, ← contents_sets]
  obtain rfl | rfl := isWipe <;> rw [contents, List.map_const']

/-- Old zeros disappear only when there is one and the first new key is zero. -/
theorem putAll_zeros_eq_iff (count : Nat) (arrivals : List RouteSlot) :
    putAll RouteSlot.key (List.replicate count {}) arrivals = putAll RouteSlot.key [] arrivals ↔
      count = 0 ∨ count = 1 ∧ (arrivals.map RouteSlot.key).head? = some (0, 0) := by
  constructor
  · intro same
    have zeros := putAll_keys_begin RouteSlot.key (List.replicate count {}) arrivals
    have distinct : Distinct RouteSlot.key (putAll RouteSlot.key [] arrivals) :=
      Distinct.putAll (show Distinct RouteSlot.key [] from List.nodup_nil) arrivals
    rw [same, List.map_replicate] at zeros
    have short : count ≤ 1 := List.nodup_replicate.mp (distinct.sublist zeros.sublist)
    obtain rfl | rfl : count = 0 ∨ count = 1 := by omega
    · exact .inl rfl
    · refine .inr ⟨rfl, ?_⟩
      cases arrivals with
      | nil => cases same
      | cons slot rest =>
          have first := putAll_keys_begin RouteSlot.key [slot] rest
          obtain ⟨others, keys⟩ := zeros
          obtain ⟨others', keys'⟩ := first
          have heads := keys.trans keys'.symm
          rw [List.map_cons, List.head?_cons]
          exact congrArg some (List.cons.inj heads).1.symm
  · rintro (rfl | ⟨rfl, first⟩)
    · rfl
    · cases arrivals with
      | nil => cases first
      | cons slot rest =>
          have zero : ({} : RouteSlot).key = slot.key := (Option.some.inj first).symm
          have replaced : put RouteSlot.key slot (List.replicate 1 {}) = put RouteSlot.key slot [] := by
            have stored : store RouteSlot.key slot [{}] = [slot] := by rw [store, if_pos zero]
            rw [put, put, List.replicate_one, lookup_cons, if_pos zero, stored]
            rfl
          rw [putAll, putAll, List.foldl_cons, List.foldl_cons, replaced]

theorem mem_search {addr : UInt16} {entries : List RouteSlot} {slot : RouteSlot}
    (found : BestMatch.search (RouteSlot.covers cfg addr) (fun slot => slot.netmask.toNat) none 0 entries = some slot) :
    slot ∈ entries := by
  obtain none | ⟨member, -⟩ := BestMatch.search_mem found
  · contradiction
  · exact member

/-- A clear empties the table exactly when no entry was set before it, or when all sets before it use
one key and the first set after it uses the key 0/0. -/
theorem clearsTable_iff (cfg : Config) (size : Nat) (before after : List RouteSet) (wipe : RtableCall)
    (isWipe : wipe = .clear ∨ wipe = .free) (fits : Fits cfg size after) :
    ClearsTable cfg size before wipe after ↔
      setKeys cfg before = [] ∨
        (setKeys cfg before).dedup.length = 1 ∧ (setKeys cfg after).head? = some (0, 0) := by
  have count : setKeys cfg before = [] ↔ (setKeys cfg before).dedup.length = 0 := by
    rw [List.length_eq_zero_iff, List.dedup_eq_nil]
  have zeros := putAll_zeros_eq_iff (setKeys cfg before).dedup.length (setSlots cfg after)
  rw [setSlots_keys] at zeros
  rw [count, ← zeros]
  obtain ⟨fresh, freshRun, freshBounded, freshEntries⟩ := fits.run
  have whole := contents_wipe cfg before isWipe after
  constructor
  · rintro ⟨t, fresh', run, freshRun', -, visits, -⟩
    obtain rfl := Option.some.inj (freshRun.symm.trans freshRun')
    by_cases room : (contents cfg [] (before.map .set ++ wipe :: after.map .set)).length ≤ size
    · obtain ⟨t', run', bounded, entries⟩ := rtableRun_some cfg (Rtable.init_bounded size) room
      obtain rfl := Option.some.inj (run.symm.trans run')
      rw [bounded.iterate_eq, freshBounded.iterate_eq, freshEntries, entries, Rtable.init_entries, whole] at visits
      exact Option.some.inj visits
    · have stopped := rtableRun_none (Rtable.init_bounded size) (Nat.lt_of_not_le room)
      cases stopped.symm.trans run
  · intro same
    rw [same] at whole
    have room : (contents cfg [] (before.map .set ++ wipe :: after.map .set)).length ≤ size := by
      rw [whole, ← freshEntries, freshBounded.length_entries]
      exact freshBounded
    obtain ⟨t, run, bounded, entries⟩ := rtableRun_some cfg (Rtable.init_bounded size) room
    rw [Rtable.init_entries, whole] at entries
    have lookups (addr : UInt16) : t.findRoute cfg addr = fresh.findRoute cfg addr := by
      rw [bounded.findRoute_eq, freshBounded.findRoute_eq, entries, freshEntries]
    refine ⟨t, fresh, run, freshRun, lookups, ?_, ?_⟩
    · rw [bounded.iterate_eq, freshBounded.iterate_eq, entries, freshEntries]
    · intro addr slot found
      rw [bounded.findRoute_eq, entries] at found
      obtain none | stored := mem_putAll (mem_search (Option.some.inj found))
      · contradiction
      · exact setSlots_iface stored

/-- This is the route 8/5 through one interface. -/
def oneRoute : RouteSet := { address := 8, netmask := 5, ifc := some 1, via := 0xFFFF }

theorem noRoute_cleared : ClearsTable { version := 1 } 10 [] .clear [oneRoute] :=
  (clearsTable_iff { version := 1 } 10 [] [oneRoute] .clear (.inl rfl)
    (show ([((8 : UInt16), (5 : UInt16))]).dedup.length ≤ 10 by decide +kernel)).mpr (.inl rfl)

/-- After the clear the entry is still visited, with a NULL interface. -/
theorem oneRoute_remains : ¬ ClearsTable { version := 1 } 10 [oneRoute] .clear [] := by
  rintro ⟨t, fresh, run, freshRun, -, visits, -⟩
  have stale : ((rtableRun { version := 1 } (Rtable.init 10) [.set oneRoute, .clear]).bind
      fun t => t.iterate) = some [{}] := by decide +kernel
  have empty : ((rtableRun { version := 1 } (Rtable.init 10) []).bind fun t => t.iterate) = some [] := by
    decide +kernel
  rw [show rtableRun { version := 1 } (Rtable.init 10) [.set oneRoute, .clear] = some t from run,
    Option.bind_some, visits] at stale
  rw [show rtableRun { version := 1 } (Rtable.init 10) [] = some fresh from freshRun, Option.bind_some,
    stale] at empty
  cases empty

end Libcsp

/-
This file proves that a lookup in the routing table follows the longest prefix of the last routes set.
-/
import Libcsp.RtableClear

namespace Libcsp
open KeyedList BitField

/-- These addresses share the network part with the address of the key. -/
def network (cfg : Config) (key : RouteKey) : Set UInt16 :=
  { addr | addr.toNat / 2 ^ (idGetHostBits cfg - key.2.toNat) =
      key.1.toNat / 2 ^ (idGetHostBits cfg - key.2.toNat) }

/-- The last call that stores an entry with the key. -/
def lastSet (cfg : Config) (sets : List RouteSet) (key : RouteKey) : Option RouteSet :=
  sets.reverse.find? fun args => args.ifc ≠ none ∧ args.key cfg = key

variable {cfg : Config} {size : Nat}

theorem covers_iff (addr : UInt16) (slot : RouteSlot) :
    slot.covers cfg addr ↔ addr ∈ network cfg slot.key := by
  have inside : idGetHostBits cfg - slot.netmask.toNat ≤ 16 := by
    have := idGetHostBits_le cfg
    omega
  rw [RouteSlot.covers, beq_iff_eq, and_not_mask_eq_iff _ _ inside]
  exact eq_comm

/-- The entry of a key holds the arguments of the last call with the key. -/
theorem lookup_setSlots (sets : List RouteSet) (key : RouteKey) :
    lookup RouteSlot.key key (setSlots cfg sets).reverse = (lastSet cfg sets key).bind (RouteSet.slot cfg) := by
  rw [lastSet, setSlots, ← List.filterMap_reverse]
  induction sets.reverse with
  | nil => rfl
  | cons args rest ih =>
      rw [List.find?_cons, List.filterMap_cons]
      cases stores : args.slot cfg with
      | none =>
          have null : args.ifc = none := Option.map_eq_none_iff.mp stores
          simp only [null, ne_eq, not_true_eq_false, false_and, decide_false]
          exact ih
      | some slot =>
          have given : args.ifc ≠ none := by
            intro null
            rw [RouteSet.slot, null] at stores
            cases stores
          simp only [lookup_cons, RouteSet.slot_key stores, ne_eq, given, not_false_eq_true, true_and]
          by_cases same : args.key cfg = key
          · simp only [same, decide_true, if_pos]
            exact stores.symm
          · simp only [same, decide_false, if_false]
            exact ih

/-- The lookup finds no route exactly for addresses outside all networks. Otherwise it finds the
route of a longest network, with the interface and the via address of its last call. -/
theorem findRoute_longest (cfg : Config) (size : Nat) (sets : List RouteSet) (fits : Fits cfg size sets) :
    ∃ t, rtableRun cfg (Rtable.init size) (sets.map .set) = some t ∧
      ∀ addr, ∃ found, t.findRoute cfg addr = some found ∧
        (found = none ↔ ∀ key ∈ setKeys cfg sets, addr ∉ network cfg key) ∧
        ∀ slot, found = some slot →
          slot.key ∈ setKeys cfg sets ∧ addr ∈ network cfg slot.key ∧
          (∀ key ∈ setKeys cfg sets, addr ∈ network cfg key → key.2 ≤ slot.netmask) ∧
          ∃ args, lastSet cfg sets slot.key = some args ∧ slot.iface = args.ifc ∧ slot.via = args.via := by
  obtain ⟨t, run, bounded, entries⟩ := fits.run
  have keys (key : RouteKey) : key ∈ t.entries.map RouteSlot.key ↔ key ∈ setKeys cfg sets := by
    rw [entries, mem_putAll_keys, setSlots_keys]
    simp
  have distinct : Distinct RouteSlot.key t.entries := by
    rw [entries]
    exact Distinct.putAll (show Distinct RouteSlot.key [] from List.nodup_nil) _
  refine ⟨t, run, fun addr => ⟨_, bounded.findRoute_eq addr, ?_, ?_⟩⟩
  · have bounds : BestMatch.Bounds (fun slot : RouteSlot => slot.netmask.toNat) none 0 := rfl
    rw [BestMatch.search_none bounds]
    constructor
    · rintro ⟨-, none⟩ key member covered
      obtain ⟨slot, inside, rfl⟩ := List.mem_map.mp ((keys key).mpr member)
      have uncovered := none slot inside
      rw [(covers_iff addr slot).mpr covered] at uncovered
      cases uncovered
    · intro uncovered
      refine ⟨rfl, fun slot inside => ?_⟩
      rw [← Bool.not_eq_true, covers_iff]
      exact uncovered slot.key ((keys slot.key).mp (List.mem_map_of_mem inside))
  · intro slot found
    obtain none | ⟨inside, covered⟩ := BestMatch.search_mem found
    · contradiction
    have longest := (BestMatch.search_max rfl found).2
    refine ⟨(keys slot.key).mp (List.mem_map_of_mem inside), (covers_iff addr slot).mp covered, ?_, ?_⟩
    · intro key member inNetwork
      obtain ⟨other, otherInside, rfl⟩ := List.mem_map.mp ((keys key).mpr member)
      exact UInt16.le_iff_toNat_le.mpr (longest other otherInside ((covers_iff addr other).mpr inNetwork))
    · have stored := lookup_of_mem distinct inside
      rw [entries, lookup_putAll, lookup_setSlots, show lookup RouteSlot.key slot.key [] = none from rfl,
        Option.or_none] at stored
      obtain ⟨args, last, stores⟩ := Option.bind_eq_some_iff.mp stored
      obtain ⟨ifc, given, rfl⟩ := Option.map_eq_some_iff.mp stores
      exact ⟨args, last, given.symm, rfl⟩

/-- These are a default route and the route 8/2 through two interfaces. -/
def twoRoutes : List RouteSet :=
  [{ address := 0, netmask := 0, ifc := some 1, via := 0xFFFF }, { address := 8, netmask := 2, ifc := some 2, via := 3 }]

theorem twoRoutes_found : ∃ t : Rtable 10, ∃ slot,
    rtableRun { version := 1 } (Rtable.init 10) (twoRoutes.map .set) = some t ∧
      t.findRoute { version := 1 } 9 = some (some slot) ∧ (2 : UInt16) ≤ slot.netmask := by
  have fits : Fits { version := 1 } 10 twoRoutes :=
    show ([((0 : UInt16), (0 : UInt16)), (8, 2)]).dedup.length ≤ 10 by decide +kernel
  have key : ((8 : UInt16), (2 : UInt16)) ∈ setKeys { version := 1 } twoRoutes := by decide +kernel
  have inside : (9 : UInt16) ∈ network { version := 1 } (8, 2) :=
    show (9 : UInt16).toNat / 2 ^ (5 - (2 : UInt16).toNat) = (8 : UInt16).toNat / 2 ^ (5 - (2 : UInt16).toNat) by decide
  obtain ⟨t, run, lookups⟩ := findRoute_longest { version := 1 } 10 twoRoutes fits
  obtain ⟨found, result, missing, best⟩ := lookups 9
  cases found with
  | none => exact absurd inside (missing.mp rfl _ key)
  | some slot => exact ⟨t, slot, run, result, (best slot rfl).2.2.1 _ key inside⟩

/-! ## The routes of a node -/

/-- The slot that holds a route. -/
def Route.slot (route : Route) : RouteSlot :=
  { address := route.address, netmask := route.netmask, via := route.via, iface := some route.iface }

theorem rtableSearch_eq (addr : UInt16) (best : Option Route) (mask : UInt16) (routes : List Route) :
    rtableSearch cfg addr best mask routes =
      BestMatch.search (fun route => route.covers cfg addr) (fun route => route.netmask.toNat) best mask.toNat routes := by
  induction routes generalizing best mask with
  | nil => rfl
  | cons route rest ih =>
      have order : (decide (route.netmask ≥ mask)) = decide (mask.toNat ≤ route.netmask.toNat) :=
        decide_eq_decide.mpr UInt16.le_iff_toNat_le
      rw [rtableSearch, BestMatch.search, order]
      split
      · exact ih (some route) route.netmask
      · exact ih best mask

/-- A table that holds the routes gives the lookup of the node. -/
theorem Rtable.Bounded.findRoute_routes {t : Rtable size} (bounded : t.Bounded) (routes : List Route)
    (holds : t.entries = routes.map Route.slot) (addr : UInt16) :
    t.findRoute cfg addr = some ((rtableFindRoute cfg routes addr).map Route.slot) := by
  rw [bounded.findRoute_eq, holds, rtableFindRoute, rtableSearch_eq]
  exact congrArg some (BestMatch.search_map Route.slot (fun _ => rfl) (fun _ => rfl) none 0 routes)

/-- The entries of a run of sets are routes of a node. -/
theorem Fits.routes {sets : List RouteSet} (fits : Fits cfg size sets) :
    ∃ (t : Rtable size) (routes : List Route), rtableRun cfg (Rtable.init size) (sets.map .set) = some t ∧
      ∀ addr, t.findRoute cfg addr = some ((rtableFindRoute cfg routes addr).map Route.slot) := by
  obtain ⟨t, run, bounded, entries⟩ := fits.run
  have stored (slot : RouteSlot) (member : slot ∈ t.entries) : slot ∈ Set.range Route.slot := by
    rw [entries] at member
    obtain none | arrived := mem_putAll member
    · contradiction
    · obtain ⟨ifc, given⟩ := Option.ne_none_iff_exists'.mp (setSlots_iface arrived)
      refine ⟨⟨slot.address, slot.netmask, slot.via, ifc⟩, ?_⟩
      rw [Route.slot, ← given]
  obtain ⟨routes, holds⟩ : t.entries ∈ Set.range (List.map Route.slot) := by
    rw [Set.range_list_map]
    exact stored
  exact ⟨t, routes, run, bounded.findRoute_routes routes holds.symm⟩

end Libcsp

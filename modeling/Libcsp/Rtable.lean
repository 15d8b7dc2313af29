/-
This file models the routing table of csp_rtable_cidr.c: a static array and its fill count.
An access outside the array has no defined result, so the functions return an option.
-/
import Libcsp.Iface
import Libcsp.Lib.BestMatch
import Libcsp.Lib.BitField
import Libcsp.Lib.KeyedList
import Mathlib.Data.Finset.Card

namespace Libcsp
open KeyedList

theorem idGetHostBits_le (cfg : Config) : idGetHostBits cfg ≤ 14 := by
  rw [idGetHostBits]
  split <;> decide

/-- One slot of the array. A slot that no call has filled holds zeros and a NULL interface. -/
structure RouteSlot where
  address : UInt16 := 0
  netmask : UInt16 := 0
  via : UInt16 := 0
  iface : Option Nat := none
  deriving DecidableEq, Repr

/-- An address and the length of its network part. -/
abbrev RouteKey := UInt16 × UInt16

def RouteSlot.key (slot : RouteSlot) : RouteKey := (slot.address, slot.netmask)

/-- The static array `rtable` of `CSP_RTABLE_SIZE` slots and its fill count `rtable_inptr`. -/
structure Rtable (size : Nat) where
  slots : List RouteSlot
  slots_length : slots.length = size
  inptr : Nat

/-- The table of a node that starts. -/
def Rtable.init (size : Nat) : Rtable size where
  slots := List.replicate size {}
  slots_length := List.length_replicate
  inptr := 0

namespace Rtable

variable {size : Nat}

/-- A load outside the array has no result. -/
def read (t : Rtable size) (index : Nat) : Option RouteSlot := t.slots[index]?

/-- A store outside the array has no result. -/
def write (t : Rtable size) (index : Nat) (slot : RouteSlot) (inptr : Nat) : Option (Rtable size) :=
  if index < size then
    some { slots := t.slots.set index slot, slots_length := by rw [List.length_set, t.slots_length], inptr }
  else none

/-- The loop of `csp_rtable_find_exact` over the remaining indices. -/
def findExactFrom (t : Rtable size) (addr netmask : UInt16) : List Nat → Option (Option Nat)
  | [] => some none
  | i :: rest => do
      let slot ← t.read i
      if slot.address = addr ∧ slot.netmask = netmask then some (some i) else t.findExactFrom addr netmask rest

/-- This is `csp_rtable_find_exact`. It returns the index of the entry. -/
def findExact (t : Rtable size) (addr netmask : UInt16) : Option (Option Nat) :=
  t.findExactFrom addr netmask (List.range' 0 t.inptr)

end Rtable

/-- The network part of the address equals the network of the slot. -/
def RouteSlot.covers (cfg : Config) (addr : UInt16) (slot : RouteSlot) : Bool :=
  let hostbits := UInt16.ofNat (2 ^ (idGetHostBits cfg - slot.netmask.toNat) - 1)
  slot.address &&& ~~~hostbits == addr &&& ~~~hostbits

namespace Rtable

variable {size : Nat}

/-- The loop of `csp_rtable_find_route` with the best index and its netmask. -/
def findRouteFrom (cfg : Config) (t : Rtable size) (addr : UInt16) :
    Option Nat → UInt16 → List Nat → Option (Option RouteSlot)
  | none, _, [] => some none
  | some best, _, [] => do
      let slot ← t.read best
      some (some slot)
  | best, mask, i :: rest => do
      let slot ← t.read i
      if slot.covers cfg addr && slot.netmask ≥ mask then t.findRouteFrom cfg addr (some i) slot.netmask rest
      else t.findRouteFrom cfg addr best mask rest

/-- This is `csp_rtable_find_route`. It returns the content of the entry. -/
def findRoute (cfg : Config) (t : Rtable size) (addr : UInt16) : Option (Option RouteSlot) :=
  t.findRouteFrom cfg addr none 0 (List.range' 0 t.inptr)

/-- This is `csp_rtable_set_internal`. -/
def setInternal (t : Rtable size) (slot : RouteSlot) : Option (Rtable size) := do
  let entry ← t.findExact slot.address slot.netmask
  if let some i := entry then t.write i slot t.inptr
  else
    -- The source compares the count after the increment and assigns the value that it has.
    t.write t.inptr slot (if t.inptr + 1 = size then size else t.inptr + 1)

/-- This is `csp_rtable_free`. It leaves the fill count. -/
def free (t : Rtable size) : Rtable size :=
  { t with slots := List.replicate size {}, slots_length := List.length_replicate }

/-- This is `csp_rtable_clear`. -/
def clear (t : Rtable size) : Rtable size := t.free

/-- The netmask that `csp_rtable_set` stores. -/
def effectiveNetmask (cfg : Config) (netmask : Int) : Int :=
  if netmask < 0 ∨ netmask > idGetHostBits cfg then idGetHostBits cfg else netmask

/-- This is `csp_rtable_set`. -/
def set (cfg : Config) (t : Rtable size) (address : UInt16) (netmask : Int) (ifc : Option Nat) (via : UInt16) :
    Option (CspErr × Rtable size) :=
  let netmask := effectiveNetmask cfg netmask
  if ifc = none ∨ netmask > idGetHostBits cfg then some (.inval, t)
  else do
    let next ← t.setInternal { address, netmask := UInt16.ofNat netmask.toNat, via, iface := ifc }
    some (.none, next)

/-- The loop of `csp_rtable_iterate`. It lists the entries that the callback gets. -/
def iterateFrom (t : Rtable size) : List Nat → Option (List RouteSlot)
  | [] => some []
  | i :: rest => do
      let slot ← t.read i
      let others ← t.iterateFrom rest
      some (slot :: others)

/-- This is `csp_rtable_iterate`. -/
def iterate (t : Rtable size) : Option (List RouteSlot) := t.iterateFrom (List.range' 0 t.inptr)

end Rtable

/-- The arguments of one call of `csp_rtable_set`. -/
structure RouteSet where
  address : UInt16
  netmask : Int
  ifc : Option Nat
  via : UInt16
  deriving DecidableEq, Repr

/-- One call that changes the table. -/
inductive RtableCall where
  | set (args : RouteSet)
  | clear
  | free
  deriving DecidableEq, Repr

def rtableCall {size : Nat} (cfg : Config) (t : Rtable size) : RtableCall → Option (Rtable size)
  | .set args => (t.set cfg args.address args.netmask args.ifc args.via).map Prod.snd
  | .clear => some t.clear
  | .free => some t.free

/-- A run of calls stops at the first access outside the array. -/
def rtableRun {size : Nat} (cfg : Config) : Rtable size → List RtableCall → Option (Rtable size)
  | t, [] => some t
  | t, call :: rest => (rtableCall cfg t call).bind fun next => rtableRun cfg next rest

/-! ## The entries -/

namespace Rtable

variable {size : Nat} {cfg : Config} {t : Rtable size}

/-- The slots below the fill count. -/
def entries (t : Rtable size) : List RouteSlot := t.slots.take t.inptr

/-- The fill count stays inside the array. -/
def Bounded (t : Rtable size) : Prop := t.inptr ≤ size

theorem Bounded.length_entries (bounded : t.Bounded) : t.entries.length = t.inptr := by
  rw [entries, List.length_take, t.slots_length, Nat.min_eq_left bounded]

theorem read_eq {index : Nat} (inside : index < t.slots.length) :
    t.read index = some (t.slots[index]) := List.getElem?_eq_getElem inside

/-- The next slot of a loop over the array is the head of the slots ahead. -/
theorem take_drop_succ {start count : Nat} (inside : start < t.slots.length) :
    (t.slots.drop start).take (count + 1) = t.slots[start] :: (t.slots.drop (start + 1)).take count := by
  rw [List.drop_eq_getElem_cons inside, List.take_succ_cons]

theorem findExactFrom_eq (addr netmask : UInt16) {start count : Nat} (inside : start + count ≤ size) :
    t.findExactFrom addr netmask (List.range' start count) =
      some ((((t.slots.drop start).take count).findIdx? fun slot => slot.key = (addr, netmask)).map (start + ·)) := by
  induction count generalizing start with
  | zero => simp [findExactFrom]
  | succ count ih =>
      have here : start < t.slots.length := by
        rw [t.slots_length]
        omega
      have rest := ih (show start + 1 + count ≤ size by omega)
      rw [List.range'_succ, findExactFrom, read_eq here, take_drop_succ here, List.findIdx?_cons,
        Option.bind_eq_bind, Option.bind_some, rest]
      by_cases same : t.slots[start].address = addr ∧ t.slots[start].netmask = netmask
      · simp [same, RouteSlot.key]
      · rw [if_neg same, if_neg (by simpa [RouteSlot.key] using same), Option.map_map]
        congr 2
        funext index
        simp only [Function.comp_apply]
        omega

/-- The search for the exact key looks at the entries only. -/
theorem Bounded.findExact_eq (bounded : t.Bounded) (addr netmask : UInt16) :
    t.findExact addr netmask = some (t.entries.findIdx? fun slot => slot.key = (addr, netmask)) := by
  have loop := findExactFrom_eq (t := t) addr netmask (show 0 + t.inptr ≤ size by rwa [Nat.zero_add])
  rw [findExact, loop, List.drop_zero, entries]
  simp

theorem findRouteFrom_eq (addr : UInt16) {best : Option Nat} {known : Option RouteSlot} {mask : UInt16}
    {start count : Nat} (inside : start + count ≤ size) (bestKnown : best.bind t.read = known)
    (bestSome : best.isSome = known.isSome) :
    t.findRouteFrom cfg addr best mask (List.range' start count) =
      some (BestMatch.search (RouteSlot.covers cfg addr) (fun slot => slot.netmask.toNat) known mask.toNat
        ((t.slots.drop start).take count)) := by
  induction count generalizing start best known mask with
  | zero =>
      cases best with
      | none =>
          obtain rfl : none = known := bestKnown
          simp [findRouteFrom, BestMatch.search]
      | some index =>
          obtain ⟨slot, rfl⟩ := Option.isSome_iff_exists.mp (bestSome.symm.trans rfl)
          have loaded : t.read index = some slot := bestKnown
          simp [findRouteFrom, BestMatch.search, loaded]
  | succ count ih =>
      have here : start < t.slots.length := by
        rw [t.slots_length]
        omega
      have rest : start + 1 + count ≤ size := by omega
      rw [List.range'_succ, findRouteFrom, read_eq here, take_drop_succ here, BestMatch.search,
        Option.bind_eq_bind, Option.bind_some]
      have order : (decide (t.slots[start].netmask ≥ mask)) =
          decide (mask.toNat ≤ t.slots[start].netmask.toNat) :=
        decide_eq_decide.mpr UInt16.le_iff_toNat_le
      rw [order]
      split
      · exact ih rest (read_eq here) rfl
      · exact ih rest bestKnown bestSome

/-- The lookup is the search for the longest match among the entries. -/
theorem Bounded.findRoute_eq (bounded : t.Bounded) (addr : UInt16) :
    t.findRoute cfg addr =
      some (BestMatch.search (RouteSlot.covers cfg addr) (fun slot => slot.netmask.toNat) none 0 t.entries) := by
  have inside : 0 + t.inptr ≤ size := by rwa [Nat.zero_add]
  exact findRouteFrom_eq addr inside rfl rfl

theorem iterateFrom_eq {start count : Nat} (inside : start + count ≤ size) :
    t.iterateFrom (List.range' start count) = some ((t.slots.drop start).take count) := by
  induction count generalizing start with
  | zero => simp [iterateFrom]
  | succ count ih =>
      have here : start < t.slots.length := by
        rw [t.slots_length]
        omega
      rw [List.range'_succ, iterateFrom, read_eq here, take_drop_succ here,
        ih (show start + 1 + count ≤ size by omega)]
      rfl

/-- The iteration visits the entries. -/
theorem Bounded.iterate_eq (bounded : t.Bounded) : t.iterate = some t.entries :=
  iterateFrom_eq (show 0 + t.inptr ≤ size by rwa [Nat.zero_add])

/-! ## Effects on the entries -/

theorem init_bounded (size : Nat) : (Rtable.init size).Bounded := Nat.zero_le size

theorem init_entries : (Rtable.init size).entries = [] := rfl

theorem Bounded.clear (bounded : t.Bounded) : t.clear.Bounded := bounded

/-- A clear turns each entry into zeros and keeps their number. -/
theorem Bounded.clear_entries (bounded : t.Bounded) :
    t.clear.entries = t.entries.map fun _ => ({} : RouteSlot) := by
  rw [List.map_const', bounded.length_entries, entries, Rtable.clear, free, List.take_replicate,
    Nat.min_eq_left bounded]

theorem write_eq {index : Nat} (inside : index < size) (slot : RouteSlot) (inptr : Nat) :
    ∃ next, t.write index slot inptr = some next ∧ next.slots = t.slots.set index slot ∧ next.inptr = inptr := by
  rw [write, if_pos inside]
  exact ⟨_, rfl, rfl, rfl⟩

/-- A set of a known key, or of a new key on a table with room, puts the entry. -/
theorem Bounded.setInternal_some (bounded : t.Bounded) {slot : RouteSlot}
    (room : slot.key ∈ t.entries.map RouteSlot.key ∨ t.inptr < size) :
    ∃ next, t.setInternal slot = some next ∧ next.Bounded ∧
      next.entries = put RouteSlot.key slot t.entries := by
  have length := bounded.length_entries
  rw [setInternal, bounded.findExact_eq]
  cases found : t.entries.findIdx? fun other => other.key = (slot.address, slot.netmask) with
  | some index =>
      obtain ⟨inside, stored⟩ := @set_eq_store _ _ _ t.entries RouteSlot.key slot _ found
      have known : (lookup RouteSlot.key slot.key t.entries).isSome := by
        rw [Option.isSome_iff_ne_none]
        intro missing
        rw [← findIdx_eq_none RouteSlot.key] at missing
        cases found.symm.trans missing
      obtain ⟨next, written, slots, inptr⟩ := write_eq (t := t)
        (show index < size from Nat.lt_of_lt_of_le (length ▸ inside) bounded) slot t.inptr
      refine ⟨next, written, by rwa [Bounded, inptr], ?_⟩
      rw [entries, slots, inptr, List.take_set, put, if_pos known, ← stored, entries]
  | none =>
      have missing := (findIdx_eq_none RouteSlot.key slot).mp found
      have free : t.inptr < size := by
        obtain known | free := room
        · rw [← lookup_isSome, missing] at known
          cases known
        · exact free
      obtain ⟨next, written, slots, inptr⟩ := write_eq (t := t) free slot (t.inptr + 1)
      have count : (if t.inptr + 1 = size then size else t.inptr + 1) = t.inptr + 1 := by
        split
        · rename_i full
          exact full.symm
        · rfl
      refine ⟨next, ?_, ?_, ?_⟩
      · rw [← written]
        simp only [Option.bind_eq_bind, Option.bind_some, count]
      · rwa [Bounded, inptr]
      · have inside : t.inptr < t.slots.length := by rwa [t.slots_length]
        rw [entries, slots, inptr, put, missing, if_neg (by simp), entries, List.take_add_one,
          List.take_set_of_le (Nat.le_refl _), List.getElem?_set_self inside]
        rfl

/-- A set of a new key on a full table writes behind the array. -/
theorem Bounded.setInternal_none (bounded : t.Bounded) {slot : RouteSlot}
    (fresh : slot.key ∉ t.entries.map RouteSlot.key) (full : t.inptr = size) : t.setInternal slot = none := by
  have missing : t.entries.findIdx? (fun other => other.key = (slot.address, slot.netmask)) = none := by
    have absent : lookup RouteSlot.key slot.key t.entries = none := by
      rw [← Option.not_isSome_iff_eq_none, lookup_isSome]
      exact fresh
    exact (findIdx_eq_none RouteSlot.key slot).mpr absent
  rw [setInternal, bounded.findExact_eq, missing]
  simp [write, full]

end Rtable
end Libcsp

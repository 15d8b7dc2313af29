/-
This file models the registration of interfaces in csp_iflist.c.
-/
import Libcsp.Lib.LinkedList
import Libcsp.RtableStdio

namespace Libcsp
open LinkedList

/-- The variable `interfaces` and the field `next` of each interface. -/
structure IfaceLinks where
  interfaces : Option Nat
  next : Nat → Option Nat

/-- The registered interfaces in their order. -/
def IfaceLinks.Registers (links : IfaceLinks) (ifaces : List Nat) : Prop :=
  Linked links.next links.interfaces ifaces

instance (links : IfaceLinks) (ifaces : List Nat) : Decidable (links.Registers ifaces) :=
  inferInstanceAs (Decidable (Linked links.next links.interfaces ifaces))

def IfaceLinks.setNext (links : IfaceLinks) (ifc : Nat) (next : Option Nat) : IfaceLinks :=
  { links with next := Function.update links.next ifc next }

@[simp] theorem IfaceLinks.setNext_interfaces (links : IfaceLinks) (ifc : Nat) (next : Option Nat) :
    (links.setNext ifc next).interfaces = links.interfaces := rfl

@[simp] theorem IfaceLinks.setNext_next (links : IfaceLinks) (ifc : Nat) (next : Option Nat) :
    (links.setNext ifc next).next = Function.update links.next ifc next := rfl

/-- `strncmp` finds no difference in the first `CSP_IFLIST_NAME_MAX` characters. -/
def sameName (name : Nat → List Char) (ifc i : Nat) : Bool := (name ifc).take 10 == (name i).take 10

/-- The condition of the loop of `csp_iflist_add`. -/
def iflistTakes (name : Nat → List Char) (ifc i : Nat) : Bool := i == ifc || sameName name ifc i

/-- The loop ends at a match or behind the last interface. -/
inductive AddScan where
  | already
  | ends (last : Option Nat)
  deriving DecidableEq, Repr

/-- The loop of `csp_iflist_add`. The number bounds its steps. -/
def iflistAddLoop (name : Nat → List Char) (next : Nat → Option Nat) (ifc : Nat) :
    Nat → Option Nat → Option Nat → Option AddScan
  | _, none, last => some (.ends last)
  | 0, some _, _ => none
  | steps + 1, some i, _ =>
      if iflistTakes name ifc i then some .already else iflistAddLoop name next ifc steps (next i) (some i)

/-- This is `csp_iflist_add`. A loop without end and a store through NULL have no result. -/
def iflistAdd (name : Nat → List Char) (steps ifc : Nat) (links : IfaceLinks) : Option (CspErr × IfaceLinks) :=
  let links := links.setNext ifc none
  match links.interfaces with
  | none => some (.none, { links with interfaces := some ifc })
  | some first =>
      match iflistAddLoop name links.next ifc steps (some first) none with
      | none => none
      | some .already => some (.already, links)
      | some (.ends none) => none
      | some (.ends (some last)) => some (.none, links.setNext last (some ifc))

/-- The interfaces are added one after the other. -/
def iflistAddAll (name : Nat → List Char) (steps : Nat) : List Nat → IfaceLinks → Option IfaceLinks
  | [], links => some links
  | ifc :: rest, links => (iflistAdd name steps ifc links).bind fun result => iflistAddAll name steps rest result.2

/-- The loop of `csp_iflist_get_by_name`. -/
def iflistGetByNameLoop (names : Nat → List Char) (next : Nat → Option Nat) (name : List Char) :
    Nat → Option Nat → Option (Option Nat)
  | _, none => some none
  | 0, some _ => none
  | steps + 1, some ifc =>
      if (names ifc).take 10 == name.take 10 then some (some ifc)
      else iflistGetByNameLoop names next name steps (next ifc)

variable {name : Nat → List Char} {links : IfaceLinks} {ifaces : List Nat} {ifc steps : Nat}

/-! ## The list -/

/-- The list form of the loops: the search by name is the search in the list of the interfaces. -/
theorem iflistGetByName_list (registered : links.Registers ifaces) (text : List Char)
    (enough : ifaces.length ≤ steps) :
    iflistGetByNameLoop name links.next text steps links.interfaces =
      some (IfaceNames.getByName ⟨ifaces, name⟩ text) := by
  unfold IfaceLinks.Registers at registered
  generalize links.interfaces = start at registered
  induction ifaces generalizing start steps with
  | nil =>
      obtain rfl : start = none := registered
      cases steps <;> rfl
  | cons head rest ih =>
      obtain ⟨rfl, behind⟩ := registered
      obtain ⟨more, rfl⟩ := Nat.exists_eq_add_one_of_ne_zero (Nat.ne_zero_of_lt enough)
      rw [iflistGetByNameLoop, IfaceNames.getByName, List.find?_cons]
      by_cases same : (name head).take 10 == text.take 10
      · rw [if_pos same, same]
      · rw [if_neg same, ih (Nat.le_of_succ_le_succ enough) _ behind]
        simp only [Bool.not_eq_true] at same
        rw [same]
        rfl

/-- The interface or one with its name is in the list. -/
def Taken (name : Nat → List Char) (ifaces : List Nat) (ifc : Nat) : Prop :=
  ∃ i ∈ ifaces, i = ifc ∨ (name ifc).take 10 = (name i).take 10

instance : Decidable (Taken name ifaces ifc) :=
  inferInstanceAs (Decidable (∃ i ∈ ifaces, i = ifc ∨ (name ifc).take 10 = (name i).take 10))

theorem Taken.of_mem (member : ifc ∈ ifaces) : Taken name ifaces ifc := ⟨ifc, member, .inl rfl⟩

theorem taken_cons (head : Nat) :
    Taken name (head :: ifaces) ifc ↔ iflistTakes name ifc head = true ∨ Taken name ifaces ifc := by
  simp [Taken, iflistTakes, sameName]

/-- The loop finds the taken interface or the last interface of the list. -/
theorem iflistAddLoop_list {next : Nat → Option Nat} {start : Option Nat} (linked : Linked next start ifaces)
    (enough : ifaces.length ≤ steps) (last : Option Nat) :
    iflistAddLoop name next ifc steps start last =
      some (if Taken name ifaces ifc then .already else .ends (ifaces.getLast?.or last)) := by
  induction ifaces generalizing start steps last with
  | nil =>
      obtain rfl : start = none := linked
      cases steps <;> simp [iflistAddLoop, Taken]
  | cons head rest ih =>
      obtain ⟨rfl, behind⟩ := linked
      obtain ⟨more, rfl⟩ := Nat.exists_eq_add_one_of_ne_zero (Nat.ne_zero_of_lt enough)
      rw [iflistAddLoop]
      by_cases takes : iflistTakes name ifc head = true
      · rw [if_pos takes, if_pos ((taken_cons head).mpr (.inl takes))]
      · rw [if_neg takes, ih behind (Nat.le_of_succ_le_succ enough)]
        have same : Taken name (head :: rest) ifc ↔ Taken name rest ifc := by
          rw [taken_cons, or_iff_right takes]
        simp only [same]
        rw [List.getLast?_cons]
        cases rest.getLast? <;> rfl

/-! ## One call -/

/-- The list after the registration of the interface. -/
def register (name : Nat → List Char) (ifaces : List Nat) (ifc : Nat) : List Nat :=
  if Taken name ifaces ifc then ifaces else ifaces ++ [ifc]

/-- The call returns `CSP_ERR_ALREADY` and leaves the list of a taken interface, and it adds any other to the end. -/
def AddsAtEnd (name : Nat → List Char) (steps : Nat) (ifaces : List Nat) (ifc : Nat) (links : IfaceLinks) : Prop :=
  ∃ err after, iflistAdd name steps ifc links = some (err, after) ∧
    err = (if Taken name ifaces ifc then .already else .none) ∧ after.Registers (register name ifaces ifc)

theorem iflistAdd_foreign (registered : links.Registers ifaces) (foreign : ifc ∉ ifaces)
    (enough : ifaces.length ≤ steps) : AddsAtEnd name steps ifaces ifc links := by
  have kept : (links.setNext ifc none).Registers ifaces := (Linked.update foreign).mpr registered
  cases start : links.interfaces with
  | none =>
      obtain rfl : ifaces = [] := by
        apply registered.unique
        exact start
      refine ⟨.none, ⟨some ifc, Function.update links.next ifc none⟩, ?_, ?_, ?_⟩
      · simp [iflistAdd, start]
      · simp [Taken]
      · simp [register, Taken, IfaceLinks.Registers, Linked]
  | some first =>
      have scan := @iflistAddLoop_list name _ ifc _ _ _ kept enough none
      rw [IfaceLinks.setNext_interfaces, start] at scan
      by_cases taken : Taken name ifaces ifc
      · refine ⟨.already, links.setNext ifc none, ?_, (if_pos taken).symm, ?_⟩
        · simp only [iflistAdd, IfaceLinks.setNext_interfaces, start, scan, if_pos taken]
        · rw [register, if_pos taken]
          exact kept
      · obtain ⟨front, last, rfl⟩ : ∃ front last, ifaces = front ++ [last] := by
          cases ifaces using List.reverseRecOn with
          | nil => cases start.symm.trans registered
          | append_singleton front last _ => exact ⟨front, last, rfl⟩
        refine ⟨.none, (links.setNext ifc none).setNext last (some ifc), ?_, (if_neg taken).symm, ?_⟩
        · rw [if_neg taken, List.getLast?_concat] at scan
          simp only [iflistAdd, IfaceLinks.setNext_interfaces, start, scan, Option.some_or]
        · rw [register, if_neg taken]
          apply Linked.append kept foreign
          rw [IfaceLinks.setNext_next, Function.update_self]

/-- The call cuts the list behind a registered interface. -/
theorem iflistAdd_member {front back : List Nat} (registered : links.Registers (front ++ ifc :: back))
    (enough : front.length + 1 ≤ steps) :
    ∃ after, iflistAdd name steps ifc links = some (.already, after) ∧ after.Registers (front ++ [ifc]) := by
  have cut : (links.setNext ifc none).Registers (front ++ [ifc]) := registered.cut
  have taken : Taken name (front ++ [ifc]) ifc := .of_mem (by simp)
  have scan := @iflistAddLoop_list name _ ifc steps _ _ cut (by simpa using enough) none
  rw [if_pos taken] at scan
  refine ⟨links.setNext ifc none, ?_, cut⟩
  cases start : links.interfaces with
  | none =>
      exfalso
      rw [IfaceLinks.Registers, start] at registered
      cases front <;> cases registered.1
  | some first =>
      rw [IfaceLinks.setNext_interfaces, start] at scan
      simp only [iflistAdd, IfaceLinks.setNext_interfaces, start, scan]

/-- A registered interface is the last one of the list. -/
def EndsList (ifaces : List Nat) (ifc : Nat) : Prop := ifc ∈ ifaces → ifaces.getLast? = some ifc

instance : Decidable (EndsList ifaces ifc) := inferInstanceAs (Decidable (ifc ∈ ifaces → _))

theorem addsAtEnd_iff (registered : links.Registers ifaces) (enough : ifaces.length ≤ steps) :
    AddsAtEnd name steps ifaces ifc links ↔ EndsList ifaces ifc := by
  by_cases member : ifc ∈ ifaces
  · obtain ⟨front, back, rfl⟩ := List.append_of_mem member
    have taken : Taken name (front ++ ifc :: back) ifc := .of_mem member
    have reaches : front.length + 1 ≤ steps := by
      simp only [List.length_append, List.length_cons] at enough
      omega
    obtain ⟨after, call, cut⟩ := @iflistAdd_member name _ _ _ _ _ registered reaches
    rw [EndsList, imp_iff_right member, Linked.getLast_iff registered]
    constructor
    · rintro ⟨err, result, again, -, whole⟩
      obtain ⟨rfl, rfl⟩ := Prod.mk.inj (Option.some.inj (again.symm.trans call))
      rw [register, if_pos taken] at whole
      simpa using (congrArg List.length (whole.unique cut))
    · rintro rfl
      refine ⟨.already, after, call, (if_pos taken).symm, ?_⟩
      rw [register, if_pos taken]
      exact cut
  · exact ⟨fun _ inside => absurd inside member, fun _ => iflistAdd_foreign registered member enough⟩

/-! ## A sequence of calls -/

/-- The list after the registration of the interfaces. -/
def registerAll (name : Nat → List Char) (ifaces ifcs : List Nat) : List Nat := ifcs.foldl (register name) ifaces

theorem registerAll_concat (ifcs : List Nat) :
    registerAll name ifaces (ifcs ++ [ifc]) = register name (registerAll name ifaces ifcs) ifc := by
  rw [registerAll, List.foldl_concat]
  rfl

theorem length_registerAll (ifcs : List Nat) :
    (registerAll name ifaces ifcs).length ≤ ifaces.length + ifcs.length := by
  induction ifcs using List.reverseRecOn with
  | nil => exact Nat.le_refl _
  | append_singleton front ifc ih =>
      rw [registerAll_concat, register, List.length_append, List.length_singleton]
      split
      · omega
      · rw [List.length_append, List.length_singleton]
        omega

theorem iflistAddAll_concat (ifcs : List Nat) :
    iflistAddAll name steps (ifcs ++ [ifc]) links =
      (iflistAddAll name steps ifcs links).bind fun before => (iflistAdd name steps ifc before).map Prod.snd := by
  induction ifcs generalizing links with
  | nil =>
      rw [List.nil_append, iflistAddAll, iflistAddAll, Option.bind_some]
      cases iflistAdd name steps ifc links <;> rfl
  | cons head rest ih =>
      rw [List.cons_append, iflistAddAll, iflistAddAll]
      cases iflistAdd name steps head links with
      | none => rfl
      | some result => exact ih

/-- The call does its part for the list: the list grows at its end and holds each interface and each name once. -/
structure KeepsList (name : Nat → List Char) (steps : Nat) (ifaces : List Nat) (ifc : Nat)
    (links : IfaceLinks) : Prop where
  adds : AddsAtEnd name steps ifaces ifc links
  kept : ifaces <+: register name ifaces ifc
  distinct : (register name ifaces ifc).Nodup
  names : (ifaces.map fun i => (name i).take 10).Nodup →
    ((register name ifaces ifc).map fun i => (name i).take 10).Nodup

theorem AddsAtEnd.keepsList (adds : AddsAtEnd name steps ifaces ifc links) :
    KeepsList name steps ifaces ifc links := by
  obtain ⟨_, after, _, _, registered⟩ := id adds
  refine ⟨adds, ?_, Linked.nodup registered, ?_⟩
  · rw [register]
    split
    · exact List.prefix_rfl
    · exact List.prefix_append _ _
  · intro distinct
    rw [register]
    split
    · exact distinct
    · rename_i free
      rw [List.map_append, List.map_singleton, ← List.concat_eq_append]
      apply List.Nodup.concat _ distinct
      intro member
      obtain ⟨i, inside, same⟩ := List.mem_map.mp member
      exact free ⟨i, inside, .inr same.symm⟩

theorem AddsAtEnd.next {ifcs : List Nat} {before : IfaceLinks}
    (run : iflistAddAll name steps ifcs links = some before)
    (adds : AddsAtEnd name steps (registerAll name ifaces ifcs) ifc before) :
    ∃ after, iflistAddAll name steps (ifcs ++ [ifc]) links = some after ∧
      after.Registers (registerAll name ifaces (ifcs ++ [ifc])) := by
  obtain ⟨_, after, call, _, listed⟩ := adds
  refine ⟨after, ?_, ?_⟩
  · rw [iflistAddAll_concat, run, Option.bind_some, call]
    rfl
  · rw [registerAll_concat]
    exact listed

/-- A run whose calls end lists reaches the list of the registrations. -/
theorem iflistAddAll_registers (registered : links.Registers ifaces) (ifcs : List Nat)
    (enough : ifaces.length + ifcs.length ≤ steps)
    (ends : ∀ done ifc, done ++ [ifc] <+: ifcs → EndsList (registerAll name ifaces done) ifc) :
    ∃ after, iflistAddAll name steps ifcs links = some after ∧
      after.Registers (registerAll name ifaces ifcs) := by
  induction ifcs using List.reverseRecOn with
  | nil => exact ⟨links, rfl, registered⟩
  | append_singleton front ifc ih =>
      rw [List.length_append, List.length_singleton] at enough
      obtain ⟨before, run, listed⟩ := ih (by omega) fun done ifc inside =>
        ends done ifc (inside.trans (List.prefix_append _ _))
      have short := @length_registerAll name ifaces front
      have last := ends front ifc List.prefix_rfl
      exact ((addsAtEnd_iff listed (by omega)).mpr last).next run

/-- Each call of a sequence keeps the list exactly when no call registers an interface again that has a
successor in the list. -/
theorem iflistAdd_keepsList_iff (name : Nat → List Char) (steps : Nat) (links : IfaceLinks) (ifaces ifcs : List Nat)
    (registered : links.Registers ifaces) (enough : ifaces.length + ifcs.length ≤ steps) :
    (∀ done ifc, done ++ [ifc] <+: ifcs → ∃ before, iflistAddAll name steps done links = some before ∧
      KeepsList name steps (registerAll name ifaces done) ifc before) ↔
      ∀ done ifc, done ++ [ifc] <+: ifcs → EndsList (registerAll name ifaces done) ifc := by
  have bound {done : List Nat} {ifc : Nat} (inside : done ++ [ifc] <+: ifcs) :
      (registerAll name ifaces done).length ≤ steps := by
    have short := inside.length_le
    have grown := @length_registerAll name ifaces done
    rw [List.length_append] at short
    omega
  constructor
  · intro calls done ifc inside
    obtain ⟨before, run, keeps⟩ := calls done ifc inside
    have listed : before.Registers (registerAll name ifaces done) := by
      cases done using List.reverseRecOn with
      | nil =>
          obtain rfl := Option.some.inj run
          exact registered
      | append_singleton front last _ =>
          obtain ⟨first, start, earlier⟩ := calls front last ((List.prefix_append _ _).trans inside)
          obtain ⟨after, same, reached⟩ := earlier.adds.next start
          obtain rfl := Option.some.inj (run.symm.trans same)
          exact reached
    exact (addsAtEnd_iff listed (bound inside)).mp keeps.adds
  · intro ends done ifc inside
    have within : done <+: ifcs := (List.prefix_append _ _).trans inside
    have room : ifaces.length + done.length ≤ steps := by
      have short := within.length_le
      omega
    obtain ⟨before, run, listed⟩ := iflistAddAll_registers registered done room
      fun front last member => ends front last (member.trans within)
    exact ⟨before, run, ((addsAtEnd_iff listed (bound inside)).mpr (ends done ifc inside)).keepsList⟩

/-- The names of three interfaces. -/
def threeNames : Nat → List Char
  | 0 => loopbackName
  | 1 => ['C', 'A', 'N']
  | _ => ['K', 'I', 'S', 'S']

def threeLinks : IfaceLinks := ⟨some 0, fun i => if i < 2 then some (i + 1) else none⟩

/-- The last interface may be registered again. -/
theorem iflistAdd_keepsList_three :
    ∃ before, iflistAddAll threeNames 5 [2] threeLinks = some before ∧ KeepsList threeNames 5 [0, 1, 2] 2 before := by
  have ends : ∀ done ifc, done ++ [ifc] <+: [2, 2] → EndsList (registerAll threeNames [0, 1, 2] done) ifc := by
    intro done ifc inside
    rcases done with _ | ⟨first, _ | ⟨second, rest⟩⟩
    · obtain rfl : ifc = 2 := by simpa using inside
      decide
    · obtain ⟨rfl, rfl⟩ : first = 2 ∧ ifc = 2 := by simpa using inside
      decide
    · have short := inside.length_le
      simp at short
  exact (iflistAdd_keepsList_iff threeNames 5 threeLinks [0, 1, 2] [2, 2] (by decide) (by decide)).mpr ends [2] 2
    List.prefix_rfl

/-- A second registration of the loopback interface removes the other two. -/
theorem iflistAdd_loses_interfaces :
    ∃ links after, iflistAddAll threeNames 5 [0, 1, 2] ⟨none, fun _ => none⟩ = some links ∧
      links.Registers [0, 1, 2] ∧ iflistAdd threeNames 5 0 links = some (.already, after) ∧
      after.Registers [0] ∧ ¬after.Registers [0, 1, 2] :=
  ⟨_, _, rfl, by decide, rfl, by decide, by decide⟩

end Libcsp

/-
This file determines when a saved routing table loads again.
-/
import Libcsp.RouteText

namespace Libcsp
open Scan KeyedList

variable {cfg : Config} {size : Nat} {ifaces : IfaceNames}

/-- The names of the interface list are short and unique, without white space and commas. -/
structure IfaceNames.Registered (ifaces : IfaceNames) : Prop where
  short : ∀ ifc ∈ ifaces.interfaces, (ifaces.name ifc).length ≤ 10
  unique : ∀ first ∈ ifaces.interfaces, ∀ second ∈ ifaces.interfaces,
    ifaces.name first = ifaces.name second → first = second
  clear : ∀ ifc ∈ ifaces.interfaces, ∀ c ∈ ifaces.name ifc, isSpace c = false ∧ c ≠ ','

/-- The route has a valid address and an interface of the list, which is not the loopback interface. -/
structure RouteSet.Valid (cfg : Config) (ifaces : IfaceNames) (args : RouteSet) : Prop where
  address : args.address.toNat ≤ idGetMaxNodeid cfg
  iface : ∃ ifc ∈ ifaces.interfaces, args.ifc = some ifc ∧ ifaces.name ifc ≠ loopbackName

/-- The entry of such a route. -/
structure RouteSlot.Valid (cfg : Config) (ifaces : IfaceNames) (slot : RouteSlot) : Prop where
  address : slot.address.toNat ≤ idGetMaxNodeid cfg
  netmask : slot.netmask.toNat ≤ idGetHostBits cfg
  iface : ∃ ifc ∈ ifaces.interfaces, slot.iface = some ifc ∧ ifaces.name ifc ≠ loopbackName

theorem RouteSet.Valid.slot {args : RouteSet} (valid : args.Valid cfg ifaces) {slot : RouteSlot}
    (stores : args.slot cfg = some slot) : slot.Valid cfg ifaces := by
  obtain ⟨ifc, given, rfl⟩ := Option.map_eq_some_iff.mp stores
  have range := Rtable.effectiveNetmask_range cfg args.netmask
  have bits := idGetHostBits_le cfg
  refine ⟨valid.address, ?_, ?_⟩
  · have small : (Rtable.effectiveNetmask cfg args.netmask).toNat < 2 ^ 16 := by omega
    simp only [RouteSet.key, UInt16.toNat_ofNat_of_lt' small]
    omega
  · rw [← given]
    exact valid.iface

/-- The name of the interface of an entry. -/
def RouteSlot.name (ifaces : IfaceNames) (slot : RouteSlot) : List Char := slot.iface.elim [] ifaces.name

def RouteSlot.text (cfg : Config) (ifaces : IfaceNames) (slot : RouteSlot) : List Char :=
  entryText cfg (slot.name ifaces) slot

/-- The texts with commas between them. -/
def joined : List (List Char) → List Char
  | [] => []
  | text :: rest => text ++ rest.flatMap fun text => ',' :: text

/-! ## Saving -/

theorem RouteSlot.text_ne_nil (slot : RouteSlot) : slot.text cfg ifaces ≠ [] := by
  rw [text, entryText]
  simp [decimal_ne_nil]

/-- The saved text after one more entry. -/
def addText (saved text : List Char) : List Char := saved ++ (if saved.length = 0 then [] else [',']) ++ text

theorem foldl_addText {saved : List Char} (some : saved ≠ []) {texts : List (List Char)} (all : ∀ text ∈ texts, text ≠ []) :
    texts.foldl addText saved = saved ++ texts.flatMap fun text => ',' :: text := by
  induction texts generalizing saved with
  | nil => simp
  | cons text rest ih =>
      rw [List.forall_mem_cons] at all
      have added : addText saved text = saved ++ ',' :: text := by
        rw [addText, if_neg (by simpa using some), List.append_assoc, List.singleton_append]
      rw [List.foldl_cons, added, ih (by simp) all.2, List.flatMap_cons, List.append_assoc]

theorem foldl_addText_nil {texts : List (List Char)} (all : ∀ text ∈ texts, text ≠ []) :
    texts.foldl addText [] = joined texts := by
  cases texts with
  | nil => rfl
  | cons text rest =>
      rw [List.forall_mem_cons] at all
      rw [List.foldl_cons, show addText [] text = text from rfl, foldl_addText all.1 all.2, joined]

theorem foldl_texts (entries : List RouteSlot) :
    (entries.map (RouteSlot.text cfg ifaces)).foldl addText [] = joined (entries.map (RouteSlot.text cfg ifaces)) := by
  apply foldl_addText_nil
  intro text member
  obtain ⟨slot, -, rfl⟩ := List.mem_map.mp member
  exact slot.text_ne_nil

/-- One call of the callback appends the text, or it fails. -/
theorem rtableSaveRoute_eq {slot : RouteSlot} (valid : slot.Valid cfg ifaces) (maxlen : Nat) (ctx : SaveCtx) :
    ∃ rest, rtableSaveRoute cfg ifaces maxlen ctx slot =
      some (if (addText ctx.saved (slot.text cfg ifaces)).length ≥ maxlen then { ctx with rest, error := .nomem }
        else ⟨addText ctx.saved (slot.text cfg ifaces), [], ctx.error⟩) := by
  obtain ⟨ifc, -, given, named⟩ := valid.iface
  have name : slot.name ifaces = ifaces.name ifc := by rw [RouteSlot.name, given, Option.elim_some]
  refine ⟨snprintf (maxlen - ctx.saved.length)
    ((if ctx.saved.length = 0 then [] else [',']) ++ slot.text cfg ifaces), ?_⟩
  have added : addText ctx.saved (slot.text cfg ifaces) =
      ctx.saved ++ ((if ctx.saved.length = 0 then [] else [',']) ++ slot.text cfg ifaces) := by
    rw [addText, List.append_assoc]
  have room (text : List Char) : text.length ≥ maxlen - ctx.saved.length ↔ (ctx.saved ++ text).length ≥ maxlen := by
    rw [List.length_append]
    omega
  rw [rtableSaveRoute, given, Option.map_some, if_neg named, added, RouteSlot.text, name]
  simp only [← room]

theorem length_addText (saved text : List Char) : saved.length ≤ (addText saved text).length := by
  rw [addText, List.append_assoc, List.length_append]
  exact Nat.le_add_right _ _

theorem length_foldl_addText (saved : List Char) (texts : List (List Char)) :
    saved.length ≤ (texts.foldl addText saved).length := by
  induction texts generalizing saved with
  | nil => exact Nat.le_refl _
  | cons text rest ih => exact Nat.le_trans (length_addText saved text) (ih _)

/-- In a buffer with room each entry is saved. -/
theorem rtableSaveRoutes_room {entries : List RouteSlot} (valid : ∀ slot ∈ entries, slot.Valid cfg ifaces)
    {maxlen : Nat} {saved : List Char}
    (room : ((entries.map (RouteSlot.text cfg ifaces)).foldl addText saved).length < maxlen) :
    rtableSaveRoutes cfg ifaces maxlen ⟨saved, [], .none⟩ entries =
      some ⟨(entries.map (RouteSlot.text cfg ifaces)).foldl addText saved, [], .none⟩ := by
  induction entries generalizing saved with
  | nil => rfl
  | cons slot rest ih =>
      rw [List.forall_mem_cons] at valid
      obtain ⟨behind, step⟩ := rtableSaveRoute_eq valid.1 maxlen ⟨saved, [], .none⟩
      have fits : (addText saved (slot.text cfg ifaces)).length < maxlen :=
        Nat.lt_of_le_of_lt (length_foldl_addText _ (rest.map (RouteSlot.text cfg ifaces))) room
      rw [rtableSaveRoutes, step, Option.bind_some, if_neg (Nat.not_le_of_lt fits), ih valid.2 room]
      rfl

theorem rtableSaveRoutes_error {entries : List RouteSlot} (valid : ∀ slot ∈ entries, slot.Valid cfg ifaces)
    {maxlen : Nat} {ctx after : SaveCtx} (result : rtableSaveRoutes cfg ifaces maxlen ctx entries = some after)
    (failed : ctx.error ≠ .none) : after.error ≠ .none := by
  induction entries generalizing ctx with
  | nil =>
      obtain rfl := Option.some.inj result
      exact failed
  | cons slot rest ih =>
      rw [List.forall_mem_cons] at valid
      obtain ⟨behind, step⟩ := rtableSaveRoute_eq valid.1 maxlen ctx
      rw [rtableSaveRoutes, step, Option.bind_some] at result
      refine ih valid.2 result ?_
      split
      · exact CspErr.noConfusion
      · exact failed

/-- Without an error each entry is saved. -/
theorem rtableSaveRoutes_none {entries : List RouteSlot} (valid : ∀ slot ∈ entries, slot.Valid cfg ifaces)
    {maxlen : Nat} {saved : List Char} {after : SaveCtx}
    (result : rtableSaveRoutes cfg ifaces maxlen ⟨saved, [], .none⟩ entries = some after)
    (success : after.error = .none) :
    after = ⟨(entries.map (RouteSlot.text cfg ifaces)).foldl addText saved, [], .none⟩ := by
  induction entries generalizing saved with
  | nil => exact (Option.some.inj result).symm
  | cons slot rest ih =>
      rw [List.forall_mem_cons] at valid
      obtain ⟨behind, step⟩ := rtableSaveRoute_eq valid.1 maxlen ⟨saved, [], .none⟩
      rw [rtableSaveRoutes, step, Option.bind_some] at result
      split at result
      · exact absurd success (rtableSaveRoutes_error valid.2 result CspErr.noConfusion)
      · exact ih valid.2 result

/-- A buffer with room gets the text of all entries. -/
theorem rtableSave_room {t : Rtable size} (bounded : t.Bounded) (valid : ∀ slot ∈ t.entries, slot.Valid cfg ifaces) :
    rtableSave cfg ifaces t ((joined (t.entries.map (RouteSlot.text cfg ifaces))).length + 1) =
      some (.none, joined (t.entries.map (RouteSlot.text cfg ifaces))) := by
  rw [← foldl_texts]
  have saved := rtableSaveRoutes_room valid (Nat.lt_succ_self
    ((t.entries.map (RouteSlot.text cfg ifaces)).foldl addText []).length)
  rw [rtableSave, bounded.iterate_eq]
  simp only [Option.bind_eq_bind, Option.bind_some, saved, List.append_nil]

/-- A successful save gives the text of all entries. -/
theorem rtableSave_none {t : Rtable size} (bounded : t.Bounded) (valid : ∀ slot ∈ t.entries, slot.Valid cfg ifaces)
    {maxlen : Nat} {text : List Char} (result : rtableSave cfg ifaces t maxlen = some (.none, text)) :
    text = joined (t.entries.map (RouteSlot.text cfg ifaces)) := by
  rw [rtableSave, bounded.iterate_eq, Option.bind_eq_bind, Option.bind_some, Option.bind_eq_bind,
    Option.bind_eq_some_iff] at result
  obtain ⟨ctx, saved, returned⟩ := result
  obtain ⟨success, rfl⟩ := Prod.mk.inj (Option.some.inj returned)
  rw [rtableSaveRoutes_none valid saved success, List.append_nil, foldl_texts]

/-! ## The entries of a text -/

/-- The call that loads an entry. -/
def RouteSlot.call (slot : RouteSlot) : RouteSet := ⟨slot.address, slot.netmask.toNat, slot.iface, slot.via⟩

theorem RouteSlot.Valid.call_slot {slot : RouteSlot} (valid : slot.Valid cfg ifaces) :
    slot.call.slot cfg = some slot := by
  obtain ⟨ifc, -, given, -⟩ := valid.iface
  have kept : Rtable.effectiveNetmask cfg slot.netmask.toNat = slot.netmask.toNat := by
    have small := valid.netmask
    rw [Rtable.effectiveNetmask, if_neg (by omega)]
  rw [RouteSet.slot, RouteSet.key, call, kept, given, Int.toNat_natCast, UInt16.ofNat_toNat, Option.map_some, ← given]

theorem setSlots_calls {entries : List RouteSlot} (valid : ∀ slot ∈ entries, slot.Valid cfg ifaces) :
    setSlots cfg (entries.map RouteSlot.call) = entries := by
  rw [setSlots, List.filterMap_map]
  exact (List.filterMap_congr fun slot member => (valid slot member).call_slot).trans List.filterMap_some

namespace IfaceNames.Registered

variable (registered : ifaces.Registered)
include registered

/-- The lookup of a registered name finds its interface. -/
theorem getByName_name {ifc : Nat} (listed : ifc ∈ ifaces.interfaces) :
    ifaces.getByName (ifaces.name ifc) = some ifc := by
  cases found : ifaces.getByName (ifaces.name ifc) with
  | none =>
      rw [getByName, List.find?_eq_none] at found
      exact absurd (beq_self_eq_true _) (found ifc listed)
  | some other =>
      have member := List.mem_of_find?_eq_some found
      have same := List.find?_some found
      rw [beq_iff_eq, List.take_of_length_le (registered.short other member),
        List.take_of_length_le (registered.short ifc listed)] at same
      rw [registered.unique other member ifc listed same]

/-- A lookup compares the name of the interface with at most ten characters. -/
theorem getByName_take {name : List Char} {ifc : Nat} (found : ifaces.getByName name = some ifc) :
    ifc ∈ ifaces.interfaces ∧ ifaces.name ifc = name.take 10 := by
  have member := List.mem_of_find?_eq_some found
  have same := List.find?_some found
  rw [beq_iff_eq, List.take_of_length_le (registered.short ifc member)] at same
  exact ⟨member, same⟩

theorem word {slot : RouteSlot} (valid : slot.Valid cfg ifaces) (some : slot.name ifaces ≠ []) :
    Word (slot.name ifaces) := by
  obtain ⟨ifc, listed, given, -⟩ := valid.iface
  have name : slot.name ifaces = ifaces.name ifc := by rw [RouteSlot.name, given, Option.elim_some]
  refine ⟨⟨some, ?_⟩, ?_⟩
  · rw [name]
    exact fun c member => (registered.clear ifc listed c member).1
  · rw [name]
    exact Nat.le_trans (registered.short ifc listed) (by decide)

/-- The text of an entry has no comma. -/
theorem text_clear {slot : RouteSlot} (valid : slot.Valid cfg ifaces) : ',' ∉ slot.text cfg ifaces := by
  obtain ⟨ifc, listed, given, -⟩ := valid.iface
  have name : slot.name ifaces = ifaces.name ifc := by rw [RouteSlot.name, given, Option.elim_some]
  have digits (value : Nat) : ',' ∉ decimal value := fun member => absurd (isDigit_of_mem_decimal member) (by decide)
  rw [RouteSlot.text, entryText, maskStr_eq, viaStr_eq, name]
  simp only [List.mem_append, List.mem_cons, not_or]
  refine ⟨⟨digits _, ?_⟩, by decide, fun member => (registered.clear ifc listed ',' member).2 rfl, ?_⟩
  · split
    · rw [List.mem_cons, not_or]
      exact ⟨by decide, digits _⟩
    · exact List.not_mem_nil
  · split
    · rw [List.mem_cons, not_or]
      exact ⟨by decide, digits _⟩
    · exact List.not_mem_nil

end IfaceNames.Registered

/-- The tokens of the joined texts are the texts. -/
theorem tokens_joined {texts : List (List Char)} (all : ∀ text ∈ texts, text ≠ [] ∧ ',' ∉ text) :
    tokens ',' (joined texts) = texts := by
  cases texts with
  | nil => rfl
  | cons text rest =>
      rw [joined]
      induction rest generalizing text with
      | nil =>
          obtain ⟨some, clear⟩ := all text List.mem_cons_self
          rw [List.flatMap_nil, List.append_nil, tokens_single clear, if_neg some]
      | cons next rest ih =>
          rw [List.forall_mem_cons] at all
          rw [List.flatMap_cons, List.cons_append, tokens_cons all.1.2 all.1.1, ih next all.2]

/-! ## Loading -/

theorem RouteSlot.length_text (slot : RouteSlot) : 1 < (slot.text cfg ifaces).length := by
  have digits := List.length_pos_iff.mpr (decimal_ne_nil slot.address.toNat)
  rw [text, entryText, List.length_append, List.length_append, List.length_cons]
  omega

/-- The parser reads the text of an entry. -/
theorem IfaceNames.Registered.parse_text (registered : ifaces.Registered) {slot : RouteSlot}
    (valid : slot.Valid cfg ifaces) (some : slot.name ifaces ≠ []) (dryRun : Bool) (rest : List (List Char))
    (count : Nat) (t : Rtable size) :
    rtableParseTokens cfg ifaces dryRun (slot.text cfg ifaces :: rest) count t =
      if dryRun then rtableParseTokens cfg ifaces dryRun rest (count + 1) t
      else (rtableCall cfg t (.set slot.call)).bind (rtableParseTokens cfg ifaces dryRun rest (count + 1)) := by
  obtain ⟨ifc, listed, given, -⟩ := valid.iface
  have name : slot.name ifaces = ifaces.name ifc := by rw [RouteSlot.name, given, Option.elim_some]
  have parsed : parseEntry cfg (slot.text cfg ifaces) = _ := parseEntry_entryText slot (registered.word valid some)
  have checked : ¬(slot.address.toNat > idGetMaxNodeid cfg ∨ (slot.netmask.toNat : Int) > idGetHostBits cfg) := by
    have address := valid.address
    have netmask := valid.netmask
    omega
  have stored : t.set cfg slot.address slot.netmask.toNat (.some ifc) slot.via =
      (t.setInternal slot).map fun next => (.none, next) := by
    rw [← given]
    exact Rtable.set_eq valid.call_slot
  rw [rtableParseTokens, if_pos slot.length_text, parsed]
  simp only [name, registered.getByName_name listed, if_neg checked, UInt16.ofNat_toNat, stored,
    Rtable.set_some valid.call_slot]
  cases dryRun with
  | true => rfl
  | false => cases t.setInternal slot <;> rfl

/-- A check of the texts counts the entries. -/
theorem IfaceNames.Registered.check_texts (registered : ifaces.Registered) {entries : List RouteSlot}
    (valid : ∀ slot ∈ entries, slot.Valid cfg ifaces) (named : ∀ slot ∈ entries, slot.name ifaces ≠ [])
    (count : Nat) (t : Rtable size) :
    rtableParseTokens cfg ifaces true (entries.map (RouteSlot.text cfg ifaces)) count t =
      some (.ok (count + entries.length), t) := by
  induction entries generalizing count with
  | nil => rfl
  | cons slot rest ih =>
      rw [List.forall_mem_cons] at valid named
      rw [List.map_cons, registered.parse_text valid.1 named.1, if_pos rfl, ih valid.2 named.2, List.length_cons,
        Nat.add_assoc, Nat.add_comm 1]

/-- A load of the texts sets the entries. -/
theorem IfaceNames.Registered.load_texts (registered : ifaces.Registered) {entries : List RouteSlot}
    (valid : ∀ slot ∈ entries, slot.Valid cfg ifaces) (named : ∀ slot ∈ entries, slot.name ifaces ≠ [])
    (count : Nat) (t : Rtable size) :
    rtableParseTokens cfg ifaces false (entries.map (RouteSlot.text cfg ifaces)) count t =
      (rtableRun cfg t ((entries.map RouteSlot.call).map .set)).map fun after =>
        (.ok (count + entries.length), after) := by
  induction entries generalizing count t with
  | nil => rfl
  | cons slot rest ih =>
      rw [List.forall_mem_cons] at valid named
      rw [List.map_cons, registered.parse_text valid.1 named.1, if_neg Bool.false_ne_true, List.map_cons,
        List.map_cons, rtableRun, Option.map_bind]
      apply Option.bind_congr
      intro after _
      rw [ih valid.2 named.2, List.length_cons, Nat.add_assoc, Nat.add_comm 1]
      rfl

/-! ## What a load has read -/

/-- The parser reads the token as the arguments of a call. -/
def ReadsAs (cfg : Config) (ifaces : IfaceNames) (str : List Char) (args : RouteSet) : Prop :=
  ∃ route ifc, parseEntry cfg str = some route ∧ ifaces.getByName route.name = some ifc ∧
    args = ⟨UInt16.ofNat route.address, route.netmask, some ifc, UInt16.ofNat route.via⟩

/-- A load without an error has read its first tokens and set what they say. -/
theorem rtableParseTokens_ok {tokens : List (List Char)} {count result : Nat} {t after : Rtable size}
    (loaded : rtableParseTokens cfg ifaces false tokens count t = some (.ok result, after)) :
    ∃ done calls, done <+: tokens ∧ result = count + done.length ∧
      rtableRun cfg t (calls.map .set) = some after ∧ List.Forall₂ (ReadsAs cfg ifaces) done calls := by
  induction tokens generalizing count t with
  | nil =>
      obtain ⟨same, rfl⟩ := Prod.mk.inj (Option.some.inj loaded)
      exact ⟨[], [], List.prefix_rfl, (Except.ok.inj same).symm, rfl, .nil⟩
  | cons str rest ih =>
      rw [rtableParseTokens] at loaded
      split at loaded
      · cases parsed : parseEntry cfg str with
        | none =>
            rw [parsed] at loaded
            simp only at loaded
            split at loaded <;> cases loaded
        | some route =>
            rw [parsed] at loaded
            simp only at loaded
            cases found : ifaces.getByName route.name with
            | none =>
                rw [found] at loaded
                cases loaded
            | some ifc =>
                rw [found] at loaded
                simp only [Bool.false_eq_true, if_false] at loaded
                split at loaded
                · cases loaded
                · split at loaded
                  · cases loaded
                  · rename_i next stored
                    obtain ⟨done, calls, cut, length, run, reads⟩ := ih loaded
                    refine ⟨str :: done,
                      ⟨UInt16.ofNat route.address, route.netmask, some ifc, UInt16.ofNat route.via⟩ :: calls,
                      List.cons_prefix_cons.mpr ⟨rfl, cut⟩, ?_, ?_, .cons ⟨route, ifc, parsed, found, rfl⟩ reads⟩
                    · rw [length, List.length_cons, Nat.add_assoc, Nat.add_comm 1]
                    · rw [List.map_cons, rtableRun, rtableCall, stored]
                      exact run
                  · cases loaded
      · obtain ⟨same, rfl⟩ := Prod.mk.inj (Option.some.inj loaded)
        exact ⟨[], [], List.nil_prefix, (Except.ok.inj same).symm, rfl, .nil⟩

/-- A part of the joined texts has the first texts and a part of the next one as its tokens. -/
theorem tokens_cut {texts : List (List Char)} (all : ∀ text ∈ texts, text ≠ [] ∧ ',' ∉ text) {part : List Char}
    (cut : part <+: joined texts) (strict : part ≠ joined texts) :
    ∃ front text back rest, texts = front ++ text :: back ∧ rest <+: text ∧ (rest ≠ text ∨ back ≠ []) ∧
      tokens ',' part = front ++ (if rest = [] then [] else [rest]) := by
  cases texts with
  | nil => exact absurd (List.prefix_nil.mp cut) strict
  | cons text rest =>
      rw [joined] at cut strict
      induction rest generalizing text part with
      | nil =>
          rw [List.flatMap_nil, List.append_nil] at cut strict
          obtain ⟨-, clear⟩ := all text List.mem_cons_self
          exact ⟨[], text, [], part, rfl, cut, .inl strict, tokens_single fun member => clear (cut.subset member)⟩
      | cons next rest ih =>
          rw [List.flatMap_cons, List.cons_append] at cut strict
          rw [List.forall_mem_cons] at all
          obtain inText | ⟨more, rfl, cutMore⟩ := prefix_append_cases cut
          · exact ⟨[], text, next :: rest, part, rfl, inText, .inr (List.cons_ne_nil _ _),
              tokens_single fun member => all.1.2 (inText.subset member)⟩
          obtain rfl | ⟨more, rfl, cutNext⟩ := prefix_cons_cases cutMore
          · refine ⟨[], text, next :: rest, text, rfl, List.prefix_rfl, .inr (List.cons_ne_nil _ _), ?_⟩
            rw [List.append_nil, tokens_single all.1.2]
            rfl
          · obtain ⟨front, last, back, part, split, inside, short, found⟩ := ih next all.2 cutNext (by
              intro same
              rw [same] at strict
              exact strict rfl)
            refine ⟨text :: front, last, back, part, by rw [split]; rfl, inside, short, ?_⟩
            rw [tokens_cons all.1.2 all.1.1, found, List.cons_append]

/-! ## The round trip -/

/-- The printed length of an entry. -/
def RouteSlot.width (cfg : Config) (ifaces : IfaceNames) (slot : RouteSlot) : Nat :=
  (decimal slot.address.toNat).length +
    (if slot.netmask.toNat ≠ idGetHostBits cfg then 1 + (decimal slot.netmask.toNat).length else 0) +
      1 + (slot.name ifaces).length + (if slot.via ≠ noViaAddress then 1 + (decimal slot.via.toNat).length else 0)

/-- The printed length of the entries with the commas between them. -/
def printedLength (cfg : Config) (ifaces : IfaceNames) (entries : List RouteSlot) : Nat :=
  (entries.map (RouteSlot.width cfg ifaces)).sum + (entries.length - 1)

theorem length_text (slot : RouteSlot) : (slot.text cfg ifaces).length = slot.width cfg ifaces := by
  rw [RouteSlot.text, entryText, maskStr_eq, viaStr_eq, RouteSlot.width]
  simp only [List.length_append, List.length_cons]
  split <;> split <;> simp only [List.length_cons, List.length_nil] <;> omega

theorem length_joined (entries : List RouteSlot) :
    (joined (entries.map (RouteSlot.text cfg ifaces))).length = printedLength cfg ifaces entries := by
  cases entries with
  | nil => rfl
  | cons slot rest =>
      have others : ((rest.map (RouteSlot.text cfg ifaces)).flatMap fun text => ',' :: text).length =
          (rest.map (RouteSlot.width cfg ifaces)).sum + rest.length := by
        induction rest with
        | nil => rfl
        | cons next rest ih =>
            rw [List.map_cons, List.flatMap_cons, List.length_append, ih, List.length_cons, length_text,
              List.map_cons, List.sum_cons, List.length_cons]
            omega
      rw [List.map_cons, joined, List.length_append, others, length_text, printedLength, List.map_cons,
        List.sum_cons, List.length_cons, Nat.add_sub_cancel]
      omega

/-- When the save succeeds, the check counts the entries, and the load into an empty table gives the
same entries. -/
def RoundTrips (cfg : Config) (ifaces : IfaceNames) (t : Rtable size) : Prop :=
  ∀ maxlen text, rtableSave cfg ifaces t maxlen = some (.none, text) →
    rtableCheck cfg ifaces text t = some (.ok t.entries.length, t) ∧
      ∃ loaded : Rtable size, rtableLoad cfg ifaces text (Rtable.init size) = some (.ok t.entries.length, loaded) ∧
        loaded.iterate = t.iterate

/-- A run of sets from an empty table puts their entries. -/
theorem rtableRun_sets {sets : List RouteSet} {t : Rtable size}
    (run : rtableRun cfg (Rtable.init size) (sets.map .set) = some t) :
    t.Bounded ∧ t.entries = putAll RouteSlot.key [] (setSlots cfg sets) := by
  by_cases room : (contents cfg [] (sets.map .set)).length ≤ size
  · obtain ⟨after, runs, bounded, entries⟩ := rtableRun_some cfg (Rtable.init_bounded size) room
    obtain rfl := Option.some.inj (runs.symm.trans run)
    exact ⟨bounded, by rw [entries, Rtable.init_entries, contents_sets]⟩
  · have stopped := rtableRun_none (Rtable.init_bounded size) (Nat.lt_of_not_le room)
    cases stopped.symm.trans run

/-- Sets of distinct entries fill an empty table with them. -/
theorem rtableRun_calls {entries : List RouteSlot} (valid : ∀ slot ∈ entries, slot.Valid cfg ifaces)
    (distinct : Distinct RouteSlot.key entries) (room : entries.length ≤ size) :
    ∃ t, rtableRun cfg (Rtable.init size) ((entries.map RouteSlot.call).map .set) = some t ∧ t.Bounded ∧
      t.entries = entries := by
  have held : contents cfg [] ((entries.map RouteSlot.call).map .set) = entries := by
    rw [contents_sets, setSlots_calls valid]
    exact putAll_distinct distinct
  obtain ⟨t, run, bounded, same⟩ := rtableRun_some cfg (Rtable.init_bounded size)
    (show (contents cfg [] ((entries.map RouteSlot.call).map .set)).length ≤ size by rwa [held])
  exact ⟨t, run, bounded, by rw [same, Rtable.init_entries, held]⟩

/-- The parser reads the token as the entry. -/
def ReadsSlot (cfg : Config) (ifaces : IfaceNames) (str : List Char) (slot : RouteSlot) : Prop :=
  ∃ args, ReadsAs cfg ifaces str args ∧ args.slot cfg = some slot

theorem readsSlots {done : List (List Char)} {calls : List RouteSet}
    (reads : List.Forall₂ (ReadsAs cfg ifaces) done calls) :
    List.Forall₂ (ReadsSlot cfg ifaces) done (setSlots cfg calls) := by
  induction reads with
  | nil => exact .nil
  | cons head tail ih =>
      rename_i str args done calls
      obtain ⟨route, ifc, parsed, found, rfl⟩ := head
      exact .cons ⟨_, ⟨route, ifc, parsed, found, rfl⟩, rfl⟩ ih

/-- A load that gives the entries has read each of them. -/
theorem loaded_reads {t loaded : Rtable size} {tokens : List (List Char)} (bounded : t.Bounded)
    (result : rtableParseTokens cfg ifaces false tokens 0 (Rtable.init size) = some (.ok t.entries.length, loaded))
    (same : loaded.iterate = t.iterate) :
    ∃ done, done <+: tokens ∧ List.Forall₂ (ReadsSlot cfg ifaces) done t.entries := by
  obtain ⟨done, calls, cut, length, run, reads⟩ := rtableParseTokens_ok result
  obtain ⟨loadedBounded, entries⟩ := rtableRun_sets run
  rw [loadedBounded.iterate_eq, bounded.iterate_eq, entries] at same
  have all := Option.some.inj same
  have slots := readsSlots reads
  have full : (putAll RouteSlot.key [] (setSlots cfg calls)).length = (setSlots cfg calls).length := by
    rw [all, length, Nat.zero_add, slots.length_eq]
  rw [putAll_full full] at all
  exact ⟨done, cut, all ▸ slots⟩

section Reads

variable (registered : ifaces.Registered)
include registered

/-- An entry that was read has an interface with a name. -/
theorem ReadsSlot.named {str : List Char} {slot : RouteSlot} (reads : ReadsSlot cfg ifaces str slot) :
    slot.name ifaces ≠ [] := by
  obtain ⟨args, ⟨route, ifc, parsed, found, rfl⟩, stores⟩ := reads
  obtain rfl := Option.some.inj stores
  obtain ⟨-, same⟩ := registered.getByName_take found
  have name := parseEntry_name parsed
  intro empty
  have short : route.name.take 10 = [] := same.symm.trans empty
  obtain zero | none := List.take_eq_nil_iff.mp short
  · cases zero
  · exact name none

/-- A strict part of the text of an entry is not read as the entry. -/
theorem ReadsSlot.not_strictPrefix {str : List Char} {slot : RouteSlot} (reads : ReadsSlot cfg ifaces str slot)
    (valid : slot.Valid cfg ifaces) (cut : str <+: slot.text cfg ifaces) : str = slot.text cfg ifaces := by
  have named := reads.named registered
  have word := registered.word valid named
  obtain ⟨ifc, listed, given, -⟩ := valid.iface
  have name : slot.name ifaces = ifaces.name ifc := by rw [RouteSlot.name, given, Option.elim_some]
  have short : (slot.name ifaces).length ≤ 10 := by
    rw [name]
    exact registered.short ifc listed
  obtain ⟨args, ⟨route, other, parsed, found, rfl⟩, stores⟩ := reads
  by_contra strict
  refine parseEntry_strictPrefix word short cut strict parsed ⟨?_, ?_, ?_⟩
  · have range := Rtable.effectiveNetmask_range cfg route.netmask
    have bits := idGetHostBits_le cfg
    have small : (Rtable.effectiveNetmask cfg route.netmask).toNat < 2 ^ 16 := by omega
    obtain rfl := Option.some.inj stores
    simp only [RouteSet.key, UInt16.toNat_ofNat_of_lt' small]
    omega
  · obtain ⟨-, same⟩ := registered.getByName_take found
    obtain rfl := Option.some.inj stores
    exact same.symm
  · obtain rfl := Option.some.inj stores
    rfl

end Reads

theorem forall₂_mem {α β : Type} {R : α → β → Prop} {xs : List α} {ys : List β} (related : List.Forall₂ R xs ys)
    {y : β} (member : y ∈ ys) : ∃ x, R x y := by
  induction related with
  | nil => cases member
  | cons head tail ih =>
      obtain rfl | later := List.mem_cons.mp member
      · exact ⟨_, head⟩
      · exact ih later

theorem forall₂_last {α β : Type} {R : α → β → Prop} {xs : List α} {ys : List β} {x : α} {y : β}
    (related : List.Forall₂ R (xs ++ [x]) (ys ++ [y])) : R x y := by
  rw [← List.forall₂_reverse_iff, List.reverse_append, List.reverse_append] at related
  exact (List.forall₂_cons.mp related).1

/-- A text whose first 100 characters give all entries is not longer. -/
theorem reads_whole (registered : ifaces.Registered) {entries : List RouteSlot}
    (valid : ∀ slot ∈ entries, slot.Valid cfg ifaces) {done : List (List Char)}
    (reads : List.Forall₂ (ReadsSlot cfg ifaces) done entries)
    (cut : done <+: tokens ',' ((joined (entries.map (RouteSlot.text cfg ifaces))).take 100)) :
    (joined (entries.map (RouteSlot.text cfg ifaces))).length ≤ 100 := by
  by_contra long
  have texts : ∀ text ∈ entries.map (RouteSlot.text cfg ifaces), text ≠ [] ∧ ',' ∉ text := by
    intro text member
    obtain ⟨slot, inside, rfl⟩ := List.mem_map.mp member
    exact ⟨slot.text_ne_nil, registered.text_clear (valid slot inside)⟩
  obtain ⟨front, text, back, rest, split, inside, short, found⟩ := tokens_cut texts (List.take_prefix 100 _) (by
    intro whole
    have lengths := congrArg List.length whole
    rw [List.length_take] at lengths
    omega)
  -- The tokens are as many as the entries, so the part is one of the last entry.
  have lengths := congrArg List.length split
  rw [List.length_map, ← reads.length_eq, List.length_append, List.length_cons] at lengths
  have most := cut.length_le
  rw [found, List.length_append] at most
  by_cases empty : rest = []
  · rw [if_pos empty, List.length_nil] at most
    omega
  rw [if_neg empty, List.length_singleton] at most
  have last : back = [] := List.length_eq_zero_iff.mp (by omega)
  subst last
  have all : done = front ++ [rest] := by
    rw [found, if_neg empty] at cut
    apply cut.eq_of_length
    rw [List.length_append, List.length_singleton]
    omega
  obtain ⟨before, after, parts, -, lastText⟩ := List.map_eq_append_iff.mp split
  obtain ⟨slot, none, rfl, rfl, nothing⟩ := List.map_eq_cons_iff.mp lastText
  obtain rfl := List.map_eq_nil_iff.mp nothing
  have member : slot ∈ entries := by rw [parts]; simp
  rw [parts, all] at reads
  have whole := (forall₂_last reads).not_strictPrefix registered (valid slot member) inside
  obtain differs | more := short
  · exact differs whole
  · exact more rfl

/-- A table round trips exactly when its text has at most 100 characters and no entry has an interface
with an empty name. -/
theorem rtable_roundTrip_iff (cfg : Config) (size : Nat) (ifaces : IfaceNames) (registered : ifaces.Registered)
    (sets : List RouteSet) (validSets : ∀ args ∈ sets, args.Valid cfg ifaces) (t : Rtable size)
    (reached : rtableRun cfg (Rtable.init size) (sets.map .set) = some t) :
    RoundTrips cfg ifaces t ↔
      printedLength cfg ifaces t.entries ≤ 100 ∧ ∀ slot ∈ t.entries, slot.name ifaces ≠ [] := by
  obtain ⟨bounded, entries⟩ := rtableRun_sets reached
  have distinct : Distinct RouteSlot.key t.entries := by
    rw [entries]
    exact Distinct.putAll (show Distinct RouteSlot.key [] from List.nodup_nil) _
  have valid : ∀ slot ∈ t.entries, slot.Valid cfg ifaces := by
    intro slot member
    rw [entries] at member
    obtain none | stored := mem_putAll member
    · contradiction
    · obtain ⟨args, called, stores⟩ := List.mem_filterMap.mp stored
      exact (validSets args called).slot stores
  have texts : ∀ text ∈ t.entries.map (RouteSlot.text cfg ifaces), text ≠ [] ∧ ',' ∉ text := by
    intro text member
    obtain ⟨slot, inside, rfl⟩ := List.mem_map.mp member
    exact ⟨slot.text_ne_nil, registered.text_clear (valid slot inside)⟩
  have length : _ = printedLength cfg ifaces t.entries := length_joined t.entries
  constructor
  · intro trips
    obtain ⟨-, loaded, result, same⟩ := trips _ _ (rtableSave_room bounded valid)
    obtain ⟨done, cut, reads⟩ := loaded_reads bounded result same
    refine ⟨?_, fun slot member => ?_⟩
    · rw [← length]
      exact reads_whole registered valid reads cut
    · obtain ⟨str, read⟩ := forall₂_mem reads member
      exact read.named registered
  · rintro ⟨short, named⟩ maxlen text saved
    obtain rfl := rtableSave_none bounded valid saved
    rw [← length] at short
    have parsed : tokens ',' ((joined (t.entries.map (RouteSlot.text cfg ifaces))).take 100) =
        t.entries.map (RouteSlot.text cfg ifaces) := by
      rw [List.take_of_length_le short, tokens_joined texts]
    have check := registered.check_texts valid named 0 t
    have load := registered.load_texts valid named 0 (Rtable.init size)
    have room : t.entries.length ≤ size := by
      rw [bounded.length_entries]
      exact bounded
    obtain ⟨loaded, run, loadedBounded, same⟩ := rtableRun_calls valid distinct room
    rw [run, Option.map_some, Nat.zero_add] at load
    rw [Nat.zero_add] at check
    refine ⟨?_, loaded, ?_, ?_⟩
    · rw [rtableCheck, rtableParse, parsed, check]
    · rw [rtableLoad, rtableParse, parsed, load]
    · rw [loadedBounded.iterate_eq, bounded.iterate_eq, same]

/-- The loopback interface and one interface with a name of ten characters. -/
def longNames : IfaceNames :=
  ⟨[0, 1], fun ifc => if ifc = 0 then loopbackName else ['I', 'N', 'T', 'E', 'R', 'F', 'A', 'C', 'E', '1']⟩

/-- Routes with addresses of five digits, a netmask, and a via address of five digits. -/
def longSets (count : Nat) : List RouteSet :=
  (List.range count).map fun index => ⟨UInt16.ofNat (16380 + index), 13, some 1, 65534⟩

theorem longNames_registered : longNames.Registered where
  short := by decide +kernel
  unique := by decide +kernel
  clear := by
    have every : ∀ ifc ∈ longNames.interfaces,
        (longNames.name ifc).all (fun c => !isSpace c && !(c == ',')) = true := by decide +kernel
    intro ifc member c inside
    simpa using List.all_eq_true.mp (every ifc member) c inside

theorem threeRoutes_roundTrip : ∃ t : Rtable 10,
    rtableRun {} (Rtable.init 10) ((longSets 3).map .set) = some t ∧ RoundTrips {} longNames t := by
  have fits : (rtableRun {} (Rtable.init 10) ((longSets 3).map .set)).map (fun t =>
      decide (printedLength {} longNames t.entries ≤ 100 ∧ ∀ slot ∈ t.entries, slot.name longNames ≠ [])) =
      some true := by decide +kernel
  have valid : ∀ args ∈ longSets 3, args.Valid {} longNames := by
    intro args member
    obtain ⟨index, inside, rfl⟩ := List.mem_map.mp member
    have small := List.mem_range.mp inside
    exact ⟨by rw [UInt16.toNat_ofNat_of_lt' (show 16380 + index < 2 ^ 16 by omega)]; change _ ≤ 16383; omega,
      1, by decide +kernel, rfl, by decide +kernel⟩
  obtain ⟨t, run, condition⟩ := Option.map_eq_some_iff.mp fits
  exact ⟨t, run, (rtable_roundTrip_iff {} 10 longNames longNames_registered (longSets 3) valid t run).mpr
    (of_decide_eq_true condition)⟩

/-- The text of four such routes has 103 characters, and the last via address is read as 65. -/
theorem fourRoutes_truncated : ¬ ∀ t : Rtable 10,
    rtableRun {} (Rtable.init 10) ((longSets 4).map .set) = some t → RoundTrips {} longNames t := by
  intro trips
  have differs : (rtableRun {} (Rtable.init 10) ((longSets 4).map .set)).map (fun t =>
      (rtableSave {} longNames t 200).map fun saved => (saved.1,
        (rtableLoad {} longNames saved.2 (Rtable.init 10)).map fun loaded =>
          decide (loaded.2.iterate = t.iterate))) =
      some (some (.none, some false)) := by decide +kernel
  obtain ⟨t, run, saves⟩ := Option.map_eq_some_iff.mp differs
  obtain ⟨⟨err, text⟩, saved, loads⟩ := Option.map_eq_some_iff.mp saves
  obtain ⟨rfl, load⟩ := Prod.mk.inj loads
  obtain ⟨-, loaded, result, same⟩ := trips t run 200 text saved
  rw [result, Option.map_some, Option.some.injEq, decide_eq_false_iff_not] at load
  exact load same

end Libcsp

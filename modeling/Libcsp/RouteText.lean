/-
This file proves what the parser of the routing table reads from the text of one entry, and from a
part of it.
-/
import Libcsp.RtableStdio

namespace Libcsp
open Scan

variable {cfg : Config}

/-- A number of one or more digits that fits `unsigned int`. -/
structure Digits (text : List Char) (value : Nat) : Prop where
  some : text ≠ []
  all : ∀ c ∈ text, c.isDigit
  denotes : Nat.ofDigitChars 10 text 0 = value
  fits : value < 2 ^ 32

/-- A name that one conversion reads. -/
structure Word (text : List Char) : Prop extends Solid text where
  short : text.length ≤ 14

theorem digits_decimal {value : Nat} (fits : value < 2 ^ 32) : Digits (decimal value) value :=
  ⟨decimal_ne_nil value, fun _ => isDigit_of_mem_decimal, ofDigitChars_decimal value, fits⟩

theorem Digits.solid {text : List Char} {value : Nat} (digits : Digits text value) : Solid text :=
  solid_digits digits.some digits.all

theorem Digits.scan_unsigned {text rest : List Char} {value : Nat} (digits : Digits text value)
    (format : List Directive) (stops : StopsDigits rest) :
    scan (.unsigned :: format) (text ++ rest) = .number value :: scan format rest := by
  rw [Scan.scan_unsigned digits.some digits.all stops, digits.denotes, Nat.mod_eq_of_lt digits.fits]

theorem Digits.scan_signed {text rest : List Char} {value : Nat} (digits : Digits text value)
    (format : List Directive) (stops : StopsDigits rest) :
    scan (.signed :: format) (text ++ rest) = .number value :: scan format rest := by
  rw [Scan.scan_signed digits.some digits.all stops, digits.denotes]

theorem stopsDigits_space (rest : List Char) : StopsDigits (' ' :: rest) := by
  intro c head
  obtain rfl := Option.mem_some_iff.mp head
  rfl

theorem stopsDigits_slash (rest : List Char) : StopsDigits ('/' :: rest) := by
  intro c head
  obtain rfl := Option.mem_some_iff.mp head
  rfl

theorem stopsDigits_nil : StopsDigits [] := by
  intro c head
  cases head

/-- A word and white space behind it. -/
theorem Word.scan_tail {text tail : List Char} (word : Word text) (format : List Directive) (blank : Blank tail) :
    scan (.space :: .word 14 :: format) (' ' :: (text ++ tail)) = .word text :: scan format tail := by
  rw [scan_space_solid word.toSolid, scan_word word.toSolid word.short]
  intro c head
  exact blank c (List.mem_of_mem_head? head)

/-- A word and a number behind it. -/
theorem Word.scan_via {text via : List Char} {value : Nat} (word : Word text) (digits : Digits via value) :
    scan [.space, .word 14, .space, .unsigned] (' ' :: (text ++ ' ' :: via)) = [.word text, .number value] := by
  have number := digits.scan_unsigned [] stopsDigits_nil
  have solid : scan [.space, .unsigned] (' ' :: (via ++ [])) = scan [.unsigned] (via ++ []) :=
    scan_space_solid digits.solid []
  rw [List.append_nil] at number solid
  rw [scan_space_solid word.toSolid, scan_word word.toSolid word.short, solid, number, scan_nil]
  intro c head
  obtain rfl := Option.mem_some_iff.mp head
  rfl

/-- White space is no number. -/
theorem scan_space_unsigned_blank {tail : List Char} (blank : Blank tail) : scan [.space, .unsigned] tail = [] := by
  rw [scan_space_blank blank]
  rfl

theorem scan_space_word_blank {tail : List Char} (blank : Blank tail) (format : List Directive) :
    scan (.space :: .word 14 :: format) tail = [] := by
  rw [scan_space_blank blank]
  exact scan_word_blank (fun c member => by cases member)

/-! ## Complete entries -/

section Complete

variable {address netmask name via tail : List Char} {a m v : Nat}

/-- Without a slash behind the address the formats with a netmask stop. -/
theorem scan_noMask (digits : Digits address a) (rest : List Char) (format : List Directive) :
    scan (.unsigned :: .literal '/' :: format) (address ++ ' ' :: rest) = [.number a] := by
  rw [digits.scan_unsigned _ (stopsDigits_space rest), scan_literal_other (by simp)]

/-- With a netmask the first two conversions give both numbers. -/
theorem scan_mask (digits : Digits address a) (mask : Digits netmask m) (rest : List Char)
    (format : List Directive) :
    scan (.unsigned :: .literal '/' :: .signed :: format) (address ++ '/' :: (netmask ++ ' ' :: rest)) =
      .number a :: .number m :: scan format (' ' :: rest) := by
  rw [digits.scan_unsigned _ (stopsDigits_slash _), scan_literal, mask.scan_signed _ (stopsDigits_space rest)]

theorem parseEntry_plain (digits : Digits address a) (word : Word name) (blank : Blank tail) :
    parseEntry cfg (address ++ ' ' :: (name ++ tail)) =
      some ⟨a, idGetHostBits cfg, name, noViaAddress.toNat⟩ := by
  have via : scan formatVia (address ++ ' ' :: (name ++ tail)) = [.number a, .word name] := by
    rw [formatVia, digits.scan_unsigned _ (stopsDigits_space _), word.scan_tail _ blank,
      scan_space_unsigned_blank blank]
  have plain : scan formatPlain (address ++ ' ' :: (name ++ tail)) = [.number a, .word name] := by
    rw [formatPlain, digits.scan_unsigned _ (stopsDigits_space _), word.scan_tail _ blank, scan_nil]
  rw [parseEntry, formatMaskVia, scan_noMask digits, formatMask, scan_noMask digits, via, plain]
  rfl

theorem parseEntry_via (digits : Digits address a) (word : Word name) (number : Digits via v) :
    parseEntry cfg (address ++ ' ' :: (name ++ ' ' :: via)) = some ⟨a, idGetHostBits cfg, name, v⟩ := by
  have found : scan formatVia (address ++ ' ' :: (name ++ ' ' :: via)) = [.number a, .word name, .number v] := by
    rw [formatVia, digits.scan_unsigned _ (stopsDigits_space _), word.scan_via number]
  rw [parseEntry, formatMaskVia, scan_noMask digits, formatMask, scan_noMask digits, found]
  rfl

theorem parseEntry_mask (digits : Digits address a) (mask : Digits netmask m) (word : Word name)
    (blank : Blank tail) :
    parseEntry cfg (address ++ '/' :: (netmask ++ ' ' :: (name ++ tail))) = some ⟨a, m, name, noViaAddress.toNat⟩ := by
  have both : scan formatMaskVia (address ++ '/' :: (netmask ++ ' ' :: (name ++ tail))) =
      [.number a, .number m, .word name] := by
    rw [formatMaskVia, scan_mask digits mask, word.scan_tail _ blank, scan_space_unsigned_blank blank]
  have found : scan formatMask (address ++ '/' :: (netmask ++ ' ' :: (name ++ tail))) =
      [.number a, .number m, .word name] := by
    rw [formatMask, scan_mask digits mask, word.scan_tail _ blank, scan_nil]
  rw [parseEntry, both, found]
  rfl

theorem parseEntry_maskVia (digits : Digits address a) (mask : Digits netmask m) (word : Word name)
    (number : Digits via v) :
    parseEntry cfg (address ++ '/' :: (netmask ++ ' ' :: (name ++ ' ' :: via))) = some ⟨a, m, name, v⟩ := by
  have found : scan formatMaskVia (address ++ '/' :: (netmask ++ ' ' :: (name ++ ' ' :: via))) =
      [.number a, .number m, .word name, .number v] := by
    rw [formatMaskVia, scan_mask digits mask, word.scan_via number]
  rw [parseEntry, found]
  rfl

end Complete

/-! ## Parts of entries -/

section Parts

variable {address netmask tail : List Char} {a : Nat}

theorem Scan.Blank.head_ne_slash (blank : Blank tail) : tail.head? ≠ some '/' := by
  intro slash
  have space := blank '/' (List.mem_of_mem_head? slash)
  cases space

/-- An address alone is no entry. -/
theorem parseEntry_address (digits : Digits address a) (blank : Blank tail) :
    parseEntry cfg (address ++ tail) = none := by
  have noMask (format : List Directive) :
      scan (.unsigned :: .literal '/' :: format) (address ++ tail) = [.number a] := by
    rw [digits.scan_unsigned _ blank.stopsDigits, scan_literal_other blank.head_ne_slash]
  have noName (format : List Directive) :
      scan (.unsigned :: .space :: .word 14 :: format) (address ++ tail) = [.number a] := by
    rw [digits.scan_unsigned _ blank.stopsDigits, scan_space_word_blank blank]
  rw [parseEntry, formatMaskVia, noMask, formatMask, noMask, formatVia, noName, formatPlain, noName]

/-- Without a name behind the netmask the slash begins the name, and the netmask is the default. -/
theorem parseEntry_cut (digits : Digits address a) (all : ∀ c ∈ netmask, c.isDigit) (blank : Blank tail)
    {route : ParsedRoute} (parsed : parseEntry cfg (address ++ '/' :: (netmask ++ tail)) = some route) :
    route.netmask = idGetHostBits cfg := by
  have short (format : List Directive) : ∃ m : Option Int,
      scan (.unsigned :: .literal '/' :: .signed :: .space :: .word 14 :: format)
        (address ++ '/' :: (netmask ++ tail)) = .number a :: (m.map Value.number).toList := by
    rw [digits.scan_unsigned _ (stopsDigits_slash _), scan_literal]
    by_cases empty : netmask = []
    · subst empty
      have missing : scanNumber tail = none := by
        rw [scanNumber, blank.dropWhile]
        rfl
      exact ⟨none, by rw [List.nil_append, scan, missing]; rfl⟩
    · exact ⟨some (Nat.ofDigitChars 10 netmask 0 : Nat), by
        rw [scan_signed empty all blank.stopsDigits, scan_space_word_blank blank]; rfl⟩
  obtain ⟨first, maskVia⟩ := short [.space, .unsigned]
  obtain ⟨second, mask⟩ := short []
  rw [parseEntry, formatMaskVia, maskVia, formatMask, mask] at parsed
  cases first <;> cases second <;>
    · simp only [Option.map_none, Option.map_some, Option.toList_none, Option.toList_some] at parsed
      split at parsed
      · obtain rfl := Option.some.inj parsed
        rfl
      · split at parsed
        · obtain rfl := Option.some.inj parsed
          rfl
        · cases parsed

end Parts

/-- A parsed name is not empty. -/
theorem parseEntry_name {str : List Char} {route : ParsedRoute} (parsed : parseEntry cfg str = some route) :
    route.name ≠ [] := by
  have word (format : List Directive) {values : List Value} {name : List Char}
      (scanned : scan format str = values) (member : .word name ∈ values) : name ≠ [] :=
    scan_word_ne_nil (scanned ▸ member)
  rw [parseEntry] at parsed
  split at parsed
  · rename_i scanned
    obtain rfl := Option.some.inj parsed
    exact word formatMaskVia scanned (by simp)
  · split at parsed
    · rename_i scanned
      obtain rfl := Option.some.inj parsed
      exact word formatMask scanned (by simp)
    · split at parsed
      · rename_i scanned
        obtain rfl := Option.some.inj parsed
        exact word formatVia scanned (by simp)
      · split at parsed
        · rename_i scanned
          obtain rfl := Option.some.inj parsed
          exact word formatPlain scanned (by simp)
        · cases parsed

/-! ## The text of a slot -/

theorem snprintf_decimal (c : Char) (value : UInt16) :
    snprintf 10 (c :: decimal value.toNat) = c :: decimal value.toNat := by
  rw [snprintf, List.take_of_length_le]
  have small := value.toNat_lt
  have short := (Nat.length_toDigits_le_iff (n := value.toNat) (k := 5) (by decide : 1 < 10) (by decide)).mpr (by omega)
  rw [List.length_cons]
  have same : (decimal value.toNat).length = (Nat.toDigits 10 value.toNat).length := rfl
  omega

theorem maskStr_eq (slot : RouteSlot) :
    maskStr cfg slot = if slot.netmask.toNat ≠ idGetHostBits cfg then '/' :: decimal slot.netmask.toNat else [] := by
  rw [maskStr, snprintf_decimal]

theorem viaStr_eq (slot : RouteSlot) :
    viaStr slot = if slot.via ≠ noViaAddress then ' ' :: decimal slot.via.toNat else [] := by
  rw [viaStr, snprintf_decimal]

theorem Digits.ofUInt16 (value : UInt16) : Digits (decimal value.toNat) value.toNat :=
  digits_decimal (Nat.lt_trans value.toNat_lt (by decide))

/-- The printed address and netmask, a name, and white space. -/
theorem parseEntry_head_plain (slot : RouteSlot) {name tail : List Char} (word : Word name) (blank : Blank tail) :
    parseEntry cfg (decimal slot.address.toNat ++ (maskStr cfg slot ++ ' ' :: (name ++ tail))) =
      some ⟨slot.address.toNat, slot.netmask.toNat, name, noViaAddress.toNat⟩ := by
  rw [maskStr_eq]
  split
  · exact parseEntry_mask (.ofUInt16 slot.address) (.ofUInt16 slot.netmask) word blank
  · rename_i full
    rw [ne_eq, not_not] at full
    rw [full]
    exact parseEntry_plain (.ofUInt16 slot.address) word blank

/-- The printed address and netmask, a name, and a number. -/
theorem parseEntry_head_via (slot : RouteSlot) {name via : List Char} {v : Nat} (word : Word name)
    (number : Digits via v) :
    parseEntry cfg (decimal slot.address.toNat ++ (maskStr cfg slot ++ ' ' :: (name ++ ' ' :: via))) =
      some ⟨slot.address.toNat, slot.netmask.toNat, name, v⟩ := by
  rw [maskStr_eq]
  split
  · exact parseEntry_maskVia (.ofUInt16 slot.address) (.ofUInt16 slot.netmask) word number
  · rename_i full
    rw [ne_eq, not_not] at full
    rw [full]
    exact parseEntry_via (.ofUInt16 slot.address) word number

theorem blank_nil : Blank [] := by
  intro c member
  cases member

theorem blank_space : Blank [' '] := by
  intro c member
  obtain rfl := List.mem_singleton.mp member
  rfl

/-- The text of an entry gives its values back. -/
theorem parseEntry_entryText (slot : RouteSlot) {name : List Char} (word : Word name) :
    parseEntry cfg (entryText cfg name slot) =
      some ⟨slot.address.toNat, slot.netmask.toNat, name, slot.via.toNat⟩ := by
  rw [entryText, List.append_assoc, viaStr_eq]
  split
  · exact parseEntry_head_via slot word (.ofUInt16 slot.via)
  · rename_i direct
    rw [ne_eq, not_not] at direct
    rw [direct]
    exact parseEntry_head_plain slot word blank_nil

/-! ## A text that is cut off -/

theorem prefix_append_cases {part first second : List Char} (cut : part <+: first ++ second) :
    part <+: first ∨ ∃ rest, part = first ++ rest ∧ rest <+: second := by
  obtain before | ⟨rest, rfl⟩ := List.prefix_or_prefix_of_prefix cut (List.prefix_append first second)
  · exact .inl before
  · exact .inr ⟨rest, rfl, (List.prefix_append_right_inj first).mp cut⟩

theorem prefix_cons_cases {part rest : List Char} {c : Char} (cut : part <+: c :: rest) :
    part = [] ∨ ∃ more, part = c :: more ∧ more <+: rest := by
  cases part with
  | nil => exact .inl rfl
  | cons other more =>
      obtain ⟨rfl, inside⟩ := List.cons_prefix_cons.mp cut
      exact .inr ⟨more, rfl, inside⟩

/-- A part of the digits of a number is this number or a smaller one. -/
theorem digits_of_prefix {value : UInt16} {part : List Char} (cut : part <+: decimal value.toNat) (some : part ≠ []) :
    ∃ v, Digits part v ∧ (part ≠ decimal value.toNat → v < value.toNat) := by
  have whole := Digits.ofUInt16 value
  obtain ⟨last, split⟩ := cut
  by_cases complete : last = []
  · rw [complete, List.append_nil] at split
    subst split
    exact ⟨value.toNat, whole, fun differs => absurd rfl differs⟩
  · have smaller := ofDigitChars_lt split.symm complete some
    refine ⟨_, ⟨some, fun c member => whole.all c ?_, rfl, Nat.lt_trans smaller whole.fits⟩, fun _ => smaller⟩
    rw [← split]
    exact List.mem_append_left _ member

theorem Word.of_prefix {name part : List Char} (word : Word name) (cut : part <+: name) (some : part ≠ []) :
    Word part where
  some := some
  all c member := word.all c (cut.subset member)
  short := Nat.le_trans cut.length_le word.short

/-- A strict part of the text of an entry never gives all of its values. -/
theorem parseEntry_strictPrefix {slot : RouteSlot} {name part : List Char} (word : Word name)
    (short : name.length ≤ 10) (cut : part <+: entryText cfg name slot) (strict : part ≠ entryText cfg name slot)
    {route : ParsedRoute} (parsed : parseEntry cfg part = some route) :
    ¬(Rtable.effectiveNetmask cfg route.netmask = slot.netmask.toNat ∧ route.name.take 10 = name ∧
      UInt16.ofNat route.via = slot.via) := by
  rintro ⟨sameNetmask, sameName, sameVia⟩
  rw [entryText, List.append_assoc] at cut strict
  -- The cut falls into the address, the netmask, the name, or the via address.
  obtain inAddress | ⟨rest, rfl, cutRest⟩ := prefix_append_cases cut
  · by_cases empty : part = []
    · rw [empty] at parsed
      cases parsed
    · obtain ⟨v, digits, -⟩ := digits_of_prefix inAddress empty
      have missing : parseEntry cfg (part ++ []) = none := parseEntry_address digits blank_nil
      rw [List.append_nil, parsed] at missing
      cases missing
  have address := Digits.ofUInt16 slot.address
  have noMask {mask tail : List Char} (cutMask : mask <+: maskStr cfg slot) (blank : Blank tail)
      (parsed : parseEntry cfg (decimal slot.address.toNat ++ (mask ++ tail)) = some route) : False := by
    cases mask with
    | nil =>
        rw [List.nil_append, parseEntry_address address blank] at parsed
        cases parsed
    | cons c digits =>
        rw [maskStr_eq] at cutMask
        split at cutMask
        · rename_i printed
          obtain ⟨rfl, inside⟩ := List.cons_prefix_cons.mp cutMask
          have full := parseEntry_cut address
            (fun c member => isDigit_of_mem_decimal (inside.subset member)) blank parsed
          rw [full, Rtable.effectiveNetmask, if_neg (by omega)] at sameNetmask
          exact printed (Int.ofNat_inj.mp sameNetmask.symm)
        · cases List.prefix_nil.mp cutMask
  obtain inMask | ⟨rest, rfl, cutSpace⟩ := prefix_append_cases cutRest
  · exact noMask inMask blank_nil (by rwa [List.append_nil])
  obtain rfl | ⟨rest, rfl, cutName⟩ := prefix_cons_cases cutSpace
  · exact noMask List.prefix_rfl blank_nil parsed
  obtain inName | ⟨rest, rfl, cutVia⟩ := prefix_append_cases cutName
  · by_cases empty : rest = []
    · rw [empty] at parsed
      exact noMask List.prefix_rfl blank_space parsed
    · have plain : parseEntry cfg _ = _ := parseEntry_head_plain slot (word.of_prefix inName empty) blank_nil
      rw [List.append_nil, parsed] at plain
      obtain rfl := Option.some.inj plain
      have direct : slot.via = noViaAddress := sameVia.symm
      rw [List.take_of_length_le (Nat.le_trans inName.length_le short)] at sameName
      refine strict ?_
      rw [viaStr_eq, if_neg (not_not.mpr direct), List.append_nil, sameName]
  · rw [viaStr_eq] at cutVia strict
    split at cutVia
    · rename_i indirect
      have noVia {tail : List Char} (blank : Blank tail) (parsed : parseEntry cfg
          (decimal slot.address.toNat ++ (maskStr cfg slot ++ ' ' :: (name ++ tail))) = some route) : False := by
        rw [parseEntry_head_plain slot word blank] at parsed
        obtain rfl := Option.some.inj parsed
        exact indirect sameVia.symm
      obtain rfl | ⟨digits, rfl, cutDigits⟩ := prefix_cons_cases cutVia
      · exact noVia blank_nil parsed
      by_cases empty : digits = []
      · rw [empty] at parsed
        exact noVia blank_space parsed
      · obtain ⟨v, number, smaller⟩ := digits_of_prefix cutDigits empty
        rw [parseEntry_head_via slot word number] at parsed
        obtain rfl := Option.some.inj parsed
        have same : digits = decimal slot.via.toNat := by
          by_contra differs
          have less := smaller differs
          rw [← sameVia, UInt16.toNat_ofNat'] at less
          exact absurd (Nat.lt_of_lt_of_le less (Nat.mod_le _ _)) (Nat.lt_irrefl _)
        refine strict ?_
        rw [if_pos indirect, same]
    · rename_i direct
      obtain rfl := List.prefix_nil.mp cutVia
      refine strict ?_
      rw [if_neg direct]

end Libcsp

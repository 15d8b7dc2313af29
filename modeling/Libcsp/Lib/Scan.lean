/-
This file gives the laws of formatted input: conversions, white space, and separated tokens.
-/
import Mathlib.Algebra.Ring.Int.Defs
import Mathlib.Algebra.Ring.Nat
import Mathlib.Data.List.TakeWhile
import Mathlib.Tactic.Common

namespace Libcsp.Scan

/-- The white space of the C locale. -/
def isSpace (c : Char) : Bool := c = ' ' || ('\t' ≤ c && c ≤ '\r')

/-- A part of a format: a number, a word of limited length, a character, or any white space. -/
inductive Directive where
  | unsigned
  | signed
  | word (width : Nat)
  | literal (c : Char)
  | space

/-- A conversion stores a number or a word. -/
inductive Value where
  | number (value : Int)
  | word (chars : List Char)
  deriving DecidableEq, Repr

/-- The decimal digits of a number. -/
def decimal (value : Nat) : List Char := Nat.toDigits 10 value

/-- The digits in front of the text make a number. -/
def scanDigits (text : List Char) : Option (Nat × List Char) :=
  if text.takeWhile Char.isDigit = [] then none
  else some (Nat.ofDigitChars 10 (text.takeWhile Char.isDigit) 0, text.dropWhile Char.isDigit)

/-- A number may have white space and a sign before it. -/
def scanNumber (text : List Char) : Option (Int × List Char) :=
  match text.dropWhile isSpace with
  | '-' :: rest => (scanDigits rest).map fun found => (-found.1, found.2)
  | '+' :: rest => (scanDigits rest).map fun found => (found.1, found.2)
  | rest => (scanDigits rest).map fun found => (found.1, found.2)

/-- A word may have white space before it, and ends at the next white space or at its width. -/
def scanWord (width : Nat) (text : List Char) : Option (List Char × List Char) :=
  let text := text.dropWhile isSpace
  let chars := (text.takeWhile fun c => !isSpace c).take width
  if chars = [] then none else some (chars, text.drop chars.length)

/-- The values that the conversions store until the first one that fails. A number that does not fit
its type has no defined value. -/
def scan : List Directive → List Char → List Value
  | [], _ => []
  | .space :: rest, text => scan rest (text.dropWhile isSpace)
  | .literal c :: rest, text => if text.head? = some c then scan rest text.tail else []
  | .unsigned :: rest, text =>
      match scanNumber text with
      | none => []
      | some (value, text) => .number (value % 2 ^ 32) :: scan rest text
  | .signed :: rest, text =>
      match scanNumber text with
      | none => []
      | some (value, text) => .number value :: scan rest text
  | .word width :: rest, text =>
      match scanWord width text with
      | none => []
      | some (chars, text) => .word chars :: scan rest text

section Directives

theorem scan_nil (text : List Char) : scan [] text = [] := rfl

variable (format : List Directive) (text : List Char)

theorem scan_space : scan (.space :: format) text = scan format (text.dropWhile isSpace) := rfl

theorem scan_literal_cons (c : Char) :
    scan (.literal c :: format) text = if text.head? = some c then scan format text.tail else [] := rfl

theorem scan_unsigned_cons :
    scan (.unsigned :: format) text =
      match scanNumber text with
      | none => []
      | some (value, text) => .number (value % 2 ^ 32) :: scan format text := rfl

theorem scan_signed_cons :
    scan (.signed :: format) text =
      match scanNumber text with
      | none => []
      | some (value, text) => .number value :: scan format text := rfl

theorem scan_word_cons (width : Nat) :
    scan (.word width :: format) text =
      match scanWord width text with
      | none => []
      | some (chars, text) => .word chars :: scan format text := rfl

end Directives

/-! ## Digits -/

theorem isDigit_of_mem_decimal {value : Nat} {c : Char} (member : c ∈ decimal value) : c.isDigit :=
  Nat.isDigit_of_mem_toDigits (by decide) (by decide) member

theorem decimal_ne_nil (value : Nat) : decimal value ≠ [] := Nat.toDigits_ne_nil

theorem not_isSpace_of_isDigit {c : Char} (digit : c.isDigit) : isSpace c = false := by
  rw [Char.isDigit, Bool.and_eq_true, decide_eq_true_eq, decide_eq_true_eq] at digit
  have low : '0' ≤ c := digit.1
  rw [isSpace, Bool.or_eq_false_iff, decide_eq_false_iff_not, Bool.and_eq_false_iff]
  constructor
  · rintro rfl
    exact absurd low (by decide)
  · right
    rw [decide_eq_false_iff_not]
    intro high
    exact absurd (Char.le_trans low high) (by decide)

/-- The value of the digits of a number. -/
theorem ofDigitChars_decimal (value : Nat) : Nat.ofDigitChars 10 (decimal value) 0 = value :=
  Nat.ofDigitChars_toDigits (by decide) (by decide)

/-- A strict part of the digits of a number is a smaller number. -/
theorem ofDigitChars_lt {value : Nat} {first last : List Char} (split : decimal value = first ++ last)
    (more : last ≠ []) (some : first ≠ []) : Nat.ofDigitChars 10 first 0 < value := by
  have whole := ofDigitChars_decimal value
  rw [split, Nat.ofDigitChars_append, Nat.ofDigitChars_eq_ofDigitChars_zero] at whole
  have long : 2 ≤ (decimal value).length := by
    rw [split, List.length_append]
    have := List.length_pos_iff.mpr more
    have := List.length_pos_iff.mpr some
    omega
  have large : 10 ≤ value := by
    by_contra small
    have short := (Nat.length_toDigits_le_iff (n := value) (k := 1) (by decide : 1 < 10) (by decide)).mpr (by omega)
    exact absurd (Nat.le_trans long short) (by decide)
  have factor : 10 ≤ 10 ^ last.length :=
    Nat.le_self_pow (List.length_pos_iff.mpr more).ne' 10
  by_contra high
  have grows := Nat.mul_le_mul factor (Nat.le_of_not_lt high)
  omega

theorem scanDigits_eq {digits rest : List Char} (some : digits ≠ []) (all : ∀ c ∈ digits, c.isDigit)
    (stops : ∀ c ∈ rest.head?, c.isDigit = false) :
    scanDigits (digits ++ rest) = .some (Nat.ofDigitChars 10 digits 0, rest) := by
  have restTake : rest.takeWhile Char.isDigit = [] := by
    cases rest with
    | nil => rfl
    | cons c rest => rw [List.takeWhile_cons, stops c rfl]; rfl
  have restDrop : rest.dropWhile Char.isDigit = rest := by
    cases rest with
    | nil => rfl
    | cons c rest => rw [List.dropWhile_cons, stops c rfl]; rfl
  rw [scanDigits, List.takeWhile_append_of_pos all, List.dropWhile_append_of_pos all, restTake, restDrop,
    List.append_nil, if_neg some]

/-! ## Conversions -/

/-- The rest of the text does not continue the digits. -/
def StopsDigits (rest : List Char) : Prop := ∀ c ∈ rest.head?, c.isDigit = false

theorem scanNumber_eq {digits rest : List Char} (some : digits ≠ []) (all : ∀ c ∈ digits, c.isDigit)
    (stops : StopsDigits rest) :
    scanNumber (digits ++ rest) = .some (Nat.ofDigitChars 10 digits 0, rest) := by
  have found := scanDigits_eq some all stops
  cases digits with
  | nil => exact absurd rfl some
  | cons c digits =>
      have digit := all c List.mem_cons_self
      have noMinus : c ≠ '-' := by
        rintro rfl
        exact absurd digit (by decide)
      have noPlus : c ≠ '+' := by
        rintro rfl
        exact absurd digit (by decide)
      rw [List.cons_append] at found ⊢
      rw [scanNumber, List.dropWhile_cons, not_isSpace_of_isDigit digit, if_neg Bool.false_ne_true]
      split
      · rename_i same
        exact absurd (List.cons.inj same).1 noMinus
      · rename_i same
        exact absurd (List.cons.inj same).1 noPlus
      · rw [found]
        rfl

/-- The characters are white space. -/
def Blank (text : List Char) : Prop := ∀ c ∈ text, isSpace c

/-- The characters are not white space, and there is at least one. -/
structure Solid (word : List Char) : Prop where
  some : word ≠ []
  all : ∀ c ∈ word, isSpace c = false

theorem Blank.dropWhile {text : List Char} (blank : Blank text) : text.dropWhile isSpace = [] :=
  List.dropWhile_eq_nil_iff.mpr blank

theorem Blank.stopsDigits {text : List Char} (blank : Blank text) : StopsDigits text := by
  intro c head
  by_contra digit
  rw [Bool.not_eq_false] at digit
  have space := blank c (List.mem_of_mem_head? head)
  rw [not_isSpace_of_isDigit digit] at space
  cases space

theorem Solid.dropWhile {word : List Char} (solid : Solid word) (rest : List Char) :
    (word ++ rest).dropWhile isSpace = word ++ rest := by
  cases word with
  | nil => exact absurd rfl solid.some
  | cons c word =>
      rw [List.cons_append, List.dropWhile_cons, solid.all c List.mem_cons_self, if_neg Bool.false_ne_true]

theorem solid_digits {digits : List Char} (some : digits ≠ []) (all : ∀ c ∈ digits, c.isDigit) : Solid digits :=
  ⟨some, fun c member => not_isSpace_of_isDigit (all c member)⟩

theorem scanWord_eq {width : Nat} {word rest : List Char} (solid : Solid word) (short : word.length ≤ width)
    (stops : ∀ c ∈ rest.head?, isSpace c) : scanWord width (word ++ rest) = some (word, rest) := by
  have all : ∀ c ∈ word, (!isSpace c) = true := fun c member => by rw [solid.all c member]; rfl
  have restTake : rest.takeWhile (fun c => !isSpace c) = [] := by
    cases rest with
    | nil => rfl
    | cons c rest => rw [List.takeWhile_cons, stops c rfl]; rfl
  rw [scanWord, solid.dropWhile, List.takeWhile_append_of_pos all, restTake, List.append_nil,
    List.take_of_length_le short]
  simp [solid.some]

theorem scanWord_blank {width : Nat} {text : List Char} (blank : Blank text) : scanWord width text = none := by
  rw [scanWord, blank.dropWhile]
  simp

/-- A conversion of a word gives at least one character and no white space. -/
theorem scanWord_solid {width : Nat} {text word rest : List Char} (found : scanWord width text = some (word, rest)) :
    word ≠ [] := by
  rw [scanWord] at found
  split at found
  · cases found
  · rename_i nonempty
    obtain ⟨rfl, -⟩ := Prod.mk.inj (Option.some.inj found)
    exact nonempty

/-! ## Formats -/

theorem scan_unsigned {format : List Directive} {digits rest : List Char} (some : digits ≠ [])
    (all : ∀ c ∈ digits, c.isDigit) (stops : StopsDigits rest) :
    scan (.unsigned :: format) (digits ++ rest) =
      .number (Nat.ofDigitChars 10 digits 0 % 2 ^ 32 : Nat) :: scan format rest := by
  rw [scan_unsigned_cons, scanNumber_eq some all stops]
  rfl

theorem scan_signed {format : List Directive} {digits rest : List Char} (some : digits ≠ [])
    (all : ∀ c ∈ digits, c.isDigit) (stops : StopsDigits rest) :
    scan (.signed :: format) (digits ++ rest) =
      .number (Nat.ofDigitChars 10 digits 0 : Nat) :: scan format rest := by
  rw [scan_signed_cons, scanNumber_eq some all stops]

theorem scan_word {format : List Directive} {width : Nat} {word rest : List Char} (solid : Solid word)
    (short : word.length ≤ width) (stops : ∀ c ∈ rest.head?, isSpace c) :
    scan (.word width :: format) (word ++ rest) = .word word :: scan format rest := by
  rw [scan_word_cons, scanWord_eq solid short stops]

theorem scan_word_blank {format : List Directive} {width : Nat} {text : List Char} (blank : Blank text) :
    scan (.word width :: format) text = [] := by
  rw [scan_word_cons, scanWord_blank blank]

theorem scan_space_solid {format : List Directive} {word : List Char} (solid : Solid word) (rest : List Char) :
    scan (.space :: format) (' ' :: (word ++ rest)) = scan format (word ++ rest) := by
  rw [scan_space, List.dropWhile_cons, show isSpace ' ' = true from rfl, if_pos rfl, solid.dropWhile]

theorem scan_space_blank {format : List Directive} {text : List Char} (blank : Blank text) :
    scan (.space :: format) text = scan format [] := by
  rw [scan_space, blank.dropWhile]

theorem scan_literal {format : List Directive} (c : Char) (text : List Char) :
    scan (.literal c :: format) (c :: text) = scan format text := by
  rw [scan_literal_cons, List.head?_cons, if_pos rfl, List.tail_cons]

theorem scan_literal_other {format : List Directive} {c : Char} {text : List Char} (other : text.head? ≠ some c) :
    scan (.literal c :: format) text = [] := by
  rw [scan_literal_cons, if_neg other]

/-- A stored word is not empty. -/
theorem scan_word_ne_nil {format : List Directive} {text chars : List Char}
    (member : .word chars ∈ scan format text) : chars ≠ [] := by
  induction format generalizing text with
  | nil => cases member
  | cons directive format ih =>
      cases directive with
      | space => exact ih member
      | literal c =>
          rw [scan_literal_cons] at member
          split at member
          · exact ih member
          · cases member
      | unsigned =>
          rw [scan_unsigned_cons] at member
          split at member
          · cases member
          · obtain same | later := List.mem_cons.mp member
            · cases same
            · exact ih later
      | signed =>
          rw [scan_signed_cons] at member
          split at member
          · cases member
          · obtain same | later := List.mem_cons.mp member
            · cases same
            · exact ih later
      | word width =>
          rw [scan_word_cons] at member
          split at member
          · cases member
          · rename_i found
            obtain same | later := List.mem_cons.mp member
            · obtain rfl := Value.word.inj same
              exact scanWord_solid found
            · exact ih later

/-! ## Tokens -/

/-- The tokens that `strtok` finds, with the token that has begun. -/
def tokensFrom (separator : Char) : List Char → List Char → List (List Char)
  | token, [] => if token = [] then [] else [token]
  | token, c :: rest =>
      if c = separator then
        if token = [] then tokensFrom separator [] rest else token :: tokensFrom separator [] rest
      else tokensFrom separator (token ++ [c]) rest

/-- The tokens between the separators. There are no empty ones. -/
def tokens (separator : Char) (text : List Char) : List (List Char) := tokensFrom separator [] text

theorem tokensFrom_append {separator : Char} {part : List Char} (clear : separator ∉ part) (token rest : List Char) :
    tokensFrom separator token (part ++ rest) = tokensFrom separator (token ++ part) rest := by
  induction part generalizing token with
  | nil => rw [List.nil_append, List.append_nil]
  | cons c part ih =>
      rw [List.mem_cons, not_or] at clear
      rw [List.cons_append, tokensFrom, if_neg (Ne.symm clear.1), ih clear.2, List.append_assoc,
        List.singleton_append]

theorem tokens_single {separator : Char} {part : List Char} (clear : separator ∉ part) :
    tokens separator part = if part = [] then [] else [part] := by
  have whole := tokensFrom_append clear [] []
  rw [List.append_nil, List.nil_append] at whole
  rw [tokens, whole, tokensFrom]

theorem tokens_cons {separator : Char} {part : List Char} (clear : separator ∉ part) (some : part ≠ [])
    (rest : List Char) : tokens separator (part ++ separator :: rest) = part :: tokens separator rest := by
  rw [tokens, tokensFrom_append clear, List.nil_append, tokensFrom, if_pos rfl, if_neg some, tokens]

end Libcsp.Scan

/-
This file shows that the generated probes implement the fault model file fault_model_libcsp.csv.
-/
import Libcsp.MutationCells

namespace Libcsp

/-! ## The fault model file -/

/-- The fault classes of the file with their columns. A bit flip sets one bit that has the state 0. -/
inductive FaultClass where
  | inv (min max : Int)
  | vat (threshold delta : Int)
  | fvat (threshold delta : Int)
  | vor (min max delta : Int)
  | fvor (min max : Int)
  | ss (delta : Int)
  | bf (bit : Nat)

structure FaultRow where
  site : ProbeSite
  item : Nat
  fault : FaultClass

/-- The rows of `fault_model_libcsp.csv`. -/
def faultRows : List FaultRow :=
  [⟨.read, 2, .inv 0 31⟩, ⟨.read, 2, .vat 31 1⟩, ⟨.read, 3, .inv 0 31⟩, ⟨.read, 3, .vat 31 1⟩,
    ⟨.read, 4, .inv 8 30⟩, ⟨.read, 4, .vor 8 30 1⟩, ⟨.read, 4, .fvor 8 30⟩, ⟨.read, 4, .ss 1⟩, ⟨.read, 4, .ss (-1)⟩,
    ⟨.read, 5, .inv 8 30⟩, ⟨.read, 5, .vor 8 30 1⟩, ⟨.read, 5, .fvor 8 30⟩, ⟨.read, 5, .ss 1⟩, ⟨.read, 5, .ss (-1)⟩,
    ⟨.read, 6, .bf 0⟩, ⟨.read, 6, .bf 1⟩, ⟨.read, 6, .bf 2⟩, ⟨.read, 6, .bf 3⟩,
    ⟨.send, 1, .inv 0 3⟩, ⟨.send, 1, .vat 3 1⟩, ⟨.send, 1, .fvat 3 1⟩,
    ⟨.send, 2, .inv 0 31⟩, ⟨.send, 2, .vat 31 1⟩, ⟨.send, 3, .inv 0 31⟩, ⟨.send, 3, .vat 31 1⟩,
    ⟨.send, 4, .inv 8 30⟩, ⟨.send, 4, .vor 8 30 1⟩, ⟨.send, 4, .fvor 8 30⟩, ⟨.send, 4, .ss 1⟩, ⟨.send, 4, .ss (-1)⟩,
    ⟨.send, 5, .inv 8 30⟩, ⟨.send, 5, .vor 8 30 1⟩, ⟨.send, 5, .fvor 8 30⟩, ⟨.send, 5, .ss 1⟩, ⟨.send, 5, .ss (-1)⟩,
    ⟨.send, 6, .bf 0⟩, ⟨.send, 6, .bf 1⟩, ⟨.send, 6, .bf 2⟩, ⟨.send, 6, .bf 3⟩]

/-- A mutant applies one operation. -/
inductive Operation where
  | draw (min max : Int)
  | raise (threshold delta : Int)
  | lower (threshold delta : Int)
  | leaveBelow (min max delta : Int)
  | leaveAbove (min max delta : Int)
  | shift (delta : Int)
  | setBit (bit : Nat)

/-- A value leaves its range on two sides. The other classes have one operation. -/
def FaultClass.operations : FaultClass → List Operation
  | .inv min max => [.draw min max]
  | .vat threshold delta => [.raise threshold delta]
  | .fvat threshold delta => [.lower threshold delta]
  | .vor min max delta => [.leaveBelow min max delta, .leaveAbove min max delta]
  | .fvor min max => [.draw min max]
  | .ss delta => [.shift delta]
  | .bf bit => [.setBit bit]

/-- The mutants are numbered in the order of the file. -/
def mutants : List (ProbeSite × Nat × Operation) :=
  faultRows.flatMap fun row => row.fault.operations.map fun operation => (row.site, row.item, operation)

/-- A random value of the range. -/
def drawn (rand : Nat → Nat) (min max : Int) (index : Nat) : Int := (rand index : Int) % (max - min + 1) + min

/-- The new value, and whether the operation was applied. A redraw takes the first new value of 999. -/
def Operation.apply (rand : Nat → Nat) (old : Int) : Operation → Int × Bool
  | .draw min max =>
      ((List.range' 0 999).find? fun index => drawn rand min max index ≠ old).elim (drawn rand min max 999, false)
        fun index => (drawn rand min max index, true)
  | .raise threshold delta => if old ≤ threshold then (threshold + delta, true) else (old, false)
  | .lower threshold delta => if threshold < old then (threshold - delta, true) else (old, false)
  | .leaveBelow min max delta => if min ≤ old ∧ old ≤ max then (min - delta, true) else (old, false)
  | .leaveAbove min max delta => if min ≤ old ∧ old ≤ max then (max + delta, true) else (old, false)
  | .shift delta => (old + delta, true)
  | .setBit bit => ((old.toNat ||| 2 ^ bit : Nat), !old.toNat.testBit bit)

def mutantAt (mutation : Int) : Option (ProbeSite × Nat × Operation) :=
  if mutation < 0 then none else mutants[mutation.toNat]?

def ProbeSite.model : ProbeSite → Nat
  | .read => 0
  | .send => 1

/-- The header and the coverage lines of one probe, and the number of the probes of the mutant so far. -/
def specProbe (mutation : Int) (site : ProbeSite) (rand : Nat → Nat) (id : CspId) (reached : Nat) :
    CspId × List CoverageLine × Nat :=
  if mutation = -1 ∨ mutation = -3 then (id, [], reached)
  else if mutation = -2 then (id, [.model site.model], reached)
  else
    match mutantAt mutation with
    | none => (id, [.operator mutation (reached + 1) false], reached)
    | some (owner, item, operation) =>
        if owner = site then
          let (value, applied) := operation.apply rand (probeLoad id item)
          (probeStore (Function.update (probeLoad id) item value), [.operator mutation (reached + 1) applied],
            reached + 1)
        else (id, [.operator mutation (reached + 1) false], reached)

/-! ## The loops -/

theorem drawLoop_eq {Value : Type} [DecidableEq Value] (draw : Nat → Value) (old : Value) (left next : Nat) :
    drawLoop draw old next (left + 1) =
      ((List.range' next left).find? fun index => draw index ≠ old).elim
        (draw (next + left), next + left + 1, false) fun index => (draw index, index + 1, true) := by
  induction left generalizing next with
  | zero => rfl
  | succ left ih =>
      rw [drawLoop, List.range'_succ]
      by_cases same : draw next = old
      · have behind : next + (left + 1) = next + 1 + left := by omega
        rw [if_pos same, ih, List.find?_cons_of_neg (by simp [same]), behind]
      · rw [if_neg same, List.find?_cons_of_pos (by simp [same])]
        rfl

/-! ## One operation -/

/-- An operator of the fault model holds the columns of an operation. -/
def Operation.Implemented (type : DataType) (op : MutationOperator) (opt : Int) : Operation → Prop
  | .draw min max => type = .int ∧ (op.type = .inv ∨ op.type = .fvor) ∧ op.min = min ∧ op.max = max ∧ min < max
  | .raise threshold delta => type = .int ∧ op.type = .vat ∧ op.threshold = threshold ∧ op.delta = delta
  | .lower threshold delta => type = .int ∧ op.type = .fvat ∧ op.threshold = threshold ∧ op.delta = delta
  | .leaveBelow min max delta =>
      type = .int ∧ op.type = .vor ∧ op.min = min ∧ op.max = max ∧ op.delta = delta ∧ opt = 0
  | .leaveAbove min max delta =>
      type = .int ∧ op.type = .vor ∧ op.min = min ∧ op.max = max ∧ op.delta = delta ∧ opt = 1
  | .shift delta => type = .int ∧ op.type = .ss ∧ op.delta = delta
  | .setBit bit =>
      type = .bin ∧ op.type = .bf ∧ op.min = bit ∧ op.max = bit ∧ op.state = 0 ∧ op.value = 1 ∧ bit < 31

instance (type : DataType) (op : MutationOperator) (opt : Int) :
    (operation : Operation) → Decidable (operation.Implemented type op opt)
  | .draw _ _ => inferInstanceAs (Decidable (_ ∧ _))
  | .raise _ _ => inferInstanceAs (Decidable (_ ∧ _))
  | .lower _ _ => inferInstanceAs (Decidable (_ ∧ _))
  | .leaveBelow _ _ _ => inferInstanceAs (Decidable (_ ∧ _))
  | .leaveAbove _ _ _ => inferInstanceAs (Decidable (_ ∧ _))
  | .shift _ => inferInstanceAs (Decidable (_ ∧ _))
  | .setBit _ => inferInstanceAs (Decidable (_ ∧ _))

/-- The operation gives the cell of the new value and a line of the coverage file. -/
def Applies (rand : Nat → Nat) (mutation opt : Int) (type : DataType) (op : MutationOperator) (old : Int)
    (faqas : Faqas) (operation : Operation) : Prop :=
  ∃ value, operate rand mutation opt type op (loadValue type (wordOfInt old)) faqas =
      (value, { faqas.operatorCoverage mutation (operation.apply rand old).2 with mutated := true }) ∧
    intOfWord (fullNumber type value) = intOfWord (wordOfInt (operation.apply rand old).1)

section Operate
variable {rand : Nat → Nat} {mutation opt old : Int} {type : DataType} {op : MutationOperator} {faqas : Faqas}

theorem redraw_int {min max : Int} (order : min < max) (first : op.min = min) (last : op.max = max) (bin : UInt64) :
    redraw rand op .int { int := old, bin } =
      ({ int := ((Operation.draw min max).apply rand old).1, bin }, ((Operation.draw min max).apply rand old).2) := by
  subst first last
  have loop := drawLoop_eq (drawn rand op.min op.max) old 999 0
  unfold redraw
  dsimp only
  rw [if_neg (by omega), if_neg (by omega)]
  change (LoadedValue.mk (drawLoop (drawn rand op.min op.max) old 0 1000).1 bin,
    (drawLoop (drawn rand op.min op.max) old 0 1000).2.2) = _
  rw [loop, Operation.apply]
  cases (List.range' 0 999).find? fun index => drawn rand op.min op.max index ≠ old with
  | none => rfl
  | some index => rfl

theorem replaceIf_int {applies : Bool} {replacement : Int} {value : LoadedValue} :
    replaceIf mutation .int applies replacement value faqas =
      (if applies then { value with int := replacement } else value,
        { faqas.operatorCoverage mutation applies with mutated := true }) := by
  cases applies <;> rfl

/-- A bit flip of one bit finds it in the first draw or in none of ten. -/
theorem flipBits_one {bit : Nat} (word : UInt64) (min : op.min = bit) (max : op.max = bit) (state : op.state = 0)
    (value : op.value = 1) :
    flipBits rand op op.value.toNat word 0 true =
      (word ||| powSubstitute 2 bit, decide (word ||| powSubstitute 2 bit ≠ word)) := by
  have draw : (fun next => flipBit op.state word (powSubstitute 2 ((rand next : Int) % (op.max - op.min + 1) + op.min))) =
      fun _ => word ||| powSubstitute 2 bit := by
    funext next
    rw [max, min, Int.sub_self, Int.zero_add, Int.emod_one, Int.zero_add, flipBit, if_pos state]
  have count : op.value.toNat = 1 := by rw [value]; rfl
  rw [count, flipBits]
  dsimp only
  rw [draw, count, drawLoop_eq]
  by_cases same : word ||| powSubstitute 2 bit = word
  · have none : (List.range' 0 9).find? (fun _ => decide (word ||| powSubstitute 2 bit ≠ word)) = none := by
      simp [same]
    rw [none]
    simp [flipBits, same]
  · rw [List.range'_succ, List.find?_cons_of_pos (by simp [same])]
    simp [flipBits, same]

end Operate

theorem wordOfInt_toNat {value : Nat} (high : value < 2 ^ 31) : (wordOfInt value).toNat = value := by
  have bits : (Int32.ofInt value).toUInt32.toNat = (BitVec.ofInt 32 value).toNat := rfl
  rw [wordOfInt, UInt32.toNat_toUInt64, bits, BitVec.toNat_ofInt]
  omega

theorem or_mask_toNat {value bit : Nat} (high : value < 2 ^ 31) (small : bit < 31) :
    (wordOfInt value ||| powSubstitute 2 bit).toNat = value ||| 2 ^ bit := by
  have mask : 2 ^ bit < 2 ^ 64 := Nat.pow_lt_pow_right (by decide) (by omega)
  rw [UInt64.toNat_or, wordOfInt_toNat high, powSubstitute_two, UInt64.toNat_ofNat_of_lt' mask]

theorem or_two_pow_eq_iff (value bit : Nat) : value ||| 2 ^ bit = value ↔ value.testBit bit = true := by
  constructor
  · intro same
    rw [← same, Nat.testBit_or, Nat.testBit_two_pow_self, Bool.or_true]
  · intro set
    apply Nat.eq_of_testBit_eq
    intro index
    rw [Nat.testBit_or, Nat.testBit_two_pow]
    by_cases same : bit = index
    · subst same
      rw [set, Bool.true_or]
    · rw [decide_eq_false same, Bool.or_false]

/-- The bit of the word is set exactly when the mask changes nothing. -/
theorem or_mask_eq_iff {value bit : Nat} (high : value < 2 ^ 31) (small : bit < 31) :
    wordOfInt value ||| powSubstitute 2 bit = wordOfInt value ↔ value.testBit bit = true := by
  rw [← UInt64.toNat_inj, or_mask_toNat high small, wordOfInt_toNat high, or_two_pow_eq_iff]

theorem or_mask_cell {value bit : Nat} (high : value < 2 ^ 31) (small : bit < 31) :
    wordOfInt value ||| powSubstitute 2 bit = wordOfInt (value ||| 2 ^ bit : Nat) := by
  have mask : 2 ^ bit < 2 ^ 31 := Nat.pow_lt_pow_right (by decide) small
  rw [← UInt64.toNat_inj, or_mask_toNat high small, wordOfInt_toNat (Nat.or_lt_two_pow high mask)]

section Operate
variable {rand : Nat → Nat} {mutation opt old : Int} {type : DataType} {op : MutationOperator} {faqas : Faqas}

theorem operate_implemented {operation : Operation} (low : 0 ≤ old) (high : old < 2 ^ 16)
    (implemented : operation.Implemented type op opt) : Applies rand mutation opt type op old faqas operation := by
  have loaded : loadValue .int (wordOfInt old) = { int := old, bin := 0 } := by
    change LoadedValue.mk (intOfWord (wordOfInt old)) 0 = _
    rw [intOfWord_wordOfInt (by omega) (by omega)]
  cases operation with
  | draw min max =>
      obtain ⟨rfl, kind, first, last, order⟩ := implemented
      refine ⟨{ int := ((Operation.draw min max).apply rand old).1, bin := 0 }, ?_, rfl⟩
      rw [loaded]
      rcases kind with inv | fvor
      · simp only [operate, inv, redraw_int order first last]
      · simp only [operate, fvor, redraw_int order first last]
  | raise threshold delta =>
      obtain ⟨rfl, kind, rfl, rfl⟩ := implemented
      refine ⟨{ int := ((Operation.raise op.threshold op.delta).apply rand old).1, bin := 0 }, ?_, rfl⟩
      rw [loaded]
      by_cases applies : old ≤ op.threshold
      · simp [operate, kind, replaceIf_int, Operation.apply, applies]
      · simp [operate, kind, replaceIf_int, Operation.apply, applies]
  | lower threshold delta =>
      obtain ⟨rfl, kind, rfl, rfl⟩ := implemented
      refine ⟨{ int := ((Operation.lower op.threshold op.delta).apply rand old).1, bin := 0 }, ?_, rfl⟩
      rw [loaded]
      by_cases applies : op.threshold < old
      · simp [operate, kind, replaceIf_int, Operation.apply, applies]
      · simp [operate, kind, replaceIf_int, Operation.apply, applies]
  | leaveBelow min max delta =>
      obtain ⟨rfl, kind, rfl, rfl, rfl, rfl⟩ := implemented
      refine ⟨{ int := ((Operation.leaveBelow op.min op.max op.delta).apply rand old).1, bin := 0 }, ?_, rfl⟩
      rw [loaded]
      by_cases applies : op.min ≤ old ∧ old ≤ op.max
      · simp [operate, kind, leaveRange, Operation.apply, applies]
      · simp [operate, kind, leaveRange, Operation.apply, applies]
  | leaveAbove min max delta =>
      obtain ⟨rfl, kind, rfl, rfl, rfl, rfl⟩ := implemented
      refine ⟨{ int := ((Operation.leaveAbove op.min op.max op.delta).apply rand old).1, bin := 0 }, ?_, rfl⟩
      rw [loaded]
      by_cases applies : op.min ≤ old ∧ old ≤ op.max
      · simp [operate, kind, leaveRange, Operation.apply, applies]
      · simp [operate, kind, leaveRange, Operation.apply, applies]
  | shift delta =>
      obtain ⟨rfl, kind, rfl⟩ := implemented
      refine ⟨{ int := old + op.delta, bin := 0 }, ?_, rfl⟩
      rw [loaded]
      simp [operate, kind, Operation.apply]
  | setBit bit =>
      obtain ⟨rfl, kind, min, max, state, value, small⟩ := implemented
      obtain ⟨old, rfl⟩ := Int.eq_ofNat_of_zero_le low
      have inside : old < 2 ^ 31 := by omega
      refine ⟨{ int := 0, bin := wordOfInt old ||| powSubstitute 2 bit }, ?_,
        congrArg intOfWord (or_mask_cell inside small)⟩
      have flips := @flipBits_one rand op bit (wordOfInt old) min max state value
      have status : decide (wordOfInt old ||| powSubstitute 2 bit ≠ wordOfInt old) = !old.testBit bit := by
        rw [Bool.eq_iff_iff, decide_eq_true_eq, ne_eq, or_mask_eq_iff inside small]
        simp
      rw [status] at flips
      simp [operate, kind, loadValue, flips, Operation.apply]

end Operate

/-! ## One probe -/

/-- The tables of the generated file name the item, the operator and the operation of a mutant. -/
structure Generated (unset : ProbeSite → Nat → DataItem) (mutation : Int) (owner : ProbeSite) (item : Nat)
    (operation : Operation) : Prop where
  range : ∀ site : ProbeSite, site = owner ↔
    (site.fm (unset site)).minOperation ≤ mutation ∧ mutation < (site.fm (unset site)).maxOperation
  selects : (selectItem mutation).toNat = item
  span : ((owner.fm (unset owner)).items item).span = 1
  operator : operation.Implemented ((owner.fm (unset owner)).items item).type
    (((owner.fm (unset owner)).items item).operators (selectOperator mutation).toNat) (selectOperation mutation)

theorem mutants_length : mutants.length = 43 := rfl

theorem mutants_generated (unset : ProbeSite → Nat → DataItem) (mutation : Fin 43) :
    Generated unset mutation mutants[mutation].1 mutants[mutation].2.1 mutants[mutation].2.2 where
  range site := by
    have owner : ∀ mutation : Fin 43, mutants[mutation].1 = if mutation.val < 20 then .read else .send := by decide
    have inside := mutation.isLt
    rw [owner]
    cases site with
    | read =>
        change _ ↔ (0 : Int) ≤ (mutation : Nat) ∧ ((mutation : Nat) : Int) < 20
        split
        · exact iff_of_true rfl (by omega)
        · exact iff_of_false (by decide) (by omega)
    | send =>
        change _ ↔ (20 : Int) ≤ (mutation : Nat) ∧ ((mutation : Nat) : Int) < 43
        split
        · exact iff_of_false (by decide) (by omega)
        · exact iff_of_true rfl (by omega)
  selects := by
    have table : ∀ mutation : Fin 43, (selectItem mutation).toNat = mutants[mutation].2.1 := by decide
    exact table mutation
  span := by
    have table : ∀ mutation : Fin 43, ((mutants[mutation].1.fm (unset mutants[mutation].1)).items
        mutants[mutation].2.1).span = 1 := of_decide_eq_true rfl
    exact table mutation
  operator := by
    have table : ∀ mutation : Fin 43, mutants[mutation].2.2.Implemented
        ((mutants[mutation].1.fm (unset mutants[mutation].1)).items mutants[mutation].2.1).type
        (((mutants[mutation].1.fm (unset mutants[mutation].1)).items mutants[mutation].2.1).operators
          (selectOperator mutation).toNat) (selectOperation mutation) := of_decide_eq_true rfl
    exact table mutation

theorem mutantAt_generated (unset : ProbeSite → Nat → DataItem) {mutation : Int} {owner : ProbeSite} {item : Nat}
    {operation : Operation} (found : mutantAt mutation = some (owner, item, operation)) :
    Generated unset mutation owner item operation := by
  unfold mutantAt at found
  split at found
  · cases found
  · rename_i positive
    obtain ⟨number, rfl⟩ := Int.eq_ofNat_of_zero_le (Int.not_lt.mp positive)
    rw [Int.toNat_natCast] at found
    obtain ⟨inside, entry⟩ := List.getElem?_eq_some_iff.mp found
    have generated := mutants_generated unset ⟨number, inside⟩
    have same : mutants[(⟨number, inside⟩ : Fin 43)] = (owner, item, operation) := entry
    rwa [same] at generated

/-- The numbers outside the list belong to no fault model. -/
theorem mutantAt_none (unset : ProbeSite → Nat → DataItem) {mutation : Int} (none : mutantAt mutation = none)
    (site : ProbeSite) :
    mutation < (site.fm (unset site)).minOperation ∨ mutation ≥ (site.fm (unset site)).maxOperation := by
  have outside : mutation < 0 ∨ 43 ≤ mutation := by
    unfold mutantAt at none
    split at none
    · rename_i negative
      exact .inl negative
    · have behind := List.getElem?_eq_none_iff.mp none
      rw [mutants_length] at behind
      exact .inr (by omega)
  cases site with
  | read =>
      change mutation < 0 ∨ mutation ≥ 20
      omega
  | send =>
      change mutation < 20 ∨ mutation ≥ 43
      omega

theorem loadCells_one (data : ProbeBuffer) (pos : Nat) : loadCells data pos 1 = wordOfInt (data pos) := by
  have empty : loadCells data pos 0 = 0 := rfl
  have shifted : (0 : UInt64) <<< 32 = 0 := rfl
  rw [loadCells_succ, empty, shifted, UInt64.zero_or, Nat.add_zero]

theorem storeCells_one (data : ProbeBuffer) (pos : Nat) (number : UInt64) :
    storeCells data pos 1 number = Function.update data pos (intOfWord number) := by
  have cell : (sliceWord number 0).toInt32.toInt = intOfWord number := by rw [sliceWord_low, intOfWord]
  funext index
  rw [storeCells_apply]
  by_cases same : index = pos
  · subst same
    rw [if_pos (by omega), Function.update_self, Nat.sub_self]
    exact cell
  · rw [if_neg (by omega), Function.update_of_ne same]

theorem probeLoad_range (id : CspId) (item : Nat) : 0 ≤ probeLoad id item ∧ probeLoad id item < 2 ^ 16 := by
  have pri := id.pri.toNat_lt
  have src := id.src.toNat_lt
  have dst := id.dst.toNat_lt
  have dport := id.dport.toNat_lt
  have sport := id.sport.toNat_lt
  have flags := id.flags.toNat_lt
  unfold probeLoad
  split <;> omega

/-- The header fields see only the low bits of a cell. -/
theorem probeStore_congr {first second : ProbeBuffer} (same : ∀ index, first index % 2 ^ 16 = second index % 2 ^ 16) :
    probeStore first = probeStore second := by
  have word : ∀ index, UInt16.ofInt (first index) = UInt16.ofInt (second index) := by
    intro index
    rw [UInt16.ofInt, UInt16.ofInt, same]
  have byte : ∀ index, UInt8.ofInt (first index) = UInt8.ofInt (second index) := by
    intro index
    have low : first index % 2 ^ 8 = second index % 2 ^ 8 := by
      have := same index
      omega
    rw [UInt8.ofInt, UInt8.ofInt, low]
  simp only [probeStore, word, byte]

theorem probeStore_cell (data : ProbeBuffer) (item : Nat) (value : Int) :
    probeStore (Function.update data item (intOfWord (wordOfInt value))) = probeStore (Function.update data item value) := by
  have cell : intOfWord (wordOfInt value) % 2 ^ 16 = value % 2 ^ 16 := by
    rw [intOfWord, wordOfInt, UInt32.toUInt32_toUInt64, Int32.toInt32_toUInt32, Int32.toInt_ofInt, Int.bmod]
    simp only [Int32.size]
    omega
  apply probeStore_congr
  intro index
  by_cases same : index = item
  · subst same
    rw [Function.update_self, Function.update_self, cell]
  · rw [Function.update_of_ne same, Function.update_of_ne same]

/-- The state of the mutation engine after some probes of the mutant. -/
structure ProbedAs (faqas : Faqas) (lines : List CoverageLine) (reached : Nat) : Prop where
  coverage : faqas.coverage = lines
  counter : faqas.globalMutationCounter = reached + 1

/-- The mutant has reached its cell once more. -/
def Faqas.reach (faqas : Faqas) (mutation : Int) (applied : Bool) : Faqas :=
  { faqas.operatorCoverage mutation applied with
    mutated := true
    globalMutationCounter := faqas.globalMutationCounter + 1 }

/-- The mutant of a fault model writes one cell. -/
theorem mutate_owner {unset : ProbeSite → Nat → DataItem} {mutation : Int} {owner : ProbeSite} {item : Nat}
    {operation : Operation} (generated : Generated unset mutation owner item operation) (active : 0 ≤ mutation)
    (rand : Nat → Nat) (id : CspId) (faqas : Faqas) :
    mutate rand mutation (owner.fm (unset owner)) (probeLoad id) faqas =
      (Function.update (probeLoad id) item (intOfWord (wordOfInt (operation.apply rand (probeLoad id item)).1)),
        faqas.reach mutation (operation.apply rand (probeLoad id item)).2) := by
  obtain ⟨low, high⟩ := probeLoad_range id item
  obtain ⟨value, result, cell⟩ := @operate_implemented rand mutation _ _ _ _ faqas operation low high generated.operator
  have inside := (generated.range owner).mp rfl
  rw [mutate, if_neg (by omega), if_neg (by omega), if_neg (by omega), if_neg (by omega)]
  simp only [generated.selects, generated.span, loadCells_one, result, if_true, storeCells_one, cell]
  rfl

theorem mutantAt_mem {mutation : Int} {entry : ProbeSite × Nat × Operation}
    (found : mutantAt mutation = some entry) : 0 ≤ mutation ∧ entry ∈ mutants := by
  unfold mutantAt at found
  split at found
  · cases found
  · rename_i positive
    exact ⟨Int.not_lt.mp positive, List.mem_of_getElem? found⟩

/-- A probe outside the range of its fault model changes nothing and writes a line. -/
theorem mutate_other {fm : FaultModel} {mutation : Int} (active : mutation ≠ -1 ∧ mutation ≠ -2 ∧ mutation ≠ -3)
    (outside : mutation < fm.minOperation ∨ mutation ≥ fm.maxOperation) (rand : Nat → Nat) (data : ProbeBuffer)
    (faqas : Faqas) : mutate rand mutation fm data faqas = (data, faqas.operatorCoverage mutation false) := by
  rw [mutate, if_neg active.1, if_neg active.2.1, if_neg active.2.2, if_pos outside]

theorem fmCoverage_keeps (faqas : Faqas) (fm : Nat) :
    (faqas.fmCoverage fm).coverage = faqas.coverage ∧
      (faqas.fmCoverage fm).globalMutationCounter = faqas.globalMutationCounter := by
  unfold Faqas.fmCoverage
  split
  · exact ⟨rfl, rfl⟩
  · exact ⟨rfl, rfl⟩

/-- The three negative options leave the header alone. One of them names the fault model. -/
theorem mutate_inactive {mutation : Int} (inactive : ¬(mutation ≠ -1 ∧ mutation ≠ -2 ∧ mutation ≠ -3))
    (rand : Nat → Nat) (fm : FaultModel) (data : ProbeBuffer) (faqas : Faqas) :
    (mutate rand mutation fm data faqas).1 = data ∧
      (mutate rand mutation fm data faqas).2.coverage =
        faqas.coverage ++ (if mutation = -2 then [.model fm.id] else []) ∧
      (mutate rand mutation fm data faqas).2.globalMutationCounter = faqas.globalMutationCounter := by
  obtain ⟨coverage, counter⟩ := fmCoverage_keeps faqas fm.id
  obtain rfl | rfl | rfl : mutation = -1 ∨ mutation = -2 ∨ mutation = -3 := by omega
  · exact ⟨rfl, (List.append_nil _).symm, rfl⟩
  · exact ⟨rfl, congrArg (· ++ _) coverage, counter⟩
  · exact ⟨rfl, coverage.trans (List.append_nil _).symm, counter⟩

/-- The fault model of a probe does to the header and to the coverage file what the fault model file says. -/
theorem mutate_spec (unset : ProbeSite → Nat → DataItem) (mutation : Int) (site : ProbeSite) (rand : Nat → Nat)
    (id : CspId) {faqas : Faqas} {lines : List CoverageLine} {reached : Nat} (probed : ProbedAs faqas lines reached) :
    probeStore (mutate rand mutation (site.fm (unset site)) (probeLoad id) faqas).1 =
        (specProbe mutation site rand id reached).1 ∧
      ProbedAs (mutate rand mutation (site.fm (unset site)) (probeLoad id) faqas).2
        (lines ++ (specProbe mutation site rand id reached).2.1) (specProbe mutation site rand id reached).2.2 := by
  obtain ⟨rfl, counter⟩ := probed
  have unchanged : probeStore (probeLoad id) = id := probeStore_load id
  have model : (site.fm (unset site)).id = site.model := by cases site <;> rfl
  by_cases active : mutation ≠ -1 ∧ mutation ≠ -2 ∧ mutation ≠ -3
  · have quiet : ¬(mutation = -1 ∨ mutation = -3) := by omega
    rw [specProbe, if_neg quiet, if_neg active.2.1]
    have skipped : ∀ outside : mutation < (site.fm (unset site)).minOperation ∨
          mutation ≥ (site.fm (unset site)).maxOperation,
        probeStore (mutate rand mutation (site.fm (unset site)) (probeLoad id) faqas).1 = id ∧
          ProbedAs (mutate rand mutation (site.fm (unset site)) (probeLoad id) faqas).2
            (faqas.coverage ++ [.operator mutation (reached + 1) false]) reached := by
      intro outside
      rw [mutate_other active outside]
      exact ⟨unchanged, by rw [← counter]; rfl, counter⟩
    cases found : mutantAt mutation with
    | none => exact skipped (mutantAt_none unset found site)
    | some entry =>
        obtain ⟨owner, item, operation⟩ := entry
        have generated := mutantAt_generated unset found
        dsimp only
        by_cases mine : owner = site
        · subst mine
          rw [if_pos rfl, mutate_owner generated (mutantAt_mem found).1]
          exact ⟨probeStore_cell _ _ _, by rw [← counter]; rfl, congrArg (· + 1) counter⟩
        · have outside := mt (generated.range site).mpr (Ne.symm mine)
          rw [if_neg mine]
          exact skipped (by omega)
  · obtain ⟨data, lines, count⟩ := mutate_inactive active rand (site.fm (unset site)) (probeLoad id) faqas
    have spec : specProbe mutation site rand id reached =
        (id, if mutation = -2 then [.model site.model] else [], reached) := by
      obtain rfl | rfl | rfl : mutation = -1 ∨ mutation = -2 ∨ mutation = -3 := by omega
      · rfl
      · rfl
      · rfl
    rw [spec, data, unchanged]
    exact ⟨rfl, by rw [lines, model], count.trans counter⟩

/-! ## A run -/

/-- A call of an instrumented function, with the values of `rand` in its probe. -/
structure ProbeCall where
  site : ProbeSite
  id : CspId
  rand : Nat → Nat

/-- The headers behind the probes of a run, the pointers to the fault models and the state of the mutation engine. -/
def faqasRun (singleton : Bool) (unset : ProbeSite → Nat → DataItem) (mutation : Int) :
    List ProbeCall → (ProbeSite → FmPointer) → Faqas → Option (List CspId × (ProbeSite → FmPointer) × Faqas)
  | [], pointers, faqas => some ([], pointers, faqas)
  | call :: calls, pointers, faqas => do
      let (id, pointers, faqas) ← faqasProbe singleton unset mutation call.site call.rand call.id pointers faqas
      let (ids, rest) ← faqasRun singleton unset mutation calls pointers faqas
      return (id :: ids, rest)

/-- The headers and the coverage lines that the fault model file describes. -/
def specRun (mutation : Int) : List ProbeCall → Nat → List CspId × List CoverageLine
  | [], _ => ([], [])
  | call :: calls, reached =>
      let (id, lines, reached) := specProbe mutation call.site call.rand call.id reached
      let (ids, more) := specRun mutation calls reached
      (id :: ids, lines ++ more)

/-- No probe uses freed memory: fault models are not freed, or each probe is called at most once. -/
def KeepsModels (singleton : Bool) (calls : List ProbeCall) : Prop :=
  singleton = true ∨ (calls.map ProbeCall.site).Nodup

section Run
variable {singleton : Bool} {unset : ProbeSite → Nat → DataItem} {mutation : Int}
  {pointers : ProbeSite → FmPointer} {faqas : Faqas}

/-- A probe with a usable fault model. -/
theorem faqasProbe_some {call : ProbeCall} {fm : FaultModel} (got : faqasFm unset call.site (pointers call.site) = some fm) :
    faqasProbe singleton unset mutation call.site call.rand call.id pointers faqas =
      some (probeStore (mutate call.rand mutation fm (probeLoad call.id) faqas).1,
        Function.update pointers call.site (faqasDeleteFm singleton fm),
        (mutate call.rand mutation fm (probeLoad call.id) faqas).2) := by
  rw [faqasProbe, mutateFm, got]
  rfl

theorem faqasProbe_none {call : ProbeCall} (freed : pointers call.site = .freed) :
    faqasProbe singleton unset mutation call.site call.rand call.id pointers faqas = none := by
  rw [faqasProbe, mutateFm, freed]
  rfl

/-- With usable fault models the rest of a run is as the fault model file says. -/
theorem faqasRun_continues {calls : List ProbeCall} {lines : List CoverageLine} {reached : Nat}
    (keeps : KeepsModels singleton calls) (usable : ∀ site ∈ calls.map ProbeCall.site,
      faqasFm unset site (pointers site) = some (site.fm (unset site))) (probed : ProbedAs faqas lines reached) :
    ∃ pointers' faqas', faqasRun singleton unset mutation calls pointers faqas =
        some ((specRun mutation calls reached).1, pointers', faqas') ∧
      faqas'.coverage = lines ++ (specRun mutation calls reached).2 := by
  induction calls generalizing pointers faqas lines reached with
  | nil => exact ⟨pointers, faqas, rfl, probed.coverage.trans (List.append_nil _).symm⟩
  | cons call calls ih =>
      rw [List.map_cons] at usable
      have got := usable call.site List.mem_cons_self
      obtain ⟨id, after⟩ := mutate_spec unset mutation call.site call.rand call.id probed
      have later : ∀ site ∈ calls.map ProbeCall.site,
          faqasFm unset site (Function.update pointers call.site
            (faqasDeleteFm singleton (call.site.fm (unset call.site))) site) = some (site.fm (unset site)) := by
        intro site member
        by_cases same : site = call.site
        · subst same
          rcases keeps with rfl | distinct
          · rw [Function.update_self]
            rfl
          · rw [List.map_cons, List.nodup_cons] at distinct
            exact absurd member distinct.1
        · rw [Function.update_of_ne same]
          exact usable site (List.mem_cons_of_mem _ member)
      obtain ⟨pointers', faqas', run, coverage⟩ := ih (keeps.imp_right fun distinct => distinct.of_cons) later after
      refine ⟨pointers', faqas', ?_, ?_⟩
      · rw [faqasRun, faqasProbe_some got, id]
        simp only [Option.bind_eq_bind, Option.bind_some, run]
        rfl
      · rw [coverage, List.append_assoc]
        rfl

/-- A run that comes to a probe with a freed fault model has no result. -/
theorem faqasRun_freed {calls : List ProbeCall} {site : ProbeSite} (freed : pointers site = .freed)
    (called : site ∈ calls.map ProbeCall.site) :
    faqasRun false unset mutation calls pointers faqas = none := by
  induction calls generalizing pointers faqas with
  | nil => cases called
  | cons call calls ih =>
      by_cases same : pointers call.site = .freed
      · rw [faqasRun, faqasProbe_none same]
        rfl
      · have other : site ≠ call.site := fun equal => same (equal ▸ freed)
        rw [List.map_cons, List.mem_cons, or_iff_right other] at called
        obtain ⟨fm, got⟩ : ∃ fm, faqasFm unset call.site (pointers call.site) = some fm := by
          cases pointer : pointers call.site with
          | null => exact ⟨_, rfl⟩
          | cached fm => exact ⟨fm, rfl⟩
          | freed => exact absurd pointer same
        rw [faqasRun, faqasProbe_some got]
        simp only [Option.bind_eq_bind, Option.bind_some]
        rw [ih (by rw [Function.update_of_ne other]; exact freed) called]
        rfl

/-- Without the option a run that calls a probe twice has no result. -/
theorem faqasRun_twice {calls : List ProbeCall} (twice : ¬(calls.map ProbeCall.site).Nodup) :
    faqasRun false unset mutation calls pointers faqas = none := by
  induction calls generalizing pointers faqas with
  | nil => exact absurd List.nodup_nil twice
  | cons call calls ih =>
      rw [faqasRun]
      cases pointer : faqasProbe false unset mutation call.site call.rand call.id pointers faqas with
      | none => rfl
      | some result =>
          have rest : faqasRun false unset mutation calls result.2.1 result.2.2 = none := by
            rw [List.map_cons, List.nodup_cons, not_and_or, not_not] at twice
            rcases twice with again | twice
            · refine faqasRun_freed ?_ again
              cases got : faqasFm unset call.site (pointers call.site) with
              | none =>
                  rw [faqasProbe, mutateFm, got] at pointer
                  cases pointer
              | some fm =>
                  rw [faqasProbe_some got] at pointer
                  cases pointer
                  exact Function.update_self _ _ _
            · exact ih twice
          simp only [Option.bind_eq_bind, Option.bind_some, rest]
          rfl

end Run

/-- The number of values of a header field. -/
def fieldSize (item : Nat) : Int := if item = 2 ∨ item = 3 then 2 ^ 16 else 2 ^ 8

/-- The values of an operation are values of a field, and they differ from the ones that they replace. -/
def Operation.Fits (size : Int) : Operation → Prop
  | .draw min max => 0 ≤ min ∧ min < max ∧ max < size
  | .raise threshold delta => 0 < delta ∧ 0 ≤ threshold + delta ∧ threshold + delta < size
  | .lower threshold delta => 0 ≤ delta ∧ 0 ≤ threshold - delta ∧ threshold - delta < size
  | .leaveBelow min _ delta => 0 < delta ∧ 0 ≤ min - delta ∧ min - delta < size
  | .leaveAbove _ max delta => 0 < delta ∧ 0 ≤ max + delta ∧ max + delta < size
  | .shift delta => delta = 1 ∨ delta = -1
  | .setBit bit => bit < 8

instance (size : Int) : (operation : Operation) → Decidable (operation.Fits size)
  | .draw _ _ => inferInstanceAs (Decidable (_ ∧ _))
  | .raise _ _ => inferInstanceAs (Decidable (_ ∧ _))
  | .lower _ _ => inferInstanceAs (Decidable (_ ∧ _))
  | .leaveBelow _ _ _ => inferInstanceAs (Decidable (_ ∧ _))
  | .leaveAbove _ _ _ => inferInstanceAs (Decidable (_ ∧ _))
  | .shift _ => inferInstanceAs (Decidable (_ ∨ _))
  | .setBit _ => inferInstanceAs (Decidable (_ < _))

/-- A redraw gives up when its first 999 values are the old one. -/
def Operation.Exhausts (rand : Nat → Nat) (old : Int) : Operation → Prop
  | .draw min max => ∀ index < 999, drawn rand min max index = old
  | _ => False

theorem mutants_fit : ∀ entry ∈ mutants, entry.2.2.Fits (fieldSize entry.2.1) := by decide

theorem mutants_fields : ∀ entry ∈ mutants, entry.2.1 ∈ [1, 2, 3, 4, 5, 6] := by decide

theorem apply_draw (rand : Nat → Nat) (old min max : Int) :
    (Operation.Exhausts rand old (.draw min max) ∧
        (Operation.draw min max).apply rand old = (drawn rand min max 999, false)) ∨
      ∃ index, drawn rand min max index ≠ old ∧ ¬Operation.Exhausts rand old (.draw min max) ∧
        (Operation.draw min max).apply rand old = (drawn rand min max index, true) := by
  rw [Operation.apply]
  cases found : (List.range' 0 999).find? fun index => drawn rand min max index ≠ old with
  | none =>
      refine .inl ⟨fun index inside => ?_, rfl⟩
      have all := List.find?_eq_none.mp found index (List.mem_range'_1.mpr (by omega))
      simpa using all
  | some index =>
      have different := List.find?_some found
      have member := List.mem_range'_1.mp (List.mem_of_find?_eq_some found)
      simp only [ne_eq, decide_not, Bool.not_eq_eq_eq_not, Bool.not_true, decide_eq_false_iff_not] at different
      exact .inr ⟨index, different, fun all => different (all index (by omega)), rfl⟩

theorem drawn_range (rand : Nat → Nat) {min max : Int} (order : min < max) (index : Nat) :
    min ≤ drawn rand min max index ∧ drawn rand min max index ≤ max := by
  have low := Int.emod_nonneg (rand index : Int) (show max - min + 1 ≠ 0 by omega)
  have high := Int.emod_lt_of_pos (rand index : Int) (show 0 < max - min + 1 by omega)
  rw [drawn]
  omega

theorem replaced_status {applies : Prop} [Decidable applies] {size old value : Int} (low : 0 ≤ old) (high : old < size)
    (above : 0 ≤ value) (below : value < size) (different : applies → value ≠ old) :
    (if applies then (value, true) else (old, false)).2 = true ↔
      (if applies then (value, true) else (old, false)).1 % size ≠ old ∧ ¬False := by
  by_cases done : applies
  · rw [if_pos done]
    dsimp only
    rw [Int.emod_eq_of_lt above below]
    exact iff_of_true rfl ⟨different done, not_false⟩
  · rw [if_neg done]
    dsimp only
    rw [Int.emod_eq_of_lt low high]
    exact iff_of_false Bool.false_ne_true fun both => both.1 rfl

/-- The status of an operation tells whether the field changed, unless a redraw gave up. -/
theorem Operation.apply_status {operation : Operation} {size old : Int} (fits : operation.Fits size)
    (wide : size = 2 ^ 8 ∨ size = 2 ^ 16) (low : 0 ≤ old) (high : old < size) (rand : Nat → Nat) :
    (operation.apply rand old).2 = true ↔
      (operation.apply rand old).1 % size ≠ old ∧ ¬operation.Exhausts rand old := by
  cases operation with
  | draw min max =>
      obtain ⟨positive, order, below⟩ := fits
      rcases apply_draw rand old min max with ⟨exhausted, result⟩ | ⟨index, different, fresh, result⟩
      · rw [result]
        exact iff_of_false Bool.false_ne_true fun both => both.2 exhausted
      · obtain ⟨after, before⟩ := drawn_range rand order index
        rw [result, Int.emod_eq_of_lt (by omega) (by omega)]
        exact iff_of_true rfl ⟨different, fresh⟩
  | raise threshold delta => exact replaced_status low high fits.2.1 fits.2.2 (by have := fits.1; omega)
  | lower threshold delta => exact replaced_status low high fits.2.1 fits.2.2 (by have := fits.1; omega)
  | leaveBelow min max delta => exact replaced_status low high fits.2.1 fits.2.2 (by have := fits.1; omega)
  | leaveAbove min max delta => exact replaced_status low high fits.2.1 fits.2.2 (by have := fits.1; omega)
  | shift delta =>
      have moved : (old + delta) % size ≠ old := by
        rcases fits with rfl | rfl <;> rcases wide with rfl | rfl <;> omega
      exact iff_of_true rfl ⟨moved, not_false⟩
  | setBit bit =>
      obtain ⟨old, rfl⟩ := Int.eq_ofNat_of_zero_le low
      have small : (old : Int) < 2 ^ 16 := by rcases wide with rfl | rfl <;> omega
      have mask : 2 ^ bit ≤ 2 ^ 7 := Nat.pow_le_pow_right (by decide) (Nat.le_of_lt_succ fits)
      have inside : ((old ||| 2 ^ bit : Nat) : Int) < size := by
        rcases wide with rfl | rfl
        · exact_mod_cast @Nat.or_lt_two_pow old (2 ^ bit) 8 (by omega) (by omega)
        · exact_mod_cast @Nat.or_lt_two_pow old (2 ^ bit) 16 (by omega) (by omega)
      change (!old.testBit bit) = true ↔ ((old ||| 2 ^ bit : Nat) : Int) % size ≠ old ∧ ¬False
      rw [Int.emod_eq_of_lt (Int.natCast_nonneg _) inside, ne_eq, Int.natCast_inj, or_two_pow_eq_iff]
      simp

/-! ## The fields of a header -/

theorem toNat_ofInt8 (value : Int) : ((UInt8.ofInt value).toNat : Int) = value % 2 ^ 8 := by
  rw [UInt8.ofInt, UInt8.toNat_ofNat_of_lt' (by simp only [UInt8.size]; omega)]
  omega

theorem toNat_ofInt16 (value : Int) : ((UInt16.ofInt value).toNat : Int) = value % 2 ^ 16 := by
  rw [UInt16.ofInt, UInt16.toNat_ofNat_of_lt' (by simp only [UInt16.size]; omega)]
  omega

/-- A header keeps the low bits of the cells. -/
theorem probeLoad_probeStore (data : ProbeBuffer) (item : Nat) :
    probeLoad (probeStore data) item = if item ∈ [1, 2, 3, 4, 5, 6] then data item % fieldSize item else 0 := by
  rcases item with _ | _ | _ | _ | _ | _ | _ | item
  · rfl
  · exact toNat_ofInt8 _
  · exact toNat_ofInt16 _
  · exact toNat_ofInt16 _
  · exact toNat_ofInt8 _
  · exact toNat_ofInt8 _
  · exact toNat_ofInt8 _
  · rw [if_neg (by simp)]
    rfl

theorem probeLoad_small (id : CspId) (item : Nat) : 0 ≤ probeLoad id item ∧ probeLoad id item < fieldSize item := by
  have same := probeLoad_probeStore (probeLoad id) item
  have positive : 0 < fieldSize item := by
    unfold fieldSize
    split <;> decide
  rw [probeStore_load] at same
  rw [same]
  split
  · exact ⟨Int.emod_nonneg _ (by omega), Int.emod_lt_of_pos _ positive⟩
  · exact ⟨Int.le_refl 0, positive⟩

theorem probeLoad_store (id : CspId) {item : Nat} (field : item ∈ [1, 2, 3, 4, 5, 6]) (value : Int) (other : Nat) :
    probeLoad (probeStore (Function.update (probeLoad id) item value)) other =
      if other = item then value % fieldSize item else probeLoad id other := by
  have before := probeLoad_probeStore (probeLoad id) other
  rw [probeStore_load] at before
  rw [probeLoad_probeStore]
  by_cases same : other = item
  · subst same
    rw [if_pos field, if_pos rfl, Function.update_self]
  · rw [if_neg same, Function.update_of_ne same, ← before]

/-- The header changes exactly when the field does. -/
theorem probeStore_eq_iff (id : CspId) {item : Nat} (field : item ∈ [1, 2, 3, 4, 5, 6]) (value : Int) :
    probeStore (Function.update (probeLoad id) item value) = id ↔ value % fieldSize item = probeLoad id item := by
  constructor
  · intro same
    have cell := probeLoad_store id field value item
    rwa [same, if_pos rfl, eq_comm] at cell
  · intro same
    have cells : probeLoad (probeStore (Function.update (probeLoad id) item value)) = probeLoad id := by
      funext other
      rw [probeLoad_store id field]
      by_cases this : other = item
      · subst this
        rw [if_pos rfl, same]
      · rw [if_neg this]
    rw [← probeStore_load (probeStore _), cells, probeStore_load]

/-! ## The coverage file -/

/-- The mutant redraws the field, and its first 999 values are the old one. -/
def GivesUp (mutation : Int) (call : ProbeCall) : Prop :=
  ∃ item operation, mutantAt mutation = some (call.site, item, operation) ∧
    operation.Exhausts call.rand (probeLoad call.id item)

/-- A line of the coverage file is true of its probe. -/
structure Reports (mutation : Int) (call : ProbeCall) (id : CspId) (line : CoverageLine) : Prop where
  line : ∃ counter status, line = .operator mutation counter status ∧
    (status = true ↔ id ≠ call.id ∧ ¬GivesUp mutation call)
  frame : ∀ other, probeLoad id other ≠ probeLoad call.id other →
    ∃ operation, mutantAt mutation = some (call.site, other, operation)

theorem specProbe_owner {mutation : Int} {call : ProbeCall} {item : Nat} {operation : Operation}
    (found : mutantAt mutation = some (call.site, item, operation)) (counter : Nat) :
    Reports mutation call (probeStore (Function.update (probeLoad call.id) item
        (operation.apply call.rand (probeLoad call.id item)).1))
      (.operator mutation counter (operation.apply call.rand (probeLoad call.id item)).2) where
  line := by
    have member := (mutantAt_mem found).2
    obtain ⟨low, high⟩ := probeLoad_small call.id item
    have wide : fieldSize item = 2 ^ 8 ∨ fieldSize item = 2 ^ 16 := by
      unfold fieldSize
      split
      · exact .inr rfl
      · exact .inl rfl
    have gives : GivesUp mutation call ↔ operation.Exhausts call.rand (probeLoad call.id item) := by
      constructor
      · rintro ⟨item', operation', found', exhausted⟩
        rw [found] at found'
        obtain ⟨rfl, rfl⟩ : item = item' ∧ operation = operation' := by simpa using found'
        exact exhausted
      · intro exhausted
        exact ⟨item, operation, found, exhausted⟩
    refine ⟨_, _, rfl, ?_⟩
    rw [Operation.apply_status (mutants_fit _ member) wide low high call.rand, gives, ne_eq, ne_eq,
      probeStore_eq_iff call.id (mutants_fields _ member)]
  frame other different := by
    rw [probeLoad_store call.id (mutants_fields _ (mutantAt_mem found).2)] at different
    by_cases same : other = item
    · subst same
      exact ⟨operation, found⟩
    · rw [if_neg same] at different
      exact absurd rfl different

theorem specProbe_reports {mutation : Int} (active : mutation ≠ -1 ∧ mutation ≠ -2 ∧ mutation ≠ -3)
    (call : ProbeCall) (reached : Nat) :
    ∃ line, (specProbe mutation call.site call.rand call.id reached).2.1 = [line] ∧
      Reports mutation call (specProbe mutation call.site call.rand call.id reached).1 line := by
  have quiet : ¬(mutation = -1 ∨ mutation = -3) := by omega
  have skipped : Reports mutation call call.id (.operator mutation (reached + 1) false) :=
    ⟨⟨_, _, rfl, iff_of_false Bool.false_ne_true fun both => both.1 rfl⟩, fun _ changed => absurd rfl changed⟩
  rw [specProbe, if_neg quiet, if_neg active.2.1]
  cases found : mutantAt mutation with
  | none => exact ⟨_, rfl, skipped⟩
  | some entry =>
      obtain ⟨owner, item, operation⟩ := entry
      dsimp only
      by_cases mine : owner = call.site
      · subst mine
        rw [if_pos rfl]
        exact ⟨_, rfl, specProbe_owner found _⟩
      · rw [if_neg mine]
        exact ⟨_, rfl, skipped⟩

theorem specRun_reports {mutation : Int} (active : mutation ≠ -1 ∧ mutation ≠ -2 ∧ mutation ≠ -3)
    (calls : List ProbeCall) (reached : Nat) :
    (specRun mutation calls reached).2.length = calls.length ∧
      List.Forall₂ (fun call out => Reports mutation call out.1 out.2) calls
        ((specRun mutation calls reached).1.zip (specRun mutation calls reached).2) := by
  induction calls generalizing reached with
  | nil => exact ⟨rfl, .nil⟩
  | cons call calls ih =>
      obtain ⟨line, lines, reports⟩ := specProbe_reports active call reached
      obtain ⟨length, rest⟩ := ih (specProbe mutation call.site call.rand call.id reached).2.2
      rw [specRun]
      dsimp only
      rw [lines]
      exact ⟨congrArg (· + 1) length, .cons reports rest⟩

/-- Fault models in memory that was zero before. -/
def zeroItems (_ : ProbeSite) (_ : Nat) : DataItem where
  type := .int
  span := 0
  operatorsN := 0
  operators _ := { type := .bf, min := 0, max := 0, threshold := 0, delta := 0, state := 0, value := 0 }

/-- Two reads and a send with the mutant of a bit. -/
def bitCalls : List ProbeCall := [⟨.read, default, id⟩, ⟨.send, default, id⟩, ⟨.read, default, id⟩]

end Libcsp

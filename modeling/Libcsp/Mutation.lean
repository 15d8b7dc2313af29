/-
This file models FAQAS_dataDrivenMutator.h: the fault models of the two probes and the mutation of a buffer.
-/
import Libcsp.Probe

namespace Libcsp

/-! ## Arithmetic -/

/-- This is `FAQAS_pow_substitute`. The 64-bit product wraps. -/
def powSubstitute (base power : Int) : UInt64 :=
  if power < 0 then 0 else (List.range power.toNat).foldl (fun result _ => result * UInt64.ofInt base) 1

/-- One pass of the loop of `_FAQAS_slice_it_up`. -/
def sliceStep (numberToSlice : UInt64) (sliceStart : Nat) (slice : UInt64) (i : Nat) : UInt64 :=
  let mask := powSubstitute 2 i
  let relevant := numberToSlice &&& mask
  if relevant = mask then slice ||| powSubstitute 2 (i - sliceStart : Nat) else slice

/-- This is `_FAQAS_slice_it_up`. -/
def sliceItUp (numberToSlice : UInt64) (sliceStart sliceEnd : Nat) : UInt64 :=
  (List.range' sliceStart (sliceEnd + 1 - sliceStart)).foldl (sliceStep numberToSlice sliceStart) 0

/-- The unsigned word of an `int`. -/
def wordOfInt (value : Int) : UInt64 := (Int32.ofInt value).toUInt32.toUInt64

/-- The `int` of the low 32 bits. -/
def intOfWord (word : UInt64) : Int := word.toUInt32.toInt32.toInt

/-! ## Fault models -/

/-- The data types that the fault models of this repository use. -/
inductive DataType where
  | int
  | bin
  deriving DecidableEq, Repr

inductive MutationType where
  | bf
  | iv
  | vor
  | fvor
  | vat
  | fvat
  | vbt
  | fvbt
  | inv
  | ss
  | asa
  | hv
  deriving DecidableEq, Repr

/-- The source holds the bounds as `double`. They are whole numbers. -/
structure MutationOperator where
  type : MutationType
  min : Int
  max : Int
  threshold : Int
  delta : Int
  state : Int
  value : Int

structure DataItem where
  type : DataType
  span : Nat
  operatorsN : Nat
  operators : Nat → MutationOperator

structure FaultModel where
  itemsN : Nat
  id : Nat
  minOperation : Int
  maxOperation : Int
  items : Nat → DataItem

/-- The two instrumented functions. -/
inductive ProbeSite where
  | read
  | send
  deriving DecidableEq, Repr

/-- The items 2 and 3 have these operators. -/
def addressItem (unset : DataItem) : DataItem where
  type := .int
  span := 1
  operatorsN := 2
  operators := fun
    | 0 => { unset.operators 0 with type := .inv, min := 0, max := 31 }
    | 1 => { unset.operators 1 with type := .vat, threshold := 31, delta := 1 }
    | other => unset.operators other

/-- The items 4 and 5 have these operators. -/
def portItem (unset : DataItem) : DataItem where
  type := .int
  span := 1
  operatorsN := 5
  operators := fun
    | 0 => { unset.operators 0 with type := .inv, min := 8, max := 30 }
    | 1 => { unset.operators 1 with type := .vor, min := 8, max := 30, delta := 1 }
    | 2 => { unset.operators 2 with type := .fvor, min := 8, max := 30 }
    | 3 => { unset.operators 3 with type := .ss, delta := 1 }
    | 4 => { unset.operators 4 with type := .ss, delta := -1 }
    | other => unset.operators other

def flagsItem (unset : DataItem) : DataItem where
  type := .bin
  span := 1
  operatorsN := 4
  operators := fun
    | 0 => { unset.operators 0 with type := .bf, min := 0, max := 0, state := 0, value := 1 }
    | 1 => { unset.operators 1 with type := .bf, min := 1, max := 1, state := 0, value := 1 }
    | 2 => { unset.operators 2 with type := .bf, min := 2, max := 2, state := 0, value := 1 }
    | 3 => { unset.operators 3 with type := .bf, min := 3, max := 3, state := 0, value := 1 }
    | other => unset.operators other

def priorityItem (unset : DataItem) : DataItem where
  type := .int
  span := 1
  operatorsN := 6
  operators := fun
    | 3 => { unset.operators 3 with type := .inv, min := 0, max := 3 }
    | 4 => { unset.operators 4 with type := .vat, threshold := 3, delta := 1 }
    | 5 => { unset.operators 5 with type := .fvat, threshold := 3, delta := 1 }
    | other => unset.operators other

/-- This is `_FAQAS_Read_FM`. The allocated memory has arbitrary content before. -/
def readFm (unset : Nat → DataItem) : FaultModel where
  itemsN := 7
  id := 0
  minOperation := 0
  maxOperation := 20
  items := fun
    | 2 => addressItem (unset 2)
    | 3 => addressItem (unset 3)
    | 4 => portItem (unset 4)
    | 5 => portItem (unset 5)
    | 6 => flagsItem (unset 6)
    | other => unset other

/-- This is `_FAQAS_Send_FM`. -/
def sendFm (unset : Nat → DataItem) : FaultModel where
  itemsN := 7
  id := 1
  minOperation := 20
  maxOperation := 43
  items := fun
    | 1 => priorityItem (unset 1)
    | 2 => addressItem (unset 2)
    | 3 => addressItem (unset 3)
    | 4 => portItem (unset 4)
    | 5 => portItem (unset 5)
    | 6 => flagsItem (unset 6)
    | other => unset other

def ProbeSite.fm (site : ProbeSite) (unset : Nat → DataItem) : FaultModel :=
  match site with
  | .read => readFm unset
  | .send => sendFm unset

/-! ## The numbers of the mutants -/

def selectFrom (table : List Int) (mutation : Int) : Int :=
  if mutation < 0 then -999 else table.getD mutation.toNat (-999)

/-- This is `_FAQAS_selectItem`. -/
def selectItem : Int → Int :=
  selectFrom [2, 2, 3, 3, 4, 4, 4, 4, 4, 4, 5, 5, 5, 5, 5, 5, 6, 6, 6, 6, 1, 1, 1, 2, 2, 3, 3, 4, 4, 4, 4, 4, 4,
    5, 5, 5, 5, 5, 5, 6, 6, 6, 6]

/-- This is `_FAQAS_selectOperator`. -/
def selectOperator : Int → Int :=
  selectFrom [0, 1, 0, 1, 0, 1, 1, 2, 3, 4, 0, 1, 1, 2, 3, 4, 0, 1, 2, 3, 3, 4, 5, 0, 1, 0, 1, 0, 1, 1, 2, 3, 4,
    0, 1, 1, 2, 3, 4, 0, 1, 2, 3]

/-- This is `_FAQAS_selectOperation`. -/
def selectOperation : Int → Int :=
  selectFrom [0, 0, 0, 0, 0, 0, 1, 0, 0, 0, 0, 0, 1, 0, 0, 0, 0, 0, 0, 0, 0, 0, 0, 0, 0, 0, 0, 0, 0, 1, 0, 0, 0,
    0, 0, 1, 0, 0, 0, 0, 0, 0, 0]

/-! ## The state between the probes -/

/-- A line of the coverage file. -/
inductive CoverageLine where
  | operator (operatorId : Int) (counter : Nat) (status : Bool)
  | model (id : Nat)
  deriving DecidableEq, Repr

/-- The global variables. -/
structure Faqas where
  mutated : Bool
  globalMutationCounter : Nat
  storedValueInt : Int
  storedValueBin : UInt64
  repeatCounter : Int
  sample : Int
  fmCov : Nat
  coverage : List CoverageLine

def Faqas.init : Faqas where
  mutated := false
  globalMutationCounter := 1
  storedValueInt := 0
  storedValueBin := 0
  repeatCounter := 0
  sample := 1
  fmCov := 0
  coverage := []

/-- This is `_FAQAS_operator_coverage` with the current counter. -/
def Faqas.operatorCoverage (faqas : Faqas) (mutation : Int) (status : Bool) : Faqas :=
  { faqas with coverage := faqas.coverage ++ [.operator mutation faqas.globalMutationCounter status] }

/-- The variables `valueInt` and `valueBin`. -/
structure LoadedValue where
  int : Int
  bin : UInt64
  deriving DecidableEq

/-! ## The operators -/

/-- A loop draws until the value differs from the old one. The last of the allowed draws counts as a failure. -/
def drawLoop {Value : Type} [DecidableEq Value] (draw : Nat → Value) (old : Value) :
    Nat → Nat → Value × Nat × Bool
  | next, 0 => (old, next, true)
  | next, 1 => (draw next, next + 1, false)
  | next, left + 2 =>
      if draw next = old then drawLoop draw old (next + 1) (left + 1) else (draw next, next + 1, true)

/-- The branches for `INV` and `FVOR` have the same body. -/
def redraw (rand : Nat → Nat) (op : MutationOperator) (type : DataType) (value : LoadedValue) :
    LoadedValue × Bool :=
  match type with
  | .bin => (value, true)
  | .int =>
      let upper := op.max
      let lower := op.min
      if upper = lower then ({ value with int := upper }, true)
      else if upper < lower then (value, false)
      else
        let (randomNum, _, success) :=
          drawLoop (fun next => (rand next : Int) % (upper - lower + 1) + lower) value.int 0 1000
        ({ value with int := randomNum }, success)

/-- The first `if` of a bit flip sets a bit, the second clears one, and the last inverts one. -/
def flipBit (state : Int) (value mask : UInt64) : UInt64 :=
  if state = 0 then value ||| mask
  else if state = 1 then value &&& ~~~mask
  else if value &&& ~~~mask = value then value ||| mask
  else value &&& ~~~mask

/-- The loop of `BF` over the bits. It takes the number of the next random value and the success so far. -/
def flipBits (rand : Nat → Nat) (op : MutationOperator) : Nat → UInt64 → Nat → Bool → UInt64 × Bool
  | 0, valueBin, _, success => (valueBin, success)
  | left + 1, valueBin, next, success =>
      let draw := fun next =>
        flipBit op.state valueBin (powSubstitute 2 ((rand next : Int) % (op.max - op.min + 1) + op.min))
      let (flipped, next, changed) := drawLoop draw valueBin next (op.value.toNat * 10)
      flipBits rand op left flipped next (success && changed)

/-- The branches `VAT`, `FVAT`, `VBT` and `FVBT` compare with the threshold and write one value. -/
def replaceIf (mutation : Int) (type : DataType) (applies : Bool) (replacement : Int) (value : LoadedValue)
    (faqas : Faqas) : LoadedValue × Faqas :=
  match type with
  | .bin => (value, faqas)
  | .int =>
      if applies then
        ({ value with int := replacement }, { faqas.operatorCoverage mutation true with mutated := true })
      else (value, { faqas.operatorCoverage mutation false with mutated := true })

/-- The branch `VOR` writes a value outside the range. -/
def leaveRange (mutation opt : Int) (type : DataType) (op : MutationOperator) (value : LoadedValue) (faqas : Faqas) :
    LoadedValue × Faqas :=
  match type with
  | .bin => (value, faqas)
  | .int =>
      if op.min ≤ value.int ∧ value.int ≤ op.max then
        if opt = 0 then
          ({ value with int := op.min - op.delta }, { faqas.operatorCoverage mutation true with mutated := true })
        else if opt = 1 then
          ({ value with int := op.max + op.delta }, { faqas.operatorCoverage mutation true with mutated := true })
        else (value, { faqas with mutated := true })
      else (value, { faqas.operatorCoverage mutation false with mutated := true })

/-- The branch `HV` repeats an earlier value. -/
def holdValue (mutation : Int) (type : DataType) (op : MutationOperator) (value : LoadedValue) (faqas : Faqas) :
    LoadedValue × Faqas :=
  let faqas :=
    if faqas.sample = 1 then
      let faqas :=
        match type with
        | .int => { faqas with storedValueInt := value.int }
        | .bin => { faqas with storedValueBin := value.bin }
      { faqas with sample := 0, repeatCounter := op.value }
    else faqas
  let (value, faqas) :=
    if faqas.repeatCounter > 0 then
      let value :=
        match type with
        | .int => { value with int := faqas.storedValueInt }
        | .bin => { value with bin := faqas.storedValueBin }
      (value, { faqas with repeatCounter := faqas.repeatCounter - 1 })
    else (value, faqas)
  let faqas := if faqas.repeatCounter = 0 then { faqas with sample := 1 } else faqas
  (value, { faqas with mutated := true }.operatorCoverage mutation true)

/-- The branch `ASA` amplifies the distance from the threshold. The second comparison sees the new value. -/
def amplify (op : MutationOperator) (value : Int) : Int :=
  let value := if value ≥ op.threshold then op.threshold + (value - op.threshold) * op.value + op.delta else value
  if value < op.threshold then op.threshold - (value - op.threshold) * op.value + op.delta else value

/-- The branches of `_FAQAS_mutate` for the types of operators. -/
def operate (rand : Nat → Nat) (mutation opt : Int) (type : DataType) (op : MutationOperator) (value : LoadedValue)
    (faqas : Faqas) : LoadedValue × Faqas :=
  match op.type with
  | .hv => holdValue mutation type op value faqas
  | .bf =>
      let (bin, success) := flipBits rand op op.value.toNat value.bin 0 true
      ({ value with bin }, { faqas.operatorCoverage mutation success with mutated := true })
  | .vor => leaveRange mutation opt type op value faqas
  | .fvor | .inv =>
      let (value, success) := redraw rand op type value
      (value, { faqas.operatorCoverage mutation success with mutated := true })
  | .vat => replaceIf mutation type (value.int ≤ op.threshold) (op.threshold + op.delta) value faqas
  | .fvat => replaceIf mutation type (value.int > op.threshold) (op.threshold - op.delta) value faqas
  | .vbt => replaceIf mutation type (value.int ≥ op.threshold) (op.threshold - op.delta) value faqas
  | .fvbt => replaceIf mutation type (value.int < op.threshold) (op.threshold + op.delta) value faqas
  | .iv =>
      let (value, success) :=
        match type with
        | .int => if value.int ≠ op.value then ({ value with int := op.value }, true) else (value, false)
        | .bin => (value, false)
      (value, { faqas.operatorCoverage mutation success with mutated := true })
  | .ss =>
      let value :=
        match type with
        | .int => { value with int := value.int + op.delta }
        | .bin => value
      (value, { faqas.operatorCoverage mutation true with mutated := true })
  | .asa =>
      match type with
      | .int =>
          ({ value with int := amplify op value.int }, { faqas.operatorCoverage mutation true with mutated := true })
      | .bin => (value, faqas.operatorCoverage mutation true)

/-! ## The mutation of a buffer -/

/-- The load joins the cells of an item. -/
def loadCells (data : ProbeBuffer) (pos span : Nat) : UInt64 :=
  (List.range span).foldl (fun intermediate kk => intermediate <<< 32 ||| wordOfInt (data (pos + kk))) 0

def loadValue (type : DataType) (intermediate : UInt64) : LoadedValue :=
  match type with
  | .bin => { int := 0, bin := intermediate }
  | .int => { int := intOfWord intermediate, bin := 0 }

def fullNumber (type : DataType) (value : LoadedValue) : UInt64 :=
  match type with
  | .bin => value.bin
  | .int => wordOfInt value.int

/-- The store divides the number among the cells. -/
def storeCells (data : ProbeBuffer) (pos span : Nat) (number : UInt64) : ProbeBuffer :=
  (List.range span).foldl (fun data counter =>
    Function.update data (pos + counter)
      (intOfWord (sliceItUp number ((span - counter - 1) * 32) ((span - counter) * 32 - 1)))) data

/-- This is `_FAQAS_fmCoverage`. -/
def Faqas.fmCoverage (faqas : Faqas) (fm : Nat) : Faqas :=
  if fm = 0 ∨ fm = 1 then { faqas with fmCov := faqas.fmCov + 1 } else faqas

/-- This is `_FAQAS_mutate`. The values of `rand` after the call of `srand` are a parameter. -/
def mutate (rand : Nat → Nat) (mutation : Int) (fm : FaultModel) (data : ProbeBuffer) (faqas : Faqas) :
    ProbeBuffer × Faqas :=
  if mutation = -1 then (data, faqas)
  else if mutation = -2 then
    let faqas := faqas.fmCoverage fm.id
    (data, { faqas with coverage := faqas.coverage ++ [.model fm.id] })
  else if mutation = -3 then (data, faqas.fmCoverage fm.id)
  else if mutation < fm.minOperation ∨ mutation ≥ fm.maxOperation then
    (data, faqas.operatorCoverage mutation false)
  else
    let pos := (selectItem mutation).toNat
    let item := fm.items pos
    let op := item.operators (selectOperator mutation).toNat
    let loaded := loadValue item.type (loadCells data pos item.span)
    let (value, faqas) := operate rand mutation (selectOperation mutation) item.type op loaded faqas
    if faqas.mutated then
      (storeCells data pos item.span (fullNumber item.type value),
        { faqas with globalMutationCounter := faqas.globalMutationCounter + 1 })
    else (data, faqas)

/-- The static pointer of a probe to its fault model. -/
inductive FmPointer where
  | null
  | cached (fm : FaultModel)
  | freed

/-- These are `_FAQAS_Read_FM` and `_FAQAS_Send_FM`. They build a fault model once. -/
def faqasFm (unset : ProbeSite → Nat → DataItem) (site : ProbeSite) : FmPointer → Option FaultModel
  | .null => some (site.fm (unset site))
  | .cached fm => some fm
  | .freed => none

/-- This is `_FAQAS_delete_FM`. Without `_FAQAS_SINGLETON_FM` the static pointer keeps the address of freed memory. -/
def faqasDeleteFm (singleton : Bool) (fm : FaultModel) : FmPointer :=
  if singleton then .cached fm else .freed

/-- These are `mutate_FM_Read` and `mutate_FM_Send`. There is no result when the fault model is freed memory, which
would be freed once more. -/
def mutateFm (singleton : Bool) (unset : ProbeSite → Nat → DataItem) (mutation : Int) (site : ProbeSite)
    (rand : Nat → Nat) (data : ProbeBuffer) (pointers : ProbeSite → FmPointer) (faqas : Faqas) :
    Option (ProbeBuffer × (ProbeSite → FmPointer) × Faqas) :=
  (faqasFm unset site (pointers site)).map fun fm =>
    let (data, faqas) := mutate rand mutation fm data faqas
    (data, Function.update pointers site (faqasDeleteFm singleton fm), faqas)

/-- The probe of an instrumented function mutates a copy of the header and writes it back. -/
def faqasProbe (singleton : Bool) (unset : ProbeSite → Nat → DataItem) (mutation : Int) (site : ProbeSite)
    (rand : Nat → Nat) (id : CspId) (pointers : ProbeSite → FmPointer) (faqas : Faqas) :
    Option (CspId × (ProbeSite → FmPointer) × Faqas) :=
  (mutateFm singleton unset mutation site rand (probeLoad id) pointers faqas).map fun (data, rest) =>
    (probeStore data, rest)

end Libcsp

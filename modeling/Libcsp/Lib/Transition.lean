/-
This file gives the run and invariant rules of a machine that takes one input at a time.
-/
import Mathlib.Data.List.Induction
import Mathlib.Logic.Relation
import Mathlib.Tactic.Common

namespace Libcsp

/-- A machine has an initial predicate and a guarded step for each input. -/
structure Machine (State Input : Type) where
  initial : State → Prop
  step : State → Input → State
  allowed : State → Input → Prop

namespace Machine

variable {State Input : Type}

/-- One allowed input relates two successive states. -/
def Next (machine : Machine State Input) (state next : State) : Prop :=
  ∃ input, machine.allowed state input ∧ machine.step state input = next

/-- A run of allowed inputs reaches the state from an initial one. -/
def Reachable (machine : Machine State Input) (state : State) : Prop :=
  ∃ start, machine.initial start ∧ Relation.ReflTransGen machine.Next start state

/-- The restriction allows only the inputs that also meet the condition. -/
def restrict (machine : Machine State Input) (condition : State → Input → Prop) :
    Machine State Input :=
  { machine with allowed := fun state input => machine.allowed state input ∧ condition state input }

theorem Reachable.start {machine : Machine State Input} {state : State}
    (initial : machine.initial state) : machine.Reachable state := ⟨state, initial, .refl⟩

theorem Reachable.next {machine : Machine State Input} {state : State} {input : Input}
    (reached : machine.Reachable state) (allowed : machine.allowed state input) :
    machine.Reachable (machine.step state input) := by
  obtain ⟨start, initial, run⟩ := reached
  exact ⟨start, initial, run.tail ⟨input, allowed, rfl⟩⟩

/-- An invariant holds at the start and survives each allowed step. -/
theorem Reachable.invariant {machine : Machine State Input} {Invariant : State → Prop}
    (start : ∀ state, machine.initial state → Invariant state)
    (preserved : ∀ state input, Invariant state → machine.allowed state input →
      Invariant (machine.step state input))
    {state : State} (reached : machine.Reachable state) : Invariant state := by
  obtain ⟨first, initial, run⟩ := reached
  induction run with
  | refl => exact start first initial
  | tail _ last ih =>
      obtain ⟨input, allowed, rfl⟩ := last
      exact preserved _ input ih allowed

/-- This function runs a list of inputs. -/
def trace (machine : Machine State Input) : State → List Input → State
  | state, [] => state
  | state, input :: rest => machine.trace (machine.step state input) rest

/-- Each input of the list is allowed when its turn comes. -/
def Allows (machine : Machine State Input) : State → List Input → Prop
  | _, [] => True
  | state, input :: rest => machine.allowed state input ∧ machine.Allows (machine.step state input) rest

instance instDecidableAllows (machine : Machine State Input) [∀ state input, Decidable (machine.allowed state input)] :
    ∀ state inputs, Decidable (machine.Allows state inputs)
  | _, [] => .isTrue trivial
  | state, input :: rest =>
      have := instDecidableAllows machine (machine.step state input) rest
      inferInstanceAs (Decidable (machine.allowed state input ∧ _))

theorem Reachable.trace {machine : Machine State Input} {state : State}
    (reached : machine.Reachable state) (inputs : List Input) (allowed : machine.Allows state inputs) :
    machine.Reachable (machine.trace state inputs) := by
  induction inputs generalizing state with
  | nil => exact reached
  | cons input rest ih => exact ih (reached.next allowed.1) allowed.2

theorem trace_restrict (machine : Machine State Input) (condition : State → Input → Prop)
    (state : State) (inputs : List Input) :
    (machine.restrict condition).trace state inputs = machine.trace state inputs := by
  induction inputs generalizing state with
  | nil => rfl
  | cons input rest ih => exact ih (machine.step state input)

theorem trace_append (machine : Machine State Input) (state : State) (inputs more : List Input) :
    machine.trace state (inputs ++ more) = machine.trace (machine.trace state inputs) more := by
  induction inputs generalizing state with
  | nil => rfl
  | cons input rest ih => exact ih (machine.step state input)

theorem allows_append (machine : Machine State Input) (state : State) (inputs more : List Input) :
    machine.Allows state (inputs ++ more) ↔
      machine.Allows state inputs ∧ machine.Allows (machine.trace state inputs) more := by
  induction inputs generalizing state with
  | nil => exact ⟨fun allowed => ⟨trivial, allowed⟩, fun allowed => allowed.2⟩
  | cons input rest ih => exact (and_congr_right fun _ => ih (machine.step state input)).trans and_assoc.symm

/-- An invariant may also speak of the inputs so far. -/
theorem trace_invariant {machine : Machine State Input} {Invariant : List Input → State → Prop} {start : State}
    (initial : Invariant [] start)
    (preserved : ∀ past state input, machine.trace start past = state → Invariant past state →
      machine.allowed state input → Invariant (past ++ [input]) (machine.step state input))
    (inputs : List Input) (allowed : machine.Allows start inputs) :
    Invariant inputs (machine.trace start inputs) := by
  induction inputs using List.reverseRecOn with
  | nil => exact initial
  | append_singleton past input ih =>
      obtain ⟨before, last⟩ := (allows_append machine start past [input]).mp allowed
      rw [trace_append]
      exact preserved past _ input rfl (ih before) last.1

/-- A condition lasts over a run, unless one of the steps ends it. -/
theorem trace_lasts {machine : Machine State Input} {Lasts : State → Prop} {Ends : State → Input → Prop}
    (kept : ∀ state input, Lasts state → Lasts (machine.step state input) ∨ Ends state input) {start : State}
    (lasts : Lasts start) (inputs : List Input) :
    Lasts (machine.trace start inputs) ∨ ∃ before input after,
      inputs = before ++ input :: after ∧ Ends (machine.trace start before) input := by
  induction inputs generalizing start with
  | nil => exact .inl lasts
  | cons input rest ih =>
      rcases kept start input lasts with lasts | ends
      · rcases ih lasts with lasts | ⟨before, later, after, split, ends⟩
        · exact .inl lasts
        · exact .inr ⟨input :: before, later, after, congrArg (input :: ·) split, ends⟩
      · exact .inr ⟨[], input, rest, rfl, ends⟩

/-- A measure that shrinks with each allowed input bounds the number of the inputs. -/
theorem trace_length_le {machine : Machine State Input} {Invariant : State → Prop} {measure : State → Nat}
    (preserved : ∀ state input, Invariant state → machine.allowed state input → Invariant (machine.step state input))
    (shrinks : ∀ state input, Invariant state → machine.allowed state input →
      measure (machine.step state input) < measure state)
    {start : State} (initial : Invariant start) (inputs : List Input) (allowed : machine.Allows start inputs) :
    inputs.length + measure (machine.trace start inputs) ≤ measure start := by
  induction inputs generalizing start with
  | nil => exact Nat.le_of_eq (Nat.zero_add _)
  | cons input rest ih =>
      have less := shrinks start input initial allowed.1
      have later := ih (preserved start input initial allowed.1) allowed.2
      rw [List.length_cons]
      simp only [Machine.trace] at later ⊢
      omega

/-- A trace whose inputs also meet the condition reaches the same state. -/
theorem Reachable.traceRestrict {machine : Machine State Input} {condition : State → Input → Prop}
    {state : State} (reached : (machine.restrict condition).Reachable state) (inputs : List Input)
    (allowed : (machine.restrict condition).Allows state inputs) :
    (machine.restrict condition).Reachable (machine.trace state inputs) := by
  rw [← trace_restrict machine condition state inputs]
  exact reached.trace inputs allowed

end Machine
end Libcsp

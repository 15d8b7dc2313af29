/-
This file compares two machines by the answers that they give to a list of calls.
-/
import Mathlib.Data.List.Basic
import Mathlib.Tactic.Common

namespace Libcsp

variable {State Abstract Call Answer : Type}

/-- The answers to the calls, up to the first call that leaves no state. -/
def answers (step : State → Call → Answer × Option State) : State → List Call → List Answer
  | _, [] => []
  | state, call :: rest =>
      match step state call with
      | (answer, none) => [answer]
      | (answer, some next) => answer :: answers step next rest

variable {step : State → Call → Answer × Option State} {spec : Abstract → Call → Answer × Option Abstract}
  {Related : State → Abstract → Prop} {Allowed : Call → Prop}

/-- Two calls have the same answer, and lead to related states. -/
inductive SameOutcome (Related : State → Abstract → Prop) : Answer × Option State → Answer × Option Abstract → Prop
  | stops (answer : Answer) : SameOutcome Related (answer, none) (answer, none)
  | next (answer : Answer) {state : State} {abs : Abstract} (related : Related state abs) :
      SameOutcome Related (answer, some state) (answer, some abs)

/-- Machines whose calls have the same answers have the same answers to each list of calls. -/
theorem answers_eq
    (same : ∀ state abs call, Related state abs → Allowed call → SameOutcome Related (step state call) (spec abs call))
    {state : State} {abs : Abstract} (related : Related state abs) {calls : List Call}
    (allowed : ∀ call ∈ calls, Allowed call) : answers step state calls = answers spec abs calls := by
  induction calls generalizing state abs with
  | nil => rfl
  | cons call rest ih =>
      obtain ⟨first, others⟩ := List.forall_mem_cons.mp allowed
      have both := same state abs call related first
      simp only [answers]
      generalize step state call = outcome at both
      generalize spec abs call = expected at both
      cases both with
      | stops answer => rfl
      | next answer related => exact congrArg (answer :: ·) (ih related others)

end Libcsp

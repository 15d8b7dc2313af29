/-
This file follows threads that share a store of items behind a mutex and two conditions.
-/
import Libcsp.Lib.Transition
import Mathlib.Data.Option.Basic
import Mathlib.Logic.Function.Basic

namespace Libcsp

/-- What a thread wants from the store. -/
inductive Work (Item : Type) where
  | put (item : Item)
  | take

/-- A condition announces room for items, or it announces items. -/
inductive Condition where
  | room
  | items
  deriving DecidableEq

/-- A thread waits on this condition. -/
def Work.waitsOn {Item : Type} : Work Item → Condition
  | .put _ => .room
  | .take => .items

/-- A thread that did its work announces this condition. -/
def Work.announces {Item : Type} : Work Item → Condition
  | .put _ => .items
  | .take => .room

/-- A call has its work, and what its thread meets on the way. -/
structure Call (Item Env : Type) where
  work : Work Item
  env : Env

inductive Phase (Item Env : Type) where
  | idle
  /-- The thread is about to take the mutex. -/
  | ready (call : Call Item Env)
  /-- The thread sleeps on its condition without the mutex. -/
  | asleep (call : Call Item Env)
  /-- The wait returned its result, and the thread is about to have the mutex again. -/
  | woken (call : Call Item Env) (result : Int)
  /-- The thread did its work and gave the mutex back, but it has not announced it. -/
  | finishing (condition : Condition)
  /-- The call left the memory of the store, and nothing is known about it. -/
  | broken

/-- A call that returned did its work, or it failed and left the store as it is. -/
inductive Outcome (Store Item : Type) where
  | put (item : Item) (store : Store)
  | took (item : Item) (store : Store)
  | failed (store : Store)
  | broken

/-- The code of the calls. A call meets the store at its first look, and a result and a store after each sleep. There
is no outcome while it sleeps. -/
abbrev Calls (Store Item Env : Type) : Type :=
  Call Item Env → Store → List (Int × Store) → Option (Outcome Store Item)

/-- The shared state, and what the threads saw in their calls. The histories have the items of the operations in the
order of the mutex. -/
structure Monitor (Store Item Env Thread : Type) where
  store : Store
  phase : Thread → Phase Item Env
  seen : Thread → Store × List (Int × Store)
  accepted : List Item
  delivered : List Item

inductive MonitorInput (Item Env Thread : Type) where
  | call (thread : Thread) (call : Call Item Env)
  /-- The thread has the mutex until its call returns or sleeps. -/
  | enter (thread : Thread)
  /-- The wait of a sleeping thread returns, for any reason and with any result. -/
  | wake (thread : Thread) (result : Int)
  /-- The announcement wakes all threads that sleep on the condition. -/
  | announce (thread : Thread)

def Phase.ofOutcome {Store Item Env : Type} : Outcome Store Item → Phase Item Env
  | .put _ _ => .finishing .items
  | .took _ _ => .finishing .room
  | .failed _ => .idle
  | .broken => .broken

/-- The threads that sleep on the condition will look again. -/
def Phase.rouse {Item Env : Type} (condition : Condition) : Phase Item Env → Phase Item Env
  | .asleep call => if call.work.waitsOn = condition then .woken call 0 else .asleep call
  | phase => phase

namespace Monitor

variable {Store Item Env Thread : Type} [DecidableEq Thread]

def setPhase (monitor : Monitor Store Item Env Thread) (thread : Thread) (phase : Phase Item Env) :
    Monitor Store Item Env Thread :=
  { monitor with phase := Function.update monitor.phase thread phase }

/-- The store and the histories after a call. -/
def settle (monitor : Monitor Store Item Env Thread) : Outcome Store Item → Monitor Store Item Env Thread
  | .put item store => { monitor with store, accepted := monitor.accepted ++ [item] }
  | .took item store => { monitor with store, delivered := monitor.delivered ++ [item] }
  | .failed store => { monitor with store }
  | .broken => monitor

/-- The thread has the mutex, and its call goes on with all that it saw. -/
def look (calls : Calls Store Item Env) (monitor : Monitor Store Item Env Thread) (thread : Thread)
    (call : Call Item Env) (first : Store) (sleeps : List (Int × Store)) : Monitor Store Item Env Thread :=
  match calls call first sleeps with
  | none =>
      { monitor with seen := Function.update monitor.seen thread (first, sleeps) }.setPhase thread (.asleep call)
  | some outcome => (monitor.settle outcome).setPhase thread (.ofOutcome outcome)

/-- An input for a thread in another phase changes nothing. -/
def step (calls : Calls Store Item Env) (monitor : Monitor Store Item Env Thread) :
    MonitorInput Item Env Thread → Monitor Store Item Env Thread
  | .call thread call =>
      match monitor.phase thread with
      | .idle => monitor.setPhase thread (.ready call)
      | _ => monitor
  | .enter thread =>
      match monitor.phase thread with
      | .ready call => monitor.look calls thread call monitor.store []
      | .woken call result =>
          monitor.look calls thread call (monitor.seen thread).1
            ((monitor.seen thread).2 ++ [(result, monitor.store)])
      | _ => monitor
  | .wake thread result =>
      match monitor.phase thread with
      | .asleep call => monitor.setPhase thread (.woken call result)
      | _ => monitor
  | .announce thread =>
      match monitor.phase thread with
      | .finishing condition =>
          { monitor with phase := fun other => (monitor.phase other).rouse condition }.setPhase thread .idle
      | _ => monitor

/-- The threads are idle. -/
def start (store : Store) : Monitor Store Item Env Thread :=
  ⟨store, fun _ => .idle, fun _ => (store, []), [], []⟩

/-- The threads may do anything in any order with the allowed calls. -/
def machine (calls : Calls Store Item Env) (store : Store) (allowed : Call Item Env → Prop) :
    Machine (Monitor Store Item Env Thread) (MonitorInput Item Env Thread) where
  initial monitor := monitor = start store
  step := step calls
  allowed _ input := ∀ thread call, input = .call thread call → allowed call

end Monitor

/-! ## The calls on a list of items -/

/-- A call may be refused before its first look, and the result of a wait may end it. -/
structure Rules (Env : Type) where
  refuses : Env → Bool
  ends : Env → Int → Bool

/-- One look at the items. -/
def Work.look {Item : Type} (capacity : Nat) (items : List Item) : Work Item → Option (Outcome (List Item) Item)
  | .put item => if items.length < capacity then some (.put item (items ++ [item])) else none
  | .take =>
      match items with
      | [] => none
      | item :: rest => some (.took item rest)

/-- The looks of a call until one finds what it wants, or a wait ends it. -/
def Work.looks {Item : Type} (capacity : Nat) (ends : Int → Bool) (work : Work Item) :
    List Item → List (Int × List Item) → Option (Outcome (List Item) Item)
  | items, [] => work.look capacity items
  | items, (result, next) :: rest =>
      match work.look capacity items with
      | some outcome => some outcome
      | none => if ends result then some (.failed next) else work.looks capacity ends next rest

def sharedCalls {Env : Type} (Item : Type) (capacity : Nat) (rules : Rules Env) : Calls (List Item) Item Env :=
  fun call items sleeps =>
    if rules.refuses call.env then some (.failed items)
    else call.work.looks capacity (rules.ends call.env) items sleeps

/-- The store can do nothing for this work. -/
def Work.Blocked {Item : Type} (capacity : Nat) (items : List Item) : Work Item → Prop
  | .put _ => items.length = capacity
  | .take => items = []

section

variable {Store Item Env : Type} {capacity : Nat} {rules : Rules Env} {call : Call Item Env} {items : List Item}

theorem Work.look_eq_none {work : Work Item} (bounded : items.length ≤ capacity) (none : work.look capacity items = none) :
    work.Blocked capacity items := by
  cases work with
  | put item =>
      rw [Work.look, ite_eq_right_iff] at none
      by_contra room
      exact Option.some_ne_none _ (none (Nat.lt_of_le_of_ne bounded room))
  | take =>
      cases items with
      | nil => rfl
      | cons item rest => cases none

/-- A call that sleeps goes on like a new one, unless its wait ends it. -/
theorem Work.looks_again {work : Work Item} {ends : Int → Bool} {sleeps : List (Int × List Item)}
    (asleep : work.looks capacity ends items sleeps = none) (result : Int) (next : List Item) :
    work.looks capacity ends items (sleeps ++ [(result, next)]) =
      if ends result then some (.failed next) else work.look capacity next := by
  induction sleeps generalizing items with
  | nil =>
      rw [Work.looks] at asleep
      rw [List.nil_append, Work.looks, asleep]
      rfl
  | cons sleep rest ih =>
      rw [Work.looks] at asleep
      rw [List.cons_append, Work.looks]
      split at asleep
      · cases asleep
      · split at asleep
        · cases asleep
        · rename_i goesOn
          exact (if_neg goesOn).trans (ih asleep)

/-- The same outcome for a store and for the items that it holds. -/
inductive Outcome.Refines (Holds : Store → List Item → Prop) : Outcome Store Item → Outcome (List Item) Item → Prop where
  | put {store : Store} {items : List Item} (item : Item) (holds : Holds store items) :
      Refines Holds (.put item store) (.put item items)
  | took {store : Store} {items : List Item} (item : Item) (holds : Holds store items) :
      Refines Holds (.took item store) (.took item items)
  | failed {store : Store} {items : List Item} (holds : Holds store items) :
      Refines Holds (.failed store) (.failed items)

/-- The code does with a store what the rules say about the items. A call that slept is at its start again, unless the
result of the wait ends it. -/
structure Calls.Refines (calls : Calls Store Item Env) (rules : Rules Env) (Holds : Store → List Item → Prop)
    (capacity : Nat) (allowed : Call Item Env → Prop) : Prop where
  look : ∀ {call store items}, allowed call → Holds store items →
    Option.Rel (Outcome.Refines Holds) (calls call store []) (sharedCalls Item capacity rules call items [])
  again : ∀ {call first sleeps}, allowed call → calls call first sleeps = none → ∀ result store,
    calls call first (sleeps ++ [(result, store)]) =
      if rules.ends call.env result then some (.failed store) else calls call store []

theorem sharedCalls_again {first : List Item} {sleeps : List (Int × List Item)}
    (asleep : sharedCalls Item capacity rules call first sleeps = none) (result : Int) (items : List Item) :
    sharedCalls Item capacity rules call first (sleeps ++ [(result, items)]) =
      if rules.ends call.env result then some (.failed items) else sharedCalls Item capacity rules call items [] := by
  rw [sharedCalls] at asleep
  split at asleep
  · cases asleep
  · rename_i accepts
    rw [sharedCalls, sharedCalls, if_neg accepts, if_neg accepts]
    exact Work.looks_again asleep result items

/-- Both calls see the store, or the result of the same wait ends both. -/
theorem Calls.Refines.rel_again {calls : Calls Store Item Env} {Holds : Store → List Item → Prop}
    {allowed : Call Item Env → Prop} (refines : calls.Refines rules Holds capacity allowed) (meets : allowed call)
    {first store : Store} {sleeps : List (Int × Store)} {next : List Item}
    {looks : List (Int × List Item)} (asleep : calls call first sleeps = none)
    (modelled : sharedCalls Item capacity rules call items looks = none) (holds : Holds store next) (result : Int) :
    Option.Rel (Outcome.Refines Holds) (calls call first (sleeps ++ [(result, store)]))
      (sharedCalls Item capacity rules call items (looks ++ [(result, next)])) := by
  rw [refines.again meets asleep, sharedCalls_again modelled]
  split
  · exact .some (.failed holds)
  · exact refines.look meets holds

theorem Calls.Refines.mono {calls : Calls Store Item Env} {Holds : Store → List Item → Prop}
    {allowed fewer : Call Item Env → Prop} (refines : calls.Refines rules Holds capacity allowed)
    (meets : ∀ call, fewer call → allowed call) : calls.Refines rules Holds capacity fewer where
  look met := refines.look (meets _ met)
  again met := refines.again (meets _ met)

/-- The calls follow all rules that say the same about them. -/
theorem Calls.Refines.changeRules {calls : Calls Store Item Env} {other : Rules Env} {Holds : Store → List Item → Prop}
    {allowed : Call Item Env → Prop} (refines : calls.Refines rules Holds capacity allowed)
    (same : ∀ call, allowed call → rules.refuses call.env = other.refuses call.env ∧
      rules.ends call.env = other.ends call.env) : calls.Refines other Holds capacity allowed where
  look {call store items} meets holds := by
    have looked := refines.look meets holds
    rwa [sharedCalls, (same call meets).1, (same call meets).2] at looked
  again meets asleep := by
    rw [← (same _ meets).2]
    exact refines.again meets asleep

end

namespace Phase

variable {Store Item Env : Type}

/-- The call that the thread runs. -/
def running : Phase Item Env → Option (Call Item Env)
  | .ready call | .asleep call | .woken call _ => some call
  | _ => none

/-- The call that the thread slept in. -/
def sleeping : Phase Item Env → Option (Call Item Env)
  | .asleep call | .woken call _ => some call
  | _ => none

@[simp] theorem rouse_running (condition : Condition) (phase : Phase Item Env) :
    (phase.rouse condition).running = phase.running := by
  cases phase with
  | asleep call => rw [rouse]; split <;> rfl
  | idle | ready _ | woken _ _ | finishing _ | broken => rfl

@[simp] theorem rouse_sleeping (condition : Condition) (phase : Phase Item Env) :
    (phase.rouse condition).sleeping = phase.sleeping := by
  cases phase with
  | asleep call => rw [rouse]; split <;> rfl
  | idle | ready _ | woken _ _ | finishing _ | broken => rfl

@[simp] theorem ofOutcome_running (outcome : Outcome Store Item) :
    (ofOutcome outcome : Phase Item Env).running = none := by cases outcome <;> rfl

@[simp] theorem ofOutcome_sleeping (outcome : Outcome Store Item) :
    (ofOutcome outcome : Phase Item Env).sleeping = none := by cases outcome <;> rfl

/-- The announcement leaves the threads asleep that wait for the other condition. -/
theorem rouse_asleep {condition : Condition} {phase : Phase Item Env} {call : Call Item Env}
    (asleep : phase.rouse condition = .asleep call) : phase = .asleep call ∧ call.work.waitsOn ≠ condition := by
  cases phase with
  | asleep same =>
      rw [rouse] at asleep
      split at asleep
      · cases asleep
      · cases asleep
        exact ⟨rfl, ‹_›⟩
  | idle | ready _ | woken _ _ | finishing _ | broken => cases asleep

theorem rouse_finishing {condition last : Condition} {phase : Phase Item Env} (finishing : phase = .finishing last) :
    phase.rouse condition = .finishing last := by rw [finishing]; rfl

theorem rouse_broken {condition : Condition} {phase : Phase Item Env} (whole : phase ≠ .broken) :
    phase.rouse condition ≠ .broken := by
  cases phase with
  | asleep call => rw [rouse]; split <;> nofun
  | broken => exact absurd rfl whole
  | idle | ready _ | woken _ _ | finishing _ => nofun

end Phase

namespace Monitor

variable {Store Item Env Thread : Type} [DecidableEq Thread]

section

variable {monitor : Monitor Store Item Env Thread} {calls : Calls Store Item Env}

@[simp] theorem setPhase_self (thread : Thread) (phase : Phase Item Env) :
    (monitor.setPhase thread phase).phase thread = phase := Function.update_self _ _ _

theorem setPhase_other {thread other : Thread} (different : other ≠ thread) (phase : Phase Item Env) :
    (monitor.setPhase thread phase).phase other = monitor.phase other := Function.update_of_ne different _ _

omit [DecidableEq Thread] in
@[simp] theorem settle_phase (outcome : Outcome Store Item) : (monitor.settle outcome).phase = monitor.phase := by
  cases outcome <;> rfl

omit [DecidableEq Thread] in
@[simp] theorem settle_seen (outcome : Outcome Store Item) : (monitor.settle outcome).seen = monitor.seen := by
  cases outcome <;> rfl

/-- What a thread saw made its call sleep. -/
def Remembers (calls : Calls Store Item Env) (monitor : Monitor Store Item Env Thread) : Prop :=
  ∀ thread, ∀ call ∈ (monitor.phase thread).sleeping, calls call (monitor.seen thread).1 (monitor.seen thread).2 = none

theorem Remembers.setPhase (remembers : monitor.Remembers calls) {thread : Thread} {phase : Phase Item Env}
    (slept : ∀ call ∈ phase.sleeping, calls call (monitor.seen thread).1 (monitor.seen thread).2 = none) :
    (monitor.setPhase thread phase).Remembers calls := by
  intro other
  by_cases same : other = thread
  · subst same
    rw [setPhase_self]
    exact slept
  · rw [setPhase_other same]
    exact remembers other

theorem Remembers.look (remembers : monitor.Remembers calls) (thread : Thread) (call : Call Item Env) (first : Store)
    (sleeps : List (Int × Store)) : (monitor.look calls thread call first sleeps).Remembers calls := by
  rw [Monitor.look]
  split
  · rename_i asleep
    intro other
    by_cases same : other = thread
    · subst same
      rw [setPhase_self]
      rintro last ⟨⟩
      simpa only [Monitor.setPhase, Function.update_self] using asleep
    · rw [setPhase_other same]
      simpa only [Monitor.setPhase, Function.update_of_ne same] using remembers other
  · rename_i outcome _
    have settled : (monitor.settle outcome).Remembers calls := by
      rw [Remembers, settle_phase, settle_seen]
      exact remembers
    exact settled.setPhase (by simp)

theorem Remembers.step (remembers : monitor.Remembers calls) (input : MonitorInput Item Env Thread) :
    (monitor.step calls input).Remembers calls := by
  cases input with
  | call thread call =>
      rw [Monitor.step]
      split
      · exact remembers.setPhase fun _ slept => nomatch slept
      · exact remembers
  | enter thread =>
      rw [Monitor.step]
      split
      · exact remembers.look thread _ _ _
      · exact remembers.look thread _ _ _
      · exact remembers
  | wake thread result =>
      rw [Monitor.step]
      split
      · rename_i asleep
        exact remembers.setPhase fun last slept => remembers thread last (by rwa [asleep])
      · exact remembers
  | announce thread =>
      rw [Monitor.step]
      split
      · rename_i condition _
        have roused : Remembers calls { monitor with phase := fun other => (monitor.phase other).rouse condition } := by
          simpa only [Remembers, Phase.rouse_sleeping] using remembers
        exact roused.setPhase fun _ slept => nomatch slept
      · exact remembers

end

/-! ## A store and the items that it holds -/

section

variable {calls : Calls Store Item Env} {rules : Rules Env} {Holds : Store → List Item → Prop} {capacity : Nat}
  {allowed : Call Item Env → Prop} {monitor : Monitor Store Item Env Thread} {model : Monitor (List Item) Item Env Thread}

/-- The threads are in the same phases and had the same results. -/
structure Alike (Holds : Store → List Item → Prop) (allowed : Call Item Env → Prop)
    (monitor : Monitor Store Item Env Thread) (model : Monitor (List Item) Item Env Thread) : Prop where
  holds : Holds monitor.store model.store
  phase : monitor.phase = model.phase
  accepted : monitor.accepted = model.accepted
  delivered : monitor.delivered = model.delivered
  running : ∀ thread, ∀ call ∈ (monitor.phase thread).running, allowed call

theorem Alike.setPhase (alike : Alike Holds allowed monitor model) {thread : Thread} {phase : Phase Item Env}
    (running : ∀ call ∈ phase.running, allowed call) :
    Alike Holds allowed (monitor.setPhase thread phase) (model.setPhase thread phase) where
  holds := alike.holds
  phase := by rw [Monitor.setPhase, Monitor.setPhase, alike.phase]
  accepted := alike.accepted
  delivered := alike.delivered
  running other := by
    by_cases same : other = thread
    · subst same
      rwa [setPhase_self]
    · rw [setPhase_other same]
      exact alike.running other

omit [DecidableEq Thread] in
theorem Alike.settle (alike : Alike Holds allowed monitor model) {outcome : Outcome Store Item}
    {shared : Outcome (List Item) Item} (refines : outcome.Refines Holds shared) :
    Alike Holds allowed (monitor.settle outcome) (model.settle shared) ∧
      (Phase.ofOutcome outcome : Phase Item Env) = .ofOutcome shared := by
  cases refines with
  | put item holds =>
      exact ⟨⟨holds, alike.phase, congrArg (· ++ [item]) alike.accepted, alike.delivered, alike.running⟩, rfl⟩
  | took item holds =>
      exact ⟨⟨holds, alike.phase, alike.accepted, congrArg (· ++ [item]) alike.delivered, alike.running⟩, rfl⟩
  | failed holds => exact ⟨⟨holds, alike.phase, alike.accepted, alike.delivered, alike.running⟩, rfl⟩

theorem Alike.look (alike : Alike Holds allowed monitor model) {call : Call Item Env} (meets : allowed call)
    {first : Store} {sleeps : List (Int × Store)} {items : List Item} {looks : List (Int × List Item)}
    (related : Option.Rel (Outcome.Refines Holds) (calls call first sleeps)
      (sharedCalls Item capacity rules call items looks)) (thread : Thread) :
    Alike Holds allowed (monitor.look calls thread call first sleeps)
      (model.look (sharedCalls Item capacity rules) thread call items looks) := by
  rw [Monitor.look, Monitor.look]
  generalize calls call first sleeps = result at related
  generalize sharedCalls Item capacity rules call items looks = shared at related
  cases related with
  | none =>
      have remembered : Alike Holds allowed
          { monitor with seen := Function.update monitor.seen thread (first, sleeps) }
          { model with seen := Function.update model.seen thread (items, looks) } :=
        ⟨alike.holds, alike.phase, alike.accepted, alike.delivered, alike.running⟩
      exact remembered.setPhase (by rintro _ ⟨⟩; exact meets)
  | some refines =>
      obtain ⟨settled, same⟩ := alike.settle refines
      dsimp only
      rw [same]
      exact settled.setPhase (by simp)

theorem Alike.step (refines : calls.Refines rules Holds capacity allowed) (alike : Alike Holds allowed monitor model)
    (remembers : monitor.Remembers calls) (modelled : model.Remembers (sharedCalls Item capacity rules))
    {input : MonitorInput Item Env Thread} (meets : ∀ thread call, input = .call thread call → allowed call) :
    Alike Holds allowed (monitor.step calls input) (model.step (sharedCalls Item capacity rules) input) := by
  have running := alike.running
  rw [Remembers] at remembers
  rw [Remembers, ← alike.phase] at modelled
  cases input with
  | call thread call =>
      rw [Monitor.step, Monitor.step, ← alike.phase]
      cases monitor.phase thread with
      | idle => exact alike.setPhase (by rintro _ ⟨⟩; exact meets thread call rfl)
      | ready _ | asleep _ | woken _ _ | finishing _ | broken => exact alike
  | enter thread =>
      have mine := running thread
      have slept := remembers thread
      have modelSlept := modelled thread
      rw [Monitor.step, Monitor.step, ← alike.phase]
      cases phase : monitor.phase thread with
      | ready call =>
          rw [phase] at mine
          exact alike.look (mine call rfl) (refines.look (mine call rfl) alike.holds) thread
      | woken call result =>
          rw [phase] at mine slept modelSlept
          exact alike.look (mine call rfl)
            (refines.rel_again (mine call rfl) (slept call rfl) (modelSlept call rfl) alike.holds result) thread
      | idle | asleep _ | finishing _ | broken => exact alike
  | wake thread result =>
      have mine := running thread
      rw [Monitor.step, Monitor.step, ← alike.phase]
      cases phase : monitor.phase thread with
      | asleep call =>
          rw [phase] at mine
          exact alike.setPhase mine
      | idle | ready _ | woken _ _ | finishing _ | broken => exact alike
  | announce thread =>
      rw [Monitor.step, Monitor.step, ← alike.phase]
      cases monitor.phase thread with
      | finishing condition =>
          have roused : Alike Holds allowed
              { monitor with phase := fun other => (monitor.phase other).rouse condition }
              { model with phase := fun other => (monitor.phase other).rouse condition } :=
            ⟨alike.holds, rfl, alike.accepted, alike.delivered, by simpa only [Phase.rouse_running] using running⟩
          exact roused.setPhase nofun
      | idle | ready _ | asleep _ | woken _ _ | broken => exact alike

end

/-- Some thread has not announced its work on the condition. -/
def Pending (monitor : Monitor Store Item Env Thread) (condition : Condition) : Prop :=
  ∃ thread, monitor.phase thread = .finishing condition

/-! ## The threads and the items -/

section

variable {rules : Rules Env} {capacity : Nat} {model : Monitor (List Item) Item Env Thread}

/-- The items are those that were accepted and not delivered. Each sleeping thread has to wait, or an announcement will
wake it. -/
structure Sound (capacity : Nat) (model : Monitor (List Item) Item Env Thread) : Prop where
  bounded : model.store.length ≤ capacity
  ordered : model.accepted = model.delivered ++ model.store
  whole : ∀ thread, model.phase thread ≠ .broken
  alert : ∀ thread call, model.phase thread = .asleep call →
    call.work.Blocked capacity model.store ∨ model.Pending call.work.waitsOn

/-- A thread that is not finishing may change its phase. -/
theorem Pending.setPhase {condition : Condition} (pending : model.Pending condition) {thread : Thread}
    (working : model.phase thread ≠ .finishing condition) (phase : Phase Item Env) :
    (model.setPhase thread phase).Pending condition := by
  obtain ⟨other, finishing⟩ := pending
  have different : other ≠ thread := by
    rintro rfl
    exact working finishing
  exact ⟨other, (setPhase_other different phase).trans finishing⟩

/-- The phases change without the items. -/
theorem Sound.setPhase (sound : model.Sound capacity) {thread : Thread}
    (working : ∀ condition, model.phase thread ≠ .finishing condition) {phase : Phase Item Env}
    (unbroken : phase ≠ .broken) (alert : ∀ call, phase = .asleep call → call.work.Blocked capacity model.store) :
    (model.setPhase thread phase).Sound capacity where
  bounded := sound.bounded
  ordered := sound.ordered
  whole other := by
    by_cases same : other = thread
    · subst same
      rwa [setPhase_self]
    · rw [setPhase_other same]
      exact sound.whole other
  alert other call asleep := by
    by_cases same : other = thread
    · subst same
      rw [setPhase_self] at asleep
      exact .inl (alert call asleep)
    · rw [setPhase_other same] at asleep
      exact (sound.alert other call asleep).imp_right fun pending => pending.setPhase (working _) phase

/-- The items change, and the thread is about to announce this. -/
theorem Sound.finish (sound : model.Sound capacity) {thread : Thread} (work : Work Item)
    (working : ∀ condition, model.phase thread ≠ .finishing condition) {after : Monitor (List Item) Item Env Thread}
    (bounded : after.store.length ≤ capacity) (ordered : after.accepted = after.delivered ++ after.store)
    (phases : after.phase = model.phase)
    (blocked : ∀ other : Work Item, other.Blocked capacity model.store → other.waitsOn = work.announces) :
    (after.setPhase thread (.finishing work.announces)).Sound capacity where
  bounded := bounded
  ordered := ordered
  whole other := by
    by_cases same : other = thread
    · subst same
      rw [setPhase_self]
      nofun
    · rw [setPhase_other same, phases]
      exact sound.whole other
  alert other call asleep := by
    have different : other ≠ thread := by
      rintro rfl
      rw [setPhase_self] at asleep
      cases asleep
    rw [setPhase_other different, phases] at asleep
    right
    rcases sound.alert other call asleep with full | pending
    · exact ⟨thread, by rw [setPhase_self, blocked call.work full]⟩
    · have same : after.Pending call.work.waitsOn := by rwa [Pending, phases]
      exact same.setPhase (by rw [phases]; exact working _) _

/-- The announcement wakes the sleeping threads, and the other announcements are still to come. -/
theorem Sound.announce (sound : model.Sound capacity) {thread : Thread} {condition : Condition}
    (finishing : model.phase thread = .finishing condition) :
    ({ model with phase := fun other => (model.phase other).rouse condition }.setPhase thread .idle).Sound
      capacity where
  bounded := sound.bounded
  ordered := sound.ordered
  whole other := by
    by_cases same : other = thread
    · subst same
      rw [setPhase_self]
      nofun
    · rw [setPhase_other same]
      exact Phase.rouse_broken (sound.whole other)
  alert other call asleep := by
    have different : other ≠ thread := by
      rintro rfl
      rw [setPhase_self] at asleep
      cases asleep
    rw [setPhase_other different] at asleep
    obtain ⟨slept, elsewhere⟩ := Phase.rouse_asleep asleep
    refine (sound.alert other call slept).imp_right fun ⟨last, pending⟩ => ⟨last, ?_⟩
    have behind : last ≠ thread := by
      rintro rfl
      rw [finishing] at pending
      exact elsewhere (Phase.finishing.inj pending).symm
    rw [setPhase_other behind]
    exact Phase.rouse_finishing pending

/-- A thread with the mutex fails, or it does its work, or it sleeps. -/
theorem Sound.look (sound : model.Sound capacity) {thread : Thread} {call : Call Item Env} {first : List Item}
    {sleeps : List (Int × List Item)} (working : ∀ condition, model.phase thread ≠ .finishing condition)
    (seen : sharedCalls Item capacity rules call first sleeps = some (.failed model.store) ∨
      sharedCalls Item capacity rules call first sleeps = call.work.look capacity model.store) :
    (model.look (sharedCalls Item capacity rules) thread call first sleeps).Sound capacity := by
  rw [Monitor.look]
  rcases seen with fails | looks
  · rw [fails]
    exact sound.setPhase working nofun nofun
  · rw [looks]
    cases outcome : call.work.look capacity model.store with
    | none =>
        have blocked := Work.look_eq_none sound.bounded outcome
        have remembered : Sound capacity { model with seen := Function.update model.seen thread (first, sleeps) } :=
          ⟨sound.bounded, sound.ordered, sound.whole, sound.alert⟩
        exact remembered.setPhase working nofun (by rintro _ ⟨⟩; exact blocked)
    | some result =>
        cases work : call.work with
        | put item =>
            rw [work, Work.look] at outcome
            split at outcome
            · rename_i room
              obtain rfl := Option.some.inj outcome
              refine sound.finish (.put item) working ?_ ?_ rfl ?_
              · rw [Monitor.settle, List.length_append]
                exact room
              · rw [Monitor.settle, sound.ordered, List.append_assoc]
              · intro other blocked
                cases other with
                | put other => exact absurd blocked (Nat.ne_of_lt room)
                | take => rfl
            · cases outcome
        | take =>
            rw [work, Work.look.eq_def] at outcome
            dsimp only at outcome
            split at outcome
            · cases outcome
            · rename_i item rest items
              obtain rfl := Option.some.inj outcome
              have bounded := sound.bounded
              rw [items, List.length_cons] at bounded
              refine sound.finish .take working ?_ ?_ rfl ?_
              · exact Nat.le_of_succ_le bounded
              · rw [Monitor.settle, sound.ordered, items, List.append_assoc]
                rfl
              · intro other blocked
                cases other with
                | put other => rfl
                | take => cases items.symm.trans blocked

theorem Sound.step (sound : model.Sound capacity) (remembers : model.Remembers (sharedCalls Item capacity rules))
    (input : MonitorInput Item Env Thread) : (model.step (sharedCalls Item capacity rules) input).Sound capacity := by
  have newCall : ∀ call : Call Item Env,
      sharedCalls Item capacity rules call model.store [] = some (.failed model.store) ∨
        sharedCalls Item capacity rules call model.store [] = call.work.look capacity model.store := by
    intro call
    rw [sharedCalls]
    split
    · exact .inl rfl
    · exact .inr rfl
  cases input with
  | call thread call =>
      rw [Monitor.step]
      split
      · rename_i idle
        exact sound.setPhase (by simp [idle]) nofun nofun
      · exact sound
  | enter thread =>
      rw [Monitor.step]
      split
      · rename_i call ready
        exact sound.look (by simp [ready]) (newCall call)
      · rename_i call result woken
        refine sound.look (by simp [woken]) ?_
        rw [sharedCalls_again (remembers thread call (by rw [woken]; rfl))]
        split
        · exact .inl rfl
        · exact newCall call
      · exact sound
  | wake thread result =>
      rw [Monitor.step]
      split
      · rename_i asleep
        exact sound.setPhase (by simp [asleep]) nofun nofun
      · exact sound
  | announce thread =>
      rw [Monitor.step]
      split
      · rename_i finishing
        exact sound.announce finishing
      · exact sound

end

/-! ## Runs -/

section

variable {calls : Calls Store Item Env} {rules : Rules Env} {Holds : Store → List Item → Prop} {capacity : Nat}
  {allowed : Call Item Env → Prop} {monitor : Monitor Store Item Env Thread}

/-- The threads on the store do what the threads on its items do. -/
structure Simulates (calls : Calls Store Item Env) (rules : Rules Env) (Holds : Store → List Item → Prop)
    (capacity : Nat) (allowed : Call Item Env → Prop) (monitor : Monitor Store Item Env Thread)
    (model : Monitor (List Item) Item Env Thread) : Prop where
  alike : Alike Holds allowed monitor model
  remembers : monitor.Remembers calls
  modelled : model.Remembers (sharedCalls Item capacity rules)
  sound : model.Sound capacity

omit [DecidableEq Thread] in
theorem Simulates.start {store : Store} (empty : Holds store []) :
    Simulates calls rules Holds capacity allowed (Monitor.start store : Monitor Store Item Env Thread)
      (Monitor.start []) where
  alike := ⟨empty, rfl, rfl, rfl, nofun⟩
  remembers := nofun
  modelled := nofun
  sound := ⟨Nat.zero_le _, rfl, nofun, nofun⟩

theorem Simulates.step (refines : calls.Refines rules Holds capacity allowed)
    {model : Monitor (List Item) Item Env Thread}
    (simulates : Simulates calls rules Holds capacity allowed monitor model) {input : MonitorInput Item Env Thread}
    (meets : ∀ thread call, input = .call thread call → allowed call) :
    Simulates calls rules Holds capacity allowed (monitor.step calls input)
      (model.step (sharedCalls Item capacity rules) input) where
  alike := simulates.alike.step refines simulates.remembers simulates.modelled meets
  remembers := simulates.remembers.step input
  modelled := simulates.modelled.step input
  sound := simulates.sound.step simulates.modelled input

/-- In every order of the threads the store is a queue, and no thread sleeps without a reason. -/
theorem simulates_of_reachable (refines : calls.Refines rules Holds capacity allowed) {store : Store}
    (empty : Holds store []) (reached : (machine calls store allowed).Reachable monitor) :
    ∃ model, Simulates calls rules Holds capacity allowed monitor model := by
  apply reached.invariant
  · rintro _ rfl
    exact ⟨_, .start empty⟩
  · rintro state input ⟨model, simulates⟩ meets
    exact ⟨_, simulates.step refines meets⟩

/-- The run of the items depends on the calls only by their rules. What the machines permit does not matter here. -/
theorem Simulates.trace (refines : calls.Refines rules Holds capacity allowed)
    {model : Monitor (List Item) Item Env Thread}
    (simulates : Simulates calls rules Holds capacity allowed monitor model) (store : Store)
    (permitted : Call Item Env → Prop) (inputs : List (MonitorInput Item Env Thread))
    (meets : ∀ thread call, .call thread call ∈ inputs → allowed call) :
    Simulates calls rules Holds capacity allowed ((machine calls store permitted).trace monitor inputs)
      ((machine (sharedCalls Item capacity rules) [] permitted).trace model inputs) := by
  induction inputs generalizing monitor model with
  | nil => exact simulates
  | cons input rest ih =>
      have first : ∀ thread call, input = .call thread call → allowed call :=
        fun thread call same => meets thread call (same ▸ List.mem_cons_self)
      exact ih (simulates.step refines first) fun thread call member =>
        meets thread call (List.mem_cons_of_mem _ member)

end

end Monitor
end Libcsp

/-
This file shows that threads share a queue of pthread_queue.c without loss, disorder or a lost wake-up.
-/
import Libcsp.PthreadFifo
import Libcsp.QueueTimeout
import Libcsp.Lib.Monitor

namespace Libcsp

variable {capacity width : Nat} {queue : PthreadQueue} {value : List UInt8}

/-! ## The calls -/

/-- What a call meets before its first look: the value of `errno`, the result of `clock_gettime`, and its timeout. -/
structure CallEnv where
  errno : Int
  clock : Int
  timeout : UInt32

/-- The calling thread after some waits. -/
def CallEnv.caller (env : CallEnv) (sleeps : List (Int × PthreadQueue)) : Caller where
  errno := env.errno
  clock := env.clock
  waits := sleeps.map fun sleep => ⟨sleep.1, sleep.2⟩

/-- What a call did with its item. -/
def Returned.ofPut {Store Item : Type} (item : Item) (returned : Returned Store) : Outcome Store Item :=
  match returned.state with
  | none => .broken
  | some store => if returned.code = cspQueueOk then .put item store else .failed store

/-- Which item a call found. -/
def Returned.ofTake {Store Item : Type} (returned : Returned (Item × Store)) : Outcome Store Item :=
  match returned.state with
  | none => .broken
  | some (item, store) => if returned.code = cspQueueOk then .took item store else .failed store

/-- The calls of `pthread_queue_enqueue` and `pthread_queue_dequeue`. -/
def pthreadCalls (width : Nat) : Calls PthreadQueue (List UInt8) CallEnv := fun call first sleeps =>
  match call.work with
  | .put item =>
      (pthreadQueueEnqueue (call.env.caller sleeps) first item call.env.timeout).map (Returned.ofPut item)
  | .take =>
      (pthreadQueueDequeue (call.env.caller sleeps) first (List.replicate width 0) call.env.timeout).map
        Returned.ofTake

/-- The clock may refuse a deadline. A failed wait ends a call, unless `errno` has `EINTR`. -/
def pthreadRules : Rules CallEnv where
  refuses env := env.timeout ≠ cspMaxTimeout ∧ env.clock ≠ 0
  ends env result := result ≠ 0 ∧ env.errno ≠ eintr

/-- An item has the size of the slots. -/
def FitsSlots (width : Nat) (call : Call (List UInt8) CallEnv) : Prop :=
  ∀ item, call.work = .put item → item.length = width

/-- A loop that sleeps looks again after the next wait, unless this wait ends it. -/
theorem waitAvailable_again {blocked : PthreadQueue → Bool} {errno failed : Int} {waits : List Wait}
    (asleep : waitAvailable blocked errno failed queue waits = none) (wait : Wait) :
    waitAvailable blocked errno failed queue (waits ++ [wait]) =
      if wait.ret ≠ 0 ∧ errno ≠ eintr then some (failed, wait.queue)
      else waitAvailable blocked errno failed wait.queue [] := by
  induction waits generalizing queue with
  | nil =>
      rw [waitAvailable] at asleep
      split at asleep
      · rename_i busy
        exact if_pos busy
      · cases asleep
  | cons first rest ih =>
      rw [waitAvailable] at asleep
      split at asleep
      · rename_i busy
        split at asleep
        · cases asleep
        · rename_i goesOn
          rw [List.cons_append, waitAvailable_goesOn _ busy goesOn]
          exact ih asleep
      · cases asleep

/-- The queue holds the items somewhere in its ring. -/
def HoldsItems (capacity width : Nat) (queue : PthreadQueue) (items : List (List UInt8)) : Prop :=
  ∃ first, Represents queue capacity width first items

/-- A refused call leaves the queue. -/
theorem pthreadCalls_refused {call : Call (List UInt8) CallEnv} (refused : pthreadRules.refuses call.env)
    (sleeps : List (Int × PthreadQueue)) : pthreadCalls width call queue sleeps = some (.failed queue) := by
  have clock : call.env.timeout ≠ cspMaxTimeout ∧ (call.env.caller sleeps).clock ≠ 0 := of_decide_eq_true refused
  rw [pthreadCalls]
  split
  · rw [pthreadQueueEnqueue, if_pos clock]
    rfl
  · rw [pthreadQueueDequeue, if_pos clock]
    rfl

/-- Another call is the loop and the copy. -/
theorem pthreadCalls_put {env : CallEnv} (accepted : ¬pthreadRules.refuses env) (sleeps : List (Int × PthreadQueue)) :
    pthreadCalls width ⟨.put value, env⟩ queue sleeps =
      (waitSlotAvailable env.errno queue (env.caller sleeps).waits).map fun result =>
        Returned.ofPut value ⟨result.1, if result.1 = cspQueueOk then result.2.copyIn value else some result.2⟩ := by
  have clock : ¬(env.timeout ≠ cspMaxTimeout ∧ (env.caller sleeps).clock ≠ 0) :=
    fun fails => accepted (decide_eq_true fails)
  change (pthreadQueueEnqueue (env.caller sleeps) queue value env.timeout).map (Returned.ofPut value) = _
  rw [pthreadQueueEnqueue, if_neg clock, Option.map_map]
  rfl

theorem pthreadCalls_take {env : CallEnv} (accepted : ¬pthreadRules.refuses env)
    (sleeps : List (Int × PthreadQueue)) :
    pthreadCalls width ⟨.take, env⟩ queue sleeps =
      (waitItemAvailable env.errno queue (env.caller sleeps).waits).map fun result =>
        Returned.ofTake ⟨result.1, if result.1 = cspQueueOk then result.2.copyOut (List.replicate width 0)
          else some (List.replicate width 0, result.2)⟩ := by
  have clock : ¬(env.timeout ≠ cspMaxTimeout ∧ (env.caller sleeps).clock ≠ 0) :=
    fun fails => accepted (decide_eq_true fails)
  change (pthreadQueueDequeue (env.caller sleeps) queue (List.replicate width 0) env.timeout).map Returned.ofTake = _
  rw [pthreadQueueDequeue, if_neg clock, Option.map_map]
  rfl

/-- The first look of a call does with the ring what the rules say about its items. -/
theorem pthreadCalls_look (narrow : Narrow capacity width) (near : NearCells capacity width)
    {call : Call (List UInt8) CallEnv} {items : List (List UInt8)} (fits : FitsSlots width call)
    (holds : HoldsItems capacity width queue items) :
    Option.Rel (Outcome.Refines (HoldsItems capacity width)) (pthreadCalls width call queue [])
      (sharedCalls (List UInt8) capacity pthreadRules call items []) := by
  by_cases refused : pthreadRules.refuses call.env
  · rw [pthreadCalls_refused refused, sharedCalls, if_pos refused]
    exact .some (.failed holds)
  · obtain ⟨first, represents⟩ := holds
    rw [sharedCalls, if_neg refused, Work.looks]
    obtain ⟨work, env⟩ := call
    cases work with
    | put item =>
        rw [pthreadCalls_put refused, waitSlotAvailable, CallEnv.caller, List.map_nil, waitAvailable,
          represents.isFull, Work.look]
        have bounded := represents.holds.bounded
        by_cases room : items.length < capacity
        · have slot : (first + items.length) % capacity < capacity := Nat.mod_lt _ (by omega)
          obtain ⟨next, copied, holds⟩ := represents.copyIn narrow (near.cell slot) room (fits item rfl)
          rw [decide_eq_false (by omega), if_neg Bool.false_ne_true, if_pos room, Option.map_some, copied]
          exact .some (.put item ⟨first, holds⟩)
        · rw [decide_eq_true (by omega), if_neg room]
          exact .none
    | take =>
        rw [pthreadCalls_take refused, waitItemAvailable, CallEnv.caller, List.map_nil, waitAvailable,
          represents.isEmpty]
        cases items with
        | nil => exact .none
        | cons item rest =>
            obtain ⟨next, copied, holds⟩ := represents.copyOut narrow (near.cell represents.holds.start)
              (List.length_replicate (a := (0 : UInt8)))
            rw [decide_eq_false (List.cons_ne_nil _ _), if_neg Bool.false_ne_true, Option.map_some, copied]
            exact .some (.took item ⟨_, holds⟩)

/-- What a call makes of its loop follows the rules after each wait. -/
theorem waitAvailable_rules {blocked : PthreadQueue → Bool} {failed : Int} {env : CallEnv}
    {sleeps : List (Int × PthreadQueue)} {answer : Int × PthreadQueue → Outcome PthreadQueue (List UInt8)} {result : Int}
    {store : PthreadQueue} (asleep : waitAvailable blocked env.errno failed queue (env.caller sleeps).waits = none)
    (fails : answer (failed, store) = .failed store) :
    (waitAvailable blocked env.errno failed queue (env.caller (sleeps ++ [(result, store)])).waits).map answer =
      if pthreadRules.ends env result then some (.failed store)
      else (waitAvailable blocked env.errno failed store (env.caller []).waits).map answer := by
  have waits : (env.caller (sleeps ++ [(result, store)])).waits = (env.caller sleeps).waits ++ [⟨result, store⟩] :=
    List.map_append
  rw [waits, waitAvailable_again asleep]
  by_cases ends : result ≠ 0 ∧ env.errno ≠ eintr
  · rw [if_pos ends, if_pos (show pthreadRules.ends env result from decide_eq_true ends), Option.map_some, fails]
  · have goesOn : ¬pthreadRules.ends env result := fun same => ends (of_decide_eq_true same)
    rw [if_neg ends, if_neg goesOn]
    rfl

/-- The calls of pthread_queue.c follow their rules on the items of the queue. -/
theorem pthreadCalls_refines (narrow : Narrow capacity width) (near : NearCells capacity width) :
    (pthreadCalls width).Refines pthreadRules (HoldsItems capacity width) capacity (FitsSlots width) where
  look fits holds := pthreadCalls_look narrow near fits holds
  again := by
    rintro ⟨work, env⟩ first sleeps - asleep result store
    have accepted : ¬pthreadRules.refuses env := by
      intro refused
      rw [pthreadCalls_refused refused] at asleep
      cases asleep
    cases work with
    | put item =>
        rw [pthreadCalls_put accepted, Option.map_eq_none_iff] at asleep
        rw [pthreadCalls_put accepted, pthreadCalls_put accepted]
        exact waitAvailable_rules asleep rfl
    | take =>
        rw [pthreadCalls_take accepted, Option.map_eq_none_iff] at asleep
        rw [pthreadCalls_take accepted, pthreadCalls_take accepted]
        exact waitAvailable_rules asleep rfl

/-! ## The threads -/

variable {Thread : Type} [DecidableEq Thread]

/-- The threads that share a queue call its functions in any order. -/
def queueThreads (Thread : Type) [DecidableEq Thread] (queue : PthreadQueue) (width : Nat) :
    Machine (Monitor PthreadQueue (List UInt8) CallEnv Thread) (MonitorInput (List UInt8) CallEnv Thread) :=
  Monitor.machine (pthreadCalls width) queue (FitsSlots width)

/-- In every order of the threads, each item that a call accepted is in the queue, or a call returned it in its turn.
A thread sleeps for a slot only while the queue is full, and for an item only while it is empty, or it is about to be
woken. No copy leaves the queue. -/
theorem pthreadQueue_shared {setup : QueueSetup} (positive : 0 < capacity) (narrow : Narrow capacity width)
    (near : NearCells capacity width) (created : pthreadQueueCreate setup capacity width = some queue)
    {monitor : Monitor PthreadQueue (List UInt8) CallEnv Thread}
    (reached : (queueThreads Thread queue width).Reachable monitor) :
    ∃ items, HoldsItems capacity width monitor.store items ∧ items.length ≤ capacity ∧
      monitor.accepted = monitor.delivered ++ items ∧ (∀ thread, monitor.phase thread ≠ .broken) ∧
      (∀ thread value env, monitor.phase thread = .asleep ⟨.put value, env⟩ →
        pthreadQueueFree monitor.store = 0 ∨ monitor.Pending .room) ∧
      (∀ thread env, monitor.phase thread = .asleep ⟨.take, env⟩ →
        pthreadQueueItems monitor.store = 0 ∨ monitor.Pending .items) := by
  have empty : HoldsItems capacity width queue [] := ⟨0, pthreadQueueCreate_represents positive narrow created⟩
  obtain ⟨model, simulates⟩ := Monitor.simulates_of_reachable (pthreadCalls_refines narrow near) empty reached
  obtain ⟨⟨holds, phase, accepted, delivered, -⟩, -, -, bounded, ordered, whole, alert⟩ := simulates
  have pending : ∀ {condition}, model.Pending condition → monitor.Pending condition := by
    rintro condition ⟨thread, finishing⟩
    exact ⟨thread, by rwa [phase]⟩
  obtain ⟨first, represents⟩ := id holds
  refine ⟨model.store, holds, bounded, ?_, ?_, fun thread value env asleep => ?_, fun thread env asleep => ?_⟩
  · rw [accepted, delivered, ordered]
  · rwa [phase]
  · rw [phase] at asleep
    refine (alert thread _ asleep).imp (fun full => ?_) pending
    have same : model.store.length = capacity := full
    rw [pthreadQueueFree, represents.size, represents.count, same, Int.sub_self]
    rfl
  · rw [phase] at asleep
    refine (alert thread _ asleep).imp (fun none => ?_) pending
    have same : model.store = [] := none
    rw [pthreadQueueItems, represents.count, same]
    rfl

/-- A new queue with one slot for one byte. -/
def oneSlotQueue : PthreadQueue where
  buffer := fun _ => 0
  allocated := 1
  size := 1
  itemSize := 1
  items := 0
  inSlot := 0
  outSlot := 0

/-- A call without a deadline, and no earlier call left an error. -/
def noDeadline : CallEnv where
  errno := 0
  clock := 0
  timeout := cspMaxTimeout

/-- The first thread sleeps for an item, and wakes up when the second one has put it. -/
def takeBeforePut : List (MonitorInput (List UInt8) CallEnv Bool) :=
  [.call false ⟨.take, noDeadline⟩, .enter false, .call true ⟨.put [7], noDeadline⟩, .enter true, .announce true,
    .enter false]

theorem takeBeforePut_shared :
    let last := (queueThreads Bool oneSlotQueue 1).trace (Monitor.start oneSlotQueue) takeBeforePut
    last.delivered = [[7]] ∧ ∃ items, HoldsItems 1 1 last.store items ∧ last.accepted = last.delivered ++ items := by
  have started : (queueThreads Bool oneSlotQueue 1).Reachable (Monitor.start oneSlotQueue) := .start rfl
  have reached := started.trace takeBeforePut
    (by simp [takeBeforePut, Machine.Allows, queueThreads, Monitor.machine, FitsSlots])
  obtain ⟨items, holds, -, ordered, -⟩ := @pthreadQueue_shared 1 1 _ Bool _ plentySetup (by decide)
    ⟨by decide, by decide⟩ (show NearCells 1 1 by unfold NearCells; decide) rfl _ reached
  exact ⟨rfl, items, holds, ordered⟩

end Libcsp

/-
This file models windows_queue.c, and shows that threads cannot tell its queue from the one of pthread_queue.c.
-/
import Libcsp.QueueThreads

namespace Libcsp

open CellRing

variable {capacity width first : Nat} {items rest : List (List UInt8)} {item value buf : List UInt8}

/-! ## The queue -/

def windowsQueueOk : Int := cspQueueOk
def windowsQueueError : Int := cspQueueError
def windowsQueueFull : Int := cspQueueError
def windowsQueueEmpty : Int := cspQueueError

def waitTimeout : Int := 258

/-- This is `windows_queue_t`. The block `buffer` has `allocated` bytes. -/
structure WindowsQueue where
  buffer : Memory
  allocated : Nat
  size : Int
  itemSize : Int
  items : Int
  headIdx : Int

namespace WindowsQueue

def isFull (queue : WindowsQueue) : Bool := queue.items = queue.size

def isEmpty (queue : WindowsQueue) : Bool := queue.items = 0

/-- The copy into the buffer, and the new counter. -/
def copyIn (queue : WindowsQueue) (value : List UInt8) : Option WindowsQueue :=
  let offset := toInt ((toInt (queue.headIdx + queue.items)).tmod queue.size * queue.itemSize)
  let count := toSizeT queue.itemSize
  if 0 ≤ offset ∧ offset + count ≤ queue.allocated ∧ count ≤ value.length then
    some { queue with
      buffer := store queue.buffer offset.toNat (value.take count)
      items := toInt (queue.items + 1) }
  else none

/-- The copy from the buffer, and the new counters. -/
def copyOut (queue : WindowsQueue) (buf : List UInt8) : Option (List UInt8 × WindowsQueue) :=
  let offset := toInt (queue.headIdx.tmod queue.size * queue.itemSize)
  let count := toSizeT queue.itemSize
  if 0 ≤ offset ∧ offset + count ≤ queue.allocated ∧ count ≤ buf.length then
    some (load queue.buffer offset.toNat count ++ buf.drop count,
      { queue with
        items := toInt (queue.items - 1)
        headIdx := (toInt (queue.headIdx + 1)).tmod queue.size })
  else none

end WindowsQueue

/-- The setup of critical sections and conditions cannot fail. -/
def windowsQueueCreate (setup : QueueSetup) (length : Int) (itemSize : Nat) : Option WindowsQueue :=
  if setup.handle then
    (setup.malloc (toSizeT (length * itemSize))).map fun buffer =>
      { buffer, allocated := toSizeT (length * itemSize), size := length, itemSize := toInt itemSize, items := 0,
        headIdx := 0 }
  else none

/-- One call of `SleepConditionVariableCS`: its result, and the queue when the thread has the mutex again. -/
structure Sleep where
  ret : Int
  queue : WindowsQueue

/-- The loop of both functions. Nothing is returned while the thread sleeps. -/
def sleepWhile (blocked : WindowsQueue → Bool) (late : Int) :
    WindowsQueue → List Sleep → Option (Int × WindowsQueue)
  | queue, [] => if blocked queue then none else some (windowsQueueOk, queue)
  | queue, sleep :: rest =>
      if blocked queue then
        if sleep.ret = 0 then some (if sleep.ret = waitTimeout then late else windowsQueueError, sleep.queue)
        else sleepWhile blocked late sleep.queue rest
      else some (windowsQueueOk, queue)

def windowsQueueEnqueue (sleeps : List Sleep) (queue : WindowsQueue) (value : List UInt8) :
    Option (Returned WindowsQueue) :=
  (sleepWhile WindowsQueue.isFull windowsQueueFull queue sleeps).map fun result =>
    ⟨result.1, if result.1 = windowsQueueOk then result.2.copyIn value else some result.2⟩

def windowsQueueDequeue (sleeps : List Sleep) (queue : WindowsQueue) (buf : List UInt8) :
    Option (Returned (List UInt8 × WindowsQueue)) :=
  (sleepWhile WindowsQueue.isEmpty windowsQueueEmpty queue sleeps).map fun result =>
    ⟨result.1, if result.1 = windowsQueueOk then result.2.copyOut buf else some (buf, result.2)⟩

def windowsQueueItems (queue : WindowsQueue) : Int := queue.items

/-! ## The ring -/

/-- The ring of bytes holds the items from the head on. -/
structure WindowsQueue.Represents (queue : WindowsQueue) (capacity width first : Nat) (items : List (List UInt8)) :
    Prop where
  size : queue.size = capacity
  itemSize : queue.itemSize = width
  allocated : queue.allocated = capacity * width
  count : queue.items = items.length
  headIdx : queue.headIdx = first
  holds : CellRing.Holds queue.buffer width capacity first items

/-- The sum of the head and the count is a value of `int`. The product of a slot and the size of an item is one, too. -/
structure WindowsNarrow (capacity width : Nat) : Prop where
  cells : NearCells capacity width
  capacity : capacity ≤ 2 ^ 30
  width : width < 2 ^ 31

namespace WindowsQueue

variable {queue : WindowsQueue}

theorem Represents.cell (represents : queue.Represents capacity width first items)
    (narrow : WindowsNarrow capacity width) {slot : Nat} (inside : slot < capacity) :
    toInt (slot * queue.itemSize) = (slot * width : Nat) ∧ toSizeT queue.itemSize = width ∧
      (slot * width : Nat) + width ≤ queue.allocated := by
  have small := narrow.width
  have near := narrow.cells.cell inside
  refine ⟨?_, ?_, ?_⟩
  · rw [represents.itemSize, ← Int.natCast_mul]
    exact toInt_eq (by omega) (by omega)
  · rw [represents.itemSize]
    exact toSizeT_eq (by omega) (by omega)
  · rw [represents.allocated]
    exact cell_inside inside

/-- A counter below twice the capacity turns to a slot. -/
theorem Represents.turn (represents : queue.Represents capacity width first items)
    (narrow : WindowsNarrow capacity width) {count : Nat} (near : count < 2 * capacity) :
    (toInt count).tmod queue.size = (count % capacity : Nat) := by
  have small := narrow.capacity
  rw [represents.size, toInt_eq (by omega) (by omega)]
  rfl

theorem Represents.copyIn (represents : queue.Represents capacity width first items)
    (narrow : WindowsNarrow capacity width) (room : items.length < capacity) (wide : value.length = width) :
    ∃ next, queue.copyIn value = some next ∧ next.Represents capacity width first (items ++ [value]) := by
  have start := represents.holds.start
  have slot : (first + items.length) % capacity < capacity := Nat.mod_lt _ (by omega)
  obtain ⟨offset, count, inside⟩ := represents.cell narrow slot
  have small := narrow.capacity
  have turned : (toInt (queue.headIdx + queue.items)).tmod queue.size = ((first + items.length) % capacity : Nat) := by
    rw [represents.headIdx, represents.count, ← Int.natCast_add]
    exact represents.turn narrow (by omega)
  refine ⟨_, if_pos ?_, represents.size, represents.itemSize, represents.allocated, ?_, represents.headIdx, ?_⟩
  · rw [turned, offset, count]
    omega
  · change toInt (queue.items + 1) = _
    rw [represents.count, toInt_eq (by omega) (by omega), List.length_append, List.length_singleton]
    rfl
  · rw [turned, offset, count, List.take_of_length_le (Nat.le_of_eq wide)]
    exact represents.holds.push room wide

theorem Represents.copyOut (represents : queue.Represents capacity width first (item :: rest))
    (narrow : WindowsNarrow capacity width) (wide : buf.length = width) :
    ∃ next, queue.copyOut buf = some (item, next) ∧
      next.Represents capacity width ((first + 1) % capacity) rest := by
  have slot := represents.holds.start
  obtain ⟨offset, count, inside⟩ := represents.cell narrow slot
  obtain ⟨bytes, others⟩ := represents.holds.pop
  have small := narrow.capacity
  have bounded := represents.holds.bounded
  rw [List.length_cons] at bounded
  have turned : queue.headIdx.tmod queue.size = first := by
    rw [represents.headIdx, represents.size]
    exact congrArg Nat.cast (Nat.mod_eq_of_lt slot)
  have copied : load queue.buffer (toInt (queue.headIdx.tmod queue.size * queue.itemSize)).toNat
      (toSizeT queue.itemSize) ++ buf.drop (toSizeT queue.itemSize) = item := by
    rw [turned, offset, count, List.drop_of_length_le (Nat.le_of_eq wide), List.append_nil]
    exact bytes
  refine ⟨_, (if_pos ?_).trans (congrArg (fun bytes => some (bytes, _)) copied), represents.size,
    represents.itemSize, represents.allocated, ?_, ?_, others⟩
  · rw [turned, offset, count]
    omega
  · change toInt (queue.items - 1) = _
    rw [represents.count, List.length_cons, toInt_eq (by omega) (by omega)]
    omega
  · change (toInt (queue.headIdx + 1)).tmod queue.size = _
    have next := represents.turn narrow (show first + 1 < 2 * capacity by omega)
    rw [represents.headIdx]
    exact next

theorem Represents.isFull (represents : queue.Represents capacity width first items) :
    queue.isFull = decide (items.length = capacity) := by
  rw [WindowsQueue.isFull, represents.count, represents.size]
  exact decide_eq_decide.mpr Int.ofNat_inj

theorem Represents.isEmpty (represents : queue.Represents capacity width first items) :
    queue.isEmpty = decide (items = []) := by
  rw [WindowsQueue.isEmpty, represents.count]
  exact decide_eq_decide.mpr (by rw [← List.length_eq_zero_iff]; omega)

end WindowsQueue

/-! ## The calls -/

/-- The result of `SleepConditionVariableCS` is not zero when the wait did not fail. -/
def windowsSleep (sleep : Int × WindowsQueue) : Sleep where
  ret := if sleep.1 = 0 then 1 else 0
  queue := sleep.2

/-- The calls of `windows_queue_enqueue` and `windows_queue_dequeue`. -/
def windowsCalls (width : Nat) : Calls WindowsQueue (List UInt8) CallEnv := fun call first sleeps =>
  match call.work with
  | .put item => (windowsQueueEnqueue (sleeps.map windowsSleep) first item).map (Returned.ofPut item)
  | .take => (windowsQueueDequeue (sleeps.map windowsSleep) first (List.replicate width 0)).map Returned.ofTake

/-- Each call looks at the queue, and each failed wait ends it. -/
def windowsRules : Rules CallEnv where
  refuses _ := false
  ends _ result := result ≠ 0

/-- A loop that sleeps looks again after the next wait, unless this wait failed. The code of a failed wait is never the
one for a late call. -/
theorem sleepWhile_again {blocked : WindowsQueue → Bool} {late : Int} {queue : WindowsQueue} {sleeps : List Sleep}
    (asleep : sleepWhile blocked late queue sleeps = none) (sleep : Sleep) :
    sleepWhile blocked late queue (sleeps ++ [sleep]) =
      if sleep.ret = 0 then some (windowsQueueError, sleep.queue) else sleepWhile blocked late sleep.queue [] := by
  induction sleeps generalizing queue with
  | nil =>
      rw [sleepWhile] at asleep
      split at asleep
      · rename_i busy
        rw [List.nil_append]
        refine (if_pos busy).trans ?_
        split
        · rename_i fails
          rw [fails]
          rfl
        · rfl
      · cases asleep
  | cons first rest ih =>
      rw [sleepWhile] at asleep
      split at asleep
      · rename_i busy
        split at asleep
        · cases asleep
        · rename_i goesOn
          rw [List.cons_append]
          exact ((if_pos busy).trans (if_neg goesOn)).trans (ih asleep)
      · cases asleep

def WindowsQueue.HoldsItems (capacity width : Nat) (queue : WindowsQueue) (items : List (List UInt8)) : Prop :=
  ∃ first, queue.Represents capacity width first items

theorem windowsCalls_put (env : CallEnv) (queue : WindowsQueue) (sleeps : List (Int × WindowsQueue)) :
    windowsCalls width ⟨.put value, env⟩ queue sleeps =
      (sleepWhile WindowsQueue.isFull windowsQueueFull queue (sleeps.map windowsSleep)).map fun result =>
        Returned.ofPut value ⟨result.1, if result.1 = windowsQueueOk then result.2.copyIn value else some result.2⟩ := by
  change (windowsQueueEnqueue (sleeps.map windowsSleep) queue value).map (Returned.ofPut value) = _
  rw [windowsQueueEnqueue, Option.map_map]
  rfl

theorem windowsCalls_take (env : CallEnv) (queue : WindowsQueue) (sleeps : List (Int × WindowsQueue)) :
    windowsCalls width ⟨.take, env⟩ queue sleeps =
      (sleepWhile WindowsQueue.isEmpty windowsQueueEmpty queue (sleeps.map windowsSleep)).map fun result =>
        Returned.ofTake ⟨result.1, if result.1 = windowsQueueOk then result.2.copyOut (List.replicate width 0)
          else some (List.replicate width 0, result.2)⟩ := by
  change (windowsQueueDequeue (sleeps.map windowsSleep) queue (List.replicate width 0)).map Returned.ofTake = _
  rw [windowsQueueDequeue, Option.map_map]
  rfl

theorem windowsCalls_look (narrow : WindowsNarrow capacity width) {call : Call (List UInt8) CallEnv}
    {queue : WindowsQueue} (fits : FitsSlots width call) (holds : WindowsQueue.HoldsItems capacity width queue items) :
    Option.Rel (Outcome.Refines (WindowsQueue.HoldsItems capacity width)) (windowsCalls width call queue [])
      (sharedCalls (List UInt8) capacity windowsRules call items []) := by
  obtain ⟨first, represents⟩ := holds
  have accepted : ¬windowsRules.refuses call.env := Bool.false_ne_true
  rw [sharedCalls, if_neg accepted, Work.looks]
  obtain ⟨work, env⟩ := call
  cases work with
  | put item =>
      rw [windowsCalls_put, List.map_nil, sleepWhile, represents.isFull, Work.look]
      have bounded := represents.holds.bounded
      by_cases room : items.length < capacity
      · obtain ⟨next, copied, holds⟩ := represents.copyIn narrow room (fits item rfl)
        rw [decide_eq_false (by omega), if_neg Bool.false_ne_true, if_pos room, Option.map_some, copied]
        exact .some (.put item ⟨first, holds⟩)
      · rw [decide_eq_true (by omega), if_neg room]
        exact .none
  | take =>
      rw [windowsCalls_take, List.map_nil, sleepWhile, represents.isEmpty]
      cases items with
      | nil => exact .none
      | cons item rest =>
          obtain ⟨next, copied, holds⟩ := represents.copyOut narrow (List.length_replicate (a := (0 : UInt8)))
          rw [decide_eq_false (List.cons_ne_nil _ _), if_neg Bool.false_ne_true, Option.map_some, copied]
          exact .some (.took item ⟨_, holds⟩)

/-- What a call makes of its loop follows the rules after each wait. -/
theorem sleepWhile_rules {blocked : WindowsQueue → Bool} {late : Int} {queue store : WindowsQueue} (env : CallEnv)
    {sleeps : List (Int × WindowsQueue)} {answer : Int × WindowsQueue → Outcome WindowsQueue (List UInt8)} {result : Int}
    (asleep : sleepWhile blocked late queue (sleeps.map windowsSleep) = none)
    (fails : answer (windowsQueueError, store) = .failed store) :
    (sleepWhile blocked late queue ((sleeps ++ [(result, store)]).map windowsSleep)).map answer =
      if windowsRules.ends env result then some (.failed store)
      else (sleepWhile blocked late store (List.map windowsSleep [])).map answer := by
  rw [List.map_append, List.map_singleton, sleepWhile_again asleep]
  by_cases zero : result = 0
  · have woken : (windowsSleep (result, store)).ret ≠ 0 := by simp [windowsSleep, zero]
    have goesOn : ¬windowsRules.ends env result := fun ends => of_decide_eq_true ends zero
    rw [if_neg woken, if_neg goesOn]
    rfl
  · have failed : (windowsSleep (result, store)).ret = 0 := if_neg zero
    rw [if_pos failed, if_pos (show windowsRules.ends env result from decide_eq_true zero), Option.map_some]
    exact congrArg some fails

/-- The calls of windows_queue.c follow their rules on the items of the queue. -/
theorem windowsCalls_refines (narrow : WindowsNarrow capacity width) :
    (windowsCalls width).Refines windowsRules (WindowsQueue.HoldsItems capacity width) capacity (FitsSlots width) where
  look fits holds := windowsCalls_look narrow fits holds
  again := by
    rintro ⟨work, env⟩ first sleeps - asleep result store
    cases work with
    | put item =>
        rw [windowsCalls_put, Option.map_eq_none_iff] at asleep
        rw [windowsCalls_put, windowsCalls_put]
        exact sleepWhile_rules env asleep rfl
    | take =>
        rw [windowsCalls_take, Option.map_eq_none_iff] at asleep
        rw [windowsCalls_take, windowsCalls_take]
        exact sleepWhile_rules env asleep rfl

theorem windowsQueueCreate_holds {setup : QueueSetup} {queue : WindowsQueue} (positive : 0 < capacity)
    (narrow : WindowsNarrow capacity width) (created : windowsQueueCreate setup capacity width = some queue) :
    WindowsQueue.HoldsItems capacity width queue [] := by
  have wide := narrow.width
  have small := narrow.capacity
  have block : toSizeT (capacity * width) = capacity * width := by
    have product : capacity * width < 2 ^ 31 * 2 ^ 31 := Nat.mul_lt_mul'' (by omega) narrow.width
    rw [← Int.natCast_mul]
    exact toSizeT_eq (by omega) (by omega)
  rw [windowsQueueCreate] at created
  split at created
  · obtain ⟨buffer, -, rfl⟩ := Option.map_eq_some_iff.mp created
    refine ⟨0, rfl, ?_, block, rfl, rfl, .init _ _ positive⟩
    rw [toInt_eq (by omega) (by omega)]
  · cases created

/-! ## The threads -/

variable {Thread : Type} [DecidableEq Thread]

/-- The threads of Windows that share a queue call its functions in any order. -/
def windowsThreads (Thread : Type) [DecidableEq Thread] (queue : WindowsQueue) (width : Nat) :
    Machine (Monitor WindowsQueue (List UInt8) CallEnv Thread) (MonitorInput (List UInt8) CallEnv Thread) :=
  Monitor.machine (windowsCalls width) queue (FitsSlots width)

/-- The call reads its clock or has no deadline, and `errno` does not have `EINTR` from an earlier call. -/
def CallEnv.Regular (env : CallEnv) : Prop := (env.timeout = cspMaxTimeout ∨ env.clock = 0) ∧ env.errno ≠ eintr

/-- In a regular call both systems have the same rules. -/
theorem CallEnv.Regular.sameRules {env : CallEnv} (regular : env.Regular) :
    windowsRules.refuses env = pthreadRules.refuses env ∧ windowsRules.ends env = pthreadRules.ends env := by
  constructor
  · refine (decide_eq_false ?_).symm
    rintro ⟨deadline, fails⟩
    exact regular.1.elim deadline fails
  · funext result
    exact decide_eq_decide.mpr (and_iff_left regular.2).symm

/-- A thread is alone with an empty queue, and its wait has this result. -/
def takeAlone (thread : Thread) (env : CallEnv) (result : Int) : List (MonitorInput (List UInt8) CallEnv Thread) :=
  [.call thread ⟨.take, env⟩, .enter thread, .wake thread result, .enter thread]

/-- The call returns exactly when the rules refuse it or end it. -/
theorem takeAlone_idle_iff (rules : Rules CallEnv) (permitted : Call (List UInt8) CallEnv → Prop) (thread : Thread)
    (env : CallEnv) (result : Int) :
    ((Monitor.machine (sharedCalls (List UInt8) capacity rules) [] permitted).trace (Monitor.start [])
        (takeAlone thread env result)).phase thread = .idle ↔ rules.refuses env ∨ rules.ends env result := by
  have first : sharedCalls (List UInt8) capacity rules ⟨.take, env⟩ [] [] =
      if rules.refuses env then some (.failed []) else none := rfl
  have second : sharedCalls (List UInt8) capacity rules ⟨.take, env⟩ [] [(result, [])] =
      if rules.refuses env then some (.failed [])
      else if rules.ends env result then some (.failed []) else none := rfl
  by_cases refused : rules.refuses env <;> by_cases ends : rules.ends env result <;>
    simp [takeAlone, Machine.trace, Monitor.machine, Monitor.step, Monitor.start, Monitor.look, Monitor.settle,
      Monitor.setPhase, Phase.ofOutcome, first, second, refused, ends]

/-- In every order of the threads both queues let them sleep, fail and return at the same points with the same items,
exactly when all calls are regular. -/
theorem windowsQueue_alike_iff {setup : QueueSetup} {windows : WindowsQueue} {posix : PthreadQueue}
    (positive : 0 < capacity) (narrow : WindowsNarrow capacity width)
    (created : windowsQueueCreate setup capacity width = some windows)
    (opened : pthreadQueueCreate setup capacity width = some posix) [Nonempty Thread] (possible : CallEnv → Prop) :
    (∀ inputs : List (MonitorInput (List UInt8) CallEnv Thread),
      (∀ thread call, .call thread call ∈ inputs → FitsSlots width call ∧ possible call.env) →
      let last := (windowsThreads Thread windows width).trace (Monitor.start windows) inputs
      let twin := (queueThreads Thread posix width).trace (Monitor.start posix) inputs
      last.phase = twin.phase ∧ last.accepted = twin.accepted ∧ last.delivered = twin.delivered) ↔
    ∀ env, possible env → env.Regular := by
  have small := narrow.capacity
  have same : Narrow capacity width := ⟨by omega, narrow.width⟩
  have empty := windowsQueueCreate_holds positive narrow created
  have none : HoldsItems capacity width posix [] := ⟨0, pthreadQueueCreate_represents positive same opened⟩
  have windowsRefines := windowsCalls_refines narrow
  have posixRefines := pthreadCalls_refines same narrow.cells
  constructor
  · intro alike env meets
    obtain ⟨thread⟩ := ‹Nonempty Thread›
    have both : ∀ result, windowsRules.refuses env ∨ windowsRules.ends env result ↔
        pthreadRules.refuses env ∨ pthreadRules.ends env result := by
      intro result
      have fits : ∀ other call, .call other call ∈ takeAlone thread env result →
          FitsSlots width call ∧ possible call.env := by
        simp [takeAlone, FitsSlots, meets]
      have windowsRun := (Monitor.Simulates.start empty).trace windowsRefines windows (FitsSlots width) _
        fun other call member => (fits other call member).1
      have posixRun := (Monitor.Simulates.start none).trace posixRefines posix (FitsSlots width) _
        fun other call member => (fits other call member).1
      have phase := congrFun (windowsRun.alike.phase.symm.trans ((alike _ fits).1.trans posixRun.alike.phase)) thread
      rw [← takeAlone_idle_iff windowsRules (FitsSlots width) thread, phase, takeAlone_idle_iff]
    -- A woken thread of Windows sleeps again, and a failed wait ends its call.
    have accepted : ¬(env.timeout ≠ cspMaxTimeout ∧ env.clock ≠ 0) := by simpa [windowsRules, pthreadRules] using both 0
    have uninterrupted : (env.timeout ≠ cspMaxTimeout ∧ env.clock ≠ 0) ∨ env.errno ≠ eintr := by
      simpa [windowsRules, pthreadRules] using both 1
    exact ⟨(not_and_or.mp accepted).imp not_not.mp not_not.mp, uninterrupted.resolve_left accepted⟩
  · intro regular inputs fits
    have rules := fun (call : Call (List UInt8) CallEnv) (met : FitsSlots width call ∧ possible call.env) =>
      (regular call.env met.2).sameRules
    have windowsRun := (Monitor.Simulates.start empty).trace
      ((windowsRefines.mono fun call met => met.1).changeRules rules) windows (FitsSlots width) inputs fits
    have posixRun := (Monitor.Simulates.start none).trace (posixRefines.mono fun call met => met.1) posix
      (FitsSlots width) inputs fits
    exact ⟨windowsRun.alike.phase.trans posixRun.alike.phase.symm,
      windowsRun.alike.accepted.trans posixRun.alike.accepted.symm,
      windowsRun.alike.delivered.trans posixRun.alike.delivered.symm⟩

def oneSlotWindowsQueue : WindowsQueue where
  buffer := fun _ => 0
  allocated := 1
  size := 1
  itemSize := 1
  items := 0
  headIdx := 0

/-- The item that woke the first thread comes out of both queues. -/
theorem takeBeforePut_alike :
    ((windowsThreads Bool oneSlotWindowsQueue 1).trace (Monitor.start oneSlotWindowsQueue) takeBeforePut).delivered =
      [[7]] := by
  have narrow : WindowsNarrow 1 1 := ⟨show 0 * 1 < 2 ^ 31 by decide, by decide, by decide⟩
  have regular : ∀ env, env = noDeadline → env.Regular := by
    rintro _ rfl
    exact ⟨.inl rfl, by decide⟩
  have alike := (@windowsQueue_alike_iff 1 1 Bool _ plentySetup oneSlotWindowsQueue oneSlotQueue (by decide) narrow rfl
    rfl _ (· = noDeadline)).mpr regular takeBeforePut (by simp [takeBeforePut, FitsSlots])
  exact alike.2.2

end Libcsp

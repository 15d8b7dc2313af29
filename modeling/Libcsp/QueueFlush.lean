/-
This file determines when a flush of the shared RDP queues frees the packets that it removes.
-/
import Libcsp.QueueIsolation

namespace Libcsp

variable {cfg : Config}

/-! ## Frees in a row -/

/-- This operation frees a list of packets in its order. -/
def freeAll (pool : Pool cfg) (packets : List Packet) : Pool cfg :=
  packets.foldl (fun pool packet => bufferFree pool (some packet)) pool

@[simp] theorem freeAll_nil (pool : Pool cfg) : freeAll pool [] = pool := rfl

@[simp] theorem freeAll_cons (pool : Pool cfg) (packet : Packet) (rest : List Packet) :
    freeAll pool (packet :: rest) = freeAll (bufferFree pool (some packet)) rest := rfl

theorem freeAll_append (pool : Pool cfg) (first second : List Packet) :
    freeAll pool (first ++ second) = freeAll (freeAll pool first) second := List.foldl_append

/-- Each freed buffer returns to the pool once, and the other users keep their buffers. -/
theorem freeAll_accounts (pool : Pool cfg) (packets : List Packet) (held : List Nat)
    (accounts : pool.Accounts (packets.map Packet.buf ++ held)) :
    (freeAll pool packets).Accounts held ∧
      (freeAll pool packets).freeBufs = pool.freeBufs ++ packets.map Packet.buf := by
  induction packets generalizing pool with
  | nil => exact ⟨accounts, (List.append_nil _).symm⟩
  | cons packet rest ih =>
      obtain ⟨next, freed⟩ := bufferFree_accounts accounts
      obtain ⟨last, bufs⟩ := ih (bufferFree pool (some packet)) next
      refine ⟨last, ?_⟩
      rw [freeAll_cons, bufs, freed, List.append_assoc, List.map_cons, List.singleton_append]

/-! ## The flush -/

/-- A flush for this connection frees the packet. The NULL connection stands for all. -/
def Packet.flushedFor (conn : Option Nat) (packet : Packet) : Bool :=
  conn = none || conn = some packet.conn

/-- The packets in both shared queues, in the order in which the flush visits them. -/
def Stack.queued (stack : Stack cfg) : List Packet := stack.txQueue.items ++ stack.rxQueue.items

theorem rdpQueueFlushList_frees (conn : Option Nat) (pool : Pool cfg) (items : List Packet) :
    rdpQueueFlushList conn pool items = freeAll pool (items.filter (Packet.flushedFor conn)) := by
  induction items generalizing pool with
  | nil => rfl
  | cons packet rest ih =>
      rw [rdpQueueFlushList, ih]
      by_cases own : conn = none ∨ conn = some packet.conn
      · rw [if_pos own, List.filter_cons_of_pos (by simpa [Packet.flushedFor] using own), freeAll_cons]
      · rw [if_neg own, List.filter_cons_of_neg (by simpa [Packet.flushedFor] using own)]

/-- The flush frees the packets of the connection, and it empties both queues. -/
theorem rdpQueueFlush_effect (stack : Stack cfg) (conn : Option Nat) :
    (rdpQueueFlush stack conn).io.pool =
        freeAll stack.io.pool (stack.queued.filter (Packet.flushedFor conn)) ∧
      (rdpQueueFlush stack conn).txQueue = .empty ∧ (rdpQueueFlush stack conn).rxQueue = .empty := by
  refine ⟨?_, rfl, rfl⟩
  simp only [rdpQueueFlush, rdpQueueFlushList_frees]
  rw [Stack.queued, List.filter_append, freeAll_append]

/-- A flush frees exactly the packets of the connection, each once, and keeps all others queued in
their order. So each buffer that leaves a queue is free afterwards. -/
structure FlushesOnly (conn : Option Nat) (before after : Stack cfg) : Prop where
  freed : after.io.pool = freeAll before.io.pool (before.queued.filter (Packet.flushedFor conn))
  tx : after.txQueue.items = before.txQueue.items.filter fun packet => !packet.flushedFor conn
  rx : after.rxQueue.items = before.rxQueue.items.filter fun packet => !packet.flushedFor conn
  once : ∀ held, before.io.pool.Accounts (before.queued.map Packet.buf ++ held) →
    after.io.pool.Accounts (after.queued.map Packet.buf ++ held) ∧
      after.io.pool.freeBufs = before.io.pool.freeBufs ++
        (before.queued.filter (Packet.flushedFor conn)).map Packet.buf

/-- The queues split into the packets that the flush frees and the others. -/
theorem queued_perm (conn : Option Nat) (packets : List Packet) :
    (packets.map Packet.buf).Perm
      ((packets.filter (Packet.flushedFor conn)).map Packet.buf ++
        (packets.filter fun packet => !packet.flushedFor conn).map Packet.buf) := by
  rw [← List.map_append]
  apply List.Perm.map
  exact (List.filter_append_perm _ packets).symm

/-- After a flush, the packets of the other connections keep their references, and no queue has
them. -/
theorem rdpQueueFlush_leaks (stack : Stack cfg) (conn : Option Nat) (held : List Nat)
    (accounts : stack.io.pool.Accounts (stack.queued.map Packet.buf ++ held)) :
    (rdpQueueFlush stack conn).io.pool.Accounts
        ((stack.queued.filter fun packet => !packet.flushedFor conn).map Packet.buf ++ held) ∧
      (rdpQueueFlush stack conn).io.pool.freeBufs = stack.io.pool.freeBufs ++
        (stack.queued.filter (Packet.flushedFor conn)).map Packet.buf := by
  rw [(rdpQueueFlush_effect stack conn).1]
  apply freeAll_accounts
  apply accounts.perm
  rw [← List.append_assoc]
  exact (queued_perm conn stack.queued).append_right held

theorem kept_eq_nil (conn : Option Nat) (packets : List Packet) :
    (packets.filter fun packet => !packet.flushedFor conn) = [] ↔
      ∀ owner ∈ conn, ∀ packet ∈ packets, packet.conn = owner := by
  rw [List.filter_eq_nil_iff]
  cases conn with
  | none => simp [Packet.flushedFor]
  | some owner =>
      have same : ∀ packet : Packet, owner = packet.conn ↔ packet.conn = owner :=
        fun _ => eq_comm
      simp [Packet.flushedFor, same]

/-- A flush is right exactly when the connection is NULL or owns all packets in both queues. -/
theorem rdpQueueFlush_flushesOnly_iff (stack : Stack cfg) (conn : Option Nat) :
    FlushesOnly conn stack (rdpQueueFlush stack conn) ↔
      ∀ owner ∈ conn, OwnsQueue owner stack.txQueue ∧ OwnsQueue owner stack.rxQueue := by
  obtain ⟨freed, tx, rx⟩ := rdpQueueFlush_effect stack conn
  have whole : (∀ owner ∈ conn, OwnsQueue owner stack.txQueue ∧ OwnsQueue owner stack.rxQueue) ↔
      (stack.txQueue.items.filter fun packet => !packet.flushedFor conn) = [] ∧
        (stack.rxQueue.items.filter fun packet => !packet.flushedFor conn) = [] := by
    rw [kept_eq_nil, kept_eq_nil]
    exact forall₂_and
  rw [whole]
  constructor
  · intro flushes
    exact ⟨by rw [← flushes.tx, tx]; rfl, by rw [← flushes.rx, rx]; rfl⟩
  · rintro ⟨noneTx, noneRx⟩
    have noneQueued : (stack.queued.filter fun packet => !packet.flushedFor conn) = [] := by
      rw [Stack.queued, List.filter_append, noneTx, noneRx]
      rfl
    refine ⟨freed, by rw [tx, noneTx]; rfl, by rw [rx, noneRx]; rfl, fun held accounts => ?_⟩
    have flushed := rdpQueueFlush_leaks stack conn held accounts
    rw [noneQueued] at flushed
    exact flushed

/-- A flush for connection 0 drops the unacknowledged segment of connection 1. -/
theorem twoSenders_flush_drops :
    ¬FlushesOnly (some 0) twoSenders (rdpQueueFlush twoSenders (some 0)) := by
  intro flushes
  have kept := congrArg (List.map Packet.conn) flushes.tx
  exact absurd kept (by decide +kernel)

end Libcsp

/-
This file models csp_rdp_queue.c: the retransmission and reassembly queues that all connections share.
-/
import Libcsp.Stack
import Libcsp.Lib.SharedQueue

namespace Libcsp

variable {cfg : Config} {capacity : Nat}

/-- One shared queue together with the pool that takes what does not fit. -/
abbrev Shared (cfg : Config) (capacity : Nat) := BoundedQueue Packet capacity × Pool cfg

/-- The two add functions tag the packet, and free it when the queue is full. -/
def rdpQueueAdd (shared : Shared cfg capacity) (conn : Nat) (packet : Packet) :
    Shared cfg capacity :=
  let packet := { packet with conn }
  match shared.1.enqueue packet with
  | none => (shared.1, bufferFree shared.2 (some packet))
  | some queue => (queue, shared.2)

/-- The loop of the two get functions. A packet of another connection goes back to the tail, and
the add function writes the tag of the caller on it. -/
def rdpQueueGetLoop (conn : Nat) : Nat → Shared cfg capacity → Option Packet × Shared cfg capacity
  | 0, shared => (none, shared)
  | size + 1, shared =>
      match shared.1.dequeue with
      | none => (none, shared)
      | some (packet, queue) =>
          if packet.conn = conn then (some packet, (queue, shared.2))
          else rdpQueueGetLoop conn size (rdpQueueAdd (queue, shared.2) conn packet)

def rdpQueueGet (shared : Shared cfg capacity) (conn : Nat) :
    Option Packet × Shared cfg capacity :=
  rdpQueueGetLoop conn shared.1.size shared

/-! ## The two shared operations -/

/-- This function writes the tag of a connection. -/
def Packet.tagged (conn : Nat) (packet : Packet) : Packet := { packet with conn }

@[simp] theorem Packet.tagged_conn (conn : Nat) (packet : Packet) :
    (packet.tagged conn).conn = conn := rfl

theorem Packet.tagged_self {packet : Packet} {conn : Nat} (own : packet.conn = conn) :
    packet.tagged conn = packet := by
  subst own
  rfl

theorem rdpQueueAdd_full (shared : Shared cfg capacity) (conn : Nat) (packet : Packet)
    (full : shared.1.items.length = capacity) :
    rdpQueueAdd shared conn packet =
      (shared.1, bufferFree shared.2 (some (packet.tagged conn))) := by
  simp only [rdpQueueAdd, BoundedQueue.enqueue_eq_none.mpr full]
  rfl

theorem rdpQueueAdd_room (shared : Shared cfg capacity) (conn : Nat) (packet : Packet)
    (room : shared.1.items.length < capacity) :
    (rdpQueueAdd shared conn packet).1.items = shared.1.items ++ [packet.tagged conn] ∧
      (rdpQueueAdd shared conn packet).2 = shared.2 := by
  simp only [rdpQueueAdd, BoundedQueue.enqueue_of_room _ room]
  exact ⟨rfl, trivial⟩

/-- The rounds visit the items that were in the queue at the start, and find the first own one. -/
theorem rdpQueueGetLoop_takes (conn : Nat) (unvisited visited : List Packet)
    (shared : Shared cfg capacity) (items : shared.1.items = unvisited ++ visited) :
    (rdpQueueGetLoop conn unvisited.length shared).2.2 = shared.2 ∧
      (((∀ packet ∈ unvisited, packet.conn ≠ conn) ∧
          (rdpQueueGetLoop conn unvisited.length shared).1 = none ∧
          (rdpQueueGetLoop conn unvisited.length shared).2.1.items =
            visited ++ unvisited.map (Packet.tagged conn)) ∨
        ∃ passed packet rest, unvisited = passed ++ packet :: rest ∧
          (∀ other ∈ passed, other.conn ≠ conn) ∧ packet.conn = conn ∧
          (rdpQueueGetLoop conn unvisited.length shared).1 = some packet ∧
          (rdpQueueGetLoop conn unvisited.length shared).2.1.items =
            rest ++ visited ++ passed.map (Packet.tagged conn)) := by
  induction unvisited generalizing visited shared with
  | nil => simp [rdpQueueGetLoop, items]
  | cons head unvisited ih =>
      obtain ⟨queue, dequeued⟩ : ∃ queue, shared.1.dequeue = some (head, queue) := by
        cases split : shared.1.dequeue with
        | none => simp [BoundedQueue.dequeue_eq_none.mp split] at items
        | some pair =>
            obtain ⟨packet, queue⟩ := pair
            have same := BoundedQueue.dequeue_eq_some.mp split
            rw [items, List.cons_append, List.cons.injEq] at same
            exact ⟨queue, by rw [same.1]⟩
      have behind := BoundedQueue.dequeue_eq_some.mp dequeued
      rw [items, List.cons_append, List.cons.injEq] at behind
      simp only [List.length_cons, rdpQueueGetLoop, dequeued]
      split
      · rename_i own
        exact ⟨rfl, .inr ⟨[], head, unvisited, rfl, by simp, own, rfl, by simp [behind.2]⟩⟩
      · rename_i foreign
        have room : queue.items.length < capacity := by
          have bounded := shared.1.bounded
          rw [items, List.cons_append, List.length_cons, behind.2] at bounded
          omega
        obtain ⟨added, pool⟩ := rdpQueueAdd_room (queue, shared.2) conn head room
        obtain ⟨samePool, result⟩ := ih (visited ++ [head.tagged conn])
          (rdpQueueAdd (queue, shared.2) conn head)
          (by rw [added, ← behind.2, List.append_assoc])
        refine ⟨samePool.trans pool, ?_⟩
        rcases result with ⟨none, missing, items⟩ | ⟨passed, packet, rest, split, others, own, found, items⟩
        · refine .inl ⟨?_, missing, ?_⟩
          · intro packet member
            rcases List.mem_cons.mp member with rfl | member
            · exact foreign
            · exact none packet member
          · rw [items, List.append_assoc]
            rfl
        · refine .inr ⟨head :: passed, packet, rest, ?_, ?_, own, found, ?_⟩
          · rw [split]
            rfl
          · intro packet member
            rcases List.mem_cons.mp member with rfl | member
            · exact foreign
            · exact others packet member
          · rw [items]
            simp

/-- The get function is a lookup in the shared queue, and it leaves the pool alone. -/
theorem rdpQueueGet_takes (shared : Shared cfg capacity) (conn : Nat) :
    (rdpQueueGet shared conn).2.2 = shared.2 ∧
      SharedQueue.Takes Packet.conn conn (Packet.tagged conn) shared.1.items
        (rdpQueueGet shared conn).1 (rdpQueueGet shared conn).2.1.items := by
  obtain ⟨pool, result⟩ := rdpQueueGetLoop_takes conn shared.1.items [] shared (by simp)
  refine ⟨pool, ?_⟩
  simp only [rdpQueueGet, BoundedQueue.size]
  rcases result with ⟨foreign, missing, items⟩ | ⟨passed, packet, rest, split, foreign, own, found, items⟩
  · rw [missing, items, List.nil_append]
    exact .missing foreign
  · rw [found, items, List.append_nil, split]
    exact .found foreign own

theorem rdpQueueGet_empty {shared : Shared cfg capacity} (conn : Nat) (items : shared.1.items = []) :
    rdpQueueGet shared conn = (none, shared) := by
  simp [rdpQueueGet, BoundedQueue.size, items, rdpQueueGetLoop]

/-! ## The operations on the static queues -/

def Stack.tx (stack : Stack cfg) : Shared cfg (cfg.rdpMaxWindow * 2) :=
  (stack.txQueue, stack.io.pool)

def Stack.rx (stack : Stack cfg) : Shared cfg (cfg.rdpMaxWindow * 2) :=
  (stack.rxQueue, stack.io.pool)

def Stack.setTx (stack : Stack cfg) (shared : Shared cfg (cfg.rdpMaxWindow * 2)) : Stack cfg :=
  { stack with txQueue := shared.1, io := { stack.io with pool := shared.2 } }

def Stack.setRx (stack : Stack cfg) (shared : Shared cfg (cfg.rdpMaxWindow * 2)) : Stack cfg :=
  { stack with rxQueue := shared.1, io := { stack.io with pool := shared.2 } }

/-- This is `csp_rdp_queue_tx_add`. -/
def rdpQueueTxAdd (stack : Stack cfg) (conn : Nat) (packet : Packet) : Stack cfg :=
  stack.setTx (rdpQueueAdd stack.tx conn packet)

/-- This is `csp_rdp_queue_rx_add`. -/
def rdpQueueRxAdd (stack : Stack cfg) (conn : Nat) (packet : Packet) : Stack cfg :=
  stack.setRx (rdpQueueAdd stack.rx conn packet)

/-- This is `csp_rdp_queue_tx_get`. -/
def rdpQueueTxGet (stack : Stack cfg) (conn : Nat) : Option Packet × Stack cfg :=
  let (packet, shared) := rdpQueueGet stack.tx conn
  (packet, stack.setTx shared)

/-- This is `csp_rdp_queue_rx_get`. -/
def rdpQueueRxGet (stack : Stack cfg) (conn : Nat) : Option Packet × Stack cfg :=
  let (packet, shared) := rdpQueueGet stack.rx conn
  (packet, stack.setRx shared)

/-- A get changes nothing but its queue. -/
theorem rdpQueueTxGet_takes (stack : Stack cfg) (conn : Nat) :
    ∃ found queue, rdpQueueTxGet stack conn = (found, { stack with txQueue := queue }) ∧
      SharedQueue.Takes Packet.conn conn (Packet.tagged conn) stack.txQueue.items found
        queue.items := by
  obtain ⟨pool, takes⟩ := rdpQueueGet_takes stack.tx conn
  refine ⟨_, _, ?_, takes⟩
  simp only [rdpQueueTxGet, Stack.setTx, pool]
  rfl

theorem rdpQueueRxGet_takes (stack : Stack cfg) (conn : Nat) :
    ∃ found queue, rdpQueueRxGet stack conn = (found, { stack with rxQueue := queue }) ∧
      SharedQueue.Takes Packet.conn conn (Packet.tagged conn) stack.rxQueue.items found
        queue.items := by
  obtain ⟨pool, takes⟩ := rdpQueueGet_takes stack.rx conn
  refine ⟨_, _, ?_, takes⟩
  simp only [rdpQueueRxGet, Stack.setRx, pool]
  rfl

/-- An add to a queue with room changes nothing but this queue. -/
theorem rdpQueueTxAdd_room (stack : Stack cfg) (conn : Nat) (packet : Packet)
    (room : stack.txQueue.items.length < cfg.rdpMaxWindow * 2) :
    ∃ queue, rdpQueueTxAdd stack conn packet = { stack with txQueue := queue } ∧
      queue.items = stack.txQueue.items ++ [packet.tagged conn] := by
  obtain ⟨items, pool⟩ := rdpQueueAdd_room stack.tx conn packet room
  refine ⟨_, ?_, items⟩
  simp only [rdpQueueTxAdd, Stack.setTx, pool]
  rfl

theorem rdpQueueRxAdd_room (stack : Stack cfg) (conn : Nat) (packet : Packet)
    (room : stack.rxQueue.items.length < cfg.rdpMaxWindow * 2) :
    ∃ queue, rdpQueueRxAdd stack conn packet = { stack with rxQueue := queue } ∧
      queue.items = stack.rxQueue.items ++ [packet.tagged conn] := by
  obtain ⟨items, pool⟩ := rdpQueueAdd_room stack.rx conn packet room
  refine ⟨_, ?_, items⟩
  simp only [rdpQueueRxAdd, Stack.setRx, pool]
  rfl

/-- An add to a full queue frees the packet. -/
theorem rdpQueueTxAdd_full (stack : Stack cfg) (conn : Nat) (packet : Packet)
    (full : stack.txQueue.items.length = cfg.rdpMaxWindow * 2) :
    rdpQueueTxAdd stack conn packet = stack.free (packet.tagged conn) := by
  rw [rdpQueueTxAdd, rdpQueueAdd_full stack.tx conn packet full]
  rfl

theorem rdpQueueRxAdd_full (stack : Stack cfg) (conn : Nat) (packet : Packet)
    (full : stack.rxQueue.items.length = cfg.rdpMaxWindow * 2) :
    rdpQueueRxAdd stack conn packet = stack.free (packet.tagged conn) := by
  rw [rdpQueueRxAdd, rdpQueueAdd_full stack.rx conn packet full]
  rfl

/-- A successful get makes room for one packet. -/
theorem room_of_takes {conn : Nat} {packet : Packet} {before after : BoundedQueue Packet capacity}
    (takes : SharedQueue.Takes Packet.conn conn (Packet.tagged conn) before.items (some packet)
      after.items) : after.items.length < capacity := by
  have length := takes.length
  have bounded := before.bounded
  rw [Option.toList_some, List.length_singleton] at length
  omega

/-- The flush frees the packets of the connection and drops the packets of all others. -/
def rdpQueueFlushList (conn : Option Nat) (pool : Pool cfg) : List Packet → Pool cfg
  | [] => pool
  | packet :: rest =>
      let pool := if conn = none ∨ conn = some packet.conn then bufferFree pool (some packet) else pool
      rdpQueueFlushList conn pool rest

/-- This is `csp_rdp_queue_flush`. -/
def rdpQueueFlush (stack : Stack cfg) (conn : Option Nat) : Stack cfg :=
  let pool := rdpQueueFlushList conn stack.io.pool stack.txQueue.items
  let pool := rdpQueueFlushList conn pool stack.rxQueue.items
  { stack with txQueue := .empty, rxQueue := .empty, io := { stack.io with pool } }

end Libcsp

/-
This file models the pool of packet buffers of csp_buffer.c.
-/
import Libcsp.Types
import Libcsp.Lib.BoundedQueue
import Mathlib.Logic.Function.Basic

namespace Libcsp

variable {cfg : Config}

/-- The pool is a queue of free buffers. Each buffer keeps its old content while it is free. -/
structure Pool (cfg : Config) where
  buffers : BoundedQueue Packet cfg.bufferCount
  refcount : Nat → UInt32

/-- This is `csp_buffer_init`. The memory of the buffers has arbitrary content. -/
def bufferInit (cfg : Config) (content : Nat → Packet) : Pool cfg :=
  { buffers := ⟨(List.range cfg.bufferCount).map fun buf => { content buf with buf }, by simp⟩
    refcount := fun _ => 0 }

/-- This is `csp_buffer_get`. The new packet has the stale content of its buffer. -/
def bufferGet (pool : Pool cfg) (size : Nat) : Option Packet × Pool cfg :=
  if size > cfg.bufferSize then (none, pool)
  else
    match pool.buffers.dequeue with
    | none => (none, pool)
    | some (packet, rest) =>
        (some packet, ⟨rest, Function.update pool.refcount packet.buf 1⟩)

/-- This is `csp_buffer_free`. A second free of one buffer changes nothing. -/
def bufferFree (pool : Pool cfg) : Option Packet → Pool cfg
  | none => pool
  | some packet =>
      if pool.refcount packet.buf = 0 then pool
      else
        let count := pool.refcount packet.buf - 1
        let counted := { pool with refcount := Function.update pool.refcount packet.buf count }
        if count > 0 then counted
        else
          match pool.buffers.enqueue packet with
          | none => counted
          | some buffers => { counted with buffers }

/-- This is `csp_buffer_clone`. The copy has the whole content and its own buffer. -/
def bufferClone (pool : Pool cfg) : Option Packet → Option Packet × Pool cfg
  | none => (none, pool)
  | some packet =>
      match bufferGet pool packet.length.toNat with
      | (none, pool) => (none, pool)
      | (some clone, pool) => (some { packet with buf := clone.buf }, pool)

def Pool.remaining (pool : Pool cfg) : Nat := pool.buffers.size

/-- This list names the free buffers in the order of the queue. -/
def Pool.freeBufs (pool : Pool cfg) : List Nat := pool.buffers.items.map Packet.buf

/-- An allocation takes the first free buffer. -/
theorem bufferGet_cases (pool : Pool cfg) (size : Nat) :
    (bufferGet pool size = (none, pool) ∧ (cfg.bufferSize < size ∨ pool.buffers.items = [])) ∨
      ∃ packet rest, size ≤ cfg.bufferSize ∧ pool.buffers.items = packet :: rest.items ∧
        bufferGet pool size =
          (some packet, ⟨rest, Function.update pool.refcount packet.buf 1⟩) := by
  unfold bufferGet
  split
  · rename_i large
    exact .inl ⟨rfl, .inl large⟩
  · rename_i fits
    split
    · rename_i empty
      exact .inl ⟨rfl, .inr (BoundedQueue.dequeue_eq_none.mp empty)⟩
    · rename_i packet rest head
      exact .inr ⟨packet, rest, not_lt.mp fits, BoundedQueue.dequeue_eq_some.mp head, rfl⟩

theorem bufferFree_remaining (pool : Pool cfg) (packet : Option Packet) :
    pool.remaining ≤ (bufferFree pool packet).remaining := by
  cases packet with
  | none => exact le_rfl
  | some packet =>
      simp only [bufferFree]
      split
      · exact le_rfl
      · split
        · exact le_rfl
        · split
          · exact le_rfl
          · rename_i buffers stored
            have longer := (BoundedQueue.enqueue_eq_some.mp stored).2
            simp [Pool.remaining, BoundedQueue.size, longer]

theorem bufferClone_some (pool : Pool cfg) (packet : Packet) :
    bufferClone pool (some packet) =
      ((bufferGet pool packet.length.toNat).1.map fun clone => { packet with buf := clone.buf },
        (bufferGet pool packet.length.toNat).2) := by
  simp only [bufferClone]
  split
  · rename_i pool' got
    rw [got]
    rfl
  · rename_i clone pool' got
    rw [got]
    rfl

/-! ## Ownership -/

/-- Each buffer is free or has one user, and a used buffer has one reference. -/
structure Pool.Accounts (pool : Pool cfg) (used : List Nat) : Prop where
  distinct : (pool.freeBufs ++ used).Nodup
  inPool : ∀ buf ∈ pool.freeBufs ++ used, buf < cfg.bufferCount
  counted : ∀ buf ∈ used, pool.refcount buf = 1

theorem Pool.Accounts.perm {pool : Pool cfg} {used used' : List Nat} (accounts : pool.Accounts used)
    (same : used.Perm used') : pool.Accounts used' where
  distinct := (same.append_left _).nodup_iff.mp accounts.distinct
  inPool buf member := accounts.inPool buf ((same.append_left _).mem_iff.mpr member)
  counted buf member := accounts.counted buf (same.mem_iff.mpr member)

theorem Pool.freeBufs_length (pool : Pool cfg) : pool.freeBufs.length = pool.remaining := by
  simp [freeBufs, remaining, BoundedQueue.size]

/-- A distinct list of pool buffers is not longer than the pool. -/
theorem Pool.Accounts.length_le {pool : Pool cfg} {used : List Nat} (accounts : pool.Accounts used) :
    pool.remaining + used.length ≤ cfg.bufferCount := by
  have inside : pool.freeBufs ++ used ⊆ List.range cfg.bufferCount :=
    fun buf member => List.mem_range.mpr (accounts.inPool buf member)
  have bound := (accounts.distinct.subperm inside).length_le
  rwa [List.length_append, List.length_range, pool.freeBufs_length] at bound

/-- The free of a used buffer puts it at the end of the free list. -/
theorem bufferFree_accounts {pool : Pool cfg} {packet : Packet} {used : List Nat}
    (accounts : pool.Accounts (packet.buf :: used)) :
    (bufferFree pool (some packet)).Accounts used ∧
      (bufferFree pool (some packet)).freeBufs = pool.freeBufs ++ [packet.buf] := by
  have count : pool.refcount packet.buf = 1 := accounts.counted _ List.mem_cons_self
  have bound := accounts.length_le
  have room : pool.buffers.items.length < cfg.bufferCount := by
    simp only [Pool.remaining, BoundedQueue.size, List.length_cons] at bound
    omega
  have freed : bufferFree pool (some packet) =
      { buffers := ⟨pool.buffers.items ++ [packet], by
          simp only [List.length_append, List.length_singleton]
          omega⟩
        refcount := Function.update pool.refcount packet.buf 0 } := by
    simp [bufferFree, count, BoundedQueue.enqueue_of_room packet room]
  have bufs : (bufferFree pool (some packet)).freeBufs = pool.freeBufs ++ [packet.buf] := by
    simp [freed, Pool.freeBufs]
  have whole : (bufferFree pool (some packet)).freeBufs ++ used =
      pool.freeBufs ++ packet.buf :: used := by
    rw [bufs, List.append_assoc, List.singleton_append]
  refine ⟨⟨?_, ?_, ?_⟩, bufs⟩
  · rw [whole]
    exact accounts.distinct
  · rw [whole]
    exact accounts.inPool
  · intro buf member
    have different : buf ≠ packet.buf := by
      rintro rfl
      exact (List.nodup_cons.mp accounts.distinct.of_append_right).1 member
    rw [freed]
    simp only [Function.update_of_ne different]
    exact accounts.counted buf (List.mem_cons_of_mem _ member)

/-- An allocated buffer is a used one. -/
theorem bufferGet_accounts {pool after : Pool cfg} {used : List Nat} (accounts : pool.Accounts used) {size : Nat}
    {packet : Packet} (got : bufferGet pool size = (some packet, after)) :
    pool.freeBufs = packet.buf :: after.freeBufs ∧ after.Accounts (packet.buf :: used) := by
  rcases bufferGet_cases pool size with ⟨failed, _⟩ | ⟨_, rest, _, items, taken⟩
  · rw [failed] at got
    cases got
  · rw [taken] at got
    cases got
    have bufs : pool.freeBufs = packet.buf :: rest.items.map Packet.buf := by
      rw [Pool.freeBufs, items, List.map_cons]
    have moved : (rest.items.map Packet.buf ++ packet.buf :: used).Perm (pool.freeBufs ++ used) := by
      rw [bufs]
      exact List.perm_middle
    refine ⟨bufs, moved.nodup_iff.mpr accounts.distinct,
      fun buf member => accounts.inPool buf (moved.mem_iff.mp member), ?_⟩
    intro buf member
    rcases List.mem_cons.mp member with rfl | member
    · exact Function.update_self _ _ _
    · have different : buf ≠ packet.buf := by
        rintro rfl
        have distinct := moved.nodup_iff.mpr accounts.distinct
        exact (List.nodup_cons.mp distinct.of_append_right).1 member
      exact (Function.update_of_ne different _ _).trans (accounts.counted buf member)

/-- A clone fails without a free buffer, else the copy owns the first free one. -/
theorem bufferClone_accounts {pool : Pool cfg} {used : List Nat} (accounts : pool.Accounts used)
    (packet : Packet) :
    (bufferClone pool (some packet) = (none, pool) ∧
        ¬(packet.length.toNat ≤ cfg.bufferSize ∧ 0 < pool.remaining)) ∨
      ∃ buf after, bufferClone pool (some packet) = (some { packet with buf }, after) ∧
        packet.length.toNat ≤ cfg.bufferSize ∧ pool.freeBufs = buf :: after.freeBufs ∧
        after.remaining + 1 = pool.remaining ∧ after.Accounts (buf :: used) := by
  rw [bufferClone_some]
  rcases bufferGet_cases pool packet.length.toNat with ⟨got, why⟩ | ⟨free, rest, fits, items, got⟩
  · refine .inl ⟨by rw [got]; rfl, ?_⟩
    rintro ⟨fits, filled⟩
    rcases why with large | empty
    · omega
    · simp [Pool.remaining, BoundedQueue.size, empty] at filled
  · obtain ⟨bufs, owned⟩ := bufferGet_accounts accounts got
    exact .inr ⟨free.buf, ⟨rest, Function.update pool.refcount free.buf 1⟩, by rw [got]; rfl, fits,
      bufs, by simp [Pool.remaining, BoundedQueue.size, items], owned⟩

end Libcsp

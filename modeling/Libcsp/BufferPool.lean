/-
This file follows the free queue of csp_buffer.c and the owners of its buffers through all calls.
-/
import Libcsp.Buffer
import Libcsp.Lib.Transition

namespace Libcsp

variable {cfg : Config}

/-! ## The calls with their error codes -/

/-- The values of `csp_dbg_errno` that csp_buffer.c sets. -/
inductive DbgErr where
  | corruptBuffer
  | mtuExceeded
  | alreadyFree
  | refcount
  deriving DecidableEq, Repr

/-- The pool with its debug counter and the error number. No caller overwrites the header of a buffer, so
the checks of `skbf_addr` pass. -/
structure BufferState (cfg : Config) where
  pool : Pool cfg
  bufferOut : UInt8
  errno : Option DbgErr

/-- This is `csp_buffer_init`. The memory is not initialised, and it has arbitrary reference counts. -/
def cspBufferInit (cfg : Config) (content : Nat → Packet) (refcount : Nat → UInt32) : BufferState cfg where
  pool := { bufferInit cfg content with refcount }
  bufferOut := 0
  errno := none

/-- The two get functions differ in the error for a large size. -/
def getBuffer (large : Option DbgErr) (state : BufferState cfg) (size : Nat) : Option Packet × BufferState cfg :=
  if size > cfg.bufferSize then (none, { state with errno := large.or state.errno })
  else
    match state.pool.buffers.dequeue with
    | none => (none, { state with bufferOut := state.bufferOut + 1 })
    | some (packet, buffers) =>
        let refcount := Function.update state.pool.refcount packet.buf 1
        (some packet, { state with pool := { buffers, refcount } })

def cspBufferGetIsr : BufferState cfg → Nat → Option Packet × BufferState cfg := getBuffer none

def cspBufferGet : BufferState cfg → Nat → Option Packet × BufferState cfg := getBuffer (some .mtuExceeded)

/-- The two free functions differ in the errors for a free buffer and for a shared one. -/
def freeBuffer (free shared : DbgErr) (state : BufferState cfg) : Option Packet → BufferState cfg
  | none => state
  | some packet =>
      if state.pool.refcount packet.buf = 0 then { state with errno := some free }
      else
        let count := state.pool.refcount packet.buf - 1
        let counted := { state.pool with refcount := Function.update state.pool.refcount packet.buf count }
        if count > 0 then { state with pool := counted, errno := some shared }
        else
          match counted.buffers.enqueue packet with
          | none => { state with pool := counted }
          | some buffers => { state with pool := { counted with buffers } }

def cspBufferFreeIsr : BufferState cfg → Option Packet → BufferState cfg :=
  freeBuffer .corruptBuffer .corruptBuffer

def cspBufferFree : BufferState cfg → Option Packet → BufferState cfg := freeBuffer .alreadyFree .refcount

/-- This is `csp_buffer_clone`. -/
def cspBufferClone (state : BufferState cfg) : Option Packet → Option Packet × BufferState cfg
  | none => (none, state)
  | some packet =>
      match cspBufferGet state packet.length.toNat with
      | (none, state) => (none, state)
      | (some clone, state) => (some { packet with buf := clone.buf }, state)

/-- The other files use the pool without the debug variables. -/
theorem getBuffer_pool (large : Option DbgErr) (state : BufferState cfg) (size : Nat) :
    (getBuffer large state size).1 = (bufferGet state.pool size).1 ∧
      (getBuffer large state size).2.pool = (bufferGet state.pool size).2 := by
  unfold getBuffer bufferGet
  split
  · exact ⟨rfl, rfl⟩
  · cases state.pool.buffers.dequeue with
    | none => exact ⟨rfl, rfl⟩
    | some head => exact ⟨rfl, rfl⟩

theorem freeBuffer_pool (free shared : DbgErr) (state : BufferState cfg) (packet : Option Packet) :
    (freeBuffer free shared state packet).pool = bufferFree state.pool packet := by
  cases packet with
  | none => rfl
  | some packet =>
      simp only [freeBuffer, bufferFree]
      split
      · rfl
      · split
        · rfl
        · cases state.pool.buffers.enqueue packet with
          | none => rfl
          | some buffers => rfl

/-! ## The owners -/

/-- One call of csp_buffer.c. -/
inductive BufferCall where
  | get (size : Nat)
  | getIsr (size : Nat)
  | clone (packet : Option Packet)
  | free (packet : Option Packet)
  | freeIsr (packet : Option Packet)

/-- The pool in use. -/
structure PoolUse (cfg : Config) where
  state : BufferState cfg
  /-- History: the buffers that were returned, and not freed since. -/
  held : List Nat
  /-- History: the buffers that were ever returned. -/
  returned : List Nat

/-- The caller owns what a call returns. -/
def PoolUse.handOut (use : PoolUse cfg) (result : Option Packet × BufferState cfg) : PoolUse cfg where
  state := result.2
  held := result.1.toList.map Packet.buf ++ use.held
  returned := result.1.toList.map Packet.buf ++ use.returned

/-- The caller gives up what it frees. -/
def PoolUse.takeBack (use : PoolUse cfg) (packet : Option Packet) (state : BufferState cfg) : PoolUse cfg :=
  { use with
    state
    held := packet.elim use.held fun packet => use.held.erase packet.buf }

def PoolUse.call (use : PoolUse cfg) : BufferCall → PoolUse cfg
  | .get size => use.handOut (cspBufferGet use.state size)
  | .getIsr size => use.handOut (cspBufferGetIsr use.state size)
  | .clone packet => use.handOut (cspBufferClone use.state packet)
  | .free packet => use.takeBack packet (cspBufferFree use.state packet)
  | .freeIsr packet => use.takeBack packet (cspBufferFreeIsr use.state packet)

/-- A caller frees NULL or a pointer that was returned before. -/
def PoolUse.Permits (use : PoolUse cfg) : BufferCall → Prop
  | .free packet => ∀ freed ∈ packet, freed.buf ∈ use.returned
  | .freeIsr packet => ∀ freed ∈ packet, freed.buf ∈ use.returned
  | _ => True

/-- The machine starts after `csp_buffer_init` and takes the calls in any order. -/
def poolMachine (content : Nat → Packet) (refcount : Nat → UInt32) : Machine (PoolUse cfg) BufferCall where
  initial use := use = { state := cspBufferInit cfg content refcount, held := [], returned := [] }
  step := PoolUse.call
  allowed := PoolUse.Permits

/-! ## The invariant -/

/-- Each buffer is free or has one owner. A held buffer has one reference, and a returned one that is not
held has none. The references to the other buffers are arbitrary. -/
structure PoolUse.Sound (use : PoolUse cfg) : Prop where
  whole : (use.state.pool.freeBufs ++ use.held).Perm (List.range cfg.bufferCount)
  counted : ∀ buf ∈ use.held, use.state.pool.refcount buf = 1
  settled : ∀ buf ∈ use.returned, buf ∉ use.held → use.state.pool.refcount buf = 0

theorem PoolUse.Sound.distinct {use : PoolUse cfg} (sound : use.Sound) :
    (use.state.pool.freeBufs ++ use.held).Nodup := sound.whole.nodup_iff.mpr List.nodup_range

theorem PoolUse.Sound.number {use : PoolUse cfg} (sound : use.Sound) :
    use.state.pool.remaining + use.held.length = cfg.bufferCount := by
  have length := sound.whole.length_eq
  rwa [List.length_append, List.length_range, Pool.freeBufs_length] at length

/-- A held buffer leaves room for itself in the free queue. -/
theorem PoolUse.Sound.room {use : PoolUse cfg} (sound : use.Sound) {packet : Packet} (held : packet.buf ∈ use.held) :
    use.state.pool.buffers.items.length < cfg.bufferCount := by
  have number := sound.number
  have some' := List.length_pos_of_mem held
  simp only [Pool.remaining, BoundedQueue.size] at number
  omega

/-- A call that hands out a buffer, or fails. -/
theorem PoolUse.Sound.handOut {use : PoolUse cfg} (sound : use.Sound) (large : Option DbgErr) (size : Nat)
    (rename : Packet → Packet) (same : ∀ packet, (rename packet).buf = packet.buf) :
    (use.handOut ((getBuffer large use.state size).1.map rename, (getBuffer large use.state size).2)).Sound := by
  obtain ⟨found, pool⟩ := getBuffer_pool large use.state size
  rcases bufferGet_cases use.state.pool size with ⟨failed, -⟩ | ⟨head, rest, -, items, taken⟩
  · rw [failed] at found pool
    constructor
    · simp only [PoolUse.handOut, found, pool, Option.map_none, Option.toList_none, List.map_nil, List.nil_append]
      exact sound.whole
    · simp only [PoolUse.handOut, found, pool, Option.map_none, Option.toList_none, List.map_nil, List.nil_append]
      exact sound.counted
    · simp only [PoolUse.handOut, found, pool, Option.map_none, Option.toList_none, List.map_nil, List.nil_append]
      exact sound.settled
  · rw [taken] at found pool
    have bufs : use.state.pool.freeBufs = head.buf :: rest.items.map Packet.buf := by
      rw [Pool.freeBufs, items, List.map_cons]
    have moved : (rest.items.map Packet.buf ++ head.buf :: use.held).Perm (use.state.pool.freeBufs ++ use.held) := by
      rw [bufs]
      exact List.perm_middle
    have absent : head.buf ∉ use.held := by
      have distinct := moved.nodup_iff.mpr sound.distinct
      exact (List.nodup_cons.mp distinct.of_append_right).1
    constructor
    · simp only [PoolUse.handOut, found, pool, Option.map_some, Option.toList_some, List.map_cons, List.map_nil,
        same, List.singleton_append, Pool.freeBufs]
      exact moved.trans sound.whole
    · simp only [PoolUse.handOut, found, pool, Option.map_some, Option.toList_some, List.map_cons, List.map_nil,
        same, List.singleton_append]
      intro buf member
      rcases List.mem_cons.mp member with rfl | member
      · exact Function.update_self _ _ _
      · have different : buf ≠ head.buf := fun same => absent (same ▸ member)
        rw [Function.update_of_ne different]
        exact sound.counted buf member
    · simp only [PoolUse.handOut, found, pool, Option.map_some, Option.toList_some, List.map_cons, List.map_nil,
        same, List.singleton_append]
      intro buf member notHeld
      obtain ⟨different, free⟩ := not_or.mp (fun either => notHeld (List.mem_cons.mpr either))
      rw [Function.update_of_ne different]
      exact sound.settled buf ((List.mem_cons.mp member).resolve_left different) free

/-- The free of a held buffer puts it at the end of the free queue. -/
theorem PoolUse.Sound.free_held {use : PoolUse cfg} (sound : use.Sound) (free shared : DbgErr) {packet : Packet}
    (held : packet.buf ∈ use.held) :
    freeBuffer free shared use.state (some packet) = { use.state with pool :=
      { buffers := ⟨use.state.pool.buffers.items ++ [packet], by
          have room := sound.room held
          simp only [List.length_append, List.length_singleton]
          omega⟩
        refcount := Function.update use.state.pool.refcount packet.buf 0 } } := by
  have count := sound.counted packet.buf held
  simp [freeBuffer, count, BoundedQueue.enqueue_of_room packet (sound.room held)]

/-- The free of a free buffer changes the error code only. -/
theorem freeBuffer_free {state : BufferState cfg} (free shared : DbgErr) {packet : Packet}
    (zero : state.pool.refcount packet.buf = 0) :
    freeBuffer free shared state (some packet) = { state with errno := some free } := by
  simp only [freeBuffer, zero, if_true]

theorem PoolUse.Sound.takeBack {use : PoolUse cfg} (sound : use.Sound) (free shared : DbgErr)
    {packet : Option Packet} (permitted : ∀ freed ∈ packet, freed.buf ∈ use.returned) :
    (use.takeBack packet (freeBuffer free shared use.state packet)).Sound := by
  cases packet with
  | none => exact sound
  | some packet =>
      have returned := permitted packet rfl
      by_cases held : packet.buf ∈ use.held
      · have parts := List.perm_cons_erase held
        have heldOnce := sound.distinct.of_append_right
        rw [sound.free_held free shared held]
        constructor
        · have bufs : (use.state.pool.buffers.items ++ [packet]).map Packet.buf =
              use.state.pool.freeBufs ++ [packet.buf] := by
            rw [List.map_append]
            rfl
          simp only [PoolUse.takeBack, Option.elim_some, Pool.freeBufs, bufs]
          rw [List.append_assoc, List.singleton_append]
          exact (parts.symm.append_left _).trans sound.whole
        · intro buf member
          have different : buf ≠ packet.buf := by
            rintro rfl
            exact heldOnce.not_mem_erase member
          simp only [PoolUse.takeBack, Function.update_of_ne different]
          exact sound.counted buf (List.mem_of_mem_erase member)
        · intro buf member notHeld
          by_cases same : buf = packet.buf
          · rw [same]
            exact Function.update_self _ _ _
          · simp only [PoolUse.takeBack, Function.update_of_ne same]
            exact sound.settled buf member fun old => notHeld ((List.mem_erase_of_ne same).mpr old)
      · have zero := sound.settled packet.buf returned held
        rw [freeBuffer_free free shared zero]
        have same : use.held.erase packet.buf = use.held := List.erase_of_not_mem held
        simp only [PoolUse.takeBack, Option.elim_some, same]
        exact ⟨sound.whole, sound.counted, sound.settled⟩

/-- A clone is a get whose result has other content. -/
theorem cspBufferClone_eq (state : BufferState cfg) (packet : Packet) :
    cspBufferClone state (some packet) =
      ((cspBufferGet state packet.length.toNat).1.map fun clone => { packet with buf := clone.buf },
        (cspBufferGet state packet.length.toNat).2) := by
  rw [cspBufferClone]
  obtain ⟨_ | clone, after⟩ := cspBufferGet state packet.length.toNat
  · rfl
  · rfl

/-- Each call keeps the invariant. -/
theorem PoolUse.Sound.call {use : PoolUse cfg} (sound : use.Sound) (call : BufferCall)
    (permitted : use.Permits call) : (use.call call).Sound := by
  have get : ∀ (large : Option DbgErr) (size : Nat), (use.handOut (getBuffer large use.state size)).Sound := by
    intro large size
    have kept := sound.handOut large size id fun _ => rfl
    rwa [Option.map_id, id] at kept
  cases call with
  | get size => exact get _ size
  | getIsr size => exact get _ size
  | clone packet =>
      cases packet with
      | none => exact sound
      | some packet =>
          simp only [PoolUse.call, cspBufferClone_eq]
          exact sound.handOut _ _ (fun clone => { packet with buf := clone.buf }) fun _ => rfl
  | free packet => exact sound.takeBack _ _ permitted
  | freeIsr packet => exact sound.takeBack _ _ permitted

theorem poolMachine_sound {content : Nat → Packet} {refcount : Nat → UInt32} {use : PoolUse cfg}
    (reached : (poolMachine content refcount).Reachable use) : use.Sound := by
  refine Machine.Reachable.invariant ?_ (fun use call sound permitted => sound.call call permitted) reached
  rintro _ rfl
  constructor
  · simp [cspBufferInit, bufferInit, Pool.freeBufs, Function.comp_def]
  · simp
  · simp

/-! ## Conservation -/

/-- The pool and its owners share the buffers, and a second free does nothing. -/
structure PoolUse.Conserves (use : PoolUse cfg) : Prop where
  freeOnce : use.state.pool.freeBufs.Nodup
  heldOnce : use.held.Nodup
  apart : ∀ buf ∈ use.state.pool.freeBufs, buf ∉ use.held
  number : use.state.pool.remaining + use.held.length = cfg.bufferCount
  room : ∀ packet : Packet, packet.buf ∈ use.returned → use.state.pool.refcount packet.buf ≠ 0 →
    use.state.pool.buffers.enqueue packet ≠ none
  again : ∀ packet : Packet, packet.buf ∈ use.returned → packet.buf ∈ use.state.pool.freeBufs →
    cspBufferFree use.state (some packet) = { use.state with errno := some .alreadyFree } ∧
      cspBufferFreeIsr use.state (some packet) = { use.state with errno := some .corruptBuffer }

/-- After any calls, no buffer is free twice, held twice, or both, and none is lost. -/
theorem bufferPool_conserves {content : Nat → Packet} {refcount : Nat → UInt32} {use : PoolUse cfg}
    (reached : (poolMachine content refcount).Reachable use) : use.Conserves := by
  have sound := poolMachine_sound reached
  have apart : ∀ buf ∈ use.state.pool.freeBufs, buf ∉ use.held :=
    fun buf free held => List.disjoint_of_nodup_append sound.distinct free held
  refine ⟨sound.distinct.of_append_left, sound.distinct.of_append_right, apart, sound.number, ?_, ?_⟩
  · intro packet returned counted full
    have held : packet.buf ∈ use.held := by
      by_contra notHeld
      exact counted (sound.settled packet.buf returned notHeld)
    have room := sound.room held
    rw [BoundedQueue.enqueue_eq_none] at full
    omega
  · intro packet returned free
    have zero := sound.settled packet.buf returned (apart packet.buf free)
    exact ⟨freeBuffer_free _ _ zero, freeBuffer_free _ _ zero⟩

/-- A buffer with garbage in its memory is taken, freed twice, and taken again. -/
theorem takenTwice_conserves :
    ((poolMachine (fun _ => default) fun _ => 7).trace
      { state := cspBufferInit {} (fun _ => default) fun _ => 7, held := [], returned := [] }
      [.get 10, .free (some default), .freeIsr (some default), .getIsr 300]).Conserves := by
  apply @bufferPool_conserves {} (fun _ => default) fun _ => 7
  apply Machine.Reachable.trace (Machine.Reachable.start rfl)
  refine ⟨trivial, ?_, ?_, trivial, trivial⟩
  · rintro _ ⟨⟩
    decide +kernel
  · rintro _ ⟨⟩
    decide +kernel

end Libcsp

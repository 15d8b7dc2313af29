/-
This file follows the buffer of one received packet through the queues and calls of one connection.
-/
import Libcsp.BufferReferences
import Libcsp.Route

namespace Libcsp

variable {cfg : Config}

/-! ## The shared queues -/

/-- A received packet may wait in the reassembly queue, and a packet from the pool in the other one. Both
have the tag of the connection at work. -/
structure Stack.Tracks (stack : Stack cfg) (conn buf extra : Nat) (queued lent : List Nat) : Prop where
  io : stack.io.Tracks buf extra (stack.rxQueue.items.map Packet.buf ++ queued)
    (stack.txQueue.items.map Packet.buf ++ lent)
  rxTagged : ∀ packet ∈ stack.rxQueue.items, packet.buf = buf → packet.conn = conn
  txTagged : ∀ packet ∈ stack.txQueue.items, packet.buf = buf → packet.conn = conn

section Queues
variable {stack : Stack cfg} {conn buf extra : Nat} {queued lent : List Nat}

theorem Stack.Tracks.perm {queued' lent' : List Nat} (tracks : stack.Tracks conn buf extra queued lent)
    (same : queued.Perm queued') (same' : lent.Perm lent') : stack.Tracks conn buf extra queued' lent' where
  io := Pool.Tracks.perm tracks.io (same.append_left _) ((same'.append_left _).append_left _)
  rxTagged := tracks.rxTagged
  txTagged := tracks.txTagged

/-- The free of a received packet. -/
theorem Stack.free_tracks {packet : Packet} (tracks : stack.Tracks conn buf extra (packet.buf :: queued) lent) :
    (stack.free packet).Tracks conn buf extra queued lent where
  io := Io.free_tracks (Pool.Tracks.perm tracks.io List.perm_middle (List.Perm.refl _))
  rxTagged := tracks.rxTagged
  txTagged := tracks.txTagged

/-- The free of a packet from the pool. -/
theorem Stack.free_tracksLent {packet : Packet} (tracks : stack.Tracks conn buf extra queued (packet.buf :: lent)) :
    (stack.free packet).Tracks conn buf extra queued lent where
  io := Io.free_tracksLent (Io.Tracks.perm tracks.io List.perm_middle)
  rxTagged := tracks.rxTagged
  txTagged := tracks.txTagged

theorem rdpQueueRxAdd_tracks {packet : Packet} (tracks : stack.Tracks conn buf extra (packet.buf :: queued) lent) :
    (rdpQueueRxAdd stack conn packet).Tracks conn buf extra queued lent := by
  by_cases room : stack.rxQueue.items.length < cfg.rdpMaxWindow * 2
  · obtain ⟨queue, added, items⟩ := rdpQueueRxAdd_room stack conn packet room
    rw [added]
    constructor
    · simp only [items, List.map_append, List.map_cons, List.map_nil, List.append_assoc, List.singleton_append]
      exact tracks.io
    · intro stored member
      have member : stored ∈ queue.items := member
      rw [items] at member
      obtain old | new := List.mem_append.mp member
      · exact tracks.rxTagged stored old
      · rw [List.mem_singleton.mp new]
        exact fun _ => rfl
    · exact tracks.txTagged
  · rw [rdpQueueRxAdd_full stack conn packet (le_antisymm stack.rxQueue.bounded (not_lt.mp room))]
    exact Stack.free_tracks tracks

theorem rdpQueueTxAdd_tracks {packet : Packet} (tracks : stack.Tracks conn buf extra queued (packet.buf :: lent)) :
    (rdpQueueTxAdd stack conn packet).Tracks conn buf extra queued lent := by
  by_cases room : stack.txQueue.items.length < cfg.rdpMaxWindow * 2
  · obtain ⟨queue, added, items⟩ := rdpQueueTxAdd_room stack conn packet room
    rw [added]
    constructor
    · simp only [items, List.map_append, List.map_cons, List.map_nil, List.append_assoc, List.singleton_append]
      exact tracks.io
    · exact tracks.rxTagged
    · intro stored member
      have member : stored ∈ queue.items := member
      rw [items] at member
      obtain old | new := List.mem_append.mp member
      · exact tracks.txTagged stored old
      · rw [List.mem_singleton.mp new]
        exact fun _ => rfl
  · rw [rdpQueueTxAdd_full stack conn packet (le_antisymm stack.txQueue.bounded (not_lt.mp room))]
    exact Stack.free_tracksLent tracks

/-- A get hands out a packet of the reassembly queue. -/
theorem rdpQueueRxGet_tracks (tracks : stack.Tracks conn buf extra queued lent) :
    (rdpQueueRxGet stack conn).2.Tracks conn buf extra
      ((rdpQueueRxGet stack conn).1.toList.map Packet.buf ++ queued) lent := by
  obtain ⟨found, queue, got, takes⟩ := rdpQueueRxGet_takes stack conn
  have order := takes.perm (fun packet => (rfl : (packet.tagged conn).buf = packet.buf))
  rw [got]
  constructor
  · apply Pool.Tracks.perm tracks.io ?_ (List.Perm.refl _)
    rw [← List.append_assoc]
    exact (order.trans List.perm_append_comm).append_right queued
  · exact (takes.all (fun packet _ _ => rfl) tracks.rxTagged).1
  · exact tracks.txTagged

theorem rdpQueueTxGet_tracks (tracks : stack.Tracks conn buf extra queued lent) :
    (rdpQueueTxGet stack conn).2.Tracks conn buf extra queued
      ((rdpQueueTxGet stack conn).1.toList.map Packet.buf ++ lent) := by
  obtain ⟨found, queue, got, takes⟩ := rdpQueueTxGet_takes stack conn
  have order := takes.perm (fun packet => (rfl : (packet.tagged conn).buf = packet.buf))
  rw [got]
  constructor
  · apply Io.Tracks.perm tracks.io
    rw [← List.append_assoc]
    exact (order.trans List.perm_append_comm).append_right lent
  · exact tracks.rxTagged
  · exact (takes.all (fun packet _ _ => rfl) tracks.txTagged).1

/-- The flush drops packets of other connections, but the followed packet has the tag of this one. -/
theorem rdpQueueFlushList_tracks {pool : Pool cfg} {items : List Packet}
    (tagged : ∀ packet ∈ items, packet.buf = buf → packet.conn = conn)
    (tracks : pool.Tracks buf extra (items.map Packet.buf ++ queued) lent) :
    (rdpQueueFlushList (some conn) pool items).Tracks buf extra queued lent := by
  induction items generalizing pool with
  | nil => exact tracks
  | cons packet rest ih =>
      have behind := fun other member => tagged other (List.mem_cons_of_mem packet member)
      simp only [rdpQueueFlushList]
      split
      · exact ih behind (bufferFree_tracks tracks)
      · rename_i foreign
        apply ih behind
        apply Pool.Tracks.drop tracks
        exact fun same => foreign (.inr (by rw [tagged packet List.mem_cons_self same]))

theorem rdpQueueFlushList_tracksLent {pool : Pool cfg} {items : List Packet}
    (tagged : ∀ packet ∈ items, packet.buf = buf → packet.conn = conn)
    (tracks : pool.Tracks buf extra queued (items.map Packet.buf ++ lent)) :
    (rdpQueueFlushList (some conn) pool items).Tracks buf extra queued lent := by
  induction items generalizing pool with
  | nil => exact tracks
  | cons packet rest ih =>
      have behind := fun other member => tagged other (List.mem_cons_of_mem packet member)
      simp only [rdpQueueFlushList]
      split
      · exact ih behind (bufferFree_tracksLent tracks)
      · rename_i foreign
        apply ih behind
        apply Pool.Tracks.dropLent tracks
        exact fun same => foreign (.inr (by rw [tagged packet List.mem_cons_self same]))

theorem rdpQueueFlush_tracks (tracks : stack.Tracks conn buf extra queued lent) :
    (rdpQueueFlush stack (some conn)).Tracks conn buf extra queued lent where
  io := by
    apply rdpQueueFlushList_tracks tracks.rxTagged
    apply rdpQueueFlushList_tracksLent tracks.txTagged
    apply Pool.Tracks.perm tracks.io (List.Perm.refl _)
    rw [← List.append_assoc, ← List.append_assoc]
    exact List.perm_append_comm.append_right lent
  rxTagged _ member := absurd member List.not_mem_nil
  txTagged _ member := absurd member List.not_mem_nil

end Queues

/-! ## Control messages -/

/-- The buffers in the receive queue of a connection. -/
def Conn.queuedBufs (conn : Conn cfg) : List Nat := conn.rxQueue.items.filterMap (Option.map Packet.buf)

/-- A received packet may also wait for userspace. -/
def Ctx.Tracks (ctx : Ctx cfg) (buf extra : Nat) (queued lent : List Nat) : Prop :=
  ctx.stack.Tracks ctx.conn.index buf extra (ctx.conn.queuedBufs ++ queued) lent

section Calls
variable {ctx : Ctx cfg} {buf extra : Nat} {queued lent : List Nat}

theorem Ctx.free_tracks {packet : Packet} (tracks : ctx.Tracks buf extra (packet.buf :: queued) lent) :
    (ctx.free packet).Tracks buf extra queued lent :=
  Stack.free_tracks (Stack.Tracks.perm tracks List.perm_middle (List.Perm.refl _))

theorem rdpHeaderAdd_buf {packet framed : Packet} (added : rdpHeaderAdd cfg packet = some framed) :
    framed.buf = packet.buf := by
  unfold rdpHeaderAdd at added
  split at added
  · cases added
  · cases added
    rfl

theorem rdpSendCmpFinish_tracks {packet : Packet} (flags : UInt8) (ackNr : UInt16)
    (tracks : ctx.Tracks buf extra queued (packet.buf :: lent)) :
    (rdpSendCmpFinish ctx packet flags ackNr).Tracks buf extra queued lent := by
  have sent : Stack.Tracks { ctx.stack with io := sendDirect ctx.stack.io (cmpId ctx.conn) (some packet) none }
      ctx.conn.index buf extra (ctx.conn.queuedBufs ++ queued) lent :=
    ⟨sendDirect_tracks _ _ (Io.Tracks.perm tracks.io List.perm_middle), tracks.rxTagged, tracks.txTagged⟩
  simp only [rdpSendCmpFinish]
  split
  · exact sent
  · exact sent

/-- A SYN without a second buffer gets lost, so its buffer must not be the followed one. -/
theorem rdpSendCmpPacket_tracks {packet : Packet} {flags : UInt8} (seqNr ackNr : UInt16)
    (tracks : ctx.Tracks buf extra queued (packet.buf :: lent))
    (syn : (flags &&& rdpSyn != 0) = true → buf ∈ queued) :
    (rdpSendCmpPacket ctx packet flags seqNr ackNr).2.Tracks buf extra queued lent := by
  simp only [rdpSendCmpPacket]
  split
  · exact Stack.free_tracksLent tracks
  · rename_i framed added
    have tracks : ctx.Tracks buf extra queued (framed.buf :: lent) := by
      rw [rdpHeaderAdd_buf added]
      exact tracks
    split
    · rename_i asked
      have different : framed.buf ≠ buf := by
        intro same
        have once := tracks.io.once
        have held := List.count_pos_iff.mpr (syn asked)
        rw [same] at once
        simp only [List.count_append, List.count_cons_self] at once
        omega
      have cloned := Io.clone_tracks tracks.io (cmpPacket ctx.stack framed flags seqNr ackNr)
      generalize bufferClone ctx.stack.io.pool (some (cmpPacket ctx.stack framed flags seqNr ackNr)) = result
        at cloned
      obtain ⟨_ | copy, pool⟩ := result
      · simp only
        refine ⟨?_, tracks.rxTagged, tracks.txTagged⟩
        apply Pool.Tracks.dropLent _ different
        apply Pool.Tracks.perm cloned (List.Perm.refl _)
        simp only [Option.toList_none, List.map_nil, List.nil_append]
        exact (List.perm_middle.append_left _).trans List.perm_middle
      · simp only
        apply rdpSendCmpFinish_tracks
        apply rdpQueueTxAdd_tracks
        refine ⟨?_, tracks.rxTagged, tracks.txTagged⟩
        apply Io.Tracks.perm cloned
        simp only [Option.toList_some, List.map_cons, List.map_nil, List.singleton_append]
        exact List.perm_middle.symm
    · apply rdpSendCmpFinish_tracks
      exact ⟨tracks.io, tracks.rxTagged, tracks.txTagged⟩

theorem rdpSendCmp_tracks (packet : Option Packet) {flags : UInt8} (seqNr ackNr : UInt16)
    (tracks : ctx.Tracks buf extra queued (packet.toList.map Packet.buf ++ lent))
    (syn : (flags &&& rdpSyn != 0) = true → buf ∈ queued) :
    (rdpSendCmp ctx packet flags seqNr ackNr).2.Tracks buf extra queued lent := by
  unfold rdpSendCmp
  cases packet with
  | some packet => exact rdpSendCmpPacket_tracks seqNr ackNr tracks syn
  | none =>
      have got := bufferGet_tracks tracks.io 20
      simp only
      generalize bufferGet ctx.stack.io.pool 20 = result at got
      obtain ⟨_ | packet, pool⟩ := result
      · exact ⟨got, tracks.rxTagged, tracks.txTagged⟩
      · refine rdpSendCmpPacket_tracks seqNr ackNr ?_ syn
        refine ⟨Pool.Tracks.perm got (List.Perm.refl _) ?_, tracks.rxTagged, tracks.txTagged⟩
        simp only [Option.toList_some, List.map_cons, List.map_nil, List.singleton_append]
        exact ((List.perm_middle.append_left _).trans List.perm_middle).symm

/-- A message without SYN loses nothing. -/
theorem rdpSendCmp_tracksPlain (packet : Option Packet) {flags : UInt8} (seqNr ackNr : UInt16)
    (tracks : ctx.Tracks buf extra queued (packet.toList.map Packet.buf ++ lent))
    (plain : (flags &&& rdpSyn != 0) = false) :
    (rdpSendCmp ctx packet flags seqNr ackNr).2.Tracks buf extra queued lent := by
  apply rdpSendCmp_tracks packet seqNr ackNr tracks
  rw [plain]
  exact fun asked => by cases asked

theorem rdpCheckAck_tracks (tracks : ctx.Tracks buf extra queued lent) :
    (rdpCheckAck ctx).Tracks buf extra queued lent := by
  unfold rdpCheckAck
  split
  · exact tracks
  · split
    · exact rdpSendCmp_tracksPlain none _ _ tracks (by decide)
    · exact tracks

/-! ## The queues of one connection -/

theorem rdpEackLoop_buf (conn count : Nat) (eack : Packet) (space : Nat) (stack : Stack cfg) :
    (rdpEackLoop conn count eack space stack).1.buf = eack.buf := by
  induction count generalizing eack space stack with
  | zero => rfl
  | succ count ih =>
      simp only [rdpEackLoop]
      split
      · rfl
      · split
        · exact ih _ _ _
        · exact ih _ _ _

theorem rdpEackLoop_tracks {stack : Stack cfg} {conn : Nat} (count : Nat) (eack : Packet) (space : Nat)
    (tracks : stack.Tracks conn buf extra queued lent) :
    (rdpEackLoop conn count eack space stack).2.Tracks conn buf extra queued lent := by
  induction count generalizing eack space stack with
  | zero => exact tracks
  | succ count ih =>
      have got := rdpQueueRxGet_tracks tracks
      simp only [rdpEackLoop]
      generalize rdpQueueRxGet stack conn = result at got
      obtain ⟨_ | packet, rest⟩ := result
      · exact got
      · simp only
        split
        · exact ih _ _ (rdpQueueRxAdd_tracks got)
        · exact ih _ _ (rdpQueueRxAdd_tracks got)

theorem rdpSendEack_tracks (tracks : ctx.Tracks buf extra queued lent) :
    (rdpSendEack ctx).2.Tracks buf extra queued lent := by
  have got := bufferGet_tracks tracks.io 100
  simp only [rdpSendEack]
  generalize bufferGet ctx.stack.io.pool 100 = result at got
  obtain ⟨_ | packet, pool⟩ := result
  · exact ⟨got, tracks.rxTagged, tracks.txTagged⟩
  · have lends : Stack.Tracks { ctx.stack with io := { ctx.stack.io with pool } } ctx.conn.index buf extra
        (ctx.conn.queuedBufs ++ queued) (packet.buf :: lent) := by
      refine ⟨Pool.Tracks.perm got (List.Perm.refl _) ?_, tracks.rxTagged, tracks.txTagged⟩
      simp only [Option.toList_some, List.map_cons, List.map_nil, List.singleton_append]
      exact ((List.perm_middle.append_left _).trans List.perm_middle).symm
    have listed := rdpEackLoop_tracks ctx.stack.rxQueue.size { packet with length := 0 } (100 - rdpHeaderSize) lends
    apply rdpSendCmp_tracksPlain _ _ _ _ (by decide)
    simp only [Option.toList_some, List.map_cons, List.map_nil, List.singleton_append, rdpEackLoop_buf]
    exact listed

theorem rdpSeqInRxLoop_tracks {stack : Stack cfg} {conn : Nat} (seqNr : UInt16) (count : Nat)
    (tracks : stack.Tracks conn buf extra queued lent) :
    (rdpSeqInRxLoop conn seqNr count stack).2.Tracks conn buf extra queued lent := by
  induction count generalizing stack with
  | zero => exact tracks
  | succ count ih =>
      have got := rdpQueueRxGet_tracks tracks
      simp only [rdpSeqInRxLoop]
      generalize rdpQueueRxGet stack conn = result at got
      obtain ⟨_ | packet, rest⟩ := result
      · exact got
      · simp only
        split
        · exact rdpQueueRxAdd_tracks got
        · exact ih (rdpQueueRxAdd_tracks got)

/-- A packet that is new enters the reassembly queue. -/
theorem rdpRxQueueAdd_tracks {stack : Stack cfg} {conn : Nat} {packet : Packet} (seqNr : UInt16)
    (tracks : stack.Tracks conn buf extra (packet.buf :: queued) lent) :
    ∃ added after, rdpRxQueueAdd stack conn packet seqNr = (added, after) ∧
      after.Tracks conn buf extra (if added then queued else packet.buf :: queued) lent := by
  have searched := rdpSeqInRxLoop_tracks seqNr stack.rxQueue.size tracks
  simp only [rdpRxQueueAdd, rdpSeqInRxQueue]
  generalize rdpSeqInRxLoop conn seqNr stack.rxQueue.size stack = result at searched
  obtain ⟨_ | _, after⟩ := result
  · exact ⟨true, _, rfl, rdpQueueRxAdd_tracks searched⟩
  · exact ⟨false, _, rfl, searched⟩

theorem connEnqueuePacket_bufs (conn : Conn cfg) (packet : Option Packet) :
    ((connEnqueuePacket conn packet).1 = .none ∧
        (connEnqueuePacket conn packet).2.queuedBufs = conn.queuedBufs ++ packet.toList.map Packet.buf ∧
        (connEnqueuePacket conn packet).2.index = conn.index) ∨
      connEnqueuePacket conn packet = (.nomem, conn) := by
  unfold connEnqueuePacket
  split
  · exact .inr rfl
  · rename_i rxQueue enqueued
    have items := (BoundedQueue.enqueue_eq_some.mp enqueued).2
    refine .inl ⟨rfl, ?_, rfl⟩
    simp only [Conn.queuedBufs, items, List.filterMap_append]
    cases packet with
    | none => rfl
    | some packet => rfl

/-- The receive queue of the connection takes a packet, or the caller keeps it. -/
theorem connEnqueuePacket_tracks {packet : Packet} (tracks : ctx.Tracks buf extra (packet.buf :: queued) lent) :
    ∃ err conn, connEnqueuePacket ctx.conn (some packet) = (err, conn) ∧
      Ctx.Tracks { ctx with conn } buf extra (if err = .none then queued else packet.buf :: queued) lent := by
  obtain ⟨stored, bufs, index⟩ | full := connEnqueuePacket_bufs ctx.conn (some packet)
  · generalize connEnqueuePacket ctx.conn (some packet) = result at stored bufs index
    obtain ⟨err, conn⟩ := result
    refine ⟨err, conn, rfl, ?_⟩
    simp only at stored bufs index
    rw [if_pos stored, Ctx.Tracks]
    simp only [bufs, index, Option.toList_some, List.map_cons, List.map_nil, List.append_assoc,
      List.singleton_append]
    exact tracks
  · exact ⟨_, _, full, tracks⟩

/-- The NULL pointer that wakes a reader has no buffer. -/
theorem connEnqueuePacket_tracksNull (tracks : ctx.Tracks buf extra queued lent) :
    Ctx.Tracks { ctx with conn := (connEnqueuePacket ctx.conn none).2 } buf extra queued lent := by
  obtain ⟨-, bufs, index⟩ | full := connEnqueuePacket_bufs ctx.conn none
  · rw [Ctx.Tracks]
    simp only [bufs, index, Option.toList_none, List.map_nil, List.append_nil]
    exact tracks
  · rw [full]
    exact tracks

theorem rdpReceiveData_tracks {packet : Packet} (tracks : ctx.Tracks buf extra (packet.buf :: queued) lent) :
    ∃ err conn freed, rdpReceiveData ctx.conn packet = (err, conn, freed) ∧ freed.buf = packet.buf ∧
      Ctx.Tracks { ctx with conn } buf extra (if err = .none then queued else freed.buf :: queued) lent := by
  obtain ⟨err, conn, enqueued, after⟩ := @connEnqueuePacket_tracks cfg ctx buf extra queued lent
    (rdpHeaderRemove packet) tracks
  simp only [rdpReceiveData, enqueued]
  cases err with
  | none => exact ⟨.none, conn, _, rfl, rfl, after⟩
  | _ => exact ⟨.nobufs, conn, _, rfl, rfl, after⟩

theorem rdpRxFlushScan_tracks (count : Nat) (tracks : ctx.Tracks buf extra queued lent) :
    (rdpRxFlushScan count ctx).2.Tracks buf extra queued lent := by
  induction count generalizing ctx with
  | zero => exact tracks
  | succ count ih =>
      have got := rdpQueueRxGet_tracks tracks
      simp only [rdpRxFlushScan]
      split
      · exact tracks
      · generalize rdpQueueRxGet ctx.stack ctx.conn.index = result at got
        obtain ⟨_ | packet, rest⟩ := result
        · exact got
        · simp only
          have taken : Ctx.Tracks { ctx with stack := rest } buf extra (packet.buf :: queued) lent := by
            apply Stack.Tracks.perm got ?_ (List.Perm.refl _)
            exact (@List.perm_middle _ packet.buf ctx.conn.queuedBufs queued).symm
          split
          · obtain ⟨err, conn, freed, received, -, after⟩ := rdpReceiveData_tracks taken
            rw [show rdpReceiveData ctx.conn packet = _ from received]
            split
            · rename_i same
              cases same
              exact after
            · rename_i failed same
              cases same
              rw [if_neg (by simpa using failed)] at after
              exact Ctx.free_tracks after
          · apply ih
            exact rdpQueueRxAdd_tracks got

theorem rdpRxQueueFlush_tracks (tracks : ctx.Tracks buf extra queued lent) :
    (rdpRxQueueFlush ctx).Tracks buf extra queued lent := by
  unfold rdpRxQueueFlush
  generalize ctx.stack.rxQueue.size + 1 = passes
  induction passes generalizing ctx with
  | zero => exact tracks
  | succ passes ih =>
      have pass := rdpRxFlushScan_tracks ctx.stack.rxQueue.size tracks
      simp only [rdpRxFlushLoop]
      generalize rdpRxFlushScan ctx.stack.rxQueue.size ctx = result at pass
      obtain ⟨_ | _, after⟩ := result
      · exact pass
      · exact ih pass

theorem rdpFlushEackLoop_tracks {stack : Stack cfg} {conn : Nat} (packetTimeout : UInt32) (eack : Packet)
    (count : Nat) (tracks : stack.Tracks conn buf extra queued lent) :
    (rdpFlushEackLoop conn packetTimeout eack count stack).Tracks conn buf extra queued lent := by
  have marked : ∀ (now : UInt32) (packet : Packet), (eackMarkAll now packetTimeout eack packet).buf = packet.buf := by
    intro now packet
    unfold eackMarkAll
    induction List.range (eackCount eack) generalizing packet with
    | nil => rfl
    | cons index rest ih =>
        rw [List.foldl_cons, ih]
        unfold eackMark
        split
        · rfl
        · rfl
  induction count generalizing stack with
  | zero => exact tracks
  | succ count ih =>
      have got := rdpQueueTxGet_tracks tracks
      simp only [rdpFlushEackLoop]
      generalize rdpQueueTxGet stack conn = result at got
      obtain ⟨_ | packet, rest⟩ := result
      · exact got
      · have taken : rest.Tracks conn buf extra queued
            ((eackMarkAll rest.now packetTimeout eack packet).buf :: lent) := by
          rw [marked]
          exact got
        simp only
        split
        · exact ih (Stack.free_tracksLent taken)
        · exact ih (rdpQueueTxAdd_tracks taken)

/-! ## Close -/

theorem flushRxList_tracks {io : Io cfg} {items : List (Option Packet)}
    (tracks : io.Tracks buf extra (items.filterMap (Option.map Packet.buf) ++ queued) lent) :
    (flushRxList io items).Tracks buf extra queued lent := by
  induction items generalizing io with
  | nil => exact tracks
  | cons packet rest ih =>
      simp only [flushRxList]
      apply ih
      cases packet with
      | none => exact tracks
      | some packet => exact bufferFree_tracks tracks

theorem connFlushRxQueue_tracks (tracks : ctx.Tracks buf extra queued lent) :
    (connFlushRxQueue ctx).Tracks buf extra queued lent := by
  refine ⟨?_, tracks.rxTagged, tracks.txTagged⟩
  apply flushRxList_tracks
  apply Pool.Tracks.perm tracks.io ?_ (List.Perm.refl _)
  rw [← List.append_assoc, ← List.append_assoc]
  exact List.perm_append_comm.append_right queued

theorem connRelease_tracks (tracks : ctx.Tracks buf extra queued lent) :
    (connRelease ctx).Tracks buf extra queued lent := by
  have flushed := connFlushRxQueue_tracks tracks
  simp only [connRelease]
  split
  · exact rdpQueueFlush_tracks flushed
  · exact flushed

theorem rdpEnterCloseWait_tracks (sendRst : Bool) (tracks : ctx.Tracks buf extra queued lent) :
    (rdpEnterCloseWait ctx sendRst).Tracks buf extra queued lent := by
  have entered : Ctx.Tracks { ctx with
      conn := { ctx.conn with rdp.state := .closeWait, timestamp := ctx.stack.now } } buf extra queued lent := tracks
  simp only [rdpEnterCloseWait]
  split
  · exact rdpSendCmp_tracksPlain none _ _ entered (by decide)
  · exact tracks

theorem rdpCloseInternal_tracks (closedBy : UInt8) (sendRst : Bool) (tracks : ctx.Tracks buf extra queued lent) :
    (rdpCloseInternal ctx closedBy sendRst).2.Tracks buf extra queued lent := by
  have noted : Ctx.Tracks { ctx with conn.rdp.closedBy := ctx.conn.rdp.closedBy ||| closedBy } buf extra queued lent :=
    tracks
  simp only [rdpCloseInternal]
  split
  · exact tracks
  · have entered := rdpEnterCloseWait_tracks sendRst noted
    split
    · split
      · exact noted
      · exact ⟨tracks.io, tracks.rxTagged, tracks.txTagged⟩
    · split
      · exact entered
      · exact ⟨entered.io, entered.rxTagged, entered.txTagged⟩

theorem connClose_tracks (closedBy : UInt8) (tracks : ctx.Tracks buf extra queued lent) :
    (connClose ctx closedBy).Tracks buf extra queued lent := by
  have closed := rdpCloseInternal_tracks closedBy true tracks
  unfold connClose
  split
  · exact tracks
  · split
    · rw [rdpClose]
      generalize rdpCloseInternal ctx closedBy true = result at closed
      obtain ⟨err, after⟩ := result
      split
      · rename_i same
        cases same
        exact closed
      · rename_i same
        cases same
        exact connRelease_tracks closed
    · exact connRelease_tracks tracks

theorem rdpDiscardClose_tracks (closedBy : UInt8) (tracks : ctx.Tracks buf extra queued lent) :
    (rdpDiscardClose ctx closedBy).Tracks buf extra queued lent := by
  simp only [rdpDiscardClose]
  split
  · exact connEnqueuePacket_tracksNull (connClose_tracks closedBy tracks)
  · exact connClose_tracks _ tracks

/-! ## Timers -/

theorem rdpRetransmit_tracks {conn : Conn cfg} {stack : Stack cfg} {packet : Packet}
    (tracks : stack.Tracks conn.index buf extra queued lent) :
    (rdpRetransmit conn stack packet).Tracks conn.index buf extra queued lent := by
  have cloned := Io.clone_tracks tracks.io packet
  simp only [rdpRetransmit]
  generalize bufferClone stack.io.pool (some packet) = result at cloned
  obtain ⟨_ | copy, pool⟩ := result
  · exact ⟨sendDirect_tracksNull _ _ cloned, tracks.rxTagged, tracks.txTagged⟩
  · exact ⟨sendDirect_tracks _ _ cloned, tracks.rxTagged, tracks.txTagged⟩

theorem rdpTimeoutLoop_tracks (conn : Conn cfg) {stack : Stack cfg} (count : Nat)
    (tracks : stack.Tracks conn.index buf extra queued lent) :
    (rdpTimeoutLoop conn count stack).Tracks conn.index buf extra queued lent := by
  induction count generalizing stack with
  | zero => exact tracks
  | succ count ih =>
      have got := rdpQueueTxGet_tracks tracks
      simp only [rdpTimeoutLoop]
      generalize rdpQueueTxGet stack conn.index = result at got
      obtain ⟨_ | packet, rest⟩ := result
      · exact got
      · simp only
        split
        · exact ih (Stack.free_tracksLent got)
        · split
          · apply ih
            apply rdpQueueTxAdd_tracks
            exact rdpRetransmit_tracks got
          · exact ih (rdpQueueTxAdd_tracks got)

theorem rdpTimeoutOpen_tracks (tracks : ctx.Tracks buf extra queued lent) :
    (rdpTimeoutOpen ctx).Tracks buf extra queued lent := by
  have acked := rdpCheckAck_tracks tracks
  simp only [rdpTimeoutOpen]
  split
  · split
    · split
      · exact acked
      · exact acked
    · split
      · exact tracks
      · exact tracks
  · exact tracks

theorem rdpCheckTimeouts_tracks (tracks : ctx.Tracks buf extra queued lent) :
    (rdpCheckTimeouts ctx).Tracks buf extra queued lent := by
  simp only [rdpCheckTimeouts]
  split
  · exact connClose_tracks _ tracks
  · split
    · split
      · exact connClose_tracks _ tracks
      · exact tracks
    · apply rdpRxQueueFlush_tracks
      apply rdpTimeoutOpen_tracks
      exact rdpTimeoutLoop_tracks ctx.conn _ tracks

end Calls

end Libcsp

/-
This file follows each buffer through csp_rdp_send_cmp and its callers to the place where they leave it.
-/
import Libcsp.PacketTracking
import Libcsp.QueueIsolation

namespace Libcsp

variable {cfg : Config}

/-! ## The history of a control message -/

/-- The place where a call leaves a buffer. -/
inductive BufferPlace where
  | freed (buf : Nat)
  | queued (buf : Nat)
  | handed (buf : Nat)
  deriving DecidableEq, Repr

namespace BufferPlace

def buf : BufferPlace → Nat
  | freed buf => buf
  | queued buf => buf
  | handed buf => buf

def inTxQueue : BufferPlace → Option Nat
  | queued buf => some buf
  | _ => none

def inSend : BufferPlace → Option Nat
  | handed buf => some buf
  | _ => none

end BufferPlace

/-- A connection with the history of a call: the buffers from the pool, and the places of those it is done with. -/
structure CmpLog (cfg : Config) where
  ctx : Ctx cfg
  taken : List Nat
  places : List BufferPlace

/-- The buffers of the packets that `csp_send_direct` got. -/
def Io.sentBufs (io : Io cfg) : List Nat := io.outbox.map fun entry => entry.2.buf

namespace CmpLog

/-- This is a use of `csp_buffer_get`. -/
def get (log : CmpLog cfg) (size : Nat) : Option Packet × CmpLog cfg :=
  let (packet, pool) := bufferGet log.ctx.stack.io.pool size
  let io := { log.ctx.stack.io with pool }
  (packet,
    { log with
      ctx := { log.ctx with stack := { log.ctx.stack with io } }
      taken := log.taken ++ packet.toList.map Packet.buf })

/-- This is a use of `csp_buffer_clone`. -/
def clone (log : CmpLog cfg) (packet : Packet) : Option Packet × CmpLog cfg :=
  let (copy, pool) := bufferClone log.ctx.stack.io.pool (some packet)
  let io := { log.ctx.stack.io with pool }
  (copy,
    { log with
      ctx := { log.ctx with stack := { log.ctx.stack with io } }
      taken := log.taken ++ copy.toList.map Packet.buf })

def free (log : CmpLog cfg) (packet : Packet) : CmpLog cfg :=
  { log with ctx := log.ctx.free packet, places := log.places ++ [.freed packet.buf] }

/-- This is a use of `csp_rdp_queue_tx_add`, which frees the packet if the queue is full. -/
def queueTx (log : CmpLog cfg) (packet : Packet) : CmpLog cfg :=
  let full := log.ctx.stack.txQueue.items.length = cfg.rdpMaxWindow * 2
  { log with
    ctx := { log.ctx with stack := rdpQueueTxAdd log.ctx.stack log.ctx.conn.index packet }
    places := log.places ++ [if full then .freed packet.buf else .queued packet.buf] }

/-- The last part of `csp_rdp_send_cmp` hands the message to `csp_send_direct`. -/
def finish (log : CmpLog cfg) (packet : Packet) (flags : UInt8) (ackNr : UInt16) : CmpLog cfg :=
  { log with ctx := rdpSendCmpFinish log.ctx packet flags ackNr, places := log.places ++ [.handed packet.buf] }

end CmpLog

/-- The part of `csp_rdp_send_cmp` after the allocation, with the history. -/
def rdpSendCmpPacketLog (log : CmpLog cfg) (packet : Packet) (flags : UInt8) (seqNr ackNr : UInt16) :
    CspErr × CmpLog cfg :=
  match rdpHeaderAdd cfg packet with
  | none => (.nomem, log.free packet)
  | some packet =>
      let packet := cmpPacket log.ctx.stack packet flags seqNr ackNr
      let stack := { log.ctx.stack with rdpIncr := log.ctx.stack.rdpIncr + 1 }
      let log := { log with ctx := { log.ctx with stack } }
      if flags &&& rdpSyn != 0 then
        match log.clone packet with
        | (none, log) => (.nomem, log)
        | (some copy, log) =>
            let log := log.queueTx { copy with timestampTx := log.ctx.stack.now }
            (.none, log.finish packet flags ackNr)
      else (.none, log.finish packet flags ackNr)

/-- This is `csp_rdp_send_cmp` with the history. -/
def rdpSendCmpLog (log : CmpLog cfg) (packet : Option Packet) (flags : UInt8) (seqNr ackNr : UInt16) :
    CspErr × CmpLog cfg :=
  match packet with
  | some packet => rdpSendCmpPacketLog log packet flags seqNr ackNr
  | none =>
      match log.get 20 with
      | (none, log) => (.nomem, log)
      | (some packet, log) => rdpSendCmpPacketLog log { packet with length := 0 } flags seqNr ackNr

/-- This is `csp_rdp_send_eack` with the history. -/
def rdpSendEackLog (log : CmpLog cfg) : CspErr × CmpLog cfg :=
  match log.get 100 with
  | (none, log) => (.nomem, log)
  | (some packet, log) =>
      let (eack, stack) := rdpEackLoop log.ctx.conn.index log.ctx.stack.rxQueue.size { packet with length := 0 }
        (100 - rdpHeaderSize) log.ctx.stack
      let log := { log with ctx := { log.ctx with stack } }
      rdpSendCmpLog log (some eack) (rdpAck ||| rdpEak) log.ctx.conn.rdp.sndNxt log.ctx.conn.rdp.rcvCur

/-- This is `csp_rdp_send_syn` with the history. -/
def rdpSendSynLog (log : CmpLog cfg) : CspErr × CmpLog cfg :=
  match log.get 100 with
  | (none, log) => (.nomem, log)
  | (some packet, log) =>
      let mem := putSynOptions log.ctx.stack.options packet.mem
      rdpSendCmpLog log (some { packet with length := 24, mem }) rdpSyn log.ctx.conn.rdp.sndIss 0

/-- A call of one of the three functions. -/
inductive CmpCall where
  | cmp (packet : Option Packet) (flags : UInt8) (seqNr ackNr : UInt16)
  | eack
  | syn

namespace CmpCall

/-- The buffers that the caller gives to the function. -/
def given : CmpCall → List Nat
  | cmp packet _ _ _ => packet.toList.map Packet.buf
  | eack => []
  | syn => []

def run (ctx : Ctx cfg) : CmpCall → CspErr × Ctx cfg
  | cmp packet flags seqNr ackNr => rdpSendCmp ctx packet flags seqNr ackNr
  | eack => rdpSendEack ctx
  | syn => rdpSendSyn ctx

def log (ctx : Ctx cfg) : CmpCall → CspErr × CmpLog cfg
  | cmp packet flags seqNr ackNr => rdpSendCmpLog ⟨ctx, [], []⟩ packet flags seqNr ackNr
  | eack => rdpSendEackLog ⟨ctx, [], []⟩
  | syn => rdpSendSynLog ⟨ctx, [], []⟩

end CmpCall

/-! ## The history does not change the calls -/

theorem rdpSendCmpPacketLog_ctx (log : CmpLog cfg) (packet : Packet) (flags : UInt8) (seqNr ackNr : UInt16) :
    (rdpSendCmpPacketLog log packet flags seqNr ackNr).map id CmpLog.ctx =
      rdpSendCmpPacket log.ctx packet flags seqNr ackNr := by
  unfold rdpSendCmpPacketLog rdpSendCmpPacket
  cases rdpHeaderAdd cfg packet with
  | none => rfl
  | some framed =>
      simp only
      split
      · simp only [CmpLog.clone]
        cases bufferClone log.ctx.stack.io.pool
            (some (cmpPacket log.ctx.stack framed flags seqNr ackNr)) with
        | mk copy pool => cases copy <;> rfl
      · rfl

theorem rdpSendCmpLog_ctx (log : CmpLog cfg) (packet : Option Packet) (flags : UInt8) (seqNr ackNr : UInt16) :
    (rdpSendCmpLog log packet flags seqNr ackNr).map id CmpLog.ctx = rdpSendCmp log.ctx packet flags seqNr ackNr := by
  cases packet with
  | some packet => exact rdpSendCmpPacketLog_ctx log packet flags seqNr ackNr
  | none =>
      simp only [rdpSendCmpLog, rdpSendCmp, CmpLog.get]
      cases bufferGet log.ctx.stack.io.pool 20 with
      | mk packet pool =>
          cases packet with
          | none => rfl
          | some packet => exact rdpSendCmpPacketLog_ctx _ _ _ _ _

theorem CmpCall.log_ctx (ctx : Ctx cfg) (call : CmpCall) : (call.log ctx).map id CmpLog.ctx = call.run ctx := by
  cases call with
  | cmp packet flags seqNr ackNr => exact rdpSendCmpLog_ctx _ _ _ _ _
  | eack =>
      simp only [log, run, rdpSendEackLog, rdpSendEack, CmpLog.get]
      cases bufferGet ctx.stack.io.pool 100 with
      | mk packet pool =>
          cases packet with
          | none => rfl
          | some packet => exact rdpSendCmpLog_ctx _ _ _ _ _
  | syn =>
      simp only [log, run, rdpSendSynLog, rdpSendSyn, CmpLog.get]
      cases bufferGet ctx.stack.io.pool 100 with
      | mk packet pool =>
          cases packet with
          | none => rfl
          | some packet => exact rdpSendCmpLog_ctx _ _ _ _ _

/-! ## One place for each buffer -/

/-- Each buffer of the call is in one place, the transmission queue got the queued ones, `csp_send_direct` got the
handed ones, and a call with an error freed what it had and neither queued nor sent. -/
structure OnePlace (before : Ctx cfg) (given : List Nat) (err : CspErr) (after : CmpLog cfg) : Prop where
  once : (after.places.map BufferPlace.buf).Perm (given ++ after.taken)
  distinct : ∀ held, before.stack.io.pool.Accounts (given ++ held) → (after.places.map BufferPlace.buf).Nodup
  queued : after.ctx.stack.txQueue.items.map Packet.buf =
    before.stack.txQueue.items.map Packet.buf ++ after.places.filterMap BufferPlace.inTxQueue
  handed : after.ctx.stack.io.sentBufs = before.stack.io.sentBufs ++ after.places.filterMap BufferPlace.inSend
  failed : err ≠ .none → (∀ place ∈ after.places, ∃ buf, place = .freed buf) ∧
    after.ctx.stack.txQueue = before.stack.txQueue ∧
    { after.ctx.stack.io with pool := before.stack.io.pool } = before.stack.io

/-- The header of a SYN fits behind this length, and its copy finds no buffer. -/
def CloneFails (pool : Pool cfg) (flags : UInt8) (length : Nat) : Prop :=
  flags &&& rdpSyn ≠ 0 ∧ length + rdpHeaderSize ≤ cfg.bufferSize ∧ pool.remaining = 0

/-- A message is ready for `csp_rdp_send_cmp`: the call has its buffer and did nothing else. -/
structure CmpLog.Ready (log : CmpLog cfg) (before : Ctx cfg) (given : List Nat) (buf : Nat) : Prop where
  places : log.places = []
  owns : given ++ log.taken = [buf]
  txQueue : log.ctx.stack.txQueue = before.stack.txQueue
  io : { log.ctx.stack.io with pool := before.stack.io.pool } = before.stack.io
  fresh : ∀ held, before.stack.io.pool.Accounts (given ++ held) →
    log.ctx.stack.io.pool.Accounts (buf :: held)

theorem rdpHeaderAdd_eq {packet framed : Packet} (added : rdpHeaderAdd cfg packet = some framed) :
    packet.length.toNat + rdpHeaderSize ≤ cfg.bufferSize ∧ framed.buf = packet.buf ∧
      framed.length.toNat = packet.length.toNat + rdpHeaderSize := by
  unfold rdpHeaderAdd at added
  split at added
  · cases added
  · rename_i fits
    cases added
    refine ⟨Nat.le_of_not_lt fits, rfl, ?_⟩
    have bound := cfg.bufferSize_lt
    have header : rdpHeaderSize = 5 := rfl
    rw [header] at fits ⊢
    change (packet.length + 5).toNat = _
    have five : (5 : UInt16).toNat = 5 := rfl
    rw [UInt16.toNat_add, five]
    exact Nat.mod_eq_of_lt (by omega)

theorem rdpSendCmpFinish_txQueue (ctx : Ctx cfg) (packet : Packet) (flags : UInt8) (ackNr : UInt16) :
    (rdpSendCmpFinish ctx packet flags ackNr).stack.txQueue = ctx.stack.txQueue := by
  unfold rdpSendCmpFinish
  split <;> rfl

theorem rdpSendCmpFinish_sentBufs (ctx : Ctx cfg) (packet : Packet) (flags : UInt8) (ackNr : UInt16) :
    (rdpSendCmpFinish ctx packet flags ackNr).stack.io.sentBufs = ctx.stack.io.sentBufs ++ [packet.buf] := by
  have sent : (rdpSendCmpFinish ctx packet flags ackNr).stack.io.outbox =
      ctx.stack.io.outbox ++ [(cmpId ctx.conn, packet)] := by
    unfold rdpSendCmpFinish
    split <;> exact sendDirect_outbox _ _ _ _
  rw [Io.sentBufs, sent, List.map_append]
  rfl

/-- The add to the transmission queue and its place agree. -/
theorem CmpLog.queueTx_queued (log : CmpLog cfg) (packet : Packet) : ∃ place, place.buf = packet.buf ∧
    place.inSend = none ∧ (log.queueTx packet).places = log.places ++ [place] ∧
    (log.queueTx packet).ctx.stack.txQueue.items.map Packet.buf =
      log.ctx.stack.txQueue.items.map Packet.buf ++ [place].filterMap BufferPlace.inTxQueue := by
  by_cases full : log.ctx.stack.txQueue.items.length = cfg.rdpMaxWindow * 2
  · refine ⟨.freed packet.buf, rfl, rfl, by rw [queueTx]; simp only [if_pos full], ?_⟩
    simp only [queueTx, rdpQueueTxAdd_full _ _ _ full]
    exact (List.append_nil _).symm
  · refine ⟨.queued packet.buf, rfl, rfl, by rw [queueTx]; simp only [if_neg full], ?_⟩
    have room := Nat.lt_of_le_of_ne log.ctx.stack.txQueue.bounded full
    obtain ⟨queue, added, items⟩ := rdpQueueTxAdd_room log.ctx.stack log.ctx.conn.index packet room
    simp only [queueTx, added, items, List.map_append]
    rfl

namespace CmpLog

/-- An allocation fails and changes nothing, or the call has one buffer more. -/
theorem get_cases (log : CmpLog cfg) (size : Nat) :
    (log.get size = (none, log) ∧ (size ≤ cfg.bufferSize → log.ctx.stack.io.pool.remaining = 0)) ∨
      ∃ packet after, log.get size = (some packet, after) ∧ size ≤ cfg.bufferSize ∧
        after.ctx.stack.io.pool.remaining + 1 = log.ctx.stack.io.pool.remaining ∧
        after.taken = log.taken ++ [packet.buf] ∧ after.places = log.places ∧
        after.ctx.stack.txQueue = log.ctx.stack.txQueue ∧
        { after.ctx.stack.io with pool := log.ctx.stack.io.pool } = log.ctx.stack.io ∧
        ∀ used, log.ctx.stack.io.pool.Accounts used → after.ctx.stack.io.pool.Accounts (packet.buf :: used) := by
  unfold get
  obtain ⟨got, why⟩ | ⟨packet, rest, fits, items, got⟩ := bufferGet_cases log.ctx.stack.io.pool size
  · rw [got]
    refine .inl ⟨?_, fun small => ?_⟩
    · simp only [Option.toList_none, List.map_nil, List.append_nil]
    · rcases why with large | empty
      · exact absurd small (Nat.not_le.mpr large)
      · rw [Pool.remaining, BoundedQueue.size, empty]
        rfl
  · rw [got]
    refine .inr ⟨packet, _, rfl, fits, ?_, rfl, rfl, rfl, rfl, fun used accounts => ?_⟩
    · simp only [Pool.remaining, BoundedQueue.size, items, List.length_cons]
    · exact (bufferGet_accounts accounts got).2

/-- A clone is an allocation. -/
theorem clone_eq (log : CmpLog cfg) (packet : Packet) : log.clone packet =
    ((log.get packet.length.toNat).1.map fun copy => { packet with buf := copy.buf },
      (log.get packet.length.toNat).2) := by
  unfold clone get
  rw [bufferClone_some]
  cases bufferGet log.ctx.stack.io.pool packet.length.toNat with
  | mk copy pool => cases copy <;> rfl

end CmpLog

section Places
variable {before : Ctx cfg} {given : List Nat} {log : CmpLog cfg} {packet : Packet}

theorem CmpLog.Ready.sentBufs {buf : Nat} (ready : log.Ready before given buf) :
    log.ctx.stack.io.sentBufs = before.stack.io.sentBufs := by
  have same := congrArg Io.sentBufs ready.io
  exact same

theorem CmpLog.Ready.free (ready : log.Ready before given packet.buf) :
    OnePlace before given .nomem (log.free packet) := by
  have places : (log.free packet).places = [.freed packet.buf] := by
    rw [CmpLog.free, ready.places]
    rfl
  refine ⟨?_, fun held _ => ?_, ?_, ?_, fun _ => ⟨?_, ready.txQueue, ready.io⟩⟩
  · rw [places]
    exact .of_eq ready.owns.symm
  · rw [places]
    exact List.nodup_singleton _
  · rw [places]
    exact (congrArg (fun queue => queue.items.map Packet.buf) ready.txQueue).trans (List.append_nil _).symm
  · rw [places]
    exact ready.sentBufs.trans (List.append_nil _).symm
  · rw [places]
    intro place member
    exact ⟨_, List.mem_singleton.mp member⟩

theorem CmpLog.Ready.finish (ready : log.Ready before given packet.buf) (flags : UInt8) (ackNr : UInt16) :
    OnePlace before given .none (log.finish packet flags ackNr) := by
  have places : (log.finish packet flags ackNr).places = [.handed packet.buf] := by
    rw [CmpLog.finish, ready.places]
    rfl
  refine ⟨?_, fun held _ => ?_, ?_, ?_, fun failed => absurd rfl failed⟩
  · rw [places]
    exact .of_eq ready.owns.symm
  · rw [places]
    exact List.nodup_singleton _
  · rw [places]
    simp only [CmpLog.finish, rdpSendCmpFinish_txQueue, ready.txQueue]
    exact (List.append_nil _).symm
  · rw [places]
    simp only [CmpLog.finish, rdpSendCmpFinish_sentBufs, ready.sentBufs]
    rfl

/-- A message that a failed call keeps is in no place. -/
theorem CmpLog.Ready.lost {buf : Nat} (ready : log.Ready before given buf) : ¬OnePlace before given .nomem log := by
  intro one
  have once := one.once.length_eq
  rw [ready.places, ready.owns] at once
  cases once

/-- A message with a copy in the transmission queue. -/
theorem CmpLog.Ready.copied (ready : log.Ready before given packet.buf) (copied : CmpLog cfg) (copy : Packet)
    (taken : copied.taken = log.taken ++ [copy.buf]) (places : copied.places = log.places)
    (txQueue : copied.ctx.stack.txQueue = log.ctx.stack.txQueue)
    (sentBufs : copied.ctx.stack.io.sentBufs = log.ctx.stack.io.sentBufs)
    (fresh : ∀ used, log.ctx.stack.io.pool.Accounts used → copied.ctx.stack.io.pool.Accounts (copy.buf :: used))
    (flags : UInt8) (ackNr : UInt16) :
    OnePlace before given .none ((copied.queueTx copy).finish packet flags ackNr) := by
  obtain ⟨place, buf, unsent, added, queued⟩ := copied.queueTx_queued copy
  have all : ((copied.queueTx copy).finish packet flags ackNr).places = [place, .handed packet.buf] := by
    rw [CmpLog.finish, added, places, ready.places]
    rfl
  refine ⟨?_, fun held accounts => ?_, ?_, ?_, fun failed => absurd rfl failed⟩
  · rw [all]
    change [place.buf, packet.buf].Perm (given ++ copied.taken)
    rw [taken, ← List.append_assoc, ready.owns, buf]
    exact .swap _ _ _
  · rw [all]
    change [place.buf, packet.buf].Nodup
    rw [buf]
    have owned := (fresh _ (ready.fresh held accounts)).distinct.of_append_right
    exact (List.sublist_append_left [copy.buf, packet.buf] held).nodup owned
  · rw [all]
    simp only [CmpLog.finish, rdpSendCmpFinish_txQueue]
    rw [queued, txQueue, ready.txQueue]
    cases place <;> rfl
  · rw [all, List.filterMap_cons, unsent]
    simp only [CmpLog.finish, rdpSendCmpFinish_sentBufs]
    exact congrArg (· ++ [packet.buf]) (sentBufs.trans ready.sentBufs)

/-- The message reaches one place, unless it is a SYN whose copy finds no buffer. -/
theorem rdpSendCmpPacketLog_onePlace_iff (ready : log.Ready before given packet.buf) (flags : UInt8)
    (seqNr ackNr : UInt16) :
    OnePlace before given (rdpSendCmpPacketLog log packet flags seqNr ackNr).1
        (rdpSendCmpPacketLog log packet flags seqNr ackNr).2 ↔
      ¬CloneFails log.ctx.stack.io.pool flags packet.length.toNat := by
  unfold rdpSendCmpPacketLog
  cases added : rdpHeaderAdd cfg packet with
  | none =>
      apply iff_of_true ready.free
      intro fails
      rw [rdpHeaderAdd, if_neg (Nat.not_lt.mpr fails.2.1)] at added
      cases added
  | some framed =>
      obtain ⟨fits, buf, length⟩ := rdpHeaderAdd_eq added
      simp only
      generalize message : cmpPacket log.ctx.stack framed flags seqNr ackNr = sent
      have size : sent.length.toNat = packet.length.toNat + rdpHeaderSize := by rw [← message]; exact length
      have same : packet.buf = sent.buf := by rw [← message]; exact buf.symm
      rw [same] at ready
      generalize counted : (⟨⟨log.ctx.conn, { log.ctx.stack with rdpIncr := log.ctx.stack.rdpIncr + 1 }⟩, log.taken,
        log.places⟩ : CmpLog cfg) = next
      have pool : next.ctx.stack.io.pool = log.ctx.stack.io.pool := by rw [← counted]
      have ready' : next.Ready before given sent.buf := by
        rw [← counted]
        exact ⟨ready.places, ready.owns, ready.txQueue, ready.io, ready.fresh⟩
      by_cases syn : (flags &&& rdpSyn != 0) = true
      · rw [if_pos syn, CmpLog.clone_eq]
        obtain ⟨got, why⟩ | ⟨copy, copied, got, _, fewer, taken, places, txQueue, io, fresh⟩ :=
          next.get_cases sent.length.toNat
        · rw [got]
          have fails : CloneFails log.ctx.stack.io.pool flags packet.length.toNat :=
            ⟨bne_iff_ne.mp syn, fits, pool ▸ why (by omega)⟩
          exact iff_of_false ready'.lost fun kept => kept fails
        · rw [got]
          have sentBufs := congrArg Io.sentBufs io
          apply iff_of_true
          · exact ready'.copied copied { sent with buf := copy.buf, timestampTx := copied.ctx.stack.now } taken places
              txQueue sentBufs fresh flags ackNr
          intro fails
          rw [pool, fails.2.2] at fewer
          cases fewer
      · rw [if_neg syn]
        exact iff_of_true (ready'.finish flags ackNr) fun fails => syn (bne_iff_ne.mpr fails.1)

end Places

/-! ## The calls -/

section Calls
variable (ctx : Ctx cfg)

/-- A call that gets no buffer has no buffer. -/
theorem onePlace_nothing : OnePlace ctx [] .nomem ⟨ctx, [], []⟩ :=
  ⟨.refl _, fun _ _ => List.nodup_nil, (List.append_nil _).symm, (List.append_nil _).symm,
    fun _ => ⟨fun _ member => absurd member List.not_mem_nil, rfl, rfl⟩⟩

/-- The call fails without a buffer, or the new buffer is the message. -/
theorem CmpLog.get_ready (size : Nat) :
    (CmpLog.get ⟨ctx, [], []⟩ size = (none, ⟨ctx, [], []⟩) ∧
        (size ≤ cfg.bufferSize → ctx.stack.io.pool.remaining = 0)) ∨
      ∃ packet log, CmpLog.get ⟨ctx, [], []⟩ size = (some packet, log) ∧ size ≤ cfg.bufferSize ∧
        log.ctx.stack.io.pool.remaining + 1 = ctx.stack.io.pool.remaining ∧ log.Ready ctx [] packet.buf := by
  obtain failed | ⟨packet, log, got, fits, fewer, taken, places, txQueue, io, fresh⟩ :=
    CmpLog.get_cases ⟨ctx, [], []⟩ size
  · exact .inl failed
  · exact .inr ⟨packet, log, got, fits, fewer, places, taken, txQueue, io, fun held accounts => fresh held accounts⟩

/-- The call sends a SYN whose header fits, and the pool has no buffer for the copy. -/
def CmpCall.SynCloneFails (pool : Pool cfg) : CmpCall → Prop
  | cmp (some packet) flags _ _ => CloneFails pool flags packet.length.toNat
  | cmp none flags _ _ => flags &&& rdpSyn ≠ 0 ∧ 20 ≤ cfg.bufferSize ∧ pool.remaining = 1
  | eack => False
  | syn => 100 ≤ cfg.bufferSize ∧ pool.remaining = 1

theorem rdpSendCmpLog_onePlace_iff (packet : Option Packet) (flags : UInt8) (seqNr ackNr : UInt16) :
    OnePlace ctx (packet.toList.map Packet.buf) (rdpSendCmpLog ⟨ctx, [], []⟩ packet flags seqNr ackNr).1
        (rdpSendCmpLog ⟨ctx, [], []⟩ packet flags seqNr ackNr).2 ↔
      ¬(CmpCall.cmp packet flags seqNr ackNr).SynCloneFails ctx.stack.io.pool := by
  cases packet with
  | some packet =>
      have ready : CmpLog.Ready ⟨ctx, [], []⟩ ctx [packet.buf] packet.buf := ⟨rfl, rfl, rfl, rfl, fun _ owned => owned⟩
      exact rdpSendCmpPacketLog_onePlace_iff ready flags seqNr ackNr
  | none =>
      unfold rdpSendCmpLog
      obtain ⟨got, why⟩ | ⟨packet, log, got, fits, fewer, ready⟩ := CmpLog.get_ready ctx 20
      · rw [got]
        apply iff_of_true (onePlace_nothing ctx)
        rintro ⟨_, fits, one⟩
        rw [why fits] at one
        cases one
      · rw [got]
        have placed := rdpSendCmpPacketLog_onePlace_iff
          (ready : log.Ready ctx [] { packet with length := 0 }.buf) flags seqNr ackNr
        apply placed.trans
        apply not_congr
        have room : (0 : UInt16).toNat + rdpHeaderSize ≤ cfg.bufferSize := Nat.le_trans (by decide) fits
        have last : log.ctx.stack.io.pool.remaining = 0 ↔ ctx.stack.io.pool.remaining = 1 := by omega
        rw [CloneFails, CmpCall.SynCloneFails, last]
        exact ⟨fun ⟨syn, _, one⟩ => ⟨syn, fits, one⟩, fun ⟨syn, _, one⟩ => ⟨syn, room, one⟩⟩

theorem rdpSendEackLog_onePlace :
    OnePlace ctx [] (rdpSendEackLog ⟨ctx, [], []⟩).1 (rdpSendEackLog ⟨ctx, [], []⟩).2 := by
  unfold rdpSendEackLog
  obtain ⟨got, _⟩ | ⟨packet, log, got, _, _, ready⟩ := CmpLog.get_ready ctx 100
  · rw [got]
    exact onePlace_nothing ctx
  · rw [got]
    simp only
    obtain ⟨rxQueue, scanned⟩ := rdpEackLoop_changes log.ctx.conn.index log.ctx.stack.rxQueue.size
      { packet with length := 0 } (100 - rdpHeaderSize) log.ctx.stack
    have buf := rdpEackLoop_buf log.ctx.conn.index log.ctx.stack.rxQueue.size
      { packet with length := 0 } (100 - rdpHeaderSize) log.ctx.stack
    generalize rdpEackLoop log.ctx.conn.index log.ctx.stack.rxQueue.size { packet with length := 0 }
      (100 - rdpHeaderSize) log.ctx.stack = result at scanned buf
    obtain ⟨eack, stack⟩ := result
    obtain rfl : stack = { log.ctx.stack with rxQueue } := scanned
    have listed : CmpLog.Ready { log with ctx := { log.ctx with stack := { log.ctx.stack with rxQueue } } } ctx []
        eack.buf := by
      rw [buf]
      exact ⟨ready.places, ready.owns, ready.txQueue, ready.io, ready.fresh⟩
    apply (rdpSendCmpPacketLog_onePlace_iff listed _ _ _).mpr
    intro fails
    exact fails.1 (by decide)

theorem rdpSendSynLog_onePlace_iff :
    OnePlace ctx [] (rdpSendSynLog ⟨ctx, [], []⟩).1 (rdpSendSynLog ⟨ctx, [], []⟩).2 ↔
      ¬CmpCall.syn.SynCloneFails ctx.stack.io.pool := by
  unfold rdpSendSynLog
  obtain ⟨got, why⟩ | ⟨packet, log, got, fits, fewer, ready⟩ := CmpLog.get_ready ctx 100
  · rw [got]
    apply iff_of_true (onePlace_nothing ctx)
    rintro ⟨fits, one⟩
    rw [why fits] at one
    cases one
  · rw [got]
    simp only
    generalize putSynOptions log.ctx.stack.options packet.mem = mem
    have placed := rdpSendCmpPacketLog_onePlace_iff (ready : log.Ready ctx [] { packet with length := 24, mem }.buf)
      rdpSyn log.ctx.conn.rdp.sndIss 0
    apply placed.trans
    apply not_congr
    have room : (24 : UInt16).toNat + rdpHeaderSize ≤ cfg.bufferSize := Nat.le_trans (by decide) fits
    have last : log.ctx.stack.io.pool.remaining = 0 ↔ ctx.stack.io.pool.remaining = 1 := by omega
    rw [CloneFails, CmpCall.SynCloneFails, last]
    exact ⟨fun ⟨_, _, one⟩ => ⟨fits, one⟩, fun ⟨_, one⟩ => ⟨by decide, room, one⟩⟩

/-- A control message leaves each buffer in one place exactly if it is not a SYN whose copy finds no buffer. -/
theorem cmpCall_onePlace_iff (call : CmpCall) :
    ((call.log ctx).map id CmpLog.ctx = call.run ctx ∧ OnePlace ctx call.given (call.log ctx).1 (call.log ctx).2) ↔
      ¬call.SynCloneFails ctx.stack.io.pool := by
  rw [and_iff_right (call.log_ctx ctx)]
  cases call with
  | cmp packet flags seqNr ackNr => exact rdpSendCmpLog_onePlace_iff ctx packet flags seqNr ackNr
  | eack => exact iff_of_true (rdpSendEackLog_onePlace ctx) id
  | syn => exact rdpSendSynLog_onePlace_iff ctx

end Calls

/-- A node with one free buffer, and a connection that starts its handshake. -/
def lastBufferCtx : Ctx { bufferCount := 1 } where
  conn := default
  stack := .init (Io.init { bufferCount := 1 } (fun _ => default) [] [])

/-- The SYN is lost: its buffer is neither free nor queued nor sent. -/
theorem rdpSendSyn_losesBuffer :
    ¬OnePlace lastBufferCtx [] (CmpCall.syn.log lastBufferCtx).1 (CmpCall.syn.log lastBufferCtx).2 ∧
      (rdpSendSyn lastBufferCtx).1 = .nomem ∧ lastBufferCtx.stack.io.pool.freeBufs = [0] ∧
      (rdpSendSyn lastBufferCtx).2.stack.io.pool.freeBufs = [] ∧
      (rdpSendSyn lastBufferCtx).2.stack.txQueue.items.map Packet.buf = [] ∧
      (rdpSendSyn lastBufferCtx).2.stack.io.sentBufs = [] := by
  constructor
  · intro one
    have once := one.once.length_eq
    revert once
    decide +kernel
  · decide +kernel

end Libcsp

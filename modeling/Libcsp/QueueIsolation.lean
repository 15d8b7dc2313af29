/-
This file determines when an operation for one connection spares the queued packets of the others.
-/
import Libcsp.RdpSpec
import Libcsp.Lib.Transition

namespace Libcsp

open SharedQueue

variable {cfg : Config}

/-- Each operation looks up packets of one connection in a shared queue. -/
inductive QueueOp where
  | txGet
  | rxGet
  /-- The message loop of `csp_rdp_check_timeouts`. -/
  | messageTimeouts
  | flushEack (eack : Packet)
  | sendEack
  | seqInRxQueue (seqNr : UInt16)
  | rxQueueFlush

def QueueOp.run : QueueOp → Ctx cfg → Ctx cfg
  | .txGet, ctx => { ctx with stack := (rdpQueueTxGet ctx.stack ctx.conn.index).2 }
  | .rxGet, ctx => { ctx with stack := (rdpQueueRxGet ctx.stack ctx.conn.index).2 }
  | .messageTimeouts, ctx =>
      { ctx with stack := rdpTimeoutLoop ctx.conn ctx.stack.txQueue.size ctx.stack }
  | .flushEack eack, ctx => rdpFlushEack ctx eack
  | .sendEack, ctx => (rdpSendEack ctx).2
  | .seqInRxQueue seqNr, ctx =>
      { ctx with stack := (rdpSeqInRxQueue ctx.stack ctx.conn.index seqNr).2 }
  | .rxQueueFlush, ctx => rdpRxQueueFlush ctx

/-- The operation leaves the packets of all other connections in both queues as they are. -/
def SparesOthers (before after : Ctx cfg) : Prop :=
  Isolated Packet.conn before.conn.index before.stack.txQueue.items after.stack.txQueue.items ∧
    Isolated Packet.conn before.conn.index before.stack.rxQueue.items after.stack.rxQueue.items

/-- All packets of the queue belong to the connection. -/
def OwnsQueue {capacity : Nat} (conn : Nat) (queue : BoundedQueue Packet capacity) : Prop :=
  ∀ packet ∈ queue.items, packet.conn = conn

def OwnsHead {capacity : Nat} (conn : Nat) (queue : BoundedQueue Packet capacity) : Prop :=
  ∀ packet, queue.items.head? = some packet → packet.conn = conn

/-- These packets of the connection wait in front of the first foreign one. -/
def ownFront {capacity : Nat} (conn : Nat) (queue : BoundedQueue Packet capacity) : List Packet :=
  queue.items.takeWhile fun packet => packet.conn = conn

/-- One pass over the packets delivers this many of them in sequence. -/
def inOrderCount : UInt16 → List Packet → Nat
  | _, [] => 0
  | rcvCur, packet :: rest =>
      if packet.hostSeqNr = rcvCur + 1 then inOrderCount (rcvCur + 1) rest + 1
      else inOrderCount rcvCur rest

/-- The operation stops in front of the first packet of another connection. -/
def QueueOp.StopsAtOthers : QueueOp → Ctx cfg → Prop
  | .txGet, ctx => OwnsHead ctx.conn.index ctx.stack.txQueue
  | .rxGet, ctx => OwnsHead ctx.conn.index ctx.stack.rxQueue
  | .messageTimeouts, ctx => OwnsQueue ctx.conn.index ctx.stack.txQueue
  | .flushEack _, ctx => OwnsQueue ctx.conn.index ctx.stack.txQueue
  | .sendEack, ctx =>
      OwnsQueue ctx.conn.index ctx.stack.rxQueue ∨ (bufferGet ctx.stack.io.pool 100).1 = none
  | .seqInRxQueue seqNr, ctx =>
      OwnsQueue ctx.conn.index ctx.stack.rxQueue ∨
        ∃ packet ∈ ownFront ctx.conn.index ctx.stack.rxQueue, packet.hostSeqNr = seqNr
  | .rxQueueFlush, ctx =>
      OwnsQueue ctx.conn.index ctx.stack.rxQueue ∨
        ctx.conn.rxQueue.free ≤
          inOrderCount ctx.conn.rdp.rcvCur (ownFront ctx.conn.index ctx.stack.rxQueue) + 2

theorem Packet.tagged_owner (conn : Nat) (packet : Packet) : (packet.tagged conn).conn = conn := rfl

/-! ## Full scans -/

/-- A full scan goes on until its rounds are over. -/
abbrev FullScan (conn : Nat) : Nat → List Packet → List Packet → Prop :=
  Scan Packet.conn conn (Packet.tagged conn) (fun _ : Unit => True) (fun progress _ => progress) ()

theorem FullScan.isolated_iff {conn capacity : Nat} {before after : BoundedQueue Packet capacity}
    (scan : FullScan conn before.size before.items after.items) :
    Isolated Packet.conn conn before.items after.items ↔ OwnsQueue conn before := by
  have whole := Scan.isolated_iff (Packet.tagged_owner conn) (fun _ _ _ => trivial) scan le_rfl
  simpa [OwnsQueue] using whole

/-- One round of a scan takes a packet and adds it again. -/
theorem keep_tx {Progress : Type} {goesOn : Progress → Prop} {advance : Progress → Packet → Progress}
    {progress : Progress} {count : Nat} {before : BoundedQueue Packet (cfg.rdpMaxWindow * 2)}
    {last : List Packet} {packet : Packet} (kept : Packet) (stack : Stack cfg) {conn : Nat}
    (goes : goesOn progress)
    (takes : Takes Packet.conn conn (Packet.tagged conn) before.items (some packet)
      stack.txQueue.items)
    (scan : Scan Packet.conn conn (Packet.tagged conn) goesOn advance (advance progress packet) count
      (rdpQueueTxAdd stack conn kept).txQueue.items last) :
    Scan Packet.conn conn (Packet.tagged conn) goesOn advance progress (count + 1) before.items last := by
  obtain ⟨queue, added, items⟩ := rdpQueueTxAdd_room stack conn kept (room_of_takes takes)
  rw [added, items] at scan
  exact .keep _ goes takes (Packet.tagged_owner conn kept) scan

theorem keep_rx {Progress : Type} {goesOn : Progress → Prop} {advance : Progress → Packet → Progress}
    {progress : Progress} {count : Nat} {before : BoundedQueue Packet (cfg.rdpMaxWindow * 2)}
    {last : List Packet} {packet : Packet} (kept : Packet) (stack : Stack cfg) {conn : Nat}
    (goes : goesOn progress)
    (takes : Takes Packet.conn conn (Packet.tagged conn) before.items (some packet)
      stack.rxQueue.items)
    (scan : Scan Packet.conn conn (Packet.tagged conn) goesOn advance (advance progress packet) count
      (rdpQueueRxAdd stack conn kept).rxQueue.items last) :
    Scan Packet.conn conn (Packet.tagged conn) goesOn advance progress (count + 1) before.items last := by
  obtain ⟨queue, added, items⟩ := rdpQueueRxAdd_room stack conn kept (room_of_takes takes)
  rw [added, items] at scan
  exact .keep _ goes takes (Packet.tagged_owner conn kept) scan

theorem rdpTimeoutLoop_scan (conn : Conn cfg) (count : Nat) (stack : Stack cfg) :
    FullScan conn.index count stack.txQueue.items (rdpTimeoutLoop conn count stack).txQueue.items := by
  induction count generalizing stack with
  | zero => exact .done _ _
  | succ count ih =>
      obtain ⟨found, queue, got, takes⟩ := rdpQueueTxGet_takes stack conn.index
      simp only [rdpTimeoutLoop, got]
      cases found with
      | none => exact .missing trivial takes
      | some packet =>
          simp only
          split
          · exact .drop trivial takes le_rfl (ih (Stack.free { stack with txQueue := queue } packet))
          · split
            · exact keep_tx _ (rdpRetransmit conn { stack with txQueue := queue } _) trivial takes (ih _)
            · exact keep_tx packet { stack with txQueue := queue } trivial takes (ih _)

theorem rdpFlushEackLoop_scan (conn : Nat) (packetTimeout : UInt32) (eack : Packet) (count : Nat)
    (stack : Stack cfg) :
    FullScan conn count stack.txQueue.items
      (rdpFlushEackLoop conn packetTimeout eack count stack).txQueue.items := by
  induction count generalizing stack with
  | zero => exact .done _ _
  | succ count ih =>
      obtain ⟨found, queue, got, takes⟩ := rdpQueueTxGet_takes stack conn
      simp only [rdpFlushEackLoop, got]
      cases found with
      | none => exact .missing trivial takes
      | some packet =>
          simp only
          split
          · exact .drop trivial takes le_rfl
              (ih (Stack.free { stack with txQueue := queue }
                (eackMarkAll stack.now packetTimeout eack packet)))
          · exact keep_tx _ { stack with txQueue := queue } trivial takes (ih _)

theorem rdpEackLoop_scan (conn : Nat) (count : Nat) (eack : Packet) (space : Nat)
    (stack : Stack cfg) :
    FullScan conn count stack.rxQueue.items
      (rdpEackLoop conn count eack space stack).2.rxQueue.items := by
  induction count generalizing eack space stack with
  | zero => exact .done _ _
  | succ count ih =>
      obtain ⟨found, queue, got, takes⟩ := rdpQueueRxGet_takes stack conn
      simp only [rdpEackLoop, got]
      cases found with
      | none => exact .missing trivial takes
      | some packet =>
          simp only
          split
          · exact keep_rx packet { stack with rxQueue := queue } trivial takes (ih _ _ _)
          · exact keep_rx packet { stack with rxQueue := queue } trivial takes (ih _ _ _)

/-- The search halts behind the packet that it looks for. -/
theorem rdpSeqInRxLoop_scan (conn : Nat) (seqNr : UInt16) (count : Nat) (stack : Stack cfg) :
    Scan Packet.conn conn (Packet.tagged conn) (fun found : Bool => found = false)
      (fun found packet => found || packet.hostSeqNr == seqNr) false count stack.rxQueue.items
      (rdpSeqInRxLoop conn seqNr count stack).2.rxQueue.items := by
  induction count generalizing stack with
  | zero => exact .done _ _
  | succ count ih =>
      obtain ⟨found, queue, got, takes⟩ := rdpQueueRxGet_takes stack conn
      simp only [rdpSeqInRxLoop, got]
      cases found with
      | none => exact .missing rfl takes
      | some packet =>
          simp only
          refine keep_rx packet { stack with rxQueue := queue } rfl takes ?_
          split
          · rename_i same
            exact .halt _ (by simp [same])
          · rename_i different
            have differs : (packet.hostSeqNr == seqNr) = false := by simpa using different
            simp only [Bool.false_or, differs]
            exact ih _

/-! ## The flush of the reassembly queue -/

/-- The flush depends on these two numbers of the connection. -/
abbrev flushProgress (conn : Conn cfg) : UInt16 × Nat := (conn.rdp.rcvCur, conn.rxQueue.free)

/-- A delivery advances the sequence number and takes one slot of the receive queue. -/
def flushAdvance (progress : UInt16 × Nat) (packet : Packet) : UInt16 × Nat :=
  if packet.hostSeqNr = progress.1 + 1 then (progress.1 + 1, progress.2 - 1) else progress

abbrev FlushScan (conn : Nat) : UInt16 × Nat → Nat → List Packet → List Packet → Prop :=
  Scan Packet.conn conn (Packet.tagged conn) (fun progress => 2 < progress.2) flushAdvance

theorem flushAdvance_foldl (rcvCur : UInt16) (free : Nat) (packets : List Packet) :
    (packets.foldl flushAdvance (rcvCur, free)).2 = free - inOrderCount rcvCur packets := by
  induction packets generalizing rcvCur free with
  | nil => rfl
  | cons packet rest ih =>
      simp only [List.foldl_cons, flushAdvance, inOrderCount]
      split
      · rw [ih, Nat.sub_sub, add_comm]
      · exact ih rcvCur free

/-- A receive queue with a free slot takes the data. -/
theorem rdpReceiveData_room (conn : Conn cfg) (packet : Packet) (room : 0 < conn.rxQueue.free) :
    ∃ rxQueue, rdpReceiveData conn packet =
        (.none, { conn with
          rxQueue, rxLog := conn.rxLog ++ [some (rdpHeaderRemove packet)] }, rdpHeaderRemove packet) ∧
      rxQueue.items = conn.rxQueue.items ++ [some (rdpHeaderRemove packet)] := by
  have fits : conn.rxQueue.items.length < cfg.connRxqueueLen := Nat.lt_of_sub_pos room
  rw [rdpReceiveData, connEnqueuePacket, BoundedQueue.enqueue_of_room _ fits]
  exact ⟨_, rfl, rfl⟩

theorem rdpRxFlushScan_scan (count : Nat) (ctx : Ctx cfg)
    (enough : count ≤ ctx.stack.rxQueue.items.length) :
    ∃ goes after, rdpRxFlushScan count ctx = (goes, after) ∧ after.conn.index = ctx.conn.index ∧
      (goes = false → FlushScan ctx.conn.index (flushProgress ctx.conn) count
        ctx.stack.rxQueue.items after.stack.rxQueue.items) ∧
      (goes = true → after.stack.rxQueue.items.length + 1 = ctx.stack.rxQueue.items.length ∧
        ∀ last, FlushScan ctx.conn.index (flushProgress after.conn) after.stack.rxQueue.items.length
            after.stack.rxQueue.items last →
          FlushScan ctx.conn.index (flushProgress ctx.conn) count ctx.stack.rxQueue.items last) := by
  induction count generalizing ctx with
  | zero => exact ⟨false, ctx, rfl, rfl, fun _ => .done _ _, by simp⟩
  | succ count ih =>
      by_cases short : ctx.conn.rxQueue.free ≤ 2
      · exact ⟨false, ctx, by simp [rdpRxFlushScan, short], rfl,
          fun _ => .halt _ (by simpa using short), by simp⟩
      have goes : 2 < ctx.conn.rxQueue.free := not_le.mp short
      obtain ⟨found, queue, got, takes⟩ := rdpQueueRxGet_takes ctx.stack ctx.conn.index
      have length := takes.length
      simp only [rdpRxFlushScan, short, if_false, got]
      cases found with
      | none => exact ⟨_, _, rfl, rfl, fun _ => .missing goes takes, by simp⟩
      | some packet =>
          rw [Option.toList_some, List.length_singleton] at length
          simp only
          split
          · rename_i next
            obtain ⟨rxQueue, received, items⟩ := rdpReceiveData_room ctx.conn packet
              (by omega)
            rw [received]
            refine ⟨_, _, rfl, rfl, by simp, fun _ => ⟨length, fun last scan => ?_⟩⟩
            refine .drop goes takes (Nat.le_of_lt_succ (by omega : count < queue.items.length + 1)) ?_
            have free : rxQueue.free = ctx.conn.rxQueue.free - 1 := by
              simp only [BoundedQueue.free, items, List.length_append, List.length_singleton]
              omega
            simp only [flushProgress, flushAdvance, next, if_true, free] at scan ⊢
            exact scan
          · rename_i other
            obtain ⟨queue', added, items⟩ := rdpQueueRxAdd_room
              { ctx.stack with rxQueue := queue } ctx.conn.index packet (room_of_takes takes)
            have size : queue'.items.length = ctx.stack.rxQueue.items.length := by
              rw [items, List.length_append, List.length_singleton]
              exact length
            obtain ⟨goesOn, after, passed, index, ends, restarts⟩ := ih
              ⟨ctx.conn, rdpQueueRxAdd { ctx.stack with rxQueue := queue } ctx.conn.index packet⟩
              (by rw [added, size]; omega)
            have stays : flushAdvance (flushProgress ctx.conn) packet = flushProgress ctx.conn := by
              simp [flushAdvance, other]
            refine ⟨goesOn, after, passed, index, fun halts => ?_, fun restart => ?_⟩
            · refine keep_rx packet { ctx.stack with rxQueue := queue } goes takes ?_
              rw [stays]
              exact ends halts
            · obtain ⟨shorter, scan⟩ := restarts restart
              rw [added, size] at shorter
              refine ⟨shorter, fun last behind => ?_⟩
              refine keep_rx packet { ctx.stack with rxQueue := queue } goes takes ?_
              rw [stays]
              exact scan last behind

theorem rdpRxFlushLoop_scan (passes : Nat) (ctx : Ctx cfg)
    (enough : ctx.stack.rxQueue.items.length < passes) :
    FlushScan ctx.conn.index (flushProgress ctx.conn) ctx.stack.rxQueue.items.length
      ctx.stack.rxQueue.items (rdpRxFlushLoop passes ctx).stack.rxQueue.items := by
  induction passes generalizing ctx with
  | zero => omega
  | succ passes ih =>
      obtain ⟨goes, after, passed, index, ends, restarts⟩ :=
        rdpRxFlushScan_scan ctx.stack.rxQueue.items.length ctx le_rfl
      simp only [rdpRxFlushLoop, BoundedQueue.size, passed]
      cases goes with
      | false => exact ends rfl
      | true =>
          obtain ⟨shorter, scan⟩ := restarts rfl
          have rest := ih after (by omega)
          rw [index] at rest
          exact scan _ rest

/-! ## The queue that an operation does not use -/

@[simp] theorem rdpTimeoutLoop_rxQueue (conn : Conn cfg) (count : Nat) (stack : Stack cfg) :
    (rdpTimeoutLoop conn count stack).rxQueue = stack.rxQueue := by
  induction count generalizing stack with
  | zero => rfl
  | succ count ih =>
      obtain ⟨found, queue, got, _⟩ := rdpQueueTxGet_takes stack conn.index
      simp only [rdpTimeoutLoop, got]
      cases found with
      | none => rfl
      | some packet =>
          simp only
          split
          · exact ih _
          · split
            · exact ih _
            · exact ih _

@[simp] theorem rdpFlushEackLoop_rxQueue (conn : Nat) (packetTimeout : UInt32) (eack : Packet)
    (count : Nat) (stack : Stack cfg) :
    (rdpFlushEackLoop conn packetTimeout eack count stack).rxQueue = stack.rxQueue := by
  induction count generalizing stack with
  | zero => rfl
  | succ count ih =>
      obtain ⟨found, queue, got, _⟩ := rdpQueueTxGet_takes stack conn
      simp only [rdpFlushEackLoop, got]
      cases found with
      | none => rfl
      | some packet =>
          simp only
          split
          · exact ih _
          · exact ih _

@[simp] theorem rdpEackLoop_txQueue (conn : Nat) (count : Nat) (eack : Packet) (space : Nat)
    (stack : Stack cfg) : (rdpEackLoop conn count eack space stack).2.txQueue = stack.txQueue := by
  induction count generalizing eack space stack with
  | zero => rfl
  | succ count ih =>
      obtain ⟨found, queue, got, _⟩ := rdpQueueRxGet_takes stack conn
      simp only [rdpEackLoop, got]
      cases found with
      | none => rfl
      | some packet =>
          simp only
          split
          · exact ih _ _ _
          · exact ih _ _ _

@[simp] theorem rdpSeqInRxLoop_txQueue (conn : Nat) (seqNr : UInt16) (count : Nat)
    (stack : Stack cfg) : (rdpSeqInRxLoop conn seqNr count stack).2.txQueue = stack.txQueue := by
  induction count generalizing stack with
  | zero => rfl
  | succ count ih =>
      obtain ⟨found, queue, got, _⟩ := rdpQueueRxGet_takes stack conn
      simp only [rdpSeqInRxLoop, got]
      cases found with
      | none => rfl
      | some packet =>
          simp only
          split
          · rfl
          · exact ih _

theorem rdpRxFlushScan_txQueue (count : Nat) (ctx : Ctx cfg) :
    (rdpRxFlushScan count ctx).2.stack.txQueue = ctx.stack.txQueue := by
  induction count generalizing ctx with
  | zero => rfl
  | succ count ih =>
      obtain ⟨found, queue, got, _⟩ := rdpQueueRxGet_takes ctx.stack ctx.conn.index
      simp only [rdpRxFlushScan, got]
      split
      · rfl
      · cases found with
        | none => rfl
        | some packet =>
            simp only
            split
            · split <;> rfl
            · exact ih _

@[simp] theorem rdpRxFlushLoop_txQueue (passes : Nat) (ctx : Ctx cfg) :
    (rdpRxFlushLoop passes ctx).stack.txQueue = ctx.stack.txQueue := by
  induction passes generalizing ctx with
  | zero => rfl
  | succ passes ih =>
      have pass := rdpRxFlushScan_txQueue ctx.stack.rxQueue.size ctx
      simp only [rdpRxFlushLoop]
      split
      · rename_i after passed
        rw [passed] at pass
        exact pass
      · rename_i after passed
        rw [passed] at pass
        rw [ih]
        exact pass

/-- The EACK message leaves both queues as its loop left them. -/
theorem rdpSendEack_queues (ctx : Ctx cfg) :
    ((bufferGet ctx.stack.io.pool 100).1 = none ∧
        (rdpSendEack ctx).2.stack.txQueue = ctx.stack.txQueue ∧
        (rdpSendEack ctx).2.stack.rxQueue = ctx.stack.rxQueue) ∨
      ((bufferGet ctx.stack.io.pool 100).1 ≠ none ∧
        (rdpSendEack ctx).2.stack.txQueue = ctx.stack.txQueue ∧
        FullScan ctx.conn.index ctx.stack.rxQueue.size ctx.stack.rxQueue.items
          (rdpSendEack ctx).2.stack.rxQueue.items) := by
  simp only [rdpSendEack]
  split
  · rename_i pool got
    exact .inl ⟨by rw [got], rfl, rfl⟩
  · rename_i packet pool got
    obtain ⟨_, _, _, _, sent, _⟩ := rdpSendCmp_answers
      { ctx with stack := (rdpEackLoop ctx.conn.index ctx.stack.rxQueue.size
          { packet with length := 0 } (100 - rdpHeaderSize)
          { ctx.stack with io := { ctx.stack.io with pool } }).2 }
      (some (rdpEackLoop ctx.conn.index ctx.stack.rxQueue.size
          { packet with length := 0 } (100 - rdpHeaderSize)
          { ctx.stack with io := { ctx.stack.io with pool } }).1)
      ctx.conn.rdp.sndNxt ctx.conn.rdp.rcvCur (by decide : (rdpAck ||| rdpEak) &&& rdpSyn = 0)
      (.inr (by decide))
    refine .inr ⟨by simp [got], ?_, ?_⟩
    · rw [sent]
      exact rdpEackLoop_txQueue _ _ _ _ _
    · rw [sent]
      exact rdpEackLoop_scan ctx.conn.index ctx.stack.rxQueue.size { packet with length := 0 }
        (100 - rdpHeaderSize) { ctx.stack with io := { ctx.stack.io with pool } }

/-! ## Exact conditions -/

/-- An operation spares the others exactly when it stops in front of them. -/
theorem QueueOp.sparesOthers_iff (op : QueueOp) (ctx : Ctx cfg) :
    SparesOthers ctx (op.run ctx) ↔ op.StopsAtOthers ctx := by
  have untouched : ∀ {queue queue' : BoundedQueue Packet (cfg.rdpMaxWindow * 2)}, queue' = queue →
      Isolated Packet.conn ctx.conn.index queue.items queue'.items := by
    rintro queue _ rfl
    exact Isolated.refl _
  cases op with
  | txGet =>
      obtain ⟨found, queue, got, takes⟩ := rdpQueueTxGet_takes ctx.stack ctx.conn.index
      have exactly := takes.isolated_iff (Packet.tagged_owner ctx.conn.index)
      simp only [QueueOp.run, got, SparesOthers, StopsAtOthers, OwnsHead]
      rw [exactly, and_iff_left (Isolated.refl _)]
  | rxGet =>
      obtain ⟨found, queue, got, takes⟩ := rdpQueueRxGet_takes ctx.stack ctx.conn.index
      have exactly := takes.isolated_iff (Packet.tagged_owner ctx.conn.index)
      simp only [QueueOp.run, got, SparesOthers, StopsAtOthers, OwnsHead]
      rw [exactly, and_iff_right (Isolated.refl _)]
  | messageTimeouts =>
      have scan := rdpTimeoutLoop_scan ctx.conn ctx.stack.txQueue.size ctx.stack
      refine (and_iff_left (untouched (rdpTimeoutLoop_rxQueue _ _ _))).trans ?_
      exact FullScan.isolated_iff scan
  | flushEack eack =>
      have scan := rdpFlushEackLoop_scan ctx.conn.index ctx.conn.rdp.packetTimeout eack
        ctx.stack.txQueue.size ctx.stack
      refine (and_iff_left (untouched (rdpFlushEackLoop_rxQueue _ _ _ _ _))).trans ?_
      exact FullScan.isolated_iff scan
  | sendEack =>
      rcases rdpSendEack_queues ctx with ⟨empty, tx, rx⟩ | ⟨got, tx, scan⟩
      · exact ⟨fun _ => .inr empty, fun _ => ⟨untouched tx, untouched rx⟩⟩
      · refine (and_iff_right (untouched tx)).trans ?_
        refine (FullScan.isolated_iff scan).trans ?_
        simp [StopsAtOthers, got]
  | seqInRxQueue seqNr =>
      have scan := rdpSeqInRxLoop_scan ctx.conn.index seqNr ctx.stack.rxQueue.size ctx.stack
      refine (and_iff_right (untouched (rdpSeqInRxLoop_txQueue _ _ _ _))).trans ?_
      refine (scan.isolated_iff (Packet.tagged_owner _) (by simp) le_rfl).trans ?_
      have search : ∀ (packets : List Packet) (found : Bool),
          packets.foldl (fun found packet => found || packet.hostSeqNr == seqNr) found =
            (found || packets.any fun packet => packet.hostSeqNr == seqNr) := by
        intro packets
        induction packets with
        | nil => simp
        | cons packet rest ih => simp [ih, Bool.or_assoc]
      simp [StopsAtOthers, OwnsQueue, ownFront, search]
  | rxQueueFlush =>
      have scan := rdpRxFlushLoop_scan (ctx.stack.rxQueue.items.length + 1) ctx (Nat.lt_succ_self _)
      refine (and_iff_right (untouched (rdpRxFlushLoop_txQueue _ _))).trans ?_
      refine (scan.isolated_iff (Packet.tagged_owner _) ?_ le_rfl).trans ?_
      · intro progress packet
        simp only [flushAdvance]
        split <;> omega
      · rw [flushAdvance_foldl]
        simp only [StopsAtOthers, OwnsQueue, ownFront, not_lt, Nat.sub_le_iff_le_add,
          add_comm 2]

/-! ## Runs -/

/-- The machine performs queue operations on the slots in any order. -/
def queueMachine (start : Slots cfg) : Machine (Slots cfg) (Nat × QueueOp) where
  initial slots := slots = start
  step slots input := slots.put input.1 (input.2.run (slots.ctx input.1))
  allowed _ _ := True

/-- The operation works on another connection and stops in front of foreign packets. -/
def StopsForOther (other : Nat) (slots : Slots cfg) (input : Nat × QueueOp) : Prop :=
  (slots.conns input.1).index ≠ other ∧ input.2.StopsAtOthers (slots.ctx input.1)

/-- The connection has the same packets in both queues of two states. -/
def SamePackets (conn : Nat) (first second : Slots cfg) : Prop :=
  itemsOf Packet.conn conn second.stack.txQueue.items =
      itemsOf Packet.conn conn first.stack.txQueue.items ∧
    itemsOf Packet.conn conn second.stack.rxQueue.items =
      itemsOf Packet.conn conn first.stack.rxQueue.items

/-- Between two operations of its own, a connection keeps all its packets in both queues. -/
theorem queueMachine_keeps (start : Slots cfg) (other : Nat) {slots : Slots cfg}
    (reached : ((queueMachine start).restrict (StopsForOther other)).Reachable slots) :
    SamePackets other start slots := by
  refine Machine.Reachable.invariant ?_ ?_ reached
  · rintro _ rfl
    exact ⟨rfl, rfl⟩
  · rintro slots ⟨slot, op⟩ ⟨tx, rx⟩ ⟨_, different, stops⟩
    obtain ⟨spareTx, spareRx⟩ := (op.sparesOthers_iff (slots.ctx slot)).mpr stops
    exact ⟨(spareTx other different.symm).trans tx, (spareRx other different.symm).trans rx⟩

/-- A get returns the oldest packet of the connection, and an operation leaves the packets of the
other connections alone exactly when it stops in front of the first of them. -/
theorem rdpQueues_isolate :
    (∀ (stack : Stack cfg) (conn : Nat),
      (rdpQueueTxGet stack conn).1 = stack.txQueue.items.find? (fun packet => packet.conn = conn) ∧
      (rdpQueueRxGet stack conn).1 =
        stack.rxQueue.items.find? fun packet => packet.conn = conn) ∧
    (∀ (op : QueueOp) (ctx : Ctx cfg), SparesOthers ctx (op.run ctx) ↔ op.StopsAtOthers ctx) ∧
    ∀ (start : Slots cfg) (other : Nat) (slots : Slots cfg),
      ((queueMachine start).restrict (StopsForOther other)).Reachable slots →
        SamePackets other start slots := by
  refine ⟨fun stack conn => ⟨?_, ?_⟩, QueueOp.sparesOthers_iff, fun start other slots =>
    queueMachine_keeps start other⟩
  · obtain ⟨found, queue, got, takes⟩ := rdpQueueTxGet_takes stack conn
    rw [got]
    exact takes.find
  · obtain ⟨found, queue, got, takes⟩ := rdpQueueRxGet_takes stack conn
    rw [got]
    exact takes.find

/-- An open connection at the start of its transfer. -/
def openConn (index : Nat) : Conn cfg :=
  { (default : Conn cfg) with
    index
    state := .open
    idin := { (default : CspId) with flags := cspFRdp }
    idout := { (default : CspId) with flags := cspFRdp }
    rdp := { (default : Rdp) with state := .open, sndNxt := 1, sndUna := 1, windowSize := 4 } }

/-- Connection 1 and then connection 0 have sent one segment each. -/
def twoSenders : Stack {} :=
  let stack := Stack.init (Io.init {} (fun _ => default) [] [])
  let first := cspSend ⟨openConn 1, stack⟩ (some { (default : Packet) with buf := 100, length := 1 })
  (cspSend ⟨openConn 0, first.stack⟩ (some { (default : Packet) with buf := 101, length := 1 })).stack

/-- The message loop of connection 0 takes the unacknowledged segment of connection 1 away. -/
theorem twoSenders_not_isolated :
    ¬SparesOthers ⟨openConn 0, twoSenders⟩ (QueueOp.messageTimeouts.run ⟨openConn 0, twoSenders⟩) := by
  intro spares
  have lost := congrArg (List.map Packet.conn) (spares.1 1 (by decide))
  exact absurd lost (by decide +kernel)

end Libcsp

/-
This file states when the timeouts of csp_rdp_check_timeouts fire.
-/
import Libcsp.AcceptedSegment
import Libcsp.Acknowledge
import Libcsp.QueueIsolation
import Libcsp.TxQueue

namespace Libcsp

open SharedQueue

variable {cfg : Config} {ctx : Ctx cfg} {packet : Packet}

/-! ## The calls of a check -/

/-- The loop over the retransmission queue with the list of the segments that it sends again. -/
def rdpTimeoutLoopLog (conn : Conn cfg) : Nat → Stack cfg → Stack cfg × List Packet
  | 0, stack => (stack, [])
  | count + 1, stack =>
      match rdpQueueTxGet stack conn.index with
      | (none, stack) => (stack, [])
      | (some packet, stack) =>
          if rdpSeqBefore packet.seqNr conn.rdp.sndUna then
            rdpTimeoutLoopLog conn count (stack.free packet)
          else if rdpTimedOut conn stack.now packet then
            let refreshed := refreshAck packet conn.rdp.rcvCur stack.now
            let (stack, resent) := rdpTimeoutLoopLog conn count
              (rdpQueueTxAdd (rdpRetransmit conn stack refreshed) conn.index refreshed)
            (stack, packet :: resent)
          else rdpTimeoutLoopLog conn count (rdpQueueTxAdd stack conn.index packet)

/-- The outcome of `csp_rdp_check_timeouts`, the argument of its call of `csp_conn_close`, and the segments that it
sends again. -/
structure TimeoutCheck (cfg : Config) where
  after : Ctx cfg
  closedBy : Option UInt8
  resent : List Packet

/-- This is `csp_rdp_check_timeouts` with its calls. -/
def rdpCheckTimeoutsLog (ctx : Ctx cfg) : TimeoutCheck cfg :=
  if ctx.conn.destSocket.isSome && rdpConnTimedOut ctx then
    let closedBy := rdpClosedByUserspace ||| rdpClosedByProtocol ||| rdpClosedByTimeout
    ⟨connClose ctx closedBy, some closedBy, []⟩
  else if ctx.conn.rdp.state = .closeWait then
    if rdpConnTimedOut ctx then
      let closedBy := rdpClosedByProtocol ||| rdpClosedByTimeout
      ⟨connClose ctx closedBy, some closedBy, []⟩
    else ⟨ctx, none, []⟩
  else
    let (stack, resent) := rdpTimeoutLoopLog ctx.conn ctx.stack.txQueue.size ctx.stack
    ⟨rdpRxQueueFlush (rdpTimeoutOpen { ctx with stack }), none, resent⟩

theorem rdpTimeoutLoopLog_result (conn : Conn cfg) (count : Nat) (stack : Stack cfg) :
    (rdpTimeoutLoopLog conn count stack).1 = rdpTimeoutLoop conn count stack := by
  induction count generalizing stack with
  | zero => rfl
  | succ count ih =>
      obtain ⟨found, queue, got, -⟩ := rdpQueueTxGet_takes stack conn.index
      simp only [rdpTimeoutLoopLog, rdpTimeoutLoop, got]
      cases found with
      | none => rfl
      | some packet =>
          simp only
          split
          · exact ih _
          · split
            · exact ih _
            · exact ih _

/-- The log does not change what the check does. -/
theorem rdpCheckTimeoutsLog_after (ctx : Ctx cfg) : (rdpCheckTimeoutsLog ctx).after = rdpCheckTimeouts ctx := by
  simp only [rdpCheckTimeoutsLog, rdpCheckTimeouts]
  split
  · rfl
  · split
    · split <;> rfl
    · rw [← rdpTimeoutLoopLog_result]

/-! ## The times -/

/-- The milliseconds since the timestamp of the connection. -/
def Ctx.idleTime (ctx : Ctx cfg) : Nat := (ctx.stack.now - ctx.conn.timestamp).toNat

/-- The milliseconds since the last transmission of the segment. -/
def Ctx.sentTime (ctx : Ctx cfg) (packet : Packet) : Nat := (ctx.stack.now - packet.timestampTx).toNat

/-- The connection is not yet accepted or in CLOSE_WAIT, and the clock has not turned half since its timestamp. -/
def Ctx.AwaitsClose (ctx : Ctx cfg) : Prop :=
  (ctx.conn.destSocket.isSome ∨ ctx.conn.rdp.state = .closeWait) ∧ ctx.idleTime < 2 ^ 31

/-- The segment waits for its acknowledgement, and the clock has not turned half since its transmission. -/
def Ctx.AwaitsAck (ctx : Ctx cfg) (packet : Packet) : Prop :=
  packet ∈ itemsOf Packet.conn ctx.conn.index ctx.stack.txQueue.items ∧
    rdpSeqBefore packet.seqNr ctx.conn.rdp.sndUna = false ∧ ctx.sentTime packet < 2 ^ 31

/-- The check neither closes the connection nor finds it in CLOSE_WAIT, so that it looks at the segments. -/
def Ctx.ServesSegments (ctx : Ctx cfg) : Prop :=
  (rdpCheckTimeoutsLog ctx).closedBy = none ∧ ctx.conn.rdp.state ≠ .closeWait

/-- The timeouts fire exactly when their time is over. -/
structure FiresInTime (ctx : Ctx cfg) : Prop where
  closes : ctx.AwaitsClose →
    ((rdpCheckTimeoutsLog ctx).closedBy.isSome ↔ ctx.conn.rdp.connTimeout.toNat < ctx.idleTime)
  resends : ctx.ServesSegments → ∀ packet, ctx.AwaitsAck packet →
    (packet ∈ (rdpCheckTimeoutsLog ctx).resent ↔ ctx.conn.rdp.packetTimeout.toNat < ctx.sentTime packet)

/-- Each deadline lies less than half a turn of the clock ahead of the current time. -/
structure NearDeadlines (ctx : Ctx cfg) : Prop where
  close : ctx.AwaitsClose → ctx.conn.rdp.connTimeout.toNat < ctx.idleTime + 2 ^ 31
  resend : ctx.ServesSegments → ∀ packet, ctx.AwaitsAck packet →
    ctx.conn.rdp.packetTimeout.toNat < ctx.sentTime packet + 2 ^ 31

/-- The signed test is right for the deadlines that lie less than half a turn ahead. -/
theorem rdpTimeAfter_right_iff {start timeout now : UInt32} (near : (now - start).toNat < 2 ^ 31) :
    (rdpTimeAfter now (start + timeout) = true ↔ timeout.toNat < (now - start).toNat) ↔
      timeout.toNat < (now - start).toNat + 2 ^ 31 := by
  rw [rdpTimeAfter_add_iff, WithinHalf]
  omega

/-! ## The connection -/

theorem rdpCheckTimeoutsLog_closes (awaits : ctx.AwaitsClose) :
    (rdpCheckTimeoutsLog ctx).closedBy.isSome ↔ rdpConnTimedOut ctx = true := by
  simp only [rdpCheckTimeoutsLog]
  rcases awaits.1 with lost | waiting
  · cases rdpConnTimedOut ctx
    · simp only [Bool.and_false, Bool.false_eq_true, if_false]
      split <;> simp
    · simp [lost]
  · cases rdpConnTimedOut ctx
    · simp [waiting]
    · simp only [Bool.and_true, waiting, if_true]
      split <;> simp

/-! ## The segments -/

/-- The lookup takes the first segment of the connection and may add others behind its last one. -/
theorem itemsOf_takes {conn : Nat} {before after : List Packet} {head : Packet}
    (takes : Takes Packet.conn conn (Packet.tagged conn) before (some head) after) :
    ∃ rest added, itemsOf Packet.conn conn before = head :: rest ∧ itemsOf Packet.conn conn after = rest ++ added := by
  cases takes with
  | @found passed rest _ foreign own =>
      refine ⟨itemsOf Packet.conn conn rest, _, ?_, itemsOf_append _ _ _ _⟩
      rw [itemsOf_append, itemsOf_eq_nil _ _ foreign, List.nil_append, ← own, itemsOf_cons_self]

/-- One round takes the first segment of the connection, and sends it again when its time is over. -/
structure TimeoutRound (conn : Conn cfg) (count : Nat) (stack : Stack cfg) (head : Packet) (rest : List Packet)
    (added : List Packet) (next : Stack cfg) : Prop where
  taken : itemsOf Packet.conn conn.index stack.txQueue.items = head :: rest
  left : itemsOf Packet.conn conn.index next.txQueue.items = rest ++ added
  now : next.now = stack.now
  resent : (rdpTimeoutLoopLog conn (count + 1) stack).2 =
    (if rdpSeqBefore head.seqNr conn.rdp.sndUna = false ∧ rdpTimedOut conn stack.now head = true then [head] else []) ++
      (rdpTimeoutLoopLog conn count next).2

theorem rdpTimeoutLoopLog_round (conn : Conn cfg) (count : Nat) (stack : Stack cfg) :
    (itemsOf Packet.conn conn.index stack.txQueue.items = [] ∧ (rdpTimeoutLoopLog conn (count + 1) stack).2 = []) ∨
      ∃ head rest added next, TimeoutRound conn count stack head rest added next := by
  obtain ⟨found, queue, got, takes⟩ := rdpQueueTxGet_takes stack conn.index
  cases found with
  | none =>
      left
      simp only [rdpTimeoutLoopLog, got, and_true]
      exact itemsOf_eq_nil _ _ (by simpa using List.find?_eq_none.mp takes.find.symm)
  | some head =>
      right
      obtain ⟨rest, added, taken, left⟩ := itemsOf_takes takes
      have back : ∀ (io : Io cfg) (packet : Packet), ∃ longer,
          rdpQueueTxAdd { stack with io, txQueue := queue } conn.index packet = { stack with io, txQueue := longer } ∧
            itemsOf Packet.conn conn.index longer.items =
              rest ++ (added ++ itemsOf Packet.conn conn.index [packet.tagged conn.index]) := by
        intro io packet
        obtain ⟨longer, same, items⟩ := rdpQueueTxAdd_room { stack with io, txQueue := queue } conn.index packet
          (room_of_takes takes)
        refine ⟨longer, same, ?_⟩
        rw [items, itemsOf_append, left, List.append_assoc]
      by_cases acked : rdpSeqBefore head.seqNr conn.rdp.sndUna = true
      · exact ⟨head, rest, added, Stack.free { stack with txQueue := queue } head, taken, left, rfl,
          by simp [rdpTimeoutLoopLog, got, acked]⟩
      · by_cases timedOut : rdpTimedOut conn stack.now head = true
        · obtain ⟨io, -, resent, -⟩ := rdpRetransmit_sends conn { stack with txQueue := queue }
            (refreshAck head conn.rdp.rcvCur stack.now)
          obtain ⟨longer, same, items⟩ := back io (refreshAck head conn.rdp.rcvCur stack.now)
          exact ⟨head, rest, _, { stack with io, txQueue := longer }, taken, items, rfl,
            by simp [rdpTimeoutLoopLog, got, acked, timedOut, resent, same]⟩
        · obtain ⟨longer, same, items⟩ := back stack.io head
          exact ⟨head, rest, _, { stack with txQueue := longer }, taken, items, rfl,
            by simp [rdpTimeoutLoopLog, got, acked, timedOut, same]⟩

/-- The loop sends only segments whose time is over. -/
theorem rdpTimeoutLoopLog_timedOut {conn : Conn cfg} {count : Nat} {stack : Stack cfg}
    (resent : packet ∈ (rdpTimeoutLoopLog conn count stack).2) : rdpTimedOut conn stack.now packet = true := by
  induction count generalizing stack with
  | zero => cases resent
  | succ count ih =>
      rcases rdpTimeoutLoopLog_round conn count stack with ⟨-, none⟩ | ⟨head, rest, added, next, round⟩
      · rw [none] at resent
        cases resent
      · rw [round.resent] at resent
        rcases List.mem_append.mp resent with now | later
        · split at now
          · rename_i due
            rw [List.mem_singleton.mp now]
            exact due.2
          · cases now
        · exact round.now ▸ ih later

/-- The loop visits all segments of the connection. -/
theorem rdpTimeoutLoopLog_visits {conn : Conn cfg} {count : Nat} {stack : Stack cfg} {unvisited visited : List Packet}
    (items : itemsOf Packet.conn conn.index stack.txQueue.items = unvisited ++ visited)
    (rounds : unvisited.length ≤ count) (member : packet ∈ unvisited)
    (unacked : rdpSeqBefore packet.seqNr conn.rdp.sndUna = false)
    (timedOut : rdpTimedOut conn stack.now packet = true) :
    packet ∈ (rdpTimeoutLoopLog conn count stack).2 := by
  induction count generalizing stack unvisited visited with
  | zero =>
      obtain rfl := List.length_eq_zero_iff.mp (Nat.le_zero.mp rounds)
      cases member
  | succ count ih =>
      obtain ⟨first, others, rfl⟩ := List.exists_cons_of_ne_nil (List.ne_nil_of_mem member)
      rcases rdpTimeoutLoopLog_round conn count stack with ⟨none, -⟩ | ⟨head, rest, added, next, round⟩
      · rw [none] at items
        cases items
      · rw [round.taken, List.cons_append] at items
        obtain ⟨rfl, rfl⟩ := List.cons.inj items
        rw [round.resent]
        rcases List.mem_cons.mp member with rfl | later
        · exact List.mem_append_left _ (by simp [unacked, timedOut])
        · refine List.mem_append_right _ (@ih _ _ (visited ++ added) ?_ ?_ later ?_)
          · rw [round.left, List.append_assoc]
          · exact Nat.le_of_succ_le_succ rounds
          · rw [round.now]
            exact timedOut

theorem mem_resent_iff (serves : ctx.ServesSegments) (awaits : ctx.AwaitsAck packet) :
    packet ∈ (rdpCheckTimeoutsLog ctx).resent ↔ rdpTimedOut ctx.conn ctx.stack.now packet = true := by
  have resent : (rdpCheckTimeoutsLog ctx).resent =
      (rdpTimeoutLoopLog ctx.conn ctx.stack.txQueue.size ctx.stack).2 := by
    obtain ⟨stays, active⟩ := serves
    simp only [rdpCheckTimeoutsLog, if_neg active] at stays ⊢
    split at stays
    · cases stays
    · rename_i idle
      rw [if_neg idle]
  obtain ⟨member, unacked, -⟩ := awaits
  rw [resent]
  constructor
  · exact rdpTimeoutLoopLog_timedOut
  · refine rdpTimeoutLoopLog_visits (List.append_nil _).symm ?_ member unacked
    exact List.length_filter_le _ _

/-- A new connection of a server whose peer asked for a connection timeout of 2^31 milliseconds. -/
def patientPeer : Ctx {} :=
  { openEnd with conn := { openEnd.conn with
      destSocket := some 0, timestamp := openEnd.stack.now
      rdp := { openEnd.conn.rdp with connTimeout := 2 ^ 31 } } }

end Libcsp

/-
This file states what a call on one connection can do to its slot and to the packets of the others.
-/
import Libcsp.ConnMachine
import Libcsp.NodeMachine
import Libcsp.QueueIsolation

namespace Libcsp

variable {cfg : Config}

/-! ## Shared queues -/

/-- A call for one connection adds no packet of another connection to the shared queues. -/
structure Stack.Shrinks (conn : Nat) (stack after : Stack cfg) : Prop where
  tx : SharedQueue.Shrinks Packet.conn conn stack.txQueue.items after.txQueue.items
  rx : SharedQueue.Shrinks Packet.conn conn stack.rxQueue.items after.rxQueue.items

/-- No packet in the shared queues is tagged with the connection. -/
def Stack.Untagged (stack : Stack cfg) (conn : Nat) : Prop :=
  ∀ packet ∈ stack.txQueue.items ++ stack.rxQueue.items, packet.conn ≠ conn

theorem Stack.Shrinks.of_same {conn : Nat} {stack after : Stack cfg}
    (tx : after.txQueue = stack.txQueue) (rx : after.rxQueue = stack.rxQueue) :
    stack.Shrinks conn after := by
  constructor
  · rw [tx]
    exact SharedQueue.Shrinks.refl _
  · rw [rx]
    exact SharedQueue.Shrinks.refl _

theorem Stack.Shrinks.trans {conn : Nat} {first second third : Stack cfg}
    (left : first.Shrinks conn second) (right : second.Shrinks conn third) :
    first.Shrinks conn third := ⟨left.tx.trans right.tx, left.rx.trans right.rx⟩

theorem SharedQueue.Shrinks.untagged {conn other : Nat} {before after : List Packet}
    (shrinks : SharedQueue.Shrinks Packet.conn conn before after) (different : other ≠ conn)
    (untagged : ∀ packet ∈ before, packet.conn ≠ other) : ∀ packet ∈ after, packet.conn ≠ other := by
  intro packet member own
  have none := shrinks other different
  rw [SharedQueue.itemsOf_eq_nil Packet.conn other untagged] at none
  have own : packet ∈ SharedQueue.itemsOf Packet.conn other after :=
    List.mem_filter.mpr ⟨member, by simpa using own⟩
  rw [List.eq_nil_of_suffix_nil none] at own
  exact absurd own List.not_mem_nil

theorem Stack.Untagged.shrinks {conn other : Nat} {stack after : Stack cfg}
    (untagged : stack.Untagged other) (shrinks : stack.Shrinks conn after)
    (different : other ≠ conn) : after.Untagged other := by
  intro packet member
  rcases List.mem_append.mp member with sent | stored
  · exact shrinks.tx.untagged different
      (fun packet member => untagged packet (List.mem_append_left _ member)) packet sent
  · exact shrinks.rx.untagged different
      (fun packet member => untagged packet (List.mem_append_right _ member)) packet stored

theorem Stack.Untagged.of_same {conn : Nat} {stack after : Stack cfg}
    (untagged : stack.Untagged conn) (tx : after.txQueue = stack.txQueue)
    (rx : after.rxQueue = stack.rxQueue) : after.Untagged conn := by
  rw [Stack.Untagged, tx, rx]
  exact untagged

theorem Stack.untagged_of_empty {stack : Stack cfg} (tx : stack.txQueue = .empty)
    (rx : stack.rxQueue = .empty) (conn : Nat) : stack.Untagged conn := by
  rw [Stack.Untagged, tx, rx]
  simp [BoundedQueue.empty]

theorem Stack.shrinks_of_empty {stack after : Stack cfg} (tx : after.txQueue = .empty)
    (rx : after.rxQueue = .empty) (conn : Nat) : stack.Shrinks conn after := by
  constructor
  · rw [tx]
    exact fun other _ => List.nil_suffix
  · rw [rx]
    exact fun other _ => List.nil_suffix

/-- The add functions write the tag of the caller. -/
theorem rdpQueueTxAdd_shrinks (stack : Stack cfg) (conn : Nat) (packet : Packet) :
    stack.Shrinks conn (rdpQueueTxAdd stack conn packet) := by
  by_cases room : stack.txQueue.items.length < cfg.rdpMaxWindow * 2
  · obtain ⟨queue, added, items⟩ := rdpQueueTxAdd_room stack conn packet room
    rw [added]
    refine ⟨?_, SharedQueue.Shrinks.refl _⟩
    rw [show queue.items = _ from items]
    exact (SharedQueue.isolated_snoc (Packet.tagged_owner conn packet)).shrinks
  · rw [rdpQueueTxAdd_full stack conn packet (le_antisymm stack.txQueue.bounded (not_lt.mp room))]
    exact .of_same rfl rfl

theorem rdpQueueRxAdd_shrinks (stack : Stack cfg) (conn : Nat) (packet : Packet) :
    stack.Shrinks conn (rdpQueueRxAdd stack conn packet) := by
  by_cases room : stack.rxQueue.items.length < cfg.rdpMaxWindow * 2
  · obtain ⟨queue, added, items⟩ := rdpQueueRxAdd_room stack conn packet room
    rw [added]
    refine ⟨SharedQueue.Shrinks.refl _, ?_⟩
    rw [show queue.items = _ from items]
    exact (SharedQueue.isolated_snoc (Packet.tagged_owner conn packet)).shrinks
  · rw [rdpQueueRxAdd_full stack conn packet (le_antisymm stack.rxQueue.bounded (not_lt.mp room))]
    exact .of_same rfl rfl

theorem rdpRxQueueAdd_shrinks (stack : Stack cfg) (conn : Nat) (packet : Packet) (seqNr : UInt16) :
    stack.Shrinks conn (rdpRxQueueAdd stack conn packet seqNr).2 := by
  have scan := rdpSeqInRxLoop_scan conn seqNr stack.rxQueue.size stack
  have same := rdpSeqInRxLoop_txQueue conn seqNr stack.rxQueue.size stack
  simp only [rdpRxQueueAdd, rdpSeqInRxQueue]
  generalize rdpSeqInRxLoop conn seqNr stack.rxQueue.size stack = result at scan same
  have searched : stack.Shrinks conn result.2 := by
    constructor
    · rw [same]
      exact SharedQueue.Shrinks.refl _
    · exact scan.shrinks (Packet.tagged_owner conn)
  obtain ⟨_ | _, after⟩ := result
  · exact searched.trans (rdpQueueRxAdd_shrinks after conn packet)
  · exact searched

theorem rdpTimeoutLoop_shrinks (conn : Conn cfg) (count : Nat) (stack : Stack cfg) :
    stack.Shrinks conn.index (rdpTimeoutLoop conn count stack) := by
  constructor
  · exact (rdpTimeoutLoop_scan conn count stack).shrinks (Packet.tagged_owner conn.index)
  · rw [rdpTimeoutLoop_rxQueue]
    exact SharedQueue.Shrinks.refl _

/-! ## Helpers of the state machine -/

/-- The call leaves these fields of its connection and the list of posts as they are. -/
structure Ctx.Keeps (ctx after : Ctx cfg) : Prop where
  index : after.conn.index = ctx.conn.index
  idin : after.conn.idin = ctx.conn.idin
  idout : after.conn.idout = ctx.conn.idout
  connState : after.conn.state = ctx.conn.state
  destSocket : after.conn.destSocket = ctx.conn.destSocket
  rdpState : after.conn.rdp.state = ctx.conn.rdp.state
  closedBy : after.conn.rdp.closedBy = ctx.conn.rdp.closedBy
  posted : after.stack.posted = ctx.stack.posted

/-- The call also adds no packet of another connection to the shared queues. -/
structure Ctx.Serves (ctx after : Ctx cfg) : Prop extends ctx.Keeps after where
  shrinks : ctx.stack.Shrinks ctx.conn.index after.stack

theorem Ctx.Keeps.trans {first second third : Ctx cfg} (left : first.Keeps second)
    (right : second.Keeps third) : first.Keeps third where
  index := right.index.trans left.index
  idin := right.idin.trans left.idin
  idout := right.idout.trans left.idout
  connState := right.connState.trans left.connState
  destSocket := right.destSocket.trans left.destSocket
  rdpState := right.rdpState.trans left.rdpState
  closedBy := right.closedBy.trans left.closedBy
  posted := right.posted.trans left.posted

theorem Ctx.Serves.trans {first second third : Ctx cfg} (left : first.Serves second)
    (right : second.Serves third) : first.Serves third :=
  ⟨left.toKeeps.trans right.toKeeps, left.shrinks.trans (left.index ▸ right.shrinks)⟩

theorem Ctx.Helps.keeps {ctx after : Ctx cfg} (helps : ctx.Helps after) : ctx.Keeps after := by
  obtain ⟨_, _, _, _, _, _, _, _, _, rfl⟩ := helps
  exact ⟨rfl, rfl, rfl, rfl, rfl, rfl, rfl, rfl⟩

theorem Ctx.Serves.of_same {ctx after : Ctx cfg} (keeps : ctx.Keeps after)
    (tx : after.stack.txQueue = ctx.stack.txQueue) (rx : after.stack.rxQueue = ctx.stack.rxQueue) :
    ctx.Serves after := ⟨keeps, .of_same tx rx⟩

theorem Ctx.Serves.refl (ctx : Ctx cfg) : ctx.Serves ctx :=
  .of_same ⟨rfl, rfl, rfl, rfl, rfl, rfl, rfl, rfl⟩ rfl rfl

/-- An answer leaves both shared queues alone. -/
theorem Ctx.Answers.queues {ctx after : Ctx cfg} (answers : ctx.Answers after) :
    after.stack.txQueue = ctx.stack.txQueue ∧ after.stack.rxQueue = ctx.stack.rxQueue := by
  obtain ⟨_, _, _, _, rfl, _⟩ := answers
  exact ⟨rfl, rfl⟩

theorem Ctx.Answers.serves {ctx after : Ctx cfg} (answers : ctx.Answers after) :
    ctx.Serves after := .of_same answers.helps.keeps answers.queues.1 answers.queues.2

theorem rdpSendCmp_serves (ctx : Ctx cfg) (packet : Option Packet) (flags : UInt8)
    (seqNr ackNr : UInt16) : ctx.Serves (rdpSendCmp ctx packet flags seqNr ackNr).2 := by
  obtain ⟨_, _, txQueue, _, _, _, same, _, _, takes⟩ := rdpSendCmp_sends ctx packet flags seqNr ackNr
  rw [same]
  refine ⟨⟨rfl, rfl, rfl, rfl, rfl, rfl, rfl, rfl⟩, ?_, SharedQueue.Shrinks.refl _⟩
  rcases takes with items | ⟨_, copy, own, _, items⟩
  · rw [show txQueue.items = _ from items]
    exact SharedQueue.Shrinks.refl _
  · rw [show txQueue.items = _ from items]
    exact (SharedQueue.isolated_snoc own).shrinks

theorem rdpSendEack_serves (ctx : Ctx cfg) : ctx.Serves (rdpSendEack ctx).2 := by
  refine ⟨(rdpSendEack_receives ctx).helps.keeps, ?_⟩
  rcases rdpSendEack_queues ctx with ⟨_, tx, rx⟩ | ⟨_, tx, scan⟩
  · exact .of_same tx rx
  · constructor
    · rw [tx]
      exact SharedQueue.Shrinks.refl _
    · exact scan.shrinks (Packet.tagged_owner ctx.conn.index)

theorem rdpSendSyn_serves (ctx : Ctx cfg) : ctx.Serves (rdpSendSyn ctx).2 := by
  simp only [rdpSendSyn]
  split
  · exact .of_same ⟨rfl, rfl, rfl, rfl, rfl, rfl, rfl, rfl⟩ rfl rfl
  · rename_i pool _
    have took : ctx.Serves
        { ctx with stack := { ctx.stack with io := { ctx.stack.io with pool } } } :=
      .of_same ⟨rfl, rfl, rfl, rfl, rfl, rfl, rfl, rfl⟩ rfl rfl
    exact took.trans (rdpSendCmp_serves _ _ _ _ _)

theorem rdpFlushEack_serves (ctx : Ctx cfg) (eack : Packet) : ctx.Serves (rdpFlushEack ctx eack) := by
  refine ⟨(rdpFlushEack_helps ctx eack).keeps, ?_⟩
  constructor
  · exact (rdpFlushEackLoop_scan ctx.conn.index ctx.conn.rdp.packetTimeout eack
      ctx.stack.txQueue.size ctx.stack).shrinks (Packet.tagged_owner ctx.conn.index)
  · simp only [rdpFlushEack, rdpFlushEackLoop_rxQueue]
    exact SharedQueue.Shrinks.refl _

theorem rdpRxQueueFlush_serves (ctx : Ctx cfg) : ctx.Serves (rdpRxQueueFlush ctx) := by
  refine ⟨(rdpRxQueueFlush_receives ctx).helps.keeps, ?_⟩
  constructor
  · simp only [rdpRxQueueFlush, rdpRxFlushLoop_txQueue]
    exact SharedQueue.Shrinks.refl _
  · exact (rdpRxFlushLoop_scan _ ctx (Nat.lt_succ_self _)).shrinks (Packet.tagged_owner ctx.conn.index)

theorem rdpRecvData_serves (ctx : Ctx cfg) (header : RdpHeader) (packet : Packet) :
    ctx.Serves (rdpRecvData ctx header packet).ctx := by
  refine ⟨(rdpRecvData_receives ctx header packet).helps.keeps, ?_⟩
  simp only [rdpRecvData]
  split
  · exact .of_same rfl rfl
  · split
    · have added := rdpRxQueueAdd_shrinks ctx.stack ctx.conn.index packet header.seqNr
      generalize rdpRxQueueAdd ctx.stack ctx.conn.index packet header.seqNr = result at added
      obtain ⟨_ | _, after⟩ := result
      · exact added.trans (rdpCheckAck_answers ⟨ctx.conn, after⟩).serves.shrinks
      · exact added.trans (rdpSendEack_serves ⟨ctx.conn, after⟩).shrinks
    · obtain ⟨_, _, received⟩ := rdpReceiveData_changes ctx.conn packet
      generalize rdpReceiveData ctx.conn packet = result at received
      obtain ⟨err, conn, freed⟩ := result
      have index : conn.index = ctx.conn.index := by rw [show conn = _ from received]
      split
      · rename_i same
        cases same
        have flushed := (rdpCheckAck_answers
          ⟨{ conn with rdp.rcvCur := header.seqNr }, ctx.stack⟩).serves.trans (rdpRxQueueFlush_serves _)
        exact index ▸ flushed.shrinks
      · rename_i same
        cases same
        exact .of_same rfl rfl

theorem rdpRecvAcked_serves (ctx : Ctx cfg) (header : RdpHeader) (packet : Packet) :
    ctx.Serves (rdpRecvAcked ctx header packet).ctx := by
  have acked : ctx.Serves { ctx with conn.rdp.sndUna := header.ackNr + 1 } :=
    .of_same ⟨rfl, rfl, rfl, rfl, rfl, rfl, rfl, rfl⟩ rfl rfl
  refine acked.trans ?_
  simp only [rdpRecvAcked]
  split
  · split
    · exact rdpFlushEack_serves _ packet
    · exact Ctx.Serves.refl _
  · exact rdpRecvData_serves _ header packet

/-! ## The state machine on a connection in use -/

/-- The state machine keeps a connection in use, and may post it behind the handshake. -/
inductive Ctx.Moves (ctx : Ctx cfg) : Ctx cfg → Prop where
  | state (state : RdpState) (live : state ≠ .closed)
      (waits : ctx.conn.rdp.state = .closeWait → state = .closeWait) :
      ctx.Moves { ctx with conn.rdp.state := state }
  | post {socket : Nat} {stack : Stack cfg} (received : ctx.conn.rdp.state = .synRcvd)
      (waits : ctx.conn.destSocket = some socket)
      (posted : ctx.stack.post socket ctx.conn.index = some stack) :
      ctx.Moves { conn := { ctx.conn with destSocket := none, rdp.state := .open }, stack }

/-- A branch moves the connection, and then works for it. -/
def Ctx.GoesOn (ctx after : Ctx cfg) : Prop := ∃ moved, ctx.Moves moved ∧ moved.Serves after

/-- The protocol and the timeout are the only parties for which the state machine closes. -/
def RdpExit.ByProtocol : RdpExit → Prop
  | .discardClose closedBy =>
      closedBy = rdpClosedByProtocol ∨ closedBy = rdpClosedByProtocol ||| rdpClosedByTimeout
  | .discardOpen closeConnection => closeConnection = false
  | .acceptedOpen => True

theorem Ctx.Serves.goesOn {ctx after : Ctx cfg} (serves : ctx.Serves after)
    (live : ctx.conn.rdp.state ≠ .closed) : ctx.GoesOn after :=
  ⟨ctx, .state ctx.conn.rdp.state live id, serves⟩

theorem rdpRstAck_serves (ctx : Ctx cfg) (header : RdpHeader) :
    ctx.Serves (rdpRstAck ctx header) := by
  unfold rdpRstAck
  split
  · exact .of_same ⟨rfl, rfl, rfl, rfl, rfl, rfl, rfl, rfl⟩ rfl rfl
  · exact Ctx.Serves.refl ctx

/-- A change of the state and of the timestamp is a move. -/
theorem Ctx.Serves.enterCloseWait {ctx before after : Ctx cfg} (serves : ctx.Serves before)
    (sends : Ctx.Serves
      { before with
        conn := { before.conn with rdp.state := .closeWait, timestamp := before.stack.now } } after) :
    ctx.GoesOn after := by
  have entered : Ctx.Serves { ctx with conn.rdp.state := .closeWait }
      { before with
        conn := { before.conn with rdp.state := .closeWait, timestamp := before.stack.now } } :=
    ⟨⟨serves.index, serves.idin, serves.idout, serves.connState, serves.destSocket, rfl,
      serves.closedBy, serves.posted⟩, serves.shrinks⟩
  exact ⟨_, .state _ (by simp) fun _ => rfl, entered.trans sends⟩

/-- A post of the semaphore keeps all these fields. -/
theorem Ctx.Serves.wake {ctx after : Ctx cfg} (serves : ctx.Serves after) (txWait : Bool) :
    ctx.Serves { after with conn.rdp.txWait := txWait } :=
  ⟨⟨serves.index, serves.idin, serves.idout, serves.connState, serves.destSocket, serves.rdpState,
    serves.closedBy, serves.posted⟩, serves.shrinks⟩

theorem rdpRecvRst_goesOn (ctx : Ctx cfg) (header : RdpHeader) (packet : Packet)
    (live : ctx.conn.rdp.state ≠ .closed) :
    (rdpRecvRst ctx header packet).exit.ByProtocol ∧
      ctx.GoesOn (rdpRecvRst ctx header packet).ctx := by
  have acked := rdpRstAck_serves ctx header
  have live' := acked.rdpState ▸ live
  simp only [rdpRecvRst]
  generalize rdpRstAck ctx header = before at acked live'
  split
  · rename_i closed
    exact absurd closed live'
  · refine ⟨?_, acked.goesOn live⟩
    unfold RdpExit.ByProtocol
    split_ifs
    · exact .inr rfl
    · exact .inl rfl
  · split
    · exact ⟨.inr rfl, acked.enterCloseWait (rdpSendCmp_serves _ _ _ _ _)⟩
    · exact ⟨rfl, acked.goesOn live⟩

theorem rdpRecvSynSent_goesOn (ctx : Ctx cfg) (header : RdpHeader) (packet : Packet)
    (sent : ctx.conn.rdp.state = .synSent) :
    (rdpRecvSynSent ctx header packet).exit.ByProtocol ∧
      ctx.GoesOn (rdpRecvSynSent ctx header packet).ctx := by
  have live : ctx.conn.rdp.state ≠ .closed := by simp [sent]
  simp only [rdpRecvSynSent]
  split
  · refine ⟨rfl, { ctx with conn.rdp.state := .open },
      .state _ (by simp) fun waits => absurd (sent.symm.trans waits) (by simp), ?_⟩
    have opened : Ctx.Serves { ctx with conn.rdp.state := .open }
        { ctx with conn.rdp := { ctx.conn.rdp with
          rcvCur := header.seqNr
          rcvIrs := header.seqNr
          rcvLsa := header.seqNr - 1
          sndUna := header.ackNr + 1
          ackTimestamp := ctx.stack.now
          state := .open } } :=
      .of_same ⟨rfl, rfl, rfl, rfl, rfl, rfl, rfl, rfl⟩ rfl rfl
    exact (opened.trans (rdpSendCmp_serves _ _ _ _ _)).wake true
  · split
    · exact ⟨rfl, ((rdpSendCmp_serves _ _ _ _ _).wake true).goesOn live⟩
    · exact ⟨.inl rfl, (Ctx.Serves.refl ctx).goesOn live⟩

/-- The acknowledgement of the SYN moves the connection, unless its accept queue is full. -/
theorem rdpOpenServer_moves (ctx : Ctx cfg) (received : ctx.conn.rdp.state = .synRcvd) :
    ctx.Moves (rdpOpenServer ctx).2 := by
  have opens : ctx.Moves { ctx with conn.rdp.state := .open } :=
    .state _ (by simp) fun waits => absurd (received.symm.trans waits) (by simp)
  simp only [rdpOpenServer]
  split
  · exact opens
  · rename_i socket waits
    split
    · exact opens
    · rename_i stack posted
      exact .post received waits posted

theorem rdpRecvOpen_goesOn (ctx : Ctx cfg) (header : RdpHeader) (packet : Packet)
    (live : ctx.conn.rdp.state ≠ .closed) :
    (rdpRecvOpen ctx header packet).exit.ByProtocol ∧
      ctx.GoesOn (rdpRecvOpen ctx header packet).ctx := by
  have stays : ctx.GoesOn ctx := (Ctx.Serves.refl ctx).goesOn live
  have byProtocol : ∀ other : Ctx cfg, (rdpRecvAcked other header packet).exit.ByProtocol := by
    intro other
    simp only [rdpRecvAcked, rdpRecvData]
    repeat' split
    all_goals trivial
  simp only [rdpRecvOpen]
  split
  · split
    · exact ⟨.inl rfl, stays⟩
    · exact ⟨rfl, stays⟩
  · split
    · refine ⟨rfl, ?_⟩
      split
      · exact (rdpSendCmp_serves _ _ _ _ _).goesOn live
      · exact (rdpSendEack_serves ctx).goesOn live
    · split
      · exact ⟨rfl, stays⟩
      · split
        · rename_i received
          split
          · exact ⟨.inl rfl, stays⟩
          · have moves := rdpOpenServer_moves ctx received
            generalize rdpOpenServer ctx = result at moves
            obtain ⟨_ | _, moved⟩ := result
            · exact ⟨.inl rfl, moved, moves, Ctx.Serves.refl moved⟩
            · exact ⟨byProtocol moved, moved, moves, rdpRecvAcked_serves moved header packet⟩
        · exact ⟨byProtocol ctx, (rdpRecvAcked_serves ctx header packet).goesOn live⟩

theorem rdpRecvCloseWait_goesOn (ctx : Ctx cfg) (header : RdpHeader) (packet : Packet)
    (live : ctx.conn.rdp.state ≠ .closed) :
    (rdpRecvCloseWait ctx header packet).exit.ByProtocol ∧
      ctx.GoesOn (rdpRecvCloseWait ctx header packet).ctx := by
  have stays : ctx.GoesOn ctx := (Ctx.Serves.refl ctx).goesOn live
  simp only [rdpRecvCloseWait]
  split
  · exact ⟨rfl, stays⟩
  · split
    · exact ⟨rfl, stays⟩
    · have acked : ctx.Serves { ctx with conn.rdp.sndUna := header.ackNr + 1 } :=
        .of_same ⟨rfl, rfl, rfl, rfl, rfl, rfl, rfl, rfl⟩ rfl rfl
      exact ⟨rfl, (acked.trans (rdpSendCmp_serves _ _ _ _ _)).goesOn live⟩

/-- On a connection in use, the state machine moves it and closes it at most for the protocol. -/
theorem rdpNewPacketBody_goesOn (ctx : Ctx cfg) (packet : Packet)
    (live : ctx.conn.rdp.state ≠ .closed) :
    (rdpNewPacketBody ctx packet).exit.ByProtocol ∧
      ctx.GoesOn (rdpNewPacketBody ctx packet).ctx := by
  simp only [rdpNewPacketBody]
  split
  · exact rdpRecvRst_goesOn ctx _ _ live
  · split
    · rename_i closed
      exact absurd closed live
    · rename_i sent
      exact rdpRecvSynSent_goesOn ctx _ _ sent
    · exact rdpRecvOpen_goesOn ctx _ _ live
    · exact rdpRecvOpen_goesOn ctx _ _ live
    · exact rdpRecvCloseWait_goesOn ctx _ _ live

/-! ## The state machine on an unused RDP part -/

/-- The call leaves both shared queues as they are. -/
structure Ctx.Rests (ctx after : Ctx cfg) : Prop extends ctx.Keeps after where
  txQueue : after.stack.txQueue = ctx.stack.txQueue
  rxQueue : after.stack.rxQueue = ctx.stack.rxQueue

theorem Ctx.Answers.rests {ctx after : Ctx cfg} (answers : ctx.Answers after) : ctx.Rests after :=
  ⟨answers.helps.keeps, answers.queues.1, answers.queues.2⟩

theorem Ctx.Rests.serves {ctx after : Ctx cfg} (rests : ctx.Rests after) : ctx.Serves after :=
  .of_same rests.toKeeps rests.txQueue rests.rxQueue

theorem Ctx.Rests.free {ctx after : Ctx cfg} (rests : ctx.Rests after) (packet : Packet) :
    ctx.Rests (after.free packet) :=
  ⟨⟨rests.index, rests.idin, rests.idout, rests.connState, rests.destSocket, rests.rdpState,
    rests.closedBy, rests.posted⟩, rests.txQueue, rests.rxQueue⟩

theorem Ctx.Serves.free {ctx after : Ctx cfg} (serves : ctx.Serves after) (packet : Packet) :
    ctx.Serves (after.free packet) :=
  ⟨⟨serves.index, serves.idin, serves.idout, serves.connState, serves.destSocket, serves.rdpState,
    serves.closedBy, serves.posted⟩, serves.shrinks.tx, serves.shrinks.rx⟩

/-- Without a SYN, the state RDP_CLOSED stays, and nothing enters a shared queue. -/
theorem rdpNewPacketBody_rests (ctx : Ctx cfg) (packet : Packet)
    (closed : ctx.conn.rdp.state = .closed)
    (noSyn : packet.hasRdp rdpRst = true ∨ packet.hasRdp rdpSyn = false) :
    ((rdpNewPacketBody ctx packet).exit = .discardOpen ctx.conn.destSocket.isSome ∧
          packet.hasRdp rdpRst = true ∨
        (rdpNewPacketBody ctx packet).exit = .discardClose rdpClosedByProtocol ∧
          packet.hasRdp rdpRst = false) ∧
      ctx.Rests (rdpNewPacketBody ctx packet).ctx := by
  simp only [rdpNewPacketBody]
  split
  · rename_i reset
    have acked : ctx.Rests (rdpRstAck ctx packet.header) := by
      unfold rdpRstAck
      split <;> exact ⟨⟨rfl, rfl, rfl, rfl, rfl, rfl, rfl, rfl⟩, rfl, rfl⟩
    simp only [rdpRecvRst, acked.rdpState, closed]
    exact ⟨.inl ⟨by rw [acked.destSocket], reset⟩, acked⟩
  · rename_i noReset
    have noReset : packet.hasRdp rdpRst = false := Bool.eq_false_iff.mpr noReset
    have plain : packet.header.has rdpSyn = false :=
      noSyn.resolve_left (by simp [noReset])
    simp only [closed, rdpRecvClosed, plain, Bool.not_false, if_true]
    exact ⟨.inr ⟨trivial, noReset⟩, (rdpSendCmp_answers ctx none _ _ (by decide) (.inl rfl)).rests⟩

/-- A SYN starts the handshake. -/
theorem rdpNewPacketBody_syn (ctx : Ctx cfg) (packet : Packet)
    (closed : ctx.conn.rdp.state = .closed) (syn : packet.hasRdp rdpSyn = true)
    (noReset : packet.hasRdp rdpRst = false) :
    (rdpNewPacketBody ctx packet).exit = .discardOpen false ∧
      Ctx.Serves { ctx with conn.rdp.state := .synRcvd } (rdpNewPacketBody ctx packet).ctx := by
  have syn : packet.header.has rdpSyn = true := syn
  have noReset : packet.header.has rdpRst = false := noReset
  have body : rdpNewPacketBody ctx packet = rdpRecvClosed ctx packet.header (rdpHeaderToHost packet) := by
    simp only [rdpNewPacketBody, noReset, closed, Bool.false_eq_true, if_false]
  rw [body, rdpRecvClosed, syn]
  refine ⟨rfl, Ctx.Serves.trans ?_ (rdpSendCmp_serves _ _ _ _ _)⟩
  exact .of_same ⟨rfl, rfl, rfl, rfl, rfl, rfl, rfl, rfl⟩ rfl rfl

/-! ## Close -/

/-- The slot of an RDP connection is free again. -/
structure Ctx.Releases (ctx after : Ctx cfg) : Prop where
  index : after.conn.index = ctx.conn.index
  connState : after.conn.state = .closed
  destSocket : after.conn.destSocket = ctx.conn.destSocket
  rdpState : after.conn.rdp.state = .closed
  closedBy : after.conn.rdp.closedBy = 0 ∨
    ctx.conn.rdp.state = .closed ∧ after.conn.rdp.closedBy = ctx.conn.rdp.closedBy
  posted : after.stack.posted = ctx.stack.posted
  txQueue : after.stack.txQueue = .empty
  rxQueue : after.stack.rxQueue = .empty

/-- The close of an RDP connection waits for the other parties, or releases the slot. -/
theorem connClose_rdp (ctx : Ctx cfg) (closedBy : UInt8) (openRdp : ctx.OpenRdp) :
    (ctx.conn.rdp.state ≠ .closed ∧ ctx.conn.rdp.closedBy ||| closedBy ≠ rdpClosedByAll ∧
        Ctx.Rests
          { ctx with
            conn.rdp.state := .closeWait
            conn.rdp.closedBy := ctx.conn.rdp.closedBy ||| closedBy }
          (connClose ctx closedBy)) ∨
      ((ctx.conn.rdp.state = .closed ∨ ctx.conn.rdp.closedBy ||| closedBy = rdpClosedByAll) ∧
        ctx.Releases (connClose ctx closedBy)) := by
  rcases connClose_cases ctx closedBy with ⟨closed, _⟩ |
    ⟨_, ⟨_, live, others, _, _, _, _, _, _, same⟩ |
      ⟨_, last, ⟨_, ⟨_, _, _, _, _, _, _, _, _, same⟩, by'⟩, flushed⟩ | ⟨plain, _⟩⟩
  · rw [openRdp.connState] at closed
    cases closed
  · rw [same]
    exact .inl ⟨live, others, ⟨rfl, rfl, rfl, rfl, rfl, rfl, rfl, rfl⟩, rfl, rfl⟩
  · obtain ⟨tx, rx⟩ := flushed openRdp.rdp
    refine .inr ⟨last, ?_⟩
    refine ⟨?_, ?_, ?_, ?_, ?_, ?_, tx, rx⟩
    · rw [same]
    · rw [same]
    · rw [same]
    · rw [same]
    · rw [same]
      exact by'
    · rw [same]
  · rw [openRdp.uses] at plain
    cases plain

/-- The close of a connection without RDP releases the slot at once. -/
theorem connClose_plain (ctx : Ctx cfg) (closedBy : UInt8) (uses : ctx.conn.usesRdp = false) :
    Ctx.Rests { ctx with conn.state := .closed } (connClose ctx closedBy) := by
  rcases connClose_cases ctx closedBy with ⟨closed, same⟩ | ⟨_, ⟨rdp, _⟩ | ⟨rdp, _⟩ | ⟨_, same⟩⟩
  · rw [same]
    exact ⟨⟨rfl, rfl, rfl, closed, rfl, rfl, rfl, rfl⟩, rfl, rfl⟩
  · rw [uses] at rdp
    cases rdp
  · rw [uses] at rdp
    cases rdp
  · rw [same]
    have noRdp : ctx.conn.idin.has cspFRdp = false := (Bool.or_eq_false_iff.mp uses).1
    simp only [connRelease, connFlushRxQueue, noRdp]
    exact ⟨⟨rfl, rfl, rfl, rfl, rfl, rfl, rfl, rfl⟩, rfl, rfl⟩

/-- A free slot stays as it is. -/
theorem connClose_closed (ctx : Ctx cfg) (closedBy : UInt8) (closed : ctx.conn.state = .closed) :
    connClose ctx closedBy = ctx := by
  rw [connClose, if_pos closed]

/-! ## Timers and calls of userspace -/

theorem rdpTimeoutOpen_serves (ctx : Ctx cfg) : ctx.Serves (rdpTimeoutOpen ctx) := by
  have acked := (rdpCheckAck_answers ctx).serves
  simp only [rdpTimeoutOpen]
  split
  · split
    · split
      · exact acked.wake true
      · exact acked
    · split
      · exact (Ctx.Serves.refl ctx).wake true
      · exact Ctx.Serves.refl ctx
  · exact Ctx.Serves.refl ctx

/-- The part of `csp_rdp_check_timeouts` behind the checks of the connection timeout. -/
theorem rdpTimeoutPackets_serves (ctx : Ctx cfg) :
    ctx.Serves (rdpRxQueueFlush (rdpTimeoutOpen
      { ctx with stack := rdpTimeoutLoop ctx.conn ctx.stack.txQueue.size ctx.stack })) := by
  have resent : ctx.Serves
      { ctx with stack := rdpTimeoutLoop ctx.conn ctx.stack.txQueue.size ctx.stack } := by
    refine ⟨?_, rdpTimeoutLoop_shrinks ctx.conn ctx.stack.txQueue.size ctx.stack⟩
    obtain ⟨_, _, same⟩ := rdpTimeoutLoop_changes ctx.conn ctx.stack.txQueue.size ctx.stack
    rw [same]
    exact ⟨rfl, rfl, rfl, rfl, rfl, rfl, rfl, rfl⟩
  exact (resent.trans (rdpTimeoutOpen_serves _)).trans (rdpRxQueueFlush_serves _)

theorem rdpSend_serves (ctx : Ctx cfg) (packet : Packet) : ctx.Serves (rdpSend ctx packet).2.2 := by
  simp only [rdpSend]
  split
  · exact Ctx.Serves.refl ctx
  · split
    · exact (Ctx.Serves.refl ctx).wake false
    · simp only [rdpSendSegment]
      split
      · exact Ctx.Serves.refl ctx
      · split
        · exact .of_same ⟨rfl, rfl, rfl, rfl, rfl, rfl, rfl, rfl⟩ rfl rfl
        · rename_i pool _
          have added := fun packet => rdpQueueTxAdd_shrinks
            { ctx.stack with io := { ctx.stack.io with pool } } ctx.conn.index packet
          exact ⟨⟨rfl, rfl, rfl, rfl, rfl, rfl, rfl, rfl⟩, (added _).tx, (added _).rx⟩

/-- The output path is no part of a connection. -/
theorem Ctx.Serves.setIo {ctx after : Ctx cfg} (serves : ctx.Serves after) (io : Io cfg) :
    ctx.Serves { after with stack := { after.stack with io } } :=
  ⟨⟨serves.index, serves.idin, serves.idout, serves.connState, serves.destSocket, serves.rdpState,
    serves.closedBy, serves.posted⟩, serves.shrinks.tx, serves.shrinks.rx⟩

theorem cspSend_serves (ctx : Ctx cfg) (packet : Packet) :
    ctx.Serves (cspSend ctx (some packet)) := by
  have sent := rdpSend_serves ctx packet
  simp only [cspSend]
  split
  · exact (Ctx.Serves.refl ctx).free packet
  · split
    · generalize rdpSend ctx packet = result at sent
      obtain ⟨err, framed, after⟩ := result
      split
      · rename_i same
        cases same
        exact sent.setIo _
      · rename_i same
        cases same
        exact sent.free _
    · exact (Ctx.Serves.refl ctx).setIo _

/-- Without RDP, or on a free slot, a send touches no shared queue. -/
theorem cspSend_rests (ctx : Ctx cfg) (packet : Packet)
    (idle : ctx.conn.state ≠ .open ∨ ctx.conn.idout.has cspFRdp = false) :
    ctx.Rests (cspSend ctx (some packet)) := by
  simp only [cspSend]
  split
  · exact ⟨⟨rfl, rfl, rfl, rfl, rfl, rfl, rfl, rfl⟩, rfl, rfl⟩
  · rename_i inUse
    rw [not_not] at inUse
    rw [if_neg (by simpa [inUse] using idle)]
    exact ⟨⟨rfl, rfl, rfl, rfl, rfl, rfl, rfl, rfl⟩, rfl, rfl⟩

theorem cspRead_rests (ctx : Ctx cfg) : ctx.Rests (cspRead ctx).2 := by
  simp only [cspRead]
  split
  · exact ⟨⟨rfl, rfl, rfl, rfl, rfl, rfl, rfl, rfl⟩, rfl, rfl⟩
  · split
    · exact ⟨⟨rfl, rfl, rfl, rfl, rfl, rfl, rfl, rfl⟩, rfl, rfl⟩
    · rename_i rxQueue _
      split
      · have acked := (rdpCheckAck_answers
          ⟨{ ctx.conn with rxQueue }, ctx.stack⟩).rests
        exact ⟨⟨acked.index, acked.idin, acked.idout, acked.connState, acked.destSocket,
          acked.rdpState, acked.closedBy, acked.posted⟩, acked.txQueue, acked.rxQueue⟩
      · exact ⟨⟨rfl, rfl, rfl, rfl, rfl, rfl, rfl, rfl⟩, rfl, rfl⟩

/-! ## New connections and the router -/

theorem connSearch_closed {conns : Nat → Conn cfg} {count last slot : Nat}
    (found : connSearch conns count last = some slot) : (conns slot).state = .closed := by
  induction count generalizing last with
  | zero => simp [connSearch] at found
  | succ count ih =>
      simp only [connSearch] at found
      split at found
      · rename_i free
        rw [← Option.some.inj found]
        exact free
      · exact ih found

/-- The slot of a new connection has these headers, and keeps its place and its RDP part. -/
structure Conn.Allocated (old new : Conn cfg) (idin idout : CspId) : Prop where
  free : old.state = .closed
  inUse : new.state = .open
  index : new.index = old.index
  rdp : new.rdp = old.rdp
  idin : new.idin = idin
  idout : new.idout = idout

/-- The slot takes a new connection, to which userspace has no handle yet. -/
def Node.allocate (node : Node cfg) (slot : Nat) (conn : Conn cfg) (io : Io cfg) (lastGiven : UInt8) :
    Node cfg :=
  { node with
    conns := Function.update node.conns slot conn
    stack.io := io
    lastGiven
    held := Function.update node.held slot false
    waiting := Function.update node.waiting slot none }

theorem Node.allocate_conns (node : Node cfg) (slot : Nat) (conn : Conn cfg) (io : Io cfg)
    (lastGiven : UInt8) : (node.allocate slot conn io lastGiven).conns slot = conn :=
  Function.update_self _ _ _

/-- A new connection changes one free slot. -/
theorem connNew_cases (node : Node cfg) (idin idout : CspId) (type : ConnType) :
    connNew node idin idout type = (none, node) ∨
      ∃ slot conn io lastGiven,
        connNew node idin idout type = (some slot, node.allocate slot conn io lastGiven) ∧
          (node.conns slot).Allocated conn idin idout := by
  simp only [connNew, connAllocate]
  cases found : connSearch node.conns cfg.connMax node.lastGiven.toNat with
  | none => exact .inl rfl
  | some slot =>
      simp only [Node.put, Slots.put, Slots.ctx, Function.update_self, Function.update_idem,
        connFlushRxQueue, if_true]
      exact .inr ⟨slot, _, _, _, rfl, connSearch_closed found, rfl, rfl, rfl, rfl, rfl⟩

/-- Each end of `csp_connect` stores the slot anew. -/
theorem connectReturns_update (node : Node cfg) (slot : Nat) (conn : Conn cfg) (retry : Bool)
    (result : Option CspErr × Ctx cfg) :
    connectReturns { node with conns := Function.update node.conns slot conn } slot retry result =
      connectReturns node slot retry result := by
  unfold connectReturns
  split
  all_goals simp only [Node.put, Slots.put, Function.update_idem]

/-- A connect opens a client connection in a free slot, with RDP in both headers or in none. -/
theorem cspConnect_cases (node : Node cfg) (prio : UInt8) (dest : UInt16) (dport : UInt8)
    (opts : UInt32) :
    cspConnect node prio dest dport opts = node ∨
      ∃ slot conn io lastGiven idin idout, (node.conns slot).Allocated conn idin idout ∧
        idin.has cspFRdp = idout.has cspFRdp ∧ conn.destSocket = none ∧
        cspConnect node prio dest dport opts =
          if idin.has cspFRdp then
            connectReturns (node.allocate slot conn io lastGiven) slot true
              (rdpConnectStart ((node.allocate slot conn io lastGiven).ctx slot))
          else (node.allocate slot conn io lastGiven).setHeld slot true := by
  simp only [cspConnect]
  generalize connectOpts node.connDflSo opts = opts
  generalize connectFlags opts = flags
  rcases connNew_cases node
      { pri := prio, flags, src := dest, dst := 0, dport := 0, sport := dport }
      { pri := prio, flags, src := 0, dst := dest, dport, sport := 0 } .client with none |
    ⟨slot, conn, io, lastGiven, new, allocated⟩
  · rw [none]
    exact .inl rfl
  · rw [new]
    simp only [Node.allocate, Function.update_self]
    refine .inr ⟨slot, { conn with
      idout.sport := conn.sportOutgoing
      idin.dport := conn.sportOutgoing
      destSocket := none
      opts }, io, lastGiven, _, _, ⟨allocated.free, allocated.inUse, allocated.index, allocated.rdp,
        rfl, rfl⟩, ?_, rfl, ?_⟩
    · rw [allocated.idin, allocated.idout]
      rfl
    · have rdp : CspId.has { conn.idin with dport := conn.sportOutgoing } cspFRdp =
          (flags &&& cspFRdp != 0) := by
        rw [allocated.idin]
        rfl
      rw [rdp]
      simp only [Slots.ctx, Function.update_self]
      split
      · exact (connectReturns_update { node with
          stack.io := io
          lastGiven
          held := Function.update node.held slot false
          waiting := Function.update node.waiting slot none } slot conn true _).trans
            (connectReturns_update _ slot _ true _).symm
      · simp only [Node.put, Slots.put, Function.update_idem, if_true]

/-- The router is done with a packet, hands it to a connection, or opens one for it. -/
inductive Node.Routes (node : Node cfg) : Routed cfg → Prop where
  | done (io : Io cfg) (sockets : Nat → Socket cfg) (dedup : Dedup) (calledBack : List Packet) :
      node.Routes (.done { node with stack.io := io, stack.sockets := sockets, dedup, calledBack })
  | found (io : Io cfg) (dedup : Dedup) {slot : Nat} (packet : Packet)
      (inUse : (node.conns slot).state = .open) :
      node.Routes (.deliver { node with stack.io := io, dedup } slot packet)
  | opened (io : Io cfg) (dedup : Dedup) (lastGiven : UInt8) {slot : Nat} {conn : Conn cfg}
      (packet : Packet) (allocated : (node.conns slot).Allocated conn packet.id (answerId packet.id))
      (waits : conn.destSocket ≠ none) :
      node.Routes (.deliver { node.allocate slot conn io lastGiven with dedup } slot packet)

theorem Node.Routes.of_io {node : Node cfg} {io : Io cfg} {dedup : Dedup} {routed : Routed cfg}
    (routes : Node.Routes { node with stack.io := io, dedup } routed) : node.Routes routed := by
  cases routes with
  | done io sockets dedup calledBack => exact .done io sockets dedup calledBack
  | found io dedup packet inUse => exact .found io dedup packet inUse
  | opened io dedup lastGiven packet allocated waits =>
      exact .opened io dedup lastGiven packet allocated waits

theorem connFindExisting_open {node : Node cfg} {id : CspId} {slot : Nat}
    (found : connFindExisting node id = some slot) : (node.conns slot).state = .open := by
  have accepts := List.find?_some found
  simp only [Conn.accepts, Bool.and_eq_true, beq_iff_eq] at accepts
  exact accepts.1.1

theorem routeConnection_routes (node : Node cfg) (socket : Option Nat) (packet : Packet) :
    node.Routes (routeConnection node socket packet) := by
  have freed : ∀ packet : Packet, node.Routes (.done (node.free packet)) := fun packet =>
    .done _ _ _ _
  simp only [routeConnection]
  split
  · rename_i slot existing
    split
    · exact .found _ _ _ (connFindExisting_open existing)
    · exact freed _
  · split
    · exact freed _
    · rename_i socket
      split
      · rename_i checked _
        rcases connNew_cases node checked.id (answerId checked.id) .server with none |
          ⟨slot, conn, io, lastGiven, new, allocated⟩
        · rw [none]
          exact freed _
        · rw [new]
          simp only [Node.allocate, Function.update_self, Function.update_idem]
          exact .opened io node.dedup lastGiven checked
            ⟨allocated.free, allocated.inUse, allocated.index, allocated.rdp, allocated.idin,
              allocated.idout⟩ (by simp)
      · exact freed _

theorem routeConnless_routes (node : Node cfg) (socket : Nat) (packet : Packet) :
    node.Routes (.done (routeConnless node socket packet)) := by
  simp only [routeConnless]
  split
  · split
    · exact .done _ _ _ _
    · exact .done _ _ _ _
  · exact .done _ _ _ _

theorem routeLocal_routes (node : Node cfg) (packet : Packet) :
    node.Routes (routeLocal node packet) := by
  simp only [routeLocal]
  split
  · split
    · exact .done _ _ _ _
    · exact .done _ _ _ _
  · split
    · exact routeConnless_routes node _ packet
    · exact routeConnection_routes node _ packet

/-- The router changes at most the slot of a new connection. -/
theorem routeInput_routes (node : Node cfg) (ingress : Nat) (packet : Packet) :
    node.Routes (routeInput node ingress packet) := by
  have checked : ∀ (io : Io cfg) (dedup : Dedup) (packet : Packet) (toMe : Bool),
      node.Routes (routeChecked { node with stack.io := io, dedup } ingress packet toMe) := by
    intro io dedup packet toMe
    refine @Node.Routes.of_io cfg node io dedup _ ?_
    simp only [routeChecked]
    split
    · exact routeLocal_routes _ packet
    · exact .done _ _ _ _
  simp only [routeInput]
  split
  · split
    · exact .done _ _ _ _
    · exact checked _ _ _ _
  · exact checked _ _ _ _

end Libcsp

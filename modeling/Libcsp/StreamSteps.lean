/-
This file states what each call does to one end of a stream of RDP segments.
-/
import Libcsp.Acknowledge

namespace Libcsp

variable {cfg : Config} {ctx middle after : Ctx cfg}

/-! ## Segments with an acknowledgement -/

/-- The packet has an RDP header with the flag ACK only. Without a body it is a bare acknowledgement. -/
def Packet.IsAcked (packet : Packet) (seqNr ackNr : UInt16) (body : List UInt8) : Prop :=
  ∃ counter : UInt8, packet.Carries (counter <<< 4 ||| rdpAck) seqNr ackNr body

theorem Packet.IsAcked.of_data {packet : Packet} {seqNr ackNr : UInt16} {body : List UInt8}
    (carries : packet.Carries rdpAck seqNr ackNr body) : packet.IsAcked seqNr ackNr body := ⟨0, carries⟩

theorem Packet.IsAcked.of_sameBytes {packet sent : Packet} {seqNr ackNr : UInt16} {body : List UInt8}
    (acked : sent.IsAcked seqNr ackNr body) (same : packet.SameBytes sent) : packet.IsAcked seqNr ackNr body := by
  obtain ⟨counter, carries⟩ := acked
  have long : rdpHeaderSize ≤ packet.length.toNat := by
    rw [same.1, carries.length]
    exact Nat.le_add_left _ _
  have segment := same.sameSegment long
  refine ⟨counter, ?_, ?_, ?_, ?_, ?_⟩
  · rw [same.1, carries.length]
  · rw [segment.flags, carries.flags]
  · rw [segment.seqNr, carries.seqNr]
  · rw [same.ackNr long, carries.ackNr]
  · rw [segment.body, carries.body]

/-- The length tells whether the packet has data. -/
theorem Packet.IsAcked.long_iff {packet : Packet} {seqNr ackNr : UInt16} {body : List UInt8}
    (acked : packet.IsAcked seqNr ackNr body) : packet.length.toNat ≤ rdpHeaderSize ↔ body = [] := by
  obtain ⟨_, carries⟩ := acked
  rw [carries.length, ← List.length_eq_zero_iff]
  omega

/-- Only the sequence number and the acknowledgement decide on such a packet in RDP_OPEN. -/
theorem rdpNewPacketBody_acked {packet : Packet} {seqNr ackNr : UInt16} {body : List UInt8}
    (opened : ctx.conn.rdp.state = .open) (acked : packet.IsAcked seqNr ackNr body)
    (inWindow : rdpSeqValid ctx.conn.rdp seqNr = true) (valid : rdpAckValid ctx.conn.rdp ackNr = true) :
    rdpNewPacketBody ctx packet =
      rdpRecvData { ctx with conn.rdp.sndUna := ackNr + 1 } packet.header (rdpHeaderToHost packet) := by
  obtain ⟨counter, carries⟩ := acked
  have header : packet.header.has rdpRst = false ∧ packet.header.has rdpSyn = false ∧
      packet.header.has rdpAck = true ∧ packet.header.has rdpEak = false := by
    refine ⟨?_, ?_, ?_, ?_⟩
    · exact carries.hasRdp (.inl rfl)
    · exact carries.hasRdp (.inr (.inr (.inr rfl)))
    · exact carries.hasRdp (.inr (.inr (.inl rfl)))
    · exact carries.hasRdp (.inr (.inl rfl))
  have number : packet.header.seqNr = seqNr := carries.seqNr
  have answer : packet.header.ackNr = ackNr := carries.ackNr
  have notRcvd : ctx.conn.rdp.state ≠ .synRcvd := by
    rw [opened]
    decide
  simp only [rdpNewPacketBody, rdpRecvOpen, rdpRecvAcked, header, opened, number, answer, inWindow, valid,
    reduceCtorEq, Bool.not_true, Bool.or_self, Bool.false_eq_true, if_false]

/-! ## One end -/

/-- Userspace has the open connection, and no other connection of the node stores RDP segments. -/
structure Ctx.Flows (ctx : Ctx cfg) : Prop where
  connState : ctx.conn.state = .open
  opened : ctx.conn.rdp.state = .open
  idin : ctx.conn.idin.has cspFRdp = true
  idout : ctx.conn.idout.has cspFRdp = true
  handed : ctx.conn.destSocket = none
  ownTx : ctx.OwnsTx
  stored : ctx.stack.rxQueue.items = []

/-- The call sends nothing, and it changes of the connection only the semaphore. -/
def Ctx.Idles (ctx after : Ctx cfg) : Prop :=
  ∃ io rdpIncr txQueue txWait,
    after = { conn := { ctx.conn with rdp.txWait := txWait }, stack := { ctx.stack with io, rdpIncr, txQueue } } ∧
      io.outbox = ctx.stack.io.outbox ∧ ∀ packet ∈ txQueue.items, packet.conn = ctx.conn.index

/-- The call sends one acknowledgement of all that was delivered. -/
def Ctx.Acks (ctx after : Ctx cfg) : Prop :=
  ∃ io rdpIncr txQueue txWait ackTimestamp id packet,
    after =
        { conn := { ctx.conn with
            rdp.txWait := txWait, rdp.rcvLsa := ctx.conn.rdp.rcvCur, rdp.ackTimestamp := ackTimestamp }
          stack := { ctx.stack with io, rdpIncr, txQueue } } ∧
      io.outbox = ctx.stack.io.outbox ++ [(id, packet)] ∧
      packet.IsAcked ctx.conn.rdp.sndNxt ctx.conn.rdp.rcvCur [] ∧
      ∀ packet ∈ txQueue.items, packet.conn = ctx.conn.index

/-- The call sends at most one acknowledgement, and none while the receive queue is short of room. -/
def Ctx.MayAck (ctx after : Ctx cfg) : Prop :=
  ctx.Idles after ∨ (rdpRxQueueShort ctx.conn = false ∧ ctx.Acks after)

theorem Ctx.Idles.refl (own : ctx.OwnsTx) : ctx.Idles ctx := ⟨_, _, _, _, rfl, rfl, own⟩

theorem Ctx.Idles.mayAck (idles : ctx.Idles middle) (may : middle.MayAck after) : ctx.MayAck after := by
  obtain ⟨_, _, _, _, rfl, outbox, _⟩ := idles
  rcases may with ⟨_, _, _, _, rfl, outbox', own⟩ | ⟨free, _, _, _, _, _, id, packet, rfl, outbox', acked, own⟩
  · exact .inl ⟨_, _, _, _, rfl, outbox'.trans outbox, own⟩
  · exact .inr ⟨free, _, _, _, _, _, id, packet, rfl, outbox'.trans (congrArg (· ++ _) outbox), acked, own⟩

theorem Ctx.MayAck.idles (may : ctx.MayAck middle) (idles : middle.Idles after) : ctx.MayAck after := by
  obtain ⟨_, _, _, _, rfl, outbox', own'⟩ := idles
  rcases may with ⟨_, _, _, _, rfl, outbox, own⟩ | ⟨free, _, _, _, _, _, _, _, rfl, outbox, acked, own⟩
  · exact .inl ⟨_, _, _, _, rfl, outbox'.trans outbox, own'⟩
  · exact .inr ⟨free, _, _, _, _, _, _, _, rfl, outbox'.trans outbox, acked, own'⟩

theorem Ctx.Flows.mayAck (flows : ctx.Flows) (may : ctx.MayAck after) : after.Flows := by
  rcases may with ⟨_, _, _, _, rfl, _, own⟩ | ⟨_, _, _, _, _, _, _, _, rfl, _, _, own⟩
  · exact ⟨flows.connState, flows.opened, flows.idin, flows.idout, flows.handed, own, flows.stored⟩
  · exact ⟨flows.connState, flows.opened, flows.idin, flows.idout, flows.handed, own, flows.stored⟩

theorem Ctx.Acks.outbox (acks : ctx.Acks after) : after.stack.io.outbox ≠ ctx.stack.io.outbox := by
  obtain ⟨_, _, _, _, _, _, _, rfl, outbox, _⟩ := acks
  intro same
  have lengths := congrArg List.length (outbox.symm.trans same)
  rw [List.length_append, List.length_singleton] at lengths
  omega

/-! ## csp_rdp_check_ack -/

theorem rdpSendCmp_acks (own : ctx.OwnsTx) :
    ctx.Idles (rdpSendCmp ctx none rdpAck ctx.conn.rdp.sndNxt ctx.conn.rdp.rcvCur).2 ∨
      ctx.Acks (rdpSendCmp ctx none rdpAck ctx.conn.rdp.sndNxt ctx.conn.rdp.rcvCur).2 := by
  rw [rdpSendCmp]
  obtain ⟨taken, pool⟩ := bufferGet ctx.stack.io.pool 20
  cases taken with
  | none => exact .inl ⟨_, _, _, _, rfl, rfl, own⟩
  | some packet =>
      simp only
      cases added : rdpHeaderAdd cfg { packet with length := 0 } with
      | none =>
          rw [rdpSendCmpPacket, added]
          exact .inl ⟨_, _, _, _, rfl, rfl, own⟩
      | some framed =>
          have carries := setRdpHeader_carries added (ctx.stack.rdpIncr <<< 4 ||| rdpAck) ctx.conn.rdp.sndNxt
            ctx.conn.rdp.rcvCur
          rw [rdpSendCmpPacket_plain added (by decide)]
          exact .inr ⟨_, _, _, _, _, _, _, rfl, sendDirect_outbox _ _ _ _, ⟨_, carries⟩, own⟩

theorem rdpCheckAck_mayAck (own : ctx.OwnsTx) : ctx.MayAck (rdpCheckAck ctx) := by
  rw [rdpCheckAck]
  by_cases short : rdpRxQueueShort ctx.conn = true
  · rw [if_pos short]
    exact .inl (.refl own)
  · rw [if_neg short]
    split
    · exact (rdpSendCmp_acks own).imp id fun acks => ⟨Bool.eq_false_iff.mpr short, acks⟩
    · exact .inl (.refl own)

/-- With a buffer and room, an ACK that is due leaves. -/
theorem rdpCheckAck_acks (own : ctx.OwnsTx) (free : rdpRxQueueShort ctx.conn = false)
    (due : rdpShouldAck ctx.conn ctx.stack.now = true) (available : (bufferGet ctx.stack.io.pool 20).1.isSome) :
    ctx.Acks (rdpCheckAck ctx) := by
  rw [rdpCheckAck, if_neg (Bool.eq_false_iff.mp free), if_pos due]
  rcases rdpSendCmp_acks own with ⟨_, _, _, _, same, outbox, _⟩ | acks
  · obtain ⟨_, _, sent, _⟩ := rdpSendCmp_sendsAck available
    rw [same] at sent
    have lengths := congrArg List.length (sent.symm.trans outbox)
    rw [List.length_append, List.length_singleton] at lengths
    omega
  · exact acks

/-! ## Arriving packets -/

theorem rdpRxQueueFlush_empty (stored : ctx.stack.rxQueue.items = []) : rdpRxQueueFlush ctx = ctx := by
  have none : ctx.stack.rxQueue.size = 0 := congrArg List.length stored
  rw [rdpRxQueueFlush, none, rdpRxFlushLoop, none, rdpRxFlushScan]

/-- A bare acknowledgement only moves `snd_una`. -/
theorem routeDeliver_ack {packet : Packet} {seqNr ackNr : UInt16} (flows : ctx.Flows)
    (rdp : packet.id.has cspFRdp = true) (acked : packet.IsAcked seqNr ackNr [])
    (inWindow : rdpSeqValid ctx.conn.rdp seqNr = true) (valid : rdpAckValid ctx.conn.rdp ackNr = true) :
    ∃ pool, routeDeliver ctx packet =
      { conn := { ctx.conn with rdp.sndUna := ackNr + 1 }, stack := { ctx.stack with io.pool := pool } } := by
  have short : (rdpHeaderToHost packet).length.toNat ≤ rdpHeaderSize := acked.long_iff.mpr rfl
  rw [routeDeliver, if_pos rdp, routeRdp, rdpNewPacket,
    rdpNewPacketBody_acked flows.opened acked inWindow valid, rdpRecvData, if_pos short]
  exact ⟨_, rfl⟩

/-- The next segment moves `snd_una`, and it goes to the receive queue. Then the call may acknowledge it. -/
theorem routeDeliver_data {packet : Packet} {seqNr ackNr : UInt16} {body : List UInt8} (flows : ctx.Flows)
    (rdp : packet.id.has cspFRdp = true) (acked : packet.IsAcked seqNr ackNr body) (data : body ≠ [])
    (next : seqNr = ctx.conn.rdp.rcvCur + 1) (valid : rdpAckValid ctx.conn.rdp ackNr = true)
    (room : ctx.conn.rxQueue.items.length < cfg.connRxqueueLen) :
    ∃ received queue rxLog, received.payload = body ∧
      queue.items = ctx.conn.rxQueue.items ++ [some received] ∧
      routeDeliver ctx packet = rdpCheckAck
        { ctx with conn := { ctx.conn with
            rxQueue := queue, rxLog, rdp.sndUna := ackNr + 1, rdp.rcvCur := seqNr } } := by
  have long : ¬(rdpHeaderToHost packet).length.toNat ≤ rdpHeaderSize := mt acked.long_iff.mp data
  have inWindow : rdpSeqValid ctx.conn.rdp seqNr = true := by
    simp [rdpSeqValid, rdpSeqBetween, next]
  obtain ⟨_, carries⟩ := id acked
  have number : packet.header.seqNr = seqNr := carries.seqNr
  have payload : (rdpHeaderRemove (rdpHeaderToHost packet)).payload = body := by
    rw [rdpHeaderRemove_payload (Nat.lt_of_not_le long), rdpHeaderToHost_body, carries.body]
  have fits : (ctx.conn.rxQueue.items ++ [some (rdpHeaderRemove (rdpHeaderToHost packet))]).length ≤
      cfg.connRxqueueLen := by
    rw [List.length_append, List.length_singleton]
    exact room
  refine ⟨rdpHeaderRemove (rdpHeaderToHost packet), ⟨_, fits⟩,
    ctx.conn.rxLog ++ [some (rdpHeaderRemove (rdpHeaderToHost packet))], payload, rfl, ?_⟩
  rw [routeDeliver, if_pos rdp, routeRdp, rdpNewPacket, rdpNewPacketBody_acked flows.opened acked inWindow valid,
    rdpRecvData, if_neg long, if_neg (by simp [number, next]), rdpReceiveData, connEnqueuePacket,
    BoundedQueue.enqueue_of_room _ room]
  simp only [rdpFinish, number]
  apply rdpRxQueueFlush_empty
  obtain ⟨_, _, _, _, same, _⟩ := rdpCheckAck_answers (⟨{ ctx.conn with
    rxQueue := ⟨_, fits⟩
    rxLog := ctx.conn.rxLog ++ [some (rdpHeaderRemove (rdpHeaderToHost packet))]
    rdp.sndUna := ackNr + 1, rdp.rcvCur := seqNr }, ctx.stack⟩ : Ctx cfg)
  rw [same]
  exact flows.stored

/-! ## csp_read -/

theorem cspRead_empty (waits : ctx.conn.rxQueue.items = []) : cspRead ctx = (none, ctx) := by
  rw [cspRead, BoundedQueue.dequeue_eq_none.mpr waits]
  split <;> rfl

/-- A read takes the first packet. With delayed acknowledgements the call may then acknowledge. -/
theorem cspRead_first {first : Option Packet} {rest : List (Option Packet)} (flows : ctx.Flows)
    (delayed : ctx.conn.rdp.delayedAcks ≠ 0) (waits : ctx.conn.rxQueue.items = first :: rest) :
    ∃ queue, queue.items = rest ∧
      cspRead ctx = (first, rdpCheckAck { ctx with conn := { ctx.conn with rxQueue := queue } }) := by
  cases taken : ctx.conn.rxQueue.dequeue with
  | none =>
      rw [BoundedQueue.dequeue_eq_none.mp taken] at waits
      cases waits
  | some pair =>
      obtain ⟨packet, queue⟩ := pair
      have split := BoundedQueue.dequeue_eq_some.mp taken
      rw [waits, List.cons.injEq] at split
      refine ⟨queue, split.2.symm, ?_⟩
      rw [cspRead, if_neg (not_not_intro flows.connState), taken]
      simp only [flows.idin, delayed, split.1, bne_iff_ne, ne_eq, not_false_eq_true, Bool.true_and, if_true]

/-! ## csp_rdp_check_timeouts -/

/-- No unacknowledged packet of the retransmission queue has waited longer than the packet timeout. -/
def Ctx.OnTime (ctx : Ctx cfg) : Prop :=
  ∀ packet ∈ ctx.stack.txQueue.items,
    rdpSeqBefore packet.seqNr ctx.conn.rdp.sndUna = true ∨ rdpTimedOut ctx.conn ctx.stack.now packet = false

instance (ctx : Ctx cfg) : Decidable ctx.OnTime := inferInstanceAs (Decidable (∀ packet ∈ _, _ ∨ _))

/-- In time, the loop over the retransmission queue sends nothing. -/
theorem rdpTimeoutLoop_onTime (conn : Conn cfg) (count : Nat) (stack : Stack cfg)
    (own : ∀ packet ∈ stack.txQueue.items, packet.conn = conn.index)
    (onTime : Ctx.OnTime ⟨conn, stack⟩) :
    ∃ pool txQueue, rdpTimeoutLoop conn count stack = { stack with io.pool := pool, txQueue } ∧
      ∀ packet ∈ txQueue.items, packet.conn = conn.index := by
  induction count generalizing stack with
  | zero => exact ⟨_, _, rfl, own⟩
  | succ count ih =>
      rw [rdpTimeoutLoop]
      cases items : stack.txQueue.items with
      | nil =>
          rw [rdpQueueTxGet, rdpQueueGet_empty conn.index items]
          exact ⟨_, _, rfl, own⟩
      | cons head rest =>
          have ownHead : head.conn = conn.index := own head (by simp [items])
          obtain ⟨queue, got, tail⟩ := rdpQueueTxGet_own items ownHead
          have ownRest : ∀ packet ∈ rest, packet.conn = conn.index := fun packet member =>
            own packet (items ▸ List.mem_cons_of_mem _ member)
          have onTimeRest : ∀ packet ∈ rest, rdpSeqBefore packet.seqNr conn.rdp.sndUna = true ∨
              rdpTimedOut conn stack.now packet = false := fun packet member =>
            onTime packet (items ▸ List.mem_cons_of_mem _ member)
          rw [got]
          simp only
          by_cases acked : rdpSeqBefore head.seqNr conn.rdp.sndUna = true
          · rw [if_pos acked]
            have left : (Stack.free { stack with txQueue := queue } head).txQueue.items = rest := tail
            obtain ⟨pool, queue', looped, own'⟩ := ih (Stack.free { stack with txQueue := queue } head)
              (by rwa [left]) (by rwa [Ctx.OnTime, left])
            exact ⟨pool, queue', looped, own'⟩
          · have early := (onTime head (by simp [items])).resolve_left acked
            obtain ⟨longer, added, whole⟩ := rdpQueueTxAdd_back items tail stack.io conn.index head
            rw [if_neg acked, if_neg (Bool.eq_false_iff.mp early), added]
            have members : ∀ packet ∈ longer.items, packet ∈ stack.txQueue.items := by
              intro packet member
              rw [whole, Packet.tagged_self ownHead] at member
              rw [items]
              exact (List.perm_append_singleton head rest).mem_iff.mp member
            exact ih _ (fun packet member => own packet (members packet member))
              (fun packet member => onTime packet (members packet member))

theorem rdpTimeoutOpen_mayAck (flows : ctx.Flows) : ctx.MayAck (rdpTimeoutOpen ctx) := by
  have acked : ctx.MayAck (if ctx.conn.rdp.delayedAcks ≠ 0 then rdpCheckAck ctx else ctx) := by
    split
    · exact rdpCheckAck_mayAck flows.ownTx
    · exact .inl (.refl flows.ownTx)
  rw [rdpTimeoutOpen, if_pos flows.opened]
  generalize (if ctx.conn.rdp.delayedAcks ≠ 0 then rdpCheckAck ctx else ctx) = middle at acked ⊢
  have own := (flows.mayAck acked).ownTx
  simp only
  split
  · exact acked.idles ⟨_, _, _, _, rfl, rfl, own⟩
  · exact acked

/-- In time, the timers only purge the retransmission queue, and they may acknowledge. -/
theorem rdpCheckTimeouts_onTime (flows : ctx.Flows) (onTime : ctx.OnTime) : ctx.MayAck (rdpCheckTimeouts ctx) := by
  obtain ⟨pool, txQueue, looped, own⟩ :=
    rdpTimeoutLoop_onTime ctx.conn ctx.stack.txQueue.size ctx.stack flows.ownTx onTime
  have idles : ctx.Idles ⟨ctx.conn, { ctx.stack with io.pool := pool, txQueue }⟩ := ⟨_, _, _, _, rfl, rfl, own⟩
  have waits : ctx.conn.rdp.state ≠ .closeWait := by
    rw [flows.opened]
    decide
  rw [rdpCheckTimeouts, flows.handed, Option.isSome_none, Bool.false_and, if_neg Bool.false_ne_true, if_neg waits,
    looped]
  have flows' := flows.mayAck (.inl idles)
  have may := rdpTimeoutOpen_mayAck flows'
  simp only
  rw [rdpRxQueueFlush_empty (flows'.mayAck may).stored]
  exact idles.mayAck may

/-! ## Numbers behind a common base -/

theorem rdpSeqBetween_last (start last : UInt16) : rdpSeqBetween last start last = true :=
  rdpSeqBetween_iff.mpr le_rfl

/-- The distance of two numbers behind a common base. -/
theorem seqAhead_base (base : UInt16) {first last : Nat} (order : first ≤ last) (near : last - first < 65536) :
    seqAhead (base + UInt16.ofNat first) (base + UInt16.ofNat last) = last - first := by
  obtain ⟨step, rfl⟩ := Nat.exists_eq_add_of_le order
  rw [seqAhead_eq, UInt16.ofNat_add]
  have : base + (UInt16.ofNat first + UInt16.ofNat step) - (base + UInt16.ofNat first) = UInt16.ofNat step := by
    grind
  rw [this, UInt16.toNat_ofNat']
  omega

theorem windowTwice (window : UInt32) :
    (window * 2).toUInt16 = UInt16.ofNat (2 * window.toNat) := by
  apply UInt16.toNat_inj.mp
  rw [UInt32.toNat_toUInt16, UInt32.toNat_mul, UInt16.toNat_ofNat', show (2 : UInt32).toNat = 2 from rfl]
  omega

theorem ackValid_base {window : UInt32} (base : UInt16) {una ack sent : Nat} (narrow : window.toNat < 2 ^ 14)
    (above : una ≤ ack) (below : ack ≤ sent) (inside : sent ≤ una + window.toNat) :
    rdpSeqBetween (base + UInt16.ofNat ack) (base + 1 + UInt16.ofNat una - 1 - (window * 2).toUInt16)
      (base + 1 + UInt16.ofNat sent - 1) = true := by
  have start : base + 1 + UInt16.ofNat una - 1 - (window * 2).toUInt16 =
      (base - (window * 2).toUInt16) + UInt16.ofNat una := by grind
  have shift : ∀ number, base + UInt16.ofNat number =
      (base - (window * 2).toUInt16) + UInt16.ofNat (number + 2 * window.toNat) := by
    intro number
    rw [UInt16.ofNat_add, windowTwice window]
    grind
  have last : base + 1 + UInt16.ofNat sent - 1 = base + UInt16.ofNat sent := by grind
  rw [rdpSeqBetween_iff, start, last, shift ack, shift sent, seqAhead_base _ (by omega) (by omega),
    seqAhead_base _ (by omega) (by omega)]
  omega

theorem rdpIsConnReadyForTx_iff {conn : Conn cfg} {outstanding : Nat}
    (narrow : conn.rdp.windowSize.toNat < 2 ^ 14) (inside : outstanding ≤ conn.rdp.windowSize.toNat)
    (number : conn.rdp.sndNxt = conn.rdp.sndUna + UInt16.ofNat outstanding) :
    rdpIsConnReadyForTx conn = true ↔ outstanding < conn.rdp.windowSize.toNat := by
  rw [rdpIsConnReadyForTx, Bool.not_eq_true', rdpSeqAfter, rdpSeqBefore_eq_false, number, seqAhead_eq]
  have distance : conn.rdp.sndUna + conn.rdp.windowSize.toUInt16 - 1 - (conn.rdp.sndUna + UInt16.ofNat outstanding) =
      conn.rdp.windowSize.toUInt16 - UInt16.ofNat (outstanding + 1) := by
    rw [UInt16.ofNat_add]
    grind
  rw [distance, UInt16.toNat_sub, UInt32.toNat_toUInt16, UInt16.toNat_ofNat']
  omega

theorem rdpRxQueueShort_eq_false {conn : Conn cfg} (narrow : conn.rdp.windowSize.toNat < 2 ^ 14) :
    rdpRxQueueShort conn = false ↔
      conn.rxQueue.items.length + 2 * conn.rdp.windowSize.toNat < cfg.connRxqueueLen := by
  have doubled : (2 * conn.rdp.windowSize).toInt32.toInt = 2 * (conn.rdp.windowSize.toNat : Int) := by
    have value : (2 * conn.rdp.windowSize).toNat = 2 * conn.rdp.windowSize.toNat := by
      rw [UInt32.toNat_mul, show (2 : UInt32).toNat = 2 from rfl]
      omega
    have small : 2 * (2 * conn.rdp.windowSize).toBitVec.toNat < 2 ^ 32 := by
      rw [UInt32.toNat_toBitVec, value]
      omega
    rw [show (2 * conn.rdp.windowSize).toInt32.toInt = (2 * conn.rdp.windowSize).toBitVec.toInt from rfl,
      BitVec.toInt_eq_toNat_of_lt small, UInt32.toNat_toBitVec, value]
    rfl
  have bounded := conn.rxQueue.bounded
  rw [rdpRxQueueShort, decide_eq_false_iff_not, doubled, BoundedQueue.free]
  omega

end Libcsp

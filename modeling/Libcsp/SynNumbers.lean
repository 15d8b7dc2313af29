/-
This file shows that a connection sends its SYNs with the number of its present attempt.
-/
import Libcsp.AcceptedSegment
import Libcsp.StoredPackets

namespace Libcsp

variable {cfg : Config}

/-! ## Sent packets -/

/-- The packet has a header, and it carries this number if it is a SYN. -/
structure Packet.SynCarries (packet : Packet) (iss : UInt16) : Prop where
  long : rdpHeaderSize ≤ packet.length.toNat
  seqNr : packet.hasRdp rdpSyn = true → packet.seqNr = iss

/-- Each SYN that the node has sent since `earlier`, or that waits for its retransmission, has this number. -/
structure Stack.SendsSyns (stack : Stack cfg) (earlier : List (CspId × Packet)) (iss : UInt16) : Prop where
  sent : ∃ more, stack.io.outbox = earlier ++ more ∧ ∀ entry ∈ more, entry.2.SynCarries iss
  queued : ∀ packet ∈ stack.txQueue.items, packet.SynCarries iss

variable {earlier : List (CspId × Packet)} {iss : UInt16}

theorem Packet.SameSegment.synCarries {first second : Packet} (same : first.SameSegment second)
    (carries : second.SynCarries iss) : first.SynCarries iss :=
  ⟨same.length ▸ carries.long, fun syn => same.seqNr.trans (carries.seqNr ((same.hasRdp rdpSyn).symm.trans syn))⟩

/-- A message is no SYN, or it has the number. -/
theorem Packet.Carries.synCarries {packet : Packet} {counter flags : UInt8} {seqNr ackNr : UInt16}
    {payload : List UInt8} (carries : packet.Carries (counter <<< 4 ||| flags) seqNr ackNr payload)
    (number : flags &&& rdpSyn = 0 ∨ seqNr = iss) : packet.SynCarries iss := by
  refine ⟨carries.length ▸ Nat.le_add_left _ _, fun syn => ?_⟩
  rw [carries.hasRdp (by simp)] at syn
  rcases number with plain | rfl
  · simp [plain] at syn
  · exact carries.seqNr

/-- A data segment is no SYN. -/
theorem Packet.Carries.segment {packet : Packet} {seqNr ackNr : UInt16} {payload : List UInt8}
    (carries : packet.Carries rdpAck seqNr ackNr payload) : packet.SynCarries iss := by
  have flags : (0 : UInt8) <<< 4 ||| rdpAck = rdpAck := by decide
  rw [← flags] at carries
  exact carries.synCarries (.inl (by decide))

theorem Packet.SynCarries.tagged {packet : Packet} (carries : packet.SynCarries iss) (conn : Nat) :
    (packet.tagged conn).SynCarries iss := ⟨carries.long, carries.seqNr⟩

section Stacks
variable {stack : Stack cfg} (syns : stack.SendsSyns earlier iss)
include syns

theorem Stack.SendsSyns.append {after : Stack cfg} {sent : List (CspId × Packet)}
    (outbox : after.io.outbox = stack.io.outbox ++ sent) (fresh : ∀ entry ∈ sent, entry.2.SynCarries iss)
    (queue : ∀ packet ∈ after.txQueue.items, packet.SynCarries iss) : after.SendsSyns earlier iss := by
  obtain ⟨⟨more, before, carry⟩, _⟩ := syns
  refine ⟨⟨more ++ sent, ?_, fun entry member => ?_⟩, queue⟩
  · rw [outbox, before, List.append_assoc]
  · rcases List.mem_append.mp member with member | member
    · exact carry entry member
    · exact fresh entry member

theorem Stack.SendsSyns.of_same {after : Stack cfg} (outbox : after.io.outbox = stack.io.outbox)
    (queue : ∀ packet ∈ after.txQueue.items, packet.SynCarries iss) : after.SendsSyns earlier iss :=
  syns.append (outbox.trans (List.append_nil _).symm) (fun _ none => absurd none List.not_mem_nil) queue

/-! ## The retransmission queue -/

/-- An add stores the packet under the tag of the caller, or frees it. -/
theorem rdpQueueTxAdd_syns (conn : Nat) {packet : Packet} (carries : packet.SynCarries iss) :
    (rdpQueueTxAdd stack conn packet).SendsSyns earlier iss := by
  by_cases room : stack.txQueue.items.length < cfg.rdpMaxWindow * 2
  · obtain ⟨queue, added, items⟩ := rdpQueueTxAdd_room stack conn packet room
    rw [added]
    refine syns.of_same rfl fun stored member => ?_
    have member : stored ∈ queue.items := member
    rw [items] at member
    rcases List.mem_append.mp member with old | new
    · exact syns.queued stored old
    · rw [List.mem_singleton.mp new]
      exact carries.tagged conn
  · have full := rdpQueueAdd_full stack.tx conn packet (le_antisymm stack.txQueue.bounded (not_lt.mp room))
    rw [rdpQueueTxAdd, full]
    exact syns.of_same rfl syns.queued

theorem rdpQueueTxGet_syns (conn : Nat) :
    (rdpQueueTxGet stack conn).2.SendsSyns earlier iss ∧
      ∀ packet, (rdpQueueTxGet stack conn).1 = some packet → packet.SynCarries iss := by
  obtain ⟨found, queue, got, takes⟩ := rdpQueueTxGet_takes stack conn
  obtain ⟨rest, taken⟩ := takes.all (fun _ carries => carries.tagged conn) syns.queued
  rw [got]
  exact ⟨syns.of_same rfl rest, taken⟩

theorem Stack.SendsSyns.free (packet : Packet) : (stack.free packet).SendsSyns earlier iss :=
  syns.of_same rfl syns.queued

/-- A flush leaves nothing to retransmit. -/
theorem rdpQueueFlush_syns (conn : Option Nat) : (rdpQueueFlush stack conn).SendsSyns earlier iss :=
  syns.of_same rfl fun _ none => absurd none List.not_mem_nil

theorem rdpRetransmit_syns (conn : Conn cfg) {packet : Packet} (carries : packet.SynCarries iss) :
    (rdpRetransmit conn stack packet).SendsSyns earlier iss := by
  obtain ⟨_, sent, same, outbox, copies⟩ := rdpRetransmit_sends conn stack packet
  rw [same]
  exact syns.append outbox (fun entry member => (copies entry member).synCarries carries) syns.queued

end Stacks

theorem rdpTimeoutLoop_syns (conn : Conn cfg) (count : Nat) {stack : Stack cfg} (syns : stack.SendsSyns earlier iss) :
    (rdpTimeoutLoop conn count stack).SendsSyns earlier iss := by
  induction count generalizing stack with
  | zero => exact syns
  | succ count ih =>
      obtain ⟨taken, found⟩ := rdpQueueTxGet_syns syns conn.index
      simp only [rdpTimeoutLoop]
      generalize rdpQueueTxGet stack conn.index = result at taken found
      obtain ⟨_ | packet, after⟩ := result
      · exact taken
      · have carries := found packet rfl
        simp only
        split
        · exact ih (taken.free packet)
        · split
          · have fresh := (refreshAck_same packet conn.rdp.rcvCur after.now).synCarries carries
            exact ih (rdpQueueTxAdd_syns (rdpRetransmit_syns taken conn fresh) conn.index fresh)
          · exact ih (rdpQueueTxAdd_syns taken conn.index carries)

theorem rdpFlushEackLoop_syns (conn : Nat) (packetTimeout : UInt32) (eack : Packet) (count : Nat) {stack : Stack cfg}
    (syns : stack.SendsSyns earlier iss) : (rdpFlushEackLoop conn packetTimeout eack count stack).SendsSyns earlier iss := by
  induction count generalizing stack with
  | zero => exact syns
  | succ count ih =>
      obtain ⟨taken, found⟩ := rdpQueueTxGet_syns syns conn
      simp only [rdpFlushEackLoop]
      generalize rdpQueueTxGet stack conn = result at taken found
      obtain ⟨_ | packet, after⟩ := result
      · exact taken
      · have carries := found packet rfl
        have marked := (eackMarkAll_same after.now packetTimeout eack packet).synCarries carries
        simp only
        split
        · exact ih (taken.free _)
        · exact ih (rdpQueueTxAdd_syns taken conn marked)

theorem flushRxList_outbox (io : Io cfg) (packets : List (Option Packet)) :
    (flushRxList io packets).outbox = io.outbox := by
  induction packets generalizing io with
  | nil => rfl
  | cons packet rest ih => exact ih _

theorem rdpRxFlushScan_syns (count : Nat) {ctx : Ctx cfg} (syns : ctx.stack.SendsSyns earlier iss) :
    (rdpRxFlushScan count ctx).2.stack.SendsSyns earlier iss := by
  induction count generalizing ctx with
  | zero => exact syns
  | succ count ih =>
      have taken : (rdpQueueRxGet ctx.stack ctx.conn.index).2.SendsSyns earlier iss := syns.of_same rfl syns.queued
      simp only [rdpRxFlushScan]
      split
      · exact syns
      · generalize rdpQueueRxGet ctx.stack ctx.conn.index = result at taken
        obtain ⟨_ | packet, after⟩ := result
        · exact taken
        · simp only
          split
          · generalize rdpReceiveData ctx.conn packet = received
            obtain ⟨err, conn, freed⟩ := received
            split
            · exact taken
            · exact taken.free _
          · exact ih (taken.of_same rfl taken.queued)

theorem rdpRxFlushLoop_syns (passes : Nat) {ctx : Ctx cfg} (syns : ctx.stack.SendsSyns earlier iss) :
    (rdpRxFlushLoop passes ctx).stack.SendsSyns earlier iss := by
  induction passes generalizing ctx with
  | zero => exact syns
  | succ passes ih =>
      have pass := rdpRxFlushScan_syns ctx.stack.rxQueue.size syns
      simp only [rdpRxFlushLoop]
      generalize rdpRxFlushScan ctx.stack.rxQueue.size ctx = result at pass
      obtain ⟨_ | _, after⟩ := result
      · exact pass
      · exact ih pass

theorem rdpRxQueueFlush_syns {ctx : Ctx cfg} (syns : ctx.stack.SendsSyns earlier iss) :
    (rdpRxQueueFlush ctx).stack.SendsSyns earlier iss := rdpRxFlushLoop_syns _ syns

/-! ## Messages -/

section Messages
variable {ctx : Ctx cfg} (syns : ctx.stack.SendsSyns earlier iss)
include syns

theorem rdpSendCmp_syns (packet : Option Packet) {flags : UInt8} {seqNr : UInt16}
    (number : flags &&& rdpSyn = 0 ∨ seqNr = iss) (ackNr : UInt16) :
    (rdpSendCmp ctx packet flags seqNr ackNr).2.stack.SendsSyns earlier iss := by
  obtain ⟨_, _, _, _, _, sent, same, outbox, messages, takes⟩ := rdpSendCmp_sends ctx packet flags seqNr ackNr
  rw [same]
  refine syns.append outbox (fun entry member => ?_) fun stored member => ?_
  · obtain ⟨_, _, carries⟩ := messages entry member
    exact carries.synCarries number
  · rcases takes with items | ⟨_, copy, _, ⟨_, carries⟩, items⟩
    · exact syns.queued stored (items ▸ member)
    · rcases List.mem_append.mp (items ▸ member) with old | new
      · exact syns.queued stored old
      · rw [List.mem_singleton.mp new]
        exact carries.synCarries number

theorem rdpCheckAck_syns : (rdpCheckAck ctx).stack.SendsSyns earlier iss := by
  unfold rdpCheckAck
  split
  · exact syns
  · split
    · exact rdpSendCmp_syns syns none (.inl (by decide)) _
    · exact syns

theorem rdpSendEack_syns : (rdpSendEack ctx).2.stack.SendsSyns earlier iss := by
  simp only [rdpSendEack]
  split
  · exact syns.of_same rfl syns.queued
  · rename_i packet pool _
    obtain ⟨_, scanned⟩ := rdpEackLoop_changes ctx.conn.index ctx.stack.rxQueue.size { packet with length := 0 }
      (100 - rdpHeaderSize) { ctx.stack with io := { ctx.stack.io with pool } }
    simp only [scanned]
    refine rdpSendCmp_syns ?_ _ (.inl (by decide)) _
    exact syns.of_same rfl syns.queued

theorem rdpSendSyn_syns (own : ctx.conn.rdp.sndIss = iss) : (rdpSendSyn ctx).2.stack.SendsSyns earlier iss := by
  simp only [rdpSendSyn]
  split
  · exact syns.of_same rfl syns.queued
  · refine rdpSendCmp_syns ?_ _ (.inr own) _
    exact syns.of_same rfl syns.queued

theorem rdpFlushEack_syns (eack : Packet) : (rdpFlushEack ctx eack).stack.SendsSyns earlier iss :=
  rdpFlushEackLoop_syns _ _ _ _ syns

/-! ## Close -/

theorem rdpEnterCloseWait_syns (sendRst : Bool) : (rdpEnterCloseWait ctx sendRst).stack.SendsSyns earlier iss := by
  simp only [rdpEnterCloseWait]
  split
  · refine rdpSendCmp_syns ?_ none (.inl (by decide)) _
    exact syns
  · exact syns

theorem rdpCloseInternal_syns (closedBy : UInt8) (sendRst : Bool) :
    (rdpCloseInternal ctx closedBy sendRst).2.stack.SendsSyns earlier iss := by
  have entered := @rdpEnterCloseWait_syns cfg earlier iss
    { ctx with conn.rdp.closedBy := ctx.conn.rdp.closedBy ||| closedBy } syns sendRst
  simp only [rdpCloseInternal]
  split
  · exact syns
  · split <;> split <;> first | exact syns | exact entered

theorem connRelease_syns : (connRelease ctx).stack.SendsSyns earlier iss := by
  have flushed : (connFlushRxQueue ctx).stack.SendsSyns earlier iss :=
    syns.of_same (flushRxList_outbox ctx.stack.io ctx.conn.rxQueue.items) syns.queued
  simp only [connRelease]
  split
  · exact rdpQueueFlush_syns flushed _
  · exact flushed

theorem connClose_syns (closedBy : UInt8) : (connClose ctx closedBy).stack.SendsSyns earlier iss := by
  have closed := rdpCloseInternal_syns syns closedBy true
  unfold connClose
  split
  · exact syns
  · split
    · rw [rdpClose]
      generalize rdpCloseInternal ctx closedBy true = result at closed
      obtain ⟨err, after⟩ := result
      split
      · rename_i same
        cases same
        exact closed
      · rename_i same
        cases same
        exact connRelease_syns closed
    · exact connRelease_syns syns

theorem rdpDiscardClose_syns (closedBy : UInt8) : (rdpDiscardClose ctx closedBy).stack.SendsSyns earlier iss := by
  simp only [rdpDiscardClose]
  split
  · exact connClose_syns syns _
  · exact connClose_syns syns _

/-! ## One packet -/

theorem rdpRecvData_syns (header : RdpHeader) (packet : Packet) :
    (rdpRecvData ctx header packet).ctx.stack.SendsSyns earlier iss := by
  simp only [rdpRecvData]
  split
  · exact syns
  · split
    · obtain ⟨_, _, added⟩ := rdpRxQueueAdd_changes ctx.stack ctx.conn.index packet header.seqNr
      generalize rdpRxQueueAdd ctx.stack ctx.conn.index packet header.seqNr = result at added
      obtain ⟨fresh, after⟩ := result
      have stored : after.SendsSyns earlier iss := by
        rw [show after = _ from added]
        exact syns.of_same rfl syns.queued
      cases fresh with
      | false => exact @rdpCheckAck_syns cfg earlier iss ⟨ctx.conn, after⟩ stored
      | true => exact @rdpSendEack_syns cfg earlier iss ⟨ctx.conn, after⟩ stored
    · generalize rdpReceiveData ctx.conn packet = result
      obtain ⟨err, conn, freed⟩ := result
      split
      · refine rdpRxQueueFlush_syns (rdpCheckAck_syns ?_)
        exact syns
      · exact syns

theorem rdpRecvAcked_syns (header : RdpHeader) (packet : Packet) :
    (rdpRecvAcked ctx header packet).ctx.stack.SendsSyns earlier iss := by
  simp only [rdpRecvAcked]
  split
  · split
    · refine rdpFlushEack_syns ?_ packet
      exact syns
    · exact syns
  · refine rdpRecvData_syns ?_ header packet
    exact syns

theorem rdpOpenServer_syns : (rdpOpenServer ctx).2.stack.SendsSyns earlier iss := by
  simp only [rdpOpenServer]
  split
  · exact syns
  · split
    · exact syns
    · rename_i posted
      obtain ⟨_, rfl⟩ := Stack.post_changes posted
      exact syns.of_same rfl syns.queued

theorem rdpRecvOpen_syns (own : ctx.conn.rdp.state = .synRcvd → ctx.conn.rdp.sndIss = iss) (header : RdpHeader) (packet : Packet) :
    (rdpRecvOpen ctx header packet).ctx.stack.SendsSyns earlier iss := by
  simp only [rdpRecvOpen]
  split
  · split
    · exact syns
    · exact syns
  · split
    · split
      · rename_i received
        exact rdpSendCmp_syns syns none (.inr (own received)) _
      · exact rdpSendEack_syns syns
    · split
      · exact syns
      · split
        · split
          · exact syns
          · have opened := rdpOpenServer_syns syns
            generalize rdpOpenServer ctx = result at opened
            obtain ⟨_ | _, after⟩ := result
            · exact opened
            · exact rdpRecvAcked_syns opened header packet
        · exact rdpRecvAcked_syns syns header packet

theorem rdpRecvRst_syns (header : RdpHeader) (packet : Packet) :
    (rdpRecvRst ctx header packet).ctx.stack.SendsSyns earlier iss := by
  have acked : (rdpRstAck ctx header).stack.SendsSyns earlier iss := by
    unfold rdpRstAck
    split
    · exact syns
    · exact syns
  simp only [rdpRecvRst]
  generalize rdpRstAck ctx header = after at acked
  split
  · exact acked
  · exact acked
  · split
    · refine rdpSendCmp_syns ?_ none (.inl (by decide)) _
      exact acked
    · exact acked

theorem rdpRecvSynSent_syns (header : RdpHeader) (packet : Packet) :
    (rdpRecvSynSent ctx header packet).ctx.stack.SendsSyns earlier iss := by
  simp only [rdpRecvSynSent]
  split
  · refine rdpSendCmp_syns ?_ none (.inl (by decide)) _
    exact syns
  · split
    · exact rdpSendCmp_syns syns none (.inl (by decide)) _
    · exact syns

theorem rdpRecvCloseWait_syns (header : RdpHeader) (packet : Packet) :
    (rdpRecvCloseWait ctx header packet).ctx.stack.SendsSyns earlier iss := by
  simp only [rdpRecvCloseWait]
  split
  · exact syns
  · split
    · exact syns
    · refine rdpSendCmp_syns ?_ none (.inl (by decide)) _
      exact syns

theorem rdpRecvClosed_syns {header : RdpHeader} (plain : header.has rdpSyn = false) (packet : Packet) :
    (rdpRecvClosed ctx header packet).ctx.stack.SendsSyns earlier iss := by
  simp only [rdpRecvClosed, plain, Bool.not_false, if_true]
  exact rdpSendCmp_syns syns none (.inl (by decide)) _

/-- No packet but a SYN in the state RDP_CLOSED changes the number of the SYNs. -/
theorem rdpNewPacketBody_syns (packet : Packet) (own : ctx.conn.rdp.state = .synRcvd → ctx.conn.rdp.sndIss = iss)
    (plain : ctx.conn.rdp.state = .closed → packet.hasRdp rdpRst = false → packet.hasRdp rdpSyn = false) :
    (rdpNewPacketBody ctx packet).ctx.stack.SendsSyns earlier iss := by
  simp only [rdpNewPacketBody]
  cases rst : packet.header.has rdpRst with
  | true => exact rdpRecvRst_syns syns _ _
  | false =>
      rw [if_neg Bool.false_ne_true]
      cases state : ctx.conn.rdp.state with
      | closed => exact rdpRecvClosed_syns syns (show packet.header.has rdpSyn = false from plain state rst) _
      | synSent => exact rdpRecvSynSent_syns syns _ _
      | synRcvd => exact rdpRecvOpen_syns syns own _ _
      | «open» => exact rdpRecvOpen_syns syns own _ _
      | closeWait => exact rdpRecvCloseWait_syns syns _ _

end Messages

theorem rdpFinish_syns {branch : RdpBranch cfg} (syns : branch.ctx.stack.SendsSyns earlier iss) :
    (rdpFinish branch).2.stack.SendsSyns earlier iss := by
  obtain ⟨exit, packet, ctx⟩ := branch
  cases exit with
  | discardClose closedBy => exact (rdpDiscardClose_syns syns closedBy).free packet
  | discardOpen closeConnection => exact syns.free packet
  | acceptedOpen => exact syns

theorem routeRdp_syns {ctx : Ctx cfg} {packet : Packet}
    (syns : (rdpNewPacket ctx packet).2.stack.SendsSyns earlier iss) :
    (routeRdp ctx packet).stack.SendsSyns earlier iss := by
  simp only [routeRdp]
  generalize rdpNewPacket ctx packet = result at syns
  obtain ⟨_ | _, after⟩ := result
  · exact syns
  · exact connClose_syns syns _

/-! ## The other inputs -/

section Calls
variable {ctx : Ctx cfg} (syns : ctx.stack.SendsSyns earlier iss)
include syns

theorem rdpTimeoutOpen_syns : (rdpTimeoutOpen ctx).stack.SendsSyns earlier iss := by
  have acked : (if ctx.conn.rdp.delayedAcks ≠ 0 then rdpCheckAck ctx else ctx).stack.SendsSyns earlier iss := by
    split
    · exact rdpCheckAck_syns syns
    · exact syns
  simp only [rdpTimeoutOpen]
  generalize (if ctx.conn.rdp.delayedAcks ≠ 0 then rdpCheckAck ctx else ctx) = after at acked ⊢
  split
  · split
    · exact acked
    · exact acked
  · exact syns

theorem rdpCheckTimeouts_syns : (rdpCheckTimeouts ctx).stack.SendsSyns earlier iss := by
  simp only [rdpCheckTimeouts]
  split
  · exact connClose_syns syns _
  · split
    · split
      · exact connClose_syns syns _
      · exact syns
    · refine rdpRxQueueFlush_syns (rdpTimeoutOpen_syns ?_)
      exact rdpTimeoutLoop_syns ctx.conn ctx.stack.txQueue.size syns

theorem cspRead_syns : (cspRead ctx).2.stack.SendsSyns earlier iss := by
  simp only [cspRead]
  split
  · exact syns
  · split
    · exact syns
    · split
      · refine rdpCheckAck_syns ?_
        exact syns
      · exact syns

theorem rdpSend_syns (packet : Packet) : (rdpSend ctx packet).2.2.stack.SendsSyns earlier iss := by
  simp only [rdpSend]
  split
  · exact syns
  · split
    · exact syns
    · simp only [rdpSendSegment]
      split
      · exact syns
      · rename_i framed added
        have carries := setRdpHeader_carries added rdpAck ctx.conn.rdp.sndNxt ctx.conn.rdp.rcvCur
        split
        · exact syns.of_same rfl syns.queued
        · rename_i copy pool cloned
          have copied : copy.SynCarries iss := by
            rw [bufferClone_some, Prod.mk.injEq] at cloned
            obtain ⟨clone, _, rfl⟩ := Option.map_eq_some_iff.mp cloned.1
            have framed : (dataHeader ctx.conn framed).SynCarries iss := carries.segment
            exact ⟨framed.long, framed.seqNr⟩
          refine rdpQueueTxAdd_syns ?_ ctx.conn.index ⟨copied.long, copied.seqNr⟩
          exact syns.of_same rfl syns.queued

theorem cspSend_syns (packet : Packet) (rdp : ctx.conn.state = .open → ctx.conn.idout.has cspFRdp = true) :
    (cspSend ctx (some packet)).stack.SendsSyns earlier iss := by
  by_cases connState : ctx.conn.state = .open
  · have sent := rdpSend_syns syns packet
    have framed := fun framed after => @rdpSend_framed cfg ctx after packet framed
    simp only [cspSend, connState, rdp connState, ne_eq, not_true_eq_false, if_false, if_true]
    generalize rdpSend ctx packet = result at sent framed
    obtain ⟨err, packet', after⟩ := result
    split
    · rename_i same
      cases same
      have carries := (framed _ _ rfl).1
      refine sent.append (sendDirect_outbox _ _ _ _) (fun entry member => ?_) sent.queued
      rw [List.mem_singleton.mp member]
      exact carries.segment
    · rename_i same
      cases same
      exact sent.free _
  · simp only [cspSend, ne_eq, connState, not_false_eq_true, if_true]
    exact syns.free packet

end Calls

/-! ## Attempts -/

theorem Leaves.numbers {before after : SendView} (leaves : Leaves before after) :
    after.sndIss = before.sndIss ∧ after.sndUna = before.sndUna := by
  rcases leaves with rfl | ⟨_, _, rfl⟩ <;> exact ⟨rfl, rfl⟩

/-- No SYN waits for its retransmission. -/
def Stack.QueuesNoSyn (stack : Stack cfg) : Prop :=
  ∀ packet ∈ stack.txQueue.items, ∀ number, packet.SynCarries number

theorem Stack.QueuesNoSyn.sendsSyns {stack : Stack cfg} (none : stack.QueuesNoSyn) (number : UInt16) :
    stack.SendsSyns stack.io.outbox number :=
  ⟨⟨[], (List.append_nil _).symm, by simp⟩, fun packet member => none packet member number⟩

/-- The SYN/ACK of a server has the number of its connection. -/
theorem rdpRecvClosed_accepts {ctx : Ctx cfg} (quiet : ctx.stack.QueuesNoSyn) {header : RdpHeader}
    (syn : header.has rdpSyn = true) (packet : Packet) :
    (rdpRecvClosed ctx header packet).ctx.conn.rdp.state = .synRcvd ∧
      (rdpRecvClosed ctx header packet).ctx.stack.SendsSyns ctx.stack.io.outbox
        (rdpRecvClosed ctx header packet).ctx.conn.rdp.sndIss := by
  simp only [rdpRecvClosed, syn, Bool.not_true, Bool.false_eq_true, if_false]
  have state : (rdpAcceptSyn cfg ctx.conn.rdp ctx.stack.now header packet).state = .synRcvd := rfl
  generalize rdpAcceptSyn cfg ctx.conn.rdp ctx.stack.now header packet = rdp at state ⊢
  have helps := rdpSendCmp_helps { ctx with conn.rdp := rdp } none (rdpAck ||| rdpSyn) rdp.sndIss rdp.rcvIrs
  have sndIss : (rdpSendCmp { ctx with conn.rdp := rdp } none (rdpAck ||| rdpSyn) rdp.sndIss
      rdp.rcvIrs).2.conn.rdp.sndIss = rdp.sndIss := congrArg SendView.sndIss helps.sendView
  refine ⟨helps.rdpState.trans state, ?_⟩
  rw [sndIss]
  refine rdpSendCmp_syns ?_ none (.inr rfl) _
  exact quiet.sendsSyns _

/-- A closed end accepts each SYN. -/
theorem rdpNewPacket_accepts {ctx : Ctx cfg} {packet : Packet} (closed : ctx.conn.rdp.state = .closed)
    (quiet : ctx.stack.QueuesNoSyn) (rst : packet.hasRdp rdpRst = false) (syn : packet.hasRdp rdpSyn = true) :
    ∃ after, rdpNewPacket ctx packet = (false, after) ∧ after.conn.rdp.state = .synRcvd ∧
      after.stack.SendsSyns ctx.stack.io.outbox after.conn.rdp.sndIss := by
  have rst : packet.header.has rdpRst = false := rst
  have syn : packet.header.has rdpSyn = true := syn
  obtain ⟨state, accepted⟩ := rdpRecvClosed_accepts quiet syn (rdpHeaderToHost packet)
  refine ⟨(rdpRecvClosed ctx packet.header (rdpHeaderToHost packet)).ctx.free (rdpHeaderToHost packet), ?_, state,
    accepted.free (rdpHeaderToHost packet)⟩
  simp only [rdpNewPacket, rdpNewPacketBody, rst, closed, rdpRecvClosed, syn]
  rfl

/-- The start of an attempt sends its SYN with the number of the attempt. -/
theorem rdpConnectAttempt_syns {ctx : Ctx cfg} (quiet : ctx.stack.QueuesNoSyn)
    (notOpen : ctx.conn.rdp.state ≠ .open) :
    (connectResult (rdpConnectAttempt ctx)).stack.SendsSyns ctx.stack.io.outbox
      (connectResult (rdpConnectAttempt ctx)).conn.rdp.sndIss := by
  have helps := rdpSendSyn_helps { ctx with conn.rdp := rdpNewAttempt cfg ctx.stack.now ctx.conn.rdp }
  have sent : (rdpSendSyn { ctx with conn.rdp := rdpNewAttempt cfg ctx.stack.now ctx.conn.rdp }).2.stack.SendsSyns
      ctx.stack.io.outbox (rdpNewAttempt cfg ctx.stack.now ctx.conn.rdp).sndIss :=
    rdpSendSyn_syns (by exact quiet.sendsSyns _) rfl
  simp only [rdpConnectAttempt, notOpen, if_false]
  generalize rdpSendSyn _ = result at helps sent
  obtain ⟨err, after⟩ := result
  have sndIss : after.conn.rdp.sndIss = (rdpNewAttempt cfg ctx.stack.now ctx.conn.rdp).sndIss :=
    congrArg SendView.sndIss helps.sendView
  split
  · rename_i same
    cases same
    exact sndIss ▸ sent
  · rename_i same
    cases same
    have closed := connClose_syns (rdpCloseInternal_syns sent rdpClosedByProtocol false) rdpClosedByUserspace
    have kept : (connClose (rdpCloseInternal after rdpClosedByProtocol false).2
        rdpClosedByUserspace).conn.rdp.sndIss = after.conn.rdp.sndIss :=
      ((rdpCloseInternal_leaves after _ _).trans (connClose_leaves _ _)).numbers.1
    simp only [connectResult, cspClose]
    rw [kept, sndIss]
    exact closed

/-! ## One input -/

/-- The input starts another attempt to connect, or it is the SYN that a closed end accepts. -/
def beginsAttempt (rdp : Rdp) : ConnInput cfg → Bool
  | .connect => true
  | .wake retry => rdp.txWait && rdp.state == .synSent && retry
  | .arrive packet => rdp.state == .closed && !packet.hasRdp rdpRst && packet.hasRdp rdpSyn
  | _ => false

/-- A half-open answer flushes the queues and starts the second attempt. -/
theorem rdpConnectWake_again {ctx : Ctx cfg} (woken : ctx.conn.rdp.txWait = true)
    (sent : ctx.conn.rdp.state = .synSent) :
    rdpConnectWake ctx true = rdpConnectAttempt
      ⟨{ ctx.conn with rdp.txWait := false }, rdpQueueFlush ctx.stack (some ctx.conn.index)⟩ := by
  simp only [rdpConnectWake]
  rw [if_neg (by simp [sent]), if_pos (by simp [woken, sent])]

/-- Without another attempt, `csp_rdp_connect` returns, and it closes a connection that is not open. -/
theorem rdpConnectWake_within {ctx : Ctx cfg} {retry : Bool}
    (within : beginsAttempt ctx.conn.rdp (.wake retry : ConnInput cfg) = false) :
    connectResult (rdpConnectWake ctx retry) = { ctx with conn.rdp.txWait := false } ∨
      connectResult (rdpConnectWake ctx retry) =
        cspClose (rdpCloseInternal { ctx with conn.rdp.txWait := false } rdpClosedByProtocol false).2 := by
  simp only [rdpConnectWake]
  split
  · exact .inl rfl
  · split
    · rename_i again
      simp only [Bool.and_eq_true, decide_eq_true_eq] at again
      simp [beginsAttempt, again] at within
    · exact .inr rfl

/-- The rest of the node does not send for this connection, and only RDP packets arrive. -/
def ConnInput.OnlyRdp (ctx : Ctx cfg) : ConnInput cfg → Prop
  | .arrive packet => packet.id.has cspFRdp = true
  | .environment stack => stack.io.outbox = ctx.stack.io.outbox
  | _ => True

/-- Within an attempt, all SYNs have its number. -/
theorem connStep_syns {ctx : Ctx cfg} {input : ConnInput cfg} (syns : ctx.stack.SendsSyns earlier iss)
    (own : ctx.conn.rdp.state = .synRcvd → ctx.conn.rdp.sndIss = iss)
    (rdp : ctx.conn.state = .open → ctx.conn.idout.has cspFRdp = true) (onlyRdp : input.OnlyRdp ctx)
    (within : beginsAttempt ctx.conn.rdp input = false) : (connStep ctx input).stack.SendsSyns earlier iss := by
  cases input with
  | connect => cases within
  | wake retry =>
      rcases rdpConnectWake_within within with same | same
      · rw [connStep, same]
        exact syns
      · rw [connStep, same]
        refine connClose_syns (rdpCloseInternal_syns ?_ _ _) _
        exact syns
  | arrive packet =>
      have plain : ctx.conn.rdp.state = .closed → packet.hasRdp rdpRst = false → packet.hasRdp rdpSyn = false := by
        intro closed rst
        simpa [beginsAttempt, closed, rst] using within
      have flag : packet.id.has cspFRdp = true := onlyRdp
      rw [connStep, routeDeliver, if_pos flag]
      exact routeRdp_syns (rdpFinish_syns (rdpNewPacketBody_syns syns packet own plain))
  | timeouts => exact rdpCheckTimeouts_syns syns
  | send packet => exact cspSend_syns syns packet rdp
  | read => exact cspRead_syns syns
  | close => exact connClose_syns syns _
  | environment stack => exact syns.of_same onlyRdp syns.queued

/-- An attempt sends its SYNs with its own number. -/
theorem connStep_begins {ctx : Ctx cfg} {input : ConnInput cfg}
    (quiet : ctx.conn.rdp.state = .closed → ctx.stack.QueuesNoSyn) (allowed : connAllowed ctx input)
    (onlyRdp : input.OnlyRdp ctx) (begins : beginsAttempt ctx.conn.rdp input = true) :
    (connStep ctx input).stack.SendsSyns ctx.stack.io.outbox (connStep ctx input).conn.rdp.sndIss := by
  cases input with
  | connect =>
      refine rdpConnectAttempt_syns ?_ ?_
      · exact quiet allowed.2
      · simp [allowed.2]
  | wake retry =>
      simp only [beginsAttempt, Bool.and_eq_true, beq_iff_eq] at begins
      obtain ⟨⟨woken, sent⟩, rfl⟩ := begins
      rw [connStep, rdpConnectWake_again woken sent]
      refine rdpConnectAttempt_syns ?_ ?_
      · exact fun packet member => absurd member List.not_mem_nil
      · simp [sent]
  | arrive packet =>
      simp only [beginsAttempt, Bool.and_eq_true, beq_iff_eq, Bool.not_eq_true'] at begins
      obtain ⟨⟨closed, rst⟩, syn⟩ := begins
      have flag : packet.id.has cspFRdp = true := onlyRdp
      obtain ⟨after, received, _, accepted⟩ := rdpNewPacket_accepts closed (quiet closed) rst syn
      rw [connStep, routeDeliver, if_pos flag, routeRdp, received]
      exact accepted
  | timeouts => cases begins
  | send packet => cases begins
  | read => cases begins
  | close => cases begins
  | environment stack => cases begins

end Libcsp

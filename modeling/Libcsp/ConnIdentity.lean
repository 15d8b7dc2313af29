/-
This file states which fields of a connection no call changes between its creation and its close.
-/
import Libcsp.SlotCalls

namespace Libcsp

variable {cfg : Config}

/-- A connection has these fields from its creation to its close. -/
structure ConnIdentity where
  index : Nat
  type : ConnType
  idin : CspId
  idout : CspId
  sportOutgoing : UInt8
  opts : UInt32

def Conn.identity (conn : Conn cfg) : ConnIdentity :=
  ⟨conn.index, conn.type, conn.idin, conn.idout, conn.sportOutgoing, conn.opts⟩

/-- A call keeps the identity of the slot, and it may close the connection. -/
structure Conn.Lasts (conn after : Conn cfg) : Prop where
  identity : after.identity = conn.identity
  state : after.state = conn.state ∨ after.state = .closed

theorem Conn.Lasts.refl (conn : Conn cfg) : conn.Lasts conn := ⟨rfl, .inl rfl⟩

theorem Conn.Lasts.trans {first second third : Conn cfg} (left : first.Lasts second)
    (right : second.Lasts third) : first.Lasts third := by
  refine ⟨right.identity.trans left.identity, ?_⟩
  obtain same | closed := right.state
  · rw [same]
    exact left.state
  · exact .inr closed

/-- A connection in use was in use before the call. -/
theorem Conn.Lasts.inUse {conn after : Conn cfg} (lasts : conn.Lasts after) (inUse : after.state = .open) :
    conn.state = .open := by
  obtain same | closed := lasts.state
  · exact same.symm.trans inUse
  · rw [closed] at inUse
    cases inUse

theorem Conn.Lasts.index {conn after : Conn cfg} (lasts : conn.Lasts after) : after.index = conn.index :=
  congrArg ConnIdentity.index lasts.identity

theorem Ctx.Helps.lasts {ctx after : Ctx cfg} (helps : ctx.Helps after) : ctx.conn.Lasts after.conn := by
  obtain ⟨_, _, _, _, _, _, _, _, _, rfl⟩ := helps
  exact ⟨rfl, .inl rfl⟩

theorem rdpSendCmp_lasts {conn : Conn cfg} {ctx : Ctx cfg} (lasts : conn.Lasts ctx.conn)
    (packet : Option Packet) (flags : UInt8) (seqNr ackNr : UInt16) :
    conn.Lasts (rdpSendCmp ctx packet flags seqNr ackNr).2.conn :=
  lasts.trans (rdpSendCmp_helps ctx packet flags seqNr ackNr).lasts

/-! ## Close -/

theorem connClose_lasts (ctx : Ctx cfg) (closedBy : UInt8) : ctx.conn.Lasts (connClose ctx closedBy).conn := by
  obtain ⟨_, same⟩ | ⟨_, ⟨_, _, _, _, _, _, _, _, _, same⟩ |
      ⟨_, _, ⟨_, ⟨_, _, _, _, _, _, _, _, _, same⟩, _⟩, _⟩ | ⟨_, same⟩⟩ := connClose_cases ctx closedBy
  · rw [same]
    exact ⟨rfl, .inl rfl⟩
  · rw [same]
    exact ⟨rfl, .inl rfl⟩
  · rw [same]
    exact ⟨rfl, .inr rfl⟩
  · obtain ⟨_, _, _, released, _⟩ := connRelease_changes ctx
    rw [same, released]
    exact ⟨rfl, .inr rfl⟩

theorem rdpCloseInternal_lasts (ctx : Ctx cfg) (closedBy : UInt8) (sendRst : Bool) :
    ctx.conn.Lasts (rdpCloseInternal ctx closedBy sendRst).2.conn := by
  obtain ⟨_, same⟩ | ⟨_, _, _, _, _, _, _, ⟨_, same⟩ | ⟨_, same⟩⟩ :=
    rdpCloseInternal_cases ctx closedBy sendRst
  · rw [same]
    exact ⟨rfl, .inl rfl⟩
  · rw [same]
    exact ⟨rfl, .inl rfl⟩
  · rw [same]
    exact ⟨rfl, .inl rfl⟩

/-! ## The state machine -/

theorem rdpRecvRst_lasts (ctx : Ctx cfg) (header : RdpHeader) (packet : Packet) :
    ctx.conn.Lasts (rdpRecvRst ctx header packet).ctx.conn := by
  have acked : ctx.conn.Lasts (rdpRstAck ctx header).conn := by
    unfold rdpRstAck
    split
    · exact ⟨rfl, .inl rfl⟩
    · exact ⟨rfl, .inl rfl⟩
  simp only [rdpRecvRst]
  generalize rdpRstAck ctx header = before at acked
  split
  · exact acked
  · exact acked
  · split
    · apply rdpSendCmp_lasts
      exact ⟨acked.identity, acked.state⟩
    · exact acked

theorem rdpRecvClosed_lasts (ctx : Ctx cfg) (header : RdpHeader) (packet : Packet) :
    ctx.conn.Lasts (rdpRecvClosed ctx header packet).ctx.conn := by
  simp only [rdpRecvClosed]
  split
  · exact rdpSendCmp_lasts (.refl ctx.conn) _ _ _ _
  · apply rdpSendCmp_lasts
    exact ⟨rfl, .inl rfl⟩

theorem rdpRecvSynSent_lasts (ctx : Ctx cfg) (header : RdpHeader) (packet : Packet) :
    ctx.conn.Lasts (rdpRecvSynSent ctx header packet).ctx.conn := by
  simp only [rdpRecvSynSent]
  split
  · have sent : ctx.conn.Lasts (rdpSendCmp
        { ctx with conn.rdp := { ctx.conn.rdp with
          rcvCur := header.seqNr
          rcvIrs := header.seqNr
          rcvLsa := header.seqNr - 1
          sndUna := header.ackNr + 1
          ackTimestamp := ctx.stack.now
          state := .open } } none rdpAck ctx.conn.rdp.sndNxt header.seqNr).2.conn := by
      apply rdpSendCmp_lasts
      exact ⟨rfl, .inl rfl⟩
    exact ⟨sent.identity, sent.state⟩
  · split
    · have sent := rdpSendCmp_lasts (.refl ctx.conn) none rdpRst ctx.conn.rdp.sndNxt ctx.conn.rdp.rcvCur
      exact ⟨sent.identity, sent.state⟩
    · exact ⟨rfl, .inl rfl⟩

theorem rdpRecvAcked_lasts (ctx : Ctx cfg) (header : RdpHeader) (packet : Packet) :
    ctx.conn.Lasts (rdpRecvAcked ctx header packet).ctx.conn := by
  have acked : ctx.conn.Lasts { ctx.conn with rdp.sndUna := header.ackNr + 1 } := ⟨rfl, .inl rfl⟩
  simp only [rdpRecvAcked]
  split
  · split
    · exact acked.trans (rdpFlushEack_helps
        { ctx with conn.rdp.sndUna := header.ackNr + 1 } packet).lasts
    · exact acked
  · exact acked.trans (rdpRecvData_receives
      { ctx with conn.rdp.sndUna := header.ackNr + 1 } header packet).helps.lasts

theorem rdpOpenServer_lasts (ctx : Ctx cfg) : ctx.conn.Lasts (rdpOpenServer ctx).2.conn := by
  simp only [rdpOpenServer]
  split
  · exact ⟨rfl, .inl rfl⟩
  · split
    · exact ⟨rfl, .inl rfl⟩
    · exact ⟨rfl, .inl rfl⟩

theorem rdpRecvOpen_lasts (ctx : Ctx cfg) (header : RdpHeader) (packet : Packet) :
    ctx.conn.Lasts (rdpRecvOpen ctx header packet).ctx.conn := by
  simp only [rdpRecvOpen]
  split
  · split
    · exact ⟨rfl, .inl rfl⟩
    · exact ⟨rfl, .inl rfl⟩
  · split
    · split
      · exact rdpSendCmp_lasts (.refl ctx.conn) _ _ _ _
      · exact (rdpSendEack_receives ctx).helps.lasts
    · split
      · exact ⟨rfl, .inl rfl⟩
      · split
        · split
          · exact ⟨rfl, .inl rfl⟩
          · have opened := rdpOpenServer_lasts ctx
            generalize rdpOpenServer ctx = result at opened
            obtain ⟨_ | _, after⟩ := result
            · exact opened
            · exact opened.trans (rdpRecvAcked_lasts after header packet)
        · exact rdpRecvAcked_lasts ctx header packet

theorem rdpRecvCloseWait_lasts (ctx : Ctx cfg) (header : RdpHeader) (packet : Packet) :
    ctx.conn.Lasts (rdpRecvCloseWait ctx header packet).ctx.conn := by
  simp only [rdpRecvCloseWait]
  split
  · exact ⟨rfl, .inl rfl⟩
  · split
    · exact ⟨rfl, .inl rfl⟩
    · apply rdpSendCmp_lasts
      exact ⟨rfl, .inl rfl⟩

theorem rdpNewPacketBody_lasts (ctx : Ctx cfg) (packet : Packet) :
    ctx.conn.Lasts (rdpNewPacketBody ctx packet).ctx.conn := by
  simp only [rdpNewPacketBody]
  split
  · exact rdpRecvRst_lasts ctx _ _
  · split
    · exact rdpRecvClosed_lasts ctx _ _
    · exact rdpRecvSynSent_lasts ctx _ _
    · exact rdpRecvOpen_lasts ctx _ _
    · exact rdpRecvOpen_lasts ctx _ _
    · exact rdpRecvCloseWait_lasts ctx _ _

theorem rdpDiscardClose_lasts (ctx : Ctx cfg) (closedBy : UInt8) :
    ctx.conn.Lasts (rdpDiscardClose ctx closedBy).conn := by
  obtain ⟨closedBy', rxQueue, rxLog, same⟩ := rdpDiscardClose_changes ctx closedBy
  have closed := connClose_lasts ctx closedBy'
  rw [same]
  exact ⟨closed.identity, closed.state⟩

theorem rdpFinish_lasts (branch : RdpBranch cfg) : branch.ctx.conn.Lasts (rdpFinish branch).2.conn := by
  unfold rdpFinish
  split
  · exact rdpDiscardClose_lasts branch.ctx _
  · exact ⟨rfl, .inl rfl⟩
  · exact ⟨rfl, .inl rfl⟩

/-! ## The router -/

theorem routeRdp_lasts (ctx : Ctx cfg) (packet : Packet) : ctx.conn.Lasts (routeRdp ctx packet).conn := by
  have finished := (rdpNewPacketBody_lasts ctx packet).trans (rdpFinish_lasts (rdpNewPacketBody ctx packet))
  simp only [routeRdp, rdpNewPacket]
  generalize rdpFinish (rdpNewPacketBody ctx packet) = result at finished
  obtain ⟨_ | _, after⟩ := result
  · exact finished
  · exact finished.trans (connClose_lasts after _)

theorem routePost_lasts (ctx : Ctx cfg) : ctx.conn.Lasts (routePost ctx).conn := by
  simp only [routePost]
  split
  · exact ⟨rfl, .inl rfl⟩
  · split
    · exact connClose_lasts ctx _
    · exact ⟨rfl, .inl rfl⟩

theorem routePlain_lasts (ctx : Ctx cfg) (packet : Packet) : ctx.conn.Lasts (routePlain ctx packet).conn := by
  obtain ⟨rxQueue, rxLog, enqueued⟩ := connEnqueuePacket_changes ctx.conn (some packet)
  have queued : ctx.conn.Lasts (connEnqueuePacket ctx.conn (some packet)).2 := by
    rw [enqueued]
    exact ⟨rfl, .inl rfl⟩
  simp only [routePlain]
  generalize connEnqueuePacket ctx.conn (some packet) = result at queued
  obtain ⟨err, conn⟩ := result
  split
  · rename_i same
    cases same
    exact queued.trans (routePost_lasts { ctx with conn })
  · rename_i same
    cases same
    exact queued

theorem routeDeliver_lasts (ctx : Ctx cfg) (packet : Packet) :
    ctx.conn.Lasts (routeDeliver ctx packet).conn := by
  unfold routeDeliver
  split
  · exact routeRdp_lasts ctx packet
  · exact routePlain_lasts ctx packet

/-! ## Timers and calls of userspace -/

theorem rdpTimeoutOpen_lasts (ctx : Ctx cfg) : ctx.conn.Lasts (rdpTimeoutOpen ctx).conn := by
  have acked := (rdpCheckAck_answers ctx).helps.lasts
  simp only [rdpTimeoutOpen]
  split
  · split
    · split
      · exact ⟨acked.identity, acked.state⟩
      · exact acked
    · split
      · exact ⟨rfl, .inl rfl⟩
      · exact ⟨rfl, .inl rfl⟩
  · exact ⟨rfl, .inl rfl⟩

theorem rdpCheckTimeouts_lasts (ctx : Ctx cfg) : ctx.conn.Lasts (rdpCheckTimeouts ctx).conn := by
  simp only [rdpCheckTimeouts]
  split
  · exact connClose_lasts ctx _
  · split
    · split
      · exact connClose_lasts ctx _
      · exact ⟨rfl, .inl rfl⟩
    · have timed := rdpTimeoutOpen_lasts
        { ctx with stack := rdpTimeoutLoop ctx.conn ctx.stack.txQueue.size ctx.stack }
      exact timed.trans (rdpRxQueueFlush_receives _).helps.lasts

theorem rdpSend_lasts (ctx : Ctx cfg) (packet : Packet) : ctx.conn.Lasts (rdpSend ctx packet).2.2.conn := by
  simp only [rdpSend]
  split
  · exact ⟨rfl, .inl rfl⟩
  · split
    · exact ⟨rfl, .inl rfl⟩
    · simp only [rdpSendSegment]
      split
      · exact ⟨rfl, .inl rfl⟩
      · split
        · exact ⟨rfl, .inl rfl⟩
        · exact ⟨rfl, .inl rfl⟩

theorem cspSend_lasts (ctx : Ctx cfg) (packet : Packet) :
    ctx.conn.Lasts (cspSend ctx (some packet)).conn := by
  have sent := rdpSend_lasts ctx packet
  simp only [cspSend]
  split
  · exact ⟨rfl, .inl rfl⟩
  · split
    · generalize rdpSend ctx packet = result at sent
      obtain ⟨err, framed, after⟩ := result
      split
      · rename_i same
        cases same
        exact sent
      · rename_i same
        cases same
        exact sent
    · exact ⟨rfl, .inl rfl⟩

theorem cspRead_lasts (ctx : Ctx cfg) : ctx.conn.Lasts (cspRead ctx).2.conn := by
  simp only [cspRead]
  split
  · exact ⟨rfl, .inl rfl⟩
  · split
    · exact ⟨rfl, .inl rfl⟩
    · rename_i rxQueue _
      split
      · have acked := (rdpCheckAck_answers ⟨{ ctx.conn with rxQueue }, ctx.stack⟩).helps.lasts
        exact ⟨acked.identity, acked.state⟩
      · exact ⟨rfl, .inl rfl⟩

theorem rdpConnectAttempt_lasts {conn : Conn cfg} {ctx : Ctx cfg} (lasts : conn.Lasts ctx.conn) :
    conn.Lasts (rdpConnectAttempt ctx).2.conn := by
  have sent := (rdpSendSyn_helps { ctx with conn.rdp := rdpNewAttempt cfg ctx.stack.now ctx.conn.rdp }).lasts
  have started : conn.Lasts { ctx.conn with rdp := rdpNewAttempt cfg ctx.stack.now ctx.conn.rdp } :=
    ⟨lasts.identity, lasts.state⟩
  simp only [rdpConnectAttempt]
  split
  · exact lasts
  · generalize rdpSendSyn
      { ctx with conn.rdp := rdpNewAttempt cfg ctx.stack.now ctx.conn.rdp } = result at sent
    obtain ⟨err, after⟩ := result
    split
    · rename_i same
      cases same
      exact started.trans sent
    · rename_i same
      cases same
      exact (started.trans sent).trans (rdpCloseInternal_lasts after _ _)

theorem rdpConnectStart_lasts (ctx : Ctx cfg) : ctx.conn.Lasts (rdpConnectStart ctx).2.conn := by
  apply rdpConnectAttempt_lasts
  exact ⟨rfl, .inl rfl⟩

theorem rdpConnectWake_lasts (ctx : Ctx cfg) (retry : Bool) :
    ctx.conn.Lasts (rdpConnectWake ctx retry).2.conn := by
  have woken : ctx.conn.Lasts { ctx.conn with rdp.txWait := false } := ⟨rfl, .inl rfl⟩
  simp only [rdpConnectWake]
  split
  · exact woken
  · split
    · apply rdpConnectAttempt_lasts
      exact woken
    · exact woken.trans (rdpCloseInternal_lasts { ctx with conn.rdp.txWait := false } _ _)

end Libcsp

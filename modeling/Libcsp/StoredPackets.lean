/-
This file states which packets a call on one connection can leave in the queues of received packets.
-/
import Libcsp.ConnIdentity

namespace Libcsp

variable {cfg : Config}

/-- The packets in the reassembly queue, in the receive queue, and in the sockets have these properties. -/
structure Shelf where
  stored : Packet → Prop
  queued : Packet → Prop
  mailed : Nat → UInt32 → Packet → Prop

structure Ctx.Holds (ctx : Ctx cfg) (shelf : Shelf) : Prop where
  stored : ∀ packet ∈ ctx.stack.rxQueue.items, shelf.stored packet
  queued : ∀ packet, some packet ∈ ctx.conn.rxQueue.items → shelf.queued packet
  mailed : ∀ socket packet, .inl packet ∈ (ctx.stack.sockets socket).rxQueue.items →
    shelf.mailed socket (ctx.stack.sockets socket).opts packet

/-- The connection may write its tag on any stored packet, and read the packets with its tag. -/
structure Shelf.Suits (shelf : Shelf) (conn : Nat) : Prop where
  tagged : ∀ packet, shelf.stored packet → shelf.stored (packet.tagged conn)
  handed : ∀ packet, shelf.stored packet → packet.conn = conn → shelf.queued (rdpHeaderRemove packet)

variable {shelf : Shelf}

/-- All that matters are the three kinds of queues. -/
theorem Ctx.Holds.of_same {ctx after : Ctx cfg} (holds : ctx.Holds shelf)
    (rx : after.stack.rxQueue = ctx.stack.rxQueue) (queue : after.conn.rxQueue = ctx.conn.rxQueue)
    (sockets : after.stack.sockets = ctx.stack.sockets) : after.Holds shelf := by
  constructor
  · rw [rx]
    exact holds.stored
  · rw [queue]
    exact holds.queued
  · rw [sockets]
    exact holds.mailed

/-! ## Calls that store no packet -/

theorem rdpSendCmp_holds {ctx : Ctx cfg} (holds : ctx.Holds shelf) (packet : Option Packet) (flags : UInt8)
    (seqNr ackNr : UInt16) : (rdpSendCmp ctx packet flags seqNr ackNr).2.Holds shelf := by
  obtain ⟨_, _, _, _, _, same⟩ := rdpSendCmp_changes ctx packet flags seqNr ackNr
  rw [same]
  exact holds.of_same rfl rfl rfl

theorem rdpCheckAck_holds {ctx : Ctx cfg} (holds : ctx.Holds shelf) : (rdpCheckAck ctx).Holds shelf := by
  obtain ⟨_, _, _, _, same, _⟩ := rdpCheckAck_answers ctx
  rw [same]
  exact holds.of_same rfl rfl rfl

theorem rdpSendSyn_holds {ctx : Ctx cfg} (holds : ctx.Holds shelf) : (rdpSendSyn ctx).2.Holds shelf := by
  simp only [rdpSendSyn]
  split
  · exact holds.of_same rfl rfl rfl
  · apply rdpSendCmp_holds
    exact holds.of_same rfl rfl rfl

theorem rdpFlushEack_holds {ctx : Ctx cfg} (holds : ctx.Holds shelf) (eack : Packet) :
    (rdpFlushEack ctx eack).Holds shelf := by
  obtain ⟨_, _, flushed⟩ := rdpFlushEackLoop_changes ctx.conn.index ctx.conn.rdp.packetTimeout eack
    ctx.stack.txQueue.size ctx.stack
  rw [rdpFlushEack, flushed]
  exact holds.of_same rfl rfl rfl

theorem Ctx.Holds.empty {ctx after : Ctx cfg} (holds : ctx.Holds shelf)
    (rx : after.stack.rxQueue = .empty ∨ after.stack.rxQueue = ctx.stack.rxQueue)
    (queue : after.conn.rxQueue = .empty ∨ after.conn.rxQueue = ctx.conn.rxQueue)
    (sockets : after.stack.sockets = ctx.stack.sockets) : after.Holds shelf := by
  constructor
  · obtain none | same := rx
    · rw [none]
      exact fun packet member => absurd member List.not_mem_nil
    · rw [same]
      exact holds.stored
  · obtain none | same := queue
    · rw [none]
      exact fun packet member => absurd member List.not_mem_nil
    · rw [same]
      exact holds.queued
  · rw [sockets]
    exact holds.mailed

theorem connRelease_holds {ctx : Ctx cfg} (holds : ctx.Holds shelf) : (connRelease ctx).Holds shelf := by
  obtain ⟨_, _, _, same, flushed, kept⟩ := connRelease_changes ctx
  rw [same]
  refine holds.empty ?_ (.inl rfl) rfl
  cases rdp : ctx.conn.idin.has cspFRdp with
  | true => exact .inl (flushed rdp).2
  | false => exact .inr (kept rdp).2

theorem rdpCloseInternal_holds {ctx : Ctx cfg} (holds : ctx.Holds shelf) (closedBy : UInt8) (sendRst : Bool) :
    (rdpCloseInternal ctx closedBy sendRst).2.Holds shelf := by
  obtain ⟨_, same⟩ | ⟨_, _, _, _, _, _, _, ⟨_, same⟩ | ⟨_, same⟩⟩ :=
    rdpCloseInternal_cases ctx closedBy sendRst
  · rw [same]
    exact holds
  · rw [same]
    exact holds.of_same rfl rfl rfl
  · rw [same]
    exact holds.of_same rfl rfl rfl

theorem connClose_holds {ctx : Ctx cfg} (holds : ctx.Holds shelf) (closedBy : UInt8) :
    (connClose ctx closedBy).Holds shelf := by
  have closed := rdpCloseInternal_holds holds closedBy true
  unfold connClose
  split
  · exact holds
  · split
    · rw [rdpClose]
      generalize rdpCloseInternal ctx closedBy true = result at closed
      obtain ⟨err, after⟩ := result
      split
      · rename_i same
        cases same
        exact closed
      · rename_i same
        cases same
        exact connRelease_holds closed
    · exact connRelease_holds holds

/-- The NULL pointer that wakes a reader is no packet. -/
theorem connEnqueuePacket_holds {ctx : Ctx cfg} (holds : ctx.Holds shelf) (packet : Option Packet)
    (fits : ∀ stored, packet = some stored → shelf.queued stored) :
    Ctx.Holds { ctx with conn := (connEnqueuePacket ctx.conn packet).2 } shelf := by
  unfold connEnqueuePacket
  split
  · exact holds
  · rename_i rxQueue enqueued
    have items := (BoundedQueue.enqueue_eq_some.mp enqueued).2
    refine ⟨holds.stored, fun stored member => ?_, holds.mailed⟩
    have member : some stored ∈ rxQueue.items := member
    rw [items] at member
    obtain old | new := List.mem_append.mp member
    · exact holds.queued stored old
    · exact fits stored (List.mem_singleton.mp new).symm

theorem rdpDiscardClose_holds {ctx : Ctx cfg} (holds : ctx.Holds shelf) (closedBy : UInt8) :
    (rdpDiscardClose ctx closedBy).Holds shelf := by
  simp only [rdpDiscardClose]
  split
  · apply connEnqueuePacket_holds (connClose_holds holds closedBy)
    exact fun stored none => by cases none
  · exact connClose_holds holds _

theorem rdpFinish_holds {branch : RdpBranch cfg} (holds : branch.ctx.Holds shelf) :
    (rdpFinish branch).2.Holds shelf := by
  unfold rdpFinish
  split
  · exact (rdpDiscardClose_holds holds _).of_same rfl rfl rfl
  · exact holds.of_same rfl rfl rfl
  · exact holds

/-- A post to an accept queue is no packet. -/
theorem Ctx.Holds.post {ctx : Ctx cfg} (holds : ctx.Holds shelf) {socket : Nat} {stack : Stack cfg}
    (posted : ctx.stack.post socket ctx.conn.index = some stack) :
    Ctx.Holds { conn := { ctx.conn with destSocket := none }, stack } shelf := by
  unfold Stack.post at posted
  split at posted
  · cases posted
  · rename_i rxQueue enqueued
    cases posted
    have items := (BoundedQueue.enqueue_eq_some.mp enqueued).2
    refine ⟨holds.stored, holds.queued, fun other packet => ?_⟩
    by_cases same : other = socket
    · subst same
      simp only [Function.update_self, items]
      intro member
      obtain old | new := List.mem_append.mp member
      · exact holds.mailed other packet old
      · cases List.mem_singleton.mp new
    · simp only [Function.update_of_ne same]
      exact holds.mailed other packet

theorem routePost_holds {ctx : Ctx cfg} (holds : ctx.Holds shelf) : (routePost ctx).Holds shelf := by
  simp only [routePost]
  split
  · exact holds
  · split
    · exact connClose_holds holds _
    · rename_i posted
      exact holds.post posted

theorem routePlain_holds {ctx : Ctx cfg} (holds : ctx.Holds shelf) (packet : Packet)
    (fits : shelf.queued packet) : (routePlain ctx packet).Holds shelf := by
  have queued := connEnqueuePacket_holds holds (some packet) fun stored same => by
    rwa [← Option.some.inj same]
  simp only [routePlain]
  generalize connEnqueuePacket ctx.conn (some packet) = result at queued
  obtain ⟨err, conn⟩ := result
  split
  · rename_i same
    cases same
    exact routePost_holds queued
  · rename_i same
    cases same
    exact queued.of_same rfl rfl rfl

/-! ## Calls that use the reassembly queue -/

/-- An add stores the packet under the tag of the caller, or frees it. -/
theorem rdpQueueRxAdd_all {stack : Stack cfg} {Fits : Packet → Prop} (all : ∀ packet ∈ stack.rxQueue.items, Fits packet)
    (conn : Nat) {packet : Packet} (fits : Fits (packet.tagged conn)) :
    ∀ stored ∈ (rdpQueueRxAdd stack conn packet).rxQueue.items, Fits stored := by
  by_cases room : stack.rxQueue.items.length < cfg.rdpMaxWindow * 2
  · obtain ⟨queue, added, items⟩ := rdpQueueRxAdd_room stack conn packet room
    rw [added]
    intro stored member
    have member : stored ∈ queue.items := member
    rw [items] at member
    obtain old | new := List.mem_append.mp member
    · exact all stored old
    · rwa [List.mem_singleton.mp new]
  · rw [rdpQueueRxAdd_full stack conn packet (le_antisymm stack.rxQueue.bounded (not_lt.mp room))]
    exact all

section Tags
variable {Fits : Packet → Prop} {conn : Nat} (tags : ∀ packet, Fits packet → Fits (packet.tagged conn))
include tags

theorem rdpEackLoop_all (count : Nat) (eack : Packet) (space : Nat) (stack : Stack cfg)
    (all : ∀ packet ∈ stack.rxQueue.items, Fits packet) :
    ∀ packet ∈ (rdpEackLoop conn count eack space stack).2.rxQueue.items, Fits packet := by
  induction count generalizing eack space stack with
  | zero => exact all
  | succ count ih =>
      obtain ⟨found, queue, got, takes⟩ := rdpQueueRxGet_takes stack conn
      obtain ⟨rest, taken⟩ := takes.all tags all
      simp only [rdpEackLoop, got]
      cases found with
      | none => exact rest
      | some packet =>
          have added := @rdpQueueRxAdd_all cfg { stack with rxQueue := queue } Fits rest conn packet
            (tags packet (taken packet rfl))
          simp only
          split
          · exact ih _ _ _ added
          · exact ih _ _ _ added

theorem rdpSeqInRxLoop_all (seqNr : UInt16) (count : Nat) (stack : Stack cfg)
    (all : ∀ packet ∈ stack.rxQueue.items, Fits packet) :
    ∀ packet ∈ (rdpSeqInRxLoop conn seqNr count stack).2.rxQueue.items, Fits packet := by
  induction count generalizing stack with
  | zero => exact all
  | succ count ih =>
      obtain ⟨found, queue, got, takes⟩ := rdpQueueRxGet_takes stack conn
      obtain ⟨rest, taken⟩ := takes.all tags all
      simp only [rdpSeqInRxLoop, got]
      cases found with
      | none => exact rest
      | some packet =>
          have added := @rdpQueueRxAdd_all cfg { stack with rxQueue := queue } Fits rest conn packet
            (tags packet (taken packet rfl))
          simp only
          split
          · exact added
          · exact ih _ added

theorem rdpRxQueueAdd_all {stack : Stack cfg} (all : ∀ packet ∈ stack.rxQueue.items, Fits packet)
    {packet : Packet} (seqNr : UInt16) (fits : Fits (packet.tagged conn)) :
    ∀ stored ∈ (rdpRxQueueAdd stack conn packet seqNr).2.rxQueue.items, Fits stored := by
  have searched := rdpSeqInRxLoop_all tags seqNr stack.rxQueue.size stack all
  simp only [rdpRxQueueAdd, rdpSeqInRxQueue]
  generalize rdpSeqInRxLoop conn seqNr stack.rxQueue.size stack = result at searched
  obtain ⟨_ | _, after⟩ := result
  · exact rdpQueueRxAdd_all searched conn fits
  · exact searched

end Tags

theorem rdpReceiveData_holds {ctx : Ctx cfg} (holds : ctx.Holds shelf) (packet : Packet)
    (fits : shelf.queued (rdpHeaderRemove packet)) :
    Ctx.Holds { ctx with conn := (rdpReceiveData ctx.conn packet).2.1 } shelf := by
  have queued := connEnqueuePacket_holds holds (some (rdpHeaderRemove packet)) fun stored same => by
    rwa [← Option.some.inj same]
  simp only [rdpReceiveData]
  generalize connEnqueuePacket ctx.conn (some (rdpHeaderRemove packet)) = result at queued
  obtain ⟨err, conn⟩ := result
  split
  · rename_i same
    cases same
    exact queued
  · rename_i same
    cases same
    exact queued

theorem rdpSendEack_holds {ctx : Ctx cfg} (holds : ctx.Holds shelf) (suits : shelf.Suits ctx.conn.index) :
    (rdpSendEack ctx).2.Holds shelf := by
  simp only [rdpSendEack]
  split
  · exact holds.of_same rfl rfl rfl
  · rename_i packet pool _
    apply rdpSendCmp_holds
    obtain ⟨_, same⟩ := rdpEackLoop_changes ctx.conn.index ctx.stack.rxQueue.size
      { packet with length := 0 } (100 - rdpHeaderSize) { ctx.stack with io := { ctx.stack.io with pool } }
    have all := rdpEackLoop_all suits.tagged ctx.stack.rxQueue.size { packet with length := 0 }
      (100 - rdpHeaderSize) { ctx.stack with io := { ctx.stack.io with pool } } holds.stored
    refine ⟨all, holds.queued, ?_⟩
    simp only [same]
    exact holds.mailed

theorem rdpRxFlushScan_holds (count : Nat) {ctx : Ctx cfg} (holds : ctx.Holds shelf)
    (suits : shelf.Suits ctx.conn.index) : (rdpRxFlushScan count ctx).2.Holds shelf := by
  induction count generalizing ctx with
  | zero => exact holds
  | succ count ih =>
      obtain ⟨found, queue, got, takes⟩ := rdpQueueRxGet_takes ctx.stack ctx.conn.index
      obtain ⟨rest, taken⟩ := takes.all suits.tagged holds.stored
      simp only [rdpRxFlushScan, got]
      split
      · exact holds
      · cases found with
        | none => exact ⟨rest, holds.queued, holds.mailed⟩
        | some packet =>
            have fits := taken packet rfl
            simp only
            split
            · have received := rdpReceiveData_holds holds packet (suits.handed packet fits takes.own)
              generalize rdpReceiveData ctx.conn packet = result at received
              obtain ⟨err, conn, freed⟩ := result
              split
              · rename_i same
                cases same
                exact ⟨rest, received.queued, holds.mailed⟩
              · rename_i same
                cases same
                exact ⟨rest, received.queued, holds.mailed⟩
            · have added := @rdpQueueRxAdd_all cfg { ctx.stack with rxQueue := queue } shelf.stored rest
                ctx.conn.index packet (suits.tagged packet fits)
              have kept : Ctx.Holds { ctx with
                  stack := rdpQueueRxAdd { ctx.stack with rxQueue := queue } ctx.conn.index packet } shelf :=
                ⟨added, holds.queued, holds.mailed⟩
              exact ih kept suits

theorem rdpRxFlushLoop_holds (passes : Nat) {ctx : Ctx cfg} (holds : ctx.Holds shelf)
    (suits : shelf.Suits ctx.conn.index) : (rdpRxFlushLoop passes ctx).Holds shelf := by
  induction passes generalizing ctx with
  | zero => exact holds
  | succ passes ih =>
      have pass := rdpRxFlushScan_holds ctx.stack.rxQueue.size holds suits
      have index := (rdpRxFlushScan_receives ctx.stack.rxQueue.size ctx).helps.keeps.index
      simp only [rdpRxFlushLoop]
      generalize rdpRxFlushScan ctx.stack.rxQueue.size ctx = result at pass index
      obtain ⟨_ | _, after⟩ := result
      · exact pass
      · exact ih pass (index ▸ suits)

/-- Without room for a packet, the flush does not look into the reassembly queue. -/
theorem rdpRxQueueFlush_holds {ctx : Ctx cfg} (holds : ctx.Holds shelf)
    (suits : 2 < ctx.conn.rxQueue.free → shelf.Suits ctx.conn.index) : (rdpRxQueueFlush ctx).Holds shelf := by
  by_cases room : 2 < ctx.conn.rxQueue.free
  · exact rdpRxFlushLoop_holds _ holds (suits room)
  · have stops : rdpRxFlushScan ctx.stack.rxQueue.size ctx = (false, ctx) := by
      cases ctx.stack.rxQueue.size with
      | zero => rfl
      | succ count => rw [rdpRxFlushScan, if_pos (not_lt.mp room)]
    rw [rdpRxQueueFlush, rdpRxFlushLoop, stops]
    exact holds

/-! ## The state machine -/

/-- The packet may enter both queues, unless it is too short for a segment. -/
def Shelf.Takes (shelf : Shelf) (conn : Nat) (packet : Packet) : Prop :=
  rdpHeaderSize < packet.length.toNat →
    shelf.stored (packet.tagged conn) ∧ shelf.queued (rdpHeaderRemove packet)

theorem rdpRecvData_holds {ctx : Ctx cfg} (holds : ctx.Holds shelf) (suits : shelf.Suits ctx.conn.index)
    (header : RdpHeader) {packet : Packet} (takes : shelf.Takes ctx.conn.index packet) :
    (rdpRecvData ctx header packet).ctx.Holds shelf := by
  simp only [rdpRecvData]
  split
  · exact holds
  · rename_i long
    obtain ⟨stored, queued⟩ := takes (not_le.mp long)
    split
    · have added := rdpRxQueueAdd_all suits.tagged holds.stored header.seqNr stored
      obtain ⟨_, _, same⟩ := rdpRxQueueAdd_changes ctx.stack ctx.conn.index packet header.seqNr
      generalize rdpRxQueueAdd ctx.stack ctx.conn.index packet header.seqNr = result at added same
      obtain ⟨known, after⟩ := result
      have kept : Ctx.Holds { ctx with stack := after } shelf := by
        refine ⟨added, holds.queued, ?_⟩
        rw [show after = _ from same]
        exact holds.mailed
      cases known with
      | false => exact rdpCheckAck_holds kept
      | true => exact rdpSendEack_holds kept suits
    · have received := rdpReceiveData_holds holds packet queued
      obtain ⟨_, _, same⟩ := rdpReceiveData_changes ctx.conn packet
      generalize rdpReceiveData ctx.conn packet = result at received same
      obtain ⟨err, conn, freed⟩ := result
      have index : conn.index = ctx.conn.index := by rw [show conn = _ from same]
      split
      · rename_i same
        cases same
        have next : Ctx.Holds { ctx with conn := { conn with rdp.rcvCur := header.seqNr } } shelf :=
          ⟨holds.stored, received.queued, holds.mailed⟩
        apply rdpRxQueueFlush_holds (rdpCheckAck_holds next)
        rw [(rdpCheckAck_answers _).helps.keeps.index]
        exact fun _ => index ▸ suits
      · rename_i same
        cases same
        exact received

theorem rdpRecvAcked_holds {ctx : Ctx cfg} (holds : ctx.Holds shelf) (suits : shelf.Suits ctx.conn.index)
    (header : RdpHeader) {packet : Packet} (takes : shelf.Takes ctx.conn.index packet) :
    (rdpRecvAcked ctx header packet).ctx.Holds shelf := by
  have acked : Ctx.Holds { ctx with conn.rdp.sndUna := header.ackNr + 1 } shelf := holds.of_same rfl rfl rfl
  simp only [rdpRecvAcked]
  split
  · split
    · exact rdpFlushEack_holds acked packet
    · exact acked
  · exact rdpRecvData_holds acked suits header takes

theorem rdpOpenServer_holds {ctx : Ctx cfg} (holds : ctx.Holds shelf) : (rdpOpenServer ctx).2.Holds shelf := by
  have opened : Ctx.Holds { ctx with conn.rdp.state := .open } shelf := holds.of_same rfl rfl rfl
  simp only [rdpOpenServer]
  split
  · exact opened
  · split
    · exact opened
    · rename_i posted
      exact opened.post posted

theorem rdpRecvOpen_holds {ctx : Ctx cfg} (holds : ctx.Holds shelf) (suits : shelf.Suits ctx.conn.index)
    (header : RdpHeader) {packet : Packet} (takes : shelf.Takes ctx.conn.index packet) :
    (rdpRecvOpen ctx header packet).ctx.Holds shelf := by
  simp only [rdpRecvOpen]
  split
  · split
    · exact holds
    · exact holds
  · split
    · split
      · exact rdpSendCmp_holds holds _ _ _ _
      · exact rdpSendEack_holds holds suits
    · split
      · exact holds
      · split
        · split
          · exact holds
          · have opened := rdpOpenServer_holds holds
            have index := (rdpOpenServer_lasts ctx).index
            generalize rdpOpenServer ctx = result at opened index
            obtain ⟨_ | _, after⟩ := result
            · exact opened
            · exact rdpRecvAcked_holds opened (index ▸ suits) header (index ▸ takes)
        · exact rdpRecvAcked_holds holds suits header takes

theorem rdpRecvRst_holds {ctx : Ctx cfg} (holds : ctx.Holds shelf) (header : RdpHeader) (packet : Packet) :
    (rdpRecvRst ctx header packet).ctx.Holds shelf := by
  have acked : (rdpRstAck ctx header).Holds shelf := by
    unfold rdpRstAck
    split
    · exact holds.of_same rfl rfl rfl
    · exact holds
  simp only [rdpRecvRst]
  generalize rdpRstAck ctx header = before at acked
  split
  · exact acked
  · exact acked
  · split
    · apply rdpSendCmp_holds
      exact acked.of_same rfl rfl rfl
    · exact acked

theorem rdpRecvClosed_holds {ctx : Ctx cfg} (holds : ctx.Holds shelf) (header : RdpHeader) (packet : Packet) :
    (rdpRecvClosed ctx header packet).ctx.Holds shelf := by
  simp only [rdpRecvClosed]
  split
  · exact rdpSendCmp_holds holds _ _ _ _
  · apply rdpSendCmp_holds
    exact holds.of_same rfl rfl rfl

theorem rdpRecvSynSent_holds {ctx : Ctx cfg} (holds : ctx.Holds shelf) (header : RdpHeader) (packet : Packet) :
    (rdpRecvSynSent ctx header packet).ctx.Holds shelf := by
  simp only [rdpRecvSynSent]
  split
  · have sent : Ctx.Holds (rdpSendCmp
        { ctx with conn.rdp := { ctx.conn.rdp with
          rcvCur := header.seqNr
          rcvIrs := header.seqNr
          rcvLsa := header.seqNr - 1
          sndUna := header.ackNr + 1
          ackTimestamp := ctx.stack.now
          state := .open } } none rdpAck ctx.conn.rdp.sndNxt header.seqNr).2 shelf := by
      apply rdpSendCmp_holds
      exact holds.of_same rfl rfl rfl
    exact sent.of_same rfl rfl rfl
  · split
    · exact (rdpSendCmp_holds holds none rdpRst ctx.conn.rdp.sndNxt ctx.conn.rdp.rcvCur).of_same rfl rfl rfl
    · exact holds

theorem rdpRecvCloseWait_holds {ctx : Ctx cfg} (holds : ctx.Holds shelf) (header : RdpHeader) (packet : Packet) :
    (rdpRecvCloseWait ctx header packet).ctx.Holds shelf := by
  simp only [rdpRecvCloseWait]
  split
  · exact holds
  · split
    · exact holds
    · apply rdpSendCmp_holds
      exact holds.of_same rfl rfl rfl

/-- These states pass packets through the reassembly queue. -/
def Rdp.Receives (rdp : Rdp) : Prop := rdp.state = .synRcvd ∨ rdp.state = .open

/-- In the other states, no packet enters or leaves a queue. -/
theorem rdpNewPacketBody_holds {ctx : Ctx cfg} (holds : ctx.Holds shelf) {packet : Packet}
    (suits : ctx.conn.rdp.Receives → shelf.Suits ctx.conn.index)
    (takes : shelf.Takes ctx.conn.index (rdpHeaderToHost packet)) :
    (rdpNewPacketBody ctx packet).ctx.Holds shelf := by
  simp only [rdpNewPacketBody]
  split
  · exact rdpRecvRst_holds holds _ _
  · split
    · exact rdpRecvClosed_holds holds _ _
    · exact rdpRecvSynSent_holds holds _ _
    · rename_i received
      exact rdpRecvOpen_holds holds (suits (.inl received)) _ takes
    · rename_i opened
      exact rdpRecvOpen_holds holds (suits (.inr opened)) _ takes
    · exact rdpRecvCloseWait_holds holds _ _

/-- A packet enters the queues of its connection as the router hands it over. -/
theorem routeDeliver_holds {ctx : Ctx cfg} (holds : ctx.Holds shelf) {packet : Packet}
    (suits : packet.id.has cspFRdp = true → ctx.conn.rdp.Receives → shelf.Suits ctx.conn.index)
    (rdp : packet.id.has cspFRdp = true → shelf.Takes ctx.conn.index (rdpHeaderToHost packet))
    (plain : packet.id.has cspFRdp = false → shelf.queued packet) :
    (routeDeliver ctx packet).Holds shelf := by
  unfold routeDeliver
  split
  · rename_i flag
    have finished := rdpFinish_holds (rdpNewPacketBody_holds holds (suits flag) (rdp flag))
    simp only [routeRdp, rdpNewPacket]
    generalize rdpFinish (rdpNewPacketBody ctx packet) = result at finished
    obtain ⟨_ | _, after⟩ := result
    · exact finished
    · exact connClose_holds finished _
  · rename_i flag
    exact routePlain_holds holds packet (plain (Bool.eq_false_iff.mpr flag))

/-! ## Timers and calls of userspace -/

theorem rdpTimeoutOpen_holds {ctx : Ctx cfg} (holds : ctx.Holds shelf) : (rdpTimeoutOpen ctx).Holds shelf := by
  have acked := rdpCheckAck_holds holds
  simp only [rdpTimeoutOpen]
  split
  · split
    · split
      · exact acked.of_same rfl rfl rfl
      · exact acked
    · split
      · exact holds.of_same rfl rfl rfl
      · exact holds
  · exact holds

theorem rdpTimeoutOpen_rxQueue (ctx : Ctx cfg) : (rdpTimeoutOpen ctx).conn.rxQueue = ctx.conn.rxQueue := by
  obtain ⟨_, _, _, _, same, _⟩ := rdpCheckAck_answers ctx
  simp only [rdpTimeoutOpen]
  split
  · split
    · rw [same]
      split
      · rfl
      · rfl
    · split
      · rfl
      · rfl
  · rfl

/-- The timers look into the reassembly queue for the next packet. -/
def Conn.Flushes (conn : Conn cfg) : Prop := conn.rdp.state ≠ .closeWait ∧ 2 < conn.rxQueue.free

theorem rdpCheckTimeouts_holds {ctx : Ctx cfg} (holds : ctx.Holds shelf)
    (suits : ctx.conn.Flushes → shelf.Suits ctx.conn.index) : (rdpCheckTimeouts ctx).Holds shelf := by
  simp only [rdpCheckTimeouts]
  split
  · exact connClose_holds holds _
  · split
    · split
      · exact connClose_holds holds _
      · exact holds
    · rename_i live
      obtain ⟨_, _, same⟩ := rdpTimeoutLoop_changes ctx.conn ctx.stack.txQueue.size ctx.stack
      rw [same]
      apply rdpRxQueueFlush_holds
      · apply rdpTimeoutOpen_holds
        exact holds.of_same rfl rfl rfl
      · rw [(rdpTimeoutOpen_serves _).index, rdpTimeoutOpen_rxQueue]
        exact fun room => suits ⟨live, room⟩

theorem cspRead_holds {ctx : Ctx cfg} (holds : ctx.Holds shelf) : (cspRead ctx).2.Holds shelf := by
  simp only [cspRead]
  split
  · exact holds
  · split
    · exact holds
    · rename_i packet rxQueue dequeued
      have items := BoundedQueue.dequeue_eq_some.mp dequeued
      have taken : Ctx.Holds { ctx with conn := { ctx.conn with rxQueue } } shelf := by
        refine ⟨holds.stored, fun stored member => holds.queued stored ?_, holds.mailed⟩
        rw [items]
        exact List.mem_cons_of_mem _ member
      split
      · exact rdpCheckAck_holds taken
      · exact taken

theorem cspSend_holds {ctx : Ctx cfg} (holds : ctx.Holds shelf) (packet : Packet) :
    (cspSend ctx (some packet)).Holds shelf := by
  have sent : (rdpSend ctx packet).2.2.Holds shelf := by
    simp only [rdpSend]
    split
    · exact holds
    · split
      · exact holds.of_same rfl rfl rfl
      · simp only [rdpSendSegment]
        split
        · exact holds
        · split
          · exact holds.of_same rfl rfl rfl
          · exact holds.of_same rfl rfl rfl
  simp only [cspSend]
  split
  · exact holds.of_same rfl rfl rfl
  · split
    · generalize rdpSend ctx packet = result at sent
      obtain ⟨err, framed, after⟩ := result
      split
      · rename_i same
        cases same
        exact sent.of_same rfl rfl rfl
      · rename_i same
        cases same
        exact sent.of_same rfl rfl rfl
    · exact holds.of_same rfl rfl rfl

theorem rdpConnectAttempt_holds {ctx : Ctx cfg} (holds : ctx.Holds shelf) :
    (rdpConnectAttempt ctx).2.Holds shelf := by
  have sent : Ctx.Holds (rdpSendSyn
      { ctx with conn.rdp := rdpNewAttempt cfg ctx.stack.now ctx.conn.rdp }).2 shelf := by
    apply rdpSendSyn_holds
    exact holds.of_same rfl rfl rfl
  simp only [rdpConnectAttempt]
  split
  · exact holds
  · generalize rdpSendSyn
      { ctx with conn.rdp := rdpNewAttempt cfg ctx.stack.now ctx.conn.rdp } = result at sent
    obtain ⟨err, after⟩ := result
    split
    · rename_i same
      cases same
      exact sent
    · rename_i same
      cases same
      exact rdpCloseInternal_holds sent _ _

theorem rdpConnectStart_holds {ctx : Ctx cfg} (holds : ctx.Holds shelf) :
    (rdpConnectStart ctx).2.Holds shelf := by
  apply rdpConnectAttempt_holds
  exact holds.of_same rfl rfl rfl

theorem rdpConnectWake_holds {ctx : Ctx cfg} (holds : ctx.Holds shelf) (retry : Bool) :
    (rdpConnectWake ctx retry).2.Holds shelf := by
  simp only [rdpConnectWake]
  split
  · exact holds.of_same rfl rfl rfl
  · split
    · apply rdpConnectAttempt_holds
      exact holds.empty (.inl rfl) (.inr rfl) rfl
    · apply rdpCloseInternal_holds
      exact holds.of_same rfl rfl rfl

/-- A property of the stored packets that holds for each arriving segment survives each input. -/
theorem connStep_stored {ctx : Ctx cfg} (holds : ctx.Holds shelf) (suits : shelf.Suits ctx.conn.index)
    (takes : ∀ packet, shelf.Takes ctx.conn.index packet) (queued : ∀ packet, shelf.queued packet)
    (input : ConnInput cfg) : ∀ packet ∈ (connStep ctx input).stack.rxQueue.items, shelf.stored packet := by
  have result : ∀ {connected : Option CspErr × Ctx cfg}, connected.2.Holds shelf →
      ∀ packet ∈ (connectResult connected).stack.rxQueue.items, shelf.stored packet := by
    rintro ⟨_ | err, after⟩ holds
    · exact holds.stored
    · cases err with
      | none => exact holds.stored
      | _ => exact (connClose_holds holds _).stored
  cases input with
  | connect => exact result (rdpConnectStart_holds holds)
  | wake retry => exact result (rdpConnectWake_holds holds retry)
  | arrive packet =>
      exact (routeDeliver_holds holds (fun _ _ => suits) (fun _ => takes _) fun _ => queued packet).stored
  | timeouts => exact (rdpCheckTimeouts_holds holds fun _ => suits).stored
  | send packet => exact (cspSend_holds holds _).stored
  | read => exact (cspRead_holds holds).stored
  | close => exact (connClose_holds holds _).stored
  | environment stack => exact holds.stored

end Libcsp

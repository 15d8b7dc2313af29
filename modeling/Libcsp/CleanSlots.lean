/-
This file determines when a free connection slot has nothing left of its last connection.
-/
import Libcsp.SlotCalls

namespace Libcsp

variable {cfg : Config}

/-- A connection with RDP owns its RDP part. In all other slots this part is unused. -/
structure Ctx.Tidy (ctx : Ctx cfg) : Prop where
  flags : ctx.conn.state = .open → ctx.conn.idin.has cspFRdp = ctx.conn.idout.has cspFRdp
  closedBy : ctx.conn.rdp.state ≠ .closeWait → ctx.conn.rdp.closedBy = 0
  unused : ¬ctx.OpenRdp → ctx.conn.rdp.state = .closed ∧ ctx.stack.Untagged ctx.conn.index

/-- A call on one slot ends tidy, and adds no packet of another connection. -/
structure Ctx.EndsTidy (ctx after : Ctx cfg) : Prop where
  index : after.conn.index = ctx.conn.index
  shrinks : ctx.stack.Shrinks ctx.conn.index after.stack
  tidy : after.Tidy

theorem Ctx.EndsTidy.trans {first second third : Ctx cfg} (left : first.EndsTidy second)
    (right : second.EndsTidy third) : first.EndsTidy third :=
  ⟨right.index.trans left.index, left.shrinks.trans (left.index ▸ right.shrinks), right.tidy⟩

theorem Ctx.Tidy.endsTidy {ctx : Ctx cfg} (tidy : ctx.Tidy) : ctx.EndsTidy ctx :=
  ⟨rfl, .of_same rfl rfl, tidy⟩

/-- Only a connection with RDP leaves the state RDP_CLOSED. -/
theorem Ctx.Tidy.openRdp {ctx : Ctx cfg} (tidy : ctx.Tidy) (live : ctx.conn.rdp.state ≠ .closed) :
    ctx.OpenRdp := by
  by_contra idle
  exact live (tidy.unused idle).1

theorem Ctx.Keeps.openRdp {ctx after : Ctx cfg} (keeps : ctx.Keeps after) :
    after.OpenRdp ↔ ctx.OpenRdp := by
  constructor
  · intro openRdp
    exact ⟨keeps.connState ▸ openRdp.connState, keeps.idin ▸ openRdp.rdp⟩
  · intro openRdp
    exact ⟨keeps.connState.trans openRdp.connState, keeps.idin ▸ openRdp.rdp⟩

/-- A call with RDP for its connection ends tidy. -/
theorem Ctx.Serves.endsTidy {ctx after : Ctx cfg} (serves : ctx.Serves after) (tidy : ctx.Tidy)
    (openRdp : ctx.OpenRdp) : ctx.EndsTidy after := by
  refine ⟨serves.index, serves.shrinks, ?_, ?_, ?_⟩
  · rw [serves.connState, serves.idin, serves.idout]
    exact tidy.flags
  · rw [serves.rdpState, serves.closedBy]
    exact tidy.closedBy
  · exact fun idle => absurd (serves.toKeeps.openRdp.mpr openRdp) idle

/-- A call that leaves the shared queues alone ends tidy. -/
theorem Ctx.Rests.endsTidy {ctx after : Ctx cfg} (rests : ctx.Rests after) (tidy : ctx.Tidy) :
    ctx.EndsTidy after := by
  refine ⟨rests.index, rests.serves.shrinks, ?_, ?_, ?_⟩
  · rw [rests.connState, rests.idin, rests.idout]
    exact tidy.flags
  · rw [rests.rdpState, rests.closedBy]
    exact tidy.closedBy
  · intro idle
    obtain ⟨closed, untagged⟩ := tidy.unused fun openRdp => idle (rests.toKeeps.openRdp.mpr openRdp)
    exact ⟨rests.rdpState.trans closed, rests.index ▸ untagged.of_same rests.txQueue rests.rxQueue⟩

/-! ## Close -/

theorem Ctx.Releases.endsTidy {ctx after : Ctx cfg} (releases : ctx.Releases after)
    (tidy : ctx.Tidy) : ctx.EndsTidy after := by
  refine ⟨releases.index, Stack.shrinks_of_empty releases.txQueue releases.rxQueue _, ?_, ?_, ?_⟩
  · rw [releases.connState]
    simp
  · intro _
    rcases releases.closedBy with none | ⟨closed, same⟩
    · exact none
    · rw [same]
      exact tidy.closedBy (by simp [closed])
  · exact fun _ => ⟨releases.rdpState,
      Stack.untagged_of_empty releases.txQueue releases.rxQueue _⟩

/-- A slot is free, or it has a connection with RDP, or one without. -/
theorem Ctx.Tidy.kinds {ctx : Ctx cfg} (tidy : ctx.Tidy) :
    ctx.conn.state = .closed ∨ ctx.OpenRdp ∨ ¬ctx.OpenRdp ∧ ctx.conn.usesRdp = false := by
  cases state : ctx.conn.state with
  | closed => exact .inl rfl
  | «open» =>
      cases rdp : ctx.conn.idin.has cspFRdp with
      | true => exact .inr (.inl ⟨state, rdp⟩)
      | false =>
          refine .inr (.inr ⟨fun openRdp => absurd openRdp.rdp (by simp [rdp]), ?_⟩)
          simp [Conn.usesRdp, ← tidy.flags state, rdp]

theorem connClose_endsTidy (ctx : Ctx cfg) (closedBy : UInt8) (tidy : ctx.Tidy) :
    ctx.EndsTidy (connClose ctx closedBy) := by
  rcases tidy.kinds with free | openRdp | ⟨idle, uses⟩
  · rw [connClose_closed ctx closedBy free]
    exact tidy.endsTidy
  · rcases connClose_rdp ctx closedBy openRdp with ⟨_, _, waits⟩ | ⟨_, releases⟩
    · have inUse : Ctx.OpenRdp { ctx with
          conn.rdp.state := .closeWait
          conn.rdp.closedBy := ctx.conn.rdp.closedBy ||| closedBy } :=
        ⟨openRdp.connState, openRdp.rdp⟩
      have ends := waits.endsTidy
        ⟨tidy.flags, fun other => absurd rfl other, fun idle => absurd inUse idle⟩
      exact ⟨ends.index, ends.shrinks, ends.tidy⟩
    · exact releases.endsTidy tidy
  · have ends := (connClose_plain ctx closedBy uses).endsTidy
      ⟨(fun inUse => by cases inUse), tidy.closedBy, fun _ => tidy.unused idle⟩
    exact ⟨ends.index, ends.shrinks, ends.tidy⟩

/-! ## Packets -/

theorem Ctx.Rests.of_queue (ctx : Ctx cfg)
    (rxQueue : BoundedQueue (Option Packet) cfg.connRxqueueLen) (rxLog : List (Option Packet)) :
    ctx.Rests { ctx with conn := { ctx.conn with rxQueue, rxLog } } :=
  ⟨⟨rfl, rfl, rfl, rfl, rfl, rfl, rfl, rfl⟩, rfl, rfl⟩

theorem Ctx.Rests.refl (ctx : Ctx cfg) : ctx.Rests ctx :=
  ⟨⟨rfl, rfl, rfl, rfl, rfl, rfl, rfl, rfl⟩, rfl, rfl⟩

theorem Ctx.Tidy.free {ctx : Ctx cfg} (tidy : ctx.Tidy) (packet : Packet) :
    ctx.EndsTidy (ctx.free packet) := ((Ctx.Rests.refl ctx).free packet).endsTidy tidy

/-- A post to an accept queue leaves the shared queues alone. -/
theorem Ctx.Tidy.post {ctx : Ctx cfg} {socket : Nat} {stack : Stack cfg} (tidy : ctx.Tidy)
    (posted : ctx.stack.post socket ctx.conn.index = some stack) :
    ctx.EndsTidy { conn := { ctx.conn with destSocket := none }, stack } := by
  obtain ⟨_, rfl⟩ := Stack.post_changes posted
  refine ⟨rfl, .of_same rfl rfl, tidy.flags, tidy.closedBy, fun idle => ?_⟩
  have unused := tidy.unused fun openRdp => idle ⟨openRdp.connState, openRdp.rdp⟩
  exact ⟨unused.1, unused.2.of_same rfl rfl⟩

theorem Ctx.Moves.endsTidy {ctx moved : Ctx cfg} (moves : ctx.Moves moved) (tidy : ctx.Tidy)
    (openRdp : ctx.OpenRdp) : ctx.EndsTidy moved ∧ moved.OpenRdp := by
  cases moves with
  | state state live waits =>
      have inUse : Ctx.OpenRdp { ctx with conn.rdp.state := state } := ⟨openRdp.connState, openRdp.rdp⟩
      refine ⟨⟨rfl, .of_same rfl rfl, tidy.flags, ?_, fun idle => absurd inUse idle⟩, inUse⟩
      exact fun other => tidy.closedBy fun waiting => other (waits waiting)
  | @post socket stack received waits posted =>
      obtain ⟨_, rfl⟩ := Stack.post_changes posted
      refine ⟨⟨rfl, .of_same rfl rfl, tidy.flags, ?_, ?_⟩, openRdp.connState, openRdp.rdp⟩
      · exact fun _ => tidy.closedBy (by simp [received])
      · exact fun idle => absurd ⟨openRdp.connState, openRdp.rdp⟩ idle

theorem Ctx.GoesOn.endsTidy {ctx after : Ctx cfg} (goesOn : ctx.GoesOn after)
    (tidy : ctx.Tidy) (openRdp : ctx.OpenRdp) : ctx.EndsTidy after := by
  obtain ⟨moved, moves, serves⟩ := goesOn
  obtain ⟨ends, inUse⟩ := moves.endsTidy tidy openRdp
  exact ends.trans (serves.endsTidy ends.tidy inUse)

/-- A SYN may start a handshake only on a connection with RDP. -/
theorem rdpNewPacketBody_endsTidy (ctx : Ctx cfg) (packet : Packet) (tidy : ctx.Tidy)
    (noSyn : ctx.OpenRdp ∨ packet.hasRdp rdpRst = true ∨ packet.hasRdp rdpSyn = false) :
    ctx.EndsTidy (rdpNewPacketBody ctx packet).ctx := by
  by_cases closed : ctx.conn.rdp.state = .closed
  · by_cases start : packet.hasRdp rdpRst = true ∨ packet.hasRdp rdpSyn = false
    · exact (rdpNewPacketBody_rests ctx packet closed start).2.endsTidy tidy
    · have openRdp := noSyn.resolve_right start
      rw [not_or, Bool.not_eq_true, Bool.not_eq_false] at start
      obtain ⟨_, serves⟩ := rdpNewPacketBody_syn ctx packet closed start.2 start.1
      have inUse : Ctx.OpenRdp { ctx with conn.rdp.state := .synRcvd } :=
        ⟨openRdp.connState, openRdp.rdp⟩
      have ends := serves.endsTidy
        ⟨tidy.flags, fun _ => tidy.closedBy (by simp [closed]), fun idle => absurd inUse idle⟩ inUse
      exact ⟨ends.index, ends.shrinks, ends.tidy⟩
  · exact (rdpNewPacketBody_goesOn ctx packet closed).2.endsTidy tidy (tidy.openRdp closed)

theorem rdpDiscardClose_endsTidy (ctx : Ctx cfg) (closedBy : UInt8) (tidy : ctx.Tidy) :
    ctx.EndsTidy (rdpDiscardClose ctx closedBy) := by
  obtain ⟨closedBy', rxQueue, rxLog, same⟩ := rdpDiscardClose_changes ctx closedBy
  rw [same]
  have ends := connClose_endsTidy ctx closedBy' tidy
  exact ends.trans ((Ctx.Rests.of_queue _ rxQueue rxLog).endsTidy ends.tidy)

theorem rdpFinish_endsTidy (branch : RdpBranch cfg) (tidy : branch.ctx.Tidy) :
    branch.ctx.EndsTidy (rdpFinish branch).2 := by
  unfold rdpFinish
  split
  · rename_i closedBy _
    have ends := rdpDiscardClose_endsTidy branch.ctx closedBy tidy
    exact ends.trans (ends.tidy.free branch.packet)
  · exact tidy.free branch.packet
  · exact tidy.endsTidy

theorem routeRdp_endsTidy (ctx : Ctx cfg) (packet : Packet) (tidy : ctx.Tidy)
    (noSyn : ctx.OpenRdp ∨ packet.hasRdp rdpRst = true ∨ packet.hasRdp rdpSyn = false) :
    ctx.EndsTidy (routeRdp ctx packet) := by
  have body := rdpNewPacketBody_endsTidy ctx packet tidy noSyn
  have ends := body.trans (rdpFinish_endsTidy _ body.tidy)
  simp only [routeRdp, rdpNewPacket]
  generalize rdpFinish (rdpNewPacketBody ctx packet) = result at ends
  obtain ⟨_ | _, after⟩ := result
  · exact ends
  · exact ends.trans (connClose_endsTidy after _ ends.tidy)

theorem routePlain_endsTidy (ctx : Ctx cfg) (packet : Packet) (tidy : ctx.Tidy) :
    ctx.EndsTidy (routePlain ctx packet) := by
  obtain ⟨rxQueue, rxLog, enqueued⟩ := connEnqueuePacket_changes ctx.conn (some packet)
  have queued := (Ctx.Rests.of_queue ctx rxQueue rxLog).endsTidy tidy
  simp only [routePlain]
  generalize connEnqueuePacket ctx.conn (some packet) = result at enqueued
  obtain ⟨err, conn⟩ := result
  rw [show conn = _ from enqueued]
  split
  · rename_i same
    cases same
    refine queued.trans ?_
    simp only [routePost]
    split
    · exact queued.tidy.endsTidy
    · split
      · exact connClose_endsTidy _ _ queued.tidy
      · rename_i posted
        exact queued.tidy.post posted
  · rename_i same
    cases same
    exact queued.trans (queued.tidy.free packet)

/-- The packet is no SYN of an RDP handshake, or the connection has RDP. -/
def Conn.TakesHandshake (conn : Conn cfg) (packet : Packet) : Prop :=
  packet.id.has cspFRdp = true → packet.hasRdp rdpSyn = true → packet.hasRdp rdpRst = false →
    conn.idin.has cspFRdp = true

theorem routeDeliver_endsTidy (ctx : Ctx cfg) (packet : Packet) (tidy : ctx.Tidy)
    (inUse : ctx.conn.state = .open) (takes : ctx.conn.TakesHandshake packet) :
    ctx.EndsTidy (routeDeliver ctx packet) := by
  unfold routeDeliver
  split
  · rename_i rdp
    refine routeRdp_endsTidy ctx packet tidy ?_
    cases reset : packet.hasRdp rdpRst with
    | true => exact .inr (.inl rfl)
    | false =>
        cases syn : packet.hasRdp rdpSyn with
        | true => exact .inl ⟨inUse, takes rdp syn reset⟩
        | false => exact .inr (.inr rfl)
  · exact routePlain_endsTidy ctx packet tidy

/-! ## Timers and calls of userspace -/

theorem rdpCheckTimeouts_endsTidy (ctx : Ctx cfg) (tidy : ctx.Tidy) (openRdp : ctx.OpenRdp) :
    ctx.EndsTidy (rdpCheckTimeouts ctx) := by
  simp only [rdpCheckTimeouts]
  split
  · exact connClose_endsTidy ctx _ tidy
  · split
    · split
      · exact connClose_endsTidy ctx _ tidy
      · exact tidy.endsTidy
    · exact (rdpTimeoutPackets_serves ctx).endsTidy tidy openRdp

theorem cspSend_endsTidy (ctx : Ctx cfg) (packet : Packet) (tidy : ctx.Tidy) :
    ctx.EndsTidy (cspSend ctx (some packet)) := by
  by_cases openRdp : ctx.OpenRdp
  · exact (cspSend_serves ctx packet).endsTidy tidy openRdp
  · refine (cspSend_rests ctx packet ?_).endsTidy tidy
    by_cases inUse : ctx.conn.state = .open
    · refine .inr ?_
      rw [← tidy.flags inUse]
      exact Bool.eq_false_iff.mpr fun rdp => openRdp ⟨inUse, rdp⟩
    · exact .inl inUse

theorem rdpCloseInternal_endsTidy (ctx : Ctx cfg) (closedBy : UInt8) (sendRst : Bool)
    (tidy : ctx.Tidy) : ctx.EndsTidy (rdpCloseInternal ctx closedBy sendRst).2 := by
  rcases rdpCloseInternal_cases ctx closedBy sendRst with ⟨_, same⟩ |
    ⟨live, _, _, _, _, _, _, ⟨_, same⟩ | ⟨_, same⟩⟩
  · rw [same]
    exact tidy.endsTidy
  · have openRdp := tidy.openRdp live
    rw [same]
    refine ⟨rfl, .of_same rfl rfl, tidy.flags, fun other => absurd rfl other, fun idle => ?_⟩
    exact absurd ⟨openRdp.connState, openRdp.rdp⟩ idle
  · have openRdp := tidy.openRdp live
    rw [same]
    refine ⟨rfl, .of_same rfl rfl, tidy.flags, fun _ => rfl, fun idle => ?_⟩
    exact absurd ⟨openRdp.connState, openRdp.rdp⟩ idle

/-- An attempt of `csp_rdp_connect` starts behind no close. -/
theorem rdpConnectAttempt_endsTidy (ctx : Ctx cfg) (tidy : ctx.Tidy) (openRdp : ctx.OpenRdp)
    (early : ctx.conn.rdp.state ≠ .closeWait) :
    ctx.EndsTidy (rdpConnectAttempt ctx).2 := by
  have inUse : Ctx.OpenRdp
      { ctx with conn.rdp := rdpNewAttempt cfg ctx.stack.now ctx.conn.rdp } :=
    ⟨openRdp.connState, openRdp.rdp⟩
  have sent := (rdpSendSyn_serves
      { ctx with conn.rdp := rdpNewAttempt cfg ctx.stack.now ctx.conn.rdp }).endsTidy
    ⟨tidy.flags, fun _ => tidy.closedBy early, fun idle => absurd inUse idle⟩ inUse
  have ends : ctx.EndsTidy (rdpSendSyn
      { ctx with conn.rdp := rdpNewAttempt cfg ctx.stack.now ctx.conn.rdp }).2 :=
    ⟨sent.index, sent.shrinks, sent.tidy⟩
  simp only [rdpConnectAttempt]
  split
  · exact tidy.endsTidy
  · generalize rdpSendSyn
      { ctx with conn.rdp := rdpNewAttempt cfg ctx.stack.now ctx.conn.rdp } = result at ends
    obtain ⟨err, after⟩ := result
    split
    · rename_i same
      cases same
      exact ends
    · rename_i same
      cases same
      exact ends.trans (rdpCloseInternal_endsTidy after _ _ ends.tidy)

theorem rdpConnectStart_endsTidy (ctx : Ctx cfg) (tidy : ctx.Tidy) (openRdp : ctx.OpenRdp)
    (early : ctx.conn.rdp.state ≠ .closeWait) :
    ctx.EndsTidy (rdpConnectStart ctx).2 := by
  have ends := rdpConnectAttempt_endsTidy
    { ctx with conn.rdp := { ctx.conn.rdp with
      windowSize := ctx.stack.options.windowSize
      connTimeout := ctx.stack.options.connTimeout
      packetTimeout := ctx.stack.options.packetTimeout
      delayedAcks := ctx.stack.options.delayedAcks
      ackTimeout := ctx.stack.options.ackTimeout
      ackDelayCount := ctx.stack.options.ackDelayCount
      ackTimestamp := ctx.stack.now } }
    ⟨tidy.flags, tidy.closedBy, fun idle => absurd ⟨openRdp.connState, openRdp.rdp⟩ idle⟩
    ⟨openRdp.connState, openRdp.rdp⟩ early
  exact ⟨ends.index, ends.shrinks, ends.tidy⟩

theorem rdpConnectWake_endsTidy (ctx : Ctx cfg) (retry : Bool) (tidy : ctx.Tidy) :
    ctx.EndsTidy (rdpConnectWake ctx retry).2 := by
  have consumed : Ctx.Tidy { ctx with conn.rdp.txWait := false } := by
    refine ⟨tidy.flags, tidy.closedBy, fun idle => tidy.unused fun openRdp => idle ?_⟩
    exact ⟨openRdp.connState, openRdp.rdp⟩
  simp only [rdpConnectWake]
  split
  · exact ⟨rfl, .of_same rfl rfl, consumed⟩
  · split
    · rename_i again
      have sent : ctx.conn.rdp.state = .synSent := by simp_all
      have openRdp := tidy.openRdp (by simp [sent])
      have ends := rdpConnectAttempt_endsTidy
        ⟨{ ctx.conn with rdp := { ctx.conn.rdp with txWait := false } },
          rdpQueueFlush ctx.stack (some ctx.conn.index)⟩
        ⟨tidy.flags, tidy.closedBy, fun idle => absurd ⟨openRdp.connState, openRdp.rdp⟩ idle⟩
        ⟨openRdp.connState, openRdp.rdp⟩ (by simp [sent])
      exact ⟨ends.index, (Stack.shrinks_of_empty rfl rfl _).trans ends.shrinks, ends.tidy⟩
    · have ends := rdpCloseInternal_endsTidy _ rdpClosedByProtocol false consumed
      exact ⟨ends.index, ends.shrinks, ends.tidy⟩

/-! ## Nodes -/

/-- Each slot of the node is tidy and in its place. -/
structure Node.Tidy (node : Node cfg) : Prop where
  index : ∀ slot, (node.conns slot).index = slot
  slots : ∀ slot, (node.ctx slot).Tidy

/-- The slot has nothing left of its last RDP connection. -/
structure Node.CleanSlot (node : Node cfg) (slot : Nat) : Prop where
  rdpState : (node.conns slot).rdp.state = .closed
  closedBy : (node.conns slot).rdp.closedBy = 0
  untagged : node.stack.Untagged slot

theorem Node.Tidy.clean {node : Node cfg} (tidy : node.Tidy) {slot : Nat}
    (free : (node.conns slot).state = .closed) : node.CleanSlot slot := by
  have idle : ¬(node.ctx slot).OpenRdp := by
    intro openRdp
    have inUse : (node.conns slot).state = .open := openRdp.connState
    rw [free] at inUse
    cases inUse
  obtain ⟨closed, untagged⟩ := (tidy.slots slot).unused idle
  have index : (node.ctx slot).conn.index = slot := tidy.index slot
  refine ⟨closed, (tidy.slots slot).closedBy (by simp [closed]), ?_⟩
  rw [index] at untagged
  exact untagged

theorem Node.Tidy.put {node : Node cfg} (tidy : node.Tidy) {slot : Nat} {after : Ctx cfg}
    (ends : (node.ctx slot).EndsTidy after) : (node.put slot after).Tidy := by
  constructor
  · intro other
    by_cases same : other = slot
    · subst same
      simpa [Node.put, Slots.put] using ends.index.trans (tidy.index other)
    · simpa [Node.put, Slots.put, same] using tidy.index other
  · intro other
    by_cases same : other = slot
    · subst same
      simpa [Node.put, Slots.put, Slots.ctx] using ends.tidy
    · simp only [Node.put, Slots.put, Slots.ctx, Function.update_of_ne same]
      have slotTidy := tidy.slots other
      refine ⟨slotTidy.flags, slotTidy.closedBy, fun idle => ?_⟩
      obtain ⟨closed, untagged⟩ := slotTidy.unused fun openRdp =>
        idle ⟨openRdp.connState, openRdp.rdp⟩
      have different : (node.conns other).index ≠ (node.conns slot).index := by
        rw [tidy.index other, tidy.index slot]
        exact same
      exact ⟨closed, untagged.shrinks ends.shrinks different⟩

/-- All that matters are the connections and the shared queues. -/
theorem Node.Tidy.of_same {node after : Node cfg} (tidy : node.Tidy)
    (conns : after.conns = node.conns) (tx : after.stack.txQueue = node.stack.txQueue)
    (rx : after.stack.rxQueue = node.stack.rxQueue) : after.Tidy := by
  constructor
  · intro slot
    rw [conns]
    exact tidy.index slot
  · intro slot
    have slotTidy := tidy.slots slot
    simp only [Slots.ctx] at slotTidy ⊢
    rw [conns]
    refine ⟨slotTidy.flags, slotTidy.closedBy, fun idle => ?_⟩
    have unused := slotTidy.unused fun openRdp => idle ⟨openRdp.connState, openRdp.rdp⟩
    exact ⟨unused.1, unused.2.of_same tx rx⟩

/-- A new connection finds its slot clean. -/
theorem Node.Tidy.allocate {node : Node cfg} (tidy : node.Tidy) {slot : Nat} {conn : Conn cfg}
    {idin idout : CspId} (allocated : (node.conns slot).Allocated conn idin idout)
    (flags : idin.has cspFRdp = idout.has cspFRdp) (io : Io cfg) (lastGiven : UInt8) :
    (node.allocate slot conn io lastGiven).Tidy := by
  have clean := tidy.clean allocated.free
  have ends : (node.ctx slot).EndsTidy ⟨conn, node.stack⟩ := by
    refine ⟨allocated.index, .of_same rfl rfl, ?_, ?_, ?_⟩
    · rw [allocated.idin, allocated.idout]
      exact fun _ => flags
    · rw [allocated.rdp]
      exact (tidy.slots slot).closedBy
    · rw [allocated.rdp, allocated.index, tidy.index slot]
      exact fun _ => ⟨clean.rdpState, clean.untagged⟩
  exact (tidy.put ends).of_same rfl rfl rfl

/-! ## Steps -/

theorem connectReturns_tidy (node : Node cfg) (slot : Nat) (retry : Bool)
    (result : Option CspErr × Ctx cfg) (tidy : node.Tidy)
    (ends : (node.ctx slot).EndsTidy result.2) : (connectReturns node slot retry result).Tidy := by
  have put := tidy.put ends
  unfold connectReturns
  split
  · exact put.of_same rfl rfl rfl
  · exact put.of_same rfl rfl rfl
  · rename_i after _
    exact (tidy.put (ends.trans (connClose_endsTidy after _ ends.tidy))).of_same rfl rfl rfl

/-- A client with RDP starts from the state RDP_CLOSED. -/
theorem Node.Tidy.connectStart {node : Node cfg} (tidy : node.Tidy) {slot : Nat} {conn : Conn cfg}
    {idin idout : CspId} (allocated : (node.conns slot).Allocated conn idin idout)
    (flags : idin.has cspFRdp = idout.has cspFRdp) (io : Io cfg) (lastGiven : UInt8)
    (rdp : idin.has cspFRdp = true) :
    ((node.allocate slot conn io lastGiven).ctx slot).EndsTidy
      (rdpConnectStart ((node.allocate slot conn io lastGiven).ctx slot)).2 := by
  have same : ((node.allocate slot conn io lastGiven).ctx slot).conn = conn :=
    node.allocate_conns slot conn io lastGiven
  have opened := (tidy.allocate allocated flags io lastGiven).slots slot
  refine rdpConnectStart_endsTidy _ opened ⟨?_, ?_⟩ ?_
  · rw [same, allocated.inUse]
  · rw [same, allocated.idin]
    exact rdp
  · rw [same, allocated.rdp, (tidy.clean allocated.free).rdpState]
    simp

theorem cspConnect_tidy (node : Node cfg) (prio : UInt8) (dest : UInt16) (dport : UInt8)
    (opts : UInt32) (tidy : node.Tidy) : (cspConnect node prio dest dport opts).Tidy := by
  rcases cspConnect_cases node prio dest dport opts with same |
    ⟨slot, conn, io, lastGiven, idin, idout, allocated, flags, _, same⟩
  · rw [same]
    exact tidy
  · have opened := tidy.allocate allocated flags io lastGiven
    rw [same]
    split
    · rename_i rdp
      exact connectReturns_tidy _ slot true _ opened
        (tidy.connectStart allocated flags io lastGiven rdp)
    · exact opened.of_same rfl rfl rfl

theorem checkTimeoutsOn_tidy (slots : List Nat) (node : Node cfg) (tidy : node.Tidy) :
    (checkTimeoutsOn slots node).Tidy := by
  induction slots generalizing node with
  | nil => exact tidy
  | cons slot rest ih =>
      simp only [checkTimeoutsOn]
      split
      · rename_i openRdp
        rw [Bool.and_eq_true, decide_eq_true_eq] at openRdp
        exact ih _ (tidy.put (rdpCheckTimeouts_endsTidy _ (tidy.slots slot) ⟨openRdp.1, openRdp.2⟩))
      · exact ih node tidy

/-- The router does not hand the SYN of an RDP handshake to a connection without RDP. -/
def Routed.KeepsHandshakes : Routed cfg → Prop
  | .done _ => True
  | .deliver node slot packet => (node.conns slot).TakesHandshake packet

theorem Node.Routes.finish_tidy {node : Node cfg} {routed : Routed cfg} (routes : node.Routes routed)
    (tidy : node.Tidy) (keeps : routed.KeepsHandshakes) : routed.finish.Tidy := by
  cases routes with
  | done io sockets dedup calledBack => exact tidy.of_same rfl rfl rfl
  | @found io dedup slot packet inUse =>
      have before : Node.Tidy { node with stack.io := io, dedup } := tidy.of_same rfl rfl rfl
      exact before.put (routeDeliver_endsTidy _ packet (before.slots slot) inUse keeps)
  | @opened io dedup lastGiven slot conn packet allocated waits =>
      have before : Node.Tidy { node.allocate slot conn io lastGiven with dedup } :=
        (tidy.allocate allocated rfl io lastGiven).of_same rfl rfl rfl
      have inUse : ((node.allocate slot conn io lastGiven).conns slot).state = .open := by
        rw [node.allocate_conns]
        exact allocated.inUse
      exact before.put (routeDeliver_endsTidy _ packet (before.slots slot) inUse keeps)

theorem Node.Tidy.wake {node : Node cfg} (tidy : node.Tidy) (slot : Nat) : (node.wake slot).Tidy := by
  unfold Node.wake
  split
  · exact tidy
  · rename_i retry _
    exact connectReturns_tidy node slot false _ tidy
      (rdpConnectWake_endsTidy _ retry (tidy.slots slot))

/-- The router hands each SYN of an RDP handshake to a connection with RDP. -/
def NodeInput.KeepsHandshakes (node : Node cfg) : NodeInput cfg → Prop
  | .route (some (ingress, packet)) =>
      (routeInput (connCheckTimeouts node) ingress packet).KeepsHandshakes
  | _ => True

theorem nodeStep_tidy (node : Node cfg) (input : NodeInput cfg) (tidy : node.Tidy)
    (keeps : input.KeepsHandshakes node) : (nodeStep node input).Tidy := by
  cases input with
  | connect prio dest dport opts => exact cspConnect_tidy node prio dest dport opts tidy
  | wake slot => exact tidy.wake slot
  | route input =>
      have timers : (connCheckTimeouts node).Tidy := checkTimeoutsOn_tidy _ node tidy
      cases input with
      | none => exact timers
      | some arrival => exact (routeInput_routes _ arrival.1 arrival.2).finish_tidy timers keeps
  | accept socket =>
      simp only [nodeStep, cspAccept]
      split
      · exact tidy
      · exact tidy.of_same rfl rfl rfl
  | send slot packet => exact tidy.put (cspSend_endsTidy _ packet (tidy.slots slot))
  | read slot => exact tidy.put ((cspRead_rests _).endsTidy (tidy.slots slot))
  | close slot =>
      exact (tidy.put (connClose_endsTidy _ rdpClosedByUserspace (tidy.slots slot))).of_same rfl rfl rfl
  | environment environment => exact tidy.of_same rfl rfl rfl

/-- A node is tidy behind its start. -/
theorem nodeInit_tidy (io : Io cfg) (content : Nat → Conn cfg) : (Node.init io content).Tidy := by
  refine ⟨fun slot => rfl, fun slot => ⟨(fun inUse => by cases inUse), fun _ => rfl, fun _ => ⟨rfl, ?_⟩⟩⟩
  exact Stack.untagged_of_empty rfl rfl slot

theorem nodeMachine_tidy {node : Node cfg}
    (reached : ((nodeMachine cfg).restrict fun node input => input.KeepsHandshakes node).Reachable node) :
    node.Tidy := by
  refine Machine.Reachable.invariant ?_ ?_ reached
  · rintro _ ⟨io, content, rfl⟩
    exact nodeInit_tidy io content
  · intro node input tidy allowed
    exact nodeStep_tidy node input tidy allowed.2

/-- As long as handshakes run only on connections with RDP, each free slot is clean. -/
theorem freeSlots_clean {node : Node cfg}
    (reached : ((nodeMachine cfg).restrict fun node input => input.KeepsHandshakes node).Reachable node) :
    ∀ slot, (node.conns slot).state = .closed → node.CleanSlot slot :=
  fun _ free => (nodeMachine_tidy reached).clean free

/-! ## Concrete runs -/

instance (conn : Conn cfg) (packet : Packet) : Decidable (conn.TakesHandshake packet) :=
  inferInstanceAs (Decidable (_ → _ → _ → _))

instance : ∀ routed : Routed cfg, Decidable routed.KeepsHandshakes
  | .done _ => .isTrue trivial
  | .deliver node slot packet => inferInstanceAs (Decidable ((node.conns slot).TakesHandshake packet))

instance (node : Node cfg) : ∀ input : NodeInput cfg, Decidable (input.KeepsHandshakes node)
  | .route (some (ingress, packet)) =>
      inferInstanceAs (Decidable (routeInput (connCheckTimeouts node) ingress packet).KeepsHandshakes)
  | .route none => .isTrue trivial
  | .connect .. => .isTrue trivial
  | .wake _ => .isTrue trivial
  | .accept _ => .isTrue trivial
  | .send .. => .isTrue trivial
  | .read _ => .isTrue trivial
  | .close _ => .isTrue trivial
  | .environment _ => .isTrue trivial

instance (node : Node cfg) (input : NodeInput cfg) : Decidable ((nodeMachine cfg).allowed node input) :=
  .isTrue trivial

instance (node : Node cfg) (input : NodeInput cfg) :
    Decidable (((nodeMachine cfg).restrict fun node input => input.KeepsHandshakes node).allowed
      node input) :=
  inferInstanceAs (Decidable (_ ∧ _))

/-- A node with its loopback interface and no connections. -/
def idleNode : Node {} := Node.init (Io.init {} (fun _ => default) [] []) default

theorem idleNode_reachable (condition : Node {} → NodeInput {} → Prop) :
    ((nodeMachine {}).restrict condition).Reachable idleNode := .start ⟨_, _, rfl⟩

/-- An RDP client finds no server, and its close times out. -/
def lonelyClient : List (NodeInput {}) :=
  [.connect 2 5 10 cspSoRdpReq, .wake 1,
    .environment { idleNode with stack := { idleNode.stack with now := 20000 } }, .route none]

theorem lonelyClient_clean :
    (((nodeMachine {}).trace idleNode lonelyClient).conns 1).state = .closed ∧
      ((nodeMachine {}).trace idleNode lonelyClient).CleanSlot 1 :=
  ⟨by decide +kernel,
    freeSlots_clean ((idleNode_reachable _).traceRestrict lonelyClient (by decide +kernel)) 1
      (by decide +kernel)⟩

/-- The peer of a connection without RDP answers with the SYN of an RDP handshake. -/
def strayHandshake : List (NodeInput {}) :=
  [.connect 2 5 10 0,
    .route (some (0, { synSegment 7 with
      id := { (default : CspId) with flags := cspFRdp, dport := 18 } })),
    .close 1]

/-- The free slot keeps the state RDP_SYN_RCVD and its packet in the retransmission queue. -/
theorem strayHandshake_dirty :
    ¬∀ node : Node {}, (nodeMachine {}).Reachable node → ∀ slot < 8,
      (node.conns slot).state = .closed → node.CleanSlot slot := by
  intro clean
  have start : (nodeMachine {}).Reachable idleNode := .start ⟨_, _, rfl⟩
  have reached := start.trace strayHandshake (by decide +kernel)
  have slot := clean ((nodeMachine {}).trace idleNode strayHandshake) reached 1 (by decide)
    (by decide +kernel)
  exact absurd slot.rdpState (by decide +kernel)

end Libcsp

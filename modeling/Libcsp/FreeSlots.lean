/-
This file shows that a free connection slot queues no packet.
-/
import Libcsp.Demux
import Libcsp.HeldSlots

namespace Libcsp

variable {cfg : Config}

/-- A free slot queues at most the NULL pointers that wake a reader. -/
def Conn.Drained (conn : Conn cfg) : Prop := conn.state = .closed → ∀ packet, some packet ∉ conn.rxQueue.items

theorem Conn.Drained.of_inUse {conn : Conn cfg} (inUse : conn.state = .open) : conn.Drained := by
  intro free
  rw [inUse] at free
  cases free

/-- All that matters are the state and the queue. -/
theorem Conn.Drained.of_same {conn after : Conn cfg} (drained : conn.Drained) (state : after.state = conn.state)
    (rxQueue : after.rxQueue = conn.rxQueue) : after.Drained := by
  rw [Conn.Drained, state, rxQueue]
  exact drained

/-! ## Close -/

/-- The last part of a close empties the queue. -/
theorem connRelease_drained (ctx : Ctx cfg) : (connRelease ctx).conn.Drained := by
  obtain ⟨_, _, _, same, _⟩ := connRelease_changes ctx
  rw [same]
  exact fun _ _ => List.not_mem_nil

theorem rdpCloseInternal_drained {ctx : Ctx cfg} (drained : ctx.conn.Drained) (closedBy : UInt8) (sendRst : Bool) :
    (rdpCloseInternal ctx closedBy sendRst).2.conn.Drained := by
  rcases rdpCloseInternal_cases ctx closedBy sendRst with ⟨_, same⟩ |
    ⟨_, _, _, _, _, _, _, ⟨_, same⟩ | ⟨_, same⟩⟩
  · rw [same]
    exact drained
  · rw [same]
    exact drained.of_same rfl rfl
  · rw [same]
    exact drained.of_same rfl rfl

theorem connClose_drained {ctx : Ctx cfg} (drained : ctx.conn.Drained) (closedBy : UInt8) :
    (connClose ctx closedBy).conn.Drained := by
  have closed := rdpCloseInternal_drained drained closedBy true
  unfold connClose
  split
  · exact drained
  · split
    · rw [rdpClose]
      generalize rdpCloseInternal ctx closedBy true = result at closed
      obtain ⟨err, after⟩ := result
      split
      · rename_i same
        cases same
        exact closed
      · exact connRelease_drained _
    · exact connRelease_drained ctx

/-! ## Packets -/

theorem Ctx.Keeps.drained {ctx after : Ctx cfg} (keeps : ctx.Keeps after) (inUse : ctx.conn.state = .open) :
    after.conn.Drained := .of_inUse (keeps.connState.trans inUse)

/-- The state machine itself leaves the slot in use. -/
theorem rdpNewPacketBody_connState (ctx : Ctx cfg) (packet : Packet) :
    (rdpNewPacketBody ctx packet).ctx.conn.state = ctx.conn.state := by
  by_cases closed : ctx.conn.rdp.state = .closed
  · by_cases start : packet.hasRdp rdpRst = true ∨ packet.hasRdp rdpSyn = false
    · exact (rdpNewPacketBody_rests ctx packet closed start).2.connState
    · rw [not_or, Bool.not_eq_true, Bool.not_eq_false] at start
      exact (rdpNewPacketBody_syn ctx packet closed start.2 start.1).2.connState
  · obtain ⟨moved, moves, serves⟩ := (rdpNewPacketBody_goesOn ctx packet closed).2
    cases moves with
    | state => exact serves.connState
    | post => exact serves.connState

/-- The NULL pointer for the reader is no packet. -/
theorem rdpDiscardClose_drained {ctx : Ctx cfg} (drained : ctx.conn.Drained) (closedBy : UInt8) :
    (rdpDiscardClose ctx closedBy).conn.Drained := by
  simp only [rdpDiscardClose]
  split
  · have closed := connClose_drained drained closedBy
    generalize connClose ctx closedBy = after at closed
    simp only [connEnqueuePacket]
    split
    · exact closed
    · rename_i rxQueue queued
      intro free packet member
      have items := BoundedQueue.enqueue_eq_some.mp queued
      rw [show rxQueue.items = _ from items.2] at member
      rcases List.mem_append.mp member with old | new
      · exact closed free packet old
      · cases List.mem_singleton.mp new
  · exact connClose_drained drained _

theorem routeRdp_drained {ctx : Ctx cfg} (inUse : ctx.conn.state = .open) (packet : Packet) :
    (routeRdp ctx packet).conn.Drained := by
  have body := Conn.Drained.of_inUse ((rdpNewPacketBody_connState ctx packet).trans inUse)
  have finished : (rdpNewPacket ctx packet).2.conn.Drained := by
    simp only [rdpNewPacket, rdpFinish]
    split
    · exact rdpDiscardClose_drained body _
    · exact body
    · exact body
  simp only [routeRdp]
  generalize rdpNewPacket ctx packet = result at finished
  obtain ⟨_ | _, after⟩ := result
  · exact finished
  · exact connClose_drained finished _

theorem routePlain_drained {ctx : Ctx cfg} (inUse : ctx.conn.state = .open) (packet : Packet) :
    (routePlain ctx packet).conn.Drained := by
  obtain ⟨rxQueue, rxLog, enqueued⟩ := connEnqueuePacket_changes ctx.conn (some packet)
  simp only [routePlain]
  generalize connEnqueuePacket ctx.conn (some packet) = result at enqueued
  obtain ⟨err, conn⟩ := result
  have queued : conn.Drained := by
    rw [show conn = _ from enqueued]
    exact .of_inUse inUse
  split
  · rename_i same
    cases same
    simp only [routePost]
    split
    · exact queued
    · split
      · exact connClose_drained queued _
      · exact queued
  · rename_i same
    cases same
    exact queued

theorem routeDeliver_drained {ctx : Ctx cfg} (inUse : ctx.conn.state = .open) (packet : Packet) :
    (routeDeliver ctx packet).conn.Drained := by
  unfold routeDeliver
  split
  · exact routeRdp_drained inUse packet
  · exact routePlain_drained inUse packet

/-! ## Timers and calls of userspace -/

theorem rdpCheckTimeouts_drained {ctx : Ctx cfg} (inUse : ctx.conn.state = .open) :
    (rdpCheckTimeouts ctx).conn.Drained := by
  simp only [rdpCheckTimeouts]
  split
  · exact connClose_drained (.of_inUse inUse) _
  · split
    · split
      · exact connClose_drained (.of_inUse inUse) _
      · exact .of_inUse inUse
    · exact (rdpTimeoutPackets_serves ctx).drained inUse

theorem cspSend_drained {ctx : Ctx cfg} (drained : ctx.conn.Drained) (packet : Packet) :
    (cspSend ctx (some packet)).conn.Drained := by
  cases state : ctx.conn.state with
  | «open» => exact (cspSend_serves ctx packet).drained state
  | closed =>
      have closed : ctx.conn.state ≠ .open := by simp [state]
      rw [cspSend, if_pos closed]
      exact drained

theorem cspRead_drained {ctx : Ctx cfg} (drained : ctx.conn.Drained) : (cspRead ctx).2.conn.Drained := by
  cases state : ctx.conn.state with
  | «open» => exact (cspRead_rests ctx).drained state
  | closed =>
      have closed : ctx.conn.state ≠ .open := by simp [state]
      rw [cspRead, if_pos closed]
      exact drained

theorem rdpSendSyn_drained {ctx : Ctx cfg} (drained : ctx.conn.Drained) : (rdpSendSyn ctx).2.conn.Drained := by
  simp only [rdpSendSyn]
  split
  · exact drained
  · rename_i packet pool _
    obtain ⟨_, _, _, _, _, same⟩ := rdpSendCmp_changes
      { ctx with stack := { ctx.stack with io := { ctx.stack.io with pool } } }
      (some { packet with length := 24, mem := putSynOptions ctx.stack.options packet.mem }) rdpSyn
      ctx.conn.rdp.sndIss 0
    rw [same]
    exact drained.of_same rfl rfl

theorem rdpConnectAttempt_drained {ctx : Ctx cfg} (drained : ctx.conn.Drained) :
    (rdpConnectAttempt ctx).2.conn.Drained := by
  have sent : (rdpSendSyn { ctx with conn.rdp := rdpNewAttempt cfg ctx.stack.now ctx.conn.rdp }).2.conn.Drained := by
    apply rdpSendSyn_drained
    exact drained.of_same rfl rfl
  simp only [rdpConnectAttempt]
  split
  · exact drained
  · generalize rdpSendSyn { ctx with conn.rdp := rdpNewAttempt cfg ctx.stack.now ctx.conn.rdp } = result at sent
    obtain ⟨err, after⟩ := result
    split
    · rename_i same
      cases same
      exact sent
    · rename_i same
      cases same
      exact rdpCloseInternal_drained sent _ _

theorem rdpConnectStart_drained {ctx : Ctx cfg} (drained : ctx.conn.Drained) :
    (rdpConnectStart ctx).2.conn.Drained := by
  apply rdpConnectAttempt_drained
  exact drained.of_same rfl rfl

theorem rdpConnectWake_drained {ctx : Ctx cfg} (drained : ctx.conn.Drained) (retry : Bool) :
    (rdpConnectWake ctx retry).2.conn.Drained := by
  have consumed : Conn.Drained { ctx.conn with rdp.txWait := false } := drained.of_same rfl rfl
  simp only [rdpConnectWake]
  split
  · exact consumed
  · split
    · apply rdpConnectAttempt_drained
      exact consumed
    · apply rdpCloseInternal_drained
      exact consumed

/-! ## Nodes -/

/-- Each free slot is drained. -/
def Node.Drained (node : Node cfg) : Prop := ∀ slot, (node.conns slot).Drained

theorem Node.Drained.put {node : Node cfg} (drained : node.Drained) {slot : Nat} {ctx : Ctx cfg}
    (after : ctx.conn.Drained) : (node.put slot ctx).Drained := by
  intro other
  by_cases same : other = slot
  · subst same
    rw [Node.put_conns_self]
    exact after
  · rw [Node.put_conns_other node ctx same]
    exact drained other

theorem connectReturns_drained {node : Node cfg} (drained : node.Drained) (slot : Nat) (retry : Bool)
    {result : Option CspErr × Ctx cfg} (after : result.2.conn.Drained) :
    (connectReturns node slot retry result).Drained := by
  unfold connectReturns
  split
  · exact drained.put after
  · exact drained.put after
  · exact drained.put (connClose_drained after _)

/-- A new connection takes its slot into use. -/
theorem Node.Drained.renew {node : Node cfg} (drained : node.Drained) (slot : Nat) {conn : Conn cfg}
    (inUse : conn.state = .open) : (node.renew slot conn).Drained := by
  intro other
  by_cases same : other = slot
  · subst same
    rw [Node.renew_own]
    exact .of_inUse inUse
  · rw [Node.renew_other _ conn same]
    exact drained other

theorem cspConnect_drained {node : Node cfg} (drained : node.Drained) (prio : UInt8) (dest : UInt16) (dport : UInt8)
    (opts : UInt32) : (cspConnect node prio dest dport opts).Drained := by
  rcases cspConnect_renews node prio dest dport opts with same | ⟨slot, opened, _, _, _, renewed, same⟩
  · rw [same]
    exact drained
  · have inUse : opened.Drained := by
      rw [renewed]
      exact drained.renew slot rfl
    rw [same]
    split
    · exact connectReturns_drained inUse slot true (rdpConnectStart_drained (inUse slot))
    · exact inUse

theorem checkTimeoutsOn_drained (slots : List Nat) {node : Node cfg} (drained : node.Drained) :
    (checkTimeoutsOn slots node).Drained := by
  induction slots generalizing node with
  | nil => exact drained
  | cons slot rest ih =>
      simp only [checkTimeoutsOn]
      split
      · rename_i openRdp
        rw [Bool.and_eq_true, decide_eq_true_eq] at openRdp
        exact ih (drained.put (rdpCheckTimeouts_drained openRdp.1))
      · exact ih drained

theorem routeWork_drained {node : Node cfg} (drained : node.Drained) (input : Option (Nat × Packet)) :
    (routeWork node input).Drained := by
  have timers : (connCheckTimeouts node).Drained := checkTimeoutsOn_drained _ drained
  cases input with
  | none => exact timers
  | some arrival =>
      have handles := routeInput_handles (connCheckTimeouts node) arrival.1 arrival.2
      simp only [routeWork]
      generalize routeInput (connCheckTimeouts node) arrival.1 arrival.2 = routed at handles
      cases handles with
      | done => exact timers
      | queued => exact timers
      | found io dedup existing =>
          apply Node.Drained.put timers
          exact routeDeliver_drained (connFindExisting_open existing) _
      | opened io dedup =>
          refine Node.Drained.put (Node.Drained.renew timers _ rfl) (routeDeliver_drained ?_ _)
          rw [Slots.ctx, Node.renew_own]
          rfl

theorem nodeStep_drained {node : Node cfg} (drained : node.Drained) (input : NodeInput cfg) :
    (nodeStep node input).Drained := by
  cases input with
  | connect prio dest dport opts => exact cspConnect_drained drained prio dest dport opts
  | wake slot =>
      simp only [nodeStep, Node.wake]
      split
      · exact drained
      · exact connectReturns_drained drained slot false (rdpConnectWake_drained (drained slot) _)
  | route input => exact routeWork_drained drained input
  | accept socket =>
      simp only [nodeStep, cspAccept]
      split
      · exact drained
      · exact drained
  | send slot packet => exact drained.put (cspSend_drained (drained slot) packet)
  | read slot => exact drained.put (cspRead_drained (drained slot))
  | close slot => exact Node.Drained.put drained (connClose_drained (drained slot) _)
  | environment environment => exact drained

/-- In each reachable state, each free slot queues no packet. -/
theorem freeSlots_drained {node : Node cfg} (reached : (nodeMachine cfg).Reachable node) : node.Drained := by
  refine Machine.Reachable.invariant ?_ ?_ reached
  · rintro _ ⟨io, content, rfl⟩ slot free packet
    exact List.not_mem_nil
  · intro node input drained _
    exact nodeStep_drained drained input

/-- The flush of such a queue returns no buffer. -/
theorem flushRxList_drained (io : Io cfg) {items : List (Option Packet)} (drained : ∀ packet, some packet ∉ items) :
    flushRxList io items = io := by
  induction items with
  | nil => rfl
  | cons head rest ih =>
      cases head with
      | none => exact ih fun packet member => drained packet (List.mem_cons_of_mem _ member)
      | some packet => exact absurd List.mem_cons_self (drained packet)

end Libcsp

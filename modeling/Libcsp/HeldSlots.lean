/-
This file determines when a connection in the hands of userspace stays open until userspace closes it.
-/
import Libcsp.CleanSlots

namespace Libcsp

variable {cfg : Config}

/-- Userspace has the connection, so the protocol alone cannot close it. -/
structure Conn.Handed (conn : Conn cfg) : Prop where
  connState : conn.state = .open
  destSocket : conn.destSocket = none
  closedBy : conn.rdp.closedBy &&& rdpClosedByUserspace = 0

/-- Between two calls, a connection with RDP is not in the state RDP_CLOSED. -/
def Ctx.Live (ctx : Ctx cfg) : Prop := ctx.OpenRdp → ctx.conn.rdp.state ≠ .closed

/-- The call leaves a connection in the hands of userspace to it, with the same peer. It hands a
connection over at most when the connection still waits for its socket. -/
structure Ctx.Guards (ctx after : Ctx cfg) : Prop where
  handed : ctx.conn.Handed → after.conn.Handed ∧ after.conn.idin = ctx.conn.idin ∧ after.conn.idout = ctx.conn.idout
  posted : after.stack.posted = ctx.stack.posted ∨ ctx.conn.destSocket ≠ none ∧ after.conn.Handed
  waits : ctx.conn.destSocket = none → after.conn.destSocket = none

theorem Ctx.Guards.trans {first second third : Ctx cfg} (left : first.Guards second)
    (right : second.Guards third) : first.Guards third := by
  constructor
  · intro handed
    obtain ⟨handed, idin, idout⟩ := left.handed handed
    obtain ⟨handed, idin', idout'⟩ := right.handed handed
    exact ⟨handed, idin'.trans idin, idout'.trans idout⟩
  · rcases left.posted with same | ⟨waiting, handed⟩
    · rcases right.posted with same' | ⟨waiting, handed⟩
      · exact .inl (same'.trans same)
      · exact .inr ⟨fun none => waiting (left.waits none), handed⟩
    · exact .inr ⟨waiting, (right.handed handed).1⟩
  · exact fun none => right.waits (left.waits none)

theorem Ctx.Keeps.guards {ctx after : Ctx cfg} (keeps : ctx.Keeps after) : ctx.Guards after := by
  refine ⟨fun handed => ⟨⟨?_, ?_, ?_⟩, keeps.idin, keeps.idout⟩, .inl keeps.posted, ?_⟩
  · exact keeps.connState.trans handed.connState
  · exact keeps.destSocket.trans handed.destSocket
  · rw [keeps.closedBy]
    exact handed.closedBy
  · exact keeps.destSocket.trans

theorem Ctx.Keeps.live {ctx after : Ctx cfg} (keeps : ctx.Keeps after) (live : ctx.Live) :
    after.Live := by
  intro openRdp
  rw [keeps.rdpState]
  exact live (keeps.openRdp.mp openRdp)

/-- A connection that waits for its socket is not in the hands of userspace. -/
theorem Ctx.Guards.of_waiting {ctx after : Ctx cfg} (waiting : ctx.conn.destSocket ≠ none)
    (posted : after.stack.posted = ctx.stack.posted) : ctx.Guards after :=
  ⟨fun handed => absurd handed.destSocket waiting, .inl posted, fun none => absurd none waiting⟩

/-! ## Close -/

/-- The parties are bits of a byte. -/
theorem closedBy_or (first second : UInt8) :
    (first ||| second) &&& rdpClosedByUserspace = 0 ↔
      first &&& rdpClosedByUserspace = 0 ∧ second &&& rdpClosedByUserspace = 0 := by
  rw [← UInt8.toBitVec_inj, ← UInt8.toBitVec_inj, ← UInt8.toBitVec_inj]
  simp only [UInt8.toBitVec_and, UInt8.toBitVec_or, BitVec.and_or_distrib_right]
  exact BitVec.or_eq_zero_iff

theorem connClose_posted (ctx : Ctx cfg) (closedBy : UInt8) :
    (connClose ctx closedBy).stack.posted = ctx.stack.posted := by
  rcases connClose_cases ctx closedBy with ⟨_, same⟩ |
    ⟨_, ⟨_, _, _, _, _, _, _, _, _, same⟩ |
      ⟨_, _, ⟨_, ⟨_, _, _, _, _, _, _, _, _, same⟩, _⟩, _⟩ | ⟨_, same⟩⟩
  · rw [same]
  · rw [same]
  · rw [same]
  · obtain ⟨_, _, _, released, _⟩ := connRelease_changes ctx
    rw [same, released]

theorem connClose_destSocket (ctx : Ctx cfg) (closedBy : UInt8) :
    (connClose ctx closedBy).conn.destSocket = ctx.conn.destSocket := by
  rcases connClose_cases ctx closedBy with ⟨_, same⟩ |
    ⟨_, ⟨_, _, _, _, _, _, _, _, _, same⟩ |
      ⟨_, _, ⟨_, ⟨_, _, _, _, _, _, _, _, _, same⟩, _⟩, _⟩ | ⟨_, same⟩⟩
  · rw [same]
  · rw [same]
  · rw [same]
  · obtain ⟨_, _, _, released, _⟩ := connRelease_changes ctx
    rw [same, released]

/-- A close leaves no open connection with RDP in the state RDP_CLOSED. -/
theorem connClose_live (ctx : Ctx cfg) (closedBy : UInt8) (tidy : ctx.Tidy) :
    (connClose ctx closedBy).Live := by
  intro openRdp
  have inUse := openRdp.connState
  rcases tidy.kinds with free | before | ⟨_, uses⟩
  · rw [connClose_closed ctx closedBy free, free] at inUse
    cases inUse
  · rcases connClose_rdp ctx closedBy before with ⟨_, _, waits⟩ | ⟨_, releases⟩
    · rw [waits.rdpState]
      simp
    · rw [releases.connState] at inUse
      cases inUse
  · rw [(connClose_plain ctx closedBy uses).connState] at inUse
    cases inUse

/-- The protocol and the timeout do not close a connection in use with RDP without userspace. -/
theorem connClose_guards (ctx : Ctx cfg) (closedBy : UInt8) (openRdp : ctx.OpenRdp)
    (live : ctx.conn.rdp.state ≠ .closed) (protocol : closedBy &&& rdpClosedByUserspace = 0) :
    ctx.Guards (connClose ctx closedBy) := by
  rcases connClose_rdp ctx closedBy openRdp with ⟨_, _, waits⟩ | ⟨last, releases⟩
  · refine ⟨fun handed => ⟨⟨?_, ?_, ?_⟩, waits.idin, waits.idout⟩, .inl waits.posted, ?_⟩
    · exact waits.connState.trans handed.connState
    · exact waits.destSocket.trans handed.destSocket
    · rw [waits.closedBy]
      exact (closedBy_or _ _).mpr ⟨handed.closedBy, protocol⟩
    · exact waits.destSocket.trans
  · refine ⟨fun handed => ?_, .inl releases.posted, releases.destSocket.trans⟩
    have none := (closedBy_or _ _).mpr ⟨handed.closedBy, protocol⟩
    rw [last.resolve_left live] at none
    exact absurd none (by decide)

/-! ## Packets -/

theorem rdpDiscardClose_posted (ctx : Ctx cfg) (closedBy : UInt8) :
    (rdpDiscardClose ctx closedBy).stack.posted = ctx.stack.posted := by
  obtain ⟨closedBy', _, _, same⟩ := rdpDiscardClose_changes ctx closedBy
  rw [same]
  exact connClose_posted ctx closedBy'

theorem rdpDiscardClose_live (ctx : Ctx cfg) (closedBy : UInt8) (tidy : ctx.Tidy) :
    (rdpDiscardClose ctx closedBy).Live := by
  obtain ⟨closedBy', rxQueue, rxLog, same⟩ := rdpDiscardClose_changes ctx closedBy
  rw [same]
  exact (Ctx.Rests.of_queue _ rxQueue rxLog).live (connClose_live ctx closedBy' tidy)

theorem rdpDiscardClose_guards (ctx : Ctx cfg) (closedBy : UInt8) (tidy : ctx.Tidy)
    (live : ctx.conn.rdp.state ≠ .closed) (protocol : closedBy &&& rdpClosedByUserspace = 0) :
    ctx.Guards (rdpDiscardClose ctx closedBy) := by
  by_cases waiting : ctx.conn.destSocket = none
  · obtain ⟨rxQueue, rxLog, woken⟩ := connEnqueuePacket_changes (connClose ctx closedBy).conn none
    simp only [rdpDiscardClose, waiting, Option.isNone_none, if_true]
    rw [woken]
    exact (connClose_guards ctx closedBy (tidy.openRdp live) live protocol).trans
      (Ctx.Rests.of_queue _ rxQueue rxLog).guards
  · exact .of_waiting waiting (rdpDiscardClose_posted ctx closedBy)

theorem Ctx.free_keeps (ctx : Ctx cfg) (packet : Packet) : ctx.Keeps (ctx.free packet) :=
  ⟨rfl, rfl, rfl, rfl, rfl, rfl, rfl, rfl⟩

/-- A branch that closes for the protocol leaves the connection to userspace. -/
theorem rdpFinish_guards (branch : RdpBranch cfg) (tidy : branch.ctx.Tidy)
    (live : branch.ctx.conn.rdp.state ≠ .closed) (protocol : branch.exit.ByProtocol) :
    (rdpFinish branch).1 = false ∧ branch.ctx.Guards (rdpFinish branch).2 ∧
      (rdpFinish branch).2.Live := by
  simp only [rdpFinish]
  cases exit : branch.exit with
  | discardClose closedBy =>
      rw [exit] at protocol
      have parties : closedBy &&& rdpClosedByUserspace = 0 := by
        rcases protocol with rfl | rfl <;> decide
      have keeps := Ctx.free_keeps (rdpDiscardClose branch.ctx closedBy) branch.packet
      exact ⟨rfl, (rdpDiscardClose_guards branch.ctx closedBy tidy live parties).trans keeps.guards,
        keeps.live (rdpDiscardClose_live branch.ctx closedBy tidy)⟩
  | discardOpen closeConnection =>
      rw [exit] at protocol
      have keeps := Ctx.free_keeps branch.ctx branch.packet
      exact ⟨protocol, keeps.guards, keeps.live fun _ => live⟩
  | acceptedOpen => exact ⟨rfl, (Ctx.Rests.refl branch.ctx).guards, fun _ => live⟩

theorem Ctx.Moves.guards {ctx moved : Ctx cfg} (moves : ctx.Moves moved) (tidy : ctx.Tidy)
    (openRdp : ctx.OpenRdp) : ctx.Guards moved ∧ moved.conn.rdp.state ≠ .closed := by
  cases moves with
  | state state live waits =>
      refine ⟨⟨fun handed => ⟨⟨handed.connState, handed.destSocket, handed.closedBy⟩, rfl, rfl⟩,
        .inl rfl, id⟩, live⟩
  | @post socket stack received waits posted =>
      have waiting : ctx.conn.destSocket ≠ none := by simp [waits]
      have none := tidy.closedBy (by simp [received])
      refine ⟨⟨fun handed => absurd handed.destSocket waiting, .inr ⟨waiting, openRdp.connState, rfl, ?_⟩,
        fun none => absurd none waiting⟩, by simp⟩
      show ctx.conn.rdp.closedBy &&& rdpClosedByUserspace = 0
      rw [none]
      decide

/-- On a connection in use with RDP, any RDP packet leaves the handle to userspace. -/
theorem routeRdp_guards (ctx : Ctx cfg) (packet : Packet) (tidy : ctx.Tidy)
    (live : ctx.conn.rdp.state ≠ .closed) :
    ctx.Guards (routeRdp ctx packet) ∧ (routeRdp ctx packet).Live := by
  have openRdp := tidy.openRdp live
  obtain ⟨protocol, moved, moves, serves⟩ := rdpNewPacketBody_goesOn ctx packet live
  obtain ⟨moving, moves'⟩ := moves.guards tidy openRdp
  have live' : (rdpNewPacketBody ctx packet).ctx.conn.rdp.state ≠ .closed := by
    rw [serves.rdpState]
    exact moves'
  have body := (rdpNewPacketBody_endsTidy ctx packet tidy (.inl openRdp)).tidy
  obtain ⟨open', guards, after⟩ := rdpFinish_guards _ body live' protocol
  have same : routeRdp ctx packet = (rdpFinish (rdpNewPacketBody ctx packet)).2 := by
    simp only [routeRdp, rdpNewPacket]
    generalize rdpFinish (rdpNewPacketBody ctx packet) = result at open'
    obtain ⟨close, after⟩ := result
    rw [show close = false from open']
  rw [same]
  exact ⟨(moving.trans serves.guards).trans guards, after⟩

/-- An unused RDP part answers a RESET without a close, unless the connection is still new. -/
theorem routeRdp_unused_guards (ctx : Ctx cfg) (packet : Packet) (tidy : ctx.Tidy)
    (closed : ctx.conn.rdp.state = .closed)
    (safe : ctx.conn.destSocket ≠ none ∨ packet.hasRdp rdpRst = true ∧ ¬ctx.OpenRdp) :
    ctx.Guards (routeRdp ctx packet) ∧ (routeRdp ctx packet).Live := by
  by_cases start : packet.hasRdp rdpRst = true ∨ packet.hasRdp rdpSyn = false
  · obtain ⟨exits, rests⟩ := rdpNewPacketBody_rests ctx packet closed start
    have body := (rests.endsTidy tidy).tidy
    rcases exits with ⟨exit, reset⟩ | ⟨exit, noReset⟩
    · have keeps := rests.trans (Ctx.free_keeps (rdpNewPacketBody ctx packet).ctx
        (rdpNewPacketBody ctx packet).packet)
      have freed := (body.free (rdpNewPacketBody ctx packet).packet).tidy
      simp only [routeRdp, rdpNewPacket, rdpFinish, exit]
      cases waiting : ctx.conn.destSocket with
      | none =>
          have idle := (safe.resolve_left (not_not_intro waiting)).2
          exact ⟨keeps.guards, fun openRdp => absurd (keeps.openRdp.mp openRdp) idle⟩
      | some socket =>
          refine ⟨.of_waiting (by simp [waiting]) ?_, connClose_live _ _ freed⟩
          exact (connClose_posted _ _).trans keeps.posted
    · have waiting := safe.resolve_right fun reset => by simp [noReset] at reset
      simp only [routeRdp, rdpNewPacket, rdpFinish, exit]
      have keeps := Ctx.free_keeps (rdpDiscardClose (rdpNewPacketBody ctx packet).ctx rdpClosedByProtocol)
        (rdpNewPacketBody ctx packet).packet
      refine ⟨.of_waiting waiting ?_, keeps.live (rdpDiscardClose_live _ _ body)⟩
      exact (rdpDiscardClose_posted _ _).trans rests.posted
  · rw [not_or, Bool.not_eq_true, Bool.not_eq_false] at start
    have waiting := safe.resolve_right fun reset => by simp [start.1] at reset
    obtain ⟨exit, serves⟩ := rdpNewPacketBody_syn ctx packet closed start.2 start.1
    simp only [routeRdp, rdpNewPacket, rdpFinish, exit]
    refine ⟨.of_waiting waiting serves.posted, fun _ => ?_⟩
    rw [(Ctx.free_keeps _ _).rdpState, serves.rdpState]
    simp

/-- A post hands the connection over, and userspace must not have given it up before. -/
theorem routePost_guards (ctx : Ctx cfg) (tidy : ctx.Tidy) (live : ctx.Live)
    (inUse : ctx.conn.state = .open)
    (safe : ctx.OpenRdp →
      (ctx.conn.destSocket.bind fun socket => ctx.stack.post socket ctx.conn.index).isSome = true →
        ctx.conn.rdp.closedBy &&& rdpClosedByUserspace = 0) :
    ctx.Guards (routePost ctx) ∧ (routePost ctx).Live := by
  simp only [routePost]
  split
  · exact ⟨(Ctx.Rests.refl ctx).guards, live⟩
  · rename_i socket waiting
    have waits : ctx.conn.destSocket ≠ none := by simp [waiting]
    split
    · exact ⟨.of_waiting waits (connClose_posted ctx _), connClose_live ctx _ tidy⟩
    · rename_i stack posted
      refine ⟨⟨fun handed => absurd handed.destSocket waits, .inr ⟨waits, inUse, rfl, ?_⟩,
        fun none => absurd none waits⟩, fun openRdp => live ⟨openRdp.connState, openRdp.rdp⟩⟩
      show ctx.conn.rdp.closedBy &&& rdpClosedByUserspace = 0
      by_cases openRdp : ctx.OpenRdp
      · exact safe openRdp (by simp [waiting, posted])
      · rw [tidy.closedBy (by simp [(tidy.unused openRdp).1])]
        decide

/-- The router would post the connection behind a packet without RDP. -/
def Ctx.postsPlain (ctx : Ctx cfg) : Bool :=
  decide (ctx.conn.rxQueue.items.length < cfg.connRxqueueLen) &&
    (ctx.conn.destSocket.bind fun socket => ctx.stack.post socket ctx.conn.index).isSome

theorem routePlain_guards (ctx : Ctx cfg) (packet : Packet) (tidy : ctx.Tidy) (live : ctx.Live)
    (inUse : ctx.conn.state = .open)
    (safe : ctx.OpenRdp → ctx.postsPlain = true →
      ctx.conn.rdp.closedBy &&& rdpClosedByUserspace = 0) :
    ctx.Guards (routePlain ctx packet) ∧ (routePlain ctx packet).Live := by
  simp only [routePlain, connEnqueuePacket]
  cases room : ctx.conn.rxQueue.enqueue (some packet) with
  | none =>
      have keeps := Ctx.free_keeps ctx packet
      exact ⟨keeps.guards, keeps.live live⟩
  | some rxQueue =>
      have fits := (BoundedQueue.enqueue_eq_some.mp room).1
      have queues := Ctx.Rests.of_queue ctx rxQueue (ctx.conn.rxLog ++ [some packet])
      obtain ⟨guards, after⟩ := routePost_guards _ (queues.endsTidy tidy).tidy (queues.live live) inUse
        fun openRdp posts => safe ⟨openRdp.connState, openRdp.rdp⟩
          (by simp only [Ctx.postsPlain, fits, decide_true, Bool.true_and]; exact posts)
      exact ⟨queues.guards.trans guards, after⟩

/-- The packet does not close a connection without RDP, or hand over one that userspace has closed. -/
structure Ctx.Takes (ctx : Ctx cfg) (packet : Packet) : Prop where
  rdp : packet.id.has cspFRdp = true → packet.hasRdp rdpRst = false → ctx.conn.idin.has cspFRdp = true
  plain : packet.id.has cspFRdp = false → ctx.conn.idin.has cspFRdp = true → ctx.postsPlain = true →
    ctx.conn.rdp.closedBy &&& rdpClosedByUserspace = 0

/-- A packet leaves each handle to userspace. A new connection for RDP still waits for its socket. -/
theorem routeDeliver_guards (ctx : Ctx cfg) (packet : Packet) (tidy : ctx.Tidy)
    (inUse : ctx.conn.state = .open) (takes : ctx.Takes packet)
    (fresh : ctx.OpenRdp → ctx.conn.rdp.state = .closed →
      packet.id.has cspFRdp = true ∧ ctx.conn.destSocket ≠ none) :
    ctx.Guards (routeDeliver ctx packet) ∧ (routeDeliver ctx packet).Live := by
  cases rdp : packet.id.has cspFRdp with
  | true =>
      simp only [routeDeliver, rdp, if_true]
      by_cases closed : ctx.conn.rdp.state = .closed
      · refine routeRdp_unused_guards ctx packet tidy closed ?_
        by_cases openRdp : ctx.OpenRdp
        · exact .inl (fresh openRdp closed).2
        · refine .inr ⟨?_, openRdp⟩
          by_contra noReset
          exact openRdp ⟨inUse, takes.rdp rdp (Bool.eq_false_iff.mpr noReset)⟩
      · exact routeRdp_guards ctx packet tidy closed
  | false =>
      simp only [routeDeliver, rdp]
      refine routePlain_guards ctx packet tidy (fun openRdp closed => ?_) inUse
        fun openRdp => takes.plain rdp openRdp.rdp
      simpa [rdp] using (fresh openRdp closed).1

/-! ## Timers and calls of userspace -/

theorem rdpCheckTimeouts_guards (ctx : Ctx cfg) (tidy : ctx.Tidy) (openRdp : ctx.OpenRdp)
    (live : ctx.conn.rdp.state ≠ .closed) :
    ctx.Guards (rdpCheckTimeouts ctx) ∧ (rdpCheckTimeouts ctx).Live := by
  simp only [rdpCheckTimeouts]
  split
  · rename_i waiting
    rw [Bool.and_eq_true] at waiting
    refine ⟨.of_waiting ?_ (connClose_posted ctx _), connClose_live ctx _ tidy⟩
    exact Option.isSome_iff_ne_none.mp waiting.1
  · split
    · split
      · exact ⟨connClose_guards ctx _ openRdp live (by decide), connClose_live ctx _ tidy⟩
      · exact ⟨(Ctx.Rests.refl ctx).guards, fun _ => live⟩
    · have serves := rdpTimeoutPackets_serves ctx
      exact ⟨serves.guards, serves.live fun _ => live⟩

/-- The result of `csp_rdp_connect`: it hands over an open connection, and waits on a live one. -/
structure Ctx.Connects (ctx : Ctx cfg) (result : Option CspErr × Ctx cfg) : Prop where
  posted : result.2.stack.posted = ctx.stack.posted
  destSocket : result.2.conn.destSocket = ctx.conn.destSocket
  live : result.1 = none ∨ result.1 = some .none → result.2.Live
  opened : result.1 = some .none → result.2.conn.Handed

/-- A failed attempt closes for the protocol. -/
theorem Ctx.Connects.failed {ctx before : Ctx cfg} (posted : before.stack.posted = ctx.stack.posted)
    (destSocket : before.conn.destSocket = ctx.conn.destSocket) :
    ctx.Connects (some .timedout, (rdpCloseInternal before rdpClosedByProtocol false).2) := by
  rcases rdpCloseInternal_cases before rdpClosedByProtocol false with ⟨_, same⟩ |
    ⟨_, _, _, _, _, _, _, ⟨_, same⟩ | ⟨_, same⟩⟩
  all_goals
    rw [same]
    exact ⟨posted, destSocket, by simp, by simp⟩

theorem rdpConnectAttempt_connects (ctx : Ctx cfg) : ctx.Connects (rdpConnectAttempt ctx) := by
  have sent := rdpSendSyn_serves
    { ctx with conn.rdp := rdpNewAttempt cfg ctx.stack.now ctx.conn.rdp }
  simp only [rdpConnectAttempt]
  split
  · exact ⟨rfl, rfl, by simp, by simp⟩
  · generalize rdpSendSyn
      { ctx with conn.rdp := rdpNewAttempt cfg ctx.stack.now ctx.conn.rdp } = result at sent
    obtain ⟨err, after⟩ := result
    split
    · rename_i same
      cases same
      refine ⟨sent.posted, sent.destSocket, fun _ _ => ?_, by simp⟩
      rw [sent.rdpState]
      simp [rdpNewAttempt]
    · rename_i same
      cases same
      exact .failed sent.posted sent.destSocket

theorem rdpConnectStart_connects (ctx : Ctx cfg) : ctx.Connects (rdpConnectStart ctx) := by
  have connects := rdpConnectAttempt_connects
    { ctx with conn.rdp := { ctx.conn.rdp with
      windowSize := ctx.stack.options.windowSize
      connTimeout := ctx.stack.options.connTimeout
      packetTimeout := ctx.stack.options.packetTimeout
      delayedAcks := ctx.stack.options.delayedAcks
      ackTimeout := ctx.stack.options.ackTimeout
      ackDelayCount := ctx.stack.options.ackDelayCount
      ackTimestamp := ctx.stack.now } }
  exact ⟨connects.posted, connects.destSocket, connects.live, connects.opened⟩

/-- The answer of the server ends the wait with an open connection, which no party has closed. -/
theorem rdpConnectWake_connects (ctx : Ctx cfg) (retry : Bool) (tidy : ctx.Tidy)
    (client : ctx.conn.destSocket = none) : ctx.Connects (rdpConnectWake ctx retry) := by
  simp only [rdpConnectWake]
  split
  · rename_i woken
    simp only [Bool.and_eq_true, decide_eq_true_eq] at woken
    have opened := woken.2
    have openRdp := tidy.openRdp (by simp [opened])
    refine ⟨rfl, rfl, fun _ _ => by simp [opened], fun _ => ⟨openRdp.connState, client, ?_⟩⟩
    show ctx.conn.rdp.closedBy &&& rdpClosedByUserspace = 0
    rw [tidy.closedBy (by simp [opened])]
    decide
  · split
    · have connects := rdpConnectAttempt_connects
        ⟨{ ctx.conn with rdp := { ctx.conn.rdp with txWait := false } },
          rdpQueueFlush ctx.stack (some ctx.conn.index)⟩
      exact ⟨connects.posted, connects.destSocket, connects.live, connects.opened⟩
    · exact .failed rfl rfl

/-! ## Nodes -/

/-- Each connection in the hands of userspace stays so without a call of userspace. A connection on
which `csp_connect` still waits is not in its hands. -/
structure Node.Guarded (node : Node cfg) : Prop extends node.Tidy where
  live : ∀ slot, (node.ctx slot).Live
  handed : ∀ slot, node.held slot = true → (node.conns slot).Handed
  waits : ∀ slot, node.waiting slot ≠ none →
    (node.conns slot).destSocket = none ∧ node.held slot = false

/-- The connections in the hands of userspace stay there with the same peers. -/
structure Node.Guards (node after : Node cfg) : Prop where
  guarded : after.Guarded
  held : ∀ slot, node.held slot = true → after.held slot = true
  idin : ∀ slot, node.held slot = true → (after.conns slot).idin = (node.conns slot).idin
  idout : ∀ slot, node.held slot = true → (after.conns slot).idout = (node.conns slot).idout

theorem Node.Guards.refl {node : Node cfg} (guarded : node.Guarded) : node.Guards node :=
  ⟨guarded, fun _ => id, fun _ _ => rfl, fun _ _ => rfl⟩

theorem Node.Guards.trans {first second third : Node cfg} (left : first.Guards second)
    (right : second.Guards third) : first.Guards third where
  guarded := right.guarded
  held slot held := right.held slot (left.held slot held)
  idin slot held := (right.idin slot (left.held slot held)).trans (left.idin slot held)
  idout slot held := (right.idout slot (left.held slot held)).trans (left.idout slot held)

/-- All that matters are the connections, the shared queues, and the history of the handles. -/
theorem Node.Guards.of_same {node after : Node cfg} (guarded : node.Guarded)
    (conns : after.conns = node.conns) (tx : after.stack.txQueue = node.stack.txQueue)
    (rx : after.stack.rxQueue = node.stack.rxQueue) (held : after.held = node.held)
    (waiting : after.waiting = node.waiting) : node.Guards after := by
  refine ⟨⟨guarded.toTidy.of_same conns tx rx, ?_, ?_, ?_⟩, ?_, ?_, ?_⟩
  · intro slot openRdp
    have same : (after.ctx slot).conn = (node.ctx slot).conn := congrFun conns slot
    rw [same]
    exact guarded.live slot ⟨same ▸ openRdp.connState, same ▸ openRdp.rdp⟩
  · rw [conns, held]
    exact guarded.handed
  · rw [conns, held, waiting]
    exact guarded.waits
  · rw [held]
    exact fun _ => id
  · rw [conns]
    exact fun _ _ => rfl
  · rw [conns]
    exact fun _ _ => rfl

theorem Node.put_held_same (node : Node cfg) (slot : Nat) {ctx : Ctx cfg}
    (posted : ctx.stack.posted = node.stack.posted) : (node.put slot ctx).held = node.held :=
  if_pos posted

theorem Node.put_held_other (node : Node cfg) {slot other : Nat} (ctx : Ctx cfg)
    (different : other ≠ slot) : (node.put slot ctx).held other = node.held other := by
  simp only [Node.put]
  split
  · rfl
  · exact Function.update_of_ne different _ _

theorem Node.put_conns_other (node : Node cfg) {slot other : Nat} (ctx : Ctx cfg)
    (different : other ≠ slot) : (node.put slot ctx).conns other = node.conns other :=
  Function.update_of_ne different _ _

theorem Node.put_conns_self (node : Node cfg) (slot : Nat) (ctx : Ctx cfg) :
    (node.put slot ctx).conns slot = ctx.conn := Function.update_self _ _ _

/-- A step on one slot leaves the other slots and their handles alone. -/
structure Node.Spares (node after : Node cfg) (slot : Nat) : Prop where
  conns : ∀ other ≠ slot, after.conns other = node.conns other
  held : ∀ other ≠ slot, after.held other = node.held other
  waiting : ∀ other ≠ slot, after.waiting other = node.waiting other

theorem Node.Spares.put {node mid : Node cfg} {slot : Nat} (spares : node.Spares mid slot)
    (ctx : Ctx cfg) : node.Spares (mid.put slot ctx) slot where
  conns other different := (mid.put_conns_other ctx different).trans (spares.conns other different)
  held other different := (mid.put_held_other ctx different).trans (spares.held other different)
  waiting other different := spares.waiting other different

theorem Node.Spares.setHeld {node mid : Node cfg} {slot : Nat} (spares : node.Spares mid slot)
    (held : Bool) : node.Spares (mid.setHeld slot held) slot where
  conns := spares.conns
  held other different := (Function.update_of_ne different _ _).trans (spares.held other different)
  waiting := spares.waiting

theorem Node.Spares.setWaiting {node mid : Node cfg} {slot : Nat} (spares : node.Spares mid slot)
    (waiting : Option Bool) : node.Spares (mid.setWaiting slot waiting) slot where
  conns := spares.conns
  held := spares.held
  waiting other different :=
    (Function.update_of_ne different _ _).trans (spares.waiting other different)

theorem Node.Spares.refl (node : Node cfg) (slot : Nat) : node.Spares node slot :=
  ⟨fun _ _ => rfl, fun _ _ => rfl, fun _ _ => rfl⟩

/-- What holds of the changed slot is all that a step on one slot has to show. -/
theorem Node.Guards.of_slot {node after : Node cfg} (guarded : node.Guarded) {slot : Nat}
    (spares : node.Spares after slot) (tidy : after.Tidy) (live : (after.ctx slot).Live)
    (handed : after.held slot = true → (after.conns slot).Handed)
    (waits : after.waiting slot ≠ none →
      (after.conns slot).destSocket = none ∧ after.held slot = false)
    (kept : node.held slot = true → after.held slot = true ∧
      (after.conns slot).idin = (node.conns slot).idin ∧
      (after.conns slot).idout = (node.conns slot).idout) : node.Guards after := by
  refine ⟨⟨tidy, ?_, ?_, ?_⟩, ?_, ?_, ?_⟩
  · intro other openRdp
    by_cases same : other = slot
    · subst same
      exact live openRdp
    · have conn : (after.ctx other).conn = (node.ctx other).conn := spares.conns other same
      rw [conn]
      exact guarded.live other ⟨conn ▸ openRdp.connState, conn ▸ openRdp.rdp⟩
  · intro other
    by_cases same : other = slot
    · subst same
      exact handed
    · rw [spares.held other same, spares.conns other same]
      exact guarded.handed other
  · intro other
    by_cases same : other = slot
    · subst same
      exact waits
    · rw [spares.held other same, spares.conns other same, spares.waiting other same]
      exact guarded.waits other
  · intro other held
    by_cases same : other = slot
    · subst same
      exact (kept held).1
    · rw [spares.held other same]
      exact held
  · intro other held
    by_cases same : other = slot
    · subst same
      exact (kept held).2.1
    · rw [spares.conns other same]
  · intro other held
    by_cases same : other = slot
    · subst same
      exact (kept held).2.2
    · rw [spares.conns other same]

/-- The result of a call becomes the slot of the node. -/
theorem Node.put_ctx_live {node : Node cfg} {slot : Nat} {after : Ctx cfg} (live : after.Live) :
    ((node.put slot after).ctx slot).Live := by
  have conn : ((node.put slot after).ctx slot).conn = after.conn := node.put_conns_self slot after
  intro openRdp
  rw [conn]
  exact live ⟨conn ▸ openRdp.connState, conn ▸ openRdp.rdp⟩

/-- A call that guards the handle of its slot guards all handles. -/
theorem Node.Guards.put {node : Node cfg} (guarded : node.Guarded) {slot : Nat} {after : Ctx cfg}
    (ends : (node.ctx slot).EndsTidy after) (guards : (node.ctx slot).Guards after)
    (live : after.Live) : node.Guards (node.put slot after) := by
  refine .of_slot guarded ((Node.Spares.refl node slot).put after) (guarded.toTidy.put ends)
    (Node.put_ctx_live live) ?_ ?_ ?_
  · intro held
    rw [Node.put_conns_self]
    rcases guards.posted with same | ⟨_, handed⟩
    · rw [node.put_held_same slot same] at held
      exact (guards.handed (guarded.handed slot held)).1
    · exact handed
  · intro waiting
    obtain ⟨client, free⟩ := guarded.waits slot waiting
    have posted := guards.posted.resolve_right fun post => post.1 client
    rw [Node.put_conns_self, node.put_held_same slot posted]
    exact ⟨guards.waits client, free⟩
  · intro held
    rw [Node.put_conns_self]
    refine ⟨?_, (guards.handed (guarded.handed slot held)).2⟩
    rcases guards.posted with same | ⟨waiting, _⟩
    · rw [node.put_held_same slot same]
      exact held
    · exact absurd (guarded.handed slot held).destSocket waiting

/-! ## Steps -/

/-- The end of `csp_connect` hands over at most its own slot, which was not in use before. -/
theorem connectReturns_guards {node mid : Node cfg} (guarded : node.Guarded) {slot : Nat}
    (retry : Bool) {ctx : Ctx cfg} {result : Option CspErr × Ctx cfg}
    (spares : node.Spares mid slot) (tidy : mid.Tidy)
    (free : node.held slot = false) (free' : mid.held slot = false)
    (ends : (mid.ctx slot).EndsTidy result.2) (connects : ctx.Connects result)
    (posted : ctx.stack.posted = mid.stack.posted) (client : ctx.conn.destSocket = none) :
    node.Guards (connectReturns mid slot retry result) := by
  have after := connectReturns_tidy mid slot retry result tidy ends
  have kept : ∀ {held : Prop}, node.held slot = true → held := fun held => by simp [free] at held
  have posted := connects.posted.trans posted
  have client := connects.destSocket.trans client
  have notHeld : ∀ ctx : Ctx cfg, ctx.stack.posted = mid.stack.posted →
      (mid.put slot ctx).held slot = false := by
    intro ctx posted
    rw [mid.put_held_same slot posted]
    exact free'
  obtain ⟨err, ctx'⟩ := result
  cases err with
  | none =>
      refine .of_slot guarded ((spares.put ctx').setWaiting _) after
        (Node.put_ctx_live (connects.live (.inl rfl))) ?_ ?_ kept
      · intro held
        exact absurd (held.symm.trans (notHeld ctx' posted)) (by simp)
      · intro _
        exact ⟨(congrArg Conn.destSocket (mid.put_conns_self slot ctx')).trans client,
          notHeld ctx' posted⟩
  | some err =>
      by_cases opened : err = .none
      · subst opened
        refine .of_slot guarded (((spares.put ctx').setWaiting _).setHeld _) after
          (Node.put_ctx_live (connects.live (.inr rfl))) ?_ ?_ kept
        · intro _
          have same : (connectReturns mid slot retry (some .none, ctx')).conns slot = ctx'.conn :=
            mid.put_conns_self slot ctx'
          rw [same]
          exact connects.opened rfl
        · intro waiting
          exact absurd (Function.update_self _ _ _) waiting
      · have closes : connectReturns mid slot retry (some err, ctx') =
            (mid.put slot (cspClose ctx')).setWaiting slot none := by
          cases err <;> first | rfl | exact absurd rfl opened
        have posted' : (cspClose ctx').stack.posted = mid.stack.posted :=
          (connClose_posted ctx' _).trans posted
        rw [closes] at after ⊢
        refine .of_slot guarded ((spares.put _).setWaiting _) after
          (Node.put_ctx_live (connClose_live ctx' _ ends.tidy)) ?_ ?_ kept
        · intro held
          exact absurd (held.symm.trans (notHeld _ posted')) (by simp)
        · intro waiting
          exact absurd (Function.update_self _ _ _) waiting

theorem Node.Guarded.wake {node : Node cfg} (guarded : node.Guarded) (slot : Nat) :
    node.Guards (node.wake slot) := by
  unfold Node.wake
  split
  · exact .refl guarded
  · rename_i retry waiting
    obtain ⟨client, free⟩ := guarded.waits slot (by simp [waiting])
    exact connectReturns_guards guarded false (.refl node slot) guarded.toTidy free free
      (rdpConnectWake_endsTidy _ retry (guarded.slots slot))
      (rdpConnectWake_connects _ retry (guarded.slots slot) client) rfl client

/-- A free slot is not in the hands of userspace. -/
theorem Node.Guarded.free {node : Node cfg} (guarded : node.Guarded) {slot : Nat}
    (free : (node.conns slot).state = .closed) : node.held slot = false := by
  by_contra held
  have inUse := (guarded.handed slot (by simpa using held)).connState
  rw [free] at inUse
  cases inUse

theorem Node.Spares.allocate (node : Node cfg) (slot : Nat) (conn : Conn cfg) (io : Io cfg)
    (lastGiven : UInt8) : node.Spares (node.allocate slot conn io lastGiven) slot where
  conns _ different := Function.update_of_ne different _ _
  held _ different := Function.update_of_ne different _ _
  waiting _ different := Function.update_of_ne different _ _

theorem cspConnect_guards (node : Node cfg) (prio : UInt8) (dest : UInt16) (dport : UInt8)
    (opts : UInt32) (guarded : node.Guarded) : node.Guards (cspConnect node prio dest dport opts) := by
  rcases cspConnect_cases node prio dest dport opts with same |
    ⟨slot, conn, io, lastGiven, idin, idout, allocated, flags, client, same⟩
  · rw [same]
    exact .refl guarded
  · have tidy := guarded.toTidy.allocate allocated flags io lastGiven
    have spares := Node.Spares.allocate node slot conn io lastGiven
    have opened := node.allocate_conns slot conn io lastGiven
    have unheld := guarded.free allocated.free
    rw [same]
    split
    · rename_i rdp
      exact connectReturns_guards guarded true spares tidy unheld (Function.update_self _ _ _)
        (guarded.toTidy.connectStart allocated flags io lastGiven rdp) (rdpConnectStart_connects _) rfl
        ((congrArg Conn.destSocket opened).trans client)
    · rename_i noRdp
      have slotConn : ((node.allocate slot conn io lastGiven).setHeld slot true).conns slot = conn := opened
      refine .of_slot guarded (spares.setHeld true) (tidy.of_same rfl rfl rfl) ?_ ?_ ?_ ?_
      · intro openRdp
        refine absurd ?_ noRdp
        rw [← allocated.idin, ← slotConn]
        exact openRdp.rdp
      · intro _
        rw [slotConn]
        refine ⟨allocated.inUse, client, ?_⟩
        rw [allocated.rdp, (guarded.toTidy.clean allocated.free).closedBy]
        decide
      · intro waiting
        exact absurd (Function.update_self _ _ _) waiting
      · intro held
        simp [unheld] at held

/-- The router checks the timeouts of connections with RDP only. -/
theorem checkTimeoutsOn_guards (slots : List Nat) (node : Node cfg) (guarded : node.Guarded) :
    node.Guards (checkTimeoutsOn slots node) := by
  induction slots generalizing node with
  | nil => exact .refl guarded
  | cons slot rest ih =>
      simp only [checkTimeoutsOn]
      split
      · rename_i inUse
        rw [Bool.and_eq_true, decide_eq_true_eq] at inUse
        have openRdp : (node.ctx slot).OpenRdp := ⟨inUse.1, inUse.2⟩
        obtain ⟨guards, live⟩ := rdpCheckTimeouts_guards _ (guarded.slots slot) openRdp
          (guarded.live slot openRdp)
        have step := Node.Guards.put guarded
          (rdpCheckTimeouts_endsTidy _ (guarded.slots slot) openRdp) guards live
        exact step.trans (ih _ step.guarded)
      · exact ih node guarded

/-- The router hands to each connection only packets that leave its handle alone. -/
def Routed.KeepsHandles : Routed cfg → Prop
  | .done _ => True
  | .deliver node slot packet => (node.ctx slot).Takes packet

theorem Ctx.Takes.handshake {ctx : Ctx cfg} {packet : Packet} (takes : ctx.Takes packet) :
    ctx.conn.TakesHandshake packet := fun rdp _ noReset => takes.rdp rdp noReset

theorem Node.Routes.finish_guards {node : Node cfg} {routed : Routed cfg}
    (routes : node.Routes routed) (guarded : node.Guarded) (keeps : routed.KeepsHandles) :
    node.Guards routed.finish := by
  cases routes with
  | done io sockets dedup calledBack => exact .of_same guarded rfl rfl rfl rfl rfl
  | @found io dedup slot packet inUse =>
      have before : node.Guards { node with stack.io := io, dedup } :=
        .of_same guarded rfl rfl rfl rfl rfl
      obtain ⟨guards, live⟩ := routeDeliver_guards _ packet (before.guarded.slots slot) inUse keeps
        fun openRdp closed => absurd closed (before.guarded.live slot openRdp)
      exact before.trans (.put before.guarded (routeDeliver_endsTidy _ packet
        (before.guarded.slots slot) inUse keeps.handshake) guards live)
  | @opened io dedup lastGiven slot conn packet allocated waits =>
      have tidy : Node.Tidy { node.allocate slot conn io lastGiven with dedup } :=
        (guarded.toTidy.allocate allocated rfl io lastGiven).of_same rfl rfl rfl
      have allocates := Node.Spares.allocate node slot conn io lastGiven
      have spares : node.Spares { node.allocate slot conn io lastGiven with dedup } slot :=
        ⟨allocates.conns, allocates.held, allocates.waiting⟩
      have opened := node.allocate_conns slot conn io lastGiven
      have unheld := guarded.free allocated.free
      have inUse : ((node.allocate slot conn io lastGiven).conns slot).state = .open := by
        rw [opened]
        exact allocated.inUse
      obtain ⟨guards, live⟩ := routeDeliver_guards _ packet (tidy.slots slot) inUse keeps
        fun openRdp _ => ⟨by
          rw [← allocated.idin, ← opened]
          exact openRdp.rdp, fun none => waits ((congrArg Conn.destSocket opened).symm.trans none)⟩
      have after := routeDeliver_endsTidy _ packet (tidy.slots slot) inUse keeps.handshake
      refine .of_slot guarded (spares.put _) (tidy.put after) (Node.put_ctx_live live) ?_ ?_ ?_
      · intro held
        have result := Node.put_conns_self { node.allocate slot conn io lastGiven with dedup } slot
          (routeDeliver (Slots.ctx { node.allocate slot conn io lastGiven with dedup }.toSlots slot) packet)
        simp only [Routed.finish] at held ⊢
        rw [result]
        rcases guards.posted with same | ⟨_, handed⟩
        · rw [Node.put_held_same _ slot same] at held
          exact absurd ((Function.update_self _ _ _).symm.trans held) (by simp)
        · exact handed
      · intro waiting
        exact absurd (Function.update_self _ _ _) waiting
      · intro held
        simp [unheld] at held

/-- The close of userspace takes only its own handle away. -/
theorem Node.Guarded.close {node : Node cfg} (guarded : node.Guarded) (slot : Nat) :
    (node.setHeld slot false).Guards (node.close slot) := by
  have given : (node.setHeld slot false).Guarded := by
    refine ⟨guarded.toTidy.of_same rfl rfl rfl, guarded.live, ?_, ?_⟩
    · intro other held
      by_cases same : other = slot
      · subst same
        exact absurd ((Function.update_self _ _ _).symm.trans held) (by simp)
      · exact guarded.handed other ((Function.update_of_ne same _ _).symm.trans held)
    · intro other waiting
      obtain ⟨client, free⟩ := guarded.waits other waiting
      refine ⟨client, ?_⟩
      by_cases same : other = slot
      · subst same
        exact Function.update_self _ _ _
      · exact (Function.update_of_ne same _ _).trans free
  have ends := connClose_endsTidy (node.ctx slot) rdpClosedByUserspace (guarded.slots slot)
  have unheld : (node.close slot).held slot = false := Function.update_self _ _ _
  have closed : (node.close slot).conns slot = (cspClose (node.ctx slot)).conn := node.put_conns_self slot _
  refine .of_slot given ?_ ((guarded.toTidy.put ends).of_same rfl rfl rfl)
    (Node.put_ctx_live (connClose_live _ _ (guarded.slots slot))) ?_ ?_ ?_
  · have put := (Node.Spares.refl node slot).put (cspClose (node.ctx slot))
    refine ⟨put.conns, fun other different => ?_, put.waiting⟩
    exact ((put.setHeld false).held other different).trans (Function.update_of_ne different _ _).symm
  · intro held
    exact absurd (unheld.symm.trans held) (by simp)
  · intro waiting
    refine ⟨?_, unheld⟩
    rw [closed]
    exact (connClose_destSocket _ _).trans (guarded.waits slot waiting).1
  · intro held
    exact absurd ((Function.update_self _ _ _).symm.trans held) (by simp)

/-- The router hands to each connection only packets that leave its handle alone. -/
def NodeInput.KeepsHandles (node : Node cfg) : NodeInput cfg → Prop
  | .route (some (ingress, packet)) =>
      (routeInput (connCheckTimeouts node) ingress packet).KeepsHandles
  | _ => True

/-- No step but a close of userspace takes a handle away. -/
theorem nodeStep_guards (node : Node cfg) (input : NodeInput cfg) (guarded : node.Guarded)
    (keeps : input.KeepsHandles node) :
    (∃ slot, input = .close slot ∧ (node.setHeld slot false).Guards (nodeStep node input)) ∨
      node.Guards (nodeStep node input) := by
  cases input with
  | connect prio dest dport opts => exact .inr (cspConnect_guards node prio dest dport opts guarded)
  | wake slot => exact .inr (guarded.wake slot)
  | route input =>
      have timers := checkTimeoutsOn_guards (List.range cfg.connMax) node guarded
      cases input with
      | none => exact .inr timers
      | some arrival =>
          exact .inr (timers.trans
            ((routeInput_routes _ arrival.1 arrival.2).finish_guards timers.guarded keeps))
  | accept socket =>
      refine .inr ?_
      simp only [nodeStep, cspAccept]
      split
      · exact .refl guarded
      · exact .of_same guarded rfl rfl rfl rfl rfl
  | send slot packet =>
      have sent := (cspSend_serves (node.ctx slot) packet).toKeeps
      exact .inr (.put guarded (cspSend_endsTidy _ packet (guarded.slots slot)) sent.guards
        (sent.live (guarded.live slot)))
  | read slot =>
      have read := cspRead_rests (node.ctx slot)
      exact .inr (.put guarded (read.endsTidy (guarded.slots slot)) read.guards
        (read.live (guarded.live slot)))
  | close slot => exact .inl ⟨slot, rfl, guarded.close slot⟩
  | environment environment => exact .inr (.of_same guarded rfl rfl rfl rfl rfl)

theorem nodeMachine_guarded {node : Node cfg}
    (reached : ((nodeMachine cfg).restrict fun node input => input.KeepsHandles node).Reachable node) :
    node.Guarded := by
  refine Machine.Reachable.invariant ?_ ?_ reached
  · rintro _ ⟨io, content, rfl⟩
    refine ⟨nodeInit_tidy io content, fun slot openRdp => ?_, fun slot held => ?_, fun slot waiting => ?_⟩
    · cases openRdp.connState
    · cases held
    · exact absurd rfl waiting
  · intro node input guarded allowed
    rcases nodeStep_guards node input guarded allowed.2 with ⟨_, _, guards⟩ | guards
    · exact guards.guarded
    · exact guards.guarded

/-- A connection in the hands of userspace is open. Until userspace closes it, each step leaves it
to userspace with the same peer. -/
theorem heldSlots_open {node : Node cfg}
    (reached : ((nodeMachine cfg).restrict fun node input => input.KeepsHandles node).Reachable node)
    {slot : Nat} (held : node.held slot = true) :
    (node.conns slot).state = .open ∧
      ∀ input, input.KeepsHandles node → input ≠ .close slot →
        (nodeStep node input).held slot = true ∧
          ((nodeStep node input).conns slot).idin = (node.conns slot).idin ∧
          ((nodeStep node input).conns slot).idout = (node.conns slot).idout := by
  have guarded := nodeMachine_guarded reached
  refine ⟨(guarded.handed slot held).connState, fun input keeps other => ?_⟩
  rcases nodeStep_guards node input guarded keeps with ⟨closing, rfl, guards⟩ | guards
  · have different : slot ≠ closing := fun same => other (by rw [same])
    have kept : (node.setHeld closing false).held slot = true :=
      (Function.update_of_ne different _ _).trans held
    exact ⟨guards.held slot kept, guards.idin slot kept, guards.idout slot kept⟩
  · exact ⟨guards.held slot held, guards.idin slot held, guards.idout slot held⟩

/-! ## Concrete runs -/

instance (ctx : Ctx cfg) (packet : Packet) : Decidable (ctx.Takes packet) :=
  decidable_of_iff
    ((packet.id.has cspFRdp = true → packet.hasRdp rdpRst = false →
        ctx.conn.idin.has cspFRdp = true) ∧
      (packet.id.has cspFRdp = false → ctx.conn.idin.has cspFRdp = true → ctx.postsPlain = true →
        ctx.conn.rdp.closedBy &&& rdpClosedByUserspace = 0))
    ⟨fun takes => ⟨takes.1, takes.2⟩, fun takes => ⟨takes.rdp, takes.plain⟩⟩

instance : ∀ routed : Routed cfg, Decidable routed.KeepsHandles
  | .done _ => .isTrue trivial
  | .deliver node slot packet => inferInstanceAs (Decidable ((node.ctx slot).Takes packet))

instance (node : Node cfg) : ∀ input : NodeInput cfg, Decidable (input.KeepsHandles node)
  | .route (some (ingress, packet)) =>
      inferInstanceAs (Decidable (routeInput (connCheckTimeouts node) ingress packet).KeepsHandles)
  | .route none => .isTrue trivial
  | .connect .. => .isTrue trivial
  | .wake _ => .isTrue trivial
  | .accept _ => .isTrue trivial
  | .send .. => .isTrue trivial
  | .read _ => .isTrue trivial
  | .close _ => .isTrue trivial
  | .environment _ => .isTrue trivial

instance (node : Node cfg) (input : NodeInput cfg) :
    Decidable (((nodeMachine cfg).restrict fun node input => input.KeepsHandles node).allowed
      node input) :=
  inferInstanceAs (Decidable (_ ∧ _))

/-- A packet for the first client of the idle node. -/
def replyPacket (flags : UInt8) : Packet :=
  { rdpSegment 0 1 1 [] with id := { (default : CspId) with flags, dport := 18 } }

/-- A client without RDP holds slot 1. -/
def plainClient : Node {} := (nodeMachine {}).trace idleNode [.connect 2 5 10 0]

/-- Its answer without RDP leaves the handle open. -/
theorem plainClient_open :
    (plainClient.conns 1).state = .open ∧
      (nodeStep plainClient (.route (some (0, replyPacket 0)))).held 1 = true :=
  have held := @heldSlots_open {} plainClient
    ((idleNode_reachable _).traceRestrict [.connect 2 5 10 0] (by decide +kernel)) 1 (by decide +kernel)
  ⟨held.1, (held.2 (.route (some (0, replyPacket 0))) (by decide +kernel) (by simp)).1⟩

/-- An answer with the flag of RDP, but without a SYN or a RESET, closes the slot under its user. -/
theorem plainClient_closed :
    ¬∀ node : Node {}, (nodeMachine {}).Reachable node → ∀ slot, node.held slot = true →
      (node.conns slot).state = .open := by
  intro stays
  have start : (nodeMachine {}).Reachable idleNode := .start ⟨_, _, rfl⟩
  have reached := start.trace [.connect 2 5 10 0, .route (some (0, replyPacket cspFRdp))]
    (by decide +kernel)
  have inUse := stays _ reached 1 (by decide +kernel)
  exact absurd inUse (by decide +kernel)

end Libcsp

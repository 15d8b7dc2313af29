/-
This file shows that the router frees each slot that neither userspace nor a csp_connect has when its time is over.
-/
import Libcsp.RouterCases
import Libcsp.SlotTimeouts

namespace Libcsp

variable {cfg : Config} {started connTimeout : UInt32} {ctx after : Ctx cfg} {node : Node cfg} {slot : Nat}

/-! ## Calls and the socket of a connection -/

/-- The call names no new parties, and it takes the connection from its socket only with a post. -/
structure Ctx.Hands (ctx after : Ctx cfg) : Prop where
  parties : AreParties ctx.conn.rdp.closedBy → AreParties after.conn.rdp.closedBy
  posts : ctx.stack.posted.length ≤ after.stack.posted.length
  socket : after.conn.destSocket = ctx.conn.destSocket ∨ ctx.stack.posted.length < after.stack.posted.length

theorem Ctx.Hands.trans {first second third : Ctx cfg} (left : first.Hands second) (right : second.Hands third) :
    first.Hands third := by
  refine ⟨right.parties ∘ left.parties, left.posts.trans right.posts, ?_⟩
  rcases left.socket with same | posted
  · rcases right.socket with same' | posted
    · exact .inl (same'.trans same)
    · exact .inr (left.posts.trans_lt posted)
  · exact .inr (posted.trans_le right.posts)

theorem Ctx.Keeps.hands (keeps : ctx.Keeps after) : ctx.Hands after :=
  ⟨fun parties => by rwa [keeps.closedBy], by rw [keeps.posted], .inl keeps.destSocket⟩

theorem Stack.post_length {stack posted : Stack cfg} {socket index : Nat} (post : stack.post socket index = some posted) :
    posted.posted.length = stack.posted.length + 1 := by
  simp only [Stack.post] at post
  split at post
  · cases post
  · cases post
    exact List.length_append

theorem Ctx.Moves.hands {moved : Ctx cfg} (moves : ctx.Moves moved) : ctx.Hands moved := by
  cases moves with
  | state state live waits => exact ⟨id, le_rfl, .inl rfl⟩
  | post received waits posted =>
      have longer := Stack.post_length posted
      exact ⟨id, by simp [longer], .inr (by simp [longer])⟩

theorem connClose_hands {closedBy : UInt8} (parties : AreParties closedBy) : ctx.Hands (connClose ctx closedBy) := by
  refine ⟨fun before => ?_, by rw [connClose_posted], .inl (connClose_destSocket ctx closedBy)⟩
  rcases connClose_cases ctx closedBy with ⟨_, same⟩ | ⟨_, ⟨_, _, _, _, _, _, _, _, _, same⟩ |
    ⟨_, _, ⟨_, ⟨_, _, _, _, _, _, _, _, _, same⟩, none | ⟨_, kept⟩⟩, _⟩ | ⟨_, same⟩⟩
  · rwa [same]
  · rw [same]
    exact before.or parties
  · rw [same, none]
    exact (by decide : AreParties 0)
  · rw [same, kept]
    exact before
  · obtain ⟨_, _, _, released, _⟩ := connRelease_changes ctx
    rwa [same, released]

theorem rdpDiscardClose_hands {closedBy : UInt8} (parties : AreParties closedBy) :
    ctx.Hands (rdpDiscardClose ctx closedBy) := by
  simp only [rdpDiscardClose]
  split
  · obtain ⟨rxQueue, rxLog, queued⟩ := connEnqueuePacket_changes (connClose ctx closedBy).conn none
    have closes : ctx.Hands (connClose ctx closedBy) := connClose_hands parties
    rw [queued]
    exact ⟨closes.parties, closes.posts, closes.socket⟩
  · exact connClose_hands (parties.or (by decide))

theorem rdpNewPacketBody_hands (ctx : Ctx cfg) (packet : Packet) :
    ctx.Hands (rdpNewPacketBody ctx packet).ctx ∧
      ∀ closedBy, (rdpNewPacketBody ctx packet).exit = .discardClose closedBy → AreParties closedBy := by
  by_cases closed : ctx.conn.rdp.state = .closed
  · by_cases syn : packet.hasRdp rdpRst = true ∨ packet.hasRdp rdpSyn = false
    · obtain ⟨exits, rests⟩ := rdpNewPacketBody_rests ctx packet closed syn
      refine ⟨rests.hands, fun closedBy discards => ?_⟩
      rcases exits with ⟨opens, -⟩ | ⟨closes, -⟩
      · rw [opens] at discards
        cases discards
      · rw [closes] at discards
        cases discards
        decide
    · obtain ⟨noReset, isSyn⟩ := not_or.mp syn
      obtain ⟨opens, serves⟩ := rdpNewPacketBody_syn ctx packet closed (by simpa using isSyn) (by simpa using noReset)
      refine ⟨⟨serves.hands.parties, serves.hands.posts, serves.hands.socket⟩, fun closedBy discards => ?_⟩
      rw [opens] at discards
      cases discards
  · obtain ⟨protocol, moved, moves, serves⟩ := rdpNewPacketBody_goesOn ctx packet closed
    refine ⟨moves.hands.trans serves.hands, fun closedBy discards => ?_⟩
    rw [discards] at protocol
    rcases protocol with rfl | rfl
    · decide
    · decide

theorem routeRdp_hands (ctx : Ctx cfg) (packet : Packet) : ctx.Hands (routeRdp ctx packet) := by
  obtain ⟨hands, parties⟩ := rdpNewPacketBody_hands ctx packet
  have freed (before : Ctx cfg) (packet : Packet) : before.Hands (before.free packet) := (before.free_keeps packet).hands
  simp only [routeRdp, rdpNewPacket, rdpFinish]
  split
  · rename_i after finished
    refine hands.trans (Ctx.Hands.trans ?_ (connClose_hands (by decide : AreParties rdpClosedByUserspace)))
    split at finished
    · cases finished
    · cases finished
      exact freed _ _
    · cases finished
  · rename_i after finished
    refine hands.trans ?_
    split at finished
    · rename_i closedBy exit
      cases finished
      exact (rdpDiscardClose_hands (parties closedBy exit)).trans (freed _ _)
    · cases finished
      exact freed _ _
    · cases finished
      exact (Ctx.Serves.refl _).hands

theorem routePost_hands (ctx : Ctx cfg) : ctx.Hands (routePost ctx) := by
  simp only [routePost]
  split
  · exact (Ctx.Serves.refl ctx).hands
  · split
    · exact connClose_hands (by decide)
    · rename_i posted
      have longer := Stack.post_length posted
      exact ⟨id, by simp [longer], .inr (by simp [longer])⟩

theorem routeDeliver_hands (ctx : Ctx cfg) (packet : Packet) : ctx.Hands (routeDeliver ctx packet) := by
  simp only [routeDeliver, routePlain, connEnqueuePacket]
  split
  · exact routeRdp_hands ctx packet
  · cases ctx.conn.rxQueue.enqueue (some packet) with
    | none => exact (ctx.free_keeps packet).hands
    | some rxQueue =>
        have posts := routePost_hands { ctx with
          conn := { ctx.conn with rxQueue, rxLog := ctx.conn.rxLog ++ [some packet] } }
        exact ⟨posts.parties, posts.posts, posts.socket⟩

theorem rdpCheckTimeouts_hands (ctx : Ctx cfg) : ctx.Hands (rdpCheckTimeouts ctx) := by
  simp only [rdpCheckTimeouts]
  split
  · exact connClose_hands (by decide)
  · split
    · split
      · exact connClose_hands (by decide)
      · exact (Ctx.Serves.refl ctx).hands
    · exact (rdpTimeoutPackets_serves ctx).hands

/-! ## Slots that userspace does not hold -/

/-- The connection waits for its socket, and userspace does not know it yet. -/
structure Conn.Pends (conn : Conn cfg) : Prop where
  rdp : conn.idin.has cspFRdp = true
  destSocket : conn.destSocket ≠ none

/-- Userspace or a call of `csp_connect` has the slot, or a timeout runs for it. -/
def Node.Accounted (node : Node cfg) (slot : Nat) : Prop :=
  node.held slot = true ∨ node.waiting slot ≠ none ∨ (node.conns slot).Pends ∨
    ∃ started connTimeout, (node.conns slot).Lingers started connTimeout

/-- Each connection in use has an owner, and its fields are in order. -/
structure Node.Accounts (node : Node cfg) : Prop where
  parties : ∀ slot, AreParties (node.conns slot).rdp.closedBy
  flags : ∀ slot, (node.conns slot).state = .open →
    (node.conns slot).idin.has cspFRdp = (node.conns slot).idout.has cspFRdp
  owner : ∀ slot, (node.conns slot).state = .open → node.Accounted slot

/-- All that matters are the connections and the history of the handles. -/
theorem Node.Accounts.of_same {node after : Node cfg} (accounts : node.Accounts) (conns : after.conns = node.conns)
    (held : after.held = node.held) (waiting : after.waiting = node.waiting) : after.Accounts := by
  refine ⟨?_, ?_, ?_⟩
  · rw [conns]
    exact accounts.parties
  · rw [conns]
    exact accounts.flags
  · intro slot inUse
    rw [conns] at inUse
    rw [Node.Accounted, held, waiting, conns]
    exact accounts.owner slot inUse

/-- What holds of the changed slot is all that a step on one slot has to show. -/
theorem Node.Accounts.of_slot {node after : Node cfg} (accounts : node.Accounts) (spares : node.Spares after slot)
    (parties : AreParties (after.conns slot).rdp.closedBy)
    (flags : (after.conns slot).state = .open →
      (after.conns slot).idin.has cspFRdp = (after.conns slot).idout.has cspFRdp)
    (owner : (after.conns slot).state = .open → after.Accounted slot) : after.Accounts := by
  refine ⟨fun other => ?_, fun other => ?_, fun other => ?_⟩
  all_goals by_cases same : other = slot
  · exact same ▸ parties
  · rw [spares.conns other same]
    exact accounts.parties other
  · exact same ▸ flags
  · rw [spares.conns other same]
    exact accounts.flags other
  · exact same ▸ owner
  · rw [Node.Accounted, spares.conns other same, spares.held other same, spares.waiting other same]
    exact accounts.owner other

/-- The call treats the connection as its owner expects. -/
structure Ctx.Treats (ctx after : Ctx cfg) : Prop where
  lasts : ctx.conn.Lasts after.conn
  hands : ctx.Hands after
  departs : ∀ started connTimeout, ctx.conn.Lingers started connTimeout → after.conn.Departs started connTimeout

theorem Conn.Lasts.flags {conn after : Conn cfg} (lasts : conn.Lasts after)
    (flags : conn.state = .open → conn.idin.has cspFRdp = conn.idout.has cspFRdp) (inUse : after.state = .open) :
    after.idin.has cspFRdp = after.idout.has cspFRdp := by
  have idin : after.idin = conn.idin := congrArg ConnIdentity.idin lasts.identity
  have idout : after.idout = conn.idout := congrArg ConnIdentity.idout lasts.identity
  rw [idin, idout]
  exact flags (lasts.inUse inUse)

/-- A call on one slot leaves its connection to the owner, or posts it to userspace. -/
theorem Node.Accounts.put (accounts : node.Accounts) (treats : (node.ctx slot).Treats after) :
    (node.put slot after).Accounts := by
  have own := node.put_conns_self slot after
  refine accounts.of_slot ((Node.Spares.refl node slot).put after) ?_ ?_ ?_
  · rw [own]
    exact treats.hands.parties (accounts.parties slot)
  · rw [own]
    exact treats.lasts.flags (accounts.flags slot)
  · rw [own]
    intro inUse
    have before := treats.lasts.inUse inUse
    rw [Node.Accounted, own]
    have kept : node.held slot = true → (node.put slot after).held slot = true := by
      intro held
      simp only [Node.put]
      split
      · exact held
      · exact Function.update_self _ _ _
    rcases accounts.owner slot before with held | waiting | pends | ⟨started, connTimeout, lingers⟩
    · exact .inl (kept held)
    · exact .inr (.inl waiting)
    · rcases treats.hands.socket with same | posted
      · have idin : after.conn.idin = (node.conns slot).idin := congrArg ConnIdentity.idin treats.lasts.identity
        exact .inr (.inr (.inl ⟨idin ▸ pends.rdp, same ▸ pends.destSocket⟩))
      · have new : after.stack.posted ≠ node.stack.posted := fun same => posted.ne (by rw [same]; rfl)
        refine .inl ?_
        simp only [Node.put, if_neg new]
        exact Function.update_self _ _ _
    · rcases treats.departs started connTimeout lingers with free | stays
      · rw [free] at inUse
        cases inUse
      · exact .inr (.inr (.inr ⟨started, connTimeout, stays⟩))

/-- A close starts the timeout, unless the peer has started it before. -/
theorem rdpBeginClose_lingers (inUse : ctx.conn.state = .open) (rdp : ctx.conn.idin.has cspFRdp = true)
    (parties : AreParties ctx.conn.rdp.closedBy) :
    (rdpBeginClose ctx rdpClosedByUserspace true).conn.Lingers
      (if ctx.conn.rdp.state = .closeWait then ctx.conn.timestamp else ctx.stack.now) ctx.conn.rdp.connTimeout := by
  have user : (ctx.conn.rdp.closedBy ||| rdpClosedByUserspace) &&& rdpClosedByUserspace ≠ 0 := fun none =>
    absurd ((closedBy_or _ _).mp none).2 (by decide)
  have named := parties.or (by decide : AreParties rdpClosedByUserspace)
  simp only [rdpBeginClose]
  by_cases waits : ctx.conn.rdp.state = .closeWait
  · rw [if_pos waits, if_pos waits]
    exact ⟨inUse, rdp, waits, user, named, rfl, rfl⟩
  · rw [if_neg waits, if_neg waits]
    obtain ⟨io, rdpIncr, rcvLsa, ackTimestamp, entered⟩ := rdpEnterCloseWait_closes
      { ctx with conn.rdp.closedBy := ctx.conn.rdp.closedBy ||| rdpClosedByUserspace } true
    rw [entered]
    exact ⟨inUse, rdp, rfl, user, named, rfl, rfl⟩

/-- A close of userspace frees the slot or starts its timeout. -/
theorem cspClose_lingers (parties : AreParties ctx.conn.rdp.closedBy)
    (flags : ctx.conn.state = .open → ctx.conn.idin.has cspFRdp = ctx.conn.idout.has cspFRdp) :
    (cspClose ctx).conn.state = .closed ∨
      (cspClose ctx).conn.Lingers
        (if ctx.conn.rdp.state = .closeWait then ctx.conn.timestamp else ctx.stack.now) ctx.conn.rdp.connTimeout := by
  cases state : ctx.conn.state with
  | closed =>
      rw [cspClose, connClose_closed ctx _ state]
      exact .inl state
  | «open» =>
      have inUse : ctx.conn.state ≠ .closed := by simp [state]
      rw [cspClose, connClose, if_neg inUse]
      split
      · rename_i uses
        have rdp : ctx.conn.idin.has cspFRdp = true := by
          rcases Bool.or_eq_true_iff.mp uses with idin | idout
          · exact idin
          · exact (flags state).trans idout
        have lingers := rdpBeginClose_lingers state rdp parties
        rw [rdpClose, rdpCloseInternal_eq]
        by_cases unused : ctx.conn.rdp.state = .closed
        · rw [if_pos unused]
          exact .inl rfl
        · rw [if_neg unused]
          by_cases others : (rdpBeginClose ctx rdpClosedByUserspace true).conn.rdp.closedBy ≠ rdpClosedByAll
          · rw [if_pos others]
            exact .inr lingers
          · rw [if_neg others]
            exact .inl rfl
      · exact .inl rfl

theorem cspClose_lasts (ctx : Ctx cfg) : ctx.conn.Lasts (cspClose ctx).conn := connClose_lasts ctx _

/-- A close of userspace leaves no slot without a timeout. -/
theorem Node.Accounts.close (accounts : node.Accounts) (slot : Nat) : (node.close slot).Accounts := by
  have own : (node.close slot).conns slot = (cspClose (node.ctx slot)).conn := node.put_conns_self slot _
  have closes : (node.ctx slot).Hands (cspClose (node.ctx slot)) := connClose_hands (by decide)
  refine accounts.of_slot (((Node.Spares.refl node slot).put _).setHeld false) ?_ ?_ ?_
  · rw [own]
    exact closes.parties (accounts.parties slot)
  · rw [own]
    exact (cspClose_lasts _).flags (accounts.flags slot)
  · rw [Node.Accounted, own]
    intro inUse
    rcases @cspClose_lingers cfg (node.ctx slot) (accounts.parties slot) (accounts.flags slot) with free | lingers
    · rw [free] at inUse
      cases inUse
    · exact .inr (.inr (.inr ⟨_, _, lingers⟩))

/-- A `csp_connect` hands the slot over, waits on it, or closes it. -/
theorem connectReturns_accounts {mid : Node cfg} (accounts : node.Accounts) (spares : node.Spares mid slot)
    (retry : Bool) {result : Option CspErr × Ctx cfg} (parties : AreParties result.2.conn.rdp.closedBy)
    (flags : result.2.conn.state = .open → result.2.conn.idin.has cspFRdp = result.2.conn.idout.has cspFRdp) :
    (connectReturns mid slot retry result).Accounts := by
  have returns := connectReturns_spares mid slot retry result
  have spares : node.Spares (connectReturns mid slot retry result) slot :=
    ⟨fun other apart => (returns.conns other apart).trans (spares.conns other apart),
      fun other apart => (returns.held other apart).trans (spares.held other apart),
      fun other apart => (returns.waiting other apart).trans (spares.waiting other apart)⟩
  obtain ⟨err, after⟩ := result
  have conns := congrFun (connectReturns_conns mid slot retry (err, after)) slot
  rw [mid.put_conns_self] at conns
  have same : connectResult (err, after) = after ∨ connectResult (err, after) = cspClose after := by
    unfold connectResult
    split <;> simp_all
  refine accounts.of_slot spares ?_ ?_ ?_
  · rw [conns]
    rcases same with same | same
    · rwa [same]
    · rw [same]
      exact (connClose_hands (by decide)).parties parties
  · rw [conns]
    rcases same with same | same
    · rwa [same]
    · rw [same]
      exact (cspClose_lasts after).flags flags
  · intro inUse
    rw [conns] at inUse
    cases err with
    | none =>
        have waits : (connectReturns mid slot retry (none, after)).waiting slot = some retry :=
          Function.update_self _ _ _
        exact .inr (.inl (by simp [waits]))
    | some err =>
        by_cases opened : err = .none
        · subst opened
          exact .inl (Function.update_self _ _ _)
        · have failed : connectResult (some err, after) = cspClose after := by
            cases err <;> first | rfl | exact absurd rfl opened
          rw [failed] at inUse conns
          rw [Node.Accounted, conns]
          rcases cspClose_lingers parties flags with free | lingers
          · rw [free] at inUse
            cases inUse
          · exact .inr (.inr (.inr ⟨_, _, lingers⟩))

theorem rdpCloseInternal_parties {closedBy : UInt8} (before : AreParties ctx.conn.rdp.closedBy)
    (parties : AreParties closedBy) (sendRst : Bool) :
    AreParties (rdpCloseInternal ctx closedBy sendRst).2.conn.rdp.closedBy := by
  rcases rdpCloseInternal_cases ctx closedBy sendRst with ⟨-, same⟩ |
    ⟨-, _, _, _, _, _, _, ⟨-, same⟩ | ⟨-, same⟩⟩
  · rwa [same]
  · rw [same]
    exact before.or parties
  · rw [same]
    exact (by decide : AreParties 0)

theorem rdpConnectAttempt_parties (before : AreParties ctx.conn.rdp.closedBy) :
    AreParties (rdpConnectAttempt ctx).2.conn.rdp.closedBy := by
  have sent := (rdpSendSyn_serves { ctx with conn.rdp := rdpNewAttempt cfg ctx.stack.now ctx.conn.rdp }).closedBy
  have kept : AreParties (rdpSendSyn
      { ctx with conn.rdp := rdpNewAttempt cfg ctx.stack.now ctx.conn.rdp }).2.conn.rdp.closedBy := by
    rw [sent]
    exact before
  simp only [rdpConnectAttempt]
  generalize rdpSendSyn { ctx with conn.rdp := rdpNewAttempt cfg ctx.stack.now ctx.conn.rdp } = result at kept
  obtain ⟨err, after⟩ := result
  split
  · exact before
  · split
    · rename_i same
      cases same
      exact kept
    · rename_i same
      cases same
      exact rdpCloseInternal_parties kept (by decide) false

theorem rdpConnectWake_parties (before : AreParties ctx.conn.rdp.closedBy) (retry : Bool) :
    AreParties (rdpConnectWake ctx retry).2.conn.rdp.closedBy := by
  simp only [rdpConnectWake]
  split
  · exact before
  · split
    · exact @rdpConnectAttempt_parties cfg ⟨{ ctx.conn with rdp := { ctx.conn.rdp with txWait := false } },
        rdpQueueFlush ctx.stack (some ctx.conn.index)⟩ before
    · exact @rdpCloseInternal_parties cfg ⟨{ ctx.conn with rdp := { ctx.conn.rdp with txWait := false } }, ctx.stack⟩
        rdpClosedByProtocol before (by decide) false

theorem Node.Accounts.wake (accounts : node.Accounts) (slot : Nat) : (node.wake slot).Accounts := by
  unfold Node.wake
  split
  · exact accounts
  · rename_i retry waiting
    exact connectReturns_accounts accounts (.refl node slot) false
      (rdpConnectWake_parties (accounts.parties slot) retry)
      ((rdpConnectWake_lasts (node.ctx slot) retry).flags (accounts.flags slot))

theorem Node.Accounts.connect (accounts : node.Accounts) (prio : UInt8) (dest : UInt16) (dport : UInt8)
    (opts : UInt32) : (cspConnect node prio dest dport opts).Accounts := by
  rcases cspConnect_cases node prio dest dport opts with same |
    ⟨slot, conn, io, lastGiven, idin, idout, allocated, flags, -, same⟩
  · rwa [same]
  · let opened := node.allocate slot conn io lastGiven
    have spares : node.Spares opened slot := .allocate node slot conn io lastGiven
    have own : opened.conns slot = conn := node.allocate_conns slot conn io lastGiven
    have parties : AreParties (opened.conns slot).rdp.closedBy := by
      rw [own, allocated.rdp]
      exact accounts.parties slot
    have flags : (opened.conns slot).idin.has cspFRdp = (opened.conns slot).idout.has cspFRdp := by
      rw [own, allocated.idin, allocated.idout]
      exact flags
    rw [same]
    split
    · exact connectReturns_accounts accounts spares true (rdpConnectAttempt_parties parties)
        ((rdpConnectStart_lasts (opened.ctx slot)).flags fun _ => flags)
    · exact accounts.of_slot (spares.setHeld true) parties (fun _ => flags)
        fun _ => .inl (Function.update_self _ _ _)

/-! ## The router and the owners -/

theorem routeDeliver_treats (ctx : Ctx cfg) (packet : Packet) : ctx.Treats (routeDeliver ctx packet) :=
  ⟨routeDeliver_lasts ctx packet, routeDeliver_hands ctx packet, fun _ _ lingers => routeDeliver_departs lingers packet⟩

theorem rdpCheckTimeouts_treats (ctx : Ctx cfg) : ctx.Treats (rdpCheckTimeouts ctx) :=
  ⟨rdpCheckTimeouts_lasts ctx, rdpCheckTimeouts_hands ctx, fun _ _ lingers => (rdpCheckTimeouts_lingers lingers).1⟩

theorem checkTimeoutsOn_accounts (slots : List Nat) (accounts : node.Accounts) :
    (checkTimeoutsOn slots node).Accounts := by
  induction slots generalizing node with
  | nil => exact accounts
  | cons visited rest ih =>
      simp only [checkTimeoutsOn]
      split
      · exact ih (accounts.put (rdpCheckTimeouts_treats _))
      · exact ih accounts

/-- A close of a connection without RDP frees the slot. -/
theorem connClose_frees (plain : ctx.conn.usesRdp = false) (closedBy : UInt8) :
    (connClose ctx closedBy).conn.state = .closed := (connClose_plain ctx closedBy plain).connState

/-- A packet without RDP opens a connection that its socket takes, or that does not last. -/
theorem routePlain_opens {socket : Nat} (some' : 0 < cfg.connRxqueueLen) (waits : ctx.conn.destSocket = some socket)
    (empty : ctx.conn.rxQueue = .empty) (plain : ctx.conn.usesRdp = false) (packet : Packet) :
    (routePlain ctx packet).conn.state = .closed ∨ (routePlain ctx packet).stack.posted ≠ ctx.stack.posted := by
  have room : ctx.conn.rxQueue.items.length < cfg.connRxqueueLen := by
    rw [empty]
    exact some'
  simp only [routePlain, connEnqueuePacket, BoundedQueue.enqueue_of_room (some packet) room, routePost, waits]
  split
  · refine .inl (connClose_frees ?_ _)
    exact plain
  · rename_i posted
    have longer := Stack.post_length posted
    exact .inr fun same => by rw [same] at longer; omega

theorem Node.Handles.finish_accounts {routed : Routed cfg} {packet : Packet} (some' : 0 < cfg.connRxqueueLen)
    (handles : node.Handles packet routed) (accounts : node.Accounts) : routed.finish.Accounts := by
  cases handles with
  | done io dedup calledBack => exact accounts.of_same rfl rfl rfl
  | queued io dedup passes stored => exact accounts.of_same rfl rfl rfl
  | found io dedup existing passes =>
      have before : Node.Accounts { node with stack.io := io, dedup } := accounts.of_same rfl rfl rfl
      exact before.put (routeDeliver_treats _ _)
  | @opened io dedup socket slot checked missing bound passes inside free next =>
      let conn := (node.conns slot).server node.stack.now checked.id socket (node.stack.sockets socket).opts
      let opened := Node.renew { node with stack.io := io, dedup } slot conn
      have own : opened.conns slot = conn := Node.renew_own _ slot conn
      have spares : node.Spares opened slot :=
        ⟨fun _ apart => Function.update_of_ne apart _ _, fun _ apart => Function.update_of_ne apart _ _,
          fun _ apart => Function.update_of_ne apart _ _⟩
      let after := routeDeliver (opened.ctx slot) checked
      have treats : (opened.ctx slot).Treats after := routeDeliver_treats _ _
      have ctx : (opened.ctx slot).conn = conn := own
      have idin : after.conn.idin = checked.id := by
        have kept : after.conn.idin = (opened.ctx slot).conn.idin := congrArg ConnIdentity.idin treats.lasts.identity
        rw [kept, ctx]
        rfl
      have result : (opened.put slot after).conns slot = after.conn := opened.put_conns_self slot after
      show (opened.put slot after).Accounts
      refine accounts.of_slot (spares.put after) ?_ ?_ ?_
      · rw [result]
        exact treats.hands.parties (ctx ▸ accounts.parties slot)
      · rw [result]
        exact treats.lasts.flags fun _ => by rw [ctx]; rfl
      · rw [result]
        intro inUse
        have posts : after.stack.posted ≠ opened.stack.posted → (opened.put slot after).held slot = true := by
          intro new
          simp only [Node.put, if_neg new]
          exact Function.update_self _ _ _
        rw [Node.Accounted, result]
        by_cases rdp : checked.id.has cspFRdp = true
        · rcases treats.hands.socket with same | posted
          · refine .inr (.inr (.inl ⟨idin ▸ rdp, ?_⟩))
            rw [same, ctx]
            exact Option.some_ne_none socket
          · exact .inl (posts fun same => posted.ne (by rw [same]; rfl))
        · have plain : (opened.ctx slot).conn.usesRdp = false := by
            rw [ctx]
            simpa [conn, Conn.server, Conn.renew, Conn.usesRdp, answerId, CspId.has] using rdp
          have delivers : after = routePlain (opened.ctx slot) checked := if_neg rdp
          rcases @routePlain_opens cfg (opened.ctx slot) socket some' (by rw [ctx]; rfl) (by rw [ctx]; rfl) plain
            checked with gone | new
          · rw [delivers, gone] at inUse
            cases inUse
          · exact .inl (posts (delivers ▸ new))

theorem nodeStep_accounts (some' : 0 < cfg.connRxqueueLen) (accounts : node.Accounts) (input : NodeInput cfg) :
    (nodeStep node input).Accounts := by
  cases input with
  | connect prio dest dport opts => exact accounts.connect prio dest dport opts
  | wake slot => exact accounts.wake slot
  | route received =>
      have timers : (connCheckTimeouts node).Accounts := checkTimeoutsOn_accounts _ accounts
      cases received with
      | none => exact timers
      | some arrival => exact (routeInput_handles _ arrival.1 arrival.2).finish_accounts some' timers
  | accept socket =>
      simp only [nodeStep, cspAccept]
      split
      · exact accounts
      · exact accounts.of_same rfl rfl rfl
  | send slot packet =>
      exact accounts.put ⟨cspSend_lasts _ _, (cspSend_serves _ packet).hands,
        fun _ _ lingers => .inr (cspSend_lingers lingers packet)⟩
  | read slot =>
      exact accounts.put ⟨cspRead_lasts _, (cspRead_rests _).hands, fun _ _ lingers => .inr (cspRead_lingers lingers)⟩
  | close slot => exact accounts.close slot
  | environment environment => exact accounts.of_same rfl rfl rfl

theorem nodeMachine_accounts (some' : 0 < cfg.connRxqueueLen) (reached : (nodeMachine cfg).Reachable node) :
    node.Accounts := by
  refine Machine.Reachable.invariant ?_ ?_ reached
  · rintro _ ⟨io, content, rfl⟩
    refine ⟨fun slot => (by decide : AreParties 0), fun slot inUse => ?_, fun slot inUse => ?_⟩
    · cases inUse
    · cases inUse
  · exact fun _ input accounts _ => nodeStep_accounts some' accounts input

/-! ## Timeouts free all other slots -/

/-- A close for all parties frees the slot. -/
theorem connClose_all (parties : AreParties ctx.conn.rdp.closedBy) :
    (connClose ctx (rdpClosedByUserspace ||| rdpClosedByProtocol ||| rdpClosedByTimeout)).conn.state = .closed := by
  rcases connClose_cases ctx (rdpClosedByUserspace ||| rdpClosedByProtocol ||| rdpClosedByTimeout) with
    ⟨closed, same⟩ | ⟨_, ⟨_, _, others, _⟩ | ⟨_, _, ⟨_, ⟨_, _, _, _, _, _, _, _, _, same⟩, _⟩, _⟩ | ⟨plain, _⟩⟩
  · rwa [same]
  · exact absurd parties others
  · rw [same]
  · exact connClose_frees plain _

theorem Conn.Pends.timedOut (pends : (node.conns slot).Pends) (inUse : (node.conns slot).state = .open)
    (parties : AreParties (node.conns slot).rdp.closedBy) (inside : slot < cfg.connMax)
    (late : rdpTimeAfter node.stack.now ((node.conns slot).timestamp + (node.conns slot).rdp.connTimeout) = true) :
    ((connCheckTimeouts node).conns slot).state = .closed := by
  refine checkTimeoutsOn_frees inUse pends.rdp (fun ctx conn now => ?_) (List.mem_range.mpr inside)
  have waits : ctx.conn.destSocket.isSome = true := by
    rw [conn]
    exact Option.isSome_iff_ne_none.mpr pends.destSocket
  have expired : rdpConnTimedOut ctx = true := by
    rw [rdpConnTimedOut, conn, now]
    exact late
  rw [rdpCheckTimeouts, waits, expired, if_pos rfl]
  exact connClose_all (conn ▸ parties)

/-- In each reachable state, the timeouts free each slot in use that neither userspace nor a `csp_connect` has, when
its time is over. -/
theorem unheldSlot_freed (some' : 0 < cfg.connRxqueueLen) (reached : (nodeMachine cfg).Reachable node)
    (inside : slot < cfg.connMax) (inUse : (node.conns slot).state = .open) (unheld : node.held slot = false)
    (idle : node.waiting slot = none)
    (late : rdpTimeAfter node.stack.now ((node.conns slot).timestamp + (node.conns slot).rdp.connTimeout) = true) :
    ((connCheckTimeouts node).conns slot).state = .closed := by
  have accounts := nodeMachine_accounts some' reached
  rcases accounts.owner slot inUse with held | waiting | pends | ⟨started, connTimeout, lingers⟩
  · rw [unheld] at held
    cases held
  · exact absurd idle waiting
  · exact pends.timedOut inUse (accounts.parties slot) inside late
  · rw [lingers.timestamp, lingers.connTimeout] at late
    exact lingers.timedOut inside late

/-- A peer opens a connection to port 10 of an idle node with a SYN, and does not answer any more. -/
def silentPeer : List (NodeInput {}) :=
  [.environment { idleNode with ports := fun port => if port = 10 then .open 0 else .closed },
    .route (some (0, { synSegment 100 with id := { (default : CspId) with flags := cspFRdp, dport := 10 } })),
    .environment { idleNode with stack := { idleNode.stack with now := 20000 } }]

theorem silentPeer_freed :
    (((nodeMachine {}).trace idleNode silentPeer).conns 1).state = .open ∧
      ((connCheckTimeouts ((nodeMachine {}).trace idleNode silentPeer)).conns 1).state = .closed := by
  have start : (nodeMachine {}).Reachable idleNode := .start ⟨_, _, rfl⟩
  have inUse : (((nodeMachine {}).trace idleNode silentPeer).conns 1).state = .open := by decide +kernel
  exact ⟨inUse, unheldSlot_freed (by decide) (start.trace silentPeer (by decide +kernel)) (by decide) inUse
    (by decide +kernel) (by decide +kernel) (by decide +kernel)⟩

/-- The end of the time that a closed connection keeps its slot. -/
def Conn.closeDeadline (conn : Conn cfg) (now : UInt32) : UInt32 :=
  (if conn.rdp.state = .closeWait then conn.timestamp else now) + conn.rdp.connTimeout

/-- Whatever packets arrive and whatever calls follow, the slot of a connection that userspace closes is free before
the router works behind the deadline of the close. -/
theorem closedSlot_freed (some' : 0 < cfg.connRxqueueLen) (reached : (nodeMachine cfg).Reachable node)
    (inside : slot < cfg.connMax) (inputs : List (NodeInput cfg)) (received : Option (Nat × Packet))
    (late : rdpTimeAfter ((nodeMachine cfg).trace node (.close slot :: inputs)).stack.now
      ((node.conns slot).closeDeadline node.stack.now) = true) :
    ∃ before input after, .close slot :: (inputs ++ [.route received]) = before ++ input :: after ∧
      ((nodeMachine cfg).trace node before).Vacates slot input := by
  have accounts := nodeMachine_accounts some' reached
  have own : (node.close slot).conns slot = (cspClose (node.ctx slot)).conn := node.put_conns_self slot _
  rcases @cspClose_lingers cfg (node.ctx slot) (accounts.parties slot) (accounts.flags slot) with free | lingers
  · exact ⟨[], .close slot, inputs ++ [.route received], rfl, .inr ((congrArg Conn.state own).trans free)⟩
  · rw [← own] at lingers
    obtain ⟨before, input, after, split, frees⟩ :=
      @lingering_freed cfg _ _ (node.close slot) slot inside lingers inputs received late
    exact ⟨.close slot :: before, input, after, congrArg (.close slot :: ·) split, frees⟩

/-- A client of an idle node closes its connection while it waits for the server. -/
def impatientClient : Node {} := (nodeMachine {}).trace idleNode [.connect 2 5 10 cspSoRdpReq]

def laterInput : NodeInput {} := .environment { idleNode with stack := { idleNode.stack with now := 20000 } }

theorem impatientClient_freed : ∃ before input after,
    NodeInput.close 1 :: ([laterInput] ++ [.route none]) = before ++ input :: after ∧
      ((nodeMachine {}).trace impatientClient before).Vacates 1 input := by
  have start : (nodeMachine {}).Reachable idleNode := .start ⟨_, _, rfl⟩
  exact closedSlot_freed (by decide) (start.trace [.connect 2 5 10 cspSoRdpReq] (by decide +kernel)) (by decide)
    [laterInput] none (by decide +kernel)

end Libcsp

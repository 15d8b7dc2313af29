/-
This file shows that no input starts the timeout of a closed connection again.
-/
import Libcsp.HeldSlots

namespace Libcsp

variable {cfg : Config} {started connTimeout : UInt32} {ctx after : Ctx cfg}

/-! ## A closed connection -/

/-- The byte names no other parties than the three of a close. -/
def AreParties (closedBy : UInt8) : Prop := closedBy ||| rdpClosedByAll = rdpClosedByAll

instance (closedBy : UInt8) : Decidable (AreParties closedBy) := inferInstanceAs (Decidable (_ = _))

/-- Userspace has closed the connection, and its timeout runs from this time on. -/
structure Conn.Lingers (conn : Conn cfg) (started connTimeout : UInt32) : Prop where
  connState : conn.state = .open
  rdp : conn.idin.has cspFRdp = true
  rdpState : conn.rdp.state = .closeWait
  user : conn.rdp.closedBy &&& rdpClosedByUserspace ≠ 0
  parties : AreParties conn.rdp.closedBy
  timestamp : conn.timestamp = started
  connTimeout : conn.rdp.connTimeout = connTimeout

/-- The slot is free, or the same timeout still runs. -/
def Conn.Departs (conn : Conn cfg) (started connTimeout : UInt32) : Prop :=
  conn.state = .closed ∨ conn.Lingers started connTimeout

theorem Ctx.Helps.lingers (helps : ctx.Helps after) (lingers : ctx.conn.Lingers started connTimeout) :
    after.conn.Lingers started connTimeout := by
  obtain ⟨_, _, _, _, _, _, _, _, _, rfl⟩ := helps
  exact { lingers with }

theorem AreParties.or {first second : UInt8} (left : AreParties first) (right : AreParties second) :
    AreParties (first ||| second) := by
  rw [AreParties, UInt8.or_assoc, right, left]

/-- Userspace is the last of the three parties. -/
theorem closedBy_all {closedBy more : UInt8} (user : closedBy &&& rdpClosedByUserspace ≠ 0)
    (parties : AreParties closedBy) (others : more ||| rdpClosedByUserspace = rdpClosedByAll) :
    closedBy ||| more = rdpClosedByAll := by
  have bit : ∀ bits : BitVec 8, bits &&& 1#8 = 0#8 ∨ bits ||| 1#8 = bits := by decide
  have within : closedBy ||| rdpClosedByUserspace = closedBy := by
    rcases bit closedBy.toBitVec with zero | one
    · exact absurd (UInt8.toBitVec_inj.mp zero) user
    · exact UInt8.toBitVec_inj.mp one
  rw [← within, UInt8.or_assoc, UInt8.or_comm _ more, others, parties]

/-- A close in CLOSE_WAIT does not start the timeout again. -/
theorem rdpCloseInternal_lingers (lingers : ctx.conn.Lingers started connTimeout) {closedBy : UInt8}
    (parties : AreParties closedBy) (sendRst : Bool) :
    (ctx.conn.rdp.closedBy ||| closedBy ≠ rdpClosedByAll ∧
        ∃ after, rdpCloseInternal ctx closedBy sendRst = (.again, after) ∧ after.conn.Lingers started connTimeout) ∨
      ctx.conn.rdp.closedBy ||| closedBy = rdpClosedByAll ∧
        ∃ after, rdpCloseInternal ctx closedBy sendRst = (.none, after) ∧ after.conn.rdp.state = .closed := by
  have live : ctx.conn.rdp.state ≠ .closed := by simp [lingers.rdpState]
  simp only [rdpCloseInternal, if_neg live, if_pos lingers.rdpState]
  by_cases all : ctx.conn.rdp.closedBy ||| closedBy = rdpClosedByAll
  · rw [if_neg (not_not.mpr all)]
    exact .inr ⟨all, _, rfl, rfl⟩
  · rw [if_pos all]
    refine .inl ⟨all, _, rfl, { lingers with user := ?_, parties := lingers.parties.or parties }⟩
    exact fun none => lingers.user ((closedBy_or _ _).mp none).1

theorem connClose_lingers (lingers : ctx.conn.Lingers started connTimeout) {closedBy : UInt8}
    (parties : AreParties closedBy) :
    (connClose ctx closedBy).conn.Departs started connTimeout ∧
      (ctx.conn.rdp.closedBy ||| closedBy = rdpClosedByAll → (connClose ctx closedBy).conn.state = .closed) := by
  have inUse : ctx.conn.state ≠ .closed := by simp [lingers.connState]
  have uses : ctx.conn.usesRdp = true := by simp [Conn.usesRdp, lingers.rdp]
  rw [connClose, if_neg inUse, if_pos uses, rdpClose]
  rcases rdpCloseInternal_lingers lingers parties true with ⟨others, after, closes, stays⟩ | ⟨-, after, closes, -⟩
  · rw [closes]
    exact ⟨.inr stays, fun all => absurd all others⟩
  · rw [closes]
    exact ⟨.inl rfl, fun _ => rfl⟩

/-! ## Packets and calls behind the close -/

theorem Conn.Departs.enqueue {conn : Conn cfg} (departs : conn.Departs started connTimeout) (packet : Option Packet) :
    (connEnqueuePacket conn packet).2.Departs started connTimeout := by
  obtain ⟨rxQueue, rxLog, queued⟩ := connEnqueuePacket_changes conn packet
  rw [queued]
  exact departs.imp id fun lingers => { lingers with }

theorem rdpDiscardClose_departs (lingers : ctx.conn.Lingers started connTimeout) {closedBy : UInt8}
    (parties : AreParties closedBy) : (rdpDiscardClose ctx closedBy).conn.Departs started connTimeout := by
  simp only [rdpDiscardClose]
  split
  · exact (connClose_lingers lingers parties).1.enqueue none
  · exact (connClose_lingers lingers (parties.or (by decide))).1

/-- In CLOSE_WAIT, a packet changes only what was sent and acknowledged, and a RESET closes for the peer. -/
theorem rdpNewPacketBody_lingers (lingers : ctx.conn.Lingers started connTimeout) (packet : Packet) :
    (rdpNewPacketBody ctx packet).ctx.conn.Lingers started connTimeout ∧
      ((rdpNewPacketBody ctx packet).exit = .discardOpen false ∨
        ∃ closedBy, AreParties closedBy ∧ (rdpNewPacketBody ctx packet).exit = .discardClose closedBy) := by
  have acked : (rdpRstAck ctx packet.header).conn.Lingers started connTimeout := by
    unfold rdpRstAck
    split
    · exact { lingers with }
    · exact lingers
  simp only [rdpNewPacketBody]
  split
  · simp only [rdpRecvRst, acked.rdpState]
    refine ⟨acked, .inr ⟨_, ?_, rfl⟩⟩
    split_ifs <;> decide
  · simp only [lingers.rdpState, rdpRecvCloseWait]
    split
    · exact ⟨lingers, .inl rfl⟩
    · split
      · exact ⟨lingers, .inl rfl⟩
      · exact ⟨(rdpSendCmp_helps _ _ _ _ _).lingers { lingers with rdpState := rfl }, .inl rfl⟩

theorem routeRdp_departs (lingers : ctx.conn.Lingers started connTimeout) (packet : Packet) :
    (routeRdp ctx packet).conn.Departs started connTimeout := by
  obtain ⟨stays, discards | ⟨closedBy, parties, discards⟩⟩ := rdpNewPacketBody_lingers lingers packet
  · simp only [routeRdp, rdpNewPacket, rdpFinish, discards]
    exact .inr stays
  · simp only [routeRdp, rdpNewPacket, rdpFinish, discards]
    exact rdpDiscardClose_departs stays parties

theorem routePost_departs (lingers : ctx.conn.Lingers started connTimeout) :
    (routePost ctx).conn.Departs started connTimeout := by
  simp only [routePost]
  split
  · exact .inr lingers
  · split
    · exact (connClose_lingers lingers (by decide)).1
    · exact .inr { lingers with }

theorem routeDeliver_departs (lingers : ctx.conn.Lingers started connTimeout) (packet : Packet) :
    (routeDeliver ctx packet).conn.Departs started connTimeout := by
  simp only [routeDeliver, routePlain, connEnqueuePacket]
  split
  · exact routeRdp_departs lingers packet
  · cases ctx.conn.rxQueue.enqueue (some packet) with
    | none => exact .inr lingers
    | some rxQueue => exact routePost_departs { lingers with }

/-- The timeout closes for the other two parties. -/
theorem rdpCheckTimeouts_lingers (lingers : ctx.conn.Lingers started connTimeout) :
    (rdpCheckTimeouts ctx).conn.Departs started connTimeout ∧
      (rdpTimeAfter ctx.stack.now (started + connTimeout) = true →
        (rdpCheckTimeouts ctx).conn.state = .closed) := by
  have timedOut : rdpConnTimedOut ctx = rdpTimeAfter ctx.stack.now (started + connTimeout) := by
    rw [rdpConnTimedOut, lingers.timestamp, lingers.connTimeout]
  have closes : ∀ closedBy, AreParties closedBy → closedBy ||| rdpClosedByUserspace = rdpClosedByAll →
      (connClose ctx closedBy).conn.Departs started connTimeout ∧
        (rdpTimeAfter ctx.stack.now (started + connTimeout) = true → (connClose ctx closedBy).conn.state = .closed) := by
    intro closedBy parties others
    obtain ⟨departs, frees⟩ := connClose_lingers lingers parties
    exact ⟨departs, fun _ => frees (closedBy_all lingers.user lingers.parties others)⟩
  simp only [rdpCheckTimeouts, lingers.rdpState, if_true]
  split
  · exact closes _ (by decide) (by decide)
  · split
    · exact closes _ (by decide) (by decide)
    · rename_i early
      exact ⟨.inr lingers, fun late => absurd (timedOut.trans late) early⟩

theorem cspSend_lingers (lingers : ctx.conn.Lingers started connTimeout) (packet : Packet) :
    (cspSend ctx (some packet)).conn.Lingers started connTimeout := by
  have reset : ctx.conn.rdp.state ≠ .open := by simp [lingers.rdpState]
  simp only [cspSend, rdpSend, if_pos reset]
  split
  · exact lingers
  · split
    · exact lingers
    · exact lingers

theorem cspRead_lingers (lingers : ctx.conn.Lingers started connTimeout) :
    (cspRead ctx).2.conn.Lingers started connTimeout := by
  simp only [cspRead]
  split
  · exact lingers
  · split
    · exact lingers
    · split
      · exact (rdpCheckAck_answers _).helps.lingers { lingers with }
      · exact { lingers with }

/-- A `csp_connect` that still waits on the slot fails. -/
theorem rdpConnectWake_lingers (lingers : ctx.conn.Lingers started connTimeout) (retry : Bool) :
    ∃ failed, rdpConnectWake ctx retry = (some .timedout, failed) ∧
      (cspClose failed).conn.Departs started connTimeout := by
  let woken : Ctx cfg := { ctx with conn.rdp.txWait := false }
  have stays : woken.conn.Lingers started connTimeout := { lingers with }
  have fails : rdpConnectWake ctx retry = (some .timedout, (rdpCloseInternal woken rdpClosedByProtocol false).2) := by
    simp [rdpConnectWake, lingers.rdpState, woken]
  refine ⟨_, fails, ?_⟩
  rcases rdpCloseInternal_lingers stays (by decide : AreParties rdpClosedByProtocol) false with
    ⟨-, after, closes, stays⟩ | ⟨-, after, closes, closed⟩
  · rw [closes]
    exact (connClose_lingers stays (by decide)).1
  · rw [closes]
    left
    have gone : rdpClose after rdpClosedByUserspace = (.none, after) := by
      rw [rdpClose, rdpCloseInternal, if_pos closed]
    simp only [cspClose, connClose, gone]
    split
    · assumption
    · split
      · rfl
      · rfl

/-! ## The slots of a node -/

theorem Ctx.Helps.now (helps : ctx.Helps after) : after.stack.now = ctx.stack.now := by
  obtain ⟨_, _, _, _, _, _, _, _, _, rfl⟩ := helps
  rfl

theorem connClose_now (ctx : Ctx cfg) (closedBy : UInt8) : (connClose ctx closedBy).stack.now = ctx.stack.now := by
  rcases connClose_cases ctx closedBy with ⟨_, same⟩ | ⟨_, ⟨_, _, _, _, _, _, _, _, _, same⟩ |
    ⟨_, _, ⟨_, ⟨_, _, _, _, _, _, _, _, _, same⟩, _⟩, _⟩ | ⟨_, same⟩⟩
  · rw [same]
  · rw [same]
  · rw [same]
  · obtain ⟨_, _, _, released, _⟩ := connRelease_changes ctx
    rw [same, released]

theorem rdpTimeoutOpen_now (ctx : Ctx cfg) : (rdpTimeoutOpen ctx).stack.now = ctx.stack.now := by
  have acked := (rdpCheckAck_answers ctx).helps.now
  simp only [rdpTimeoutOpen]
  split
  · split
    · split
      · exact acked
      · exact acked
    · split
      · rfl
      · rfl
  · rfl

/-- A check reads the clock, and does not change it. -/
theorem rdpCheckTimeouts_now (ctx : Ctx cfg) : (rdpCheckTimeouts ctx).stack.now = ctx.stack.now := by
  simp only [rdpCheckTimeouts]
  split
  · exact connClose_now ctx _
  · split
    · split
      · exact connClose_now ctx _
      · rfl
    · obtain ⟨io, txQueue, loop⟩ := rdpTimeoutLoop_changes ctx.conn ctx.stack.txQueue.size ctx.stack
      rw [(rdpRxQueueFlush_receives _).helps.now, rdpTimeoutOpen_now, loop]

theorem connectReturns_spares (node : Node cfg) (slot : Nat) (retry : Bool) (result : Option CspErr × Ctx cfg) :
    node.Spares (connectReturns node slot retry result) slot := by
  have same := Node.Spares.refl node slot
  unfold connectReturns
  split
  · exact (same.put _).setWaiting _
  · exact ((same.put _).setWaiting _).setHeld _
  · exact (same.put _).setWaiting _

/-- A connect changes a free slot only. -/
theorem cspConnect_kept {node : Node cfg} {slot : Nat} (inUse : (node.conns slot).state = .open) (prio : UInt8)
    (dest : UInt16) (dport : UInt8) (opts : UInt32) :
    (cspConnect node prio dest dport opts).conns slot = node.conns slot ∧
      (cspConnect node prio dest dport opts).held slot = node.held slot ∧
      (cspConnect node prio dest dport opts).waiting slot = node.waiting slot := by
  rcases cspConnect_cases node prio dest dport opts with same |
    ⟨opened, conn, io, lastGiven, idin, idout, allocated, -, -, same⟩
  · rw [same]
    exact ⟨rfl, rfl, rfl⟩
  · have different : slot ≠ opened := by
      rintro rfl
      rw [allocated.free] at inUse
      cases inUse
    have allocates := Node.Spares.allocate node opened conn io lastGiven
    have spares : node.Spares (cspConnect node prio dest dport opts) opened := by
      rw [same]
      split
      · have returns := connectReturns_spares (node.allocate opened conn io lastGiven) opened true
          (rdpConnectStart ((node.allocate opened conn io lastGiven).ctx opened))
        exact ⟨fun other apart => (returns.conns other apart).trans (allocates.conns other apart),
          fun other apart => (returns.held other apart).trans (allocates.held other apart),
          fun other apart => (returns.waiting other apart).trans (allocates.waiting other apart)⟩
      · exact allocates.setHeld true
    exact ⟨spares.conns slot different, spares.held slot different, spares.waiting slot different⟩

/-! ## Timeouts of all slots -/

variable {node : Node cfg} {slot : Nat}

theorem checkTimeoutsOn_closed (slots : List Nat) (free : (node.conns slot).state = .closed) :
    ((checkTimeoutsOn slots node).conns slot).state = .closed := by
  induction slots generalizing node with
  | nil => exact free
  | cons visited rest ih =>
      simp only [checkTimeoutsOn]
      split
      · rename_i inUse
        have different : slot ≠ visited := by
          rintro rfl
          simp [free] at inUse
        exact ih ((congrArg Conn.state (node.put_conns_other _ different)).trans free)
      · exact ih free

/-- A check that frees the slot comes with its turn. -/
theorem checkTimeoutsOn_frees {slots : List Nat} (inUse : (node.conns slot).state = .open)
    (rdp : (node.conns slot).idin.has cspFRdp = true)
    (frees : ∀ ctx : Ctx cfg, ctx.conn = node.conns slot → ctx.stack.now = node.stack.now →
      (rdpCheckTimeouts ctx).conn.state = .closed) (member : slot ∈ slots) :
    ((checkTimeoutsOn slots node).conns slot).state = .closed := by
  induction slots generalizing node with
  | nil => cases member
  | cons visited rest ih =>
      simp only [checkTimeoutsOn]
      by_cases same : visited = slot
      · subst same
        rw [if_pos (by simp [inUse, rdp])]
        exact checkTimeoutsOn_closed rest
          ((congrArg Conn.state (node.put_conns_self visited _)).trans (frees (node.ctx visited) rfl rfl))
      · have later := (List.mem_cons.mp member).resolve_left (Ne.symm same)
        split
        · have kept := node.put_conns_other (rdpCheckTimeouts (node.ctx visited)) (Ne.symm same)
          have clock : (node.put visited (rdpCheckTimeouts (node.ctx visited))).stack.now = node.stack.now :=
            rdpCheckTimeouts_now _
          refine ih (kept ▸ inUse) (kept ▸ rdp) (fun ctx conn now => ?_) later
          exact frees ctx (conn.trans kept) (now.trans clock)
        · exact ih inUse rdp frees later

/-- The checks do not start the timeout again. -/
theorem checkTimeoutsOn_lingers (slots : List Nat) (lingers : (node.conns slot).Lingers started connTimeout) :
    ((checkTimeoutsOn slots node).conns slot).Departs started connTimeout := by
  induction slots generalizing node with
  | nil => exact .inr lingers
  | cons visited rest ih =>
      simp only [checkTimeoutsOn]
      split
      · by_cases same : visited = slot
        · subst same
          have departs := (@rdpCheckTimeouts_lingers cfg started connTimeout (node.ctx visited) lingers).1
          rw [← node.put_conns_self visited (rdpCheckTimeouts (node.ctx visited))] at departs
          rcases departs with free | stays
          · exact .inl (checkTimeoutsOn_closed rest free)
          · exact ih stays
        · exact ih (by rwa [node.put_conns_other _ (Ne.symm same)])
      · exact ih lingers

/-! ## Runs behind a close -/

/-- The slot is free behind the timeouts of the router, or behind the whole step. -/
def Node.Vacates (node : Node cfg) (slot : Nat) (input : NodeInput cfg) : Prop :=
  (∃ received, input = .route received ∧ ((connCheckTimeouts node).conns slot).state = .closed) ∨
    ((nodeStep node input).conns slot).state = .closed

/-- The timeout runs on, or the step frees the slot. -/
def Node.GoesOn (node : Node cfg) (slot : Nat) (input : NodeInput cfg) (started connTimeout : UInt32) : Prop :=
  ((nodeStep node input).conns slot).Lingers started connTimeout ∨ node.Vacates slot input

theorem Conn.Departs.goesOn {input : NodeInput cfg}
    (departs : ((nodeStep node input).conns slot).Departs started connTimeout) :
    node.GoesOn slot input started connTimeout := departs.symm.imp id .inr

/-- A call on one slot is all that a step on this slot has to show. -/
theorem put_goesOn {input : NodeInput cfg} {called : Nat} {after : Ctx cfg}
    (conns : (nodeStep node input).conns = (node.put called after).conns)
    (lingers : (node.conns slot).Lingers started connTimeout)
    (own : called = slot → after.conn.Departs started connTimeout) : node.GoesOn slot input started connTimeout := by
  apply Conn.Departs.goesOn
  rw [conns]
  by_cases same : slot = called
  · subst same
    rw [node.put_conns_self]
    exact own rfl
  · rw [node.put_conns_other _ same]
    exact .inr lingers

/-- The router hands packets to the slot, or it works on others. -/
theorem Node.Routes.finish_departs {routed : Routed cfg} (routes : node.Routes routed)
    (lingers : (node.conns slot).Lingers started connTimeout) :
    (routed.finish.conns slot).Departs started connTimeout := by
  cases routes with
  | done io sockets dedup calledBack => exact .inr lingers
  | @found io dedup found packet inUse =>
      let before : Node cfg := { node with stack.io := io, dedup }
      by_cases same : slot = found
      · subst same
        have own := before.put_conns_self slot (routeDeliver (before.ctx slot) packet)
        exact own ▸ @routeDeliver_departs cfg started connTimeout (before.ctx slot) lingers packet
      · exact .inr ((before.put_conns_other (routeDeliver (before.ctx found) packet) same) ▸ lingers)
  | @opened io dedup lastGiven opened conn packet allocated waits =>
      have different : slot ≠ opened := by
        rintro rfl
        have inUse := lingers.connState
        rw [allocated.free] at inUse
        cases inUse
      let before : Node cfg := { node.allocate opened conn io lastGiven with dedup }
      have kept : before.conns slot = node.conns slot := Function.update_of_ne different _ _
      exact .inr ((before.put_conns_other (routeDeliver (before.ctx opened) packet) different).trans kept ▸ lingers)

theorem connectReturns_conns (node : Node cfg) (slot : Nat) (retry : Bool) (result : Option CspErr × Ctx cfg) :
    (connectReturns node slot retry result).conns = (node.put slot (connectResult result)).conns := by
  obtain ⟨_ | err, after⟩ := result
  · rfl
  · cases err <;> rfl

/-- No input starts the timeout of a closed connection again. -/
theorem nodeStep_goesOn (lingers : (node.conns slot).Lingers started connTimeout) (input : NodeInput cfg) :
    node.GoesOn slot input started connTimeout := by
  cases input with
  | connect prio dest dport opts =>
      exact .inl ((cspConnect_kept lingers.connState prio dest dport opts).1 ▸ lingers)
  | wake called =>
      cases waiting : node.waiting called with
      | none =>
          left
          simp only [nodeStep, Node.wake, waiting]
          exact lingers
      | some retry =>
          have conns : (nodeStep node (.wake called)).conns =
              (node.put called (connectResult (rdpConnectWake (node.ctx called) retry))).conns := by
            simp only [nodeStep, Node.wake, waiting, connectWake]
            exact connectReturns_conns node called false _
          refine put_goesOn conns lingers ?_
          rintro rfl
          obtain ⟨failed, wakes, departs⟩ :=
            @rdpConnectWake_lingers cfg started connTimeout (node.ctx called) lingers retry
          rw [wakes]
          exact departs
  | route received =>
      rcases checkTimeoutsOn_lingers (List.range cfg.connMax) lingers with free | stays
      · exact .inr (.inl ⟨received, rfl, free⟩)
      · cases received with
        | none => exact .inl stays
        | some arrival =>
            have departs : ((nodeStep node (.route (some arrival))).conns slot).Departs started connTimeout :=
              (routeInput_routes _ arrival.1 arrival.2).finish_departs stays
            exact departs.goesOn
  | accept socket =>
      left
      simp only [nodeStep, cspAccept]
      split
      · exact lingers
      · exact lingers
  | send called packet =>
      refine put_goesOn rfl lingers ?_
      rintro rfl
      exact .inr (@cspSend_lingers cfg started connTimeout (node.ctx called) lingers packet)
  | read called =>
      refine put_goesOn rfl lingers ?_
      rintro rfl
      exact .inr (@cspRead_lingers cfg started connTimeout (node.ctx called) lingers)
  | close called =>
      refine put_goesOn rfl lingers ?_
      rintro rfl
      exact (@connClose_lingers cfg started connTimeout (node.ctx called) lingers rdpClosedByUserspace (by decide)).1
  | environment environment => exact .inl lingers

theorem Conn.Lingers.timedOut (lingers : (node.conns slot).Lingers started connTimeout) (inside : slot < cfg.connMax)
    (late : rdpTimeAfter node.stack.now (started + connTimeout) = true) :
    ((connCheckTimeouts node).conns slot).state = .closed := by
  refine checkTimeoutsOn_frees lingers.connState lingers.rdp (fun ctx conn now => ?_) (List.mem_range.mpr inside)
  exact (rdpCheckTimeouts_lingers (conn ▸ lingers)).2 (now ▸ late)

/-- A run frees the slot of a closed connection before the router works behind the end of its timeout. -/
theorem lingering_freed (inside : slot < cfg.connMax) (lingers : (node.conns slot).Lingers started connTimeout)
    (inputs : List (NodeInput cfg)) (received : Option (Nat × Packet))
    (late : rdpTimeAfter ((nodeMachine cfg).trace node inputs).stack.now (started + connTimeout) = true) :
    ∃ before input after, inputs ++ [.route received] = before ++ input :: after ∧
      ((nodeMachine cfg).trace node before).Vacates slot input := by
  rcases @Machine.trace_lasts _ _ (nodeMachine cfg) (fun node => (node.conns slot).Lingers started connTimeout)
    (fun node input => node.Vacates slot input) (fun _ input lingers => nodeStep_goesOn lingers input) node lingers
      inputs with stays | ⟨before, input, after, split, frees⟩
  · refine ⟨inputs, .route received, [], rfl, .inl ⟨received, rfl, ?_⟩⟩
    exact stays.timedOut inside late
  · exact ⟨before, input, after ++ [.route received], by rw [split, List.append_assoc, List.cons_append], frees⟩

end Libcsp

/-
This file shows that each packet matches at most one connection.
-/
import Libcsp.CleanSlots
import Libcsp.RouterCases

namespace Libcsp

variable {cfg : Config}

/-! ## Steps -/

/-- A step keeps the identity of each slot, and opens no connection. -/
def Node.Lasts (node after : Node cfg) : Prop := ∀ slot, (node.conns slot).Lasts (after.conns slot)

/-- A step opens this connection in a free slot of the table. -/
structure Node.OpensAt (node after : Node cfg) (slot : Nat) (conn : Conn cfg) : Prop where
  inside : slot < cfg.connMax
  free : (node.conns slot).state = .closed
  opened : conn.Lasts (after.conns slot)
  others : ∀ other, other ≠ slot → (node.conns other).Lasts (after.conns other)

/-- A step opens at most one connection: a client for a connect, or a server for a packet that
matches no other connection. -/
inductive Node.Turns (node : Node cfg) (input : NodeInput cfg) (after : Node cfg) : Prop where
  | lasts (lasts : node.Lasts after)
  | client {slot : Nat} {connDflSo now opts : UInt32} {prio dport : UInt8} {dest : UInt16}
      (opens : node.OpensAt after slot ((node.conns slot).client connDflSo now prio dest dport opts))
  | server {slot socket ingress : Nat} {packet : Packet} {now opts : UInt32}
      (arrives : input = .route (some (ingress, packet)))
      (missing : connFindExisting (connCheckTimeouts node) packet.id = none)
      (bound : portGetSocket (connCheckTimeouts node) packet.id.dport = some socket)
      (opens : (connCheckTimeouts node).OpensAt after slot
        (((connCheckTimeouts node).conns slot).server now packet.id socket opts))

theorem Node.Lasts.refl (node : Node cfg) : node.Lasts node := fun slot => .refl (node.conns slot)

theorem Node.Lasts.of_same {node after : Node cfg} (same : after.conns = node.conns) : node.Lasts after := by
  intro slot
  rw [same]
  exact .refl _

theorem Node.Lasts.trans {first second third : Node cfg} (left : first.Lasts second)
    (right : second.Lasts third) : first.Lasts third := fun slot => (left slot).trans (right slot)

theorem Node.Lasts.put {node : Node cfg} {slot : Nat} {after : Ctx cfg}
    (lasts : (node.ctx slot).conn.Lasts after.conn) : node.Lasts (node.put slot after) := by
  intro other
  by_cases same : other = slot
  · subst same
    simpa [Node.put, Slots.put, Slots.ctx] using lasts
  · simpa [Node.put, Slots.put, same] using Conn.Lasts.refl (node.conns other)

theorem Node.OpensAt.lasts {node opened after : Node cfg} {slot : Nat} {conn : Conn cfg}
    (opens : node.OpensAt opened slot conn) (lasts : opened.Lasts after) : node.OpensAt after slot conn where
  inside := opens.inside
  free := opens.free
  opened := opens.opened.trans (lasts slot)
  others other different := (opens.others other different).trans (lasts other)

theorem Node.renew_opens {node : Node cfg} {slot : Nat} (inside : slot < cfg.connMax)
    (free : (node.conns slot).state = .closed) (conn : Conn cfg) :
    node.OpensAt (node.renew slot conn) slot conn where
  inside := inside
  free := free
  opened := by
    rw [Node.renew_own]
    exact .refl conn
  others other different := by
    rw [node.renew_other conn different]
    exact .refl _

theorem checkTimeoutsOn_lasts (slots : List Nat) (node : Node cfg) : node.Lasts (checkTimeoutsOn slots node) := by
  induction slots generalizing node with
  | nil => exact .refl node
  | cons slot rest ih =>
      simp only [checkTimeoutsOn]
      split
      · exact (Node.Lasts.put (rdpCheckTimeouts_lasts (node.ctx slot))).trans (ih _)
      · exact ih node

theorem connectReturns_lasts {node : Node cfg} {slot : Nat} (retry : Bool)
    {result : Option CspErr × Ctx cfg} (lasts : (node.ctx slot).conn.Lasts result.2.conn) :
    node.Lasts (connectReturns node slot retry result) := by
  unfold connectReturns
  split
  · exact .put lasts
  · exact .put lasts
  · exact .put (lasts.trans (connClose_lasts _ _))

theorem cspConnect_turns (node : Node cfg) (prio : UInt8) (dest : UInt16) (dport : UInt8) (opts : UInt32) :
    node.Turns (.connect prio dest dport opts) (cspConnect node prio dest dport opts) := by
  obtain same | ⟨slot, opened, inside, free, -, rfl, same⟩ := cspConnect_renews node prio dest dport opts
  · rw [same]
    exact .lasts (.refl node)
  · apply Node.Turns.client
    apply (Node.renew_opens inside free _).lasts
    rw [same]
    split
    · exact connectReturns_lasts true (rdpConnectStart_lasts _)
    · exact .of_same rfl

theorem routeWork_turns (node : Node cfg) (input : Option (Nat × Packet)) :
    node.Turns (.route input) (routeWork node input) := by
  have timers : node.Lasts (connCheckTimeouts node) := checkTimeoutsOn_lasts _ node
  cases input with
  | none => exact .lasts timers
  | some arrival =>
      obtain ⟨ingress, packet⟩ := arrival
      have handles := routeInput_handles (connCheckTimeouts node) ingress packet
      simp only [routeWork]
      generalize routed : routeInput (connCheckTimeouts node) ingress packet = result at handles
      cases handles with
      | done io dedup calledBack => exact .lasts (timers.trans (.of_same rfl))
      | queued io dedup passes stored => exact .lasts (timers.trans (.of_same rfl))
      | @found io dedup slot checked existing passes =>
          have found : (connCheckTimeouts node).Lasts { connCheckTimeouts node with stack.io := io, dedup } :=
            .of_same rfl
          exact .lasts (timers.trans (found.trans (.put (routeDeliver_lasts _ checked))))
      | @opened io dedup socket slot checked missing bound passes inside free next =>
          apply Node.Turns.server rfl missing bound
          rw [← passes.id]
          have renewed := @Node.renew_opens cfg { connCheckTimeouts node with stack.io := io, dedup } slot
            inside free (((connCheckTimeouts node).conns slot).server (connCheckTimeouts node).stack.now
              checked.id socket ((connCheckTimeouts node).stack.sockets socket).opts)
          have delivered := renewed.lasts (@Node.Lasts.put cfg _ slot _ (routeDeliver_lasts _ checked))
          exact ⟨delivered.inside, delivered.free, delivered.opened, delivered.others⟩

theorem nodeStep_turns (node : Node cfg) (input : NodeInput cfg) : node.Turns input (nodeStep node input) := by
  cases input with
  | connect prio dest dport opts => exact cspConnect_turns node prio dest dport opts
  | wake slot =>
      apply Node.Turns.lasts
      simp only [nodeStep, Node.wake]
      split
      · exact .refl node
      · exact connectReturns_lasts false (rdpConnectWake_lasts _ _)
  | route input => exact routeWork_turns node input
  | accept socket =>
      apply Node.Turns.lasts
      simp only [nodeStep, cspAccept]
      split
      · exact .refl node
      · exact .of_same rfl
  | send slot packet => exact .lasts (.put (cspSend_lasts _ packet))
  | read slot => exact .lasts (.put (cspRead_lasts _))
  | close slot =>
      have closed : node.Lasts (node.put slot (cspClose (node.ctx slot))) := .put (connClose_lasts _ _)
      exact .lasts (closed.trans (.of_same rfl))
  | environment environment => exact .lasts (.of_same rfl)

/-! ## The table -/

/-- Two server connections have another port or another source. -/
def CspId.SameSource (first second : CspId) : Prop :=
  first.dport = second.dport ∧ first.sport = second.sport ∧ first.src = second.src

/-- Each client has the port of its slot, and each server a port of the port table and its own source. -/
structure Node.Demuxed (node : Node cfg) : Prop where
  inside : ∀ slot, (node.conns slot).state = .open → slot < cfg.connMax
  ports : ∀ slot, (node.conns slot).sportOutgoing = UInt8.ofNat (cfg.portMaxBind + 1 + slot)
  clients : ∀ slot, (node.conns slot).state = .open → (node.conns slot).type = .client →
    (node.conns slot).idin.dport = (node.conns slot).sportOutgoing ∧
      (node.conns slot).idout.sport = (node.conns slot).sportOutgoing
  servers : ∀ slot, (node.conns slot).state = .open → (node.conns slot).type = .server →
    (node.conns slot).idin.dport.toNat ≤ cfg.portMaxBind
  sources : ∀ first second, (node.conns first).state = .open → (node.conns first).type = .server →
    (node.conns second).state = .open → (node.conns second).type = .server →
      (node.conns first).idin.SameSource (node.conns second).idin → first = second

theorem Conn.accepts_iff (conn : Conn cfg) (id : CspId) :
    conn.accepts id = true ↔ conn.state = .open ∧
      (conn.type = .client ∧ conn.idin.dport = id.dport ∨
        conn.type = .server ∧ conn.idin.SameSource id) := by
  cases type : conn.type with
  | client => simp [Conn.accepts, type]
  | server => simp [Conn.accepts, type, CspId.SameSource, and_assoc]

/-- The fields that the table speaks of. -/
theorem Conn.Lasts.fields {conn after : Conn cfg} (lasts : conn.Lasts after) :
    after.type = conn.type ∧ after.idin = conn.idin ∧ after.idout = conn.idout ∧
      after.sportOutgoing = conn.sportOutgoing ∧ after.opts = conn.opts := by
  obtain ⟨identity, -⟩ := lasts
  simp only [Conn.identity, ConnIdentity.mk.injEq] at identity
  exact ⟨identity.2.1, identity.2.2.1, identity.2.2.2.1, identity.2.2.2.2.1, identity.2.2.2.2.2⟩

theorem Node.Demuxed.lasts {node after : Node cfg} (demuxed : node.Demuxed) (lasts : node.Lasts after) :
    after.Demuxed := by
  constructor
  · exact fun slot inUse => demuxed.inside slot ((lasts slot).inUse inUse)
  · intro slot
    obtain ⟨-, -, -, port, -⟩ := (lasts slot).fields
    rw [port]
    exact demuxed.ports slot
  · intro slot inUse
    obtain ⟨type, idin, idout, port, -⟩ := (lasts slot).fields
    rw [type, idin, idout, port]
    exact demuxed.clients slot ((lasts slot).inUse inUse)
  · intro slot inUse
    obtain ⟨type, idin, -⟩ := (lasts slot).fields
    rw [type, idin]
    exact demuxed.servers slot ((lasts slot).inUse inUse)
  · intro first second inUse server inUse' server'
    obtain ⟨type, idin, -⟩ := (lasts first).fields
    obtain ⟨type', idin', -⟩ := (lasts second).fields
    rw [type] at server
    rw [type'] at server'
    rw [idin, idin']
    exact demuxed.sources first second ((lasts first).inUse inUse) server ((lasts second).inUse inUse') server'

/-- The table may be looked at with one slot replaced. -/
theorem Node.OpensAt.step {node after : Node cfg} {slot : Nat} {conn : Conn cfg}
    (opens : node.OpensAt after slot conn) :
    Node.Lasts { node with conns := Function.update node.conns slot conn } after := by
  intro other
  by_cases same : other = slot
  · subst same
    simpa using opens.opened
  · simpa [same] using opens.others other same

theorem Node.Demuxed.replace {node : Node cfg} (demuxed : node.Demuxed) {slot : Nat} {conn : Conn cfg}
    (inside : slot < cfg.connMax) (port : conn.sportOutgoing = (node.conns slot).sportOutgoing)
    (client : conn.type = .client → conn.idin.dport = conn.sportOutgoing ∧ conn.idout.sport = conn.sportOutgoing)
    (server : conn.type = .server → conn.idin.dport.toNat ≤ cfg.portMaxBind ∧
      ∀ other, (node.conns other).state = .open → (node.conns other).type = .server →
        ¬(node.conns other).idin.SameSource conn.idin) :
    Node.Demuxed { node with conns := Function.update node.conns slot conn } := by
  have own : Function.update node.conns slot conn slot = conn := Function.update_self _ _ _
  have others {other : Nat} (different : other ≠ slot) :
      Function.update node.conns slot conn other = node.conns other := Function.update_of_ne different _ _
  constructor
  · intro other
    by_cases same : other = slot
    · exact fun _ => same ▸ inside
    · simpa only [others same] using demuxed.inside other
  · intro other
    by_cases same : other = slot
    · subst same
      simpa only [own, port] using demuxed.ports other
    · simpa only [others same] using demuxed.ports other
  · intro other
    by_cases same : other = slot
    · subst same
      simpa only [own] using fun _ => client
    · simpa only [others same] using demuxed.clients other
  · intro other
    by_cases same : other = slot
    · subst same
      simpa only [own] using fun _ type => (server type).1
    · simpa only [others same] using demuxed.servers other
  · intro first second
    by_cases same : first = slot
    · by_cases same' : second = slot
      · exact fun _ _ _ _ _ => same.trans same'.symm
      · subst same
        simp only [own, others same']
        intro _ type inUse type' source
        exact absurd ⟨source.1.symm, source.2.1.symm, source.2.2.symm⟩ ((server type).2 second inUse type')
    · by_cases same' : second = slot
      · subst same'
        simp only [own, others same]
        intro inUse type _ type' source
        exact absurd source ((server type').2 first inUse type)
      · simpa only [others same, others same'] using demuxed.sources first second

/-- A port of the port table is not above `CSP_PORT_MAX_BIND`. -/
theorem portGetSocket_bound {node : Node cfg} {port : UInt8} {socket : Nat}
    (bound : portGetSocket node port = some socket) : port.toNat ≤ cfg.portMaxBind := by
  by_contra above
  rw [portGetSocket, if_pos (by omega)] at bound
  cases bound

theorem connFindExisting_none {node : Node cfg} {id : CspId} (missing : connFindExisting node id = none)
    {slot : Nat} (inside : slot < cfg.connMax) : (node.conns slot).accepts id = false := by
  have refused := List.find?_eq_none.mp missing slot (List.mem_range.mpr inside)
  exact Bool.eq_false_iff.mpr refused

/-- A search finds a slot of the order that accepts the packet. -/
theorem find_accepts {node : Node cfg} {id : CspId} {order : List Nat} {slot : Nat}
    (found : order.find? (fun slot => (node.conns slot).accepts id) = some slot) :
    slot ∈ order ∧ (node.conns slot).accepts id = true :=
  ⟨List.mem_of_find?_eq_some found, @List.find?_some _ (fun slot => (node.conns slot).accepts id) _ _ found⟩

theorem connFindExisting_accepts {node : Node cfg} {id : CspId} {slot : Nat}
    (found : connFindExisting node id = some slot) :
    slot < cfg.connMax ∧ (node.conns slot).accepts id = true := by
  obtain ⟨inside, accepts⟩ := find_accepts found
  exact ⟨List.mem_range.mp inside, accepts⟩

theorem find_isSome {node : Node cfg} {id : CspId} {order : List Nat} {slot : Nat} (member : slot ∈ order)
    (accepts : (node.conns slot).accepts id = true) :
    ∃ other, order.find? (fun slot => (node.conns slot).accepts id) = some other :=
  Option.isSome_iff_exists.mp (List.find?_isSome.mpr ⟨slot, member, accepts⟩)

theorem Node.Turns.demuxed {node after : Node cfg} {input : NodeInput cfg} (turns : node.Turns input after)
    (demuxed : node.Demuxed) : after.Demuxed := by
  cases turns with
  | lasts lasts => exact demuxed.lasts lasts
  | @client slot connDflSo now opts prio dport dest opens =>
      apply Node.Demuxed.lasts _ opens.step
      exact demuxed.replace opens.inside rfl (fun _ => ⟨rfl, rfl⟩) (fun server => by cases server)
  | @server slot socket ingress packet now opts arrives missing bound opens =>
      have timers : (connCheckTimeouts node).Demuxed := demuxed.lasts (checkTimeoutsOn_lasts _ node)
      apply Node.Demuxed.lasts _ opens.step
      refine timers.replace opens.inside rfl (fun client => by cases client) fun _ => ?_
      refine ⟨portGetSocket_bound bound, fun other inUse server source => ?_⟩
      have refused := connFindExisting_none missing (timers.inside other inUse)
      rw [Bool.eq_false_iff] at refused
      exact refused ((Conn.accepts_iff _ _).mpr ⟨inUse, .inr ⟨server, source⟩⟩)

theorem nodeInit_demuxed (io : Io cfg) (content : Nat → Conn cfg) : (Node.init io content).Demuxed where
  inside slot inUse := by cases inUse
  ports slot := rfl
  clients slot inUse := by cases inUse
  servers slot inUse := by cases inUse
  sources first second inUse := by cases inUse

/-- Each slot knows its place in the table. -/
def Node.Indexed (node : Node cfg) : Prop := ∀ slot, (node.conns slot).index = slot

theorem Node.Indexed.lasts {node after : Node cfg} (indexed : node.Indexed) (lasts : node.Lasts after) :
    after.Indexed := fun slot => (lasts slot).index.trans (indexed slot)

theorem Node.Indexed.renew {node : Node cfg} (indexed : node.Indexed) {slot : Nat} {conn : Conn cfg}
    (own : conn.index = slot) : (node.renew slot conn).Indexed := by
  intro other
  by_cases same : other = slot
  · subst same
    rw [Node.renew_own]
    exact own
  · rw [Node.renew_other _ conn same]
    exact indexed other

theorem Node.OpensAt.indexed {node after : Node cfg} {slot : Nat} {conn : Conn cfg}
    (opens : node.OpensAt after slot conn) (indexed : node.Indexed) (own : conn.index = (node.conns slot).index) :
    after.Indexed := by
  intro other
  by_cases same : other = slot
  · subst same
    exact opens.opened.index.trans (own.trans (indexed other))
  · exact (opens.others other same).index.trans (indexed other)

theorem Node.Turns.indexed {node after : Node cfg} {input : NodeInput cfg} (turns : node.Turns input after)
    (indexed : node.Indexed) : after.Indexed := by
  cases turns with
  | lasts lasts => exact indexed.lasts lasts
  | client opens => exact opens.indexed indexed rfl
  | server arrives missing bound opens =>
      exact opens.indexed (indexed.lasts (checkTimeoutsOn_lasts _ node)) rfl

/-! ## Matches -/

section Fits
variable {node : Node cfg} (demuxed : node.Demuxed) (fits : cfg.portMaxBind + cfg.connMax ≤ 63)
include demuxed fits

/-- Without a wrap, the port of a client names its slot. -/
theorem Node.Demuxed.client_port {slot : Nat} (inUse : (node.conns slot).state = .open)
    (client : (node.conns slot).type = .client) :
    (node.conns slot).idin.dport.toNat = cfg.portMaxBind + 1 + slot := by
  have inside := demuxed.inside slot inUse
  rw [(demuxed.clients slot inUse client).1, demuxed.ports slot, UInt8.toNat_ofNat']
  omega

theorem Node.Demuxed.accepts_unique {id : CspId} {first second : Nat}
    (left : (node.conns first).accepts id = true) (right : (node.conns second).accepts id = true) :
    first = second := by
  obtain ⟨inUse, left⟩ := (Conn.accepts_iff _ _).mp left
  obtain ⟨inUse', right⟩ := (Conn.accepts_iff _ _).mp right
  obtain ⟨client, port⟩ | ⟨server, source⟩ := left
  · have own := demuxed.client_port fits inUse client
    rw [port] at own
    obtain ⟨client', port'⟩ | ⟨server', source'⟩ := right
    · have own' := demuxed.client_port fits inUse' client'
      rw [port'] at own'
      omega
    · have low := demuxed.servers second inUse' server'
      rw [source'.1] at low
      omega
  · obtain ⟨client', port'⟩ | ⟨server', source'⟩ := right
    · have own' := demuxed.client_port fits inUse' client'
      have low := demuxed.servers first inUse server
      rw [port'] at own'
      rw [source.1] at low
      omega
    · exact demuxed.sources first second inUse server inUse' server'
        ⟨source.1.trans source'.1.symm, source.2.1.trans source'.2.1.symm, source.2.2.trans source'.2.2.symm⟩

/-- A search finds the connection that accepts the packet. -/
theorem Node.Demuxed.find_of_accepts {id : CspId} {order : List Nat} {slot : Nat} (member : slot ∈ order)
    (accepts : (node.conns slot).accepts id = true) :
    order.find? (fun slot => (node.conns slot).accepts id) = some slot := by
  obtain ⟨other, found⟩ := find_isSome member accepts
  rw [found, demuxed.accepts_unique fits accepts (find_accepts found).2]

/-- Any search order finds the same connection. -/
theorem Node.Demuxed.find_eq (id : CspId) {order : List Nat} (whole : ∀ slot, slot ∈ order ↔ slot < cfg.connMax) :
    order.find? (fun slot => (node.conns slot).accepts id) = connFindExisting node id := by
  apply Option.ext
  intro slot
  constructor
  · intro found
    obtain ⟨member, accepts⟩ := find_accepts found
    exact demuxed.find_of_accepts fits (List.mem_range.mpr ((whole slot).mp member)) accepts
  · intro found
    obtain ⟨inside, accepts⟩ := connFindExisting_accepts found
    exact demuxed.find_of_accepts fits ((whole slot).mpr inside) accepts

end Fits

/-! ## Runs -/

/-- The client connection of this slot owns the port. -/
def Node.OwnsPort (node : Node cfg) (slot : Nat) (port : UInt8) : Prop :=
  (node.conns slot).state = .open ∧ (node.conns slot).type = .client ∧ (node.conns slot).idout.sport = port

/-- No client owns the port of a free slot. -/
theorem Node.Demuxed.port_free {node : Node cfg} (demuxed : node.Demuxed) (fits : cfg.portMaxBind + cfg.connMax ≤ 63)
    {slot owner : Nat} (inside : slot < cfg.connMax) (free : (node.conns slot).state = .closed) {port : UInt8}
    (owns : node.OwnsPort owner port) : port ≠ (node.conns slot).sportOutgoing := by
  obtain ⟨inUse, client, own⟩ := owns
  have ownerInside := demuxed.inside owner inUse
  rintro same
  have word := congrArg UInt8.toNat ((demuxed.clients owner inUse client).2.symm.trans (own.trans same))
  rw [demuxed.ports, demuxed.ports, UInt8.toNat_ofNat', UInt8.toNat_ofNat'] at word
  have equal : owner = slot := by omega
  rw [equal, free] at inUse
  cases inUse

/-- The router opened this server connection in the run, for a packet that matched no connection. -/
def Node.ServesSource (node start : Node cfg) (inputs : List (NodeInput cfg)) (slot : Nat) (id : CspId) : Prop :=
  (node.conns slot).state = .open ∧ (node.conns slot).type = .server ∧
    ∃ past ingress packet later, inputs = past ++ .route (some (ingress, packet)) :: later ∧
      connFindExisting (connCheckTimeouts ((nodeMachine cfg).trace start past)) packet.id = none ∧
      (node.conns slot).idin = packet.id ∧ packet.id.SameSource id

/-- Each server connection in use was opened for a packet of the run. -/
def Node.Served (node start : Node cfg) (inputs : List (NodeInput cfg)) : Prop :=
  ∀ slot, (node.conns slot).state = .open → (node.conns slot).type = .server →
    node.ServesSource start inputs slot (node.conns slot).idin

theorem Node.ServesSource.grow {node after start : Node cfg} {past : List (NodeInput cfg)} {slot : Nat} {id : CspId}
    (serves : node.ServesSource start past slot id) (lasts : (node.conns slot).Lasts (after.conns slot))
    (inUse : (after.conns slot).state = .open) (input : NodeInput cfg) :
    after.ServesSource start (past ++ [input]) slot id := by
  obtain ⟨type, idin, -⟩ := lasts.fields
  obtain ⟨-, server, before, ingress, packet, later, rfl, missing, same, source⟩ := serves
  refine ⟨inUse, type.trans server, before, ingress, packet, later ++ [input], ?_, missing, idin.trans same, source⟩
  rw [List.append_assoc, List.cons_append]

theorem Node.Turns.served {node after start : Node cfg} {past : List (NodeInput cfg)} {input : NodeInput cfg}
    (turns : node.Turns input after) (reached : (nodeMachine cfg).trace start past = node)
    (served : node.Served start past) : after.Served start (past ++ [input]) := by
  have kept {slot : Nat} (lasts : (node.conns slot).Lasts (after.conns slot))
      (inUse : (after.conns slot).state = .open) (server : (after.conns slot).type = .server) :
      after.ServesSource start (past ++ [input]) slot (after.conns slot).idin := by
    obtain ⟨type, idin, -⟩ := lasts.fields
    rw [idin]
    exact (served slot (lasts.inUse inUse) (type.symm.trans server)).grow lasts inUse input
  intro slot inUse server
  cases turns with
  | lasts lasts => exact kept (lasts slot) inUse server
  | @client opened connDflSo now opts prio dport dest opens =>
      by_cases same : slot = opened
      · subst same
        obtain ⟨type, -⟩ := opens.opened.fields
        rw [type] at server
        cases server
      · exact kept (opens.others slot same) inUse server
  | @server opened socket ingress packet now opts arrives missing bound opens =>
      by_cases same : slot = opened
      · subst same
        obtain ⟨-, idin, -⟩ := opens.opened.fields
        have own : (after.conns slot).idin = packet.id := idin
        rw [own]
        refine ⟨inUse, server, past, ingress, packet, [], by rw [arrives], ?_, own, rfl, rfl, rfl⟩
        rw [reached]
        exact missing
      · exact kept ((checkTimeoutsOn_lasts _ node slot).trans (opens.others slot same)) inUse server

theorem nodeMachine_allows (start : Node cfg) (inputs : List (NodeInput cfg)) :
    (nodeMachine cfg).Allows start inputs := by
  induction inputs generalizing start with
  | nil => trivial
  | cons input rest ih => exact ⟨trivial, ih _⟩

theorem nodeMachine_indexed {start : Node cfg} (initial : (nodeMachine cfg).initial start)
    (inputs : List (NodeInput cfg)) : ((nodeMachine cfg).trace start inputs).Indexed := by
  refine @Machine.trace_invariant _ _ (nodeMachine cfg) (fun _ node => node.Indexed) start ?_ ?_ inputs
    (nodeMachine_allows start inputs)
  · obtain ⟨io, content, rfl⟩ := initial
    exact fun _ => rfl
  · intro past node input _ indexed _
    exact (nodeStep_turns node input).indexed indexed

/-- In each reachable state, each slot has the place and the source port of the table. -/
theorem reachable_placed {past : Node cfg} (reached : (nodeMachine cfg).Reachable past) :
    past.Indexed ∧ past.Demuxed := by
  refine @Machine.Reachable.invariant _ _ _ (fun node => node.Indexed ∧ node.Demuxed) ?_ ?_ _ reached
  · rintro _ ⟨io, content, rfl⟩
    exact ⟨fun _ => rfl, nodeInit_demuxed io content⟩
  · rintro node input ⟨indexed, demuxed⟩ _
    exact ⟨(nodeStep_turns node input).indexed indexed, (nodeStep_turns node input).demuxed demuxed⟩

theorem nodeMachine_demuxed {start : Node cfg} (initial : (nodeMachine cfg).initial start)
    (inputs : List (NodeInput cfg)) :
    ((nodeMachine cfg).trace start inputs).Demuxed ∧
      ((nodeMachine cfg).trace start inputs).Served start inputs := by
  refine @Machine.trace_invariant _ _ (nodeMachine cfg) (fun past node => node.Demuxed ∧ node.Served start past)
    start ?_ ?_ inputs (nodeMachine_allows start inputs)
  · obtain ⟨io, content, rfl⟩ := initial
    exact ⟨nodeInit_demuxed io content, fun slot inUse => by cases inUse⟩
  · intro past node input reached invariant _
    have turns := nodeStep_turns node input
    exact ⟨turns.demuxed invariant.1, turns.served reached invariant.2⟩

/-- In each reachable state, a packet matches the client that owns its port or the server that was opened
for its source, in any search order, and the router hands it to no other connection. -/
theorem demultiplexing_unambiguous (cfg : Config) (fits : cfg.portMaxBind + cfg.connMax ≤ 63) {start : Node cfg}
    (initial : (nodeMachine cfg).initial start) (inputs : List (NodeInput cfg)) {node : Node cfg}
    (reached : (nodeMachine cfg).trace start inputs = node) (id : CspId) :
    (∀ first < cfg.connMax, ∀ second < cfg.connMax,
        (node.conns first).accepts id = true → (node.conns second).accepts id = true → first = second) ∧
      (∀ order : List Nat, (∀ slot, slot ∈ order ↔ slot < cfg.connMax) →
        order.find? (fun slot => (node.conns slot).accepts id) = connFindExisting node id) ∧
      (∀ slot, connFindExisting node id = some slot ↔
        slot < cfg.connMax ∧ (node.OwnsPort slot id.dport ∨ node.ServesSource start inputs slot id)) ∧
      ∀ ingress packet after slot checked,
        routeInput (connCheckTimeouts node) ingress packet = .deliver after slot checked →
          ∀ other < cfg.connMax, ((connCheckTimeouts node).conns other).accepts packet.id = true → other = slot := by
  subst reached
  obtain ⟨demuxed, served⟩ := nodeMachine_demuxed initial inputs
  generalize (nodeMachine cfg).trace start inputs = node at demuxed served
  refine ⟨fun first _ second _ => demuxed.accepts_unique fits, fun order => demuxed.find_eq fits id, ?_, ?_⟩
  · intro slot
    constructor
    · intro found
      obtain ⟨inside, accepts⟩ := connFindExisting_accepts found
      refine ⟨inside, ?_⟩
      obtain ⟨inUse, ⟨client, port⟩ | ⟨server, source⟩⟩ := (Conn.accepts_iff _ _).mp accepts
      · obtain ⟨own, sends⟩ := demuxed.clients slot inUse client
        exact .inl ⟨inUse, client, sends.trans (own.symm.trans port)⟩
      · obtain ⟨-, -, past, ingress, packet, later, split, missing, same, -⟩ := served slot inUse server
        exact .inr ⟨inUse, server, past, ingress, packet, later, split, missing, same, same ▸ source⟩
    · rintro ⟨inside, matched⟩
      have accepts : (node.conns slot).accepts id = true := by
        obtain ⟨inUse, client, port⟩ | ⟨inUse, server, _, _, packet, _, _, _, same, source⟩ := matched
        · obtain ⟨own, sends⟩ := demuxed.clients slot inUse client
          exact (Conn.accepts_iff _ _).mpr ⟨inUse, .inl ⟨client, own.trans (sends.symm.trans port)⟩⟩
        · exact (Conn.accepts_iff _ _).mpr ⟨inUse, .inr ⟨server, same ▸ source⟩⟩
      exact demuxed.find_of_accepts fits (List.mem_range.mpr inside) accepts
  · intro ingress packet after slot checked delivered other inside accepts
    have timers : (connCheckTimeouts node).Demuxed := demuxed.lasts (checkTimeoutsOn_lasts _ node)
    have handles := routeInput_handles (connCheckTimeouts node) ingress packet
    rw [delivered] at handles
    cases handles with
    | found io dedup existing passes => exact timers.accepts_unique fits accepts (connFindExisting_accepts existing).2
    | opened io dedup missing bound passes inside' free next =>
        rw [connFindExisting_none missing inside] at accepts
        cases accepts

/-- A socket on port 10 gets a packet from port 20 of this node, and then a client connects. -/
def serverAndClient : List (NodeInput {}) :=
  [.environment { idleNode with ports := fun port => if port = 10 then .open 0 else .closed },
    .route (some (0, { (default : Packet) with id := { (default : CspId) with dport := 10, sport := 20 } })),
    .connect 2 5 10 0]

theorem serverAndClient_unambiguous :
    [7, 6, 5, 4, 3, 2, 1, 0].find? (fun slot => (((nodeMachine {}).trace idleNode serverAndClient).conns slot).accepts
        { (default : CspId) with dport := 10, sport := 20 }) = some 1 ∧
      [7, 6, 5, 4, 3, 2, 1, 0].find? (fun slot => (((nodeMachine {}).trace idleNode serverAndClient).conns slot).accepts
        { (default : CspId) with dport := 19 }) = some 2 := by
  have whole : ∀ slot, slot ∈ [7, 6, 5, 4, 3, 2, 1, 0] ↔ slot < ({} : Config).connMax := by
    intro slot
    simp only [List.mem_cons, List.not_mem_nil, or_false]
    omega
  constructor
  · refine ((demultiplexing_unambiguous {} (by decide) ⟨_, _, rfl⟩ serverAndClient rfl _).2.1 _ whole).trans ?_
    decide +kernel
  · refine ((demultiplexing_unambiguous {} (by decide) ⟨_, _, rfl⟩ serverAndClient rfl _).2.1 _ whole).trans ?_
    decide +kernel

end Libcsp

/-
This file shows when the security options of sockets and connections hold for all stored packets.
-/
import Libcsp.Delivery
import Libcsp.Demux
import Libcsp.SecurityCheck
import Libcsp.StoredPackets

namespace Libcsp

variable {cfg : Config}

/-! ## Verified content -/

/-- The router read a packet in the run that has what the options require, and this packet keeps content
of it. -/
def Packet.Verified (cfg : Config) (past : List (NodeInput cfg)) (opts : UInt32)
    (Keeps : Packet → Packet → Prop) (stored : Packet) : Prop :=
  ∃ ingress received, .route (some (ingress, received)) ∈ past ∧ received.Secures cfg opts ∧
    stored.id = received.id ∧ Keeps stored received

/-- A socket keeps the content without the trailers. -/
def Packet.MailedAs (stored received : Packet) : Prop := stored.payload = received.withoutTrailers.payload

/-- A connection keeps the content without the trailers and the RDP header. -/
def Packet.QueuedAs (stored received : Packet) : Prop :=
  stored.payload =
    if received.id.has cspFRdp then received.withoutTrailers.body else received.withoutTrailers.payload

/-- The reassembly queue keeps the content without the trailers, and the RDP header in host byte order. -/
def Packet.StoredAs (stored received : Packet) : Prop :=
  received.id.has cspFRdp = true ∧ rdpHeaderSize < stored.length.toNat ∧
    stored.payload = (rdpHeaderToHost received.withoutTrailers).payload

/-- The options of each socket and of each connection hold for the packets in their queues. -/
structure Node.Enforces (node : Node cfg) (past : List (NodeInput cfg)) : Prop where
  stored : ∀ packet ∈ node.stack.rxQueue.items,
    packet.Verified cfg past (node.conns packet.conn).opts Packet.StoredAs
  queued : ∀ slot packet, some packet ∈ (node.conns slot).rxQueue.items →
    packet.Verified cfg past (node.conns slot).opts Packet.QueuedAs
  mailed : ∀ socket packet, .inl packet ∈ (node.stack.sockets socket).rxQueue.items →
    packet.Verified cfg past (node.stack.sockets socket).opts Packet.MailedAs

section Verified
variable {past more : List (NodeInput cfg)} {opts other : UInt32} {Keeps : Packet → Packet → Prop}
  {packet : Packet}

theorem Packet.Verified.mono (verified : packet.Verified cfg past opts Keeps) (subset : past ⊆ more) :
    packet.Verified cfg more opts Keeps := by
  obtain ⟨ingress, received, read, rest⟩ := verified
  exact ⟨ingress, received, subset read, rest⟩

/-- Verified content serves all options whose flags its header has. -/
theorem Packet.Verified.under (verified : packet.Verified cfg past opts Keeps)
    (carries : packet.id.Carries other) : packet.Verified cfg past other Keeps := by
  obtain ⟨ingress, received, read, secures, id, keeps⟩ := verified
  exact ⟨ingress, received, read, secures.under (id ▸ carries), id, keeps⟩

theorem Packet.Verified.carries (verified : packet.Verified cfg past opts Keeps) : packet.id.Carries opts := by
  obtain ⟨_, _, _, secures, id, _⟩ := verified
  exact id ▸ secures.carries

end Verified

theorem Packet.body_of_payload {first second : Packet} (same : first.payload = second.payload) :
    first.body = second.body := by
  rw [Packet.body, Packet.body, Packet.dataBytes_of_payload same (Nat.sub_le _ _),
    Packet.length_of_payload same]

/-- The tag is no part of the content. -/
theorem Packet.StoredAs.tagged {stored received : Packet} (keeps : stored.StoredAs received) (conn : Nat) :
    (stored.tagged conn).StoredAs received := keeps

/-- Userspace reads the data in front of the RDP header. -/
theorem Packet.StoredAs.read {stored received : Packet} (keeps : stored.StoredAs received) :
    (rdpHeaderRemove stored).QueuedAs received := by
  obtain ⟨flag, long, payload⟩ := keeps
  rw [Packet.QueuedAs, if_pos flag, rdpHeaderRemove_payload long, Packet.body_of_payload payload,
    rdpHeaderToHost_body]

/-- The conversion reads and writes the header only. -/
theorem Packet.SameVisible.toHost {first second : Packet} (same : first.SameVisible second)
    (long : rdpHeaderSize ≤ first.length.toNat) :
    (rdpHeaderToHost first).SameVisible (rdpHeaderToHost second) where
  length := same.length
  id := same.id
  data index inside := by
    have place : rdpHeaderRef second = rdpHeaderRef first := by
      rw [rdpHeaderRef, rdpHeaderRef, same.length]
    have byte : ∀ offset < 5, first.mem (rdpHeaderRef first + offset) = second.mem (rdpHeaderRef first + offset) := by
      intro offset small
      have here : rdpHeaderRef first + offset = dataAt + (first.length.toNat - rdpHeaderSize + offset) := by
        simp only [rdpHeaderRef]
        omega
      rw [here]
      apply same.data
      simp only [rdpHeaderSize] at long ⊢
      omega
    have seqNr := be16_congr (byte 1 (by decide)) (byte 2 (by decide))
    have ackNr := be16_congr (byte 3 (by decide)) (byte 4 (by decide))
    have data := same.data index inside
    simp only [Packet.data] at data
    simp only [rdpHeaderToHost, Packet.data, place, putLe16, setByte, seqNr, ackNr, data]

/-! ## Calls on one connection -/

/-- The stored packets have what the options of these connections require. -/
def Node.Covers (node : Node cfg) (shared : Nat → Prop) : Prop :=
  ∀ packet ∈ node.stack.rxQueue.items, ∀ slot, shared slot → packet.id.Carries (node.conns slot).opts

/-- The queues may hold these packets while a call works on the slot. -/
def Node.shelf (node : Node cfg) (past : List (NodeInput cfg)) (shared : Nat → Prop) (slot : Nat) : Shelf where
  stored packet := packet.Verified cfg past (node.conns packet.conn).opts Packet.StoredAs ∧
    ∀ other, shared other → packet.id.Carries (node.conns other).opts
  queued packet := packet.Verified cfg past (node.conns slot).opts Packet.QueuedAs
  mailed _ opts packet := packet.Verified cfg past opts Packet.MailedAs

section Calls
variable {node : Node cfg} {past : List (NodeInput cfg)} {shared : Nat → Prop}

theorem Node.shelf_suits {slot : Nat} (shares : shared slot) : (node.shelf past shared slot).Suits slot where
  tagged packet fits := ⟨fits.1.under (fits.2 slot shares), fits.2⟩
  handed packet fits own := by
    obtain ⟨⟨ingress, received, read, secures, id, keeps⟩, -⟩ := fits
    rw [own] at secures
    exact ⟨ingress, received, read, secures, id, keeps.read⟩

theorem Node.Enforces.holds (enforces : node.Enforces past) (covers : node.Covers shared) (slot : Nat) :
    (node.ctx slot).Holds (node.shelf past shared slot) where
  stored packet member := ⟨enforces.stored packet member, covers packet member⟩
  queued := enforces.queued slot
  mailed := enforces.mailed

theorem Conn.Lasts.opts {conn after : Conn cfg} (lasts : conn.Lasts after) : after.opts = conn.opts :=
  lasts.fields.2.2.2.2

theorem Node.Lasts.opts {after : Node cfg} (lasts : node.Lasts after) (slot : Nat) :
    (after.conns slot).opts = (node.conns slot).opts := (lasts slot).opts

/-- The result of a call on one slot keeps what holds of all queues. -/
theorem Node.Enforces.put (enforces : node.Enforces past) {slot : Nat} {after : Ctx cfg}
    (lasts : (node.ctx slot).conn.Lasts after.conn) (holds : after.Holds (node.shelf past shared slot)) :
    (node.put slot after).Enforces past ∧ (node.put slot after).Covers shared := by
  have opts := (@Node.Lasts.put cfg node slot after lasts).opts
  constructor
  · constructor
    · intro packet member
      rw [opts]
      exact (holds.stored packet member).1
    · intro other packet member
      rw [opts]
      by_cases same : other = slot
      · subst same
        have own : ((node.put other after).conns other).rxQueue = after.conn.rxQueue := by
          simp [Node.put, Slots.put]
        rw [own] at member
        exact holds.queued packet member
      · have kept : (node.put slot after).conns other = node.conns other := by
          simp [Node.put, Slots.put, same]
        rw [kept] at member
        exact enforces.queued other packet member
    · exact holds.mailed
  · intro packet member other shares
    rw [opts]
    exact (holds.stored packet member).2 other shares

/-- A call that stores no packet of another connection needs no condition. -/
theorem Node.Enforces.call (enforces : node.Enforces past) {slot : Nat} {after : Ctx cfg}
    (lasts : (node.ctx slot).conn.Lasts after.conn)
    (holds : ∀ shelf, (node.ctx slot).Holds shelf → after.Holds shelf) : (node.put slot after).Enforces past := by
  have free : node.Covers fun _ => False := fun _ _ _ shares => shares.elim
  exact (enforces.put lasts (holds _ (enforces.holds free slot))).1

theorem Node.Enforces.mono (enforces : node.Enforces past) {more : List (NodeInput cfg)} (subset : past ⊆ more) :
    node.Enforces more where
  stored packet member := (enforces.stored packet member).mono subset
  queued slot packet member := (enforces.queued slot packet member).mono subset
  mailed socket packet member := (enforces.mailed socket packet member).mono subset

/-- All that matters are the connections and the three kinds of queues. -/
theorem Node.Enforces.of_same (enforces : node.Enforces past) {after : Node cfg} (conns : after.conns = node.conns)
    (rx : after.stack.rxQueue = node.stack.rxQueue) (sockets : after.stack.sockets = node.stack.sockets) :
    after.Enforces past := by
  constructor
  · rw [rx, conns]
    exact enforces.stored
  · rw [conns]
    exact enforces.queued
  · rw [sockets]
    exact enforces.mailed

/-- A new connection takes over the stored packets with the tag of its slot. -/
theorem Node.Enforces.renew (enforces : node.Enforces past) {slot : Nat} {conn : Conn cfg}
    (empty : conn.rxQueue = .empty)
    (left : ∀ packet ∈ node.stack.rxQueue.items, packet.conn = slot → packet.id.Carries conn.opts) :
    (node.renew slot conn).Enforces past := by
  constructor
  · intro packet member
    have verified := enforces.stored packet member
    by_cases same : packet.conn = slot
    · rw [same, Node.renew_own]
      exact verified.under (left packet member same)
    · rw [Node.renew_other _ conn same]
      exact verified
  · intro other packet
    by_cases same : other = slot
    · subst same
      rw [Node.renew_own, empty]
      exact fun member => absurd member List.not_mem_nil
    · rw [Node.renew_other _ conn same]
      exact enforces.queued other packet
  · exact enforces.mailed

end Calls

/-! ## The router -/

section Router
variable {node : Node cfg} {past : List (NodeInput cfg)} (indexed : node.Indexed)
  (enforces : node.Enforces past)
include indexed enforces

/-- A connection stores a packet that it checked. Only in some states it takes up other stored packets. -/
theorem Node.Enforces.deliver {slot ingress : Nat} {packet checked : Packet}
    (read : .route (some (ingress, packet)) ∈ past)
    (passes : Packet.Passes cfg (node.conns slot).opts packet checked)
    (covers : checked.id.has cspFRdp = true → (node.conns slot).rdp.Receives → node.Covers (· = slot)) :
    (node.put slot (routeDeliver (node.ctx slot) checked)).Enforces past := by
  obtain ⟨secures, visible⟩ := passes.secures
  have id : checked.id = packet.id := passes.id
  have covered : node.Covers fun other => other = slot ∧ checked.id.has cspFRdp = true ∧
      (node.conns slot).rdp.Receives := by
    intro stored member other shares
    exact covers shares.2.1 shares.2.2 stored member other shares.1
  refine (enforces.put (routeDeliver_lasts _ checked) (routeDeliver_holds (enforces.holds covered slot) ?_ ?_ ?_)).1
  · intro flag receives
    rw [show (node.ctx slot).conn.index = slot from indexed slot]
    exact Node.shelf_suits ⟨rfl, flag, receives⟩
  · intro flag long
    rw [show (node.ctx slot).conn.index = slot from indexed slot]
    have long : rdpHeaderSize < checked.length.toNat := long
    have host := visible.toHost (le_of_lt long)
    have stored : ((rdpHeaderToHost checked).tagged slot).StoredAs packet := ⟨id ▸ flag, long, host.payload⟩
    refine ⟨⟨⟨ingress, packet, read, secures, id, stored⟩, ?_⟩, ingress, packet, read, secures, id, stored.read⟩
    intro other shares
    rw [shares.1]
    exact id ▸ secures.carries
  · intro flag
    refine ⟨ingress, packet, read, secures, id, ?_⟩
    rw [Packet.QueuedAs, if_neg (by simp [← id, flag])]
    exact visible.payload

/-- A server connection stores the packet that opens it. -/
theorem Node.Enforces.serve {slot socket ingress : Nat} {now opts : UInt32} {packet checked : Packet}
    (read : .route (some (ingress, packet)) ∈ past) (passes : Packet.Passes cfg opts packet checked)
    (admits : ∀ stored ∈ node.stack.rxQueue.items,
      stored.conn = slot ∨ checked.id.has cspFRdp = true ∧ (node.conns slot).rdp.Receives →
        stored.id.Carries opts) :
    Node.Enforces (Routed.deliver (node.renew slot ((node.conns slot).server now checked.id socket opts)) slot
      checked).finish past := by
  generalize opened : (node.conns slot).server now checked.id socket opts = conn
  have same : conn.opts = opts ∧ conn.rdp = (node.conns slot).rdp ∧ conn.rxQueue = .empty ∧
      conn.index = (node.conns slot).index := by
    rw [← opened]
    exact ⟨rfl, rfl, rfl, rfl⟩
  obtain ⟨options, rdp, empty, index⟩ := same
  have renewed : (node.renew slot conn).Enforces past := by
    apply enforces.renew empty
    rw [options]
    exact fun stored member own => admits stored member (.inl own)
  apply renewed.deliver (indexed.renew (index.trans (indexed slot))) read
  · rw [Node.renew_own, options]
    exact passes
  · rw [Node.renew_own, rdp]
    intro flag receives stored member other shares
    rw [shares, Node.renew_own, options]
    exact admits stored member (.inr ⟨flag, receives⟩)

/-- The timers work on one connection after the other. -/
theorem checkTimeoutsOn_enforces {shared : Nat → Prop} (covers : node.Covers shared) {slots : List Nat}
    (distinct : slots.Nodup)
    (flushes : ∀ slot ∈ slots, (node.conns slot).state = .open → (node.conns slot).idin.has cspFRdp = true →
      (node.conns slot).Flushes → shared slot) :
    (checkTimeoutsOn slots node).Enforces past := by
  induction slots generalizing node with
  | nil => exact enforces
  | cons slot rest ih =>
      obtain ⟨fresh, distinct⟩ := List.nodup_cons.mp distinct
      have later := fun other member => flushes other (List.mem_cons_of_mem slot member)
      simp only [checkTimeoutsOn]
      split
      · rename_i live
        simp only [Bool.and_eq_true, decide_eq_true_eq] at live
        have lasts := rdpCheckTimeouts_lasts (node.ctx slot)
        have timed : (rdpCheckTimeouts (node.ctx slot)).Holds (node.shelf past shared slot) := by
          apply rdpCheckTimeouts_holds (enforces.holds covers slot)
          rw [show (node.ctx slot).conn.index = slot from indexed slot]
          exact fun looks => Node.shelf_suits (flushes slot List.mem_cons_self live.1 live.2 looks)
        obtain ⟨enforces, covers⟩ := enforces.put lasts timed
        apply ih (indexed.lasts (Node.Lasts.put lasts)) enforces covers distinct
        intro other member
        have different : other ≠ slot := fun same => fresh (same ▸ member)
        have kept : (node.put slot (rdpCheckTimeouts (node.ctx slot))).conns other = node.conns other := by
          simp [Node.put, Slots.put, different]
        rw [kept]
        exact later other member
      · exact ih indexed enforces covers distinct later

end Router

/-! ## Runs -/

/-- The rest of the program puts no packet into the queue of a socket, and keeps the options of a socket
while its queue holds packets. -/
def NodeInput.KeepsSockets (node : Node cfg) : NodeInput cfg → Prop
  | .environment world => ∀ socket packet, .inl packet ∈ (world.stack.sockets socket).rxQueue.items →
      .inl packet ∈ (node.stack.sockets socket).rxQueue.items ∧
        (world.stack.sockets socket).opts = (node.stack.sockets socket).opts
  | _ => True

/-- The stored packets that a connection takes up have the flags that its options require. -/
def Node.Admits (node : Node cfg) (opts : UInt32) (Takes : Packet → Prop) : Prop :=
  ∀ packet ∈ node.stack.rxQueue.items, Takes packet → packet.id.Carries opts

/-- A new connection takes up what the last one left under the tag of the slot. The connection of an RDP
packet takes up all stored packets. -/
def Node.AdmitsFor (node : Node cfg) (id : CspId) : Prop :=
  match connFindExisting node id with
  | some slot =>
      node.Admits (node.conns slot).opts fun _ => id.has cspFRdp = true ∧ (node.conns slot).rdp.Receives
  | none => ∀ socket slot, portGetSocket node id.dport = some socket → node.nextSlot = some slot →
      node.Admits (node.stack.sockets socket).opts fun packet =>
        packet.conn = slot ∨ id.has cspFRdp = true ∧ (node.conns slot).rdp.Receives

/-- No connection takes up a stored packet that lacks a flag which its options require. -/
def NodeInput.KeepsApart (node : Node cfg) : NodeInput cfg → Prop
  | .connect _ _ _ opts => ∀ slot, node.nextSlot = some slot →
      node.Admits (connectOpts node.connDflSo opts) fun packet => packet.conn = slot
  | .route input =>
      (∀ slot < cfg.connMax, (node.conns slot).state = .open → (node.conns slot).idin.has cspFRdp = true →
        (node.conns slot).Flushes → node.Admits (node.conns slot).opts fun _ => True) ∧
        ∀ ingress packet, input = some (ingress, packet) → (connCheckTimeouts node).AdmitsFor packet.id
  | _ => True

theorem Node.admitsFor_of_empty {node : Node cfg} (empty : node.stack.rxQueue.items = []) (id : CspId) :
    node.AdmitsFor id := by
  have all (opts : UInt32) (Takes : Packet → Prop) : node.Admits opts Takes := by
    rw [Node.Admits, empty]
    exact fun _ member => absurd member List.not_mem_nil
  unfold Node.AdmitsFor
  split
  · exact all _ _
  · exact fun _ _ _ _ => all _ _

/-- The runs of a node whose program leaves the queues of its sockets alone. -/
def secureMachine (cfg : Config) : Machine (Node cfg) (NodeInput cfg) :=
  (nodeMachine cfg).restrict NodeInput.KeepsSockets

section Steps
variable {node : Node cfg} {past : List (NodeInput cfg)} (enforces : node.Enforces past)
include enforces

theorem connectReturns_enforces {slot : Nat} (retry : Bool) {result : Option CspErr × Ctx cfg}
    (lasts : (node.ctx slot).conn.Lasts result.2.conn)
    (holds : ∀ shelf, (node.ctx slot).Holds shelf → result.2.Holds shelf) :
    (connectReturns node slot retry result).Enforces past := by
  unfold connectReturns
  split
  · exact (enforces.call lasts holds).of_same rfl rfl rfl
  · exact (enforces.call lasts holds).of_same rfl rfl rfl
  · have closed := enforces.call (lasts.trans (connClose_lasts _ rdpClosedByUserspace)) fun shelf before =>
      connClose_holds (holds shelf before) _
    exact closed.of_same rfl rfl rfl

theorem cspConnect_enforces {prio : UInt8} {dest : UInt16} {dport : UInt8} {opts : UInt32}
    (apart : NodeInput.KeepsApart node (.connect prio dest dport opts)) :
    (cspConnect node prio dest dport opts).Enforces past := by
  obtain same | ⟨slot, opened, -, -, next, rfl, same⟩ := cspConnect_renews node prio dest dport opts
  · rw [same]
    exact enforces
  · have renewed := @Node.Enforces.renew cfg node past enforces slot
      ((node.conns slot).client node.connDflSo node.stack.now prio dest dport opts) rfl (apart slot next)
    rw [same]
    split
    · exact connectReturns_enforces renewed true (rdpConnectStart_lasts _) fun shelf holds =>
        rdpConnectStart_holds holds
    · exact renewed.of_same rfl rfl rfl

/-- A connection-less socket keeps a packet that it checked. -/
theorem Node.Enforces.mail {socket ingress : Nat} {packet checked : Packet}
    {rxQueue : BoundedQueue (Packet ⊕ Nat) cfg.connRxqueueLen} (io : Io cfg) (dedup : Dedup)
    (read : .route (some (ingress, packet)) ∈ past)
    (passes : Packet.Passes cfg (node.stack.sockets socket).opts packet checked)
    (stored : (node.stack.sockets socket).rxQueue.enqueue (.inl checked) = some rxQueue) :
    Node.Enforces { node with
      stack.io := io
      stack.sockets := Function.update node.stack.sockets socket { node.stack.sockets socket with rxQueue }
      dedup } past := by
  obtain ⟨secures, visible⟩ := passes.secures
  have items := (BoundedQueue.enqueue_eq_some.mp stored).2
  refine ⟨enforces.stored, enforces.queued, fun other packet' => ?_⟩
  by_cases same : other = socket
  · subst same
    simp only [Function.update_self, items]
    intro member
    obtain old | new := List.mem_append.mp member
    · exact enforces.mailed other packet' old
    · cases List.mem_singleton.mp new
      exact ⟨ingress, packet, read, secures, passes.id, visible.payload⟩
  · simp only [Function.update_of_ne same]
    exact enforces.mailed other packet'

theorem routeWork_enforces (indexed : node.Indexed) {input : Option (Nat × Packet)}
    (apart : NodeInput.KeepsApart node (.route input)) (read : .route input ∈ past) :
    (routeWork node input).Enforces past := by
  obtain ⟨timers, arrives⟩ := apart
  have timed : (connCheckTimeouts node).Enforces past := by
    have covers : node.Covers fun slot => slot < cfg.connMax ∧ (node.conns slot).state = .open ∧
        (node.conns slot).idin.has cspFRdp = true ∧ (node.conns slot).Flushes := by
      intro packet member slot shares
      exact timers slot shares.1 shares.2.1 shares.2.2.1 shares.2.2.2 packet member trivial
    apply checkTimeoutsOn_enforces indexed enforces covers List.nodup_range
    exact fun slot member inUse rdp looks => ⟨List.mem_range.mp member, inUse, rdp, looks⟩
  have indexed : (connCheckTimeouts node).Indexed := indexed.lasts (checkTimeoutsOn_lasts _ node)
  cases input with
  | none => exact timed
  | some arrival =>
      obtain ⟨ingress, packet⟩ := arrival
      have admits := arrives ingress packet rfl
      have handles := routeInput_handles (connCheckTimeouts node) ingress packet
      simp only [routeWork]
      generalize routeInput (connCheckTimeouts node) ingress packet = result at handles
      generalize connCheckTimeouts node = node at timed indexed admits handles
      cases handles with
      | done io dedup calledBack => exact timed.of_same rfl rfl rfl
      | queued io dedup passes stored => exact timed.mail io dedup read passes stored
      | @found io dedup slot checked existing passes =>
          have same : Node.Enforces { node with stack.io := io, dedup } past := timed.of_same rfl rfl rfl
          have places : Node.Indexed { node with stack.io := io, dedup } := indexed
          simp only [Node.AdmitsFor, existing] at admits
          apply same.deliver places read passes
          intro flag receives stored member other shares
          cases shares
          exact admits stored member ⟨passes.id ▸ flag, receives⟩
      | @opened io dedup socket slot checked missing bound passes inside free next =>
          have same : Node.Enforces { node with stack.io := io, dedup } past := timed.of_same rfl rfl rfl
          have places : Node.Indexed { node with stack.io := io, dedup } := indexed
          simp only [Node.AdmitsFor, missing] at admits
          apply same.serve places read passes
          intro stored member takes
          exact admits socket slot bound next stored member (takes.imp_right fun takes => ⟨passes.id ▸ takes.1, takes.2⟩)

theorem cspAccept_enforces (socket : Nat) : (cspAccept node socket).Enforces past := by
  simp only [cspAccept]
  split
  · exact enforces
  · rename_i dequeued
    have items := BoundedQueue.dequeue_eq_some.mp dequeued
    refine ⟨enforces.stored, enforces.queued, fun other packet => ?_⟩
    by_cases same : other = socket
    · subst same
      simp only [Function.update_self]
      intro member
      apply enforces.mailed other packet
      rw [items]
      exact List.mem_cons_of_mem _ member
    · simp only [Function.update_of_ne same]
      exact enforces.mailed other packet

/-- Each call keeps the invariant, and the router adds the packet that it read. -/
theorem nodeStep_enforces (indexed : node.Indexed) {input : NodeInput cfg} (read : input ∈ past)
    (sockets : input.KeepsSockets node) (apart : input.KeepsApart node) :
    (nodeStep node input).Enforces past := by
  cases input with
  | connect prio dest dport opts => exact cspConnect_enforces enforces apart
  | wake slot =>
      simp only [nodeStep, Node.wake]
      split
      · exact enforces
      · exact connectReturns_enforces enforces false (rdpConnectWake_lasts _ _) fun shelf holds =>
          rdpConnectWake_holds holds _
  | route input => exact routeWork_enforces enforces indexed apart read
  | accept socket => exact cspAccept_enforces enforces socket
  | send slot packet => exact enforces.call (cspSend_lasts _ packet) fun shelf holds => cspSend_holds holds packet
  | read slot => exact enforces.call (cspRead_lasts _) fun shelf holds => cspRead_holds holds
  | close slot =>
      have closed := enforces.call (connClose_lasts (node.ctx slot) rdpClosedByUserspace) fun shelf holds =>
        connClose_holds holds _
      exact closed.of_same rfl rfl rfl
  | environment world =>
      refine ⟨enforces.stored, enforces.queued, fun socket packet member => ?_⟩
      obtain ⟨old, opts⟩ := sockets socket packet member
      have verified := enforces.mailed socket packet old
      rw [← opts] at verified
      exact verified

end Steps

theorem nodeInit_enforces (io : Io cfg) (content : Nat → Conn cfg) : (Node.init io content).Enforces [] where
  stored _ member := absurd member List.not_mem_nil
  queued _ _ member := absurd member List.not_mem_nil
  mailed _ _ member := absurd member List.not_mem_nil

theorem secureMachine_enforces {start : Node cfg} (initial : (secureMachine cfg).initial start)
    (inputs : List (NodeInput cfg))
    (allowed : ((secureMachine cfg).restrict NodeInput.KeepsApart).Allows start inputs) :
    ((nodeMachine cfg).trace start inputs).Indexed ∧ ((nodeMachine cfg).trace start inputs).Enforces inputs := by
  have run := @Machine.trace_invariant _ _ ((secureMachine cfg).restrict NodeInput.KeepsApart)
    (fun past node => node.Indexed ∧ node.Enforces past) start ?_ ?_ inputs allowed
  · rwa [Machine.trace_restrict, secureMachine, Machine.trace_restrict] at run
  · obtain ⟨io, content, rfl⟩ := initial
    exact ⟨fun slot => rfl, nodeInit_enforces io content⟩
  · intro past node input _ invariant allowed
    obtain ⟨indexed, enforces⟩ := invariant
    obtain ⟨⟨_, sockets⟩, apart⟩ := allowed
    have more : node.Enforces (past ++ [input]) := enforces.mono (List.subset_append_left past [input])
    refine ⟨(nodeStep_turns node input).indexed indexed, nodeStep_enforces more indexed ?_ sockets apart⟩
    exact List.mem_append_right past List.mem_cons_self

/-- In a run in which no connection takes up a stored packet that lacks a flag which its options require, the
options of each socket and each connection hold for the packets in their queues. -/
theorem securityOptions_enforced (cfg : Config) {start : Node cfg} (initial : (secureMachine cfg).initial start)
    (inputs : List (NodeInput cfg))
    (apart : ((secureMachine cfg).restrict NodeInput.KeepsApart).Allows start inputs) :
    ((nodeMachine cfg).trace start inputs).Enforces inputs :=
  (secureMachine_enforces initial inputs apart).2

/-- The checksum of the packet in the run below. -/
def sumConfig : Config := { crc32Memory := fun bytes => if bytes = [7] then 0x86B737BA else 0 }

def sumNode : Node sumConfig := Node.init (Io.init sumConfig (fun _ => default) [] []) default

/-- A socket on port 10 requires checksums, and gets a packet with one. -/
def checkedPacket : List (NodeInput sumConfig) :=
  [.environment { sumNode with
      ports := fun port => if port = 10 then .open 0 else .closed
      stack.sockets := fun _ => { (default : Socket sumConfig) with opts := cspSoCrc32Req } },
    .route (some (0, { userPacket [7, 0x86, 0xB7, 0x37, 0xBA] with
      id := { (default : CspId) with flags := cspFCrc32, dport := 10, sport := 20 } }))]

theorem checkedPacket_enforced :
    ((((nodeMachine sumConfig).trace sumNode checkedPacket).conns 1).rxQueue.items.map
        fun packet => packet.map Packet.payload) = [some [7]] ∧
      ((nodeMachine sumConfig).trace sumNode checkedPacket).Enforces checkedPacket := by
  refine ⟨by decide +kernel, securityOptions_enforced sumConfig ⟨_, _, rfl⟩ checkedPacket
    ⟨⟨⟨trivial, ?_⟩, trivial⟩, ⟨⟨trivial, trivial⟩, ?_, ?_⟩, trivial⟩⟩
  · exact fun _ _ member => absurd member List.not_mem_nil
  · exact fun _ _ _ _ _ _ member => absurd member List.not_mem_nil
  · exact fun _ packet _ => Node.admitsFor_of_empty (by decide +kernel) packet.id

/-- A socket on port 10 without options gets an RDP segment ahead of its turn, and then a client connects
that requires signatures. -/
def mixedSecurity : List (NodeInput {}) :=
  [.environment { idleNode with ports := fun port => if port = 10 then .open 0 else .closed },
    .route (some (0, { synSegment 100 with
      id := { (default : CspId) with flags := cspFRdp, dport := 10, sport := 20 } })),
    .route (some (0, { rdpSegment rdpAck 103 0 [7] with
      id := { (default : CspId) with flags := cspFRdp, dport := 10, sport := 20 } })),
    .connect 2 5 10 (cspSoRdpReq ||| cspSoHmacReq), .route none]

/-- The timers of the client take up the unsigned segment. -/
theorem mixedSecurity_unsigned :
    ¬∀ inputs : List (NodeInput {}), (secureMachine {}).Allows idleNode inputs →
      ((nodeMachine {}).trace idleNode inputs).Enforces inputs := by
  intro enforced
  have allowed : (secureMachine {}).Allows idleNode mixedSecurity :=
    ⟨⟨trivial, fun _ _ member => absurd member List.not_mem_nil⟩, ⟨trivial, trivial⟩, ⟨trivial, trivial⟩,
      ⟨trivial, trivial⟩, ⟨trivial, trivial⟩, trivial⟩
  have enforces := enforced mixedSecurity allowed
  have unsigned : ((nodeMachine {}).trace idleNode mixedSecurity).stack.rxQueue.items.any (fun packet =>
      hasOpt (((nodeMachine {}).trace idleNode mixedSecurity).conns packet.conn).opts cspSoHmacReq &&
        !packet.id.has cspFHmac) = true := by decide +kernel
  obtain ⟨packet, member, lacks⟩ := List.any_eq_true.mp unsigned
  rw [Bool.and_eq_true] at lacks
  have signed := (enforces.stored packet member).carries.hmac lacks.1
  rw [signed] at lacks
  cases lacks.2

end Libcsp

/-
This file determines when a forwarded packet keeps split horizon, and which source address a packet has.
-/
import Libcsp.Node
import Libcsp.Wire

namespace Libcsp

variable {cfg : Config}

/-! ## A node whose interfaces transmit everything -/

/-- The topology with a full pool and next hops that never fail. -/
def Io.healthy (io : Io cfg) : Io cfg :=
  { io with
    pool := bufferInit cfg fun _ => default
    ifaceAt := fun iface => { io.ifaceAt iface with mtu := 0, nexthop := fun _ => .frees }
    promiscEnabled := false }

theorem Io.healthy_topology (io : Io cfg) : io.SameTopology io.healthy :=
  ⟨rfl, fun _ => rfl, fun _ => rfl, rfl⟩

/-- The interfaces have no MTU, and their next hops transmit and free each packet. -/
structure Io.Transmits (io : Io cfg) : Prop where
  mtu : ∀ iface, (io.ifaceAt iface).mtu = 0
  nexthop : ∀ iface, (io.ifaceAt iface).nexthop = fun _ => .frees

theorem Io.healthy_transmits (io : Io cfg) : io.healthy.Transmits := ⟨fun _ => rfl, fun _ => rfl⟩

theorem Io.healthy_buffer (io : Io cfg) (buffers : 0 < cfg.bufferCount) :
    io.healthy.pool.buffers.items ≠ [] := by
  simp only [healthy, bufferInit, ne_eq, List.map_eq_nil_iff, List.range_eq_nil]
  omega

theorem Io.Transmits.countCall {io : Io cfg} (transmits : io.Transmits) (iface : Nat) :
    (io.countCall iface).Transmits := by
  constructor <;>
    · intro other
      by_cases same : other = iface
      · subst same
        simp [Io.countCall, transmits.mtu, transmits.nexthop]
      · simp [Io.countCall, same, transmits.mtu, transmits.nexthop]

/-- A healthy interface transmits a forwarded packet as it is. -/
theorem sendDirectIface_transmits {io : Io cfg} (transmits : io.Transmits) (idout : CspId)
    (packet : Packet) (iface : Nat) (via : UInt16) :
    sendDirectIface io idout (some packet) iface via false =
      { (io.countCall iface).free { packet with id := idout } with
        wire := io.wire ++ [(iface, via, { packet with id := idout })] } := by
  simp only [sendDirectIface, sendTrailers, Bool.false_and, Bool.false_eq_true, if_false,
    transmits.mtu, callNexthop, transmits.nexthop, gt_iff_lt, UInt16.lt_irrefl, decide_false]
  rfl

/-- A buffer that was just allocated can be given back. -/
theorem bufferFree_nonempty {rest : BoundedQueue Packet cfg.bufferCount} {packet : Packet}
    {refcount : Nat → UInt32} (room : rest.items.length < cfg.bufferCount)
    (counted : refcount packet.buf = 1) :
    (bufferFree ⟨rest, refcount⟩ (some packet)).buffers.items ≠ [] := by
  simp [bufferFree, counted, BoundedQueue.enqueue_of_room packet room]

/-- The clone of a packet comes back to the pool, so the next copy finds a buffer. -/
theorem Io.Transmits.afterCopy {io : Io cfg} (transmits : io.Transmits)
    (buffer : io.pool.buffers.items ≠ []) {packet : Packet}
    (fits : packet.length.toNat ≤ cfg.bufferSize) (idout : CspId) (iface : Nat) (via : UInt16) :
    ∃ clone pool after, bufferClone io.pool (some packet) = (some clone, pool) ∧
      sendDirectIface { io with pool } idout (some clone) iface via false = after ∧
      after.wire = io.wire ++ [(iface, via, { clone with id := idout })] ∧
      after.Transmits ∧ after.pool.buffers.items ≠ [] := by
  obtain ⟨_, large | empty⟩ | ⟨head, rest, _, items, got⟩ :=
    bufferGet_cases io.pool packet.length.toNat
  · omega
  · exact absurd empty buffer
  have room : rest.items.length < cfg.bufferCount := by
    have bounded := io.pool.buffers.bounded
    rw [items, List.length_cons] at bounded
    omega
  refine ⟨{ packet with buf := head.buf }, ⟨rest, Function.update io.pool.refcount head.buf 1⟩, _,
    by rw [bufferClone_some, got]; rfl, sendDirectIface_transmits ?_ idout _ iface via, ?_, ?_, ?_⟩
  · exact ⟨transmits.mtu, transmits.nexthop⟩
  · rfl
  · have counted := transmits.countCall iface
    exact ⟨counted.mtu, counted.nexthop⟩
  · exact bufferFree_nonempty room (Function.update_self _ _ _)

/-- Each interface that the loop picks transmits its copy of a forwarded packet. -/
theorem sendDirectLoop_transmits {io : Io cfg} {packet : Packet} {ingress : Nat} (idout : CspId)
    (ifaces : List Nat) (found : Bool) (fits : packet.length.toNat ≤ cfg.bufferSize)
    (transmits : io.Transmits) (buffer : io.pool.buffers.items ≠ []) :
    ∃ sent, (sendDirectLoop idout (some packet) (some ingress) ifaces (found, io)).2.wire =
        io.wire ++ sent ∧
      ∀ iface ∈ ifaces, sendsOn io idout.dst (some ingress) iface = true →
        ∃ entry ∈ sent, entry.2.2.id = { idout with src := (io.ifaceAt iface).addr } := by
  induction ifaces generalizing found io with
  | nil => exact ⟨[], by simp [sendDirectLoop]⟩
  | cons head rest ih =>
      simp only [sendDirectLoop]
      split
      · rename_i sends
        obtain ⟨clone, pool, after, cloned, same, wire, healthy, filled⟩ := transmits.afterCopy buffer
          fits { idout with src := (io.ifaceAt head).addr } head noViaAddress
        have topology : io.SameTopology after := by
          have start : io.SameTopology { io with pool } := ⟨rfl, fun _ => rfl, fun _ => rfl, rfl⟩
          rw [← same]
          exact start.trans (sendDirectIface_topology _ _ _ _ _ _)
        obtain ⟨sent, grows, each⟩ := ih true healthy filled
        rw [cloned]
        simp only [Option.isNone_some, same]
        refine ⟨_, by rw [grows, wire, List.append_assoc], ?_⟩
        intro iface member sendsIface
        rcases List.mem_cons.mp member with rfl | member
        · exact ⟨_, List.mem_append_left _ List.mem_cons_self, rfl⟩
        · rw [← topology.sendsOn] at sendsIface
          obtain ⟨entry, inside, id⟩ := each iface member sendsIface
          rw [topology.addr] at id
          exact ⟨entry, List.mem_append_right _ inside, id⟩
      · rename_i skips
        obtain ⟨sent, grows, each⟩ := ih found transmits buffer
        refine ⟨sent, grows, ?_⟩
        intro iface member sendsIface
        rcases List.mem_cons.mp member with rfl | member
        · exact absurd sendsIface skips
        · exact each iface member sendsIface

/-! ## The router -/

theorem dedupIsDuplicate_packet (cfg : Config) (now : UInt32) (dedup : Dedup) (packet : Packet) :
    (dedupIsDuplicate cfg now dedup packet).2.2.id = packet.id ∧
      (dedupIsDuplicate cfg now dedup packet).2.2.payload = packet.payload := by
  have same : (dedupIsDuplicate cfg now dedup packet).2.2 = (idPrepend cfg packet).packet := by
    simp only [dedupIsDuplicate]
    split <;> rfl
  have small := idHeaderSize_le cfg
  rw [same, idPrepend_eq]
  exact ⟨rfl, prependHeader_payload _ packet (by simp only [dataAt]; omega)⟩

/-- The router forwards a packet for another node with the same header and payload, or frees it as
a duplicate. -/
theorem routeInput_forwards {node : Node cfg} {ingress : Nat} {packet : Packet}
    (transit : isToMe cfg (node.stack.io.ifaceAt ingress) packet = false) :
    ∃ io checked, node.stack.io.SameTopology io ∧ checked.id = packet.id ∧
      checked.payload = packet.payload ∧
      ((routeInput node ingress packet).finish.stack.io = routeForward io ingress checked ∨
        dedupApplies node.dedupMode false ∧ (dedupIsDuplicate cfg node.stack.now node.dedup packet).1 ∧
          (routeInput node ingress packet).finish.stack.io = io.free checked) := by
  obtain ⟨pool, promiscQueue, copied⟩ := promiscAdd_fields node.stack.io packet
  refine ⟨{ node.stack.io with pool, promiscQueue }, ?_⟩
  simp only [routeInput, Node.setIo, copied, transit]
  have topology : node.stack.io.SameTopology { node.stack.io with pool, promiscQueue } :=
    ⟨rfl, fun _ => rfl, fun _ => rfl, rfl⟩
  split
  · rename_i applies
    obtain ⟨id, payload⟩ := dedupIsDuplicate_packet cfg node.stack.now node.dedup packet
    generalize dedupIsDuplicate cfg node.stack.now node.dedup packet = result at id payload
    obtain ⟨_ | _, dedup, checked⟩ := result
    · exact ⟨checked, topology, id, payload, .inl rfl⟩
    · exact ⟨checked, topology, id, payload, .inr ⟨applies, rfl, rfl⟩⟩
  · exact ⟨packet, topology, rfl, rfl, .inl rfl⟩

/-! ## Split horizon -/

/-- Split horizon forbids the ingress interface, and the interfaces with an address in its subnet. -/
def splitHorizonForbids (io : Io cfg) (ingress iface : Nat) : Prop :=
  iface = ingress ∨
    iflistIsWithinSubnet cfg (io.ifaceAt iface).addr (some (io.ifaceAt ingress)) = true

/-- In no state of the pool and the drivers the forward uses a forbidden interface. -/
def KeepsSplitHorizon (io : Io cfg) (ingress : Nat) (packet : Packet) : Prop :=
  ∀ other : Io cfg, io.SameTopology other →
    ∀ entry ∈ other.sentSince (routeForward other ingress packet),
      ¬splitHorizonForbids io ingress entry.1

theorem sendsOn_permits {io : Io cfg} {dst : UInt16} {ingress iface : Nat}
    (sends : sendsOn io dst (some ingress) iface = true) : ¬splitHorizonForbids io ingress iface := by
  simp only [sendsOn, Bool.and_eq_true, bne_iff_ne, Bool.not_eq_true', Option.map_some] at sends
  rintro (same | within)
  · exact sends.1.2 (by rw [same])
  · exact absurd (within.symm.trans sends.2) (by simp)

/-- The only packet of a forward by route. -/
theorem routeForward_route {io : Io cfg} {ingress : Nat} {packet : Packet} {route : Route}
    (used : io.usedRoute packet.id.dst (some ingress) = some route) (transmits : io.Transmits) :
    io.sentSince (routeForward io ingress packet) = [(route.iface, route.via, packet)] := by
  apply Io.sentSince_of_append
  have logged : io.SameTopology { io with outbox := io.outbox ++ [(packet.id, packet)] } :=
    ⟨rfl, fun _ => rfl, fun _ => rfl, rfl⟩
  have body := @sendDirectBody_of_route cfg { io with outbox := io.outbox ++ [(packet.id, packet)] }
    packet.id (some packet) (some ingress) route (by rw [logged.usedRoute, used])
  have sent := @sendDirectIface_transmits cfg { io with outbox := io.outbox ++ [(packet.id, packet)] }
    ⟨transmits.mtu, transmits.nexthop⟩ packet.id packet route.iface route.via
  have whole : routeForward io ingress packet = _ := body.trans sent
  rw [whole]

/-- A forward keeps split horizon exactly when no route takes the packet to a forbidden interface.
The subnet lookup checks each interface, and the routing table checks none. -/
theorem routeForward_splitHorizon_iff (io : Io cfg) (ingress : Nat) (packet : Packet) :
    KeepsSplitHorizon io ingress packet ↔
      ∀ route, io.usedRoute packet.id.dst (some ingress) = some route →
        ¬splitHorizonForbids io ingress route.iface := by
  constructor
  · intro keeps route used
    have topology := io.healthy_topology
    have sent := routeForward_route (by rw [topology.usedRoute, used]) io.healthy_transmits
    refine keeps io.healthy topology (route.iface, route.via, packet) ?_
    rw [sent]
    exact List.mem_singleton_self _
  · intro permits other topology entry member
    rcases sendDirect_wire other packet.id packet (some ingress) entry member with
      ⟨_, iface, _, sends, leaves⟩ | ⟨route, used, leaves⟩
    · rw [topology.sendsOn] at sends
      rw [leaves.iface]
      exact sendsOn_permits sends
    · rw [topology.usedRoute] at used
      rw [leaves.iface]
      exact permits route used

/-- A node with one interface on a subnet of 64 addresses and a default route through it. -/
def defaultRouteNode : Node {} :=
  Node.init (Io.init {} (fun _ => default) [subnetIface]
    [{ address := 0, netmask := 0, via := noViaAddress, iface := 1 }]) default

/-- A packet for a node outside of the subnet. -/
def transitPacket : Packet :=
  { (default : Packet) with buf := 100, length := 4, id := { (default : CspId) with src := 5, dst := 300 } }

/-- The router sends the packet back on the interface that it came from. -/
theorem transitPacket_returns :
    isToMe {} subnetIface transitPacket = false ∧
      (defaultRouteNode.stack.io.sentSince
        (routeWork defaultRouteNode (some (1, transitPacket))).stack.io).map Prod.fst = [1] ∧
      ¬KeepsSplitHorizon defaultRouteNode.stack.io 1 transitPacket := by
  refine ⟨by decide +kernel, by decide +kernel, fun keeps => ?_⟩
  have sent : 1 ∈ (defaultRouteNode.stack.io.sentSince
      (routeForward defaultRouteNode.stack.io 1 transitPacket)).map Prod.fst := by decide +kernel
  obtain ⟨entry, member, iface⟩ := List.mem_map.mp sent
  exact keeps defaultRouteNode.stack.io (.refl _) entry member (.inl iface)

/-! ## Source addresses -/

/-- In no state of the pool and the drivers the packet of this node leaves with another source than
the address of the interface. -/
def LeavesWithOwnSource (io : Io cfg) (idout : CspId) (packet : Packet) : Prop :=
  ∀ other : Io cfg, io.SameTopology other →
    ∀ entry ∈ other.sentSince (sendDirect other idout (some packet) none),
      entry.2.2.id.src = (io.ifaceAt entry.1).addr

/-- In no state of the pool and the drivers the forward changes the identifier or the payload. -/
def ForwardsUnchanged (io : Io cfg) (ingress : Nat) (packet : Packet) : Prop :=
  ∀ other : Io cfg, io.SameTopology other →
    ∀ entry ∈ other.sentSince (routeForward other ingress packet),
      entry.2.2.id = packet.id ∧ entry.2.2.payload = packet.payload

/-- The packet of this node leaves through its route with the source that the caller gave. -/
theorem sendDirect_route {io : Io cfg} {idout : CspId} {packet : Packet} {route : Route}
    (used : io.usedRoute idout.dst none = some route) (transmits : io.Transmits)
    (trailers : trailedLength cfg idout packet.length true ≠ none) :
    ∃ trailed, trailed.id = idout ∧
      io.sentSince (sendDirect io idout (some packet) none) = [(route.iface, route.via, trailed)] := by
  obtain ⟨trailed, _, ⟨_, failed⟩ | ⟨result, _⟩⟩ :=
    @sendTrailers_cases cfg idout { packet with id := idout } true
  · exact absurd failed trailers
  refine ⟨trailed, (sendTrailers_fields result).1, ?_⟩
  apply Io.sentSince_of_append
  have logged : io.SameTopology { io with outbox := io.outbox ++ [(idout, packet)] } :=
    ⟨rfl, fun _ => rfl, fun _ => rfl, rfl⟩
  have body := @sendDirectBody_of_route cfg { io with outbox := io.outbox ++ [(idout, packet)] }
    idout (some packet) none route (by rw [logged.usedRoute, used])
  have sent := @sendDirectIface_accepted cfg { io with outbox := io.outbox ++ [(idout, packet)] }
    idout packet trailed route.iface route.via true result (transmits.mtu _)
    (by rw [transmits.nexthop]; simp)
  have whole : sendDirect io idout (some packet) none = _ := body
  rw [whole]
  exact sent

/-- Each interface that the subnet lookup finds transmits a copy with the source rewritten. -/
theorem routeForward_copies {io : Io cfg} {ingress iface : Nat} {packet : Packet}
    (copies : packet.CanBeCopied cfg) (transmits : io.Transmits)
    (buffer : io.pool.buffers.items ≠ []) (member : iface ∈ io.interfaces)
    (sends : sendsOn io packet.id.dst (some ingress) iface = true) :
    ∃ entry ∈ io.sentSince (routeForward io ingress packet),
      entry.2.2.id = { packet.id with src := (io.ifaceAt iface).addr } := by
  have logged : io.SameTopology { io with outbox := io.outbox ++ [(packet.id, packet)] } :=
    ⟨rfl, fun _ => rfl, fun _ => rfl, rfl⟩
  obtain ⟨sent, grows, each⟩ := @sendDirectLoop_transmits cfg
    { io with outbox := io.outbox ++ [(packet.id, packet)] } packet ingress packet.id io.interfaces
    false copies.1 ⟨transmits.mtu, transmits.nexthop⟩ buffer
  have body := @sendDirectBody_of_used cfg
    { io with outbox := io.outbox ++ [(packet.id, packet)] } packet.id (some packet) (some ingress)
    ⟨iface, member, by rw [logged.sendsOn, sends]⟩
  have same : io.sentSince (routeForward io ingress packet) = sent := by
    apply Io.sentSince_of_append
    have whole : routeForward io ingress packet = _ := body
    rw [whole]
    exact grows
  rw [same]
  exact each iface member (by rw [logged.sendsOn, sends])

/-- A packet of this node has the source of its interface exactly when the subnet lookup finds the
interface, or the route happens to use an interface with the address that the packet already has.
A forwarded packet keeps its identifier exactly when the subnet lookup finds no interface with an
address other than the source. -/
theorem source_iff (io : Io cfg) (packet : Packet) :
    (∀ idout, LeavesWithOwnSource io idout packet ↔
        (trailedLength cfg idout packet.length true ≠ none →
          ∀ route, io.usedRoute idout.dst none = some route →
            (io.ifaceAt route.iface).addr = idout.src)) ∧
      ∀ ingress, ForwardsUnchanged io ingress packet ↔
        (packet.CanBeCopied cfg → ∀ iface ∈ io.interfaces,
          sendsOn io packet.id.dst (some ingress) iface = true →
            (io.ifaceAt iface).addr = packet.id.src) := by
  constructor
  · intro idout
    constructor
    · intro own trailers route used
      have topology := io.healthy_topology
      obtain ⟨trailed, id, sent⟩ := sendDirect_route (by rw [topology.usedRoute, used])
        io.healthy_transmits trailers
      have source := own io.healthy topology (route.iface, route.via, trailed)
        (by rw [sent]; exact List.mem_singleton_self _)
      rw [← source, id]
    · intro same other topology entry member
      rcases sendDirect_wire other idout packet none entry member with
        ⟨_, iface, _, _, leaves⟩ | ⟨route, used, leaves⟩
      · rw [leaves.id, leaves.iface, ← topology.addr]
      · rw [topology.usedRoute] at used
        rw [leaves.id, leaves.iface, same leaves.trailers route used]
  · intro ingress
    constructor
    · intro unchanged copies iface member sends
      have topology := io.healthy_topology
      obtain ⟨entry, inside, id⟩ := routeForward_copies copies io.healthy_transmits
        (io.healthy_buffer copies.2) member (by rw [topology.sendsOn, sends])
      have kept := (unchanged io.healthy topology entry inside).1
      rw [id] at kept
      exact congrArg CspId.src kept
    · intro same other topology entry member
      rcases sendDirect_wire other packet.id packet (some ingress) entry member with
        ⟨copies, iface, listed, sends, leaves⟩ | ⟨route, _, leaves⟩
      · rw [topology.sendsOn] at sends
        rw [topology.interfaces] at listed
        refine ⟨?_, leaves.payload rfl⟩
        rw [leaves.id, topology.addr, same copies iface listed sends]
      · exact ⟨leaves.id, leaves.payload rfl⟩

/-- A router between the subnets of the addresses 0 to 63 and 64 to 127. -/
def twoSubnets : Node {} :=
  Node.init (Io.init {} (fun _ => default) [subnetIface, { subnetIface with addr := 65 }] []) default

/-- A packet from the second subnet to the first one. -/
def crossingPacket : Packet :=
  { (default : Packet) with buf := 100, length := 4, id := { (default : CspId) with src := 70, dst := 5 } }

/-- A packet of this node leaves through the default route with source 0, and the router replaces the
source of a packet that it forwards between two subnets. -/
theorem sources_differ :
    ((defaultRouteNode.stack.io.sentSince
        (cspSendto defaultRouteNode.stack.io 2 300 10 20 0 outPacket)).map fun entry =>
          (entry.1, entry.2.2.id.src)) = [(1, 0)] ∧
      ((twoSubnets.stack.io.sentSince
        (routeWork twoSubnets (some (2, crossingPacket))).stack.io).map fun entry =>
          (entry.1, entry.2.2.id.src)) = [(1, 1)] ∧
      ¬LeavesWithOwnSource defaultRouteNode.stack.io { (default : CspId) with dst := 300 } outPacket ∧
      ¬ForwardsUnchanged twoSubnets.stack.io 2 crossingPacket := by
  refine ⟨by decide +kernel, by decide +kernel, fun own => ?_, fun unchanged => ?_⟩
  · have sent : (1, 0) ∈ (defaultRouteNode.stack.io.sentSince
        (sendDirect defaultRouteNode.stack.io { (default : CspId) with dst := 300 } (some outPacket)
          none)).map fun entry => (entry.1, entry.2.2.id.src) := by decide +kernel
    obtain ⟨entry, member, same⟩ := List.mem_map.mp sent
    obtain ⟨iface, source⟩ := Prod.mk.inj same
    have own := own defaultRouteNode.stack.io (.refl _) entry member
    rw [source, iface] at own
    exact absurd own (by decide +kernel)
  · have sent : 1 ∈ (twoSubnets.stack.io.sentSince
        (routeForward twoSubnets.stack.io 2 crossingPacket)).map fun entry =>
          entry.2.2.id.src := by decide +kernel
    obtain ⟨entry, member, source⟩ := List.mem_map.mp sent
    have kept := (unchanged twoSubnets.stack.io (.refl _) entry member).1
    rw [kept] at source
    exact absurd source (by decide)

end Libcsp

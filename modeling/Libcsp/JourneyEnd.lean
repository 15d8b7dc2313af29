/-
This file shows that a packet arrives over healthy routers, when each way leads to a node that it is for.
-/
import Libcsp.Bridge
import Libcsp.Journey

namespace Libcsp

variable {cfg : Config}

/-! ## A healthy router -/

/-- The interfaces of the list and of the routes. -/
def Io.ports (io : Io cfg) : List Nat := io.interfaces ++ io.rtable.map Route.iface

/-- The interfaces take packets of this length. -/
def Io.Takes (io : Io cfg) (length : UInt16) : Prop := ∀ iface ∈ io.ports, (io.ifaceAt iface).Takes length

theorem rtableSearch_mem {addr : UInt16} {best : Option Route} {mask : UInt16} {routes : List Route} {route : Route}
    (found : rtableSearch cfg addr best mask routes = some route) : best = some route ∨ route ∈ routes := by
  induction routes generalizing best mask with
  | nil => exact .inl found
  | cons head rest ih =>
      rw [rtableSearch] at found
      split at found
      · rcases ih found with same | member
        · exact .inr (Option.some.inj same ▸ List.mem_cons_self)
        · exact .inr (List.mem_cons_of_mem _ member)
      · exact (ih found).imp_right (List.mem_cons_of_mem _)

/-- The interface of a used route is a port. -/
theorem Io.usedRoute_port {io : Io cfg} {dst : UInt16} {routedFrom : Option Nat} {route : Route}
    (used : io.usedRoute dst routedFrom = some route) : route.iface ∈ io.ports := by
  rw [Io.usedRoute] at used
  split at used
  · cases used
  · have member := (rtableSearch_mem used).resolve_left (by simp)
    exact List.mem_append_right _ (List.mem_map_of_mem member)

/-- The interface transmits a forwarded packet. -/
theorem Io.Takes.transmits {io : Io cfg} {packet : Packet} (takes : io.Takes packet.length) (idout : CspId)
    {iface : Nat} (port : iface ∈ io.ports) (via : UInt16) :
    (sendDirectIface io idout (some packet) iface via false).wire.length = io.wire.length + 1 := by
  have adds := sendDirectIface_adds io { packet with id := idout } iface via
  have sent := adds.sends.resolve_right fun silent => silent.2 (takes iface port)
  have length := congrArg List.length sent
  rw [List.length_append, Io.outgoing, Io.outgoing, List.length_map, List.length_map] at length
  exact length

/-- The loop transmits on the first interface that it picks. -/
theorem Io.Takes.loop {io : Io cfg} {packet : Packet} (takes : io.Takes packet.length)
    (fits : packet.length.toNat ≤ cfg.bufferSize) (buffer : io.pool.buffers.items ≠ []) (idout : CspId) (ingress : Nat)
    {ifaces : List Nat} (listed : ifaces ⊆ io.interfaces) (found : Bool)
    (picks : ∃ iface ∈ ifaces, sendsOn io idout.dst (some ingress) iface = true) :
    io.wire.length < (sendDirectLoop idout (some packet) (some ingress) ifaces (found, io)).2.wire.length := by
  induction ifaces generalizing found with
  | nil => simp at picks
  | cons head rest ih =>
      by_cases sends : sendsOn io idout.dst (some ingress) head = true
      · obtain ⟨-, large | empty⟩ | ⟨first, others, -, -, got⟩ := bufferGet_cases io.pool packet.length.toNat
        · omega
        · exact absurd empty buffer
        have cloned := bufferClone_some io.pool packet
        rw [got] at cloned
        simp only [sendDirectLoop, if_pos sends, cloned, Option.map_some, Option.isNone_some]
        obtain ⟨sent, grows, -⟩ := sendDirectLoop_wire idout packet (some ingress) rest true
          (sendDirectIface { io with pool := ⟨others, Function.update io.pool.refcount first.buf 1⟩ }
            { idout with src := (io.ifaceAt head).addr } (some { packet with buf := first.buf }) head noViaAddress false)
        have once := @Io.Takes.transmits cfg
          { io with pool := ⟨others, Function.update io.pool.refcount first.buf 1⟩ } { packet with buf := first.buf }
          takes { idout with src := (io.ifaceAt head).addr } head
          (List.mem_append_left _ (listed List.mem_cons_self)) noViaAddress
        rw [grows, List.length_append, once]
        simp only
        omega
      · simp only [sendDirectLoop, if_neg sends]
        apply ih (List.Subset.trans (List.subset_cons_self head rest) listed)
        obtain ⟨iface, member, picked⟩ := picks
        rcases List.mem_cons.mp member with rfl | member
        · exact absurd picked sends
        · exact ⟨iface, member, picked⟩

/-- A packet with an exit leaves. -/
theorem Io.Takes.forwards {io : Io cfg} {packet : Packet} (takes : io.Takes packet.length)
    (fits : packet.length.toNat ≤ cfg.bufferSize) (buffer : io.pool.buffers.items ≠ []) {ingress : Nat}
    (exits : io.exits packet.id.dst ingress ≠ []) : io.sentSince (routeForward io ingress packet) ≠ [] := by
  let logged : Io cfg := { io with outbox := io.outbox ++ [(packet.id, packet)] }
  have topology : io.SameTopology logged := ⟨rfl, fun _ => rfl, fun _ => rfl, rfl⟩
  have taken : logged.Takes packet.length := takes
  have body : routeForward io ingress packet = sendDirectBody logged packet.id (some packet) (some ingress) := rfl
  have more : io.wire.length < (routeForward io ingress packet).wire.length := by
    rw [body]
    by_cases used : logged.reachesDirectly packet.id.dst (some ingress)
    · rw [sendDirectBody_of_used packet.id (some packet) (some ingress) used]
      exact taken.loop fits buffer packet.id ingress (List.Subset.refl _) false used
    · cases route : logged.usedRoute packet.id.dst (some ingress) with
      | some route' =>
          rw [sendDirectBody_of_route (some packet) route]
          have once := taken.transmits packet.id (Io.usedRoute_port route) route'.via
          simp only [Option.isNone_some]
          rw [once]
          exact Nat.lt_succ_self _
      | none =>
          refine absurd ?_ exits
          have silent : io.interfaces.filter (sendsOn io packet.id.dst (some ingress)) = [] := by
            refine List.filter_eq_nil_iff.mpr fun iface member sends => used ⟨iface, member, ?_⟩
            rwa [topology.sendsOn]
          rw [Io.exits, silent, ← topology.usedRoute, route]
          rfl
  rw [Io.sentSince]
  intro none
  have bound := List.drop_eq_nil_iff.mp none
  omega

/-- The router has a buffer for a copy, takes the packet for no duplicate, and its interfaces take it. -/
structure Node.Healthy (node : Node cfg) (packet : Packet) : Prop where
  takes : node.stack.io.Takes packet.length
  fits : packet.length.toNat ≤ cfg.bufferSize
  buffer : (promiscAdd node.stack.io packet).pool.buffers.items ≠ []
  fresh : dedupApplies node.dedupMode false = true →
    (dedupIsDuplicate cfg node.stack.now node.dedup packet).1 = false

theorem Node.Healthy.sends {node : Node cfg} {packet : Packet} (healthy : node.Healthy packet) {ingress : Nat}
    (transit : isToMe cfg (node.stack.io.ifaceAt ingress) packet = false)
    (exits : node.stack.io.exits packet.id.dst ingress ≠ []) :
    node.stack.io.sentSince (routeInput node ingress packet).finish.stack.io ≠ [] := by
  obtain ⟨pool, promiscQueue, copied⟩ := promiscAdd_fields node.stack.io packet
  have buffer := healthy.buffer
  rw [copied] at buffer
  let io : Io cfg := { node.stack.io with pool, promiscQueue }
  have topology : node.stack.io.SameTopology io := ⟨rfl, fun _ => rfl, fun _ => rfl, rfl⟩
  have forwarded : ∃ checked : Packet, checked.id = packet.id ∧ checked.payload = packet.payload ∧
      (routeInput node ingress packet).finish.stack.io = routeForward io ingress checked := by
    have fresh := healthy.fresh
    simp only [routeInput, Node.setIo, copied, transit]
    split
    · rename_i applies
      have new := fresh applies
      obtain ⟨id, payload⟩ := dedupIsDuplicate_packet cfg node.stack.now node.dedup packet
      generalize dedupIsDuplicate cfg node.stack.now node.dedup packet = result at id payload new
      obtain ⟨duplicate, dedup, checked⟩ := result
      obtain rfl : duplicate = false := new
      exact ⟨checked, id, payload, rfl⟩
    · exact ⟨packet, rfl, rfl, rfl⟩
  obtain ⟨checked, id, payload, forwards⟩ := forwarded
  have length := Packet.length_of_payload payload
  have taken : io.Takes checked.length := by
    rw [length]
    exact healthy.takes
  have leaves := taken.forwards (length ▸ healthy.fits) buffer (by rw [id, topology.exits]; exact exits)
  rw [forwards]
  exact leaves

/-! ## The arrival -/

/-- Each way of a packet with the destination leads to a node that it is for, over at most so many routers. -/
def Layout.Leads (layout : Layout cfg) (dst : UInt16) : Nat → Stop → Prop
  | 0, stop => layout.isLocal dst stop = true
  | hops + 1, stop => layout.isLocal dst stop = true ∨
      (layout.io stop.node).exits dst stop.iface ≠ [] ∧
        ∀ entry : WireEntry, entry.2.2.id.dst = dst → entry.1 ∈ (layout.io stop.node).exits dst stop.iface →
          ∃ next ∈ layout.hears stop.node entry, Leads layout dst hops next

/-- The router is healthy when it takes the packet, and no link loses one. -/
def TrafficInput.Healthy : TrafficInput cfg → Prop
  | .route _ node packet => node.Healthy packet
  | .lose _ => False

/-- The runs of a network in which everything works. -/
def Layout.healthy (layout : Layout cfg) : Machine Traffic (TrafficInput cfg) :=
  layout.machine.restrict fun _ input => input.Healthy

variable {layout : Layout cfg} {sent : List Flight} {traffic : Traffic} {flight : Flight} {node : Node cfg}
  {packet : Packet}

/-- A healthy router sends a packet on to a stop that leads to its destination. -/
theorem Layout.onward_leads {hops : Nat} (leads : layout.Leads flight.id.dst hops flight.stop)
    (same : (layout.io flight.stop.node).SameTopology node.stack.io) (id : packet.id = flight.id)
    (payload : packet.payload = flight.payload) (transit : layout.isLocal flight.id.dst flight.stop = false)
    (healthy : node.Healthy packet) :
    ∃ after ∈ layout.onward flight node packet, after.Carries layout flight ∧
      ∃ fewer, layout.Leads after.id.dst fewer after.stop := by
  cases hops with
  | zero => exact absurd (leads.symm.trans transit) Bool.noConfusion
  | succ fewer =>
      obtain ⟨exits, ways⟩ := leads.resolve_left (by rw [transit]; exact Bool.false_ne_true)
      have foreign := (Layout.isToMe_eq same id).trans transit
      rw [← same.exits, ← id] at exits
      obtain ⟨entry, inside⟩ := List.exists_mem_of_ne_nil _ (healthy.sends foreign exits)
      obtain ⟨way, -, header⟩ := (routeInput_sent foreign).2 entry inside
      have dst : entry.2.2.id.dst = flight.id.dst := by
        rw [← id]
        rcases header with header | header <;> rw [header]
      rw [same.exits, id] at way
      obtain ⟨next, heard, leads⟩ := ways entry dst way
      have member : (⟨next, entry.2.2.id, entry.2.2.payload, flight.number, flight.hops + 1⟩ : Flight) ∈
          layout.onward flight node packet :=
        List.mem_flatMap.mpr ⟨entry, inside, List.mem_map.mpr ⟨next, heard, rfl⟩⟩
      exact ⟨_, member, (Layout.onward_forwards same id payload transit member).2.2, fewer, by rwa [dst]⟩

/-- Each packet of a sender has arrived, or it is on a way that leads to its destination. -/
def Traffic.Keeps (layout : Layout cfg) (sent : List Flight) (traffic : Traffic) : Prop :=
  ∀ origin ∈ sent, ∃ flight, flight.Carries layout origin ∧
    (flight ∈ traffic.arrived ∨ flight ∈ traffic.air ∧ ∃ hops, layout.Leads flight.id.dst hops flight.stop)

theorem Traffic.Keeps.step (keeps : traffic.Keeps layout sent) (input : TrafficInput cfg)
    (allowed : layout.healthy.allowed traffic input) : (layout.step traffic input).Keeps layout sent := by
  obtain ⟨allowed, healthy⟩ := allowed
  cases input with
  | lose index => exact healthy.elim
  | route index node packet =>
      obtain ⟨flight, found, same, id, payload⟩ := allowed
      have toMe := Layout.isToMe_eq same id
      obtain ⟨inside, taken⟩ := List.getElem?_eq_some_iff.mp found
      have perm := List.getElem_cons_eraseIdx_perm inside
      rw [taken] at perm
      intro origin known
      obtain ⟨last, carries, stop⟩ := keeps origin known
      cases own : layout.isLocal flight.id.dst flight.stop with
      | true =>
          have stepped : layout.step traffic (.route index node packet) =
              { air := traffic.air.eraseIdx index, arrived := traffic.arrived ++ [flight] } := by
            simp only [Layout.step, found, toMe, own, if_true]
          rw [stepped]
          refine ⟨last, carries, ?_⟩
          rcases stop with arrived | ⟨flying, leads⟩
          · exact .inl (List.mem_append_left _ arrived)
          · rcases List.mem_cons.mp (perm.mem_iff.mpr flying) with rfl | later
            · exact .inl (List.mem_append_right _ (List.mem_singleton_self _))
            · exact .inr ⟨later, leads⟩
      | false =>
          have stepped : layout.step traffic (.route index node packet) =
              { traffic with air := traffic.air.eraseIdx index ++ layout.onward flight node packet } := by
            simp only [Layout.step, found, toMe, own, Bool.false_eq_true, if_false]
          rw [stepped]
          rcases stop with arrived | ⟨flying, hops, leads⟩
          · exact ⟨last, carries, .inl arrived⟩
          · rcases List.mem_cons.mp (perm.mem_iff.mpr flying) with rfl | later
            · obtain ⟨after, member, carried, leads⟩ := Layout.onward_leads leads same id payload own healthy
              exact ⟨after, carried.trans carries, .inr ⟨List.mem_append_right _ member, leads⟩⟩
            · exact ⟨last, carries, .inr ⟨List.mem_append_left _ later, hops, leads⟩⟩

theorem Layout.healthy_keeps (leads : ∀ flight ∈ sent, ∃ hops, layout.Leads flight.id.dst hops flight.stop)
    (inputs : List (TrafficInput cfg)) (allowed : layout.healthy.Allows { air := sent, arrived := [] } inputs) :
    (layout.healthy.trace { air := sent, arrived := [] } inputs).Keeps layout sent := by
  apply @Machine.trace_invariant _ _ layout.healthy fun _ => Traffic.Keeps layout sent
  · exact fun origin known => ⟨origin, .refl layout origin, .inr ⟨known, leads origin known⟩⟩
  · exact fun _ state input _ keeps allowed => keeps.step input allowed
  · exact allowed

/-! ## The way to the arrival -/

/-- The packet in a buffer of the receiver. -/
def Flight.received (flight : Flight) : Packet :=
  { (default : Packet) with
    length := UInt16.ofNat flight.payload.length
    id := flight.id
    mem := writeBytes (fun _ => 0) dataAt flight.payload }

theorem Flight.received_length (fits : flight.payload.length ≤ cfg.bufferSize) :
    flight.received.length.toNat = flight.payload.length := by
  have small := cfg.bufferSize_lt
  have range : UInt16.size = 2 ^ 16 := rfl
  exact UInt16.toNat_ofNat_of_lt' (by omega)

theorem Flight.received_payload (fits : flight.payload.length ≤ cfg.bufferSize) :
    flight.received.payload = flight.payload := by
  rw [Packet.payload, Packet.dataBytes, Flight.received_length fits]
  exact writeBytes_map (fun _ => 0) dataAt flight.payload

/-- A node with this topology, whose interfaces transmit everything. -/
def Layout.router (layout : Layout cfg) (node : Nat) : Node cfg := Node.init (layout.io node).healthy default

theorem Layout.router_healthy (layout : Layout cfg) (node : Nat) (buffers : 0 < cfg.bufferCount)
    (fits : flight.payload.length ≤ cfg.bufferSize) : (layout.router node).Healthy flight.received where
  takes _ _ := ⟨.inl rfl, nofun⟩
  fits := by rwa [Flight.received_length fits]
  buffer := (layout.io node).healthy_buffer buffers
  fresh applies := absurd applies Bool.false_ne_true

/-- A healthy network can always take the next packet. -/
theorem Layout.healthy_next (layout : Layout cfg) (buffers : 0 < cfg.bufferCount) {rest : List Flight}
    (first : traffic.air = flight :: rest) (fits : flight.payload.length ≤ cfg.bufferSize) :
    layout.healthy.allowed traffic (.route 0 (layout.router flight.stop.node) flight.received) := by
  refine ⟨⟨flight, by rw [first]; rfl, (layout.io flight.stop.node).healthy_topology, rfl,
    Flight.received_payload fits⟩, layout.router_healthy _ buffers fits⟩

/-- The network can go on until no packet is on its way. -/
theorem Traffic.Bounded.lands {limit ports ears : Nat} (bounded : traffic.Bounded layout sent limit)
    (sparse : layout.Sparse ports ears) (buffers : 0 < cfg.bufferCount)
    (fits : ∀ flight ∈ sent, flight.payload.length ≤ cfg.bufferSize) :
    ∃ more, layout.healthy.Allows traffic more ∧ (layout.healthy.trace traffic more).air = [] := by
  induction left : traffic.work (ports * ears) limit using Nat.strong_induction_on generalizing traffic with
  | _ work ih =>
      cases first : traffic.air with
      | nil => exact ⟨[], trivial, first⟩
      | cons flight rest =>
          have member : flight ∈ traffic.air ++ traffic.arrived := by
            rw [first]
            exact List.mem_append_left _ List.mem_cons_self
          obtain ⟨origin, known, carries⟩ := bounded.carries flight member
          have allowed := layout.healthy_next buffers first (by rw [carries.payload]; exact fits origin known)
          have less := bounded.work_step sparse _ allowed.1
          obtain ⟨more, allows, landed⟩ := ih _ (left ▸ less) (bounded.step _ allowed.1) rfl
          exact ⟨_ :: more, ⟨allowed, allows⟩, landed⟩

/-- Where each way leads to a node that the packet is for, and everything works, the network brings each packet to such a
node, whatever the order of the routers so far: it can go on, only a bounded number of times, until no packet is on its
way, and then all packets of the senders have arrived. -/
theorem journeys_arrive {limit ports ears : Nat} (starts : layout.Starts sent limit) (sparse : layout.Sparse ports ears)
    (leads : ∀ flight ∈ sent, ∃ hops, layout.Leads flight.id.dst hops flight.stop) (buffers : 0 < cfg.bufferCount)
    (fits : ∀ flight ∈ sent, flight.payload.length ≤ cfg.bufferSize) (inputs : List (TrafficInput cfg))
    (allowed : layout.healthy.Allows { air := sent, arrived := [] } inputs) :
    (∃ more, layout.healthy.Allows { air := sent, arrived := [] } (inputs ++ more) ∧
        (layout.healthy.trace { air := sent, arrived := [] } (inputs ++ more)).air = []) ∧
      ((layout.healthy.trace { air := sent, arrived := [] } inputs).air = [] →
        ∀ origin ∈ sent, ∃ flight ∈ (layout.healthy.trace { air := sent, arrived := [] } inputs).arrived,
          flight.Carries layout origin ∧ layout.isLocal origin.id.dst flight.stop = true) := by
  have bounded : (layout.healthy.trace { air := sent, arrived := [] } inputs).Bounded layout sent limit := by
    apply @Machine.trace_invariant _ _ layout.healthy fun _ => Traffic.Bounded layout sent limit
    · exact starts.bounded
    · exact fun _ state input _ bounded allowed => bounded.step input allowed.1
    · exact allowed
  constructor
  · obtain ⟨more, allows, landed⟩ := bounded.lands sparse buffers fits
    refine ⟨more, (Machine.allows_append _ _ _ _).mpr ⟨allowed, allows⟩, ?_⟩
    rwa [Machine.trace_append]
  · intro landed origin known
    obtain ⟨flight, carries, arrived | ⟨flying, -⟩⟩ := Layout.healthy_keeps leads inputs allowed origin known
    · exact ⟨flight, arrived, carries, carries.dst ▸ bounded.own flight arrived⟩
    · rw [landed] at flying
      simp at flying

theorem lineLayout_leads : lineLayout.Leads 130 2 ⟨1, 1⟩ := by
  refine .inr ⟨by rw [lineLayout_exits.1]; exact List.cons_ne_nil _ _, fun entry _ exit => ⟨⟨2, 1⟩, ?_, .inr ?_⟩⟩
  · rw [lineLayout_exits.1, List.mem_singleton] at exit
    simp [lineLayout, exit]
  · refine ⟨by rw [lineLayout_exits.2]; exact List.cons_ne_nil _ _, fun entry _ exit => ⟨⟨3, 1⟩, ?_, rfl⟩⟩
    rw [lineLayout_exits.2, List.mem_singleton] at exit
    simp [lineLayout, exit]

/-- The interfaces of a new node take each packet when they have no MTU and no error. -/
theorem Io.init_takes {content : Nat → Packet} {ifaces : List Iface} {rtable : List Route}
    (plain : ∀ iface ∈ ifaces, iface.mtu = 0 ∧ ∀ count, iface.nexthop count ≠ .error)
    (routes : ∀ route ∈ rtable, route.iface ≤ ifaces.length) (length : UInt16) :
    (Io.init cfg content ifaces rtable).Takes length := by
  intro iface member
  have inside : iface < (loopback cfg :: ifaces).length := by
    rw [List.length_cons]
    rcases List.mem_append.mp member with listed | routed
    · exact List.mem_range.mp listed
    · obtain ⟨route, known, rfl⟩ := List.mem_map.mp routed
      exact Nat.lt_succ_of_le (routes route known)
  have found : (Io.init cfg content ifaces rtable).ifaceAt iface = (loopback cfg :: ifaces)[iface] :=
    List.getD_eq_getElem _ _ inside
  rw [found]
  rcases List.mem_cons.mp (List.getElem_mem inside) with same | member
  · rw [same]
    exact ⟨.inl rfl, nofun⟩
  · exact ⟨.inl (plain _ member).1, (plain _ member).2⟩

theorem Node.init_healthy {ifaces : List Iface} {rtable : List Route}
    (plain : ∀ iface ∈ ifaces, iface.mtu = 0 ∧ ∀ count, iface.nexthop count ≠ .error)
    (routes : ∀ route ∈ rtable, route.iface ≤ ifaces.length) {packet : Packet}
    (fits : packet.length.toNat ≤ cfg.bufferSize) (buffers : 0 < cfg.bufferCount) :
    (Node.init (Io.init cfg (fun _ => default) ifaces rtable) default).Healthy packet where
  takes := Io.init_takes plain routes packet.length
  fits := fits
  buffer := by
    change (bufferInit cfg fun _ => default).buffers.items ≠ []
    simp only [bufferInit, ne_eq, List.map_eq_nil_iff, List.range_eq_nil]
    omega
  fresh applies := absurd applies Bool.false_ne_true

theorem lineNode_healthy (node : Nat) {packet : Packet} (fits : packet.length.toNat ≤ 256) :
    (lineNode node).Healthy packet := by
  unfold lineNode
  split <;> exact Node.init_healthy (by simp [subnetIface]) (by simp) fits (by decide)

theorem lineInputs_healthy : lineLayout.healthy.Allows { air := [lineFlight], arrived := [] } lineInputs := by
  obtain ⟨first, second, third, -⟩ := lineInputs_allowed
  exact ⟨⟨first, lineNode_healthy 1 (by decide)⟩, ⟨second, lineNode_healthy 2 (by decide)⟩,
    ⟨third, lineNode_healthy 3 (by decide)⟩, trivial⟩

/-- The packet of node 5 arrives at node 130. -/
theorem lineJourney_arrives :
    ∃ flight ∈ (lineLayout.healthy.trace { air := [lineFlight], arrived := [] } lineInputs).arrived,
      flight.Carries lineLayout lineFlight ∧ lineLayout.isLocal 130 flight.stop = true := by
  have starts : lineLayout.Starts [lineFlight] 2 :=
    ⟨fun flight member => List.mem_singleton.mp member ▸ rfl,
      fun flight member => List.mem_singleton.mp member ▸ lineLayout_ends⟩
  have leads : ∀ flight ∈ [lineFlight], ∃ hops, lineLayout.Leads flight.id.dst hops flight.stop :=
    fun flight member => ⟨2, List.mem_singleton.mp member ▸ lineLayout_leads⟩
  exact (journeys_arrive starts lineLayout_sparse leads (by decide)
    (fun flight member => List.mem_singleton.mp member ▸ by decide) lineInputs lineInputs_healthy).2 rfl lineFlight
    (List.mem_singleton_self _)

end Libcsp

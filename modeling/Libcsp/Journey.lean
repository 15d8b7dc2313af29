/-
This file follows packets over several routers, and bounds their journeys.
-/
import Libcsp.Forwarding
import Libcsp.Lib.Spread
import Libcsp.Lib.Transition

namespace Libcsp

variable {cfg : Config}

/-! ## Transmissions of one router call -/

/-- A call of `csp_send_direct_iface` transmits at most once. -/
theorem sendDirectIface_wire_length (io : Io cfg) (idout : CspId) (packet : Option Packet) (iface : Nat) (via : UInt16)
    (fromMe : Bool) : (sendDirectIface io idout packet iface via fromMe).wire.length ≤ io.wire.length + 1 := by
  cases packet with
  | none => exact Nat.le_succ _
  | some packet =>
      obtain ⟨pool, promiscQueue, same⟩ := promiscAdd_fields io { packet with id := idout }
      simp only [sendDirectIface, same, callNexthop]
      repeat' split
      all_goals simp [Io.free, Io.countCall]

theorem sendDirectLoop_wire_length (idout : CspId) (packet : Option Packet) (routedFrom : Option Nat)
    (ifaces : List Nat) (found : Bool) (io : Io cfg) :
    (sendDirectLoop idout packet routedFrom ifaces (found, io)).2.wire.length ≤ io.wire.length + ifaces.length := by
  induction ifaces generalizing found io with
  | nil => exact Nat.le_refl _
  | cons iface rest ih =>
      simp only [sendDirectLoop]
      split
      · refine (ih _ _).trans ?_
        have once := sendDirectIface_wire_length { io with pool := (bufferClone io.pool packet).2 }
          { idout with src := (io.ifaceAt iface).addr } (bufferClone io.pool packet).1 iface noViaAddress
          routedFrom.isNone
        rw [List.length_cons]
        simp only at once ⊢
        omega
      · refine (ih _ _).trans ?_
        rw [List.length_cons]
        omega

/-- A packet leaves on each interface of a subnet, or once on its route. -/
theorem sendDirect_sent_length (io : Io cfg) (idout : CspId) (packet : Packet) (routedFrom : Option Nat) :
    (io.sentSince (sendDirect io idout (some packet) routedFrom)).length ≤ max 1 io.interfaces.length := by
  rw [Io.sentSince, List.length_drop]
  let logged : Io cfg := { io with outbox := io.outbox ++ [(idout, packet)] }
  have body : sendDirect io idout (some packet) routedFrom = sendDirectBody logged idout (some packet) routedFrom := rfl
  rw [body]
  by_cases used : logged.reachesDirectly idout.dst routedFrom
  · rw [sendDirectBody_of_used idout (some packet) routedFrom used]
    have sent := sendDirectLoop_wire_length idout (some packet) routedFrom logged.interfaces false logged
    have bound := Nat.le_max_right 1 io.interfaces.length
    simp only [logged] at sent ⊢
    omega
  · have bound := Nat.le_max_left 1 io.interfaces.length
    cases found : logged.usedRoute idout.dst routedFrom with
    | none =>
        rw [sendDirectBody_of_noRoute (some packet) used found]
        simp only [logged]
        omega
    | some route =>
        rw [sendDirectBody_of_route (some packet) found]
        have sent := sendDirectIface_wire_length logged idout (some packet) route.iface route.via routedFrom.isNone
        simp only [logged] at sent ⊢
        omega

/-! ## One hop -/

/-- The router forwards a packet for another node, or frees it as a duplicate. -/
theorem routeInput_transit {node : Node cfg} {ingress : Nat} {packet : Packet}
    (transit : isToMe cfg (node.stack.io.ifaceAt ingress) packet = false) :
    ∃ pool promiscQueue checked, checked.id = packet.id ∧ checked.payload = packet.payload ∧
      ((routeInput node ingress packet).finish.stack.io =
          routeForward { node.stack.io with pool, promiscQueue } ingress checked ∨
        (routeInput node ingress packet).finish.stack.io =
          Io.free { node.stack.io with pool, promiscQueue } checked) := by
  obtain ⟨pool, promiscQueue, copied⟩ := promiscAdd_fields node.stack.io packet
  refine ⟨pool, promiscQueue, ?_⟩
  simp only [routeInput, Node.setIo, copied, transit]
  split
  · obtain ⟨id, payload⟩ := dedupIsDuplicate_packet cfg node.stack.now node.dedup packet
    generalize dedupIsDuplicate cfg node.stack.now node.dedup packet = result at id payload
    obtain ⟨_ | _, dedup, checked⟩ := result
    · exact ⟨checked, id, payload, .inl rfl⟩
    · exact ⟨checked, id, payload, .inr rfl⟩
  · exact ⟨packet, rfl, rfl, .inl rfl⟩

/-- The interfaces that forward a packet for the destination from the ingress interface. -/
def Io.exits (io : Io cfg) (dst : UInt16) (ingress : Nat) : List Nat :=
  io.interfaces.filter (sendsOn io dst (some ingress)) ++
    (io.usedRoute dst (some ingress)).toList.map Route.iface

theorem Io.SameTopology.exits {first second : Io cfg} (same : first.SameTopology second) (dst : UInt16)
    (ingress : Nat) : second.exits dst ingress = first.exits dst ingress := by
  have sends : Libcsp.sendsOn second dst (some ingress) = Libcsp.sendsOn first dst (some ingress) :=
    funext fun iface => same.sendsOn dst (some ingress) iface
  rw [Io.exits, Io.exits, same.interfaces, sends, same.usedRoute]

/-- A forwarded packet leaves on one of the exits with its payload, and with its header up to the source. -/
theorem routeInput_sent {node : Node cfg} {ingress : Nat} {packet : Packet}
    (transit : isToMe cfg (node.stack.io.ifaceAt ingress) packet = false) :
    let sent := node.stack.io.sentSince (routeInput node ingress packet).finish.stack.io
    sent.length ≤ max 1 node.stack.io.interfaces.length ∧
      ∀ entry ∈ sent, entry.1 ∈ node.stack.io.exits packet.id.dst ingress ∧
        entry.2.2.payload = packet.payload ∧
        (entry.2.2.id = packet.id ∨ entry.2.2.id = { packet.id with src := (node.stack.io.ifaceAt entry.1).addr }) := by
  obtain ⟨pool, promiscQueue, checked, id, payload, forwards | drops⟩ := routeInput_transit transit
  · intro sent
    let io : Io cfg := { node.stack.io with pool, promiscQueue }
    have topology : node.stack.io.SameTopology io := ⟨rfl, fun _ => rfl, fun _ => rfl, rfl⟩
    have same : sent = io.sentSince (sendDirect io checked.id (some checked) (some ingress)) := by
      simp only [sent]
      rw [forwards]
      rfl
    rw [same]
    refine ⟨sendDirect_sent_length io checked.id checked (some ingress), fun entry member => ?_⟩
    rw [← id, ← payload]
    rcases sendDirect_wire io checked.id checked (some ingress) entry member with
      ⟨-, iface, listed, sends, leaves⟩ | ⟨route, used, leaves⟩
    · rw [topology.sendsOn] at sends
      refine ⟨List.mem_append_left _ (List.mem_filter.mpr ⟨leaves.iface ▸ listed, leaves.iface ▸ sends⟩),
        leaves.payload rfl, .inr ?_⟩
      rw [leaves.id, leaves.iface]
    · rw [topology.usedRoute] at used
      refine ⟨List.mem_append_right _ (List.mem_map.mpr ⟨route, ?_, leaves.iface.symm⟩), leaves.payload rfl,
        .inl leaves.id⟩
      rw [used]
      exact List.mem_singleton_self _
  · intro sent
    have silent : sent = [] := by
      simp only [sent]
      rw [drops]
      exact List.drop_eq_nil_of_le (Nat.le_refl _)
    rw [silent]
    exact ⟨Nat.zero_le _, by simp⟩

/-! ## The network -/

/-- Packets arrive at an interface of a node. -/
structure Stop where
  node : Nat
  iface : Nat

/-- A packet on its way to the router of a node. The history has the number of the packet that its sender sent, and the
routers that forwarded it. -/
structure Flight where
  stop : Stop
  id : CspId
  payload : List UInt8
  number : Nat
  hops : Nat

/-- The topology of each node, and the stops that hear a transmission of it. -/
structure Layout (cfg : Config) where
  io : Nat → Io cfg
  hears : Nat → WireEntry → List Stop

/-- The packets on their way, and the packets at a node that they are for. -/
structure Traffic where
  air : List Flight
  arrived : List Flight

inductive TrafficInput (cfg : Config) where
  /-- The router of a node takes the packet from its queue. -/
  | route (index : Nat) (node : Node cfg) (packet : Packet)
  /-- The link or the receiver loses the packet. -/
  | lose (index : Nat)

namespace Layout

variable (layout : Layout cfg)

/-- What the other nodes hear from the router call. -/
def onward (flight : Flight) (node : Node cfg) (packet : Packet) : List Flight :=
  (node.stack.io.sentSince (routeInput node flight.stop.iface packet).finish.stack.io).flatMap fun entry =>
    (layout.hears flight.stop.node entry).map fun stop =>
      ⟨stop, entry.2.2.id, entry.2.2.payload, flight.number, flight.hops + 1⟩

/-- A packet for the node stays there. Each other packet goes on. -/
def step (traffic : Traffic) : TrafficInput cfg → Traffic
  | .route index node packet =>
      match traffic.air[index]? with
      | none => traffic
      | some flight =>
          if isToMe cfg (node.stack.io.ifaceAt flight.stop.iface) packet then
            { air := traffic.air.eraseIdx index, arrived := traffic.arrived ++ [flight] }
          else { traffic with air := traffic.air.eraseIdx index ++ layout.onward flight node packet }
  | .lose index => { traffic with air := traffic.air.eraseIdx index }

/-- The routers take the packets in any order. The node may have done anything before, but it has its interfaces and
routes. -/
def machine : Machine Traffic (TrafficInput cfg) where
  initial traffic := traffic.arrived = []
  step := layout.step
  allowed traffic
    | .route index node packet => ∃ flight, traffic.air[index]? = some flight ∧
        (layout.io flight.stop.node).SameTopology node.stack.io ∧ packet.id = flight.id ∧
        packet.payload = flight.payload
    | .lose index => index < traffic.air.length

/-- The router at the stop takes a packet with the destination for its own. -/
def isLocal (dst : UInt16) (stop : Stop) : Bool :=
  let iface := (layout.io stop.node).ifaceAt stop.iface
  iface.addr == dst || idIsBroadcast cfg dst iface.netmask

/-- A router may forward a packet with the destination from one stop to the next. -/
def Forwards (dst : UInt16) (stop next : Stop) : Prop :=
  layout.isLocal dst stop = false ∧ ∃ entry : WireEntry, entry.2.2.id.dst = dst ∧
    entry.1 ∈ (layout.io stop.node).exits dst stop.iface ∧ next ∈ layout.hears stop.node entry

/-- Each way of a packet with the destination ends after at most so many routers. -/
def Ends (dst : UInt16) : Nat → Stop → Prop
  | 0, stop => ∀ next, ¬layout.Forwards dst stop next
  | hops + 1, stop => ∀ next, layout.Forwards dst stop next → Ends dst hops next

/-- The nodes have at most so many interfaces, and as many stops hear a transmission. -/
structure Sparse (ports ears : Nat) : Prop where
  interfaces : ∀ node, max 1 (layout.io node).interfaces.length ≤ ports
  hears : ∀ node entry, (layout.hears node entry).length ≤ ears

end Layout

/-- The packet is the one that the sender sent, but a router may have replaced the source. -/
structure Flight.Carries (layout : Layout cfg) (flight origin : Flight) : Prop where
  number : flight.number = origin.number
  payload : flight.payload = origin.payload
  header : { flight.id with src := origin.id.src } = origin.id
  source : flight.id.src = origin.id.src ∨ ∃ node iface, flight.id.src = ((layout.io node).ifaceAt iface).addr

namespace Layout

variable {layout : Layout cfg} {flight : Flight} {node : Node cfg} {packet : Packet}

/-- The router sees the stop in its own interface. -/
theorem isToMe_eq (same : (layout.io flight.stop.node).SameTopology node.stack.io) (id : packet.id = flight.id) :
    isToMe cfg (node.stack.io.ifaceAt flight.stop.iface) packet = layout.isLocal flight.id.dst flight.stop := by
  rw [isToMe, isLocal, same.addr, same.netmask, id]

/-- Each packet that the router sends on is the same one at a stop where it may go. -/
theorem onward_forwards (same : (layout.io flight.stop.node).SameTopology node.stack.io) (id : packet.id = flight.id)
    (payload : packet.payload = flight.payload) (transit : layout.isLocal flight.id.dst flight.stop = false)
    {after : Flight} (member : after ∈ layout.onward flight node packet) :
    layout.Forwards flight.id.dst flight.stop after.stop ∧ after.hops = flight.hops + 1 ∧
      after.Carries layout flight := by
  rw [← isToMe_eq same id] at transit
  obtain ⟨-, sent⟩ := routeInput_sent transit
  obtain ⟨entry, inside, heard⟩ := List.mem_flatMap.mp member
  obtain ⟨stop, hears, rfl⟩ := List.mem_map.mp heard
  obtain ⟨exits, bytes, header⟩ := sent entry inside
  rw [same.exits, id] at exits
  rw [id, same.addr] at header
  rw [isToMe_eq same id] at transit
  have dst : entry.2.2.id.dst = flight.id.dst := by
    rcases header with header | header <;> rw [header]
  refine ⟨⟨transit, entry, dst, exits, hears⟩, rfl, rfl, bytes.trans payload, ?_, ?_⟩
  · rcases header with header | header <;> simp only [header]
  · rcases header with header | header
    · exact .inl (congrArg CspId.src header)
    · exact .inr ⟨_, _, congrArg CspId.src header⟩

theorem onward_length {ports ears : Nat} (sparse : layout.Sparse ports ears)
    (same : (layout.io flight.stop.node).SameTopology node.stack.io) (id : packet.id = flight.id)
    (transit : layout.isLocal flight.id.dst flight.stop = false) :
    (layout.onward flight node packet).length ≤ ports * ears := by
  rw [← isToMe_eq same id] at transit
  obtain ⟨few, -⟩ := routeInput_sent transit
  rw [same.interfaces] at few
  rw [onward, List.length_flatMap]
  have each : ∀ count ∈ (node.stack.io.sentSince (routeInput node flight.stop.iface packet).finish.stack.io).map
      (fun entry => ((layout.hears flight.stop.node entry).map fun stop : Stop =>
        (⟨stop, entry.2.2.id, entry.2.2.payload, flight.number, flight.hops + 1⟩ : Flight)).length), count ≤ ears := by
    intro count member
    obtain ⟨entry, -, rfl⟩ := List.mem_map.mp member
    rw [List.length_map]
    exact sparse.hears _ entry
  have total := List.sum_le_card_nsmul _ _ each
  rw [List.length_map, nsmul_eq_mul, Nat.cast_id] at total
  exact total.trans (Nat.mul_le_mul_right ears (few.trans (sparse.interfaces _)))

end Layout

theorem Flight.Carries.refl (layout : Layout cfg) (flight : Flight) : flight.Carries layout flight :=
  ⟨rfl, rfl, rfl, .inl rfl⟩

theorem Flight.Carries.trans {layout : Layout cfg} {first second third : Flight} (left : first.Carries layout second)
    (right : second.Carries layout third) : first.Carries layout third where
  number := left.number.trans right.number
  payload := left.payload.trans right.payload
  header := by rw [← right.header, ← left.header]
  source := by
    rcases left.source with same | other
    · rw [same]
      exact right.source
    · exact .inr other

theorem Flight.Carries.dst {layout : Layout cfg} {flight origin : Flight} (carries : flight.Carries layout origin) :
    flight.id.dst = origin.id.dst := by
  rw [← carries.header]

/-! ## Every run -/

/-- The packets are those of the senders, and each has at most so many routers before it. -/
structure Traffic.Bounded (layout : Layout cfg) (sent : List Flight) (limit : Nat) (traffic : Traffic) : Prop where
  carries : ∀ flight ∈ traffic.air ++ traffic.arrived, ∃ origin ∈ sent, flight.Carries layout origin
  hops : ∀ flight ∈ traffic.air ++ traffic.arrived, flight.hops ≤ limit
  ends : ∀ flight ∈ traffic.air, layout.Ends flight.id.dst (limit - flight.hops) flight.stop
  own : ∀ flight ∈ traffic.arrived, layout.isLocal flight.id.dst flight.stop = true

/-- The work that the packets can still cause. -/
def Traffic.work (width limit : Nat) (traffic : Traffic) : Nat :=
  Spread.work width (traffic.air.map fun flight => limit - flight.hops)

variable {layout : Layout cfg} {sent : List Flight} {limit ports ears : Nat} {traffic : Traffic}

/-- A packet that a router forwards has routers left. -/
theorem Layout.Ends.next {dst : UInt16} {hops : Nat} {stop next : Stop} (ends : layout.Ends dst hops stop)
    (forwards : layout.Forwards dst stop next) : ∃ fewer, hops = fewer + 1 ∧ layout.Ends dst fewer next := by
  cases hops with
  | zero => exact absurd forwards (ends next)
  | succ fewer => exact ⟨fewer, rfl, ends next forwards⟩

theorem Traffic.Bounded.step (bounded : traffic.Bounded layout sent limit) (input : TrafficInput cfg)
    (allowed : layout.machine.allowed traffic input) : (layout.step traffic input).Bounded layout sent limit := by
  have erased : ∀ index, ∀ flight ∈ traffic.air.eraseIdx index, flight ∈ traffic.air :=
    fun index flight member => List.mem_of_mem_eraseIdx member
  cases input with
  | lose index =>
      have kept : ∀ flight ∈ traffic.air.eraseIdx index ++ traffic.arrived, flight ∈ traffic.air ++ traffic.arrived :=
        fun flight member => (List.mem_append.mp member).elim
          (fun inside => List.mem_append_left _ (erased index flight inside)) (List.mem_append_right _)
      exact ⟨fun flight member => bounded.carries flight (kept flight member),
        fun flight member => bounded.hops flight (kept flight member),
        fun flight member => bounded.ends flight (erased index flight member), bounded.own⟩
  | route index node packet =>
      obtain ⟨flight, found, same, id, payload⟩ := allowed
      have member : flight ∈ traffic.air := List.mem_of_getElem? found
      have toMe := Layout.isToMe_eq same id
      cases own : layout.isLocal flight.id.dst flight.stop with
      | true =>
          have stepped : layout.step traffic (.route index node packet) =
              { air := traffic.air.eraseIdx index, arrived := traffic.arrived ++ [flight] } := by
            simp only [Layout.step, found, toMe, own, if_true]
          have kept : ∀ other ∈ traffic.air.eraseIdx index ++ (traffic.arrived ++ [flight]),
              other ∈ traffic.air ++ traffic.arrived := by
            intro other inside
            rcases List.mem_append.mp inside with inside | inside
            · exact List.mem_append_left _ (erased index other inside)
            · rcases List.mem_append.mp inside with inside | inside
              · exact List.mem_append_right _ inside
              · exact List.mem_append_left _ (List.mem_singleton.mp inside ▸ member)
          rw [stepped]
          refine ⟨fun other inside => bounded.carries other (kept other inside),
            fun other inside => bounded.hops other (kept other inside),
            fun other inside => bounded.ends other (erased index other inside), fun other inside => ?_⟩
          rcases List.mem_append.mp inside with inside | inside
          · exact bounded.own other inside
          · exact List.mem_singleton.mp inside ▸ own
      | false =>
          have stepped : layout.step traffic (.route index node packet) =
              { traffic with air := traffic.air.eraseIdx index ++ layout.onward flight node packet } := by
            simp only [Layout.step, found, toMe, own, Bool.false_eq_true, if_false]
          have start : flight ∈ traffic.air ++ traffic.arrived := List.mem_append_left _ member
          obtain ⟨origin, known, carried⟩ := bounded.carries flight start
          have goes : ∀ after ∈ layout.onward flight node packet, after.Carries layout origin ∧ after.hops ≤ limit ∧
              layout.Ends after.id.dst (limit - after.hops) after.stop := by
            intro after inside
            obtain ⟨forwards, hops, carries⟩ := Layout.onward_forwards same id payload own inside
            obtain ⟨fewer, left, ends⟩ := (bounded.ends flight member).next forwards
            refine ⟨carries.trans carried, by omega, ?_⟩
            have rest : limit - after.hops = fewer := by omega
            rw [rest, carries.dst]
            exact ends
          rw [stepped]
          refine ⟨fun other inside => ?_, fun other inside => ?_, fun other inside => ?_, bounded.own⟩
          · rcases List.mem_append.mp inside with inside | inside
            · rcases List.mem_append.mp inside with inside | inside
              · exact bounded.carries other (List.mem_append_left _ (erased index other inside))
              · exact ⟨origin, known, (goes other inside).1⟩
            · exact bounded.carries other (List.mem_append_right _ inside)
          · rcases List.mem_append.mp inside with inside | inside
            · rcases List.mem_append.mp inside with inside | inside
              · exact bounded.hops other (List.mem_append_left _ (erased index other inside))
              · exact (goes other inside).2.1
            · exact bounded.hops other (List.mem_append_right _ inside)
          · rcases List.mem_append.mp inside with inside | inside
            · exact bounded.ends other (erased index other inside)
            · exact (goes other inside).2.2

/-- A packet leaves the air, and at most so many packets with fewer routers before them come into it. -/
theorem Traffic.work_shrinks {width index : Nat} {flight : Flight} {onward arrived : List Flight}
    (found : traffic.air[index]? = some flight) (few : onward.length ≤ width)
    (nearer : ∀ after ∈ onward, limit - after.hops < limit - flight.hops) :
    Traffic.work width limit { air := traffic.air.eraseIdx index ++ onward, arrived } < traffic.work width limit := by
  obtain ⟨inside, same⟩ := List.getElem?_eq_some_iff.mp found
  rw [Traffic.work, Traffic.work, List.map_append, ← List.eraseIdx_map]
  apply Spread.work_spread (by rwa [List.length_map])
  · rwa [List.length_map]
  · intro rank member
    obtain ⟨after, inside, rfl⟩ := List.mem_map.mp member
    rw [List.getElem_map, same]
    exact nearer after inside

theorem Traffic.Bounded.work_step (bounded : traffic.Bounded layout sent limit) (sparse : layout.Sparse ports ears)
    (input : TrafficInput cfg) (allowed : layout.machine.allowed traffic input) :
    (layout.step traffic input).work (ports * ears) limit < traffic.work (ports * ears) limit := by
  cases input with
  | lose index =>
      have found : traffic.air[index]? = some traffic.air[index] := List.getElem?_eq_getElem allowed
      have less := @Traffic.work_shrinks limit traffic (ports * ears) index _ [] traffic.arrived found (Nat.zero_le _)
        (by simp)
      rwa [List.append_nil] at less
  | route index node packet =>
      obtain ⟨flight, found, same, id, payload⟩ := allowed
      have toMe := Layout.isToMe_eq same id
      cases own : layout.isLocal flight.id.dst flight.stop with
      | true =>
          have less := @Traffic.work_shrinks limit traffic (ports * ears) index flight [] (traffic.arrived ++ [flight])
            found (Nat.zero_le _) (by simp)
          rw [List.append_nil] at less
          simpa only [Layout.step, found, toMe, own, if_true] using less
      | false =>
          have less := @Traffic.work_shrinks limit traffic (ports * ears) index flight
            (layout.onward flight node packet) traffic.arrived found (Layout.onward_length sparse same id own) (by
              intro after inside
              obtain ⟨forwards, hops, -⟩ := Layout.onward_forwards same id payload own inside
              obtain ⟨fewer, left, -⟩ := (bounded.ends flight (List.mem_of_getElem? found)).next forwards
              omega)
          simpa only [Layout.step, found, toMe, own, Bool.false_eq_true, if_false] using less

/-- The senders gave these packets to the network, and each one has at most so many routers before it. -/
structure Layout.Starts (layout : Layout cfg) (sent : List Flight) (limit : Nat) : Prop where
  new : ∀ flight ∈ sent, flight.hops = 0
  ends : ∀ flight ∈ sent, layout.Ends flight.id.dst limit flight.stop

theorem Layout.Starts.bounded (starts : layout.Starts sent limit) :
    Traffic.Bounded layout sent limit { air := sent, arrived := [] } where
  carries flight member := by
    rw [List.append_nil] at member
    exact ⟨flight, member, .refl layout flight⟩
  hops flight member := by
    rw [List.append_nil] at member
    rw [starts.new flight member]
    exact Nat.zero_le limit
  ends flight member := by
    rw [starts.new flight member]
    exact starts.ends flight member
  own := by simp

/-- Where no way of a packet has more than `limit` routers, every run ends, whatever the order of the routers and the
losses. Each packet in it is one of the senders with the same payload and the same header up to the source, and it
arrives only at nodes that it is for. -/
theorem journeys_end (starts : layout.Starts sent limit) (sparse : layout.Sparse ports ears)
    (inputs : List (TrafficInput cfg)) (allowed : layout.machine.Allows { air := sent, arrived := [] } inputs) :
    let traffic := layout.machine.trace { air := sent, arrived := [] } inputs
    inputs.length ≤ sent.length * (ports * ears + 1) ^ limit ∧
      (∀ flight ∈ traffic.air ++ traffic.arrived, flight.hops ≤ limit ∧ ∃ origin ∈ sent, flight.Carries layout origin) ∧
      ∀ flight ∈ traffic.arrived, layout.isLocal flight.id.dst flight.stop = true := by
  intro traffic
  have spent := @Machine.trace_length_le _ _ layout.machine (Traffic.Bounded layout sent limit)
    (Traffic.work (ports * ears) limit) (fun _ input bounded allowed => bounded.step input allowed)
    (fun _ input bounded allowed => bounded.work_step sparse input allowed) _ starts.bounded inputs allowed
  have first : Traffic.work (ports * ears) limit { air := sent, arrived := [] } ≤
      sent.length * (ports * ears + 1) ^ limit := by
    have bound := @Spread.work_le (ports * ears) limit (sent.map fun flight => limit - flight.hops) (by
      intro rank member
      obtain ⟨flight, -, rfl⟩ := List.mem_map.mp member
      exact Nat.sub_le limit flight.hops)
    rwa [List.length_map] at bound
  have bounded : traffic.Bounded layout sent limit := by
    apply @Machine.trace_invariant _ _ layout.machine fun _ => Traffic.Bounded layout sent limit
    · exact starts.bounded
    · exact fun _ state input _ bounded allowed => bounded.step input allowed
    · exact allowed
  exact ⟨by omega, fun flight member => ⟨bounded.hops flight member, bounded.carries flight member⟩, bounded.own⟩

/-- Node 1 joins the subnets of the addresses 0 to 63 and 64 to 127, and has a route to the addresses 128 to 191.
Node 2 joins this subnet and the one of the addresses 64 to 127. Node 3 has the address 130. -/
def lineNode : Nat → Node {}
  | 1 => Node.init (Io.init {} (fun _ => default) [subnetIface, { subnetIface with addr := 65 }]
      [{ address := 128, netmask := 8, via := noViaAddress, iface := 2 }]) default
  | 2 => Node.init (Io.init {} (fun _ => default) [{ subnetIface with addr := 66 }, { subnetIface with addr := 129 }]
      []) default
  | _ => Node.init (Io.init {} (fun _ => default) [{ subnetIface with addr := 130 }] []) default

/-- Each link joins two nodes. -/
def lineLayout : Layout {} where
  io node := (lineNode node).stack.io
  hears node entry :=
    match node, entry.1 with
    | 1, 2 => [⟨2, 1⟩]
    | 2, 1 => [⟨1, 2⟩]
    | 2, 2 => [⟨3, 1⟩]
    | 3, 1 => [⟨2, 2⟩]
    | _, _ => []

/-- A packet from node 5 to node 130 at the first router. -/
def linePacket : Packet :=
  { (default : Packet) with buf := 100, length := 4, id := { (default : CspId) with src := 5, dst := 130 } }

def lineFlight : Flight := { stop := ⟨1, 1⟩, id := linePacket.id, payload := linePacket.payload, number := 0, hops := 0 }

theorem lineLayout_exits : (lineLayout.io 1).exits 130 1 = [2] ∧ (lineLayout.io 2).exits 130 1 = [2] := by
  decide +kernel

theorem lineLayout_sparse : lineLayout.Sparse 3 1 where
  interfaces node := by
    change max 1 (lineNode node).stack.io.interfaces.length ≤ 3
    unfold lineNode
    split <;> decide
  hears node entry := by
    simp only [lineLayout]
    split <;> simp

theorem lineLayout_ends : lineLayout.Ends 130 2 ⟨1, 1⟩ := by
  have last : ∀ next, ¬lineLayout.Forwards 130 ⟨3, 1⟩ next := by
    rintro next ⟨foreign, -⟩
    exact absurd foreign (by decide)
  rintro middle ⟨-, entry, -, exit, heard⟩
  rw [lineLayout_exits.1, List.mem_singleton] at exit
  have second : middle = ⟨2, 1⟩ := by simpa [lineLayout, exit] using heard
  subst second
  rintro third ⟨-, entry, -, exit, heard⟩
  rw [lineLayout_exits.2, List.mem_singleton] at exit
  have arrival : third = ⟨3, 1⟩ := by simpa [lineLayout, exit] using heard
  subst arrival
  exact last

/-- The routers of the three nodes take the packet in turn. -/
def lineInputs : List (TrafficInput {}) :=
  [.route 0 (lineNode 1) linePacket, .route 0 (lineNode 2) linePacket,
    .route 0 (lineNode 3) { linePacket with id := { linePacket.id with src := 129 } }]

theorem lineInputs_allowed : lineLayout.machine.Allows { air := [lineFlight], arrived := [] } lineInputs := by
  refine ⟨⟨lineFlight, rfl, .refl _, rfl, rfl⟩, ⟨{ lineFlight with stop := ⟨2, 1⟩, hops := 1 }, rfl, .refl _, rfl, rfl⟩,
    ⟨{ lineFlight with stop := ⟨3, 1⟩, id := { linePacket.id with src := 129 }, hops := 2 }, rfl, .refl _, rfl, rfl⟩,
    trivial⟩

theorem lineJourney_ends : lineInputs.length ≤ 16 := by
  have starts : lineLayout.Starts [lineFlight] 2 :=
    ⟨fun flight member => List.mem_singleton.mp member ▸ rfl,
      fun flight member => List.mem_singleton.mp member ▸ lineLayout_ends⟩
  exact (journeys_end starts lineLayout_sparse lineInputs lineInputs_allowed).1

end Libcsp

/-
This file shows which packets csp_send_direct puts on the wire, and on which interfaces.
-/
import Libcsp.SendOwnership

namespace Libcsp

variable {cfg : Config}

/-- One transmission has an interface, a via address, and the packet that the next hop accepted. -/
abbrev WireEntry := Nat × UInt16 × Packet

/-- These transmissions are new in the second state. -/
def Io.sentSince (io after : Io cfg) : List WireEntry := after.wire.drop io.wire.length

theorem Io.sentSince_of_append {io after : Io cfg} {sent : List WireEntry}
    (grows : after.wire = io.wire ++ sent) : io.sentSince after = sent := by
  rw [sentSince, grows, List.drop_left]

/-- Two states have the same interface list, addresses, netmasks, and routing table. -/
structure Io.SameTopology (first second : Io cfg) : Prop where
  interfaces : second.interfaces = first.interfaces
  addr : ∀ iface, (second.ifaceAt iface).addr = (first.ifaceAt iface).addr
  netmask : ∀ iface, (second.ifaceAt iface).netmask = (first.ifaceAt iface).netmask
  rtable : second.rtable = first.rtable

theorem Io.SameTopology.refl (io : Io cfg) : io.SameTopology io :=
  ⟨rfl, fun _ => rfl, fun _ => rfl, rfl⟩

theorem Io.SameTopology.trans {first second third : Io cfg} (left : first.SameTopology second)
    (right : second.SameTopology third) : first.SameTopology third where
  interfaces := right.interfaces.trans left.interfaces
  addr iface := (right.addr iface).trans (left.addr iface)
  netmask iface := (right.netmask iface).trans (left.netmask iface)
  rtable := right.rtable.trans left.rtable

theorem Io.SameTopology.sendsOn {first second : Io cfg} (same : first.SameTopology second)
    (dst : UInt16) (routedFrom : Option Nat) (iface : Nat) :
    Libcsp.sendsOn second dst routedFrom iface = Libcsp.sendsOn first dst routedFrom iface := by
  cases routedFrom <;>
    simp [Libcsp.sendsOn, iflistIsWithinSubnet, same.addr, same.netmask]

/-! ## One interface -/

theorem promiscAdd_fields (io : Io cfg) (packet : Packet) :
    ∃ pool promiscQueue, promiscAdd io packet = { io with pool, promiscQueue } := by
  unfold promiscAdd
  repeat' split
  all_goals exact ⟨_, _, rfl⟩

/-- The trailers keep the header of a packet, and a forwarded packet gets none. -/
theorem sendTrailers_fields {idout : CspId} {packet trailed : Packet} {fromMe : Bool}
    (result : sendTrailers cfg idout packet fromMe = .ok trailed) :
    trailed.id = packet.id ∧ (fromMe = false → trailed = packet) := by
  have append : ∀ {packet trailed : Packet}, (hmacAppend cfg packet = .ok trailed ∨
      crc32Append cfg packet = .ok trailed) → trailed.id = packet.id := by
    intro packet trailed result
    simp only [hmacAppend, crc32Append] at result
    split at result
    · simp at result
    · rcases result with result | result <;> · cases result; rfl
  cases fromMe with
  | false =>
      cases result
      exact ⟨rfl, fun _ => rfl⟩
  | true =>
      refine ⟨?_, by simp⟩
      simp only [sendTrailers, if_true] at result
      cases first : idout.has cspFHmac with
      | false =>
          cases second : idout.has cspFCrc32 with
          | false =>
              simp only [first, second, bind, Except.bind] at result
              cases result
              rfl
          | true =>
              simp only [first, second, bind, Except.bind] at result
              exact append (.inr result)
      | true =>
          cases signed : hmacAppend cfg packet with
          | error failed => simp [first, signed, bind, Except.bind] at result
          | ok middle =>
              cases second : idout.has cspFCrc32 with
              | false =>
                  simp only [first, second, signed, bind, Except.bind, if_true] at result
                  cases result
                  exact append (.inl signed)
              | true =>
                  simp only [first, second, signed, bind, Except.bind, if_true] at result
                  exact (append (.inr result)).trans (append (.inl signed))

/-- The packet leaves on this interface with this header, and a forwarded one with its bytes. -/
structure LeavesAs (cfg : Config) (packet : Packet) (iface : Nat) (idout : CspId) (fromMe : Bool)
    (entry : WireEntry) : Prop where
  iface : entry.1 = iface
  id : entry.2.2.id = idout
  payload : fromMe = false → entry.2.2.payload = packet.payload
  trailers : trailedLength cfg idout packet.length fromMe ≠ none

/-- The pool can hold a copy of the packet. -/
def Packet.CanBeCopied (cfg : Config) (packet : Packet) : Prop :=
  packet.length.toNat ≤ cfg.bufferSize ∧ 0 < cfg.bufferCount

theorem bufferClone_canBeCopied {pool after : Pool cfg} {packet clone : Packet}
    (cloned : bufferClone pool (some packet) = (some clone, after)) :
    packet.CanBeCopied cfg ∧ clone.payload = packet.payload ∧ clone.length = packet.length := by
  rw [bufferClone_some] at cloned
  obtain ⟨got, _⟩ | ⟨head, rest, fits, items, got⟩ := bufferGet_cases pool packet.length.toNat
  · rw [got] at cloned
    simp at cloned
  · rw [got] at cloned
    have bounded := pool.buffers.bounded
    rw [items, List.length_cons] at bounded
    simp only [Option.map_some, Prod.mk.injEq, Option.some.injEq] at cloned
    obtain ⟨rfl, _⟩ := cloned
    exact ⟨⟨fits, by omega⟩, rfl, rfl⟩

theorem callNexthop_wire (io : Io cfg) (iface : Nat) (via : UInt16) (packet : Packet) :
    (callNexthop io iface via packet).wire =
      if (io.ifaceAt iface).nexthop (io.ifaceAt iface).handed = .error then io.wire
      else io.wire ++ [(iface, via, packet)] := by
  simp only [callNexthop]
  split <;> rename_i result <;> simp only [result] <;> rfl

/-- The header of a transmission is the one that the caller gave. -/
theorem sendDirectIface_wire (io : Io cfg) (idout : CspId) (packet : Packet) (iface : Nat)
    (via : UInt16) (fromMe : Bool) :
    ∃ sent, (sendDirectIface io idout (some packet) iface via fromMe).wire = io.wire ++ sent ∧
      ∀ entry ∈ sent, LeavesAs cfg packet iface idout fromMe entry := by
  have copied : ∃ pool promiscQueue,
      (if fromMe && iface != ifLo then promiscAdd io { packet with id := idout } else io) =
        { io with pool, promiscQueue } := by
    split
    · exact promiscAdd_fields io _
    · exact ⟨io.pool, io.promiscQueue, rfl⟩
  obtain ⟨pool, promiscQueue, same⟩ := copied
  have silent : ∃ sent, io.wire = io.wire ++ sent ∧
      ∀ entry ∈ sent, LeavesAs cfg packet iface idout fromMe entry := ⟨[], by simp⟩
  simp only [sendDirectIface, same]
  cases result : sendTrailers cfg idout { packet with id := idout } fromMe with
  | error failed => exact silent
  | ok trailed =>
      obtain ⟨id, bytes⟩ := sendTrailers_fields result
      have fits : trailedLength cfg idout packet.length fromMe ≠ none := by
        obtain ⟨_, _, ⟨failed, _⟩ | ⟨_, length⟩⟩ :=
          @sendTrailers_cases cfg idout { packet with id := idout } fromMe
        · rw [failed] at result
          simp at result
        · rw [length]
          simp
      simp only
      split
      · exact silent
      · rw [callNexthop_wire]
        split
        · exact silent
        · refine ⟨_, rfl, ?_⟩
          intro entry member
          obtain rfl := List.mem_singleton.mp member
          exact ⟨rfl, id, fun forwarded => by rw [bytes forwarded]; rfl, fits⟩

/-- The next hop gets a packet whose trailers fit and that does not exceed the MTU. -/
theorem sendDirectIface_accepted {io : Io cfg} {idout : CspId} {packet trailed : Packet}
    {iface : Nat} (via : UInt16) {fromMe : Bool}
    (trailers : sendTrailers cfg idout { packet with id := idout } fromMe = .ok trailed)
    (mtu : (io.ifaceAt iface).mtu = 0)
    (accepts : (io.ifaceAt iface).nexthop (io.ifaceAt iface).handed ≠ .error) :
    (sendDirectIface io idout (some packet) iface via fromMe).wire =
      io.wire ++ [(iface, via, trailed)] := by
  have copied : ∃ pool promiscQueue,
      (if fromMe && iface != ifLo then promiscAdd io { packet with id := idout } else io) =
        { io with pool, promiscQueue } := by
    split
    · exact promiscAdd_fields io _
    · exact ⟨io.pool, io.promiscQueue, rfl⟩
  obtain ⟨pool, promiscQueue, same⟩ := copied
  simp only [sendDirectIface, same, trailers]
  rw [if_neg (by simp [mtu]), callNexthop_wire, if_neg accepts]

theorem sendDirectIface_topology (io : Io cfg) (idout : CspId) (packet : Option Packet)
    (iface : Nat) (via : UInt16) (fromMe : Bool) :
    io.SameTopology (sendDirectIface io idout packet iface via fromMe) := by
  cases packet with
  | none => exact ⟨rfl, fun _ => rfl, fun _ => rfl, rfl⟩
  | some packet =>
      have links := sendDirectIface_links io idout packet iface via fromMe
      have lists : (sendDirectIface io idout (some packet) iface via fromMe).interfaces =
          io.interfaces ∧
          (sendDirectIface io idout (some packet) iface via fromMe).rtable = io.rtable := by
        obtain ⟨pool, promiscQueue, same⟩ := promiscAdd_fields io { packet with id := idout }
        simp only [sendDirectIface, same, callNexthop]
        repeat' split
        all_goals exact ⟨rfl, rfl⟩
      exact ⟨lists.1, links.addr, links.netmask, lists.2⟩

/-! ## The loop over the interfaces -/

/-- Each copy leaves on an interface that the loop picks, with the address of that interface. -/
theorem sendDirectLoop_wire (idout : CspId) (packet : Packet) (routedFrom : Option Nat)
    (ifaces : List Nat) (found : Bool) (io : Io cfg) :
    ∃ sent, (sendDirectLoop idout (some packet) routedFrom ifaces (found, io)).2.wire =
        io.wire ++ sent ∧
      ∀ entry ∈ sent, packet.CanBeCopied cfg ∧
        ∃ iface ∈ ifaces, sendsOn io idout.dst routedFrom iface = true ∧
          LeavesAs cfg packet iface { idout with src := (io.ifaceAt iface).addr } routedFrom.isNone
            entry := by
  induction ifaces generalizing found io with
  | nil => exact ⟨[], by simp [sendDirectLoop]⟩
  | cons iface rest ih =>
      simp only [sendDirectLoop]
      split
      · rename_i sends
        obtain ⟨copy, pool, cloned⟩ : ∃ copy pool, bufferClone io.pool (some packet) = (copy, pool) :=
          ⟨_, _, rfl⟩
        rw [cloned]
        have start : io.SameTopology { io with pool } := ⟨rfl, fun _ => rfl, fun _ => rfl, rfl⟩
        have topology := start.trans (sendDirectIface_topology { io with pool }
          { idout with src := (io.ifaceAt iface).addr } copy iface noViaAddress routedFrom.isNone)
        obtain ⟨later, grows, leaves⟩ := ih true (sendDirectIface { io with pool }
          { idout with src := (io.ifaceAt iface).addr } copy iface noViaAddress routedFrom.isNone)
        have first : ∃ sent, (sendDirectIface { io with pool }
            { idout with src := (io.ifaceAt iface).addr } copy iface noViaAddress
            routedFrom.isNone).wire = io.wire ++ sent ∧
            ∀ entry ∈ sent, packet.CanBeCopied cfg ∧ LeavesAs cfg packet iface
              { idout with src := (io.ifaceAt iface).addr } routedFrom.isNone entry := by
          cases copy with
          | none => exact ⟨[], by simp [sendDirectIface]⟩
          | some clone =>
              obtain ⟨copies, bytes, length⟩ := bufferClone_canBeCopied cloned
              obtain ⟨sent, grows, leaves⟩ := sendDirectIface_wire { io with pool }
                { idout with src := (io.ifaceAt iface).addr } clone iface noViaAddress
                routedFrom.isNone
              refine ⟨sent, grows, fun entry member => ⟨copies, ?_⟩⟩
              have entryLeaves := leaves entry member
              exact ⟨entryLeaves.iface, entryLeaves.id, fun forwarded =>
                (entryLeaves.payload forwarded).trans bytes, length ▸ entryLeaves.trailers⟩
        obtain ⟨sent, begins, firstLeaves⟩ := first
        refine ⟨sent ++ later, by rw [grows, begins, List.append_assoc], ?_⟩
        intro entry member
        rcases List.mem_append.mp member with member | member
        · obtain ⟨copies, entryLeaves⟩ := firstLeaves entry member
          exact ⟨copies, iface, List.mem_cons_self, sends, entryLeaves⟩
        · obtain ⟨copies, other, inside, otherSends, otherLeaves⟩ := leaves entry member
          rw [topology.sendsOn] at otherSends
          rw [topology.addr] at otherLeaves
          exact ⟨copies, other, List.mem_cons_of_mem _ inside, otherSends, otherLeaves⟩
      · obtain ⟨sent, grows, leaves⟩ := ih found io
        refine ⟨sent, grows, fun entry member => ?_⟩
        obtain ⟨copies, other, inside, otherSends, otherLeaves⟩ := leaves entry member
        exact ⟨copies, other, List.mem_cons_of_mem _ inside, otherSends, otherLeaves⟩

/-! ## The whole send -/

/-- An interface list entry is on the subnet of the destination, and split horizon permits it. -/
def Io.reachesDirectly (io : Io cfg) (dst : UInt16) (routedFrom : Option Nat) : Prop :=
  ∃ iface ∈ io.interfaces, sendsOn io dst routedFrom iface = true

instance (io : Io cfg) (dst : UInt16) (routedFrom : Option Nat) :
    Decidable (io.reachesDirectly dst routedFrom) := List.decidableBEx _ _

/-- The routing table is read only when no interface reaches the destination directly. -/
def Io.usedRoute (io : Io cfg) (dst : UInt16) (routedFrom : Option Nat) : Option Route :=
  if io.reachesDirectly dst routedFrom then none else rtableFindRoute cfg io.rtable dst

theorem Io.SameTopology.usedRoute {first second : Io cfg} (same : first.SameTopology second)
    (dst : UInt16) (routedFrom : Option Nat) :
    second.usedRoute dst routedFrom = first.usedRoute dst routedFrom := by
  simp only [Io.usedRoute, Io.reachesDirectly, same.sendsOn, same.interfaces, same.rtable]

/-- Without a directly connected subnet the packet takes its route or is freed. -/
theorem sendDirectBody_of_route {io : Io cfg} {idout : CspId} (packet : Option Packet)
    {routedFrom : Option Nat} {route : Route}
    (used : io.usedRoute idout.dst routedFrom = some route) :
    sendDirectBody io idout packet routedFrom =
      sendDirectIface io idout packet route.iface route.via routedFrom.isNone := by
  rw [Io.usedRoute] at used
  split at used
  · simp at used
  · rename_i unused
    have silent : ∀ iface ∈ io.interfaces, sendsOn io idout.dst routedFrom iface = false := by
      simpa [Io.reachesDirectly] using unused
    simp only [sendDirectBody, sendDirectLoop_unused idout packet routedFrom _ false io silent, used]

theorem sendDirectBody_of_noRoute {io : Io cfg} {idout : CspId} (packet : Option Packet)
    {routedFrom : Option Nat} (unused : ¬io.reachesDirectly idout.dst routedFrom)
    (noRoute : io.usedRoute idout.dst routedFrom = none) :
    sendDirectBody io idout packet routedFrom = { io with pool := bufferFree io.pool packet } := by
  rw [Io.usedRoute, if_neg unused] at noRoute
  have silent : ∀ iface ∈ io.interfaces, sendsOn io idout.dst routedFrom iface = false := by
    simpa [Io.reachesDirectly] using unused
  simp only [sendDirectBody, sendDirectLoop_unused idout packet routedFrom _ false io silent,
    noRoute]

/-- Each transmission uses a directly connected subnet or the one route. -/
theorem sendDirectBody_wire (io : Io cfg) (idout : CspId) (packet : Packet)
    (routedFrom : Option Nat) :
    ∃ sent, (sendDirectBody io idout (some packet) routedFrom).wire = io.wire ++ sent ∧
      ∀ entry ∈ sent,
        (packet.CanBeCopied cfg ∧
          ∃ iface ∈ io.interfaces, sendsOn io idout.dst routedFrom iface = true ∧
            LeavesAs cfg packet iface { idout with src := (io.ifaceAt iface).addr }
              routedFrom.isNone entry) ∨
        ∃ route, io.usedRoute idout.dst routedFrom = some route ∧
          LeavesAs cfg packet route.iface idout routedFrom.isNone entry := by
  by_cases used : io.reachesDirectly idout.dst routedFrom
  · rw [sendDirectBody_of_used idout (some packet) routedFrom used]
    obtain ⟨sent, grows, leaves⟩ :=
      sendDirectLoop_wire idout packet routedFrom io.interfaces false io
    exact ⟨sent, grows, fun entry member => .inl (leaves entry member)⟩
  · cases route : io.usedRoute idout.dst routedFrom with
    | none =>
        rw [sendDirectBody_of_noRoute (some packet) used route]
        exact ⟨[], by simp⟩
    | some route' =>
        rw [sendDirectBody_of_route (some packet) route]
        obtain ⟨sent, grows, leaves⟩ :=
          sendDirectIface_wire io idout packet route'.iface route'.via routedFrom.isNone
        exact ⟨sent, grows, fun entry member => .inr ⟨route', rfl, leaves entry member⟩⟩

theorem sendDirect_wire (io : Io cfg) (idout : CspId) (packet : Packet) (routedFrom : Option Nat) :
    ∀ entry ∈ io.sentSince (sendDirect io idout (some packet) routedFrom),
      (packet.CanBeCopied cfg ∧
        ∃ iface ∈ io.interfaces, sendsOn io idout.dst routedFrom iface = true ∧
          LeavesAs cfg packet iface { idout with src := (io.ifaceAt iface).addr } routedFrom.isNone
            entry) ∨
      ∃ route, io.usedRoute idout.dst routedFrom = some route ∧
        LeavesAs cfg packet route.iface idout routedFrom.isNone entry := by
  have logged : io.SameTopology { io with outbox := io.outbox ++ [(idout, packet)] } :=
    ⟨rfl, fun _ => rfl, fun _ => rfl, rfl⟩
  obtain ⟨sent, grows, leaves⟩ := @sendDirectBody_wire cfg
    { io with outbox := io.outbox ++ [(idout, packet)] } idout packet routedFrom
  rw [logged.usedRoute] at leaves
  simp only [logged.sendsOn] at leaves
  intro entry member
  have same : io.sentSince (sendDirect io idout (some packet) routedFrom) = sent :=
    Io.sentSince_of_append grows
  rw [same] at member
  exact leaves entry member

end Libcsp

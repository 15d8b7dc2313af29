/-
This file models the nodes on a ZMQ hub, and states which packets each node hears.
-/
import Libcsp.UdpRoundTrip

namespace Libcsp

open BitField

variable {cfg : Config} {qfifoLen : Nat}

/-! ## Subscriptions -/

/-- The two bytes of `filt[i][k]` in memory, where `i` is a priority. -/
def hubFilter (pri : Nat) (dst : UInt16) : List UInt8 := beBytes 2 (UInt16.ofNat pri <<< 14 ||| dst).toNat

/-- The subscriptions of `csp_zmqhub_init_filter2`. A NULL filter of length 0 is a prefix of every message. -/
def hubSubscriptions (cfg : Config) (addr netmask : UInt16) (promisc : Bool) : List (List UInt8) :=
  let hostmask := UInt16.ofNat (2 ^ (idGetHostBits cfg - netmask.toNat) - 1)
  if promisc then [[]]
  else (List.range 4).flatMap fun pri =>
    [hubFilter pri addr, hubFilter pri (addr ||| hostmask), hubFilter pri 16383]

/-- A subscriber gets a message exactly when one of its filters is a prefix of it. -/
def subscribed (filters : List (List UInt8)) (message : List UInt8) : Bool :=
  filters.any fun filter => filter.isPrefixOf message

/-- The 14 bits behind the priority. They are the destination in CSP 2 only. -/
def CspId.topic (cfg : Config) (id : CspId) : Nat :=
  if cfg.version = 2 then id.dst.toNat else id.src.toNat * 512 + id.dst.toNat * 16 + id.dport.toNat / 4

theorem idWord_topic {id : CspId} (fits : id.Fits cfg) :
    idWord cfg id / 256 ^ (idHeaderSize cfg - 2) % 256 ^ 2 = id.pri.toNat * 2 ^ 14 + id.topic cfg := by
  simp only [idWord, idHeaderSize, CspId.topic]
  by_cases version : cfg.version = 2
  · have fields := id2Fields_word fits version
    have pri : field _ 46 2 = _ := (toNat_field8 _ 46 (by decide)).symm.trans (congrArg (fun id => id.pri.toNat) fields)
    have dst : field _ 32 14 = _ := (toNat_field16 _ 32 (by decide)).symm.trans (congrArg (fun id => id.dst.toNat) fields)
    simp only [if_pos version, field_eq, id2HeaderSize, Nat.reduceSub, Nat.reducePow] at pri dst ⊢
    omega
  · have fields := id1Fields_word fits version
    have pri : field _ 30 2 = _ := (toNat_field8 _ 30 (by decide)).symm.trans (congrArg (fun id => id.pri.toNat) fields)
    have dst : field _ 20 5 = _ := (toNat_field16 _ 20 (by decide)).symm.trans (congrArg (fun id => id.dst.toNat) fields)
    have src : field _ 25 5 = _ := (toNat_field16 _ 25 (by decide)).symm.trans (congrArg (fun id => id.src.toNat) fields)
    have dport : field _ 14 6 = _ :=
      (toNat_field8 _ 14 (by decide)).symm.trans (congrArg (fun id => id.dport.toNat) fields)
    simp only [if_neg version, field_eq, id1HeaderSize, Nat.reduceSub, Nat.reducePow] at pri dst src dport ⊢
    omega

theorem CspId.Fits.topic {id : CspId} (fits : id.Fits cfg) : id.topic cfg < 2 ^ 14 := by
  obtain ⟨-, dst, src, dport, -, -⟩ := fits
  simp only [idGetHostBits] at dst src
  simp only [CspId.topic]
  split
  · rename_i version
    rwa [if_pos version] at dst
  · rename_i version
    rw [if_neg version] at dst src
    omega

/-- The message of a packet begins with its priority and its topic. -/
theorem idPrepend_topic {packet : Packet} (fits : packet.id.Fits cfg)
    (counted : packet.length.toNat + idHeaderSize cfg < 2 ^ 16) :
    ∃ rest, (idPrepend cfg packet).bytes = beBytes 2 (packet.id.pri.toNat * 2 ^ 14 + packet.id.topic cfg) ++ rest := by
  have two : 2 + (idHeaderSize cfg - 2) = idHeaderSize cfg := by
    rw [idHeaderSize]
    split <;> rfl
  have head := beBytes_add 2 (idHeaderSize cfg - 2) (idWord cfg packet.id)
  rw [two] at head
  have small : idWord cfg packet.id / 256 ^ (idHeaderSize cfg - 2) % 256 ^ 2 =
      (packet.id.pri.toNat * 2 ^ 14 + packet.id.topic cfg) % 256 ^ 2 := by
    rw [← idWord_topic fits, Nat.mod_mod]
  rw [idPrepend_bytes cfg packet counted, head, beBytes_congr small, List.append_assoc]
  exact ⟨_, rfl⟩

theorem hubFilter_eq {pri : Nat} {dst : UInt16} (few : pri < 4) (small : dst.toNat < 2 ^ 14) :
    hubFilter pri dst = beBytes 2 (pri * 2 ^ 14 + dst.toNat) := by
  have shifted : (UInt16.ofNat pri <<< 14).toNat = pri * 2 ^ 14 := by
    rw [UInt16.toNat_shiftLeft, UInt16.toNat_ofNat', Nat.shiftLeft_eq]
    change pri % 2 ^ 16 * 2 ^ 14 % 2 ^ 16 = _
    omega
  rw [hubFilter, UInt16.toNat_or, shifted, ← Nat.shiftLeft_eq, Nat.shiftLeft_add_eq_or_of_lt small]

/-- A filter is a prefix of a message exactly when it has the same priority and topic. -/
theorem hubFilter_isPrefixOf {pri pri' topic : Nat} {dst : UInt16} (few : pri < 4) (small : dst.toNat < 2 ^ 14)
    (few' : pri' < 4) (small' : topic < 2 ^ 14) (rest : List UInt8) :
    (hubFilter pri dst).isPrefixOf (beBytes 2 (pri' * 2 ^ 14 + topic) ++ rest) = true ↔ pri = pri' ∧ dst.toNat = topic := by
  rw [ List.isPrefixOf_iff_prefix, hubFilter_eq few small]
  constructor
  · intro begins
    have same := List.prefix_of_prefix_length_le begins (List.prefix_append _ rest) (by simp)
    have equal := congrArg beValue (same.eq_of_length (by simp))
    rw [beValue_beBytes, beValue_beBytes] at equal
    simp only [Nat.reducePow] at equal ⊢
    omega
  · rintro ⟨rfl, rfl⟩
    exact List.prefix_append _ rest

/-- The broadcast address of a subnet. -/
def broadcastOf (cfg : Config) (addr netmask : UInt16) : UInt16 :=
  addr ||| UInt16.ofNat (2 ^ (idGetHostBits cfg - netmask.toNat) - 1)

theorem broadcastOf_lt {addr : UInt16} (netmask : UInt16) (small : addr.toNat < 2 ^ 14) :
    (broadcastOf cfg addr netmask).toNat < 2 ^ 14 := by
  have bits : idGetHostBits cfg ≤ 14 := by
    rw [idGetHostBits]
    split <;> decide
  have bound : 2 ^ (idGetHostBits cfg - netmask.toNat) ≤ 2 ^ 14 := Nat.pow_le_pow_right (by decide) (by omega)
  have positive := Nat.two_pow_pos (idGetHostBits cfg - netmask.toNat)
  rw [broadcastOf, UInt16.toNat_or, toNat_ofNat16 (by omega)]
  exact Nat.or_lt_two_pow small (by omega)

/-- The subscriber of an address hears exactly the packets with one of three topics. -/
theorem subscribed_iff {addr netmask : UInt16} {promisc : Bool} (small : addr.toNat < 2 ^ 14) {packet : Packet}
    (fits : packet.id.Fits cfg) (counted : packet.length.toNat + idHeaderSize cfg < 2 ^ 16) :
    subscribed (hubSubscriptions cfg addr netmask promisc) (idPrepend cfg packet).bytes = true ↔
      promisc = true ∨
        packet.id.topic cfg ∈ [addr.toNat, (broadcastOf cfg addr netmask).toNat, (16383 : UInt16).toNat] := by
  obtain ⟨rest, message⟩ := idPrepend_topic fits counted
  cases promisc with
  | true => simp [hubSubscriptions, subscribed]
  | false =>
      have matches' : ∀ pri < 4, ∀ dst : UInt16, dst.toNat < 2 ^ 14 →
          ((hubFilter pri dst).isPrefixOf (idPrepend cfg packet).bytes = true ↔
            pri = packet.id.pri.toNat ∧ dst.toNat = packet.id.topic cfg) := fun pri few dst small => by
        rw [message]
        exact hubFilter_isPrefixOf few small fits.pri fits.topic rest
      have broadcast := @broadcastOf_lt cfg addr netmask small
      have filters : subscribed (hubSubscriptions cfg addr netmask false) (idPrepend cfg packet).bytes = true ↔
          ∃ pri < 4, ∃ dst ∈ [addr, broadcastOf cfg addr netmask, 16383],
            (hubFilter pri dst).isPrefixOf (idPrepend cfg packet).bytes = true := by
        simp only [subscribed, hubSubscriptions, broadcastOf, Bool.false_eq_true, if_false, List.any_flatMap,
          List.any_eq_true, List.mem_range, List.mem_cons, List.not_mem_nil, or_false, List.any_cons, List.any_nil,
          Bool.or_false, Bool.or_eq_true, exists_eq_or_imp, exists_eq_left]
      have parts : ∀ dst ∈ [addr, broadcastOf cfg addr netmask, 16383], dst.toNat < 2 ^ 14 := by
        simp only [List.mem_cons, List.not_mem_nil, or_false, forall_eq_or_imp, forall_eq]
        exact ⟨small, broadcast, by decide⟩
      rw [filters]
      simp only [Bool.false_eq_true, false_or]
      constructor
      · rintro ⟨pri, few, dst, member, begins⟩
        obtain ⟨-, same⟩ := (matches' pri few dst (parts dst member)).mp begins
        rw [← same]
        exact List.mem_map_of_mem (f := UInt16.toNat) member
      · intro member
        obtain ⟨dst, member, same⟩ := List.mem_map.mp
          (show packet.id.topic cfg ∈ [addr, broadcastOf cfg addr netmask, 16383].map UInt16.toNat from member)
        exact ⟨_, fits.pri, dst, member, (matches' _ fits.pri dst (parts dst member)).mpr ⟨rfl, same⟩⟩

/-! ## The hub -/

/-- A node on the hub has an interface, and the filters of its subscriber socket. -/
structure HubNode (cfg : Config) (qfifoLen : Nat) where
  link : Link cfg qfifoLen
  filters : List (List UInt8)
  /-- History: the packets that the router has taken from its queue. -/
  routed : List Packet

/-- One round of the receive task for each message that the hub sends to the node. -/
def HubNode.receive (node : HubNode cfg qfifoLen) (message : List UInt8) : HubNode cfg qfifoLen :=
  if subscribed node.filters message then { node with link := zmqhubRound node.link (some message) } else node

/-- The router of a node takes a packet and frees it in the end. -/
def HubNode.route (node : HubNode cfg qfifoLen) : HubNode cfg qfifoLen :=
  match node.link.qfifo.dequeue with
  | none => node
  | some (entry, qfifo) =>
      { node with link := { node.link with qfifo }.free entry.2, routed := node.routed ++ [entry.2] }

/-- The packets that the router has taken, and those in its queue. -/
def HubNode.arrived (node : HubNode cfg qfifoLen) : List Packet :=
  node.routed ++ node.link.qfifo.items.map Prod.snd

inductive HubInput where
  | publish (sender : Nat) (packet : Packet)
  | route (node : Nat)

/-- The hub sends each message of a publisher to all nodes, and to the publisher itself. -/
def hubStep (nodes : Nat → HubNode cfg qfifoLen) : HubInput → Nat → HubNode cfg qfifoLen
  | .publish sender packet =>
      let tx := zmqhubTx (nodes sender).link packet
      let nodes := Function.update nodes sender { nodes sender with link := tx.link }
      fun node => tx.sent.foldl HubNode.receive (nodes node)
  | .route node => Function.update nodes node (nodes node).route

/-- The packets that were published. -/
def published (inputs : List HubInput) : List Packet :=
  inputs.filterMap fun input => match input with
    | .publish _ packet => some packet
    | .route _ => none

/-- The packet is for the address of the subscriber. -/
def Packet.heardAt (cfg : Config) (addr netmask : UInt16) (promisc : Bool) (packet : Packet) : Bool :=
  promisc || packet.id.topic cfg ∈ [addr.toNat, (broadcastOf cfg addr netmask).toNat, (16383 : UInt16).toNat]

/-- A packet with a header that fits, which a message can carry. -/
structure Packet.Publishable (cfg : Config) (packet : Packet) : Prop where
  fits : packet.id.Fits cfg
  counted : packet.length.toNat + idHeaderSize cfg < 2 ^ 16

/-- The node has a buffer for a packet of this length, and space in the queue of the router. -/
def Link.HasRoom (link : Link cfg qfifoLen) (length : Nat) : Prop :=
  link.HasBuffer length ∧ link.qfifo.items.length < qfifoLen

theorem qfifoWrite_full {link : Link cfg qfifoLen} (full : ¬link.qfifo.items.length < qfifoLen) (packet : Packet) :
    (qfifoWrite link packet).qfifo = link.qfifo := by
  have refused : link.qfifo.enqueue (link.iface, packet) = none := by
    rw [BoundedQueue.enqueue_eq_none]
    exact Nat.le_antisymm link.qfifo.bounded (Nat.not_lt.mp full)
  simp only [qfifoWrite, refused]
  rfl

/-- A round with room queues the packet for the router, and a round without it changes nothing there. -/
theorem zmqhubRound_cases (link : Link cfg qfifoLen) {packet : Packet} (publishable : packet.Publishable cfg) :
    (link.HasRoom packet.length.toNat ∧ ∃ received : Packet, received.Arrives packet ∧
        (zmqhubRound link (some (idPrepend cfg packet).bytes)).qfifo.items =
          link.qfifo.items ++ [(link.iface, received)]) ∨
      (¬link.HasRoom packet.length.toNat ∧
        (zmqhubRound link (some (idPrepend cfg packet).bytes)).qfifo = link.qfifo) := by
  have length : (idPrepend cfg packet).bytes.length = packet.length.toNat + idHeaderSize cfg := by
    rw [idPrepend_frameLength, Nat.mod_eq_of_lt publishable.counted]
  have small := publishable.counted
  have whole : (idPrepend cfg packet).bytes.take ((idPrepend cfg packet).bytes.length % 2 ^ 32) =
      (idPrepend cfg packet).bytes := by
    rw [Nat.mod_eq_of_lt (by omega), List.take_length]
  have long : ¬(idPrepend cfg packet).bytes.length < idHeaderSize cfg := by omega
  have size : (idPrepend cfg packet).bytes.length - idHeaderSize cfg = packet.length.toNat := by omega
  rcases bufferGet_hasBuffer link packet.length.toNat with ⟨has, fresh, pool, got⟩ | ⟨lacks, got⟩
  · obtain ⟨received, stripped, arrives⟩ := receivedFrame_arrives fresh publishable.fits publishable.counted
    have round : zmqhubRound link (some (idPrepend cfg packet).bytes) = qfifoWrite { link with pool } received := by
      simp only [zmqhubRound, whole, if_neg long, size, got, stripped]
    rw [round]
    by_cases room : link.qfifo.items.length < qfifoLen
    · exact .inl ⟨⟨has, room⟩, received, arrives, @qfifoWrite_room cfg qfifoLen { link with pool } room received⟩
    · exact .inr ⟨fun both => room both.2, @qfifoWrite_full cfg qfifoLen { link with pool } room received⟩
  · refine .inr ⟨fun both => lacks both.1, ?_⟩
    simp only [zmqhubRound, whole, if_neg long, size, got]

/-! ## What a node hears -/

/-- The router of the node got packets of this list in their order, and all of them under the condition. -/
structure HubNode.Hears (before after : HubNode cfg qfifoLen) (packets : List Packet) (complete : Prop) : Prop where
  filters : after.filters = before.filters
  arrived : ∃ received kept, after.arrived = before.arrived ++ received ∧
    List.Forall₂ Packet.Arrives received kept ∧ kept.Sublist packets ∧ (complete → kept = packets)

theorem HubNode.Hears.of_same {before after : HubNode cfg qfifoLen} (filters : after.filters = before.filters)
    (arrived : after.arrived = before.arrived) : before.Hears after [] True :=
  ⟨filters, [], [], by rw [arrived, List.append_nil], .nil, .slnil, fun _ => rfl⟩

theorem HubNode.Hears.trans {first second third : HubNode cfg qfifoLen} {packets rest : List Packet}
    {complete complete' : Prop} (left : first.Hears second packets complete) (right : second.Hears third rest complete') :
    first.Hears third (packets ++ rest) (complete ∧ complete') := by
  obtain ⟨received, kept, grown, arrives, sub, all⟩ := left.arrived
  obtain ⟨received', kept', grown', arrives', sub', all'⟩ := right.arrived
  refine ⟨right.filters.trans left.filters, received ++ received', kept ++ kept', ?_, ?_, sub.append sub', ?_⟩
  · rw [grown', grown, List.append_assoc]
  · exact List.rel_append arrives arrives'
  · rintro ⟨whole, whole'⟩
    rw [all whole, all' whole']

/-- The node subscribed to an address of 14 bits. -/
structure HubNode.Listens (node : HubNode cfg qfifoLen) (addr netmask : UInt16) (promisc : Bool) : Prop where
  small : addr.toNat < 2 ^ 14
  filters : node.filters = hubSubscriptions cfg addr netmask promisc

/-- The packets of an input that are for the address. -/
def heardOf (cfg : Config) (addr netmask : UInt16) (promisc : Bool) (inputs : List HubInput) : List Packet :=
  (published inputs).filter (Packet.heardAt cfg addr netmask promisc)

/-- The node has room for the packets of an input that are for its address. -/
def HubNode.Ready (node : HubNode cfg qfifoLen) (addr netmask : UInt16) (promisc : Bool) (input : HubInput) : Prop :=
  ∀ packet ∈ heardOf cfg addr netmask promisc [input], node.link.HasRoom packet.length.toNat

theorem HubNode.Listens.receive {node : HubNode cfg qfifoLen} {addr netmask : UInt16} {promisc : Bool}
    (listens : node.Listens addr netmask promisc) (sender : Nat) {packet : Packet} (publishable : packet.Publishable cfg) :
    node.Hears (node.receive (idPrepend cfg packet).bytes)
      (heardOf cfg addr netmask promisc [.publish sender packet])
      (node.Ready addr netmask promisc (.publish sender packet)) := by
  have heard := @subscribed_iff cfg addr netmask promisc listens.small packet publishable.fits publishable.counted
  have same : subscribed node.filters (idPrepend cfg packet).bytes = packet.heardAt cfg addr netmask promisc := by
    rw [listens.filters, Bool.eq_iff_iff, heard, Packet.heardAt, Bool.or_eq_true, decide_eq_true_eq]
  have only : heardOf cfg addr netmask promisc [.publish sender packet] =
      if packet.heardAt cfg addr netmask promisc = true then [packet] else [] := by
    simp only [heardOf, published, List.filterMap_cons, List.filterMap_nil, List.filter_cons, List.filter_nil]
  rw [HubNode.receive, same]
  cases hears : packet.heardAt cfg addr netmask promisc with
  | false =>
      rw [hears, if_neg Bool.false_ne_true] at only
      rw [only, if_neg Bool.false_ne_true]
      exact ⟨rfl, [], [], (List.append_nil _).symm, .nil, .slnil, fun _ => rfl⟩
  | true =>
      rw [hears, if_pos rfl] at only
      rw [HubNode.Ready, only, if_pos rfl]
      refine ⟨rfl, ?_⟩
      rcases zmqhubRound_cases node.link publishable with ⟨-, received, arrives, queued⟩ | ⟨lacks, same⟩
      · refine ⟨[received], [packet], ?_, .cons arrives .nil, .refl _, fun _ => rfl⟩
        change node.routed ++ (zmqhubRound node.link _).qfifo.items.map Prod.snd = _
        rw [queued, List.map_append, ← List.append_assoc]
        rfl
      · refine ⟨[], [], ?_, .nil, List.nil_sublist _,
          fun has => absurd (has packet (List.mem_singleton_self packet)) lacks⟩
        change node.routed ++ (zmqhubRound node.link _).qfifo.items.map Prod.snd = _
        rw [same, List.append_nil]
        rfl

/-- A packet that the router takes has arrived before. -/
theorem HubNode.route_arrived (node : HubNode cfg qfifoLen) :
    node.route.arrived = node.arrived ∧ node.route.filters = node.filters := by
  rw [HubNode.route]
  cases taken : node.link.qfifo.dequeue with
  | none => exact ⟨rfl, rfl⟩
  | some pair =>
      obtain ⟨entry, qfifo⟩ := pair
      refine ⟨?_, rfl⟩
      rw [HubNode.arrived, HubNode.arrived, BoundedQueue.dequeue_eq_some.mp taken, List.append_assoc]
      rfl

/-- A sender that hears its own packet has freed its buffer before. -/
theorem HubNode.Listens.step {nodes : Nat → HubNode cfg qfifoLen} {node : Nat} {addr netmask : UInt16} {promisc : Bool}
    (listens : (nodes node).Listens addr netmask promisc) {input : HubInput}
    (publishable : ∀ packet ∈ published [input], packet.Publishable cfg) :
    (nodes node).Hears (hubStep nodes input node) (heardOf cfg addr netmask promisc [input])
      ((nodes node).Ready addr netmask promisc input) := by
  cases input with
  | publish sender packet =>
      have sound : packet.Publishable cfg := publishable packet (List.mem_singleton_self packet)
      by_cases own : node = sender
      · let freed : HubNode cfg qfifoLen :=
          { nodes node with link := (nodes node).link.free (idPrepend cfg packet).packet }
        have step : hubStep nodes (.publish sender packet) node = freed.receive (idPrepend cfg packet).bytes := by
          simp only [hubStep, zmqhubTx, own, Function.update_self, List.foldl_cons, List.foldl_nil, freed]
        have silent : (nodes node).Hears freed [] True := .of_same rfl rfl
        have heard := @HubNode.Listens.receive cfg qfifoLen freed addr netmask promisc ⟨listens.small, listens.filters⟩ sender
          packet sound
        have both := silent.trans heard
        rw [step]
        refine ⟨both.filters, ?_⟩
        obtain ⟨received, kept, grown, arrives, sub, all⟩ := both.arrived
        refine ⟨received, kept, grown, arrives, sub, fun ready => all ⟨trivial, fun heardPacket member => ?_⟩⟩
        obtain ⟨⟨fits, available⟩, room⟩ := ready heardPacket member
        exact ⟨⟨fits, available.trans_le (bufferFree_remaining _ _)⟩, room⟩
      · have step : hubStep nodes (.publish sender packet) node = (nodes node).receive (idPrepend cfg packet).bytes := by
          simp only [hubStep, zmqhubTx, Function.update_of_ne own, List.foldl_cons, List.foldl_nil]
        rw [step]
        exact listens.receive sender sound
  | route router =>
      have same : (hubStep nodes (.route router) node).arrived = (nodes node).arrived ∧
          (hubStep nodes (.route router) node).filters = (nodes node).filters := by
        by_cases own : node = router
        · subst own
          rw [hubStep, Function.update_self]
          exact (nodes node).route_arrived
        · simp only [hubStep, Function.update_of_ne own, and_self]
      have silent : (nodes node).Hears (hubStep nodes (.route router) node) [] True := .of_same same.2 same.1
      obtain ⟨filters, received, kept, grown, arrives, sub, all⟩ := silent
      exact ⟨filters, received, kept, grown, arrives, sub, fun _ => all trivial⟩

/-- The node has a buffer and space in its router queue for each packet for its address when it comes. -/
def AlwaysReady (node : Nat) (addr netmask : UInt16) (promisc : Bool) :
    (Nat → HubNode cfg qfifoLen) → List HubInput → Prop
  | _, [] => True
  | nodes, input :: rest => (nodes node).Ready addr netmask promisc input ∧
      AlwaysReady node addr netmask promisc (hubStep nodes input) rest

/-- Each node on this hub has its place as its address. -/
def hubNodes (node : Nat) : HubNode {} 1 :=
  ⟨emptyReceiver (bufferInit {} fun _ => default), hubSubscriptions {} (UInt16.ofNat node) 8 false, []⟩

/-- A packet for an address on the hub. -/
def hubPacket (dst : UInt16) : Packet := { (default : Packet) with length := 1, id := { (default : CspId) with dst } }

def hubInputs : List HubInput :=
  [.publish 3 (hubPacket 5), .publish 5 (hubPacket 7), .route 5, .publish 3 (hubPacket 16383)]

theorem hubInputs_publishable : ∀ packet ∈ published hubInputs, packet.Publishable {} := by
  simp only [published, hubInputs, List.filterMap_cons, List.filterMap_nil, List.mem_cons, List.not_mem_nil, or_false,
    forall_eq_or_imp, forall_eq]
  exact ⟨⟨⟨by decide, by decide, by decide, by decide, by decide, by decide⟩, by decide⟩,
    ⟨⟨by decide, by decide, by decide, by decide, by decide, by decide⟩, by decide⟩,
    ⟨⟨by decide, by decide, by decide, by decide, by decide, by decide⟩, by decide⟩⟩

end Libcsp

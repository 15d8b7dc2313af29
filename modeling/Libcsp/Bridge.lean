/-
This file models csp_bridge.c, and follows the packets through one bridge.
-/
import Libcsp.Duplicates
import Libcsp.Forwarding

namespace Libcsp

variable {cfg : Config}

/-! ## The bridge -/

/-- A node that runs `csp_bridge_work` in place of the router. The static pointers are NULL before
`csp_bridge_set_interfaces`. -/
structure Bridge (cfg : Config) where
  io : Io cfg
  dedup : Dedup
  bifA : Option Nat
  bifB : Option Nat

/-- This is `csp_bridge_set_interfaces`. -/
def Bridge.setInterfaces (bridge : Bridge cfg) (ifA ifB : Option Nat) : Bridge cfg :=
  { bridge with bifA := ifA, bifB := ifB }

/-- The opposing interface of the ingress. A packet of a third interface goes to the first one. -/
def Bridge.destif (bridge : Bridge cfg) (ingress : Nat) : Option Nat :=
  if some ingress = bridge.bifA then bridge.bifB else bridge.bifA

/-- The last statement of `csp_bridge_work`. -/
def bridgeSend (io : Io cfg) (packet : Packet) : Option Nat → Io cfg
  | none => { io with nullDeref := true }
  | some destif => sendDirectIface io packet.id (some packet) destif noViaAddress false

/-- This is `csp_bridge_work`. The input is what `csp_qfifo_read` returns. -/
def bridgeWork (bridge : Bridge cfg) (now : UInt32) (input : Option (Nat × Packet)) : Bridge cfg :=
  match input with
  | none => bridge
  | some (ingress, packet) =>
      match dedupIsDuplicate cfg now bridge.dedup packet with
      | (true, dedup, packet) => { bridge with dedup, io := bridge.io.free packet }
      | (false, dedup, packet) =>
          { bridge with dedup, io := bridgeSend (promiscAdd bridge.io packet) packet (bridge.destif ingress) }

/-! ## Transmissions -/

/-- What a receiver sees of a transmission: the interface, the via address, the header and the payload. -/
structure Outgoing where
  iface : Nat
  via : UInt16
  id : CspId
  payload : List UInt8
  deriving DecidableEq, Repr

/-- The transmissions that the interfaces accepted. -/
def Io.outgoing (io : Io cfg) : List Outgoing :=
  io.wire.map fun entry => ⟨entry.1, entry.2.1, entry.2.2.id, entry.2.2.payload⟩

/-- The interface accepts each packet of this length. -/
structure Iface.Takes (iface : Iface) (length : UInt16) : Prop where
  mtu : iface.mtu = 0 ∨ length ≤ iface.mtu
  nexthop : ∀ call, iface.nexthop call ≠ .error

/-- The interfaces stay as they are, but for the number of their calls. -/
def Io.SameIfaces (io after : Io cfg) : Prop :=
  ∀ iface, (after.ifaceAt iface).mtu = (io.ifaceAt iface).mtu ∧ (after.ifaceAt iface).nexthop = (io.ifaceAt iface).nexthop

theorem Io.SameIfaces.takes {io after : Io cfg} (same : io.SameIfaces after) {iface : Nat} {length : UInt16}
    (takes : (io.ifaceAt iface).Takes length) : (after.ifaceAt iface).Takes length :=
  ⟨(same iface).1 ▸ takes.mtu, (same iface).2 ▸ takes.nexthop⟩

/-- The output path adds at most this one transmission, and it adds it when the interface takes the packet. -/
structure Io.Adds (io after : Io cfg) (sent : Outgoing) (certain : Prop) : Prop where
  same : io.SameIfaces after
  sends : after.outgoing = io.outgoing ++ [sent] ∨ after.outgoing = io.outgoing ∧ ¬certain

theorem Io.countCall_same (io : Io cfg) (iface : Nat) : io.SameIfaces (io.countCall iface) := by
  intro other
  by_cases same : other = iface
  · subst same
    simp only [Io.countCall, Function.update_self, and_self]
  · simp only [Io.countCall, Function.update_of_ne same, and_self]

theorem callNexthop_adds (io : Io cfg) (iface : Nat) (via : UInt16) (packet : Packet) :
    io.Adds (callNexthop io iface via packet) ⟨iface, via, packet.id, packet.payload⟩
      (∀ call, (io.ifaceAt iface).nexthop call ≠ .error) := by
  simp only [callNexthop]
  cases result : (io.ifaceAt iface).nexthop (io.ifaceAt iface).handed with
  | error => exact ⟨io.countCall_same iface, .inr ⟨rfl, fun certain => certain _ result⟩⟩
  | keeps => exact ⟨io.countCall_same iface, .inl (by simp only [Io.outgoing, List.map_append]; rfl)⟩
  | frees => exact ⟨io.countCall_same iface, .inl (by simp only [Io.outgoing, List.map_append]; rfl)⟩

/-- A packet that is forwarded from another node goes out as it is, or it is freed. -/
theorem sendDirectIface_adds (io : Io cfg) (packet : Packet) (iface : Nat) (via : UInt16) :
    io.Adds (sendDirectIface io packet.id (some packet) iface via false) ⟨iface, via, packet.id, packet.payload⟩
      ((io.ifaceAt iface).Takes packet.length) := by
  simp only [sendDirectIface, Bool.false_and, sendTrailers, Bool.false_eq_true, if_false]
  split
  · rename_i tooLong
    simp only [Bool.and_eq_true, decide_eq_true_eq] at tooLong
    refine ⟨fun _ => ⟨rfl, rfl⟩, .inr ⟨rfl, fun takes => ?_⟩⟩
    rcases takes.mtu with none | fits
    · rw [none] at tooLong
      exact absurd tooLong.1 (by decide)
    · exact absurd tooLong.2 (UInt16.not_lt.mpr fits)
  · have called := callNexthop_adds io iface via packet
    exact ⟨called.same, called.sends.imp_right fun sent => ⟨sent.1, fun takes => sent.2 takes.nexthop⟩⟩

/-! ## Runs of a bridge -/

/-- A packet at an interface of the bridge. -/
structure BridgeArrival extends DedupArrival where
  ingress : Nat

/-- One call of `csp_bridge_work` for each arrival. -/
def Bridge.run (bridge : Bridge cfg) (arrivals : List BridgeArrival) : Bridge cfg :=
  arrivals.foldl (fun bridge arrival => bridgeWork bridge arrival.clock (some (arrival.ingress, arrival.packet))) bridge

/-- The arrivals that are no duplicates for the check. -/
def passedArrivals (cfg : Config) : Dedup → List BridgeArrival → List BridgeArrival
  | _, [] => []
  | dedup, arrival :: rest =>
      let check := dedupIsDuplicate cfg arrival.clock dedup arrival.packet
      if check.1 then passedArrivals cfg check.2.1 rest else arrival :: passedArrivals cfg check.2.1 rest

/-- The arrival as it goes out of the opposing interface. -/
def BridgeArrival.across (ifA ifB : Nat) (arrival : BridgeArrival) : Outgoing where
  iface := if arrival.ingress = ifA then ifB else ifA
  via := noViaAddress
  id := arrival.packet.id
  payload := arrival.packet.payload

/-- The bridge joins two interfaces. -/
structure Bridge.Joins (bridge : Bridge cfg) (ifA ifB : Nat) : Prop where
  bifA : bridge.bifA = some ifA
  bifB : bridge.bifB = some ifB

theorem Bridge.Joins.destif {bridge : Bridge cfg} {ifA ifB : Nat} (joins : bridge.Joins ifA ifB) (arrival : BridgeArrival) :
    bridge.destif arrival.ingress = some (arrival.across ifA ifB).iface := by
  rw [Bridge.destif, joins.bifA, joins.bifB]
  simp only [BridgeArrival.across, Option.some.injEq, apply_ite some]

/-- One call forwards a packet that is no duplicate, and frees a duplicate. -/
theorem bridgeWork_cases {bridge : Bridge cfg} {ifA ifB : Nat} (joins : bridge.Joins ifA ifB) (arrival : BridgeArrival) :
    let after := bridgeWork bridge arrival.clock (some (arrival.ingress, arrival.packet))
    let check := dedupIsDuplicate cfg arrival.clock bridge.dedup arrival.packet
    after.Joins ifA ifB ∧ after.dedup = check.2.1 ∧
      (check.1 = true → after.io.outgoing = bridge.io.outgoing ∧ bridge.io.SameIfaces after.io) ∧
      (check.1 = false → bridge.io.Adds after.io (arrival.across ifA ifB)
        ((bridge.io.ifaceAt (arrival.across ifA ifB).iface).Takes arrival.packet.length)) := by
  have destif := joins.destif arrival
  have checked := dedupIsDuplicate_packet cfg arrival.clock bridge.dedup arrival.packet
  simp only [bridgeWork]
  generalize dedupIsDuplicate cfg arrival.clock bridge.dedup arrival.packet = check at checked
  obtain ⟨duplicate, dedup, packet⟩ := check
  obtain ⟨id, payload⟩ := checked
  have length := Packet.length_of_payload payload
  cases duplicate with
  | true => exact ⟨⟨joins.bifA, joins.bifB⟩, rfl, fun _ => ⟨rfl, fun _ => ⟨rfl, rfl⟩⟩, fun passed => by cases passed⟩
  | false =>
      refine ⟨⟨joins.bifA, joins.bifB⟩, rfl, (fun duplicate => by cases duplicate), fun _ => ?_⟩
      obtain ⟨pool, promiscQueue, kept⟩ := promiscAdd_fields bridge.io packet
      have sent := sendDirectIface_adds { bridge.io with pool, promiscQueue } packet
        (arrival.across ifA ifB).iface noViaAddress
      simp only [kept, destif, bridgeSend]
      simp only at id payload length
      rw [id, payload, length] at sent
      rw [id]
      exact ⟨sent.same, sent.sends⟩

/-- A bridge sends the packets that are no duplicates, each one unchanged out of the opposing interface, in the order
of their arrival and not more than once. It sends all of them when the interfaces take them. -/
theorem bridge_forwards {bridge : Bridge cfg} {ifA ifB : Nat} (joins : bridge.Joins ifA ifB)
    (arrivals : List BridgeArrival) :
    ∃ forwarded : List BridgeArrival, forwarded.Sublist (passedArrivals cfg bridge.dedup arrivals) ∧
      (bridge.run arrivals).io.outgoing =
        bridge.io.outgoing ++ forwarded.map (BridgeArrival.across ifA ifB) ∧
      ((∀ arrival ∈ arrivals, (bridge.io.ifaceAt (arrival.across ifA ifB).iface).Takes arrival.packet.length) →
        forwarded = passedArrivals cfg bridge.dedup arrivals) := by
  induction arrivals generalizing bridge with
  | nil => exact ⟨[], .slnil, (List.append_nil _).symm, fun _ => rfl⟩
  | cons arrival rest ih =>
      obtain ⟨joined, dedup, duplicate, passes⟩ := bridgeWork_cases joins arrival
      obtain ⟨forwarded, sub, sent, all⟩ := ih joined
      have later : ∀ {io : Io cfg}, bridge.io.SameIfaces io →
          (∀ other ∈ arrival :: rest, (bridge.io.ifaceAt (other.across ifA ifB).iface).Takes other.packet.length) →
            ∀ other ∈ rest, (io.ifaceAt (other.across ifA ifB).iface).Takes other.packet.length :=
        fun same takes other member => same.takes (takes other (List.mem_cons_of_mem arrival member))
      rw [dedup] at sub all
      change ∃ forwarded', _ ∧ (Bridge.run _ rest).io.outgoing = _ ∧ _
      rw [sent, passedArrivals]
      cases check : (dedupIsDuplicate cfg arrival.clock bridge.dedup arrival.packet).1 with
      | true =>
          obtain ⟨silent, same⟩ := duplicate check
          rw [silent, if_pos rfl]
          exact ⟨forwarded, sub, rfl, fun takes => all (later same takes)⟩
      | false =>
          obtain ⟨same, sends⟩ := passes check
          rw [if_neg Bool.false_ne_true]
          rcases sends with sends | ⟨silent, refused⟩
          · refine ⟨arrival :: forwarded, sub.cons_cons arrival, ?_, fun takes => ?_⟩
            · rw [sends, List.append_assoc]
              rfl
            · rw [all (later same takes)]
          · refine ⟨forwarded, sub.cons arrival, by rw [silent], fun takes => ?_⟩
            exact absurd (takes arrival List.mem_cons_self) refused

/-- A bridge between the interfaces behind the loopback. -/
def twoPortBridge : Bridge {} :=
  Bridge.setInterfaces
    { io := Io.init {} (fun _ => default) [{ (default : Iface) with nexthop := fun _ => .frees },
        { (default : Iface) with nexthop := fun _ => .frees }] []
      dedup := default
      bifA := none
      bifB := none } (some 1) (some 2)

/-- A packet comes to the first interface, and it comes back to the second one after 5 ms. -/
def echoArrivals (packet : Packet) : List BridgeArrival := [⟨⟨1000, packet⟩, 1⟩, ⟨⟨1005, packet⟩, 2⟩]

theorem twoPortBridge_forwards :
    (twoPortBridge.run (echoArrivals default)).io.outgoing = [⟨2, noViaAddress, default, []⟩] := by
  obtain ⟨forwarded, -, sent, all⟩ := @bridge_forwards {} twoPortBridge 1 2 ⟨rfl, rfl⟩ (echoArrivals default)
  have passed : passedArrivals {} twoPortBridge.dedup (echoArrivals default) = [⟨⟨1000, default⟩, 1⟩] := rfl
  have takes : ∀ length, (twoPortBridge.io.ifaceAt 1).Takes length ∧ (twoPortBridge.io.ifaceAt 2).Takes length :=
    fun length => ⟨⟨.inl rfl, fun _ => nofun⟩, ⟨.inl rfl, fun _ => nofun⟩⟩
  rw [sent, all, passed]
  · rfl
  · simp only [echoArrivals, List.mem_cons, List.not_mem_nil, or_false, forall_eq_or_imp, forall_eq]
    exact ⟨(takes _).2, (takes _).1⟩

end Libcsp

/-
This file states when csp_route_work takes a packet as one for this node.
-/
import Libcsp.Forwarding
import Libcsp.LongestPrefix

namespace Libcsp
open BitField

variable {cfg : Config}

/-- The host bits of the address are all ones. -/
def hostOnes (cfg : Config) (netmask addr : UInt16) : Prop :=
  addr.toNat % 2 ^ (idGetHostBits cfg - netmask.toNat) = 2 ^ (idGetHostBits cfg - netmask.toNat) - 1

/-- The address of the interface, or the broadcast address of its subnet. -/
def OwnAddress (cfg : Config) (iface : Iface) (addr : UInt16) : Prop :=
  addr = iface.addr ∨ addr ∈ network cfg (iface.addr, iface.netmask) ∧ hostOnes cfg iface.netmask addr

theorem idIsBroadcast_iff (addr netmask : UInt16) :
    idIsBroadcast cfg addr netmask ↔ hostOnes cfg netmask addr := by
  have wide := Nat.pow_le_pow_right (by decide : 0 < 2)
    (Nat.le_trans (Nat.sub_le (idGetHostBits cfg) netmask.toNat) (idGetHostBits_le cfg))
  have positive := Nat.two_pow_pos (idGetHostBits cfg - netmask.toNat)
  have small : 2 ^ (idGetHostBits cfg - netmask.toNat) - 1 < UInt16.size :=
    show _ < 2 ^ 16 by omega
  rw [idIsBroadcast, hostOnes, beq_iff_eq, ← UInt16.toNat_inj, UInt16.toNat_and,
    UInt16.toNat_ofNat_of_lt' small, Nat.and_two_pow_sub_one_eq_mod]

/-- The router takes the packet as one for this node exactly when it has an own address of the
ingress interface, and forwards each other packet that is no duplicate. -/
structure DecidesByOwnAddress (node : Node cfg) (ingress : Nat) (packet : Packet) : Prop where
  decision : isToMe cfg (node.stack.io.ifaceAt ingress) packet ↔
    OwnAddress cfg (node.stack.io.ifaceAt ingress) packet.id.dst
  forwards : ¬OwnAddress cfg (node.stack.io.ifaceAt ingress) packet.id.dst →
    ∃ io checked, node.stack.io.SameTopology io ∧ checked.id = packet.id ∧ checked.payload = packet.payload ∧
      ((routeInput node ingress packet).finish.stack.io = routeForward io ingress checked ∨
        dedupApplies node.dedupMode false ∧ (dedupIsDuplicate cfg node.stack.now node.dedup packet).1 ∧
          (routeInput node ingress packet).finish.stack.io = io.free checked)

/-- The decision of the router follows the own addresses of the interface exactly when the host bits
of the destination are not all ones, or the destination is in the subnet of the interface. -/
theorem localDelivery_iff (node : Node cfg) (ingress : Nat) (packet : Packet) :
    DecidesByOwnAddress node ingress packet ↔
      ¬hostOnes cfg (node.stack.io.ifaceAt ingress).netmask packet.id.dst ∨
        packet.id.dst ∈ network cfg ((node.stack.io.ifaceAt ingress).addr, (node.stack.io.ifaceAt ingress).netmask) := by
  generalize ingressIs : node.stack.io.ifaceAt ingress = iface
  have toMe : isToMe cfg iface packet ↔ packet.id.dst = iface.addr ∨ hostOnes cfg iface.netmask packet.id.dst := by
    rw [isToMe, Bool.or_eq_true, idIsBroadcast_iff, beq_iff_eq, eq_comm]
  have decision : (isToMe cfg iface packet ↔ OwnAddress cfg iface packet.id.dst) ↔
      ¬hostOnes cfg iface.netmask packet.id.dst ∨ packet.id.dst ∈ network cfg (iface.addr, iface.netmask) := by
    rw [toMe, OwnAddress]
    constructor
    · intro same
      by_cases ones : hostOnes cfg iface.netmask packet.id.dst
      · obtain equal | ⟨inside, -⟩ := same.mp (.inr ones)
        · rw [equal]
          exact .inr rfl
        · exact .inr inside
      · exact .inl ones
    · rintro (hosts | inside)
      · simp [hosts]
      · simp [inside]
  constructor
  · rintro ⟨same, -⟩
    rw [ingressIs] at same
    exact decision.mp same
  · intro condition
    have same := decision.mpr condition
    refine ⟨by rwa [ingressIs], ?_⟩
    intro other
    rw [ingressIs, ← same, Bool.not_eq_true, ← ingressIs] at other
    exact routeInput_forwards other

/-- The packet has the broadcast address of the subnet with the addresses 64 to 127. -/
def neighbourBroadcast : Packet :=
  { (default : Packet) with buf := 100, length := 4, id := { (default : CspId) with src := 5, dst := 127 } }

/-- The router takes the broadcast of another subnet as one for this node. -/
theorem neighbourBroadcast_swallowed : ¬DecidesByOwnAddress defaultRouteNode 1 neighbourBroadcast := by
  intro decides
  have taken : isToMe {} (defaultRouteNode.stack.io.ifaceAt 1) neighbourBroadcast = true := by decide +kernel
  obtain same | ⟨inside, -⟩ := decides.decision.mp taken
  · exact absurd same (by decide +kernel)
  · have networks : (127 : Nat) / 2 ^ (14 - 8) = 1 / 2 ^ (14 - 8) := inside
    exact absurd networks (by decide)

end Libcsp

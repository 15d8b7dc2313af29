/-
This file models the interface list of csp_iflist.c and the route lookup of csp_rtable_cidr.c.
-/
import Libcsp.Types

namespace Libcsp

/-- A next-hop function fails, keeps the packet, or frees it after the transmission. -/
inductive TxResult where
  | error
  | keeps
  | frees
  deriving DecidableEq, Repr

/-- An interface answers each call of its next-hop function. The calls are numbered. -/
structure Iface where
  addr : UInt16
  netmask : UInt16
  mtu : UInt16
  nexthop : Nat → TxResult
  /-- The number of calls so far. -/
  handed : Nat := 0

instance : Inhabited Iface := ⟨{ addr := 0, netmask := 0, mtu := 0, nexthop := fun _ => .error }⟩

/-- The address of the static loopback interface `csp_if_lo`. -/
def ifLo : Nat := 0

/-- This is `CSP_NO_VIA_ADDRESS`. -/
def noViaAddress : UInt16 := 0xFFFF

def idGetHostBits (cfg : Config) : Nat := if cfg.version = 2 then 14 else 5

/-- This is `csp_id_is_broadcast`. -/
def idIsBroadcast (cfg : Config) (addr netmask : UInt16) : Bool :=
  let hostmask : UInt16 := UInt16.ofNat (2 ^ (idGetHostBits cfg - netmask.toNat) - 1)
  addr &&& hostmask == hostmask

/-- This is `csp_iflist_is_within_subnet`. -/
def iflistIsWithinSubnet (cfg : Config) (addr : UInt16) : Option Iface → Bool
  | none => false
  | some ifc =>
      let netmask := UInt16.ofNat
        ((2 ^ ifc.netmask.toNat - 1) * 2 ^ (idGetHostBits cfg - ifc.netmask.toNat))
      ifc.addr &&& netmask == addr &&& netmask

/-- One entry of the routing table. -/
structure Route where
  address : UInt16
  netmask : UInt16
  via : UInt16
  iface : Nat
  deriving DecidableEq, Repr

/-- The network part of the address equals the network of the entry. -/
def Route.covers (cfg : Config) (route : Route) (addr : UInt16) : Bool :=
  let hostbits := UInt16.ofNat (2 ^ (idGetHostBits cfg - route.netmask.toNat) - 1)
  route.address &&& ~~~hostbits == addr &&& ~~~hostbits

/-- The search keeps the longest match so far and prefers a later entry. -/
def rtableSearch (cfg : Config) (addr : UInt16) : Option Route → UInt16 → List Route → Option Route
  | best, _, [] => best
  | best, mask, route :: rest =>
      if route.covers cfg addr && route.netmask ≥ mask then
        rtableSearch cfg addr (some route) route.netmask rest
      else rtableSearch cfg addr best mask rest

/-- This is `csp_rtable_find_route` on the entries below `rtable_inptr`. -/
def rtableFindRoute (cfg : Config) (rtable : List Route) (addr : UInt16) : Option Route :=
  rtableSearch cfg addr none 0 rtable

end Libcsp

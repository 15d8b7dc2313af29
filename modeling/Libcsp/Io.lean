/-
This file models the output path of csp_io.c: csp_send_direct and csp_send_direct_iface.
-/
import Libcsp.Buffer
import Libcsp.Iface

namespace Libcsp

variable {cfg : Config}

/-- The output path reads and writes this part of the static data. -/
structure Io (cfg : Config) where
  pool : Pool cfg
  ifaceAt : Nat → Iface
  /-- The interface list in the order of its `next` pointers. -/
  interfaces : List Nat
  rtable : List Route
  promiscEnabled : Bool
  promiscQueue : BoundedQueue Packet cfg.connRxqueueLen
  /-- History: the packets that callers gave to `csp_send_direct`. -/
  outbox : List (CspId × Packet)
  /-- History: the packets that a next hop accepted, with its interface and via address. -/
  wire : List (Nat × UInt16 × Packet)
  /-- History: the packets of `wire` that the next hop still owns. -/
  kept : List Packet
  /-- The code has dereferenced a NULL packet. -/
  nullDeref : Bool

/-- The loopback interface hands each packet to the router queue. -/
def loopback (cfg : Config) : Iface :=
  { addr := 0, netmask := UInt16.ofNat (idGetHostBits cfg), mtu := 0, nexthop := fun _ => .keeps }

/-- The output path after `csp_init` with further interfaces behind the loopback. -/
def Io.init (cfg : Config) (content : Nat → Packet) (ifaces : List Iface) (rtable : List Route) :
    Io cfg :=
  { pool := bufferInit cfg content
    ifaceAt := fun iface => (loopback cfg :: ifaces).getD iface default
    interfaces := List.range (ifaces.length + 1)
    rtable
    promiscEnabled := false
    promiscQueue := .empty
    outbox := []
    wire := []
    kept := []
    nullDeref := false }

def Io.free (io : Io cfg) (packet : Packet) : Io cfg :=
  { io with pool := bufferFree io.pool (some packet) }

/-- This is `csp_hmac_append` without the header. A failure returns the unchanged packet. -/
def hmacAppend (cfg : Config) (packet : Packet) : Except Packet Packet :=
  if packet.length.toNat + 4 > cfg.bufferSize then .error packet
  else .ok { packet with
    length := packet.length + 4
    mem := putBe32 packet.mem (dataAt + packet.length.toNat) (cfg.hmacMemory packet.payload) }

/-- This is `csp_crc32_append`. A failure returns the unchanged packet. -/
def crc32Append (cfg : Config) (packet : Packet) : Except Packet Packet :=
  if packet.length.toNat + 4 > cfg.bufferSize then .error packet
  else .ok { packet with
    length := packet.length + 4
    mem := putBe32 packet.mem (dataAt + packet.length.toNat) (cfg.crc32Memory packet.payload) }

/-- Packets of this node get the trailers that the header flags ask for. -/
def sendTrailers (cfg : Config) (idout : CspId) (packet : Packet) (fromMe : Bool) :
    Except Packet Packet :=
  if fromMe then do
    let packet ← if idout.has cspFHmac then hmacAppend cfg packet else .ok packet
    if idout.has cspFCrc32 then crc32Append cfg packet else .ok packet
  else .ok packet

/-- This is `csp_promisc_add`. -/
def promiscAdd (io : Io cfg) (packet : Packet) : Io cfg :=
  if io.promiscEnabled then
    match bufferClone io.pool (some packet) with
    | (none, pool) => { io with pool }
    | (some copy, pool) =>
        match io.promiscQueue.enqueue copy with
        | none => { io with pool := bufferFree pool (some copy) }
        | some promiscQueue => { io with pool, promiscQueue }
  else io

/-- The history counts a call of the next-hop function. -/
def Io.countCall (io : Io cfg) (iface : Nat) : Io cfg :=
  { io with
    ifaceAt := Function.update io.ifaceAt iface
      { io.ifaceAt iface with handed := (io.ifaceAt iface).handed + 1 } }

/-- The interface transmits one packet. -/
def callNexthop (io : Io cfg) (iface : Nat) (via : UInt16) (packet : Packet) : Io cfg :=
  let result := (io.ifaceAt iface).nexthop (io.ifaceAt iface).handed
  let counted := io.countCall iface
  match result with
  | .error => counted.free packet
  | .keeps => { counted with
      wire := counted.wire ++ [(iface, via, packet)]
      kept := counted.kept ++ [packet] }
  | .frees => { counted.free packet with wire := counted.wire ++ [(iface, via, packet)] }

/-- This is `csp_send_direct_iface`. The output hook reads the packet first. -/
def sendDirectIface (io : Io cfg) (idout : CspId) (packet : Option Packet) (iface : Nat)
    (via : UInt16) (fromMe : Bool) : Io cfg :=
  match packet with
  | none => { io with nullDeref := true }
  | some packet =>
      let packet := { packet with id := idout }
      let io := if fromMe && iface != ifLo then promiscAdd io packet else io
      match sendTrailers cfg idout packet fromMe with
      | .error packet => io.free packet
      | .ok packet =>
          if (io.ifaceAt iface).mtu > 0 && packet.length > (io.ifaceAt iface).mtu then io.free packet
          else callNexthop io iface via packet

/-- `csp_iflist_get_by_subnet` returns this interface for the destination, and split horizon
does not exclude it. -/
def sendsOn (io : Io cfg) (dst : UInt16) (routedFrom : Option Nat) (iface : Nat) : Bool :=
  (io.ifaceAt iface).netmask != 0 &&
    iflistIsWithinSubnet cfg dst (some (io.ifaceAt iface)) &&
    routedFrom != some iface &&
    !iflistIsWithinSubnet cfg (io.ifaceAt iface).addr (routedFrom.map io.ifaceAt)

/-- The loop of `csp_send_direct` clones the packet once for each interface on the subnet. -/
def sendDirectLoop (idout : CspId) (packet : Option Packet) (routedFrom : Option Nat) :
    List Nat → Bool × Io cfg → Bool × Io cfg
  | [], state => state
  | iface :: rest, (found, io) =>
      if sendsOn io idout.dst routedFrom iface then
        let idout' := { idout with src := (io.ifaceAt iface).addr }
        let (copy, pool) := bufferClone io.pool packet
        let io := sendDirectIface { io with pool } idout' copy iface noViaAddress routedFrom.isNone
        sendDirectLoop idout packet routedFrom rest (true, io)
      else sendDirectLoop idout packet routedFrom rest (found, io)

/-- The body of `csp_send_direct`, which may be called with NULL. -/
def sendDirectBody (io : Io cfg) (idout : CspId) (packet : Option Packet)
    (routedFrom : Option Nat) : Io cfg :=
  match sendDirectLoop idout packet routedFrom io.interfaces (false, io) with
  | (true, io) => { io with pool := bufferFree io.pool packet }
  | (false, io) =>
      match rtableFindRoute cfg io.rtable idout.dst with
      | some route => sendDirectIface io idout packet route.iface route.via routedFrom.isNone
      | none => { io with pool := bufferFree io.pool packet }

/-- This is `csp_send_direct`. The history records each packet that it gets. -/
def sendDirect (io : Io cfg) (idout : CspId) (packet : Option Packet)
    (routedFrom : Option Nat) : Io cfg :=
  let io := { io with outbox := io.outbox ++ (packet.map fun packet => (idout, packet)).toList }
  sendDirectBody io idout packet routedFrom

end Libcsp

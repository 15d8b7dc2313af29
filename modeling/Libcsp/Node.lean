/-
This file models a whole node: the connection table, the port table, csp_connect and csp_route_work.
-/
import Libcsp.Route
import Libcsp.Security

namespace Libcsp

variable {cfg : Config}

/-- An entry of the port table of csp_port.c. -/
inductive Port where
  | closed
  | open (socket : Nat)
  | openCb
  deriving DecidableEq, Repr, Inhabited

/-- The node has the connection slots, the ports, and the static data of the router. -/
structure Node (cfg : Config) extends Slots cfg where
  /-- The static counter `csp_conn_last_given`. -/
  lastGiven : UInt8
  /-- The entry behind `CSP_PORT_MAX_BIND` is for `CSP_ANY`. -/
  ports : Nat → Port
  dedup : Dedup
  dedupMode : DedupMode
  /-- The value of `csp_conf.conn_dfl_so`. -/
  connDflSo : UInt32
  /-- History: the packets that the router gave to callbacks. -/
  calledBack : List Packet
  /-- History: userspace has the handle of this slot and has not closed it. -/
  held : Nat → Bool
  /-- History: `csp_rdp_connect` waits on this slot, and may retry. -/
  waiting : Nat → Option Bool

namespace Node

/-- The result of a call on one slot. A post to an accept queue hands the slot to userspace. -/
def put (node : Node cfg) (slot : Nat) (ctx : Ctx cfg) : Node cfg :=
  { node with
    toSlots := node.toSlots.put slot ctx
    held :=
      if ctx.stack.posted = node.stack.posted then node.held
      else Function.update node.held slot true }

def setIo (node : Node cfg) (io : Io cfg) : Node cfg := { node with stack.io := io }

def free (node : Node cfg) (packet : Packet) : Node cfg := node.setIo (node.stack.io.free packet)

end Node

/-! ## The connection table -/

/-- This is `csp_conn_init` on one slot. The other fields keep arbitrary content. -/
def connInit (options : RdpOptions) (conn : Conn cfg) (slot : Nat) : Conn cfg :=
  { conn with
    index := slot
    sportOutgoing := UInt8.ofNat (cfg.portMaxBind + 1 + slot)
    state := .closed
    idin.flags := 0
    rxQueue := .empty
    rdp := rdpInit options conn.rdp }

/-- The conditions of `csp_conn_find_existing` on one slot. -/
def Conn.accepts (conn : Conn cfg) (id : CspId) : Bool :=
  conn.state == .open && conn.idin.dport == id.dport &&
    (conn.type == .client || (conn.idin.sport == id.sport && conn.idin.src == id.src))

/-- This is `csp_conn_find_existing`. -/
def connFindExisting (node : Node cfg) (id : CspId) : Option Nat :=
  (List.range cfg.connMax).find? fun slot => (node.conns slot).accepts id

/-- The search of `csp_conn_allocate` starts behind the slot that it gave last. -/
def connSearch (conns : Nat → Conn cfg) : Nat → Nat → Option Nat
  | 0, _ => none
  | count + 1, last =>
      let slot := (last + 1) % cfg.connMax
      if (conns slot).state = .closed then some slot else connSearch conns count slot

/-- This is `csp_conn_allocate`. -/
def connAllocate (node : Node cfg) (type : ConnType) : Option Nat × Node cfg :=
  match connSearch node.conns cfg.connMax node.lastGiven.toNat with
  | none => (none, node)
  | some slot =>
      let conn := { node.conns slot with
        state := .open, timestamp := 0, type, idin.flags := 0, idout.flags := 0 }
      (some slot, { node with
        conns := Function.update node.conns slot conn
        lastGiven := UInt8.ofNat slot
        held := Function.update node.held slot false
        waiting := Function.update node.waiting slot none })

/-- This is `csp_conn_new`. -/
def connNew (node : Node cfg) (idin idout : CspId) (type : ConnType) : Option Nat × Node cfg :=
  match connAllocate node type with
  | (none, node) => (none, node)
  | (some slot, node) =>
      let ctx := node.ctx slot
      let conn := { ctx.conn with idin, idout, timestamp := ctx.stack.now }
      (some slot, node.put slot (connFlushRxQueue { ctx with conn }))

/-! ## Calls of userspace -/

/-- The header flags that the options of `csp_connect` ask for. -/
def connectFlags (opts : UInt32) : UInt8 :=
  (if hasOpt opts cspSoRdpReq then cspFRdp else 0) |||
    (if hasOpt opts cspSoHmacReq then cspFHmac else 0) |||
      (if hasOpt opts cspSoCrc32Req then cspFCrc32 else 0)

/-- The default options are forced on each connection, and `CSP_O_NOCRC32` wins. -/
def connectOpts (connDflSo opts : UInt32) : UInt32 :=
  let opts := opts ||| connDflSo
  if hasOpt opts cspSoCrc32Prohib then opts &&& ~~~cspSoCrc32Req else opts

def Node.setWaiting (node : Node cfg) (slot : Nat) (waiting : Option Bool) : Node cfg :=
  { node with waiting := Function.update node.waiting slot waiting }

def Node.setHeld (node : Node cfg) (slot : Nat) (held : Bool) : Node cfg :=
  { node with held := Function.update node.held slot held }

/-- The end of `csp_connect`: a failed connect closes the slot, and a good one returns it. -/
def connectReturns (node : Node cfg) (slot : Nat) (retry : Bool) (result : Option CspErr × Ctx cfg) :
    Node cfg :=
  match result with
  | (none, ctx) => (node.put slot ctx).setWaiting slot (some retry)
  | (some .none, ctx) => ((node.put slot ctx).setWaiting slot none).setHeld slot true
  | (some _, ctx) => (node.put slot (cspClose ctx)).setWaiting slot none

/-- This is `csp_connect` up to the wait of `csp_rdp_connect`. -/
def cspConnect (node : Node cfg) (prio : UInt8) (dest : UInt16) (dport : UInt8) (opts : UInt32) :
    Node cfg :=
  let opts := connectOpts node.connDflSo opts
  let flags := connectFlags opts
  let incomingId := { pri := prio, flags, src := dest, dst := 0, dport := 0, sport := dport }
  let outgoingId := { pri := prio, flags, src := 0, dst := dest, dport, sport := 0 }
  match connNew node incomingId outgoingId .client with
  | (none, node) => node
  | (some slot, node) =>
      let conn := node.conns slot
      let conn := { conn with
        idout.sport := conn.sportOutgoing
        idin.dport := conn.sportOutgoing
        destSocket := none
        opts }
      let ctx : Ctx cfg := ⟨conn, node.stack⟩
      if flags &&& cspFRdp != 0 then connectReturns node slot true (rdpConnectStart ctx)
      else (node.put slot ctx).setHeld slot true

/-- `csp_rdp_connect` ends its wait. -/
def connectWake (node : Node cfg) (slot : Nat) (retry : Bool) : Node cfg :=
  connectReturns node slot false (rdpConnectWake (node.ctx slot) retry)

/-- This is `csp_sendto`. The option `CSP_O_SAME` keeps the header flags of the packet. -/
def cspSendto (io : Io cfg) (prio : UInt8) (dest : UInt16) (dport srcPort : UInt8) (opts : UInt32)
    (packet : Packet) : Io cfg :=
  let flags := if hasOpt opts cspSoSame then packet.id.flags else 0
  if hasOpt opts cspSoRdpReq then io.free packet
  else
    let flags := if hasOpt opts cspSoHmacReq then flags ||| cspFHmac else flags
    let flags := if hasOpt opts cspSoCrc32Req then flags ||| cspFCrc32 else flags
    let id := { pri := prio, flags, src := 0, dst := dest, dport, sport := srcPort }
    sendDirect io id (some { packet with id }) none

/-- This is `csp_accept`, which takes the handle out of the queue of the socket. -/
def cspAccept (node : Node cfg) (socket : Nat) : Node cfg :=
  match (node.stack.sockets socket).rxQueue.dequeue with
  | none => node
  | some (_, rxQueue) => { node with
      stack.sockets := Function.update node.stack.sockets socket
        { node.stack.sockets socket with rxQueue } }

/-! ## The router -/

/-- This is `csp_conn_check_timeouts` on a list of slots. -/
def checkTimeoutsOn : List Nat → Node cfg → Node cfg
  | [], node => node
  | slot :: rest, node =>
      let conn := node.conns slot
      if conn.state = .open && conn.idin.has cspFRdp then
        checkTimeoutsOn rest (node.put slot (rdpCheckTimeouts (node.ctx slot)))
      else checkTimeoutsOn rest node

/-- This is `csp_conn_check_timeouts`. -/
def connCheckTimeouts (node : Node cfg) : Node cfg := checkTimeoutsOn (List.range cfg.connMax) node

/-- The packet is for this node: it has the address or the broadcast address of the interface. -/
def isToMe (cfg : Config) (iface : Iface) (packet : Packet) : Bool :=
  iface.addr == packet.id.dst || idIsBroadcast cfg packet.id.dst iface.netmask

/-- A packet for another node leaves through `csp_send_direct`. -/
def routeForward (io : Io cfg) (ingress : Nat) (packet : Packet) : Io cfg :=
  sendDirect io packet.id (some packet) (some ingress)

/-- This is `csp_port_get_callback`. -/
def portGetCallback (node : Node cfg) (port : UInt8) : Bool :=
  if port.toNat > cfg.portMaxBind then false
  else
    match node.ports port.toNat with
    | .openCb => true
    | .open _ => false
    | .closed => node.ports (cfg.portMaxBind + 1) = .openCb

/-- This is `csp_port_get_socket`. -/
def portGetSocket (node : Node cfg) (port : UInt8) : Option Nat :=
  if port.toNat > cfg.portMaxBind then none
  else
    match node.ports port.toNat with
    | .open socket => some socket
    | .openCb => none
    | .closed =>
        match node.ports (cfg.portMaxBind + 1) with
        | .open socket => some socket
        | _ => none

/-- The router is done with the packet, or hands it to a connection. -/
inductive Routed (cfg : Config) where
  | done (node : Node cfg)
  | deliver (node : Node cfg) (slot : Nat) (packet : Packet)

/-- A new connection answers to the source of its first packet. -/
def answerId (id : CspId) : CspId :=
  { pri := id.pri, flags := id.flags, src := id.dst, dst := id.src, dport := id.sport, sport := id.dport }

/-- The part of `csp_route_work` that looks for the connection of the packet or creates it. -/
def routeConnection (node : Node cfg) (socket : Option Nat) (packet : Packet) : Routed cfg :=
  match connFindExisting node packet.id with
  | some slot =>
      match routeSecurityCheck cfg (node.conns slot).opts packet with
      | (.none, packet) => .deliver node slot packet
      | (_, packet) => .done (node.free packet)
  | none =>
      match socket with
      | none => .done (node.free packet)
      | some socket =>
          match routeSecurityCheck cfg (node.stack.sockets socket).opts packet with
          | (.none, packet) =>
              match connNew node packet.id (answerId packet.id) .server with
              | (none, node) => .done (node.free packet)
              | (some slot, node) =>
                  let conn := { node.conns slot with
                    destSocket := some socket, opts := (node.stack.sockets socket).opts }
                  .deliver { node with conns := Function.update node.conns slot conn } slot packet
          | (_, packet) => .done (node.free packet)

/-- A connection-less socket queues the packet itself. -/
def routeConnless (node : Node cfg) (socket : Nat) (packet : Packet) : Node cfg :=
  match routeSecurityCheck cfg (node.stack.sockets socket).opts packet with
  | (.none, packet) =>
      match (node.stack.sockets socket).rxQueue.enqueue (.inl packet) with
      | none => node.free packet
      | some rxQueue => { node with
          stack.sockets := Function.update node.stack.sockets socket
            { node.stack.sockets socket with rxQueue } }
  | (_, packet) => node.free packet

/-- The part of `csp_route_work` for a packet that is for this node. -/
def routeLocal (node : Node cfg) (packet : Packet) : Routed cfg :=
  if portGetCallback node packet.id.dport then
    match routeSecurityCheck cfg 0 packet with
    | (.none, packet) => .done { node with calledBack := node.calledBack ++ [packet] }
    | (_, packet) => .done (node.free packet)
  else
    let socket := portGetSocket node packet.id.dport
    match socket.filter fun socket => hasOpt (node.stack.sockets socket).opts cspSoConnLess with
    | some socket => .done (routeConnless node socket packet)
    | none => routeConnection node socket packet

/-- The mode of `csp_conf.dedup` covers the packet. -/
def dedupApplies (mode : DedupMode) (toMe : Bool) : Bool :=
  mode == .all || (toMe && mode == .incoming) || (!toMe && mode == .fwd)

/-- The part of `csp_route_work` behind the deduplication. -/
def routeChecked (node : Node cfg) (ingress : Nat) (packet : Packet) (toMe : Bool) : Routed cfg :=
  if toMe then routeLocal node packet
  else .done (node.setIo (routeForward node.stack.io ingress packet))

/-- The part of `csp_route_work` from the promiscuous queue on. -/
def routeInput (node : Node cfg) (ingress : Nat) (packet : Packet) : Routed cfg :=
  let node := node.setIo (promiscAdd node.stack.io packet)
  let toMe := isToMe cfg (node.stack.io.ifaceAt ingress) packet
  if dedupApplies node.dedupMode toMe then
    match dedupIsDuplicate cfg node.stack.now node.dedup packet with
    | (true, dedup, packet) => .done (Node.free { node with dedup } packet)
    | (false, dedup, packet) => routeChecked { node with dedup } ingress packet toMe
  else routeChecked node ingress packet toMe

/-- The last part of `csp_route_work` hands the packet to its connection. -/
def Routed.finish : Routed cfg → Node cfg
  | .done node => node
  | .deliver node slot packet => node.put slot (routeDeliver (node.ctx slot) packet)

/-- This is `csp_route_work`. The input is what `csp_qfifo_read` returns. -/
def routeWork (node : Node cfg) (input : Option (Nat × Packet)) : Node cfg :=
  let node := connCheckTimeouts node
  match input with
  | none => node
  | some (ingress, packet) => (routeInput node ingress packet).finish

/-- A node after `csp_init`, with these interfaces and routes. -/
def Node.init (io : Io cfg) (content : Nat → Conn cfg) : Node cfg where
  conns slot := connInit {} (content slot) slot
  stack := Stack.init io
  lastGiven := 0
  ports _ := .closed
  dedup := default
  dedupMode := .off
  connDflSo := 0
  calledBack := []
  held _ := false
  waiting _ := none

end Libcsp

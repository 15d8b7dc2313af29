/-
This file defines the connection structure of csp_conn.h and the static data that its functions share.
-/
import Libcsp.Io

namespace Libcsp

variable {cfg : Config}

inductive ConnState where
  | closed
  | open
  deriving DecidableEq, Repr, Inhabited

inductive ConnType where
  | client
  | server
  deriving DecidableEq, Repr, Inhabited

inductive RdpState where
  | closed
  | synSent
  | synRcvd
  | open
  | closeWait
  deriving DecidableEq, Repr, Inhabited

def rdpClosedByUserspace : UInt8 := 0x01
def rdpClosedByProtocol : UInt8 := 0x02
def rdpClosedByTimeout : UInt8 := 0x04
def rdpClosedByAll : UInt8 := rdpClosedByUserspace ||| rdpClosedByProtocol ||| rdpClosedByTimeout

/-- The RDP part of a connection. -/
structure Rdp where
  state : RdpState
  closedBy : UInt8
  sndNxt : UInt16
  sndUna : UInt16
  sndIss : UInt16
  rcvCur : UInt16
  rcvIrs : UInt16
  rcvLsa : UInt16
  windowSize : UInt32
  connTimeout : UInt32
  packetTimeout : UInt32
  delayedAcks : UInt32
  ackTimeout : UInt32
  ackDelayCount : UInt32
  ackTimestamp : UInt32
  /-- The binary semaphore `tx_wait` holds a post. -/
  txWait : Bool
  deriving DecidableEq, Repr, Inhabited

/-- A connection slot. The field `index` is its place in `arr_conn`, so its address. -/
structure Conn (cfg : Config) where
  index : Nat
  type : ConnType
  state : ConnState
  idin : CspId
  idout : CspId
  sportOutgoing : UInt8
  /-- The queue for userspace may hold the NULL pointer that wakes a reader. -/
  rxQueue : BoundedQueue (Option Packet) cfg.connRxqueueLen
  destSocket : Option Nat
  timestamp : UInt32
  opts : UInt32
  rdp : Rdp
  /-- History: all that was ever enqueued on `rxQueue`. -/
  rxLog : List (Option Packet)

instance : Inhabited (Conn cfg) :=
  ⟨⟨0, default, default, default, default, 0, default, none, 0, 0, default, []⟩⟩

/-- The connection exchanges RDP packets. -/
def Conn.usesRdp (conn : Conn cfg) : Bool := conn.idin.has cspFRdp || conn.idout.has cspFRdp

/-- A socket queues packets when it is connection-less, and connection pointers otherwise. -/
structure Socket (cfg : Config) where
  rxQueue : BoundedQueue (Packet ⊕ Nat) cfg.connRxqueueLen
  opts : UInt32

instance : Inhabited (Socket cfg) := ⟨⟨default, 0⟩⟩

/-- The static options that `csp_rdp_set_opt` sets. -/
structure RdpOptions where
  windowSize : UInt32 := 4
  connTimeout : UInt32 := 10000
  packetTimeout : UInt32 := 1000
  delayedAcks : UInt32 := 1
  ackTimeout : UInt32 := 250
  ackDelayCount : UInt32 := 2
  deriving DecidableEq, Repr

/-- The static data that the connection and RDP functions share. -/
structure Stack (cfg : Config) where
  io : Io cfg
  /-- The value of `csp_get_ms` during one call. -/
  now : UInt32
  txQueue : BoundedQueue Packet (cfg.rdpMaxWindow * 2)
  rxQueue : BoundedQueue Packet (cfg.rdpMaxWindow * 2)
  options : RdpOptions
  /-- The static counter `csp_rdp_incr`. -/
  rdpIncr : UInt8
  sockets : Nat → Socket cfg
  /-- History: the connections that were posted to an accept queue. -/
  posted : List Nat

/-- The static data after `csp_init` and `csp_rdp_queue_init`. -/
def Stack.init (io : Io cfg) : Stack cfg :=
  { io, now := 0, txQueue := .empty, rxQueue := .empty, options := {}, rdpIncr := 0
    sockets := default, posted := [] }

/-- A call works on one connection and on the static data. -/
structure Ctx (cfg : Config) where
  conn : Conn cfg
  stack : Stack cfg

/-- The connection slots share the static data. -/
structure Slots (cfg : Config) where
  conns : Nat → Conn cfg
  stack : Stack cfg

def Slots.ctx (slots : Slots cfg) (slot : Nat) : Ctx cfg := ⟨slots.conns slot, slots.stack⟩

/-- This operation stores the result of a call on one slot. -/
def Slots.put (slots : Slots cfg) (slot : Nat) (ctx : Ctx cfg) : Slots cfg :=
  ⟨Function.update slots.conns slot ctx.conn, ctx.stack⟩

def Stack.free (stack : Stack cfg) (packet : Packet) : Stack cfg :=
  { stack with io := stack.io.free packet }

def Ctx.free (ctx : Ctx cfg) (packet : Packet) : Ctx cfg :=
  { ctx with stack := ctx.stack.free packet }

/-- This is `csp_conn_enqueue_packet`. -/
def connEnqueuePacket (conn : Conn cfg) (packet : Option Packet) : CspErr × Conn cfg :=
  match conn.rxQueue.enqueue packet with
  | none => (.nomem, conn)
  | some rxQueue => (.none, { conn with rxQueue, rxLog := conn.rxLog ++ [packet] })

/-- This operation posts a connection to the accept queue of a socket. -/
def Stack.post (stack : Stack cfg) (socket index : Nat) : Option (Stack cfg) :=
  match (stack.sockets socket).rxQueue.enqueue (.inr index) with
  | none => none
  | some rxQueue => some { stack with
      sockets := Function.update stack.sockets socket { stack.sockets socket with rxQueue }
      posted := stack.posted ++ [index] }

end Libcsp

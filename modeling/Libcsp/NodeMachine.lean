/-
This file defines the runs of a whole node: any packets, timers, and calls on any connections.
-/
import Libcsp.Node
import Libcsp.Lib.Transition

namespace Libcsp

variable {cfg : Config}

/-- These events change the connection slots of a node. -/
inductive NodeInput (cfg : Config) where
  | connect (prio : UInt8) (dest : UInt16) (dport : UInt8) (opts : UInt32)
  /-- A `csp_connect` that waits on the slot ends its wait. -/
  | wake (slot : Nat)
  /-- The router runs once, with the packet that `csp_qfifo_read` returns. -/
  | route (input : Option (Nat × Packet))
  | accept (socket : Nat)
  | send (slot : Nat) (packet : Packet)
  | read (slot : Nat)
  | close (slot : Nat)
  /-- The rest of the program and the time change everything but the connections. -/
  | environment (node : Node cfg)

namespace Node

/-- A `csp_connect` wakes only on a slot on which it waits. -/
def wake (node : Node cfg) (slot : Nat) : Node cfg :=
  match node.waiting slot with
  | none => node
  | some retry => connectWake node slot retry

/-- Userspace gives its handle back. -/
def close (node : Node cfg) (slot : Nat) : Node cfg :=
  (node.put slot (cspClose (node.ctx slot))).setHeld slot false

/-- The connection slots, the RDP queues, and the history of the handles stay. -/
def inside (node environment : Node cfg) : Node cfg :=
  { environment with
    conns := node.conns
    stack.txQueue := node.stack.txQueue
    stack.rxQueue := node.stack.rxQueue
    stack.posted := node.stack.posted
    lastGiven := node.lastGiven
    held := node.held
    waiting := node.waiting }

end Node

def nodeStep (node : Node cfg) : NodeInput cfg → Node cfg
  | .connect prio dest dport opts => cspConnect node prio dest dport opts
  | .wake slot => node.wake slot
  | .route input => routeWork node input
  | .accept socket => cspAccept node socket
  | .send slot packet => node.put slot (cspSend (node.ctx slot) (some packet))
  | .read slot => node.put slot (cspRead (node.ctx slot)).2
  | .close slot => node.close slot
  | .environment environment => node.inside environment

def nodeMachine (cfg : Config) : Machine (Node cfg) (NodeInput cfg) where
  initial node := ∃ io content, node = Node.init io content
  step := nodeStep
  allowed _ _ := True

end Libcsp

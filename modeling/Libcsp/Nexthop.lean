/-
This file models the next-hop functions of the interfaces, and states which ones return a packet for
the own address to the router.
-/
import Libcsp.Can
import Libcsp.Forwarding
import Libcsp.Kiss

namespace Libcsp

variable {cfg : Config} {qfifoLen : Nat}

/-- One call of a next-hop function has a result, a new state of the interface, and the byte strings
that the driver of the link got. -/
structure TxEffect (cfg : Config) (qfifoLen : Nat) where
  result : TxResult
  link : Link cfg qfifoLen
  sent : List (List UInt8)

/-- This is `csp_lo_tx`. -/
def loTx (link : Link cfg qfifoLen) (packet : Packet) : TxEffect cfg qfifoLen :=
  ⟨.keeps, qfifoWrite link packet, []⟩

/-- The interface of csp_if_i2c.c. The driver answers each call of `tx_func` and frees what it sends. -/
structure I2c (cfg : Config) (qfifoLen : Nat) where
  link : Link cfg qfifoLen
  txFunc : Nat → TxResult
  txCalls : Nat

/-- This is `csp_i2c_tx`. The driver gets the frame and the physical address of seven bits. -/
def i2cTx (i2c : I2c cfg qfifoLen) (via : UInt16) (packet : Packet) : TxEffect cfg qfifoLen :=
  if packet.id.dst = i2c.link.addr then ⟨.keeps, qfifoWrite i2c.link packet, []⟩
  else
    let cfpid := (if via ≠ noViaAddress then via else packet.id.dst) &&& 0x7F
    ⟨i2c.txFunc i2c.txCalls, i2c.link, [cfpid.toUInt8 :: (idPrepend cfg packet).bytes]⟩

/-- The interface of csp_if_udp.c. The call of `socket` succeeds or fails. -/
structure Udp (cfg : Config) (qfifoLen : Nat) where
  link : Link cfg qfifoLen
  socket : Nat → Bool
  txCalls : Nat

/-- This is `csp_if_udp_tx`. The result of `sendto` is not checked. -/
def udpTx (udp : Udp cfg qfifoLen) (packet : Packet) : TxEffect cfg qfifoLen :=
  if udp.socket udp.txCalls then
    let frame := idPrepend cfg packet
    ⟨.frees, udp.link.free frame.packet, [frame.bytes]⟩
  else ⟨.error, udp.link, []⟩

/-- This is `csp_zmqhub_tx`. A failed `zmq_send` is only printed. -/
def zmqhubTx (link : Link cfg qfifoLen) (packet : Packet) : TxEffect cfg qfifoLen :=
  let frame := idPrepend cfg packet
  ⟨.frees, link.free frame.packet, [frame.bytes]⟩

/-- The interfaces with their own state. -/
inductive Nexthop (cfg : Config) (qfifoLen : Nat) where
  | lo (link : Link cfg qfifoLen)
  | can (can : Can cfg qfifoLen)
  | i2c (i2c : I2c cfg qfifoLen)
  | kiss (kiss : Kiss cfg qfifoLen)
  | udp (udp : Udp cfg qfifoLen)
  | zmq (link : Link cfg qfifoLen)

namespace Nexthop

def link : Nexthop cfg qfifoLen → Link cfg qfifoLen
  | .lo link => link
  | .can state => state.link
  | .i2c state => state.link
  | .kiss state => state.link
  | .udp state => state.link
  | .zmq link => link

/-- The call `(*iface->nexthop)(iface, via, packet)`. -/
def call (nexthop : Nexthop cfg qfifoLen) (via : UInt16) (packet : Packet) : TxEffect cfg qfifoLen :=
  match nexthop with
  | .lo link => loTx link packet
  | .can state =>
      let (result, after) := canNexthop state via packet
      ⟨result, after.link, (after.bus.drop state.bus.length).map CanFrame.data⟩
  | .i2c state => i2cTx state via packet
  | .kiss state =>
      let (calls, pool) := kissTx state.link.pool packet
      ⟨.frees, { state.link with pool }, calls⟩
  | .udp state => udpTx state packet
  | .zmq link => zmqhubTx link packet

/-- The function compares the destination with the own address. -/
def TestsOwnAddress : Nexthop cfg qfifoLen → Prop
  | .lo _ => True
  | .can _ => True
  | .i2c _ => True
  | .kiss _ => False
  | .udp _ => False
  | .zmq _ => False

/-- The call puts the packet on the queue of the router, and the driver of the link gets nothing. -/
structure LoopsBack (nexthop : Nexthop cfg qfifoLen) (via : UInt16) (packet : Packet) : Prop where
  result : (nexthop.call via packet).result = .keeps
  link : (nexthop.call via packet).link = qfifoWrite nexthop.link packet
  sent : (nexthop.call via packet).sent = []

theorem canNexthop_own {can : Can cfg qfifoLen} {packet : Packet} (via : UInt16)
    (own : packet.id.dst = can.link.addr) :
    canNexthop can via packet = (.keeps, { can with link := qfifoWrite can.link packet }) := by
  rw [canNexthop, can1Tx, can2Tx, canTx, canTx, if_pos own, if_pos own, ite_self]

/-- A function that does not test the own address never calls `csp_qfifo_write`. -/
theorem call_handed {nexthop : Nexthop cfg qfifoLen} (untested : ¬nexthop.TestsOwnAddress)
    (via : UInt16) (packet : Packet) : (nexthop.call via packet).link.handed = nexthop.link.handed := by
  cases nexthop with
  | lo link => exact absurd trivial untested
  | can state => exact absurd trivial untested
  | i2c state => exact absurd trivial untested
  | kiss state => rfl
  | udp state =>
      rw [call, udpTx]
      split <;> rfl
  | zmq link => rfl

/-- A packet for the own address loops back exactly when the function tests for it. -/
theorem loopsBack_iff {nexthop : Nexthop cfg qfifoLen} {packet : Packet} (via : UInt16)
    (own : packet.id.dst = nexthop.link.addr) :
    nexthop.LoopsBack via packet ↔ nexthop.TestsOwnAddress := by
  constructor
  · intro loops
    by_contra untested
    have handed := congrArg Link.handed loops.link
    rw [call_handed untested, qfifoWrite_handed] at handed
    simp at handed
  · intro tests
    cases nexthop with
    | lo link => exact ⟨rfl, rfl, rfl⟩
    | can state =>
        have looped := canNexthop_own via own
        constructor <;> simp [call, looped, Nexthop.link]
    | i2c state =>
        have looped : i2cTx state via packet = ⟨.keeps, qfifoWrite state.link packet, []⟩ := if_pos own
        exact ⟨congrArg TxEffect.result looped, congrArg TxEffect.link looped, congrArg TxEffect.sent looped⟩
    | kiss state => exact tests.elim
    | udp state => exact tests.elim
    | zmq link => exact tests.elim

end Nexthop

/-- In some state of the pool and the drivers `csp_send_direct` gives the packet to the interface,
which it found by the subnet of the destination. -/
def HandsBySubnet (io : Io cfg) (idout : CspId) (packet : Packet) (routedFrom : Option Nat) (entry : WireEntry) : Prop :=
  sendsOn io idout.dst routedFrom entry.1 ∧
    ∃ other, io.SameTopology other ∧ entry ∈ other.sentSince (sendDirect other idout (some packet) routedFrom)

/-- A packet for the address of the interface that gets it loops back exactly on the interfaces whose
function tests for it: loopback, CAN and I2C, but not KISS, UDP and ZMQ. -/
theorem ownAddress_loopsBack_iff (io : Io cfg) (nexthops : Nat → Nexthop cfg qfifoLen)
    (attached : ∀ iface, (nexthops iface).link.addr = (io.ifaceAt iface).addr)
    (idout : CspId) (packet : Packet) (routedFrom : Option Nat) (entry : WireEntry)
    (hands : HandsBySubnet io idout packet routedFrom entry) (own : idout.dst = (io.ifaceAt entry.1).addr) :
    (nexthops entry.1).LoopsBack entry.2.1 entry.2.2 ↔ (nexthops entry.1).TestsOwnAddress := by
  obtain ⟨-, other, -, member⟩ := hands
  apply Nexthop.loopsBack_iff
  rw [attached, ← own]
  obtain ⟨-, iface, -, -, leaves⟩ | ⟨route, -, leaves⟩ := sendDirect_wire other idout packet routedFrom entry member
  · rw [leaves.id]
  · rw [leaves.id]

/-- A packet from the second subnet to the address of the interface on the first one. -/
def farSidePacket : Packet :=
  { (default : Packet) with buf := 100, length := 4, id := { (default : CspId) with src := 70, dst := 1 } }

/-- The state of an interface of `twoSubnets`. -/
def farSideLink (iface : Nat) : Link {} 15 :=
  { iface, addr := (twoSubnets.stack.io.ifaceAt iface).addr, mtu := 0, frame := 0, rxError := 0, txError := 0
    drop := 0, pool := bufferInit {} fun _ => default, qfifo := .empty, handed := [] }

/-- The router hands the packet to the interface that has its destination address. -/
theorem farSidePacket_handed :
    ∃ entry, HandsBySubnet twoSubnets.stack.io farSidePacket.id farSidePacket (some 2) entry ∧
      farSidePacket.id.dst = (twoSubnets.stack.io.ifaceAt entry.1).addr := by
  have sent : 1 ∈ (twoSubnets.stack.io.sentSince
      (sendDirect twoSubnets.stack.io farSidePacket.id (some farSidePacket) (some 2))).map Prod.fst := by
    decide +kernel
  obtain ⟨entry, member, first⟩ := List.mem_map.mp sent
  refine ⟨entry, ⟨?_, twoSubnets.stack.io, .refl _, member⟩, ?_⟩ <;>
    · rw [first]
      decide +kernel

theorem farSideI2c_loopsBack :
    ∃ entry, HandsBySubnet twoSubnets.stack.io farSidePacket.id farSidePacket (some 2) entry ∧
      (Nexthop.i2c ⟨farSideLink entry.1, fun _ => .frees, 0⟩).LoopsBack entry.2.1 entry.2.2 := by
  obtain ⟨entry, hands, own⟩ := farSidePacket_handed
  exact ⟨entry, hands, (ownAddress_loopsBack_iff twoSubnets.stack.io
    (fun iface => .i2c ⟨farSideLink iface, fun _ => .frees, 0⟩) (fun _ => rfl) farSidePacket.id farSidePacket
    (some 2) entry hands own).mpr trivial⟩

/-- UDP interfaces send the packet for the own address to their peer. -/
theorem farSideUdp_transmits :
    ¬ ∀ entry, HandsBySubnet twoSubnets.stack.io farSidePacket.id farSidePacket (some 2) entry →
      farSidePacket.id.dst = (twoSubnets.stack.io.ifaceAt entry.1).addr →
        (Nexthop.udp ⟨farSideLink entry.1, fun _ => true, 0⟩).LoopsBack entry.2.1 entry.2.2 := by
  intro loops
  obtain ⟨entry, hands, own⟩ := farSidePacket_handed
  exact TxResult.noConfusion (loops entry hands own).result

end Libcsp

/-
This file models the counters of an interface and csp_qfifo_write of csp_qfifo.c.
-/
import Libcsp.Header
import Libcsp.Security

namespace Libcsp

variable {cfg : Config} {qfifoLen : Nat}

/-- The functions of one interface read and write this part of the static data. -/
structure Link (cfg : Config) (qfifoLen : Nat) where
  /-- The place of the interface in the interface list. -/
  iface : Nat
  addr : UInt16
  mtu : UInt16
  frame : UInt32
  rxError : UInt32
  txError : UInt32
  drop : UInt32
  pool : Pool cfg
  qfifo : BoundedQueue (Nat × Packet) qfifoLen
  /-- History: the packets that the interface gave to `csp_qfifo_write`. -/
  handed : List Packet

def Link.countFrame (link : Link cfg qfifoLen) : Link cfg qfifoLen :=
  { link with frame := link.frame + 1 }

def Link.countRxError (link : Link cfg qfifoLen) : Link cfg qfifoLen :=
  { link with rxError := link.rxError + 1 }

def Link.free (link : Link cfg qfifoLen) (packet : Packet) : Link cfg qfifoLen :=
  { link with pool := bufferFree link.pool (some packet) }

/-- This is `csp_qfifo_write`. A full queue drops the packet. -/
def qfifoWrite (link : Link cfg qfifoLen) (packet : Packet) : Link cfg qfifoLen :=
  let link := { link with handed := link.handed ++ [packet] }
  match link.qfifo.enqueue (link.iface, packet) with
  | some qfifo => { link with qfifo }
  | none => { link.free packet with drop := link.drop + 1 }

@[simp] theorem qfifoWrite_handed (link : Link cfg qfifoLen) (packet : Packet) :
    (qfifoWrite link packet).handed = link.handed ++ [packet] := by
  simp only [qfifoWrite]
  split <;> rfl

@[simp] theorem qfifoWrite_rxError (link : Link cfg qfifoLen) (packet : Packet) :
    (qfifoWrite link packet).rxError = link.rxError := by
  simp only [qfifoWrite]
  split <;> rfl

/-- The receive function copies bytes to a place behind `frame_begin`. -/
def Frame.write (frame : Frame) (offset : Nat) (bytes : List UInt8) : Frame :=
  { frame with packet := { frame.packet with
      mem := writeBytes frame.packet.mem (frame.frameBegin + offset) bytes } }

/-- Bytes at the end of a frame keep the bytes before them. -/
theorem Frame.take_write (frame : Frame) (count : Nat) (bytes : List UInt8) :
    (frame.write count bytes).take (count + bytes.length) = frame.take count ++ bytes := by
  unfold Frame.take
  rw [List.range_add, List.map_append, List.map_map]
  congr 1
  · apply List.map_congr_left
    intro index inside
    have before := List.mem_range.mp inside
    have outside : ¬(frame.frameBegin + count ≤ frame.frameBegin + index ∧
        frame.frameBegin + index < frame.frameBegin + count + bytes.length) := by omega
    simp only [Frame.write, writeBytes, if_neg outside]
  · have written := writeBytes_map frame.packet.mem (frame.frameBegin + count) bytes
    simpa only [Frame.write, Function.comp_def, Nat.add_assoc] using written

/-- Bytes behind the data keep the data before them. -/
theorem dataBytes_append (packet : Packet) (count : Nat) (data : List UInt8) :
    ({ packet with mem := writeBytes packet.mem (dataAt + count) data } : Packet).dataBytes
        (count + data.length) = packet.dataBytes count ++ data :=
  Frame.take_write ⟨packet, dataAt, 0⟩ count data

/-- A reader sees the same packet that was sent. -/
structure Packet.Arrives (received sent : Packet) : Prop where
  id : received.id = sent.id
  length : received.length = sent.length
  payload : received.payload = sent.payload

end Libcsp

/-
This file says which frames a transmitter puts on the bus and how they arrive at a receiver.
-/
import Libcsp.Can

namespace Libcsp

variable {cfg : Config} {qfifoLen senderLen : Nat}

/-- A frame arrives at some time. Other tasks have used the pool and the router queue before. -/
structure Arrival (cfg : Config) (qfifoLen : Nat) where
  frame : CanFrame
  now : UInt32
  pool : Pool cfg
  qfifo : BoundedQueue (Nat × Packet) qfifoLen

def Can.between (can : Can cfg qfifoLen) (arrival : Arrival cfg qfifoLen) : Can cfg qfifoLen :=
  { can with link := { can.link with pool := arrival.pool, qfifo := arrival.qfifo } }

theorem canSendFrames_bus {can : Can cfg senderLen} (driver : ∀ call, can.txFunc call = true)
    (frames : List CanFrame) :
    (canSendFrames frames can).1 = true ∧ (canSendFrames frames can).2.bus = can.bus ++ frames := by
  induction frames generalizing can with
  | nil => exact ⟨rfl, (List.append_nil _).symm⟩
  | cons frame rest ih =>
      have next := @ih { can with txCalls := can.txCalls + 1, bus := can.bus ++ [frame] } driver
      simp only [List.append_assoc, List.singleton_append] at next
      simp only [canSendFrames, driver, if_true]
      exact next

/-- A transmitter emits the frames unless the packet is for the own address. -/
theorem canTx_bus {sender : Can cfg senderLen} (driver : ∀ call, sender.txFunc call = true)
    (packet : Packet) (frames : List CanFrame) (freed : Packet) :
    (canTx sender packet frames freed).2.bus =
      sender.bus ++ if packet.id.dst = sender.link.addr then [] else frames := by
  rw [canTx]
  split
  · rw [List.append_nil]
  · have sent := @canSendFrames_bus cfg senderLen
      { sender with cfpPacketCounter := sender.cfpPacketCounter + 1 } driver frames
    generalize canSendFrames frames { sender with cfpPacketCounter := sender.cfpPacketCounter + 1 } =
      result at sent
    obtain ⟨ok, can⟩ := result
    obtain ⟨rfl, bus⟩ := sent
    exact bus

end Libcsp

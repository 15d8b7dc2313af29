/-
This file states which packets cross an I2C link.
-/
import Libcsp.HeaderCodec
import Libcsp.Nexthop
import Libcsp.RxFrames

namespace Libcsp

open BitField

variable {cfg : Config} {qfifoLen : Nat} {link : Link cfg qfifoLen} {packet fresh received : Packet}

/-- This is `csp_i2c_add_interface` for the fields of the interface. -/
def i2cAddInterface (i2c : I2c cfg qfifoLen) : I2c cfg qfifoLen :=
  if i2c.link.mtu = 0 ∨ i2c.link.mtu.toNat > cfg.bufferSize then
    { i2c with link := { i2c.link with mtu := UInt16.ofNat cfg.bufferSize } }
  else i2c

/-- The driver carries the bytes of the frame to a buffer that `csp_id_setup_rx` prepared, and calls
`csp_i2c_rx`. -/
def i2cDeliver (receiver : Link cfg qfifoLen) (fresh packet : Packet) : Link cfg qfifoLen :=
  i2cRx receiver (some (receivedFrame cfg fresh (idPrepend cfg packet).bytes))

/-- The driver gets one frame, and each receiver with space in its router queue queues exactly this packet. -/
structure I2cRoundTrip (sender : I2c cfg qfifoLen) (via : UInt16) (packet : Packet) : Prop where
  sends : ∃ cfpid, (i2cTx sender via packet).sent = [cfpid :: (idPrepend cfg packet).bytes]
  arrives : ∀ (length : Nat) (receiver : Link cfg length) (fresh : Packet), receiver.qfifo.items.length < length →
    ∃ received, (i2cDeliver receiver fresh packet).qfifo.items =
      receiver.qfifo.items ++ [(receiver.iface, received)] ∧ received.Arrives packet

theorem qfifoWrite_room (room : link.qfifo.items.length < qfifoLen) (packet : Packet) :
    (qfifoWrite link packet).qfifo.items = link.qfifo.items ++ [(link.iface, packet)] := by
  simp only [qfifoWrite, BoundedQueue.enqueue_of_room _ room]

theorem qfifoWrite_queued (empty : link.qfifo.items = [])
    (queued : (qfifoWrite link packet).qfifo.items = [(link.iface, received)]) : received = packet := by
  simp only [qfifoWrite] at queued
  split at queued
  · rename_i qfifo added
    rw [(BoundedQueue.enqueue_eq_some.mp added).2, empty] at queued
    cases queued
    rfl
  · change link.qfifo.items = _ at queued
    rw [empty] at queued
    cases queued

/-- The length of the frame on the wire. -/
theorem idPrepend_frameLength (cfg : Config) (packet : Packet) :
    (idPrepend cfg packet).bytes.length = (packet.length.toNat + idHeaderSize cfg) % 2 ^ 16 := by
  have small := idHeaderSize_le cfg
  rw [Frame.bytes_length, idPrepend_eq]
  simp only [prependHeader, UInt16.toNat_add, UInt16.toNat_ofNat']
  omega

/-- A frame that fits in a buffer arrives. -/
theorem i2cDeliver_arrives (fits : packet.id.Fits cfg) (room : link.qfifo.items.length < qfifoLen)
    (small : packet.length.toNat + idHeaderSize cfg ≤ cfg.bufferSize)
    (counted : packet.length.toNat + idHeaderSize cfg < 2 ^ 16) :
    ∃ received, (i2cDeliver link fresh packet).qfifo.items = link.qfifo.items ++ [(link.iface, received)] ∧
      received.Arrives packet := by
  have least : 4 ≤ idHeaderSize cfg := by unfold idHeaderSize; split <;> decide
  have length := idPrepend_frameLength cfg packet
  rw [Nat.mod_eq_of_lt counted] at length
  have carried := @receivedFrame_bytes cfg fresh _ (show (idPrepend cfg packet).bytes.length < 2 ^ 16 by omega)
  have parts := carried.trans (idPrepend_bytes cfg packet counted)
  obtain ⟨received, stripped, same, payload⟩ := idStrip_of_bytes (receivedFrame_begin cfg fresh _) parts
    (beBytes_length _ _)
  have frameLength := receivedFrame_length cfg fresh (idPrepend cfg packet).bytes
  have long : ¬(receivedFrame cfg fresh (idPrepend cfg packet).bytes).frameLength < 4 := by
    rw [UInt16.lt_iff_toNat_lt, frameLength, length]
    change ¬_ < 4
    omega
  have fitting : ¬(receivedFrame cfg fresh (idPrepend cfg packet).bytes).frameLength.toNat > cfg.bufferSize := by
    rw [frameLength, length]
    omega
  refine ⟨received, ?_, ?_, ?_, payload⟩
  · rw [i2cDeliver, i2cRx, if_neg long]
    simp only [if_neg fitting, stripped, Option.getD_some]
    exact qfifoWrite_room room received
  · rw [same]
    simp only [beValue_beBytes, idFields_word fits]
  · rw [same]
    simp only [packet.payload_length, UInt16.ofNat_toNat]

/-- A packet in the queue comes from a frame that is not larger than a buffer. Without a header it keeps the length
that the buffer had before. -/
theorem i2cDeliver_queued (empty : link.qfifo.items = [])
    (queued : (i2cDeliver link fresh packet).qfifo.items = [(link.iface, received)]) :
    (packet.length.toNat + idHeaderSize cfg) % 2 ^ 16 ≤ cfg.bufferSize ∧
      (received.length = fresh.length ∨
        received.length.toNat + idHeaderSize cfg = (packet.length.toNat + idHeaderSize cfg) % 2 ^ 16) := by
  have frameLength := receivedFrame_length cfg fresh (idPrepend cfg packet).bytes
  rw [idPrepend_frameLength, Nat.mod_mod] at frameLength
  rw [i2cDeliver, i2cRx] at queued
  split at queued
  · change link.qfifo.items = _ at queued
    rw [empty] at queued
    cases queued
  · simp only at queued
    split at queued
    · change link.qfifo.items = _ at queued
      rw [empty] at queued
      cases queued
    · rename_i long fitting
      rw [frameLength] at fitting
      refine ⟨Nat.not_lt.mp fitting, ?_⟩
      have same := qfifoWrite_queued empty queued
      cases stripped : idStrip cfg (receivedFrame cfg fresh (idPrepend cfg packet).bytes) with
      | none =>
          left
          rw [same, stripped]
          simp only [Option.getD_none, receivedFrame, idSetupRx_eq]
          rfl
      | some result =>
          right
          have total := (idStrip_some (receivedFrame_begin cfg fresh _) stripped).1
          rw [Frame.bytes_length, frameLength] at total
          rw [same, stripped, Option.getD_some]
          omega

/-! ## The round trip -/

/-- An empty receiver with space for one packet. -/
def emptyReceiver (pool : Pool cfg) : Link cfg 1 where
  iface := 1
  addr := 0
  mtu := 0
  frame := 0
  rxError := 0
  txError := 0
  drop := 0
  pool := pool
  qfifo := .empty
  handed := []

/-- A packet crosses the link exactly when its frame, with the header, is not larger than the data of a buffer. -/
theorem i2cRoundTrip_iff {sender : I2c cfg qfifoLen} (fits : packet.id.Fits cfg)
    (foreign : packet.id.dst ≠ sender.link.addr) (via : UInt16) : I2cRoundTrip sender via packet ↔
      packet.length.toNat + idHeaderSize cfg ≤ cfg.bufferSize ∧ packet.length.toNat + idHeaderSize cfg < 2 ^ 16 := by
  constructor
  · rintro ⟨-, arrives⟩
    obtain ⟨received, queued, whole⟩ := arrives 1 (emptyReceiver sender.link.pool)
      { packet with length := packet.length + 1 } Nat.zero_lt_one
    obtain ⟨small, source⟩ := i2cDeliver_queued rfl queued
    have least := idHeaderSize_le cfg
    have other : packet.length ≠ packet.length + 1 := fun same => by
      have numbers := congrArg UInt16.toNat same
      rw [UInt16.toNat_add] at numbers
      have range := packet.length.toNat_lt
      change packet.length.toNat = (packet.length.toNat + 1) % 2 ^ 16 at numbers
      omega
    rw [whole.length] at source
    have length := source.resolve_left other
    have range := packet.length.toNat_lt
    omega
  · rintro ⟨small, counted⟩
    refine ⟨?_, fun _ _ _ room => i2cDeliver_arrives fits room small counted⟩
    rw [i2cTx, if_neg foreign]
    exact ⟨_, rfl⟩

/-- An interface that takes the default mtu. -/
def addedI2c : I2c {} 15 :=
  i2cAddInterface { link := { addedKiss.link with addr := 2, mtu := 0 }, txFunc := fun _ => .frees, txCalls := 0 }

theorem kissPacket_crosses : I2cRoundTrip addedI2c 0 (kissPacket [1, 2, 3]) :=
  (i2cRoundTrip_iff ⟨by decide, by decide, by decide, by decide, by decide, by decide⟩ (by decide) 0).mpr
    ⟨by decide, by decide⟩

/-- A packet with as many data bytes as the mtu allows. -/
def widePacket : Packet :=
  { (default : Packet) with length := 256, id := { (default : CspId) with src := 2, dst := 3 } }

/-- The receiver drops the packet. -/
theorem widePacket_lost : widePacket.id.Fits {} ∧ widePacket.id.dst ≠ addedI2c.link.addr ∧
    widePacket.length ≤ addedI2c.link.mtu ∧ ¬I2cRoundTrip addedI2c 0 widePacket := by
  refine ⟨⟨by decide, by decide, by decide, by decide, by decide, by decide⟩, by decide, by decide, ?_⟩
  rintro ⟨-, arrives⟩
  obtain ⟨received, queued, -⟩ := arrives 1 (emptyReceiver addedI2c.link.pool) default Nat.zero_lt_one
  exact absurd (i2cDeliver_queued rfl queued).1 (by decide)

end Libcsp

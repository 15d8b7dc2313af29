/-
This file says when a packet comes from the bytes of a received frame, and which functions hand over such packets.
-/
import Libcsp.Receivers
import Libcsp.SecurityCheck

namespace Libcsp

open BitField

variable {cfg : Config} {qfifoLen : Nat}

/-! ## Buffers for frames -/

/-- A buffer for this many bytes is available. -/
def Link.HasBuffer (link : Link cfg qfifoLen) (size : Nat) : Prop :=
  size ≤ cfg.bufferSize ∧ 0 < link.pool.remaining

theorem bufferGet_hasBuffer (link : Link cfg qfifoLen) (size : Nat) :
    (link.HasBuffer size ∧ ∃ packet pool, bufferGet link.pool size = (some packet, pool)) ∨
      (¬link.HasBuffer size ∧ bufferGet link.pool size = (none, link.pool)) := by
  rcases bufferGet_cases link.pool size with ⟨got, empty⟩ | ⟨packet, rest, fits, items, got⟩
  · right
    refine ⟨fun has => ?_, got⟩
    rcases empty with large | empty
    · exact absurd has.1 (Nat.not_le.mpr large)
    · have filled := has.2
      simp [Pool.remaining, BoundedQueue.size, empty] at filled
  · exact .inl ⟨⟨fits, by simp [Pool.remaining, BoundedQueue.size, items]⟩, packet, _, got⟩

/-! ## Packets of a frame -/

/-- The packet has its identifier from the header and its payload from the other bytes of the frame, but for a
trailer. A receiver may rewrite the identifier. -/
structure Packet.FromFrame (cfg : Config) (bytes : List UInt8) (frameLength : Nat) (rewrite : CspId → CspId)
    (trailer : Nat) (packet : Packet) : Prop where
  /-- The value of `frame_length` passes the check of `csp_id_strip`. -/
  strips : idHeaderSize cfg ≤ frameLength
  id : packet.id = rewrite (idFields cfg (beValue (bytes.take (idHeaderSize cfg))))
  length : idHeaderSize cfg + packet.length.toNat + trailer = bytes.length
  payload : packet.payload = (bytes.drop (idHeaderSize cfg)).take packet.length.toNat
  fits : packet.length.toNat ≤ cfg.bufferSize

/-- The header size of a version is at most 6 and a frame length has 16 bits. -/
theorem idHeaderSize_toNat (cfg : Config) : (UInt16.ofNat (idHeaderSize cfg)).toNat = idHeaderSize cfg := by
  have small := idHeaderSize_le cfg
  exact toNat_ofNat16 (by omega)

theorem idStrip_isNone (cfg : Config) (frame : Frame) :
    idStrip cfg frame = none ↔ frame.frameLength.toNat < idHeaderSize cfg := by
  have same : frame.frameLength < UInt16.ofNat (idHeaderSize cfg) ↔ frame.frameLength.toNat < idHeaderSize cfg := by
    rw [UInt16.lt_iff_toNat_lt, idHeaderSize_toNat]
  rw [idStrip_eq, stripHeader, ← same]
  split
  · rename_i short
    exact iff_of_true rfl short
  · rename_i long
    exact iff_of_false (by simp) long

/-- A frame that has a header gives a packet of its bytes. -/
theorem idStrip_some {frame : Frame} {packet : Packet} (begins : frame.frameBegin = dataAt - idHeaderSize cfg)
    (stripped : idStrip cfg frame = some packet) :
    idHeaderSize cfg + packet.length.toNat = frame.bytes.length ∧
      packet.id = idFields cfg (beValue (frame.bytes.take (idHeaderSize cfg))) ∧
      packet.payload = frame.bytes.drop (idHeaderSize cfg) := by
  have long : idHeaderSize cfg ≤ frame.frameLength.toNat := by
    rw [← Nat.not_lt, ← idStrip_isNone, stripped]
    simp
  have parts := (List.take_append_drop (idHeaderSize cfg) frame.bytes).symm
  have header : (frame.bytes.take (idHeaderSize cfg)).length = idHeaderSize cfg := by
    rw [List.length_take, frame.bytes_length]
    omega
  obtain ⟨packet', stripped', fields, payload⟩ := idStrip_of_bytes begins parts header
  rw [stripped] at stripped'
  cases stripped'
  have rest := congrArg List.length payload
  rw [Packet.payload_length, List.length_drop, frame.bytes_length] at rest
  refine ⟨?_, ?_, payload⟩
  · rw [frame.bytes_length]
    omega
  · rw [fields]

/-- The bytes of a frame buffer. -/
theorem receivedFrame_bytes (packet : Packet) {bytes : List UInt8} (small : bytes.length < 2 ^ 16) :
    (receivedFrame cfg packet bytes).bytes = bytes := by
  have written := Frame.take_write (idSetupRx cfg packet) 0 bytes
  rw [Nat.zero_add] at written
  rw [Frame.bytes, receivedFrame, toNat_ofNat16 small]
  exact written

theorem receivedFrame_length (cfg : Config) (packet : Packet) (bytes : List UInt8) :
    (receivedFrame cfg packet bytes).frameLength.toNat = bytes.length % 2 ^ 16 := UInt16.toNat_ofNat'

theorem receivedFrame_begin (cfg : Config) (packet : Packet) (bytes : List UInt8) :
    (receivedFrame cfg packet bytes).frameBegin = dataAt - idHeaderSize cfg := by
  rw [receivedFrame, idSetupRx_eq]
  rfl

/-- The packet of a received frame comes from its bytes exactly when their number is right. -/
theorem receivedFrame_fromFrame_iff {fresh packet : Packet} {bytes : List UInt8}
    (stripped : idStrip cfg (receivedFrame cfg fresh bytes) = some packet)
    (bound : bytes.length ≤ cfg.bufferSize + idHeaderSize cfg) :
    packet.FromFrame cfg bytes (bytes.length % 2 ^ 16) id 0 ↔ bytes.length < 2 ^ 16 := by
  have begins := receivedFrame_begin cfg fresh bytes
  obtain ⟨length, fields, payload⟩ := idStrip_some begins stripped
  have long : idHeaderSize cfg ≤ bytes.length % 2 ^ 16 := by
    rw [← receivedFrame_length cfg fresh, ← Nat.not_lt, ← idStrip_isNone, stripped]
    simp
  constructor
  · intro whole
    have total := whole.length
    rw [(receivedFrame cfg fresh bytes).bytes_length, receivedFrame_length] at length
    have cut := Nat.mod_lt bytes.length (by decide : 0 < 2 ^ 16)
    omega
  · intro small
    rw [receivedFrame_bytes fresh small] at length fields payload
    refine ⟨long, fields, length, ?_, by omega⟩
    rw [payload, List.take_of_length_le]
    rw [List.length_drop]
    omega

end Libcsp

/-
This file shows that csp_crc32_verify and csp_hmac_verify accept the trailers that their senders append.
-/
import Libcsp.Security

namespace Libcsp

variable {cfg : Config}

/-- Equal payloads have equal words. -/
theorem Packet.be32_of_payload {first second : Packet} (same : first.payload = second.payload) {index : Nat}
    (inside : index + 4 ≤ first.length.toNat) :
    be32 first.mem (dataAt + index) = be32 second.mem (dataAt + index) := by
  have byte : ∀ offset < 4, first.mem (dataAt + index + offset) = second.mem (dataAt + index + offset) := by
    intro offset small
    rw [Nat.add_assoc]
    exact Packet.data_of_payload same (by omega)
  have high := be16_congr (byte 0 (by decide)) (byte 1 (by decide))
  have low := be16_congr (byte 2 (by decide)) (byte 3 (by decide))
  rw [Nat.add_zero] at high
  rw [be32, be32, high, low]

theorem Packet.trailer_of_payload {first second : Packet} (same : first.payload = second.payload)
    (long : 4 ≤ first.length.toNat) : first.trailer = second.trailer := by
  rw [Packet.trailer, Packet.trailer, ← Packet.length_of_payload same, Nat.add_sub_assoc long]
  exact Packet.be32_of_payload same (by omega)

theorem be32_putBe32 (mem : Memory) (address : Nat) (value : UInt32) :
    be32 (putBe32 mem address value) address = value := by
  rw [be32, putBe32, be16_putBe16, be16_putBe16_other (by omega), be16_putBe16]
  apply UInt32.toNat_inj.mp
  have := value.toNat_lt
  simp only [UInt32.toNat_add, UInt32.toNat_mul, UInt16.toNat_toUInt32, UInt32.toNat_toUInt16,
    UInt32.toNat_div, UInt32.reduceToNat]
  omega

theorem be32_putBe32_other {mem : Memory} {address other : Nat} {value : UInt32}
    (apart : other + 4 ≤ address ∨ address + 4 ≤ other) : be32 (putBe32 mem address value) other = be32 mem other := by
  rw [be32, be32, putBe32, be16_putBe16_other (by omega), be16_putBe16_other (by omega),
    be16_putBe16_other (by omega), be16_putBe16_other (by omega)]

theorem putBe32_other {mem : Memory} {address index : Nat} {value : UInt32}
    (outside : index < address ∨ address + 4 ≤ index) : putBe32 mem address value index = mem index := by
  rw [putBe32, putBe16_other (by omega), putBe16_other (by omega)]

/-- The packet has this word behind its payload. -/
def Packet.withTrailer (packet : Packet) (value : UInt32) : Packet :=
  { packet with
    length := packet.length + 4
    mem := putBe32 packet.mem (dataAt + packet.length.toNat) value }

section Trailer
variable {packet : Packet} (fits : packet.length.toNat + 4 ≤ cfg.bufferSize) (value : UInt32)
include fits

theorem Packet.withTrailer_length : (packet.withTrailer value).length.toNat = packet.length.toNat + 4 := by
  have small := cfg.bufferSize_lt
  rw [Packet.withTrailer, UInt16.toNat_add]
  exact Nat.mod_eq_of_lt (by simpa using by omega)

theorem Packet.withTrailer_trailer : (packet.withTrailer value).trailer = value := by
  rw [Packet.trailer, Packet.withTrailer_length fits, show dataAt + (packet.length.toNat + 4) - 4 =
    dataAt + packet.length.toNat by omega]
  exact be32_putBe32 _ _ _

omit fits in
theorem Packet.withTrailer_dataBytes :
    (packet.withTrailer value).dataBytes packet.length.toNat = packet.payload := by
  apply List.map_congr_left
  intro index inside
  have before := List.mem_range.mp inside
  exact (putBe16_other (by omega)).trans (putBe16_other (by omega))

end Trailer

/-- The checksum and the signature of a packet go behind its payload, if they fit. -/
theorem crc32Append_eq_ok {packet framed : Packet} : crc32Append cfg packet = .ok framed ↔
    packet.length.toNat + 4 ≤ cfg.bufferSize ∧ framed = packet.withTrailer (cfg.crc32Memory packet.payload) := by
  unfold crc32Append
  split
  · rename_i large
    simp only [reduceCtorEq, false_iff, not_and]
    intro fits
    omega
  · rename_i fits
    rw [Except.ok.injEq, and_iff_right (Nat.not_lt.mp fits)]
    exact eq_comm

theorem hmacAppend_eq_ok {packet signed : Packet} : hmacAppend cfg packet = .ok signed ↔
    packet.length.toNat + 4 ≤ cfg.bufferSize ∧ signed = packet.withTrailer (cfg.hmacMemory packet.payload) := by
  unfold hmacAppend
  split
  · rename_i large
    simp only [reduceCtorEq, false_iff, not_and]
    intro fits
    omega
  · rename_i fits
    rw [Except.ok.injEq, and_iff_right (Nat.not_lt.mp fits)]
    exact eq_comm

theorem crc32Append_ok {packet : Packet} (fits : packet.length.toNat + 4 ≤ cfg.bufferSize) :
    ∃ framed, crc32Append cfg packet = .ok framed ∧ framed.id = packet.id ∧
      framed.length.toNat = packet.length.toNat + 4 ∧
      framed.dataBytes packet.length.toNat = packet.payload ∧
      framed.trailer = cfg.crc32Memory packet.payload :=
  ⟨_, crc32Append_eq_ok.mpr ⟨fits, rfl⟩, rfl, Packet.withTrailer_length fits _, Packet.withTrailer_dataBytes _,
    Packet.withTrailer_trailer fits _⟩

theorem Packet.dropTrailer_length {packet : Packet} {count : Nat} (length : packet.length.toNat = count + 4) :
    packet.dropTrailer.length.toNat = count := by
  rw [Packet.dropTrailer, UInt16.toNat_sub_of_le _ _ (UInt16.le_iff_toNat_le.mpr (by rw [length]; simp)), length]
  simp

theorem Packet.dropTrailer_payload {packet : Packet} {count : Nat} (length : packet.length.toNat = count + 4) :
    packet.dropTrailer.payload = packet.dataBytes count := by
  rw [Packet.payload, Packet.dropTrailer_length length]
  rfl

section Verify
variable {packet : Packet} {count : Nat} (length : packet.length.toNat = count + 4)
include length

theorem Packet.not_short : ¬packet.length < 4 := by
  rw [UInt16.lt_iff_toNat_lt, length]
  simp

/-- A correct trailer passes and goes away. -/
theorem crc32Verify_ok (trailer : packet.trailer = cfg.crc32Memory (packet.dataBytes count)) :
    ∃ verified, crc32Verify cfg packet = (.none, verified) ∧ verified.id = packet.id ∧
      verified.length.toNat = count ∧ verified.payload = packet.dataBytes count := by
  have small := idHeaderSize_le cfg
  have payload : (idPrepend cfg packet).packet.payload = packet.payload := by
    rw [idPrepend_eq]
    exact prependHeader_payload _ packet (by simp only [dataAt]; omega)
  have same : (idPrepend cfg packet).packet.length.toNat = count + 4 := by
    rw [Packet.length_of_payload payload, length]
  have id : (idPrepend cfg packet).packet.id = packet.id := by
    rw [idPrepend_eq]
    rfl
  have bytes : (idPrepend cfg packet).packet.dataBytes count = packet.dataBytes count :=
    Packet.dataBytes_of_payload payload (by rw [same]; omega)
  have checked : (idPrepend cfg packet).packet.trailer =
      cfg.crc32Memory ((idPrepend cfg packet).packet.dataBytes count) := by
    rw [Packet.trailer_of_payload payload (by rw [same]; omega), trailer, bytes]
  have less : packet.length.toNat - 4 = count := by omega
  refine ⟨(idPrepend cfg packet).packet.dropTrailer, ?_, id, Packet.dropTrailer_length same,
    (Packet.dropTrailer_payload same).trans bytes⟩
  simp only [crc32Verify, if_neg (Packet.not_short length), less, if_pos checked, ite_self]

/-- A correct signature passes and goes away. -/
theorem hmacVerify_ok (trailer : packet.trailer = cfg.hmacMemory (packet.dataBytes count)) :
    ∃ verified, hmacVerify cfg packet = (.none, verified) ∧ verified.id = packet.id ∧
      verified.length.toNat = count ∧ verified.payload = packet.dataBytes count := by
  have less : packet.length.toNat - 4 = count := by omega
  refine ⟨packet.dropTrailer, ?_, rfl, Packet.dropTrailer_length length, Packet.dropTrailer_payload length⟩
  simp only [hmacVerify, if_neg (Packet.not_short length), less, if_pos trailer]

end Verify

end Libcsp

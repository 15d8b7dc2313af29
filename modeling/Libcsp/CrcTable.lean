/-
This file shows that the table of csp_crc32.c computes the CRC-32C bit by bit.
-/
import Libcsp.Crc32
import Libcsp.Lib.SerialCrc

namespace Libcsp

open SerialCrc

/-- The reflected polynomial of CRC-32C. -/
def crc32cPoly : BitVec 32 := 0x82F63B78

/-- A message goes to the register byte by byte, the least significant bit of each byte first. -/
def messageBits (data : List UInt8) : List Bool := data.flatMap fun byte => lowBits 8 byte.toBitVec

/-- The CRC-32C of a message, one bit at a time. -/
def crc32cBitwise (data : List UInt8) : UInt32 :=
  ⟨takeBits crc32cPoly 0xFFFFFFFF (messageBits data)⟩ ^^^ 0xFFFFFFFF

example : crc32cBitwise "123456789".toUTF8.toList = 0xE3069283 := by decide +kernel

/-- Each entry of the table is its index, moved by eight bits. -/
theorem crcTab_entry : ∀ index < 256,
    crcTab.getD index 0 = ⟨shifts crc32cPoly 8 (BitVec.ofNat 32 index)⟩ := by decide +kernel

/-- One step of the loop moves the register by the eight bits of one byte. -/
theorem crc32Step_eq (crc : UInt32) (byte : UInt8) :
    crc32Step crc byte = ⟨takeBits crc32cPoly crc.toBitVec (lowBits 8 byte.toBitVec)⟩ := by
  let wide := byte.toBitVec.setWidth 32
  have small : ((crc ^^^ byte.toUInt32) &&& 0xFF).toNat < 256 := Nat.lt_of_le_of_lt Nat.and_le_right (by decide)
  have entry : crcTab.getD ((crc ^^^ byte.toUInt32) &&& 0xFF).toNat 0 =
      ⟨shifts crc32cPoly 8 ((crc.toBitVec ^^^ wide) &&& 0xFF)⟩ := by
    have same : BitVec.ofNat 32 ((crc ^^^ byte.toUInt32) &&& 0xFF).toNat = (crc.toBitVec ^^^ wide) &&& 0xFF :=
      (BitVec.ofNat_toNat 32 _).trans (BitVec.setWidth_eq _)
    rw [crcTab_entry _ small, same]
  have table : shifts crc32cPoly 8 (crc.toBitVec ^^^ wide) =
      shifts crc32cPoly 8 ((crc.toBitVec ^^^ wide) &&& 0xFF) ^^^ ((crc.toBitVec ^^^ wide) >>> 8) := shifts_table
  have none : wide >>> 8 = 0#32 := by
    rw [← BitVec.setWidth_ushiftRight (by decide), BitVec.ushiftRight_eq_zero (Nat.le_refl 8)]
    rfl
  have message := @takeBits_lowBits 32 crc32cPoly crc.toBitVec wide 8
  rw [lowBits_setWidth (by decide), none, BitVec.xor_zero] at message
  rw [crc32Step, entry, message, table, BitVec.ushiftRight_xor_distrib, none, BitVec.xor_zero]
  rfl

theorem crc32Steps_eq (data : List UInt8) (crc : UInt32) :
    data.foldl crc32Step crc = ⟨takeBits crc32cPoly crc.toBitVec (messageBits data)⟩ := by
  induction data generalizing crc with
  | nil => rfl
  | cons byte data ih =>
      have split : messageBits (byte :: data) = lowBits 8 byte.toBitVec ++ messageBits data := List.flatMap_cons
      rw [List.foldl_cons, ih, split, takeBits_append, crc32Step_eq]

/-- The table gives the CRC-32C of every message. -/
theorem crc32Memory_bitwise (data : List UInt8) : crc32Memory data = crc32cBitwise data :=
  congrArg (· ^^^ 0xFFFFFFFF) (crc32Steps_eq data 0xFFFFFFFF)

end Libcsp

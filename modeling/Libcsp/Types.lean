/-
This file defines the build constants, the CSP header, and the packet buffer.
-/
import Mathlib.Data.UInt
import Mathlib.Tactic.Common

namespace Libcsp

theorem bufferSize_default : 256 < 2 ^ 16 := by decide

theorem rdpMaxWindow_default : 5 < 2 ^ 15 := by decide

/-- These are the constants of one build and the library functions that it links. -/
structure Config where
  bufferSize : Nat := 256
  /-- The 16-bit length of a packet counts the bytes of a full buffer. -/
  bufferSize_lt : bufferSize < 2 ^ 16 := by first | exact bufferSize_default | decide
  bufferCount : Nat := 15
  connRxqueueLen : Nat := 16
  connMax : Nat := 8
  portMaxBind : Nat := 16
  rdpMaxWindow : Nat := 5
  /-- Two windows of segments fit in the 16-bit sequence numbers. -/
  rdpMaxWindow_lt : rdpMaxWindow < 2 ^ 15 := by first | exact rdpMaxWindow_default | decide
  /-- The value of `csp_conf.version`. -/
  version : Nat := 2
  /-- The value that `rand_r` returns for a seed. -/
  randR : UInt32 → UInt32 := id
  /-- The value that `csp_crc32_memory` returns. -/
  crc32Memory : List UInt8 → UInt32 := fun _ => 0
  /-- The first four bytes that `csp_hmac_memory` returns for the node key. -/
  hmacMemory : List UInt8 → UInt32 := fun _ => 0

/-- The result codes of `csp_error.h` that the modelled functions return. -/
inductive CspErr where
  | none
  | nomem
  | inval
  | timedout
  | already
  | reset
  | nobufs
  | again
  | hmac
  | crc32
  | sfp
  deriving DecidableEq, Repr

/-- The unpacked CSP header. -/
structure CspId where
  pri : UInt8
  flags : UInt8
  src : UInt16
  dst : UInt16
  dport : UInt8
  sport : UInt8
  deriving DecidableEq, Repr, Inhabited

def cspFFrag : UInt8 := 0x10
def cspFHmac : UInt8 := 0x08
def cspFRdp : UInt8 := 0x02
def cspFCrc32 : UInt8 := 0x01

def cspPrioHigh : UInt8 := 1

def CspId.has (id : CspId) (flag : UInt8) : Bool := id.flags &&& flag != 0

/-! ## Bytes -/

/-- The byte memory of one buffer. The padding header occupies the first addresses. -/
abbrev Memory := Nat → UInt8

/-- The address of `packet->data`, which follows `CSP_PACKET_PADDING_BYTES` padding bytes. -/
def dataAt : Nat := 8

def setByte (mem : Memory) (address : Nat) (value : UInt8) : Memory :=
  fun index => if index = address then value else mem index

/-- A 16-bit load in network byte order. -/
def be16 (mem : Memory) (address : Nat) : UInt16 :=
  (mem address).toUInt16 * 256 + (mem (address + 1)).toUInt16

/-- A 16-bit load in the byte order of the little-endian host. -/
def le16 (mem : Memory) (address : Nat) : UInt16 :=
  (mem address).toUInt16 + (mem (address + 1)).toUInt16 * 256

def putBe16 (mem : Memory) (address : Nat) (value : UInt16) : Memory :=
  setByte (setByte mem address (value / 256).toUInt8) (address + 1) value.toUInt8

def putLe16 (mem : Memory) (address : Nat) (value : UInt16) : Memory :=
  setByte (setByte mem address value.toUInt8) (address + 1) (value / 256).toUInt8

def be32 (mem : Memory) (address : Nat) : UInt32 :=
  (be16 mem address).toUInt32 * 65536 + (be16 mem (address + 2)).toUInt32

def putBe32 (mem : Memory) (address : Nat) (value : UInt32) : Memory :=
  putBe16 (putBe16 mem address (value / 65536).toUInt16) (address + 2) value.toUInt16

@[simp] theorem setByte_same (mem : Memory) (address : Nat) (value : UInt8) :
    setByte mem address value address = value := by simp [setByte]

theorem setByte_other {mem : Memory} {address index : Nat} {value : UInt8}
    (different : index ≠ address) : setByte mem address value index = mem index := by
  simp [setByte, different]

/-- The two bytes of a word give the word back. -/
theorem word_of_bytes (value : UInt16) :
    (value / 256).toUInt8.toUInt16 * 256 + value.toUInt8.toUInt16 = value := by
  apply UInt16.toNat_inj.mp
  have := value.toNat_lt
  simp only [UInt16.toNat_add, UInt16.toNat_mul, UInt8.toNat_toUInt16, UInt16.toNat_toUInt8,
    UInt16.toNat_div, UInt16.reduceToNat]
  omega

@[simp] theorem be16_putBe16 (mem : Memory) (address : Nat) (value : UInt16) :
    be16 (putBe16 mem address value) address = value := by
  simp only [be16, putBe16, setByte_same]
  rw [setByte_other (by omega), setByte_same]
  exact word_of_bytes value

@[simp] theorem le16_putLe16 (mem : Memory) (address : Nat) (value : UInt16) :
    le16 (putLe16 mem address value) address = value := by
  simp only [le16, putLe16, setByte_same]
  rw [setByte_other (by omega), setByte_same, add_comm]
  exact word_of_bytes value

theorem putBe16_other {mem : Memory} {address index : Nat} {value : UInt16}
    (outside : index < address ∨ address + 2 ≤ index) :
    putBe16 mem address value index = mem index := by
  rw [putBe16, setByte_other (by omega), setByte_other (by omega)]

theorem putLe16_other {mem : Memory} {address index : Nat} {value : UInt16}
    (outside : index < address ∨ address + 2 ≤ index) :
    putLe16 mem address value index = mem index := by
  rw [putLe16, setByte_other (by omega), setByte_other (by omega)]

/-- A load sees only its own two bytes. -/
theorem be16_congr {first second : Memory} {address : Nat}
    (same : first address = second address) (same' : first (address + 1) = second (address + 1)) :
    be16 first address = be16 second address := by
  rw [be16, be16, same, same']

theorem be16_putBe16_other {mem : Memory} {address other : Nat} {value : UInt16}
    (apart : other + 2 ≤ address ∨ address + 2 ≤ other) :
    be16 (putBe16 mem address value) other = be16 mem other :=
  be16_congr (putBe16_other (by omega)) (putBe16_other (by omega))

/-! ## Packets -/

/-- A packet is the content of one pool buffer. The field `buf` is its address. -/
structure Packet where
  buf : Nat
  length : UInt16
  id : CspId
  mem : Memory
  /-- The quarantine period of an EACK. -/
  rdpQuarantine : UInt32
  timestampTx : UInt32
  /-- The connection that the RDP queues associate with the packet. -/
  conn : Nat

instance : Inhabited Packet := ⟨⟨0, 0, default, fun _ => 0, 0, 0, 0⟩⟩

/-- The byte `packet->data[index]`. -/
def Packet.data (packet : Packet) (index : Nat) : UInt8 := packet.mem (dataAt + index)

/-- The first `count` data bytes. -/
def Packet.dataBytes (packet : Packet) (count : Nat) : List UInt8 :=
  (List.range count).map packet.data

/-- The payload is the data up to the length. -/
def Packet.payload (packet : Packet) : List UInt8 := packet.dataBytes packet.length.toNat

theorem Packet.payload_length (packet : Packet) : packet.payload.length = packet.length.toNat := by
  simp [Packet.payload, Packet.dataBytes]

theorem Packet.length_of_payload {first second : Packet} (same : first.payload = second.payload) :
    first.length = second.length := by
  apply UInt16.toNat_inj.mp
  rw [← first.payload_length, ← second.payload_length, same]

theorem Packet.data_of_payload {first second : Packet} (same : first.payload = second.payload)
    {index : Nat} (inside : index < first.length.toNat) : first.data index = second.data index := by
  have length := Packet.length_of_payload same
  have value := congrArg (·[index]?) same
  simp only [Packet.payload, Packet.dataBytes, List.getElem?_map,
    List.getElem?_range inside, List.getElem?_range (length ▸ inside), Option.map_some,
    Option.some.injEq] at value
  exact value

theorem Packet.dataBytes_of_payload {first second : Packet} (same : first.payload = second.payload)
    {count : Nat} (inside : count ≤ first.length.toNat) :
    first.dataBytes count = second.dataBytes count := by
  apply List.map_congr_left
  intro index small
  exact Packet.data_of_payload same (by have := List.mem_range.mp small; omega)

/-- A reader of the received bytes cannot tell these two packets apart. -/
structure Packet.SameVisible (first second : Packet) : Prop where
  length : first.length = second.length
  id : first.id = second.id
  data : ∀ index < first.length.toNat, first.data index = second.data index

theorem Packet.SameVisible.refl (packet : Packet) : packet.SameVisible packet :=
  ⟨rfl, rfl, fun _ _ => rfl⟩

theorem Packet.SameVisible.payload {first second : Packet} (same : first.SameVisible second) :
    first.payload = second.payload := by
  unfold Packet.payload Packet.dataBytes
  rw [← same.length]
  apply List.map_congr_left
  intro index inside
  exact same.data index (List.mem_range.mp inside)

/-- This operation copies bytes to the data area from an offset on. -/
def writeBytes (mem : Memory) (address : Nat) (bytes : List UInt8) : Memory :=
  fun index =>
    if address ≤ index ∧ index < address + bytes.length then bytes.getD (index - address) 0
    else mem index

end Libcsp

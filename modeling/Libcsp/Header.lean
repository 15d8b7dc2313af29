/-
This file models csp_id.c: the packed headers of CSP 1 and CSP 2 in front of the data.
-/
import Libcsp.Iface
import Libcsp.Lib.BitField

namespace Libcsp

open BitField

variable {cfg : Config}

def id1HeaderSize : Nat := 4
def id2HeaderSize : Nat := 6

/-- The layer-2 fields of a packet mark the bytes of its frame. -/
structure Frame where
  packet : Packet
  frameBegin : Nat
  frameLength : UInt16

/-- These bytes start at `frame_begin`. -/
def Frame.take (frame : Frame) (count : Nat) : List UInt8 :=
  (List.range count).map fun index => frame.packet.mem (frame.frameBegin + index)

def Frame.bytes (frame : Frame) : List UInt8 := frame.take frame.frameLength.toNat

/-! ## The packed words -/

/-- The 32-bit header of CSP 1. The store truncates fields that are too wide. -/
def id1Word (id : CspId) : Nat :=
  id.pri.toNat <<< 30 ||| id.dst.toNat <<< 20 ||| id.src.toNat <<< 25 ||| id.dport.toNat <<< 14 |||
    id.sport.toNat <<< 8 ||| id.flags.toNat <<< 0

def id1Fields (word : Nat) : CspId where
  pri := UInt8.ofNat (field word 30 2)
  dst := UInt16.ofNat (field word 20 5)
  src := UInt16.ofNat (field word 25 5)
  dport := UInt8.ofNat (field word 14 6)
  sport := UInt8.ofNat (field word 8 6)
  flags := UInt8.ofNat (field word 0 8)

/-- The 48-bit header of CSP 2. -/
def id2Word (id : CspId) : Nat :=
  id.pri.toNat <<< 46 ||| id.dst.toNat <<< 32 ||| id.src.toNat <<< 18 ||| id.dport.toNat <<< 12 |||
    id.sport.toNat <<< 6 ||| id.flags.toNat <<< 0

def id2Fields (word : Nat) : CspId where
  pri := UInt8.ofNat (field word 46 2)
  dst := UInt16.ofNat (field word 32 14)
  src := UInt16.ofNat (field word 18 14)
  dport := UInt8.ofNat (field word 12 6)
  sport := UInt8.ofNat (field word 6 6)
  flags := UInt8.ofNat (field word 0 6)

/-! ## Prepend and strip -/

/-- A header of `size` bytes goes in front of the data. -/
def prependHeader (size word : Nat) (packet : Packet) : Frame where
  packet := { packet with mem := writeBytes packet.mem (dataAt - size) (beBytes size word) }
  frameBegin := dataAt - size
  frameLength := packet.length + UInt16.ofNat size

/-- The header of a frame sets the length and the identifier. -/
def stripHeader (size : Nat) (fields : Nat → CspId) (frame : Frame) : Option Packet :=
  if frame.frameLength < UInt16.ofNat size then none
  else some { frame.packet with
    length := frame.frameLength - UInt16.ofNat size
    id := fields (beValue (frame.take size)) }

/-- Received bytes go to `frame_begin`. -/
def setupRx (size : Nat) (packet : Packet) : Frame := ⟨packet, dataAt - size, 0⟩

/-- This is `csp_id1_prepend`. -/
def id1Prepend (packet : Packet) : Frame := prependHeader id1HeaderSize (id1Word packet.id) packet

/-- This is `csp_id2_prepend`. -/
def id2Prepend (packet : Packet) : Frame := prependHeader id2HeaderSize (id2Word packet.id) packet

/-- This is `csp_id1_strip`. -/
def id1Strip (frame : Frame) : Option Packet := stripHeader id1HeaderSize id1Fields frame

/-- This is `csp_id2_strip`. -/
def id2Strip (frame : Frame) : Option Packet := stripHeader id2HeaderSize id2Fields frame

/-- This is `csp_id1_setup_rx`. -/
def id1SetupRx (packet : Packet) : Frame := setupRx id1HeaderSize packet

/-- This is `csp_id2_setup_rx`. -/
def id2SetupRx (packet : Packet) : Frame := setupRx id2HeaderSize packet

/-- This is `csp_id_prepend`. -/
def idPrepend (cfg : Config) (packet : Packet) : Frame :=
  if cfg.version = 2 then id2Prepend packet else id1Prepend packet

/-- This is `csp_id_strip`. -/
def idStrip (cfg : Config) (frame : Frame) : Option Packet :=
  if cfg.version = 2 then id2Strip frame else id1Strip frame

/-- This is `csp_id_setup_rx`. -/
def idSetupRx (cfg : Config) (packet : Packet) : Frame :=
  if cfg.version = 2 then id2SetupRx packet else id1SetupRx packet

/-- The value that `csp_id_setup_rx` returns. -/
def idHeaderSize (cfg : Config) : Nat := if cfg.version = 2 then id2HeaderSize else id1HeaderSize

/-- The word of the version in use. -/
def idWord (cfg : Config) (id : CspId) : Nat := if cfg.version = 2 then id2Word id else id1Word id

def idFields (cfg : Config) (word : Nat) : CspId :=
  if cfg.version = 2 then id2Fields word else id1Fields word

/-! ## The round trip of the identifier -/

/-- The fields of the identifier fit in the header of the version. -/
structure CspId.Fits (cfg : Config) (id : CspId) : Prop where
  pri : id.pri.toNat < 2 ^ 2
  dst : id.dst.toNat < 2 ^ idGetHostBits cfg
  src : id.src.toNat < 2 ^ idGetHostBits cfg
  dport : id.dport.toNat < 2 ^ 6
  sport : id.sport.toNat < 2 ^ 6
  flags : id.flags.toNat < if cfg.version = 2 then 2 ^ 6 else 2 ^ 8

theorem ofNat8_eq {value : UInt8} {number : Nat} (same : number = value.toNat) :
    UInt8.ofNat number = value := by
  rw [same, UInt8.ofNat_toNat]

theorem ofNat16_eq {value : UInt16} {number : Nat} (same : number = value.toNat) :
    UInt16.ofNat number = value := by
  rw [same, UInt16.ofNat_toNat]

theorem toNat_ofNat16 {number : Nat} (small : number < 2 ^ 16) :
    (UInt16.ofNat number).toNat = number := by
  rw [UInt16.toNat_ofNat', Nat.mod_eq_of_lt small]

/-- Each field of the stored word comes back. -/
theorem id1Fields_word {id : CspId} (fits : id.Fits cfg) (version : cfg.version ≠ 2) :
    id1Fields (id1Word id % 256 ^ id1HeaderSize) = id := by
  obtain ⟨pri, dst, src, dport, sport, flags⟩ := fits
  simp only [idGetHostBits, if_neg version] at dst src flags
  rw [show 256 ^ id1HeaderSize = 2 ^ 32 by decide]
  have fields : field (id1Word id % 2 ^ 32) 30 2 = id.pri.toNat ∧
      field (id1Word id % 2 ^ 32) 20 5 = id.dst.toNat ∧
      field (id1Word id % 2 ^ 32) 25 5 = id.src.toNat ∧
      field (id1Word id % 2 ^ 32) 14 6 = id.dport.toNat ∧
      field (id1Word id % 2 ^ 32) 8 6 = id.sport.toNat ∧
      field (id1Word id % 2 ^ 32) 0 8 = id.flags.toNat := by
    refine ⟨?_, ?_, ?_, ?_, ?_, ?_⟩ <;>
      simp (disch := omega) only [id1Word, field_mod, field_or, field_same, field_below,
        field_above, Nat.or_zero, Nat.zero_or]
  obtain ⟨pri, dst, src, dport, sport, flags⟩ := fields
  simp only [id1Fields, ofNat8_eq pri, ofNat16_eq dst, ofNat16_eq src, ofNat8_eq dport,
    ofNat8_eq sport, ofNat8_eq flags]

theorem id2Fields_word {id : CspId} (fits : id.Fits cfg) (version : cfg.version = 2) :
    id2Fields (id2Word id % 256 ^ id2HeaderSize) = id := by
  obtain ⟨pri, dst, src, dport, sport, flags⟩ := fits
  simp only [idGetHostBits, if_pos version] at dst src flags
  rw [show 256 ^ id2HeaderSize = 2 ^ 48 by decide]
  have fields : field (id2Word id % 2 ^ 48) 46 2 = id.pri.toNat ∧
      field (id2Word id % 2 ^ 48) 32 14 = id.dst.toNat ∧
      field (id2Word id % 2 ^ 48) 18 14 = id.src.toNat ∧
      field (id2Word id % 2 ^ 48) 12 6 = id.dport.toNat ∧
      field (id2Word id % 2 ^ 48) 6 6 = id.sport.toNat ∧
      field (id2Word id % 2 ^ 48) 0 6 = id.flags.toNat := by
    refine ⟨?_, ?_, ?_, ?_, ?_, ?_⟩ <;>
      simp (disch := omega) only [id2Word, field_mod, field_or, field_same, field_below,
        field_above, Nat.or_zero, Nat.zero_or]
  obtain ⟨pri, dst, src, dport, sport, flags⟩ := fields
  simp only [id2Fields, ofNat8_eq pri, ofNat16_eq dst, ofNat16_eq src, ofNat8_eq dport,
    ofNat8_eq sport, ofNat8_eq flags]

theorem idFields_word {id : CspId} (fits : id.Fits cfg) :
    idFields cfg (idWord cfg id % 256 ^ idHeaderSize cfg) = id := by
  simp only [idFields, idWord, idHeaderSize]
  split
  · rename_i version
    exact id2Fields_word fits version
  · rename_i version
    exact id1Fields_word fits version

/-! ## The bytes of a frame -/

theorem idHeaderSize_le (cfg : Config) : idHeaderSize cfg ≤ 6 := by
  rw [idHeaderSize]
  split <;> decide

theorem idPrepend_eq (cfg : Config) (packet : Packet) :
    idPrepend cfg packet = prependHeader (idHeaderSize cfg) (idWord cfg packet.id) packet := by
  simp only [idPrepend, idHeaderSize, idWord]
  split <;> rfl

theorem idStrip_eq (cfg : Config) (frame : Frame) :
    idStrip cfg frame = stripHeader (idHeaderSize cfg) (idFields cfg) frame := by
  simp only [idStrip, idHeaderSize]
  have fields : idFields cfg = if cfg.version = 2 then id2Fields else id1Fields := by
    funext word
    rw [idFields]
    split <;> rfl
  rw [fields]
  split <;> rfl

theorem idSetupRx_eq (cfg : Config) (packet : Packet) :
    idSetupRx cfg packet = setupRx (idHeaderSize cfg) packet := by
  simp only [idSetupRx, idHeaderSize]
  split <;> rfl

theorem writeBytes_map (mem : Memory) (address : Nat) (bytes : List UInt8) :
    ((List.range bytes.length).map fun index => writeBytes mem address bytes (address + index)) =
      bytes := by
  apply List.ext_getElem (by simp)
  intro index _ inside
  simp [writeBytes, inside]

/-- The header in front of the data does not touch the data. -/
theorem prependHeader_payload {size : Nat} (word : Nat) (packet : Packet) (fits : size ≤ dataAt) :
    (prependHeader size word packet).packet.payload = packet.payload := by
  unfold Packet.payload Packet.dataBytes
  apply List.map_congr_left
  intro index _
  have outside : ¬(dataAt - size ≤ dataAt + index ∧
      dataAt + index < dataAt - size + (beBytes size word).length) := by
    rw [beBytes_length]
    omega
  simp only [prependHeader, Packet.data, writeBytes, if_neg outside]

theorem prependHeader_length {size : Nat} (word : Nat) (packet : Packet)
    (room : packet.length.toNat + size < 2 ^ 16) :
    (prependHeader size word packet).frameLength.toNat = packet.length.toNat + size := by
  rw [prependHeader, UInt16.toNat_add, toNat_ofNat16 (by omega), Nat.mod_eq_of_lt room]

/-- A frame is the header followed by the payload. -/
theorem prependHeader_bytes {size : Nat} (word : Nat) (packet : Packet) (fits : size ≤ dataAt)
    (room : packet.length.toNat + size < 2 ^ 16) :
    (prependHeader size word packet).bytes = beBytes size word ++ packet.payload := by
  have header : (List.range size).map (fun index =>
      writeBytes packet.mem (dataAt - size) (beBytes size word) (dataAt - size + index)) =
      beBytes size word := by
    have whole := writeBytes_map packet.mem (dataAt - size) (beBytes size word)
    rwa [beBytes_length] at whole
  have data := prependHeader_payload word packet fits
  rw [Frame.bytes, Frame.take, prependHeader_length word packet room, Nat.add_comm,
    List.range_add, List.map_append, List.map_map]
  congr 1
  rw [← data]
  unfold Packet.payload Packet.dataBytes
  apply List.map_congr_left
  intro index _
  have place : dataAt - size + (size + index) = dataAt + index := by omega
  simp only [prependHeader, Function.comp_apply, Packet.data, place]

theorem idPrepend_bytes (cfg : Config) (packet : Packet)
    (room : packet.length.toNat + idHeaderSize cfg < 2 ^ 16) :
    (idPrepend cfg packet).bytes =
      beBytes (idHeaderSize cfg) (idWord cfg packet.id) ++ packet.payload := by
  have small := idHeaderSize_le cfg
  rw [idPrepend_eq]
  exact prependHeader_bytes _ packet (by simp only [dataAt]; omega) room

theorem Frame.bytes_length (frame : Frame) : frame.bytes.length = frame.frameLength.toNat := by
  simp [Frame.bytes, Frame.take]

/-- A received frame that starts with a header has the fields of the header and the rest as payload. -/
theorem stripHeader_of_bytes {size : Nat} {fields : Nat → CspId} {frame : Frame}
    {header payload : List UInt8} (fits : size ≤ dataAt) (begins : frame.frameBegin = dataAt - size)
    (bytes : frame.bytes = header ++ payload) (length : header.length = size) :
    ∃ packet, stripHeader size fields frame = some packet ∧
      packet = { frame.packet with
        length := UInt16.ofNat payload.length, id := fields (beValue header) } ∧
      packet.payload = payload := by
  have total := frame.bytes_length
  rw [bytes, List.length_append, length] at total
  have bound := frame.frameLength.toNat_lt
  have sizeNat : (UInt16.ofNat size).toNat = size := toNat_ofNat16 (by
    simp only [dataAt] at fits
    omega)
  have long : ¬frame.frameLength < UInt16.ofNat size := by
    rw [UInt16.lt_iff_toNat_lt, sizeNat]
    omega
  have rest : frame.frameLength - UInt16.ofNat size = UInt16.ofNat payload.length := by
    apply UInt16.toNat_inj.mp
    rw [UInt16.toNat_sub_of_le _ _ (UInt16.not_lt.mp long), sizeNat,
      toNat_ofNat16 (by omega)]
    omega
  have parts : frame.take size = header ∧
      (List.range payload.length).map (fun index => frame.packet.mem (dataAt + index)) = payload := by
    have whole := bytes
    rw [Frame.bytes, Frame.take, ← total, List.range_add, List.map_append, List.map_map] at whole
    obtain ⟨front, back⟩ := List.append_inj whole (by simp [length])
    refine ⟨front, ?_⟩
    rw [← back]
    apply List.ext_getElem (by simp)
    intro index _ _
    have place : frame.frameBegin + (size + index) = dataAt + index := by omega
    simp [place]
  refine ⟨_, by rw [stripHeader, if_neg long, parts.1, rest], rfl, ?_⟩
  unfold Packet.payload Packet.dataBytes
  rw [toNat_ofNat16 (by omega)]
  exact parts.2

theorem idStrip_of_bytes {frame : Frame} {header payload : List UInt8}
    (begins : frame.frameBegin = dataAt - idHeaderSize cfg) (bytes : frame.bytes = header ++ payload)
    (length : header.length = idHeaderSize cfg) :
    ∃ packet, idStrip cfg frame = some packet ∧
      packet = { frame.packet with
        length := UInt16.ofNat payload.length, id := idFields cfg (beValue header) } ∧
      packet.payload = payload := by
  have small := idHeaderSize_le cfg
  rw [idStrip_eq]
  exact stripHeader_of_bytes (by simp only [dataAt]; omega) begins bytes length

end Libcsp

/-
This file shows that csp_id_prepend and csp_id_strip are inverse, and that the header fields are independent.
-/
import Libcsp.Header
import Mathlib.Data.Fintype.Basic

namespace Libcsp

open BitField

variable {cfg : Config}

/-! ## The layout -/

/-- The fields of the header. -/
inductive IdField where
  | pri
  | dst
  | src
  | dport
  | sport
  | flags
  deriving DecidableEq, Repr

instance : Fintype IdField where
  elems := {.pri, .dst, .src, .dport, .sport, .flags}
  complete part := by cases part <;> decide

/-- The lowest bit of the field in the word of this version. -/
def IdField.offset (version : Nat) : IdField → Nat
  | .pri => if version = 2 then 46 else 30
  | .dst => if version = 2 then 32 else 20
  | .src => if version = 2 then 18 else 25
  | .dport => if version = 2 then 12 else 14
  | .sport => if version = 2 then 6 else 8
  | .flags => 0

def IdField.width (version : Nat) : IdField → Nat
  | .pri => 2
  | .dst => if version = 2 then 14 else 5
  | .src => if version = 2 then 14 else 5
  | .dport => 6
  | .sport => 6
  | .flags => if version = 2 then 6 else 8

/-- The bit of the header word belongs to the field. -/
def IdField.Holds (version : Nat) (part : IdField) (bit : Nat) : Prop :=
  part.offset version ≤ bit ∧ bit < part.offset version + part.width version

instance (version : Nat) (part : IdField) (bit : Nat) : Decidable (part.Holds version bit) :=
  inferInstanceAs (Decidable (_ ∧ _))

def CspId.get (id : CspId) : IdField → Nat
  | .pri => id.pri.toNat
  | .dst => id.dst.toNat
  | .src => id.src.toNat
  | .dport => id.dport.toNat
  | .sport => id.sport.toNat
  | .flags => id.flags.toNat

/-- Each bit of the header belongs to one field. -/
theorem idField_unique (cfg : Config) (bit : Nat) (inside : bit < 8 * idHeaderSize cfg) :
    ∃! part : IdField, part.Holds cfg.version bit := by
  have second : ∀ bit < 48, ∃ part : IdField, part.Holds 2 bit ∧
      ∀ other : IdField, other.Holds 2 bit → other = part := by
    decide
  have first : ∀ bit < 32, ∃ part : IdField, part.Holds 1 bit ∧
      ∀ other : IdField, other.Holds 1 bit → other = part := by
    decide
  by_cases version : cfg.version = 2
  · rw [version]
    rw [idHeaderSize, if_pos version] at inside
    exact second bit inside
  · rw [idHeaderSize, if_neg version] at inside
    obtain ⟨part, holds, unique⟩ := first bit inside
    have same : ∀ part : IdField, part.Holds cfg.version bit ↔ part.Holds 1 bit := by
      intro part
      cases part <;> simp [IdField.Holds, IdField.offset, IdField.width, version]
    exact ⟨part, (same part).mpr holds, fun other held => unique other ((same other).mp held)⟩

/-- A narrow field fits in the integer of its member. -/
theorem toNat_field8 (word offset : Nat) {size : Nat} (fits : size ≤ 8) :
    (UInt8.ofNat (field word offset size)).toNat = field word offset size := by
  rw [UInt8.toNat_ofNat']
  apply Nat.mod_eq_of_lt
  exact Nat.lt_of_lt_of_le (field_lt word offset size) (Nat.pow_le_pow_right (by decide) fits)

theorem toNat_field16 (word offset : Nat) {size : Nat} (fits : size ≤ 16) :
    (UInt16.ofNat (field word offset size)).toNat = field word offset size := by
  apply toNat_ofNat16
  exact Nat.lt_of_lt_of_le (field_lt word offset size) (Nat.pow_le_pow_right (by decide) fits)

/-- The parser reads each field from its own bits. -/
theorem idFields_get (cfg : Config) (word : Nat) (part : IdField) :
    (idFields cfg word).get part = field word (part.offset cfg.version) (part.width cfg.version) := by
  by_cases version : cfg.version = 2
  · cases part <;> simp only [idFields, version, if_true, id2Fields, CspId.get, IdField.offset, IdField.width]
    exacts [toNat_field8 _ _ (by decide), toNat_field16 _ _ (by decide), toNat_field16 _ _ (by decide),
      toNat_field8 _ _ (by decide), toNat_field8 _ _ (by decide), toNat_field8 _ _ (by decide)]
  · cases part <;> simp only [idFields, version, if_false, id1Fields, CspId.get, IdField.offset, IdField.width]
    exacts [toNat_field8 _ _ (by decide), toNat_field16 _ _ (by decide), toNat_field16 _ _ (by decide),
      toNat_field8 _ _ (by decide), toNat_field8 _ _ (by decide), toNat_field8 _ _ (by decide)]

/-! ## The two directions -/

/-- The lowest field is a remainder. -/
theorem lowest_field (word size : Nat) : field word 0 size <<< 0 = word % 2 ^ size := by
  rw [field_eq, Nat.pow_zero, Nat.div_one, Nat.shiftLeft_zero]

/-- The fields of a word give the word back. -/
theorem id1Word_fields {word : Nat} (small : word < 2 ^ 32) : id1Word (id1Fields word) = word := by
  have whole : field word 30 2 <<< 30 ||| (field word 25 5 <<< 25 ||| (field word 20 5 <<< 20 |||
      (field word 14 6 <<< 14 ||| (field word 8 6 <<< 8 ||| field word 0 8 <<< 0)))) = word % 2 ^ 32 := by
    rw [lowest_field, or_field, or_field, or_field, or_field, or_field]
  rw [Nat.mod_eq_of_lt small] at whole
  have pri : (id1Fields word).pri.toNat = field word 30 2 := toNat_field8 _ _ (by decide)
  have dst : (id1Fields word).dst.toNat = field word 20 5 := toNat_field16 _ _ (by decide)
  have src : (id1Fields word).src.toNat = field word 25 5 := toNat_field16 _ _ (by decide)
  have dport : (id1Fields word).dport.toNat = field word 14 6 := toNat_field8 _ _ (by decide)
  have sport : (id1Fields word).sport.toNat = field word 8 6 := toNat_field8 _ _ (by decide)
  have flags : (id1Fields word).flags.toNat = field word 0 8 := toNat_field8 _ _ (by decide)
  rw [id1Word, pri, dst, src, dport, sport, flags]
  refine Eq.trans ?_ whole
  -- The source lists the destination first, although the source address has the higher bits.
  rw [Nat.or_assoc, Nat.or_assoc, Nat.or_assoc, Nat.or_assoc, Nat.or_left_comm (field word 20 5 <<< 20)]

theorem id2Word_fields {word : Nat} (small : word < 2 ^ 48) : id2Word (id2Fields word) = word := by
  have whole : field word 46 2 <<< 46 ||| (field word 32 14 <<< 32 ||| (field word 18 14 <<< 18 |||
      (field word 12 6 <<< 12 ||| (field word 6 6 <<< 6 ||| field word 0 6 <<< 0)))) = word % 2 ^ 48 := by
    rw [lowest_field, or_field, or_field, or_field, or_field, or_field]
  rw [Nat.mod_eq_of_lt small] at whole
  have pri : (id2Fields word).pri.toNat = field word 46 2 := toNat_field8 _ _ (by decide)
  have dst : (id2Fields word).dst.toNat = field word 32 14 := toNat_field16 _ _ (by decide)
  have src : (id2Fields word).src.toNat = field word 18 14 := toNat_field16 _ _ (by decide)
  have dport : (id2Fields word).dport.toNat = field word 12 6 := toNat_field8 _ _ (by decide)
  have sport : (id2Fields word).sport.toNat = field word 6 6 := toNat_field8 _ _ (by decide)
  have flags : (id2Fields word).flags.toNat = field word 0 6 := toNat_field8 _ _ (by decide)
  rw [id2Word, pri, dst, src, dport, sport, flags]
  refine Eq.trans ?_ whole
  rw [Nat.or_assoc, Nat.or_assoc, Nat.or_assoc, Nat.or_assoc]

theorem idWord_fields {word : Nat} (small : word < 256 ^ idHeaderSize cfg) : idWord cfg (idFields cfg word) = word := by
  simp only [idWord, idFields, idHeaderSize] at small ⊢
  split
  · rename_i version
    rw [if_pos version] at small
    exact id2Word_fields (Nat.lt_of_lt_of_eq small (by decide))
  · rename_i version
    rw [if_neg version] at small
    exact id1Word_fields (Nat.lt_of_lt_of_eq small (by decide))

/-! ## Frames -/

/-- The word in the header of a frame. -/
def Frame.headerWord (cfg : Config) (frame : Frame) : Nat := beValue (frame.take (idHeaderSize cfg))

/-- The frame starts at the place that `csp_id_setup_rx` gives it, and it has a whole header. -/
structure Frame.Received (cfg : Config) (frame : Frame) : Prop where
  begins : frame.frameBegin = dataAt - idHeaderSize cfg
  long : idHeaderSize cfg ≤ frame.frameLength.toNat

theorem Frame.take_length (frame : Frame) (count : Nat) : (frame.take count).length = count := by
  simp [Frame.take]

/-- A store of the bytes that are there changes nothing. -/
theorem writeBytes_self (mem : Memory) (address count : Nat) :
    writeBytes mem address ((List.range count).map fun index => mem (address + index)) = mem := by
  funext place
  simp only [writeBytes, List.length_map, List.length_range]
  split
  · rename_i inside
    have offset : address + (place - address) = place := by omega
    have small : place - address < count := by omega
    simp [small, offset]
  · rfl

/-- The strip of a received frame succeeds. -/
theorem idStrip_received {frame : Frame} (received : frame.Received cfg) :
    idStrip cfg frame = some { frame.packet with
      length := frame.frameLength - UInt16.ofNat (idHeaderSize cfg)
      id := idFields cfg (frame.headerWord cfg) } := by
  have small := idHeaderSize_le cfg
  have long : ¬frame.frameLength < UInt16.ofNat (idHeaderSize cfg) := by
    rw [UInt16.lt_iff_toNat_lt, toNat_ofNat16 (by omega)]
    exact Nat.not_lt.mpr received.long
  rw [idStrip_eq, stripHeader, if_neg long]
  rfl

/-- A header that was parsed is written again as it arrived. -/
theorem idPrepend_strip {frame : Frame} (received : frame.Received cfg) :
    ∃ packet, idStrip cfg frame = some packet ∧ packet.mem = frame.packet.mem ∧
      idPrepend cfg packet = ⟨packet, frame.frameBegin, frame.frameLength⟩ := by
  refine ⟨_, idStrip_received received, rfl, ?_⟩
  have word : idWord cfg (idFields cfg (frame.headerWord cfg)) = frame.headerWord cfg := by
    have bound := beValue_lt (frame.take (idHeaderSize cfg))
    rw [frame.take_length] at bound
    exact idWord_fields bound
  have bytes : beBytes (idHeaderSize cfg) (frame.headerWord cfg) = frame.take (idHeaderSize cfg) := by
    have whole := beBytes_beValue (frame.take (idHeaderSize cfg))
    rwa [frame.take_length] at whole
  have length : frame.frameLength - UInt16.ofNat (idHeaderSize cfg) + UInt16.ofNat (idHeaderSize cfg) =
      frame.frameLength := UInt16.sub_add_cancel _ _
  rw [idPrepend_eq, prependHeader]
  simp only
  rw [word, bytes, length, ← received.begins, Frame.take, writeBytes_self]

/-- The receiver of a frame gets the packet that its sender framed. -/
theorem idStrip_prepend {packet : Packet} (fits : packet.id.Fits cfg)
    (room : packet.length.toNat + idHeaderSize cfg < 2 ^ 16) :
    ∃ stripped, idStrip cfg (idPrepend cfg packet) = some stripped ∧ stripped.id = packet.id ∧
      stripped.length = packet.length ∧ stripped.data = packet.data := by
  have small := idHeaderSize_le cfg
  have begins : (idPrepend cfg packet).frameBegin = dataAt - idHeaderSize cfg := by
    rw [idPrepend_eq]
    rfl
  obtain ⟨stripped, found, same, -⟩ := idStrip_of_bytes begins (idPrepend_bytes cfg packet room)
    (beBytes_length _ _)
  refine ⟨stripped, found, ?_, ?_, ?_⟩
  · rw [same]
    simp only
    rw [beValue_beBytes, idFields_word fits]
  · rw [same]
    simp only
    rw [packet.payload_length, UInt16.ofNat_toNat]
  · rw [same, idPrepend_eq]
    funext index
    have outside : ¬(dataAt - idHeaderSize cfg ≤ dataAt + index ∧ dataAt + index < dataAt - idHeaderSize cfg +
        (beBytes (idHeaderSize cfg) (idWord cfg packet.id)).length) := by
      rw [beBytes_length]
      simp only [dataAt]
      omega
    simp only [prependHeader, Packet.data, writeBytes, if_neg outside]

/-! ## Independence -/

/-- The header word of a framed packet has each field in its place. -/
theorem idPrepend_field {packet : Packet} (fits : packet.id.Fits cfg) (part : IdField) :
    field ((idPrepend cfg packet).headerWord cfg) (part.offset cfg.version) (part.width cfg.version) =
      packet.id.get part := by
  have taken : (idPrepend cfg packet).take (idHeaderSize cfg) =
      beBytes (idHeaderSize cfg) (idWord cfg packet.id) := by
    have whole := writeBytes_map packet.mem (dataAt - idHeaderSize cfg)
      (beBytes (idHeaderSize cfg) (idWord cfg packet.id))
    rw [beBytes_length] at whole
    rw [idPrepend_eq]
    exact whole
  rw [Frame.headerWord, taken, beValue_beBytes, ← idFields_get cfg, idFields_word fits]

/-- A bit inside a field is a bit of its value. -/
theorem testBit_field (word : Nat) {offset size bit : Nat} (above : offset ≤ bit) (below : bit < offset + size) :
    (field word offset size).testBit (bit - offset) = word.testBit bit := by
  have inside : bit - offset < size := by omega
  have place : bit - offset + offset = bit := by omega
  rw [field_eq, Nat.testBit_mod_two_pow, Nat.testBit_div_two_pow, place, decide_eq_true inside, Bool.true_and]

/-- Each bit of the header has one field. The bits of a field depend on this field only, and the parser
reads the field from these bits only. -/
structure HeaderIndependent (cfg : Config) : Prop where
  unique : ∀ bit < 8 * idHeaderSize cfg, ∃! part : IdField, part.Holds cfg.version bit
  written : ∀ packet other : Packet, packet.id.Fits cfg → other.id.Fits cfg → ∀ part : IdField,
    packet.id.get part = other.id.get part → ∀ bit, part.Holds cfg.version bit →
      ((idPrepend cfg packet).headerWord cfg).testBit bit = ((idPrepend cfg other).headerWord cfg).testBit bit
  read : ∀ frame other : Frame, frame.Received cfg → other.Received cfg → ∀ part : IdField,
    (∀ bit, part.Holds cfg.version bit → (frame.headerWord cfg).testBit bit = (other.headerWord cfg).testBit bit) →
      (idStrip cfg frame).map (fun packet => packet.id.get part) =
        (idStrip cfg other).map fun packet => packet.id.get part

theorem headerIndependent (cfg : Config) : HeaderIndependent cfg where
  unique := idField_unique cfg
  written packet other fits fits' part same bit holds := by
    rw [← testBit_field _ holds.1 holds.2, ← testBit_field _ holds.1 holds.2, idPrepend_field fits,
      idPrepend_field fits', same]
  read frame other received received' part same := by
    rw [idStrip_received received, idStrip_received received']
    apply congrArg some
    show (idFields cfg (frame.headerWord cfg)).get part = (idFields cfg (other.headerWord cfg)).get part
    rw [idFields_get, idFields_get]
    apply Nat.eq_of_testBit_eq
    intro index
    by_cases inside : index < part.width cfg.version
    · have bit := same (part.offset cfg.version + index) ⟨Nat.le_add_right _ _, Nat.add_lt_add_left inside _⟩
      rw [← testBit_field _ (Nat.le_add_right _ _) (Nat.add_lt_add_left inside _),
        ← testBit_field _ (Nat.le_add_right _ _) (Nat.add_lt_add_left inside _), Nat.add_sub_cancel_left] at bit
      exact bit
    · simp only [field_eq, Nat.testBit_mod_two_pow, inside, decide_false, Bool.false_and]

/-- A framed packet comes back whole, a parsed header is written again as it arrived, and no field
influences another one. -/
theorem headerCodecs_inverse (frameFits : cfg.bufferSize + idHeaderSize cfg < 2 ^ 16) :
    (∀ packet : Packet, packet.id.Fits cfg → packet.length.toNat ≤ cfg.bufferSize →
      ∃ stripped, idStrip cfg (idPrepend cfg packet) = some stripped ∧ stripped.id = packet.id ∧
        stripped.length = packet.length ∧ stripped.data = packet.data) ∧
    (∀ frame : Frame, frame.Received cfg →
      ∃ packet, idStrip cfg frame = some packet ∧ packet.mem = frame.packet.mem ∧
        idPrepend cfg packet = ⟨packet, frame.frameBegin, frame.frameLength⟩) ∧
    HeaderIndependent cfg :=
  ⟨fun _ fits length => idStrip_prepend fits (by omega), fun _ received => idPrepend_strip received,
    headerIndependent cfg⟩

/-- A packet with a value in each header field. -/
def headerPacket : Packet :=
  { (default : Packet) with
    length := 4
    id := { pri := 2, flags := cspFCrc32, src := 5, dst := 9, dport := 10, sport := 20 } }

/-- The frame length of the default build has room for the larger header. -/
theorem headerPacket_inverse :
    ∃ stripped, idStrip {} (idPrepend {} headerPacket) = some stripped ∧ stripped.id = headerPacket.id ∧
      stripped.length = headerPacket.length ∧ stripped.data = headerPacket.data :=
  (headerCodecs_inverse (by decide : ({} : Config).bufferSize + idHeaderSize {} < 2 ^ 16)).1 headerPacket
    ⟨by decide, by decide, by decide, by decide, by decide, by decide⟩ (by decide)

end Libcsp

/-
This file says which bytes of its stream the KISS receiver stores, and which packets it makes from them.
-/
import Libcsp.Kiss
import Libcsp.RxFrames

namespace Libcsp

variable {cfg : Config} {qfifoLen : Nat}

/-! ## The text of a frame -/

/-- The meaning of the characters behind the END character that starts a frame. -/
structure KissText where
  /-- The TNC byte is still to come. -/
  first : Bool
  escaped : Bool
  bytes : List UInt8

/-- One more character of the text. -/
def KissText.next (text : KissText) (byte : UInt8) : KissText :=
  if text.escaped then
    { text with
      escaped := false
      bytes := text.bytes ++ if byte = tfesc then [fesc] else if byte = tfend then [fend] else [] }
  else if byte = fesc then { text with escaped := true }
  else if byte = fend then text
  else if text.first then { text with first := false }
  else { text with bytes := text.bytes ++ [byte] }

def kissText (characters : List UInt8) : KissText :=
  characters.foldl KissText.next { first := true, escaped := false, bytes := [] }

theorem kissText_snoc (characters : List UInt8) (byte : UInt8) :
    kissText (characters ++ [byte]) = (kissText characters).next byte := by
  rw [kissText, List.foldl_append]
  rfl

/-! ## The receiver and the stream -/

/-- The receiver has heard this stream since `csp_kiss_add_interface`. Other tasks use the interface before each
byte. -/
inductive Kiss.Heard : List UInt8 → Kiss cfg qfifoLen → Prop
  | added (link : Link cfg qfifoLen) : Kiss.Heard [] (kissAddInterface link)
  | byte {stream : List UInt8} {kiss : Kiss cfg qfifoLen} (link : Link cfg qfifoLen) (byte : UInt8)
      (before : Kiss.Heard stream kiss) : Kiss.Heard (stream ++ [byte]) (kissRxByte { kiss with link } byte)

/-- The frame buffer has the text behind the last END character that started a frame. -/
structure Kiss.Reads (kiss : Kiss cfg qfifoLen) (frame : Frame) (escaped : Bool) (characters bytes : List UInt8) :
    Prop where
  text : kissText characters = { first := kiss.rxFirst, escaped, bytes }
  length : kiss.rxLength = bytes.length
  begins : frame.frameBegin = dataAt - idHeaderSize cfg
  stored : frame.take bytes.length = bytes

/-- The stream ends with a started frame and its text. -/
def Kiss.ReadsFrom (kiss : Kiss cfg qfifoLen) (stream : List UInt8) (frame : Frame) (escaped : Bool) : Prop :=
  ∃ before characters bytes, stream = before ++ fend :: characters ∧ kiss.Reads frame escaped characters bytes

/-- What the receiver knows of the stream in each mode. -/
inductive Kiss.Follows (kiss : Kiss cfg qfifoLen) (stream : List UInt8) : Prop
  | notStarted (spare : Option Frame) (max : kiss.maxRxLength = cfg.bufferSize)
      (mode : kiss.rxMode = .notStarted spare) : Kiss.Follows kiss stream
  | started (frame : Frame) (max : kiss.maxRxLength = cfg.bufferSize) (mode : kiss.rxMode = .started frame)
      (reads : kiss.ReadsFrom stream frame false) : Kiss.Follows kiss stream
  | escaped (frame : Frame) (max : kiss.maxRxLength = cfg.bufferSize) (mode : kiss.rxMode = .escaped frame)
      (reads : kiss.ReadsFrom stream frame true) : Kiss.Follows kiss stream
  | skipFrame (max : kiss.maxRxLength = cfg.bufferSize) (mode : kiss.rxMode = .skipFrame) : Kiss.Follows kiss stream

variable {kiss : Kiss cfg qfifoLen} {stream : List UInt8}

theorem Kiss.Follows.max (follows : kiss.Follows stream) : kiss.maxRxLength = cfg.bufferSize := by
  cases follows <;> assumption

/-- The other tasks do not touch the receiver. -/
theorem Kiss.ReadsFrom.between {frame : Frame} {escaped : Bool} (reads : kiss.ReadsFrom stream frame escaped)
    (link : Link cfg qfifoLen) : { kiss with link }.ReadsFrom stream frame escaped := by
  obtain ⟨before, characters, bytes, same, text, length, begins, stored⟩ := reads
  exact ⟨before, characters, bytes, same, text, length, begins, stored⟩

theorem Kiss.Follows.between (follows : kiss.Follows stream) (link : Link cfg qfifoLen) :
    { kiss with link }.Follows stream := by
  cases follows with
  | notStarted spare max mode => exact .notStarted spare max mode
  | started frame max mode reads => exact .started frame max mode (reads.between link)
  | escaped frame max mode reads => exact .escaped frame max mode (reads.between link)
  | skipFrame max mode => exact .skipFrame max mode

/-- The check of the length gives up a frame or changes nothing. -/
theorem Kiss.Follows.checkLength (follows : kiss.Follows stream) : kiss.checkLength.Follows stream := by
  rw [Kiss.checkLength]
  split
  · exact .notStarted _ follows.max rfl
  · exact follows

/-- An END character starts a frame with an empty text. -/
theorem Kiss.start_follows (max : kiss.maxRxLength = cfg.bufferSize) (spare : Option Frame) :
    (kiss.start spare).Follows (stream ++ [fend]) := by
  have fresh : ∀ (link : Link cfg qfifoLen) (packet : Packet),
      ({ kiss with link, rxMode := .started (idSetupRx cfg packet), rxLength := 0, rxFirst := true } :
        Kiss cfg qfifoLen).Follows (stream ++ [fend]) := fun link packet =>
    .started _ max rfl ⟨stream, [], [], rfl, rfl, rfl, by rw [idSetupRx_eq]; rfl, rfl⟩
  cases spare with
  | some frame => exact fresh kiss.link frame.packet
  | none =>
      simp only [Kiss.start]
      split
      · exact fresh _ _
      · exact .skipFrame max rfl

/-- The mode and the flags of the receiver change with the text. -/
theorem Kiss.ReadsFrom.next {frame : Frame} {escaped : Bool} (reads : kiss.ReadsFrom stream frame escaped)
    {byte : UInt8} {after : Kiss cfg qfifoLen} {escaped' : Bool}
    (means : ∀ bytes, KissText.next { first := kiss.rxFirst, escaped, bytes } byte =
      { first := after.rxFirst, escaped := escaped', bytes })
    (length : after.rxLength = kiss.rxLength) : after.ReadsFrom (stream ++ [byte]) frame escaped' := by
  obtain ⟨before, characters, bytes, same, text, length', begins, stored⟩ := reads
  refine ⟨before, characters ++ [byte], bytes, ?_, ?_, length.trans length', begins, stored⟩
  · rw [same, List.append_assoc, List.cons_append]
  · rw [kissText_snoc, text, means]

/-- A stored byte is the meaning of the last character. -/
theorem Kiss.ReadsFrom.store {frame : Frame} {escaped : Bool} (reads : kiss.ReadsFrom stream frame escaped)
    {byte stored : UInt8}
    (means : ∀ bytes, KissText.next { first := kiss.rxFirst, escaped, bytes } byte =
      { first := kiss.rxFirst, escaped := false, bytes := bytes ++ [stored] }) :
    (kiss.store frame stored).ReadsFrom (stream ++ [byte]) (frame.write kiss.rxLength [stored]) false := by
  obtain ⟨before, characters, bytes, same, text, length, begins, content⟩ := reads
  refine ⟨before, characters ++ [byte], bytes ++ [stored], ?_, ?_, ?_, begins, ?_⟩
  · rw [same, List.append_assoc, List.cons_append]
  · rw [kissText_snoc, text, means]
    rfl
  · rw [List.length_append, ← length]
    rfl
  · rw [List.length_append, length, Frame.take_write, content]

theorem Kiss.accept_mode (kiss : Kiss cfg qfifoLen) (frame : Frame) :
    ∃ spare, (kiss.accept frame).rxMode = .notStarted spare := by
  simp only [Kiss.accept]
  split
  · exact ⟨_, rfl⟩
  · split <;> exact ⟨_, rfl⟩

/-- One more byte of the stream. -/
theorem Kiss.Follows.byte (follows : kiss.Follows stream) (byte : UInt8) :
    (kissRxByte kiss byte).Follows (stream ++ [byte]) := by
  have max := follows.checkLength.max
  simp only [kissRxByte]
  cases follows.checkLength with
  | notStarted spare _ mode =>
      simp only [mode]
      split
      · exact .notStarted spare max mode
      · rename_i ends
        rw [not_not.mp ends]
        exact Kiss.start_follows max spare
  | started frame _ mode reads =>
      simp only [mode]
      by_cases escape : byte = fesc
      · rw [if_pos escape]
        refine .escaped frame max rfl (reads.next (fun bytes => ?_) rfl)
        simp [KissText.next, escape]
      · rw [if_neg escape]
        by_cases ends : byte = fend
        · rw [if_pos ends]
          split
          · obtain ⟨spare, given⟩ := kiss.checkLength.accept_mode frame
            exact .notStarted spare ((Kiss.accept_fields _ frame).1.trans max) given
          · refine .started frame max mode (reads.next (fun bytes => ?_) rfl)
            rw [ends]
            rfl
        · rw [if_neg ends]
          split
          · rename_i first
            refine .started frame max rfl (reads.next (fun bytes => ?_) rfl)
            simp [KissText.next, escape, ends, first]
          · rename_i later
            refine .started _ max rfl (reads.store fun bytes => ?_)
            simp [KissText.next, escape, ends, later]
  | escaped frame _ mode reads =>
      simp only [mode]
      by_cases escape : byte = tfesc
      · rw [if_pos escape]
        refine .started _ max rfl (reads.store fun bytes => ?_)
        simp [KissText.next, escape]
      · rw [if_neg escape]
        by_cases ends : byte = tfend
        · rw [if_pos ends]
          refine .started _ max rfl (reads.store fun bytes => ?_)
          rw [ends]
          rfl
        · rw [if_neg ends]
          refine .started frame max rfl (reads.next (fun bytes => ?_) rfl)
          simp [KissText.next, escape, ends]
  | skipFrame _ mode =>
      simp only [mode]
      split
      · exact .notStarted none max rfl
      · exact .skipFrame max mode

theorem Kiss.Heard.follows (heard : Kiss.Heard stream kiss) : kiss.Follows stream := by
  induction heard with
  | added link => exact .notStarted none rfl rfl
  | byte link byte _ follows => exact (follows.between link).byte byte

/-! ## The packets of the receiver -/

theorem Packet.payload_take {packet : Packet} {count : Nat} (inside : count ≤ packet.length.toNat) :
    packet.payload.take count = packet.dataBytes count := by
  rw [Packet.payload, Packet.dataBytes, Packet.dataBytes, ← List.map_take, List.take_range, Nat.min_eq_left inside]

/-- A whole frame gives a packet of its bytes. -/
theorem Kiss.accept_fromFrame {frame : Frame} {bytes : List UInt8} (length : kiss.rxLength = bytes.length)
    (begins : frame.frameBegin = dataAt - idHeaderSize cfg) (stored : frame.take bytes.length = bytes)
    (short : bytes.length < cfg.bufferSize) :
    (kiss.accept frame).link.handed = kiss.link.handed ∨
      ∃ packet : Packet, (kiss.accept frame).link.handed = kiss.link.handed ++ [packet] ∧
        packet.FromFrame cfg bytes bytes.length id 4 := by
  have small := cfg.bufferSize_lt
  have number : (UInt16.ofNat kiss.rxLength).toNat = bytes.length := by
    rw [length]
    exact toNat_ofNat16 (by omega)
  have content : ({ frame with frameLength := UInt16.ofNat kiss.rxLength } : Frame).bytes = bytes := by
    rw [Frame.bytes, number]
    exact stored
  simp only [Kiss.accept]
  split
  · exact .inl rfl
  · rename_i packet stripped
    split
    · rename_i verified checked
      right
      obtain ⟨total, fields, payload⟩ :=
        @idStrip_some cfg { frame with frameLength := UInt16.ofNat kiss.rxLength } packet begins stripped
      rw [content] at total fields payload
      obtain ⟨⟨long, _⟩, visible⟩ := crc32Verify_sums checked
      have count : packet.length.toNat = packet.length.toNat - 4 + 4 := by omega
      have rest : verified.length.toNat = packet.length.toNat - 4 := by
        rw [visible.length]
        exact Packet.dropTrailer_length count
      refine ⟨verified, qfifoWrite_handed _ _, ?_, ?_, ?_, ?_, ?_⟩
      · omega
      · rw [visible.id]
        exact fields
      · omega
      · rw [visible.payload, Packet.dropTrailer_payload count, rest, ← payload]
        exact (Packet.payload_take (Nat.sub_le _ _)).symm
      · omega
    · exact .inl rfl

theorem Kiss.short_of_started {frame : Frame} (mode : kiss.checkLength.rxMode = .started frame) :
    kiss.checkLength.rxLength < kiss.maxRxLength := by
  rw [Kiss.checkLength] at mode ⊢
  split at mode
  · cases mode
  · rename_i short
    rw [if_neg short]
    exact Nat.not_le.mp short

/-- A packet that the receiver hands over comes from the text between two END characters of the stream. -/
theorem Kiss.Heard.hands (heard : Kiss.Heard stream kiss) (link : Link cfg qfifoLen) (byte : UInt8) :
    (kissRxByte { kiss with link } byte).link.handed = link.handed ∨
      ∃ packet : Packet, (kissRxByte { kiss with link } byte).link.handed = link.handed ++ [packet] ∧
        ∃ before characters, stream ++ [byte] = before ++ fend :: (characters ++ [fend]) ∧
          packet.FromFrame cfg (kissText characters).bytes (kissText characters).bytes.length id 4 := by
  generalize state : ({ kiss with link } : Kiss cfg qfifoLen) = other
  have follows : other.Follows stream := state ▸ heard.follows.between link
  have start : other.link = link := state ▸ rfl
  have handed : other.checkLength.link.handed = link.handed := by
    rw [Kiss.checkLength, ← start]
    split <;> rfl
  rw [← handed]
  simp only [kissRxByte]
  cases follows.checkLength with
  | notStarted spare _ mode =>
      simp only [mode]
      split
      · exact .inl rfl
      · exact .inl (Kiss.start_handed _ spare)
  | started frame max mode reads =>
      simp only [mode]
      split
      · exact .inl rfl
      · split
        · rename_i ends
          split
          · rename_i filled
            obtain ⟨before, characters, bytes, same, text, length, begins, stored⟩ := reads
            have short : bytes.length < cfg.bufferSize := by
              rw [← length, ← follows.max]
              exact Kiss.short_of_started mode
            rcases Kiss.accept_fromFrame length begins stored short with nothing | ⟨packet, given, whole⟩
            · exact .inl nothing
            · refine .inr ⟨packet, given, before, characters, ?_, ?_⟩
              · rw [same, ends, List.append_assoc, List.cons_append]
              · rw [text]
                exact whole
          · exact .inl rfl
        · split
          · exact .inl rfl
          · exact .inl rfl
  | escaped frame _ mode reads =>
      simp only [mode]
      split
      · exact .inl rfl
      · split <;> exact .inl rfl
  | skipFrame _ mode =>
      simp only [mode]
      split <;> exact .inl rfl

end Libcsp

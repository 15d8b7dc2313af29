/-
This file models csp_if_kiss.c and proves which packets cross a KISS link.
-/
import Libcsp.Checksum
import Libcsp.Link

namespace Libcsp

open BitField

variable {cfg : Config} {qfifoLen : Nat}

def fend : UInt8 := 0xC0
def fesc : UInt8 := 0xDB
def tfend : UInt8 := 0xDC
def tfesc : UInt8 := 0xDD
def tncData : UInt8 := 0x00

/-! ## The transmitter -/

/-- The bytes of one call of `tx_func` for a data byte. -/
def kissEscape (byte : UInt8) : List UInt8 :=
  if byte = fend then [fesc, tfend] else if byte = fesc then [fesc, tfesc] else [byte]

/-- The checksum is dropped without space for it. -/
def kissFrame (cfg : Config) (packet : Packet) : Frame :=
  idPrepend cfg (match crc32Append cfg packet with
    | .ok packet => packet
    | .error packet => packet)

/-- This is `csp_kiss_tx`. The result is the list of calls of `tx_func`. -/
def kissTx (pool : Pool cfg) (packet : Packet) : List (List UInt8) × Pool cfg :=
  let frame := kissFrame cfg packet
  ([fend, tncData] :: frame.bytes.map kissEscape ++ [[fend]], bufferFree pool (some frame.packet))

/-! ## The receiver -/

/-- The mode of the receiver together with its packet. A started frame always has a packet. -/
inductive KissMode where
  | notStarted (packet : Option Frame)
  | started (packet : Frame)
  | escaped (packet : Frame)
  | skipFrame

def KissMode.rxPacket : KissMode → Option Frame
  | .notStarted packet => packet
  | .started packet => some packet
  | .escaped packet => some packet
  | .skipFrame => none

/-- The interface and its `csp_kiss_interface_data_t`. -/
structure Kiss (cfg : Config) (qfifoLen : Nat) where
  link : Link cfg qfifoLen
  maxRxLength : Nat
  rxMode : KissMode
  rxLength : Nat
  rxFirst : Bool

/-- The receiver gives up a frame that is too long. -/
def Kiss.checkLength (kiss : Kiss cfg qfifoLen) : Kiss cfg qfifoLen :=
  if kiss.rxLength ≥ kiss.maxRxLength then
    { kiss with
      link := kiss.link.countRxError, rxMode := .notStarted kiss.rxMode.rxPacket, rxLength := 0 }
  else kiss

/-- An END character starts a frame when there is a packet for it. -/
def Kiss.start (kiss : Kiss cfg qfifoLen) (rxPacket : Option Frame) : Kiss cfg qfifoLen :=
  match rxPacket with
  | some frame => { kiss with
      rxMode := .started (idSetupRx cfg frame.packet), rxLength := 0, rxFirst := true }
  | none =>
      match bufferGet kiss.link.pool 0 with
      | (some packet, pool) => { kiss with
          link := { kiss.link with pool }
          rxMode := .started (idSetupRx cfg packet), rxLength := 0, rxFirst := true }
      | (none, pool) => { kiss with link := { kiss.link with pool }, rxMode := .skipFrame }

/-- The receiver stores one byte at the end of the frame. -/
def Kiss.store (kiss : Kiss cfg qfifoLen) (frame : Frame) (byte : UInt8) : Kiss cfg qfifoLen :=
  { kiss with
    rxMode := .started (frame.write kiss.rxLength [byte])
    rxLength := kiss.rxLength + 1 }

/-- An END character completes a frame. -/
def Kiss.accept (kiss : Kiss cfg qfifoLen) (frame : Frame) : Kiss cfg qfifoLen :=
  let frame := { frame with frameLength := UInt16.ofNat kiss.rxLength }
  match idStrip cfg frame with
  | none => { kiss with link := kiss.link.countRxError, rxMode := .notStarted (some frame) }
  | some packet =>
      let link := kiss.link.countFrame
      match crc32Verify cfg packet with
      | (.none, packet) => { kiss with link := qfifoWrite link packet, rxMode := .notStarted none }
      | (_, packet) => { kiss with
          link := link.countRxError, rxMode := .notStarted (some { frame with packet }) }

/-- The body of the loop of `csp_kiss_rx`. -/
def kissRxByte (kiss : Kiss cfg qfifoLen) (inputbyte : UInt8) : Kiss cfg qfifoLen :=
  let kiss := kiss.checkLength
  match kiss.rxMode with
  | .notStarted rxPacket => if inputbyte ≠ fend then kiss else kiss.start rxPacket
  | .started frame =>
      if inputbyte = fesc then { kiss with rxMode := .escaped frame }
      else if inputbyte = fend then if kiss.rxLength > 0 then kiss.accept frame else kiss
      else if kiss.rxFirst then { kiss with rxFirst := false }
      else kiss.store frame inputbyte
  | .escaped frame =>
      if inputbyte = tfesc then kiss.store frame fesc
      else if inputbyte = tfend then kiss.store frame fend
      else { kiss with rxMode := .started frame }
  | .skipFrame => if inputbyte = fend then { kiss with rxMode := .notStarted none } else kiss

/-- This is `csp_kiss_rx`. -/
def kissRx (kiss : Kiss cfg qfifoLen) (buf : List UInt8) : Kiss cfg qfifoLen :=
  buf.foldl kissRxByte kiss

/-- This is `csp_kiss_add_interface`. The difference wraps around like an `unsigned int`. -/
def kissAddInterface (link : Link cfg qfifoLen) : Kiss cfg qfifoLen :=
  let maxDataSize := (2 ^ 32 + cfg.bufferSize - 4) % 2 ^ 32
  { link := if link.mtu = 0 ∨ link.mtu.toNat > maxDataSize then
      { link with mtu := UInt16.ofNat maxDataSize } else link
    maxRxLength := cfg.bufferSize
    rxMode := .notStarted none
    rxLength := 0
    rxFirst := false }

/-! ## Bytes of a frame -/

/-- The receiver cannot complete a frame before the next END character. -/
def Kiss.Idle (kiss : Kiss cfg qfifoLen) : Prop :=
  (∃ packet, kiss.rxMode = .notStarted packet) ∨ kiss.maxRxLength ≤ kiss.rxLength

/-- The receiver has stored these bytes of a frame. -/
structure Kiss.Stores (kiss : Kiss cfg qfifoLen) (link : Link cfg qfifoLen) (bytes : List UInt8) :
    Prop where
  link : kiss.link = link
  frame : ∃ frame : Frame, kiss.rxMode = .started frame ∧
    frame.frameBegin = dataAt - idHeaderSize cfg ∧ frame.take bytes.length = bytes
  length : kiss.rxLength = bytes.length
  first : kiss.rxFirst = false
  max : kiss.maxRxLength = cfg.bufferSize

theorem kissRx_calls (kiss : Kiss cfg qfifoLen) (calls : List (List UInt8)) :
    calls.foldl kissRx kiss = kissRx kiss calls.flatten := by
  unfold kissRx
  exact List.foldl_flatten.symm

theorem fend_not_mem_kissEscape (byte : UInt8) : fend ∉ kissEscape byte := by
  unfold kissEscape
  split
  · decide
  · rename_i notEnd
    split
    · decide
    · simpa using Ne.symm notEnd

theorem Kiss.checkLength_of_lt {kiss : Kiss cfg qfifoLen} (short : kiss.rxLength < kiss.maxRxLength) :
    kiss.checkLength = kiss := by
  rw [Kiss.checkLength, if_neg (by omega)]

theorem Kiss.Idle.checkLength {kiss : Kiss cfg qfifoLen} (idle : kiss.Idle) :
    (∃ packet, kiss.checkLength.rxMode = .notStarted packet) ∧
      kiss.checkLength.link.handed = kiss.link.handed := by
  unfold Kiss.checkLength
  split
  · exact ⟨⟨_, rfl⟩, rfl⟩
  · rename_i short
    rcases idle with mode | long
    · exact ⟨mode, rfl⟩
    · omega

theorem Kiss.start_handed (kiss : Kiss cfg qfifoLen) (rxPacket : Option Frame) :
    (kiss.start rxPacket).link.handed = kiss.link.handed := by
  unfold Kiss.start
  split
  · rfl
  · split <;> rfl

/-- Without an END character an idle receiver stays idle. -/
theorem Kiss.Idle.byte {kiss : Kiss cfg qfifoLen} (idle : kiss.Idle) (byte : UInt8) :
    (kissRxByte kiss byte).link.handed = kiss.link.handed ∧
      (byte ≠ fend → (kissRxByte kiss byte).Idle) := by
  obtain ⟨⟨packet, mode⟩, handed⟩ := idle.checkLength
  by_cases ends : byte = fend
  · have step : kissRxByte kiss byte = kiss.checkLength.start packet := by
      simp only [kissRxByte, mode, ends, ne_eq, not_true_eq_false, if_false]
    rw [step, Kiss.start_handed]
    exact ⟨handed, fun notEnd => absurd ends notEnd⟩
  · have step : kissRxByte kiss byte = kiss.checkLength := by
      simp only [kissRxByte, mode, ends, ne_eq, not_false_eq_true, if_true]
    rw [step]
    exact ⟨handed, fun _ => .inl ⟨packet, mode⟩⟩

theorem Kiss.Idle.bytes {kiss : Kiss cfg qfifoLen} (idle : kiss.Idle) {bytes : List UInt8}
    (noEnd : fend ∉ bytes) : (kissRx kiss bytes).Idle ∧
      (kissRx kiss bytes).link.handed = kiss.link.handed := by
  induction bytes generalizing kiss with
  | nil => exact ⟨idle, rfl⟩
  | cons byte rest ih =>
      rw [List.mem_cons, not_or] at noEnd
      obtain ⟨notEnd, noEnd⟩ := noEnd
      obtain ⟨handed, stays⟩ := idle.byte byte
      obtain ⟨idle', handed'⟩ := ih (stays (Ne.symm notEnd)) noEnd
      exact ⟨idle', handed'.trans handed⟩

theorem Kiss.Stores.store {kiss : Kiss cfg qfifoLen} {link : Link cfg qfifoLen} {bytes : List UInt8}
    {frame : Frame} (stores : kiss.Stores link bytes)
    (begins : frame.frameBegin = dataAt - idHeaderSize cfg) (stored : frame.take bytes.length = bytes)
    (mode : KissMode) (byte : UInt8) :
    ({ kiss with rxMode := mode }.store frame byte).Stores link (bytes ++ [byte]) where
  link := stores.link
  frame := by
    refine ⟨_, rfl, begins, ?_⟩
    rw [List.length_append, stores.length, Frame.take_write, stored]
  length := by
    rw [List.length_append, List.length_singleton, ← stores.length]
    rfl
  first := stores.first
  max := stores.max

/-- A data byte without a special meaning is stored. -/
theorem Kiss.Stores.plain {kiss : Kiss cfg qfifoLen} {link : Link cfg qfifoLen} {bytes : List UInt8}
    (stores : kiss.Stores link bytes) (short : bytes.length < cfg.bufferSize) {byte : UInt8}
    (notEnd : byte ≠ fend) (notEscape : byte ≠ fesc) :
    (kissRxByte kiss byte).Stores link (bytes ++ [byte]) := by
  obtain ⟨frame, mode, begins, stored⟩ := stores.frame
  have within : kiss.checkLength = kiss := Kiss.checkLength_of_lt (by
    rw [stores.length, stores.max]
    exact short)
  have step : kissRxByte kiss byte = kiss.store frame byte := by
    simp only [kissRxByte, within, mode, if_neg notEscape, if_neg notEnd, stores.first, Bool.false_eq_true,
      if_false]
  rw [step]
  exact stores.store begins stored kiss.rxMode byte

/-- The receiver has stored these bytes and then read the escape character. -/
def Kiss.Escapes (kiss : Kiss cfg qfifoLen) (link : Link cfg qfifoLen) (bytes : List UInt8) : Prop :=
  ∃ before : Kiss cfg qfifoLen, ∃ frame, before.Stores link bytes ∧
    frame.frameBegin = dataAt - idHeaderSize cfg ∧ frame.take bytes.length = bytes ∧
      kiss = { before with rxMode := .escaped frame }

theorem Kiss.Stores.escapes {kiss : Kiss cfg qfifoLen} {link : Link cfg qfifoLen} {bytes : List UInt8}
    (stores : kiss.Stores link bytes) (short : bytes.length < cfg.bufferSize) :
    (kissRxByte kiss fesc).Escapes link bytes := by
  obtain ⟨frame, mode, begins, stored⟩ := stores.frame
  have within : kiss.checkLength = kiss := Kiss.checkLength_of_lt (by
    rw [stores.length, stores.max]
    exact short)
  refine ⟨kiss, frame, stores, begins, stored, ?_⟩
  simp only [kissRxByte, within, mode, if_true]

/-- The second character of an escape stands for the byte. -/
theorem Kiss.Escapes.second {kiss : Kiss cfg qfifoLen} {link : Link cfg qfifoLen} {bytes : List UInt8}
    (escapes : kiss.Escapes link bytes) (short : bytes.length < cfg.bufferSize) {code byte : UInt8}
    (stands : code = tfesc ∧ byte = fesc ∨ code = tfend ∧ byte = fend) :
    (kissRxByte kiss code).Stores link (bytes ++ [byte]) := by
  obtain ⟨before, frame, stores, begins, stored, rfl⟩ := escapes
  have within : { before with rxMode := .escaped frame }.checkLength =
      { before with rxMode := .escaped frame } := Kiss.checkLength_of_lt (by
    rw [stores.length, stores.max]
    exact short)
  have step : kissRxByte { before with rxMode := .escaped frame } code =
      { before with rxMode := .escaped frame }.store frame byte := by
    rcases stands with ⟨rfl, rfl⟩ | ⟨rfl, rfl⟩
    · simp only [kissRxByte, within, if_true]
    · simp only [kissRxByte, within, if_true]
      rfl
  rw [step]
  exact stores.store begins stored (.escaped frame) byte

/-- The receiver undoes the escape of one byte. -/
theorem Kiss.Stores.escape {kiss : Kiss cfg qfifoLen} {link : Link cfg qfifoLen} {bytes : List UInt8}
    (stores : kiss.Stores link bytes) (short : bytes.length < cfg.bufferSize) (byte : UInt8) :
    (kissRx kiss (kissEscape byte)).Stores link (bytes ++ [byte]) := by
  unfold kissEscape
  split
  · rename_i isEnd
    exact (stores.escapes short).second short (.inr ⟨rfl, isEnd⟩)
  · rename_i notEnd
    split
    · rename_i isEscape
      exact (stores.escapes short).second short (.inl ⟨rfl, isEscape⟩)
    · rename_i notEscape
      exact stores.plain short notEnd notEscape

theorem Kiss.Stores.idle {kiss : Kiss cfg qfifoLen} {link : Link cfg qfifoLen} {bytes : List UInt8}
    (stores : kiss.Stores link bytes) (long : cfg.bufferSize ≤ bytes.length) : kiss.Idle := by
  right
  rw [stores.max, stores.length]
  exact long

/-- The receiver stores all the bytes of a frame that is short enough and loses a longer one. -/
theorem Kiss.Stores.bytes {kiss : Kiss cfg qfifoLen} {link : Link cfg qfifoLen}
    {stored : List UInt8} (stores : kiss.Stores link stored) (bytes : List UInt8) :
    (stored.length + bytes.length < cfg.bufferSize →
        (kissRx kiss (bytes.map kissEscape).flatten).Stores link (stored ++ bytes)) ∧
      (cfg.bufferSize ≤ stored.length + bytes.length →
        (kissRx kiss (bytes.map kissEscape).flatten).Idle ∧
          (kissRx kiss (bytes.map kissEscape).flatten).link.handed = link.handed) := by
  induction bytes generalizing kiss stored with
  | nil =>
      rw [List.append_nil]
      exact ⟨fun _ => stores, fun long => ⟨stores.idle long, congrArg Link.handed stores.link⟩⟩
  | cons byte rest ih =>
      have run : kissRx kiss ((byte :: rest).map kissEscape).flatten =
          kissRx (kissRx kiss (kissEscape byte)) (rest.map kissEscape).flatten := by
        rw [List.map_cons, List.flatten_cons, kissRx, List.foldl_append]
        rfl
      rw [run]
      by_cases short : stored.length < cfg.bufferSize
      · have next := ih (stores.escape short byte)
        rw [List.length_append, List.length_singleton, List.append_assoc, List.singleton_append] at next
        rw [List.length_cons, Nat.add_comm rest.length, ← Nat.add_assoc]
        exact next
      · refine ⟨fun within => by omega, fun _ => ?_⟩
        obtain ⟨idle, handed⟩ := (stores.idle (by omega)).bytes (fend_not_mem_kissEscape byte)
        have noEnd : fend ∉ (rest.map kissEscape).flatten := by
          intro member
          obtain ⟨_, inside, member⟩ := List.mem_flatten.mp member
          obtain ⟨byte, _, rfl⟩ := List.mem_map.mp inside
          exact fend_not_mem_kissEscape byte member
        obtain ⟨idle', handed'⟩ := idle.bytes noEnd
        exact ⟨idle', handed'.trans (handed.trans (congrArg Link.handed stores.link))⟩

/-! ## The states of the receiver -/

/-- The receiver comes from `csp_kiss_add_interface`. Other tasks use the pool and the queue, and other
code the counters, between two calls. -/
inductive Kiss.Reachable : Kiss cfg qfifoLen → Prop
  | added (link : Link cfg qfifoLen) : Kiss.Reachable (kissAddInterface link)
  | received {kiss : Kiss cfg qfifoLen} (buf : List UInt8) :
      kiss.Reachable → Kiss.Reachable (kissRx kiss buf)
  | others {kiss : Kiss cfg qfifoLen} (link : Link cfg qfifoLen) :
      kiss.Reachable → Kiss.Reachable { kiss with link }

/-- A receiver that waits for a frame does not count its next character as too long. -/
structure Kiss.Ready (kiss : Kiss cfg qfifoLen) : Prop where
  max : kiss.maxRxLength = cfg.bufferSize
  short : 0 < cfg.bufferSize → ∀ packet, kiss.rxMode = .notStarted packet → kiss.rxLength < cfg.bufferSize

theorem Kiss.checkLength_max (kiss : Kiss cfg qfifoLen) :
    kiss.checkLength.maxRxLength = kiss.maxRxLength := by
  unfold Kiss.checkLength
  split <;> rfl

theorem Kiss.checkLength_length (kiss : Kiss cfg qfifoLen) (room : 0 < kiss.maxRxLength) :
    kiss.checkLength.rxLength < kiss.maxRxLength := by
  unfold Kiss.checkLength
  split
  · exact room
  · omega

theorem Kiss.start_max (kiss : Kiss cfg qfifoLen) (rxPacket : Option Frame) :
    (kiss.start rxPacket).maxRxLength = kiss.maxRxLength := by
  unfold Kiss.start
  split
  · rfl
  · split <;> rfl

theorem Kiss.accept_fields (kiss : Kiss cfg qfifoLen) (frame : Frame) :
    (kiss.accept frame).maxRxLength = kiss.maxRxLength ∧
      (kiss.accept frame).rxLength = kiss.rxLength := by
  unfold Kiss.accept
  simp only
  split
  · exact ⟨rfl, rfl⟩
  · split <;> exact ⟨rfl, rfl⟩

theorem kissRxByte_max (kiss : Kiss cfg qfifoLen) (byte : UInt8) :
    (kissRxByte kiss byte).maxRxLength = kiss.maxRxLength := by
  rw [← kiss.checkLength_max]
  unfold kissRxByte
  simp only
  split
  · split
    · rfl
    · exact Kiss.start_max _ _
  · split
    · rfl
    · split
      · split
        · exact (Kiss.accept_fields _ _).1
        · rfl
      · split <;> rfl
  · split
    · rfl
    · split <;> rfl
  · split <;> rfl

/-- A byte changes the length only in a started frame. -/
theorem kissRxByte_length (kiss : Kiss cfg qfifoLen) (byte : UInt8) :
    (∃ frame, (kissRxByte kiss byte).rxMode = .started frame) ∨
      (kissRxByte kiss byte).rxLength = kiss.checkLength.rxLength := by
  unfold kissRxByte
  simp only
  split
  · split
    · exact .inr rfl
    · unfold Kiss.start
      split
      · exact .inl ⟨_, rfl⟩
      · split
        · exact .inl ⟨_, rfl⟩
        · exact .inr rfl
  · split
    · exact .inr rfl
    · split
      · split
        · exact .inr (Kiss.accept_fields _ _).2
        · exact .inr rfl
      · split
        · exact .inr rfl
        · exact .inl ⟨_, rfl⟩
  · split
    · exact .inl ⟨_, rfl⟩
    · split <;> exact .inl ⟨_, rfl⟩
  · split <;> exact .inr rfl

theorem Kiss.Ready.byte {kiss : Kiss cfg qfifoLen} (ready : kiss.Ready) (byte : UInt8) :
    (kissRxByte kiss byte).Ready where
  max := (kissRxByte_max kiss byte).trans ready.max
  short := by
    intro room packet mode
    rw [← ready.max] at room ⊢
    rcases kissRxByte_length kiss byte with ⟨frame, started⟩ | same
    · rw [started] at mode
      cases mode
    · rw [same]
      exact kiss.checkLength_length room

theorem Kiss.Ready.bytes {kiss : Kiss cfg qfifoLen} (ready : kiss.Ready) (bytes : List UInt8) :
    (kissRx kiss bytes).Ready := by
  induction bytes generalizing kiss with
  | nil => exact ready
  | cons byte rest ih => exact ih (ready.byte byte)

theorem Kiss.Reachable.ready {kiss : Kiss cfg qfifoLen} (reachable : kiss.Reachable) : kiss.Ready := by
  induction reachable with
  | added link => exact ⟨rfl, fun room _ _ => room⟩
  | received buf _ ready => exact ready.bytes buf
  | others link _ ready => exact ⟨ready.max, ready.short⟩

/-! ## The round trip -/

/-- The receiver hands over exactly one packet, which reads like the sent one, and counts no error. -/
def Kiss.Receives (before after : Kiss cfg qfifoLen) (sent : Packet) : Prop :=
  ∃ received, after.link.handed = before.link.handed ++ [received] ∧ received.Arrives sent ∧
    after.link.rxError = before.link.rxError

theorem Kiss.Receives.handed {before after : Kiss cfg qfifoLen} {sent : Packet}
    (receives : before.Receives after sent) : after.link.handed ≠ before.link.handed := by
  obtain ⟨_, handed, _⟩ := receives
  rw [handed]
  simp

/-- The frame of a packet is its header, its payload and the checksum. -/
theorem kissFrame_bytes {packet : Packet}
    (room : idHeaderSize cfg + packet.length.toNat + 4 < cfg.bufferSize) :
    ∃ framed : Packet, framed.length.toNat = packet.length.toNat + 4 ∧
      framed.dataBytes packet.length.toNat = packet.payload ∧
      framed.trailer = cfg.crc32Memory packet.payload ∧
      (kissFrame cfg packet).bytes =
        beBytes (idHeaderSize cfg) (idWord cfg packet.id) ++ framed.payload := by
  have small := cfg.bufferSize_lt
  obtain ⟨framed, appended, id, length, data, trailer⟩ :=
    @crc32Append_ok cfg packet (by omega)
  refine ⟨framed, length, data, trailer, ?_⟩
  rw [kissFrame, appended, ← id]
  exact idPrepend_bytes cfg framed (by omega)

/-- A frame that the receiver can hold although its packet is too long does not even have a header. -/
theorem kissFrame_wraps {packet : Packet}
    (large : cfg.bufferSize ≤ idHeaderSize cfg + packet.length.toNat + 4)
    (short : (kissFrame cfg packet).bytes.length < cfg.bufferSize) :
    (kissFrame cfg packet).bytes.length < idHeaderSize cfg := by
  have header := idHeaderSize_le cfg
  have four : 4 ≤ idHeaderSize cfg := by
    rw [idHeaderSize]
    split <;> decide
  have wrapped : ∀ framed : Packet, (idPrepend cfg framed).bytes.length =
      (framed.length.toNat + idHeaderSize cfg) % 2 ^ 16 := by
    intro framed
    rw [Frame.bytes_length, idPrepend_eq, prependHeader, UInt16.toNat_add, toNat_ofNat16 (by omega)]
  have small := cfg.bufferSize_lt
  have bound := packet.length.toNat_lt
  rw [kissFrame, wrapped] at short ⊢
  by_cases room : packet.length.toNat + 4 ≤ cfg.bufferSize
  · obtain ⟨framed, appended, _, length, _⟩ := crc32Append_ok room
    rw [appended] at short ⊢
    simp only [length] at short ⊢
    omega
  · have full : crc32Append cfg packet = .error packet := by
      rw [crc32Append, if_pos (by omega)]
    rw [full] at short ⊢
    simp only at short ⊢
    omega

/-- The END character of a frame without a whole header hands over nothing. -/
theorem Kiss.Stores.endShort {kiss : Kiss cfg qfifoLen} {link : Link cfg qfifoLen} {bytes : List UInt8}
    (stores : kiss.Stores link bytes) (short : bytes.length < cfg.bufferSize)
    (headless : bytes.length < idHeaderSize cfg) :
    (kissRxByte kiss fend).link.handed = link.handed := by
  obtain ⟨frame, mode, begins, stored⟩ := stores.frame
  have header := idHeaderSize_le cfg
  have within : kiss.checkLength = kiss := Kiss.checkLength_of_lt (by
    rw [stores.length, stores.max]
    exact short)
  have stripped : idStrip cfg { frame with frameLength := UInt16.ofNat kiss.rxLength } = none := by
    rw [idStrip_eq, stripHeader, if_pos]
    rw [UInt16.lt_iff_toNat_lt, stores.length, toNat_ofNat16 (by omega), toNat_ofNat16 (by omega)]
    exact headless
  have step : kissRxByte kiss fend = if kiss.rxLength > 0 then kiss.accept frame else kiss := by
    simp only [kissRxByte, within, mode, if_true]
    rfl
  rw [step, ← stores.link]
  split
  · simp only [Kiss.accept, stripped]
    rfl
  · rfl

/-- The header cuts fields that are too wide for it. -/
def Packet.onWire (cfg : Config) (packet : Packet) : Packet :=
  { packet with id := idFields cfg (idWord cfg packet.id % 256 ^ idHeaderSize cfg) }

theorem Packet.onWire_of_fits {packet : Packet} (fits : packet.id.Fits cfg) : packet.onWire cfg = packet := by
  rw [Packet.onWire, idFields_word fits]

/-- The END character of a whole frame hands over its packet. -/
theorem Kiss.Stores.endFrame {kiss : Kiss cfg qfifoLen} {link : Link cfg qfifoLen}
    {framed sent : Packet} (length : framed.length.toNat = sent.length.toNat + 4)
    (data : framed.dataBytes sent.length.toNat = sent.payload)
    (trailer : framed.trailer = cfg.crc32Memory sent.payload)
    (stores : kiss.Stores link (beBytes (idHeaderSize cfg) (idWord cfg sent.id) ++ framed.payload))
    (short : idHeaderSize cfg + sent.length.toNat + 4 < cfg.bufferSize) :
    ∃ received, (kissRxByte kiss fend).link.handed = link.handed ++ [received] ∧
      received.Arrives (sent.onWire cfg) ∧ (kissRxByte kiss fend).link.rxError = link.rxError ∧
      (kissRxByte kiss fend).rxMode = .notStarted none := by
  obtain ⟨frame, mode, begins, stored⟩ := stores.frame
  have small := cfg.bufferSize_lt
  have total : kiss.rxLength = idHeaderSize cfg + sent.length.toNat + 4 := by
    rw [stores.length, List.length_append, beBytes_length, Packet.payload_length, length]
    omega
  have within : kiss.checkLength = kiss := Kiss.checkLength_of_lt (by
    rw [total, stores.max]
    exact short)
  have bytes : ({ frame with frameLength := UInt16.ofNat kiss.rxLength } : Frame).bytes =
      beBytes (idHeaderSize cfg) (idWord cfg sent.id) ++ framed.payload := by
    rw [Frame.bytes, toNat_ofNat16 (by omega), stores.length]
    exact stored
  obtain ⟨packet, strips, fields, payload⟩ :=
    @idStrip_of_bytes cfg { frame with frameLength := UInt16.ofNat kiss.rxLength } _ _ begins bytes
      (beBytes_length _ _)
  have packetId : packet.id = (sent.onWire cfg).id := by
    rw [fields, beValue_beBytes]
    rfl
  have packetLength : packet.length.toNat = sent.length.toNat + 4 := by
    rw [Packet.length_of_payload payload, length]
  have packetData : packet.dataBytes sent.length.toNat = sent.payload := by
    rw [← data]
    exact Packet.dataBytes_of_payload payload (by omega)
  have packetTrailer : packet.trailer = cfg.crc32Memory (packet.dataBytes sent.length.toNat) := by
    rw [packetData, ← trailer]
    exact Packet.trailer_of_payload payload (by omega)
  obtain ⟨verified, checks, verifiedId, verifiedLength, verifiedPayload⟩ :=
    crc32Verify_ok packetLength packetTrailer
  have step : kissRxByte kiss fend =
      { kiss with link := qfifoWrite kiss.link.countFrame verified, rxMode := .notStarted none } := by
    have filled : kiss.rxLength > 0 := by omega
    have accepted : kissRxByte kiss fend = if kiss.rxLength > 0 then kiss.accept frame else kiss := by
      simp only [kissRxByte, within, mode, if_true]
      rfl
    rw [accepted, if_pos filled]
    simp only [Kiss.accept, strips, checks]
  refine ⟨verified, ?_, ⟨verifiedId.trans packetId, UInt16.toNat_inj.mp verifiedLength,
    verifiedPayload.trans packetData⟩, ?_, ?_⟩
  · rw [step, qfifoWrite_handed, ← stores.link]
    rfl
  · rw [step, qfifoWrite_rxError, ← stores.link]
    rfl
  · rw [step]

/-- The receiver has started a frame and waits for its TNC byte. -/
structure Kiss.Fresh (kiss : Kiss cfg qfifoLen) (link : Link cfg qfifoLen) : Prop where
  link : kiss.link = link
  frame : ∃ frame : Frame, kiss.rxMode = .started frame ∧ frame.frameBegin = dataAt - idHeaderSize cfg
  length : kiss.rxLength = 0
  first : kiss.rxFirst = true
  max : kiss.maxRxLength = cfg.bufferSize

/-- An END character starts a frame when there is a packet for it. -/
theorem Kiss.start_fresh {kiss : Kiss cfg qfifoLen} (spare : Option Frame) (max : kiss.maxRxLength = cfg.bufferSize)
    (buffer : spare = none → 0 < kiss.link.pool.remaining) :
    ∃ link, (kiss.start spare).Fresh link ∧ link.handed = kiss.link.handed ∧
      link.rxError = kiss.link.rxError := by
  have begins : ∀ packet, (idSetupRx cfg packet).frameBegin = dataAt - idHeaderSize cfg := fun packet => by
    rw [idSetupRx_eq]
    rfl
  cases spare with
  | some frame => exact ⟨kiss.link, ⟨rfl, ⟨_, rfl, begins _⟩, rfl, rfl, max⟩, rfl, rfl⟩
  | none =>
      rcases bufferGet_cases kiss.link.pool 0 with ⟨_, large | empty⟩ | ⟨packet, rest, _, _, got⟩
      · omega
      · have filled := buffer rfl
        simp [Pool.remaining, BoundedQueue.size, empty] at filled
      · simp only [Kiss.start, got]
        exact ⟨_, ⟨rfl, ⟨_, rfl, begins _⟩, rfl, rfl, max⟩, rfl, rfl⟩

theorem Kiss.start_of_fend {kiss : Kiss cfg qfifoLen} {spare : Option Frame}
    (mode : kiss.checkLength.rxMode = .notStarted spare) : kissRxByte kiss fend = kiss.checkLength.start spare := by
  simp only [kissRxByte, mode, ne_eq, not_true_eq_false, if_false]

theorem Kiss.Fresh.checkLength {kiss : Kiss cfg qfifoLen} {link : Link cfg qfifoLen} (fresh : kiss.Fresh link)
    (room : 0 < cfg.bufferSize) : kiss.checkLength = kiss :=
  Kiss.checkLength_of_lt (by
    rw [fresh.length, fresh.max]
    exact room)

/-- The receiver skips the TNC byte. -/
theorem Kiss.Fresh.tnc {kiss : Kiss cfg qfifoLen} {link : Link cfg qfifoLen} (fresh : kiss.Fresh link)
    (room : 0 < cfg.bufferSize) : (kissRxByte kiss tncData).Stores link [] := by
  obtain ⟨frame, mode, begins⟩ := fresh.frame
  have step : kissRxByte kiss tncData = { kiss with rxFirst := false } := by
    simp only [kissRxByte, fresh.checkLength room, mode, fresh.first, if_true]
    rfl
  rw [step]
  exact ⟨fresh.link, ⟨frame, mode, begins, rfl⟩, fresh.length, rfl, fresh.max⟩

/-- The start of a frame takes a packet and skips the TNC byte. -/
theorem Kiss.start_stores {kiss : Kiss cfg qfifoLen} {spare : Option Frame}
    (mode : kiss.rxMode = .notStarted spare) (max : kiss.maxRxLength = cfg.bufferSize)
    (short : kiss.rxLength < cfg.bufferSize)
    (buffer : spare = none → 0 < kiss.link.pool.remaining) :
    ∃ link, (kissRx kiss [fend, tncData]).Stores link [] ∧ link.handed = kiss.link.handed ∧
      link.rxError = kiss.link.rxError := by
  have within : kiss.checkLength = kiss := Kiss.checkLength_of_lt (by
    rw [max]
    exact short)
  have step := @Kiss.start_of_fend cfg qfifoLen kiss spare (by rw [within]; exact mode)
  rw [within] at step
  obtain ⟨link, fresh, same⟩ := Kiss.start_fresh spare max buffer
  rw [← step] at fresh
  exact ⟨link, fresh.tnc (by omega), same⟩

/-- Without space for a single byte nothing is ever handed over. -/
theorem kissRx_noRoom {kiss : Kiss cfg qfifoLen} (noRoom : kiss.maxRxLength = 0) (bytes : List UInt8) :
    (kissRx kiss bytes).link.handed = kiss.link.handed := by
  induction bytes generalizing kiss with
  | nil => rfl
  | cons byte rest ih =>
      have idle : kiss.Idle := .inr (by rw [noRoom]; exact Nat.zero_le _)
      exact (ih ((kissRxByte_max kiss byte).trans noRoom)).trans (idle.byte byte).1

/-- A packet crosses the link exactly when its header, its data and the checksum are shorter than the
data area of a buffer, however the stream is split into calls. -/
theorem kissRx_receives_iff {packet : Packet} (fits : packet.id.Fits cfg) (pool : Pool cfg)
    {kiss : Kiss cfg qfifoLen} (reachable : kiss.Reachable) {spare : Option Frame}
    (mode : kiss.rxMode = .notStarted spare) (buffer : spare = none → 0 < kiss.link.pool.remaining)
    {calls : List (List UInt8)} (stream : calls.flatten = (kissTx pool packet).1.flatten) :
    kiss.Receives (calls.foldl kissRx kiss) packet ↔
      idHeaderSize cfg + packet.length.toNat + 4 < cfg.bufferSize := by
  have ready := reachable.ready
  have run : calls.foldl kissRx kiss = kissRxByte
      (kissRx (kissRx kiss [fend, tncData]) ((kissFrame cfg packet).bytes.map kissEscape).flatten)
      fend := by
    rw [kissRx_calls, stream, kissTx, List.flatten_append, List.flatten_cons, kissRx, kissRx, kissRx,
      List.foldl_append, List.foldl_append]
    rfl
  by_cases room : 0 < cfg.bufferSize
  · obtain ⟨link, stores, handed, rxError⟩ :=
      Kiss.start_stores mode ready.max (ready.short room spare mode) buffer
    obtain ⟨kept, lost⟩ := stores.bytes (kissFrame cfg packet).bytes
    rw [List.length_nil, Nat.zero_add, List.nil_append] at kept
    rw [List.length_nil, Nat.zero_add] at lost
    constructor
    · intro receives
      by_contra large
      apply receives.handed
      by_cases short : (kissFrame cfg packet).bytes.length < cfg.bufferSize
      · have wraps := kissFrame_wraps (by omega) short
        rw [run, (kept short).endShort short wraps, handed]
      · obtain ⟨idle, same⟩ := lost (by omega)
        rw [run, (idle.byte fend).1, same, handed]
    · intro small
      obtain ⟨framed, length, data, trailer, bytes⟩ := kissFrame_bytes small
      have short : (kissFrame cfg packet).bytes.length < cfg.bufferSize := by
        rw [bytes, List.length_append, beBytes_length, Packet.payload_length, length]
        omega
      have whole := kept short
      rw [bytes] at whole
      obtain ⟨received, handed', arrives, rxError', _⟩ :=
        whole.endFrame length data trailer small
      rw [Packet.onWire_of_fits fits] at arrives
      rw [run, bytes]
      exact ⟨received, handed'.trans (by rw [handed]), arrives, rxError'.trans rxError⟩
  · constructor
    · intro receives
      apply (receives.handed _).elim
      rw [kissRx_calls]
      exact kissRx_noRoom (by rw [ready.max]; omega) _
    · intro small
      omega

/-- An interface after its set-up, with free buffers and an empty queue. -/
def addedKiss : Kiss {} 15 :=
  kissAddInterface
    { iface := 1, addr := 1, mtu := 0, frame := 0, rxError := 0, txError := 0, drop := 0
      pool := bufferInit {} fun _ => default, qfifo := .empty, handed := [] }

def kissPacket (payload : List UInt8) : Packet :=
  { (default : Packet) with
    length := UInt16.ofNat payload.length
    id := { (default : CspId) with src := 2, dst := 1 }
    mem := writeBytes (fun _ => 0) dataAt payload }

def kissStream (payload : List UInt8) : List (List UInt8) :=
  (kissTx addedKiss.link.pool (kissPacket payload)).1

theorem endCharacters_cross :
    addedKiss.Receives ((kissStream [fend, fesc, 7]).foldl kissRx addedKiss)
      (kissPacket [fend, fesc, 7]) :=
  (kissRx_receives_iff ⟨by decide, by decide, by decide, by decide, by decide, by decide⟩
    addedKiss.link.pool (.added _) rfl (fun _ => by decide +kernel) rfl).mpr (by decide)

/-- A packet within the limit of the interface is lost without space for its header. -/
theorem fullPacket_lost :
    (kissPacket (List.replicate 246 0)).length ≤ addedKiss.link.mtu ∧
      ¬addedKiss.Receives ((kissStream (List.replicate 246 0)).foldl kissRx addedKiss)
        (kissPacket (List.replicate 246 0)) := by
  refine ⟨by decide +kernel, fun receives => ?_⟩
  have nothing : ((kissStream (List.replicate 246 0)).foldl kissRx addedKiss).link.handed.length =
      addedKiss.link.handed.length := by
    decide +kernel
  obtain ⟨_, handed, _⟩ := receives
  rw [handed] at nothing
  simp at nothing

end Libcsp

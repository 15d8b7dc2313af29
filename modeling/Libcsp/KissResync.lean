/-
This file shows that one frame brings the KISS receiver back in step after any noise.
-/
import Libcsp.Kiss

namespace Libcsp

variable {cfg : Config} {qfifoLen : Nat}

/-! ## A stream of bytes -/

/-- The receiver gets these bytes one by one. Other tasks use the interface before each of them, and leave a
free buffer. -/
inductive Kiss.Hears : Kiss cfg qfifoLen → List UInt8 → Kiss cfg qfifoLen → Prop
  | nil (kiss : Kiss cfg qfifoLen) : Kiss.Hears kiss [] kiss
  | cons {kiss after : Kiss cfg qfifoLen} {byte : UInt8} {bytes : List UInt8} (link : Link cfg qfifoLen)
      (history : link.handed = kiss.link.handed) (free : 0 < link.pool.remaining)
      (tail : Kiss.Hears (kissRxByte { kiss with link } byte) bytes after) : Kiss.Hears kiss (byte :: bytes) after

theorem Kiss.Hears.append {kiss after : Kiss cfg qfifoLen} {first second : List UInt8}
    (hears : kiss.Hears (first ++ second) after) :
    ∃ middle, kiss.Hears first middle ∧ middle.Hears second after := by
  induction first generalizing kiss with
  | nil => exact ⟨kiss, .nil kiss, hears⟩
  | cons byte rest ih =>
      cases hears with
      | cons link history free tail =>
          obtain ⟨middle, earlier, later⟩ := ih tail
          exact ⟨middle, .cons link history free earlier, later⟩

theorem Kiss.Hears.byte {kiss after : Kiss cfg qfifoLen} {byte : UInt8} (hears : kiss.Hears [byte] after) :
    ∃ link : Link cfg qfifoLen, link.handed = kiss.link.handed ∧ 0 < link.pool.remaining ∧
      after = kissRxByte { kiss with link } byte := by
  cases hears with
  | cons link history free tail =>
      cases tail
      exact ⟨link, history, free, rfl⟩

/-- The other tasks do not touch the receiver. -/
theorem Kiss.Ready.between {kiss : Kiss cfg qfifoLen} (ready : kiss.Ready) (link : Link cfg qfifoLen) :
    { kiss with link }.Ready := ⟨ready.max, ready.short⟩

theorem Kiss.Hears.ready {kiss after : Kiss cfg qfifoLen} {bytes : List UInt8} (hears : kiss.Hears bytes after)
    (ready : kiss.Ready) : after.Ready := by
  induction hears with
  | nil => exact ready
  | cons link _ _ _ ih => exact ih ((ready.between link).byte _)

theorem Kiss.Stores.between {kiss : Kiss cfg qfifoLen} {before : Link cfg qfifoLen} {bytes : List UInt8}
    (stores : kiss.Stores before bytes) (link : Link cfg qfifoLen) : { kiss with link }.Stores link bytes :=
  ⟨rfl, stores.frame, stores.length, stores.first, stores.max⟩

theorem Kiss.Fresh.between {kiss : Kiss cfg qfifoLen} {before : Link cfg qfifoLen} (fresh : kiss.Fresh before)
    (link : Link cfg qfifoLen) : { kiss with link }.Fresh link :=
  ⟨rfl, fresh.frame, fresh.length, fresh.first, fresh.max⟩

theorem Kiss.Escapes.between {kiss : Kiss cfg qfifoLen} {before : Link cfg qfifoLen} {bytes : List UInt8}
    (escapes : kiss.Escapes before bytes) (link : Link cfg qfifoLen) : { kiss with link }.Escapes link bytes := by
  obtain ⟨earlier, frame, stores, begins, stored, rfl⟩ := escapes
  exact ⟨_, frame, stores.between link, begins, stored, rfl⟩

/-! ## A receiver in step -/

/-- The bytes of `csp_kiss_tx` for a packet. -/
def kissBytes (cfg : Config) (packet : Packet) : List UInt8 :=
  fend :: tncData :: (((kissFrame cfg packet).bytes.map kissEscape).flatten ++ [fend])

/-- These bytes are the calls of `tx_func` in their order. -/
theorem kissTx_bytes (pool : Pool cfg) (packet : Packet) : (kissTx pool packet).1.flatten = kissBytes cfg packet := by
  simp [kissTx, kissBytes]

/-- The header, the data and the checksum of a packet. -/
def kissLength (cfg : Config) (packet : Packet) : Nat := idHeaderSize cfg + packet.length.toNat + 4

theorem kissFrame_length {packet : Packet} (short : kissLength cfg packet < cfg.bufferSize) :
    (kissFrame cfg packet).bytes.length = kissLength cfg packet := by
  obtain ⟨framed, length, _, _, bytes⟩ := kissFrame_bytes short
  rw [bytes, List.length_append, BitField.beBytes_length, Packet.payload_length, length, kissLength, Nat.add_assoc]

/-- The receiver undoes the escape of one byte. -/
theorem Kiss.Stores.hearsEscape {kiss after : Kiss cfg qfifoLen} {link : Link cfg qfifoLen} {stored : List UInt8}
    (stores : kiss.Stores link stored) (short : stored.length < cfg.bufferSize) {byte : UInt8}
    (hears : kiss.Hears (kissEscape byte) after) :
    ∃ link', after.Stores link' (stored ++ [byte]) ∧ link'.handed = link.handed := by
  have pair : ∀ {code}, (code = tfesc ∧ byte = fesc ∨ code = tfend ∧ byte = fend) →
      kiss.Hears [fesc, code] after →
        ∃ link', after.Stores link' (stored ++ [byte]) ∧ link'.handed = link.handed := by
    intro code stands hears
    obtain ⟨middle, first, second⟩ := @Kiss.Hears.append cfg qfifoLen kiss after [fesc] [code] hears
    obtain ⟨link', handed, _, rfl⟩ := first.byte
    obtain ⟨link'', handed', _, rfl⟩ := second.byte
    have escapes := (stores.between link').escapes short
    obtain ⟨before, frame, stores', _, _, escaped⟩ := escapes
    have same : (kissRxByte { kiss with link := link' } fesc).link = link' := by
      rw [escaped]
      exact stores'.link
    refine ⟨link'', (Kiss.Escapes.between ((stores.between link').escapes short) link'').second short stands, ?_⟩
    rw [handed', same, handed, stores.link]
  unfold kissEscape at hears
  split at hears
  · rename_i isEnd
    exact pair (.inr ⟨rfl, isEnd⟩) hears
  · rename_i notEnd
    split at hears
    · rename_i isEscape
      exact pair (.inl ⟨rfl, isEscape⟩) hears
    · rename_i notEscape
      obtain ⟨link', handed, _, rfl⟩ := hears.byte
      exact ⟨link', (stores.between link').plain short notEnd notEscape, by rw [handed, stores.link]⟩

/-- The receiver stores all the data bytes of a frame that is short enough. -/
theorem Kiss.Stores.hears {kiss after : Kiss cfg qfifoLen} {link : Link cfg qfifoLen} {stored bytes : List UInt8}
    (stores : kiss.Stores link stored) (short : stored.length + bytes.length < cfg.bufferSize)
    (hears : kiss.Hears (bytes.map kissEscape).flatten after) :
    ∃ link', after.Stores link' (stored ++ bytes) ∧ link'.handed = link.handed := by
  induction bytes generalizing kiss link stored with
  | nil =>
      cases hears
      exact ⟨link, by rwa [List.append_nil], rfl⟩
  | cons byte rest ih =>
      rw [List.map_cons, List.flatten_cons] at hears
      rw [List.length_cons] at short
      obtain ⟨middle, escape, others⟩ := hears.append
      obtain ⟨link', next, handed⟩ := stores.hearsEscape (by omega) escape
      have bound : (stored ++ [byte]).length + rest.length < cfg.bufferSize := by
        rw [List.length_append, List.length_singleton]
        omega
      obtain ⟨link'', whole, handed'⟩ := ih next bound others
      rw [List.append_assoc, List.singleton_append] at whole
      exact ⟨link'', whole, handed'.trans handed⟩

/-- A receiver in step waits for a frame, or has just started one. -/
def Kiss.InStep (kiss : Kiss cfg qfifoLen) : Prop :=
  (∃ spare, kiss.rxMode = .notStarted spare) ∨ ∃ link, kiss.Fresh link

theorem Kiss.InStep.between {kiss : Kiss cfg qfifoLen} (inStep : kiss.InStep) (link : Link cfg qfifoLen) :
    { kiss with link }.InStep := by
  rcases inStep with waits | ⟨before, fresh⟩
  · exact .inl waits
  · exact .inr ⟨link, fresh.between link⟩

/-- An END character in front of a frame leaves a receiver in step in a fresh frame. -/
theorem Kiss.InStep.begins {kiss : Kiss cfg qfifoLen} (inStep : kiss.InStep) (ready : kiss.Ready)
    (room : 0 < cfg.bufferSize) (free : 0 < kiss.link.pool.remaining) :
    ∃ link, (kissRxByte kiss fend).Fresh link ∧ link.handed = kiss.link.handed := by
  rcases inStep with ⟨spare, mode⟩ | ⟨link, fresh⟩
  · have within : kiss.checkLength = kiss := Kiss.checkLength_of_lt (by
      rw [ready.max]
      exact ready.short room spare mode)
    have step := @Kiss.start_of_fend cfg qfifoLen kiss spare (by rw [within]; exact mode)
    rw [within] at step
    obtain ⟨link, fresh, handed, _⟩ := Kiss.start_fresh spare ready.max fun _ => free
    rw [step]
    exact ⟨link, fresh, handed⟩
  · obtain ⟨frame, mode, begins⟩ := fresh.frame
    have step : kissRxByte kiss fend = kiss := by
      simp only [kissRxByte, fresh.checkLength room, mode, fresh.length, gt_iff_lt, lt_irrefl, if_false]
      rfl
    rw [step]
    exact ⟨link, fresh, by rw [fresh.link]⟩

/-- A receiver in step hands over the packet of the next frame. -/
theorem Kiss.InStep.receives {kiss after : Kiss cfg qfifoLen} (inStep : kiss.InStep) (ready : kiss.Ready)
    {packet : Packet} (short : kissLength cfg packet < cfg.bufferSize)
    (hears : kiss.Hears (kissBytes cfg packet) after) :
    ∃ received, after.link.handed = kiss.link.handed ++ [received] ∧ received.Arrives (packet.onWire cfg) ∧
      after.InStep := by
  have room : 0 < cfg.bufferSize := by omega
  rw [kissBytes] at hears
  cases hears with
  | cons link handed free hears =>
      cases hears with
      | cons link' handed' _ hears =>
          obtain ⟨third, loads, ends⟩ := hears.append
          obtain ⟨link'', handed'', _, rfl⟩ := ends.byte
          obtain ⟨started, fresh, same⟩ := (inStep.between link).begins (ready.between link) room free
          have empty := (fresh.between link').tnc room
          have whole : ([] : List UInt8).length + (kissFrame cfg packet).bytes.length < cfg.bufferSize := by
            rw [kissFrame_length short, List.length_nil, Nat.zero_add]
            exact short
          obtain ⟨loaded, stores, kept⟩ := empty.hears whole loads
          obtain ⟨framed, length, data, trailer, bytes⟩ := kissFrame_bytes short
          rw [List.nil_append, bytes] at stores
          obtain ⟨received, handedOver, arrives, _, mode⟩ :=
            (stores.between link'').endFrame length data trailer short
          refine ⟨received, ?_, arrives, .inl ⟨none, mode⟩⟩
          rw [handedOver, handed'', stores.link, kept, handed', fresh.link, same]
          exact congrArg (· ++ [received]) handed

/-! ## A receiver that is out of step -/

/-- The receiver reads the data of a frame from which it cannot get the packet. It has stored some bytes and
handed over no packet, or it has given up and handed over at most one. -/
inductive Kiss.Garbled (kiss : Kiss cfg qfifoLen) (history : List Packet) (least : Nat) : Bool → Prop
  | lost (escaped : Bool) (early : List Packet) (idle : kiss.Idle) (few : early.length ≤ 1)
      (handed : kiss.link.handed = history ++ early) : Kiss.Garbled kiss history least escaped
  | loading (frame : Frame) (mode : kiss.rxMode = .started frame) (first : kiss.rxFirst = false)
      (stored : least ≤ kiss.rxLength) (handed : kiss.link.handed = history) : Kiss.Garbled kiss history least false
  | escaping (frame : Frame) (mode : kiss.rxMode = .escaped frame) (first : kiss.rxFirst = false)
      (stored : least ≤ kiss.rxLength) (handed : kiss.link.handed = history) : Kiss.Garbled kiss history least true

variable {kiss after : Kiss cfg qfifoLen} {history : List Packet} {least : Nat} {escaped : Bool}

theorem Kiss.Garbled.between (garbled : kiss.Garbled history least escaped) {link : Link cfg qfifoLen}
    (same : link.handed = kiss.link.handed) : { kiss with link }.Garbled history least escaped := by
  cases garbled with
  | lost _ early idle few handed => exact .lost _ early idle few (same.trans handed)
  | loading frame mode first stored handed => exact .loading frame mode first stored (same.trans handed)
  | escaping frame mode first stored handed => exact .escaping frame mode first stored (same.trans handed)

/-- A receiver that has given up stays so until the next END character. -/
theorem Kiss.Idle.garbled (idle : kiss.Idle) {early : List Packet} (few : early.length ≤ 1)
    (handed : kiss.link.handed = history ++ early) {byte : UInt8} (notEnd : byte ≠ fend) :
    (kissRxByte kiss byte).Garbled history least escaped := by
  obtain ⟨same, stays⟩ := idle.byte byte
  exact .lost escaped early (stays notEnd) few (same.trans handed)

theorem Kiss.garbled_of_long (long : kiss.maxRxLength ≤ kiss.rxLength) (handed : kiss.link.handed = history)
    {byte : UInt8} (notEnd : byte ≠ fend) : (kissRxByte kiss byte).Garbled history least escaped := by
  have idle : kiss.Idle := .inr long
  exact @Kiss.Idle.garbled cfg qfifoLen kiss history least escaped idle [] (Nat.zero_le 1)
    (by rw [handed, List.append_nil]) byte notEnd

/-- A started frame gets one more byte, or the receiver gives it up. -/
theorem Kiss.Garbled.plain (garbled : kiss.Garbled history least false) {byte : UInt8} (notEnd : byte ≠ fend)
    (notEscape : byte ≠ fesc) : (kissRxByte kiss byte).Garbled history (least + 1) false := by
  cases garbled with
  | lost _ early idle few handed => exact idle.garbled few handed notEnd
  | loading frame mode first stored handed =>
      by_cases long : kiss.maxRxLength ≤ kiss.rxLength
      · exact Kiss.garbled_of_long long handed notEnd
      · have step : kissRxByte kiss byte = kiss.store frame byte := by
          simp only [kissRxByte, Kiss.checkLength_of_lt (Nat.not_le.mp long), mode, if_neg notEscape, if_neg notEnd,
            first, Bool.false_eq_true, if_false]
        rw [step]
        exact .loading _ rfl first (Nat.succ_le_succ stored) handed

theorem Kiss.Garbled.escape (garbled : kiss.Garbled history least false) :
    (kissRxByte kiss fesc).Garbled history least true := by
  cases garbled with
  | lost _ early idle few handed => exact idle.garbled few handed (by decide)
  | loading frame mode first stored handed =>
      by_cases long : kiss.maxRxLength ≤ kiss.rxLength
      · exact Kiss.garbled_of_long long handed (by decide)
      · have step : kissRxByte kiss fesc = { kiss with rxMode := .escaped frame } := by
          simp only [kissRxByte, Kiss.checkLength_of_lt (Nat.not_le.mp long), mode, if_true]
        rw [step]
        exact .escaping frame rfl first stored handed

theorem Kiss.Garbled.second (garbled : kiss.Garbled history least true) {code : UInt8}
    (stands : code = tfesc ∨ code = tfend) : (kissRxByte kiss code).Garbled history (least + 1) false := by
  have notEnd : code ≠ fend := by
    rcases stands with rfl | rfl <;> decide
  cases garbled with
  | lost _ early idle few handed => exact idle.garbled few handed notEnd
  | escaping frame mode first stored handed =>
      by_cases long : kiss.maxRxLength ≤ kiss.rxLength
      · exact Kiss.garbled_of_long long handed notEnd
      · obtain ⟨byte, step⟩ : ∃ byte, kissRxByte kiss code = kiss.store frame byte := by
          rcases stands with rfl | rfl
          · exact ⟨fesc, by simp only [kissRxByte, Kiss.checkLength_of_lt (Nat.not_le.mp long), mode, if_true]⟩
          · refine ⟨fend, ?_⟩
            simp only [kissRxByte, Kiss.checkLength_of_lt (Nat.not_le.mp long), mode, if_true]
            rfl
        rw [step]
        exact .loading _ rfl first (Nat.succ_le_succ stored) handed

/-- The escaped form of a byte counts as one stored byte. -/
theorem Kiss.Garbled.hearsEscape (garbled : kiss.Garbled history least false) {byte : UInt8}
    (hears : kiss.Hears (kissEscape byte) after) : after.Garbled history (least + 1) false := by
  have pair : ∀ {code}, code = tfesc ∨ code = tfend → kiss.Hears [fesc, code] after →
      after.Garbled history (least + 1) false := by
    intro code stands hears
    obtain ⟨middle, first, second⟩ := @Kiss.Hears.append cfg qfifoLen kiss after [fesc] [code] hears
    obtain ⟨link, handed, _, rfl⟩ := first.byte
    obtain ⟨link', handed', _, rfl⟩ := second.byte
    exact ((garbled.between handed).escape.between handed').second stands
  unfold kissEscape at hears
  split at hears
  · exact pair (.inr rfl) hears
  · rename_i notEnd
    split at hears
    · exact pair (.inl rfl) hears
    · rename_i notEscape
      obtain ⟨link, handed, _, rfl⟩ := hears.byte
      exact (garbled.between handed).plain notEnd notEscape

theorem Kiss.Garbled.hears (garbled : kiss.Garbled history least false) {bytes : List UInt8}
    (hears : kiss.Hears (bytes.map kissEscape).flatten after) :
    after.Garbled history (least + bytes.length) false := by
  induction bytes generalizing kiss least with
  | nil =>
      cases hears
      exact garbled
  | cons byte rest ih =>
      rw [List.map_cons, List.flatten_cons] at hears
      obtain ⟨middle, escape, others⟩ := hears.append
      have whole := ih (garbled.hearsEscape escape) others
      rwa [Nat.add_assoc, Nat.add_comm 1] at whole

/-- The end of a frame hands over at most one packet. -/
theorem Kiss.accept_few (kiss : Kiss cfg qfifoLen) (frame : Frame) :
    ∃ early, early.length ≤ 1 ∧ (kiss.accept frame).link.handed = kiss.link.handed ++ early ∧
      ∃ spare, (kiss.accept frame).rxMode = .notStarted spare := by
  simp only [Kiss.accept]
  split
  · exact ⟨[], Nat.zero_le 1, (List.append_nil _).symm, _, rfl⟩
  · split
    · exact ⟨[_], le_rfl, qfifoWrite_handed _ _, _, rfl⟩
    · exact ⟨[], Nat.zero_le 1, (List.append_nil _).symm, _, rfl⟩

theorem Kiss.checkLength_pool (kiss : Kiss cfg qfifoLen) : kiss.checkLength.link.pool = kiss.link.pool := by
  rw [Kiss.checkLength]
  split <;> rfl

/-- An END character starts a fresh frame when the receiver has given up. -/
theorem Kiss.Idle.fend (idle : kiss.Idle) (ready : kiss.Ready) (free : 0 < kiss.link.pool.remaining) :
    ∃ link, (kissRxByte kiss fend).Fresh link ∧ link.handed = kiss.link.handed := by
  obtain ⟨⟨spare, mode⟩, same⟩ := idle.checkLength
  obtain ⟨link, fresh, handed, _⟩ := Kiss.start_fresh spare ((kiss.checkLength_max).trans ready.max)
    fun _ => by rw [kiss.checkLength_pool]; exact free
  rw [Kiss.start_of_fend mode]
  exact ⟨link, fresh, handed.trans same⟩

/-- The end of the frame brings the receiver back in step. -/
theorem Kiss.Garbled.ends (garbled : kiss.Garbled history least false) (some' : 0 < least) (ready : kiss.Ready)
    (free : 0 < kiss.link.pool.remaining) :
    ∃ early, early.length ≤ 1 ∧ (kissRxByte kiss fend).link.handed = history ++ early ∧
      (kissRxByte kiss fend).InStep := by
  cases garbled with
  | lost _ early idle few handed =>
      obtain ⟨link, fresh, same⟩ := idle.fend ready free
      exact ⟨early, few, by rw [fresh.link, same, handed], .inr ⟨link, fresh⟩⟩
  | loading frame mode first stored handed =>
      by_cases long : kiss.maxRxLength ≤ kiss.rxLength
      · have idle : kiss.Idle := .inr long
        obtain ⟨link, fresh, same⟩ := idle.fend ready free
        exact ⟨[], Nat.zero_le 1, by rw [fresh.link, same, handed, List.append_nil], .inr ⟨link, fresh⟩⟩
      · have step : kissRxByte kiss fend = kiss.accept frame := by
          have filled : kiss.rxLength > 0 := by omega
          have accepted : kissRxByte kiss fend = if kiss.rxLength > 0 then kiss.accept frame else kiss := by
            simp only [kissRxByte, Kiss.checkLength_of_lt (Nat.not_le.mp long), mode, if_true]
            rfl
          rw [accepted, if_pos filled]
        obtain ⟨early, few, more, spare⟩ := kiss.accept_few frame
        rw [step]
        exact ⟨early, few, by rw [more, handed], .inl spare⟩

/-- The first END character leaves a started frame, or makes the receiver give up. -/
theorem Kiss.Ready.opens (ready : kiss.Ready) (free : 0 < kiss.link.pool.remaining) :
    (∃ frame, (kissRxByte kiss fend).rxMode = .started frame) ∧
        (kissRxByte kiss fend).link.handed = kiss.link.handed ∨
      (kissRxByte kiss fend).Idle ∧ ∃ early, early.length ≤ 1 ∧
        (kissRxByte kiss fend).link.handed = kiss.link.handed ++ early := by
  by_cases idle : kiss.Idle
  · obtain ⟨link, fresh, same⟩ := idle.fend ready free
    obtain ⟨frame, mode, _⟩ := fresh.frame
    exact .inl ⟨⟨frame, mode⟩, by rw [fresh.link, same]⟩
  · have short : kiss.rxLength < kiss.maxRxLength := Nat.not_le.mp fun long => idle (.inr long)
    have within := Kiss.checkLength_of_lt short
    cases mode : kiss.rxMode with
    | notStarted spare => exact absurd (.inl ⟨spare, mode⟩) idle
    | started frame =>
        have step : kissRxByte kiss fend = if kiss.rxLength > 0 then kiss.accept frame else kiss := by
          simp only [kissRxByte, within, mode, if_true]
          rfl
        rw [step]
        split
        · obtain ⟨early, few, more, spare⟩ := kiss.accept_few frame
          exact .inr ⟨.inl spare, early, few, more⟩
        · exact .inl ⟨⟨frame, mode⟩, rfl⟩
    | escaped frame =>
        have step : kissRxByte kiss fend = { kiss with rxMode := .started frame } := by
          simp only [kissRxByte, within, mode]
          rfl
        rw [step]
        exact .inl ⟨⟨frame, rfl⟩, rfl⟩
    | skipFrame =>
        have step : kissRxByte kiss fend = { kiss with rxMode := .notStarted none } := by
          simp only [kissRxByte, within, mode, if_true]
        rw [step]
        exact .inr ⟨.inl ⟨none, rfl⟩, [], Nat.zero_le 1, (List.append_nil _).symm⟩

/-- The TNC byte of a started frame is skipped or stored. -/
theorem Kiss.started_tnc {frame : Frame} (mode : kiss.rxMode = .started frame)
    (handed : kiss.link.handed = history) : (kissRxByte kiss tncData).Garbled history 0 false := by
  by_cases long : kiss.maxRxLength ≤ kiss.rxLength
  · exact Kiss.garbled_of_long long handed (by decide)
  · have within := Kiss.checkLength_of_lt (Nat.not_le.mp long)
    have step : kissRxByte kiss tncData =
        if kiss.rxFirst then { kiss with rxFirst := false } else kiss.store frame tncData := by
      simp only [kissRxByte, within, mode]
      rfl
    rw [step]
    split
    · exact .loading frame mode rfl (Nat.zero_le _) handed
    · rename_i later
      exact .loading _ rfl (Bool.not_eq_true _ ▸ later) (Nat.zero_le _) handed

/-- After any noise one frame brings the receiver back in step. -/
theorem Kiss.Ready.resyncs (ready : kiss.Ready) {packet : Packet} (short : kissLength cfg packet < cfg.bufferSize)
    (hears : kiss.Hears (kissBytes cfg packet) after) :
    ∃ early, early.length ≤ 1 ∧ after.link.handed = kiss.link.handed ++ early ∧ after.InStep := by
  rw [kissBytes] at hears
  cases hears with
  | cons link handed free hears =>
      have ready' := (ready.between link).byte fend
      cases hears with
      | cons link' handed' _ hears =>
          have ready'' := (ready'.between link').byte tncData
          obtain ⟨third, loads, ends⟩ := hears.append
          obtain ⟨link'', handed'', free'', rfl⟩ := ends.byte
          have start : (kissRxByte { kissRxByte { kiss with link } fend with link := link' } tncData).Garbled
              kiss.link.handed 0 false := by
            rcases (ready.between link).opens free with ⟨⟨frame, mode⟩, same⟩ | ⟨idle, early, few, more⟩
            · exact Kiss.started_tnc mode (handed'.trans (same.trans handed))
            · exact @Kiss.Idle.garbled cfg qfifoLen { kissRxByte { kiss with link } fend with link := link' }
                kiss.link.handed 0 false idle early few
                (handed'.trans (more.trans (congrArg (· ++ early) handed))) tncData (by decide)
          have filled : 0 < 0 + (kissFrame cfg packet).bytes.length := by
            rw [kissFrame_length short, kissLength]
            omega
          exact ((start.hears loads).between handed'').ends filled ((loads.ready ready'').between link'') free''

/-! ## The rest of the stream -/

theorem Kiss.InStep.receivesAll (inStep : kiss.InStep) (ready : kiss.Ready) {packets : List Packet}
    (short : ∀ packet ∈ packets, kissLength cfg packet < cfg.bufferSize)
    (hears : kiss.Hears (packets.map (kissBytes cfg)).flatten after) :
    ∃ received, after.link.handed = kiss.link.handed ++ received ∧
      List.Forall₂ (fun packet sent => packet.Arrives (sent.onWire cfg)) received packets := by
  induction packets generalizing kiss with
  | nil =>
      cases hears
      exact ⟨[], (List.append_nil _).symm, .nil⟩
  | cons packet rest ih =>
      rw [List.map_cons, List.flatten_cons] at hears
      obtain ⟨middle, first, others⟩ := hears.append
      obtain ⟨received, handed, arrives, inStep'⟩ := inStep.receives ready (short packet List.mem_cons_self) first
      obtain ⟨more, handed', all⟩ := ih inStep' (first.ready ready)
        (fun other member => short other (List.mem_cons_of_mem _ member)) others
      refine ⟨received :: more, ?_, .cons arrives all⟩
      rw [handed', handed, List.append_assoc, List.singleton_append]

/-- The received packet is the one of the frame. It reads like the sent one when the identifier fits in the
header. -/
structure Packet.Intact (cfg : Config) (received sent : Packet) : Prop where
  frame : received.Arrives (sent.onWire cfg)
  fits : sent.id.Fits cfg → received.Arrives sent

theorem Packet.Arrives.intact {received sent : Packet} (arrives : received.Arrives (sent.onWire cfg)) :
    received.Intact cfg sent :=
  ⟨arrives, fun fits => by rwa [Packet.onWire_of_fits fits] at arrives⟩

/-- Whatever the receiver heard before, it hands over the packet of each frame but the first one, in order, and
before them at most one other packet. -/
theorem kissRx_resyncs (reachable : kiss.Reachable) (pool : Pool cfg) {first : Packet} {rest : List Packet}
    (short : ∀ packet ∈ first :: rest, kissLength cfg packet < kiss.maxRxLength)
    (hears : kiss.Hears ((first :: rest).map fun packet => (kissTx pool packet).1.flatten).flatten after) :
    ∃ early received, early.length ≤ 1 ∧ after.link.handed = kiss.link.handed ++ early ++ received ∧
      List.Forall₂ (Packet.Intact cfg) received rest := by
  have ready := reachable.ready
  have bytes : (fun packet => (kissTx pool packet).1.flatten) = kissBytes cfg := by
    funext packet
    exact kissTx_bytes pool packet
  rw [ready.max] at short
  rw [bytes, List.map_cons, List.flatten_cons] at hears
  obtain ⟨middle, noise, others⟩ := hears.append
  obtain ⟨early, few, handed, inStep⟩ := ready.resyncs (short first List.mem_cons_self) noise
  obtain ⟨received, handed', all⟩ := inStep.receivesAll (noise.ready ready)
    (fun packet member => short packet (List.mem_cons_of_mem _ member)) others
  exact ⟨early, received, few, by rw [handed', handed], all.imp fun _ _ arrives => arrives.intact⟩

/-! ## A receiver with enough buffers -/

theorem qfifoWrite_remaining (link : Link cfg qfifoLen) (packet : Packet) :
    link.pool.remaining ≤ (qfifoWrite link packet).pool.remaining := by
  simp only [qfifoWrite]
  split
  · exact le_rfl
  · exact bufferFree_remaining link.pool (some packet)

theorem Kiss.accept_remaining (kiss : Kiss cfg qfifoLen) (frame : Frame) :
    kiss.link.pool.remaining ≤ (kiss.accept frame).link.pool.remaining := by
  simp only [Kiss.accept]
  split
  · exact le_rfl
  · split
    · exact qfifoWrite_remaining kiss.link.countFrame _
    · exact le_rfl

theorem Kiss.start_remaining (kiss : Kiss cfg qfifoLen) (spare : Option Frame) :
    kiss.link.pool.remaining ≤ (kiss.start spare).link.pool.remaining + 1 := by
  cases spare with
  | some frame => exact Nat.le_succ _
  | none =>
      rcases bufferGet_cases kiss.link.pool 0 with ⟨got, _⟩ | ⟨packet, rest, _, items, got⟩
      · simp only [Kiss.start, got]
        exact Nat.le_succ _
      · simp only [Kiss.start, got]
        simp [Pool.remaining, BoundedQueue.size, items]

/-- One byte takes at most one buffer, and only an END character takes one. -/
theorem kissRxByte_remaining (kiss : Kiss cfg qfifoLen) (byte : UInt8) :
    kiss.link.pool.remaining ≤ (kissRxByte kiss byte).link.pool.remaining + if byte = fend then 1 else 0 := by
  rw [← kiss.checkLength_pool]
  simp only [kissRxByte]
  split
  · split
    · exact Nat.le_add_right _ _
    · rename_i ends
      rw [if_pos (not_not.mp ends)]
      exact Kiss.start_remaining _ _
  · split
    · exact Nat.le_add_right _ _
    · split
      · split
        · exact (Kiss.accept_remaining _ _).trans (Nat.le_add_right _ _)
        · exact Nat.le_add_right _ _
      · split <;> exact Nat.le_add_right _ _
  · split
    · exact Nat.le_add_right _ _
    · split <;> exact Nat.le_add_right _ _
  · split <;> exact Nat.le_add_right _ _

/-- Without other tasks one buffer for each END character is enough. -/
theorem kissRx_hears {bytes : List UInt8} (free : bytes.count fend < kiss.link.pool.remaining) :
    kiss.Hears bytes (kissRx kiss bytes) := by
  induction bytes generalizing kiss with
  | nil => exact .nil kiss
  | cons byte rest ih =>
      have left := kissRxByte_remaining kiss byte
      simp only [List.count_cons, beq_iff_eq] at free
      exact .cons kiss.link rfl (by omega) (@ih (kissRxByte kiss byte) (by omega))

/-- A receiver in the middle of an escape hands over the second packet. -/
theorem brokenEscape_resyncs :
    ∃ early received, early.length ≤ 1 ∧
      (kissRx (kissRx addedKiss [fend, 1, 2, fesc])
          ([kissPacket [3], kissPacket [4]].map fun packet =>
            (kissTx addedKiss.link.pool packet).1.flatten).flatten).link.handed =
        (kissRx addedKiss [fend, 1, 2, fesc]).link.handed ++ early ++ received ∧
      List.Forall₂ (Packet.Intact {}) received [kissPacket [4]] :=
  kissRx_resyncs (.received [fend, 1, 2, fesc] (.added _)) addedKiss.link.pool (by decide +kernel)
    (kissRx_hears (by decide +kernel))

end Libcsp

/-
This file shows exactly when a packet crosses a tunnel of two csp_if_tun_tx interfaces.
-/
import Libcsp.HeaderCodec
import Libcsp.RxFrames

namespace Libcsp

open BitField

variable {cfg : Config} {qfifoLen peerLen : Nat}

/-! ## The promises of the tunnel -/

/-- The peer decrypts what the sender encrypted, or fails. -/
structure TunHooks (sender peer : TunCrypto) : Prop where
  inverse : ∀ message cipher, message.length < 2 ^ 8 → sender.encrypt message = some cipher →
    peer.decrypt cipher = some message ∨ peer.decrypt cipher = none

/-- Some decryption gives back each encrypted message. -/
def TunCrypto.Decodable (crypto : TunCrypto) : Prop :=
  ∃ decrypt : List UInt8 → List UInt8, ∀ message cipher, message.length < 2 ^ 8 →
    crypto.encrypt message = some cipher → decrypt cipher = message

/-- A peer that never fails decrypts each message. -/
theorem TunHooks.decodable {sender peer : TunCrypto} (hooks : TunHooks sender peer)
    (answers : ∀ cipher, peer.decrypt cipher ≠ none) : sender.Decodable := by
  refine ⟨fun cipher => (peer.decrypt cipher).getD [], fun message cipher short encrypted => ?_⟩
  rcases hooks.inverse message cipher short encrypted with decrypted | failed
  · change (peer.decrypt cipher).getD [] = message
    rw [decrypted, Option.getD_some]
  · exact absurd failed (answers cipher)

/-- Each ciphertext belongs to one message. -/
theorem TunCrypto.Decodable.unique {crypto : TunCrypto} (decodable : crypto.Decodable)
    {first second cipher : List UInt8} (short : first.length < 2 ^ 8) (short' : second.length < 2 ^ 8)
    (encrypted : crypto.encrypt first = some cipher) (encrypted' : crypto.encrypt second = some cipher) :
    first = second := by
  obtain ⟨decrypt, inverse⟩ := decodable
  rw [← inverse first cipher short encrypted, inverse second cipher short' encrypted']

/-- The call queues nothing, and the buffer of the packet and the new one are free again. -/
structure Link.Releases (before after : Link cfg qfifoLen) (packet : Packet) : Prop where
  handed : after.handed = before.handed
  freed : ∀ used, before.pool.Accounts (packet.buf :: used) → after.pool.Accounts used

/-- The call ends without an overrun, and queues nothing. -/
def Link.Drops (before : Link cfg qfifoLen) (outcome : Option (Link cfg qfifoLen)) (packet : Packet) : Prop :=
  ∃ after, outcome = some after ∧ before.Releases after packet

/-- The call ends without an overrun, and queues this packet. -/
def Link.Queues (before : Link cfg qfifoLen) (outcome : Option (Link cfg qfifoLen)) (packet : Packet) : Prop :=
  ∃ after, outcome = some after ∧ after.handed = before.handed ++ [packet]

/-- An incoming packet becomes the original one, unless it cannot be decrypted. -/
def TunReceives (link : Link cfg qfifoLen) (conf : TunConf) (crypto : TunCrypto) (frame : Frame)
    (original : Packet) : Prop :=
  match crypto.decrypt (tunCiphertext frame.packet) with
  | none => link.Drops (tunTx link conf crypto frame) frame.packet
  | some message => idHeaderSize cfg ≤ message.length ∧
      ∃ received, link.Queues (tunTx link conf crypto frame) received ∧ received.Arrives original

/-- An incoming packet queues nothing when it cannot be decrypted, or not to a whole header. The decrypted message
stays in its buffer. -/
structure TunFilters (link : Link cfg qfifoLen) (conf : TunConf) (crypto : TunCrypto) (frame : Frame) : Prop where
  inside : tunTx link conf crypto frame ≠ none
  failed : crypto.decrypt (tunCiphertext frame.packet) = none →
    link.Drops (tunTx link conf crypto frame) frame.packet
  short : ∀ message, crypto.decrypt (tunCiphertext frame.packet) = some message →
    message.length < idHeaderSize cfg → link.Drops (tunTx link conf crypto frame) frame.packet

/-- An outgoing packet queues nothing, or a packet from which every peer gets the original one. The buffer at the
peer has this value of `frame_length`. -/
def TunDelivers (link : Link cfg qfifoLen) (conf : TunConf) (crypto : TunCrypto) (frame : Frame)
    (peerLink : Link cfg peerLen) (peerLength : UInt16) : Prop :=
  link.Drops (tunTx link conf crypto frame) frame.packet ∨
    (crypto.encrypt (tunMessage cfg frame.packet)).isSome ∧
      ∃ queued, link.Queues (tunTx link conf crypto frame) queued ∧ queued.id.dst = conf.tunDst ∧
        ∀ peer peerConf arriving, TunHooks crypto peer → peerConf.tunSrc = conf.tunDst →
          arriving.packet.Arrives queued → arriving.frameLength = peerLength →
            TunReceives peerLink peerConf peer arriving frame.packet

/-- What the tunnel promises for each packet. -/
def Tunnels (link : Link cfg qfifoLen) (conf : TunConf) (crypto : TunCrypto) (frame : Frame)
    (peerLink : Link cfg peerLen) (peerLength : UInt16) : Prop :=
  if frame.packet.id.dst = conf.tunSrc then TunFilters link conf crypto frame
  else TunDelivers link conf crypto frame peerLink peerLength

/-- The frame and its ciphertext fit the hooks and the buffers of both nodes. -/
structure TunFits (cfg : Config) (packet : Packet) (cipher : List UInt8) : Prop where
  frameTold : idHeaderSize cfg + packet.length.toNat < 2 ^ 8
  frameFits : packet.length.toNat ≤ cfg.bufferSize
  cipherTold : cipher.length < 2 ^ 8
  cipherFits : cipher.length ≤ cfg.bufferSize

/-- The condition on the buffers, the lengths and the results of the hooks. -/
def TunnelOpen (link : Link cfg qfifoLen) (conf : TunConf) (crypto : TunCrypto) (frame : Frame)
    (peerLink : Link cfg peerLen) (peerLength : UInt16) : Prop :=
  link.HasBuffer frame.frameLength.toNat →
    if frame.packet.id.dst = conf.tunSrc then
      ∀ message, crypto.decrypt (tunCiphertext frame.packet) = some message →
        idHeaderSize cfg ≤ message.length ∧ message.length ≤ cfg.bufferSize + idHeaderSize cfg
    else
      ∃ cipher, crypto.encrypt (tunMessage cfg frame.packet) = some cipher ∧
        TunFits cfg frame.packet cipher ∧ peerLink.HasBuffer peerLength.toNat

/-! ## The cases of a call -/

variable {link : Link cfg qfifoLen} {conf : TunConf} {crypto : TunCrypto} {frame : Frame}

/-- Without a buffer the call frees the packet. -/
theorem tunTx_noBuffer (lacks : ¬link.HasBuffer frame.frameLength.toNat) :
    link.Drops (tunTx link conf crypto frame) frame.packet := by
  rcases bufferGet_hasBuffer link frame.frameLength.toNat with ⟨has, _⟩ | ⟨_, got⟩
  · exact absurd has lacks
  · rw [tunTx, got]
    exact ⟨_, rfl, rfl, fun used accounts => (bufferFree_accounts accounts).1⟩

/-- A packet that cannot be decrypted is freed with the new buffer. -/
theorem tunTx_failed (incoming : frame.packet.id.dst = conf.tunSrc)
    (failed : crypto.decrypt (tunCiphertext frame.packet) = none) :
    link.Drops (tunTx link conf crypto frame) frame.packet := by
  rcases bufferGet_hasBuffer link frame.frameLength.toNat with ⟨_, newPacket, pool, got⟩ | ⟨lacks, _⟩
  · simp only [tunTx, got, if_pos incoming, tunIncoming, failed]
    refine ⟨_, rfl, rfl, fun used accounts => ?_⟩
    have owned := (bufferFree_accounts (bufferGet_accounts accounts got).2).1
    exact (bufferFree_accounts owned).1
  · exact tunTx_noBuffer lacks

/-- Every decrypted message that the new buffer has room for is handed over. -/
theorem tunTx_decrypted (incoming : frame.packet.id.dst = conf.tunSrc)
    (has : link.HasBuffer frame.frameLength.toNat) {message : List UInt8}
    (decrypted : crypto.decrypt (tunCiphertext frame.packet) = some message)
    (room : message.length ≤ cfg.bufferSize + idHeaderSize cfg) :
    ∃ fresh, link.Queues (tunTx link conf crypto frame)
      ((idStrip cfg (receivedFrame cfg fresh message)).getD (receivedFrame cfg fresh message).packet) := by
  rcases bufferGet_hasBuffer link frame.frameLength.toNat with ⟨_, newPacket, pool, got⟩ | ⟨lacks, _⟩
  · refine ⟨newPacket, ?_⟩
    simp only [tunTx, got, if_pos incoming, tunIncoming, decrypted, if_neg (Nat.not_lt.mpr room)]
    exact ⟨_, rfl, qfifoWrite_handed _ _⟩
  · exact absurd has lacks

/-- A longer message is written behind the end of the new buffer. -/
theorem tunTx_overruns (incoming : frame.packet.id.dst = conf.tunSrc)
    (has : link.HasBuffer frame.frameLength.toNat) {message : List UInt8}
    (decrypted : crypto.decrypt (tunCiphertext frame.packet) = some message)
    (long : cfg.bufferSize + idHeaderSize cfg < message.length) : tunTx link conf crypto frame = none := by
  rcases bufferGet_hasBuffer link frame.frameLength.toNat with ⟨_, newPacket, pool, got⟩ | ⟨lacks, _⟩
  · simp only [tunTx, got, if_pos incoming, tunIncoming, decrypted, if_pos long]
  · exact absurd has lacks

/-- An outgoing packet is handed over, also without a ciphertext, unless the ciphertext overruns the new buffer. -/
theorem tunTx_outgoing (outgoing : frame.packet.id.dst ≠ conf.tunSrc)
    (has : link.HasBuffer frame.frameLength.toNat) :
    ∃ fresh, tunTx link conf crypto frame = none ∧ tunEncrypted cfg conf crypto frame.packet fresh = none ∨
      ∃ encrypted, tunEncrypted cfg conf crypto frame.packet fresh = some encrypted ∧
        link.Queues (tunTx link conf crypto frame) (idPrepend cfg encrypted).packet := by
  rcases bufferGet_hasBuffer link frame.frameLength.toNat with ⟨_, newPacket, pool, got⟩ | ⟨lacks, _⟩
  · refine ⟨newPacket, ?_⟩
    simp only [tunTx, got, if_neg outgoing, tunOutgoing]
    cases tunEncrypted cfg conf crypto frame.packet newPacket with
    | none => exact .inl ⟨rfl, rfl⟩
    | some encrypted => exact .inr ⟨encrypted, rfl, _, rfl, qfifoWrite_handed _ _⟩
  · exact absurd has lacks

theorem Link.Drops.not_queues {outcome : Option (Link cfg qfifoLen)} {packet queued : Packet}
    (drops : link.Drops outcome packet) : ¬link.Queues outcome queued := by
  rintro ⟨after, same, handed⟩
  obtain ⟨after', same', releases⟩ := drops
  rw [same'] at same
  cases same
  rw [releases.handed] at handed
  simp at handed

/-- A call queues one packet at most. -/
theorem Link.Queues.unique {outcome : Option (Link cfg qfifoLen)} {first second : Packet}
    (queues : link.Queues outcome first) (queues' : link.Queues outcome second) : first = second := by
  obtain ⟨after, same, handed⟩ := queues
  obtain ⟨after', same', handed'⟩ := queues'
  rw [same'] at same
  cases same
  rw [handed', List.append_cancel_left_eq, List.cons.injEq] at handed
  exact handed.1.symm

/-! ## The bytes that cross the tunnel -/

/-- The hook gets the whole frame of a short packet. -/
theorem tunMessage_whole {packet : Packet} (short : idHeaderSize cfg + packet.length.toNat < 2 ^ 8) :
    tunMessage cfg packet = beBytes (idHeaderSize cfg) (idWord cfg packet.id) ++ packet.payload := by
  have count : (idPrepend cfg packet).frameLength.toNat = packet.length.toNat + idHeaderSize cfg := by
    rw [idPrepend_eq]
    exact prependHeader_length _ packet (by omega)
  have told : (idPrepend cfg packet).frameLength.toUInt8.toNat = (idPrepend cfg packet).frameLength.toNat := by
    rw [UInt16.toNat_toUInt8]
    exact Nat.mod_eq_of_lt (by omega)
  rw [tunMessage, told]
  exact idPrepend_bytes cfg packet (by omega)

/-- A message that reads like the packet is its whole frame. -/
theorem message_of_arrives {fresh packet original : Packet} {message : List UInt8} (small : message.length < 2 ^ 16)
    (stripped : idStrip cfg (receivedFrame cfg fresh message) = some packet) (arrives : packet.Arrives original) :
    message = beBytes (idHeaderSize cfg) (idWord cfg original.id) ++ original.payload := by
  obtain ⟨length, fields, payload⟩ := idStrip_some (receivedFrame_begin cfg fresh message) stripped
  rw [receivedFrame_bytes fresh small] at length fields payload
  have header : (message.take (idHeaderSize cfg)).length = idHeaderSize cfg := by
    rw [List.length_take]
    omega
  have bound := beValue_lt (message.take (idHeaderSize cfg))
  have word := idWord_fields (header ▸ bound)
  have bytes := beBytes_beValue (message.take (idHeaderSize cfg))
  rw [← fields, arrives.id] at word
  rw [header, ← word] at bytes
  rw [bytes, ← arrives.payload, payload, List.take_append_drop]

/-- The frame of a packet reads like the packet. -/
theorem arrives_of_message {fresh original : Packet} {message : List UInt8} (fits : original.id.Fits cfg)
    (small : message.length < 2 ^ 16)
    (whole : message = beBytes (idHeaderSize cfg) (idWord cfg original.id) ++ original.payload) :
    ∃ packet, idStrip cfg (receivedFrame cfg fresh message) = some packet ∧ packet.Arrives original := by
  obtain ⟨packet, stripped, fields, payload⟩ :=
    idStrip_of_bytes (receivedFrame_begin cfg fresh message) ((receivedFrame_bytes fresh small).trans whole)
      (beBytes_length _ _)
  refine ⟨packet, stripped, ?_, Packet.length_of_payload payload, payload⟩
  rw [fields, beValue_beBytes]
  exact idFields_word fits

theorem idPrepend_dataBytes (cfg : Config) (packet : Packet) (count : Nat) :
    (idPrepend cfg packet).packet.dataBytes count = packet.dataBytes count := by
  have small := idHeaderSize_le cfg
  rw [idPrepend_eq]
  apply List.map_congr_left
  intro index _
  have outside : ¬(dataAt - idHeaderSize cfg ≤ dataAt + index ∧
      dataAt + index < dataAt - idHeaderSize cfg + (beBytes (idHeaderSize cfg) (idWord cfg packet.id)).length) := by
    rw [beBytes_length]
    simp only [dataAt]
    omega
  simp only [prependHeader, Packet.data, writeBytes, if_neg outside]

/-- The new buffer has room for the ciphertext of an encrypted packet, and gets it behind the identifier of the
tunnel. -/
theorem tunEncrypted_some {packet fresh queued : Packet} {cipher : List UInt8}
    (encrypted : crypto.encrypt (tunMessage cfg packet) = some cipher)
    (written : tunEncrypted cfg conf crypto packet fresh = some queued) :
    cipher.length ≤ cfg.bufferSize ∧ queued.id.dst = conf.tunDst ∧ queued.length = UInt16.ofNat cipher.length ∧
      queued.dataBytes cipher.length = cipher := by
  simp only [tunEncrypted, encrypted] at written
  split at written
  · cases written
  · rename_i room
    cases written
    exact ⟨Nat.not_lt.mp room, rfl, rfl, writeBytes_map fresh.mem dataAt cipher⟩

theorem tunEncrypted_isSome {packet : Packet} {cipher : List UInt8}
    (encrypted : crypto.encrypt (tunMessage cfg packet) = some cipher) (room : cipher.length ≤ cfg.bufferSize)
    (fresh : Packet) : tunEncrypted cfg conf crypto packet fresh ≠ none := by
  simp only [tunEncrypted, encrypted, if_neg (Nat.not_lt.mpr room)]
  exact Option.some_ne_none _

theorem idPrepend_id (cfg : Config) (packet : Packet) : (idPrepend cfg packet).packet.id = packet.id := by
  rw [idPrepend_eq]
  rfl

theorem idPrepend_packetLength (cfg : Config) (packet : Packet) :
    (idPrepend cfg packet).packet.length = packet.length := by
  rw [idPrepend_eq]
  rfl

/-- The peer decrypts a short ciphertext as it is. -/
theorem tunCiphertext_queued {packet fresh queued arriving : Packet} {cipher : List UInt8}
    (short : cipher.length < 2 ^ 8) (encrypted : crypto.encrypt (tunMessage cfg packet) = some cipher)
    (written : tunEncrypted cfg conf crypto packet fresh = some queued)
    (arrives : arriving.Arrives (idPrepend cfg queued).packet) : tunCiphertext arriving = cipher := by
  obtain ⟨_, _, length, bytes⟩ := tunEncrypted_some encrypted written
  have count : arriving.length.toNat = cipher.length := by
    rw [arrives.length, idPrepend_packetLength, length]
    exact toNat_ofNat16 (by omega)
  have told : arriving.length.toUInt8.toNat = arriving.length.toNat := by
    rw [UInt16.toNat_toUInt8]
    exact Nat.mod_eq_of_lt (by omega)
  have payload := arrives.payload
  rw [Packet.payload, Packet.payload, ← arrives.length, idPrepend_dataBytes, count] at payload
  rw [tunCiphertext, told, count, payload, bytes]

/-! ## The condition -/

/-- The condition is enough for an outgoing packet. -/
theorem TunDelivers.of_opened {peerLink : Link cfg peerLen} {peerLength : UInt16}
    (fits : frame.packet.id.Fits cfg) (outgoing : frame.packet.id.dst ≠ conf.tunSrc)
    (has : link.HasBuffer frame.frameLength.toNat) {cipher : List UInt8}
    (encrypted : crypto.encrypt (tunMessage cfg frame.packet) = some cipher)
    (room : TunFits cfg frame.packet cipher) (peerHas : peerLink.HasBuffer peerLength.toNat) :
    TunDelivers link conf crypto frame peerLink peerLength := by
  obtain ⟨fresh, ⟨_, none'⟩ | ⟨sent, written, queues⟩⟩ :=
    @tunTx_outgoing cfg qfifoLen link conf crypto frame outgoing has
  · exact absurd none' (tunEncrypted_isSome encrypted room.cipherFits fresh)
  obtain ⟨_, dst, _, _⟩ := tunEncrypted_some encrypted written
  rw [← idPrepend_id cfg] at dst
  refine .inr ⟨by rw [encrypted]; rfl, _, queues, dst, ?_⟩
  intro peer peerConf arriving hooks own arrives length
  have cipherText := tunCiphertext_queued room.cipherTold encrypted written arrives
  have whole := tunMessage_whole room.frameTold
  have size : (tunMessage cfg frame.packet).length = idHeaderSize cfg + frame.packet.length.toNat := by
    rw [whole, List.length_append, beBytes_length, Packet.payload_length]
  have told := room.frameTold
  have inside := room.frameFits
  have incoming : arriving.packet.id.dst = peerConf.tunSrc := by
    rw [arrives.id, own]
    exact dst
  rw [TunReceives, cipherText]
  rcases hooks.inverse _ cipher (by omega) encrypted with decrypted | failed
  · rw [decrypted]
    rw [← cipherText] at decrypted
    obtain ⟨fresh', received⟩ := tunTx_decrypted incoming (by rw [length]; exact peerHas) decrypted (by omega)
    obtain ⟨packet, stripped, same⟩ := @arrives_of_message cfg fresh' _ _ fits (by omega) whole
    rw [stripped, Option.getD_some] at received
    exact ⟨by omega, packet, received, same⟩
  · rw [failed]
    exact tunTx_failed incoming (cipherText ▸ failed)

open Classical in
/-- A peer that never reports a failure. -/
noncomputable def TunCrypto.decoder (crypto : TunCrypto) : TunCrypto where
  encrypt := crypto.encrypt
  decrypt cipher :=
    if known : ∃ message, message.length < 2 ^ 8 ∧ crypto.encrypt message = some cipher then some known.choose
    else some []

theorem TunCrypto.decoder_cases (crypto : TunCrypto) (cipher : List UInt8) :
    (∃ message, crypto.decoder.decrypt cipher = some message ∧ message.length < 2 ^ 8 ∧
        crypto.encrypt message = some cipher) ∨
      (crypto.decoder.decrypt cipher = some [] ∧
        ¬∃ message, message.length < 2 ^ 8 ∧ crypto.encrypt message = some cipher) := by
  by_cases known : ∃ message, message.length < 2 ^ 8 ∧ crypto.encrypt message = some cipher
  · exact .inl ⟨known.choose, dif_pos known, known.choose_spec⟩
  · exact .inr ⟨dif_neg known, known⟩

theorem TunCrypto.Decodable.decoder (decodable : crypto.Decodable) : TunHooks crypto crypto.decoder where
  inverse := by
    intro message cipher short encrypted
    left
    rcases crypto.decoder_cases cipher with ⟨other, decrypted, short', encrypted'⟩ | ⟨_, unknown⟩
    · rw [decrypted, decodable.unique short short' encrypted encrypted']
    · exact absurd ⟨message, short, encrypted⟩ unknown

/-- A decrypted message that arrives as the packet is the frame of the packet, and its buffer has room for it. -/
theorem TunReceives.whole {original : Packet} {message : List UInt8} (incoming : frame.packet.id.dst = conf.tunSrc)
    (small : message.length < 2 ^ 16) (decrypted : crypto.decrypt (tunCiphertext frame.packet) = some message)
    (receives : TunReceives link conf crypto frame original) :
    message = beBytes (idHeaderSize cfg) (idWord cfg original.id) ++ original.payload ∧
      message.length ≤ cfg.bufferSize + idHeaderSize cfg ∧ link.HasBuffer frame.frameLength.toNat := by
  rw [TunReceives, decrypted] at receives
  obtain ⟨long, received, queues, arrives⟩ := receives
  by_cases has : link.HasBuffer frame.frameLength.toNat
  · by_cases room : message.length ≤ cfg.bufferSize + idHeaderSize cfg
    · obtain ⟨fresh, queues'⟩ := tunTx_decrypted incoming has decrypted room
      refine ⟨?_, room, has⟩
      cases stripped : idStrip cfg (receivedFrame cfg fresh message) with
      | none =>
          have short := (idStrip_isNone cfg _).mp stripped
          rw [receivedFrame_length, Nat.mod_eq_of_lt small] at short
          exact absurd long (Nat.not_le.mpr short)
      | some packet =>
          rw [stripped, Option.getD_some] at queues'
          rw [queues.unique queues'] at arrives
          exact message_of_arrives small stripped arrives
    · obtain ⟨after, ends, _⟩ := queues
      rw [tunTx_overruns incoming has decrypted (Nat.not_le.mp room)] at ends
      cases ends
  · exact absurd queues (tunTx_noBuffer has).not_queues

/-- The condition is necessary for an outgoing packet. -/
theorem TunDelivers.opened {peerLink : Link cfg peerLen} {peerLength : UInt16} (decodable : crypto.Decodable)
    (outgoing : frame.packet.id.dst ≠ conf.tunSrc) (has : link.HasBuffer frame.frameLength.toNat)
    (delivers : TunDelivers link conf crypto frame peerLink peerLength) :
    ∃ cipher, crypto.encrypt (tunMessage cfg frame.packet) = some cipher ∧
      TunFits cfg frame.packet cipher ∧ peerLink.HasBuffer peerLength.toNat := by
  obtain ⟨fresh, ⟨none', _⟩ | ⟨sent, written, sends⟩⟩ :=
    @tunTx_outgoing cfg qfifoLen link conf crypto frame outgoing has
  · rcases delivers with ⟨after, ends, _⟩ | ⟨_, _, ⟨after, ends, _⟩, _⟩
    · rw [none'] at ends
      cases ends
    · rw [none'] at ends
      cases ends
  rcases delivers with drops | ⟨encrypts, queued, queues, dst, peers⟩
  · exact absurd sends drops.not_queues
  obtain ⟨cipher, encrypted⟩ := Option.isSome_iff_exists.mp encrypts
  obtain ⟨cipherFits, _⟩ := tunEncrypted_some encrypted written
  have receives := peers crypto.decoder ⟨0, conf.tunDst⟩ ⟨queued, 0, peerLength⟩ decodable.decoder rfl
    ⟨rfl, rfl, rfl⟩ rfl
  have told : (tunCiphertext queued).length < 2 ^ 8 := by
    rw [tunCiphertext, Packet.dataBytes, List.length_map, List.length_range]
    exact queued.length.toUInt8.toNat_lt
  rcases crypto.decoder_cases (tunCiphertext queued) with ⟨message, decrypted, small, same⟩ | ⟨decrypted, _⟩
  · obtain ⟨whole, room, peerHas⟩ := receives.whole dst (by omega) decrypted
    have total := congrArg List.length whole
    rw [List.length_append, BitField.beBytes_length, Packet.payload_length] at total
    have sent : message = tunMessage cfg frame.packet := by
      rw [tunMessage_whole (by omega), whole]
    rw [sent, encrypted, Option.some.injEq] at same
    rw [← same] at told
    exact ⟨cipher, encrypted, ⟨by omega, by omega, told, cipherFits⟩, peerHas⟩
  · rw [TunReceives, decrypted] at receives
    have positive : 0 < idHeaderSize cfg := by
      rw [idHeaderSize]
      split <;> decide
    exact absurd receives.1 (Nat.not_le.mpr positive)

/-- An incoming packet is filtered exactly when every decrypted message has a header and fits the buffer. -/
theorem tunFilters_iff (incoming : frame.packet.id.dst = conf.tunSrc)
    (has : link.HasBuffer frame.frameLength.toNat) :
    TunFilters link conf crypto frame ↔
      ∀ message, crypto.decrypt (tunCiphertext frame.packet) = some message →
        idHeaderSize cfg ≤ message.length ∧ message.length ≤ cfg.bufferSize + idHeaderSize cfg := by
  constructor
  · intro filters message decrypted
    have room : message.length ≤ cfg.bufferSize + idHeaderSize cfg := by
      by_contra long
      exact filters.inside (tunTx_overruns incoming has decrypted (Nat.not_le.mp long))
    refine ⟨?_, room⟩
    by_contra short
    obtain ⟨fresh, queues⟩ := tunTx_decrypted incoming has decrypted room
    exact (filters.short message decrypted (Nat.not_le.mp short)).not_queues queues
  · intro open'
    refine ⟨?_, tunTx_failed incoming, fun message decrypted short => ?_⟩
    · cases decrypted : crypto.decrypt (tunCiphertext frame.packet) with
      | none =>
          obtain ⟨after, ends, _⟩ := @tunTx_failed cfg qfifoLen link conf crypto frame incoming decrypted
          rw [ends]
          exact Option.some_ne_none after
      | some message =>
          obtain ⟨_, after, ends, _⟩ := tunTx_decrypted incoming has decrypted (open' message decrypted).2
          rw [ends]
          exact Option.some_ne_none after
    · exact absurd (open' message decrypted).1 (Nat.not_le.mpr short)

/-- An interface with free buffers. -/
def tunLink : Link {} 15 :=
  { iface := 1, addr := 1, mtu := 256, frame := 0, rxError := 0, txError := 0, drop := 0
    pool := bufferInit {} fun _ => default, qfifo := .empty, handed := [] }

def tunFrame : Frame where
  packet := { (default : Packet) with length := 2, id := { (default : CspId) with src := 2, dst := 1 } }
  frameBegin := 0
  frameLength := 0

/-- Hooks that copy the bytes. -/
def plainHooks : TunCrypto := ⟨some, some⟩

theorem plainHooks_inverse : TunHooks plainHooks plainHooks where
  inverse _ _ _ encrypted := .inl encrypted.symm

theorem tunLink_hasBuffer : tunLink.HasBuffer 0 := ⟨by decide, by decide +kernel⟩

/-- The weak hooks of csp_if_tun.c. -/
def weakHooks : TunCrypto := ⟨fun _ => none, fun _ => none⟩

end Libcsp

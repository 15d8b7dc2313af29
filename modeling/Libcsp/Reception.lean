/-
This file shows exactly when the receive functions of the interfaces hand over only packets of received frames.
-/
import Libcsp.CanText
import Libcsp.KissText

namespace Libcsp

variable {cfg : Config} {qfifoLen : Nat}

/-! ## One reception -/

/-- A call of a receive function. The first two also have the stream since the start of their interface. -/
inductive Reception (cfg : Config) (qfifoLen : Nat) where
  | kiss (stream : List UInt8) (kiss : Kiss cfg qfifoLen) (link : Link cfg qfifoLen) (byte : UInt8)
  | can (stream : List CanFrame) (can : Can cfg qfifoLen) (frame : CanFrame) (now : UInt32)
  | i2c (link : Link cfg qfifoLen) (frame : Frame)
  | udp (link : Link cfg qfifoLen) (mtu : Nat) (datagram : List UInt8)
  | zmq (link : Link cfg qfifoLen) (message : List UInt8)
  | tun (link : Link cfg qfifoLen) (conf : TunConf) (crypto : TunCrypto) (frame : Frame)

/-- The interface before the call. -/
def Reception.before : Reception cfg qfifoLen → Link cfg qfifoLen
  | .kiss _ _ link _ => link
  | .can _ receiver _ _ => receiver.link
  | .i2c link _ => link
  | .udp link _ _ => link
  | .zmq link _ => link
  | .tun link _ _ _ => link

/-- The interface after the call. A decrypted message that the buffer has no room for is not possible. -/
def Reception.after : Reception cfg qfifoLen → Link cfg qfifoLen
  | .kiss _ receiver link byte => (kissRxByte { receiver with link } byte).link
  | .can _ receiver frame now => (canRx receiver frame now).2.link
  | .i2c link frame => i2cRx link (some frame)
  | .udp link mtu datagram => (udpRxWork link mtu (some datagram)).2
  | .zmq link message => zmqhubRound link (some message)
  | .tun link conf crypto frame => (tunTx link conf crypto frame).getD link

/-- The packets that the call gives to `csp_qfifo_write`. -/
def Reception.handed (reception : Reception cfg qfifoLen) : List Packet :=
  reception.after.handed.drop reception.before.handed.length

/-- The drivers, the sockets and the crypto functions supply at most a full buffer with its header. The driver of
an I2C interface prepares the buffer with `csp_id_setup_rx`, and a CAN interface can reserve eight bytes. -/
def Reception.Possible : Reception cfg qfifoLen → Prop
  | .kiss stream receiver _ _ => Kiss.Heard stream receiver
  | .can stream receiver _ _ => 8 ≤ cfg.bufferSize ∧ Can.Heard stream receiver
  | .i2c _ frame => frame.frameBegin = dataAt - idHeaderSize cfg ∧
      frame.frameLength.toNat ≤ cfg.bufferSize + idHeaderSize cfg
  | .udp _ _ _ => True
  | .zmq _ message => message.length ≤ cfg.bufferSize + idHeaderSize cfg
  | .tun _ conf crypto frame => frame.packet.id.dst = conf.tunSrc ∧
      ∀ message, crypto.decrypt (tunCiphertext frame.packet) = some message →
        message.length ≤ cfg.bufferSize + idHeaderSize cfg

/-- The packet comes from the bytes that the call received. -/
def Reception.Receives : Reception cfg qfifoLen → Packet → Prop
  | .kiss stream _ _ byte, packet => ∃ before characters,
      stream ++ [byte] = before ++ fend :: (characters ++ [fend]) ∧
        packet.FromFrame cfg (kissText characters).bytes (kissText characters).bytes.length id 4
  | .can stream receiver frame _, packet => ∃ frames,
      CameFrom (canMask cfg) (frame.id &&& canMask cfg) (stream ++ [frame]) frames ∧
        packet.FromFrame cfg (canText cfg frames) (canFrameLength cfg (canText cfg frames))
          (canRewrite cfg receiver.link.addr) 0
  | .i2c _ frame, packet => packet.FromFrame cfg frame.bytes frame.frameLength.toNat id 0
  | .udp _ mtu datagram, packet => packet.FromFrame cfg (udpReceived cfg mtu datagram)
      ((udpReceived cfg mtu datagram).length % 2 ^ 16) id 0
  | .zmq _ message, packet => packet.FromFrame cfg message (message.length % 2 ^ 16) id 0
  | .tun _ _ crypto frame, packet => ∃ message, crypto.decrypt (tunCiphertext frame.packet) = some message ∧
      packet.FromFrame cfg message (message.length % 2 ^ 16) id 0

/-- The frame length of the call counts a whole header and all received bytes. -/
def Reception.Countable : Reception cfg qfifoLen → Prop
  | .kiss _ _ _ _ => True
  | .can _ _ _ _ => True
  | .i2c _ frame => frame.frameLength < 4 ∨ idHeaderSize cfg ≤ frame.frameLength.toNat ∨
      cfg.bufferSize < frame.frameLength.toNat
  | .udp link mtu datagram => link.HasBuffer mtu →
      idHeaderSize cfg ≤ (udpReceived cfg mtu datagram).length % 2 ^ 16 →
        (udpReceived cfg mtu datagram).length < 2 ^ 16
  | .zmq link message => link.HasBuffer (message.length - idHeaderSize cfg) →
      idHeaderSize cfg ≤ message.length % 2 ^ 16 → message.length < 2 ^ 16
  | .tun link _ crypto frame => link.HasBuffer frame.frameLength.toNat →
      ∀ message, crypto.decrypt (tunCiphertext frame.packet) = some message →
        idHeaderSize cfg ≤ message.length % 2 ^ 16 ∧ message.length < 2 ^ 16

/-! ## The paths -/

variable {reception : Reception cfg qfifoLen}

theorem Reception.handed_nil (same : reception.after.handed = reception.before.handed) : reception.handed = [] := by
  rw [Reception.handed, same, List.drop_length]

theorem Reception.handed_one {packet : Packet}
    (more : reception.after.handed = reception.before.handed ++ [packet]) : reception.handed = [packet] := by
  rw [Reception.handed, more, List.drop_left]

/-- A call that hands over nothing, or a packet that it received. -/
theorem Reception.receives_of_hands
    (hands : reception.after.handed = reception.before.handed ∨
      ∃ packet, reception.after.handed = reception.before.handed ++ [packet] ∧ reception.Receives packet) :
    ∀ packet ∈ reception.handed, reception.Receives packet := by
  rcases hands with same | ⟨packet, more, receives⟩
  · rw [Reception.handed_nil same]
    exact fun packet member => by cases member
  · rw [Reception.handed_one more]
    exact fun other member => List.mem_singleton.mp member ▸ receives

/-- A call that hands over nothing receives everything that it hands over. -/
theorem Reception.nothing_iff (same : reception.after.handed = reception.before.handed)
    (countable : reception.Countable) :
    (∀ packet ∈ reception.handed, reception.Receives packet) ↔ reception.Countable := by
  rw [Reception.handed_nil same]
  exact iff_of_true (fun packet member => by cases member) countable

theorem Reception.one_iff {packet : Packet} (more : reception.after.handed = reception.before.handed ++ [packet])
    (receives : reception.Receives packet ↔ reception.Countable) :
    (∀ packet ∈ reception.handed, reception.Receives packet) ↔ reception.Countable := by
  rw [Reception.handed_one more, List.forall_mem_singleton]
  exact receives

/-- A packet whose frame was stripped comes from the frame. -/
theorem getD_fromFrame_iff {frame : Frame} (begins : frame.frameBegin = dataAt - idHeaderSize cfg)
    (fits : frame.frameLength.toNat ≤ cfg.bufferSize + idHeaderSize cfg) :
    ((idStrip cfg frame).getD frame.packet).FromFrame cfg frame.bytes frame.frameLength.toNat id 0 ↔
      idHeaderSize cfg ≤ frame.frameLength.toNat := by
  constructor
  · exact fun whole => whole.strips
  · intro long
    obtain ⟨packet, stripped⟩ : ∃ packet, idStrip cfg frame = some packet := by
      apply Option.ne_none_iff_exists'.mp
      rw [ne_eq, idStrip_isNone]
      omega
    obtain ⟨length, fields, payload⟩ := idStrip_some begins stripped
    have total := frame.bytes_length
    rw [stripped, Option.getD_some]
    refine ⟨long, fields, length, ?_, by omega⟩
    rw [payload, List.take_of_length_le]
    rw [List.length_drop]
    omega

/-- The I2C interface hands over every frame of at least four bytes that fits in a buffer. -/
theorem i2c_receives_iff {link : Link cfg qfifoLen} {frame : Frame}
    (possible : (Reception.i2c link frame).Possible) :
    (∀ packet ∈ (Reception.i2c link frame).handed, (Reception.i2c link frame).Receives packet) ↔
      (Reception.i2c link frame).Countable := by
  obtain ⟨begins, bound⟩ := possible
  by_cases short : frame.frameLength < 4
  · apply Reception.nothing_iff
    · simp only [Reception.after, i2cRx, if_pos short]
      rfl
    · exact .inl short
  · by_cases large : frame.frameLength.toNat > cfg.bufferSize
    · apply Reception.nothing_iff
      · simp only [Reception.after, i2cRx, if_neg short, if_pos large]
        rfl
      · exact .inr (.inr large)
    · apply Reception.one_iff
      · simp only [Reception.after, i2cRx, if_neg short, if_neg large, qfifoWrite_handed]
        rfl
      · apply (getD_fromFrame_iff begins bound).trans
        simp only [Reception.Countable, short, false_or]
        exact (or_iff_left large).symm

/-- The frame of some received bytes. -/
theorem receivedFrame_receives_iff {fresh packet : Packet} {bytes : List UInt8}
    (stripped : idStrip cfg (receivedFrame cfg fresh bytes) = some packet)
    (bound : bytes.length ≤ cfg.bufferSize + idHeaderSize cfg) :
    packet.FromFrame cfg bytes (bytes.length % 2 ^ 16) id 0 ↔
      (idHeaderSize cfg ≤ bytes.length % 2 ^ 16 → bytes.length < 2 ^ 16) := by
  have long : idHeaderSize cfg ≤ bytes.length % 2 ^ 16 := by
    rw [← receivedFrame_length cfg fresh, ← Nat.not_lt, ← idStrip_isNone, stripped]
    simp
  rw [receivedFrame_fromFrame_iff stripped bound]
  exact ⟨fun small _ => small, fun small => small long⟩

theorem receivedFrame_isNone {fresh : Packet} {bytes : List UInt8}
    (failed : idStrip cfg (receivedFrame cfg fresh bytes) = none) : bytes.length % 2 ^ 16 < idHeaderSize cfg := by
  rw [← receivedFrame_length cfg fresh bytes]
  exact (idStrip_isNone cfg _).mp failed

theorem udp_receives_iff (link : Link cfg qfifoLen) (mtu : Nat) (datagram : List UInt8) :
    (∀ packet ∈ (Reception.udp link mtu datagram).handed, (Reception.udp link mtu datagram).Receives packet) ↔
      (Reception.udp link mtu datagram).Countable := by
  rcases bufferGet_hasBuffer link mtu with ⟨has, fresh, pool, got⟩ | ⟨lacks, got⟩
  · have bound : (udpReceived cfg mtu datagram).length ≤ cfg.bufferSize + idHeaderSize cfg :=
      (List.length_take_le _ _).trans (Nat.add_le_add_right has.1 _)
    by_cases short : (udpReceived cfg mtu datagram).length ≤ 4
    · apply Reception.nothing_iff
      · simp only [Reception.after, udpRxWork, got, Option.map_some, if_pos short]
        rfl
      · exact fun _ _ => by omega
    · cases stripped : idStrip cfg (receivedFrame cfg fresh (udpReceived cfg mtu datagram)) with
      | none =>
          apply Reception.nothing_iff
          · simp only [Reception.after, udpRxWork, got, Option.map_some, if_neg short, stripped]
            rfl
          · intro _ long
            exact absurd (receivedFrame_isNone stripped) (Nat.not_lt.mpr long)
      | some packet =>
          apply Reception.one_iff
          · simp only [Reception.after, udpRxWork, got, Option.map_some, if_neg short, stripped, qfifoWrite_handed]
            rfl
          · apply (receivedFrame_receives_iff stripped bound).trans
            exact ⟨fun small _ => small, fun small => small has⟩
  · apply Reception.nothing_iff
    · simp only [Reception.after, udpRxWork, got]
      rfl
    · exact fun has => absurd has lacks

theorem zmq_receives_iff {link : Link cfg qfifoLen} {message : List UInt8}
    (possible : (Reception.zmq link message).Possible) :
    (∀ packet ∈ (Reception.zmq link message).handed, (Reception.zmq link message).Receives packet) ↔
      (Reception.zmq link message).Countable := by
  have bound : message.length ≤ cfg.bufferSize + idHeaderSize cfg := possible
  have small := cfg.bufferSize_lt
  have header := idHeaderSize_le cfg
  have whole : message.take (message.length % 2 ^ 32) = message := by
    rw [Nat.mod_eq_of_lt (by omega), List.take_length]
  by_cases short : message.length < idHeaderSize cfg
  · apply Reception.nothing_iff
    · simp only [Reception.after, zmqhubRound, whole, if_pos short]
      rfl
    · exact fun _ _ => by omega
  · rcases bufferGet_hasBuffer link (message.length - idHeaderSize cfg) with
      ⟨has, fresh, pool, got⟩ | ⟨lacks, got⟩
    · cases stripped : idStrip cfg (receivedFrame cfg fresh message) with
      | none =>
          apply Reception.nothing_iff
          · simp only [Reception.after, zmqhubRound, whole, if_neg short, got, stripped]
            rfl
          · intro _ long
            exact absurd (receivedFrame_isNone stripped) (Nat.not_lt.mpr long)
      | some packet =>
          apply Reception.one_iff
          · simp only [Reception.after, zmqhubRound, whole, if_neg short, got, stripped, qfifoWrite_handed]
            rfl
          · apply (receivedFrame_receives_iff stripped bound).trans
            exact ⟨fun small _ => small, fun small => small has⟩
    · apply Reception.nothing_iff
      · simp only [Reception.after, zmqhubRound, whole, if_neg short, got]
        rfl
      · exact fun has => absurd has lacks

/-- The tunnel hands over every message that it decrypts. -/
theorem tun_receives_iff {link : Link cfg qfifoLen} {conf : TunConf} {crypto : TunCrypto} {frame : Frame}
    (possible : (Reception.tun link conf crypto frame).Possible) :
    (∀ packet ∈ (Reception.tun link conf crypto frame).handed,
        (Reception.tun link conf crypto frame).Receives packet) ↔
      (Reception.tun link conf crypto frame).Countable := by
  obtain ⟨incoming, bounded⟩ := possible
  rcases bufferGet_hasBuffer link frame.frameLength.toNat with ⟨has, fresh, pool, got⟩ | ⟨lacks, got⟩
  · cases decrypted : crypto.decrypt (tunCiphertext frame.packet) with
    | none =>
        apply Reception.nothing_iff
        · simp only [Reception.after, tunTx, got, if_pos incoming, tunIncoming, decrypted]
          rfl
        · intro _ message some'
          rw [decrypted] at some'
          cases some'
    | some message =>
        have bound := bounded message decrypted
        apply Reception.one_iff
        · simp only [Reception.after, tunTx, got, if_pos incoming, tunIncoming, decrypted,
            if_neg (Nat.not_lt.mpr bound), Option.getD_some, qfifoWrite_handed]
          rfl
        · constructor
          · rintro ⟨other, same, whole⟩ _ another same'
            rw [decrypted] at same same'
            cases same
            cases same'
            cases stripped : idStrip cfg (receivedFrame cfg fresh message) with
            | none => exact absurd whole.strips (Nat.not_le.mpr (receivedFrame_isNone stripped))
            | some packet =>
                rw [stripped, Option.getD_some] at whole
                exact ⟨whole.strips, (receivedFrame_fromFrame_iff stripped bound).mp whole⟩
          · intro countable
            obtain ⟨long, small⟩ := countable has message decrypted
            refine ⟨message, decrypted, ?_⟩
            cases stripped : idStrip cfg (receivedFrame cfg fresh message) with
            | none => exact absurd long (Nat.not_le.mpr (receivedFrame_isNone stripped))
            | some packet => exact (receivedFrame_fromFrame_iff stripped bound).mpr small
  · apply Reception.nothing_iff
    · simp only [Reception.after, tunTx, got]
      rfl
    · exact fun has => absurd has lacks

/-- Every handed packet comes from a received frame exactly when the frame length of the call counts the header
and the bytes. -/
theorem reception_receives_iff (version : cfg.version = 1 ∨ cfg.version = 2) (possible : reception.Possible) :
    (∀ packet ∈ reception.handed, reception.Receives packet) ↔ reception.Countable := by
  cases reception with
  | kiss stream kiss link byte =>
      have heard : Kiss.Heard stream kiss := possible
      exact iff_of_true (Reception.receives_of_hands (heard.hands link byte)) trivial
  | can stream can frame now =>
      obtain ⟨reserved, heard⟩ := possible
      exact iff_of_true (Reception.receives_of_hands (heard.hands version reserved frame now)) trivial
  | i2c link frame => exact i2c_receives_iff possible
  | udp link mtu datagram => exact udp_receives_iff link mtu datagram
  | zmq link message => exact zmq_receives_iff possible
  | tun link conf crypto frame => exact tun_receives_iff possible

/-- The packet of a message of eight bytes comes from the message. -/
theorem wholeMessage_received :
    ∃ packet ∈ (Reception.zmq addedKiss.link [1, 2, 3, 4, 5, 6, 7, 8]).handed,
      (Reception.zmq addedKiss.link [1, 2, 3, 4, 5, 6, 7, 8]).Receives packet := by
  have hands : (Reception.zmq addedKiss.link [1, 2, 3, 4, 5, 6, 7, 8]).handed ≠ [] :=
    List.ne_nil_of_length_pos (by decide)
  have receives := (@reception_receives_iff _ _ (.zmq addedKiss.link [1, 2, 3, 4, 5, 6, 7, 8]) (.inr rfl)
    (show 8 ≤ 256 + 6 by decide)).mpr fun _ _ => show 8 < 2 ^ 16 by decide
  exact ⟨_, List.head_mem hands, receives _ (List.head_mem hands)⟩

/-- A frame of four bytes in a buffer whose last packet had 77 data bytes. -/
def shortFrame : Frame where
  packet := { (default : Packet) with length := 77 }
  frameBegin := dataAt - id2HeaderSize
  frameLength := 4

/-- The I2C interface hands over the old packet of the buffer. -/
theorem shortFrame_handed :
    (Reception.i2c addedKiss.link shortFrame).Possible ∧
      ∃ packet ∈ (Reception.i2c addedKiss.link shortFrame).handed, packet.length = 77 ∧
        ¬(Reception.i2c addedKiss.link shortFrame).Receives packet := by
  refine ⟨⟨rfl, by decide⟩, shortFrame.packet, ?_, rfl, fun whole => absurd whole.strips (by decide)⟩
  have one : (Reception.i2c addedKiss.link shortFrame).handed = [shortFrame.packet] := by
    apply Reception.handed_one
    have stripped : idStrip {} shortFrame = none := (idStrip_isNone {} shortFrame).mpr (by decide)
    have long : ¬shortFrame.frameLength < 4 := by decide
    have small : ¬shortFrame.frameLength.toNat > Config.bufferSize {} := by decide
    simp only [Reception.after, i2cRx, if_neg long, if_neg small, stripped, qfifoWrite_handed]
    rfl
  rw [one]
  exact List.mem_singleton_self _

end Libcsp

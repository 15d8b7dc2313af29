/-
This file models the receive functions of csp_if_i2c.c, csp_if_udp.c and csp_if_zmqhub.c, and csp_if_tun.c.
-/
import Libcsp.Link

namespace Libcsp

variable {cfg : Config} {qfifoLen : Nat}

/-! ## I2C -/

/-- This is `csp_i2c_rx`. The result of `csp_id_strip` is not checked. -/
def i2cRx (link : Link cfg qfifoLen) : Option Frame → Link cfg qfifoLen
  | none => link
  | some frame =>
      if frame.frameLength < 4 then link.countFrame.free frame.packet
      else
        let packet := (idStrip cfg frame).getD frame.packet
        if frame.frameLength.toNat > cfg.bufferSize then link.countRxError.free packet
        else qfifoWrite link packet

/-! ## UDP and ZMQ -/

/-- The bytes of a frame are copied to `frame_begin`, and their number goes into the 16-bit `frame_length`. -/
def receivedFrame (cfg : Config) (packet : Packet) (bytes : List UInt8) : Frame :=
  { (idSetupRx cfg packet).write 0 bytes with frameLength := UInt16.ofNat bytes.length }

/-- The bytes that `recvfrom` copies from a datagram. -/
def udpReceived (cfg : Config) (mtu : Nat) (datagram : List UInt8) : List UInt8 :=
  datagram.take (mtu + idHeaderSize cfg)

/-- This is `csp_if_udp_rx_work`. Without a datagram, `recvfrom` returns an error. -/
def udpRxWork (link : Link cfg qfifoLen) (mtu : Nat) (datagram : Option (List UInt8)) :
    CspErr × Link cfg qfifoLen :=
  match bufferGet link.pool mtu with
  | (none, pool) => (.nomem, { link with pool })
  | (some packet, pool) =>
      let link := { link with pool }
      match datagram.map (udpReceived cfg mtu) with
      | none => (.nomem, link.free packet)
      | some bytes =>
          let frame := receivedFrame cfg packet bytes
          if bytes.length ≤ 4 then (.nomem, link.free frame.packet)
          else
            match idStrip cfg frame with
            | none => (.inval, link.free frame.packet)
            | some packet => (.none, qfifoWrite link packet)

/-- This is one round of `csp_zmqhub_task`. Without a message, `zmq_msg_recv` returns an error. The length of the
message goes into an `unsigned int`. -/
def zmqhubRound (link : Link cfg qfifoLen) : Option (List UInt8) → Link cfg qfifoLen
  | none => link
  | some message =>
      let rxData := message.take (message.length % 2 ^ 32)
      if rxData.length < idHeaderSize cfg then link
      else
        match bufferGet link.pool (rxData.length - idHeaderSize cfg) with
        | (none, pool) => { link with pool }
        | (some packet, pool) =>
            let link := { link with pool }
            let frame := receivedFrame cfg packet rxData
            match idStrip cfg frame with
            | none => link.countRxError.free frame.packet
            | some packet => qfifoWrite link packet

/-! ## Tunnels -/

/-- This is `csp_if_tun_conf_t`. -/
structure TunConf where
  tunDst : UInt16
  tunSrc : UInt16

/-- The user supplies `csp_crypto_encrypt` and `csp_crypto_decrypt`. They write bytes and return their number, or
return -1. -/
structure TunCrypto where
  encrypt : List UInt8 → Option (List UInt8)
  decrypt : List UInt8 → Option (List UInt8)

/-- The bytes that `csp_crypto_decrypt` gets. Its length parameter has eight bits. -/
def tunCiphertext (packet : Packet) : List UInt8 := packet.dataBytes packet.length.toUInt8.toNat

/-- The bytes that `csp_crypto_encrypt` gets. Its length parameter has eight bits. -/
def tunMessage (cfg : Config) (packet : Packet) : List UInt8 :=
  (idPrepend cfg packet).take (idPrepend cfg packet).frameLength.toUInt8.toNat

/-- The incoming half of `csp_if_tun_tx`. The result of `csp_id_strip` is not checked. A message for which the new
buffer has no room gives no result, since the hook writes it behind the end of the buffer. -/
def tunIncoming (link : Link cfg qfifoLen) (crypto : TunCrypto) (packet newPacket : Packet) :
    Option (Link cfg qfifoLen) :=
  match crypto.decrypt (tunCiphertext packet) with
  | none => some ((link.free newPacket).free packet).countRxError
  | some bytes =>
      if bytes.length > cfg.bufferSize + idHeaderSize cfg then none
      else
        let frame := receivedFrame cfg newPacket bytes
        some (qfifoWrite (link.free packet) ((idStrip cfg frame).getD frame.packet))

/-- The encrypted frame of a packet. A result of -1 becomes the length 65535, and the flags are stale. A ciphertext
for which the data of the new buffer has no room gives no result. -/
def tunEncrypted (cfg : Config) (conf : TunConf) (crypto : TunCrypto) (packet newPacket : Packet) : Option Packet :=
  let id := { newPacket.id with
    dst := conf.tunDst, src := conf.tunSrc, sport := 0, dport := 0, pri := packet.id.pri }
  match crypto.encrypt (tunMessage cfg packet) with
  | none => some { newPacket with id, length := 0xFFFF }
  | some bytes =>
      if bytes.length > cfg.bufferSize then none
      else
        some { newPacket with
          id, length := UInt16.ofNat bytes.length, mem := writeBytes newPacket.mem dataAt bytes }

/-- The outgoing half of `csp_if_tun_tx`. -/
def tunOutgoing (link : Link cfg qfifoLen) (conf : TunConf) (crypto : TunCrypto) (packet newPacket : Packet) :
    Option (Link cfg qfifoLen) :=
  (tunEncrypted cfg conf crypto packet newPacket).map fun newPacket =>
    qfifoWrite (link.free (idPrepend cfg packet).packet) (idPrepend cfg newPacket).packet

/-- This is `csp_if_tun_tx`. The field `frame_length` of the packet has the value that its last user left. There is
no result when a hook writes behind the end of the new buffer. -/
def tunTx (link : Link cfg qfifoLen) (conf : TunConf) (crypto : TunCrypto) (frame : Frame) :
    Option (Link cfg qfifoLen) :=
  match bufferGet link.pool frame.frameLength.toNat with
  | (none, pool) => some ({ link with pool }.free frame.packet)
  | (some newPacket, pool) =>
      if frame.packet.id.dst = conf.tunSrc then tunIncoming { link with pool } crypto frame.packet newPacket
      else tunOutgoing { link with pool } conf crypto frame.packet newPacket

end Libcsp

/-
This file models csp_if_can.c and csp_if_can_pbuf.c: the fragments of a packet in CAN frames.
-/
import Libcsp.Link
import Libcsp.Lib.KeyedList

namespace Libcsp

open BitField KeyedList

variable {cfg : Config} {qfifoLen : Nat}

/-- The maximum number of bytes in a CAN frame. -/
def canFrameSize : Nat := 8

/-- A frame has a 29-bit identifier. -/
structure CanFrame where
  id : Nat
  data : List UInt8
  deriving DecidableEq, Repr

/-! ## The identifier of CFP 1.x -/

/-- This is the macro `CFP_MAKE_FIELD`. The macro `CFP_FIELD` is `field`. -/
def makeField (value size offset : Nat) : Nat := (value &&& (2 ^ size - 1)) <<< offset

def cfpType (id : Nat) : Nat := field id 18 1
def cfpRemain (id : Nat) : Nat := field id 10 8

def cfpMakeSrc (value : Nat) : Nat := makeField value 5 24
def cfpMakeDst (value : Nat) : Nat := makeField value 5 19
def cfpMakeType (value : Nat) : Nat := makeField value 1 18
def cfpMakeRemain (value : Nat) : Nat := makeField value 8 10
def cfpMakeId (value : Nat) : Nat := makeField value 10 0

def cfpBegin : Nat := 0
def cfpMore : Nat := 1

/-- The mask of the fields that separate the packets. -/
def cfpIdConnMask : Nat := cfpMakeSrc (2 ^ 5 - 1) ||| cfpMakeDst (2 ^ 5 - 1) ||| cfpMakeId (2 ^ 10 - 1)

/-! ## The identifier of CFP 2.0 -/

def cfp2PrioMask : Nat := 0x3
def cfp2DstMask : Nat := 0x3FFF
def cfp2SenderMask : Nat := 0x1F
def cfp2ScMask : Nat := 0x3
def cfp2FcMask : Nat := 0x7
def cfp2SrcMask : Nat := 0x3FFF
def cfp2DportMask : Nat := 0x3F
def cfp2SportMask : Nat := 0x3F
def cfp2FlagsMask : Nat := 0x3F

def cfp2Begin : Nat := 0x1 <<< 1
def cfp2End : Nat := 0x1 <<< 0

/-- The mask of the fields that separate the packets. -/
def cfp2IdConnMask : Nat :=
  cfp2DstMask <<< 13 ||| cfp2SenderMask <<< 7 ||| cfp2PrioMask <<< 27 ||| cfp2ScMask <<< 5

/-- The fields that every frame of a packet has. -/
def cfp2ConnId (id : CspId) (addr : UInt16) (senderCount : UInt32) : Nat :=
  (id.pri.toNat &&& cfp2PrioMask) <<< 27 ||| (id.dst.toNat &&& cfp2DstMask) <<< 13 |||
    (addr.toNat &&& cfp2SenderMask) <<< 7 ||| (senderCount.toNat &&& cfp2ScMask) <<< 5

/-- The rest of the CSP header. -/
def cfp2HeaderExtension (id : CspId) : Nat :=
  (id.src.toNat &&& cfp2SrcMask) <<< 18 ||| (id.dport.toNat &&& cfp2DportMask) <<< 12 |||
    (id.sport.toNat &&& cfp2SportMask) <<< 6 ||| (id.flags.toNat &&& cfp2FlagsMask) <<< 0

/-! ## Partial packets -/

/-- This is `PBUF_TIMEOUT_MS`. -/
def pbufTimeoutMs : UInt32 := 1000

/-- A partial packet uses the layer-2 fields of its buffer. -/
structure Pbuf where
  frame : Frame
  rxCount : UInt16
  remain : UInt16
  cfpid : Nat
  lastUsed : UInt32

/-- The searches compare the masked identifiers. -/
def Pbuf.key (mask : Nat) (pbuf : Pbuf) : Nat := pbuf.cfpid &&& mask

/-- The interface with its `csp_can_interface_data_t`. -/
structure Can (cfg : Config) (qfifoLen : Nat) where
  link : Link cfg qfifoLen
  cfpPacketCounter : UInt32
  /-- The driver accepts or refuses each call of `tx_func`. The calls are numbered. -/
  txFunc : Nat → Bool
  /-- The linked list of partial packets. -/
  pbufs : List Pbuf
  txCalls : Nat
  /-- History: the frames that the driver accepted. -/
  bus : List CanFrame

/-- This is `csp_can_pbuf_cleanup`. Its flag tells that the entry before this one has just left the
list, so that this one stays linked even when it is freed. -/
def pbufCleanup (now : UInt32) : Bool → List Pbuf → Pool cfg → List Pbuf × Pool cfg
  | _, [], pool => ([], pool)
  | unlinked, pbuf :: rest, pool =>
      if now - pbuf.lastUsed > pbufTimeoutMs then
        let (rest, pool) := pbufCleanup now (!unlinked) rest (bufferFree pool (some pbuf.frame.packet))
        (if unlinked then pbuf :: rest else rest, pool)
      else
        let (rest, pool) := pbufCleanup now false rest pool
        (pbuf :: rest, pool)

/-- This is `csp_can_pbuf_new`. The first frame sets the fields that are zero here. -/
def pbufNew (can : Can cfg qfifoLen) (id : Nat) (now : UInt32) : Option Pbuf × Can cfg qfifoLen :=
  let (pbufs, pool) := pbufCleanup now false can.pbufs can.link.pool
  match bufferGet pool 0 with
  | (none, pool) => (none, { can with pbufs, link := { can.link with pool } })
  | (some packet, pool) =>
      let pbuf : Pbuf := { frame := ⟨packet, 0, 0⟩, rxCount := 0, remain := 0, cfpid := id, lastUsed := now }
      (some pbuf, { can with pbufs := pbuf :: pbufs, link := { can.link with pool } })

/-- This is `csp_can_pbuf_find`. The time stamp goes into the list with the next store. -/
def pbufFind (can : Can cfg qfifoLen) (id mask : Nat) (now : UInt32) : Option Pbuf :=
  (lookup (Pbuf.key mask) (id &&& mask) can.pbufs).map fun pbuf => { pbuf with lastUsed := now }

/-- This is `csp_can_pbuf_free` with `buf_free`. The packet is the first entry with its key. -/
def pbufFree (can : Can cfg qfifoLen) (mask : Nat) (pbuf : Pbuf) : Can cfg qfifoLen :=
  { can with
    pbufs := remove (Pbuf.key mask) (pbuf.key mask) can.pbufs
    link := can.link.free pbuf.frame.packet }

/-- The writes to a partial packet take effect in the list. -/
def pbufStore (can : Can cfg qfifoLen) (mask : Nat) (pbuf : Pbuf) : Can cfg qfifoLen :=
  { can with pbufs := store (Pbuf.key mask) pbuf can.pbufs }

/-- A complete packet leaves the list without `buf_free` and goes to `csp_qfifo_write`. -/
def pbufDeliver (can : Can cfg qfifoLen) (mask : Nat) (pbuf : Pbuf) (packet : Packet) :
    Can cfg qfifoLen :=
  { can with
    pbufs := remove (Pbuf.key mask) (pbuf.key mask) can.pbufs
    link := qfifoWrite can.link packet }

def Can.countFrame (can : Can cfg qfifoLen) : Can cfg qfifoLen :=
  { can with link := can.link.countFrame }

/-- An incoming frame is bound to a packet buffer. -/
def canBind (can : Can cfg qfifoLen) (id mask : Nat) (begins : Bool) (now : UInt32) :
    Except (CspErr × Can cfg qfifoLen) (Pbuf × Can cfg qfifoLen) :=
  match pbufFind can id mask now with
  | some pbuf => .ok (pbuf, can)
  | none =>
      if begins then
        match pbufNew can id now with
        | (some pbuf, can) => .ok (pbuf, can)
        | (none, can) => .error (.nomem, { can with link := can.link.countRxError })
      else .error (.inval, can.countFrame)

/-! ## CFP 1.x -/

/-- A BEGIN frame starts with the CSP header and the length. -/
def can1Begin (pbuf : Pbuf) (frame : CanFrame) : Pbuf :=
  let header := { (id1SetupRx pbuf.frame.packet).write 0 (frame.data.take 4) with frameLength := 4 }
  let packet := (id1Strip header).getD header.packet
  { pbuf with
    frame := { header with packet := { packet with
      length := UInt16.ofNat (beValue ((frame.data.drop 4).take 2)) } }
    rxCount := 0
    remain := UInt16.ofNat (cfpRemain frame.id + 1) }

/-- A frame with the expected number is appended, and the last one delivers the packet. -/
def can1More (can : Can cfg qfifoLen) (pbuf : Pbuf) (id : Nat) (data : List UInt8) :
    Can cfg qfifoLen :=
  if cfpRemain id + 1 ≠ pbuf.remain.toNat then (pbufFree can cfpIdConnMask pbuf).countFrame
  else
    let pbuf := { pbuf with remain := pbuf.remain - 1 }
    if pbuf.rxCount.toNat + data.length > pbuf.frame.packet.length.toNat then
      (pbufFree can cfpIdConnMask pbuf).countFrame
    else
      let packet : Packet := { pbuf.frame.packet with
        mem := writeBytes pbuf.frame.packet.mem (dataAt + pbuf.rxCount.toNat) data }
      let pbuf := { pbuf with
        frame := { pbuf.frame with packet }, rxCount := pbuf.rxCount + UInt16.ofNat data.length }
      if pbuf.rxCount ≠ packet.length then pbufStore can cfpIdConnMask pbuf
      else pbufDeliver can cfpIdConnMask pbuf packet

/-- This is `csp_can1_rx`. -/
def can1Rx (can : Can cfg qfifoLen) (frame : CanFrame) (now : UInt32) : CspErr × Can cfg qfifoLen :=
  match canBind can frame.id cfpIdConnMask (cfpType frame.id == cfpBegin) now with
  | .error failed => failed
  | .ok (pbuf, can) =>
      if cfpType frame.id = cfpBegin then
        let can := can.countFrame
        if frame.data.length < 6 then (.none, pbufFree can cfpIdConnMask pbuf)
        else
          let pbuf := can1Begin pbuf frame
          if pbuf.frame.packet.length > can.link.mtu then
            (.none, pbufFree { can with link := can.link.countRxError } cfpIdConnMask pbuf)
          else (.none, can1More can pbuf frame.id (frame.data.drop 6))
      else (.none, can1More can pbuf frame.id frame.data)

/-- The loop that sends the next frames until the packet is complete. -/
def canNextFrames (makeId : Nat → Nat → Nat → Nat) (packet : Packet) : Nat → Nat → Nat → List CanFrame
  | 0, _, _ => []
  | rounds + 1, txCount, fragmentCount =>
      if txCount < packet.length.toNat then
        let dataBytes := if packet.length.toNat - txCount ≥ canFrameSize then canFrameSize
          else packet.length.toNat - txCount
        { id := makeId txCount dataBytes fragmentCount
          data := (List.range dataBytes).map fun index => packet.data (txCount + index) } ::
          canNextFrames makeId packet rounds (txCount + dataBytes) (fragmentCount + 1)
      else []

def can1Id (src dest ident type remain : Nat) : Nat :=
  cfpMakeSrc src ||| cfpMakeDst dest ||| cfpMakeId ident ||| cfpMakeType type ||| cfpMakeRemain remain

/-- The frames of a packet. Each round of the loop sends at least one byte. -/
def can1Frames (cfg : Config) (dest : Nat) (ident : UInt32) (packet : Packet) : List CanFrame :=
  let length := packet.length.toNat
  let src := packet.id.src.toNat
  let frame := idPrepend cfg packet
  let dataBytes := if length ≤ 2 then length else 2
  { id := can1Id src dest ident.toNat cfpBegin ((length + 6 - 1) / canFrameSize)
    data := frame.take 4 ++ beBytes 2 length ++ frame.packet.dataBytes dataBytes } ::
    canNextFrames (fun txCount dataBytes _ => can1Id src dest ident.toNat cfpMore
      ((length - txCount - dataBytes + canFrameSize - 1) / canFrameSize)) frame.packet length dataBytes 0

/-- The driver gets the frames until it refuses one. -/
def canSendFrames : List CanFrame → Can cfg qfifoLen → Bool × Can cfg qfifoLen
  | [], can => (true, can)
  | frame :: rest, can =>
      let called := { can with txCalls := can.txCalls + 1 }
      if can.txFunc can.txCalls then canSendFrames rest { called with bus := called.bus ++ [frame] }
      else (false, { called with link := { called.link with txError := called.link.txError + 1 } })

/-- A packet for the own address goes to the router, any other one to the driver. -/
def canTx (can : Can cfg qfifoLen) (packet : Packet) (frames : List CanFrame) (sent : Packet) :
    TxResult × Can cfg qfifoLen :=
  if packet.id.dst = can.link.addr then (.keeps, { can with link := qfifoWrite can.link packet })
  else
    match canSendFrames frames { can with cfpPacketCounter := can.cfpPacketCounter + 1 } with
    | (true, can) => (.frees, { can with link := can.link.free sent })
    | (false, can) => (.error, can)

/-- The address of the next hop goes into eight bits. -/
def can1Dest (via : UInt16) (packet : Packet) : Nat :=
  (if via ≠ noViaAddress then via else packet.id.dst).toUInt8.toNat

/-- This is `csp_can1_tx`. The next-hop function writes the header into the packet. -/
def can1Tx (can : Can cfg qfifoLen) (via : UInt16) (packet : Packet) : TxResult × Can cfg qfifoLen :=
  canTx can packet (can1Frames cfg (can1Dest via packet) can.cfpPacketCounter packet)
    (idPrepend cfg packet).packet

/-! ## CFP 2.0 -/

/-- A BEGIN frame holds the CSP header in its identifier and its first bytes. -/
def can2Begin (pbuf : Pbuf) (frame : CanFrame) : Pbuf :=
  let header := ((id2SetupRx pbuf.frame.packet).write 0 (beBytes 2 (frame.id >>> 13))).write 2
    (frame.data.take 4)
  { pbuf with
    frame := { header with packet := { header.packet with length := 0 }, frameLength := 6 }
    rxCount := 1 }

/-- The incoming broadcast address becomes the own address. -/
def can2Rewrite (addr : UInt16) (packet : Packet) : Packet :=
  if packet.id.dst = 0x3FFF then { packet with id := { packet.id with dst := addr } } else packet

/-- The data bytes of each frame go behind the ones before. -/
def Pbuf.append (pbuf : Pbuf) (data : List UInt8) : Pbuf :=
  { pbuf with
    frame := { pbuf.frame.write pbuf.frame.frameLength.toNat data with
      frameLength := pbuf.frame.frameLength + UInt16.ofNat data.length } }

/-- The packet of a complete frame. The result of `csp_id2_strip` is not checked. -/
def can2Packet (addr : UInt16) (frame : Frame) : Packet :=
  can2Rewrite addr ((id2Strip frame).getD frame.packet)

/-- A frame that fits is appended, and the END frame delivers the packet. -/
def can2Append (can : Can cfg qfifoLen) (pbuf : Pbuf) (id : Nat) (data : List UInt8) :
    CspErr × Can cfg qfifoLen :=
  if pbuf.frame.frameLength.toNat + data.length > can.link.mtu.toNat then
    (.inval, (pbufFree can cfp2IdConnMask pbuf).countFrame)
  else
    let pbuf := pbuf.append data
    if id &&& cfp2End ≠ 0 then
      (.none, pbufDeliver can cfp2IdConnMask pbuf (can2Packet can.link.addr pbuf.frame))
    else (.none, pbufStore can cfp2IdConnMask pbuf)

/-- This is `csp_can2_rx`. -/
def can2Rx (can : Can cfg qfifoLen) (frame : CanFrame) (now : UInt32) : CspErr × Can cfg qfifoLen :=
  match canBind can frame.id cfp2IdConnMask (frame.id &&& cfp2Begin != 0) now with
  | .error failed => failed
  | .ok (pbuf, can) =>
      if frame.id &&& cfp2Begin ≠ 0 then
        if frame.data.length < 4 then (.inval, (pbufFree can cfp2IdConnMask pbuf).countFrame)
        else can2Append can.countFrame (can2Begin pbuf frame) frame.id (frame.data.drop 4)
      else if pbuf.rxCount.toNat ≠ frame.id >>> 2 &&& cfp2FcMask then
        (.inval, (pbufFree can cfp2IdConnMask pbuf).countFrame)
      else
        can2Append can { pbuf with rxCount := (pbuf.rxCount + 1) &&& UInt16.ofNat cfp2FcMask } frame.id
          frame.data

/-- The bit that marks the last frame. -/
def can2EndBit (last : Bool) : Nat := if last then cfp2End else 0

/-- The frames of a packet. Each round of the loop sends at least one byte. -/
def can2Frames (addr : UInt16) (senderCount : UInt32) (packet : Packet) : List CanFrame :=
  let length := packet.length.toNat
  let connId := cfp2ConnId packet.id addr senderCount
  let dataBytes := if length ≥ 4 then 4 else length
  { id := connId ||| cfp2Begin ||| can2EndBit (dataBytes == length)
    data := beBytes 4 (cfp2HeaderExtension packet.id) ++ packet.dataBytes dataBytes } ::
    canNextFrames (fun txCount dataBytes fragmentCount =>
      connId ||| (fragmentCount &&& cfp2FcMask) <<< 2 ||| can2EndBit (txCount + dataBytes == length))
      packet length dataBytes 1

/-- This is `csp_can2_tx`. -/
def can2Tx (can : Can cfg qfifoLen) (packet : Packet) : TxResult × Can cfg qfifoLen :=
  canTx can packet (can2Frames can.link.addr can.cfpPacketCounter packet) packet

/-! ## The interface -/

/-- The value that `csp_can_add_interface` stores into the 16-bit `mtu`. -/
def canMtu (cfg : Config) : UInt16 := UInt16.ofNat cfg.bufferSize - 8

/-- This is `csp_can_add_interface`. -/
def canAddInterface (can : Can cfg qfifoLen) : Can cfg qfifoLen :=
  { can with link := { can.link with mtu := canMtu cfg }, cfpPacketCounter := 0 }

/-- This is the next-hop function of the version. -/
def canNexthop (can : Can cfg qfifoLen) (via : UInt16) (packet : Packet) : TxResult × Can cfg qfifoLen :=
  if cfg.version = 1 then can1Tx can via packet else can2Tx can packet

/-- This is `csp_can_rx`. -/
def canRx (can : Can cfg qfifoLen) (frame : CanFrame) (now : UInt32) : CspErr × Can cfg qfifoLen :=
  if cfg.version = 1 then can1Rx can frame now else can2Rx can frame now

end Libcsp

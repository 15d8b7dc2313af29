/-
This file models the closing of a connection and the RDP state machine csp_rdp_new_packet.
-/
import Libcsp.Rdp

namespace Libcsp

variable {cfg : Config}

/-! ## Close -/

/-- The part of `csp_rdp_close_internal` that leaves an open state. -/
def rdpEnterCloseWait (ctx : Ctx cfg) (sendRst : Bool) : Ctx cfg :=
  let conn := { ctx.conn with rdp.state := .closeWait, timestamp := ctx.stack.now }
  let ctx := { ctx with conn }
  let ctx :=
    if sendRst then
      (rdpSendCmp ctx none (rdpAck ||| rdpRst) ctx.conn.rdp.sndNxt ctx.conn.rdp.rcvCur).2
    else ctx
  { ctx with conn.rdp.txWait := true }

/-- This is `csp_rdp_close_internal`. -/
def rdpCloseInternal (ctx : Ctx cfg) (closedBy : UInt8) (sendRst : Bool) : CspErr × Ctx cfg :=
  if ctx.conn.rdp.state = .closed then (.none, ctx)
  else
    let ctx := { ctx with conn.rdp.closedBy := ctx.conn.rdp.closedBy ||| closedBy }
    let ctx := if ctx.conn.rdp.state = .closeWait then ctx else rdpEnterCloseWait ctx sendRst
    if ctx.conn.rdp.closedBy ≠ rdpClosedByAll then (.again, ctx)
    else (.none, { ctx with conn.rdp.state := .closed, conn.rdp.closedBy := 0 })

/-- This is `csp_rdp_close`. -/
def rdpClose (ctx : Ctx cfg) (closedBy : UInt8) : CspErr × Ctx cfg :=
  rdpCloseInternal ctx closedBy true

/-- The queue of a connection returns its packets to the pool. -/
def flushRxList (io : Io cfg) : List (Option Packet) → Io cfg
  | [] => io
  | packet :: rest => flushRxList { io with pool := bufferFree io.pool packet } rest

/-- This is `csp_conn_flush_rx_queue`. -/
def connFlushRxQueue (ctx : Ctx cfg) : Ctx cfg :=
  { conn := { ctx.conn with rxQueue := .empty }
    stack := { ctx.stack with io := flushRxList ctx.stack.io ctx.conn.rxQueue.items } }

/-- The last part of `csp_conn_close` releases the slot. -/
def connRelease (ctx : Ctx cfg) : Ctx cfg :=
  let ctx := connFlushRxQueue ctx
  let ctx :=
    if ctx.conn.idin.has cspFRdp then
      { ctx with stack := rdpQueueFlush ctx.stack (some ctx.conn.index) }
    else ctx
  { ctx with conn.state := .closed }

/-- This is `csp_conn_close`. -/
def connClose (ctx : Ctx cfg) (closedBy : UInt8) : Ctx cfg :=
  if ctx.conn.state = .closed then ctx
  else if ctx.conn.usesRdp then
    match rdpClose ctx closedBy with
    | (.again, ctx) => ctx
    | (_, ctx) => connRelease ctx
  else connRelease ctx

/-- This is `csp_close`. -/
def cspClose (ctx : Ctx cfg) : Ctx cfg := connClose ctx rdpClosedByUserspace

/-! ## The state machine -/

/-- The labels at the end of `csp_rdp_new_packet`. -/
inductive RdpExit where
  | discardClose (closedBy : UInt8)
  | discardOpen (closeConnection : Bool)
  | acceptedOpen
  deriving DecidableEq, Repr

/-- One branch of the state machine ends at a label. It returns the packet that the label frees. -/
structure RdpBranch (cfg : Config) where
  exit : RdpExit
  packet : Packet
  ctx : Ctx cfg

/-- The received header in host byte order. -/
structure RdpHeader where
  flags : UInt8
  seqNr : UInt16
  ackNr : UInt16
  deriving DecidableEq, Repr

def RdpHeader.has (header : RdpHeader) (flag : UInt8) : Bool := header.flags &&& flag != 0

def Packet.header (packet : Packet) : RdpHeader := ⟨packet.rdpFlags, packet.seqNr, packet.ackNr⟩

/-- The sum `rcv_cur + 1` has type `int`, so it does not wrap at 65536 here. -/
def rstInSequence (rdp : Rdp) (header : RdpHeader) : Bool :=
  header.seqNr.toNat == rdp.rcvCur.toNat + 1

/-- A RESET stores its acknowledgement without a check. -/
def rdpRstAck (ctx : Ctx cfg) (header : RdpHeader) : Ctx cfg :=
  if header.has rdpAck then { ctx with conn.rdp.sndUna := header.ackNr + 1 } else ctx

/-- The branch of `csp_rdp_new_packet` for a RESET. -/
def rdpRecvRst (ctx : Ctx cfg) (header : RdpHeader) (packet : Packet) : RdpBranch cfg :=
  let ctx := rdpRstAck ctx header
  match ctx.conn.rdp.state with
  | .closed => ⟨.discardOpen ctx.conn.destSocket.isSome, packet, ctx⟩
  | .closeWait =>
      let closedBy :=
        if header.has rdpAck && useRdpFastClose then rdpClosedByProtocol ||| rdpClosedByTimeout
        else rdpClosedByProtocol
      ⟨.discardClose closedBy, packet, ctx⟩
  | _ =>
      if rstInSequence ctx.conn.rdp header then
        let conn := { ctx.conn with rdp.state := .closeWait, timestamp := ctx.stack.now }
        let ctx := { ctx with conn }
        let ctx :=
          (rdpSendCmp ctx none (rdpAck ||| rdpRst) ctx.conn.rdp.sndNxt ctx.conn.rdp.rcvCur).2
        let closedBy :=
          if useRdpFastClose then rdpClosedByProtocol ||| rdpClosedByTimeout
          else rdpClosedByProtocol
        ⟨.discardClose closedBy, packet, ctx⟩
      else ⟨.discardOpen false, packet, ctx⟩

/-- A SYN in the state RDP_CLOSED sets up both directions and stores the options. -/
def rdpAcceptSyn (cfg : Config) (rdp : Rdp) (seed : UInt32) (header : RdpHeader) (packet : Packet) : Rdp :=
  let iss := (cfg.randR seed).toUInt16
  { rdp with
    sndIss := iss
    sndNxt := iss + 1
    sndUna := iss
    rcvCur := header.seqNr
    rcvIrs := header.seqNr
    rcvLsa := header.seqNr
    windowSize := be32 packet.mem dataAt
    connTimeout := be32 packet.mem (dataAt + 4)
    packetTimeout := be32 packet.mem (dataAt + 8)
    delayedAcks := be32 packet.mem (dataAt + 12)
    ackTimeout := be32 packet.mem (dataAt + 16)
    ackDelayCount := be32 packet.mem (dataAt + 20)
    state := .synRcvd }

/-- The case RDP_CLOSED. -/
def rdpRecvClosed (ctx : Ctx cfg) (header : RdpHeader) (packet : Packet) : RdpBranch cfg :=
  if !header.has rdpSyn then
    let ctx := (rdpSendCmp ctx none rdpRst ctx.conn.rdp.sndNxt ctx.conn.rdp.rcvCur).2
    ⟨.discardClose rdpClosedByProtocol, packet, ctx⟩
  else
    let rdp := rdpAcceptSyn cfg ctx.conn.rdp ctx.stack.now header packet
    let ctx := { ctx with conn.rdp := rdp }
    let ctx := (rdpSendCmp ctx none (rdpAck ||| rdpSyn) rdp.sndIss rdp.rcvIrs).2
    ⟨.discardOpen false, packet, ctx⟩

/-- The case RDP_SYN_SENT. -/
def rdpRecvSynSent (ctx : Ctx cfg) (header : RdpHeader) (packet : Packet) : RdpBranch cfg :=
  if header.has rdpSyn && header.has rdpAck then
    let rdp := { ctx.conn.rdp with
      rcvCur := header.seqNr
      rcvIrs := header.seqNr
      rcvLsa := header.seqNr - 1
      sndUna := header.ackNr + 1
      ackTimestamp := ctx.stack.now
      state := .open }
    let ctx := { ctx with conn.rdp := rdp }
    let ctx := (rdpSendCmp ctx none rdpAck rdp.sndNxt rdp.rcvCur).2
    ⟨.discardOpen false, packet, { ctx with conn.rdp.txWait := true }⟩
  else if header.has rdpAck then
    let ctx := (rdpSendCmp ctx none rdpRst ctx.conn.rdp.sndNxt ctx.conn.rdp.rcvCur).2
    ⟨.discardOpen false, packet, { ctx with conn.rdp.txWait := true }⟩
  else ⟨.discardClose rdpClosedByProtocol, packet, ctx⟩

/-- The receive window of the states RDP_SYN_RCVD and RDP_OPEN. -/
def rdpSeqValid (rdp : Rdp) (seqNr : UInt16) : Bool :=
  rdpSeqBetween seqNr (rdp.rcvCur + 1) (rdp.rcvCur + (rdp.windowSize * 2).toUInt16)

/-- The acknowledgements that the states from RDP_SYN_RCVD on accept. -/
def rdpAckValid (rdp : Rdp) (ackNr : UInt16) : Bool :=
  rdpSeqBetween ackNr (rdp.sndUna - 1 - (rdp.windowSize * 2).toUInt16) (rdp.sndNxt - 1)

/-- The acknowledgement of the SYN opens the connection and posts it to its socket. -/
def rdpOpenServer (ctx : Ctx cfg) : Bool × Ctx cfg :=
  let ctx := { ctx with conn.rdp.state := .open }
  match ctx.conn.destSocket with
  | none => (true, ctx)
  | some socket =>
      match ctx.stack.post socket ctx.conn.index with
      | none => (false, ctx)
      | some stack => (true, { conn := { ctx.conn with destSocket := none }, stack })

/-- The part of the case RDP_OPEN that handles data. -/
def rdpRecvData (ctx : Ctx cfg) (header : RdpHeader) (packet : Packet) : RdpBranch cfg :=
  if packet.length.toNat ≤ rdpHeaderSize then ⟨.discardOpen false, packet, ctx⟩
  else if header.seqNr ≠ ctx.conn.rdp.rcvCur + 1 then
    match rdpRxQueueAdd ctx.stack ctx.conn.index packet header.seqNr with
    | (false, stack) => ⟨.discardOpen false, packet, rdpCheckAck { ctx with stack }⟩
    | (true, stack) => ⟨.acceptedOpen, packet, (rdpSendEack { ctx with stack }).2⟩
  else
    match rdpReceiveData ctx.conn packet with
    | (.none, conn, packet) =>
        let ctx := rdpCheckAck { ctx with conn := { conn with rdp.rcvCur := header.seqNr } }
        ⟨.acceptedOpen, packet, rdpRxQueueFlush ctx⟩
    | (_, conn, packet) => ⟨.discardOpen false, packet, { ctx with conn }⟩

/-- The part of the case RDP_OPEN after the checks stores the acknowledgement. -/
def rdpRecvAcked (ctx : Ctx cfg) (header : RdpHeader) (packet : Packet) : RdpBranch cfg :=
  let ctx := { ctx with conn.rdp.sndUna := header.ackNr + 1 }
  if header.has rdpEak then
    let ctx := if packet.length.toNat > rdpHeaderSize then rdpFlushEack ctx packet else ctx
    ⟨.discardOpen false, packet, ctx⟩
  else rdpRecvData ctx header packet

/-- The cases RDP_SYN_RCVD and RDP_OPEN. -/
def rdpRecvOpen (ctx : Ctx cfg) (header : RdpHeader) (packet : Packet) : RdpBranch cfg :=
  if header.has rdpSyn || !header.has rdpAck then
    if header.seqNr ≠ ctx.conn.rdp.rcvIrs then ⟨.discardClose rdpClosedByProtocol, packet, ctx⟩
    else ⟨.discardOpen false, packet, ctx⟩
  else if !rdpSeqValid ctx.conn.rdp header.seqNr then
    let ctx :=
      if ctx.conn.rdp.state = .synRcvd then
        (rdpSendCmp ctx none (rdpAck ||| rdpSyn) ctx.conn.rdp.sndIss ctx.conn.rdp.rcvIrs).2
      else (rdpSendEack ctx).2
    ⟨.discardOpen false, packet, ctx⟩
  else if !rdpAckValid ctx.conn.rdp header.ackNr then ⟨.discardOpen false, packet, ctx⟩
  else if ctx.conn.rdp.state = .synRcvd then
    if header.ackNr ≠ ctx.conn.rdp.sndIss then ⟨.discardClose rdpClosedByProtocol, packet, ctx⟩
    else
      match rdpOpenServer ctx with
      | (false, ctx) => ⟨.discardClose rdpClosedByProtocol, packet, ctx⟩
      | (true, ctx) => rdpRecvAcked ctx header packet
  else rdpRecvAcked ctx header packet

/-- The case RDP_CLOSE_WAIT. -/
def rdpRecvCloseWait (ctx : Ctx cfg) (header : RdpHeader) (packet : Packet) : RdpBranch cfg :=
  if header.has rdpSyn || !header.has rdpAck then ⟨.discardOpen false, packet, ctx⟩
  else if !rdpAckValid ctx.conn.rdp header.ackNr then ⟨.discardOpen false, packet, ctx⟩
  else
    let ctx := { ctx with conn.rdp.sndUna := header.ackNr + 1 }
    let ctx :=
      (rdpSendCmp ctx none (rdpAck ||| rdpRst) ctx.conn.rdp.sndNxt ctx.conn.rdp.rcvCur).2
    ⟨.discardOpen false, packet, ctx⟩

/-- The body of `csp_rdp_new_packet` up to the labels. -/
def rdpNewPacketBody (ctx : Ctx cfg) (packet : Packet) : RdpBranch cfg :=
  let header := packet.header
  let packet := rdpHeaderToHost packet
  if header.has rdpRst then rdpRecvRst ctx header packet
  else
    match ctx.conn.rdp.state with
    | .closed => rdpRecvClosed ctx header packet
    | .synSent => rdpRecvSynSent ctx header packet
    | .synRcvd => rdpRecvOpen ctx header packet
    | .open => rdpRecvOpen ctx header packet
    | .closeWait => rdpRecvCloseWait ctx header packet

/-- The label `discard_close`. A NULL packet wakes the reader of a connection in use. -/
def rdpDiscardClose (ctx : Ctx cfg) (closedBy : UInt8) : Ctx cfg :=
  if ctx.conn.destSocket.isNone then
    let ctx := connClose ctx closedBy
    { ctx with conn := (connEnqueuePacket ctx.conn none).2 }
  else connClose ctx (closedBy ||| rdpClosedByUserspace)

/-- The labels at the end of `csp_rdp_new_packet`. -/
def rdpFinish (branch : RdpBranch cfg) : Bool × Ctx cfg :=
  match branch.exit with
  | .discardClose closedBy => (false, (rdpDiscardClose branch.ctx closedBy).free branch.packet)
  | .discardOpen closeConnection => (closeConnection, branch.ctx.free branch.packet)
  | .acceptedOpen => (false, branch.ctx)

/-- This is `csp_rdp_new_packet`. -/
def rdpNewPacket (ctx : Ctx cfg) (packet : Packet) : Bool × Ctx cfg :=
  rdpFinish (rdpNewPacketBody ctx packet)

end Libcsp

/-
This file models the timers of csp_rdp.c and the calls of userspace: connect, send, and read.
-/
import Libcsp.RdpPacket

namespace Libcsp

variable {cfg : Config}

/-! ## Timers -/

/-- The copy of a timed-out packet carries the latest acknowledgement. -/
def refreshAck (packet : Packet) (ackNr : UInt16) (now : UInt32) : Packet :=
  { packet with
    mem := putBe16 packet.mem (rdpHeaderRef packet + 3) ackNr
    timestampTx := now }

/-- The packet has waited longer than the packet timeout. -/
def rdpTimedOut (conn : Conn cfg) (now : UInt32) (packet : Packet) : Bool :=
  rdpTimeAfter now (packet.timestampTx + conn.rdp.packetTimeout)

/-- A retransmission sends a clone. The clone is NULL when no buffer is free. -/
def rdpRetransmit (conn : Conn cfg) (stack : Stack cfg) (packet : Packet) : Stack cfg :=
  let (copy, pool) := bufferClone stack.io.pool (some packet)
  { stack with io := sendDirect { stack.io with pool } conn.idout copy none }

/-- The loop over the retransmission queue frees acknowledged packets and resends late ones. -/
def rdpTimeoutLoop (conn : Conn cfg) : Nat → Stack cfg → Stack cfg
  | 0, stack => stack
  | count + 1, stack =>
      match rdpQueueTxGet stack conn.index with
      | (none, stack) => stack
      | (some packet, stack) =>
          if rdpSeqBefore packet.seqNr conn.rdp.sndUna then
            rdpTimeoutLoop conn count (stack.free packet)
          else if rdpTimedOut conn stack.now packet then
            let packet := refreshAck packet conn.rdp.rcvCur stack.now
            rdpTimeoutLoop conn count
              (rdpQueueTxAdd (rdpRetransmit conn stack packet) conn.index packet)
          else rdpTimeoutLoop conn count (rdpQueueTxAdd stack conn.index packet)

/-- The part of `csp_rdp_check_timeouts` for an open connection. -/
def rdpTimeoutOpen (ctx : Ctx cfg) : Ctx cfg :=
  if ctx.conn.rdp.state = .open then
    let ctx := if ctx.conn.rdp.delayedAcks ≠ 0 then rdpCheckAck ctx else ctx
    if rdpIsConnReadyForTx ctx.conn then { ctx with conn.rdp.txWait := true } else ctx
  else ctx

/-- The connection has been idle longer than the connection timeout. -/
def rdpConnTimedOut (ctx : Ctx cfg) : Bool :=
  rdpTimeAfter ctx.stack.now (ctx.conn.timestamp + ctx.conn.rdp.connTimeout)

/-- This is `csp_rdp_check_timeouts`. -/
def rdpCheckTimeouts (ctx : Ctx cfg) : Ctx cfg :=
  if ctx.conn.destSocket.isSome && rdpConnTimedOut ctx then
    connClose ctx (rdpClosedByUserspace ||| rdpClosedByProtocol ||| rdpClosedByTimeout)
  else if ctx.conn.rdp.state = .closeWait then
    if rdpConnTimedOut ctx then connClose ctx (rdpClosedByProtocol ||| rdpClosedByTimeout) else ctx
  else
    let stack := rdpTimeoutLoop ctx.conn ctx.stack.txQueue.size ctx.stack
    rdpRxQueueFlush (rdpTimeoutOpen { ctx with stack })

/-! ## Calls of userspace -/

/-- An attempt starts with a fresh initial sequence number. -/
def rdpNewAttempt (cfg : Config) (now : UInt32) (rdp : Rdp) : Rdp :=
  let iss := (cfg.randR now).toUInt16
  { rdp with sndIss := iss, sndNxt := iss + 1, sndUna := iss, txWait := false, state := .synSent }

/-- One attempt of `csp_rdp_connect` up to the wait for an answer. The result `none` waits. -/
def rdpConnectAttempt (ctx : Ctx cfg) : Option CspErr × Ctx cfg :=
  if ctx.conn.rdp.state = .open then (some .already, ctx)
  else
    match rdpSendSyn { ctx with conn.rdp := rdpNewAttempt cfg ctx.stack.now ctx.conn.rdp } with
    | (.none, ctx) => (none, ctx)
    | (_, ctx) => (some .timedout, (rdpCloseInternal ctx rdpClosedByProtocol false).2)

/-- The start of `csp_rdp_connect` takes the static options. -/
def rdpConnectStart (ctx : Ctx cfg) : Option CspErr × Ctx cfg :=
  let options := ctx.stack.options
  let rdp := { ctx.conn.rdp with
    windowSize := options.windowSize
    connTimeout := options.connTimeout
    packetTimeout := options.packetTimeout
    delayedAcks := options.delayedAcks
    ackTimeout := options.ackTimeout
    ackDelayCount := options.ackDelayCount
    ackTimestamp := ctx.stack.now }
  rdpConnectAttempt { ctx with conn.rdp := rdp }

/-- The part of `csp_rdp_connect` after the wait. A post of the semaphore ends the wait, else the
timeout does. A half-open answer starts the one retry. -/
def rdpConnectWake (ctx : Ctx cfg) (retry : Bool) : Option CspErr × Ctx cfg :=
  let woken := ctx.conn.rdp.txWait
  let ctx := { ctx with conn.rdp.txWait := false }
  if woken && ctx.conn.rdp.state = .open then (some .none, ctx)
  else if woken && ctx.conn.rdp.state = .synSent && retry then
    rdpConnectAttempt { ctx with stack := rdpQueueFlush ctx.stack (some ctx.conn.index) }
  else (some .timedout, (rdpCloseInternal ctx rdpClosedByProtocol false).2)

/-- The header of a data segment. -/
def dataHeader (conn : Conn cfg) (packet : Packet) : Packet :=
  setRdpHeader packet rdpAck conn.rdp.sndNxt conn.rdp.rcvCur

/-- The part of `csp_rdp_send` behind the wait for the window. The packet comes back to the caller
with its header. -/
def rdpSendSegment (ctx : Ctx cfg) (packet : Packet) : CspErr × Packet × Ctx cfg :=
  match rdpHeaderAdd cfg packet with
  | none => (.nomem, packet, ctx)
  | some packet =>
      let packet := dataHeader ctx.conn packet
      match bufferClone ctx.stack.io.pool (some packet) with
      | (none, pool) =>
          (.nomem, packet, { ctx with stack := { ctx.stack with io := { ctx.stack.io with pool } } })
      | (some copy, pool) =>
          let stack := { ctx.stack with io := { ctx.stack.io with pool } }
          let stack := rdpQueueTxAdd stack ctx.conn.index
            { copy with timestampTx := stack.now, rdpQuarantine := 0 }
          (.none, packet,
            { conn := { ctx.conn with rdp.sndNxt := ctx.conn.rdp.sndNxt + 1 }, stack })

/-- This is `csp_rdp_send`. A call that finds the window full consumes a pending post and then
waits. A wait that ends in time is a later call of this function. -/
def rdpSend (ctx : Ctx cfg) (packet : Packet) : CspErr × Packet × Ctx cfg :=
  if ctx.conn.rdp.state ≠ .open then (.reset, packet, ctx)
  else if !rdpIsConnReadyForTx ctx.conn then
    (.timedout, packet, { ctx with conn.rdp.txWait := false })
  else rdpSendSegment ctx packet

/-- This is `csp_send` without its mutation probe. -/
def cspSend (ctx : Ctx cfg) (packet : Option Packet) : Ctx cfg :=
  match packet with
  | none => ctx
  | some packet =>
      if ctx.conn.state ≠ .open then ctx.free packet
      else if ctx.conn.idout.has cspFRdp then
        match rdpSend ctx packet with
        | (.none, packet, ctx) =>
            { ctx with
              stack := { ctx.stack with io := sendDirect ctx.stack.io ctx.conn.idout (some packet) none } }
        | (_, packet, ctx) => ctx.free packet
      else
        { ctx with
          stack := { ctx.stack with io := sendDirect ctx.stack.io ctx.conn.idout (some packet) none } }

/-- This is `csp_read` without its mutation probe and without a wait. -/
def cspRead (ctx : Ctx cfg) : Option Packet × Ctx cfg :=
  if ctx.conn.state ≠ .open then (none, ctx)
  else
    match ctx.conn.rxQueue.dequeue with
    | none => (none, ctx)
    | some (packet, rxQueue) =>
        let ctx := { ctx with conn := { ctx.conn with rxQueue } }
        if ctx.conn.idin.has cspFRdp && ctx.conn.rdp.delayedAcks != 0 then (packet, rdpCheckAck ctx)
        else (packet, ctx)

/-- This is `csp_rdp_init` for the fields that it sets. -/
def rdpInit (options : RdpOptions) (rdp : Rdp) : Rdp :=
  { rdp with
    state := .closed
    closedBy := 0
    connTimeout := options.connTimeout
    packetTimeout := options.packetTimeout
    txWait := true }

end Libcsp

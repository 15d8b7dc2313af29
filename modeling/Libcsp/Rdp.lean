/-
This file models the helper functions of csp_rdp.c: headers, control messages, and queue scans.
-/
import Libcsp.RdpQueue

namespace Libcsp

variable {cfg : Config}

def rdpSyn : UInt8 := 0x08
def rdpAck : UInt8 := 0x04
def rdpEak : UInt8 := 0x02
def rdpRst : UInt8 := 0x01

/-- The macro `CSP_USE_RDP_FAST_CLOSE` has the value 1. -/
def useRdpFastClose : Bool := true

/-- The size of the packed structure `rdp_header_t`. -/
def rdpHeaderSize : Nat := 5

/-! ## Headers -/

/-- The address that `csp_rdp_header_ref` and `csp_rdp_header_remove` compute. Since the header
takes five bytes, a packet with fewer bytes gives an address in the padding. -/
def rdpHeaderRef (packet : Packet) : Nat := dataAt + packet.length.toNat - rdpHeaderSize

namespace Packet

def rdpFlags (packet : Packet) : UInt8 := packet.mem (rdpHeaderRef packet)

/-- The header field `seq_nr` in network byte order. -/
def seqNr (packet : Packet) : UInt16 := be16 packet.mem (rdpHeaderRef packet + 1)

/-- The header field `ack_nr` in network byte order. -/
def ackNr (packet : Packet) : UInt16 := be16 packet.mem (rdpHeaderRef packet + 3)

/-- The field `seq_nr` of a packet whose header is already in host byte order. -/
def hostSeqNr (packet : Packet) : UInt16 := le16 packet.mem (rdpHeaderRef packet + 1)

def hasRdp (packet : Packet) (flag : UInt8) : Bool := packet.rdpFlags &&& flag != 0

/-- The data in front of the RDP header. -/
def body (packet : Packet) : List UInt8 := packet.dataBytes (packet.length.toNat - rdpHeaderSize)

/-- The network-order halfword `packet->data16[index]`. -/
def data16 (packet : Packet) (index : Nat) : UInt16 := be16 packet.mem (dataAt + 2 * index)

end Packet

/-- This is `csp_rdp_header_add`. The new header is zero. -/
def rdpHeaderAdd (cfg : Config) (packet : Packet) : Option Packet :=
  if packet.length.toNat + rdpHeaderSize > cfg.bufferSize then none
  else some { packet with
    length := packet.length + 5
    mem := writeBytes packet.mem (dataAt + packet.length.toNat) (List.replicate rdpHeaderSize 0) }

/-- This is `csp_rdp_header_remove`, which only shortens the packet. -/
def rdpHeaderRemove (packet : Packet) : Packet := { packet with length := packet.length - 5 }

/-- This operation stores the header fields in network byte order. -/
def setRdpHeader (packet : Packet) (flags : UInt8) (seqNr ackNr : UInt16) : Packet :=
  let header := rdpHeaderRef packet
  { packet with
    mem := setByte (putBe16 (putBe16 packet.mem (header + 1) seqNr) (header + 3) ackNr) header
      (packet.mem header ||| flags) }

/-- The receiver converts both numbers of the header to host byte order in place. -/
def rdpHeaderToHost (packet : Packet) : Packet :=
  let header := rdpHeaderRef packet
  { packet with
    mem := putLe16 (putLe16 packet.mem (header + 3) (be16 packet.mem (header + 3))) (header + 1)
      (be16 packet.mem (header + 1)) }

/-! ## Comparisons of wrapping numbers -/

/-- This is `csp_rdp_seq_between`. -/
def rdpSeqBetween (seq start last : UInt16) : Bool := last - start ≥ seq - start

/-- This is `csp_rdp_seq_before`. -/
def rdpSeqBefore (seq cmp : UInt16) : Bool := (seq - cmp).toInt16 < 0

/-- This is `csp_rdp_seq_after`. -/
def rdpSeqAfter (seq cmp : UInt16) : Bool := rdpSeqBefore cmp seq

/-- This is `csp_rdp_time_before`. -/
def rdpTimeBefore (time cmp : UInt32) : Bool := (time - cmp).toInt32 < 0

/-- This is `csp_rdp_time_after`. -/
def rdpTimeAfter (time cmp : UInt32) : Bool := rdpTimeBefore cmp time

/-! ## Control messages -/

/-- A control message with its header, and the packet flags that the counter makes unique. -/
def cmpPacket (stack : Stack cfg) (packet : Packet) (flags : UInt8) (seqNr ackNr : UInt16) : Packet :=
  setRdpHeader packet (stack.rdpIncr <<< 4 ||| flags) seqNr ackNr

/-- Control messages leave with at least high priority. -/
def cmpId (conn : Conn cfg) : CspId :=
  { conn.idout with pri := if conn.idout.pri < cspPrioHigh then conn.idout.pri else cspPrioHigh }

/-- The last part of `csp_rdp_send_cmp` sends the message and notes the acknowledgement. -/
def rdpSendCmpFinish (ctx : Ctx cfg) (packet : Packet) (flags : UInt8) (ackNr : UInt16) : Ctx cfg :=
  let stack := { ctx.stack with io := sendDirect ctx.stack.io (cmpId ctx.conn) (some packet) none }
  if flags &&& rdpAck != 0 then
    { conn := { ctx.conn with rdp.rcvLsa := ackNr, rdp.ackTimestamp := stack.now }, stack }
  else { ctx with stack }

/-- The part of `csp_rdp_send_cmp` after the allocation. A SYN keeps a copy for retransmission. -/
def rdpSendCmpPacket (ctx : Ctx cfg) (packet : Packet) (flags : UInt8) (seqNr ackNr : UInt16) :
    CspErr × Ctx cfg :=
  match rdpHeaderAdd cfg packet with
  | none => (.nomem, ctx.free packet)
  | some packet =>
      let packet := cmpPacket ctx.stack packet flags seqNr ackNr
      let stack := { ctx.stack with rdpIncr := ctx.stack.rdpIncr + 1 }
      if flags &&& rdpSyn != 0 then
        match bufferClone stack.io.pool (some packet) with
        | (none, pool) => (.nomem, { ctx with stack := { stack with io := { stack.io with pool } } })
        | (some copy, pool) =>
            let stack := { stack with io := { stack.io with pool } }
            let stack := rdpQueueTxAdd stack ctx.conn.index { copy with timestampTx := stack.now }
            (.none, rdpSendCmpFinish { ctx with stack } packet flags ackNr)
      else (.none, rdpSendCmpFinish { ctx with stack } packet flags ackNr)

/-- This is `csp_rdp_send_cmp`. -/
def rdpSendCmp (ctx : Ctx cfg) (packet : Option Packet) (flags : UInt8) (seqNr ackNr : UInt16) :
    CspErr × Ctx cfg :=
  match packet with
  | some packet => rdpSendCmpPacket ctx packet flags seqNr ackNr
  | none =>
      match bufferGet ctx.stack.io.pool 20 with
      | (none, pool) =>
          (.nomem, { ctx with stack := { ctx.stack with io := { ctx.stack.io with pool } } })
      | (some packet, pool) =>
          rdpSendCmpPacket { ctx with stack := { ctx.stack with io := { ctx.stack.io with pool } } }
            { packet with length := 0 } flags seqNr ackNr

/-- The loop of `csp_rdp_send_eack` lists the stored sequence numbers and requeues each packet. -/
def rdpEackLoop (conn : Nat) : Nat → Packet → Nat → Stack cfg → Packet × Stack cfg
  | 0, eack, _, stack => (eack, stack)
  | count + 1, eack, space, stack =>
      match rdpQueueRxGet stack conn with
      | (none, stack) => (eack, stack)
      | (some packet, stack) =>
          let stack' := rdpQueueRxAdd stack conn packet
          if space ≥ 2 then
            rdpEackLoop conn count
              { eack with
                length := eack.length + 2
                mem := putBe16 eack.mem (dataAt + 2 * (eack.length.toNat / 2)) packet.hostSeqNr }
              (space - 2) stack'
          else rdpEackLoop conn count eack space stack'

/-- This is `csp_rdp_send_eack`. -/
def rdpSendEack (ctx : Ctx cfg) : CspErr × Ctx cfg :=
  match bufferGet ctx.stack.io.pool 100 with
  | (none, pool) =>
      (.nomem, { ctx with stack := { ctx.stack with io := { ctx.stack.io with pool } } })
  | (some packet, pool) =>
      let stack := { ctx.stack with io := { ctx.stack.io with pool } }
      let (eack, stack) := rdpEackLoop ctx.conn.index stack.rxQueue.size { packet with length := 0 }
        (100 - rdpHeaderSize) stack
      rdpSendCmp { ctx with stack } (some eack) (rdpAck ||| rdpEak) ctx.conn.rdp.sndNxt
        ctx.conn.rdp.rcvCur

/-- This operation writes the six options of a SYN. -/
def putSynOptions (options : RdpOptions) (mem : Memory) : Memory :=
  putBe32 (putBe32 (putBe32 (putBe32 (putBe32 (putBe32 mem dataAt options.windowSize)
    (dataAt + 4) options.connTimeout) (dataAt + 8) options.packetTimeout)
    (dataAt + 12) options.delayedAcks) (dataAt + 16) options.ackTimeout)
    (dataAt + 20) options.ackDelayCount

/-- This is `csp_rdp_send_syn`. -/
def rdpSendSyn (ctx : Ctx cfg) : CspErr × Ctx cfg :=
  match bufferGet ctx.stack.io.pool 100 with
  | (none, pool) =>
      (.nomem, { ctx with stack := { ctx.stack with io := { ctx.stack.io with pool } } })
  | (some packet, pool) =>
      rdpSendCmp { ctx with stack := { ctx.stack with io := { ctx.stack.io with pool } } }
        (some { packet with length := 24, mem := putSynOptions ctx.stack.options packet.mem })
        rdpSyn ctx.conn.rdp.sndIss 0

/-! ## Reception -/

/-- This is `csp_rdp_receive_data`. The shortened packet comes back for a caller that frees it. -/
def rdpReceiveData (conn : Conn cfg) (packet : Packet) : CspErr × Conn cfg × Packet :=
  let packet := rdpHeaderRemove packet
  match connEnqueuePacket conn (some packet) with
  | (.none, conn) => (.none, conn, packet)
  | (_, conn) => (.nobufs, conn, packet)

/-- One pass of the loop of `csp_rdp_rx_queue_flush`. The result `true` asks for another pass. -/
def rdpRxFlushScan : Nat → Ctx cfg → Bool × Ctx cfg
  | 0, ctx => (false, ctx)
  | count + 1, ctx =>
      if ctx.conn.rxQueue.free ≤ 2 then (false, ctx)
      else
        match rdpQueueRxGet ctx.stack ctx.conn.index with
        | (none, stack) => (false, { ctx with stack })
        | (some packet, stack) =>
            if packet.hostSeqNr = ctx.conn.rdp.rcvCur + 1 then
              match rdpReceiveData ctx.conn packet with
              | (.none, conn, _) =>
                  (true, { conn := { conn with rdp.rcvCur := conn.rdp.rcvCur + 1 }, stack })
              | (_, conn, packet) =>
                  (true,
                    { conn := { conn with rdp.rcvCur := conn.rdp.rcvCur + 1 }
                      stack := stack.free packet })
            else rdpRxFlushScan count { ctx with stack := rdpQueueRxAdd stack ctx.conn.index packet }

/-- The passes of `csp_rdp_rx_queue_flush`. Each pass but the last removes a packet. -/
def rdpRxFlushLoop : Nat → Ctx cfg → Ctx cfg
  | 0, ctx => ctx
  | passes + 1, ctx =>
      match rdpRxFlushScan ctx.stack.rxQueue.size ctx with
      | (false, ctx) => ctx
      | (true, ctx) => rdpRxFlushLoop passes ctx

/-- This is `csp_rdp_rx_queue_flush`. -/
def rdpRxQueueFlush (ctx : Ctx cfg) : Ctx cfg :=
  rdpRxFlushLoop (ctx.stack.rxQueue.size + 1) ctx

/-- The loop of `csp_rdp_seq_in_rx_queue`. -/
def rdpSeqInRxLoop (conn : Nat) (seqNr : UInt16) : Nat → Stack cfg → Bool × Stack cfg
  | 0, stack => (false, stack)
  | count + 1, stack =>
      match rdpQueueRxGet stack conn with
      | (none, stack) => (false, stack)
      | (some packet, stack) =>
          let stack := rdpQueueRxAdd stack conn packet
          if packet.hostSeqNr = seqNr then (true, stack) else rdpSeqInRxLoop conn seqNr count stack

/-- This is `csp_rdp_seq_in_rx_queue`. -/
def rdpSeqInRxQueue (stack : Stack cfg) (conn : Nat) (seqNr : UInt16) : Bool × Stack cfg :=
  rdpSeqInRxLoop conn seqNr stack.rxQueue.size stack

/-- This is `csp_rdp_rx_queue_add`. The result `false` reports a duplicate. -/
def rdpRxQueueAdd (stack : Stack cfg) (conn : Nat) (packet : Packet) (seqNr : UInt16) :
    Bool × Stack cfg :=
  match rdpSeqInRxQueue stack conn seqNr with
  | (true, stack) => (false, stack)
  | (false, stack) => (true, rdpQueueRxAdd stack conn packet)

/-! ## Acknowledgement of sent segments -/

/-- The number of entries that the loop of `csp_rdp_flush_eack` reads. -/
def eackCount (eack : Packet) : Nat := (eack.length.toNat - rdpHeaderSize) / 2

/-- The EACK lists this sequence number. -/
def eackLists (eack : Packet) (seqNr : UInt16) : Bool :=
  (List.range (eackCount eack)).any fun index => eack.data16 index == seqNr

/-- One round of the inner loop. A plain comparison selects the packets to retransmit. -/
def eackMark (now packetTimeout : UInt32) (entry : UInt16) (packet : Packet) : Packet :=
  if entry > packet.seqNr && rdpTimeAfter now packet.rdpQuarantine then
    { packet with
      timestampTx := now - packetTimeout - 1
      rdpQuarantine := now + packetTimeout / 2 }
  else packet

/-- The inner loop of `csp_rdp_flush_eack`. -/
def eackMarkAll (now packetTimeout : UInt32) (eack packet : Packet) : Packet :=
  (List.range (eackCount eack)).foldl
    (fun packet index => eackMark now packetTimeout (eack.data16 index) packet) packet

/-- The outer loop of `csp_rdp_flush_eack` over the retransmission queue. -/
def rdpFlushEackLoop (conn : Nat) (packetTimeout : UInt32) (eack : Packet) :
    Nat → Stack cfg → Stack cfg
  | 0, stack => stack
  | count + 1, stack =>
      match rdpQueueTxGet stack conn with
      | (none, stack) => stack
      | (some packet, stack) =>
          let marked := eackMarkAll stack.now packetTimeout eack packet
          if eackLists eack packet.seqNr then
            rdpFlushEackLoop conn packetTimeout eack count (stack.free marked)
          else rdpFlushEackLoop conn packetTimeout eack count (rdpQueueTxAdd stack conn marked)

/-- This is `csp_rdp_flush_eack`. -/
def rdpFlushEack (ctx : Ctx cfg) (eack : Packet) : Ctx cfg :=
  { ctx with
    stack := rdpFlushEackLoop ctx.conn.index ctx.conn.rdp.packetTimeout eack
      ctx.stack.txQueue.size ctx.stack }

/-- This is `csp_rdp_should_ack`. -/
def rdpShouldAck (conn : Conn cfg) (now : UInt32) : Bool :=
  if conn.rdp.delayedAcks = 0 then true
  else if rdpTimeAfter now (conn.rdp.ackTimestamp + conn.rdp.ackTimeout) then true
  else rdpSeqAfter conn.rdp.rcvCur (conn.rdp.rcvLsa + conn.rdp.ackDelayCount.toUInt16)

/-- The receive queue has less room than two windows. The comparison is signed in the source. -/
def rdpRxQueueShort (conn : Conn cfg) : Bool :=
  (conn.rxQueue.free : Int) ≤ (2 * conn.rdp.windowSize).toInt32.toInt

/-- This is `csp_rdp_check_ack`. -/
def rdpCheckAck (ctx : Ctx cfg) : Ctx cfg :=
  if rdpRxQueueShort ctx.conn then ctx
  else if rdpShouldAck ctx.conn ctx.stack.now then
    (rdpSendCmp ctx none rdpAck ctx.conn.rdp.sndNxt ctx.conn.rdp.rcvCur).2
  else ctx

/-- This is `csp_rdp_is_conn_ready_for_tx`. -/
def rdpIsConnReadyForTx (conn : Conn cfg) : Bool :=
  !rdpSeqAfter conn.rdp.sndNxt (conn.rdp.sndUna + conn.rdp.windowSize.toUInt16 - 1)

end Libcsp

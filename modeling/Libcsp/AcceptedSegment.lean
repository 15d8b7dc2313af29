/-
This file determines which of the segments that csp_rdp_send accepts can get through to the peer.
-/
import Libcsp.Delivery
import Libcsp.Wire

namespace Libcsp

variable {cfg peerCfg : Config}

/-! ## The sender -/

/-- An accepted packet has its header, and it left room for the header only. -/
theorem rdpSend_framed {ctx after : Ctx cfg} {packet framed : Packet}
    (accepted : rdpSend ctx packet = (.none, framed, after)) :
    framed.Carries rdpAck ctx.conn.rdp.sndNxt ctx.conn.rdp.rcvCur packet.payload ∧
      packet.length.toNat + rdpHeaderSize ≤ cfg.bufferSize := by
  simp only [rdpSend] at accepted
  split at accepted
  · simp at accepted
  · split at accepted
    · simp at accepted
    · simp only [rdpSendSegment] at accepted
      split at accepted
      · simp at accepted
      · rename_i added header
        have carries := setRdpHeader_carries header rdpAck ctx.conn.rdp.sndNxt ctx.conn.rdp.rcvCur
        have fits : packet.length.toNat + rdpHeaderSize ≤ cfg.bufferSize := by
          simp only [rdpHeaderAdd] at header
          split at header
          · simp at header
          · omega
        split at accepted
        · simp at accepted
        · simp only [Prod.mk.injEq] at accepted
          obtain ⟨_, rfl, _⟩ := accepted
          exact ⟨carries, fits⟩

/-- The bytes that the trailers of the header flags take. -/
def trailerBytes (id : CspId) : Nat :=
  (if id.has cspFHmac then 4 else 0) + (if id.has cspFCrc32 then 4 else 0)

/-- The trailers fit exactly when the whole packet fits, and then the packet has them. -/
theorem trailedLength_cases (idout : CspId) {length : UInt16} (fits : length.toNat ≤ cfg.bufferSize) :
    (∃ trailed, trailedLength cfg idout length true = some trailed ∧
        trailed.toNat = length.toNat + trailerBytes idout ∧ trailed.toNat ≤ cfg.bufferSize) ∨
      (trailedLength cfg idout length true = none ∧
        cfg.bufferSize < length.toNat + trailerBytes idout) := by
  have bound := cfg.bufferSize_lt
  have one : ∀ (asked : Bool) (length : UInt16), length.toNat ≤ cfg.bufferSize →
      (∃ trailed, trailerLength cfg asked length = some trailed ∧
          trailed.toNat = length.toNat + (if asked then 4 else 0) ∧ trailed.toNat ≤ cfg.bufferSize) ∨
        (trailerLength cfg asked length = none ∧
          cfg.bufferSize < length.toNat + (if asked then 4 else 0)) := by
    intro asked length fits
    cases asked with
    | false => exact .inl ⟨length, rfl, by simp, fits⟩
    | true =>
        simp only [trailerLength, if_true]
        split
        · rename_i large
          exact .inr ⟨rfl, large⟩
        · have sum : (length + 4).toNat = length.toNat + 4 := by
            simp only [UInt16.toNat_add, UInt16.reduceToNat]
            omega
          exact .inl ⟨length + 4, rfl, sum, by omega⟩
  simp only [trailedLength, if_true, trailerBytes]
  rcases one (idout.has cspFHmac) length fits with ⟨signed, first, sum, small⟩ | ⟨first, large⟩
  · rw [first]
    rcases one (idout.has cspFCrc32) signed small with ⟨trailed, second, total, small⟩ | ⟨second, large⟩
    · exact .inl ⟨trailed, second, by omega, small⟩
    · exact .inr ⟨second, by omega⟩
  · rw [first]
    exact .inr ⟨rfl, by omega⟩

/-- The call of `csp_send_direct_iface` calls the next hop of the interface. -/
def ReachesNexthop (io : Io cfg) (idout : CspId) (packet : Packet) (iface : Nat) (via : UInt16) : Prop :=
  ((sendDirectIface io idout (some packet) iface via true).ifaceAt iface).handed =
    (io.ifaceAt iface).handed + 1

theorem callNexthop_handed (io : Io cfg) (iface : Nat) (via : UInt16) (packet : Packet) :
    ((callNexthop io iface via packet).ifaceAt iface).handed = (io.ifaceAt iface).handed + 1 := by
  simp only [callNexthop]
  split <;> simp [Io.countCall, Io.free]

/-- Only the trailers can keep a packet from an interface with a large MTU. -/
theorem reachesNexthop_iff {io : Io cfg} {idout : CspId} {packet : Packet} {iface : Nat} (via : UInt16)
    (fits : packet.length.toNat ≤ cfg.bufferSize)
    (mtu : (io.ifaceAt iface).mtu = 0 ∨ cfg.bufferSize ≤ (io.ifaceAt iface).mtu.toNat) :
    ReachesNexthop io idout packet iface via ↔
      packet.length.toNat + trailerBytes idout ≤ cfg.bufferSize := by
  obtain ⟨pool, promiscQueue, copied⟩ := promiscAdd_fields io { packet with id := idout }
  have same : ∃ pool promiscQueue,
      (if true && iface != ifLo then promiscAdd io { packet with id := idout } else io) =
        { io with pool, promiscQueue } := by
    split
    · exact ⟨pool, promiscQueue, copied⟩
    · exact ⟨io.pool, io.promiscQueue, rfl⟩
  obtain ⟨pool, promiscQueue, same⟩ := same
  simp only [ReachesNexthop, sendDirectIface, same]
  obtain ⟨trailed, _, ⟨result, length⟩ | ⟨result, length⟩⟩ :=
    @sendTrailers_cases cfg idout { packet with id := idout } true
  · rcases trailedLength_cases idout fits with ⟨_, some, _⟩ | ⟨_, large⟩
    · exact absurd (some.symm.trans length) (by simp)
    · rw [result]
      simp only [Io.free]
      omega
  · rcases trailedLength_cases idout fits with ⟨known, some, sum, small⟩ | ⟨none, _⟩
    · obtain rfl : trailed.length = known := Option.some.inj (length.symm.trans some)
      have passes : ¬((decide ((io.ifaceAt iface).mtu > 0) &&
          decide (trailed.length > (io.ifaceAt iface).mtu)) = true) := by
        simp only [Bool.and_eq_true, decide_eq_true_eq, gt_iff_lt, UInt16.lt_iff_toNat_lt, not_and,
          not_lt]
        rcases mtu with zero | large
        · simp [zero]
        · omega
      rw [result]
      simp only
      rw [if_neg passes, callNexthop_handed]
      simp only [true_iff]
      omega
    · exact absurd (length.symm.trans none) (by simp)

/-! ## The receiver -/

/-- The call delivered the payload, and `rcv_cur` advanced by one and by one for each stored segment
that it could then deliver. -/
def Ctx.Delivers (peer after : Ctx cfg) (payload : List UInt8) : Prop :=
  ∃ (delivered : Packet) (more : List (Option Packet)),
    after.conn.rxLog = peer.conn.rxLog ++ some delivered :: more ∧ delivered.payload = payload ∧
      after.conn.rdp.rcvCur = peer.conn.rdp.rcvCur + 1 + UInt16.ofNat more.length

/-- The flush delivers one packet for each number that it passes. -/
def Ctx.Advances (ctx after : Ctx cfg) : Prop :=
  ∃ more, after.conn.rxLog = ctx.conn.rxLog ++ more ∧
    after.conn.rdp.rcvCur = ctx.conn.rdp.rcvCur + UInt16.ofNat more.length

theorem Ctx.Advances.refl (ctx : Ctx cfg) : ctx.Advances ctx := ⟨[], by simp, by simp⟩

theorem Ctx.Advances.trans {first second third : Ctx cfg} (left : first.Advances second)
    (right : second.Advances third) : first.Advances third := by
  obtain ⟨more, log, number⟩ := left
  obtain ⟨more', log', number'⟩ := right
  refine ⟨more ++ more', by rw [log', log, List.append_assoc], ?_⟩
  rw [number', number, List.length_append, UInt16.ofNat_add, add_assoc]

theorem rdpRxFlushScan_advances (count : Nat) (ctx : Ctx cfg) :
    ctx.Advances (rdpRxFlushScan count ctx).2 := by
  induction count generalizing ctx with
  | zero => exact .refl ctx
  | succ count ih =>
      obtain ⟨found, queue, got, _⟩ := rdpQueueRxGet_takes ctx.stack ctx.conn.index
      simp only [rdpRxFlushScan, got]
      split
      · exact .refl ctx
      · rename_i short
        cases found with
        | none => exact .refl ctx
        | some packet =>
            simp only
            split
            · have fits : ctx.conn.rxQueue.items.length < cfg.connRxqueueLen := by
                simp only [BoundedQueue.free] at short
                omega
              rw [rdpReceiveData, connEnqueuePacket, BoundedQueue.enqueue_of_room _ fits]
              exact ⟨[some (rdpHeaderRemove packet)], rfl, rfl⟩
            · exact ih _

theorem rdpRxQueueFlush_advances (ctx : Ctx cfg) : ctx.Advances (rdpRxQueueFlush ctx) := by
  have passes : ∀ (passes : Nat) (ctx : Ctx cfg), ctx.Advances (rdpRxFlushLoop passes ctx) := by
    intro passes
    induction passes with
    | zero => exact .refl
    | succ passes ih =>
        intro ctx
        have pass := rdpRxFlushScan_advances ctx.stack.rxQueue.size ctx
        simp only [rdpRxFlushLoop]
        generalize rdpRxFlushScan ctx.stack.rxQueue.size ctx = result at pass
        obtain ⟨_ | _, after⟩ := result
        · exact pass
        · exact pass.trans (ih after)
  exact passes _ ctx

theorem rdpCheckAck_advances (ctx : Ctx cfg) : ctx.Advances (rdpCheckAck ctx) := by
  obtain ⟨_, _, _, _, same, _⟩ := rdpCheckAck_answers ctx
  rw [same]
  exact .refl _

/-- Data in sequence is delivered whenever there is data and room for it. -/
theorem rdpRecvData_delivers {ctx : Ctx cfg} {header : RdpHeader} {packet : Packet}
    (next : header.seqNr = ctx.conn.rdp.rcvCur + 1)
    (room : ctx.conn.rxQueue.items.length < cfg.connRxqueueLen) :
    (rdpHeaderSize < packet.length.toNat →
        ctx.Delivers (rdpFinish (rdpRecvData ctx header packet)).2 packet.body) ∧
      (packet.length.toNat ≤ rdpHeaderSize →
        (rdpFinish (rdpRecvData ctx header packet)).2.conn.rxLog = ctx.conn.rxLog) := by
  constructor
  · intro long
    simp only [rdpRecvData, if_neg (not_le.mpr long), next, ne_eq, not_true_eq_false, if_false]
    rw [rdpReceiveData, connEnqueuePacket, BoundedQueue.enqueue_of_room _ room]
    simp only [rdpFinish]
    obtain ⟨more, log, number⟩ := (rdpCheckAck_advances
      { ctx with conn := { ctx.conn with
          rxQueue := ⟨ctx.conn.rxQueue.items ++ [some (rdpHeaderRemove packet)], by
            simp only [List.length_append, List.length_singleton]
            omega⟩
          rxLog := ctx.conn.rxLog ++ [some (rdpHeaderRemove packet)]
          rdp := { ctx.conn.rdp with rcvCur := ctx.conn.rdp.rcvCur + 1 } } }).trans
      (rdpRxQueueFlush_advances _)
    refine ⟨rdpHeaderRemove packet, more, ?_, rdpHeaderRemove_payload long, number⟩
    rw [log, List.append_assoc]
    rfl
  · intro short
    simp only [rdpRecvData, if_pos short]
    rfl

/-- An open connection takes an acknowledged segment in sequence exactly when it accepts the
acknowledgement and the segment has data. -/
theorem rdpNewPacket_delivers_iff {peer : Ctx cfg} {packet : Packet}
    (opened : peer.conn.rdp.state = .open) (flags : packet.rdpFlags = rdpAck)
    (next : packet.seqNr = peer.conn.rdp.rcvCur + 1)
    (room : peer.conn.rxQueue.items.length < cfg.connRxqueueLen) :
    peer.Delivers (rdpNewPacket peer packet).2 packet.body ↔
      rdpHeaderSize < packet.length.toNat ∧ rdpAckValid peer.conn.rdp packet.ackNr = true := by
  have inWindow : rdpSeqValid peer.conn.rdp packet.header.seqNr = true := by
    simp [rdpSeqValid, rdpSeqBetween, Packet.header, next]
  have silent : ∀ {after : Ctx cfg}, after.conn.rxLog = peer.conn.rxLog →
      ¬peer.Delivers after packet.body := by
    rintro after same ⟨delivered, more, log, _⟩
    rw [same] at log
    exact absurd (congrArg List.length log) (by simp)
  have header : packet.header.has rdpRst = false ∧ packet.header.has rdpSyn = false ∧
      packet.header.has rdpAck = true ∧ packet.header.has rdpEak = false := by
    simp only [RdpHeader.has, Packet.header, flags]
    decide
  have notRcvd : peer.conn.rdp.state ≠ .synRcvd := by
    rw [opened]
    decide
  have branch : rdpNewPacketBody peer packet =
      rdpRecvOpen peer packet.header (rdpHeaderToHost packet) := by
    simp only [rdpNewPacketBody, header, opened, Bool.false_eq_true, if_false]
  change _ ↔ _ ∧ rdpAckValid peer.conn.rdp packet.header.ackNr = true
  by_cases valid : rdpAckValid peer.conn.rdp packet.header.ackNr = true
  · have body : rdpNewPacketBody peer packet =
        rdpRecvAcked peer packet.header (rdpHeaderToHost packet) := by
      rw [branch, rdpRecvOpen]
      simp only [header, inWindow, valid, notRcvd, Bool.not_true, Bool.or_self, Bool.false_eq_true,
        if_false]
    have data := @rdpRecvData_delivers cfg
      { peer with conn := { peer.conn with rdp.sndUna := packet.header.ackNr + 1 } } packet.header
      (rdpHeaderToHost packet) next room
    rw [rdpNewPacket, body, rdpRecvAcked]
    simp only [valid, and_true, header, Bool.false_eq_true, if_false]
    constructor
    · intro delivers
      by_contra short
      exact silent (data.2 (not_lt.mp short)) delivers
    · intro long
      rw [← rdpHeaderToHost_body packet]
      exact data.1 long
  · have body : rdpNewPacketBody peer packet = ⟨.discardOpen false, rdpHeaderToHost packet, peer⟩ := by
      rw [branch, rdpRecvOpen]
      simp only [header, inWindow, valid, Bool.not_true, Bool.not_false, Bool.or_self,
        Bool.false_eq_true, if_false, if_true]
    rw [rdpNewPacket, body]
    exact ⟨fun delivers => absurd delivers (silent rfl), fun accepted => absurd accepted.2 valid⟩

/-! ## Both sides -/

theorem Packet.SameBytes.ackNr {first second : Packet} (same : first.SameBytes second)
    (long : rdpHeaderSize ≤ first.length.toNat) : first.ackNr = second.ackNr := by
  obtain ⟨length, data⟩ := same
  have header : rdpHeaderRef second = rdpHeaderRef first := by
    simp only [rdpHeaderRef, length]
  have bytes : ∀ offset, 3 ≤ offset → offset < rdpHeaderSize →
      first.mem (rdpHeaderRef first + offset) = second.mem (rdpHeaderRef first + offset) := by
    intro offset _ inside
    have address : rdpHeaderRef first + offset =
        dataAt + (first.length.toNat - rdpHeaderSize + offset) := by
      simp only [rdpHeaderRef]
      omega
    rw [address]
    exact data _ (by omega)
  rw [Packet.ackNr, Packet.ackNr, header]
  exact be16_congr (bytes 3 (by decide) (by decide)) (bytes 4 (by decide) (by decide))

/-- An accepted segment reaches the next hop and then the reader of the peer exactly when it has data,
its trailers still fit behind the header, and the peer accepts its acknowledgement. -/
theorem acceptedSegment_getsThrough_iff {ctx after : Ctx cfg} {packet framed : Packet}
    (accepted : rdpSend ctx packet = (.none, framed, after)) {idout : CspId}
    (flags : idout.flags = ctx.conn.idout.flags) {io : Io cfg} {iface : Nat} (via : UInt16)
    (mtu : (io.ifaceAt iface).mtu = 0 ∨ cfg.bufferSize ≤ (io.ifaceAt iface).mtu.toNat)
    {peer : Ctx peerCfg} (opened : peer.conn.rdp.state = .open)
    (room : peer.conn.rxQueue.items.length < peerCfg.connRxqueueLen) {arrived : Packet}
    (same : arrived.SameBytes framed) (next : arrived.seqNr = peer.conn.rdp.rcvCur + 1) :
    ReachesNexthop io idout framed iface via ∧
        peer.Delivers (rdpNewPacket peer arrived).2 packet.payload ↔
      0 < packet.length.toNat ∧
        packet.length.toNat + rdpHeaderSize + trailerBytes ctx.conn.idout ≤ cfg.bufferSize ∧
        rdpAckValid peer.conn.rdp ctx.conn.rdp.rcvCur = true := by
  obtain ⟨carries, fits⟩ := rdpSend_framed accepted
  have length : framed.length.toNat = packet.length.toNat + rdpHeaderSize := by
    rw [carries.length, Packet.payload_length]
  have arrivedLength : arrived.length.toNat = packet.length.toNat + rdpHeaderSize := by
    rw [same.1, length]
  have segment := same.sameSegment (by omega)
  have ack : arrived.ackNr = ctx.conn.rdp.rcvCur := (same.ackNr (by omega)).trans carries.ackNr
  have reaches := @reachesNexthop_iff cfg io idout framed iface via (length ▸ fits) mtu
  have delivers := rdpNewPacket_delivers_iff opened (segment.flags.trans carries.flags) next room
  have trailers : trailerBytes idout = trailerBytes ctx.conn.idout := by
    have sameHas : ∀ flag, idout.has flag = ctx.conn.idout.has flag :=
      fun flag => by rw [CspId.has, CspId.has, flags]
    simp only [trailerBytes, sameHas]
  rw [segment.body, carries.body, arrivedLength, ack] at delivers
  rw [length, trailers] at reaches
  rw [reaches, delivers]
  constructor
  · rintro ⟨small, data, valid⟩
    exact ⟨by omega, small, valid⟩
  · rintro ⟨data, small, valid⟩
    exact ⟨small, by omega, valid⟩

/-- One end of an open connection whose header flags ask for a checksum. -/
def openEnd : Ctx {} :=
  { conn := { (default : Conn {}) with
      state := .open
      idin := { (default : CspId) with flags := cspFRdp ||| cspFCrc32 }
      idout := { (default : CspId) with flags := cspFRdp ||| cspFCrc32 }
      rdp := { (default : Rdp) with state := .open, sndNxt := 1, sndUna := 1, windowSize := 4 } }
    stack := (freshServer : Ctx {}).stack }

def sentSegment (payload : List UInt8) : Packet := (rdpSend openEnd (userPacket payload)).2.1

theorem sentSegment_accepted {payload : List UInt8}
    (accepted : (rdpSend openEnd (userPacket payload)).1 = .none) :
    rdpSend openEnd (userPacket payload) =
      (.none, sentSegment payload, (rdpSend openEnd (userPacket payload)).2.2) :=
  Prod.ext accepted rfl

theorem threeBytes_getThrough :
    ReachesNexthop openEnd.stack.io openEnd.conn.idout (sentSegment [1, 2, 3]) ifLo noViaAddress ∧
      openEnd.Delivers (rdpNewPacket openEnd (sentSegment [1, 2, 3])).2
        (userPacket [1, 2, 3]).payload :=
  (acceptedSegment_getsThrough_iff (sentSegment_accepted (by decide +kernel)) rfl noViaAddress
    (.inl rfl) rfl (by decide) ⟨rfl, fun _ _ => rfl⟩ (by decide +kernel)).mpr (by decide +kernel)

/-- An accepted segment without data is never delivered, and one without room for its checksum never
reaches the interface. -/
theorem accepted_stays_behind :
    (rdpSend openEnd (userPacket [])).1 = .none ∧
      (sentSegment []).seqNr = openEnd.conn.rdp.rcvCur + 1 ∧
      ReachesNexthop openEnd.stack.io openEnd.conn.idout (sentSegment []) ifLo noViaAddress ∧
      ¬openEnd.Delivers (rdpNewPacket openEnd (sentSegment [])).2 [] ∧
      (rdpSend openEnd (userPacket (List.replicate 251 0))).1 = .none ∧
      ¬ReachesNexthop openEnd.stack.io openEnd.conn.idout (sentSegment (List.replicate 251 0)) ifLo
        noViaAddress := by
  refine ⟨by decide +kernel, by decide +kernel, ?_, ?_, by decide +kernel, ?_⟩
  · rw [ReachesNexthop]
    decide +kernel
  · rintro ⟨_, _, log, _⟩
    have silent : (rdpNewPacket openEnd (sentSegment [])).2.conn.rxLog.length = 0 := by
      decide +kernel
    rw [log] at silent
    simp at silent
  · rw [ReachesNexthop]
    decide +kernel

end Libcsp

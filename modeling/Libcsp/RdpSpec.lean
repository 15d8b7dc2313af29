/-
This file states once what the helper functions of csp_rdp.c can change.
-/
import Libcsp.RdpUser

namespace Libcsp

variable {cfg : Config}

/-! ## Headers -/

/-- The packet carries this header behind this payload. -/
structure Packet.Carries (packet : Packet) (flags : UInt8) (seqNr ackNr : UInt16)
    (payload : List UInt8) : Prop where
  length : packet.length.toNat = payload.length + rdpHeaderSize
  flags : packet.rdpFlags = flags
  seqNr : packet.seqNr = seqNr
  ackNr : packet.ackNr = ackNr
  body : packet.body = payload

theorem writeBytes_before {mem : Memory} {address index : Nat} (bytes : List UInt8)
    (before : index < address) : writeBytes mem address bytes index = mem index := by
  simp only [writeBytes]
  rw [if_neg (by omega)]

/-- A new header behind the payload holds exactly what is stored into it. -/
theorem setRdpHeader_carries {packet framed : Packet} (added : rdpHeaderAdd cfg packet = some framed)
    (flags : UInt8) (seqNr ackNr : UInt16) :
    (setRdpHeader framed flags seqNr ackNr).Carries flags seqNr ackNr packet.payload := by
  unfold rdpHeaderAdd at added
  split at added
  · cases added
  rename_i fits
  cases added
  have bound := cfg.bufferSize_lt
  have length : (packet.length + 5).toNat = packet.length.toNat + rdpHeaderSize := by
    simp only [rdpHeaderSize] at fits ⊢
    simp only [UInt16.toNat_add, UInt16.reduceToNat]
    omega
  -- The header starts where the payload ends.
  have header : dataAt + (packet.length + 5).toNat - rdpHeaderSize = dataAt + packet.length.toNat := by
    omega
  refine ⟨?_, ?_, ?_, ?_, ?_⟩
  · rw [Packet.payload_length]
    exact length
  · simp only [Packet.rdpFlags, setRdpHeader, rdpHeaderRef, header, setByte_same]
    simp [writeBytes, rdpHeaderSize]
  · simp only [Packet.seqNr, setRdpHeader, rdpHeaderRef, header]
    rw [be16_congr (setByte_other (by omega)) (setByte_other (by omega)),
      be16_putBe16_other (.inl (by omega)), be16_putBe16]
  · simp only [Packet.ackNr, setRdpHeader, rdpHeaderRef, header]
    rw [be16_congr (setByte_other (by omega)) (setByte_other (by omega)), be16_putBe16]
  · simp only [Packet.body, Packet.payload, setRdpHeader, length, Nat.add_sub_cancel]
    unfold Packet.dataBytes
    apply List.map_congr_left
    intro index inside
    have inside := List.mem_range.mp inside
    simp only [Packet.data, rdpHeaderRef, header]
    rw [setByte_other (by omega), putBe16_other (.inl (by omega)), putBe16_other (.inl (by omega)),
      writeBytes_before _ (by omega)]

theorem counter_masked (flag : BitVec 8) (low : flag = 1#8 ∨ flag = 2#8 ∨ flag = 4#8 ∨ flag = 8#8) :
    ∀ counter : BitVec 8, counter <<< 4 &&& flag = 0#8 := by
  rcases low with rfl | rfl | rfl | rfl <;> decide

/-- The counter in the upper half of the flags leaves the RDP flags alone. -/
theorem rdpFlags_counter (rdpIncr flags : UInt8) {flag : UInt8}
    (low : flag = rdpRst ∨ flag = rdpEak ∨ flag = rdpAck ∨ flag = rdpSyn) :
    (rdpIncr <<< 4 ||| flags) &&& flag = flags &&& flag := by
  have masked : (rdpIncr <<< 4).toBitVec &&& flag.toBitVec = 0#8 :=
    counter_masked flag.toBitVec (by rcases low with rfl | rfl | rfl | rfl <;> decide) rdpIncr.toBitVec
  apply UInt8.toBitVec_inj.mp
  rw [UInt8.toBitVec_and, UInt8.toBitVec_or, BitVec.and_or_distrib_right, masked, BitVec.zero_or,
    UInt8.toBitVec_and]

/-! ## The output path records what it gets -/

theorem promiscAdd_outbox (io : Io cfg) (packet : Packet) :
    (promiscAdd io packet).outbox = io.outbox := by
  unfold promiscAdd
  repeat' split
  all_goals rfl

theorem callNexthop_outbox (io : Io cfg) (iface : Nat) (via : UInt16) (packet : Packet) :
    (callNexthop io iface via packet).outbox = io.outbox := by
  simp only [callNexthop]
  split <;> rfl

theorem sendDirectIface_outbox (io : Io cfg) (idout : CspId) (packet : Option Packet) (iface : Nat)
    (via : UInt16) (fromMe : Bool) :
    (sendDirectIface io idout packet iface via fromMe).outbox = io.outbox := by
  cases packet with
  | none => rfl
  | some packet =>
      simp only [sendDirectIface]
      repeat' split
      all_goals simp [Io.free, callNexthop_outbox, promiscAdd_outbox]

theorem sendDirectLoop_outbox (idout : CspId) (packet : Option Packet) (routedFrom : Option Nat)
    (ifaces : List Nat) (found : Bool) (io : Io cfg) :
    (sendDirectLoop idout packet routedFrom ifaces (found, io)).2.outbox = io.outbox := by
  induction ifaces generalizing found io with
  | nil => rfl
  | cons iface rest ih =>
      simp only [sendDirectLoop]
      split
      · rw [ih, sendDirectIface_outbox]
      · exact ih found io

theorem sendDirect_outbox (io : Io cfg) (idout : CspId) (packet : Option Packet)
    (routedFrom : Option Nat) :
    (sendDirect io idout packet routedFrom).outbox =
      io.outbox ++ (packet.map fun packet => (idout, packet)).toList := by
  have loop := sendDirectLoop_outbox idout packet routedFrom io.interfaces false
    { io with outbox := io.outbox ++ (packet.map fun packet => (idout, packet)).toList }
  simp only [sendDirect, sendDirectBody]
  split
  · rename_i after whole
    rw [whole] at loop
    exact loop
  · rename_i after whole
    rw [whole] at loop
    split
    · rw [sendDirectIface_outbox]
      exact loop
    · exact loop

/-! ## Control messages -/

/-- The last part of a control message sends it, and notes at most the acknowledgement. -/
theorem rdpSendCmpFinish_sends (ctx : Ctx cfg) (packet : Packet) (flags : UInt8) (ackNr : UInt16) :
    ∃ io rcvLsa ackTimestamp, rdpSendCmpFinish ctx packet flags ackNr =
        { conn := { ctx.conn with rdp := { ctx.conn.rdp with rcvLsa, ackTimestamp } }
          stack := { ctx.stack with io } } ∧
      io.outbox = ctx.stack.io.outbox ++ [(cmpId ctx.conn, packet)] := by
  have outbox := sendDirect_outbox ctx.stack.io (cmpId ctx.conn) (some packet) none
  simp only [rdpSendCmpFinish]
  split
  · exact ⟨_, _, _, rfl, outbox⟩
  · exact ⟨_, _, _, rfl, outbox⟩

/-- The retransmission queue takes a copy of a SYN, or it stays as it is. -/
def TakesSyn (flags : UInt8) (seqNr ackNr : UInt16) (payload : List UInt8) (conn : Nat)
    (before after : List Packet) : Prop :=
  after = before ∨
    (flags &&& rdpSyn ≠ 0 ∧ ∃ copy : Packet, copy.conn = conn ∧
      (∃ counter : UInt8, copy.Carries (counter <<< 4 ||| flags) seqNr ackNr payload) ∧
      after = before ++ [copy])

theorem rdpSendCmpPacket_sends (ctx : Ctx cfg) (packet : Packet) (flags : UInt8)
    (seqNr ackNr : UInt16) :
    ∃ io rdpIncr txQueue rcvLsa ackTimestamp sent,
      (rdpSendCmpPacket ctx packet flags seqNr ackNr).2 =
        { conn := { ctx.conn with rdp := { ctx.conn.rdp with rcvLsa, ackTimestamp } }
          stack := { ctx.stack with io, rdpIncr, txQueue } } ∧
      io.outbox = ctx.stack.io.outbox ++ sent ∧
      (∀ entry ∈ sent, entry.1 = cmpId ctx.conn ∧ ∃ counter : UInt8,
        entry.2.Carries (counter <<< 4 ||| flags) seqNr ackNr packet.payload) ∧
      TakesSyn flags seqNr ackNr packet.payload ctx.conn.index ctx.stack.txQueue.items
        txQueue.items := by
  simp only [rdpSendCmpPacket]
  split
  · exact ⟨_, _, _, _, _, [], rfl, (List.append_nil _).symm, by simp, .inl rfl⟩
  · rename_i framed added
    have carries := setRdpHeader_carries added (ctx.stack.rdpIncr <<< 4 ||| flags) seqNr ackNr
    have sends : ∀ entry ∈ [(cmpId ctx.conn, cmpPacket ctx.stack framed flags seqNr ackNr)],
        entry.1 = cmpId ctx.conn ∧ ∃ counter : UInt8,
          entry.2.Carries (counter <<< 4 ||| flags) seqNr ackNr packet.payload := by
      intro entry member
      rw [List.mem_singleton.mp member]
      exact ⟨rfl, _, carries⟩
    split
    · rename_i syn
      split
      · exact ⟨_, _, _, _, _, [], rfl, (List.append_nil _).symm, by simp, .inl rfl⟩
      · rename_i copy pool cloned
        have copied : ∃ buf, copy = { cmpPacket ctx.stack framed flags seqNr ackNr with buf } := by
          rw [bufferClone_some, Prod.mk.injEq] at cloned
          obtain ⟨clone, _, rfl⟩ := Option.map_eq_some_iff.mp cloned.1
          exact ⟨clone.buf, rfl⟩
        obtain ⟨buf, rfl⟩ := copied
        obtain ⟨io, rcvLsa, ackTimestamp, finished, outbox⟩ := rdpSendCmpFinish_sends
          ⟨ctx.conn, rdpQueueTxAdd
            { ctx.stack with rdpIncr := ctx.stack.rdpIncr + 1, io := { ctx.stack.io with pool } }
            ctx.conn.index
            { cmpPacket ctx.stack framed flags seqNr ackNr with
              buf, timestampTx := ctx.stack.now }⟩
          (cmpPacket ctx.stack framed flags seqNr ackNr) flags ackNr
        refine ⟨io, _, _, rcvLsa, ackTimestamp, _, finished, outbox, sends, ?_⟩
        by_cases room : ctx.stack.txQueue.items.length < cfg.rdpMaxWindow * 2
        · obtain ⟨items, _⟩ := rdpQueueAdd_room (ctx.stack.txQueue, pool) ctx.conn.index
            { cmpPacket ctx.stack framed flags seqNr ackNr with
              buf, timestampTx := ctx.stack.now } room
          have kept : (Packet.tagged ctx.conn.index
              { cmpPacket ctx.stack framed flags seqNr ackNr with
                buf, timestampTx := ctx.stack.now }).Carries (ctx.stack.rdpIncr <<< 4 ||| flags)
              seqNr ackNr packet.payload :=
            ⟨carries.length, carries.flags, carries.seqNr, carries.ackNr, carries.body⟩
          exact .inr ⟨by simpa using syn, _, Packet.tagged_conn _ _, ⟨_, kept⟩, items⟩
        · have full : ctx.stack.txQueue.items.length = cfg.rdpMaxWindow * 2 :=
            le_antisymm ctx.stack.txQueue.bounded (not_lt.mp room)
          exact .inl (congrArg (fun shared => shared.1.items) (rdpQueueAdd_full
            (ctx.stack.txQueue, pool) ctx.conn.index
            { cmpPacket ctx.stack framed flags seqNr ackNr with
              buf, timestampTx := ctx.stack.now } full))
    · obtain ⟨io, rcvLsa, ackTimestamp, finished, outbox⟩ := rdpSendCmpFinish_sends
        { ctx with stack := { ctx.stack with rdpIncr := ctx.stack.rdpIncr + 1 } }
        (cmpPacket ctx.stack framed flags seqNr ackNr) flags ackNr
      exact ⟨io, _, _, rcvLsa, ackTimestamp, _, finished, outbox, sends, .inl rfl⟩

/-- With any flags, a control message goes out with this header, and touches no queue but the
retransmission queue, which may take a copy of a SYN. -/
theorem rdpSendCmp_sends (ctx : Ctx cfg) (packet : Option Packet) (flags : UInt8)
    (seqNr ackNr : UInt16) :
    ∃ io rdpIncr txQueue rcvLsa ackTimestamp sent,
      (rdpSendCmp ctx packet flags seqNr ackNr).2 =
        { conn := { ctx.conn with rdp := { ctx.conn.rdp with rcvLsa, ackTimestamp } }
          stack := { ctx.stack with io, rdpIncr, txQueue } } ∧
      io.outbox = ctx.stack.io.outbox ++ sent ∧
      (∀ entry ∈ sent, entry.1 = cmpId ctx.conn ∧ ∃ counter : UInt8,
        entry.2.Carries (counter <<< 4 ||| flags) seqNr ackNr
          ((packet.map Packet.payload).getD [])) ∧
      TakesSyn flags seqNr ackNr ((packet.map Packet.payload).getD []) ctx.conn.index
        ctx.stack.txQueue.items txQueue.items := by
  simp only [rdpSendCmp]
  split
  · exact rdpSendCmpPacket_sends _ _ _ _ _
  · split
    · exact ⟨_, _, _, _, _, [], rfl, (List.append_nil _).symm, by simp, .inl rfl⟩
    · rename_i packet pool _
      obtain ⟨io, rdpIncr, txQueue, rcvLsa, ackTimestamp, sent, same, outbox, sends, takes⟩ :=
        rdpSendCmpPacket_sends
          { ctx with stack := { ctx.stack with io := { ctx.stack.io with pool } } }
          { packet with length := 0 } flags seqNr ackNr
      exact ⟨io, rdpIncr, txQueue, rcvLsa, ackTimestamp, sent, same, outbox, sends, takes⟩

theorem rdpSendCmp_changes (ctx : Ctx cfg) (packet : Option Packet) (flags : UInt8)
    (seqNr ackNr : UInt16) :
    ∃ io rdpIncr txQueue rcvLsa ackTimestamp, (rdpSendCmp ctx packet flags seqNr ackNr).2 =
      { conn := { ctx.conn with rdp := { ctx.conn.rdp with rcvLsa, ackTimestamp } }
        stack := { ctx.stack with io, rdpIncr, txQueue } } := by
  obtain ⟨_, _, _, _, _, _, sent, _⟩ := rdpSendCmp_sends ctx packet flags seqNr ackNr
  exact ⟨_, _, _, _, _, sent⟩

/-- The packet has no data for the user: it is a SYN, a RESET, or an EACK, or it is empty. -/
def Packet.IsControl (packet : Packet) : Prop :=
  packet.hasRdp rdpSyn = true ∨ packet.hasRdp rdpRst = true ∨ packet.hasRdp rdpEak = true ∨
    packet.length.toNat ≤ rdpHeaderSize

theorem Packet.Carries.hasRdp {packet : Packet} {counter flags flag : UInt8} {seqNr ackNr : UInt16}
    {payload : List UInt8} (carries : packet.Carries (counter <<< 4 ||| flags) seqNr ackNr payload)
    (low : flag = rdpRst ∨ flag = rdpEak ∨ flag = rdpAck ∨ flag = rdpSyn) :
    packet.hasRdp flag = (flags &&& flag != 0) := by
  rw [Packet.hasRdp, carries.flags, rdpFlags_counter counter flags low]

/-- The output path gets only control messages. -/
def Io.SendsControl (io after : Io cfg) : Prop :=
  ∃ sent, after.outbox = io.outbox ++ sent ∧ ∀ entry ∈ sent, entry.2.IsControl

theorem Io.SendsControl.of_outbox {io after : Io cfg} (same : after.outbox = io.outbox) :
    io.SendsControl after := ⟨[], by rw [same, List.append_nil], by simp⟩

theorem Io.SendsControl.refl (io : Io cfg) : io.SendsControl io := .of_outbox rfl

theorem Io.SendsControl.trans {first second third : Io cfg} (left : first.SendsControl second)
    (right : second.SendsControl third) : first.SendsControl third := by
  obtain ⟨sent, outbox, control⟩ := left
  obtain ⟨sent', outbox', control'⟩ := right
  refine ⟨sent ++ sent', by rw [outbox', outbox, List.append_assoc], fun entry member => ?_⟩
  rcases List.mem_append.mp member with member | member
  · exact control entry member
  · exact control' entry member

/-- A message of `csp_rdp_send_cmp` is a control message, unless a caller gives it data. -/
theorem rdpSendCmp_control {packet : Option Packet} {flags : UInt8}
    (control : packet = none ∨ flags &&& rdpEak ≠ 0 ∨ flags &&& rdpSyn ≠ 0) {sent : Packet}
    {counter : UInt8} {seqNr ackNr : UInt16}
    (carries : sent.Carries (counter <<< 4 ||| flags) seqNr ackNr
      ((packet.map Packet.payload).getD [])) : sent.IsControl := by
  rcases control with rfl | eak | syn
  · exact .inr (.inr (.inr carries.length.le))
  · exact .inr (.inr (.inl (by rw [carries.hasRdp (by simp)]; simpa using eak)))
  · exact .inl (by rw [carries.hasRdp (by simp)]; simpa using syn)

/-- An answer changes no queue of packets, and of the connection only the two fields that note an
acknowledgement. -/
def Ctx.Answers (ctx after : Ctx cfg) : Prop :=
  ∃ io rdpIncr rcvLsa ackTimestamp,
    after =
        { conn := { ctx.conn with rdp.rcvLsa := rcvLsa, rdp.ackTimestamp := ackTimestamp }
          stack := { ctx.stack with io, rdpIncr } } ∧
      ctx.stack.io.SendsControl io

theorem Ctx.Answers.refl (ctx : Ctx cfg) : ctx.Answers ctx := ⟨_, _, _, _, rfl, .refl _⟩

theorem rdpSendCmp_answers (ctx : Ctx cfg) (packet : Option Packet) {flags : UInt8}
    (seqNr ackNr : UInt16) (plain : flags &&& rdpSyn = 0)
    (control : packet = none ∨ flags &&& rdpEak ≠ 0) :
    ctx.Answers (rdpSendCmp ctx packet flags seqNr ackNr).2 := by
  obtain ⟨io, rdpIncr, txQueue, rcvLsa, ackTimestamp, sent, same, outbox, sends, takes⟩ :=
    rdpSendCmp_sends ctx packet flags seqNr ackNr
  have kept : txQueue = ctx.stack.txQueue := by
    rcases takes with items | ⟨syn, _⟩
    · exact BoundedQueue.ext items
    · exact absurd plain syn
  subst kept
  refine ⟨io, rdpIncr, rcvLsa, ackTimestamp, same, ⟨sent, outbox, fun entry member => ?_⟩⟩
  obtain ⟨_, _, carries⟩ := sends entry member
  exact rdpSendCmp_control (control.imp_right .inl) carries

theorem rdpCheckAck_answers (ctx : Ctx cfg) : ctx.Answers (rdpCheckAck ctx) := by
  unfold rdpCheckAck
  split
  · exact Ctx.Answers.refl ctx
  · split
    · exact rdpSendCmp_answers ctx none _ _ (by decide) (.inl rfl)
    · exact Ctx.Answers.refl ctx

/-! ## Helpers of the state machine -/

/-- A helper of the receiving side changes only this side of the connection and the reassembly
queue. It leaves the states, the send numbers, the sockets, and the retransmission queue alone. -/
def Ctx.Receives (ctx after : Ctx cfg) : Prop :=
  ∃ io rdpIncr rxQueue connQueue rxLog rcvCur rcvLsa ackTimestamp,
    after =
        { conn := { ctx.conn with
            rxQueue := connQueue
            rxLog
            rdp := { ctx.conn.rdp with rcvCur, rcvLsa, ackTimestamp } }
          stack := { ctx.stack with io, rdpIncr, rxQueue } } ∧
      ctx.stack.io.SendsControl io

theorem Ctx.Receives.refl (ctx : Ctx cfg) : ctx.Receives ctx := ⟨_, _, _, _, _, _, _, _, rfl, .refl _⟩

theorem Ctx.Receives.trans {first second third : Ctx cfg} (left : first.Receives second)
    (right : second.Receives third) : first.Receives third := by
  obtain ⟨_, _, _, _, _, _, _, _, rfl, control⟩ := left
  obtain ⟨_, _, _, _, _, _, _, _, rfl, control'⟩ := right
  exact ⟨_, _, _, _, _, _, _, _, rfl, control.trans control'⟩

theorem Ctx.Answers.receives {ctx after : Ctx cfg} (answers : ctx.Answers after) :
    ctx.Receives after := by
  obtain ⟨_, _, _, _, rfl, control⟩ := answers
  exact ⟨_, _, _, _, _, _, _, _, rfl, control⟩

/-- A helper may also change the retransmission queue. -/
def Ctx.Helps (ctx after : Ctx cfg) : Prop :=
  ∃ io rdpIncr txQueue rxQueue connQueue rxLog rcvCur rcvLsa ackTimestamp,
    after =
      { conn := { ctx.conn with
          rxQueue := connQueue
          rxLog
          rdp := { ctx.conn.rdp with rcvCur, rcvLsa, ackTimestamp } }
        stack := { ctx.stack with io, rdpIncr, txQueue, rxQueue } }

theorem Ctx.Helps.trans {first second third : Ctx cfg} (left : first.Helps second)
    (right : second.Helps third) : first.Helps third := by
  obtain ⟨_, _, _, _, _, _, _, _, _, rfl⟩ := left
  obtain ⟨_, _, _, _, _, _, _, _, _, rfl⟩ := right
  exact ⟨_, _, _, _, _, _, _, _, _, rfl⟩

theorem Ctx.Receives.helps {ctx after : Ctx cfg} (receives : ctx.Receives after) :
    ctx.Helps after := by
  obtain ⟨_, _, _, _, _, _, _, _, rfl, _⟩ := receives
  exact ⟨_, _, _, _, _, _, _, _, _, rfl⟩

theorem Ctx.Helps.rdpState {ctx after : Ctx cfg} (helps : ctx.Helps after) :
    after.conn.rdp.state = ctx.conn.rdp.state := by
  obtain ⟨_, _, _, _, _, _, _, _, _, rfl⟩ := helps
  rfl

theorem Ctx.Answers.helps {ctx after : Ctx cfg} (answers : ctx.Answers after) : ctx.Helps after :=
  answers.receives.helps

theorem rdpSendCmp_helps (ctx : Ctx cfg) (packet : Option Packet) (flags : UInt8)
    (seqNr ackNr : UInt16) : ctx.Helps (rdpSendCmp ctx packet flags seqNr ackNr).2 := by
  obtain ⟨_, _, _, _, _, sent⟩ := rdpSendCmp_changes ctx packet flags seqNr ackNr
  rw [sent]
  exact ⟨_, _, _, _, _, _, _, _, _, rfl⟩

/-- The EACK loop changes the reassembly queue only: each packet that it takes out makes room for its return. -/
theorem rdpEackLoop_changes (conn : Nat) (count : Nat) (eack : Packet) (space : Nat)
    (stack : Stack cfg) : ∃ rxQueue, (rdpEackLoop conn count eack space stack).2 = { stack with rxQueue } := by
  induction count generalizing eack space stack with
  | zero => exact ⟨_, rfl⟩
  | succ count ih =>
      obtain ⟨found, queue, got, takes⟩ := rdpQueueRxGet_takes stack conn
      simp only [rdpEackLoop, got]
      cases found with
      | none => exact ⟨_, rfl⟩
      | some packet =>
          obtain ⟨rotated, added, _⟩ := rdpQueueRxAdd_room { stack with rxQueue := queue } conn packet
            (room_of_takes takes)
          simp only [added]
          split
          · obtain ⟨last, rest⟩ := ih _ _ { stack with rxQueue := rotated }
            exact ⟨last, rest⟩
          · obtain ⟨last, rest⟩ := ih _ _ { stack with rxQueue := rotated }
            exact ⟨last, rest⟩

theorem rdpSendEack_receives (ctx : Ctx cfg) : ctx.Receives (rdpSendEack ctx).2 := by
  simp only [rdpSendEack]
  split
  · exact ⟨_, _, _, _, _, _, _, _, rfl, .of_outbox rfl⟩
  · rename_i packet pool _
    obtain ⟨_, scanned⟩ := rdpEackLoop_changes ctx.conn.index ctx.stack.rxQueue.size
      { packet with length := 0 } (100 - rdpHeaderSize)
      { ctx.stack with io := { ctx.stack.io with pool } }
    rw [scanned]
    refine Ctx.Receives.trans ?_ (rdpSendCmp_answers _ _ _ _ (by decide) (.inr (by decide))).receives
    exact ⟨_, _, _, _, _, _, _, _, rfl, .of_outbox rfl⟩

theorem rdpSeqInRxLoop_changes (conn : Nat) (seqNr : UInt16) (count : Nat) (stack : Stack cfg) :
    ∃ pool rxQueue, (rdpSeqInRxLoop conn seqNr count stack).2 = { stack with io := { stack.io with pool }, rxQueue } := by
  induction count generalizing stack with
  | zero => exact ⟨_, _, rfl⟩
  | succ count ih =>
      obtain ⟨found, queue, got, _⟩ := rdpQueueRxGet_takes stack conn
      simp only [rdpSeqInRxLoop, got]
      cases found with
      | none => exact ⟨_, _, rfl⟩
      | some packet =>
          simp only
          split
          · exact ⟨_, _, rfl⟩
          · obtain ⟨_, _, rest⟩ := ih (rdpQueueRxAdd { stack with rxQueue := queue } conn packet)
            exact ⟨_, _, rest⟩

theorem rdpRxQueueAdd_changes (stack : Stack cfg) (conn : Nat) (packet : Packet) (seqNr : UInt16) :
    ∃ pool rxQueue, (rdpRxQueueAdd stack conn packet seqNr).2 = { stack with io := { stack.io with pool }, rxQueue } := by
  obtain ⟨_, _, searched⟩ := rdpSeqInRxLoop_changes conn seqNr stack.rxQueue.size stack
  simp only [rdpRxQueueAdd, rdpSeqInRxQueue]
  generalize rdpSeqInRxLoop conn seqNr stack.rxQueue.size stack = result at searched
  obtain ⟨_ | _, after⟩ := result
  · rw [show after = _ from searched]
    exact ⟨_, _, rfl⟩
  · exact ⟨_, _, searched⟩

theorem rdpFlushEackLoop_changes (conn : Nat) (packetTimeout : UInt32) (eack : Packet) (count : Nat)
    (stack : Stack cfg) :
    ∃ pool txQueue, rdpFlushEackLoop conn packetTimeout eack count stack =
      { stack with io := { stack.io with pool }, txQueue } := by
  induction count generalizing stack with
  | zero => exact ⟨_, _, rfl⟩
  | succ count ih =>
      obtain ⟨found, queue, got, _⟩ := rdpQueueTxGet_takes stack conn
      simp only [rdpFlushEackLoop, got]
      cases found with
      | none => exact ⟨_, _, rfl⟩
      | some packet =>
          simp only
          split
          · obtain ⟨_, _, rest⟩ := ih (Stack.free { stack with txQueue := queue }
              (eackMarkAll stack.now packetTimeout eack packet))
            exact ⟨_, _, rest⟩
          · obtain ⟨_, _, rest⟩ := ih (rdpQueueTxAdd { stack with txQueue := queue } conn
              (eackMarkAll stack.now packetTimeout eack packet))
            exact ⟨_, _, rest⟩

theorem rdpFlushEack_helps (ctx : Ctx cfg) (eack : Packet) : ctx.Helps (rdpFlushEack ctx eack) := by
  obtain ⟨_, _, flushed⟩ := rdpFlushEackLoop_changes ctx.conn.index ctx.conn.rdp.packetTimeout eack
    ctx.stack.txQueue.size ctx.stack
  rw [rdpFlushEack, flushed]
  exact ⟨_, _, _, _, _, _, _, _, _, rfl⟩

theorem rdpSendSyn_helps (ctx : Ctx cfg) : ctx.Helps (rdpSendSyn ctx).2 := by
  simp only [rdpSendSyn]
  split
  · exact ⟨_, _, _, _, _, _, _, _, _, rfl⟩
  · exact Ctx.Helps.trans ⟨_, _, _, _, _, _, _, _, _, rfl⟩ (rdpSendCmp_helps _ _ _ _ _)

theorem rdpTimeoutLoop_changes (conn : Conn cfg) (count : Nat) (stack : Stack cfg) :
    ∃ io txQueue, rdpTimeoutLoop conn count stack = { stack with io, txQueue } := by
  induction count generalizing stack with
  | zero => exact ⟨_, _, rfl⟩
  | succ count ih =>
      obtain ⟨found, queue, got, _⟩ := rdpQueueTxGet_takes stack conn.index
      simp only [rdpTimeoutLoop, got]
      cases found with
      | none => exact ⟨_, _, rfl⟩
      | some packet =>
          simp only
          split
          · obtain ⟨_, _, rest⟩ := ih (Stack.free { stack with txQueue := queue } packet)
            exact ⟨_, _, rest⟩
          · split
            · obtain ⟨_, _, rest⟩ := ih (rdpQueueTxAdd
                (rdpRetransmit conn { stack with txQueue := queue }
                  (refreshAck packet conn.rdp.rcvCur stack.now)) conn.index
                (refreshAck packet conn.rdp.rcvCur stack.now))
              exact ⟨_, _, rest⟩
            · obtain ⟨_, _, rest⟩ := ih
                (rdpQueueTxAdd { stack with txQueue := queue } conn.index packet)
              exact ⟨_, _, rest⟩

theorem Stack.post_changes {stack after : Stack cfg} {socket index : Nat}
    (posted : stack.post socket index = some after) :
    ∃ sockets, after = { stack with sockets, posted := stack.posted ++ [index] } := by
  unfold Stack.post at posted
  split at posted
  · cases posted
  · cases posted
    exact ⟨_, rfl⟩

theorem connEnqueuePacket_changes (conn : Conn cfg) (packet : Option Packet) :
    ∃ rxQueue rxLog, (connEnqueuePacket conn packet).2 = { conn with rxQueue, rxLog } := by
  unfold connEnqueuePacket
  split <;> exact ⟨_, _, rfl⟩

theorem rdpReceiveData_changes (conn : Conn cfg) (packet : Packet) :
    ∃ rxQueue rxLog, (rdpReceiveData conn packet).2.1 = { conn with rxQueue, rxLog } := by
  obtain ⟨rxQueue, rxLog, enqueued⟩ :=
    connEnqueuePacket_changes conn (some (rdpHeaderRemove packet))
  simp only [rdpReceiveData]
  split
  · rename_i after same
    rw [same] at enqueued
    exact ⟨rxQueue, rxLog, enqueued⟩
  · rename_i after _ same
    rw [same] at enqueued
    exact ⟨rxQueue, rxLog, enqueued⟩

theorem rdpRxFlushScan_receives (count : Nat) (ctx : Ctx cfg) :
    ctx.Receives (rdpRxFlushScan count ctx).2 := by
  induction count generalizing ctx with
  | zero => exact Ctx.Receives.refl ctx
  | succ count ih =>
      obtain ⟨found, queue, got, _⟩ := rdpQueueRxGet_takes ctx.stack ctx.conn.index
      simp only [rdpRxFlushScan, got]
      split
      · exact Ctx.Receives.refl ctx
      · cases found with
        | none => exact ⟨_, _, _, _, _, _, _, _, rfl, .of_outbox rfl⟩
        | some packet =>
            simp only
            split
            · obtain ⟨rxQueue, rxLog, received⟩ := rdpReceiveData_changes ctx.conn packet
              generalize rdpReceiveData ctx.conn packet = result at received
              obtain ⟨err, conn, freed⟩ := result
              rw [show conn = _ from received]
              split
              · rename_i same
                cases same
                exact ⟨_, _, _, _, _, _, _, _, rfl, .of_outbox rfl⟩
              · rename_i same
                cases same
                exact ⟨_, _, _, _, _, _, _, _, rfl, .of_outbox rfl⟩
            · exact Ctx.Receives.trans ⟨_, _, _, _, _, _, _, _, rfl, .of_outbox rfl⟩ (ih _)

theorem rdpRxFlushLoop_receives (passes : Nat) (ctx : Ctx cfg) :
    ctx.Receives (rdpRxFlushLoop passes ctx) := by
  induction passes generalizing ctx with
  | zero => exact Ctx.Receives.refl ctx
  | succ passes ih =>
      have pass := rdpRxFlushScan_receives ctx.stack.rxQueue.size ctx
      simp only [rdpRxFlushLoop]
      generalize rdpRxFlushScan ctx.stack.rxQueue.size ctx = result at pass
      obtain ⟨_ | _, after⟩ := result
      · exact pass
      · exact pass.trans (ih after)

theorem rdpRxQueueFlush_receives (ctx : Ctx cfg) : ctx.Receives (rdpRxQueueFlush ctx) :=
  rdpRxFlushLoop_receives _ ctx

/-- The data part of the state machine is a helper of the receiving side. -/
theorem rdpRecvData_receives (ctx : Ctx cfg) (header : RdpHeader) (packet : Packet) :
    ctx.Receives (rdpRecvData ctx header packet).ctx := by
  simp only [rdpRecvData]
  split
  · exact Ctx.Receives.refl ctx
  · split
    · obtain ⟨_, _, added⟩ := rdpRxQueueAdd_changes ctx.stack ctx.conn.index packet header.seqNr
      generalize rdpRxQueueAdd ctx.stack ctx.conn.index packet header.seqNr = result at added
      obtain ⟨_ | _, after⟩ := result
      · refine Ctx.Receives.trans ?_ (rdpCheckAck_answers _).receives
        rw [show after = _ from added]
        exact ⟨_, _, _, _, _, _, _, _, rfl, .of_outbox rfl⟩
      · refine Ctx.Receives.trans ?_ (rdpSendEack_receives _)
        rw [show after = _ from added]
        exact ⟨_, _, _, _, _, _, _, _, rfl, .of_outbox rfl⟩
    · obtain ⟨_, _, received⟩ := rdpReceiveData_changes ctx.conn packet
      generalize rdpReceiveData ctx.conn packet = result at received
      obtain ⟨err, conn, freed⟩ := result
      rw [show conn = _ from received]
      split
      · rename_i same
        cases same
        refine Ctx.Receives.trans ?_ ((rdpCheckAck_answers _).receives.trans (rdpRxQueueFlush_receives _))
        exact ⟨_, _, _, _, _, _, _, _, rfl, .of_outbox rfl⟩
      · rename_i same
        cases same
        exact ⟨_, _, _, _, _, _, _, _, rfl, .of_outbox rfl⟩

/-! ## Close -/

/-- A close that ends in these states changes no other field than the ones named here. -/
def Ctx.Closes (ctx after : Ctx cfg) (connState : ConnState) (rdpState : RdpState)
    (closedBy : UInt8) : Prop :=
  ∃ io rdpIncr txQueue rxQueue connQueue timestamp rcvLsa ackTimestamp txWait,
    after =
      { conn := { ctx.conn with
          state := connState
          rxQueue := connQueue
          timestamp
          rdp := { ctx.conn.rdp with state := rdpState, closedBy, rcvLsa, ackTimestamp, txWait } }
        stack := { ctx.stack with io, rdpIncr, txQueue, rxQueue } }

theorem rdpEnterCloseWait_closes (ctx : Ctx cfg) (sendRst : Bool) :
    ∃ io rdpIncr rcvLsa ackTimestamp, rdpEnterCloseWait ctx sendRst =
      { conn := { ctx.conn with
          timestamp := ctx.stack.now
          rdp := { ctx.conn.rdp with state := .closeWait, rcvLsa, ackTimestamp, txWait := true } }
        stack := { ctx.stack with io, rdpIncr } } := by
  simp only [rdpEnterCloseWait]
  split
  · obtain ⟨io, rdpIncr, rcvLsa, ackTimestamp, sent, _⟩ := rdpSendCmp_answers
      { ctx with conn := { ctx.conn with
        timestamp := ctx.stack.now, rdp := { ctx.conn.rdp with state := .closeWait } } }
      none ctx.conn.rdp.sndNxt ctx.conn.rdp.rcvCur
      (by decide : (rdpAck ||| rdpRst) &&& rdpSyn = 0) (.inl rfl)
    rw [sent]
    exact ⟨io, rdpIncr, rcvLsa, ackTimestamp, rfl⟩
  · exact ⟨_, _, _, _, rfl⟩

/-- The part of `csp_rdp_close_internal` up to the test of all parties. -/
def rdpBeginClose (ctx : Ctx cfg) (closedBy : UInt8) (sendRst : Bool) : Ctx cfg :=
  let ctx := { ctx with conn.rdp.closedBy := ctx.conn.rdp.closedBy ||| closedBy }
  if ctx.conn.rdp.state = .closeWait then ctx else rdpEnterCloseWait ctx sendRst

theorem rdpCloseInternal_eq (ctx : Ctx cfg) (closedBy : UInt8) (sendRst : Bool) :
    rdpCloseInternal ctx closedBy sendRst =
      if ctx.conn.rdp.state = .closed then (.none, ctx)
      else if (rdpBeginClose ctx closedBy sendRst).conn.rdp.closedBy ≠ rdpClosedByAll then
        (.again, rdpBeginClose ctx closedBy sendRst)
      else
        (.none, { rdpBeginClose ctx closedBy sendRst with conn.rdp.state := .closed, conn.rdp.closedBy := 0 }) := rfl

/-- A close by some parties waits for the others in CLOSE_WAIT, and the last one ends in CLOSED. -/
theorem rdpCloseInternal_cases (ctx : Ctx cfg) (closedBy : UInt8) (sendRst : Bool) :
    (ctx.conn.rdp.state = .closed ∧ rdpCloseInternal ctx closedBy sendRst = (.none, ctx)) ∨
      (ctx.conn.rdp.state ≠ .closed ∧ ∃ io rdpIncr timestamp rcvLsa ackTimestamp txWait,
        (ctx.conn.rdp.closedBy ||| closedBy ≠ rdpClosedByAll ∧
          rdpCloseInternal ctx closedBy sendRst =
            (.again,
              { conn := { ctx.conn with
                  timestamp
                  rdp := { ctx.conn.rdp with
                    state := .closeWait
                    closedBy := ctx.conn.rdp.closedBy ||| closedBy
                    rcvLsa, ackTimestamp, txWait } }
                stack := { ctx.stack with io, rdpIncr } })) ∨
        (ctx.conn.rdp.closedBy ||| closedBy = rdpClosedByAll ∧
          rdpCloseInternal ctx closedBy sendRst =
            (.none,
              { conn := { ctx.conn with
                  timestamp
                  rdp := { ctx.conn.rdp with
                    state := .closed, closedBy := 0, rcvLsa, ackTimestamp, txWait } }
                stack := { ctx.stack with io, rdpIncr } }))) := by
  by_cases closed : ctx.conn.rdp.state = .closed
  · exact .inl ⟨closed, by simp [rdpCloseInternal, closed]⟩
  refine .inr ⟨closed, ?_⟩
  have entered : ∃ io rdpIncr timestamp rcvLsa ackTimestamp txWait,
      (if ctx.conn.rdp.state = .closeWait then
          { ctx with conn.rdp.closedBy := ctx.conn.rdp.closedBy ||| closedBy }
        else rdpEnterCloseWait
          { ctx with conn.rdp.closedBy := ctx.conn.rdp.closedBy ||| closedBy } sendRst) =
        { conn := { ctx.conn with
            timestamp
            rdp := { ctx.conn.rdp with
              state := .closeWait
              closedBy := ctx.conn.rdp.closedBy ||| closedBy
              rcvLsa, ackTimestamp, txWait } }
          stack := { ctx.stack with io, rdpIncr } } := by
    split
    · rename_i waiting
      exact ⟨_, _, _, _, _, _, by rw [← waiting]⟩
    · obtain ⟨_, _, _, _, entered⟩ := rdpEnterCloseWait_closes
        { ctx with conn.rdp.closedBy := ctx.conn.rdp.closedBy ||| closedBy } sendRst
      exact ⟨_, _, _, _, _, _, entered⟩
  obtain ⟨io, rdpIncr, timestamp, rcvLsa, ackTimestamp, txWait, entered⟩ := entered
  refine ⟨io, rdpIncr, timestamp, rcvLsa, ackTimestamp, txWait, ?_⟩
  simp only [rdpCloseInternal, closed, if_false]
  rw [entered]
  by_cases all : ctx.conn.rdp.closedBy ||| closedBy = rdpClosedByAll
  · exact .inr ⟨all, by simp only [all, ne_eq, not_true_eq_false, if_false]⟩
  · exact .inl ⟨all, by simp only [all, ne_eq, not_false_eq_true, if_true]⟩

/-- The release empties the receive queue, and for RDP also both shared queues. -/
theorem connRelease_changes (ctx : Ctx cfg) :
    ∃ io txQueue rxQueue, connRelease ctx =
        { conn := { ctx.conn with state := .closed, rxQueue := .empty }
          stack := { ctx.stack with io, txQueue, rxQueue } } ∧
      (ctx.conn.idin.has cspFRdp = true → txQueue = .empty ∧ rxQueue = .empty) ∧
      (ctx.conn.idin.has cspFRdp = false →
        txQueue = ctx.stack.txQueue ∧ rxQueue = ctx.stack.rxQueue) := by
  by_cases rdp : ctx.conn.idin.has cspFRdp = true
  · simp only [connRelease, connFlushRxQueue, rdp, if_true, rdpQueueFlush]
    exact ⟨_, _, _, rfl, fun _ => ⟨rfl, rfl⟩, by simp⟩
  · simp only [connRelease, connFlushRxQueue, rdp]
    exact ⟨_, _, _, rfl, by simp, fun _ => ⟨rfl, rfl⟩⟩

/-- The close of an open RDP connection waits in CLOSE_WAIT until all three parties have closed it.
The close of a plain connection releases it at once. -/
theorem connClose_cases (ctx : Ctx cfg) (closedBy : UInt8) :
    (ctx.conn.state = .closed ∧ connClose ctx closedBy = ctx) ∨
      (ctx.conn.state = .open ∧
        ((ctx.conn.usesRdp = true ∧ ctx.conn.rdp.state ≠ .closed ∧
            ctx.conn.rdp.closedBy ||| closedBy ≠ rdpClosedByAll ∧
            ∃ io rdpIncr timestamp rcvLsa ackTimestamp txWait, connClose ctx closedBy =
              { conn := { ctx.conn with
                  timestamp
                  rdp := { ctx.conn.rdp with
                    state := .closeWait
                    closedBy := ctx.conn.rdp.closedBy ||| closedBy
                    rcvLsa, ackTimestamp, txWait } }
                stack := { ctx.stack with io, rdpIncr } }) ∨
          (ctx.conn.usesRdp = true ∧
            (ctx.conn.rdp.state = .closed ∨ ctx.conn.rdp.closedBy ||| closedBy = rdpClosedByAll) ∧
            (∃ closedBy', ctx.Closes (connClose ctx closedBy) .closed .closed closedBy' ∧
              (closedBy' = 0 ∨ ctx.conn.rdp.state = .closed ∧ closedBy' = ctx.conn.rdp.closedBy)) ∧
            (ctx.conn.idin.has cspFRdp = true →
              (connClose ctx closedBy).stack.txQueue = .empty ∧
                (connClose ctx closedBy).stack.rxQueue = .empty)) ∨
          (ctx.conn.usesRdp = false ∧ connClose ctx closedBy = connRelease ctx))) := by
  cases state : ctx.conn.state with
  | closed => exact .inl ⟨rfl, by simp [connClose, state]⟩
  | «open» =>
      refine .inr ⟨rfl, ?_⟩
      cases uses : ctx.conn.usesRdp with
      | false => exact .inr (.inr ⟨rfl, by simp [connClose, state, uses]⟩)
      | true =>
          have result : connClose ctx closedBy =
              if (rdpClose ctx closedBy).1 = .again then (rdpClose ctx closedBy).2
              else connRelease (rdpClose ctx closedBy).2 := by
            have open' : ¬ctx.conn.state = .closed := by simp [state]
            simp only [connClose, open', uses, if_false, if_true]
            generalize rdpClose ctx closedBy = closed
            obtain ⟨err, after⟩ := closed
            cases err <;> rfl
          rcases rdpCloseInternal_cases ctx closedBy true with ⟨closed, same⟩ |
            ⟨notClosed, io, rdpIncr, timestamp, rcvLsa, ackTimestamp, txWait, ⟨others, same⟩ | ⟨all, same⟩⟩
          · rw [rdpClose, same] at result
            obtain ⟨io, txQueue, rxQueue, released, flushed, _⟩ := connRelease_changes ctx
            refine .inr (.inl ⟨rfl, .inl closed,
              ⟨ctx.conn.rdp.closedBy, ?_, .inr ⟨closed, rfl⟩⟩, fun rdp => ?_⟩)
            · rw [result]
              simp only
              rw [released, ← closed]
              exact ⟨_, _, _, _, _, _, _, _, _, rfl⟩
            · rw [result]
              simp only
              rw [released]
              exact flushed rdp
          · rw [rdpClose, same] at result
            exact .inl ⟨rfl, notClosed, others, io, rdpIncr, timestamp, rcvLsa, ackTimestamp, txWait,
              result⟩
          · rw [rdpClose, same] at result
            simp only at result
            obtain ⟨io, txQueue, rxQueue, released, flushed, _⟩ := connRelease_changes
              { conn := { ctx.conn with
                  timestamp
                  rdp := { ctx.conn.rdp with
                    state := .closed, closedBy := 0, rcvLsa, ackTimestamp, txWait } }
                stack := { ctx.stack with io, rdpIncr } }
            rw [released] at result
            refine .inr (.inl ⟨rfl, .inr all, ⟨0, ?_, .inl rfl⟩, fun rdp => ?_⟩)
            · rw [result]
              exact ⟨_, _, _, _, _, _, _, _, _, rfl⟩
            · rw [result]
              exact flushed rdp

/-- The label `discard_close` closes, and may wake the reader behind the close. -/
theorem rdpDiscardClose_changes (ctx : Ctx cfg) (closedBy : UInt8) :
    ∃ closedBy' rxQueue rxLog, rdpDiscardClose ctx closedBy =
      { conn := { (connClose ctx closedBy').conn with rxQueue, rxLog }
        stack := (connClose ctx closedBy').stack } := by
  simp only [rdpDiscardClose]
  split
  · obtain ⟨rxQueue, rxLog, woken⟩ := connEnqueuePacket_changes (connClose ctx closedBy).conn none
    rw [woken]
    exact ⟨closedBy, rxQueue, rxLog, rfl⟩
  · exact ⟨_, _, _, rfl⟩

end Libcsp

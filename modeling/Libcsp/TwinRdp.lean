/-
This file shows that the helper functions of csp_rdp.c keep two runs together.
-/
import Libcsp.TwinRuns

namespace Libcsp

variable {cfg : Config} {strict : Prop} {shift : UInt16} {base : List (CspId × Packet)}

/-! ## Headers -/

/-- A number tells its two bytes. -/
theorem word_inj {high low high' low' : UInt8}
    (same : high.toUInt16 * 256 + low.toUInt16 = high'.toUInt16 * 256 + low'.toUInt16) :
      high = high' ∧ low = low' := by
  have value := congrArg UInt16.toNat same
  have bounds := And.intro high.toNat_lt high'.toNat_lt
  have bounds' := And.intro low.toNat_lt low'.toNat_lt
  simp only [UInt16.toNat_add, UInt16.toNat_mul, UInt8.toNat_toUInt16, UInt16.reduceToNat] at value
  exact ⟨UInt8.toNat_inj.mp (by omega), UInt8.toNat_inj.mp (by omega)⟩

theorem be16_inj {first second : Memory} {address : Nat} (same : be16 first address = be16 second address) :
    first address = second address ∧ first (address + 1) = second (address + 1) := word_inj same

/-- The header and the body tell the whole packet. -/
theorem Packet.payload_of_header {first second : Packet} (length : first.length = second.length)
    (long : rdpHeaderSize ≤ first.length.toNat) (flags : first.rdpFlags = second.rdpFlags)
    (seqNr : first.seqNr = second.seqNr) (ackNr : first.ackNr = second.ackNr) (body : first.body = second.body) :
    first.payload = second.payload := by
  have place : rdpHeaderRef second = rdpHeaderRef first := by rw [rdpHeaderRef, rdpHeaderRef, length]
  rw [Packet.rdpFlags, Packet.rdpFlags, place] at flags
  rw [Packet.seqNr, Packet.seqNr, place] at seqNr
  rw [Packet.ackNr, Packet.ackNr, place] at ackNr
  rw [Packet.payload, Packet.payload, ← length]
  apply List.map_congr_left
  intro index inside
  have inside := List.mem_range.mp inside
  by_cases front : index < first.length.toNat - rdpHeaderSize
  · rw [Packet.body, Packet.body, ← length] at body
    have found := congrArg (fun bytes => bytes[index]?) body
    simpa [Packet.dataBytes, front] using found
  · obtain ⟨seqHigh, seqLow⟩ := be16_inj seqNr
    obtain ⟨ackHigh, ackLow⟩ := be16_inj ackNr
    obtain ⟨offset, small, at'⟩ : ∃ offset < 5, dataAt + index = rdpHeaderRef first + offset := by
      refine ⟨index - (first.length.toNat - rdpHeaderSize), ?_, ?_⟩
      all_goals simp only [rdpHeaderRef, rdpHeaderSize] at *; omega
    rw [Packet.data, Packet.data, at']
    obtain rfl | rfl | rfl | rfl | rfl : offset = 0 ∨ offset = 1 ∨ offset = 2 ∨ offset = 3 ∨ offset = 4 := by omega
    · exact flags
    · exact seqHigh
    · exact seqLow
    · exact ackHigh
    · exact ackLow

/-- Two equal headers in front of equal data give equal packets. -/
theorem Packet.Carries.payload {first second : Packet} {flags : UInt8} {seqNr seqNr' ackNr ackNr' : UInt16}
    {content content' : List UInt8} (carries : first.Carries flags seqNr ackNr content)
    (carries' : second.Carries flags seqNr' ackNr' content') (seqs : seqNr = seqNr') (acks : ackNr = ackNr')
    (same : content = content') : first.payload = second.payload := by
  subst seqs acks same
  refine Packet.payload_of_header ?_ ?_ (carries.flags.trans carries'.flags.symm)
    (carries.seqNr.trans carries'.seqNr.symm) (carries.ackNr.trans carries'.ackNr.symm)
    (carries.body.trans carries'.body.symm)
  · exact UInt16.toNat_inj.mp (carries.length.trans carries'.length.symm)
  · rw [carries.length]
    exact Nat.le_add_left _ _

/-- The same content goes behind the same header. -/
theorem Packet.SameContent.framed {packet packet' sent sent' : Packet} {counter flags : UInt8} {seqNr ackNr : UInt16}
    (same : packet.SameContent shift (flags &&& rdpEak != 0) packet.length.toNat packet')
    (length : packet.length = packet'.length)
    (carries : sent.Carries (counter <<< 4 ||| flags) seqNr ackNr packet.payload)
    (carries' : sent'.Carries (counter <<< 4 ||| flags) (seqNr + shift) (ackNr + shift) packet'.payload) :
    sent.SegmentTwin shift sent' := by
  have long := carries.length
  have long' := carries'.length
  rw [Packet.payload_length] at long long'
  have count : sent.length.toNat - rdpHeaderSize = packet.length.toNat := by omega
  have count' : sent'.length.toNat - rdpHeaderSize = packet.length.toNat := by rw [length]; omega
  have front : sent.dataBytes packet.length.toNat = packet.dataBytes packet.length.toNat := by
    have body := carries.body
    rwa [Packet.body, count] at body
  have front' : sent'.dataBytes packet.length.toNat = packet'.dataBytes packet.length.toNat := by
    have body := carries'.body
    rwa [Packet.body, count', Packet.payload, ← length] at body
  refine ⟨?_, carries.flags.trans carries'.flags.symm, ?_, ?_, ?_, ?_⟩
  · exact UInt16.toNat_inj.mp (long.trans ((congrArg (·.toNat + rdpHeaderSize) length).trans long'.symm))
  · rw [carries.seqNr, carries'.seqNr]
  · rw [carries.ackNr, carries'.ackNr]
  · intro eack index inside
    rw [carries.hasRdp (.inr (.inl rfl))] at eack
    rw [count] at inside
    rw [data16_congr front inside, data16_congr front' inside]
    exact same.entries eack index inside
  · intro plain
    rw [carries.hasRdp (.inr (.inl rfl))] at plain
    rw [count, front, front']
    exact same.bytes plain

theorem rdpHeaderAdd_twin {packet packet' : Packet} (same : packet.SameShape strict packet') :
    (rdpHeaderAdd cfg packet = none ∧ rdpHeaderAdd cfg packet' = none) ∨
      ∃ framed framed', rdpHeaderAdd cfg packet = some framed ∧ rdpHeaderAdd cfg packet' = some framed' ∧
        framed.SameShape strict framed' := by
  simp only [rdpHeaderAdd, ← same.length]
  split
  · exact .inl ⟨rfl, rfl⟩
  · exact .inr ⟨_, _, rfl, rfl, ⟨same.buf, same.quarantine⟩, rfl⟩

/-! ## Control messages -/

section Control
variable {first second : Ctx cfg} (twin : first.Twin strict shift base second)
include twin

theorem rdpSendCmpFinish_twin {packet packet' : Packet} (same : packet.SameShape strict packet')
    (segment : packet.SegmentTwin shift packet') (flags : UInt8) (ackNr : UInt16) :
    (rdpSendCmpFinish first packet flags ackNr).Twin strict shift base
      (rdpSendCmpFinish second packet' flags (ackNr + shift)) := by
  obtain ⟨⟨queued, logged⟩, ⟨output, tx, rx⟩⟩ := twin
  have left := sendDirect_twin output (cmpId first.conn) none same ⟨rfl, segment⟩
  simp only [rdpSendCmpFinish]
  split
  · exact .mk (.mk queued logged) (.mk left tx rx)
  · exact .mk (.mk queued logged) (.mk left tx rx)

/-- The copy of a SYN needs the strict relation, since it keeps the quarantine of its buffer. -/
theorem rdpSendCmpPacket_twin {packet packet' : Packet} (same : packet.SameShape strict packet') {flags : UInt8}
    (content : packet.SameContent shift (flags &&& rdpEak != 0) packet.length.toNat packet')
    (syn : flags &&& rdpSyn ≠ 0 → strict ∧ (flags &&& rdpEak != 0) = false) (seqNr ackNr : UInt16) :
    (rdpSendCmpPacket first packet flags seqNr ackNr).2.Twin strict shift base
      (rdpSendCmpPacket second packet' flags (seqNr + shift) (ackNr + shift)).2 := by
  have finish := @rdpSendCmpFinish_twin cfg strict shift base
  obtain ⟨@⟨connQueue, connLog, queued, logged⟩, @⟨io, txQueue, rxQueue, output, tx, rx⟩⟩ := twin
  have counted : ∀ {pool pool' : Pool cfg}, pool.Twin strict pool' → Stack.Twin strict shift base
      { first.stack with io := { first.stack.io with pool }, rdpIncr := first.stack.rdpIncr + 1 }
      { first.stack with io := { io with pool := pool' }, txQueue, rxQueue, rdpIncr := first.stack.rdpIncr + 1 } :=
    fun pools => .mk (output.setPool pools) tx rx
  have both : ∀ {stack stack' : Stack cfg}, stack.Twin strict shift base stack' → Ctx.Twin strict shift base
      ⟨first.conn, stack⟩
      ⟨{ first.conn with rdp := first.conn.rdp.shifted shift, rxQueue := connQueue, rxLog := connLog }, stack'⟩ :=
    fun shared => .mk (.mk queued logged) shared
  simp only [rdpSendCmpPacket, cmpPacket]
  rcases @rdpHeaderAdd_twin cfg _ _ _ same with ⟨long, long'⟩ | ⟨framed, framed', added, added', shape⟩
  · rw [long, long']
    exact .mk (.mk queued logged) (.mk (output.free same.toSameBuffer) tx rx)
  · rw [added, added']
    have carries := setRdpHeader_carries added (first.stack.rdpIncr <<< 4 ||| flags) seqNr ackNr
    have carries' := setRdpHeader_carries added' (first.stack.rdpIncr <<< 4 ||| flags) (seqNr + shift) (ackNr + shift)
    have segment := content.framed same.length carries carries'
    have shape' : (setRdpHeader framed (first.stack.rdpIncr <<< 4 ||| flags) seqNr ackNr).SameShape strict
        (setRdpHeader framed' (first.stack.rdpIncr <<< 4 ||| flags) (seqNr + shift) (ackNr + shift)) :=
      ⟨⟨shape.buf, shape.quarantine⟩, shape.length⟩
    simp only
    split
    · rename_i isSyn
      rcases bufferClone_twin output.pool shape' with ⟨failed, failed'⟩ | ⟨buf, pool, pool', cloned, cloned', pools⟩
      · rw [failed, failed']
        exact .mk (.mk queued logged) (.mk output tx rx)
      · rw [cloned, cloned']
        obtain ⟨tight, plain⟩ := syn (by simpa using isSyn)
        have payload : packet.payload = packet'.payload := by
          have bytes := content.bytes (.inl plain)
          rwa [Packet.payload, Packet.payload, ← same.length]
        have whole := fun none : shift = 0 =>
          carries.payload carries' (by rw [none, add_zero]) (by rw [none, add_zero]) payload
        refine finish (both (rdpQueueTxAdd_twin (counted pools) _ ?_)) shape'
          segment flags ackNr
        exact {
          buf := rfl
          length := segment.length
          conn := rfl
          timestampTx := rfl
          quarantine := shape'.quarantine tight
          flags := segment.flags
          seqNr := segment.seqNr
          body := (carries.body.trans payload).trans carries'.body.symm
          payload := whole }
    · exact finish (both (counted output.pool)) shape' segment flags ackNr

/-- A control message without data. -/
theorem rdpSendCmp_twin {flags : UInt8} (plain : (flags &&& rdpEak != 0) = false)
    (syn : flags &&& rdpSyn ≠ 0 → strict) (seqNr ackNr : UInt16) :
    (rdpSendCmp first none flags seqNr ackNr).2.Twin strict shift base
      (rdpSendCmp second none flags (seqNr + shift) (ackNr + shift)).2 := by
  have send := @rdpSendCmpPacket_twin cfg strict shift base
  obtain ⟨@⟨connQueue, connLog, queued, logged⟩, @⟨io, txQueue, rxQueue, output, tx, rx⟩⟩ := twin
  simp only [rdpSendCmp]
  rcases bufferGet_twin output.pool 20 with ⟨failed, failed'⟩ | ⟨packet, packet', pool, pool', got, got', same, pools⟩
  · rw [failed, failed']
    exact .mk (.mk queued logged) (.mk output tx rx)
  · rw [got, got']
    have empty : ({ packet with length := 0 } : Packet).SameContent shift (flags &&& rdpEak != 0) 0
        { packet' with length := 0 } := ⟨fun _ index inside => absurd inside (by omega), fun _ => rfl⟩
    have taken : Ctx.Twin strict shift base
        ⟨first.conn, { first.stack with io := { first.stack.io with pool } }⟩
        ⟨{ first.conn with rdp := first.conn.rdp.shifted shift, rxQueue := connQueue, rxLog := connLog },
          { first.stack with io := { io with pool := pool' }, txQueue, rxQueue }⟩ :=
      .mk (.mk queued logged) (.mk (output.setPool pools) tx rx)
    have shape : ({ packet with length := 0 } : Packet).SameShape strict { packet' with length := 0 } :=
      ⟨⟨same.buf, same.quarantine⟩, rfl⟩
    exact send taken shape empty (fun isSyn => ⟨syn isSyn, plain⟩) seqNr ackNr

end Control

/-! ## Lists of stored numbers -/

/-- An EACK list in two runs, while the encoder writes it. -/
structure Packet.ListTwin (strict : Prop) (shift : UInt16) (first second : Packet) : Prop extends
    first.SameShape strict second where
  even : 2 * (first.length.toNat / 2) = first.length.toNat
  entries : ∀ index, 2 * index < first.length.toNat → second.data16 index = first.data16 index + shift

theorem Packet.ListTwin.content {first second : Packet} (twin : first.ListTwin strict shift second) :
    first.SameContent shift true first.length.toNat second where
  entries _ index inside := twin.entries index (by omega)
  bytes unshifted := by
    obtain rfl : shift = 0 := unshifted.resolve_left Bool.noConfusion
    have even := twin.even
    apply List.map_congr_left
    intro index inside
    have inside := List.mem_range.mp inside
    obtain ⟨high, low⟩ := be16_inj ((twin.entries (index / 2) (by omega)).trans (add_zero _))
    rcases Nat.mod_two_eq_zero_or_one index with parity | parity
    · rw [show dataAt + 2 * (index / 2) = dataAt + index by omega] at high
      exact high.symm
    · rw [show dataAt + 2 * (index / 2) + 1 = dataAt + index by omega] at low
      exact low.symm

theorem Packet.ListTwin.concat {first second : Packet} (twin : first.ListTwin strict shift second)
    (short : first.length.toNat + 2 < 2 ^ 16) (seqNr : UInt16) :
    Packet.ListTwin strict shift
      { first with
        length := first.length + 2
        mem := putBe16 first.mem (dataAt + 2 * (first.length.toNat / 2)) seqNr }
      { second with
        length := second.length + 2
        mem := putBe16 second.mem (dataAt + 2 * (second.length.toNat / 2)) (seqNr + shift) } := by
  have even := twin.even
  have two : (2 : UInt16).toNat = 2 := rfl
  have longer : (first.length + 2).toNat = first.length.toNat + 2 := by
    rw [UInt16.toNat_add, two]
    omega
  refine ⟨⟨⟨twin.buf, twin.quarantine⟩, by rw [twin.length]⟩, ?_, ?_⟩
  · change 2 * ((first.length + 2).toNat / 2) = (first.length + 2).toNat
    omega
  · intro index inside
    change 2 * index < (first.length + 2).toNat at inside
    simp only [Packet.data16, ← twin.length]
    by_cases last : index = first.length.toNat / 2
    · subst last
      rw [be16_putBe16, be16_putBe16]
    · rw [be16_putBe16_other (by omega), be16_putBe16_other (by omega)]
      exact twin.entries index (by omega)

theorem rdpEackLoop_twin (conn count space : Nat) {first second : Stack cfg}
    (twin : first.Twin strict shift base second) {eack eack' : Packet} (list : eack.ListTwin strict shift eack')
    (short : eack.length.toNat + space < 2 ^ 16) :
    (rdpEackLoop conn count eack space first).1.ListTwin strict shift (rdpEackLoop conn count eack' space second).1 ∧
      (rdpEackLoop conn count eack space first).2.Twin strict shift base
        (rdpEackLoop conn count eack' space second).2 := by
  induction count generalizing space first second eack eack' with
  | zero => exact ⟨list, twin⟩
  | succ count ih =>
      obtain ⟨found, taken⟩ := rdpQueueRxGet_twin twin conn
      simp only [rdpEackLoop]
      generalize rdpQueueRxGet first conn = result at found taken
      generalize rdpQueueRxGet second conn = result' at found taken
      obtain ⟨packet, stack⟩ := result
      obtain ⟨packet', stack'⟩ := result'
      cases found with
      | none => exact ⟨list, taken⟩
      | some same =>
          have returned := rdpQueueRxAdd_twin taken conn (same.tagged conn)
          simp only
          split
          · rename_i room
            rw [same.seqNr]
            refine ih (space - 2) returned (list.concat (by omega) _) ?_
            have two : (2 : UInt16).toNat = 2 := rfl
            simp only [UInt16.toNat_add, two]
            omega
          · exact ih space returned list short

theorem rdpSendEack_twin {first second : Ctx cfg} (twin : first.Twin strict shift base second) :
    (rdpSendEack first).2.Twin strict shift base (rdpSendEack second).2 := by
  have send := @rdpSendCmpPacket_twin cfg strict shift base
  obtain ⟨@⟨connQueue, connLog, queued, logged⟩, @⟨io, txQueue, rxQueue, output, tx, rx⟩⟩ := twin
  simp only [rdpSendEack]
  rcases bufferGet_twin output.pool 100 with ⟨failed, failed'⟩ |
    ⟨packet, packet', pool, pool', got, got', same, pools⟩
  · rw [failed, failed']
    exact .mk (.mk queued logged) (.mk output tx rx)
  · rw [got, got']
    have empty : ({ packet with length := 0 } : Packet).ListTwin strict shift { packet' with length := 0 } :=
      ⟨⟨⟨same.buf, same.quarantine⟩, rfl⟩, by simp, fun index inside => absurd inside (by simp)⟩
    have taken : Stack.Twin strict shift base { first.stack with io := { first.stack.io with pool } }
        { first.stack with io := { io with pool := pool' }, txQueue, rxQueue } := .mk (output.setPool pools) tx rx
    obtain ⟨list, looped⟩ := rdpEackLoop_twin first.conn.index first.stack.rxQueue.size
      (100 - rdpHeaderSize) taken empty
      (by decide : (0 : UInt16).toNat + (100 - rdpHeaderSize) < 2 ^ 16)
    simp only [← rx.size]
    generalize rdpEackLoop first.conn.index first.stack.rxQueue.size { packet with length := 0 } (100 - rdpHeaderSize)
      { first.stack with io := { first.stack.io with pool } } = result at list looped ⊢
    generalize rdpEackLoop first.conn.index first.stack.rxQueue.size { packet' with length := 0 }
      (100 - rdpHeaderSize)
      { first.stack with io := { io with pool := pool' }, txQueue, rxQueue } = result' at list looped ⊢
    obtain ⟨eack, stack⟩ := result
    obtain ⟨eack', stack'⟩ := result'
    have both : Ctx.Twin strict shift base ⟨first.conn, stack⟩
        ⟨{ first.conn with rdp := first.conn.rdp.shifted shift, rxQueue := connQueue, rxLog := connLog }, stack'⟩ :=
      .mk (.mk queued logged) looped
    have content : eack.SameContent shift ((rdpAck ||| rdpEak) &&& rdpEak != 0) eack.length.toNat eack' :=
      list.content
    have noSyn : (rdpAck ||| rdpEak) &&& rdpSyn = 0 := by decide
    exact send both list.toSameShape content (fun syn => absurd noSyn syn) _ _

/-! ## Reception -/

theorem connEnqueuePacket_twin {first second : Conn cfg} (twin : first.Twin strict shift second)
    {packet packet' : Option Packet} (same : Option.Rel (Packet.UserTwin strict) packet packet') :
    (connEnqueuePacket first packet).1 = (connEnqueuePacket second packet').1 ∧
      (connEnqueuePacket first packet).2.Twin strict shift (connEnqueuePacket second packet').2 := by
  obtain ⟨queued, logged⟩ := twin
  simp only [connEnqueuePacket]
  rcases queued.enqueue same with ⟨full, full'⟩ | ⟨next, next', stored, stored', related⟩
  · rw [full, full']
    exact ⟨rfl, .mk queued logged⟩
  · rw [stored, stored']
    exact ⟨rfl, .mk related (List.rel_append logged (.cons same .nil))⟩

theorem Packet.RxTwin.user {packet packet' : Packet} (same : packet.RxTwin strict shift packet') :
    (rdpHeaderRemove packet).UserTwin strict (rdpHeaderRemove packet') :=
  ⟨⟨same.buf, same.quarantine⟩, same.id, same.data⟩

theorem rdpReceiveData_twin {first second : Conn cfg} (twin : first.Twin strict shift second)
    {packet packet' : Packet}
    (same : (rdpHeaderRemove packet).UserTwin strict (rdpHeaderRemove packet')) :
    (rdpReceiveData first packet).1 = (rdpReceiveData second packet').1 ∧
      (rdpReceiveData first packet).2.1.Twin strict shift (rdpReceiveData second packet').2.1 ∧
      (rdpReceiveData first packet).2.2.SameBuffer strict (rdpReceiveData second packet').2.2 := by
  obtain ⟨err, conn⟩ := connEnqueuePacket_twin twin (.some same)
  simp only [rdpReceiveData]
  generalize connEnqueuePacket first (some (rdpHeaderRemove packet)) = result at err conn
  generalize connEnqueuePacket second (some (rdpHeaderRemove packet')) = result' at err conn
  obtain ⟨code, after⟩ := result
  obtain ⟨code', after'⟩ := result'
  obtain rfl : code = code' := err
  cases code
  all_goals exact ⟨rfl, conn, same.toSameBuffer⟩

/-- The sum wraps in both runs. -/
theorem next_shift {seqNr cur shift : UInt16} : seqNr + shift = cur + shift + 1 ↔ seqNr = cur + 1 := by
  rw [add_right_comm, add_left_inj]

/-- The delivery advances `rcv_cur`. -/
theorem Conn.Twin.advance {first second : Conn cfg} (twin : first.Twin strict shift second) :
    Conn.Twin strict shift { first with rdp.rcvCur := first.rdp.rcvCur + 1 }
      { second with rdp.rcvCur := second.rdp.rcvCur + 1 } := by
  obtain @⟨connQueue, connLog, queued, logged⟩ := twin
  have number : (first.rdp.shifted shift).rcvCur + 1 = first.rdp.rcvCur + 1 + shift := add_right_comm _ _ _
  rw [number]
  exact .mk queued logged

theorem Conn.Twin.index {first second : Conn cfg} (twin : first.Twin strict shift second) :
    second.index = first.index := by
  cases twin
  rfl

theorem Conn.Twin.rdp {first second : Conn cfg} (twin : first.Twin strict shift second) :
    second.rdp = first.rdp.shifted shift := by
  cases twin
  rfl

theorem Conn.Twin.free {first second : Conn cfg} (twin : first.Twin strict shift second) :
    second.rxQueue.free = first.rxQueue.free := by
  obtain ⟨queued, _⟩ := twin
  exact queued.free.symm

theorem Stack.Twin.free {first second : Stack cfg} (twin : first.Twin strict shift base second)
    {packet packet' : Packet} (same : packet.SameBuffer strict packet') :
    (first.free packet).Twin strict shift base (second.free packet') := by
  obtain ⟨output, tx, rx⟩ := twin
  exact .mk (output.free same) tx rx

theorem rdpRxFlushScan_twin (count : Nat) {first second : Ctx cfg} (twin : first.Twin strict shift base second) :
    (rdpRxFlushScan count first).1 = (rdpRxFlushScan count second).1 ∧
      (rdpRxFlushScan count first).2.Twin strict shift base (rdpRxFlushScan count second).2 := by
  induction count generalizing first second with
  | zero => exact ⟨rfl, twin⟩
  | succ count ih =>
      obtain @⟨conn, stack, conns, shared⟩ := twin
      have cur : conn.rdp.rcvCur = first.conn.rdp.rcvCur + shift := by rw [conns.rdp]; rfl
      simp only [rdpRxFlushScan, conns.free, conns.index, cur]
      split
      · exact ⟨rfl, .mk conns shared⟩
      · obtain ⟨found, taken⟩ := rdpQueueRxGet_twin shared first.conn.index
        generalize rdpQueueRxGet first.stack first.conn.index = result at found taken
        generalize rdpQueueRxGet stack first.conn.index = result' at found taken
        obtain ⟨packet, left⟩ := result
        obtain ⟨packet', left'⟩ := result'
        cases found with
        | none => exact ⟨rfl, .mk conns taken⟩
        | @some packet packet' same =>
            simp only [same.seqNr, next_shift]
            split
            · obtain ⟨err, received, freed⟩ := rdpReceiveData_twin conns same.user
              generalize rdpReceiveData first.conn packet = result at err received freed
              generalize rdpReceiveData conn packet' = result' at err received freed
              obtain ⟨code, after, rest⟩ := result
              obtain ⟨code', after', rest'⟩ := result'
              obtain rfl : code = code' := err
              cases code with
              | none => exact ⟨rfl, .mk received.advance taken⟩
              | _ => exact ⟨rfl, .mk received.advance (taken.free freed)⟩
            · exact ih (.mk conns (rdpQueueRxAdd_twin taken _ (same.tagged _)))

theorem rdpRxFlushLoop_twin (passes : Nat) {first second : Ctx cfg} (twin : first.Twin strict shift base second) :
    (rdpRxFlushLoop passes first).Twin strict shift base (rdpRxFlushLoop passes second) := by
  induction passes generalizing first second with
  | zero => exact twin
  | succ passes ih =>
      have size : second.stack.rxQueue.size = first.stack.rxQueue.size := by
        obtain ⟨_, _, _, rx⟩ := twin
        exact rx.size.symm
      obtain ⟨again, scanned⟩ := rdpRxFlushScan_twin first.stack.rxQueue.size twin
      simp only [rdpRxFlushLoop, size]
      generalize rdpRxFlushScan first.stack.rxQueue.size first = result at again scanned
      generalize rdpRxFlushScan first.stack.rxQueue.size second = result' at again scanned
      obtain ⟨more, after⟩ := result
      obtain ⟨more', after'⟩ := result'
      obtain rfl : more = more' := again
      cases more with
      | false => exact scanned
      | true => exact ih scanned

theorem rdpRxQueueFlush_twin {first second : Ctx cfg} (twin : first.Twin strict shift base second) :
    (rdpRxQueueFlush first).Twin strict shift base (rdpRxQueueFlush second) := by
  have size : second.stack.rxQueue.size = first.stack.rxQueue.size := by
    obtain ⟨_, _, _, rx⟩ := twin
    exact rx.size.symm
  rw [rdpRxQueueFlush, rdpRxQueueFlush, size]
  exact rdpRxFlushLoop_twin _ twin

theorem rdpSeqInRxLoop_twin (conn : Nat) (seqNr : UInt16) (count : Nat) {first second : Stack cfg}
    (twin : first.Twin strict shift base second) :
    (rdpSeqInRxLoop conn seqNr count first).1 = (rdpSeqInRxLoop conn (seqNr + shift) count second).1 ∧
      (rdpSeqInRxLoop conn seqNr count first).2.Twin strict shift base
        (rdpSeqInRxLoop conn (seqNr + shift) count second).2 := by
  induction count generalizing first second with
  | zero => exact ⟨rfl, twin⟩
  | succ count ih =>
      obtain ⟨found, taken⟩ := rdpQueueRxGet_twin twin conn
      simp only [rdpSeqInRxLoop]
      generalize rdpQueueRxGet first conn = result at found taken
      generalize rdpQueueRxGet second conn = result' at found taken
      obtain ⟨packet, left⟩ := result
      obtain ⟨packet', left'⟩ := result'
      cases found with
      | none => exact ⟨rfl, taken⟩
      | some same =>
          have returned := rdpQueueRxAdd_twin taken conn (same.tagged conn)
          simp only [same.seqNr, add_left_inj]
          split
          · exact ⟨rfl, returned⟩
          · exact ih returned

/-- Both runs know the number, or both store the packet. -/
theorem rdpRxQueueAdd_twin (conn : Nat) (seqNr : UInt16) {first second : Stack cfg}
    (twin : first.Twin strict shift base second) {packet packet' : Packet}
    (same : (packet.tagged conn).RxTwin strict shift (packet'.tagged conn)) :
    (rdpRxQueueAdd first conn packet seqNr).1 = (rdpRxQueueAdd second conn packet' (seqNr + shift)).1 ∧
      (rdpRxQueueAdd first conn packet seqNr).2.Twin strict shift base
        (rdpRxQueueAdd second conn packet' (seqNr + shift)).2 := by
  have size : second.rxQueue.size = first.rxQueue.size := by
    obtain ⟨_, _, rx⟩ := twin
    exact rx.size.symm
  obtain ⟨known, looked⟩ := rdpSeqInRxLoop_twin conn seqNr first.rxQueue.size twin
  simp only [rdpRxQueueAdd, rdpSeqInRxQueue, size]
  generalize rdpSeqInRxLoop conn seqNr first.rxQueue.size first = result at known looked
  generalize rdpSeqInRxLoop conn (seqNr + shift) first.rxQueue.size second = result' at known looked
  obtain ⟨found, after⟩ := result
  obtain ⟨found', after'⟩ := result'
  obtain rfl : found = found' := known
  cases found with
  | true => exact ⟨rfl, looked⟩
  | false => exact ⟨rfl, rdpQueueRxAdd_twin looked conn same⟩

end Libcsp

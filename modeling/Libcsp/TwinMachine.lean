/-
This file shows that the state machine csp_rdp_new_packet keeps two runs together.
-/
import Libcsp.Enforcement
import Libcsp.TwinClose

namespace Libcsp

variable {cfg : Config} {shift : UInt16} {base : List (CspId × Packet)}

/-! ## The received packet -/

def RdpHeader.shifted (shift : UInt16) (header : RdpHeader) : RdpHeader :=
  { header with seqNr := header.seqNr + shift, ackNr := header.ackNr + shift }

/-- A received packet in two runs, with its header in host byte order. -/
structure Packet.HostTwin (shift : UInt16) (eack : Bool) (first second : Packet) : Prop extends
    first.SameShape False second where
  list : eack = true → ShiftsList shift first second
  stored : eack = false → rdpHeaderSize < first.length.toNat → ∀ conn,
    (first.tagged conn).RxTwin False shift (second.tagged conn)

/-- A received packet in two runs. -/
structure Packet.ReceivedTwin (shift : UInt16) (first second : Packet) : Prop where
  buf : first.buf = second.buf
  id : first.id = second.id
  segment : first.SegmentTwin shift second

theorem Packet.SegmentTwin.header {first second : Packet} (segment : first.SegmentTwin shift second) :
    second.header = first.header.shifted shift := by
  rw [Packet.header, Packet.header, RdpHeader.shifted, segment.flags, segment.seqNr, segment.ackNr]

/-- Without a shift, the two segments have the same bytes. -/
theorem Packet.SegmentTwin.payload {first second : Packet} (segment : first.SegmentTwin shift second)
    (long : rdpHeaderSize ≤ first.length.toNat) (none : shift = 0) : first.payload = second.payload := by
  have seqNr := segment.seqNr
  have ackNr := segment.ackNr
  rw [none, add_zero] at seqNr ackNr
  refine Packet.payload_of_header segment.length long segment.flags seqNr.symm ackNr.symm ?_
  rw [Packet.body, Packet.body, ← segment.length]
  exact segment.content.bytes (.inr none)

theorem rdpHeaderToHost_payload {first second : Packet} (same : first.payload = second.payload)
    (id : first.id = second.id) (long : rdpHeaderSize ≤ first.length.toNat) :
    (rdpHeaderToHost first).payload = (rdpHeaderToHost second).payload := by
  have visible : first.SameVisible second :=
    ⟨Packet.length_of_payload same, id, fun _ inside => Packet.data_of_payload same inside⟩
  exact (visible.toHost long).payload

theorem Packet.ReceivedTwin.host {first second : Packet} (twin : first.ReceivedTwin shift second) :
    (rdpHeaderToHost first).HostTwin shift (first.hasRdp rdpEak) (rdpHeaderToHost second) where
  buf := twin.buf
  quarantine := False.elim
  length := twin.segment.length
  list := by
    intro eack
    have count : eackCount second = eackCount first := by rw [eackCount, eackCount, twin.segment.length]
    have numbers : eackNumbers (rdpHeaderToHost first) = eackNumbers first :=
      eackNumbers_congr rfl (rdpHeaderToHost_body first)
    have numbers' : eackNumbers (rdpHeaderToHost second) = eackNumbers second :=
      eackNumbers_congr rfl (rdpHeaderToHost_body second)
    rw [ShiftsList, numbers, numbers', eackNumbers, eackNumbers, count, List.map_map]
    apply List.map_congr_left
    intro index inside
    have inside := List.mem_range.mp inside
    rw [eackCount] at inside
    exact twin.segment.content.entries eack index (by omega)
  stored := by
    intro plain long conn
    have long : rdpHeaderSize < first.length.toNat := long
    have long' : rdpHeaderSize < second.length.toNat := by rwa [← twin.segment.length]
    have body : first.body = second.body := by
      rw [Packet.body, Packet.body, ← twin.segment.length]
      exact twin.segment.content.bytes (.inl plain)
    have body' : (rdpHeaderToHost first).body = (rdpHeaderToHost second).body := by
      rw [rdpHeaderToHost_body, rdpHeaderToHost_body, body]
    have whole : shift = 0 → (rdpHeaderToHost first).payload = (rdpHeaderToHost second).payload := fun none =>
      rdpHeaderToHost_payload (twin.segment.payload (Nat.le_of_lt long) none) twin.id (Nat.le_of_lt long)
    exact {
      buf := twin.buf
      quarantine := False.elim
      length := twin.segment.length
      id := twin.id
      conn := rfl
      seqNr := by
        change (rdpHeaderToHost second).hostSeqNr = (rdpHeaderToHost first).hostSeqNr + shift
        rw [rdpHeaderToHost_hostSeqNr, rdpHeaderToHost_hostSeqNr, twin.segment.seqNr]
      data := by
        have left : rdpHeaderSize < (rdpHeaderToHost first).length.toNat := long
        have right : rdpHeaderSize < (rdpHeaderToHost second).length.toNat := long'
        exact (rdpHeaderRemove_payload left).trans (body'.trans (rdpHeaderRemove_payload right).symm)
      payload := whole }

/-! ## The branches -/

/-- Both runs end at the same label. -/
structure RdpBranch.Twin (shift : UInt16) (base : List (CspId × Packet)) (first second : RdpBranch cfg) : Prop where
  exit : first.exit = second.exit
  packet : first.packet.SameBuffer False second.packet
  ctx : first.ctx.Twin False shift base second.ctx

theorem Ctx.Twin.setRdp {strict : Prop} {first second : Ctx cfg} (twin : first.Twin strict shift base second)
    {rdp rdp' : Rdp} (same : rdp' = rdp.shifted shift) :
    Ctx.Twin strict shift base { first with conn := { first.conn with rdp } }
      { second with conn := { second.conn with rdp := rdp' } } := by
  obtain ⟨⟨queued, logged⟩, shared⟩ := twin
  subst same
  exact .mk (.mk queued logged) shared

theorem Ctx.Twin.ack {strict : Prop} {first second : Ctx cfg} (twin : first.Twin strict shift base second)
    (header : RdpHeader) : Ctx.Twin strict shift base { first with conn.rdp.sndUna := header.ackNr + 1 }
      { second with conn.rdp.sndUna := (header.shifted shift).ackNr + 1 } := by
  obtain ⟨⟨queued, logged⟩, shared⟩ := twin
  have number : (header.shifted shift).ackNr + 1 = header.ackNr + 1 + shift := add_right_comm _ _ _
  rw [number]
  exact .mk (.mk queued logged) shared

/-- The sum in type `int` gives the same result behind the shift. -/
def RstKeepsOrder (shift : UInt16) (rdp : Rdp) (header : RdpHeader) : Prop :=
  rstInSequence (rdp.shifted shift) (header.shifted shift) = rstInSequence rdp header

theorem rdpSeqValid_shift (shift : UInt16) (rdp : Rdp) (seqNr : UInt16) :
    rdpSeqValid (rdp.shifted shift) (seqNr + shift) = rdpSeqValid rdp seqNr := by
  have start : rdp.rcvCur + shift + 1 = rdp.rcvCur + 1 + shift := add_right_comm _ _ _
  have last : rdp.rcvCur + shift + (rdp.windowSize * 2).toUInt16 =
      rdp.rcvCur + (rdp.windowSize * 2).toUInt16 + shift :=
    add_right_comm _ _ _
  simp only [rdpSeqValid, rdpSeqBetween, Rdp.shifted, start, last, add_sub_add_right_eq_sub]

theorem rdpAckValid_shift (shift : UInt16) (rdp : Rdp) (ackNr : UInt16) :
    rdpAckValid (rdp.shifted shift) (ackNr + shift) = rdpAckValid rdp ackNr := by
  have start : rdp.sndUna + shift - 1 - (rdp.windowSize * 2).toUInt16 =
      rdp.sndUna - 1 - (rdp.windowSize * 2).toUInt16 + shift := by
    rw [add_sub_right_comm, add_sub_right_comm]
  have last : rdp.sndNxt + shift - 1 = rdp.sndNxt - 1 + shift := add_sub_right_comm _ _ _
  simp only [rdpAckValid, rdpSeqBetween, Rdp.shifted, start, last, add_sub_add_right_eq_sub]

/-- The accept queue of the socket does not matter to the flush. -/
theorem rdpOpenServer_flush (ctx : Ctx cfg) (eack : Packet) :
    (rdpOpenServer ctx).2.stack.now = ctx.stack.now ∧
      (rdpOpenServer ctx).2.flushTaken eack = ctx.flushTaken eack := by
  simp only [rdpOpenServer]
  split
  · exact ⟨rfl, rfl⟩
  · simp only [Stack.post]
    cases (ctx.stack.sockets _).rxQueue.enqueue (.inr ctx.conn.index) with
    | none => exact ⟨rfl, rfl⟩
    | some queue => exact ⟨rfl, rfl⟩

/-- The state machine reads the list of this EACK. -/
structure ReadsEack (ctx : Ctx cfg) (header : RdpHeader) (packet : Packet) : Prop where
  flags : header.has rdpSyn = false ∧ header.has rdpAck = true ∧ header.has rdpEak = true
  valid : rdpSeqValid ctx.conn.rdp header.seqNr = true ∧ rdpAckValid ctx.conn.rdp header.ackNr = true
  opens : ctx.conn.rdp.state = .synRcvd → header.ackNr = ctx.conn.rdp.sndIss ∧ (rdpOpenServer ctx).1 = true
  long : rdpHeaderSize < packet.length.toNat

section Branches
variable {first second : Ctx cfg} (twin : first.Twin True shift base second) (header : RdpHeader)
include twin

theorem rdpRstAck_twin : (rdpRstAck first header).Twin True shift base (rdpRstAck second (header.shifted shift)) := by
  have same : (header.shifted shift).has rdpAck = header.has rdpAck := rfl
  simp only [rdpRstAck, same]
  split
  · exact twin.ack header
  · exact twin

variable {packet packet' : Packet} (host : packet.HostTwin shift (header.has rdpEak) packet')
include host

theorem rdpRecvRst_twin
    (order : first.conn.rdp.state ≠ .closed → first.conn.rdp.state ≠ .closeWait →
      RstKeepsOrder shift first.conn.rdp header) :
    (rdpRecvRst first header packet).Twin shift base (rdpRecvRst second (header.shifted shift) packet') := by
  have acked := rdpRstAck_twin twin header
  have state : (rdpRstAck first header).conn.rdp.state = first.conn.rdp.state := by
    unfold rdpRstAck
    split <;> rfl
  have cur : (rdpRstAck first header).conn.rdp.rcvCur = first.conn.rdp.rcvCur := by
    unfold rdpRstAck
    split <;> rfl
  rw [← state] at order
  have order' : (rdpRstAck first header).conn.rdp.state ≠ .closed →
      (rdpRstAck first header).conn.rdp.state ≠ .closeWait →
      rstInSequence (rdpRstAck second (header.shifted shift)).conn.rdp (header.shifted shift) =
        rstInSequence (rdpRstAck first header).conn.rdp header := by
    intro notClosed notWaiting
    have keeps := order notClosed notWaiting
    rw [acked.rdp]
    rw [RstKeepsOrder, rstInSequence, rstInSequence, Rdp.shifted] at keeps
    simp only [rstInSequence, Rdp.shifted, cur]
    exact keeps
  simp only [rdpRecvRst]
  generalize rdpRstAck first header = left at acked order'
  generalize rdpRstAck second (header.shifted shift) = right at acked order'
  rw [acked.state]
  cases now : left.conn.rdp.state with
  | closed =>
      refine ⟨?_, host.toSameBuffer, acked.relax⟩
      obtain ⟨⟨_, _⟩, _⟩ := acked
      rfl
  | closeWait => exact ⟨rfl, host.toSameBuffer, acked.relax⟩
  | _ =>
      simp only [order' (by simp [now]) (by simp [now])]
      split
      · exact ⟨rfl, host.toSameBuffer, (rdpReply_twin acked.closeWait (by decide) (by decide)).relax⟩
      · exact ⟨rfl, host.toSameBuffer, acked.relax⟩

theorem rdpRecvSynSent_twin :
    (rdpRecvSynSent first header packet).Twin shift base (rdpRecvSynSent second (header.shifted shift) packet') := by
  have flag : ∀ flag, (header.shifted shift).has flag = header.has flag := fun _ => rfl
  have accepted : { second.conn.rdp with
      rcvCur := header.seqNr + shift
      rcvIrs := header.seqNr + shift
      rcvLsa := header.seqNr + shift - 1
      sndUna := header.ackNr + shift + 1
      ackTimestamp := second.stack.now
      state := .open } =
      Rdp.shifted shift { first.conn.rdp with
        rcvCur := header.seqNr
        rcvIrs := header.seqNr
        rcvLsa := header.seqNr - 1
        sndUna := header.ackNr + 1
        ackTimestamp := first.stack.now
        state := .open } := by
    simp only [twin.rdp, twin.now, Rdp.shifted, Rdp.mk.injEq, true_and, and_true]
    exact ⟨add_right_comm _ _ _, add_sub_right_comm _ _ _⟩
  have opened := twin.setRdp accepted
  have answered := (rdpReply_twin opened (by decide : (rdpAck &&& rdpEak != 0) = false) (by decide)).post
  simp only [rdpRecvSynSent, flag]
  split
  · exact ⟨rfl, host.toSameBuffer, answered.relax⟩
  · split
    · have reset := (rdpReply_twin twin (by decide : (rdpRst &&& rdpEak != 0) = false) (by decide)).post
      exact ⟨rfl, host.toSameBuffer, reset.relax⟩
    · exact ⟨rfl, host.toSameBuffer, twin.relax⟩

omit twin in
theorem rdpRecvData_twin (twin : first.Twin False shift base second) (plain : header.has rdpEak = false) :
    (rdpRecvData first header packet).Twin shift base (rdpRecvData second (header.shifted shift) packet') := by
  have next : (header.shifted shift).seqNr = second.conn.rdp.rcvCur + 1 ↔
      header.seqNr = first.conn.rdp.rcvCur + 1 := by
    rw [twin.rdp]
    exact next_shift
  simp only [rdpRecvData, ← host.length, ne_eq, next]
  split
  · exact ⟨rfl, host.toSameBuffer, twin⟩
  · rename_i long
    have stored := host.stored plain (not_le.mp long)
    split
    · obtain @⟨conn, stack, conns, shared⟩ := twin
      obtain ⟨fresh, added⟩ := rdpRxQueueAdd_twin first.conn.index header.seqNr shared (stored first.conn.index)
      have number : (header.shifted shift).seqNr = header.seqNr + shift := rfl
      simp only [conns.index, number]
      generalize rdpRxQueueAdd first.stack first.conn.index packet header.seqNr = result at fresh added
      generalize rdpRxQueueAdd stack first.conn.index packet' (header.seqNr + shift) = result' at fresh added
      obtain ⟨flag, after⟩ := result
      obtain ⟨flag', after'⟩ := result'
      obtain rfl : flag = flag' := fresh
      have both : Ctx.Twin False shift base ⟨first.conn, after⟩ ⟨conn, after'⟩ := .mk conns added
      cases flag with
      | false => exact ⟨rfl, host.toSameBuffer, rdpCheckAck_twin both⟩
      | true => exact ⟨rfl, host.toSameBuffer, rdpSendEack_twin both⟩
    · obtain @⟨conn, stack, conns, shared⟩ := twin
      have tagged := (stored 0).user
      have user : (rdpHeaderRemove packet).UserTwin False (rdpHeaderRemove packet') :=
        ⟨⟨tagged.buf, tagged.quarantine⟩, tagged.id, tagged.payload⟩
      obtain ⟨err, received, freed⟩ := rdpReceiveData_twin conns user
      generalize rdpReceiveData first.conn packet = result at err received freed
      generalize rdpReceiveData conn packet' = result' at err received freed
      obtain ⟨code, after, rest⟩ := result
      obtain ⟨code', after', rest'⟩ := result'
      obtain rfl : code = code' := err
      cases code with
      | none =>
          have advanced : Ctx.Twin False shift base ⟨{ after with rdp.rcvCur := header.seqNr }, first.stack⟩
              ⟨{ after' with rdp.rcvCur := header.seqNr + shift }, stack⟩ := by
            obtain ⟨queued, logged⟩ := received
            exact .mk (.mk queued logged) shared
          exact ⟨rfl, freed, rdpRxQueueFlush_twin (rdpCheckAck_twin advanced)⟩
      | _ => exact ⟨rfl, freed, .mk received shared⟩

omit twin in
theorem rdpRecvAcked_twin (twin : first.Twin False shift base second)
    (order : header.has rdpEak = true → rdpHeaderSize < packet.length.toNat →
      FlushKeepsOrder shift packet first.stack.now (first.flushTaken packet)) :
    (rdpRecvAcked first header packet).Twin shift base (rdpRecvAcked second (header.shifted shift) packet') := by
  have acked := twin.ack header
  have flag : (header.shifted shift).has rdpEak = header.has rdpEak := rfl
  simp only [rdpRecvAcked, flag, ← host.length]
  split
  · rename_i eack
    refine ⟨rfl, host.toSameBuffer, ?_⟩
    split
    · rename_i long
      exact rdpFlushEack_twin acked (host.list eack) (order eack long)
    · exact acked
  · rename_i plain
    exact rdpRecvData_twin header host acked (by simpa using plain)

omit host in
theorem rdpOpenServer_twin : (rdpOpenServer first).1 = (rdpOpenServer second).1 ∧
    (rdpOpenServer first).2.Twin True shift base (rdpOpenServer second).2 := by
  obtain ⟨⟨queued, logged⟩, ⟨output, tx, rx⟩⟩ := twin
  simp only [rdpOpenServer]
  split
  · exact ⟨rfl, .mk (.mk queued logged) (.mk output tx rx)⟩
  · simp only [Stack.post]
    cases (first.stack.sockets _).rxQueue.enqueue (.inr first.conn.index) with
    | none => exact ⟨rfl, .mk (.mk queued logged) (.mk output tx rx)⟩
    | some queue => exact ⟨rfl, .mk (.mk queued logged) (.mk output tx rx)⟩

theorem rdpRecvOpen_twin
    (order : ReadsEack first header packet →
      FlushKeepsOrder shift packet first.stack.now (first.flushTaken packet)) :
    (rdpRecvOpen first header packet).Twin shift base (rdpRecvOpen second (header.shifted shift) packet') := by
  have flag : ∀ flag, (header.shifted shift).has flag = header.has flag := fun _ => rfl
  have irs : (header.shifted shift).seqNr = second.conn.rdp.rcvIrs ↔ header.seqNr = first.conn.rdp.rcvIrs := by
    rw [twin.rdp]
    exact add_left_inj shift
  have iss : (header.shifted shift).ackNr = second.conn.rdp.sndIss ↔ header.ackNr = first.conn.rdp.sndIss := by
    rw [twin.rdp]
    exact add_left_inj shift
  have seqs : rdpSeqValid second.conn.rdp (header.shifted shift).seqNr = rdpSeqValid first.conn.rdp header.seqNr := by
    rw [twin.rdp]
    exact rdpSeqValid_shift _ _ _
  have acks : rdpAckValid second.conn.rdp (header.shifted shift).ackNr = rdpAckValid first.conn.rdp header.ackNr := by
    rw [twin.rdp]
    exact rdpAckValid_shift _ _ _
  simp only [rdpRecvOpen, flag, ne_eq, irs, iss, seqs, acks, twin.state]
  split
  · split
    · exact ⟨rfl, host.toSameBuffer, twin.relax⟩
    · exact ⟨rfl, host.toSameBuffer, twin.relax⟩
  · rename_i flags
    split
    · have again := rdpSendCmp_twin twin (by decide : ((rdpAck ||| rdpSyn) &&& rdpEak != 0) = false)
        (fun _ => trivial) first.conn.rdp.sndIss first.conn.rdp.rcvIrs
      have listed := rdpSendEack_twin twin
      refine ⟨rfl, host.toSameBuffer, ?_⟩
      rw [twin.rdp]
      split
      · exact again.relax
      · exact listed.relax
    · rename_i seqValid
      split
      · exact ⟨rfl, host.toSameBuffer, twin.relax⟩
      · rename_i ackValid
        simp only [Bool.or_eq_true, Bool.not_eq_true', not_or, Bool.not_eq_true, Bool.not_eq_false]
          at flags seqValid ackValid
        split
        · rename_i waits
          split
          · exact ⟨rfl, host.toSameBuffer, twin.relax⟩
          · rename_i own
            obtain ⟨result, opened⟩ := rdpOpenServer_twin twin
            obtain ⟨now, taken⟩ := rdpOpenServer_flush first packet
            have opens : header.has rdpEak = true → rdpHeaderSize < packet.length.toNat →
                (rdpOpenServer first).1 = true → ReadsEack first header packet := fun eack long success =>
              ⟨⟨flags.1, flags.2, eack⟩, ⟨seqValid, ackValid⟩, fun _ => ⟨not_not.mp own, success⟩, long⟩
            generalize rdpOpenServer first = left at result opened now taken opens
            generalize rdpOpenServer second = right at result opened
            obtain ⟨success, after⟩ := left
            obtain ⟨success', after'⟩ := right
            obtain rfl : success = success' := result
            cases success with
            | false => exact ⟨rfl, host.toSameBuffer, opened.relax⟩
            | true =>
                refine rdpRecvAcked_twin header host opened.relax fun eack long => ?_
                have keeps := order (opens eack long rfl)
                rwa [← now, ← taken] at keeps
        · rename_i waits
          exact rdpRecvAcked_twin header host twin.relax fun eack long =>
            order ⟨⟨flags.1, flags.2, eack⟩, ⟨seqValid, ackValid⟩, fun state => absurd state waits, long⟩

theorem rdpRecvCloseWait_twin :
    (rdpRecvCloseWait first header packet).Twin shift base
      (rdpRecvCloseWait second (header.shifted shift) packet') := by
  have flag : ∀ flag, (header.shifted shift).has flag = header.has flag := fun _ => rfl
  have acks : rdpAckValid second.conn.rdp (header.shifted shift).ackNr = rdpAckValid first.conn.rdp header.ackNr := by
    rw [twin.rdp]
    exact rdpAckValid_shift _ _ _
  have acked := twin.ack header
  simp only [rdpRecvCloseWait, flag, acks]
  split
  · exact ⟨rfl, host.toSameBuffer, twin.relax⟩
  · split
    · exact ⟨rfl, host.toSameBuffer, twin.relax⟩
    · have answered := rdpReply_twin acked (by decide : ((rdpAck ||| rdpRst) &&& rdpEak != 0) = false) (by decide)
      exact ⟨rfl, host.toSameBuffer, answered.relax⟩

end Branches

/-! ## Whole packets -/

theorem rdpFinish_twin {first second : RdpBranch cfg} (twin : first.Twin shift base second) :
    (rdpFinish first).1 = (rdpFinish second).1 ∧ (rdpFinish first).2.Twin False shift base (rdpFinish second).2 := by
  obtain ⟨exit, packet, ctx⟩ := twin
  have freed : ∀ {left right : Ctx cfg}, left.Twin False shift base right →
      (left.free first.packet).Twin False shift base (right.free second.packet) := by
    rintro left _ ⟨conns, shared⟩
    exact .mk conns (shared.free packet)
  simp only [rdpFinish, ← exit]
  split
  · exact ⟨rfl, freed (rdpDiscardClose_twin ctx _)⟩
  · exact ⟨rfl, freed ctx⟩
  · exact ⟨rfl, ctx⟩

/-- Outside of RDP_CLOSED, only the comparisons without wrap can tell two shifted runs apart. -/
theorem rdpNewPacket_twin {first second : Ctx cfg} (twin : first.Twin True shift base second)
    (active : first.conn.rdp.state ≠ .closed) {packet packet' : Packet} (received : packet.ReceivedTwin shift packet')
    (reset : packet.hasRdp rdpRst = true → first.conn.rdp.state ≠ .closeWait →
      RstKeepsOrder shift first.conn.rdp packet.header)
    (order : packet.hasRdp rdpRst = false → first.conn.rdp.state ≠ .closeWait → first.conn.rdp.state ≠ .synSent →
      ReadsEack first packet.header (rdpHeaderToHost packet) →
      FlushKeepsOrder shift (rdpHeaderToHost packet) first.stack.now (first.flushTaken (rdpHeaderToHost packet))) :
    (rdpNewPacket first packet).1 = (rdpNewPacket second packet').1 ∧
      (rdpNewPacket first packet).2.Twin False shift base (rdpNewPacket second packet').2 := by
  apply rdpFinish_twin
  have host := received.host
  have header := received.segment.header
  have flag : packet.header.has rdpRst = packet.hasRdp rdpRst := rfl
  have flag' : (packet.header.shifted shift).has rdpRst = packet.hasRdp rdpRst := rfl
  simp only [rdpNewPacketBody, header, flag, flag', twin.state]
  cases isReset : packet.hasRdp rdpRst with
  | true => exact rdpRecvRst_twin twin packet.header host fun _ notWaiting => reset isReset notWaiting
  | false =>
      cases state : first.conn.rdp.state with
      | closed => exact absurd state active
      | synSent => exact rdpRecvSynSent_twin twin packet.header host
      | closeWait => exact rdpRecvCloseWait_twin twin packet.header host
      | _ => exact rdpRecvOpen_twin twin packet.header host (order isReset (by simp [state]) (by simp [state]))

end Libcsp

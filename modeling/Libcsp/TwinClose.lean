/-
This file shows that the acknowledgements, the close functions, and csp_rdp_flush_eack keep two runs together.
-/
import Libcsp.TwinRdp

namespace Libcsp

variable {cfg : Config} {strict : Prop} {shift : UInt16} {base : List (CspId × Packet)}

/-! ## Relaxed relations -/

theorem Packet.SameBuffer.relax {first second : Packet} (same : first.SameBuffer strict second) :
    first.SameBuffer False second := ⟨same.buf, False.elim⟩

theorem Packet.UserTwin.relax {first second : Option Packet}
    (same : Option.Rel (Packet.UserTwin strict) first second) :
    Option.Rel (Packet.UserTwin False) first second := by
  cases same with
  | none => exact .none
  | some same => exact .some ⟨same.toSameBuffer.relax, same.id, same.payload⟩

/-- Without the quarantines of the free buffers, the runs are still together. -/
theorem Ctx.Twin.relax {first second : Ctx cfg} (twin : first.Twin strict shift base second) :
    first.Twin False shift base second := by
  obtain ⟨⟨queued, logged⟩, ⟨output, tx, rx⟩⟩ := twin
  have pools : first.stack.io.pool.Twin False _ :=
    ⟨output.pool.buffers.imp fun _ _ same => same.relax, output.pool.refcount⟩
  refine .mk (.mk (queued.imp fun _ _ => Packet.UserTwin.relax) (logged.imp fun _ _ => Packet.UserTwin.relax))
    (.mk { output with pool := pools } tx (rx.imp fun _ _ same => ?_))
  exact { same with quarantine := False.elim }

/-! ## Acknowledgements -/

theorem Conn.Twin.shouldAck {first second : Conn cfg} (twin : first.Twin strict shift second) (now : UInt32) :
    rdpShouldAck second now = rdpShouldAck first now := by
  cases twin
  have number : ∀ cur lsa count : UInt16,
      rdpSeqAfter (cur + shift) (lsa + shift + count) = rdpSeqAfter cur (lsa + count) := by
    intro cur lsa count
    have distance : lsa + shift + count - (cur + shift) = lsa + count - cur := by
      rw [add_right_comm, add_sub_add_right_eq_sub]
    rw [rdpSeqAfter, rdpSeqAfter, rdpSeqBefore, rdpSeqBefore, distance]
  simp only [rdpShouldAck, Rdp.shifted, number]

theorem rdpCheckAck_twin {first second : Ctx cfg} (twin : first.Twin strict shift base second) :
    (rdpCheckAck first).Twin strict shift base (rdpCheckAck second) := by
  have send := @rdpSendCmp_twin _ _ _ _ _ _ twin rdpAck (by decide) (fun syn => absurd (by decide) syn)
    first.conn.rdp.sndNxt first.conn.rdp.rcvCur
  obtain @⟨conn, stack, conns, shared⟩ := twin
  have now : stack.now = first.stack.now := by cases shared; rfl
  have short : rdpRxQueueShort conn = rdpRxQueueShort first.conn := by
    rw [rdpRxQueueShort, rdpRxQueueShort, conns.free, conns.rdp]
    rfl
  have snd : conn.rdp.sndNxt = first.conn.rdp.sndNxt + shift := by rw [conns.rdp]; rfl
  have rcv : conn.rdp.rcvCur = first.conn.rdp.rcvCur + shift := by rw [conns.rdp]; rfl
  simp only [rdpCheckAck, short, now, conns.shouldAck, snd, rcv]
  split
  · exact .mk conns shared
  · split
    · exact send
    · exact .mk conns shared

theorem Ctx.Twin.rdp {first second : Ctx cfg} (twin : first.Twin strict shift base second) :
    second.conn.rdp = first.conn.rdp.shifted shift := by
  obtain ⟨conns, _⟩ := twin
  exact conns.rdp

theorem Ctx.Twin.state {first second : Ctx cfg} (twin : first.Twin strict shift base second) :
    second.conn.rdp.state = first.conn.rdp.state := by
  rw [twin.rdp]
  rfl

theorem Stack.Twin.now {first second : Stack cfg} (twin : first.Twin strict shift base second) :
    second.now = first.now := by
  cases twin
  rfl

theorem Ctx.Twin.now {first second : Ctx cfg} (twin : first.Twin strict shift base second) :
    second.stack.now = first.stack.now := by
  obtain ⟨_, shared⟩ := twin
  exact shared.now

/-! ## Close -/

/-- The semaphore has no number. -/
theorem Ctx.Twin.post {first second : Ctx cfg} (twin : first.Twin strict shift base second) :
    Ctx.Twin strict shift base { first with conn.rdp.txWait := true } { second with conn.rdp.txWait := true } := by
  obtain ⟨⟨queued, logged⟩, shared⟩ := twin
  exact .mk (.mk queued logged) shared

/-- The replies of the state machine carry `snd_nxt` and `rcv_cur`. -/
theorem rdpReply_twin {first second : Ctx cfg} (twin : first.Twin strict shift base second) {flags : UInt8}
    (plain : (flags &&& rdpEak != 0) = false) (syn : flags &&& rdpSyn = 0) :
    (rdpSendCmp first none flags first.conn.rdp.sndNxt first.conn.rdp.rcvCur).2.Twin strict shift base
      (rdpSendCmp second none flags second.conn.rdp.sndNxt second.conn.rdp.rcvCur).2 := by
  have send := rdpSendCmp_twin twin plain (fun isSyn => absurd syn isSyn) first.conn.rdp.sndNxt first.conn.rdp.rcvCur
  obtain ⟨⟨_, _⟩, _⟩ := twin
  exact send

/-- The connection enters CLOSE_WAIT. -/
theorem Ctx.Twin.closeWait {first second : Ctx cfg} (twin : first.Twin strict shift base second) :
    Ctx.Twin strict shift base
      { first with conn := { first.conn with rdp.state := .closeWait, timestamp := first.stack.now } }
      { second with conn := { second.conn with rdp.state := .closeWait, timestamp := second.stack.now } } := by
  obtain ⟨⟨queued, logged⟩, ⟨output, tx, rx⟩⟩ := twin
  exact .mk (.mk queued logged) (.mk output tx rx)

theorem rdpEnterCloseWait_twin {first second : Ctx cfg} (twin : first.Twin strict shift base second)
    (sendRst : Bool) :
    (rdpEnterCloseWait first sendRst).Twin strict shift base (rdpEnterCloseWait second sendRst) := by
  cases sendRst with
  | false => exact twin.closeWait.post
  | true => exact (rdpReply_twin twin.closeWait (by decide) (by decide)).post

theorem rdpBeginClose_twin {first second : Ctx cfg} (twin : first.Twin strict shift base second) (closedBy : UInt8)
    (sendRst : Bool) :
    (rdpBeginClose first closedBy sendRst).Twin strict shift base (rdpBeginClose second closedBy sendRst) := by
  have noted : Ctx.Twin strict shift base
      { first with conn.rdp.closedBy := first.conn.rdp.closedBy ||| closedBy }
      { second with conn.rdp.closedBy := second.conn.rdp.closedBy ||| closedBy } := by
    obtain ⟨⟨queued, logged⟩, shared⟩ := twin
    exact .mk (.mk queued logged) shared
  unfold rdpBeginClose
  by_cases waiting : first.conn.rdp.state = .closeWait
  · rw [if_pos waiting, if_pos (twin.state.trans waiting)]
    exact noted
  · have waiting' : ¬second.conn.rdp.state = .closeWait := by rwa [twin.state]
    rw [if_neg waiting, if_neg waiting']
    exact rdpEnterCloseWait_twin noted sendRst

theorem rdpCloseInternal_twin {first second : Ctx cfg} (twin : first.Twin strict shift base second) (closedBy : UInt8)
    (sendRst : Bool) :
    (rdpCloseInternal first closedBy sendRst).1 = (rdpCloseInternal second closedBy sendRst).1 ∧
      (rdpCloseInternal first closedBy sendRst).2.Twin strict shift base
        (rdpCloseInternal second closedBy sendRst).2 := by
  rw [rdpCloseInternal_eq, rdpCloseInternal_eq]
  by_cases closed : first.conn.rdp.state = .closed
  · rw [if_pos closed, if_pos (twin.state.trans closed)]
    exact ⟨rfl, twin⟩
  · have closed' : ¬second.conn.rdp.state = .closed := by rwa [twin.state]
    rw [if_neg closed, if_neg closed']
    have begun := rdpBeginClose_twin twin closedBy sendRst
    generalize rdpBeginClose first closedBy sendRst = left at begun ⊢
    generalize rdpBeginClose second closedBy sendRst = right at begun ⊢
    obtain ⟨⟨queued, logged⟩, shared⟩ := begun
    by_cases all : left.conn.rdp.closedBy = rdpClosedByAll
    · simp only [Rdp.shifted, all, ne_eq, not_true_eq_false, if_false]
      exact ⟨trivial, .mk (.mk queued logged) shared⟩
    · simp only [Rdp.shifted, all, ne_eq, not_false_eq_true, if_true]
      exact ⟨trivial, .mk (.mk queued logged) shared⟩

/-! ## Release -/

theorem flushRxList_twin {first second : Io cfg} (twin : first.Twin strict (SentTwin shift) base second)
    {packets packets' : List (Option Packet)}
    (same : List.Forall₂ (Option.Rel (Packet.UserTwin strict)) packets packets') :
    (flushRxList first packets).Twin strict (SentTwin shift) base (flushRxList second packets') := by
  induction same generalizing first second with
  | nil => exact twin
  | cons head _ ih =>
      cases head with
      | none => exact ih twin
      | some same => exact ih (twin.free same.toSameBuffer)

theorem rdpQueueFlushList_twin {rel : Packet → Packet → Prop}
    (shape : ∀ packet packet', rel packet packet' → packet.SameBuffer strict packet')
    (tags : ∀ packet packet', rel packet packet' → packet.conn = packet'.conn) (conn : Option Nat)
    {first second : Pool cfg} (pools : first.Twin strict second) {packets packets' : List Packet}
    (same : List.Forall₂ rel packets packets') :
    (rdpQueueFlushList conn first packets).Twin strict (rdpQueueFlushList conn second packets') := by
  induction same generalizing first second with
  | nil => exact pools
  | cons head _ ih =>
      simp only [rdpQueueFlushList, ← tags _ _ head]
      apply ih
      split
      · exact bufferFree_twin pools (shape _ _ head)
      · exact pools

theorem rdpQueueFlush_twin {first second : Stack cfg} (twin : first.Twin strict shift base second)
    (conn : Option Nat) :
    (rdpQueueFlush first conn).Twin strict shift base (rdpQueueFlush second conn) := by
  obtain ⟨output, tx, rx⟩ := twin
  have flushedTx := rdpQueueFlushList_twin (fun _ _ twin => twin.sameShape.toSameBuffer)
    (fun _ _ twin => twin.conn) conn
    output.pool tx
  have flushedRx := rdpQueueFlushList_twin (fun _ _ twin => twin.toSameBuffer) (fun _ _ twin => twin.conn) conn
    flushedTx rx
  exact .mk (output.setPool flushedRx) .empty .empty

theorem connRelease_twin {first second : Ctx cfg} (twin : first.Twin strict shift base second) :
    (connRelease first).Twin strict shift base (connRelease second) := by
  obtain ⟨⟨queued, logged⟩, ⟨output, tx, rx⟩⟩ := twin
  have emptied := flushRxList_twin output queued
  by_cases rdp : first.conn.idin.has cspFRdp = true
  · simp only [connRelease, connFlushRxQueue, rdp, if_true]
    have flushed := rdpQueueFlush_twin (.mk emptied tx rx : Stack.Twin strict shift base
      { first.stack with io := flushRxList first.stack.io first.conn.rxQueue.items } _) (some first.conn.index)
    exact .mk (.mk .empty logged) flushed
  · simp only [connRelease, connFlushRxQueue, rdp]
    exact .mk (.mk .empty logged) (.mk emptied tx rx)

theorem connClose_twin {first second : Ctx cfg} (twin : first.Twin strict shift base second) (closedBy : UInt8) :
    (connClose first closedBy).Twin strict shift base (connClose second closedBy) := by
  have released := connRelease_twin twin
  obtain ⟨err, closed⟩ := rdpCloseInternal_twin twin closedBy true
  have state : second.conn.state = first.conn.state := by
    obtain ⟨⟨_, _⟩, _⟩ := twin
    rfl
  have uses : second.conn.usesRdp = first.conn.usesRdp := by
    obtain ⟨⟨_, _⟩, _⟩ := twin
    rfl
  simp only [connClose, rdpClose, state, uses]
  split
  · exact twin
  · split
    · generalize rdpCloseInternal first closedBy true = result at err closed
      generalize rdpCloseInternal second closedBy true = result' at err closed
      obtain ⟨code, after⟩ := result
      obtain ⟨code', after'⟩ := result'
      obtain rfl : code = code' := err
      cases code with
      | again => exact closed
      | _ => exact connRelease_twin closed
    · exact released

theorem rdpDiscardClose_twin {first second : Ctx cfg} (twin : first.Twin strict shift base second)
    (closedBy : UInt8) :
    (rdpDiscardClose first closedBy).Twin strict shift base (rdpDiscardClose second closedBy) := by
  have socket : second.conn.destSocket = first.conn.destSocket := by
    obtain ⟨⟨_, _⟩, _⟩ := twin
    rfl
  simp only [rdpDiscardClose, socket]
  split
  · have closed := connClose_twin twin closedBy
    generalize connClose first closedBy = left at closed
    generalize connClose second closedBy = right at closed
    obtain @⟨conn, stack, conns, shared⟩ := closed
    exact .mk (connEnqueuePacket_twin conns .none).2 shared
  · exact connClose_twin twin _

/-! ## The EACK of the peer -/

/-- The numbers of the list compare with that of the packet as they do behind the shift. -/
def Packet.KeepsOrder (packet : Packet) (shift : UInt16) (eack : Packet) : Prop :=
  packet.BelowListed eack ↔ ∃ number ∈ eackNumbers eack, packet.seqNr + shift < number + shift

instance (packet : Packet) (shift : UInt16) (eack : Packet) : Decidable (packet.KeepsOrder shift eack) :=
  inferInstanceAs (Decidable (packet.BelowListed eack ↔ ∃ number ∈ eackNumbers eack, _))

/-- The second list has the shifted numbers of the first one. -/
def ShiftsList (shift : UInt16) (eack eack' : Packet) : Prop :=
  eackNumbers eack' = (eackNumbers eack).map fun number => number + shift

theorem ShiftsList.lists {eack eack' : Packet} (numbers : ShiftsList shift eack eack') (seqNr : UInt16) :
    eackLists eack' (seqNr + shift) = eackLists eack seqNr := by
  rw [Bool.eq_iff_iff, eackLists_iff, eackLists_iff, numbers]
  exact List.mem_map_of_injective (add_left_injective shift)

theorem ShiftsList.below {eack eack' packet packet' : Packet} (numbers : ShiftsList shift eack eack')
    (seqNr : packet'.seqNr = packet.seqNr + shift) :
    packet'.BelowListed eack' ↔ ∃ number ∈ eackNumbers eack, packet.seqNr + shift < number + shift := by
  rw [Packet.BelowListed, numbers, seqNr]
  simp only [List.mem_map, exists_exists_and_eq_and]

theorem Packet.TxTwin.expedite {first second : Packet} (twin : first.TxTwin shift second)
    (now packetTimeout : UInt32) :
    (first.expedite now packetTimeout).TxTwin shift (second.expedite now packetTimeout) :=
  { twin with timestampTx := rfl, quarantine := rfl }

theorem eackMarkAll_twin {eack eack' packet packet' : Packet} (numbers : ShiftsList shift eack eack')
    (same : packet.TxTwin shift packet') (now packetTimeout : UInt32)
    (order : rdpTimeAfter now packet.rdpQuarantine = true → packet.KeepsOrder shift eack) :
    (eackMarkAll now packetTimeout eack packet).TxTwin shift (eackMarkAll now packetTimeout eack' packet') := by
  have selects : (packet'.BelowListed eack' ∧ rdpTimeAfter now packet'.rdpQuarantine = true) ↔
      (packet.BelowListed eack ∧ rdpTimeAfter now packet.rdpQuarantine = true) := by
    rw [numbers.below same.seqNr, ← same.quarantine]
    exact and_congr_left fun released => (order released).symm
  have marks := eackMarkAll_eq now packetTimeout eack packet
  have marks' := eackMarkAll_eq now packetTimeout eack' packet'
  by_cases selected : packet.BelowListed eack ∧ rdpTimeAfter now packet.rdpQuarantine = true
  · rw [marks.trans (if_pos selected), marks'.trans (if_pos (selects.mpr selected))]
    exact same.expedite now packetTimeout
  · rw [marks.trans (if_neg selected), marks'.trans (if_neg (selects.not.mpr selected))]
    exact same

/-- The packets that the rounds of `csp_rdp_flush_eack` take from the retransmission queue. -/
def rdpFlushTaken {capacity : Nat} (conn : Nat) (now packetTimeout : UInt32) (eack : Packet) :
    Nat → Shared cfg capacity → List Packet
  | 0, _ => []
  | count + 1, shared =>
      match rdpQueueGet shared conn with
      | (none, _) => []
      | (some packet, shared) =>
          let marked := eackMarkAll now packetTimeout eack packet
          packet ::
            if eackLists eack packet.seqNr then
              rdpFlushTaken conn now packetTimeout eack count (shared.1, bufferFree shared.2 (some marked))
            else rdpFlushTaken conn now packetTimeout eack count (rdpQueueAdd shared conn marked)

/-- The flush keeps no released packet whose order behind the shift is another one. -/
def FlushKeepsOrder (shift : UInt16) (eack : Packet) (now : UInt32) (taken : List Packet) : Prop :=
  ∀ packet ∈ taken, eackLists eack packet.seqNr = false → rdpTimeAfter now packet.rdpQuarantine = true →
    packet.KeepsOrder shift eack

theorem eackMarkAll_shape {eack eack' packet packet' : Packet} (same : packet.TxTwin shift packet')
    (now packetTimeout : UInt32) :
    (eackMarkAll now packetTimeout eack packet).SameBuffer False (eackMarkAll now packetTimeout eack' packet') := by
  refine ⟨?_, False.elim⟩
  rw [eackMarkAll_eq, eackMarkAll_eq]
  split <;> split <;> exact same.buf

theorem rdpFlushEackLoop_twin (conn : Nat) (packetTimeout : UInt32) {eack eack' : Packet}
    (numbers : ShiftsList shift eack eack') (count : Nat) {first second : Stack cfg}
    (twin : first.Twin False shift base second)
    (order : FlushKeepsOrder shift eack first.now (rdpFlushTaken conn first.now packetTimeout eack count first.tx)) :
    (rdpFlushEackLoop conn packetTimeout eack count first).Twin False shift base
      (rdpFlushEackLoop conn packetTimeout eack' count second) := by
  induction count generalizing first second with
  | zero => exact twin
  | succ count ih =>
      obtain ⟨found, taken⟩ := rdpQueueTxGet_twin twin conn
      simp only [rdpFlushTaken] at order
      simp only [rdpFlushEackLoop]
      generalize whole : rdpQueueTxGet first conn = result at found taken
      generalize rdpQueueTxGet second conn = result' at found taken
      simp only [rdpQueueTxGet] at whole
      generalize rdpQueueGet first.tx conn = got at order whole
      subst whole
      obtain ⟨packet, left⟩ := got
      obtain ⟨packet', left'⟩ := result'
      cases found with
      | none => exact taken
      | @some packet packet' same =>
          have now : left'.now = first.now := taken.now
          simp only [now, same.seqNr, numbers.lists] at order ⊢
          split at order
          · rename_i listed
            rw [if_pos listed, if_pos listed]
            exact ih (taken.free (eackMarkAll_shape same first.now packetTimeout))
              fun other member => order other (List.mem_cons_of_mem _ member)
          · rename_i unlisted
            rw [if_neg unlisted, if_neg unlisted]
            have marked := eackMarkAll_twin numbers same first.now packetTimeout
              (order packet List.mem_cons_self (by simpa using unlisted))
            exact ih (rdpQueueTxAdd_twin taken conn (marked.tagged conn))
              fun other member => order other (List.mem_cons_of_mem _ member)

/-- The packets that `csp_rdp_flush_eack` takes. -/
def Ctx.flushTaken (ctx : Ctx cfg) (eack : Packet) : List Packet :=
  rdpFlushTaken ctx.conn.index ctx.stack.now ctx.conn.rdp.packetTimeout eack ctx.stack.txQueue.size ctx.stack.tx

/-- In a queue of one connection, the rounds take each packet once. -/
theorem rdpFlushTaken_own {capacity : Nat} {conn : Nat} (now packetTimeout : UInt32) (eack : Packet)
    (unvisited visited : List Packet) {shared : Shared cfg capacity} (items : shared.1.items = unvisited ++ visited)
    (own : ∀ packet ∈ unvisited, packet.conn = conn) :
    rdpFlushTaken conn now packetTimeout eack unvisited.length shared = unvisited := by
  induction unvisited generalizing visited shared with
  | nil => rfl
  | cons head rest ih =>
      obtain ⟨headOwn, restOwn⟩ := List.forall_mem_cons.mp own
      obtain ⟨_, takes⟩ := rdpQueueGet_takes shared conn
      rw [items, List.cons_append] at takes
      obtain ⟨found, left⟩ := takes.of_own_head headOwn
      generalize whole : rdpQueueGet shared conn = result at found left
      obtain ⟨packet, after⟩ := result
      obtain rfl : packet = some head := found
      have left : after.1.items = rest ++ visited := left
      simp only [List.length_cons, rdpFlushTaken, whole]
      split
      · exact congrArg (head :: ·) (ih visited left restOwn)
      · have room : after.1.items.length < capacity := by
          have bounded := shared.1.bounded
          rw [items, List.cons_append, List.length_cons] at bounded
          rw [left]
          omega
        obtain ⟨added, _⟩ := rdpQueueAdd_room after conn (eackMarkAll now packetTimeout eack head) room
        rw [left, List.append_assoc] at added
        exact congrArg (head :: ·) (ih _ added restOwn)

theorem Ctx.flushTaken_own {ctx : Ctx cfg} (own : ctx.OwnsTx) (eack : Packet) :
    ctx.flushTaken eack = ctx.stack.txQueue.items :=
  rdpFlushTaken_own _ _ eack ctx.stack.txQueue.items [] (List.append_nil _).symm own

theorem rdpFlushEack_twin {first second : Ctx cfg} (twin : first.Twin False shift base second) {eack eack' : Packet}
    (numbers : ShiftsList shift eack eack')
    (order : FlushKeepsOrder shift eack first.stack.now (first.flushTaken eack)) :
    (rdpFlushEack first eack).Twin False shift base (rdpFlushEack second eack') := by
  obtain @⟨conn, stack, conns, shared⟩ := twin
  have size : stack.txQueue.size = first.stack.txQueue.size := by
    obtain ⟨_, tx, _⟩ := shared
    exact tx.size.symm
  have flushed := rdpFlushEackLoop_twin _ _ numbers _ shared order
  obtain ⟨queued, logged⟩ := conns
  simp only [rdpFlushEack, size]
  exact .mk (.mk queued logged) flushed

end Libcsp

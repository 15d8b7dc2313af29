/-
This file shows what two shifted runs have in common when csp_rdp_new_packet leaves them together.
-/
import Libcsp.TwinMachine

namespace Libcsp

variable {cfg : Config} {shift : UInt16}

/-! ## The reset -/

theorem connClose_waits {ctx : Ctx cfg} (waits : ctx.conn.rdp.state = .closeWait) (closedBy : UInt8) :
    (connClose ctx closedBy).conn.rdp.state = .closeWait ∨ (connClose ctx closedBy).conn.rdp.state = .closed := by
  rcases connClose_leaves ctx closedBy with same | ⟨_, left, changed⟩
  · exact .inl ((congrArg SendView.state same).trans waits)
  · rw [show (connClose ctx closedBy).conn.rdp.state = _ from congrArg SendView.state changed]
    exact left

/-- A RESET in sequence ends the connection, and any other leaves its state. -/
theorem rdpNewPacket_reset {ctx : Ctx cfg} {packet : Packet} (reset : packet.hasRdp rdpRst = true)
    (active : ctx.conn.rdp.state ≠ .closed) (talks : ctx.conn.rdp.state ≠ .closeWait) :
    if rstInSequence ctx.conn.rdp packet.header then
      (rdpNewPacket ctx packet).2.conn.rdp.state = .closeWait ∨ (rdpNewPacket ctx packet).2.conn.rdp.state = .closed
    else (rdpNewPacket ctx packet).2.conn.rdp.state = ctx.conn.rdp.state := by
  have flag : packet.header.has rdpRst = true := reset
  have state : (rdpRstAck ctx packet.header).conn.rdp.state = ctx.conn.rdp.state := by
    unfold rdpRstAck
    split <;> rfl
  have cur : (rdpRstAck ctx packet.header).conn.rdp.rcvCur = ctx.conn.rdp.rcvCur := by
    unfold rdpRstAck
    split <;> rfl
  have same : rstInSequence (rdpRstAck ctx packet.header).conn.rdp packet.header =
      rstInSequence ctx.conn.rdp packet.header := by
    rw [rstInSequence, rstInSequence, cur]
  simp only [rdpNewPacket, rdpNewPacketBody, flag, if_true, rdpRecvRst]
  generalize rdpRstAck ctx packet.header = acked at state same
  rw [← state] at active talks ⊢
  have ends : ∀ (ctx : Ctx cfg) (closedBy : UInt8), ctx.conn.rdp.state = .closeWait →
      (rdpDiscardClose ctx closedBy).conn.rdp.state = .closeWait ∨
        (rdpDiscardClose ctx closedBy).conn.rdp.state = .closed := by
    intro ctx closedBy waits
    obtain ⟨closedBy', _, _, same⟩ := rdpDiscardClose_changes ctx closedBy
    rw [same]
    exact connClose_waits waits closedBy'
  cases now : acked.conn.rdp.state with
  | closed => exact absurd now active
  | closeWait => exact absurd now talks
  | _ =>
      simp only [same]
      split
      · obtain ⟨_, _, _, _, _, sent⟩ := rdpSendCmp_changes
          { acked with conn := { acked.conn with rdp.state := .closeWait, timestamp := acked.stack.now } } none
          (rdpAck ||| rdpRst) acked.conn.rdp.sndNxt acked.conn.rdp.rcvCur
        rw [sent]
        exact ends _ _ rfl
      · exact now

/-! ## The queue behind a wrong choice -/

/-- Two queued packets have the same place in both runs. -/
def Packet.SameOrigin (shift : UInt16) (first second : Packet) : Prop :=
  first.conn = second.conn ∧ second.seqNr = first.seqNr + shift

/-- Further rounds neither free the packets nor change their different timers. -/
structure Settled (now packetTimeout : UInt32) (eack eack' first second : Packet) : Prop where
  unlisted : eackLists eack first.seqNr = false
  apart : first.rdpQuarantine ≠ second.rdpQuarantine
  stays : eackMarkAll now packetTimeout eack first = first
  stays' : eackMarkAll now packetTimeout eack' second = second

theorem eackMarkAll_tagged (now packetTimeout : UInt32) (eack packet : Packet) (conn : Nat) :
    eackMarkAll now packetTimeout eack (packet.tagged conn) =
      (eackMarkAll now packetTimeout eack packet).tagged conn := by
  have marks := eackMarkAll_eq now packetTimeout eack packet
  have marks' := eackMarkAll_eq now packetTimeout eack (packet.tagged conn)
  by_cases selected : packet.BelowListed eack ∧ rdpTimeAfter now packet.rdpQuarantine = true
  · rw [marks.trans (if_pos selected), marks'.trans (if_pos selected)]
    rfl
  · rw [marks.trans (if_neg selected), marks'.trans (if_neg selected)]

theorem Settled.tagged {now packetTimeout : UInt32} {eack eack' packet packet' : Packet}
    (settled : Settled now packetTimeout eack eack' packet packet') (conn : Nat) :
    Settled now packetTimeout eack eack' (packet.tagged conn) (packet'.tagged conn) :=
  ⟨settled.unlisted, settled.apart, by rw [eackMarkAll_tagged, settled.stays],
    by rw [eackMarkAll_tagged, settled.stays']⟩

theorem rdpQueueGetLoop_differ {capacity : Nat} {rel differs : Packet → Packet → Prop}
    (tags : ∀ packet packet', rel packet packet' → packet.conn = packet'.conn)
    (retag : ∀ conn packet packet', rel packet packet' → rel (packet.tagged conn) (packet'.tagged conn))
    (retag' : ∀ conn packet packet', differs packet packet' → differs (packet.tagged conn) (packet'.tagged conn))
    (conn count : Nat) {first second : Shared cfg capacity}
    (differ : BoundedQueue.Differ rel differs first.1.items second.1.items) :
    ((rdpQueueGetLoop conn count first).1 = none ∧ (rdpQueueGetLoop conn count second).1 = none ∧
        BoundedQueue.Differ rel differs (rdpQueueGetLoop conn count first).2.1.items
          (rdpQueueGetLoop conn count second).2.1.items) ∨
      ∃ packet packet', (rdpQueueGetLoop conn count first).1 = some packet ∧
        (rdpQueueGetLoop conn count second).1 = some packet' ∧ rel packet packet' ∧
        (BoundedQueue.Differ rel differs (rdpQueueGetLoop conn count first).2.1.items
            (rdpQueueGetLoop conn count second).2.1.items ∨
          (differs packet packet' ∧ List.Forall₂ rel (rdpQueueGetLoop conn count first).2.1.items
            (rdpQueueGetLoop conn count second).2.1.items)) := by
  induction count generalizing first second with
  | zero => exact .inl ⟨rfl, rfl, differ⟩
  | succ count ih =>
      obtain ⟨⟨items, bounded⟩, pool⟩ := first
      obtain ⟨⟨items', bounded'⟩, pool'⟩ := second
      cases differ with
      | @here head head' rest rest' same apart tail =>
          simp only [rdpQueueGetLoop, BoundedQueue.dequeue, ← tags _ _ same]
          split
          · exact .inr ⟨_, _, rfl, rfl, same, .inr ⟨apart, tail⟩⟩
          · apply ih
            rw [(rdpQueueAdd_room _ _ _ (Nat.lt_of_succ_le bounded)).1,
              (rdpQueueAdd_room _ _ _ (Nat.lt_of_succ_le bounded')).1]
            exact .last tail (retag conn _ _ same) (retag' conn _ _ apart)
      | @later head head' rest rest' same tail =>
          simp only [rdpQueueGetLoop, BoundedQueue.dequeue, ← tags _ _ same]
          split
          · exact .inr ⟨_, _, rfl, rfl, same, .inl tail⟩
          · apply ih
            rw [(rdpQueueAdd_room _ _ _ (Nat.lt_of_succ_le bounded)).1,
              (rdpQueueAdd_room _ _ _ (Nat.lt_of_succ_le bounded')).1]
            exact tail.concat (retag conn _ _ same)

/-- The marks do not touch the number. -/
theorem eackMarkAll_origin {eack eack' packet packet' : Packet} (same : packet.SameOrigin shift packet')
    (now packetTimeout : UInt32) (conn : Nat) :
    ((eackMarkAll now packetTimeout eack packet).tagged conn).SameOrigin shift
      ((eackMarkAll now packetTimeout eack' packet').tagged conn) := by
  have seqNr : ((eackMarkAll now packetTimeout eack packet).tagged conn).seqNr = packet.seqNr :=
    (eackMarkAll_same now packetTimeout eack packet).seqNr
  have seqNr' : ((eackMarkAll now packetTimeout eack' packet').tagged conn).seqNr = packet'.seqNr :=
    (eackMarkAll_same now packetTimeout eack' packet').seqNr
  refine ⟨(Packet.tagged_conn _ _).trans (Packet.tagged_conn _ _).symm, ?_⟩
  rw [seqNr, seqNr', same.2]

section Differ
variable {now packetTimeout : UInt32} {eack eack' : Packet} {first second : Stack cfg}

/-- The pair that differs stays in the queue, or both runs take it. -/
theorem rdpQueueTxGet_differ (conn : Nat)
    (differ : BoundedQueue.Differ (Packet.SameOrigin shift) (Settled now packetTimeout eack eack')
      first.txQueue.items second.txQueue.items) :
    ∃ found found' queue queue', rdpQueueTxGet first conn = (found, { first with txQueue := queue }) ∧
      rdpQueueTxGet second conn = (found', { second with txQueue := queue' }) ∧
      ((found = none ∧ found' = none ∧
          BoundedQueue.Differ (Packet.SameOrigin shift) (Settled now packetTimeout eack eack')
            queue.items queue'.items) ∨
        ∃ packet packet', found = some packet ∧ found' = some packet' ∧ packet.SameOrigin shift packet' ∧
          queue.items.length < cfg.rdpMaxWindow * 2 ∧ queue'.items.length < cfg.rdpMaxWindow * 2 ∧
          (BoundedQueue.Differ (Packet.SameOrigin shift) (Settled now packetTimeout eack eack')
              queue.items queue'.items ∨
            (Settled now packetTimeout eack eack' packet packet' ∧
              List.Forall₂ (Packet.SameOrigin shift) queue.items queue'.items))) := by
  have size : second.tx.1.size = first.tx.1.size := differ.length.symm
  have got := @rdpQueueGetLoop_differ cfg _ _ _ (fun _ _ same => same.1) (fun _ _ _ same => ⟨rfl, same.2⟩)
    (fun _ _ _ settled => settled.tagged _) conn first.tx.1.size first.tx second.tx differ
  obtain ⟨found, queue, taken, takes⟩ := rdpQueueTxGet_takes first conn
  obtain ⟨found', queue', taken', takes'⟩ := rdpQueueTxGet_takes second conn
  obtain rfl : (rdpQueueGetLoop conn first.tx.1.size first.tx).1 = found := congrArg Prod.fst taken
  obtain rfl : (rdpQueueGetLoop conn first.tx.1.size first.tx).2.1 = queue :=
    congrArg (fun result => result.2.txQueue) taken
  have loop' : rdpQueueTxGet second conn = ((rdpQueueGetLoop conn first.tx.1.size second.tx).1,
      second.setTx (rdpQueueGetLoop conn first.tx.1.size second.tx).2) := by
    rw [← size]
    rfl
  obtain rfl : (rdpQueueGetLoop conn first.tx.1.size second.tx).1 = found' :=
    congrArg Prod.fst (loop'.symm.trans taken')
  obtain rfl : (rdpQueueGetLoop conn first.tx.1.size second.tx).2.1 = queue' :=
    congrArg (fun result => result.2.txQueue) (loop'.symm.trans taken')
  refine ⟨_, _, _, _, taken, taken', ?_⟩
  rcases got with none | ⟨packet, packet', some, some', same, rest⟩
  · exact .inl none
  · rw [some] at takes
    rw [some'] at takes'
    exact .inr ⟨packet, packet', some, some', same, room_of_takes takes, room_of_takes takes', rest⟩

/-- Two queues that differ once differ after all further rounds. -/
theorem rdpFlushEackLoop_differ (conn : Nat) (numbers : ShiftsList shift eack eack') (count : Nat)
    {first second : Stack cfg} (clock : first.now = now) (clock' : second.now = now)
    (differ : BoundedQueue.Differ (Packet.SameOrigin shift) (Settled now packetTimeout eack eack')
      first.txQueue.items second.txQueue.items) :
    BoundedQueue.Differ (Packet.SameOrigin shift) (Settled now packetTimeout eack eack')
      (rdpFlushEackLoop conn packetTimeout eack count first).txQueue.items
      (rdpFlushEackLoop conn packetTimeout eack' count second).txQueue.items := by
  induction count generalizing first second with
  | zero => exact differ
  | succ count ih =>
      obtain ⟨found, found', queue, queue', taken, taken', got⟩ := rdpQueueTxGet_differ conn differ
      have mark : ∀ packet, eackMarkAll first.now packetTimeout eack packet =
          eackMarkAll now packetTimeout eack packet :=
        fun _ => by rw [clock]
      have mark' : ∀ packet, eackMarkAll second.now packetTimeout eack' packet =
          eackMarkAll now packetTimeout eack' packet :=
        fun _ => by rw [clock']
      simp only [rdpFlushEackLoop, taken, taken']
      rcases got with ⟨rfl, rfl, differ⟩ | ⟨packet, packet', rfl, rfl, same, room, room', rest⟩
      · exact differ
      · simp only [same.2, numbers.lists, mark, mark']
        split
        · rename_i listed
          rcases rest with differ | ⟨settled, _⟩
          · exact @ih (Stack.free { first with txQueue := queue } _) (Stack.free { second with txQueue := queue' } _)
              clock clock' differ
          · exact absurd (listed.symm.trans settled.unlisted) (by decide)
        · have marked := @eackMarkAll_origin _ eack eack' _ _ same now packetTimeout conn
          obtain ⟨longer, added, items⟩ := rdpQueueTxAdd_room { first with txQueue := queue } conn
            (eackMarkAll now packetTimeout eack packet) room
          obtain ⟨longer', added', items'⟩ := rdpQueueTxAdd_room { second with txQueue := queue' } conn
            (eackMarkAll now packetTimeout eack' packet') room'
          rw [added, added']
          apply @ih { first with txQueue := longer } { second with txQueue := longer' } clock clock'
          change BoundedQueue.Differ _ _ longer.items longer'.items
          rw [items, items']
          rcases rest with differ | ⟨settled, related⟩
          · exact differ.concat marked
          · rw [settled.stays, settled.stays'] at marked ⊢
            exact .last related marked (settled.tagged conn)

end Differ

theorem Packet.TxTwin.origin {first second : Packet} (twin : first.TxTwin shift second) :
    first.SameOrigin shift second := ⟨twin.conn, twin.seqNr⟩

theorem Packet.not_released_expedite (packet : Packet) (now packetTimeout : UInt32) :
    rdpTimeAfter now (packet.expedite now packetTimeout).rdpQuarantine = false := by
  have half : (packetTimeout / 2).toNat < 2 ^ 31 := by
    have bound := packetTimeout.toNat_lt
    have quotient : (packetTimeout / 2).toNat = packetTimeout.toNat / 2 := UInt32.toNat_div _ _
    omega
  have elapsed : (now - now).toNat = 0 := by rw [UInt32.sub_self]; rfl
  have after := rdpTimeAfter_add_iff now (packetTimeout / 2) now
  rw [elapsed, WithinHalf] at after
  exact Bool.eq_false_iff.mpr fun late => by have := after.mp late; omega

/-- Behind a wrong choice, the two packets are settled. -/
theorem settled_of_wrong {eack eack' packet packet' : Packet} (numbers : ShiftsList shift eack eack')
    (same : packet.TxTwin shift packet') {now : UInt32} (packetTimeout : UInt32)
    (unlisted : eackLists eack packet.seqNr = false) (released : rdpTimeAfter now packet.rdpQuarantine = true)
    (wrong : ¬packet.KeepsOrder shift eack) :
    Settled now packetTimeout eack eack' (eackMarkAll now packetTimeout eack packet)
      (eackMarkAll now packetTimeout eack' packet') := by
  have marks := eackMarkAll_eq now packetTimeout eack packet
  have marks' := eackMarkAll_eq now packetTimeout eack' packet'
  have released' : rdpTimeAfter now packet'.rdpQuarantine = true := same.quarantine ▸ released
  have order : ¬(packet.BelowListed eack ↔ packet'.BelowListed eack') := fun same' =>
    wrong (same'.trans (numbers.below same.seqNr))
  have settle : ∀ (eack packet : Packet),
      eackMarkAll now packetTimeout eack (packet.expedite now packetTimeout) = packet.expedite now packetTimeout := by
    intro eack packet
    refine (eackMarkAll_eq _ _ _ _).trans (if_neg fun selected => ?_)
    exact absurd (selected.2.symm.trans (packet.not_released_expedite now packetTimeout)) (by decide)
  by_cases below : packet.BelowListed eack
  · have above : ¬packet'.BelowListed eack' := fun below' => order (iff_of_true below below')
    rw [marks.trans (if_pos ⟨below, released⟩), marks'.trans (if_neg fun selected => above selected.1)]
    refine ⟨unlisted, fun same' => ?_, settle eack packet, marks'.trans (if_neg fun selected => above selected.1)⟩
    have fresh := packet.not_released_expedite now packetTimeout
    rw [same', released'] at fresh
    cases fresh
  · have below' : packet'.BelowListed eack' := not_not.mp fun above => order (iff_of_false below above)
    rw [marks.trans (if_neg fun selected => below selected.1), marks'.trans (if_pos ⟨below', released'⟩)]
    refine ⟨unlisted, fun same' => ?_, marks.trans (if_neg fun selected => below selected.1), settle eack' packet'⟩
    have fresh := packet'.not_released_expedite now packetTimeout
    rw [← same', released] at fresh
    cases fresh

theorem rdpQueueTxGet_room {stack : Stack cfg} {conn : Nat} {packet : Packet}
    (found : (rdpQueueTxGet stack conn).1 = some packet) :
    (rdpQueueTxGet stack conn).2.txQueue.items.length < cfg.rdpMaxWindow * 2 := by
  obtain ⟨_, queue, taken, takes⟩ := rdpQueueTxGet_takes stack conn
  rw [taken] at found ⊢
  obtain rfl := found
  exact room_of_takes takes

/-- The packet goes back with two different timers, and both stay until the last round. -/
theorem rdpFlushEackLoop_apart (conn : Nat) (packetTimeout : UInt32) {base : List (CspId × Packet)}
    {eack eack' : Packet}
    (numbers : ShiftsList shift eack eack') (count : Nat) {first second : Stack cfg}
    (twin : first.Twin False shift base second) {packet packet' : Packet}
    (seqNr : packet'.seqNr = packet.seqNr + shift)
    (settled : Settled first.now packetTimeout eack eack' packet packet')
    (room : first.txQueue.items.length < cfg.rdpMaxWindow * 2) :
    ¬(rdpFlushEackLoop conn packetTimeout eack count (rdpQueueTxAdd first conn packet)).txQueue.Related
      (Packet.TxTwin shift)
      (rdpFlushEackLoop conn packetTimeout eack' count (rdpQueueTxAdd second conn packet')).txQueue := by
  have related : List.Forall₂ (Packet.SameOrigin shift) first.txQueue.items second.txQueue.items := by
    obtain ⟨_, tx, _⟩ := twin
    exact List.Forall₂.imp (fun _ _ same => same.origin) tx
  obtain ⟨queue, added, items⟩ := rdpQueueTxAdd_room first conn packet room
  obtain ⟨queue', added', items'⟩ := rdpQueueTxAdd_room second conn packet' (related.length_eq ▸ room)
  rw [added, added']
  have differ : BoundedQueue.Differ (Packet.SameOrigin shift) (Settled first.now packetTimeout eack eack')
      queue.items queue'.items := by
    rw [items, items']
    exact .last related ⟨rfl, seqNr⟩ (settled.tagged conn)
  have last := @rdpFlushEackLoop_differ cfg shift first.now packetTimeout eack eack' conn numbers count
    { first with txQueue := queue } { second with txQueue := queue' } rfl twin.now differ
  exact last.not_related fun _ _ settled same => settled.apart same.quarantine

/-- Queues that stay together were treated alike in each round. -/
theorem rdpFlushEackLoop_order (conn : Nat) (packetTimeout : UInt32) {base : List (CspId × Packet)}
    {eack eack' : Packet}
    (numbers : ShiftsList shift eack eack') (count : Nat) {first second : Stack cfg}
    (twin : first.Twin False shift base second)
    (together : (rdpFlushEackLoop conn packetTimeout eack count first).txQueue.Related (Packet.TxTwin shift)
      (rdpFlushEackLoop conn packetTimeout eack' count second).txQueue) :
    FlushKeepsOrder shift eack first.now (rdpFlushTaken conn first.now packetTimeout eack count first.tx) := by
  induction count generalizing first second with
  | zero => exact fun _ member => absurd member List.not_mem_nil
  | succ count ih =>
      obtain ⟨found, taken⟩ := rdpQueueTxGet_twin twin conn
      have room := fun packet => @rdpQueueTxGet_room cfg first conn packet
      simp only [rdpFlushTaken]
      simp only [rdpFlushEackLoop] at together
      generalize whole : rdpQueueTxGet first conn = result at found taken together room
      generalize rdpQueueTxGet second conn = result' at found taken together
      simp only [rdpQueueTxGet] at whole
      generalize rdpQueueGet first.tx conn = got at whole ⊢
      subst whole
      obtain ⟨packet, left⟩ := got
      obtain ⟨packet', left'⟩ := result'
      cases found with
      | none => exact fun _ member => absurd member List.not_mem_nil
      | @some packet packet' same =>
          have now : left'.now = first.now := taken.now
          simp only [now, same.seqNr, numbers.lists] at together ⊢
          by_cases listed : eackLists eack packet.seqNr = true
          · rw [if_pos listed, if_pos listed] at together
            rw [if_pos listed]
            have rest := ih (taken.free (eackMarkAll_shape same first.now packetTimeout)) together
            intro other member unlisted released
            rcases List.mem_cons.mp member with rfl | member
            · exact absurd (listed.symm.trans unlisted) (by decide)
            · exact rest other member unlisted released
          · rw [if_neg listed, if_neg listed] at together
            rw [if_neg listed]
            have unlisted : eackLists eack packet.seqNr = false := by simpa using listed
            have right : rdpTimeAfter first.now packet.rdpQuarantine = true → packet.KeepsOrder shift eack := by
              intro released
              by_contra wrong
              have settled := settled_of_wrong numbers same packetTimeout unlisted released wrong
              have origin : (eackMarkAll first.now packetTimeout eack' packet').seqNr =
                  (eackMarkAll first.now packetTimeout eack packet).seqNr + shift :=
                (eackMarkAll_origin same.origin first.now packetTimeout conn).2
              exact rdpFlushEackLoop_apart conn packetTimeout numbers count taken origin settled
                (room packet rfl) together
            have marked := eackMarkAll_twin numbers same first.now packetTimeout right
            have rest := ih (rdpQueueTxAdd_twin taken conn (marked.tagged conn)) together
            intro other member unlisted released
            rcases List.mem_cons.mp member with rfl | member
            · exact right released
            · exact rest other member unlisted released

theorem Ctx.Twin.txQueue {strict : Prop} {base : List (CspId × Packet)} {first second : Ctx cfg}
    (twin : first.Twin strict shift base second) :
    first.stack.txQueue.Related (Packet.TxTwin shift) second.stack.txQueue := by
  obtain ⟨_, ⟨_, tx, _⟩⟩ := twin
  exact tx

theorem rdpFlushEack_order {base : List (CspId × Packet)} {first second : Ctx cfg}
    (twin : first.Twin False shift base second) {eack eack' : Packet} (numbers : ShiftsList shift eack eack')
    (together : (rdpFlushEack first eack).stack.txQueue.Related (Packet.TxTwin shift)
      (rdpFlushEack second eack').stack.txQueue) :
    FlushKeepsOrder shift eack first.stack.now (first.flushTaken eack) := by
  have size : second.stack.txQueue.size = first.stack.txQueue.size := twin.txQueue.size.symm
  obtain @⟨conn, stack, conns, shared⟩ := twin
  obtain ⟨queued, logged⟩ := conns
  simp only [rdpFlushEack, size] at together
  exact rdpFlushEackLoop_order _ _ numbers _ shared together

/-! ## The EACK of an open connection -/

/-- The state in which the list of an EACK is read. -/
def Ctx.eackStart (ctx : Ctx cfg) (header : RdpHeader) : Ctx cfg :=
  let opened := if ctx.conn.rdp.state = .synRcvd then (rdpOpenServer ctx).2 else ctx
  { opened with conn.rdp.sndUna := header.ackNr + 1 }

theorem rdpNewPacket_readsEack {ctx : Ctx cfg} {packet : Packet} (plain : packet.hasRdp rdpRst = false)
    (live : ctx.conn.rdp.state.Live) (reads : ReadsEack ctx packet.header (rdpHeaderToHost packet)) :
    (rdpNewPacket ctx packet).2 =
      (rdpFlushEack (ctx.eackStart packet.header) (rdpHeaderToHost packet)).free (rdpHeaderToHost packet) := by
  have flag : packet.header.has rdpRst = false := plain
  have body : rdpNewPacketBody ctx packet = rdpRecvOpen ctx packet.header (rdpHeaderToHost packet) := by
    simp only [rdpNewPacketBody, flag]
    rcases live with state | state
    · rw [state]
      rfl
    · rw [state]
      rfl
  rw [rdpNewPacket, body]
  simp only [rdpRecvOpen, reads.flags.1, reads.flags.2.1, reads.valid.1, reads.valid.2, Ctx.eackStart]
  by_cases waits : ctx.conn.rdp.state = .synRcvd
  · obtain ⟨own, success⟩ := reads.opens waits
    generalize rdpOpenServer ctx = opened at success
    obtain ⟨flag, after⟩ := opened
    obtain rfl : flag = true := success
    simp [waits, own, rdpRecvAcked, reads.flags.2.2, reads.long, rdpFinish]
  · simp [waits, rdpRecvAcked, reads.flags.2.2, reads.long, rdpFinish]

theorem ReadsEack.shifted {base : List (CspId × Packet)} {first second : Ctx cfg}
    (twin : first.Twin True shift base second) {header : RdpHeader} {packet packet' : Packet}
    (length : packet.length = packet'.length) (reads : ReadsEack first header packet) :
    ReadsEack second (header.shifted shift) packet' := by
  obtain ⟨result, _⟩ := rdpOpenServer_twin twin
  refine ⟨reads.flags, ⟨?_, ?_⟩, fun state => ?_, length ▸ reads.long⟩
  · rw [twin.rdp]
    exact (rdpSeqValid_shift _ _ _).trans reads.valid.1
  · rw [twin.rdp]
    exact (rdpAckValid_shift _ _ _).trans reads.valid.2
  · obtain ⟨own, success⟩ := reads.opens (twin.state.symm.trans state)
    rw [twin.rdp]
    exact ⟨congrArg (· + shift) own, result.symm.trans success⟩

theorem Ctx.eackStart_twin {base : List (CspId × Packet)} {first second : Ctx cfg}
    (twin : first.Twin True shift base second) (header : RdpHeader) :
    (first.eackStart header).Twin True shift base (second.eackStart (header.shifted shift)) := by
  obtain ⟨_, opened⟩ := rdpOpenServer_twin twin
  unfold Ctx.eackStart
  by_cases waits : first.conn.rdp.state = .synRcvd
  · rw [if_pos waits, if_pos (twin.state.trans waits)]
    exact opened.ack header
  · have waits' : ¬second.conn.rdp.state = .synRcvd := by rwa [twin.state]
    rw [if_neg waits, if_neg waits']
    exact twin.ack header

theorem Ctx.eackStart_flush (ctx : Ctx cfg) (header : RdpHeader) (eack : Packet) :
    (ctx.eackStart header).stack.now = ctx.stack.now ∧
      (ctx.eackStart header).flushTaken eack = ctx.flushTaken eack := by
  unfold Ctx.eackStart
  split
  · exact rdpOpenServer_flush ctx eack
  · exact ⟨rfl, rfl⟩

end Libcsp

/-
This file states what the state machine does to the receiving side of a connection.
-/
import Libcsp.ConnMachine

namespace Libcsp

variable {cfg : Config}

/-! ## Scans of a queue with one owner -/

/-- All packets of the reassembly queue belong to the connection. -/
def Ctx.OwnsRx (ctx : Ctx cfg) : Prop := ∀ packet ∈ ctx.stack.rxQueue.items, packet.conn = ctx.conn.index

theorem rdpQueueRxGet_own {stack : Stack cfg} {conn : Nat} {head : Packet} {rest : List Packet}
    (items : stack.rxQueue.items = head :: rest) (own : head.conn = conn) :
    ∃ queue, rdpQueueRxGet stack conn = (some head, { stack with rxQueue := queue }) ∧
      queue.items = rest := by
  obtain ⟨found, queue, got, takes⟩ := rdpQueueRxGet_takes stack conn
  rw [items] at takes
  obtain ⟨rfl, rest⟩ := takes.of_own_head own
  exact ⟨queue, got, rest⟩

theorem rdpQueueRxGet_empty {stack : Stack cfg} (conn : Nat) (items : stack.rxQueue.items = []) :
    rdpQueueRxGet stack conn = (none, stack) := by
  rw [rdpQueueRxGet, rdpQueueGet_empty conn items]
  rfl

/-- A get and an add of the own head rotate the queue by one. -/
theorem rdpQueueRx_rotate {stack : Stack cfg} {conn : Nat} {head : Packet} {rest : List Packet}
    (items : stack.rxQueue.items = head :: rest) (own : head.conn = conn) :
    ∃ queue rotated, rdpQueueRxGet stack conn = (some head, { stack with rxQueue := queue }) ∧
      queue.items = rest ∧
      rdpQueueRxAdd { stack with rxQueue := queue } conn head = { stack with rxQueue := rotated } ∧
      rotated.items = rest ++ [head] := by
  obtain ⟨queue, got, tail⟩ := rdpQueueRxGet_own items own
  have room : queue.items.length < cfg.rdpMaxWindow * 2 := by
    have bounded := stack.rxQueue.bounded
    rw [items, List.length_cons] at bounded
    rw [tail]
    omega
  obtain ⟨rotated, added, whole⟩ := rdpQueueRxAdd_room { stack with rxQueue := queue } conn head room
  refine ⟨queue, rotated, got, tail, added, ?_⟩
  rw [whole, tail, Packet.tagged_self own]

/-- The data of the packet is this list of sequence numbers. -/
structure Packet.ListsNumbers (packet : Packet) (numbers : List UInt16) : Prop where
  length : packet.length.toNat = 2 * numbers.length
  entries : (List.range numbers.length).map packet.data16 = numbers

theorem Packet.listsNumbers_nil (packet : Packet) : ({ packet with length := 0 } : Packet).ListsNumbers [] := ⟨rfl, rfl⟩

/-- The encoder stores the next number behind the others. -/
theorem Packet.ListsNumbers.concat {packet : Packet} {numbers : List UInt16} (lists : packet.ListsNumbers numbers)
    (short : numbers.length < 47) (seqNr : UInt16) :
    ({ packet with
        length := packet.length + 2
        mem := putBe16 packet.mem (dataAt + 2 * (packet.length.toNat / 2)) seqNr } : Packet).ListsNumbers
      (numbers ++ [seqNr]) := by
  have length := lists.length
  have place : 2 * (packet.length.toNat / 2) = 2 * numbers.length := by omega
  have two : (2 : UInt16).toNat = 2 := rfl
  constructor
  · simp only [UInt16.toNat_add, two, List.length_append, List.length_singleton]
    omega
  · rw [List.length_append, List.length_singleton, List.range_succ, List.map_append, List.map_singleton, place]
    apply congrArg₂
    · refine Eq.trans ?_ lists.entries
      apply List.map_congr_left
      intro index inside
      have before := List.mem_range.mp inside
      exact be16_putBe16_other (.inl (by omega))
    · exact congrArg (fun number => [number]) (be16_putBe16 _ _ _)

/-- The encoder turns the reassembly queue once around, and it lists each number while there is space. -/
theorem rdpEackLoop_lists (conn : Nat) (unvisited visited : List Packet) (eack : Packet) (numbers : List UInt16)
    (space : Nat) (stack : Stack cfg) (items : stack.rxQueue.items = unvisited ++ visited)
    (own : ∀ packet ∈ stack.rxQueue.items, packet.conn = conn) :
    ∃ queue, (rdpEackLoop conn unvisited.length eack space stack).2 = { stack with rxQueue := queue } ∧
      queue.items = visited ++ unvisited ∧
      (eack.ListsNumbers numbers → numbers.length + unvisited.length ≤ 47 → space = 95 - 2 * numbers.length →
        (rdpEackLoop conn unvisited.length eack space stack).1.ListsNumbers
          (numbers ++ unvisited.map Packet.hostSeqNr)) := by
  induction unvisited generalizing visited eack numbers space stack with
  | nil =>
      refine ⟨stack.rxQueue, rfl, items.trans (List.append_nil _).symm, fun lists _ _ => ?_⟩
      rw [List.map_nil, List.append_nil]
      exact lists
  | cons head unvisited ih =>
      rw [List.cons_append] at items
      obtain ⟨queue, rotated, got, _, added, whole⟩ := rdpQueueRx_rotate items (own head (by simp [items]))
      rw [List.append_assoc] at whole
      have own' : ∀ packet ∈ rotated.items, packet.conn = conn := by
        intro packet member
        apply own packet
        rw [whole] at member
        rw [items]
        simpa [or_comm, or_assoc, or_left_comm] using member
      simp only [List.length_cons, rdpEackLoop, got, added]
      split
      · obtain ⟨last, turned, order, lists'⟩ := ih (visited ++ [head])
          { eack with
            length := eack.length + 2
            mem := putBe16 eack.mem (dataAt + 2 * (eack.length.toNat / 2)) head.hostSeqNr }
          (numbers ++ [head.hostSeqNr]) (space - 2) { stack with rxQueue := rotated } whole own'
        refine ⟨last, turned, order.trans (List.append_assoc _ _ _), fun lists few free => ?_⟩
        have next := lists' (lists.concat (by omega) head.hostSeqNr)
          (by rw [List.length_append, List.length_singleton]; omega)
          (by rw [List.length_append, List.length_singleton]; omega)
        rw [List.append_assoc] at next
        exact next
      · rename_i full
        obtain ⟨last, turned, order, _⟩ := ih (visited ++ [head]) eack numbers space { stack with rxQueue := rotated }
          whole own'
        exact ⟨last, turned, order.trans (List.append_assoc _ _ _), fun _ few free => absurd (by omega) full⟩

/-- The search rotates a queue of own packets, and a full search without a match visits all. -/
theorem rdpSeqInRxLoop_own (conn : Nat) (seqNr : UInt16) (unvisited visited : List Packet)
    (stack : Stack cfg) (items : stack.rxQueue.items = unvisited ++ visited)
    (own : ∀ packet ∈ stack.rxQueue.items, packet.conn = conn) :
    ∃ found queue, rdpSeqInRxLoop conn seqNr unvisited.length stack =
        (found, { stack with rxQueue := queue }) ∧
      queue.items.Perm stack.rxQueue.items ∧
      (found = false → ∀ packet ∈ unvisited, packet.hostSeqNr ≠ seqNr) := by
  induction unvisited generalizing visited stack with
  | nil => exact ⟨false, _, rfl, .refl _, by simp⟩
  | cons head unvisited ih =>
      rw [List.cons_append] at items
      obtain ⟨queue, rotated, got, _, added, whole⟩ :=
        rdpQueueRx_rotate items (own head (by simp [items]))
      have turned : rotated.items.Perm stack.rxQueue.items := by
        rw [whole, items]
        exact List.perm_append_singleton _ _
      simp only [List.length_cons, rdpSeqInRxLoop, got, added]
      split
      · exact ⟨true, rotated, rfl, turned, by simp⟩
      · rename_i different
        obtain ⟨found, last, after, same, absent⟩ := ih (visited ++ [head])
          { stack with rxQueue := rotated } (by rw [whole, List.append_assoc])
          fun packet member => own packet (turned.mem_iff.mp member)
        refine ⟨found, last, after, same.trans turned, fun missing packet member => ?_⟩
        rcases List.mem_cons.mp member with rfl | member
        · exact different
        · exact absent missing packet member

/-- The reassembly queue takes a segment whose number it does not hold. -/
theorem rdpRxQueueAdd_own (stack : Stack cfg) (conn : Nat) (packet : Packet) (seqNr : UInt16)
    (own : ∀ packet ∈ stack.rxQueue.items, packet.conn = conn) :
    ∃ added after, rdpRxQueueAdd stack conn packet seqNr = (added, after) ∧
      (∃ io queue, after = { stack with io, rxQueue := queue } ∧
        (queue.items.Perm stack.rxQueue.items ∨
          (added = true ∧ queue.items.Perm (packet.tagged conn :: stack.rxQueue.items) ∧
            ∀ stored ∈ stack.rxQueue.items, stored.hostSeqNr ≠ seqNr))) := by
  obtain ⟨found, queue, searched, same, absent⟩ := rdpSeqInRxLoop_own conn seqNr
    stack.rxQueue.items [] stack (List.append_nil _).symm own
  simp only [rdpRxQueueAdd, rdpSeqInRxQueue, BoundedQueue.size, searched]
  cases found with
  | true => exact ⟨false, _, rfl, stack.io, queue, rfl, .inl same⟩
  | false =>
      by_cases room : queue.items.length < cfg.rdpMaxWindow * 2
      · obtain ⟨longer, added, whole⟩ :=
          rdpQueueRxAdd_room { stack with rxQueue := queue } conn packet room
        refine ⟨true, _, rfl, stack.io, longer, added, .inr ⟨rfl, ?_, absent rfl⟩⟩
        rw [whole]
        exact (List.perm_append_singleton _ _).trans (same.cons _)
      · have full : queue.items.length = cfg.rdpMaxWindow * 2 :=
          le_antisymm queue.bounded (not_lt.mp room)
        exact ⟨true, _, rfl, _, queue,
          rdpQueueRxAdd_full { stack with rxQueue := queue } conn packet full, .inl same⟩

/-- One pass of the flush rotates the queue or delivers the next segment. -/
theorem rdpRxFlushScan_own (count : Nat) (ctx : Ctx cfg) (own : ctx.OwnsRx) :
    ∃ goes after, rdpRxFlushScan count ctx = (goes, after) ∧
      ((∃ queue, after = { ctx with stack := { ctx.stack with rxQueue := queue } } ∧
          queue.items.Perm ctx.stack.rxQueue.items) ∨
        ∃ packet connQueue queue, packet.hostSeqNr = ctx.conn.rdp.rcvCur + 1 ∧
          ctx.stack.rxQueue.items.Perm (packet :: queue.items) ∧
          after =
            { conn := { ctx.conn with
                rxQueue := connQueue
                rxLog := ctx.conn.rxLog ++ [some (rdpHeaderRemove packet)]
                rdp := { ctx.conn.rdp with rcvCur := ctx.conn.rdp.rcvCur + 1 } }
              stack := { ctx.stack with rxQueue := queue } }) := by
  induction count generalizing ctx with
  | zero => exact ⟨_, _, rfl, .inl ⟨_, rfl, .refl _⟩⟩
  | succ count ih =>
      by_cases short : ctx.conn.rxQueue.free ≤ 2
      · exact ⟨false, ctx, by simp [rdpRxFlushScan, short], .inl ⟨_, rfl, .refl _⟩⟩
      simp only [rdpRxFlushScan, short, if_false]
      cases items : ctx.stack.rxQueue.items with
      | nil =>
          rw [rdpQueueRxGet_empty _ items]
          exact ⟨_, _, rfl, .inl ⟨_, rfl, by rw [items]⟩⟩
      | cons head rest =>
          obtain ⟨queue, rotated, got, tail, added, whole⟩ :=
            rdpQueueRx_rotate items (own head (by simp [items]))
          rw [got]
          simp only
          split
          · rename_i next
            have room : 0 < ctx.conn.rxQueue.free := by omega
            have fits : ctx.conn.rxQueue.items.length < cfg.connRxqueueLen := Nat.lt_of_sub_pos room
            rw [rdpReceiveData, connEnqueuePacket, BoundedQueue.enqueue_of_room _ fits]
            exact ⟨_, _, rfl, .inr ⟨head, _, queue, next, by rw [tail], rfl⟩⟩
          · have turned : rotated.items.Perm (head :: rest) := by
              rw [whole]
              exact List.perm_append_singleton _ _
            rw [added]
            obtain ⟨goes, after, passed, ends⟩ := ih ⟨ctx.conn, { ctx.stack with rxQueue := rotated }⟩
              fun packet member => own packet (by rw [items]; exact turned.mem_iff.mp member)
            refine ⟨goes, after, passed, ?_⟩
            rcases ends with ⟨last, same, order⟩ | ⟨packet, connQueue, last, next, order, same⟩
            · exact .inl ⟨last, same, order.trans turned⟩
            · exact .inr ⟨packet, connQueue, last, next, turned.symm.trans order, same⟩

/-! ## The flush -/

/-- The number of the last delivered segment, the history of deliveries, and the stored segments. -/
structure RxSide where
  rcvCur : UInt16
  rxLog : List (Option Packet)
  items : List Packet

/-- The next segment leaves the reassembly queue for the reader. -/
def RxSide.deliver (side : RxSide) (packet : Packet) (items : List Packet) : RxSide :=
  { rcvCur := side.rcvCur + 1, rxLog := side.rxLog ++ [some (rdpHeaderRemove packet)], items }

/-- A flush delivers next segments one after the other, and reorders the rest. -/
inductive Flushes : RxSide → RxSide → Prop where
  | reorder {side : RxSide} (items : List Packet) (order : items.Perm side.items) :
      Flushes side { side with items }
  | deliver {side after : RxSide} (packet : Packet) (rest : List Packet)
      (next : packet.hostSeqNr = side.rcvCur + 1) (order : side.items.Perm (packet :: rest))
      (more : Flushes (side.deliver packet rest) after) : Flushes side after

theorem Flushes.of_order {side after : RxSide} {items : List Packet} (order : items.Perm side.items)
    (flushes : Flushes { side with items } after) : Flushes side after := by
  cases flushes with
  | reorder items' order' => exact .reorder items' (order'.trans order)
  | deliver packet rest next order' more => exact .deliver packet rest next (order.symm.trans order') more

/-- The rule for the flush: a property survives it when it survives a reordering of the queue and
the delivery of the next segment. -/
theorem Flushes.invariant {Inv : RxSide → Prop}
    (reorder : ∀ (side : RxSide) (items : List Packet), items.Perm side.items → Inv side →
      Inv { side with items })
    (deliver : ∀ (side : RxSide) (packet : Packet) (rest : List Packet),
      packet.hostSeqNr = side.rcvCur + 1 → Inv { side with items := packet :: rest } →
        Inv (side.deliver packet rest))
    {before after : RxSide} (flushes : Flushes before after) (holds : Inv before) : Inv after := by
  induction flushes with
  | reorder items order => exact reorder _ items order holds
  | deliver packet rest next order _ ih =>
      exact ih (deliver _ packet rest next (reorder _ _ order.symm holds))

/-- The identity and the receiving side of a connection. -/
structure RxView extends RxSide where
  index : Nat
  idin : CspId
  connState : ConnState
  state : RdpState
  rcvIrs : UInt16
  windowSize : UInt32

def Ctx.rxView (ctx : Ctx cfg) : RxView :=
  { rcvCur := ctx.conn.rdp.rcvCur
    rxLog := ctx.conn.rxLog
    items := ctx.stack.rxQueue.items
    index := ctx.conn.index
    idin := ctx.conn.idin
    connState := ctx.conn.state
    state := ctx.conn.rdp.state
    rcvIrs := ctx.conn.rdp.rcvIrs
    windowSize := ctx.conn.rdp.windowSize }

/-- The passes of the flush change nothing else of the receiving side. -/
theorem rdpRxQueueFlush_flushes (ctx : Ctx cfg) (own : ctx.OwnsRx) :
    ∃ side, (rdpRxQueueFlush ctx).rxView = { ctx.rxView with toRxSide := side } ∧
      Flushes ctx.rxView.toRxSide side ∧ ∀ packet ∈ side.items, packet.conn = ctx.conn.index := by
  have passes : ∀ (passes : Nat) (ctx : Ctx cfg), ctx.OwnsRx →
      ∃ side, (rdpRxFlushLoop passes ctx).rxView = { ctx.rxView with toRxSide := side } ∧
        Flushes ctx.rxView.toRxSide side ∧
          ∀ packet ∈ side.items, packet.conn = ctx.conn.index := by
    intro passes
    induction passes with
    | zero => exact fun ctx own => ⟨_, rfl, .reorder _ (.refl _), own⟩
    | succ passes ih =>
        intro ctx own
        obtain ⟨goes, after, passed, ends⟩ :=
          rdpRxFlushScan_own ctx.stack.rxQueue.size ctx own
        rw [rdpRxFlushLoop, passed]
        rcases ends with ⟨queue, rfl, order⟩ | ⟨packet, connQueue, queue, next, order, rfl⟩
        · have own' : ∀ packet ∈ queue.items, packet.conn = ctx.conn.index :=
            fun packet member => own packet (order.mem_iff.mp member)
          cases goes with
          | false => exact ⟨_, rfl, .reorder _ order, own'⟩
          | true =>
              obtain ⟨side, same, flushes, own''⟩ :=
                ih ⟨ctx.conn, { ctx.stack with rxQueue := queue }⟩ own'
              exact ⟨side, same, flushes.of_order order, own''⟩
        · have own' : ∀ packet ∈ queue.items, packet.conn = ctx.conn.index :=
            fun other member => own other (order.mem_iff.mpr (List.mem_cons_of_mem _ member))
          cases goes with
          | false =>
              exact ⟨_, rfl, .deliver packet queue.items next order (.reorder _ (.refl _)), own'⟩
          | true =>
              obtain ⟨side, same, flushes, own''⟩ := ih
                { conn := { ctx.conn with
                    rxQueue := connQueue
                    rxLog := ctx.conn.rxLog ++ [some (rdpHeaderRemove packet)]
                    rdp := { ctx.conn.rdp with rcvCur := ctx.conn.rdp.rcvCur + 1 } }
                  stack := { ctx.stack with rxQueue := queue } } own'
              exact ⟨side, same, .deliver packet queue.items next order flushes, own''⟩
  exact passes _ ctx own

/-! ## One packet -/

/-- The close of a slot waits for the other parties, or it releases the queue. -/
inductive RxCloses (before : RxView) : RxView → Prop where
  | waits (rxLog : List (Option Packet)) : RxCloses before { before with state := .closeWait, rxLog }
  | releases (rxLog : List (Option Packet)) :
      RxCloses before { before with connState := .closed, state := .closed, items := [], rxLog }

/-- An open connection treats the packet as data. -/
def acceptsData (rdp : Rdp) (header : RdpHeader) : Bool :=
  !header.has rdpRst && !header.has rdpSyn && header.has rdpAck && !header.has rdpEak &&
    rdpSeqValid rdp header.seqNr && rdpAckValid rdp header.ackNr

/-- The reassembly queue gets this packet. -/
def Packet.received (packet : Packet) (conn : Nat) : Packet := (rdpHeaderToHost packet).tagged conn

theorem rdpHeaderToHost_hostSeqNr (packet : Packet) :
    (rdpHeaderToHost packet).hostSeqNr = packet.seqNr := by
  simp only [rdpHeaderToHost, Packet.hostSeqNr, rdpHeaderRef, le16_putLe16]
  rfl

/-- The conversion of the header does not touch the data in front of it. -/
theorem rdpHeaderToHost_body (packet : Packet) : (rdpHeaderToHost packet).body = packet.body := by
  unfold Packet.body Packet.dataBytes
  apply List.map_congr_left
  intro index inside
  have inside : index < packet.length.toNat - rdpHeaderSize := List.mem_range.mp inside
  have before : dataAt + index < rdpHeaderRef packet := by
    simp only [rdpHeaderRef]
    omega
  exact (putLe16_other (.inl (by omega))).trans (putLe16_other (.inl (by omega)))

theorem Packet.received_hostSeqNr (packet : Packet) (conn : Nat) :
    (packet.received conn).hostSeqNr = packet.seqNr := rdpHeaderToHost_hostSeqNr packet

/-- One packet does one of these things to the receiving side. -/
inductive RxStep (ctx : Ctx cfg) (packet : Packet) : RxView → Prop where
  | keeps (items : List Packet) (order : items.Perm ctx.stack.rxQueue.items) :
      RxStep ctx packet { ctx.rxView with items }
  | opens (received : ctx.conn.rdp.state = .synRcvd) (items : List Packet)
      (order : items.Perm ctx.stack.rxQueue.items) :
      RxStep ctx packet { ctx.rxView with state := .open, items }
  | stores (state : ctx.conn.rdp.state = .synRcvd ∨ ctx.conn.rdp.state = .open)
      (accepted : acceptsData ctx.conn.rdp packet.header = true)
      (long : rdpHeaderSize < packet.length.toNat)
      (absent : ∀ stored ∈ ctx.stack.rxQueue.items, stored.hostSeqNr ≠ packet.seqNr)
      (items : List Packet)
      (order : items.Perm (packet.received ctx.conn.index :: ctx.stack.rxQueue.items)) :
      RxStep ctx packet { ctx.rxView with state := .open, items }
  | delivers (state : ctx.conn.rdp.state = .synRcvd ∨ ctx.conn.rdp.state = .open)
      (accepted : acceptsData ctx.conn.rdp packet.header = true)
      (long : rdpHeaderSize < packet.length.toNat)
      (next : packet.seqNr = ctx.conn.rdp.rcvCur + 1) (room : 0 < ctx.conn.rxQueue.free)
      (side : RxSide)
      (flushes : Flushes
        (ctx.rxView.deliver (rdpHeaderToHost packet) ctx.stack.rxQueue.items) side) :
      RxStep ctx packet { ctx.rxView with state := .open, toRxSide := side }
  | accepts (closed : ctx.conn.rdp.state = .closed) (syn : packet.hasRdp rdpSyn = true)
      (windowSize : UInt32) :
      RxStep ctx packet { ctx.rxView with
        state := .synRcvd, rcvCur := packet.seqNr, rcvIrs := packet.seqNr, windowSize }
  | connects (sent : ctx.conn.rdp.state = .synSent) (syn : packet.hasRdp rdpSyn = true)
      (ack : packet.hasRdp rdpAck = true) :
      RxStep ctx packet { ctx.rxView with
        state := .open, rcvCur := packet.seqNr, rcvIrs := packet.seqNr }
  | closes (after : RxView) (closes : RxCloses ctx.rxView after) : RxStep ctx packet after

/-- All stored packets of the view belong to its connection. -/
def RxView.Owns (view : RxView) : Prop := ∀ packet ∈ view.items, packet.conn = view.index

theorem Flushes.sub {before after : RxSide} (flushes : Flushes before after) :
    ∀ packet ∈ after.items, packet ∈ before.items := by
  induction flushes with
  | reorder items order => exact fun packet member => order.mem_iff.mp member
  | deliver packet rest next order _ ih =>
      exact fun other member => order.mem_iff.mpr (List.mem_cons_of_mem _ (ih other member))

/-- A step never stores a packet of another connection. -/
theorem RxStep.owns {ctx : Ctx cfg} {packet : Packet} {after : RxView} (own : ctx.OwnsRx)
    (step : RxStep ctx packet after) : after.Owns := by
  cases step with
  | keeps items order => exact fun other member => own other (order.mem_iff.mp member)
  | opens _ items order => exact fun other member => own other (order.mem_iff.mp member)
  | stores _ _ _ _ items order =>
      intro other member
      rcases List.mem_cons.mp (order.mem_iff.mp member) with rfl | member
      · rfl
      · exact own other member
  | delivers _ _ _ _ _ side flushes => exact fun other member => own other (flushes.sub other member)
  | accepts => exact own
  | connects => exact own
  | closes after closes =>
      cases closes with
      | waits => exact own
      | releases =>
          intro other member
          cases member

theorem rdpSendCmp_rxView (ctx : Ctx cfg) (packet : Option Packet) (flags : UInt8)
    (seqNr ackNr : UInt16) : (rdpSendCmp ctx packet flags seqNr ackNr).2.rxView = ctx.rxView := by
  obtain ⟨_, _, _, _, _, sent⟩ := rdpSendCmp_changes ctx packet flags seqNr ackNr
  rw [sent]
  rfl

theorem rdpCheckAck_rxView (ctx : Ctx cfg) : (rdpCheckAck ctx).rxView = ctx.rxView := by
  obtain ⟨_, _, _, _, sent, _⟩ := rdpCheckAck_answers ctx
  rw [sent]
  rfl

theorem rdpFlushEack_rxView (ctx : Ctx cfg) (eack : Packet) :
    (rdpFlushEack ctx eack).rxView = ctx.rxView := by
  obtain ⟨_, _, flushed⟩ := rdpFlushEackLoop_changes ctx.conn.index ctx.conn.rdp.packetTimeout eack
    ctx.stack.txQueue.size ctx.stack
  rw [rdpFlushEack, flushed]
  rfl

theorem rdpSendEack_rxView {ctx : Ctx cfg} (own : ctx.OwnsRx) :
    ∃ items, items.Perm ctx.stack.rxQueue.items ∧
      (rdpSendEack ctx).2.rxView = { ctx.rxView with items } := by
  simp only [rdpSendEack]
  split
  · exact ⟨_, .refl _, rfl⟩
  · rename_i packet pool _
    obtain ⟨queue, scanned, order, _⟩ := rdpEackLoop_lists ctx.conn.index ctx.stack.rxQueue.items []
      { packet with length := 0 } [] (100 - rdpHeaderSize)
      { ctx.stack with io := { ctx.stack.io with pool } } (List.append_nil _).symm own
    simp only [BoundedQueue.size]
    rw [scanned, rdpSendCmp_rxView]
    exact ⟨queue.items, .of_eq order, rfl⟩

theorem connClose_rxCloses {ctx : Ctx cfg} (openRdp : ctx.OpenRdp) (closedBy : UInt8) :
    RxCloses ctx.rxView (connClose ctx closedBy).rxView := by
  rcases connClose_cases ctx closedBy with ⟨closed, _⟩ | ⟨_, ⟨_, _, _, _, _, _, _, _, _, same⟩ |
    ⟨_, _, ⟨_, ⟨_, _, _, _, _, _, _, _, _, same⟩, _⟩, flushed⟩ | ⟨plain, _⟩⟩
  · rw [openRdp.connState] at closed
    cases closed
  · rw [same]
    exact .waits _
  · have view : (connClose ctx closedBy).rxView =
        { ctx.rxView with
          connState := .closed
          state := .closed
          items := (connClose ctx closedBy).stack.rxQueue.items } := by
      rw [same]
      rfl
    rw [view, (flushed openRdp.rdp).2]
    exact .releases _
  · rw [openRdp.uses] at plain
    cases plain

theorem rdpDiscardClose_rxCloses {ctx : Ctx cfg} (openRdp : ctx.OpenRdp) (closedBy : UInt8) :
    RxCloses ctx.rxView (rdpDiscardClose ctx closedBy).rxView := by
  obtain ⟨closedBy', _, rxLog, same⟩ := rdpDiscardClose_changes ctx closedBy
  have closes := connClose_rxCloses openRdp closedBy'
  have view : (rdpDiscardClose ctx closedBy).rxView =
      { (connClose ctx closedBy').rxView with rxLog } := by
    rw [same]
    rfl
  rw [view]
  generalize (connClose ctx closedBy').rxView = after at closes
  cases closes with
  | waits => exact .waits _
  | releases => exact .releases _

theorem rdpFinish_discardOpen_rx (ctx : Ctx cfg) (closeConnection : Bool) (packet : Packet) :
    (rdpFinish ⟨.discardOpen closeConnection, packet, ctx⟩).2.rxView = ctx.rxView := rfl

theorem rdpFinish_discardClose_rx {ctx : Ctx cfg} (openRdp : ctx.OpenRdp) (closedBy : UInt8)
    (packet : Packet) :
    RxCloses ctx.rxView (rdpFinish ⟨.discardClose closedBy, packet, ctx⟩).2.rxView :=
  rdpDiscardClose_rxCloses openRdp closedBy

/-- What is changed before a close does not matter, as long as it is the state or the history. -/
theorem RxCloses.of_state {before after : RxView} (state : RdpState)
    (closes : RxCloses { before with state } after) : RxCloses before after := by
  cases closes with
  | waits rxLog => exact .waits rxLog
  | releases rxLog => exact .releases rxLog

theorem RxCloses.of_log {before after : RxView} (rxLog : List (Option Packet))
    (closes : RxCloses { before with rxLog } after) : RxCloses before after := by
  cases closes with
  | waits rxLog => exact .waits rxLog
  | releases rxLog => exact .releases rxLog

theorem RxStep.same (ctx : Ctx cfg) (packet : Packet) : RxStep ctx packet ctx.rxView :=
  .keeps _ (.refl _)

theorem rdpRecvRst_rx {ctx : Ctx cfg} (openRdp : ctx.OpenRdp) (header : RdpHeader)
    (freed packet : Packet) :
    RxStep ctx packet (rdpFinish (rdpRecvRst ctx header freed)).2.rxView := by
  have acked : (rdpRstAck ctx header).OpenRdp ∧ (rdpRstAck ctx header).rxView = ctx.rxView := by
    unfold rdpRstAck
    split
    · exact ⟨⟨openRdp.connState, openRdp.rdp⟩, rfl⟩
    · exact ⟨openRdp, rfl⟩
  obtain ⟨openRdp', view⟩ := acked
  have discards : ∀ closeConnection, RxStep ctx packet
      (rdpFinish ⟨.discardOpen closeConnection, freed, rdpRstAck ctx header⟩).2.rxView := by
    intro closeConnection
    rw [rdpFinish_discardOpen_rx, view]
    exact .same ctx packet
  simp only [rdpRecvRst]
  split
  · exact discards _
  · refine .closes _ ?_
    rw [← view]
    exact rdpFinish_discardClose_rx openRdp' _ freed
  · split
    · have answers := (rdpSendCmp_answers
        { rdpRstAck ctx header with conn := { (rdpRstAck ctx header).conn with
            timestamp := (rdpRstAck ctx header).stack.now
            rdp := { (rdpRstAck ctx header).conn.rdp with state := .closeWait } } }
        none (rdpRstAck ctx header).conn.rdp.sndNxt (rdpRstAck ctx header).conn.rdp.rcvCur
        (by decide : (rdpAck ||| rdpRst) &&& rdpSyn = 0) (.inl rfl)).helps
      have openAfter := answers.openRdp ⟨openRdp'.connState, openRdp'.rdp⟩
      have sent := rdpSendCmp_rxView
        { rdpRstAck ctx header with conn := { (rdpRstAck ctx header).conn with
            timestamp := (rdpRstAck ctx header).stack.now
            rdp := { (rdpRstAck ctx header).conn.rdp with state := .closeWait } } }
        none (rdpAck ||| rdpRst) (rdpRstAck ctx header).conn.rdp.sndNxt
        (rdpRstAck ctx header).conn.rdp.rcvCur
      generalize (rdpSendCmp _ _ _ _ _).2 = answered at openAfter sent
      have closes := rdpFinish_discardClose_rx openAfter
        (if useRdpFastClose then rdpClosedByProtocol ||| rdpClosedByTimeout else rdpClosedByProtocol)
        freed
      rw [sent] at closes
      refine .closes _ ?_
      rw [← view]
      exact closes.of_state .closeWait
    · exact discards _

theorem rdpRecvClosed_rx {ctx : Ctx cfg} (openRdp : ctx.OpenRdp) (packet freed : Packet)
    (closed : ctx.conn.rdp.state = .closed) :
    RxStep ctx packet (rdpFinish (rdpRecvClosed ctx packet.header freed)).2.rxView := by
  simp only [rdpRecvClosed]
  split
  · have openAfter := (rdpSendCmp_answers ctx none ctx.conn.rdp.sndNxt ctx.conn.rdp.rcvCur
      (by decide : rdpRst &&& rdpSyn = 0) (.inl rfl)).helps.openRdp openRdp
    have sent := rdpSendCmp_rxView ctx none rdpRst ctx.conn.rdp.sndNxt ctx.conn.rdp.rcvCur
    refine .closes _ ?_
    rw [← sent]
    exact rdpFinish_discardClose_rx openAfter _ freed
  · rename_i syn
    have syn : packet.header.has rdpSyn = true := by simpa using syn
    rw [rdpFinish_discardOpen_rx, rdpSendCmp_rxView]
    exact .accepts closed syn _

theorem rdpRecvSynSent_rx {ctx : Ctx cfg} (openRdp : ctx.OpenRdp) (packet freed : Packet)
    (sent : ctx.conn.rdp.state = .synSent) :
    RxStep ctx packet (rdpFinish (rdpRecvSynSent ctx packet.header freed)).2.rxView := by
  -- The post of the semaphore is not part of the view.
  have posted : ∀ middle : Ctx cfg, ({ middle with conn := { middle.conn with
      rdp := { middle.conn.rdp with txWait := true } } } : Ctx cfg).rxView = middle.rxView := fun _ => rfl
  simp only [rdpRecvSynSent]
  split
  · rename_i flags
    simp only [Bool.and_eq_true] at flags
    rw [rdpFinish_discardOpen_rx, posted, rdpSendCmp_rxView]
    exact .connects sent flags.1 flags.2
  · split
    · rw [rdpFinish_discardOpen_rx, posted, rdpSendCmp_rxView]
      exact .same ctx packet
    · exact .closes _ (rdpFinish_discardClose_rx openRdp _ freed)

theorem rdpRecvCloseWait_rx (ctx : Ctx cfg) (header : RdpHeader) (freed packet : Packet) :
    RxStep ctx packet (rdpFinish (rdpRecvCloseWait ctx header freed)).2.rxView := by
  simp only [rdpRecvCloseWait]
  split
  · exact .same ctx packet
  · split
    · exact .same ctx packet
    · rw [rdpFinish_discardOpen_rx, rdpSendCmp_rxView]
      exact .same ctx packet

/-- The data part stores the segment, or delivers it and flushes, or leaves the receiving side alone. -/
theorem rdpRecvData_rx {ctx : Ctx cfg} (own : ctx.OwnsRx) (header : RdpHeader) (packet : Packet) :
    (∃ items, items.Perm ctx.stack.rxQueue.items ∧
        (rdpFinish (rdpRecvData ctx header packet)).2.rxView = { ctx.rxView with items }) ∨
      (rdpHeaderSize < packet.length.toNat ∧
        (∀ stored ∈ ctx.stack.rxQueue.items, stored.hostSeqNr ≠ header.seqNr) ∧
        ∃ items, items.Perm (packet.tagged ctx.conn.index :: ctx.stack.rxQueue.items) ∧
          (rdpFinish (rdpRecvData ctx header packet)).2.rxView = { ctx.rxView with items }) ∨
      (rdpHeaderSize < packet.length.toNat ∧ header.seqNr = ctx.conn.rdp.rcvCur + 1 ∧
        0 < ctx.conn.rxQueue.free ∧
        ∃ side, Flushes (ctx.rxView.deliver packet ctx.stack.rxQueue.items) side ∧
          (rdpFinish (rdpRecvData ctx header packet)).2.rxView =
            { ctx.rxView with toRxSide := side }) := by
  simp only [rdpRecvData]
  split
  · exact .inl ⟨_, .refl _, rfl⟩
  · rename_i short
    have long : rdpHeaderSize < packet.length.toNat := not_le.mp short
    split
    · obtain ⟨added, after, stored, io, queue, same, order⟩ :=
        rdpRxQueueAdd_own ctx.stack ctx.conn.index packet header.seqNr own
      subst same
      rw [stored]
      cases added with
      | false =>
          have order : queue.items.Perm ctx.stack.rxQueue.items := by
            rcases order with order | ⟨added, _⟩
            · exact order
            · cases added
          refine .inl ⟨queue.items, order, ?_⟩
          rw [rdpFinish_discardOpen_rx, rdpCheckAck_rxView]
          rfl
      | true =>
          have own' : Ctx.OwnsRx ⟨ctx.conn, { ctx.stack with io, rxQueue := queue }⟩ := by
            intro other member
            rcases order with order | ⟨_, order, _⟩
            · exact own other (order.mem_iff.mp member)
            · rcases List.mem_cons.mp (order.mem_iff.mp member) with rfl | member
              · rfl
              · exact own other member
          obtain ⟨items, rotated, view⟩ := rdpSendEack_rxView own'
          rcases order with order | ⟨_, order, absent⟩
          · exact .inl ⟨items, rotated.trans order, view⟩
          · exact .inr (.inl ⟨long, absent, items, rotated.trans order, view⟩)
    · rename_i next
      have next : header.seqNr = ctx.conn.rdp.rcvCur + 1 := not_ne_iff.mp next
      by_cases room : 0 < ctx.conn.rxQueue.free
      · have fits : ctx.conn.rxQueue.items.length < cfg.connRxqueueLen := Nat.lt_of_sub_pos room
        rw [rdpReceiveData, connEnqueuePacket, BoundedQueue.enqueue_of_room _ fits]
        refine .inr (.inr ⟨long, next, room, ?_⟩)
        simp only
        have checked := rdpCheckAck_rxView
          { ctx with conn := { ctx.conn with
              rxQueue := ⟨ctx.conn.rxQueue.items ++ [some (rdpHeaderRemove packet)], by
                simp only [List.length_append, List.length_singleton]
                omega⟩
              rxLog := ctx.conn.rxLog ++ [some (rdpHeaderRemove packet)]
              rdp := { ctx.conn.rdp with rcvCur := header.seqNr } } }
        generalize rdpCheckAck _ = middle at checked
        have own' : middle.OwnsRx := by
          intro other member
          have items : middle.stack.rxQueue.items = ctx.stack.rxQueue.items :=
            congrArg (fun view => view.toRxSide.items) checked
          have index : middle.conn.index = ctx.conn.index := congrArg RxView.index checked
          exact (own other (items ▸ member)).trans index.symm
        obtain ⟨side, view, flushes, _⟩ := rdpRxQueueFlush_flushes middle own'
        refine ⟨side, ?_, ?_⟩
        · rw [checked] at flushes
          rw [next] at flushes
          exact flushes
        · change (rdpRxQueueFlush middle).rxView = _
          rw [view, checked]
          rfl
      · have full : ctx.conn.rxQueue.items.length = cfg.connRxqueueLen := by
          have bounded := ctx.conn.rxQueue.bounded
          simp only [BoundedQueue.free] at room
          omega
        rw [rdpReceiveData, connEnqueuePacket, BoundedQueue.enqueue_eq_none.mpr full]
        exact .inl ⟨_, .refl _, rfl⟩

/-- The rest of the case RDP_OPEN, after the checks, when the connection is or has just been open. -/
theorem rdpRecvAcked_rx {ctx middle : Ctx cfg} {packet : Packet} (own : ctx.OwnsRx)
    (state : ctx.conn.rdp.state = .synRcvd ∨ ctx.conn.rdp.state = .open)
    (view : middle.rxView = { ctx.rxView with state := .open })
    (free : middle.conn.rxQueue.free = ctx.conn.rxQueue.free)
    (accepted : packet.header.has rdpEak = false → acceptsData ctx.conn.rdp packet.header = true) :
    RxStep ctx packet
      (rdpFinish (rdpRecvAcked middle packet.header (rdpHeaderToHost packet))).2.rxView := by
  have items : middle.stack.rxQueue.items = ctx.stack.rxQueue.items :=
    congrArg (fun view => view.toRxSide.items) view
  have index : middle.conn.index = ctx.conn.index := congrArg RxView.index view
  have rcvCur : middle.conn.rdp.rcvCur = ctx.conn.rdp.rcvCur :=
    congrArg (fun view => view.toRxSide.rcvCur) view
  -- A step that only reorders opens the connection, or finds it open.
  have reorders : ∀ items', items'.Perm ctx.stack.rxQueue.items →
      RxStep ctx packet { middle.rxView with items := items' } := by
    intro items' order
    rw [view]
    rcases state with received | opened
    · exact .opens received items' order
    · have same : ({ ctx.rxView with state := .open } : RxView) = ctx.rxView := by
        rw [Ctx.rxView, opened]
      rw [same]
      exact .keeps items' order
  simp only [rdpRecvAcked]
  split
  · rw [rdpFinish_discardOpen_rx]
    split
    · rw [rdpFlushEack_rxView]
      exact reorders _ (by rw [items])
    · exact reorders _ (by rw [items])
  · rename_i data
    have accepted := accepted (by simpa using data)
    have own' : Ctx.OwnsRx
        { middle with conn := { middle.conn with
            rdp := { middle.conn.rdp with sndUna := packet.header.ackNr + 1 } } } :=
      fun other member => (own other (items ▸ member)).trans index.symm
    rcases rdpRecvData_rx own' packet.header (rdpHeaderToHost packet) with ⟨items', order, same⟩ |
      ⟨long, absent, items', order, same⟩ | ⟨long, next, room, side, flushes, same⟩
    · rw [same]
      exact reorders items' (order.trans (by rw [items]))
    · rw [same]
      change RxStep ctx packet { middle.rxView with items := items' }
      rw [view]
      refine .stores state accepted long (fun stored member => absent stored (items ▸ member)) items' ?_
      refine order.trans ?_
      change ((rdpHeaderToHost packet).tagged middle.conn.index :: middle.stack.rxQueue.items).Perm _
      rw [items, index]
      exact .refl _
    · rw [same]
      change RxStep ctx packet { middle.rxView with toRxSide := side }
      rw [view]
      refine .delivers state accepted long (next.trans ?_) (free ▸ room) side ?_
      · exact congrArg (· + 1) rcvCur
      · change Flushes (middle.rxView.deliver _ middle.stack.rxQueue.items) side at flushes
        rw [view, items] at flushes
        exact flushes

theorem rdpOpenServer_rx {ctx : Ctx cfg} (openRdp : ctx.OpenRdp) :
    (rdpOpenServer ctx).2.OpenRdp ∧
      (rdpOpenServer ctx).2.rxView = { ctx.rxView with state := .open } ∧
      (rdpOpenServer ctx).2.conn.rxQueue = ctx.conn.rxQueue := by
  simp only [rdpOpenServer]
  split
  · exact ⟨⟨openRdp.connState, openRdp.rdp⟩, rfl, rfl⟩
  · split
    · exact ⟨⟨openRdp.connState, openRdp.rdp⟩, rfl, rfl⟩
    · rename_i posted
      obtain ⟨_, rfl⟩ := Stack.post_changes posted
      exact ⟨⟨openRdp.connState, openRdp.rdp⟩, rfl, rfl⟩

theorem rdpRecvOpen_rx {ctx : Ctx cfg} (openRdp : ctx.OpenRdp) (own : ctx.OwnsRx) (packet : Packet)
    (rst : packet.header.has rdpRst = false)
    (state : ctx.conn.rdp.state = .synRcvd ∨ ctx.conn.rdp.state = .open) :
    RxStep ctx packet
      (rdpFinish (rdpRecvOpen ctx packet.header (rdpHeaderToHost packet))).2.rxView := by
  have discards : RxStep ctx packet
      (rdpFinish ⟨.discardOpen false, rdpHeaderToHost packet, ctx⟩).2.rxView := .same ctx packet
  have closes : RxStep ctx packet
      (rdpFinish ⟨.discardClose rdpClosedByProtocol, rdpHeaderToHost packet, ctx⟩).2.rxView :=
    .closes _ (rdpFinish_discardClose_rx openRdp _ _)
  simp only [rdpRecvOpen]
  split
  · split
    · exact closes
    · exact discards
  · rename_i flags
    split
    · rw [rdpFinish_discardOpen_rx]
      split
      · rw [rdpSendCmp_rxView]
        exact .same ctx packet
      · obtain ⟨items, order, view⟩ := rdpSendEack_rxView own
        rw [view]
        exact .keeps items order
    · rename_i seqValid
      split
      · exact discards
      · rename_i ackValid
        -- The checks so far are those of a data segment.
        have accepted : packet.header.has rdpEak = false →
            acceptsData ctx.conn.rdp packet.header = true := by
          intro data
          simp only [Bool.or_eq_true, Bool.not_eq_true', not_or, Bool.not_eq_true,
            Bool.not_eq_false] at flags seqValid ackValid
          simp [acceptsData, rst, flags, data, seqValid, ackValid]
        split
        · split
          · exact closes
          · obtain ⟨openRdp', view, queue⟩ := rdpOpenServer_rx openRdp
            generalize rdpOpenServer ctx = result at openRdp' view queue
            obtain ⟨_ | _, middle⟩ := result
            · have shut := rdpFinish_discardClose_rx openRdp' rdpClosedByProtocol
                (rdpHeaderToHost packet)
              rw [view] at shut
              exact .closes _ (shut.of_state .open)
            · exact rdpRecvAcked_rx own state view (congrArg BoundedQueue.free queue) accepted
        · rename_i notReceived
          have opened := state.resolve_left notReceived
          refine rdpRecvAcked_rx own state ?_ rfl accepted
          rw [Ctx.rxView, opened]

/-- This is all that one RDP packet does to the receiving side. -/
theorem rdpNewPacket_rx {ctx : Ctx cfg} (openRdp : ctx.OpenRdp) (own : ctx.OwnsRx) (packet : Packet) :
    RxStep ctx packet (rdpNewPacket ctx packet).2.rxView := by
  simp only [rdpNewPacket, rdpNewPacketBody]
  cases rst : packet.header.has rdpRst with
  | true => exact rdpRecvRst_rx openRdp packet.header _ packet
  | false =>
      rw [if_neg Bool.false_ne_true]
      cases state : ctx.conn.rdp.state with
      | closed => exact rdpRecvClosed_rx openRdp packet _ state
      | synSent => exact rdpRecvSynSent_rx openRdp packet _ state
      | synRcvd => exact rdpRecvOpen_rx openRdp own packet rst (.inl state)
      | «open» => exact rdpRecvOpen_rx openRdp own packet rst (.inr state)
      | closeWait => exact rdpRecvCloseWait_rx ctx packet.header _ packet

/-! ## The other inputs -/

/-- A close keeps a closed slot, or it releases the queue. -/
theorem connClose_rx {ctx : Ctx cfg} (rdp : ctx.conn.idin.has cspFRdp = true) (closedBy : UInt8) :
    connClose ctx closedBy = ctx ∨ RxCloses ctx.rxView (connClose ctx closedBy).rxView := by
  cases connState : ctx.conn.state with
  | closed => exact .inl (by simp [connClose, connState])
  | «open» => exact .inr (connClose_rxCloses ⟨connState, rdp⟩ closedBy)

theorem rdpTimeoutOpen_rxView (ctx : Ctx cfg) : (rdpTimeoutOpen ctx).rxView = ctx.rxView := by
  have acked : (if ctx.conn.rdp.delayedAcks ≠ 0 then rdpCheckAck ctx else ctx).rxView =
      ctx.rxView := by
    split
    · exact rdpCheckAck_rxView ctx
    · rfl
  simp only [rdpTimeoutOpen]
  generalize (if ctx.conn.rdp.delayedAcks ≠ 0 then rdpCheckAck ctx else ctx) = after at acked ⊢
  split
  · split
    · exact acked
    · exact acked
  · rfl

/-- The timers close the connection, or wait in CLOSE_WAIT, or flush the queue. -/
theorem rdpCheckTimeouts_rx {ctx : Ctx cfg} (openRdp : ctx.OpenRdp) (own : ctx.OwnsRx) :
    RxCloses ctx.rxView (rdpCheckTimeouts ctx).rxView ∨
      (ctx.conn.rdp.state = .closeWait ∧ rdpCheckTimeouts ctx = ctx) ∨
      ∃ side, Flushes ctx.rxView.toRxSide side ∧
        (rdpCheckTimeouts ctx).rxView = { ctx.rxView with toRxSide := side } := by
  simp only [rdpCheckTimeouts]
  split
  · exact .inl (connClose_rxCloses openRdp _)
  · split
    · rename_i waiting
      split
      · exact .inl (connClose_rxCloses openRdp _)
      · exact .inr (.inl ⟨waiting, rfl⟩)
    · obtain ⟨io, txQueue, looped⟩ := rdpTimeoutLoop_changes ctx.conn ctx.stack.txQueue.size ctx.stack
      rw [looped]
      have timed := rdpTimeoutOpen_rxView ⟨ctx.conn, { ctx.stack with io, txQueue }⟩
      generalize rdpTimeoutOpen _ = middle at timed
      have items : middle.stack.rxQueue.items = ctx.stack.rxQueue.items :=
        congrArg (fun view => view.toRxSide.items) timed
      have index : middle.conn.index = ctx.conn.index := congrArg RxView.index timed
      obtain ⟨side, view, flushes, _⟩ := rdpRxQueueFlush_flushes middle
        fun packet member => (own packet (items ▸ member)).trans index.symm
      rw [timed] at view flushes
      exact .inr (.inr ⟨side, flushes, view⟩)

theorem cspRead_rxView (ctx : Ctx cfg) : (cspRead ctx).2.rxView = ctx.rxView := by
  simp only [cspRead]
  split
  · rfl
  · split
    · rfl
    · split
      · rw [rdpCheckAck_rxView]
        rfl
      · rfl

theorem cspSend_rxView (ctx : Ctx cfg) (packet : Packet) :
    (cspSend ctx (some packet)).rxView = ctx.rxView := by
  have sent : (rdpSend ctx packet).2.2.rxView = ctx.rxView := by
    simp only [rdpSend]
    repeat' split
    all_goals first
      | rfl
      | simp only [rdpSendSegment]
        repeat' split
        all_goals rfl
  simp only [cspSend]
  split
  · rfl
  · split
    · generalize rdpSend ctx packet = result at sent
      obtain ⟨err, packet, after⟩ := result
      split
      · rename_i same
        cases same
        exact sent
      · rename_i same
        cases same
        exact sent
    · rfl

/-- A failed connect closes what the RDP module has left. -/
theorem rdpCloseInternal_rxCloses {ctx : Ctx cfg} (openRdp : ctx.OpenRdp) (closedBy : UInt8)
    (sendRst : Bool) :
    RxCloses ctx.rxView (cspClose (rdpCloseInternal ctx closedBy sendRst).2).rxView := by
  have changed : ∃ state, (rdpCloseInternal ctx closedBy sendRst).2.OpenRdp ∧
      (rdpCloseInternal ctx closedBy sendRst).2.rxView = { ctx.rxView with state } := by
    rcases rdpCloseInternal_cases ctx closedBy sendRst with ⟨_, same⟩ |
      ⟨_, _, _, _, _, _, _, ⟨_, same⟩ | ⟨_, same⟩⟩
    · rw [same]
      exact ⟨_, openRdp, rfl⟩
    · rw [same]
      exact ⟨.closeWait, ⟨openRdp.connState, openRdp.rdp⟩, rfl⟩
    · rw [same]
      exact ⟨.closed, ⟨openRdp.connState, openRdp.rdp⟩, rfl⟩
  obtain ⟨state, openRdp', view⟩ := changed
  have closes := connClose_rxCloses openRdp' rdpClosedByUserspace
  rw [view] at closes
  exact closes.of_state state

/-- An attempt to connect waits for its answer, or it gives up. -/
theorem rdpConnectAttempt_rx {ctx : Ctx cfg} (openRdp : ctx.OpenRdp)
    (notOpen : ctx.conn.rdp.state ≠ .open) :
    (connectResult (rdpConnectAttempt ctx)).rxView = { ctx.rxView with state := .synSent } ∨
      RxCloses ctx.rxView (connectResult (rdpConnectAttempt ctx)).rxView := by
  have view : (rdpSendSyn { ctx with conn := { ctx.conn with
      rdp := rdpNewAttempt cfg ctx.stack.now ctx.conn.rdp } }).2.rxView =
      { ctx.rxView with state := .synSent } := by
    simp only [rdpSendSyn]
    split
    · rfl
    · rw [rdpSendCmp_rxView]
      rfl
  have helps := rdpSendSyn_helps
    { ctx with conn := { ctx.conn with rdp := rdpNewAttempt cfg ctx.stack.now ctx.conn.rdp } }
  simp only [rdpConnectAttempt, notOpen, if_false]
  generalize rdpSendSyn _ = result at view helps
  obtain ⟨err, after⟩ := result
  split
  · rename_i same
    cases same
    exact .inl view
  · rename_i same
    cases same
    have closes := rdpCloseInternal_rxCloses
      (helps.openRdp ⟨openRdp.connState, openRdp.rdp⟩) rdpClosedByProtocol false
    rw [show after.rxView = _ from view] at closes
    exact .inr (closes.of_state .synSent)

/-- The first attempt also takes the window of the node options. -/
theorem rdpConnectStart_rx {ctx : Ctx cfg} (openRdp : ctx.OpenRdp)
    (notOpen : ctx.conn.rdp.state ≠ .open) :
    let view := { ctx.rxView with windowSize := ctx.stack.options.windowSize }
    let after := (connectResult (rdpConnectStart ctx)).rxView
    after = { view with state := .synSent } ∨ RxCloses view after := by
  simp only [rdpConnectStart]
  refine rdpConnectAttempt_rx ?_ ?_
  · exact ⟨openRdp.connState, openRdp.rdp⟩
  · exact notOpen

/-- The end of a wait keeps the receiving side, or starts the second attempt, or gives up. -/
theorem rdpConnectWake_rx {ctx : Ctx cfg} (openRdp : ctx.OpenRdp) (retry : Bool) :
    let after := (connectResult (rdpConnectWake ctx retry)).rxView
    after = ctx.rxView ∨ after = { ctx.rxView with state := .synSent, items := [] } ∨
      RxCloses ctx.rxView after ∨ RxCloses { ctx.rxView with items := [] } after := by
  simp only [rdpConnectWake]
  split
  · exact .inl rfl
  · split
    · rename_i again
      simp only [Bool.and_eq_true, decide_eq_true_eq] at again
      rcases @rdpConnectAttempt_rx cfg
        ⟨{ ctx.conn with rdp := { ctx.conn.rdp with txWait := false } },
          rdpQueueFlush ctx.stack (some ctx.conn.index)⟩
        ⟨openRdp.connState, openRdp.rdp⟩ (by simp [again.1.2]) with view | closes
      · exact .inr (.inl view)
      · exact .inr (.inr (.inr closes))
    · exact .inr (.inr (.inl (@rdpCloseInternal_rxCloses cfg
        ⟨{ ctx.conn with rdp := { ctx.conn.rdp with txWait := false } }, ctx.stack⟩
        ⟨openRdp.connState, openRdp.rdp⟩ rdpClosedByProtocol false)))

/-- A plain packet goes to the reader, unless a full accept queue closes the connection. -/
theorem routePlain_rx {ctx : Ctx cfg} (openRdp : ctx.OpenRdp) (packet : Packet) :
    (∃ rxLog, (routePlain ctx packet).rxView = { ctx.rxView with rxLog }) ∨
      RxCloses ctx.rxView (routePlain ctx packet).rxView := by
  obtain ⟨rxQueue, rxLog, enqueued⟩ := connEnqueuePacket_changes ctx.conn (some packet)
  simp only [routePlain]
  generalize connEnqueuePacket ctx.conn (some packet) = result at enqueued
  obtain ⟨err, conn⟩ := result
  rw [show conn = _ from enqueued]
  split
  · rename_i queued
    cases queued
    simp only [routePost]
    split
    · exact .inl ⟨rxLog, rfl⟩
    · split
      · exact .inr (RxCloses.of_log rxLog (@connClose_rxCloses cfg
          ⟨{ ctx.conn with rxQueue, rxLog }, ctx.stack⟩ ⟨openRdp.connState, openRdp.rdp⟩ _))
      · rename_i posted
        obtain ⟨_, rfl⟩ := Stack.post_changes posted
        exact .inl ⟨rxLog, rfl⟩
  · rename_i queued
    cases queued
    exact .inl ⟨rxLog, rfl⟩

end Libcsp

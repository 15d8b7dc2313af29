/-
This file determines when the retransmission queue keeps all unacknowledged segments.
-/
import Libcsp.SendWindow
import Libcsp.TxQueue

namespace Libcsp

variable {cfg : Config}

/-! ## The occupancy of the queue -/

/-- The numbers of the data segments in a queue. -/
def numbersOf (items : List Packet) : List (BitVec 16) :=
  (dataOf items).map fun segment => segment.1.toBitVec

/-- The queue holds numbers of the last `span` steps. A purge leaves no more than what is
unacknowledged. After the next packet, the span may exceed the window by what is sent since then. -/
def SpanBound (purged : Bool) (window lag span : Nat) : Prop :=
  if purged then span ≤ window ∧ (lag < 32768 → span ≤ lag)
  else span ≤ window ∨ (lag ≤ window ∧ span ≤ window + lag)

/-- One packet moves `snd_una` anywhere. -/
theorem SpanBound.arrive {window lag span : Nat} (bound : SpanBound true window lag span)
    (lag' : Nat) : SpanBound false window lag' span := .inl bound.1

theorem SpanBound.purge {purged : Bool} {window lag span : Nat}
    (bound : SpanBound purged window lag span) (half : lag < 32768) :
    SpanBound true window lag (min lag span) := by
  cases purged with
  | true =>
      obtain ⟨fits, near⟩ := bound
      have := near half
      exact ⟨by omega, fun _ => by omega⟩
  | false =>
      rcases bound with fits | ⟨fits, near⟩
      · exact ⟨by omega, fun _ => by omega⟩
      · exact ⟨by omega, fun _ => by omega⟩

theorem SpanBound.stale {purged : Bool} {window lag span : Nat}
    (bound : SpanBound purged window lag span) (small : window < 32768) (far : 32768 ≤ lag) :
    SpanBound true window lag span := by
  cases purged with
  | true => exact bound
  | false =>
      rcases bound with fits | ⟨fits, near⟩
      · exact ⟨fits, fun near => by omega⟩
      · omega

/-- A send needs a free place in the window of unacknowledged numbers. -/
theorem SpanBound.send {purged : Bool} {window lag span : Nat}
    (bound : SpanBound purged window lag span) (half : lag < 32768) (room : lag + 1 ≤ window) :
    SpanBound purged window (lag + 1) (span + 1) := by
  cases purged with
  | true =>
      obtain ⟨fits, near⟩ := bound
      have := near half
      exact ⟨by omega, fun _ => by omega⟩
  | false =>
      rcases bound with fits | ⟨fits, near⟩
      · exact .inr (by omega)
      · exact .inr (by omega)

/-- The span never reaches half a turn behind `snd_una`. -/
theorem SpanBound.reach {purged : Bool} {window lag span : Nat}
    (bound : SpanBound purged window lag span) (small : window < 32768) : span ≤ 32768 + lag := by
  cases purged with
  | true =>
      obtain ⟨fits, _⟩ := bound
      omega
  | false => rcases bound with fits | ⟨fits, near⟩ <;> omega

/-- Two windows are enough for what a send finds in the queue. -/
theorem SpanBound.room {purged : Bool} {window lag span : Nat}
    (bound : SpanBound purged window lag span) (room : lag + 1 ≤ window) : span < 2 * window := by
  cases purged with
  | true =>
      obtain ⟨fits, _⟩ := bound
      omega
  | false =>
      rcases bound with fits | ⟨fits, near⟩
      · omega
      · omega

/-! ## The history of a run -/

/-- The history names the accepted segments that are neither acknowledged nor listed by an EACK. It
also says whether the timers have run since the last packet. -/
structure RetainRun (cfg : Config) where
  ctx : Ctx cfg
  purged : Bool
  unacked : List (UInt16 × List UInt8)

/-- The acknowledgement that the state machine stores covers this number. -/
def coversSeq (rdp : Rdp) (packet : Packet) (seqNr : UInt16) : Bool :=
  storesAck rdp packet.header && rdpSeqBefore seqNr (packet.header.ackNr + 1)

/-- The EACK that the state machine processes lists this number. -/
def listsSeq (rdp : Rdp) (packet : Packet) (seqNr : UInt16) : Bool :=
  takesEack rdp packet && eackLists packet seqNr

/-- The unacknowledged segments after one event in an open connection. -/
def RetainRun.history (run : RetainRun cfg) : ConnInput cfg → List (UInt16 × List UInt8)
  | .send packet =>
      if acceptsSend run.ctx packet then
        run.unacked ++ [(run.ctx.conn.rdp.sndNxt, packet.payload)]
      else run.unacked
  | .arrive packet =>
      if packet.id.has cspFRdp then
        run.unacked.filter fun segment =>
          !coversSeq run.ctx.conn.rdp packet segment.1 && !listsSeq run.ctx.conn.rdp packet segment.1
      else run.unacked
  | _ => run.unacked

/-- The timers have run since the last packet. -/
def hasPurged (purged : Bool) : ConnInput cfg → Bool
  | .timeouts => true
  | .arrive _ => false
  | _ => purged

/-- The history starts anew with each handshake. -/
def whileOpen (unacked : List (UInt16 × List UInt8)) : RdpState → List (UInt16 × List UInt8)
  | .open => unacked
  | _ => []

def RetainRun.step (run : RetainRun cfg) (input : ConnInput cfg) : RetainRun cfg :=
  { ctx := connStep run.ctx input
    purged := hasPurged run.purged input
    unacked := whileOpen (run.history input) (connStep run.ctx input).conn.rdp.state }

/-- `csp_route_work` runs the timers before it takes a packet. -/
def timersFirst (purged : Bool) : ConnInput cfg → Prop
  | .arrive _ => purged = true
  | _ => True

def retainMachine (cfg : Config) : Machine (RetainRun cfg) (ConnInput cfg) where
  initial run := run.ctx.Fresh ∧ run.purged = true ∧ run.unacked = []
  step := RetainRun.step
  allowed run input := connAllowed run.ctx input ∧ timersFirst run.purged input

/-- An accepted send finds `snd_nxt` not before `snd_una`, and no copy of a SYN in a full queue. -/
def SendsWithRoom (run : RetainRun cfg) : ConnInput cfg → Prop
  | .send packet =>
      acceptsSend run.ctx packet = true →
        rdpSeqBefore run.ctx.conn.rdp.sndNxt run.ctx.conn.rdp.sndUna = false ∧
          (run.ctx.stack.txQueue.items.length = cfg.rdpMaxWindow * 2 →
            ∀ packet ∈ run.ctx.stack.txQueue.items, packet.hasRdp rdpSyn = false)
  | _ => True

/-! ## The invariant -/

/-- The build allows this window. -/
def SendView.Windowed (cfg : Config) (view : SendView) : Prop :=
  1 ≤ view.windowSize.toNat ∧ view.windowSize.toNat ≤ cfg.rdpMaxWindow

/-- This invariant of the retransmission queue holds in every state of a run. -/
structure Retains (cfg : Config) (view : SendView) (items : List Packet) (purged : Bool)
    (unacked : List (UInt16 × List UInt8)) : Prop where
  rdp : view.idin.has cspFRdp = true
  own : ∀ packet ∈ items, packet.conn = view.index
  before : view.state = .closed ∨ view.state = .synSent ∨ view.state = .synRcvd → dataOf items = []
  idle : view.state ≠ .open → unacked = []
  retained : view.state = .open → view.Windowed cfg → ∀ segment ∈ unacked,
    segment ∈ dataOf items ∧ rdpSeqBefore segment.1 view.sndUna = false
  recent : view.state = .open → view.Windowed cfg → ∃ span,
    Serial.Recent view.sndNxt.toBitVec span (numbersOf items) ∧
      SpanBound purged view.windowSize.toNat (seqAhead view.sndUna view.sndNxt) span

def RetainRun.Sound (run : RetainRun cfg) : Prop :=
  Retains cfg run.ctx.sendView run.ctx.stack.txQueue.items run.purged run.unacked

/-- A connection that is not open retains nothing. -/
theorem Retains.notOpen {view : SendView} {items : List Packet} {purged : Bool}
    (rdp : view.idin.has cspFRdp = true) (own : ∀ packet ∈ items, packet.conn = view.index)
    (before : view.state = .closed ∨ view.state = .synSent ∨ view.state = .synRcvd →
      dataOf items = []) (state : view.state ≠ .open) : Retains cfg view items purged [] where
  rdp := rdp
  own := own
  before := before
  idle _ := rfl
  retained _ _ := by simp
  recent opened := absurd opened state

/-- A connection that has just been opened has sent nothing. -/
theorem Retains.opens {view : SendView} {items : List Packet} {purged : Bool}
    (rdp : view.idin.has cspFRdp = true) (own : ∀ packet ∈ items, packet.conn = view.index)
    (nothing : dataOf items = []) : Retains cfg view items purged [] where
  rdp := rdp
  own := own
  before _ := nothing
  idle _ := rfl
  retained _ _ := by simp
  recent _ _ := by
    refine ⟨0, ?_, ?_⟩
    · rw [numbersOf, nothing]
      exact .nil _ _
    · cases purged with
      | true => exact ⟨Nat.zero_le _, fun _ => Nat.zero_le _⟩
      | false => exact .inl (Nat.zero_le _)

theorem Ctx.TxCloses.retains {ctx after : Ctx cfg} (closes : ctx.TxCloses after)
    (rdp : ctx.conn.idin.has cspFRdp = true) (idin : after.sendView.idin = ctx.sendView.idin)
    (purged : Bool) : Retains cfg after.sendView after.stack.txQueue.items purged [] := by
  refine .notOpen (by rw [idin]; exact rdp) closes.own ?_ ?_
  · intro state
    rcases closes.left with waiting | ⟨_, empty⟩
    · rcases state with state | state | state <;>
        simp [show after.sendView.state = _ from waiting] at state
    · rw [empty]
      rfl
  · rcases closes.left with state | ⟨state, _⟩ <;> simp [show after.sendView.state = _ from state]

/-- While `snd_nxt` is not before `snd_una`, the check before a send finds a free place. -/
theorem rdpIsConnReadyForTx_room {conn : Conn cfg} (ready : rdpIsConnReadyForTx conn = true)
    (half : seqAhead conn.rdp.sndUna conn.rdp.sndNxt < 32768) (small : conn.rdp.windowSize.toNat < 32768) :
    seqAhead conn.rdp.sndUna conn.rdp.sndNxt + 1 ≤ conn.rdp.windowSize.toNat := by
  rw [rdpIsConnReadyForTx, Bool.not_eq_true', rdpSeqAfter, rdpSeqBefore_eq_false] at ready
  simp only [seqAhead_eq, UInt16.toNat_sub, UInt16.toNat_add, UInt32.toNat_toUInt16,
    UInt16.reduceToNat] at ready half ⊢
  have := conn.rdp.sndUna.toNat_lt
  have := conn.rdp.sndNxt.toNat_lt
  omega

theorem numbersOf_length_of_plain {items : List Packet}
    (plain : ∀ packet ∈ items, packet.hasRdp rdpSyn = false) :
    (numbersOf items).length = items.length := by
  have all : items.filter (fun packet => !packet.hasRdp rdpSyn) = items :=
    List.filter_eq_self.mpr fun packet member => by simp [plain packet member]
  rw [numbersOf, dataOf, all, List.length_map, List.length_map]

theorem whileOpen_notOpen {unacked : List (UInt16 × List UInt8)} {state : RdpState}
    (notOpen : state ≠ .open) : whileOpen unacked state = [] := by
  cases state with
  | «open» => exact absurd rfl notOpen
  | _ => rfl

theorem Retains.whileOpen {view : SendView} {items : List Packet} {purged : Bool}
    {unacked : List (UInt16 × List UInt8)} (retains : Retains cfg view items purged unacked) :
    whileOpen unacked view.state = unacked := by
  by_cases opened : view.state = .open
  · rw [opened]
    rfl
  · rw [whileOpen_notOpen opened, retains.idle opened]

/-- An accepted send finds room in the queue and stays in its window. -/
theorem retainRun_send {run : RetainRun cfg} {packet : Packet} (sound : run.Sound)
    (condition : SendsWithRoom run (.send packet)) : (run.step (.send packet)).Sound := by
  simp only [RetainRun.Sound, RetainRun.step, connStep, RetainRun.history, hasPurged]
  rcases cspSend_tx sound.own packet with ⟨accepted, sends⟩ | ⟨refused, refuses⟩
  · obtain ⟨half, plain⟩ := condition accepted
    have opened : run.ctx.sendView.state = .open := sends.opened
    have half : seqAhead run.ctx.conn.rdp.sndUna run.ctx.conn.rdp.sndNxt < 32768 :=
      rdpSeqBefore_eq_false.mp half
    have stillOpen : (cspSend run.ctx (some packet)).conn.rdp.state = .open := by
      rw [sends.conn]
      exact opened
    -- Two windows of data do not fill the queue, so a full queue would hold a SYN.
    have room : run.ctx.sendView.Windowed cfg →
        run.ctx.stack.txQueue.items.length < cfg.rdpMaxWindow * 2 ∧
          seqAhead run.ctx.conn.rdp.sndUna run.ctx.conn.rdp.sndNxt + 1 ≤
            run.ctx.conn.rdp.windowSize.toNat := by
      intro window
      have fits : run.ctx.conn.rdp.windowSize.toNat ≤ cfg.rdpMaxWindow := window.2
      have small : run.ctx.conn.rdp.windowSize.toNat < 32768 := lt_of_le_of_lt fits cfg.rdpMaxWindow_lt
      have free := rdpIsConnReadyForTx_room sends.ready half small
      obtain ⟨span, recent, bound⟩ := sound.recent opened window
      have count := recent.length_le
      have short : span < 2 * run.ctx.conn.rdp.windowSize.toNat := bound.room free
      refine ⟨?_, free⟩
      by_contra full
      have filled : run.ctx.stack.txQueue.items.length = cfg.rdpMaxWindow * 2 :=
        le_antisymm run.ctx.stack.txQueue.bounded (not_lt.mp full)
      rw [numbersOf_length_of_plain (plain filled), filled] at count
      omega
    rw [stillOpen, whileOpen, if_pos accepted, Ctx.sendView, sends.conn]
    refine ⟨sound.rdp, ?_, ?_, fun closed => absurd opened closed, fun _ window => ?_, fun _ window => ?_⟩
    · have own := sends.own
      rw [Ctx.OwnsTx, sends.conn] at own
      exact own
    · intro state
      rcases state with state | state | state <;>
        cases opened.symm.trans (show run.ctx.sendView.state = _ from state)
    · obtain ⟨free, _⟩ := room window
      rw [sends.room free]
      intro segment member
      rcases List.mem_append.mp member with member | member
      · obtain ⟨inside, unacked⟩ := sound.retained opened window segment member
        exact ⟨List.mem_append_left _ inside, unacked⟩
      · rw [List.mem_singleton.mp member]
        exact ⟨List.mem_append_right _ (List.mem_singleton_self _), rdpSeqBefore_eq_false.mpr half⟩
    · obtain ⟨free, place⟩ := room window
      obtain ⟨span, recent, bound⟩ := sound.recent opened window
      have small : run.ctx.conn.rdp.windowSize.toNat < 32768 :=
        lt_of_le_of_lt window.2 cfg.rdpMaxWindow_lt
      have short : span < 2 * run.ctx.conn.rdp.windowSize.toNat := bound.room place
      refine ⟨span + 1, ?_, ?_⟩
      · have longer := recent.snoc (by omega)
        rw [numbersOf, sends.room free, List.map_append]
        exact longer
      · have lag : seqAhead run.ctx.conn.rdp.sndUna (run.ctx.conn.rdp.sndNxt + 1) =
            seqAhead run.ctx.conn.rdp.sndUna run.ctx.conn.rdp.sndNxt + 1 := seqAhead_succ (by omega)
        change SpanBound _ _ (seqAhead run.ctx.conn.rdp.sndUna (run.ctx.conn.rdp.sndNxt + 1)) _
        rw [lag]
        exact bound.send half place
  · obtain ⟨txWait, conn⟩ := refuses.conn
    have same : Retains cfg run.ctx.sendView run.ctx.stack.txQueue.items run.purged
        (whileOpen run.unacked run.ctx.sendView.state) := by
      rw [sound.whileOpen]
      exact sound
    rw [if_neg (by simp [refused]), Ctx.sendView, conn, refuses.txQueue]
    exact same

/-- The handshake states, and the state before it. -/
def Early (state : RdpState) : Prop := state = .closed ∨ state = .synSent ∨ state = .synRcvd

/-- A packet leads to a handshake state only from one. -/
theorem SendStep.early {conn : Conn cfg} {header : RdpHeader} {after : SendView}
    (step : SendStep conn header after) (closed : after.state = .closed → conn.rdp.state = .closed)
    (early : Early after.state) : Early conn.rdp.state := by
  cases step with
  | keeps => exact early
  | stores => exact early
  | leaves state left =>
      rcases left with rfl | rfl
      · rcases early with state | state | state <;> cases state
      · exact .inl (closed rfl)
  | storesAndLeaves state left =>
      rcases left with rfl | rfl
      · rcases early with state | state | state <;> cases state
      · exact .inl (closed rfl)
  | accepts _ _ wasClosed => exact .inl wasClosed
  | connects => rcases early with state | state | state <;> cases state
  | posts => rcases early with state | state | state <;> cases state

/-- One packet moves `snd_una` and frees listed segments, and the history drops what it covers. -/
theorem Retains.store {view : SendView} {items items' : List Packet} (keeps : UInt16 → Bool)
    {unacked unacked' : List (UInt16 × List UInt8)} {una : UInt16}
    (retains : Retains cfg view items true unacked) (opened : view.state = .open)
    (own : ∀ packet ∈ items', packet.conn = view.index)
    (data : dataOf items' = (dataOf items).filter fun segment => keeps segment.1)
    (kept : ∀ segment ∈ unacked', segment ∈ unacked ∧ keeps segment.1 = true ∧
      (rdpSeqBefore segment.1 view.sndUna = false → rdpSeqBefore segment.1 una = false)) :
    Retains cfg { view with sndUna := una } items' false unacked' where
  rdp := retains.rdp
  own := own
  before early := by
    rw [data, retains.before early]
    rfl
  idle notOpen := absurd opened notOpen
  retained _ window segment member := by
    obtain ⟨among, keeps, before⟩ := kept segment member
    obtain ⟨inside, unacked⟩ := retains.retained opened window segment among
    refine ⟨?_, before unacked⟩
    rw [data]
    exact List.mem_filter.mpr ⟨inside, keeps⟩
  recent _ window := by
    obtain ⟨span, recent, bound⟩ := retains.recent opened window
    refine ⟨span, recent.sublist ?_, bound.arrive _⟩
    rw [numbersOf, data]
    exact List.filter_sublist.map _

theorem retainRun_newPacket {run : RetainRun cfg} {packet : Packet} (sound : run.Sound)
    (connState : run.ctx.conn.state = .open) (purged : run.purged = true)
    (flag : packet.id.has cspFRdp = true) :
    Retains cfg (rdpNewPacket run.ctx packet).2.sendView
      (rdpNewPacket run.ctx packet).2.stack.txQueue.items false
      (whileOpen (run.history (.arrive packet)) (rdpNewPacket run.ctx packet).2.sendView.state) := by
  have openRdp : run.ctx.OpenRdp := ⟨connState, sound.rdp⟩
  have step := rdpNewPacket_sendStep openRdp packet
  have outcome := rdpNewPacket_tx openRdp sound.own packet
  simp only [RetainRun.Sound, purged] at sound
  simp only [RetainRun.history, flag, if_true]
  generalize (rdpNewPacket run.ctx packet).2 = after at step outcome
  have rdp : after.conn.idin.has cspFRdp = true := by
    rw [show after.conn.idin = _ from step.idin]
    exact sound.rdp
  -- The packet closes the connection, or it frees at most the segments that it lists.
  have frees : after.sendView.state ≠ .open ∧ run.ctx.TxCloses after ∨
      ∃ lists, run.ctx.TxStep after lists ∧
        (∀ seqNr, lists seqNr = true → listsSeq run.ctx.conn.rdp packet seqNr = true) ∧
        (after.sendView.state = .closed → run.ctx.conn.rdp.state = .closed) := by
    cases outcome with
    | keeps step closed => exact .inr ⟨_, step, by simp, closed⟩
    | lists step takes opened =>
        exact .inr ⟨_, step, fun seqNr listed => by simp [listsSeq, takes, listed],
          fun closed => by cases opened.symm.trans closed⟩
    | closes closes =>
        refine .inl ⟨?_, closes⟩
        rcases closes.left with state | ⟨state, _⟩ <;>
          simp [show after.sendView.state = _ from state]
  rcases frees with ⟨notOpen, closes⟩ | ⟨lists, txStep, listed, closed⟩
  · rw [whileOpen_notOpen notOpen]
    exact closes.retains sound.rdp step.idin _
  have own : ∀ packet ∈ after.stack.txQueue.items, packet.conn = run.ctx.conn.index :=
    fun packet member => (txStep.own packet member).trans txStep.index
  have nothing : Early run.ctx.conn.rdp.state → dataOf after.stack.txQueue.items = [] := by
    intro early
    rw [txStep.data, show dataOf run.ctx.stack.txQueue.items = [] from sound.before early]
    rfl
  by_cases opened : after.sendView.state = .open
  · rw [opened, whileOpen]
    -- A connection that was open before sees the acknowledgement and the list.
    have stored : ∀ {una : UInt16}, after.sendView = { run.ctx.sendView with sndUna := una } →
        (∀ seqNr, coversSeq run.ctx.conn.rdp packet seqNr = false →
          rdpSeqBefore seqNr run.ctx.sendView.sndUna = false → rdpSeqBefore seqNr una = false) →
        Retains cfg after.sendView after.stack.txQueue.items false
          (run.unacked.filter fun segment => !coversSeq run.ctx.conn.rdp packet segment.1 &&
            !listsSeq run.ctx.conn.rdp packet segment.1) := by
      intro una same covered
      have wasOpen : run.ctx.sendView.state = .open := by
        rw [same] at opened
        exact opened
      rw [same]
      refine sound.store (fun seqNr => !lists seqNr) wasOpen own txStep.data fun segment member => ?_
      obtain ⟨among, outside⟩ := List.mem_filter.mp member
      simp only [Bool.and_eq_true, Bool.not_eq_true'] at outside
      refine ⟨among, ?_, covered segment.1 outside.1⟩
      cases inList : lists segment.1 with
      | false => rfl
      | true => simp [listed _ inList] at outside
    -- A connection that has just been opened has no history.
    have fresh : Early run.ctx.conn.rdp.state →
        Retains cfg after.sendView after.stack.txQueue.items false
          (run.unacked.filter fun segment => !coversSeq run.ctx.conn.rdp packet segment.1 &&
            !listsSeq run.ctx.conn.rdp packet segment.1) := by
      intro early
      have idle : run.unacked = [] := sound.idle (by rcases early with state | state | state <;>
        simp [show run.ctx.sendView.state = _ from state])
      rw [idle]
      exact .opens rdp txStep.own (nothing early)
    have result : ∀ view, SendStep run.ctx.conn packet.header view → after.sendView = view →
        Retains cfg after.sendView after.stack.txQueue.items false
          (run.unacked.filter fun segment => !coversSeq run.ctx.conn.rdp packet segment.1 &&
            !listsSeq run.ctx.conn.rdp packet segment.1) := by
      intro view step same
      cases step with
      | keeps => exact stored same fun _ _ before => before
      | stores acks =>
          refine stored same fun seqNr uncovered _ => ?_
          simpa [coversSeq, acks] using uncovered
      | leaves state left =>
          rw [same] at opened
          rcases left with rfl | rfl <;> cases opened
      | storesAndLeaves state left =>
          rw [same] at opened
          rcases left with rfl | rfl <;> cases opened
      | accepts =>
          rw [same] at opened
          cases opened
      | connects sent => exact fresh (.inr (.inl sent))
      | posts received => exact fresh (.inr (.inr received))
    exact result _ step rfl
  · rw [whileOpen_notOpen opened]
    exact .notOpen rdp txStep.own (fun early => nothing (step.early closed early)) opened

/-- A close keeps a closed slot, or it releases the queue. -/
theorem connClose_tx {ctx : Ctx cfg} (rdp : ctx.conn.idin.has cspFRdp = true) (own : ctx.OwnsTx)
    (closedBy : UInt8) : connClose ctx closedBy = ctx ∨ ctx.TxCloses (connClose ctx closedBy) := by
  cases connState : ctx.conn.state with
  | closed => exact .inl (by simp [connClose, connState])
  | «open» => exact .inr (connClose_txCloses ⟨connState, rdp⟩ own closedBy)

theorem retainRun_close {ctx : Ctx cfg} {purged : Bool} {unacked : List (UInt16 × List UInt8)}
    (retains : Retains cfg ctx.sendView ctx.stack.txQueue.items purged
      (whileOpen unacked ctx.sendView.state)) (closedBy : UInt8) :
    Retains cfg (connClose ctx closedBy).sendView (connClose ctx closedBy).stack.txQueue.items purged
      (whileOpen unacked (connClose ctx closedBy).sendView.state) := by
  have idin := (connClose_leaves ctx closedBy).idin
  rcases connClose_tx retains.rdp retains.own closedBy with same | closes
  · rw [same]
    exact retains
  · have closed := closes.retains retains.rdp idin purged
    rw [whileOpen_notOpen fun opened => ?_]
    · exact closed
    · rcases closes.left with state | ⟨state, _⟩ <;>
        simp [show (connClose ctx closedBy).sendView.state = _ from state] at opened

/-- A packet to a purged queue leaves at most what is unacknowledged and one window behind it. -/
theorem retainRun_arrive {run : RetainRun cfg} {packet : Packet} (sound : run.Sound)
    (connState : run.ctx.conn.state = .open) (purged : run.purged = true) :
    (run.step (.arrive packet)).Sound := by
  simp only [RetainRun.Sound, RetainRun.step, connStep, routeDeliver, hasPurged]
  cases flag : packet.id.has cspFRdp with
  | true =>
      have received := retainRun_newPacket sound connState purged flag
      simp only [if_true, routeRdp]
      generalize rdpNewPacket run.ctx packet = result at received
      obtain ⟨_ | _, middle⟩ := result
      · exact received
      · exact retainRun_close received _
  | false =>
      have history : run.history (.arrive packet) = run.unacked := by simp [RetainRun.history, flag]
      rw [if_neg Bool.false_ne_true, history]
      have leaves := routePlain_leaves run.ctx packet
      rcases routePlain_tx ⟨connState, sound.rdp⟩ sound.own packet with ⟨keeps, rdp⟩ | closes
      · have same : (routePlain run.ctx packet).sendView = run.ctx.sendView := by
          rcases leaves with same | ⟨state, _, same⟩
          · exact same
          · have kept : state = run.ctx.conn.rdp.state :=
              (congrArg SendView.state same).symm.trans (congrArg Rdp.state rdp)
            rw [same, kept]
            rfl
        rw [show (routePlain run.ctx packet).conn.rdp.state = run.ctx.sendView.state from
          congrArg SendView.state same, sound.whileOpen, same]
        have own : ∀ packet' ∈ (routePlain run.ctx packet).stack.txQueue.items,
            packet'.conn = run.ctx.sendView.index := fun packet' member =>
          (keeps.own packet' member).trans keeps.index
        refine ⟨sound.rdp, own, fun early => ?_, sound.idle, fun opened window => ?_,
          fun opened window => ?_⟩
        · rw [keeps.data_eq]
          exact sound.before early
        · rw [keeps.data_eq]
          exact sound.retained opened window
        · rw [numbersOf, keeps.data_eq]
          obtain ⟨span, recent, bound⟩ := sound.recent opened window
          rw [purged] at bound
          exact ⟨span, recent, bound.arrive _⟩
      · have notOpen : (routePlain run.ctx packet).conn.rdp.state ≠ .open := by
          rcases closes.left with state | ⟨state, _⟩ <;> simp [state]
        rw [whileOpen_notOpen notOpen]
        exact closes.retains sound.rdp leaves.idin _

/-- The timers leave only unacknowledged segments behind `snd_nxt`. -/
theorem retainRun_timeouts {run : RetainRun cfg} (sound : run.Sound)
    (connState : run.ctx.conn.state = .open) : (run.step .timeouts).Sound := by
  simp only [RetainRun.Sound, RetainRun.step, connStep, RetainRun.history, hasPurged]
  have leaves := rdpCheckTimeouts_leaves run.ctx
  rcases rdpCheckTimeouts_tx ⟨connState, sound.rdp⟩ sound.own with closes | ⟨waiting, same⟩ | purges
  · have notOpen : (rdpCheckTimeouts run.ctx).conn.rdp.state ≠ .open := by
      rcases closes.left with state | ⟨state, _⟩ <;> simp [state]
    rw [whileOpen_notOpen notOpen]
    exact closes.retains sound.rdp leaves.idin _
  · have notOpen : run.ctx.sendView.state ≠ .open := by
      simp [show run.ctx.sendView.state = _ from waiting]
    rw [same, show whileOpen run.unacked run.ctx.conn.rdp.state = [] from whileOpen_notOpen notOpen]
    refine .notOpen sound.rdp sound.own (fun early => ?_) notOpen
    rcases early with state | state | state <;> cases waiting.symm.trans state
  · have same : (rdpCheckTimeouts run.ctx).sendView = run.ctx.sendView := by
      rcases leaves with same | ⟨state, _, same⟩
      · exact same
      · have kept : state = run.ctx.conn.rdp.state :=
          (congrArg SendView.state same).symm.trans purges.state
        rw [same, kept]
        rfl
    rw [show (rdpCheckTimeouts run.ctx).conn.rdp.state = run.ctx.sendView.state from purges.state,
      sound.whileOpen, same]
    have own : ∀ packet ∈ (rdpCheckTimeouts run.ctx).stack.txQueue.items,
        packet.conn = run.ctx.sendView.index := fun packet member =>
      (purges.own packet member).trans purges.index
    refine ⟨sound.rdp, own, fun early => ?_, sound.idle, fun opened window segment member => ?_,
      fun opened window => ?_⟩
    · rw [purges.data, sound.before early]
      rfl
    · obtain ⟨inside, unacked⟩ := sound.retained opened window segment member
      refine ⟨?_, unacked⟩
      rw [purges.data]
      exact List.mem_filter.mpr ⟨inside, (Bool.not_eq_true' _).mpr unacked⟩
    · obtain ⟨span, recent, bound⟩ := sound.recent opened window
      have small : run.ctx.sendView.windowSize.toNat < 32768 :=
        lt_of_le_of_lt window.2 cfg.rdpMaxWindow_lt
      have numbers : numbersOf (rdpCheckTimeouts run.ctx).stack.txQueue.items =
          (numbersOf run.ctx.stack.txQueue.items).filter
            fun number => !Serial.before number run.ctx.sendView.sndUna.toBitVec := by
        rw [numbersOf, numbersOf, purges.data, List.filter_map]
        congr 1
        apply List.filter_congr
        intro segment _
        rw [Function.comp_apply, ← rdpSeqBefore_eq]
        rfl
      have fewer : (numbersOf (rdpCheckTimeouts run.ctx).stack.txQueue.items).Sublist
          (numbersOf run.ctx.stack.txQueue.items) := by
        rw [numbers]
        exact List.filter_sublist
      by_cases half : seqAhead run.ctx.sendView.sndUna run.ctx.sendView.sndNxt < 32768
      · refine ⟨_, ?_, bound.purge half⟩
        rcases le_total (seqAhead run.ctx.sendView.sndUna run.ctx.sendView.sndNxt) span with short | long
        · rw [min_eq_left short, numbers]
          refine recent.purge half ?_
          have reach : span ≤ 32768 + seqAhead run.ctx.sendView.sndUna run.ctx.sendView.sndNxt :=
            bound.reach small
          exact reach
        · rw [min_eq_right long]
          exact recent.sublist fewer
      · exact ⟨span, recent.sublist fewer, bound.stale small (not_lt.mp half)⟩

/-- One event keeps the invariant. -/
theorem retainRun_step {run : RetainRun cfg} {input : ConnInput cfg} (sound : run.Sound)
    (allowed : connAllowed run.ctx input) (timers : timersFirst run.purged input)
    (condition : SendsWithRoom run input) : (run.step input).Sound := by
  have idin := connStep_idin sound.rdp allowed
  -- In these events no segment enters the history, and the queue at most loses its data.
  have unopened : ∀ (unacked : List (UInt16 × List UInt8)) (purged : Bool),
      (connStep run.ctx input).OwnsTx →
      dataOf (connStep run.ctx input).stack.txQueue.items = [] →
      (connStep run.ctx input).conn.rdp.state = .synSent →
      Retains cfg (connStep run.ctx input).sendView (connStep run.ctx input).stack.txQueue.items purged
        (whileOpen unacked (connStep run.ctx input).conn.rdp.state) := by
    intro unacked purged own nothing state
    rw [state]
    refine .notOpen (by rw [show (connStep run.ctx input).sendView.idin = _ from idin]; exact sound.rdp) own (fun _ => nothing) ?_
    simp [show (connStep run.ctx input).sendView.state = _ from state]
  have closing : ∀ (unacked : List (UInt16 × List UInt8)) (purged : Bool),
      run.ctx.TxCloses (connStep run.ctx input) →
      Retains cfg (connStep run.ctx input).sendView (connStep run.ctx input).stack.txQueue.items purged
        (whileOpen unacked (connStep run.ctx input).conn.rdp.state) := by
    intro unacked purged closes
    have notOpen : (connStep run.ctx input).conn.rdp.state ≠ .open := by
      rcases closes.left with state | ⟨state, _⟩ <;> simp [state]
    rw [whileOpen_notOpen notOpen]
    exact closes.retains sound.rdp idin _
  have keeping : ∀ purged : Bool, (connStep run.ctx input).sendView = run.ctx.sendView →
      (connStep run.ctx input).stack.txQueue = run.ctx.stack.txQueue → purged = run.purged →
      Retains cfg (connStep run.ctx input).sendView (connStep run.ctx input).stack.txQueue.items purged
        (whileOpen run.unacked (connStep run.ctx input).conn.rdp.state) := by
    intro purged view queue same
    rw [show (connStep run.ctx input).conn.rdp.state = run.ctx.sendView.state from
      congrArg SendView.state view, sound.whileOpen, view, queue, same]
    exact sound
  cases input with
  | connect =>
      obtain ⟨connState, closed⟩ := allowed
      rcases @rdpConnectAttempt_tx cfg
        ⟨{ run.ctx.conn with rdp := { run.ctx.conn.rdp with
            windowSize := run.ctx.stack.options.windowSize
            connTimeout := run.ctx.stack.options.connTimeout
            packetTimeout := run.ctx.stack.options.packetTimeout
            delayedAcks := run.ctx.stack.options.delayedAcks
            ackTimeout := run.ctx.stack.options.ackTimeout
            ackDelayCount := run.ctx.stack.options.ackDelayCount
            ackTimestamp := run.ctx.stack.now } }, run.ctx.stack⟩
        ⟨connState, sound.rdp⟩ sound.own (by simp [closed]) with ⟨keeps, state⟩ | ⟨index, own, left⟩
      · exact unopened _ _ keeps.own (keeps.data_eq.trans (sound.before (.inl closed))) state
      · exact closing _ _ ⟨index, own, left⟩
  | wake retry =>
      have leaves := rdpConnectWake_sendView run.ctx retry
      rcases rdpConnectWake_tx ⟨allowed, sound.rdp⟩ sound.own retry with same |
        ⟨own, index, state, nothing⟩ | closes
      · have result : connStep run.ctx (.wake retry) = _ := same
        exact keeping _ (by rw [result]; rfl) (by rw [result]) rfl
      · exact unopened _ _ own nothing state
      · exact closing _ _ closes
  | arrive packet => exact retainRun_arrive sound allowed timers
  | timeouts => exact retainRun_timeouts sound allowed
  | send packet => exact retainRun_send sound condition
  | read => exact keeping _ (cspRead_sendView run.ctx) (by
      obtain ⟨_, _, _, _, _, _, _, _, same, _⟩ := cspRead_receives run.ctx
      rw [show connStep run.ctx .read = _ from same]) rfl
  | close =>
      have retains : Retains cfg run.ctx.sendView run.ctx.stack.txQueue.items run.purged
          (whileOpen run.unacked run.ctx.sendView.state) := by
        rw [sound.whileOpen]
        exact sound
      exact retainRun_close retains _
  | environment stack => exact keeping _ rfl rfl rfl

theorem retainRun_sound {run : RetainRun cfg}
    (reached : ((retainMachine cfg).restrict SendsWithRoom).Reachable run) : run.Sound := by
  refine Machine.Reachable.invariant ?_ ?_ reached
  · rintro run ⟨fresh, _, nothing⟩
    have empty : dataOf run.ctx.stack.txQueue.items = [] := by
      rw [fresh.txQueue]
      rfl
    have own : ∀ packet ∈ run.ctx.stack.txQueue.items, packet.conn = run.ctx.sendView.index := by
      simp [fresh.txQueue]
    rw [RetainRun.Sound, nothing]
    exact .notOpen fresh.rdp own (fun _ => empty) (by
      simp [show run.ctx.sendView.state = _ from fresh.state])
  · rintro run input sound ⟨⟨allowed, timers⟩, condition⟩
    exact retainRun_step sound allowed timers condition

/-- In a run whose accepted sends find room, the retransmission queue of an open connection holds
every accepted segment that is neither acknowledged nor listed by an EACK. -/
theorem unacked_retained :
    ∀ run : RetainRun cfg, ((retainMachine cfg).restrict SendsWithRoom).Reachable run →
      run.ctx.conn.rdp.state = .open → 1 ≤ run.ctx.conn.rdp.windowSize.toNat →
        run.ctx.conn.rdp.windowSize.toNat ≤ cfg.rdpMaxWindow →
          ∀ segment ∈ run.unacked, segment ∈ dataOf run.ctx.stack.txQueue.items :=
  fun _ reached opened positive bounded segment member =>
    ((retainRun_sound reached).retained opened ⟨positive, bounded⟩ segment member).1

/-! ## Concrete runs -/

instance (run : RetainRun cfg) : ∀ input, Decidable (SendsWithRoom run input)
  | .send _ => inferInstanceAs (Decidable (_ → _ ∧ (_ → ∀ packet ∈ _, _)))
  | .arrive _ => .isTrue trivial
  | .connect => .isTrue trivial
  | .wake _ => .isTrue trivial
  | .timeouts => .isTrue trivial
  | .read => .isTrue trivial
  | .close => .isTrue trivial
  | .environment _ => .isTrue trivial

instance (purged : Bool) : ∀ input : ConnInput cfg, Decidable (timersFirst purged input)
  | .arrive _ => inferInstanceAs (Decidable (_ = _))
  | .send _ => .isTrue trivial
  | .connect => .isTrue trivial
  | .wake _ => .isTrue trivial
  | .timeouts => .isTrue trivial
  | .read => .isTrue trivial
  | .close => .isTrue trivial
  | .environment _ => .isTrue trivial

instance (run : RetainRun cfg) (input : ConnInput cfg) :
    Decidable ((retainMachine cfg).allowed run input) :=
  inferInstanceAs (Decidable (connAllowed run.ctx input ∧ timersFirst run.purged input))

instance (run : RetainRun cfg) (input : ConnInput cfg) :
    Decidable (((retainMachine cfg).restrict SendsWithRoom).allowed run input) :=
  inferInstanceAs (Decidable ((retainMachine cfg).allowed run input ∧ SendsWithRoom run input))

/-- A build with a pool that these runs do not exhaust. -/
def largePool : Config := { bufferCount := 64 }

def freshRun : RetainRun largePool := ⟨freshServer, true, []⟩

theorem freshRun_initial : (retainMachine largePool).initial freshRun := ⟨freshServer_fresh, rfl, rfl⟩

/-- One segment is sent right behind the handshake. -/
def oneSent : RetainRun largePool :=
  (retainMachine largePool).trace freshRun
    [.arrive (synSegment 100), .timeouts, .arrive (rdpSegment rdpAck 101 0 []), .send (userPacket [7])]

theorem oneSent_retained : ((1, [7]) : UInt16 × List UInt8) ∈ dataOf oneSent.ctx.stack.txQueue.items := by
  have start : ((retainMachine largePool).restrict SendsWithRoom).initial freshRun := freshRun_initial
  have reached := (Machine.Reachable.start start).traceRestrict
    [.arrive (synSegment 100), .timeouts, .arrive (rdpSegment rdpAck 101 0 []), .send (userPacket [7])]
    (by decide +kernel)
  exact unacked_retained oneSent reached (by decide +kernel) (by decide +kernel) (by decide +kernel) _
    (by decide +kernel)

/-- Nine delayed packets meet the half-open connection. Each answer leaves a copy of the SYN in the
queue, so the segment that is sent right behind the handshake finds no place. -/
def answeredNineTimes : RetainRun largePool :=
  (retainMachine largePool).trace freshRun
    (.arrive (synSegment 100) ::
      (List.replicate 9 [.timeouts, .arrive (rdpSegment rdpAck 200 0 [])]).flatten ++
        [.timeouts, .arrive (rdpSegment rdpAck 101 0 []), .send (userPacket [7])])

theorem answeredNineTimes_loses_segment :
    (retainMachine largePool).Reachable answeredNineTimes ∧
      answeredNineTimes.ctx.conn.rdp.state = .open ∧
      answeredNineTimes.ctx.conn.rdp.windowSize.toNat = 4 ∧
      0 < answeredNineTimes.ctx.stack.io.pool.remaining ∧
      answeredNineTimes.unacked = [(1, [7])] ∧ dataOf answeredNineTimes.ctx.stack.txQueue.items = [] := by
  refine ⟨(Machine.Reachable.start freshRun_initial).trace _ ?_, ?_, ?_, ?_, ?_, ?_⟩
  · decide +kernel
  · decide +kernel
  · decide +kernel
  · decide +kernel
  · decide +kernel
  · decide +kernel

end Libcsp

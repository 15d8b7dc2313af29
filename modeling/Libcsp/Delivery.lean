/-
This file proves that a connection is a reliable channel in both directions.
-/
import Libcsp.SendSide
import Libcsp.TxQueue
import Libcsp.RxQueue
import Libcsp.Lib.Fifo

namespace Libcsp

variable {cfg : Config}

/-! ## Two endpoints -/

/-- An endpoint with the history of the payloads that `csp_rdp_send` has accepted. -/
structure Endpoint (cfg : Config) where
  ctx : Ctx cfg
  accepted : List (List UInt8)

/-- The payload that this input hands over to RDP. -/
def newlyAccepted (ctx : Ctx cfg) : ConnInput cfg → List (List UInt8)
  | .send packet => if acceptsSend ctx packet then [packet.payload] else []
  | _ => []

def Endpoint.step (endpoint : Endpoint cfg) (input : ConnInput cfg) : Endpoint cfg :=
  { ctx := connStep endpoint.ctx input
    accepted := endpoint.accepted ++ newlyAccepted endpoint.ctx input }

/-- The payloads that `conn->rx_queue` has got. A null pointer has none. -/
def Ctx.delivered (ctx : Ctx cfg) : List (Option (List UInt8)) :=
  ctx.conn.rxLog.map (Option.map Packet.payload)

/-- Two packets have the same received bytes. -/
def Packet.SameBytes (first second : Packet) : Prop :=
  first.length = second.length ∧ ∀ index < first.length.toNat, first.data index = second.data index

/-- The network drops, duplicates, delays, and reorders packets, but each one comes from the peer.
The rest of the node does not send for this connection. -/
def Endpoint.fromPeer (endpoint peer : Endpoint cfg) : ConnInput cfg → Prop
  | .arrive packet => packet.id.has cspFRdp = true ∧
      ∃ entry ∈ peer.ctx.stack.io.outbox, packet.SameBytes entry.2
  | .environment stack => stack.io.outbox = endpoint.ctx.stack.io.outbox
  | _ => True

/-- The connection is open, or the server waits for the acknowledgement of its SYN. -/
def RdpState.Live (state : RdpState) : Prop := state = .synRcvd ∨ state = .open

/-- One side of the connection after the exchange of the initial sequence numbers. -/
structure Endpoint.Connected (endpoint peer : Endpoint cfg) : Prop where
  rdp : endpoint.ctx.conn.idin.has cspFRdp = true ∧ endpoint.ctx.conn.idout.has cspFRdp = true
  live : endpoint.ctx.conn.rdp.state.Live
  rcvCur : endpoint.ctx.conn.rdp.rcvCur = peer.ctx.conn.rdp.sndIss
  sndNxt : endpoint.ctx.conn.rdp.sndNxt = endpoint.ctx.conn.rdp.sndIss + 1
  txQueue : endpoint.ctx.OwnsTx ∧ dataOf endpoint.ctx.stack.txQueue.items = []
  rxQueue : endpoint.ctx.stack.rxQueue.items = []
  outbox : ∀ entry ∈ endpoint.ctx.stack.io.outbox, entry.2.IsControl
  accepted : endpoint.accepted = []
  rxLog : endpoint.ctx.conn.rxLog = []

/-- Both sides of one connection. -/
abbrev Session (cfg : Config) := Bool → Endpoint cfg

def Session.step (session : Session cfg) (input : Bool × ConnInput cfg) : Session cfg :=
  Function.update session input.1 ((session input.1).step input.2)

/-- No side closes, and a side sends less than half of the sequence numbers. -/
def sessionMachine (cfg : Config) : Machine (Session cfg) (Bool × ConnInput cfg) where
  initial session := ∀ side, (session side).Connected (session !side)
  step := Session.step
  allowed session input :=
    let endpoint := session input.1
    connAllowed endpoint.ctx input.2 ∧ endpoint.fromPeer (session !input.1) input.2 ∧
      (endpoint.step input.2).ctx.conn.rdp.state.Live ∧ (endpoint.step input.2).accepted.length < 2 ^ 15

/-! ## Segments -/

/-- The accepted payload with this number. -/
def IsSegment (iss : UInt16) (accepted : List (List UInt8)) (seqNr : UInt16) (body : List UInt8) :
    Prop :=
  ∃ index, seqNr = iss + 1 + UInt16.ofNat index ∧ accepted[index]? = some body

theorem IsSegment.grow {iss : UInt16} {accepted : List (List UInt8)} {seqNr : UInt16}
    {body : List UInt8} (segment : IsSegment iss accepted seqNr body) (more : List (List UInt8)) :
    IsSegment iss (accepted ++ more) seqNr body := by
  obtain ⟨index, number, found⟩ := segment
  obtain ⟨inside, _⟩ := List.getElem?_eq_some_iff.mp found
  exact ⟨index, number, by rw [List.getElem?_append_left inside, found]⟩

theorem isSegment_snoc (iss : UInt16) (accepted : List (List UInt8)) (body : List UInt8) :
    IsSegment iss (accepted ++ [body]) (iss + 1 + UInt16.ofNat accepted.length) body :=
  ⟨accepted.length, rfl, by simp⟩

/-- A number names only one payload, as long as less than all numbers are in use. -/
theorem IsSegment.next {iss : UInt16} {accepted : List (List UInt8)} {seqNr : UInt16}
    {body : List UInt8} {count : Nat} (segment : IsSegment iss accepted seqNr body)
    (short : accepted.length < 2 ^ 15) (known : count ≤ accepted.length)
    (next : seqNr = iss + UInt16.ofNat count + 1) : accepted[count]? = some body := by
  obtain ⟨index, number, found⟩ := segment
  obtain ⟨inside, _⟩ := List.getElem?_eq_some_iff.mp found
  have offset : UInt16.ofNat index = UInt16.ofNat count := by
    have same := number.symm.trans next
    grind
  have same : index = count := by
    have values := congrArg UInt16.toNat offset
    rw [UInt16.toNat_ofNat', UInt16.toNat_ofNat', Nat.mod_eq_of_lt (by omega),
      Nat.mod_eq_of_lt (by omega)] at values
    exact values
  exact same ▸ found

/-- A packet that is long enough for a header has the header and the body of its original. -/
theorem Packet.SameBytes.sameSegment {first second : Packet} (same : first.SameBytes second)
    (long : rdpHeaderSize ≤ first.length.toNat) : first.SameSegment second := by
  obtain ⟨length, data⟩ := same
  have header : rdpHeaderRef second = rdpHeaderRef first := by
    simp only [rdpHeaderRef, length]
  have bytes : ∀ offset < rdpHeaderSize,
      first.mem (rdpHeaderRef first + offset) = second.mem (rdpHeaderRef first + offset) := by
    intro offset inside
    have address : rdpHeaderRef first + offset =
        dataAt + (first.length.toNat - rdpHeaderSize + offset) := by
      simp only [rdpHeaderRef]
      omega
    rw [address]
    exact data _ (by omega)
  refine ⟨length, ?_, ?_, ?_⟩
  · rw [Packet.rdpFlags, Packet.rdpFlags, header]
    exact bytes 0 (by decide)
  · rw [Packet.seqNr, Packet.seqNr, header]
    exact be16_congr (bytes 1 (by decide)) (bytes 2 (by decide))
  · unfold Packet.body Packet.dataBytes
    rw [← length]
    apply List.map_congr_left
    intro index inside
    have inside := List.mem_range.mp inside
    exact data index (by omega)

theorem Packet.SameSegment.isControl {first second : Packet} (same : first.SameSegment second)
    (control : second.IsControl) : first.IsControl := by
  unfold Packet.IsControl at control ⊢
  rw [same.hasRdp, same.hasRdp, same.hasRdp, same.length]
  exact control

/-! ## The sending side -/

/-- The numbers, the queue, and the network agree with the accepted payloads. -/
structure Endpoint.Sends (endpoint : Endpoint cfg) : Prop where
  own : endpoint.ctx.OwnsTx
  sndNxt : endpoint.ctx.conn.rdp.sndNxt =
    endpoint.ctx.conn.rdp.sndIss + 1 + UInt16.ofNat endpoint.accepted.length
  queued : ∀ segment ∈ dataOf endpoint.ctx.stack.txQueue.items,
    IsSegment endpoint.ctx.conn.rdp.sndIss endpoint.accepted segment.1 segment.2
  outbox : ∀ entry ∈ endpoint.ctx.stack.io.outbox, entry.2.IsControl ∨
    IsSegment endpoint.ctx.conn.rdp.sndIss endpoint.accepted entry.2.seqNr entry.2.body

/-- The identity of a connection and the fixed part of its numbers. -/
structure Ctx.KeepsNumbers (ctx after : Ctx cfg) : Prop where
  idin : after.conn.idin = ctx.conn.idin
  idout : after.conn.idout = ctx.conn.idout
  sndIss : after.conn.rdp.sndIss = ctx.conn.rdp.sndIss
  sndNxt : after.conn.rdp.sndNxt = ctx.conn.rdp.sndNxt

theorem Ctx.KeepsNumbers.of_view {ctx after : Ctx cfg} (same : after.sendView = ctx.sendView) :
    ctx.KeepsNumbers after :=
  ⟨congrArg SendView.idin same, congrArg SendView.idout same, congrArg SendView.sndIss same,
    congrArg SendView.sndNxt same⟩

/-- A live connection has not been closed. -/
theorem Leaves.same_of_live {before after : SendView} (leaves : Leaves before after)
    (live : after.state.Live) : after = before := by
  rcases leaves with same | ⟨state, left, rfl⟩
  · exact same
  · rcases live with live | live <;> rcases left with rfl | rfl <;> cases live

theorem connClose_same_of_live {ctx : Ctx cfg} {closedBy : UInt8}
    (rdp : ctx.conn.idin.has cspFRdp = true) (live : (connClose ctx closedBy).conn.rdp.state.Live) :
    connClose ctx closedBy = ctx := by
  rcases connClose_cases ctx closedBy with ⟨_, same⟩ | ⟨_, ⟨_, _, _, _, _, _, _, _, _, same⟩ |
    ⟨_, _, ⟨_, ⟨_, _, _, _, _, _, _, _, _, same⟩, _⟩, _⟩ | ⟨plain, _⟩⟩
  · exact same
  · rw [same] at live
    rcases live with live | live <;> cases live
  · rw [same] at live
    rcases live with live | live <;> cases live
  · simp [Conn.usesRdp, rdp] at plain

/-- The start of a connect needs a closed state, so it is no step of a live connection. -/
theorem not_connect_of_live {ctx : Ctx cfg} (live : ctx.conn.rdp.state.Live) :
    ¬ connAllowed ctx .connect := by
  rintro ⟨_, closed⟩
  rcases live with live | live <;> rw [closed] at live <;> cases live

/-- A live connection that stays live has received its packet without a close. -/
theorem routeDeliver_of_live {ctx : Ctx cfg} {packet : Packet} (openRdp : ctx.OpenRdp)
    (flag : packet.id.has cspFRdp = true) (live : (routeDeliver ctx packet).conn.rdp.state.Live) :
    routeDeliver ctx packet = (rdpNewPacket ctx packet).2 := by
  have idin : (rdpNewPacket ctx packet).2.conn.idin = ctx.conn.idin :=
    (rdpNewPacket_sendStep openRdp packet).idin
  simp only [routeDeliver, flag, if_true, routeRdp] at live ⊢
  generalize rdpNewPacket ctx packet = result at idin live ⊢
  obtain ⟨_ | _, after⟩ := result
  · rfl
  · exact connClose_same_of_live (idin ▸ openRdp.rdp) live

theorem SendStep.numbers_of_live {ctx after : Ctx cfg} {header : RdpHeader}
    (step : SendStep ctx.conn header after.sendView) (before : ctx.conn.rdp.state.Live) :
    ctx.KeepsNumbers after := by
  generalize same : after.sendView = view at step
  cases step with
  | accepts _ _ closed => rcases before with live | live <;> rw [closed] at live <;> cases live
  | _ =>
      exact ⟨congrArg SendView.idin same, congrArg SendView.idout same,
        congrArg SendView.sndIss same, congrArg SendView.sndNxt same⟩

/-- A step without a new payload at most frees segments and sends copies of the others. -/
structure Ctx.SendsNothingNew (ctx after : Ctx cfg) : Prop where
  own : after.OwnsTx
  queued : dataOf after.stack.txQueue.items ⊆ dataOf ctx.stack.txQueue.items
  copies : ctx.stack.io.SendsCopies after.stack.io ctx.stack.txQueue.items

theorem Io.SendsControl.copies {io after : Io cfg} (control : io.SendsControl after)
    (queued : List Packet) : io.SendsCopies after queued := by
  obtain ⟨sent, outbox, messages⟩ := control
  exact ⟨sent, outbox, fun entry member => .inl (messages entry member)⟩

theorem Ctx.TxStep.sendsNothingNew {ctx after : Ctx cfg} {lists : UInt16 → Bool}
    (step : ctx.TxStep after lists) : ctx.SendsNothingNew after where
  own := step.own
  queued := by
    rw [step.data]
    exact List.filter_subset_self _
  copies := step.control.copies _

/-- A copy of a queued packet is a control message or one of the segments. -/
theorem Endpoint.Sends.copy {endpoint : Endpoint cfg} (sends : endpoint.Sends) {packet copy : Packet}
    (queued : packet ∈ endpoint.ctx.stack.txQueue.items) (same : copy.SameSegment packet) :
    copy.IsControl ∨ IsSegment endpoint.ctx.conn.rdp.sndIss endpoint.accepted copy.seqNr copy.body := by
  cases syn : packet.hasRdp rdpSyn with
  | true => exact .inl (.inl ((same.hasRdp rdpSyn).trans syn))
  | false =>
      have member : (packet.seqNr, packet.body) ∈ dataOf endpoint.ctx.stack.txQueue.items :=
        List.mem_map.mpr ⟨packet, List.mem_filter.mpr ⟨queued, by simp [syn]⟩, rfl⟩
      rw [same.seqNr, same.body]
      exact .inr (sends.queued _ member)

theorem Endpoint.Sends.keep {endpoint : Endpoint cfg} {after : Ctx cfg} (sends : endpoint.Sends)
    (numbers : endpoint.ctx.KeepsNumbers after) (nothing : endpoint.ctx.SendsNothingNew after) :
    Endpoint.Sends ⟨after, endpoint.accepted⟩ where
  own := nothing.own
  sndNxt := by
    rw [numbers.sndNxt, numbers.sndIss]
    exact sends.sndNxt
  queued segment member := by
    rw [numbers.sndIss]
    exact sends.queued segment (nothing.queued member)
  outbox entry member := by
    obtain ⟨sent, outbox, copies⟩ := nothing.copies
    rw [numbers.sndIss]
    rcases List.mem_append.mp (outbox ▸ member) with member | member
    · exact sends.outbox entry member
    · rcases copies entry member with control | ⟨packet, queued, same⟩
      · exact .inl control
      · exact sends.copy queued same

/-- An accepted payload is the next segment. -/
theorem Endpoint.Sends.send {endpoint : Endpoint cfg} {after : Ctx cfg} {payload : List UInt8}
    (sends : endpoint.Sends) (step : endpoint.ctx.TxSends after payload) :
    Endpoint.Sends ⟨after, endpoint.accepted ++ [payload]⟩ where
  own := step.own
  sndNxt := by
    rw [step.conn]
    simp only [sends.sndNxt, List.length_append, List.length_singleton, UInt16.ofNat_add]
    exact add_assoc _ _ _
  queued segment member := by
    rw [step.conn]
    by_cases room : endpoint.ctx.stack.txQueue.items.length < cfg.rdpMaxWindow * 2
    · rcases List.mem_append.mp (step.room room ▸ member) with member | member
      · exact (sends.queued segment member).grow _
      · rw [List.mem_singleton.mp member]
        simp only [sends.sndNxt]
        exact isSegment_snoc _ _ _
    · have full := le_antisymm endpoint.ctx.stack.txQueue.bounded (not_lt.mp room)
      rw [show after.stack.txQueue.items = _ from step.full full] at member
      exact (sends.queued segment member).grow _
  outbox entry member := by
    rw [step.conn]
    obtain ⟨packet, carries, outbox⟩ := step.sends
    rcases List.mem_append.mp (outbox ▸ member) with member | member
    · exact (sends.outbox entry member).imp id fun segment => segment.grow _
    · rw [List.mem_singleton.mp member, carries.seqNr, carries.body, sends.sndNxt]
      exact .inr (isSegment_snoc _ _ _)

theorem Ctx.TxCloses.not_live {ctx after : Ctx cfg} (closes : ctx.TxCloses after) :
    ¬ after.conn.rdp.state.Live := by
  intro live
  rcases closes.left with state | ⟨state, _⟩ <;> rcases live with live | live <;>
    rw [state] at live <;> cases live

/-- The two sides of a live connection, and an input that does not end it. -/
structure Endpoint.LiveStep (endpoint peer : Endpoint cfg) (input : ConnInput cfg) : Prop where
  idin : endpoint.ctx.conn.idin.has cspFRdp = true
  idout : endpoint.ctx.conn.idout.has cspFRdp = true
  before : endpoint.ctx.conn.rdp.state.Live
  allowed : connAllowed endpoint.ctx input
  source : endpoint.fromPeer peer input
  after : (connStep endpoint.ctx input).conn.rdp.state.Live

/-- Any input but an accepted payload keeps the numbers and sends nothing new. -/
theorem Endpoint.LiveStep.quiet {endpoint peer : Endpoint cfg} {input : ConnInput cfg}
    (live : endpoint.LiveStep peer input) (own : endpoint.ctx.OwnsTx)
    (nothing : newlyAccepted endpoint.ctx input = []) :
    endpoint.ctx.KeepsNumbers (connStep endpoint.ctx input) ∧
      endpoint.ctx.SendsNothingNew (connStep endpoint.ctx input) := by
  cases input with
  | connect => exact absurd live.allowed (not_connect_of_live live.before)
  | wake retry =>
      have after : (connectResult (rdpConnectWake endpoint.ctx retry)).conn.rdp.state.Live := live.after
      rcases rdpConnectWake_tx ⟨live.allowed, live.idin⟩ own retry with same | ⟨_, _, state, _⟩ | closes
      · change endpoint.ctx.KeepsNumbers (connectResult (rdpConnectWake endpoint.ctx retry)) ∧
          endpoint.ctx.SendsNothingNew (connectResult (rdpConnectWake endpoint.ctx retry))
        rw [same]
        exact ⟨⟨rfl, rfl, rfl, rfl⟩, own, fun _ member => member, (Io.SendsControl.refl _).copies _⟩
      · rw [state] at after
        rcases after with after | after <;> cases after
      · exact absurd after closes.not_live
  | arrive packet =>
      have openRdp : endpoint.ctx.OpenRdp := ⟨live.allowed, live.idin⟩
      have received := routeDeliver_of_live openRdp live.source.1 live.after
      have after : (rdpNewPacket endpoint.ctx packet).2.conn.rdp.state.Live := received ▸ live.after
      change endpoint.ctx.KeepsNumbers (routeDeliver endpoint.ctx packet) ∧
        endpoint.ctx.SendsNothingNew (routeDeliver endpoint.ctx packet)
      rw [received]
      refine ⟨(rdpNewPacket_sendStep openRdp packet).numbers_of_live live.before, ?_⟩
      cases rdpNewPacket_tx openRdp own packet with
      | keeps step _ => exact step.sendsNothingNew
      | lists step _ _ => exact step.sendsNothingNew
      | closes closes => exact absurd after closes.not_live
  | timeouts =>
      have after : (rdpCheckTimeouts endpoint.ctx).conn.rdp.state.Live := live.after
      refine ⟨.of_view ((rdpCheckTimeouts_leaves endpoint.ctx).same_of_live after), ?_⟩
      rcases rdpCheckTimeouts_tx ⟨live.allowed, live.idin⟩ own with closes | ⟨waiting, _⟩ | purges
      · exact absurd after closes.not_live
      · have before := live.before
        rw [waiting] at before
        rcases before with before | before <;> cases before
      · refine ⟨purges.own, ?_, purges.copies⟩
        rw [show dataOf (connStep endpoint.ctx .timeouts).stack.txQueue.items = _ from purges.data]
        exact List.filter_subset_self _
  | send packet =>
      rcases cspSend_tx own packet with ⟨accepted, _⟩ | ⟨_, refuses⟩
      · simp [newlyAccepted, accepted] at nothing
      · obtain ⟨txWait, conn⟩ := refuses.conn
        have numbers : endpoint.ctx.KeepsNumbers (cspSend endpoint.ctx (some packet)) := by
          constructor <;> rw [conn]
        refine ⟨numbers, ?_, ?_, (Io.SendsControl.of_outbox (refuses.outbox live.idout)).copies _⟩
        · intro other member
          have queued : other ∈ endpoint.ctx.stack.txQueue.items := refuses.txQueue ▸ member
          change other.conn = (cspSend endpoint.ctx (some packet)).conn.index
          rw [conn]
          exact own other queued
        · rw [show (connStep endpoint.ctx (.send packet)).stack.txQueue = _ from refuses.txQueue]
          exact fun _ member => member
  | read =>
      have receives := cspRead_receives endpoint.ctx
      exact ⟨.of_view (cspRead_sendView endpoint.ctx), (receives.keepsTx own).sendsNothingNew⟩
  | close =>
      have same : cspClose endpoint.ctx = endpoint.ctx := connClose_same_of_live live.idin live.after
      change endpoint.ctx.KeepsNumbers (cspClose endpoint.ctx) ∧
        endpoint.ctx.SendsNothingNew (cspClose endpoint.ctx)
      rw [same]
      exact ⟨.of_view rfl, (Ctx.KeepsTx.refl own).sendsNothingNew⟩
  | environment stack =>
      exact ⟨⟨rfl, rfl, rfl, rfl⟩, own, fun _ member => member,
        (Io.SendsControl.of_outbox live.source).copies _⟩

/-- A step of a live connection keeps its initial sequence number and the sending side. -/
theorem Endpoint.LiveStep.sends {endpoint peer : Endpoint cfg} {input : ConnInput cfg}
    (live : endpoint.LiveStep peer input) (sends : endpoint.Sends) :
    (endpoint.step input).Sends ∧
      (endpoint.step input).ctx.conn.idin = endpoint.ctx.conn.idin ∧
      (endpoint.step input).ctx.conn.idout = endpoint.ctx.conn.idout ∧
      (endpoint.step input).ctx.conn.rdp.sndIss = endpoint.ctx.conn.rdp.sndIss := by
  by_cases nothing : newlyAccepted endpoint.ctx input = []
  · obtain ⟨numbers, quiet⟩ := live.quiet sends.own nothing
    have kept := sends.keep numbers quiet
    simp only [Endpoint.step, nothing, List.append_nil]
    exact ⟨kept, numbers.idin, numbers.idout, numbers.sndIss⟩
  · cases input with
    | send packet =>
        rcases cspSend_tx sends.own packet with ⟨accepted, step⟩ | ⟨refused, _⟩
        · simp only [Endpoint.step, newlyAccepted, accepted, if_true]
          refine ⟨sends.send step, ?_⟩
          change (cspSend endpoint.ctx (some packet)).conn.idin = _ ∧
            (cspSend endpoint.ctx (some packet)).conn.idout = _ ∧
            (cspSend endpoint.ctx (some packet)).conn.rdp.sndIss = _
          rw [step.conn]
          exact ⟨rfl, rfl, rfl⟩
        · simp [newlyAccepted, refused] at nothing
    | _ => exact absurd rfl nothing

/-! ## The receiving side -/

def RxSide.delivered (side : RxSide) : List (Option (List UInt8)) :=
  side.rxLog.map (Option.map Packet.payload)

/-- The direction of a connection from the sender of these payloads to this receiver. -/
def RxSide.channel (side : RxSide) (accepted : List (List UInt8)) : Fifo (Option (List UInt8)) :=
  ⟨accepted.map some, side.delivered⟩

/-- A stored packet is a segment of the peer. -/
def Packet.IsStored (packet : Packet) (iss : UInt16) (accepted : List (List UInt8)) : Prop :=
  rdpHeaderSize < packet.length.toNat ∧ IsSegment iss accepted packet.hostSeqNr packet.body

theorem Packet.IsStored.tagged {packet : Packet} {iss : UInt16} {accepted : List (List UInt8)}
    (stored : packet.IsStored iss accepted) (conn : Nat) : (packet.tagged conn).IsStored iss accepted :=
  stored

/-- The receiver has got the first payloads, counts them in `rcv_cur`, and stores only others. -/
structure RxSide.Follows (side : RxSide) (iss : UInt16) (accepted : List (List UInt8)) : Prop where
  inOrder : (side.channel accepted).InOrder
  rcvCur : side.rcvCur = iss + UInt16.ofNat side.rxLog.length
  stored : ∀ packet ∈ side.items, packet.IsStored iss accepted

theorem RxSide.Follows.grow {side : RxSide} {iss : UInt16} {accepted : List (List UInt8)}
    (follows : side.Follows iss accepted) (more : List (List UInt8)) :
    side.Follows iss (accepted ++ more) where
  inOrder := by
    refine follows.inOrder.trans ?_
    simp only [RxSide.channel, List.map_append]
    exact List.prefix_append _ _
  rcvCur := follows.rcvCur
  stored packet member := ⟨(follows.stored packet member).1, (follows.stored packet member).2.grow more⟩

theorem RxSide.Follows.reorder {side : RxSide} {iss : UInt16} {accepted : List (List UInt8)}
    {items : List Packet} (follows : side.Follows iss accepted) (order : items.Perm side.items) :
    RxSide.Follows { side with items } iss accepted :=
  ⟨follows.inOrder, follows.rcvCur, fun packet member => follows.stored packet (order.mem_iff.mp member)⟩

/-- The reader gets the body of a segment. -/
theorem rdpHeaderRemove_payload {packet : Packet} (long : rdpHeaderSize < packet.length.toNat) :
    (rdpHeaderRemove packet).payload = packet.body := by
  have length : (packet.length - 5).toNat = packet.length.toNat - rdpHeaderSize := by
    have bound := packet.length.toNat_lt
    simp only [rdpHeaderSize] at long ⊢
    simp only [UInt16.toNat_sub, UInt16.reduceToNat]
    omega
  simp only [Packet.payload, Packet.body, rdpHeaderRemove, length]
  rfl

/-- The delivery of the next segment is one step of the channel. -/
theorem RxSide.Follows.deliver {side : RxSide} {iss : UInt16} {accepted : List (List UInt8)}
    {packet : Packet} {rest : List Packet} (follows : side.Follows iss accepted)
    (short : accepted.length < 2 ^ 15) (segment : packet.IsStored iss accepted)
    (kept : ∀ packet ∈ rest, packet.IsStored iss accepted)
    (next : packet.hostSeqNr = side.rcvCur + 1) :
    Fifo.Step (side.channel accepted) ((side.deliver packet rest).channel accepted) ∧
      (side.deliver packet rest).Follows iss accepted := by
  have count : side.delivered.length = side.rxLog.length := List.length_map _
  have known : side.rxLog.length ≤ accepted.length := by
    have bound := follows.inOrder.length_le
    simp only [RxSide.channel, List.length_map] at bound
    omega
  have found : accepted[side.rxLog.length]? = some packet.body :=
    segment.2.next short known (by rw [next, follows.rcvCur])
  have log : (side.deliver packet rest).delivered = side.delivered ++ [some packet.body] := by
    simp only [RxSide.delivered, RxSide.deliver, List.map_append, List.map_singleton, Option.map_some,
      rdpHeaderRemove_payload segment.1]
  have step : Fifo.Step (side.channel accepted) ((side.deliver packet rest).channel accepted) := by
    rw [RxSide.channel, RxSide.channel, log]
    refine .deliver ⟨accepted.map some, side.delivered⟩ (some packet.body) ?_
    simp only [count, List.getElem?_map, found, Option.map_some]
  refine ⟨step, step.inOrder follows.inOrder, ?_, kept⟩
  simp only [RxSide.deliver, follows.rcvCur, List.length_append, List.length_singleton, UInt16.ofNat_add]
  exact add_assoc _ _ _

/-- A flush is a run of the channel. -/
theorem RxSide.Follows.flush {before after : RxSide} {iss : UInt16} {accepted : List (List UInt8)}
    (follows : before.Follows iss accepted) (short : accepted.length < 2 ^ 15)
    (flushes : Flushes before after) :
    Fifo.Runs (before.channel accepted) (after.channel accepted) ∧ after.Follows iss accepted := by
  refine @Flushes.invariant (fun side => Fifo.Runs (before.channel accepted) (side.channel accepted) ∧
    side.Follows iss accepted) ?_ ?_ _ _ flushes ⟨.refl, follows⟩
  · rintro side items order ⟨runs, follows⟩
    exact ⟨runs, follows.reorder order⟩
  · rintro side packet rest next ⟨runs, follows⟩
    obtain ⟨step, follows'⟩ := follows.deliver short
      (follows.stored packet List.mem_cons_self)
      (fun other member => follows.stored other (List.mem_cons_of_mem _ member)) next
    exact ⟨runs.tail step, follows'⟩

theorem rdpHeaderToHost_isStored {packet : Packet} {iss : UInt16} {accepted : List (List UInt8)}
    (long : rdpHeaderSize < packet.length.toNat)
    (segment : IsSegment iss accepted packet.seqNr packet.body) :
    (rdpHeaderToHost packet).IsStored iss accepted := by
  refine ⟨long, ?_⟩
  rw [rdpHeaderToHost_body, rdpHeaderToHost_hostSeqNr]
  exact segment

/-- One packet of the peer runs the channel, as long as the connection stays live. -/
theorem RxStep.follows {ctx : Ctx cfg} {packet : Packet} {after : RxView} {iss : UInt16}
    {accepted : List (List UInt8)} (step : RxStep ctx packet after)
    (follows : ctx.rxView.Follows iss accepted) (short : accepted.length < 2 ^ 15)
    (before : ctx.conn.rdp.state.Live) (live : after.state.Live)
    (genuine : acceptsData ctx.conn.rdp packet.header = true →
      rdpHeaderSize < packet.length.toNat → IsSegment iss accepted packet.seqNr packet.body) :
    Fifo.Runs (ctx.rxView.channel accepted) (after.channel accepted) ∧ after.Follows iss accepted := by
  cases step with
  | keeps items order => exact ⟨.refl, follows.reorder order⟩
  | opens _ items order => exact ⟨.refl, follows.reorder order⟩
  | stores _ data long _ items order =>
      refine ⟨.refl, follows.inOrder, follows.rcvCur, fun stored member => ?_⟩
      rcases List.mem_cons.mp (order.mem_iff.mp member) with rfl | member
      · exact (rdpHeaderToHost_isStored long (genuine data long)).tagged ctx.conn.index
      · exact follows.stored stored member
  | delivers _ data long next _ side flushes =>
      have number : (rdpHeaderToHost packet).hostSeqNr = ctx.rxView.rcvCur + 1 :=
        (rdpHeaderToHost_hostSeqNr packet).trans next
      obtain ⟨first, follows'⟩ := follows.deliver short
        (rdpHeaderToHost_isStored long (genuine data long)) follows.stored number
      obtain ⟨rest, follows''⟩ := follows'.flush short flushes
      exact ⟨.head first rest, follows''⟩
  | accepts closed => rcases before with state | state <;> rw [closed] at state <;> cases state
  | connects sent => rcases before with state | state <;> rw [sent] at state <;> cases state
  | closes _ closes =>
      cases closes with
      | waits => rcases live with state | state <;> cases state
      | releases => rcases live with state | state <;> cases state

theorem RxCloses.not_live {before after : RxView} (closes : RxCloses before after) :
    ¬ after.state.Live := by
  cases closes with
  | waits => rintro (state | state) <;> cases state
  | releases => rintro (state | state) <;> cases state

/-- What the peer sends as data is one of its segments. -/
theorem Endpoint.Sends.genuine {peer : Endpoint cfg} (sends : peer.Sends) {packet : Packet} {rdp : Rdp}
    (source : ∃ entry ∈ peer.ctx.stack.io.outbox, packet.SameBytes entry.2)
    (data : acceptsData rdp packet.header = true) (long : rdpHeaderSize < packet.length.toNat) :
    IsSegment peer.ctx.conn.rdp.sndIss peer.accepted packet.seqNr packet.body := by
  obtain ⟨entry, member, bytes⟩ := source
  have same := bytes.sameSegment long.le
  rcases sends.outbox entry member with control | segment
  · simp only [acceptsData, Bool.and_eq_true, Bool.not_eq_true'] at data
    rcases same.isControl control with syn | rst | eak | empty
    · exact absurd (data.1.1.1.1.2.symm.trans syn) Bool.false_ne_true
    · exact absurd (data.1.1.1.1.1.symm.trans rst) Bool.false_ne_true
    · exact absurd (data.1.1.2.symm.trans eak) Bool.false_ne_true
    · omega
  · rw [same.seqNr, same.body]
    exact segment

/-- A step of a live connection runs the channel from the peer. -/
theorem Endpoint.LiveStep.receives {endpoint peer : Endpoint cfg} {input : ConnInput cfg}
    (live : endpoint.LiveStep peer input) (sends : peer.Sends) (own : endpoint.ctx.OwnsRx)
    (follows : endpoint.ctx.rxView.Follows peer.ctx.conn.rdp.sndIss peer.accepted)
    (short : peer.accepted.length < 2 ^ 15) :
    (connStep endpoint.ctx input).OwnsRx ∧
      Fifo.Runs (endpoint.ctx.rxView.channel peer.accepted)
        ((connStep endpoint.ctx input).rxView.channel peer.accepted) ∧
      (connStep endpoint.ctx input).rxView.Follows peer.ctx.conn.rdp.sndIss peer.accepted := by
  -- Most inputs keep the whole receiving side.
  have keeps : ∀ {after : Ctx cfg}, after.rxView = endpoint.ctx.rxView →
      after.OwnsRx ∧ Fifo.Runs (endpoint.ctx.rxView.channel peer.accepted)
          (after.rxView.channel peer.accepted) ∧
        after.rxView.Follows peer.ctx.conn.rdp.sndIss peer.accepted := by
    intro after same
    have own' : after.rxView.Owns := same ▸ (own : endpoint.ctx.rxView.Owns)
    exact ⟨own', same ▸ .refl, same ▸ follows⟩
  have flushes : ∀ {after : Ctx cfg} {side : RxSide}, Flushes endpoint.ctx.rxView.toRxSide side →
      after.rxView = { endpoint.ctx.rxView with toRxSide := side } →
      after.OwnsRx ∧ Fifo.Runs (endpoint.ctx.rxView.channel peer.accepted)
          (after.rxView.channel peer.accepted) ∧
        after.rxView.Follows peer.ctx.conn.rdp.sndIss peer.accepted := by
    intro after side flushes same
    have own' : after.rxView.Owns := by
      rw [same]
      exact fun packet member => own packet (flushes.sub packet member)
    obtain ⟨runs, follows'⟩ := follows.flush short flushes
    rw [same]
    exact ⟨own', runs, follows'⟩
  cases input with
  | connect => exact absurd live.allowed (not_connect_of_live live.before)
  | wake retry =>
      have after : (connectResult (rdpConnectWake endpoint.ctx retry)).rxView.state.Live := live.after
      rcases rdpConnectWake_rx ⟨live.allowed, live.idin⟩ retry with same | same | closes | closes
      · exact keeps same
      · rw [same] at after
        rcases after with after | after <;> cases after
      · exact absurd after closes.not_live
      · exact absurd after closes.not_live
  | arrive packet =>
      have openRdp : endpoint.ctx.OpenRdp := ⟨live.allowed, live.idin⟩
      have received := routeDeliver_of_live openRdp live.source.1 live.after
      have after : (rdpNewPacket endpoint.ctx packet).2.conn.rdp.state.Live := received ▸ live.after
      have step := rdpNewPacket_rx openRdp own packet
      change (routeDeliver endpoint.ctx packet).OwnsRx ∧ Fifo.Runs _
          ((routeDeliver endpoint.ctx packet).rxView.channel peer.accepted) ∧
        (routeDeliver endpoint.ctx packet).rxView.Follows _ peer.accepted
      rw [received]
      exact ⟨step.owns own, step.follows follows short live.before after (sends.genuine live.source.2)⟩
  | timeouts =>
      have after : (rdpCheckTimeouts endpoint.ctx).rxView.state.Live := live.after
      rcases rdpCheckTimeouts_rx ⟨live.allowed, live.idin⟩ own with closes | ⟨_, same⟩ |
        ⟨side, flushed, same⟩
      · exact absurd after closes.not_live
      · exact keeps (congrArg Ctx.rxView same)
      · exact flushes flushed same
  | send packet => exact keeps (cspSend_rxView endpoint.ctx packet)
  | read => exact keeps (cspRead_rxView endpoint.ctx)
  | close => exact keeps (congrArg Ctx.rxView (connClose_same_of_live live.idin live.after))
  | environment stack => exact keeps rfl

/-! ## Runs -/

/-- The channel from this side to the other. -/
def Session.channel (session : Session cfg) (side : Bool) : Fifo (Option (List UInt8)) :=
  (session !side).ctx.rxView.channel (session side).accepted

/-- This invariant of one side holds in every state of a run. -/
structure Session.Sound (session : Session cfg) (side : Bool) : Prop where
  idin : (session side).ctx.conn.idin.has cspFRdp = true
  idout : (session side).ctx.conn.idout.has cspFRdp = true
  live : (session side).ctx.conn.rdp.state.Live
  short : (session side).accepted.length < 2 ^ 15
  sends : (session side).Sends
  own : (session side).ctx.OwnsRx
  follows : (session side).ctx.rxView.Follows (session !side).ctx.conn.rdp.sndIss (session !side).accepted

theorem Endpoint.Connected.sends {endpoint peer : Endpoint cfg} (connected : endpoint.Connected peer) :
    endpoint.Sends where
  own := connected.txQueue.1
  sndNxt := by simp [connected.sndNxt, connected.accepted]
  queued segment member := by
    rw [connected.txQueue.2] at member
    cases member
  outbox entry member := .inl (connected.outbox entry member)

theorem Endpoint.Connected.follows {endpoint peer : Endpoint cfg} (connected : endpoint.Connected peer)
    (accepted : List (List UInt8)) :
    endpoint.ctx.rxView.Follows peer.ctx.conn.rdp.sndIss accepted where
  inOrder := by
    simp only [Fifo.InOrder, RxSide.channel, RxSide.delivered, Ctx.rxView, connected.rxLog, List.map_nil]
    exact List.nil_prefix
  rcvCur := by simp [Ctx.rxView, connected.rcvCur, connected.rxLog]
  stored packet member := by
    rw [show endpoint.ctx.rxView.items = [] from connected.rxQueue] at member
    cases member

theorem sessionMachine_start {session : Session cfg} (start : (sessionMachine cfg).initial session)
    (side : Bool) : session.Sound side where
  idin := (start side).rdp.1
  idout := (start side).rdp.2
  live := (start side).live
  short := by simp [(start side).accepted]
  sends := (start side).sends
  own packet member := by
    rw [(start side).rxQueue] at member
    cases member
  follows := (start side).follows _

/-- One step of a side keeps the invariant of both sides and runs both channels. -/
theorem sessionMachine_step {session : Session cfg} {input : Bool × ConnInput cfg}
    (sound : ∀ side, session.Sound side) (allowed : (sessionMachine cfg).allowed session input) :
    (∀ side, (session.step input).Sound side) ∧
      ∀ side, Fifo.Runs (session.channel side) ((session.step input).channel side) := by
  obtain ⟨acting, input⟩ := input
  obtain ⟨connAllowed, source, after, short⟩ := allowed
  have live : (session acting).LiveStep (session !acting) input :=
    ⟨(sound acting).idin, (sound acting).idout, (sound acting).live, connAllowed, source, after⟩
  obtain ⟨sends, idin, idout, sndIss⟩ := live.sends (sound acting).sends
  obtain ⟨own, runs, follows⟩ := live.receives (sound !acting).sends (sound acting).own
    (sound acting).follows (sound !acting).short
  have here : session.step (acting, input) acting = (session acting).step input :=
    Function.update_self _ _ _
  have there : session.step (acting, input) (!acting) = session !acting :=
    Function.update_of_ne (by cases acting <;> simp) _ _
  have both : ∀ {motive : Bool → Prop}, motive acting → motive (!acting) → ∀ side, motive side := by
    intro motive this other side
    by_cases same : side = acting
    · exact same ▸ this
    · rw [show side = !acting by cases side <;> cases acting <;> simp_all]
      exact other
  refine ⟨both ?_ ?_, both ?_ ?_⟩
  · constructor <;> simp only [here, there]
    · exact idin ▸ (sound acting).idin
    · exact idout ▸ (sound acting).idout
    · exact after
    · exact short
    · exact sends
    · exact own
    · exact follows
  · constructor <;> simp only [here, there, Bool.not_not]
    · exact (sound !acting).idin
    · exact (sound !acting).idout
    · exact (sound !acting).live
    · exact (sound !acting).short
    · exact (sound !acting).sends
    · exact (sound !acting).own
    · rw [sndIss]
      have follows := (sound !acting).follows
      rw [Bool.not_not] at follows
      exact follows.grow _
  · simp only [Session.channel, here, there, RxSide.channel, Endpoint.step, List.map_append]
    exact Fifo.Runs.send ⟨_, _⟩ _
  · simp only [Session.channel, here, there, Bool.not_not]
    exact runs

theorem session_sound {session : Session cfg} (reached : (sessionMachine cfg).Reachable session) :
    ∀ side, session.Sound side := by
  refine @Machine.Reachable.invariant _ _ _ (fun session => ∀ side, session.Sound side) ?_ ?_ _ reached
  · exact fun session start => sessionMachine_start start
  · exact fun session input sound allowed => (sessionMachine_step sound allowed).1

/-- Each step of a run is a run of the reliable channel in both directions. -/
theorem session_refines_fifo :
    ∀ session : Session cfg, (sessionMachine cfg).Reachable session →
      ∀ input, (sessionMachine cfg).allowed session input → ∀ side,
        Fifo.Runs (session.channel side) ((session.step input).channel side) :=
  fun _ reached _ allowed => (sessionMachine_step (session_sound reached) allowed).2

/-- The payloads in the receive queue of one side are at all times a prefix of those that
`csp_rdp_send` accepted on the other side. -/
theorem session_delivers_prefix :
    ∀ session : Session cfg, (sessionMachine cfg).Reachable session → ∀ side,
      (session !side).ctx.delivered <+: (session side).accepted.map some := by
  intro session reached side
  have inOrder := (session_sound reached (!side)).follows.inOrder
  rw [Bool.not_not] at inOrder
  exact inOrder

/-! ## A run -/

instance (state : RdpState) : Decidable state.Live := inferInstanceAs (Decidable (_ ∨ _))

instance (first second : Packet) : Decidable (first.SameBytes second) :=
  inferInstanceAs (Decidable (_ ∧ ∀ index < first.length.toNat, _))

instance (packet : Packet) (outbox : List (CspId × Packet)) :
    Decidable (∃ entry ∈ outbox, packet.SameBytes entry.2) :=
  decidable_of_iff (outbox.any fun entry => decide (packet.SameBytes entry.2)) (by simp)

/-- An endpoint with these numbers whose node has no other traffic. -/
def idleEndpoint (state : RdpState) (iss peerIss : UInt16) : Endpoint {} :=
  { ctx := { (freshServer : Ctx {}) with
      conn := { (freshServer : Ctx {}).conn with
        rdp := { (default : Rdp) with
          state, sndIss := iss, sndNxt := iss + 1, sndUna := iss, rcvCur := peerIss, windowSize := 4 } } }
    accepted := [] }

theorem idleEndpoint_connected (state state' : RdpState) (live : state.Live) (iss peerIss : UInt16) :
    (idleEndpoint state iss peerIss).Connected (idleEndpoint state' peerIss iss) where
  rdp := by
    have flag : CspId.has { (default : CspId) with flags := cspFRdp } cspFRdp = true := by decide
    exact ⟨flag, flag⟩
  live := live
  rcvCur := rfl
  sndNxt := rfl
  txQueue := ⟨List.forall_mem_nil _, rfl⟩
  rxQueue := rfl
  outbox entry member := by cases member
  accepted := rfl
  rxLog := rfl

instance (endpoint peer : Endpoint cfg) (packet : Packet) :
    Decidable (endpoint.fromPeer peer (.arrive packet)) :=
  inferInstanceAs (Decidable (_ ∧ ∃ entry ∈ peer.ctx.stack.io.outbox, packet.SameBytes entry.2))

/-- The server waits for the last message of the handshake. -/
def startedSession : Session {} := fun server =>
  if server then idleEndpoint .synRcvd 500 100 else idleEndpoint .open 100 500

/-- The client sends two segments, and the second one arrives twice before the first. -/
def reorderedInputs : List (Bool × ConnInput {}) :=
  [(false, .send (userPacket [1])), (false, .send (userPacket [2, 3])),
    (true, .arrive (rdpSegment rdpAck 102 500 [2, 3])),
    (true, .arrive (rdpSegment rdpAck 102 500 [2, 3])),
    (true, .arrive (rdpSegment rdpAck 101 500 [1]))]

def reorderedSession : Session {} := (sessionMachine {}).trace startedSession reorderedInputs

theorem reorderedSession_delivers_prefix :
    (reorderedSession true).ctx.delivered <+: (reorderedSession false).accepted.map some := by
  have start : (sessionMachine {}).initial startedSession := by
    intro server
    cases server with
    | false => exact idleEndpoint_connected .open .synRcvd (.inr rfl) 100 500
    | true => exact idleEndpoint_connected .synRcvd .open (.inl rfl) 500 100
  have reached := (Machine.Reachable.start start).trace reorderedInputs (by
    refine ⟨⟨?_, trivial, ?_, ?_⟩, ⟨?_, trivial, ?_, ?_⟩, ⟨?_, ?_, ?_, ?_⟩, ⟨?_, ?_, ?_, ?_⟩,
      ⟨?_, ?_, ?_, ?_⟩, trivial⟩
    all_goals decide +kernel)
  exact session_delivers_prefix reorderedSession reached false

end Libcsp

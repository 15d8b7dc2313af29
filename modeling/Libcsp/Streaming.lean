/-
This file proves that a stream of RDP segments over a lossless link loses nothing and never floods its receiver.
-/
import Libcsp.Lib.FlowControl
import Libcsp.StreamSteps

namespace Libcsp

variable {cfg : Config}

/-! ## The machine -/

/-- One end sends and the other end receives. The lists hold the packets on their way, the oldest one first. -/
structure Stream (cfg : Config) where
  sender : Ctx cfg
  receiver : Ctx cfg
  forth : List Packet
  back : List Packet
  /-- History: the payloads that `csp_send` has accepted. -/
  accepted : List (List UInt8)
  /-- History: the payloads that `csp_read` has returned. -/
  taken : List (List UInt8)

inductive StreamInput (cfg : Config) where
  | sender (input : ConnInput cfg)
  | receiver (input : ConnInput cfg)

/-- The packets that the output path got since the start of a call. -/
def Ctx.sentSince (ctx after : Ctx cfg) : List Packet :=
  (after.stack.io.outbox.drop ctx.stack.io.outbox.length).map Prod.snd

/-- The packets that this input gives to the output path for the connection. -/
def newlySent (ctx : Ctx cfg) : ConnInput cfg → List Packet
  | .environment _ => []
  | input => ctx.sentSince (connStep ctx input)

/-- The payload that this input returns to userspace. -/
def newlyRead (ctx : Ctx cfg) : ConnInput cfg → List (List UInt8)
  | .read => ((cspRead ctx).1.map Packet.payload).toList
  | _ => []

/-- An arrival takes the oldest packet from the link. -/
def leftFlying (flying : List Packet) : ConnInput cfg → List Packet
  | .arrive _ => flying.tail
  | _ => flying

def streamStep (stream : Stream cfg) : StreamInput cfg → Stream cfg
  | .sender input => { stream with
      sender := connStep stream.sender input
      forth := stream.forth ++ newlySent stream.sender input
      back := leftFlying stream.back input
      accepted := stream.accepted ++ newlyAccepted stream.sender input }
  | .receiver input => { stream with
      receiver := connStep stream.receiver input
      forth := leftFlying stream.forth input
      back := stream.back ++ newlySent stream.receiver input
      taken := stream.taken ++ newlyRead stream.receiver input }

/-- The link is lossless and keeps the order: the packet has the bytes of the oldest one on its way. -/
def ArrivesNext (flying : List Packet) (packet : Packet) : Prop :=
  packet.id.has cspFRdp = true ∧ ∃ oldest, flying.head? = some oldest ∧ packet.SameBytes oldest

theorem ArrivesNext.split {flying : List Packet} {packet : Packet} (arrives : ArrivesNext flying packet) :
    packet.id.has cspFRdp = true ∧ ∃ oldest rest, flying = oldest :: rest ∧ packet.SameBytes oldest := by
  obtain ⟨rdp, oldest, first, same⟩ := arrives
  obtain ⟨rest, whole⟩ := List.head?_eq_some_iff.mp first
  exact ⟨rdp, oldest, rest, whole, same⟩

/-- The sender gets messages with data, and its timers find no packet overdue. -/
def senderAllowed (stream : Stream cfg) : ConnInput cfg → Prop
  | .send packet => 0 < packet.length.toNat
  | .arrive packet => ArrivesNext stream.back packet
  | .timeouts => stream.sender.OnTime
  | .environment _ => True
  | _ => False

/-- The receiver only reads, and then it has a buffer for an acknowledgement. -/
def receiverAllowed (stream : Stream cfg) : ConnInput cfg → Prop
  | .read => (bufferGet stream.receiver.stack.io.pool 20).1.isSome = true
  | .arrive packet => ArrivesNext stream.forth packet
  | .timeouts => stream.receiver.OnTime
  | .environment _ => True
  | _ => False

def streamAllowed (stream : Stream cfg) : StreamInput cfg → Prop
  | .sender input => senderAllowed stream input
  | .receiver input => receiverAllowed stream input

/-- Both ends are open with the same window, which is less than half of the receive queue. The receiver delays
acknowledgements for fewer segments than the window holds. -/
structure Stream.Starts (stream : Stream cfg) : Prop where
  sender : stream.sender.Flows
  receiver : stream.receiver.Flows
  agreed : stream.receiver.conn.rdp.windowSize = stream.sender.conn.rdp.windowSize
  narrow : stream.sender.conn.rdp.windowSize.toNat < 2 ^ 14
  roomy : 2 * stream.sender.conn.rdp.windowSize.toNat < cfg.connRxqueueLen
  delayed : stream.receiver.conn.rdp.delayedAcks ≠ 0
  prompt : stream.receiver.conn.rdp.ackDelayCount.toNat < stream.sender.conn.rdp.windowSize.toNat
  sndUna : stream.sender.conn.rdp.sndUna = stream.sender.conn.rdp.sndNxt
  sndNxt : stream.sender.conn.rdp.sndNxt = stream.receiver.conn.rdp.rcvCur + 1
  rcvLsa : stream.receiver.conn.rdp.rcvLsa = stream.receiver.conn.rdp.rcvCur
  reply : stream.receiver.conn.rdp.sndNxt = stream.sender.conn.rdp.rcvCur + 1
  unread : stream.receiver.conn.rxQueue.items = []
  idle : stream.forth = [] ∧ stream.back = []
  history : stream.accepted = [] ∧ stream.taken = []

def streamMachine (cfg : Config) : Machine (Stream cfg) (StreamInput cfg) where
  initial := Stream.Starts
  step := streamStep
  allowed := streamAllowed

/-- Both ends have the default window, and the receiver has the default delays. -/
def openStream : Stream {} :=
  { sender := openEnd
    receiver := { openEnd with conn.rdp.delayedAcks := 1, conn.rdp.ackDelayCount := 2 }
    forth := []
    back := []
    accepted := []
    taken := [] }

theorem openStream_starts : openStream.Starts := by
  have flows : openStream.sender.Flows ∧ openStream.receiver.Flows :=
    ⟨⟨rfl, rfl, by decide, by decide, rfl, by rintro _ ⟨⟩, rfl⟩, ⟨rfl, rfl, by decide, by decide, rfl, by rintro _ ⟨⟩, rfl⟩⟩
  exact ⟨flows.1, flows.2, rfl, by decide, by decide, by decide, by decide, rfl, rfl, rfl, rfl, rfl, ⟨rfl, rfl⟩,
    ⟨rfl, rfl⟩⟩

/-- One message is on its way. -/
def sentStream : Stream {} := streamStep openStream (.sender (.send (userPacket [1, 2, 3])))

theorem sentStream_reachable : (streamMachine {}).Reachable sentStream := by
  have start : (streamMachine {}).Reachable openStream := .start openStream_starts
  have allowed : (streamMachine {}).allowed openStream (.sender (.send (userPacket [1, 2, 3]))) :=
    (by decide : 0 < (userPacket [1, 2, 3]).length.toNat)
  exact start.next allowed

/-! ## The packets on their way -/

/-- The payloads of the segments with data. -/
def dataBodies (packets : List Packet) : List (List UInt8) := (packets.map Packet.body).filter (· ≠ [])

theorem dataBodies_append (first second : List Packet) :
    dataBodies (first ++ second) = dataBodies first ++ dataBodies second := by
  simp [dataBodies]

/-- Each segment has the next number, and a bare acknowledgement uses none. All acknowledge the same number. -/
def Consecutive (ackNr : UInt16) : UInt16 → List Packet → Prop
  | _, [] => True
  | number, packet :: rest =>
      packet.IsAcked number ackNr packet.body ∧
        Consecutive ackNr (number + UInt16.ofNat (dataBodies [packet]).length) rest

theorem Consecutive.snoc {ackNr number : UInt16} {packets : List Packet} {packet : Packet}
    (continues : Consecutive ackNr number packets)
    (acked : packet.IsAcked (number + UInt16.ofNat (dataBodies packets).length) ackNr packet.body) :
    Consecutive ackNr number (packets ++ [packet]) := by
  induction packets generalizing number with
  | nil =>
      have first : number + UInt16.ofNat (dataBodies []).length = number := by simp [dataBodies]
      exact ⟨first ▸ acked, trivial⟩
  | cons head rest ih =>
      refine ⟨continues.1, ih continues.2 ?_⟩
      have split : dataBodies (head :: rest) = dataBodies [head] ++ dataBodies rest :=
        dataBodies_append [head] rest
      rwa [split, List.length_append, UInt16.ofNat_add, ← add_assoc] at acked

/-- The payloads that wait for `csp_read`. -/
def Stream.unread (stream : Stream cfg) : List (List UInt8) :=
  stream.receiver.conn.rxQueue.items.filterMap (Option.map Packet.payload)

/-! ## The counts of a stream -/

def streamBounds (cfg : Config) (window delay : UInt32) : FlowBounds :=
  { window := window.toNat, room := cfg.connRxqueueLen, reserve := 2 * window.toNat, delay := delay.toNat }

/-- All numbers of both ends are counts behind a common base, and no message is lost. -/
structure Stream.Tracks (stream : Stream cfg) (window delay : UInt32) (base : UInt16) (flow : Flow) : Prop where
  sender : stream.sender.Flows
  receiver : stream.receiver.Flows
  senderWindow : stream.sender.conn.rdp.windowSize = window
  receiverWindow : stream.receiver.conn.rdp.windowSize = window
  delay : stream.receiver.conn.rdp.ackDelayCount = delay
  delayed : stream.receiver.conn.rdp.delayedAcks ≠ 0
  sndNxt : stream.sender.conn.rdp.sndNxt = base + 1 + UInt16.ofNat flow.sent
  sndUna : stream.sender.conn.rdp.sndUna = base + 1 + UInt16.ofNat flow.una
  rcvCur : stream.receiver.conn.rdp.rcvCur = base + UInt16.ofNat flow.arrived
  rcvLsa : stream.receiver.conn.rdp.rcvLsa = base + UInt16.ofNat flow.acked
  reply : stream.receiver.conn.rdp.sndNxt = stream.sender.conn.rdp.rcvCur + 1
  sent : flow.sent = stream.accepted.length
  taken : flow.taken = stream.taken.length
  arrived : flow.arrived = flow.taken + stream.receiver.conn.rxQueue.items.length
  packets : ∀ item ∈ stream.receiver.conn.rxQueue.items, item.isSome = true
  content : stream.accepted = stream.taken ++ stream.unread ++ dataBodies stream.forth
  forth : Consecutive stream.sender.conn.rdp.rcvCur (base + 1 + UInt16.ofNat flow.arrived) stream.forth
  back : List.Forall₂ (fun packet ack => packet.IsAcked (stream.sender.conn.rdp.rcvCur + 1) (base + UInt16.ofNat ack) [])
    stream.back flow.acks

variable {stream : Stream cfg} {after : Ctx cfg} {window delay : UInt32} {base : UInt16} {flow : Flow}

theorem Stream.unread_length (packets : ∀ item ∈ stream.receiver.conn.rxQueue.items, item.isSome = true) :
    stream.unread.length = stream.receiver.conn.rxQueue.items.length := by
  rw [Stream.unread]
  generalize stream.receiver.conn.rxQueue.items = items at packets ⊢
  induction items with
  | nil => rfl
  | cons item rest ih =>
      obtain ⟨packet, rfl⟩ := Option.isSome_iff_exists.mp (packets item List.mem_cons_self)
      exact congrArg (· + 1) (ih fun other member => packets other (List.mem_cons_of_mem _ member))

/-- The segments on their way are those that were sent and have not arrived. -/
theorem Stream.Tracks.flying (tracks : stream.Tracks window delay base flow) :
    flow.sent = flow.arrived + (dataBodies stream.forth).length := by
  have lengths := congrArg List.length tracks.content
  rw [List.length_append, List.length_append, Stream.unread_length tracks.packets] at lengths
  have sent := tracks.sent
  have taken := tracks.taken
  have arrived := tracks.arrived
  omega

/-- The next packet of the sender has the number behind all packets on their way. -/
theorem Stream.Tracks.sendsNext (tracks : stream.Tracks window delay base flow) :
    stream.sender.conn.rdp.sndNxt =
      base + 1 + UInt16.ofNat flow.arrived + UInt16.ofNat (dataBodies stream.forth).length := by
  rw [tracks.sndNxt, tracks.flying, UInt16.ofNat_add, add_assoc (base + 1)]

/-! ## The sender -/

theorem Ctx.Idles.sentSince {ctx : Ctx cfg} (idles : ctx.Idles after) : ctx.sentSince after = [] := by
  obtain ⟨_, _, _, _, rfl, outbox, _⟩ := idles
  rw [Ctx.sentSince, outbox, List.drop_length]
  rfl

theorem Ctx.sentSince_snoc {ctx : Ctx cfg} {id : CspId} {packet : Packet}
    (outbox : after.stack.io.outbox = ctx.stack.io.outbox ++ [(id, packet)]) : ctx.sentSince after = [packet] := by
  rw [Ctx.sentSince, outbox, List.drop_left]
  rfl

/-- A bare acknowledgement has no body. -/
theorem Packet.IsAcked.no_data {packet : Packet} {seqNr ackNr : UInt16} (acked : packet.IsAcked seqNr ackNr []) :
    packet.body = [] := by
  obtain ⟨_, carries⟩ := acked
  exact carries.body

theorem Packet.IsAcked.of_body {packet : Packet} {seqNr ackNr : UInt16} {body : List UInt8}
    (acked : packet.IsAcked seqNr ackNr body) : packet.IsAcked seqNr ackNr packet.body := by
  obtain ⟨counter, carries⟩ := acked
  exact ⟨counter, carries.body ▸ carries⟩

theorem Stream.Tracks.senderMayAck (tracks : stream.Tracks window delay base flow)
    (may : stream.sender.MayAck after) :
    Stream.Tracks { stream with sender := after, forth := stream.forth ++ stream.sender.sentSince after }
      window delay base flow := by
  have flows := tracks.sender.mayAck may
  rcases may with idles | ⟨_, acks⟩
  · rw [idles.sentSince, List.append_nil]
    obtain ⟨_, _, _, _, rfl, _⟩ := idles
    exact { tracks with sender := flows }
  · obtain ⟨_, _, _, _, _, _, packet, rfl, outbox, acked, _⟩ := acks
    rw [Ctx.sentSince_snoc outbox]
    have silent : dataBodies [packet] = [] := by
      simp [dataBodies, acked.no_data]
    refine { tracks with sender := flows, content := ?_, forth := ?_ }
    · rw [dataBodies_append, silent, List.append_nil]
      exact tracks.content
    · exact tracks.forth.snoc (tracks.sendsNext ▸ acked.of_body)

/-- The data of an accepted message is the next segment on the way. -/
theorem Stream.Tracks.senderSends {payload : List UInt8} (tracks : stream.Tracks window delay base flow)
    (sends : stream.sender.TxSends after payload) (data : payload ≠ []) :
    Stream.Tracks
      { stream with
        sender := after
        forth := stream.forth ++ stream.sender.sentSince after
        accepted := stream.accepted ++ [payload] }
      window delay base { flow with sent := flow.sent + 1 } := by
  obtain ⟨packet, carries, outbox⟩ := sends.sends
  have conn := sends.conn
  have acked := Packet.IsAcked.of_data carries
  have body : dataBodies [packet] = [payload] := by
    simp [dataBodies, carries.body, data]
  have flows := tracks.sender
  have sender : after.Flows := by
    refine ⟨?_, ?_, ?_, ?_, ?_, sends.own, ?_⟩
    · rw [conn]
      exact flows.connState
    · rw [conn]
      exact flows.opened
    · rw [conn]
      exact flows.idin
    · rw [conn]
      exact flows.idout
    · rw [conn]
      exact flows.handed
    · rw [sends.rxQueue]
      exact flows.stored
  rw [Ctx.sentSince_snoc outbox]
  refine { tracks with
    sender, senderWindow := ?_, sndNxt := ?_, sndUna := ?_, reply := ?_, sent := ?_, content := ?_, forth := ?_, back := ?_ }
  · rw [conn]
    exact tracks.senderWindow
  · rw [conn]
    simp only
    rw [tracks.sndNxt, UInt16.ofNat_add, ← add_assoc]
    rfl
  · rw [conn]
    exact tracks.sndUna
  · rw [conn]
    exact tracks.reply
  · rw [List.length_append, List.length_singleton, ← tracks.sent]
  · rw [dataBodies_append, body, ← List.append_assoc]
    exact congrArg (· ++ [payload]) tracks.content
  · rw [conn]
    exact tracks.forth.snoc (tracks.sendsNext ▸ acked.of_body)
  · rw [conn]
    exact tracks.back

/-- The sender may send while the window has room. -/
theorem Stream.Tracks.ready_iff (tracks : stream.Tracks window delay base flow)
    (sound : flow.Sound (streamBounds cfg window delay)) (narrow : window.toNat < 2 ^ 14) :
    rdpIsConnReadyForTx stream.sender.conn = true ↔ flow.sent < flow.una + window.toNat := by
  have above := sound.climbs.rises.trans (sound.acked.trans sound.arrived)
  have inside : flow.sent ≤ flow.una + window.toNat := sound.window
  have number : stream.sender.conn.rdp.sndNxt =
      stream.sender.conn.rdp.sndUna + UInt16.ofNat (flow.sent - flow.una) := by
    rw [tracks.sndNxt, tracks.sndUna, add_assoc (base + 1), ← UInt16.ofNat_add, Nat.add_sub_cancel' above]
  have same := tracks.senderWindow
  rw [rdpIsConnReadyForTx_iff (by rwa [same]) (by rw [same]; omega) number, same]
  omega

/-- The sender takes the oldest acknowledgement. -/
theorem Stream.Tracks.senderHeeds {packet : Packet} (tracks : stream.Tracks window delay base flow)
    (sound : flow.Sound (streamBounds cfg window delay)) (narrow : window.toNat < 2 ^ 14)
    (arrives : ArrivesNext stream.back packet) :
    ∃ ack rest, flow.acks = ack :: rest ∧
      Stream.Tracks { stream with sender := routeDeliver stream.sender packet, back := stream.back.tail }
        window delay base { flow with una := ack, acks := rest } ∧
      stream.sender.sentSince (routeDeliver stream.sender packet) = [] := by
  obtain ⟨rdp, oldest, flying, whole, same⟩ := arrives.split
  have acks := tracks.back
  have climbs := sound.climbs
  rw [whole] at acks
  cases numbers : flow.acks with
  | nil =>
      rw [numbers] at acks
      cases acks
  | cons ack rest =>
      rw [numbers] at acks climbs
      obtain ⟨sent, others⟩ := List.forall₂_cons.mp acks
      have arrived := sent.of_sameBytes same
      have below := climbs.2.rises.trans (sound.acked.trans sound.arrived)
      have inside : flow.sent ≤ flow.una + window.toNat := sound.window
      have valid : rdpAckValid stream.sender.conn.rdp (base + UInt16.ofNat ack) = true := by
        rw [rdpAckValid, tracks.sndUna, tracks.sndNxt, tracks.senderWindow]
        exact ackValid_base base narrow climbs.1 below inside
      have inWindow : rdpSeqValid stream.sender.conn.rdp (stream.sender.conn.rdp.rcvCur + 1) = true := by
        simp [rdpSeqValid, rdpSeqBetween]
      obtain ⟨pool, delivered⟩ := routeDeliver_ack tracks.sender rdp arrived inWindow valid
      have flows := tracks.sender
      refine ⟨ack, rest, rfl, ?_, ?_⟩
      · rw [delivered, whole]
        exact { tracks with
          sender := ⟨flows.connState, flows.opened, flows.idin, flows.idout, flows.handed, flows.ownTx, flows.stored⟩
          sndUna := by grind
          back := others }
      · rw [delivered, Ctx.sentSince, List.drop_length]
        rfl

/-! ## The receiver -/

/-- A receiver with room for an acknowledgement may give one in the counts, too. -/
theorem Stream.Tracks.mayAck (tracks : stream.Tracks window delay base flow) (narrow : window.toNat < 2 ^ 14)
    (free : rdpRxQueueShort stream.receiver.conn = false) : flow.MayAck (streamBounds cfg window delay) := by
  have same := tracks.receiverWindow
  have places := (rdpRxQueueShort_eq_false (by rwa [same])).mp free
  rw [same] at places
  have arrived := tracks.arrived
  simp only [Flow.MayAck, streamBounds]
  omega

theorem Stream.Tracks.receiverIdles (tracks : stream.Tracks window delay base flow)
    (idles : stream.receiver.Idles after) :
    Stream.Tracks { stream with receiver := after, back := stream.back ++ stream.receiver.sentSince after }
      window delay base flow := by
  have flows := tracks.receiver.mayAck (.inl idles)
  rw [idles.sentSince, List.append_nil]
  obtain ⟨_, _, _, _, rfl, _⟩ := idles
  exact { tracks with receiver := flows }

theorem Stream.Tracks.receiverAcks (tracks : stream.Tracks window delay base flow)
    (free : rdpRxQueueShort stream.receiver.conn = false) (acks : stream.receiver.Acks after) :
    Stream.Tracks { stream with receiver := after, back := stream.back ++ stream.receiver.sentSince after }
      window delay base { flow with acked := flow.arrived, acks := flow.acks ++ [flow.arrived] } := by
  have flows := tracks.receiver.mayAck (.inr ⟨free, acks⟩)
  obtain ⟨_, _, _, _, _, _, packet, rfl, outbox, acked, _⟩ := acks
  rw [Ctx.sentSince_snoc outbox]
  rw [tracks.reply, tracks.rcvCur] at acked
  refine { tracks with receiver := flows, rcvLsa := tracks.rcvCur, back := ?_ }
  exact List.rel_append tracks.back (.cons acked .nil)

/-- An answer of the receiver is no step of the counts, or an acknowledgement. -/
theorem Stream.Tracks.receiverMayAck (tracks : stream.Tracks window delay base flow) (narrow : window.toNat < 2 ^ 14)
    (may : stream.receiver.MayAck after) :
    ∃ flow', flow.Runs (streamBounds cfg window delay) flow' ∧
      Stream.Tracks { stream with receiver := after, back := stream.back ++ stream.receiver.sentSince after }
        window delay base flow' := by
  rcases may with idles | ⟨free, acks⟩
  · exact ⟨flow, .refl, tracks.receiverIdles idles⟩
  · exact ⟨_, .single (.ack flow (tracks.mayAck narrow free)), tracks.receiverAcks free acks⟩

/-- A receiver that has taken everything and owes too many acknowledgements has to send one. -/
theorem Stream.Tracks.due (tracks : stream.Tracks window delay base flow) (narrow : window.toNat < 2 ^ 14)
    (recent : flow.arrived ≤ flow.acked + window.toNat) (owes : flow.acked + delay.toNat < flow.arrived) :
    rdpShouldAck stream.receiver.conn stream.receiver.stack.now = true := by
  have ahead : seqAhead stream.receiver.conn.rdp.rcvLsa stream.receiver.conn.rdp.rcvCur = flow.arrived - flow.acked := by
    rw [tracks.rcvLsa, tracks.rcvCur]
    exact seqAhead_base base (by omega) (by omega)
  have counter := rdpSeqAfter_add_iff stream.receiver.conn.rdp.rcvLsa delay.toUInt16 stream.receiver.conn.rdp.rcvCur
  rw [ahead, UInt32.toNat_toUInt16, WithinHalf] at counter
  rw [rdpShouldAck, if_neg tracks.delayed, tracks.delay, counter.mpr (.inl ⟨by omega, by omega⟩)]
  exact ite_self true

/-- A packet that leaves the receive queue goes to userspace. -/
theorem Stream.Tracks.takes {first : Option Packet} {rest : List (Option Packet)}
    {queue : BoundedQueue (Option Packet) cfg.connRxqueueLen} (tracks : stream.Tracks window delay base flow)
    (waits : stream.receiver.conn.rxQueue.items = first :: rest) (left : queue.items = rest) :
    Stream.Tracks
      { stream with
        receiver := { stream.receiver with conn := { stream.receiver.conn with rxQueue := queue } }
        taken := stream.taken ++ (first.map Packet.payload).toList }
      window delay base { flow with taken := flow.taken + 1 } := by
  obtain ⟨packet, rfl⟩ := Option.isSome_iff_exists.mp (tracks.packets first (by simp [waits]))
  have flows := tracks.receiver
  have content := tracks.content
  have arrived := tracks.arrived
  rw [Stream.unread, waits] at content
  rw [waits, List.length_cons] at arrived
  refine { tracks with receiver := ?_, taken := ?_, arrived := ?_, packets := ?_, content := ?_ }
  · exact ⟨flows.connState, flows.opened, flows.idin, flows.idout, flows.handed, flows.ownTx, flows.stored⟩
  · simp [tracks.taken]
  · simp only [left]
    omega
  · intro item member
    exact tracks.packets item (waits ▸ List.mem_cons_of_mem _ (left ▸ member))
  · simp only [Stream.unread, left]
    simpa using content

/-- A read takes the first packet, and it acknowledges all when it has to. -/
theorem Stream.Tracks.receiverReads (tracks : stream.Tracks window delay base flow)
    (sound : flow.Sound (streamBounds cfg window delay)) (narrow : window.toNat < 2 ^ 14)
    (roomy : 2 * window.toNat < cfg.connRxqueueLen)
    (available : (bufferGet stream.receiver.stack.io.pool 20).1.isSome = true) :
    ∃ flow', flow.Runs (streamBounds cfg window delay) flow' ∧
      Stream.Tracks (streamStep stream (.receiver .read)) window delay base flow' := by
  cases waits : stream.receiver.conn.rxQueue.items with
  | nil =>
      have none := cspRead_empty waits
      refine ⟨flow, .refl, ?_⟩
      have idle := tracks.receiverIdles (.refl tracks.receiver.ownTx)
      simp only [streamStep, connStep, newlyRead, newlySent, leftFlying, none]
      simpa using idle
  | cons first rest =>
      obtain ⟨queue, left, read⟩ := cspRead_first tracks.receiver tracks.delayed waits
      have middle := tracks.takes waits left
      have answer := rdpCheckAck_mayAck middle.receiver.ownTx
      have arrived := tracks.arrived
      rw [waits, List.length_cons] at arrived
      have step : streamStep stream (.receiver .read) =
          { stream with
            receiver := rdpCheckAck { stream.receiver with conn := { stream.receiver.conn with rxQueue := queue } }
            back := stream.back ++ stream.receiver.sentSince
              (rdpCheckAck { stream.receiver with conn := { stream.receiver.conn with rxQueue := queue } })
            taken := stream.taken ++ (first.map Packet.payload).toList } := by
        simp only [streamStep, connStep, newlyRead, newlySent, leftFlying, read]
      rw [step]
      rcases answer with idles | ⟨free, acks⟩
      · refine ⟨_, .single (.take flow (by omega) ?_), middle.receiverIdles idles⟩
        -- A read of the last packet without an answer leaves few acknowledgements open.
        by_contra late
        obtain ⟨last, owes⟩ := not_or.mp late
        simp only [streamBounds] at owes
        have empty : rest = [] := List.length_eq_zero_iff.mp (by omega)
        have window' := middle.receiverWindow
        have free := (rdpRxQueueShort_eq_false (by rwa [window'])).mpr (by rw [window', left, empty]; simpa using roomy)
        have due := middle.due narrow (sound.arrived.trans (sound.window.trans
          (Nat.add_le_add_right (sound.climbs.rises) _))) (by simpa using owes)
        obtain ⟨_, _, _, _, same, outbox, _⟩ := idles
        refine (rdpCheckAck_acks middle.receiver.ownTx free due available).outbox ?_
        rw [same]
        exact outbox
      · exact ⟨_, .single (.takeAck flow (by omega) (middle.mayAck narrow free)), middle.receiverAcks free acks⟩

/-- A segment that leaves the link waits in the receive queue. -/
theorem Stream.Tracks.lands {oldest received : Packet} {rest : List Packet}
    {queue : BoundedQueue (Option Packet) cfg.connRxqueueLen} (tracks : stream.Tracks window delay base flow)
    (whole : stream.forth = oldest :: rest) (data : oldest.body ≠ []) (payload : received.payload = oldest.body)
    (items : queue.items = stream.receiver.conn.rxQueue.items ++ [some received])
    (rxLog : List (Option Packet)) (sndUna : UInt16) :
    Stream.Tracks
      { stream with
        receiver := { stream.receiver with conn := { stream.receiver.conn with
          rxQueue := queue, rxLog, rdp.sndUna := sndUna, rdp.rcvCur := base + 1 + UInt16.ofNat flow.arrived } }
        forth := rest }
      window delay base { flow with arrived := flow.arrived + 1 } := by
  have flows := tracks.receiver
  have count := tracks.arrived
  have body : dataBodies [oldest] = [oldest.body] := by simp [dataBodies, data]
  have content := tracks.content
  have continues := tracks.forth
  rw [whole] at continues content
  obtain ⟨_, others⟩ := continues
  rw [body] at others
  rw [show oldest :: rest = [oldest] ++ rest from rfl, dataBodies_append, body] at content
  refine { tracks with
    receiver := ?_, rcvCur := ?_, arrived := ?_, packets := ?_, content := ?_, forth := ?_ }
  · exact ⟨flows.connState, flows.opened, flows.idin, flows.idout, flows.handed, flows.ownTx, flows.stored⟩
  · simp only [UInt16.ofNat_add]
    grind
  · simp only [items, List.length_append, List.length_singleton]
    omega
  · intro item member
    rcases List.mem_append.mp (items ▸ member) with member | member
    · exact tracks.packets item member
    · rw [List.mem_singleton.mp member]
      rfl
  · have waits : queue.items.filterMap (Option.map Packet.payload) = stream.unread ++ [oldest.body] := by
      rw [items, List.filterMap_append, Stream.unread]
      simp [payload]
    rw [content]
    simp [Stream.unread, waits]
  · simp only [UInt16.ofNat_add, ← add_assoc]
    exact others

/-- The receiver takes the oldest packet. A segment goes to the receive queue and may be acknowledged. -/
theorem Stream.Tracks.receiverHears {packet : Packet} (tracks : stream.Tracks window delay base flow)
    (sound : flow.Sound (streamBounds cfg window delay)) (narrow : window.toNat < 2 ^ 14)
    (arrives : ArrivesNext stream.forth packet) :
    ∃ flow', flow.Runs (streamBounds cfg window delay) flow' ∧
      Stream.Tracks (streamStep stream (.receiver (.arrive packet))) window delay base flow' := by
  obtain ⟨rdp, oldest, rest, whole, same⟩ := arrives.split
  have flows := tracks.receiver
  have flying := tracks.flying
  have split : dataBodies stream.forth = dataBodies [oldest] ++ dataBodies rest := by
    rw [whole]
    exact dataBodies_append [oldest] rest
  obtain ⟨sent, others⟩ : Consecutive _ _ (oldest :: rest) := whole ▸ tracks.forth
  have arrived := sent.of_sameBytes same
  have next : base + 1 + UInt16.ofNat flow.arrived = stream.receiver.conn.rdp.rcvCur + 1 := by
    rw [tracks.rcvCur]
    grind
  have valid : rdpAckValid stream.receiver.conn.rdp stream.sender.conn.rdp.rcvCur = true := by
    have last : stream.sender.conn.rdp.rcvCur = stream.receiver.conn.rdp.sndNxt - 1 := by
      rw [tracks.reply]
      grind
    rw [rdpAckValid, last]
    exact rdpSeqBetween_last _ _
  by_cases bare : oldest.body = []
  · have silent : dataBodies [oldest] = [] := by simp [dataBodies, bare]
    have inWindow : rdpSeqValid stream.receiver.conn.rdp (base + 1 + UInt16.ofNat flow.arrived) = true := by
      simp [next, rdpSeqValid, rdpSeqBetween]
    obtain ⟨pool, delivered⟩ := routeDeliver_ack flows rdp (bare ▸ arrived) inWindow valid
    have content := tracks.content
    rw [split, silent, List.nil_append] at content
    rw [silent] at others
    refine ⟨flow, .refl, ?_⟩
    simp only [streamStep, connStep, newlySent, newlyRead, leftFlying, delivered, Ctx.sentSince, List.drop_length,
      List.map_nil, List.append_nil, whole, List.tail_cons]
    exact { tracks with
      receiver := ⟨flows.connState, flows.opened, flows.idin, flows.idout, flows.handed, flows.ownTx, flows.stored⟩
      content
      forth := by simpa using others }
  · have count := tracks.arrived
    have body : dataBodies [oldest] = [oldest.body] := by simp [dataBodies, bare]
    rw [split, body, List.length_append, List.length_singleton] at flying
    have fits : flow.sent < cfg.connRxqueueLen + flow.taken := sound.fits (by simp only [streamBounds]; omega)
    obtain ⟨received, queue, rxLog, payload, items, delivered⟩ := routeDeliver_data flows rdp arrived bare next valid
      (by omega)
    have middle := tracks.lands whole bare payload items rxLog (stream.sender.conn.rdp.rcvCur + 1)
    obtain ⟨flow', runs, tracks'⟩ := middle.receiverMayAck narrow (rdpCheckAck_mayAck middle.receiver.ownTx)
    refine ⟨flow', .head (.arrive flow (by omega)) runs, ?_⟩
    have step : streamStep stream (.receiver (.arrive packet)) =
        { stream with
          receiver := routeDeliver stream.receiver packet
          forth := rest
          back := stream.back ++ stream.receiver.sentSince (routeDeliver stream.receiver packet) } := by
      simp only [streamStep, connStep, newlySent, newlyRead, leftFlying, whole, List.tail_cons, List.append_nil]
    rw [step, delivered]
    exact tracks'

/-! ## Runs -/

/-- The window and the delay of the acknowledgements suit the receive queue. -/
structure Suits (cfg : Config) (window delay : UInt32) : Prop where
  narrow : window.toNat < 2 ^ 14
  roomy : 2 * window.toNat < cfg.connRxqueueLen
  prompt : delay.toNat < window.toNat

theorem Ctx.Flows.environment {ctx : Ctx cfg} (flows : ctx.Flows) (stack : Stack cfg) :
    (connStep ctx (.environment stack)).Flows :=
  ⟨flows.connState, flows.opened, flows.idin, flows.idout, flows.handed, flows.ownTx, flows.stored⟩

theorem streamStep_sender {input : ConnInput cfg} (tracks : stream.Tracks window delay base flow)
    (sound : flow.Sound (streamBounds cfg window delay)) (suits : Suits cfg window delay)
    (allowed : senderAllowed stream input) :
    ∃ flow', flow.Runs (streamBounds cfg window delay) flow' ∧
      Stream.Tracks (streamStep stream (.sender input)) window delay base flow' := by
  cases input with
  | send packet =>
      have flows := tracks.sender
      rcases cspSend_tx flows.ownTx packet with ⟨accepted, sends⟩ | ⟨refused, refuses⟩
      · have room := (tracks.ready_iff sound suits.narrow).mp sends.ready
        have data : packet.payload ≠ [] := by
          rw [← List.length_pos_iff, Packet.payload_length]
          exact allowed
        refine ⟨_, .single (.send flow room), ?_⟩
        simp only [streamStep, connStep, newlySent, newlyAccepted, leftFlying, accepted, if_true]
        exact tracks.senderSends sends data
      · refine ⟨flow, .refl, ?_⟩
        obtain ⟨txWait, conn⟩ := refuses.conn
        have silent : stream.sender.sentSince (cspSend stream.sender (some packet)) = [] := by
          rw [Ctx.sentSince, refuses.outbox flows.idout, List.drop_length]
          rfl
        have own : (cspSend stream.sender (some packet)).OwnsTx := by
          rw [Ctx.OwnsTx, refuses.txQueue, conn]
          exact flows.ownTx
        have stored : (cspSend stream.sender (some packet)).stack.rxQueue.items = [] := by
          rw [refuses.rxQueue]
          exact flows.stored
        simp only [streamStep, connStep, newlySent, newlyAccepted, leftFlying, refused, silent, List.append_nil,
          Bool.false_eq_true, if_false]
        generalize cspSend stream.sender (some packet) = after at conn own stored
        obtain ⟨_, stack⟩ := after
        obtain rfl : _ = _ := conn
        exact { tracks with
          sender := ⟨flows.connState, flows.opened, flows.idin, flows.idout, flows.handed, own, stored⟩ }
  | arrive packet =>
      obtain ⟨ack, rest, first, heeds, silent⟩ := tracks.senderHeeds sound suits.narrow allowed
      refine ⟨_, .single (.heed flow ack rest first), ?_⟩
      simp only [streamStep, connStep, newlySent, newlyAccepted, leftFlying, silent, List.append_nil]
      exact heeds
  | timeouts =>
      refine ⟨flow, .refl, ?_⟩
      simp only [streamStep, connStep, newlySent, newlyAccepted, leftFlying, List.append_nil]
      exact tracks.senderMayAck (rdpCheckTimeouts_onTime tracks.sender allowed)
  | environment stack =>
      refine ⟨flow, .refl, ?_⟩
      simp only [streamStep, newlySent, newlyAccepted, leftFlying, List.append_nil]
      exact { tracks with sender := tracks.sender.environment stack }
  | connect => cases allowed
  | wake retry => cases allowed
  | read => cases allowed
  | close => cases allowed

theorem streamStep_receiver {input : ConnInput cfg} (tracks : stream.Tracks window delay base flow)
    (sound : flow.Sound (streamBounds cfg window delay)) (suits : Suits cfg window delay)
    (allowed : receiverAllowed stream input) :
    ∃ flow', flow.Runs (streamBounds cfg window delay) flow' ∧
      Stream.Tracks (streamStep stream (.receiver input)) window delay base flow' := by
  cases input with
  | read => exact tracks.receiverReads sound suits.narrow suits.roomy allowed
  | arrive packet => exact tracks.receiverHears sound suits.narrow allowed
  | timeouts =>
      simp only [streamStep, connStep, newlySent, newlyRead, leftFlying, List.append_nil]
      exact tracks.receiverMayAck suits.narrow (rdpCheckTimeouts_onTime tracks.receiver allowed)
  | environment stack =>
      refine ⟨flow, .refl, ?_⟩
      simp only [streamStep, newlySent, newlyRead, leftFlying, List.append_nil]
      exact { tracks with receiver := tracks.receiver.environment stack }
  | connect => cases allowed
  | wake retry => cases allowed
  | send packet => cases allowed
  | close => cases allowed

/-- The code simulates the counts: some sound counts describe the stream. -/
def Stream.Counted (stream : Stream cfg) (window delay : UInt32) : Prop :=
  ∃ base flow, stream.Tracks window delay base flow ∧ flow.Sound (streamBounds cfg window delay)

theorem streamStep_counted {input : StreamInput cfg} (counted : stream.Counted window delay)
    (suits : Suits cfg window delay) (allowed : streamAllowed stream input) :
    (streamStep stream input).Counted window delay := by
  obtain ⟨base, flow, tracks, sound⟩ := counted
  cases input with
  | sender input =>
      obtain ⟨flow', runs, tracks'⟩ := streamStep_sender tracks sound suits allowed
      exact ⟨base, flow', tracks', runs.sound sound⟩
  | receiver input =>
      obtain ⟨flow', runs, tracks'⟩ := streamStep_receiver tracks sound suits allowed
      exact ⟨base, flow', tracks', runs.sound sound⟩

theorem Stream.Starts.counted (starts : stream.Starts) :
    stream.Counted stream.sender.conn.rdp.windowSize stream.receiver.conn.rdp.ackDelayCount := by
  obtain ⟨forth, back⟩ := starts.idle
  obtain ⟨accepted, taken⟩ := starts.history
  have unread := starts.unread
  have zero : UInt16.ofNat 0 = 0 := rfl
  refine ⟨stream.receiver.conn.rdp.rcvCur, ⟨0, 0, 0, 0, 0, []⟩, ?_, ?_⟩
  · refine {
      sender := starts.sender, receiver := starts.receiver, senderWindow := rfl, receiverWindow := starts.agreed
      delay := rfl, delayed := starts.delayed, reply := starts.reply, sndNxt := ?_, sndUna := ?_, rcvCur := ?_
      rcvLsa := ?_, sent := ?_, taken := ?_, arrived := ?_, packets := ?_, content := ?_, forth := ?_, back := ?_ }
    · rw [starts.sndNxt, zero, add_zero]
    · rw [starts.sndUna, starts.sndNxt, zero, add_zero]
    · rw [zero, add_zero]
    · rw [starts.rcvLsa, zero, add_zero]
    · rw [accepted]
      rfl
    · rw [taken]
      rfl
    · rw [unread]
      rfl
    · simp [unread]
    · simp [accepted, taken, forth, Stream.unread, unread, dataBodies]
    · rw [forth]
      trivial
    · rw [back]
      exact .nil
  · have roomy := starts.roomy
    exact {
      climbs := rfl, acked := le_rfl, arrived := le_rfl, taken := le_rfl, window := Nat.zero_le _
      reserve := by simpa [streamBounds] using roomy, owed := fun _ => Nat.zero_le _ }

/-- Some window and delay suit the stream, and sound counts describe it. -/
def Stream.Steady (stream : Stream cfg) : Prop :=
  ∃ window delay, Suits cfg window delay ∧ stream.Counted window delay

theorem stream_steady (reached : (streamMachine cfg).Reachable stream) : stream.Steady := by
  refine reached.invariant (fun stream starts => ?_) (fun stream input steady allowed => ?_)
  · exact ⟨_, _, ⟨starts.narrow, starts.roomy, starts.prompt⟩, starts.counted⟩
  · obtain ⟨window, delay, suits, counted⟩ := steady
    exact ⟨window, delay, suits, streamStep_counted counted suits allowed⟩

end Libcsp

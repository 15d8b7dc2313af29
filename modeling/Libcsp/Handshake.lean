/-
This file determines when the two ends of a handshake agree on their initial sequence numbers.
-/
import Libcsp.HandshakeSteps

namespace Libcsp

variable {cfg : Config}

/-! ## The two ends -/

/-- One end of the connection. The history says which packets it had sent before its present attempt, which packet
of the peer has told it the number of the peer, and whether none has arrived since. -/
structure Party (cfg : Config) where
  ctx : Ctx cfg
  earlier : List (CspId × Packet)
  taken : Option Packet
  quiet : Bool

/-- The packet that this input brings. -/
def ConnInput.packet : ConnInput cfg → Option Packet
  | .arrive packet => some packet
  | _ => none

def Party.step (party : Party cfg) (input : ConnInput cfg) : Party cfg :=
  let ctx := connStep party.ctx input
  if beginsAttempt party.ctx.conn.rdp input then ⟨ctx, party.ctx.stack.io.outbox, input.packet, true⟩
  else
    match input.packet with
    | none => { party with ctx }
    | some packet =>
        if opensClient party.ctx.conn.rdp packet then { party with ctx, taken := some packet, quiet := true }
        else { party with ctx, quiet := false }

/-- The network drops, duplicates, delays, and reorders packets, but each one comes from the peer.
The rest of the node does not send for this connection. -/
def Party.fromPeer (party peer : Party cfg) (input : ConnInput cfg) : Prop :=
  input.OnlyRdp party.ctx ∧
    ∀ packet, input = .arrive packet → ∃ entry ∈ peer.ctx.stack.io.outbox, packet.SameBytes entry.2

/-- The slot is free, and it takes a new connection with RDP. The part of RDP may have anything left of the last one. -/
def Conn.Renews (old new : Conn cfg) : Prop :=
  old.state = .closed ∧ new.state = .open ∧ new.index = old.index ∧ new.rdp.state = .closed ∧
    new.idin.has cspFRdp = true ∧ new.idout.has cspFRdp = true

def Party.renew (party : Party cfg) (conn : Conn cfg) : Party cfg :=
  { ctx := { party.ctx with conn }
    earlier := party.ctx.stack.io.outbox
    taken := none
    quiet := true }

/-- The slot is free and no packet waits, but the packets of earlier connections may still be in the network. -/
structure Party.Idle (party : Party cfg) : Prop where
  connState : party.ctx.conn.state = .closed
  state : party.ctx.conn.rdp.state = .closed
  txQueue : party.ctx.stack.txQueue.items = []
  rxQueue : party.ctx.stack.rxQueue.items = []
  earlier : party.earlier = party.ctx.stack.io.outbox
  rdp : ∀ entry ∈ party.earlier, rdpHeaderSize ≤ entry.2.length.toNat

/-! ## The machine -/

structure Handshake (cfg : Config) where
  client : Party cfg
  server : Party cfg

/-- These events concern one of the two ends. -/
inductive HandshakeInput (cfg : Config) where
  /-- `csp_connect` takes a slot and calls `csp_rdp_connect`. -/
  | connect (conn : Conn cfg)
  /-- The router of the server takes a slot for a new connection. -/
  | listen (conn : Conn cfg)
  | client (input : ConnInput cfg)
  | server (input : ConnInput cfg)

def Handshake.step (handshake : Handshake cfg) : HandshakeInput cfg → Handshake cfg
  | .connect conn => { handshake with client := (handshake.client.renew conn).step .connect }
  | .listen conn => { handshake with server := handshake.server.renew conn }
  | .client input => { handshake with client := handshake.client.step input }
  | .server input => { handshake with server := handshake.server.step input }

/-- A server does not call `csp_rdp_connect`. -/
def ConnInput.ofServer : ConnInput cfg → Bool
  | .connect => false
  | .wake _ => false
  | _ => true

def Handshake.allowed (handshake : Handshake cfg) : HandshakeInput cfg → Prop
  | .connect conn => handshake.client.ctx.conn.Renews conn
  | .listen conn => handshake.server.ctx.conn.Renews conn
  | .client input => connAllowed handshake.client.ctx input ∧ handshake.client.fromPeer handshake.server input
  | .server input =>
      input.ofServer = true ∧ connAllowed handshake.server.ctx input ∧
        handshake.server.fromPeer handshake.client input

def handshakeMachine (cfg : Config) : Machine (Handshake cfg) (HandshakeInput cfg) where
  initial handshake := handshake.client.Idle ∧ handshake.server.Idle
  step := Handshake.step
  allowed := Handshake.allowed

/-! ## The agreement -/

/-- The server has accepted a SYN of the present attempt of the client. -/
def Handshake.SameAttempt (handshake : Handshake cfg) : Prop :=
  ∃ syn, handshake.server.taken = some syn ∧
    ∃ entry ∈ handshake.client.ctx.stack.io.outbox.drop handshake.client.earlier.length, syn.SameBytes entry.2

/-- An open client has a SYN/ACK for its own number, and both ends know the numbers of each other. -/
structure Handshake.Agrees (handshake : Handshake cfg) : Prop where
  acknowledged : handshake.client.ctx.conn.rdp.state = .open →
    ∃ synAck, handshake.client.taken = some synAck ∧ synAck.ackNr = handshake.client.ctx.conn.rdp.sndIss ∧
      (handshake.client.quiet = true →
        handshake.client.ctx.conn.rdp.sndUna = handshake.client.ctx.conn.rdp.sndIss + 1)
  numbers : handshake.client.ctx.conn.rdp.state = .open → handshake.server.ctx.conn.rdp.state = .open →
    handshake.SameAttempt →
      handshake.client.ctx.conn.rdp.rcvIrs = handshake.server.ctx.conn.rdp.sndIss ∧
        handshake.server.ctx.conn.rdp.rcvIrs = handshake.client.ctx.conn.rdp.sndIss

/-- No earlier connection has answered this SYN with another number. -/
def Party.AnswersOnce (party : Party cfg) : Prop :=
  ∀ entry ∈ party.earlier, entry.2.hasRdp rdpSyn = true → entry.2.hasRdp rdpAck = true →
    entry.2.ackNr = party.ctx.conn.rdp.rcvIrs → entry.2.seqNr = party.ctx.conn.rdp.sndIss

/-- Each SYN/ACK that opens the client acknowledges the number of its attempt. The acknowledgement that opens the
server finds that no earlier connection has answered its SYN with another number. -/
def ChecksNumbers (handshake : Handshake cfg) : HandshakeInput cfg → Prop
  | .client (.arrive packet) =>
      opensClient handshake.client.ctx.conn.rdp packet = true →
        packet.ackNr = handshake.client.ctx.conn.rdp.sndIss
  | .server (.arrive packet) =>
      handshake.server.ctx.conn.rdp.state = .synRcvd → packet.ackNr = handshake.server.ctx.conn.rdp.sndIss →
        handshake.server.AnswersOnce
  | _ => True

/-! ## One end -/

/-- The SYNs of the present attempt have its number, and all packets of this end have a header. -/
structure Party.Sound (party : Party cfg) : Prop where
  settled : party.ctx.Settled
  syns : party.ctx.stack.SendsSyns party.earlier party.ctx.conn.rdp.sndIss
  earlier : ∀ entry ∈ party.earlier, rdpHeaderSize ≤ entry.2.length.toNat

theorem Party.Sound.long {party : Party cfg} (sound : party.Sound) :
    ∀ entry ∈ party.ctx.stack.io.outbox, rdpHeaderSize ≤ entry.2.length.toNat := by
  obtain ⟨more, outbox, carry⟩ := sound.syns.sent
  intro entry member
  rcases List.mem_append.mp (outbox ▸ member) with old | new
  · exact sound.earlier entry old
  · exact (carry entry new).long

theorem Party.Idle.sound {party : Party cfg} (idle : party.Idle) : party.Sound := by
  have quiet : party.ctx.stack.QueuesNoSyn := by
    intro packet member
    rw [idle.txQueue] at member
    cases member
  refine ⟨⟨fun inUse => ?_, fun _ => idle.state, ?_, ?_, fun _ => quiet⟩, ?_, idle.rdp⟩
  · rw [idle.connState] at inUse
    cases inUse
  · intro packet member
    rw [idle.txQueue] at member
    cases member
  · intro packet member
    rw [idle.rxQueue] at member
    cases member
  · rw [idle.earlier]
    exact quiet.sendsSyns _

theorem Party.Sound.renew {party : Party cfg} {conn : Conn cfg} (sound : party.Sound)
    (renews : party.ctx.conn.Renews conn) : (party.renew conn).Sound := by
  obtain ⟨free, inUse, index, closed, idin, idout⟩ := renews
  have quiet := sound.settled.quiet (sound.settled.free free)
  refine ⟨⟨fun _ => ⟨idin, idout⟩, fun _ => closed, ?_, ?_, fun _ => quiet⟩, quiet.sendsSyns _, sound.long⟩
  · exact fun packet member => (sound.settled.tx packet member).trans index.symm
  · exact fun packet member => (sound.settled.rx packet member).trans index.symm

theorem Party.step_begins {party : Party cfg} {input : ConnInput cfg}
    (begins : beginsAttempt party.ctx.conn.rdp input = true) :
    party.step input = ⟨connStep party.ctx input, party.ctx.stack.io.outbox, input.packet, true⟩ := by
  simp [Party.step, begins]

/-- Within an attempt, the history changes with an arriving packet only. -/
theorem Party.step_within {party : Party cfg} {input : ConnInput cfg}
    (within : beginsAttempt party.ctx.conn.rdp input = false) :
    (party.step input).ctx = connStep party.ctx input ∧ (party.step input).earlier = party.earlier := by
  simp only [Party.step, within, Bool.false_eq_true, if_false]
  cases input.packet with
  | none => exact ⟨rfl, rfl⟩
  | some packet =>
      simp only
      split
      · exact ⟨rfl, rfl⟩
      · exact ⟨rfl, rfl⟩

theorem Party.step_ctx (party : Party cfg) (input : ConnInput cfg) :
    (party.step input).ctx = connStep party.ctx input := by
  cases begins : beginsAttempt party.ctx.conn.rdp input with
  | true => rw [step_begins begins]
  | false => exact (step_within begins).1

/-- One input of one end. -/
structure Party.Takes (party peer : Party cfg) (input : ConnInput cfg) : Prop where
  sound : party.Sound
  allowed : connAllowed party.ctx input
  source : party.fromPeer peer input

section Step
variable {party peer : Party cfg} {input : ConnInput cfg} (takes : party.Takes peer input)
include takes

theorem Party.Takes.handshake :
    HandshakeStep party.ctx.conn input (connStep party.ctx input).conn.handshakeView :=
  connStep_handshake (fun inUse => (takes.sound.settled.rdp inUse).1) takes.sound.settled.rx takes.allowed
    takes.source.1

theorem Party.Takes.after : (party.step input).Sound := by
  obtain ⟨⟨settled, syns, long⟩, allowed, source⟩ := takes
  have kept := connStep_settled settled allowed source.1
  cases begins : beginsAttempt party.ctx.conn.rdp input with
  | true =>
      rw [Party.step_begins begins]
      exact ⟨kept, connStep_begins settled.quiet allowed source.1 begins, Party.Sound.long ⟨settled, syns, long⟩⟩
  | false =>
      obtain ⟨ctx, earlier⟩ := Party.step_within begins
      have step := connStep_handshake (fun inUse => (settled.rdp inUse).1) settled.rx allowed source.1
      have sent := connStep_syns syns (fun _ => rfl) (fun inUse => (settled.rdp inUse).2) source.1 begins
      have sndIss : (connStep party.ctx input).conn.rdp.sndIss = _ := step.sndIss begins
      refine ⟨ctx ▸ kept, ?_, earlier ▸ long⟩
      rw [ctx, earlier, sndIss]
      exact sent

/-- The network does not lose the packets of the past. -/
theorem Party.Takes.outbox : party.ctx.stack.io.outbox ⊆ (party.step input).ctx.stack.io.outbox := by
  obtain ⟨⟨settled, syns, _⟩, allowed, source⟩ := takes
  have grows : ∃ number, (connStep party.ctx input).stack.SendsSyns party.ctx.stack.io.outbox number := by
    cases begins : beginsAttempt party.ctx.conn.rdp input with
    | true => exact ⟨_, connStep_begins settled.quiet allowed source.1 begins⟩
    | false =>
        have restarted : party.ctx.stack.SendsSyns party.ctx.stack.io.outbox party.ctx.conn.rdp.sndIss :=
          ⟨⟨[], (List.append_nil _).symm, by simp⟩, syns.queued⟩
        exact ⟨_, connStep_syns restarted (fun _ => rfl) (fun inUse => (settled.rdp inUse).2) source.1 begins⟩
  obtain ⟨_, ⟨more, outbox, _⟩, _⟩ := grows
  rw [Party.step_ctx, outbox]
  exact List.subset_append_left _ _

end Step

/-! ## The client -/

/-- A client opens with a SYN/ACK of the server that acknowledges its number. -/
structure Party.IsClient (client server : Party cfg) : Prop where
  notServer : client.ctx.conn.rdp.state ≠ .synRcvd
  free : client.ctx.conn.rdp.state = .closed → client.ctx.conn.state = .closed
  opened : client.ctx.conn.rdp.state = .open → ∃ synAck, client.taken = some synAck ∧
    synAck.hasRdp rdpSyn = true ∧ synAck.hasRdp rdpAck = true ∧
      synAck.ackNr = client.ctx.conn.rdp.sndIss ∧ synAck.seqNr = client.ctx.conn.rdp.rcvIrs ∧
        (∃ entry ∈ server.ctx.stack.io.outbox, synAck.SameBytes entry.2) ∧
          (client.quiet = true → client.ctx.conn.rdp.sndUna = client.ctx.conn.rdp.sndIss + 1)

theorem Party.IsClient.mono {client server server' : Party cfg} (isClient : client.IsClient server)
    (grows : server.ctx.stack.io.outbox ⊆ server'.ctx.stack.io.outbox) : client.IsClient server' := by
  refine ⟨isClient.notServer, isClient.free, fun state => ?_⟩
  obtain ⟨synAck, taken, syn, ack, acked, number, ⟨entry, member, same⟩, quiet⟩ := isClient.opened state
  exact ⟨synAck, taken, syn, ack, acked, number, ⟨entry, grows member, same⟩, quiet⟩

/-- An attempt starts before the connection is open. -/
theorem beginsAttempt_of_live {ctx : Ctx cfg} {input : ConnInput cfg} (allowed : connAllowed ctx input)
    (live : ctx.conn.rdp.state.Live) : beginsAttempt ctx.conn.rdp input = false := by
  have notClosed : ctx.conn.rdp.state ≠ .closed := by rcases live with live | live <;> simp [live]
  have notSent : ctx.conn.rdp.state ≠ .synSent := by rcases live with live | live <;> simp [live]
  cases input with
  | connect => exact absurd allowed.2 notClosed
  | wake retry => simp [beginsAttempt, notSent]
  | arrive packet => simp [beginsAttempt, notClosed]
  | _ => rfl

/-- A live connection keeps its history. -/
theorem Party.step_live {party : Party cfg} {input : ConnInput cfg} (allowed : connAllowed party.ctx input)
    (live : party.ctx.conn.rdp.state.Live) :
    party.step input =
      { party with ctx := connStep party.ctx input, quiet := party.quiet && input.packet.isNone } := by
  have notSent : party.ctx.conn.rdp.state ≠ .synSent := by rcases live with live | live <;> simp [live]
  simp only [Party.step, beginsAttempt_of_live allowed live, Bool.false_eq_true, if_false]
  cases input.packet with
  | none => simp
  | some packet => simp [opensClient, notSent]

/-- A step within the connection keeps the SYN/ACK that has opened it. -/
theorem Party.IsClient.keep {client server after : Party cfg} {sndUna : UInt16} (isClient : client.IsClient server)
    (same : after.ctx.conn.handshakeView = { client.ctx.conn.handshakeView with sndUna })
    (history : client.ctx.conn.rdp.state = .open → after.taken = client.taken ∧
      (after.quiet = true → client.quiet = true ∧ sndUna = client.ctx.conn.rdp.sndUna)) : after.IsClient server := by
  have connState : after.ctx.conn.state = client.ctx.conn.state := congrArg HandshakeView.connState same
  have state : after.ctx.conn.rdp.state = client.ctx.conn.rdp.state := congrArg HandshakeView.state same
  have sndIss : after.ctx.conn.rdp.sndIss = client.ctx.conn.rdp.sndIss := congrArg HandshakeView.sndIss same
  have sndUna : after.ctx.conn.rdp.sndUna = sndUna := congrArg HandshakeView.sndUna same
  have rcvIrs : after.ctx.conn.rdp.rcvIrs = client.ctx.conn.rdp.rcvIrs := congrArg HandshakeView.rcvIrs same
  refine ⟨state ▸ isClient.notServer, ?_, ?_⟩
  · rw [state, connState]
    exact isClient.free
  · rw [state, sndIss, rcvIrs, sndUna]
    intro opened
    obtain ⟨taken, quiet⟩ := history opened
    obtain ⟨synAck, first, syn, ack, acked, number, source, before⟩ := isClient.opened opened
    refine ⟨synAck, taken.trans first, syn, ack, acked, number, source, fun now => ?_⟩
    rw [(quiet now).2]
    exact before (quiet now).1

/-- A client that is not open has nothing to show yet. -/
theorem Party.IsClient.of_waiting {client server : Party cfg} (notServer : client.ctx.conn.rdp.state ≠ .synRcvd)
    (notOpen : client.ctx.conn.rdp.state ≠ .open)
    (free : client.ctx.conn.rdp.state = .closed → client.ctx.conn.state = .closed) : client.IsClient server :=
  ⟨notServer, free, fun opened => absurd opened notOpen⟩

theorem Party.Takes.isClient {client server : Party cfg} {input : ConnInput cfg} (takes : client.Takes server input)
    (isClient : client.IsClient server)
    (checks : ∀ packet, input = .arrive packet → opensClient client.ctx.conn.rdp packet = true →
      packet.ackNr = client.ctx.conn.rdp.sndIss) : (client.step input).IsClient server := by
  have step := takes.handshake
  have ctx := Party.step_ctx client input
  generalize same : (connStep client.ctx input).conn.handshakeView = view at step
  rw [← ctx] at same
  have live : client.ctx.conn.rdp.state = .open → (client.step input).taken = client.taken ∧
      (client.step input).quiet = (client.quiet && input.packet.isNone) := by
    intro opened
    rw [Party.step_live takes.allowed (.inr opened)]
    exact ⟨rfl, rfl⟩
  cases step with
  | keeps =>
      refine isClient.keep same fun opened => ⟨(live opened).1, fun quiet => ⟨?_, rfl⟩⟩
      rw [(live opened).2, Bool.and_eq_true] at quiet
      exact quiet.1
  | acks packet sndUna =>
      refine isClient.keep same fun opened => ⟨(live opened).1, fun quiet => ?_⟩
      rw [(live opened).2] at quiet
      simp [ConnInput.packet] at quiet
  | leaves _ _ left =>
      subst same
      refine .of_waiting left.not_live.1 left.not_live.2.1 fun closed => ?_
      rcases left with ⟨waits, _⟩ | ⟨_, free⟩
      · exact absurd (waits.symm.trans closed) (by simp)
      · exact free
  | accepts packet begins iss =>
      simp only [beginsAttempt, Bool.and_eq_true, beq_iff_eq] at begins
      have inUse : client.ctx.conn.state = .open := takes.allowed
      rw [isClient.free begins.1.1] at inUse
      cases inUse
  | attempts _ begins fromUser sndIss sndUna =>
      have state : (client.step input).ctx.conn.rdp.state = .synSent := congrArg HandshakeView.state same
      exact .of_waiting (by simp [state]) (by simp [state]) (by simp [state])
  | connects packet opens =>
      have state : (client.step (.arrive packet)).ctx.conn.rdp.state = .open := congrArg HandshakeView.state same
      have sndIss : (client.step (.arrive packet)).ctx.conn.rdp.sndIss = client.ctx.conn.rdp.sndIss :=
        congrArg HandshakeView.sndIss same
      have sndUna : (client.step (.arrive packet)).ctx.conn.rdp.sndUna = packet.ackNr + 1 :=
        congrArg HandshakeView.sndUna same
      have rcvIrs : (client.step (.arrive packet)).ctx.conn.rdp.rcvIrs = packet.seqNr :=
        congrArg HandshakeView.rcvIrs same
      have acked := checks packet rfl opens
      have taken : (client.step (.arrive packet)).taken = some packet := by
        have sent := opens
        simp only [opensClient, Bool.and_eq_true, beq_iff_eq] at sent
        simp [Party.step, ConnInput.packet, beginsAttempt, sent.1.1.1, opens]
      refine ⟨by simp [state], by simp [state], fun _ => ?_⟩
      simp only [opensClient, Bool.and_eq_true] at opens
      rw [sndIss, sndUna, rcvIrs, acked]
      exact ⟨packet, taken, opens.1.2, opens.2, acked, rfl, takes.source.2 packet rfl, fun _ => rfl⟩
  | posts packet received acked => exact absurd received isClient.notServer

/-- A client that starts waits for its answer or has given up. -/
theorem Party.Takes.connects {party peer : Party cfg} (takes : party.Takes peer .connect) :
    (party.step .connect).IsClient peer := by
  have step := takes.handshake
  have ctx := Party.step_ctx party .connect
  generalize same : (connStep party.ctx .connect).conn.handshakeView = view at step
  rw [← ctx] at same
  cases step with
  | keeps _ within => cases within
  | leaves _ _ left =>
      subst same
      refine .of_waiting left.not_live.1 left.not_live.2.1 fun closed => ?_
      rcases left with ⟨waits, _⟩ | ⟨_, free⟩
      · exact absurd (waits.symm.trans closed) (by simp)
      · exact free
  | attempts _ begins fromUser sndIss sndUna =>
      have state : (party.step .connect).ctx.conn.rdp.state = .synSent := congrArg HandshakeView.state same
      exact .of_waiting (by simp [state]) (by simp [state]) (by simp [state])

/-! ## The server -/

/-- A server has the number of a SYN, and no earlier connection has answered it with another number. -/
structure Party.IsServer (server : Party cfg) : Prop where
  notClient : server.ctx.conn.rdp.state ≠ .synSent
  accepted : server.ctx.conn.rdp.state.Live → ∃ syn, server.taken = some syn ∧ syn.hasRdp rdpSyn = true ∧
    syn.seqNr = server.ctx.conn.rdp.rcvIrs
  answers : server.ctx.conn.rdp.state = .open → server.AnswersOnce

/-- A step within the connection keeps the SYN that it has accepted. -/
theorem Party.IsServer.keep {server after : Party cfg} {state : RdpState} {sndUna : UInt16} (isServer : server.IsServer)
    (same : after.ctx.conn.handshakeView = { server.ctx.conn.handshakeView with state, sndUna })
    (kept : state = server.ctx.conn.rdp.state ∨
      (state = .open ∧ server.ctx.conn.rdp.state = .synRcvd ∧ server.AnswersOnce))
    (history : server.ctx.conn.rdp.state.Live → after.taken = server.taken ∧ after.earlier = server.earlier) :
    after.IsServer := by
  have afterState : after.ctx.conn.rdp.state = state := congrArg HandshakeView.state same
  have sndIss : after.ctx.conn.rdp.sndIss = server.ctx.conn.rdp.sndIss := congrArg HandshakeView.sndIss same
  have rcvIrs : after.ctx.conn.rdp.rcvIrs = server.ctx.conn.rdp.rcvIrs := congrArg HandshakeView.rcvIrs same
  have notClient := isServer.notClient
  refine ⟨?_, fun live => ?_, fun opened => ?_⟩
  · rw [afterState]
    rcases kept with rfl | ⟨rfl, _⟩
    · exact notClient
    · simp
  · have before : server.ctx.conn.rdp.state.Live := by
      rw [afterState] at live
      rcases kept with rfl | ⟨_, received, _⟩
      · exact live
      · exact .inl received
    rw [rcvIrs, (history before).1]
    exact isServer.accepted before
  · rw [afterState] at opened
    have answers : server.AnswersOnce ∧ server.ctx.conn.rdp.state.Live := by
      rcases kept with rfl | ⟨_, received, answers⟩
      · exact ⟨isServer.answers opened, .inr opened⟩
      · exact ⟨answers, .inl received⟩
    rw [Party.AnswersOnce, sndIss, rcvIrs, (history answers.2).2]
    exact answers.1

theorem Party.Takes.isServer {server client : Party cfg} {input : ConnInput cfg} (takes : server.Takes client input)
    (ofServer : input.ofServer = true) (isServer : server.IsServer)
    (checks : ∀ packet, input = .arrive packet → server.ctx.conn.rdp.state = .synRcvd →
      packet.ackNr = server.ctx.conn.rdp.sndIss → server.AnswersOnce) : (server.step input).IsServer := by
  have step := takes.handshake
  have ctx := Party.step_ctx server input
  generalize same : (connStep server.ctx input).conn.handshakeView = view at step
  rw [← ctx] at same
  have live : server.ctx.conn.rdp.state.Live → (server.step input).taken = server.taken ∧
      (server.step input).earlier = server.earlier := by
    intro live
    rw [Party.step_live takes.allowed live]
    exact ⟨rfl, rfl⟩
  cases step with
  | keeps => exact isServer.keep same (.inl rfl) live
  | acks packet sndUna => exact isServer.keep same (.inl rfl) live
  | leaves _ _ left =>
      subst same
      have state := left.not_live
      refine ⟨state.2.2, fun live => ?_, fun opened => absurd opened state.2.1⟩
      rcases live with live | live
      · exact absurd live state.1
      · exact absurd live state.2.1
  | accepts packet begins iss =>
      have state : (server.step (.arrive packet)).ctx.conn.rdp.state = .synRcvd := congrArg HandshakeView.state same
      have rcvIrs : (server.step (.arrive packet)).ctx.conn.rdp.rcvIrs = packet.seqNr :=
        congrArg HandshakeView.rcvIrs same
      have taken : (server.step (.arrive packet)).taken = some packet := by
        rw [Party.step_begins begins]
        rfl
      simp only [beginsAttempt, Bool.and_eq_true] at begins
      exact ⟨by simp [state], fun _ => ⟨packet, taken, begins.2, rcvIrs.symm⟩, by simp [state]⟩
  | attempts _ begins fromUser sndIss sndUna =>
      cases input with
      | arrive packet => exact absurd rfl (fromUser packet)
      | connect => cases ofServer
      | wake => cases ofServer
      | _ => cases begins
  | connects packet opens =>
      simp only [opensClient, Bool.and_eq_true, beq_iff_eq] at opens
      exact absurd opens.1.1.1 isServer.notClient
  | posts packet received acked =>
      exact isServer.keep same (.inr ⟨rfl, received, checks packet rfl received acked⟩) live

/-! ## The run -/

/-- This invariant of both ends holds in each state of such a run. -/
structure Handshake.Sound (handshake : Handshake cfg) : Prop where
  client : handshake.client.Sound
  server : handshake.server.Sound
  isClient : handshake.client.IsClient handshake.server
  isServer : handshake.server.IsServer

theorem Handshake.Sound.agrees {handshake : Handshake cfg} (sound : handshake.Sound) : handshake.Agrees := by
  obtain ⟨client, server, isClient, isServer⟩ := sound
  refine ⟨fun opened => ?_, fun opened serves sameAttempt => ?_⟩
  · obtain ⟨synAck, taken, _, _, acked, _, _, quiet⟩ := isClient.opened opened
    exact ⟨synAck, taken, acked, quiet⟩
  · obtain ⟨syn, accepted, entry, member, same⟩ := sameAttempt
    obtain ⟨syn', accepted', isSyn, number⟩ := isServer.accepted (.inr serves)
    obtain rfl : syn' = syn := Option.some.inj (accepted'.symm.trans accepted)
    obtain ⟨more, outbox, carry⟩ := client.syns.sent
    rw [outbox, List.drop_left] at member
    have carries := carry entry member
    have segment := same.sameSegment (same.1 ▸ carries.long)
    have rcvIrs : handshake.server.ctx.conn.rdp.rcvIrs = handshake.client.ctx.conn.rdp.sndIss := by
      rw [← number, segment.seqNr]
      exact carries.seqNr ((segment.hasRdp rdpSyn).symm.trans isSyn)
    obtain ⟨synAck, _, isSyn, isAck, acked, number, ⟨answer, sent, same⟩, _⟩ := isClient.opened opened
    have long : rdpHeaderSize ≤ synAck.length.toNat := same.1 ▸ server.long answer sent
    have segment := same.sameSegment long
    have answerSyn : answer.2.hasRdp rdpSyn = true := (segment.hasRdp rdpSyn).symm.trans isSyn
    have answered : answer.2.seqNr = handshake.server.ctx.conn.rdp.sndIss := by
      obtain ⟨more, outbox, carry⟩ := server.syns.sent
      rcases List.mem_append.mp (outbox ▸ sent) with old | new
      · refine isServer.answers serves answer old answerSyn ((segment.hasRdp rdpAck).symm.trans isAck) ?_
        rw [← same.ackNr long, acked, rcvIrs]
      · exact (carry answer new).seqNr answerSyn
    exact ⟨number.symm.trans (segment.seqNr.trans answered), rcvIrs⟩

theorem handshake_step {handshake : Handshake cfg} {input : HandshakeInput cfg} (sound : handshake.Sound)
    (allowed : handshake.allowed input) (checks : ChecksNumbers handshake input) : (handshake.step input).Sound := by
  obtain ⟨client, server, isClient, isServer⟩ := sound
  cases input with
  | connect conn =>
      have takes : (handshake.client.renew conn).Takes handshake.server .connect :=
        ⟨client.renew allowed, ⟨allowed.2.1, allowed.2.2.2.1⟩, trivial, by simp⟩
      exact ⟨takes.after, server, takes.connects, isServer⟩
  | listen conn =>
      have closed : (handshake.server.renew conn).ctx.conn.rdp.state = .closed := allowed.2.2.2.1
      refine ⟨client, server.renew allowed, isClient.mono fun _ member => member, ?_, ?_, ?_⟩
      · simp [Handshake.step, closed]
      · rintro (live | live) <;> simp [Handshake.step, closed] at live
      · simp [Handshake.step, closed]
  | client input =>
      have takes : handshake.client.Takes handshake.server input := ⟨client, allowed.1, allowed.2⟩
      refine ⟨takes.after, server, takes.isClient isClient ?_, isServer⟩
      rintro packet rfl
      exact checks
  | server input =>
      have takes : handshake.server.Takes handshake.client input := ⟨server, allowed.2.1, allowed.2.2⟩
      refine ⟨client, takes.after, isClient.mono takes.outbox, takes.isServer allowed.1 isServer ?_⟩
      rintro packet rfl
      exact checks

theorem handshake_sound {handshake : Handshake cfg}
    (reached : ((handshakeMachine cfg).restrict ChecksNumbers).Reachable handshake) : handshake.Sound := by
  refine Machine.Reachable.invariant ?_ ?_ reached
  · rintro handshake ⟨client, server⟩
    refine ⟨client.sound, server.sound, .of_waiting ?_ ?_ fun _ => client.connState, ?_, ?_, ?_⟩
    · simp [client.state]
    · simp [client.state]
    · simp [server.state]
    · rintro (live | live) <;> simp [server.state] at live
    · simp [server.state]
  · rintro handshake input sound ⟨allowed, checks⟩
    exact handshake_step sound allowed checks

/-- In a run in which each SYN/ACK that opens the client acknowledges its present number, and no connection of the
server opens with a SYN that an earlier one has answered with another number, both ends agree on their numbers. -/
theorem handshake_agrees :
    ∀ handshake : Handshake cfg, ((handshakeMachine cfg).restrict ChecksNumbers).Reachable handshake →
      handshake.Agrees :=
  fun _ reached => (handshake_sound reached).agrees

/-! ## Two runs -/

instance (party : Party cfg) : Decidable party.AnswersOnce :=
  inferInstanceAs (Decidable (∀ entry ∈ party.earlier, _))

/-- A node whose slot is free, whose clock shows this time, and which has sent these packets in the past. -/
def idleParty (now : UInt32) (earlier : List (CspId × Packet)) : Party {} :=
  let ctx : Ctx {} := freshServer
  { ctx :=
      { conn := { ctx.conn with state := .closed }
        stack := { ctx.stack with now, io := { ctx.stack.io with outbox := earlier } } }
    earlier
    taken := none
    quiet := true }

theorem idleParty_idle (now : UInt32) {earlier : List (CspId × Packet)}
    (long : ∀ entry ∈ earlier, rdpHeaderSize ≤ entry.2.length.toNat) : (idleParty now earlier).Idle :=
  ⟨rfl, rfl, rfl, rfl, rfl, long⟩

/-- The router of the other node finds this packet in its queue. -/
def Party.sentPacket (party : Party cfg) (number : Nat) : Packet :=
  { (party.ctx.stack.io.outbox.getD number default).2 with id := { (default : CspId) with flags := cspFRdp } }

/-- The slot of a new connection with RDP. -/
def rdpSlot : Conn {} := (freshServer : Ctx {}).conn

theorem rdpSlot_renews (now : UInt32) (earlier : List (CspId × Packet)) :
    (idleParty now earlier).ctx.conn.Renews rdpSlot := by
  have flag : CspId.has { (default : CspId) with flags := cspFRdp } cspFRdp = true := by decide
  exact ⟨rfl, rfl, rfl, rfl, flag, flag⟩

theorem Party.fromPeer.arrives {party peer : Party cfg} {packet : Packet} (rdp : packet.id.has cspFRdp = true)
    (sent : ∃ entry ∈ peer.ctx.stack.io.outbox, packet.SameBytes entry.2) : party.fromPeer peer (.arrive packet) := by
  refine ⟨rdp, ?_⟩
  rintro packet ⟨⟩
  exact sent

def callingClient : Party {} := ((idleParty 100 []).renew rdpSlot).step .connect

def firstSyn : Packet := callingClient.sentPacket 0

def answeringServer : Party {} := ((idleParty 500 []).renew rdpSlot).step (.arrive firstSyn)

def firstSynAck : Packet := answeringServer.sentPacket 0

def firstAck : Packet := (callingClient.step (.arrive firstSynAck)).sentPacket 1

def openedInputs : List (HandshakeInput {}) :=
  [.connect rdpSlot, .listen rdpSlot, .server (.arrive firstSyn), .client (.arrive firstSynAck),
    .server (.arrive firstAck)]

def openedHandshake : Handshake {} :=
  ((handshakeMachine {}).restrict ChecksNumbers).trace ⟨idleParty 100 [], idleParty 500 []⟩ openedInputs

theorem openedHandshake_agrees :
    openedHandshake.client.ctx.conn.rdp.state = .open ∧ openedHandshake.server.ctx.conn.rdp.state = .open ∧
      openedHandshake.Agrees := by
  have started : ((handshakeMachine {}).restrict ChecksNumbers).Reachable ⟨idleParty 100 [], idleParty 500 []⟩ :=
    .start ⟨idleParty_idle 100 (by simp), idleParty_idle 500 (by simp)⟩
  have reached := started.trace openedInputs (by
    refine ⟨⟨rdpSlot_renews _ _, trivial⟩, ⟨rdpSlot_renews _ _, trivial⟩,
      ⟨⟨rfl, ?_, .arrives ?_ ?_⟩, fun received => absurd received ?_⟩,
      ⟨⟨?_, .arrives ?_ ?_⟩, fun _ => ?_⟩, ⟨⟨rfl, ?_, .arrives ?_ ?_⟩, fun _ _ => ?_⟩, trivial⟩
    all_goals decide +kernel)
  exact ⟨by decide +kernel, by decide +kernel, handshake_agrees openedHandshake reached⟩

/-- An earlier connection of the server has sent this acknowledgement. -/
def staleAck : Packet := rdpSegment rdpAck 40 30 []

/-- The clock of the client goes on. -/
def laterStack : Stack {} := { (callingClient.step (.arrive staleAck)).ctx.stack with now := 107 }

/-- The old acknowledgement makes the client try again before it gets the answer to its first SYN. -/
def delayedInputs : List (HandshakeInput {}) :=
  [.connect rdpSlot, .listen rdpSlot, .server (.arrive firstSyn), .client (.arrive staleAck),
    .client (.environment laterStack), .client (.wake true), .client (.arrive firstSynAck)]

def delayedHandshake : Handshake {} :=
  (handshakeMachine {}).trace ⟨idleParty 100 [], idleParty 500 [(default, staleAck)]⟩ delayedInputs

/-- The client takes the answer to its first SYN for the answer to its second one. -/
theorem delayedHandshake_disagrees :
    ¬ ∀ handshake : Handshake {}, (handshakeMachine {}).Reachable handshake → handshake.Agrees := by
  intro agrees
  have started : (handshakeMachine {}).Reachable ⟨idleParty 100 [], idleParty 500 [(default, staleAck)]⟩ :=
    .start ⟨idleParty_idle 100 (by simp), idleParty_idle 500 (by decide +kernel)⟩
  have reached := started.trace delayedInputs (by
    refine ⟨rdpSlot_renews _ _, rdpSlot_renews _ _, ⟨rfl, ?_, .arrives ?_ ?_⟩, ⟨?_, .arrives ?_ ?_⟩,
      ⟨trivial, rfl, by rintro packet ⟨⟩⟩, ⟨?_, trivial, by rintro packet ⟨⟩⟩, ⟨?_, .arrives ?_ ?_⟩, trivial⟩
    all_goals decide +kernel)
  have opened : delayedHandshake.client.ctx.conn.rdp.state = .open := by decide +kernel
  obtain ⟨synAck, taken, acked, _⟩ := (agrees delayedHandshake reached).acknowledged opened
  have first : delayedHandshake.client.taken = some firstSynAck := by rfl
  obtain rfl : firstSynAck = synAck := Option.some.inj (first.symm.trans taken)
  exact absurd acked (by decide +kernel)

end Libcsp

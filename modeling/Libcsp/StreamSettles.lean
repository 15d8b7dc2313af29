/-
This file proves that a stream over a lossless link gets all its messages through and never gets stuck.
-/
import Libcsp.Streaming

namespace Libcsp

variable {cfg : Config} {stream next last : Stream cfg}

/-! ## The stream settles -/

/-- Nothing is on its way, and nothing waits for userspace. -/
structure Stream.Quiet (stream : Stream cfg) : Prop where
  forth : stream.forth = []
  back : stream.back = []
  unread : stream.receiver.conn.rxQueue.items = []

/-- A quiet stream has delivered all, and its window is open. -/
theorem Stream.Steady.ready (steady : stream.Steady) (quiet : stream.Quiet) :
    stream.taken = stream.accepted ∧ rdpIsConnReadyForTx stream.sender.conn = true := by
  obtain ⟨window, delay, suits, base, flow, tracks, sound⟩ := steady
  have content := tracks.content
  have flying := tracks.flying
  have arrived := tracks.arrived
  have acks := tracks.back
  rw [quiet.back, List.forall₂_nil_left_iff] at acks
  rw [quiet.forth] at content flying
  rw [quiet.unread] at arrived
  rw [Stream.unread, quiet.unread] at content
  refine ⟨by simpa [dataBodies] using content.symm, (tracks.ready_iff sound suits.narrow).mpr ?_⟩
  exact sound.ready suits.prompt flying.symm acks arrived.symm

/-- Packets arrive, userspace reads, and the rest of the receiving node frees buffers. Nothing new is sent. -/
def StreamInput.Settles : StreamInput cfg → Prop
  | .sender (.arrive _) => True
  | .receiver (.arrive _) => True
  | .receiver .read => True
  | .receiver (.environment _) => True
  | _ => False

/-- Such inputs lead from one state to the other. -/
def Stream.SettlesTo (stream after : Stream cfg) : Prop :=
  ∃ inputs, (∀ input ∈ inputs, input.Settles) ∧ (streamMachine cfg).Allows stream inputs ∧
    (streamMachine cfg).trace stream inputs = after

theorem Stream.SettlesTo.refl (stream : Stream cfg) : stream.SettlesTo stream := ⟨[], by simp, trivial, rfl⟩

theorem Stream.SettlesTo.single {input : StreamInput cfg} (settles : input.Settles)
    (allowed : streamAllowed stream input) : stream.SettlesTo (streamStep stream input) :=
  ⟨[input], by simpa using settles, ⟨allowed, trivial⟩, rfl⟩

theorem Stream.SettlesTo.trans (first : stream.SettlesTo next) (second : next.SettlesTo last) :
    stream.SettlesTo last := by
  obtain ⟨inputs, settles, allows, rfl⟩ := first
  obtain ⟨more, settles', allows', rfl⟩ := second
  refine ⟨inputs ++ more, ?_, ?_, Machine.trace_append _ _ _ _⟩
  · intro input member
    exact (List.mem_append.mp member).elim (settles input) (settles' input)
  · exact (Machine.allows_append _ _ _ _).mpr ⟨allows, allows'⟩

theorem Stream.SettlesTo.reachable (settles : stream.SettlesTo next) (reached : (streamMachine cfg).Reachable stream) :
    (streamMachine cfg).Reachable next := by
  obtain ⟨inputs, _, allows, rfl⟩ := settles
  exact reached.trace inputs allows

theorem Stream.SettlesTo.accepted (settles : stream.SettlesTo next) : next.accepted = stream.accepted := by
  obtain ⟨inputs, settles, allows, rfl⟩ := settles
  clear allows
  induction inputs generalizing stream with
  | nil => rfl
  | cons input rest ih =>
      have same : (streamStep stream input).accepted = stream.accepted := by
        have first := settles input List.mem_cons_self
        rcases input with input | input
        · cases input with
          | arrive packet => exact List.append_nil _
          | _ => cases first
        · rfl
      exact (ih (fun other member => settles other (List.mem_cons_of_mem _ member))).trans same

/-- The link hands the packet over as it is. -/
def Packet.carried (packet : Packet) : Packet := { packet with id := { packet.id with flags := cspFRdp } }

theorem arrivesNext_carried {oldest : Packet} {rest : List Packet} {flying : List Packet}
    (whole : flying = oldest :: rest) : ArrivesNext flying oldest.carried := by
  refine ⟨(by decide : cspFRdp &&& cspFRdp ≠ 0) |> fun on => bne_iff_ne.mpr on, oldest, ?_, rfl, fun _ _ => rfl⟩
  rw [whole]
  rfl

/-- All packets on their way to the receiver arrive. -/
theorem Stream.landsForth (stream : Stream cfg) : ∃ next, stream.SettlesTo next ∧ next.forth = [] := by
  obtain ⟨count, length⟩ : ∃ count, stream.forth.length = count := ⟨_, rfl⟩
  induction count generalizing stream with
  | zero => exact ⟨stream, .refl stream, List.length_eq_zero_iff.mp length⟩
  | succ count ih =>
      obtain ⟨oldest, rest, whole⟩ := List.exists_cons_of_length_eq_add_one length
      have first : stream.SettlesTo (streamStep stream (.receiver (.arrive oldest.carried))) :=
        .single trivial (arrivesNext_carried whole)
      have shorter : (streamStep stream (.receiver (.arrive oldest.carried))).forth = rest := by
        simp only [streamStep, leftFlying, whole, List.tail_cons]
      obtain ⟨next, settles, landed⟩ := ih _ (by rw [shorter]; rw [whole] at length; simpa using length)
      exact ⟨next, first.trans settles, landed⟩

/-- Userspace takes all packets from the receive queue. -/
theorem Stream.readsAll {pool : Pool cfg} (available : (bufferGet pool 20).1.isSome = true)
    (reached : (streamMachine cfg).Reachable stream) (forth : stream.forth = []) :
    ∃ next, stream.SettlesTo next ∧ next.forth = [] ∧ next.receiver.conn.rxQueue.items = [] := by
  obtain ⟨count, length⟩ : ∃ count, stream.receiver.conn.rxQueue.items.length = count := ⟨_, rfl⟩
  induction count generalizing stream with
  | zero => exact ⟨stream, .refl stream, forth, List.length_eq_zero_iff.mp length⟩
  | succ count ih =>
      obtain ⟨first, rest, whole⟩ := List.exists_cons_of_length_eq_add_one length
      have refill : stream.SettlesTo (streamStep stream (.receiver (.environment
          { stream.receiver.stack with io.pool := pool }))) := .single trivial trivial
      generalize renewed : streamStep stream (.receiver (.environment
          { stream.receiver.stack with io.pool := pool })) = middle at refill
      have reached' := refill.reachable reached
      obtain ⟨window, delay, _, base, flow, tracks, _⟩ := stream_steady reached'
      have waits : middle.receiver.conn.rxQueue.items = first :: rest := by
        rw [← renewed]
        exact whole
      have buffer : (bufferGet middle.receiver.stack.io.pool 20).1.isSome = true := by
        rw [← renewed]
        exact available
      have read : middle.SettlesTo (streamStep middle (.receiver .read)) := .single trivial buffer
      obtain ⟨queue, left, result⟩ := cspRead_first tracks.receiver tracks.delayed waits
      have shorter : (streamStep middle (.receiver .read)).receiver.conn.rxQueue.items = rest := by
        simp only [streamStep, connStep, result]
        obtain ⟨_, _, _, _, same, _⟩ := rdpCheckAck_answers
          { middle.receiver with conn := { middle.receiver.conn with rxQueue := queue } }
        rw [same]
        exact left
      have forth' : (streamStep middle (.receiver .read)).forth = [] := by
        rw [← renewed]
        exact forth
      obtain ⟨next, settles, landed⟩ := ih (read.reachable reached') forth'
        (by rw [shorter]; rw [whole] at length; simpa using length)
      exact ⟨next, (refill.trans read).trans settles, landed⟩

/-- All acknowledgements arrive. -/
theorem Stream.landsBack (reached : (streamMachine cfg).Reachable stream) (forth : stream.forth = [])
    (unread : stream.receiver.conn.rxQueue.items = []) : ∃ next, stream.SettlesTo next ∧ next.Quiet := by
  obtain ⟨count, length⟩ : ∃ count, stream.back.length = count := ⟨_, rfl⟩
  induction count generalizing stream with
  | zero => exact ⟨stream, .refl stream, forth, List.length_eq_zero_iff.mp length, unread⟩
  | succ count ih =>
      obtain ⟨oldest, rest, whole⟩ := List.exists_cons_of_length_eq_add_one length
      obtain ⟨window, delay, suits, base, flow, tracks, sound⟩ := stream_steady reached
      have arrives := arrivesNext_carried whole
      obtain ⟨_, _, _, _, silent⟩ := tracks.senderHeeds sound suits.narrow arrives
      have first : stream.SettlesTo (streamStep stream (.sender (.arrive oldest.carried))) :=
        .single trivial arrives
      have forth' : (streamStep stream (.sender (.arrive oldest.carried))).forth = [] := by
        simp only [streamStep, connStep, newlySent, silent, forth, List.append_nil]
      have shorter : (streamStep stream (.sender (.arrive oldest.carried))).back = rest := by
        simp only [streamStep, leftFlying, whole, List.tail_cons]
      obtain ⟨next, settles, quiet⟩ := ih (first.reachable reached) forth' unread
        (by rw [shorter]; rw [whole] at length; simpa using length)
      exact ⟨next, first.trans settles, quiet⟩

/-- With an open window and a buffer, a packet that leaves room for the header is accepted. -/
theorem acceptsSend_of_ready {ctx : Ctx cfg} {packet : Packet} (flows : ctx.Flows)
    (ready : rdpIsConnReadyForTx ctx.conn = true) (filled : ctx.stack.io.pool.buffers.items ≠ [])
    (fits : packet.length.toNat + rdpHeaderSize ≤ cfg.bufferSize) : acceptsSend ctx packet = true := by
  have bound := cfg.bufferSize_lt
  have added : rdpHeaderAdd cfg packet = some { packet with
      length := packet.length + 5
      mem := writeBytes packet.mem (dataAt + packet.length.toNat) (List.replicate rdpHeaderSize 0) } :=
    if_neg (not_lt.mpr fits)
  have length : (packet.length + 5).toNat = packet.length.toNat + rdpHeaderSize := by
    simp only [rdpHeaderSize] at fits ⊢
    simp only [UInt16.toNat_add, UInt16.reduceToNat]
    omega
  have sent : (rdpSend ctx packet).1 = .none := by
    rw [rdpSend, if_neg (not_not_intro flows.opened), if_neg (by simp [ready]), rdpSendSegment, added]
    simp only [bufferClone_some]
    rcases bufferGet_cases ctx.stack.io.pool (packet.length + 5).toNat with ⟨_, large | empty⟩ | ⟨_, _, _, _, got⟩
    · omega
    · exact absurd empty filled
    · simp only [dataHeader, setRdpHeader, got]
      rfl
  rw [acceptsSend, flows.connState, flows.idout, sent]
  rfl

end Libcsp

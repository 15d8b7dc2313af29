/-
This file states when csp_rdp_new_packet depends on the received bytes only.
-/
import Libcsp.TwinMachine

namespace Libcsp

variable {cfg : Config}

/-! ## Packets with the same received bytes -/

theorem Rdp.shifted_zero (rdp : Rdp) : rdp.shifted 0 = rdp := by simp only [Rdp.shifted, add_zero]

theorem RdpHeader.shifted_zero (header : RdpHeader) : header.shifted 0 = header := by
  simp only [RdpHeader.shifted, add_zero]

theorem Packet.SameVisible.received {first second : Packet} (same : first.SameVisible second)
    (buf : first.buf = second.buf) (long : rdpHeaderSize ≤ first.length.toNat) : first.ReceivedTwin 0 second := by
  have bytes : first.SameBytes second := ⟨same.length, same.data⟩
  have segment := bytes.sameSegment long
  have list : first.dataBytes (first.length.toNat - rdpHeaderSize) =
      second.dataBytes (first.length.toNat - rdpHeaderSize) := same.dataBytes (Nat.sub_le _ _)
  refine ⟨buf, same.id, segment.length, segment.flags, ?_, ?_, fun _ index inside => ?_, fun _ => list⟩
  · rw [add_zero, segment.seqNr]
  · rw [add_zero, bytes.ackNr long]
  · rw [add_zero, data16_congr list inside]

theorem Ctx.twin_refl (ctx : Ctx cfg) : ctx.Twin True 0 ctx.stack.io.outbox ctx := by
  have sent : ∀ packet : Packet, packet.TxTwin 0 packet := fun packet =>
    ⟨rfl, rfl, rfl, rfl, rfl, rfl, (add_zero _).symm, rfl, fun _ => rfl⟩
  have stored : ∀ packet : Packet, packet.RxTwin True 0 packet := fun packet =>
    ⟨.refl packet, rfl, rfl, (add_zero _).symm, rfl, fun _ => rfl⟩
  have conn : ctx.conn.Twin True 0 { ctx.conn with rdp := ctx.conn.rdp.shifted 0 } :=
    .mk (.refl Packet.UserTwin.refl _) (List.forall₂_same.mpr fun packet _ => Packet.UserTwin.refl packet)
  rw [Rdp.shifted_zero] at conn
  exact .mk conn (.mk (.refl _) (.refl sent _) (.refl stored _))

/-! ## The options of a SYN -/

theorem rdpAcceptSyn_congr (rdp : Rdp) (seed : UInt32) (header : RdpHeader) {packet packet' : Packet}
    (options : ∀ index < 24, packet.data index = packet'.data index) :
    rdpAcceptSyn cfg rdp seed header packet = rdpAcceptSyn cfg rdp seed header packet' := by
  have word : ∀ index, index + 4 ≤ 24 → be32 packet.mem (dataAt + index) = be32 packet'.mem (dataAt + index) := by
    intro index inside
    have byte : ∀ offset < 4, packet.mem (dataAt + index + offset) = packet'.mem (dataAt + index + offset) := by
      intro offset small
      rw [Nat.add_assoc]
      exact options (index + offset) (by omega)
    have high := be16_congr (byte 0 (by decide)) (byte 1 (by decide))
    have low := be16_congr (byte 2 (by decide)) (byte 3 (by decide))
    simp only [Nat.add_zero] at high
    rw [be32, be32, high, low]
  simp only [rdpAcceptSyn, word 4 (by decide), word 8 (by decide), word 12 (by decide), word 16 (by decide),
    word 20 (by decide), show be32 packet.mem dataAt = be32 packet'.mem dataAt from word 0 (by decide)]

theorem rdpRecvClosed_twin {base : List (CspId × Packet)} {first second : Ctx cfg}
    (twin : first.Twin True 0 base second) (header : RdpHeader) {packet packet' : Packet}
    (same : packet.SameBuffer False packet')
    (options : header.has rdpSyn = true → ∀ index < 24, packet.data index = packet'.data index) :
    (rdpRecvClosed first header packet).Twin 0 base (rdpRecvClosed second header packet') := by
  simp only [rdpRecvClosed]
  split
  · exact ⟨rfl, same, (rdpReply_twin twin (by decide) (by decide)).relax⟩
  · rename_i syn
    have accepted : rdpAcceptSyn cfg second.conn.rdp second.stack.now header packet' =
        (rdpAcceptSyn cfg first.conn.rdp first.stack.now header packet).shifted 0 := by
      rw [Rdp.shifted_zero, twin.rdp, Rdp.shifted_zero, twin.now]
      exact (rdpAcceptSyn_congr _ _ _ (options (by simpa using syn))).symm
    have answered := rdpSendCmp_twin (twin.setRdp accepted)
      (by decide : ((rdpAck ||| rdpSyn) &&& rdpEak != 0) = false) (fun _ => trivial)
      (rdpAcceptSyn cfg first.conn.rdp first.stack.now header packet).sndIss
      (rdpAcceptSyn cfg first.conn.rdp first.stack.now header packet).rcvIrs
    rw [accepted] at answered ⊢
    exact ⟨rfl, same, answered.relax⟩

/-! ## Whole packets -/

/-- The call does the same for any bytes behind the received ones, and the header lies among the received bytes. -/
structure ReadsReceived (ctx : Ctx cfg) (packet : Packet) : Prop where
  agrees : ∀ companion : Packet, packet.SameVisible companion → packet.buf = companion.buf →
    (rdpNewPacket ctx packet).1 = (rdpNewPacket ctx companion).1 ∧
      (rdpNewPacket ctx packet).2.Twin False 0 ctx.stack.io.outbox (rdpNewPacket ctx companion).2
  inside : ∀ offset < rdpHeaderSize, dataAt ≤ rdpHeaderRef packet + offset ∧
    rdpHeaderRef packet + offset < dataAt + packet.length.toNat

/-- The packet sets up a connection with its options. -/
def OpensConnection (ctx : Ctx cfg) (packet : Packet) : Prop :=
  ctx.conn.rdp.state = .closed ∧ packet.hasRdp rdpSyn = true ∧ packet.hasRdp rdpRst = false

/-- The packet has a header, and a SYN has its options. -/
structure LongEnough (ctx : Ctx cfg) (packet : Packet) : Prop where
  header : rdpHeaderSize ≤ packet.length.toNat
  options : OpensConnection ctx packet → 24 ≤ packet.length.toNat

theorem rdpHeaderRef_inside_iff (packet : Packet) :
    (∀ offset < rdpHeaderSize, dataAt ≤ rdpHeaderRef packet + offset ∧
      rdpHeaderRef packet + offset < dataAt + packet.length.toNat) ↔ rdpHeaderSize ≤ packet.length.toNat := by
  simp only [rdpHeaderRef, rdpHeaderSize, dataAt]
  constructor
  · intro inside
    have first := (inside 0 (by decide)).1
    omega
  · intro long offset small
    omega

/-- All that the state machine reads is received. -/
theorem rdpNewPacket_agrees {ctx : Ctx cfg} {packet companion : Packet} (long : LongEnough ctx packet)
    (same : packet.SameVisible companion) (buf : packet.buf = companion.buf) :
    (rdpNewPacket ctx packet).1 = (rdpNewPacket ctx companion).1 ∧
      (rdpNewPacket ctx packet).2.Twin False 0 ctx.stack.io.outbox (rdpNewPacket ctx companion).2 := by
  have received := same.received buf long.header
  by_cases closed : ctx.conn.rdp.state = .closed
  · apply rdpFinish_twin
    have host := received.host
    have header : companion.header = packet.header := received.segment.header.trans packet.header.shifted_zero
    have flag : packet.header.has rdpRst = packet.hasRdp rdpRst := rfl
    simp only [rdpNewPacketBody, header, flag, closed]
    cases reset : packet.hasRdp rdpRst with
    | true =>
        have answered := rdpRecvRst_twin ctx.twin_refl packet.header host fun active => absurd closed active
        rwa [RdpHeader.shifted_zero] at answered
    | false =>
        refine rdpRecvClosed_twin ctx.twin_refl packet.header host.toSameBuffer fun syn index option => ?_
        have visible := same.toHost long.header
        exact visible.data index (lt_of_lt_of_le option (long.options ⟨closed, syn, reset⟩))
  · apply rdpNewPacket_twin ctx.twin_refl closed received
    · intro _ _
      rw [RstKeepsOrder, Rdp.shifted_zero, RdpHeader.shifted_zero]
    · intro _ _ _ _ sent _ _ _
      rw [Packet.KeepsOrder, add_zero]
      simp only [add_zero]
      exact Iff.rfl

/-- The connection stores the last option of a SYN. -/
theorem rdpNewPacket_ackDelayCount {ctx : Ctx cfg} {packet : Packet} (opens : OpensConnection ctx packet) :
    (rdpNewPacket ctx packet).2.conn.rdp.ackDelayCount = be32 (rdpHeaderToHost packet).mem (dataAt + 20) := by
  obtain ⟨closed, syn, plain⟩ := opens
  have body : rdpNewPacketBody ctx packet = rdpRecvClosed ctx packet.header (rdpHeaderToHost packet) := by
    have flag : packet.header.has rdpRst = false := plain
    simp [rdpNewPacketBody, flag, closed]
  have flag : packet.header.has rdpSyn = true := syn
  rw [rdpNewPacket, body]
  simp only [rdpRecvClosed, flag, Bool.not_true, Bool.false_eq_true, if_false, rdpFinish]
  obtain ⟨_, _, _, _, _, sent⟩ := rdpSendCmp_changes
    { ctx with conn.rdp := rdpAcceptSyn cfg ctx.conn.rdp ctx.stack.now packet.header (rdpHeaderToHost packet) } none
    (rdpAck ||| rdpSyn)
    (rdpAcceptSyn cfg ctx.conn.rdp ctx.stack.now packet.header (rdpHeaderToHost packet)).sndIss
    (rdpAcceptSyn cfg ctx.conn.rdp ctx.stack.now packet.header (rdpHeaderToHost packet)).rcvIrs
  rw [sent]
  rfl

/-- The same packet in a buffer with another byte at the end of the options. -/
def Packet.otherOption (packet : Packet) : Packet :=
  { packet with mem := setByte packet.mem (dataAt + 23) (packet.mem (dataAt + 23) + 1) }

theorem Packet.otherOption_visible {packet : Packet} (short : packet.length.toNat < 24) :
    packet.SameVisible packet.otherOption := by
  refine ⟨rfl, rfl, fun index inside => ?_⟩
  simp only [Packet.data, Packet.otherOption, setByte]
  rw [if_neg (by omega)]

/-- The last byte of a word. -/
theorem be32_toUInt8 (mem : Memory) (address : Nat) : (be32 mem address).toUInt8 = mem (address + 3) := by
  apply UInt8.toNat_inj.mp
  simp [be32, be16, Nat.add_assoc]

theorem Packet.otherOption_differs {packet : Packet} (short : packet.length.toNat < 24) :
    be32 (rdpHeaderToHost packet).mem (dataAt + 20) ≠
      be32 (rdpHeaderToHost packet.otherOption).mem (dataAt + 20) := by
  have kept : ∀ other : Packet, other.length = packet.length →
      (rdpHeaderToHost other).mem (dataAt + 23) = other.mem (dataAt + 23) := by
    intro other length
    have behind : rdpHeaderRef other + 5 ≤ dataAt + 23 := by
      simp only [rdpHeaderRef, rdpHeaderSize, dataAt, length]
      omega
    exact (putLe16_other (by omega)).trans (putLe16_other (by omega))
  intro same
  have bytes := congrArg UInt32.toUInt8 same
  rw [be32_toUInt8, be32_toUInt8] at bytes
  have changed := (kept packet rfl).symm.trans (bytes.trans (kept packet.otherOption rfl))
  simp [Packet.otherOption] at changed

/-- The state machine reads received bytes only, if and only if the packet is long enough. -/
theorem rdpNewPacket_readsReceived_iff (ctx : Ctx cfg) (packet : Packet) :
    ReadsReceived ctx packet ↔ LongEnough ctx packet := by
  constructor
  · rintro ⟨agrees, inside⟩
    have long := (rdpHeaderRef_inside_iff packet).mp inside
    refine ⟨long, fun opens => ?_⟩
    by_contra short
    have short := not_le.mp short
    have visible := Packet.otherOption_visible short
    obtain ⟨_, twin⟩ := agrees packet.otherOption visible rfl
    have flags := (visible.received rfl long).segment.flags
    have opens' : OpensConnection ctx packet.otherOption := by
      rw [OpensConnection, Packet.hasRdp, Packet.hasRdp, ← flags]
      exact opens
    have stored := rdpNewPacket_ackDelayCount opens
    have stored' := rdpNewPacket_ackDelayCount opens'
    rw [twin.rdp, Rdp.shifted_zero, stored] at stored'
    exact Packet.otherOption_differs short stored'
  · intro long
    exact ⟨fun companion same buf => rdpNewPacket_agrees long same buf,
      (rdpHeaderRef_inside_iff packet).mpr long.header⟩

def bareSyn : Packet := rdpSegment rdpSyn 100 0 []

def cutHeader : Packet := { rdpSegment rdpAck 1 0 [] with length := 4 }

/-- A SYN without options stores the bytes that the buffer had before, and the header of a shorter packet lies in
front of its data. Both pass the security check. -/
theorem shortPackets_readMore :
    (routeSecurityCheck {} 0 bareSyn).1 = .none ∧ ¬ReadsReceived (freshServer : Ctx {}) bareSyn ∧
      (routeSecurityCheck {} 0 cutHeader).1 = .none ∧ ¬ReadsReceived openEnd cutHeader := by
  refine ⟨by decide +kernel, ?_, by decide +kernel, ?_⟩
  · rintro ⟨agrees, _⟩
    obtain ⟨_, twin⟩ := agrees bareSyn.otherOption (Packet.otherOption_visible (by decide)) rfl
    have option := congrArg Rdp.ackDelayCount twin.rdp
    exact absurd option (by decide +kernel)
  · rintro ⟨_, inside⟩
    exact absurd (inside 0 (by decide)) (by decide +kernel)

end Libcsp

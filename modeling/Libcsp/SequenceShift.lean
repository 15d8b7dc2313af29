/-
This file states when csp_rdp_new_packet does not depend on where the sequence numbers start.
-/
import Libcsp.TwinFlush

namespace Libcsp

variable {cfg : Config} {shift : UInt16}

/-! ## Shifted states and packets -/

/-- The packet has this constant added to its number. -/
def Packet.shiftedTx (shift : UInt16) (packet : Packet) : Packet :=
  { packet with mem := putBe16 packet.mem (rdpHeaderRef packet + 1) (packet.seqNr + shift) }

/-- The number of a stored packet is in host byte order. -/
def Packet.shiftedRx (shift : UInt16) (packet : Packet) : Packet :=
  { packet with mem := putLe16 packet.mem (rdpHeaderRef packet + 1) (packet.hostSeqNr + shift) }

/-- This operation adds a constant to the first words of the data. -/
def shiftWords (shift : UInt16) (mem : Memory) (count : Nat) : Memory :=
  (List.range count).foldl
    (fun mem' index => putBe16 mem' (dataAt + 2 * index) (be16 mem (dataAt + 2 * index) + shift)) mem

/-- The received packet has a constant added to the numbers of its header and of its EACK list. -/
def Packet.shiftedReceived (shift : UInt16) (packet : Packet) : Packet :=
  let header := rdpHeaderRef packet
  { packet with
    mem := putBe16
      (putBe16 (if packet.hasRdp rdpEak then shiftWords shift packet.mem (eackCount packet) else packet.mem)
        (header + 1) (packet.seqNr + shift)) (header + 3) (packet.ackNr + shift) }

def BoundedQueue.mapItems {capacity : Nat} (change : Packet → Packet) (queue : BoundedQueue Packet capacity) :
    BoundedQueue Packet capacity := ⟨queue.items.map change, by rw [List.length_map]; exact queue.bounded⟩

/-- All sequence numbers of the connection and of both queues move by a constant. -/
def Ctx.shifted (shift : UInt16) (ctx : Ctx cfg) : Ctx cfg :=
  { conn := { ctx.conn with rdp := ctx.conn.rdp.shifted shift }
    stack := { ctx.stack with
      txQueue := ctx.stack.txQueue.mapItems (Packet.shiftedTx shift)
      rxQueue := ctx.stack.rxQueue.mapItems (Packet.shiftedRx shift) } }

theorem le16_inj {first second : Memory} {address : Nat} (same : le16 first address = le16 second address) :
    first address = second address ∧ first (address + 1) = second (address + 1) := by
  rw [le16, le16, add_comm, add_comm (second address).toUInt16] at same
  exact (word_inj same).symm

/-- A word that goes back to its place changes nothing. -/
theorem putBe16_be16 (mem : Memory) (address : Nat) : putBe16 mem address (be16 mem address) = mem := by
  obtain ⟨high, low⟩ := be16_inj (be16_putBe16 mem address (be16 mem address))
  funext index
  by_cases first : index = address
  · rw [first, high]
  · by_cases second : index = address + 1
    · rw [second, low]
    · exact putBe16_other (by omega)

theorem putLe16_le16 (mem : Memory) (address : Nat) : putLe16 mem address (le16 mem address) = mem := by
  obtain ⟨low, high⟩ := le16_inj (le16_putLe16 mem address (le16 mem address))
  funext index
  by_cases first : index = address
  · rw [first, low]
  · by_cases second : index = address + 1
    · rw [second, high]
    · exact putLe16_other (by omega)

theorem Packet.shiftedTx_twin (shift : UInt16) (packet : Packet) : packet.TxTwin shift (packet.shiftedTx shift) where
  buf := rfl
  length := rfl
  conn := rfl
  timestampTx := rfl
  quarantine := rfl
  flags := (putBe16_other (.inl (Nat.lt_succ_self _))).symm
  seqNr := be16_putBe16 _ _ _
  body := by
    apply List.map_congr_left
    intro index inside
    have inside := List.mem_range.mp inside
    have before : dataAt + index < rdpHeaderRef packet + 1 := by
      simp only [rdpHeaderRef]
      omega
    exact (putBe16_other (.inl before)).symm
  payload := by
    rintro rfl
    have same : packet.shiftedTx 0 = packet := by
      rw [Packet.shiftedTx, add_zero, Packet.seqNr, putBe16_be16]
    rw [same]

theorem Packet.shiftedRx_twin (shift : UInt16) {packet : Packet} (long : rdpHeaderSize < packet.length.toNat) :
    packet.RxTwin True shift (packet.shiftedRx shift) where
  buf := rfl
  length := rfl
  quarantine _ := rfl
  id := rfl
  conn := rfl
  seqNr := le16_putLe16 _ _ _
  data := by
    have long' : rdpHeaderSize < (packet.shiftedRx shift).length.toNat := long
    rw [rdpHeaderRemove_payload long, rdpHeaderRemove_payload long']
    apply List.map_congr_left
    intro index inside
    have inside := List.mem_range.mp inside
    have before : dataAt + index < rdpHeaderRef packet + 1 := by
      simp only [rdpHeaderRef]
      omega
    exact (putLe16_other (.inl before)).symm
  payload := by
    rintro rfl
    have same : packet.shiftedRx 0 = packet := by
      rw [Packet.shiftedRx, add_zero, Packet.hostSeqNr, putLe16_le16]
    rw [same]

/-! ## The received packet -/

theorem shiftWords_word (shift : UInt16) (mem : Memory) {count index : Nat} (inside : index < count) :
    be16 (shiftWords shift mem count) (dataAt + 2 * index) = be16 mem (dataAt + 2 * index) + shift := by
  induction count with
  | zero => omega
  | succ count ih =>
      rw [shiftWords, List.range_succ, List.foldl_append, List.foldl_cons, List.foldl_nil, ← shiftWords]
      by_cases last : index = count
      · rw [last, be16_putBe16]
      · rw [be16_putBe16_other (by omega)]
        exact ih (by omega)

theorem shiftWords_other (shift : UInt16) (mem : Memory) {count address : Nat}
    (outside : address < dataAt ∨ dataAt + 2 * count ≤ address) :
      shiftWords shift mem count address = mem address := by
  induction count with
  | zero => rfl
  | succ count ih =>
      rw [shiftWords, List.range_succ, List.foldl_append, List.foldl_cons, List.foldl_nil, ← shiftWords,
        putBe16_other (by omega)]
      exact ih (by omega)

theorem shiftWords_zero (mem : Memory) (count : Nat) : shiftWords 0 mem count = mem := by
  induction count with
  | zero => rfl
  | succ count ih =>
      rw [shiftWords, List.range_succ, List.foldl_append, List.foldl_cons, List.foldl_nil, ← shiftWords, ih, add_zero,
        putBe16_be16]

theorem Packet.shiftedReceived_zero (packet : Packet) : packet.shiftedReceived 0 = packet := by
  have words : (if packet.hasRdp rdpEak then shiftWords 0 packet.mem (eackCount packet) else packet.mem) =
      packet.mem := by
    rw [shiftWords_zero, ite_self]
  rw [Packet.shiftedReceived, words, add_zero, add_zero, Packet.seqNr, putBe16_be16, Packet.ackNr, putBe16_be16]

theorem Packet.shiftedReceived_twin (shift : UInt16) (packet : Packet) :
    packet.ReceivedTwin shift (packet.shiftedReceived shift) := by
  have header : ∀ address, rdpHeaderRef packet ≤ address →
      (if packet.hasRdp rdpEak then shiftWords shift packet.mem (eackCount packet) else packet.mem) address =
        packet.mem address := by
    intro address behind
    split
    · apply shiftWords_other
      simp only [rdpHeaderRef, eackCount] at behind ⊢
      omega
    · rfl
  have place : rdpHeaderRef (packet.shiftedReceived shift) = rdpHeaderRef packet := rfl
  refine ⟨rfl, rfl, rfl, ?_, ?_, ?_, ?_, ?_⟩
  · have flags := header (rdpHeaderRef packet) (Nat.le_refl _)
    exact ((putBe16_other (.inl (by omega))).trans ((putBe16_other (.inl (by omega))).trans flags)).symm
  · exact (be16_putBe16_other (.inl (by omega))).trans (be16_putBe16 _ _ _)
  · exact be16_putBe16 _ _ _
  · intro eack index inside
    have before : dataAt + 2 * index + 2 ≤ rdpHeaderRef packet := by
      simp only [rdpHeaderRef]
      omega
    have listed : index < eackCount packet := by
      rw [eackCount]
      omega
    refine (be16_putBe16_other (.inl (by omega))).trans ((be16_putBe16_other (.inl (by omega))).trans ?_)
    rw [if_pos eack]
    exact shiftWords_word shift packet.mem listed
  · rintro (plain | rfl)
    · apply List.map_congr_left
      intro index inside
      have inside := List.mem_range.mp inside
      have before : dataAt + index < rdpHeaderRef packet := by
        simp only [rdpHeaderRef]
        omega
      refine ((putBe16_other (.inl (by omega))).trans ((putBe16_other (.inl (by omega))).trans ?_)).symm
      rw [plain]
      rfl
    · rw [packet.shiftedReceived_zero]

/-! ## Stored packets -/

/-- The reassembly queue holds data segments only. -/
def Ctx.StoresData (ctx : Ctx cfg) : Prop := ∀ packet ∈ ctx.stack.rxQueue.items, rdpHeaderSize < packet.length.toNat

instance (ctx : Ctx cfg) : Decidable ctx.StoresData :=
  inferInstanceAs (Decidable (∀ packet ∈ ctx.stack.rxQueue.items, _))

def dataShelf : Shelf where
  stored packet := rdpHeaderSize < packet.length.toNat
  queued _ := True
  mailed _ _ _ := True

theorem dataShelf_suits (conn : Nat) : dataShelf.Suits conn := ⟨fun _ long => long, fun _ _ _ => trivial⟩

theorem Ctx.StoresData.holds {ctx : Ctx cfg} (stores : ctx.StoresData) : ctx.Holds dataShelf :=
  ⟨stores, fun _ _ => trivial, fun _ _ _ => trivial⟩

theorem connStep_storesData {ctx : Ctx cfg} (stores : ctx.StoresData) (input : ConnInput cfg) :
    (connStep ctx input).StoresData :=
  connStep_stored stores.holds (dataShelf_suits _) (fun _ long => ⟨long, trivial⟩) (fun _ => trivial) input

/-- No run of a connection stores a segment without data. -/
theorem reachable_storesData {ctx : Ctx cfg} (reached : (connMachine cfg).Reachable ctx) : ctx.StoresData := by
  apply reached.invariant
  · intro start fresh packet member
    rw [fresh.rxQueue] at member
    exact absurd member List.not_mem_nil
  · intro state input stores _
    exact connStep_storesData stores input

/-! ## The shifted state -/

theorem Ctx.shifted_twin (shift : UInt16) {ctx : Ctx cfg}
    (stored : ctx.StoresData) : ctx.Twin True shift ctx.stack.io.outbox (ctx.shifted shift) := by
  refine .mk (.mk (.refl Packet.UserTwin.refl _) (List.forall₂_same.mpr fun packet _ => Packet.UserTwin.refl packet))
    (.mk (.refl _) ?_ ?_)
  · apply List.forall₂_map_right_iff.mpr
    exact List.forall₂_same.mpr fun packet _ => packet.shiftedTx_twin shift
  · apply List.forall₂_map_right_iff.mpr
    exact List.forall₂_same.mpr fun packet member => Packet.shiftedRx_twin shift (stored packet member)

/-! ## The independence of the start -/

/-- A RESET is in sequence if its number follows `rcv_cur` and the sum does not need a 17th bit. -/
theorem rstInSequence_iff (rdp : Rdp) (header : RdpHeader) :
    rstInSequence rdp header = true ↔ header.seqNr = rdp.rcvCur + 1 ∧ rdp.rcvCur ≠ 65535 := by
  have one : (1 : UInt16).toNat = 1 := rfl
  have last : (65535 : UInt16).toNat = 65535 := rfl
  have bound := rdp.rcvCur.toNat_lt
  have bound' := header.seqNr.toNat_lt
  rw [rstInSequence, beq_iff_eq, ← UInt16.toNat_inj, ne_eq, ← UInt16.toNat_inj, UInt16.toNat_add, one, last]
  omega

theorem rstKeepsOrder_iff (shift : UInt16) (rdp : Rdp) (header : RdpHeader) :
    RstKeepsOrder shift rdp header ↔
      (header.seqNr = rdp.rcvCur + 1 → (rdp.rcvCur = 65535 ↔ rdp.rcvCur + shift = 65535)) := by
  have number : (header.shifted shift).seqNr = (rdp.shifted shift).rcvCur + 1 ↔
      header.seqNr = rdp.rcvCur + 1 := next_shift
  have cur : (rdp.shifted shift).rcvCur = rdp.rcvCur + shift := rfl
  rw [RstKeepsOrder, Bool.eq_iff_iff, rstInSequence_iff, rstInSequence_iff, number, cur]
  tauto

/-- The call has the same effect when all sequence numbers start elsewhere. -/
def ShiftInvariant (shift : UInt16) (ctx : Ctx cfg) (packet : Packet) : Prop :=
  (rdpNewPacket ctx packet).1 = (rdpNewPacket (ctx.shifted shift) (packet.shiftedReceived shift)).1 ∧
    (rdpNewPacket ctx packet).2.Twin False shift ctx.stack.io.outbox
      (rdpNewPacket (ctx.shifted shift) (packet.shiftedReceived shift)).2

/-- The comparisons without wrap come out as they do behind the shift: that of a RESET in sequence with `rcv_cur + 1`,
and those of the numbers of an EACK with the packets that its flush keeps and whose quarantine is over. -/
structure ShiftSafe (shift : UInt16) (ctx : Ctx cfg) (packet : Packet) : Prop where
  reset : packet.hasRdp rdpRst = true → ctx.conn.rdp.state ≠ .closeWait → packet.seqNr = ctx.conn.rdp.rcvCur + 1 →
    (ctx.conn.rdp.rcvCur = 65535 ↔ ctx.conn.rdp.rcvCur + shift = 65535)
  eack : packet.hasRdp rdpRst = false → ctx.conn.rdp.state.Live →
    ReadsEack ctx packet.header (rdpHeaderToHost packet) →
    ∀ sent ∈ ctx.flushTaken (rdpHeaderToHost packet), eackLists (rdpHeaderToHost packet) sent.seqNr = false →
      rdpTimeAfter ctx.stack.now sent.rdpQuarantine = true → sent.KeepsOrder shift (rdpHeaderToHost packet)

section Necessary
variable {ctx : Ctx cfg} {packet : Packet} (invariant : ShiftInvariant shift ctx packet)
include invariant

/-- Exactly one of two runs closes the connection if their comparisons with `rcv_cur + 1` differ. -/
theorem ShiftInvariant.reset (reset : packet.hasRdp rdpRst = true) (active : ctx.conn.rdp.state ≠ .closed)
    (talks : ctx.conn.rdp.state ≠ .closeWait) : RstKeepsOrder shift ctx.conn.rdp packet.header := by
  obtain ⟨_, together⟩ := invariant
  have received := packet.shiftedReceived_twin shift
  have reset' : (packet.shiftedReceived shift).hasRdp rdpRst = true := by
    rw [Packet.hasRdp, ← received.segment.flags]
    exact reset
  have first := rdpNewPacket_reset reset active talks
  have second := @rdpNewPacket_reset cfg (ctx.shifted shift) (packet.shiftedReceived shift) reset' active talks
  have unchanged : (ctx.shifted shift).conn.rdp.state = ctx.conn.rdp.state := rfl
  rw [received.segment.header, together.state] at second
  change rstInSequence (ctx.shifted shift).conn.rdp (packet.header.shifted shift) =
    rstInSequence ctx.conn.rdp packet.header
  cases left : rstInSequence ctx.conn.rdp packet.header <;>
    cases right : rstInSequence (ctx.shifted shift).conn.rdp (packet.header.shifted shift) <;>
    simp only [left, right, if_true, if_false, Bool.false_eq_true, unchanged] at first second
  · rfl
  · rw [first] at second
    exact absurd second (not_or.mpr ⟨talks, active⟩)
  · rw [second] at first
    exact absurd first (not_or.mpr ⟨talks, active⟩)
  · rfl

/-- The queues behind the flush show how the numbers compared. -/
theorem ShiftInvariant.eack (stored : ctx.StoresData) (plain : packet.hasRdp rdpRst = false)
    (live : ctx.conn.rdp.state.Live) (reads : ReadsEack ctx packet.header (rdpHeaderToHost packet)) :
    FlushKeepsOrder shift (rdpHeaderToHost packet) ctx.stack.now (ctx.flushTaken (rdpHeaderToHost packet)) := by
  obtain ⟨_, together⟩ := invariant
  have twin := Ctx.shifted_twin shift stored
  have received := packet.shiftedReceived_twin shift
  have header := received.segment.header
  have plain' : (packet.shiftedReceived shift).hasRdp rdpRst = false := by
    rw [Packet.hasRdp, ← received.segment.flags]
    exact plain
  have reads' : ReadsEack (ctx.shifted shift) (packet.shiftedReceived shift).header
      (rdpHeaderToHost (packet.shiftedReceived shift)) := by
    rw [header]
    exact reads.shifted twin received.host.length
  have first := rdpNewPacket_readsEack plain live reads
  have second := @rdpNewPacket_readsEack cfg (ctx.shifted shift) _ plain' live reads'
  rw [first, second, header] at together
  have start := (Ctx.eackStart_twin twin packet.header).relax
  have order := rdpFlushEack_order start (received.host.list reads.flags.2.2) together.txQueue
  obtain ⟨clock, taken⟩ := ctx.eackStart_flush packet.header (rdpHeaderToHost packet)
  rwa [clock, taken] at order

end Necessary

/-- The state machine does not depend on where the numbers start, if and only if these comparisons do not. -/
theorem rdpNewPacket_shift_iff (shift : UInt16) {ctx : Ctx cfg} (packet : Packet)
    (active : ctx.conn.rdp.state ≠ .closed) (stored : ctx.StoresData) :
    ShiftInvariant shift ctx packet ↔ ShiftSafe shift ctx packet := by
  constructor
  · intro invariant
    refine ⟨fun reset talks => ?_, fun plain live reads => invariant.eack stored plain live reads⟩
    exact (rstKeepsOrder_iff shift ctx.conn.rdp packet.header).mp (invariant.reset reset active talks)
  · intro safe
    refine rdpNewPacket_twin (Ctx.shifted_twin shift stored) active (packet.shiftedReceived_twin shift) ?_ ?_
    · intro reset talks
      exact (rstKeepsOrder_iff shift ctx.conn.rdp packet.header).mpr (safe.reset reset talks)
    · intro plain talks answered reads
      refine safe.eack plain ?_ reads
      cases state : ctx.conn.rdp.state with
      | closed => exact absurd state active
      | synSent => exact absurd state answered
      | closeWait => exact absurd state talks
      | synRcvd => exact .inl rfl
      | «open» => exact .inr rfl

/-- An EACK that lists the second of two sent packets. -/
def listsTwo : Packet := rdpSegment (rdpAck ||| rdpEak) 1 0 [0, 2]

/-- The flush of this list does not depend on the start as long as the listed number does not wrap. -/
theorem listsTwo_shift : ShiftInvariant 3 (sentTwo 1 10) listsTwo ∧
    ¬ShiftInvariant 65534 (sentTwo 1 10) listsTwo := by
  have active : (sentTwo 1 10).conn.rdp.state ≠ .closed := by decide +kernel
  have stored : (sentTwo 1 10).StoresData := by decide +kernel
  have plain : listsTwo.hasRdp rdpRst = false := by decide +kernel
  have live : (sentTwo 1 10).conn.rdp.state.Live := .inr (by decide +kernel)
  have reads : ReadsEack (sentTwo 1 10) listsTwo.header (rdpHeaderToHost listsTwo) :=
    ⟨by decide +kernel, by decide +kernel, by decide +kernel, by decide +kernel⟩
  constructor
  · apply (rdpNewPacket_shift_iff 3 listsTwo active stored).mpr
    exact ⟨fun reset => absurd (plain.symm.trans reset) (by decide), fun _ _ _ => by decide +kernel⟩
  · intro invariant
    have keeps := ((rdpNewPacket_shift_iff 65534 listsTwo active stored).mp invariant).eack plain live reads
    exact absurd keeps (by decide +kernel)

/-- A connection that has received the number in front of the wrap. -/
def beforeWrap : Ctx {} :=
  { openEnd with conn := { openEnd.conn with rdp := { openEnd.conn.rdp with rcvCur := 65535 } } }

/-- A RESET in sequence is ignored in front of the wrap, and the flush of an EACK compares without wrap. -/
theorem shift_changes :
    ¬ShiftInvariant 1 beforeWrap (rdpSegment rdpRst 0 0 []) ∧ ¬ShiftInvariant 65534 (sentTwo 1 10) listsTwo := by
  constructor
  · rintro ⟨_, together⟩
    exact absurd together.state (by decide +kernel)
  · rintro ⟨_, together⟩
    have timers : (rdpNewPacket (sentTwo 1 10) listsTwo).2.stack.txQueue.items.map Packet.rdpQuarantine =
        (rdpNewPacket ((sentTwo 1 10).shifted 65534) (listsTwo.shiftedReceived 65534)).2.stack.txQueue.items.map
          Packet.rdpQuarantine := by
      rw [← List.forall₂_eq_eq_eq, List.forall₂_map_left_iff, List.forall₂_map_right_iff]
      exact List.Forall₂.imp (fun _ _ twin => twin.quarantine) together.txQueue
    exact absurd timers (by decide +kernel)

end Libcsp

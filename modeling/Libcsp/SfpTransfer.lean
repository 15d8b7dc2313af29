/-
This file shows that the SFP receiver gets the bytes that the SFP sender cut into packets.
-/
import Libcsp.ConnlessSend
import Libcsp.Sfp

namespace Libcsp

variable {cfg : Config}

/-! ## Bytes of a block -/

/-- The first bytes of a block of memory. -/
def blockBytes (block : Memory) (count : Nat) : List UInt8 := (List.range count).map block

/-- A copy behind the first bytes extends them. -/
theorem blockBytes_write (block : Memory) (count : Nat) (bytes : List UInt8) :
    blockBytes (writeBytes block count bytes) (count + bytes.length) = blockBytes block count ++ bytes := by
  rw [blockBytes, List.range_add, List.map_append, List.map_map]
  apply congrArg₂
  · apply List.map_congr_left
    intro index inside
    have before := List.mem_range.mp inside
    have outside : ¬(count ≤ index ∧ index < count + bytes.length) := by omega
    simp only [writeBytes, if_neg outside]
  · apply List.ext_getElem (by simp)
    intro index _ inside
    simp [writeBytes, inside]

/-! ## Transfers -/

/-- The packet carries these bytes of a transfer. -/
structure Packet.Fragment (packet : Packet) (offset total : UInt32) (bytes : List UInt8) : Prop where
  flag : packet.id.has cspFFrag = true
  length : packet.length.toNat = bytes.length + sfpHeaderSize
  content : packet.dataBytes bytes.length = bytes
  offset : be32 packet.mem (dataAt + bytes.length) = offset
  total : be32 packet.mem (dataAt + bytes.length + 4) = total

/-- The packets carry the bytes from the offset to the end of the transfer. -/
inductive Transfer (total : Nat) : Nat → List UInt8 → List Packet → Prop where
  | done : Transfer total total [] []
  | more {offset : Nat} {chunk rest : List UInt8} {packet : Packet} {packets : List Packet}
      (fragment : packet.Fragment (UInt32.ofNat offset) (UInt32.ofNat total) chunk) (some : chunk ≠ [])
      (tail : Transfer total (offset + chunk.length) rest packets) :
      Transfer total offset (chunk ++ rest) (packet :: packets)

theorem Transfer.ends {total offset : Nat} {bytes : List UInt8} {packets : List Packet}
    (transfer : Transfer total offset bytes packets) : offset + bytes.length = total := by
  induction transfer with
  | done => rfl
  | more fragment some' tail ih =>
      rw [List.length_append]
      omega

/-- A transfer is over exactly when no packets are left. -/
theorem Transfer.packets_nil {total offset : Nat} {bytes : List UInt8} {packets : List Packet}
    (transfer : Transfer total offset bytes packets) : packets = [] ↔ offset = total := by
  cases transfer with
  | done => simp
  | more fragment some' tail =>
      have positive := List.length_pos_iff.mpr some'
      have bound := tail.ends
      simp only [reduceCtorEq, false_iff]
      omega

/-! ## The receiver -/

/-- The header of a fragment is the trailer of the packet. -/
theorem Packet.Fragment.remove {packet : Packet} {offset total : UInt32} {bytes : List UInt8}
    (fragment : packet.Fragment offset total bytes) (inside : offset ≤ total) :
    ∃ rest, sfpHeaderRemove packet = some ({ offset, totalsize := total }, rest) ∧
      rest.length.toNat = bytes.length ∧ rest.payload = bytes := by
  have size : (UInt16.ofNat sfpHeaderSize).toNat = sfpHeaderSize := rfl
  have long : ¬packet.length < UInt16.ofNat sfpHeaderSize := by
    rw [UInt16.lt_iff_toNat_lt, size, fragment.length]
    omega
  have length : (packet.length - UInt16.ofNat sfpHeaderSize).toNat = bytes.length := by
    rw [UInt16.toNat_sub_of_le _ _ (UInt16.not_lt.mp long), size, fragment.length, Nat.add_sub_cancel]
  refine ⟨{ packet with length := packet.length - UInt16.ofNat sfpHeaderSize }, ?_, length, ?_⟩
  · simp only [sfpHeaderRemove, fragment.flag, Bool.not_true, Bool.false_eq_true, if_false, long, length,
      fragment.offset, fragment.total, gt_iff_lt, UInt32.not_lt.mpr inside]
  · rw [Packet.payload, length]
    exact fragment.content

/-- The receiver copies a fragment that continues the transfer. -/
theorem sfpStep_fragment {malloc : UInt32 → Option Memory} {packet : Packet} {state : SfpState} {block : Memory}
    {offset total : Nat} {chunk : List UInt8} (small : total < 2 ^ 32)
    (fragment : packet.Fragment (UInt32.ofNat offset) (UInt32.ofNat total) chunk) (some' : chunk ≠ [])
    (inside : offset + chunk.length ≤ total) (place : state.dataOffset = UInt32.ofNat offset)
    (allocated : state.allocate malloc (UInt32.ofNat total) = some (block, UInt32.ofNat total)) :
    sfpStep malloc packet state =
      if offset + chunk.length = total then .completes (writeBytes block offset chunk) (UInt32.ofNat total)
      else .continues
        { data := some (writeBytes block offset chunk)
          datasize := UInt32.ofNat total
          dataOffset := UInt32.ofNat (offset + chunk.length) } := by
  have number : ∀ {value : Nat}, value ≤ total → (UInt32.ofNat value).toNat = value :=
    fun bound => UInt32.toNat_ofNat_of_lt' (Nat.lt_of_le_of_lt bound small)
  have ordered : UInt32.ofNat offset ≤ UInt32.ofNat total := by
    rw [UInt32.le_iff_toNat_le, number (by omega), number le_rfl]
    omega
  obtain ⟨rest, removed, length, payload⟩ := fragment.remove ordered
  have next : UInt32.ofNat offset + rest.length.toUInt32 = UInt32.ofNat (offset + chunk.length) := by
    apply UInt32.toNat_inj.mp
    rw [UInt32.toNat_add, number (by omega), number inside, UInt16.toNat_toUInt32, length]
    exact Nat.mod_eq_of_lt (by omega)
  have fits : ¬UInt32.ofNat (offset + chunk.length) > UInt32.ofNat total := by
    rw [gt_iff_lt, UInt32.lt_iff_toNat_lt, number inside, number le_rfl]
    omega
  have complete : UInt32.ofNat (offset + chunk.length) ≥ UInt32.ofNat total ↔ offset + chunk.length = total := by
    rw [ge_iff_le, UInt32.le_iff_toNat_le, number inside, number le_rfl]
    omega
  have nonempty : rest.length ≠ 0 := by
    intro zero
    rw [zero] at length
    exact some' (List.eq_nil_of_length_eq_zero length.symm)
  have start : (UInt32.ofNat offset).toNat = offset := number (by omega)
  simp only [sfpStep, removed, place, ne_eq, not_true, if_false, allocated, next, fits, or_self, complete, nonempty,
    start, payload]

/-- The receiver reads the packets of the transfer, and leaves those behind it. -/
theorem sfpRecvLoop_transfer {malloc : UInt32 → Option Memory} {total offset : Nat} (small : total < 2 ^ 31)
    {bytes : List UInt8} {packet : Packet} {packets following : List Packet} {state : SfpState} {block : Memory}
    (freed : List Nat) (transfer : Transfer total offset bytes (packet :: packets))
    (place : state.dataOffset = UInt32.ofNat offset)
    (allocated : state.allocate malloc (UInt32.ofNat total) = some (block, UInt32.ofNat total)) :
    ∃ data, sfpRecvLoop malloc (packets ++ following) packet state freed =
        { err := .none
          returnData := some data
          returnDatasize := total
          queue := following
          freed := freed ++ (packet :: packets).map Packet.buf } ∧
      blockBytes data total = blockBytes block offset ++ bytes := by
  induction packets generalizing packet bytes offset state block freed with
  | nil =>
      cases transfer with
      | more fragment some' tail =>
          have ended := tail.packets_nil.mp rfl
          rename_i chunk rest
          have empty : rest = [] := by
            have bound := tail.ends
            exact List.eq_nil_of_length_eq_zero (by omega)
          have step := sfpStep_fragment (by omega) fragment some' (by omega) place allocated
          rw [if_pos ended] at step
          have signed : (UInt32.ofNat total).toBitVec.toInt = total := by
            have number : (UInt32.ofNat total).toBitVec.toNat = total :=
              UInt32.toNat_ofNat_of_lt' (by omega : total < 2 ^ 32)
            rw [BitVec.toInt_eq_toNat_of_lt (by omega), number]
          refine ⟨writeBytes block offset chunk, ?_, ?_⟩
          · rw [List.nil_append, sfpRecvLoop.eq_def]
            simp only [step, signed, List.map_cons, List.map_nil]
          · rw [← ended, blockBytes_write, empty, List.append_nil]
  | cons next packets ih =>
      cases transfer with
      | more fragment some' tail =>
          rename_i chunk rest
          have bound := tail.ends
          have goesOn : ¬offset + chunk.length = total := fun ended => by
            have none := tail.packets_nil.mpr ended
            cases none
          have step := sfpStep_fragment (by omega) fragment some' (by omega) place allocated
          rw [if_neg goesOn] at step
          obtain ⟨data, received, copied⟩ := @ih (offset + chunk.length) rest next
            { data := some (writeBytes block offset chunk)
              datasize := UInt32.ofNat total
              dataOffset := UInt32.ofNat (offset + chunk.length) }
            (writeBytes block offset chunk) (freed ++ [packet.buf]) tail rfl rfl
          refine ⟨data, ?_, ?_⟩
          · rw [List.cons_append, sfpRecvLoop.eq_def]
            simp only [step, received, List.map_cons, List.append_assoc, List.singleton_append]
          · rw [copied, blockBytes_write, List.append_assoc]

/-! ## The sender -/

/-- The connection delivers a packet unchanged and with the header flags of its sender. -/
structure Delivered (sent : CspId × Packet) (received : Packet) : Prop where
  flags : received.id.flags = sent.1.flags
  payload : received.payload = sent.2.payload

/-- A sent packet is a fragment at the receiver. -/
theorem sfpFragment_delivered {buffer received : Packet} {data : Memory} {totalsize count size : UInt32}
    {idout : CspId} (room : size.toNat + sfpHeaderSize < 2 ^ 16) (flag : idout.has cspFFrag = true)
    (delivered : Delivered (idout, sfpFragment buffer data totalsize count size) received) :
    received.Fragment count totalsize ((List.range size.toNat).map fun index => data (count.toNat + index)) := by
  generalize bytesEq : ((List.range size.toNat).map fun index => data (count.toNat + index)) = bytes
  have length : bytes.length = size.toNat := by
    rw [← bytesEq]
    simp
  have short : size.toUInt16.toNat = bytes.length := by
    rw [UInt32.toNat_toUInt16, length]
    exact Nat.mod_eq_of_lt (by omega)
  generalize fragmentEq : sfpFragment buffer data totalsize count size = fragment at delivered
  simp only [sfpFragment, sfpHeaderAdd, bytesEq, short] at fragmentEq
  have fragmentLength : fragment.length.toNat = bytes.length + sfpHeaderSize := by
    rw [← fragmentEq]
    simp only [UInt16.toNat_add, short]
    exact Nat.mod_eq_of_lt (by rw [length]; exact room)
  have content : fragment.dataBytes bytes.length = bytes := by
    have whole := writeBytes_map buffer.mem dataAt bytes
    rw [← fragmentEq]
    refine Eq.trans ?_ whole
    apply List.map_congr_left
    intro index inside
    have before := List.mem_range.mp inside
    exact (putBe32_other (by omega)).trans (putBe32_other (by omega))
  have receivedLength := congrArg UInt16.toNat (Packet.length_of_payload delivered.payload)
  rw [fragmentLength] at receivedLength
  have first : bytes.length + 4 ≤ received.length.toNat := by
    rw [receivedLength, sfpHeaderSize]
    omega
  have second : bytes.length + 4 + 4 ≤ received.length.toNat := by
    rw [receivedLength, sfpHeaderSize]
  refine ⟨?_, receivedLength, ?_, ?_, ?_⟩
  · rw [CspId.has, delivered.flags]
    exact flag
  · rw [Packet.dataBytes_of_payload delivered.payload (by omega)]
    exact content
  · rw [Packet.be32_of_payload delivered.payload first, ← fragmentEq]
    exact be32_putBe32 _ _ _
  · rw [Nat.add_assoc, Packet.be32_of_payload delivered.payload second, ← fragmentEq, ← Nat.add_assoc]
    simp only
    rw [be32_putBe32_other (by omega), be32_putBe32]

/-- The remaining bytes of the block. -/
def restBytes (data : Memory) (total count : Nat) : List UInt8 :=
  (List.range (total - count)).map fun index => data (count + index)

theorem restBytes_split (data : Memory) {total count size : Nat} (inside : count + size ≤ total) :
    restBytes data total count =
      ((List.range size).map fun index => data (count + index)) ++ restBytes data total (count + size) := by
  have split : total - count = size + (total - (count + size)) := by omega
  rw [restBytes, split, List.range_add, List.map_append, List.map_map]
  apply congrArg
  apply List.map_congr_left
  intro index _
  rw [Function.comp_apply, Nat.add_assoc]

/-- The loop sends the rest of the block as a transfer. -/
theorem sfpSendLoop_transfer {buffers : Nat → Option Packet} (available : ∀ taken, buffers taken ≠ none)
    (data : Memory) {totalsize mtu count : UInt32} (positive : mtu ≠ 0)
    (fits : mtu.toNat + sfpHeaderSize ≤ cfg.bufferSize) (within : count ≤ totalsize) (sender : SfpSender) :
    ∃ fragments after, sfpSendLoop cfg buffers data totalsize mtu positive count sender = (.none, after) ∧
      after.sent = sender.sent ++ fragments ∧ ∀ received, List.Forall₂ Delivered fragments received →
        Transfer totalsize.toNat count.toNat (restBytes data totalsize.toNat count.toNat) received := by
  induction rest : totalsize.toNat - count.toNat using Nat.strongRecOn generalizing count sender with
  | _ rest' ih =>
      have order := UInt32.le_iff_toNat_le.mp within
      by_cases more : count < totalsize
      · have size := @sfpSize_toNat totalsize mtu count more
        have next := @sfpCount_toNat totalsize mtu count more
        have small := UInt32.lt_iff_toNat_lt.mp more
        have nonzero : mtu.toNat ≠ 0 := fun zero => positive (UInt32.toNat_inj.mp zero)
        have bound := cfg.bufferSize_lt
        obtain ⟨buffer, taken⟩ : ∃ buffer, sfpBufferGet cfg buffers sender.taken (mtu.toNat + sfpHeaderSize) =
            some buffer := by
          rw [sfpBufferGet, if_neg (by omega)]
          exact Option.ne_none_iff_exists'.mp (available sender.taken)
        obtain ⟨fragments, after, sent, log, transfers⟩ := ih _ (by omega)
          (UInt32.le_iff_toNat_le.mpr (by omega : (count + sfpSize totalsize mtu count).toNat ≤ totalsize.toNat))
          { idout := { sender.idout with flags := sender.idout.flags ||| cspFFrag }
            taken := sender.taken + 1
            sent := sender.sent ++ [({ sender.idout with flags := sender.idout.flags ||| cspFFrag },
              sfpFragment buffer data totalsize count (sfpSize totalsize mtu count))] } rfl
        refine ⟨({ sender.idout with flags := sender.idout.flags ||| cspFFrag },
          sfpFragment buffer data totalsize count (sfpSize totalsize mtu count)) :: fragments, after, ?_, ?_, ?_⟩
        · rw [sfpSendLoop, dif_pos more, taken]
          exact sent
        · rw [log, List.append_assoc, List.singleton_append]
        · intro received delivered
          obtain ⟨packet, packets, first, others, rfl⟩ := List.forall₂_cons_left_iff.mp delivered
          have flag : CspId.has { sender.idout with flags := sender.idout.flags ||| cspFFrag } cspFFrag = true := by
            rw [CspId.has, or_flag, Bool.or_eq_true]
            exact .inr (by decide)
          have fragment := sfpFragment_delivered (by omega) flag first
          have tail := transfers packets others
          rw [restBytes_split data (by omega : count.toNat + (sfpSize totalsize mtu count).toNat ≤ totalsize.toNat)]
          refine .more ?_ ?_ ?_
          · rw [UInt32.ofNat_toNat, UInt32.ofNat_toNat]
            exact fragment
          · intro empty
            have zero := congrArg List.length empty
            simp only [List.length_map, List.length_range, List.length_nil] at zero
            omega
          · rw [List.length_map, List.length_range, ← next]
            exact tail
      · have same : count.toNat = totalsize.toNat := by
          have above := UInt32.not_lt.mp more
          rw [UInt32.le_iff_toNat_le] at above
          omega
        refine ⟨[], sender, ?_, (List.append_nil _).symm, ?_⟩
        · rw [sfpSendLoop, dif_neg more]
        · intro received none
          rw [List.forall₂_nil_left_iff.mp none, same, restBytes, Nat.sub_self]
          exact .done

/-! ## The round trip -/

theorem restBytes_zero (data : Memory) (total : Nat) : restBytes data total 0 = blockBytes data total := by
  rw [restBytes, blockBytes, Nat.sub_zero]
  apply List.map_congr_left
  intro index _
  rw [Nat.zero_add]

/-- The result of a complete reception of these packets. -/
def sfpReceived (block : Memory) (totalsize : UInt32) (received following : List Packet) : SfpResult :=
  { err := .none
    returnData := some block
    returnDatasize := totalsize.toNat
    queue := following
    freed := received.map Packet.buf }

/-- The loop receives a whole transfer from its first packet. -/
theorem sfpRecvLoop_whole {malloc : UInt32 → Option Memory} (memory : ∀ size, malloc size ≠ none)
    {data : Memory}
    {totalsize : UInt32} (small : totalsize.toNat < 2 ^ 31) {first : Packet} {rest : List Packet}
    (following : List Packet)
    (transfer : Transfer totalsize.toNat 0 (restBytes data totalsize.toNat 0) (first :: rest)) :
    ∃ block, blockBytes block totalsize.toNat = blockBytes data totalsize.toNat ∧
      sfpRecvLoop malloc (rest ++ following) first { data := none, datasize := 0, dataOffset := 0 } [] =
        sfpReceived block totalsize (first :: rest) following := by
  obtain ⟨fresh, allocated⟩ := Option.ne_none_iff_exists'.mp (memory totalsize)
  have start : SfpState.allocate { data := none, datasize := 0, dataOffset := 0 } malloc
      (UInt32.ofNat totalsize.toNat) = some (fresh, UInt32.ofNat totalsize.toNat) := by
    rw [UInt32.ofNat_toNat, SfpState.allocate, allocated]
    rfl
  obtain ⟨block, received, copied⟩ :=
    @sfpRecvLoop_transfer malloc totalsize.toNat 0 small _ first rest following _ fresh [] transfer rfl start
  refine ⟨block, ?_, received⟩
  rw [copied, restBytes_zero]
  rfl

/-- The receiver gets the block of the sender with its size, and reads the packets of this transfer only. -/
theorem sfp_roundTrip {buffers : Nat → Option Packet} (available : ∀ taken, buffers taken ≠ none)
    {malloc : UInt32 → Option Memory} (memory : ∀ size, malloc size ≠ none) (data : Memory)
    {totalsize mtu : UInt32} (some' : 1 ≤ totalsize.toNat) (small : totalsize.toNat ≤ 2 ^ 31 - 1)
    (positive : 1 ≤ mtu.toNat) (fits : mtu.toNat ≤ cfg.bufferSize - sfpHeaderSize) (sender : SfpSender) :
    ∃ fragments after, sfpSendOwnMemcpy cfg buffers data totalsize mtu sender = (.none, after) ∧
      after.sent = sender.sent ++ fragments ∧
      ∀ received following, List.Forall₂ Delivered fragments received →
        ∃ block, blockBytes block totalsize.toNat = blockBytes data totalsize.toNat ∧
          sfpRecvFp malloc (received ++ following) none = sfpReceived block totalsize received following ∧
          ∀ first rest, received = first :: rest →
            sfpRecvFp malloc (rest ++ following) (some first) = sfpReceived block totalsize received following := by
  have nonzero : mtu ≠ 0 := by
    intro zero
    rw [zero] at positive
    exact absurd positive (by decide)
  have within : (0 : UInt32) ≤ totalsize := UInt32.le_iff_toNat_le.mpr (Nat.zero_le _)
  obtain ⟨fragments, after, sent, log, transfers⟩ :=
    @sfpSendLoop_transfer cfg buffers available data totalsize mtu 0 nonzero (by omega) within sender
  refine ⟨fragments, after, ?_, log, ?_⟩
  · rw [sfpSendOwnMemcpy, dif_pos nonzero]
    exact sent
  · intro received following delivered
    have transfer : Transfer totalsize.toNat 0 (restBytes data totalsize.toNat 0) received :=
      transfers received delivered
    cases received with
    | nil =>
        have done := transfer.packets_nil.mp rfl
        omega
    | cons first rest =>
        obtain ⟨block, copied, whole⟩ := sfpRecvLoop_whole memory (by omega) following transfer
        refine ⟨block, copied, whole, ?_⟩
        rintro other others ⟨rfl, rfl⟩
        exact whole

/-- Five bytes in packets of two bytes. -/
theorem fiveBytes_roundTrip :
    ∃ fragments after,
      sfpSendOwnMemcpy {} (fun taken => some { (default : Packet) with buf := taken })
          (fun index => UInt8.ofNat index) 5 2 { idout := default, taken := 0, sent := [] } = (.none, after) ∧
        after.sent = [] ++ fragments ∧
        ∀ received following, List.Forall₂ Delivered fragments received →
          ∃ block, blockBytes block 5 = blockBytes (fun index => UInt8.ofNat index) 5 ∧
            sfpRecvFp (fun _ => some fun _ => 0xAA) (received ++ following) none =
              sfpReceived block 5 received following ∧
            ∀ first rest, received = first :: rest →
              sfpRecvFp (fun _ => some fun _ => 0xAA) (rest ++ following) (some first) =
                sfpReceived block 5 received following :=
  @sfp_roundTrip {} (fun taken => some { (default : Packet) with buf := taken }) (fun _ empty => by cases empty)
    (fun _ => some fun _ => 0xAA) (fun _ empty => by cases empty) (fun index => UInt8.ofNat index) 5 2
    (by decide) (by decide) (by decide) (by decide) { idout := default, taken := 0, sent := [] }

end Libcsp

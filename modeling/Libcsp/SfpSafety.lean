/-
This file states for which packets csp_sfp_recv_fp stays inside its memory and returns what it received.
-/
import Libcsp.SfpTransfer

namespace Libcsp

/-! ## The history of a reception -/

/-- One `memcpy` to the data: its place and bytes, the size of the block, and the size in the header. -/
structure SfpCopy where
  place : Nat
  bytes : List UInt8
  datasize : UInt32
  totalsize : UInt32
  deriving DecidableEq, Repr

/-- The copies so far, and the size of the block of `malloc` that is not freed. -/
structure SfpHistory where
  copies : List SfpCopy
  live : Option UInt32

/-- The block that `data` points to behind the calls of `malloc` in one turn. -/
def sfpAllocated (malloc : UInt32 → Option Memory) (packet : Packet) (state : SfpState) : Option (Memory × UInt32) :=
  match sfpHeaderRemove packet with
  | none => state.data.map fun data => (data, state.datasize)
  | some (header, _) =>
      if header.offset ≠ state.dataOffset then state.data.map fun data => (data, state.datasize)
      else state.allocate malloc header.totalsize

/-- The `memcpy` of one turn. -/
def sfpCopied (malloc : UInt32 → Option Memory) (packet : Packet) (state : SfpState) : Option SfpCopy :=
  match sfpHeaderRemove packet with
  | none => none
  | some (header, packet) =>
      if header.offset ≠ state.dataOffset then none
      else
        match state.allocate malloc header.totalsize with
        | none => none
        | some (_, datasize) =>
            let dataOffset := state.dataOffset + packet.length.toUInt32
            if dataOffset > datasize ∨ datasize ≠ header.totalsize then none
            else some
              { place := state.dataOffset.toNat
                bytes := packet.payload
                datasize
                totalsize := header.totalsize }

def SfpHistory.turn (malloc : UInt32 → Option Memory) (packet : Packet) (state : SfpState) (history : SfpHistory) :
    SfpHistory where
  copies := history.copies ++ (sfpCopied malloc packet state).toList
  live := (sfpAllocated malloc packet state).map Prod.snd

/-- The last statement of `csp_sfp_recv_fp` frees the data. -/
def SfpHistory.freeData (history : SfpHistory) : SfpHistory := { history with live := none }

/-- The loop of `csp_sfp_recv_fp` with the history. -/
def sfpLogLoop (malloc : UInt32 → Option Memory) (queue : List Packet) (packet : Packet) (state : SfpState)
    (freed : List Nat) (history : SfpHistory) : SfpResult × SfpHistory :=
  let freed := freed ++ [packet.buf]
  let history := history.turn malloc packet state
  match sfpStep malloc packet state with
  | .fails err => ({ err, returnData := none, returnDatasize := 0, queue, freed }, history.freeData)
  | .completes data datasize =>
      ({ err := .none, returnData := some data, returnDatasize := datasize.toBitVec.toInt, queue, freed }, history)
  | .continues state =>
      match queue with
      | [] => ({ err := .timedout, returnData := none, returnDatasize := 0, queue := [], freed }, history.freeData)
      | next :: rest => sfpLogLoop malloc rest next state freed history

/-- This is `csp_sfp_recv_fp` with the history. -/
def sfpRecvLog (malloc : UInt32 → Option Memory) (queue : List Packet) (firstPacket : Option Packet) :
    SfpResult × SfpHistory :=
  let start : SfpState := { data := none, datasize := 0, dataOffset := 0 }
  match firstPacket with
  | some packet => sfpLogLoop malloc queue packet start [] ⟨[], none⟩
  | none =>
      match queue with
      | [] => ({ err := .timedout, returnData := none, returnDatasize := 0, queue := [], freed := [] }, ⟨[], none⟩)
      | packet :: rest => sfpLogLoop malloc rest packet start [] ⟨[], none⟩

section Loop
variable {malloc : UInt32 → Option Memory} {queue : List Packet} {packet : Packet} {state : SfpState}
  {freed : List Nat} {history : SfpHistory}

/-- The history does not change what the receiver does. -/
theorem sfpLogLoop_result :
    (sfpLogLoop malloc queue packet state freed history).1 = sfpRecvLoop malloc queue packet state freed := by
  induction queue generalizing packet state freed history with
  | nil =>
      rw [sfpLogLoop.eq_def, sfpRecvLoop.eq_def]
      cases sfpStep malloc packet state <;> rfl
  | cons next rest ih =>
      rw [sfpLogLoop.eq_def, sfpRecvLoop.eq_def]
      cases sfpStep malloc packet state with
      | fails err => rfl
      | completes data datasize => rfl
      | continues state => exact ih

theorem sfpRecvLog_result (malloc : UInt32 → Option Memory) (queue : List Packet) (firstPacket : Option Packet) :
    (sfpRecvLog malloc queue firstPacket).1 = sfpRecvFp malloc queue firstPacket := by
  cases firstPacket with
  | some packet => exact sfpLogLoop_result
  | none =>
      cases queue with
      | nil => rfl
      | cons packet rest => exact sfpLogLoop_result

/-- A turn refuses its packet before the copy, or it copies the payload and goes on by the sizes. -/
theorem sfpStep_cases (malloc : UInt32 → Option Memory) (packet : Packet) (state : SfpState) :
    (sfpCopied malloc packet state = none ∧ ∃ err, err ≠ .none ∧ sfpStep malloc packet state = .fails err) ∨
      ∃ body block datasize,
        sfpHeaderRemove packet = some (⟨state.dataOffset, datasize⟩, body) ∧
        state.allocate malloc datasize = some (block, datasize) ∧
        state.dataOffset + body.length.toUInt32 ≤ datasize ∧
        sfpAllocated malloc packet state = some (block, datasize) ∧
        sfpCopied malloc packet state = some ⟨state.dataOffset.toNat, body.payload, datasize, datasize⟩ ∧
        sfpStep malloc packet state =
          if state.dataOffset + body.length.toUInt32 ≥ datasize then
            .completes (writeBytes block state.dataOffset.toNat body.payload) datasize
          else if body.length = 0 then .fails .sfp
          else .continues
            { data := some (writeBytes block state.dataOffset.toNat body.payload)
              datasize
              dataOffset := state.dataOffset + body.length.toUInt32 } := by
  unfold sfpCopied sfpStep sfpAllocated
  cases removed : sfpHeaderRemove packet with
  | none => exact .inl ⟨rfl, _, by decide, rfl⟩
  | some removed' =>
      obtain ⟨header, body⟩ := removed'
      simp only
      split
      · exact .inl ⟨rfl, _, by decide, rfl⟩
      · rename_i place
        cases allocated : state.allocate malloc header.totalsize with
        | none => exact .inl ⟨rfl, _, by decide, rfl⟩
        | some block =>
            obtain ⟨block, datasize⟩ := block
            simp only
            split
            · exact .inl ⟨rfl, _, by decide, rfl⟩
            · rename_i fits
              rw [not_or, not_not, gt_iff_lt, UInt32.not_lt] at fits
              obtain ⟨fits, rfl⟩ := fits
              rw [not_not] at place
              refine .inr ⟨body, block, header.totalsize, ?_, allocated, fits, rfl, rfl, rfl⟩
              rw [← place]

end Loop

/-! ## Safety -/

/-- The copies lie one behind the other, without a gap or an overlap. -/
def Covers : Nat → List SfpCopy → Nat → Prop
  | start, [], last => start = last
  | start, copy :: rest, last => copy.place = start ∧ Covers (start + copy.bytes.length) rest last

theorem Covers.concat {start last : Nat} {copies : List SfpCopy} (covers : Covers start copies last)
    {copy : SfpCopy} (place : copy.place = last) :
    Covers start (copies ++ [copy]) (last + copy.bytes.length) := by
  induction copies generalizing start with
  | nil =>
      obtain rfl : start = last := covers
      exact ⟨place, rfl⟩
  | cons head rest ih => exact ⟨covers.1, ih covers.2⟩

/-- The call writes inside its block, returns what it copied, keeps no block after an error, and frees each packet
that it read once. -/
structure SafeReception (packets : List Packet) (result : SfpResult) (history : SfpHistory) : Prop where
  writes : ∀ copy ∈ history.copies, copy.place + copy.bytes.length ≤ copy.datasize.toNat
  success : result.err = .none → ∃ (total : UInt32) (data : Memory),
    (∀ copy ∈ history.copies, copy.totalsize = total) ∧ Covers 0 history.copies total.toNat ∧
      result.returnData = some data ∧ blockBytes data total.toNat = history.copies.flatMap SfpCopy.bytes ∧
      result.returnDatasize = total.toNat
  failure : result.err ≠ .none → result.returnData = none ∧ result.returnDatasize = 0 ∧ history.live = none
  frees : ∃ consumed, consumed ++ result.queue = packets ∧ result.freed = consumed.map Packet.buf

/-- These packets are fragments of one transfer, one behind the other, and none of them ends it. -/
inductive Fragments (total : UInt32) : Nat → List Packet → Nat → Prop where
  | none (offset : Nat) : Fragments total offset [] offset
  | more {offset last : Nat} {packet body : Packet} {rest : List Packet}
      (header : sfpHeaderRemove packet = some (⟨UInt32.ofNat offset, total⟩, body)) (some : body.length ≠ 0)
      (inside : offset + body.length.toNat < total.toNat)
      (tail : Fragments total (offset + body.length.toNat) rest last) : Fragments total offset (packet :: rest) last

theorem Fragments.concat {total : UInt32} {offset last : Nat} {packets : List Packet}
    (fragments : Fragments total offset packets last) {packet body : Packet}
    (header : sfpHeaderRemove packet = some (⟨UInt32.ofNat last, total⟩, body)) (some' : body.length ≠ 0)
    (inside : last + body.length.toNat < total.toNat) :
    Fragments total offset (packets ++ [packet]) (last + body.length.toNat) := by
  induction fragments with
  | none offset => exact .more header some' inside (.none _)
  | more first nonempty fits tail ih => exact .more first nonempty fits (ih header inside)

theorem Fragments.lt {total : UInt32} {offset last : Nat} {packets : List Packet}
    (fragments : Fragments total offset packets last) (small : offset < 2 ^ 32) : last < 2 ^ 32 := by
  induction fragments with
  | none offset => exact small
  | more header some' inside tail ih =>
      apply ih
      have bound := total.toNat_lt
      omega

/-- A fragment behind these reaches the end of the 32-bit offsets, or it ends a transfer whose size is no `int`. -/
def Overruns (malloc : UInt32 → Option Memory) (before : List Packet) (packet : Packet) : Prop :=
  ∃ (total : UInt32) (offset : Nat) (body : Packet), malloc total ≠ none ∧
    Fragments total 0 before offset ∧ sfpHeaderRemove packet = some (⟨UInt32.ofNat offset, total⟩, body) ∧
    (2 ^ 32 ≤ offset + body.length.toNat ∨
      (offset + body.length.toNat = total.toNat ∧ 2 ^ 31 ≤ total.toNat))

/-- No packet of the list overruns behind the packets in front of it. -/
def NoOverrun (malloc : UInt32 → Option Memory) (packets : List Packet) : Prop :=
  ∀ before packet, before ++ [packet] <+: packets → ¬Overruns malloc before packet

theorem sfpHeaderRemove_le {packet body : Packet} {header : SfpHeader}
    (removed : sfpHeaderRemove packet = some (header, body)) : header.offset ≤ header.totalsize := by
  unfold sfpHeaderRemove at removed
  split at removed
  · cases removed
  · split at removed
    · cases removed
    · simp only at removed
      split at removed
      · cases removed
      · rename_i ordered
        cases removed
        exact UInt32.not_lt.mp ordered

section Loop
variable {malloc : UInt32 → Option Memory} {packet : Packet} {state : SfpState}
  {freed : List Nat} {history : SfpHistory} {consumed : List Packet}

/-- The consumed packets are the fragments that the copies and the block hold. -/
structure Gathers (malloc : UInt32 → Option Memory) (consumed : List Packet) (state : SfpState)
    (history : SfpHistory) : Prop where
  writes : ∀ copy ∈ history.copies, copy.place + copy.bytes.length ≤ copy.datasize.toNat
  holds : ∀ block total, state.allocate malloc total = some (block, total) → malloc total ≠ none ∧
    (∀ copy ∈ history.copies, copy.totalsize = total) ∧ Covers 0 history.copies state.dataOffset.toNat ∧
      blockBytes block state.dataOffset.toNat = history.copies.flatMap SfpCopy.bytes ∧
      Fragments total 0 consumed state.dataOffset.toNat

theorem Gathers.start : Gathers malloc [] { data := none, datasize := 0, dataOffset := 0 } ⟨[], none⟩ where
  writes copy member := absurd member List.not_mem_nil
  holds block total allocated := by
    have some' : malloc total ≠ none := by
      intro failed
      rw [SfpState.allocate, failed] at allocated
      cases allocated
    exact ⟨some', fun copy member => absurd member List.not_mem_nil, rfl, rfl, .none 0⟩

/-- The history of a turn that copies. -/
theorem SfpHistory.turn_copies {copy : SfpCopy} (copied : sfpCopied malloc packet state = some copy) :
    (history.turn malloc packet state).copies = history.copies ++ [copy] := by
  rw [turn, copied]
  rfl

theorem forall_mem_concat {Item : Type} {items : List Item} {item : Item} {holds : Item → Prop}
    (all : ∀ item ∈ items, holds item) (last : holds item) : ∀ other ∈ items ++ [item], holds other := by
  intro other member
  obtain old | new := List.mem_append.mp member
  · exact all other old
  · exact List.mem_singleton.mp new ▸ last

/-- The copies of a complete transfer. -/
structure Received (history : SfpHistory) (data : Memory) (total : UInt32) : Prop where
  size : total.toNat < 2 ^ 31
  totals : ∀ copy ∈ history.copies, copy.totalsize = total
  covers : Covers 0 history.copies total.toNat
  bytes : blockBytes data total.toNat = history.copies.flatMap SfpCopy.bytes

theorem Received.result {history : SfpHistory} {data : Memory} {total : UInt32}
    (received : Received history data total) :
    ∃ (size : UInt32) (block : Memory), (∀ copy ∈ history.copies, copy.totalsize = size) ∧
      Covers 0 history.copies size.toNat ∧ some data = some block ∧
      blockBytes block size.toNat = history.copies.flatMap SfpCopy.bytes ∧
      total.toBitVec.toInt = (size.toNat : Int) := by
  refine ⟨total, data, received.totals, received.covers, rfl, received.bytes, ?_⟩
  have small := received.size
  exact BitVec.toInt_eq_toNat_of_lt (by rw [UInt32.toNat_toBitVec]; omega)

/-- One turn fails, completes the transfer or goes on, and it writes inside the block. -/
theorem Gathers.turn (gathers : Gathers malloc consumed state history) (bounded : ¬Overruns malloc consumed packet) :
    (∀ copy ∈ (history.turn malloc packet state).copies, copy.place + copy.bytes.length ≤ copy.datasize.toNat) ∧
      ((∃ err, err ≠ .none ∧ sfpStep malloc packet state = .fails err) ∨
        (∃ data total, sfpStep malloc packet state = .completes data total ∧
          Received (history.turn malloc packet state) data total) ∨
        ∃ next, sfpStep malloc packet state = .continues next ∧
          Gathers malloc (consumed ++ [packet]) next (history.turn malloc packet state)) := by
  obtain ⟨refused, err, failed, step⟩ | ⟨body, block, total, removed, allocated, fits, _, copied, step⟩ :=
    sfpStep_cases malloc packet state
  · have same : (history.turn malloc packet state).copies = history.copies := by
      rw [SfpHistory.turn, refused]
      exact List.append_nil _
    rw [same]
    exact ⟨gathers.writes, .inl ⟨err, failed, step⟩⟩
  · obtain ⟨memory, totals, covers, bytes, fragments⟩ := gathers.holds block total allocated
    have place : UInt32.ofNat state.dataOffset.toNat = state.dataOffset := UInt32.ofNat_toNat
    have header : sfpHeaderRemove packet = some (⟨UInt32.ofNat state.dataOffset.toNat, total⟩, body) := by
      rw [place]
      exact removed
    have inside : ¬2 ^ 32 ≤ state.dataOffset.toNat + body.length.toNat := fun wraps =>
      bounded ⟨total, _, body, memory, fragments, header, .inl wraps⟩
    have signed : state.dataOffset.toNat + body.length.toNat = total.toNat → total.toNat < 2 ^ 31 := fun whole =>
      Nat.lt_of_not_le fun large => bounded ⟨total, _, body, memory, fragments, header, .inr ⟨whole, large⟩⟩
    have next : (state.dataOffset + body.length.toUInt32).toNat = state.dataOffset.toNat + body.length.toNat := by
      rw [UInt32.toNat_add, UInt16.toNat_toUInt32]
      exact Nat.mod_eq_of_lt (by omega)
    rw [UInt32.le_iff_toNat_le, next] at fits
    generalize copy : (⟨state.dataOffset.toNat, body.payload, total, total⟩ : SfpCopy) = added at copied
    have length : added.bytes.length = body.length.toNat := by
      rw [← copy]
      exact Packet.payload_length body
    have totals' := forall_mem_concat totals (by rw [← copy] : added.totalsize = total)
    have covers' := covers.concat (by rw [← copy] : added.place = state.dataOffset.toNat)
    have bytes' : blockBytes (writeBytes block state.dataOffset.toNat body.payload)
        (state.dataOffset.toNat + body.length.toNat) = (history.copies ++ [added]).flatMap SfpCopy.bytes := by
      have written := blockBytes_write block state.dataOffset.toNat body.payload
      rw [Packet.payload_length] at written
      rw [written, bytes, List.flatMap_append, List.flatMap_singleton, ← copy]
    have writes' := forall_mem_concat gathers.writes
      (by rw [length, ← copy]; exact fits : added.place + added.bytes.length ≤ added.datasize.toNat)
    rw [length] at covers'
    rw [← SfpHistory.turn_copies copied] at totals' covers' bytes' writes'
    refine ⟨writes', ?_⟩
    have ended : state.dataOffset + body.length.toUInt32 ≥ total ↔
        total.toNat ≤ state.dataOffset.toNat + body.length.toNat := by
      rw [ge_iff_le, UInt32.le_iff_toNat_le, next]
    by_cases complete : total.toNat ≤ state.dataOffset.toNat + body.length.toNat
    · have whole : state.dataOffset.toNat + body.length.toNat = total.toNat := Nat.le_antisymm fits complete
      rw [if_pos (ended.mpr complete)] at step
      rw [whole] at covers' bytes'
      exact .inr (.inl ⟨_, _, step, signed whole, totals', covers', bytes'⟩)
    · rw [if_neg (mt ended.mp complete)] at step
      by_cases empty : body.length = 0
      · rw [if_pos empty] at step
        exact .inl ⟨_, by decide, step⟩
      · rw [if_neg empty] at step
        refine .inr (.inr ⟨_, step, writes', ?_⟩)
        rintro _ _ ⟨rfl, rfl⟩
        simp only [next]
        exact ⟨memory, totals', covers', bytes', fragments.concat header empty (Nat.lt_of_not_le complete)⟩

/-- A loop that gathers without an overrun is safe. -/
theorem sfpLogLoop_safe {queue : List Packet} (gathers : Gathers malloc consumed state history)
    (bounded : NoOverrun malloc (consumed ++ packet :: queue)) (released : freed = consumed.map Packet.buf) :
    SafeReception (consumed ++ packet :: queue) (sfpLogLoop malloc queue packet state freed history).1
      (sfpLogLoop malloc queue packet state freed history).2 := by
  induction queue generalizing packet state freed history consumed with
  | nil =>
      have freed' : freed ++ [packet.buf] = (consumed ++ [packet]).map Packet.buf := by simp [released]
      obtain ⟨writes, ⟨err, failed, step⟩ | ⟨data, total, step, received⟩ | ⟨next, step, _⟩⟩ :=
        gathers.turn (bounded consumed packet List.prefix_rfl)
      · rw [sfpLogLoop.eq_def, step]
        exact ⟨writes, fun ok => absurd ok failed, fun _ => ⟨rfl, rfl, rfl⟩, _, List.append_nil _, freed'⟩
      · rw [sfpLogLoop.eq_def, step]
        exact ⟨writes, fun _ => received.result, fun other => absurd rfl other, _, List.append_nil _, freed'⟩
      · rw [sfpLogLoop.eq_def, step]
        exact ⟨writes, (fun ok => by cases ok), fun _ => ⟨rfl, rfl, rfl⟩, _, List.append_nil _, freed'⟩
  | cons following rest ih =>
      have freed' : freed ++ [packet.buf] = (consumed ++ [packet]).map Packet.buf := by simp [released]
      have shift : consumed ++ packet :: following :: rest = consumed ++ [packet] ++ following :: rest := by simp
      have first : consumed ++ [packet] <+: consumed ++ packet :: following :: rest := by
        rw [shift]
        exact List.prefix_append _ _
      obtain ⟨writes, ⟨err, failed, step⟩ | ⟨data, total, step, received⟩ | ⟨next, step, gathered⟩⟩ :=
        gathers.turn (bounded consumed packet first)
      · rw [sfpLogLoop.eq_def, step]
        exact ⟨writes, fun ok => absurd ok failed, fun _ => ⟨rfl, rfl, rfl⟩, _, shift.symm, freed'⟩
      · rw [sfpLogLoop.eq_def, step]
        exact ⟨writes, fun _ => received.result, fun other => absurd rfl other, _, shift.symm, freed'⟩
      · rw [sfpLogLoop.eq_def, step]
        rw [shift] at bounded ⊢
        exact ih gathered bounded freed'

/-! ## Overruns -/

/-- The copies of a turn stay in the history. -/
theorem sfpLogLoop_copies {queue : List Packet} : (history.turn malloc packet state).copies ⊆
    (sfpLogLoop malloc queue packet state freed history).2.copies := by
  induction queue generalizing packet state freed history with
  | nil =>
      rw [sfpLogLoop.eq_def]
      cases sfpStep malloc packet state <;> exact List.Subset.refl _
  | cons next rest ih =>
      rw [sfpLogLoop.eq_def]
      cases sfpStep malloc packet state with
      | fails err => exact List.Subset.refl _
      | completes data datasize => exact List.Subset.refl _
      | continues next' =>
          have later := @ih next next' (freed ++ [packet.buf]) (history.turn malloc packet state)
          exact List.Subset.trans (List.subset_append_left _ _) later

/-- A fragment in its place goes through the checks, unless its end is behind the end of the transfer. -/
theorem sfpStep_inPlace {total : UInt32} {body : Packet} {block : Memory}
    (header : sfpHeaderRemove packet = some (⟨state.dataOffset, total⟩, body))
    (allocated : state.allocate malloc total = some (block, total))
    (fits : state.dataOffset + body.length.toUInt32 ≤ total) :
    sfpCopied malloc packet state = some ⟨state.dataOffset.toNat, body.payload, total, total⟩ ∧
      sfpStep malloc packet state =
        if state.dataOffset + body.length.toUInt32 ≥ total then
          .completes (writeBytes block state.dataOffset.toNat body.payload) total
        else if body.length = 0 then .fails .sfp
        else .continues
          { data := some (writeBytes block state.dataOffset.toNat body.payload)
            datasize := total
            dataOffset := state.dataOffset + body.length.toUInt32 } := by
  simp [sfpCopied, sfpStep, header, allocated, UInt32.not_lt.mpr fits]

/-- The loop comes behind the fragments. -/
theorem sfpLogLoop_reaches {total : UInt32} {offset last : Nat} {before : List Packet}
    (fragments : Fragments total offset before last) (small : offset < 2 ^ 32)
    (place : state.dataOffset = UInt32.ofNat offset)
    (allocated : ∃ block, state.allocate malloc total = some (block, total)) (after : List Packet)
    {first : Packet} {rest : List Packet} (queue : before ++ packet :: after = first :: rest) :
    ∃ state' freed' history', state'.dataOffset = UInt32.ofNat last ∧
      (∃ block, state'.allocate malloc total = some (block, total)) ∧
      sfpLogLoop malloc rest first state freed history = sfpLogLoop malloc after packet state' freed' history' := by
  induction fragments generalizing state freed history first rest with
  | none offset =>
      obtain ⟨rfl, rfl⟩ := List.cons.inj queue
      exact ⟨state, freed, history, place, allocated, rfl⟩
  | @more offset last current body others header some' inside tail ih =>
      obtain ⟨rfl, rfl⟩ := List.cons.inj queue
      obtain ⟨block, allocated⟩ := allocated
      have bound := total.toNat_lt
      have number : (UInt32.ofNat (offset + body.length.toNat)).toNat = offset + body.length.toNat :=
        UInt32.toNat_ofNat_of_lt' (by omega : offset + body.length.toNat < 2 ^ 32)
      have next : state.dataOffset + body.length.toUInt32 = UInt32.ofNat (offset + body.length.toNat) := by
        apply UInt32.toNat_inj.mp
        rw [place, UInt32.toNat_add, UInt32.toNat_ofNat_of_lt' small, UInt16.toNat_toUInt32, number]
        exact Nat.mod_eq_of_lt (by omega)
      have fits : state.dataOffset + body.length.toUInt32 ≤ total := by
        rw [next, UInt32.le_iff_toNat_le, number]
        omega
      have goesOn : ¬state.dataOffset + body.length.toUInt32 ≥ total := by
        rw [next, ge_iff_le, UInt32.le_iff_toNat_le, number]
        omega
      rw [← place] at header
      have step := (sfpStep_inPlace header allocated fits).2
      rw [if_neg goesOn, if_neg some'] at step
      obtain ⟨following, more, split⟩ : ∃ following more, others ++ packet :: after = following :: more := by
        cases others <;> exact ⟨_, _, rfl⟩
      change ∃ state' freed' history', _ ∧ _ ∧
        sfpLogLoop malloc (others ++ packet :: after) current state freed history = _
      rw [split, sfpLogLoop.eq_def, step]
      exact ih (by omega) next ⟨_, rfl⟩ split

/-- An overrun in its turn is not safe. -/
theorem sfpLogLoop_overruns {total : UInt32} {body : Packet} {block : Memory} {packets after : List Packet}
    (header : sfpHeaderRemove packet = some (⟨state.dataOffset, total⟩, body))
    (allocated : state.allocate malloc total = some (block, total))
    (over' : 2 ^ 32 ≤ state.dataOffset.toNat + body.length.toNat ∨
      (state.dataOffset.toNat + body.length.toNat = total.toNat ∧ 2 ^ 31 ≤ total.toNat)) :
    ¬SafeReception packets (sfpLogLoop malloc after packet state freed history).1
      (sfpLogLoop malloc after packet state freed history).2 := by
  intro safe
  have order := UInt32.le_iff_toNat_le.mp (sfpHeaderRemove_le header)
  simp only at order
  have bound := total.toNat_lt
  have width := body.length.toNat_lt
  have next : (state.dataOffset + body.length.toUInt32).toNat =
      (state.dataOffset.toNat + body.length.toNat) % 2 ^ 32 := by
    rw [UInt32.toNat_add, UInt16.toNat_toUInt32]
  rcases over' with wraps | ⟨whole, large⟩
  · have fits : state.dataOffset + body.length.toUInt32 ≤ total := by
      rw [UInt32.le_iff_toNat_le, next]
      omega
    have copied := (sfpStep_inPlace header allocated fits).1
    have member : (⟨state.dataOffset.toNat, body.payload, total, total⟩ : SfpCopy) ∈
        (history.turn malloc packet state).copies := by
      rw [SfpHistory.turn_copies copied]
      exact List.mem_append_right _ (List.mem_singleton_self _)
    have inside := safe.writes _ (sfpLogLoop_copies member)
    rw [Packet.payload_length] at inside
    simp only at inside
    omega
  · have fits : state.dataOffset + body.length.toUInt32 ≤ total := by
      rw [UInt32.le_iff_toNat_le, next, whole]
      exact Nat.mod_le _ _
    have complete : state.dataOffset + body.length.toUInt32 ≥ total := by
      rw [ge_iff_le, UInt32.le_iff_toNat_le, next, whole, Nat.mod_eq_of_lt bound]
    have step := (sfpStep_inPlace header allocated fits).2
    rw [if_pos complete] at step
    have returned := safe.success
    rw [sfpLogLoop.eq_def, step] at returned
    obtain ⟨size, _, _, _, _, _, signed⟩ := returned rfl
    have negative : total.toBitVec.toInt < 0 := by
      rw [BitVec.toInt_neg_iff, UInt32.toNat_toBitVec]
      omega
    simp only at signed
    omega

end Loop

/-- The first packet comes from the caller or from the connection. -/
theorem sfpRecvLog_first (malloc : UInt32 → Option Memory) (queue : List Packet) (firstPacket : Option Packet) :
    sfpRecvLog malloc queue firstPacket = sfpRecvLog malloc (firstPacket.toList ++ queue) none := by
  cases firstPacket <;> rfl

/-- A reception without an overrun is safe. -/
theorem sfpRecvLog_safe {malloc : UInt32 → Option Memory} {packets : List Packet}
    (bounded : NoOverrun malloc packets) :
    SafeReception packets (sfpRecvLog malloc packets none).1 (sfpRecvLog malloc packets none).2 := by
  cases packets with
  | nil =>
      exact ⟨fun copy member => absurd member List.not_mem_nil, (fun ok => by cases ok),
        fun _ => ⟨rfl, rfl, rfl⟩, [], rfl, rfl⟩
  | cons packet rest => exact sfpLogLoop_safe .start bounded rfl

/-- A reception with an overrun is not safe. -/
theorem sfpRecvLog_overruns {malloc : UInt32 → Option Memory} {packets before : List Packet} {packet : Packet}
    (inside : before ++ [packet] <+: packets) (overruns : Overruns malloc before packet) :
    ¬SafeReception packets (sfpRecvLog malloc packets none).1 (sfpRecvLog malloc packets none).2 := by
  obtain ⟨after, rfl⟩ := inside
  rw [List.append_assoc, List.singleton_append]
  obtain ⟨total, offset, body, memory, fragments, header, outside⟩ := overruns
  have small : offset < 2 ^ 32 := fragments.lt (by decide)
  have number : (UInt32.ofNat offset).toNat = offset := UInt32.toNat_ofNat_of_lt' small
  obtain ⟨block, allocated⟩ := Option.ne_none_iff_exists'.mp memory
  obtain ⟨first, rest, split⟩ : ∃ first rest, before ++ packet :: after = first :: rest := by
    cases before <;> exact ⟨_, _, rfl⟩
  have start : ∃ block, SfpState.allocate { data := none, datasize := 0, dataOffset := 0 } malloc total =
      some (block, total) := ⟨block, by rw [SfpState.allocate, allocated]; rfl⟩
  obtain ⟨state, freed, history, place, ⟨block, allocated⟩, reached⟩ :=
    sfpLogLoop_reaches fragments (by decide) rfl start after split
  rw [split]
  change ¬SafeReception _ (sfpLogLoop malloc rest first _ [] ⟨[], none⟩).1
    (sfpLogLoop malloc rest first _ [] ⟨[], none⟩).2
  rw [reached]
  apply sfpLogLoop_overruns (by rw [place]; exact header) allocated
  rw [place, number]
  exact outside

/-- A reception is safe exactly if no fragment overruns. -/
theorem sfpRecvFp_safe_iff (malloc : UInt32 → Option Memory) (queue : List Packet) (firstPacket : Option Packet) :
    SafeReception (firstPacket.toList ++ queue) (sfpRecvFp malloc queue firstPacket)
        (sfpRecvLog malloc queue firstPacket).2 ↔
      NoOverrun malloc (firstPacket.toList ++ queue) := by
  rw [← sfpRecvLog_result, sfpRecvLog_first]
  constructor
  · intro safe before packet inside overruns
    exact sfpRecvLog_overruns inside overruns safe
  · exact sfpRecvLog_safe

/-! ## A transfer that overruns -/

/-- The number-th fragment of 128 bytes of a transfer of 2^32 - 1 bytes. -/
def hugeFragment (number : Nat) : Packet :=
  sfpHeaderAdd { (default : Packet) with id := { (default : CspId) with flags := cspFFrag }, length := 128 }
    { offset := UInt32.ofNat (128 * number), totalsize := 4294967295 }

/-- These fragments are one behind the other. -/
def hugeTransfer (count : Nat) : List Packet := (List.range count).map hugeFragment

theorem hugeFragment_remove (number : Nat) : sfpHeaderRemove (hugeFragment number) =
    some (⟨UInt32.ofNat (128 * number), 4294967295⟩, { hugeFragment number with length := 128 }) := by
  have offset : be32 (hugeFragment number).mem (dataAt + 128) = UInt32.ofNat (128 * number) := be32_putBe32 _ _ _
  have total : be32 (hugeFragment number).mem (dataAt + 128 + 4) = 4294967295 := by
    rw [hugeFragment, sfpHeaderAdd]
    exact (be32_putBe32_other (by decide)).trans (be32_putBe32 _ _ _)
  have flag : (hugeFragment number).id.has cspFFrag = true := by
    change ({ (default : CspId) with flags := cspFFrag } : CspId).has cspFFrag = true
    decide
  have size : (hugeFragment number).length = 136 := rfl
  have long : ¬(hugeFragment number).length < UInt16.ofNat sfpHeaderSize := by
    rw [size]
    decide
  have rest : (hugeFragment number).length - UInt16.ofNat sfpHeaderSize = 128 := by
    rw [size]
    decide
  have ordered : ¬UInt32.ofNat (128 * number) > 4294967295 := by
    rw [gt_iff_lt, UInt32.not_lt, UInt32.le_iff_toNat_le]
    have bound := (UInt32.ofNat (128 * number)).toNat_lt
    change (UInt32.ofNat (128 * number)).toNat ≤ 4294967295
    omega
  have count : (128 : UInt16).toNat = 128 := rfl
  simp only [sfpHeaderRemove, flag, long, rest, count, offset, total, ordered, Bool.not_true, Bool.false_eq_true,
    if_false]

theorem hugeTransfer_succ (count : Nat) : hugeTransfer (count + 1) = hugeTransfer count ++ [hugeFragment count] := by
  rw [hugeTransfer, List.range_succ, List.map_append]
  rfl

theorem hugeTransfer_fragments (count : Nat) (small : 128 * count < 4294967295) :
    Fragments 4294967295 0 (hugeTransfer count) (128 * count) := by
  induction count with
  | zero => exact .none 0
  | succ count ih =>
      rw [hugeTransfer_succ]
      have fits : 128 * count + (128 : UInt16).toNat < (4294967295 : UInt32).toNat := by
        change 128 * count + 128 < 4294967295
        omega
      have some' : (128 : UInt16) ≠ 0 := by decide
      exact (ih (by omega)).concat (hugeFragment_remove count) some' fits

/-- The last of 2^25 fragments writes one byte behind the block. -/
theorem hugeTransfer_unsafe : ¬SafeReception (hugeTransfer 33554432)
    (sfpRecvFp (fun _ => some fun _ => 0) (hugeTransfer 33554432) none)
    (sfpRecvLog (fun _ => some fun _ => 0) (hugeTransfer 33554432) none).2 := by
  have fragments := hugeTransfer_fragments 33554431 (by decide)
  rw [← sfpRecvLog_result]
  rw [hugeTransfer_succ 33554431]
  apply sfpRecvLog_overruns List.prefix_rfl
  exact ⟨4294967295, 128 * 33554431, _, Option.some_ne_none _, fragments, hugeFragment_remove 33554431,
    .inl (by decide)⟩

end Libcsp

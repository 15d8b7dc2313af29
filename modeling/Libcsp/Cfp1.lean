/-
This file says what the functions of CFP 1.x do with the frames of a packet.
-/
import Libcsp.Fragments
import Libcsp.Pbuf

namespace Libcsp

open BitField KeyedList Chunks

variable {cfg : Config} {qfifoLen : Nat}

/-! ## The frames -/

def can1Count (packet : Packet) : Nat := count 2 canFrameSize packet.length.toNat

/-- The CSP header and the length in front of the first data bytes. -/
def can1Header (packet : Packet) : List UInt8 :=
  beBytes 4 (id1Word packet.id) ++ beBytes 2 packet.length.toNat

def can1FrameAt (dest : Nat) (ident : UInt32) (packet : Packet) (index : Nat) : CanFrame where
  id := can1Id packet.id.src.toNat dest ident.toNat (if index = 0 then cfpBegin else cfpMore)
    (can1Count packet - 1 - index)
  data := (if index = 0 then can1Header packet else []) ++ chunk 2 canFrameSize packet.payload index

theorem can1Count_pos (packet : Packet) : 0 < can1Count packet := Nat.le_add_right 1 _

theorem can1Count_eq (packet : Packet) : can1Count packet = (packet.length.toNat + 5) / 8 + 1 := by
  rw [can1Count, count, canFrameSize]
  omega

/-- The remaining bytes after a frame give the number of the remaining frames. -/
theorem can1_remain {packet : Packet} {index : Nat} (counted : index + 1 < can1Count packet) :
    (packet.length.toNat - start 2 canFrameSize (index + 1) -
      min canFrameSize (packet.length.toNat - start 2 canFrameSize (index + 1)) + canFrameSize - 1) /
        canFrameSize = can1Count packet - 1 - (index + 1) := by
  rw [can1Count_eq] at counted ⊢
  simp only [start, canFrameSize]
  omega

theorem can1Frames_eq (version : cfg.version ≠ 2) (dest : Nat) (ident : UInt32) (packet : Packet) :
    can1Frames cfg dest ident packet =
      (List.range (can1Count packet)).map (can1FrameAt dest ident packet) := by
  have prepended : idPrepend cfg packet = prependHeader id1HeaderSize (id1Word packet.id) packet := by
    rw [idPrepend, if_neg version, id1Prepend]
  have payload : (idPrepend cfg packet).packet.payload = packet.payload := by
    rw [prepended, prependHeader_payload _ _ (by decide)]
  have length : (idPrepend cfg packet).packet.length = packet.length := Packet.length_of_payload payload
  have header : (idPrepend cfg packet).take 4 = beBytes 4 (id1Word packet.id) := by
    have written := writeBytes_map packet.mem (dataAt - id1HeaderSize)
      (beBytes id1HeaderSize (id1Word packet.id))
    rw [beBytes_length] at written
    rw [prepended]
    exact written
  have first : (if packet.length.toNat ≤ 2 then packet.length.toNat else 2) =
      min packet.length.toNat 2 := by
    split <;> omega
  have data : (idPrepend cfg packet).packet.dataBytes (min packet.length.toNat 2) =
      chunk 2 canFrameSize packet.payload 0 := by
    rw [Packet.dataBytes_take _ (by rw [length]; omega), payload, chunk, List.take_eq_take_iff,
      Packet.payload_length]
    omega
  have split : can1Count packet = (count 2 canFrameSize packet.length.toNat - 1 - 0) + 1 := by
    have := can1Count_pos packet
    rw [can1Count] at this ⊢
    omega
  have enough : count 2 canFrameSize (idPrepend cfg packet).packet.length.toNat - 1 - 0 ≤
      packet.length.toNat := by
    rw [length]
    simp only [count, canFrameSize]
    omega
  have next := canNextFrames_eq (fun txCount dataBytes _ => can1Id packet.id.src.toNat dest ident.toNat
    cfpMore ((packet.length.toNat - txCount - dataBytes + canFrameSize - 1) / canFrameSize))
    (idPrepend cfg packet).packet 2 enough 0
  rw [length, payload, show start 2 canFrameSize (0 + 1) = 2 from rfl] at next
  have begins : (packet.length.toNat + 6 - 1) / canFrameSize = can1Count packet - 1 - 0 := by
    rw [can1Count_eq, canFrameSize]
    omega
  simp only [can1Frames, first, next, header, data]
  rw [split, List.range_succ_eq_map, List.map_cons, List.map_map, List.cons.injEq, begins]
  refine ⟨rfl, List.map_congr_left ?_⟩
  intro index inside
  have counted : index + 1 < can1Count packet := by
    have := List.mem_range.mp inside
    omega
  rw [Function.comp_apply, Nat.succ_eq_add_one, Nat.zero_add, can1_remain counted, can1FrameAt,
    if_neg (Nat.succ_ne_zero index), if_neg (Nat.succ_ne_zero index), List.nil_append]

/-! ## The identifier -/

theorem makeField_eq (value size offset : Nat) :
    makeField value size offset = (value % 2 ^ size) <<< offset := by
  rw [makeField, Nat.and_two_pow_sub_one_eq_mod]

/-- The fields that every frame of a packet has. -/
def can1Key (dest : Nat) (ident : UInt32) (packet : Packet) : Nat :=
  cfpMakeSrc packet.id.src.toNat ||| cfpMakeDst dest ||| cfpMakeId ident.toNat

theorem can1Key_eq (dest : Nat) (ident : UInt32) (packet : Packet) :
    can1Key dest ident packet = (packet.id.src.toNat % 2 ^ 5) <<< 24 ||| (dest % 2 ^ 5) <<< 19 |||
      (ident.toNat % 2 ^ 10) <<< 0 := by
  simp only [can1Key, cfpMakeSrc, cfpMakeDst, cfpMakeId, makeField_eq]

theorem can1Key_fields (dest : Nat) (ident : UInt32) (packet : Packet) :
    field (can1Key dest ident packet) 24 5 = packet.id.src.toNat % 2 ^ 5 ∧
      field (can1Key dest ident packet) 19 5 = dest % 2 ^ 5 ∧
      field (can1Key dest ident packet) 0 10 = ident.toNat % 2 ^ 10 := by
  rw [can1Key_eq]
  refine ⟨?_, ?_, ?_⟩ <;>
    simp (disch := omega) only [field_or, field_same, field_below, field_above, Nat.or_zero, Nat.zero_or]

/-- The keys of two packets agree when the masked fields do. -/
theorem can1Key_inj {first second : Packet} {firstDest secondDest : Nat}
    {firstIdent secondIdent : UInt32} :
    can1Key firstDest firstIdent first = can1Key secondDest secondIdent second ↔
      first.id.src.toNat % 2 ^ 5 = second.id.src.toNat % 2 ^ 5 ∧
        firstDest % 2 ^ 5 = secondDest % 2 ^ 5 ∧
        firstIdent.toNat % 2 ^ 10 = secondIdent.toNat % 2 ^ 10 := by
  obtain ⟨src, dst, ident⟩ := can1Key_fields firstDest firstIdent first
  obtain ⟨src', dst', ident'⟩ := can1Key_fields secondDest secondIdent second
  constructor
  · intro same
    rw [← src, ← dst, ← ident, same, src', dst', ident']
    exact ⟨rfl, rfl, rfl⟩
  · rintro ⟨sameSrc, sameDst, sameIdent⟩
    rw [can1Key_eq, can1Key_eq, sameSrc, sameDst, sameIdent]

/-- The identifier of a frame is the key and two fields that the mask leaves out. -/
theorem can1FrameAt_id (dest : Nat) (ident : UInt32) (packet : Packet) (index : Nat) :
    (can1FrameAt dest ident packet index).id = can1Key dest ident packet |||
      (if index = 0 then 0 else 1) <<< 18 ||| ((can1Count packet - 1 - index) % 2 ^ 8) <<< 10 := by
  have type : cfpMakeType (if index = 0 then cfpBegin else cfpMore) =
      (if index = 0 then 0 else 1) <<< 18 := by
    split <;> rfl
  rw [can1FrameAt, can1Id, type, cfpMakeRemain, makeField_eq]
  rfl

theorem and_cfpIdConnMask (id : Nat) :
    id &&& cfpIdConnMask = field id 24 5 <<< 24 ||| field id 19 5 <<< 19 ||| field id 0 10 <<< 0 := by
  rw [show cfpIdConnMask = (2 ^ 5 - 1) <<< 24 ||| (2 ^ 5 - 1) <<< 19 ||| (2 ^ 10 - 1) <<< 0 from rfl,
    Nat.and_or_distrib_left, Nat.and_or_distrib_left, and_mask, and_mask, and_mask]

section Fields

variable (dest : Nat) (ident : UInt32) (packet : Packet) (index : Nat)

theorem can1FrameAt_key :
    (can1FrameAt dest ident packet index).id &&& cfpIdConnMask = can1Key dest ident packet := by
  obtain ⟨src, dst, number⟩ := can1Key_fields dest ident packet
  have small : (can1Count packet - 1 - index) % 2 ^ 8 < 2 ^ 8 := Nat.mod_lt _ (by decide)
  have type : ∀ offset size, offset + size ≤ 18 ∨ 19 ≤ offset →
      field ((if index = 0 then 0 else 1) <<< 18) offset size = 0 := by
    intro offset size outside
    rcases outside with above | below
    · exact field_below above
    · apply field_above
      have small : (if index = 0 then 0 else 1) * 2 ^ 18 < 2 ^ 19 := by split <;> decide
      exact small.trans_le (Nat.pow_le_pow_right (by decide) below)
  rw [and_cfpIdConnMask, can1FrameAt_id]
  simp (disch := omega) only [field_or, src, dst, number, type, field_below, field_above, Nat.or_zero]
  rw [can1Key_eq]

theorem can1FrameAt_type :
    cfpType (can1FrameAt dest ident packet index).id = if index = 0 then cfpBegin else cfpMore := by
  have small : (can1Count packet - 1 - index) % 2 ^ 8 < 2 ^ 8 := Nat.mod_lt _ (by decide)
  rw [cfpType, can1FrameAt_id, can1Key_eq]
  by_cases first : index = 0
  all_goals
    simp (disch := omega) only [first, if_true, if_false, field_or, field_same, field_below, field_above,
      Nat.or_zero, Nat.zero_or]
    rfl

theorem can1FrameAt_remain : cfpRemain (can1FrameAt dest ident packet index).id =
    (can1Count packet - 1 - index) % 2 ^ 8 := by
  have small : (can1Count packet - 1 - index) % 2 ^ 8 < 2 ^ 8 := Nat.mod_lt _ (by decide)
  rw [cfpRemain, can1FrameAt_id, can1Key_eq]
  simp (disch := omega) only [field_or, field_same, field_below, field_above, Nat.or_zero, Nat.zero_or]

end Fields

/-! ## The content of a partial packet -/

variable {key : Nat} {can bound : Can cfg qfifoLen} {pbuf : Pbuf}

/-- The partial packet has the header of the packet, these data bytes and this many frames. -/
structure Pbuf.Holds1 (pbuf : Pbuf) (packet : Packet) (bytes : List UInt8) (frames : Nat) : Prop where
  id : pbuf.frame.packet.id = packet.id
  length : pbuf.frame.packet.length = packet.length
  rxCount : pbuf.rxCount.toNat = bytes.length
  bytes : pbuf.frame.packet.dataBytes bytes.length = bytes
  remain : pbuf.remain.toNat + frames = (can1Count packet - 1) % 2 ^ 8 + 1

/-- A frame with the expected number completes the packet or continues it. -/
theorem can1More_steps (binds : can.Binds cfpIdConnMask key bound pbuf) {pbuf' : Pbuf}
    (same : pbuf'.key cfpIdConnMask = pbuf.key cfpIdConnMask) {packet : Packet} {bytes : List UInt8}
    {frames : Nat} (holds : pbuf'.Holds1 packet bytes frames) (id : Nat) (data : List UInt8)
    (room : (bytes ++ data).length ≤ packet.length.toNat) :
    (cfpRemain id + frames ≠ (can1Count packet - 1) % 2 ^ 8 ∧
        can.Steps cfpIdConnMask key (can1More bound pbuf' id data) none []) ∨
      (cfpRemain id + frames = (can1Count packet - 1) % 2 ^ 8 ∧
        (bytes ++ data).length = packet.length.toNat ∧
        ∃ received, received.id = packet.id ∧ received.payload = bytes ++ data ∧
          can.Steps cfpIdConnMask key (can1More bound pbuf' id data) none [received]) ∨
      (cfpRemain id + frames = (can1Count packet - 1) % 2 ^ 8 ∧
        (bytes ++ data).length < packet.length.toNat ∧
        ∃ kept, kept.Holds1 packet (bytes ++ data) (frames + 1) ∧ kept.lastUsed = pbuf'.lastUsed ∧
          can.Steps cfpIdConnMask key (can1More bound pbuf' id data) (some kept) []) := by
  obtain ⟨sameId, sameLength, rxCount, written, remain⟩ := holds
  rw [List.length_append] at room
  have limit := packet.length.toNat_lt
  rw [can1More]
  by_cases expected : cfpRemain id + 1 = pbuf'.remain.toNat
  · have number : cfpRemain id + frames = (can1Count packet - 1) % 2 ^ 8 := by omega
    have fits : ¬pbuf'.rxCount.toNat + data.length > packet.length.toNat := by
      rw [rxCount]
      omega
    have counted : (pbuf'.rxCount + UInt16.ofNat data.length).toNat = (bytes ++ data).length := by
      rw [UInt16.toNat_add, toNat_ofNat16 (by omega), rxCount, Nat.mod_eq_of_lt (by omega),
        List.length_append]
    have appended : ({ pbuf'.frame.packet with
        mem := writeBytes pbuf'.frame.packet.mem (dataAt + pbuf'.rxCount.toNat) data } : Packet).dataBytes
          (bytes ++ data).length = bytes ++ data := by
      rw [List.length_append, ← rxCount, dataBytes_append, rxCount, written]
    rw [if_neg (not_not_intro expected)]
    simp only [sameLength, if_neg fits]
    by_cases complete : pbuf'.rxCount + UInt16.ofNat data.length = packet.length
    · right; left
      rw [complete] at counted
      rw [if_neg (not_not_intro complete)]
      refine ⟨number, counted.symm, _, ?_, ?_, binds.deliver ?_ _⟩
      · exact sameId
      · rw [← appended, ← counted]
        rfl
      · exact same
    · right; right
      have short : (bytes ++ data).length < packet.length.toNat := by
        have differs := mt UInt16.toNat_inj.mp complete
        rw [counted] at differs
        rw [List.length_append] at differs ⊢
        omega
      have one : (1 : UInt16) ≤ pbuf'.remain := by
        rw [UInt16.le_iff_toNat_le, ← expected]
        exact Nat.le_add_left 1 _
      have next : (pbuf'.remain - 1).toNat = pbuf'.remain.toNat - 1 := UInt16.toNat_sub_of_le _ _ one
      rw [if_pos complete]
      refine ⟨number, short, _, ⟨?_, ?_, ?_, ?_, ?_⟩, ?_, binds.store ?_⟩
      · exact sameId
      · rfl
      · exact counted
      · exact appended
      · rw [next]
        omega
      · rfl
      · exact same
  · left
    rw [if_pos expected]
    obtain ⟨setup, handed, own, others, distinct⟩ := binds.free same
    exact ⟨by omega, ⟨setup.addr, setup.mtu⟩, handed, own, others, distinct⟩

/-! ## The frames of one packet -/

section Frames

variable {dest : Nat} {ident : UInt32} {packet : Packet} {now : UInt32}

/-- A frame that fits delivers the packet or keeps the partial packet with these bytes and this many
frames. -/
inductive Can1Outcome (can after : Can cfg qfifoLen) (key : Nat) (packet : Packet) (bytes : List UInt8)
    (frames : Nat) (now : UInt32) : Prop
  | delivered (complete : bytes.length = packet.length.toNat) (received : Packet)
      (sameId : received.id = packet.id) (payload : received.payload = bytes)
      (steps : can.Steps cfpIdConnMask key after none [received])
  | kept (short : bytes.length < packet.length.toNat) (pbuf : Pbuf)
      (holds : pbuf.Holds1 packet bytes frames) (used : pbuf.lastUsed = now)
      (steps : can.Steps cfpIdConnMask key after (some pbuf) [])

theorem can1FrameAt_data_zero : (can1FrameAt dest ident packet 0).data =
    beBytes 4 (id1Word packet.id) ++ (beBytes 2 packet.length.toNat ++
      chunk 2 canFrameSize packet.payload 0) := by
  simp only [can1FrameAt, if_true, can1Header, List.append_assoc]

theorem can1FrameAt_first :
    (can1FrameAt dest ident packet 0).data.take 4 = beBytes 4 (id1Word packet.id) ∧
      ((can1FrameAt dest ident packet 0).data.drop 4).take 2 = beBytes 2 packet.length.toNat ∧
      (can1FrameAt dest ident packet 0).data.drop 6 = chunk 2 canFrameSize packet.payload 0 := by
  have data := @can1FrameAt_data_zero dest ident packet
  have rest : (can1FrameAt dest ident packet 0).data.drop 4 =
      beBytes 2 packet.length.toNat ++ chunk 2 canFrameSize packet.payload 0 := by
    rw [data]
    exact List.drop_left' (beBytes_length _ _)
  refine ⟨?_, ?_, ?_⟩
  · rw [data]
    exact List.take_left' (beBytes_length _ _)
  · rw [rest]
    exact List.take_left' (beBytes_length _ _)
  · rw [show 6 = 4 + 2 from rfl, ← List.drop_drop, rest]
    exact List.drop_left' (beBytes_length _ _)

/-- A BEGIN frame starts a partial packet over. -/
theorem can1Begin_holds {senderCfg : Config} (version : senderCfg.version ≠ 2)
    (fits : packet.id.Fits senderCfg) (pbuf : Pbuf) :
    (can1Begin pbuf (can1FrameAt dest ident packet 0)).Holds1 packet [] 0 := by
  obtain ⟨front, length, _⟩ := @can1FrameAt_first dest ident packet
  have bytes := Frame.take_write (id1SetupRx pbuf.frame.packet) 0 (beBytes 4 (id1Word packet.id))
  rw [beBytes_length] at bytes
  obtain ⟨stripped, strips, fields, _⟩ := @stripHeader_of_bytes id1HeaderSize id1Fields
    { (id1SetupRx pbuf.frame.packet).write 0 (beBytes 4 (id1Word packet.id)) with frameLength := 4 }
    (beBytes 4 (id1Word packet.id)) [] (by decide) rfl (by rw [List.append_nil]; exact bytes)
    (beBytes_length _ _)
  have id : stripped.id = packet.id := by
    rw [fields]
    show id1Fields (beValue (beBytes id1HeaderSize (id1Word packet.id))) = packet.id
    rw [beValue_beBytes]
    exact id1Fields_word fits version
  have strips' : id1Strip { (id1SetupRx pbuf.frame.packet).write 0 (beBytes 4 (id1Word packet.id)) with
      frameLength := 4 } = some stripped := strips
  have small := Nat.mod_lt (can1Count packet - 1) (show 0 < 2 ^ 8 by decide)
  simp only [can1Begin, front, length, strips', Option.getD_some, can1FrameAt_remain, Nat.sub_zero]
  have back : UInt16.ofNat (beValue (beBytes 2 packet.length.toNat)) = packet.length := by
    have size : packet.length.toNat < 256 ^ 2 := by
      have := packet.length.toNat_lt
      omega
    rw [beValue_beBytes, Nat.mod_eq_of_lt size, UInt16.ofNat_toNat]
  refine ⟨id, back, rfl, rfl, ?_⟩
  · rw [toNat_ofNat16 (by omega), Nat.add_zero]

theorem can1Rx_begin {senderCfg : Config} (version : senderCfg.version ≠ 2)
    (fits : packet.id.Fits senderCfg) (small : packet.length ≤ can.link.mtu) (now : UInt32)
    (distinct : Distinct (Pbuf.key cfpIdConnMask) can.pbufs)
    (room : can.partialPacket cfpIdConnMask (can1Key dest ident packet) = none →
      can.Timely now ∧ 0 < can.link.pool.remaining) :
    Can1Outcome can (can1Rx can (can1FrameAt dest ident packet 0) now).2 (can1Key dest ident packet)
      packet (chunk 2 canFrameSize packet.payload 0) 1 now := by
  have type : cfpType (can1FrameAt dest ident packet 0).id = cfpBegin :=
    can1FrameAt_type dest ident packet 0
  have key := can1FrameAt_key dest ident packet 0
  obtain ⟨_, _, rest⟩ := @can1FrameAt_first dest ident packet
  obtain ⟨pbuf, bound, binds, binding, used, _⟩ :=
    @canBind_ok cfg qfifoLen cfpIdConnMask can (can1FrameAt dest ident packet 0).id true now
      distinct (fun absent => ⟨rfl, room (by rw [← key]; exact absent)⟩)
  have holds := @can1Begin_holds dest ident packet senderCfg version fits pbuf
  have long : ¬(can1FrameAt dest ident packet 0).data.length < 6 := by
    rw [can1FrameAt_data_zero, List.length_append, List.length_append, beBytes_length, beBytes_length]
    omega
  obtain ⟨_, setup, _⟩ := binding.steps
  have inside : ¬(can1Begin pbuf (can1FrameAt dest ident packet 0)).frame.packet.length >
      bound.countFrame.link.mtu := by
    rw [holds.length, show bound.countFrame.link.mtu = can.link.mtu from setup.mtu]
    exact UInt16.not_lt.mpr small
  have step : (can1Rx can (can1FrameAt dest ident packet 0) now).2 =
      can1More bound.countFrame (can1Begin pbuf (can1FrameAt dest ident packet 0))
        (can1FrameAt dest ident packet 0).id (chunk 2 canFrameSize packet.payload 0) := by
    simp only [can1Rx, type, beq_self_eq_true, binds, if_true, if_neg long, if_neg inside, rest]
  have bounded : ([] ++ chunk 2 canFrameSize packet.payload 0).length ≤ packet.length.toNat := by
    rw [← Packet.payload_length]
    exact List.length_take_le' _ _
  have remain := can1FrameAt_remain dest ident packet 0
  have kept := can1Begin_cfpid pbuf (can1FrameAt dest ident packet 0)
  have place : (can1Begin pbuf (can1FrameAt dest ident packet 0)).key cfpIdConnMask =
      pbuf.key cfpIdConnMask := by rw [Pbuf.key, kept.1, Pbuf.key]
  rw [key] at binding
  rw [step]
  rcases can1More_steps binding.countFrame place holds (can1FrameAt dest ident packet 0).id _ bounded with
    ⟨gap, _⟩ | ⟨_, complete, received, sameId, payload, steps⟩ | ⟨_, short, pbuf', holds', used', steps⟩
  · rw [remain, Nat.sub_zero, Nat.add_zero] at gap
    exact absurd rfl gap
  · exact .delivered complete received sameId payload steps
  · exact .kept short pbuf' holds' (used'.trans (kept.2.trans used)) steps

/-- A later frame without a partial packet is ignored. -/
theorem can1Rx_missed {index : Nat} (later : index ≠ 0)
    (distinct : Distinct (Pbuf.key cfpIdConnMask) can.pbufs)
    (absent : can.partialPacket cfpIdConnMask (can1Key dest ident packet) = none) :
    can.Steps cfpIdConnMask (can1Key dest ident packet)
      (can1Rx can (can1FrameAt dest ident packet index) now).2 none [] := by
  have type := can1FrameAt_type dest ident packet index
  rw [if_neg later] at type
  have missing := absent
  rw [← can1FrameAt_key dest ident packet index, Can.partialPacket] at missing
  have flag : (cfpMore == cfpBegin) = false := rfl
  have step : (can1Rx can (can1FrameAt dest ident packet index) now).2 = can.countFrame := by
    simp only [can1Rx, canBind, pbufFind, type, flag, missing, Option.map_none, Bool.false_eq_true,
      if_false]
  rw [step]
  exact ⟨⟨rfl, rfl⟩, (List.append_nil _).symm, absent, fun _ _ => rfl, distinct⟩

/-- A later frame has the expected number or drops the partial packet. -/
theorem can1Rx_next (now : UInt32) {index : Nat} (later : index ≠ 0)
    (distinct : Distinct (Pbuf.key cfpIdConnMask) can.pbufs) {old : Pbuf}
    (found : can.partialPacket cfpIdConnMask (can1Key dest ident packet) = some old)
    {bytes : List UInt8} {frames : Nat} (holds : old.Holds1 packet bytes frames)
    (room : (bytes ++ chunk 2 canFrameSize packet.payload index).length ≤ packet.length.toNat) :
    ((can1Count packet - 1 - index) % 2 ^ 8 + frames ≠ (can1Count packet - 1) % 2 ^ 8 ∧
        can.Steps cfpIdConnMask (can1Key dest ident packet)
          (can1Rx can (can1FrameAt dest ident packet index) now).2 none []) ∨
      ((can1Count packet - 1 - index) % 2 ^ 8 + frames = (can1Count packet - 1) % 2 ^ 8 ∧
        Can1Outcome can (can1Rx can (can1FrameAt dest ident packet index) now).2
          (can1Key dest ident packet) packet (bytes ++ chunk 2 canFrameSize packet.payload index)
          (frames + 1) now) := by
  have type := can1FrameAt_type dest ident packet index
  rw [if_neg later] at type
  have key := can1FrameAt_key dest ident packet index
  have remain := can1FrameAt_remain dest ident packet index
  have flag : (cfpMore == cfpBegin) = false := rfl
  obtain ⟨pbuf, bound, binds, binding, used, same⟩ :=
    @canBind_ok cfg qfifoLen cfpIdConnMask can (can1FrameAt dest ident packet index).id false now
      distinct (fun absent => by rw [key, found] at absent; cases absent)
  have pbufIs := same old (by rw [key]; exact found)
  have holds' : pbuf.Holds1 packet bytes frames := by
    rw [pbufIs]
    exact ⟨holds.id, holds.length, holds.rxCount, holds.bytes, holds.remain⟩
  have data : (can1FrameAt dest ident packet index).data = chunk 2 canFrameSize packet.payload index := by
    simp only [can1FrameAt, if_neg later, List.nil_append]
  have more : ¬cfpMore = cfpBegin := by decide
  have step : (can1Rx can (can1FrameAt dest ident packet index) now).2 =
      can1More bound pbuf (can1FrameAt dest ident packet index).id
        (chunk 2 canFrameSize packet.payload index) := by
    simp only [can1Rx, type, flag, binds, data, if_neg more]
  rw [key] at binding
  have steps := can1More_steps binding rfl holds' (can1FrameAt dest ident packet index).id _ room
  rw [remain] at steps
  rw [step]
  rcases steps with
    ⟨gap, steps⟩ | ⟨expected, complete, received, sameId, payload, steps⟩ |
    ⟨expected, short, kept, keptHolds, used', steps⟩
  · exact .inl ⟨gap, steps⟩
  · exact .inr ⟨expected, .delivered complete received sameId payload steps⟩
  · exact .inr ⟨expected, .kept short kept keptHolds (used'.trans used) steps⟩

end Frames

end Libcsp

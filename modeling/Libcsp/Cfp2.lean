/-
This file says what csp_can2_rx does with one frame of a packet.
-/
import Libcsp.Fragments
import Libcsp.Pbuf

namespace Libcsp

open BitField KeyedList Chunks

variable {cfg : Config} {qfifoLen : Nat}

variable {key : Nat} {can bound : Can cfg qfifoLen} {pbuf : Pbuf}

/-! ## The content of a partial packet -/

/-- The identifier as the receiver hands it over. -/
def CspId.across (addr : UInt16) (id : CspId) : CspId :=
  if id.cut2.dst = 0x3FFF then { id.cut2 with dst := addr } else id.cut2

/-- The partial packet has the header of the identifier, these data bytes and this many frames. -/
structure Pbuf.Holds2 (pbuf : Pbuf) (id : CspId) (bytes : List UInt8) (frames : Nat) : Prop where
  begins : pbuf.frame.frameBegin = dataAt - id2HeaderSize
  bytes : pbuf.frame.bytes = can2Header id ++ bytes
  frames : pbuf.rxCount.toNat = frames % 2 ^ 3

theorem can2Header_length (id : CspId) : (can2Header id).length = 6 := beBytes_length _ _

theorem Pbuf.Holds2.length {id : CspId} {bytes : List UInt8} {frames : Nat}
    (holds : pbuf.Holds2 id bytes frames) : pbuf.frame.frameLength.toNat = 6 + bytes.length := by
  rw [← Frame.bytes_length, holds.bytes, List.length_append, can2Header_length]

theorem Pbuf.Holds2.append {id : CspId} {bytes : List UInt8} {frames : Nat}
    (holds : pbuf.Holds2 id bytes frames) {data : List UInt8}
    (room : 6 + bytes.length + data.length < 2 ^ 16) :
    (pbuf.append data).Holds2 id (bytes ++ data) frames where
  begins := holds.begins
  bytes := by
    have length : (pbuf.append data).frame.frameLength.toNat =
        pbuf.frame.frameLength.toNat + data.length := by
      rw [Pbuf.append, UInt16.toNat_add, toNat_ofNat16 (by omega), holds.length,
        Nat.mod_eq_of_lt (by omega)]
    rw [Frame.bytes, length, ← List.append_assoc, ← holds.bytes]
    exact Frame.take_write _ _ _
  frames := holds.frames

/-- A complete packet has the identifier of the header and the data bytes as payload. -/
theorem Pbuf.Holds2.packet {id : CspId} {bytes : List UInt8} {frames : Nat}
    (holds : pbuf.Holds2 id bytes frames) (addr : UInt16) :
    (can2Packet addr pbuf.frame).id = id.across addr ∧
      (can2Packet addr pbuf.frame).payload = bytes := by
  obtain ⟨packet, strips, fields, payload⟩ :=
    @stripHeader_of_bytes id2HeaderSize id2Fields pbuf.frame (can2Header id) bytes (by decide)
      holds.begins holds.bytes (can2Header_length id)
  have cut : packet.id = id.cut2 := by
    rw [fields]
    exact can2Header_fields id
  have stripped : id2Strip pbuf.frame = some packet := strips
  rw [can2Packet, stripped, Option.getD_some, can2Rewrite, CspId.across, cut]
  split
  · exact ⟨rfl, payload⟩
  · exact ⟨cut, payload⟩

/-- A BEGIN frame starts a partial packet over. -/
theorem can2Begin_holds (pbuf : Pbuf) (addr : UInt16) (senderCount : UInt32) (packet : Packet) :
    (can2Begin pbuf (can2FrameAt addr senderCount packet 0)).Holds2 packet.id [] 1 where
  begins := rfl
  bytes := by
    have front : (can2FrameAt addr senderCount packet 0).data.take 4 =
        beBytes 4 (cfp2HeaderExtension packet.id) :=
      List.take_left' (beBytes_length _ _)
    have last := Frame.take_write ((id2SetupRx pbuf.frame.packet).write 0
      (beBytes 2 ((can2FrameAt addr senderCount packet 0).id >>> 13))) 2
      (beBytes 4 (cfp2HeaderExtension packet.id))
    have first := Frame.take_write (id2SetupRx pbuf.frame.packet) 0
      (beBytes 2 ((can2FrameAt addr senderCount packet 0).id >>> 13))
    rw [beBytes_length] at last first
    rw [List.append_nil, ← can2FrameAt_header addr senderCount packet, can2Begin, front]
    exact last.trans (congrArg (· ++ _) first)
  frames := rfl

/-- The end of csp_can2_rx drops the packet, delivers it or keeps it. -/
theorem can2Append_steps {pbuf' : Pbuf} (binds : can.Binds cfp2IdConnMask key bound pbuf)
    (same : pbuf'.key cfp2IdConnMask = pbuf.key cfp2IdConnMask) {id : CspId} {bytes : List UInt8}
    {frames : Nat} (holds : pbuf'.Holds2 id bytes frames) (word : Nat) (data : List UInt8) :
    (can.link.mtu.toNat < 6 + (bytes ++ data).length ∧
        can.Steps cfp2IdConnMask key (can2Append bound pbuf' word data).2 none []) ∨
      (6 + (bytes ++ data).length ≤ can.link.mtu.toNat ∧ word &&& cfp2End ≠ 0 ∧
        ∃ received, received.id = id.across can.link.addr ∧ received.payload = bytes ++ data ∧
          can.Steps cfp2IdConnMask key (can2Append bound pbuf' word data).2 none [received]) ∨
      (6 + (bytes ++ data).length ≤ can.link.mtu.toNat ∧ word &&& cfp2End = 0 ∧
        ∃ kept, kept.Holds2 id (bytes ++ data) frames ∧ kept.lastUsed = pbuf'.lastUsed ∧
          can.Steps cfp2IdConnMask key (can2Append bound pbuf' word data).2 (some kept) []) := by
  obtain ⟨_, setup, _⟩ := binds.steps
  have limit := can.link.mtu.toNat_lt
  rw [can2Append, holds.length, setup.mtu, List.length_append]
  split
  · rename_i large
    obtain ⟨setup', handed, own, others, distinct⟩ := binds.free same
    exact .inl ⟨by omega, ⟨setup'.addr, setup'.mtu⟩, handed, own, others, distinct⟩
  · rename_i small
    have appended : (pbuf'.append data).Holds2 id (bytes ++ data) frames := holds.append (by omega)
    have place : (pbuf'.append data).key cfp2IdConnMask = pbuf.key cfp2IdConnMask := same
    by_cases ends : word &&& cfp2End = 0
    · right; right
      rw [if_neg (not_not_intro ends)]
      exact ⟨by omega, ends, _, appended, rfl, binds.store place⟩
    · right; left
      obtain ⟨id', payload⟩ := appended.packet bound.link.addr
      rw [if_pos ends]
      rw [setup.addr] at id' payload
      exact ⟨by omega, ends, _, id', payload, by rw [setup.addr]; exact binds.deliver place _⟩

/-! ## The frames of one packet -/

section Frames

variable {addr : UInt16} {senderCount : UInt32} {packet : Packet} {now : UInt32}

/-- What a frame of the packet does to a partial packet with these bytes and this many frames. -/
inductive Can2Outcome (can after : Can cfg qfifoLen) (key : Nat) (id : CspId) (bytes : List UInt8)
    (frames : Nat) (last : Prop) (now : UInt32) : Prop
  | dropped (large : can.link.mtu.toNat < 6 + bytes.length)
      (steps : can.Steps cfp2IdConnMask key after none [])
  | delivered (small : 6 + bytes.length ≤ can.link.mtu.toNat) (ends : last) (received : Packet)
      (sameId : received.id = id.across can.link.addr) (payload : received.payload = bytes)
      (steps : can.Steps cfp2IdConnMask key after none [received])
  | kept (small : 6 + bytes.length ≤ can.link.mtu.toNat) (more : ¬last) (pbuf : Pbuf)
      (holds : pbuf.Holds2 id bytes frames) (used : pbuf.lastUsed = now)
      (steps : can.Steps cfp2IdConnMask key after (some pbuf) [])

theorem can2Append_outcome {pbuf' : Pbuf} (binds : can.Binds cfp2IdConnMask key bound pbuf)
    {bytes : List UInt8} {frames : Nat} (holds : pbuf'.Holds2 packet.id bytes frames)
    (same : pbuf'.key cfp2IdConnMask = pbuf.key cfp2IdConnMask) (used : pbuf'.lastUsed = now)
    (index : Nat) (data : List UInt8) :
    Can2Outcome can (can2Append bound pbuf' (can2FrameAt addr senderCount packet index).id data).2 key
      packet.id (bytes ++ data) frames (index + 1 = can2Count packet) now := by
  have ends := can2FrameAt_ends addr senderCount packet index
  rcases can2Append_steps binds same holds (can2FrameAt addr senderCount packet index).id data with
    ⟨large, steps⟩ | ⟨small, last, received, sameId, payload, steps⟩ |
    ⟨small, more, kept, holds', used', steps⟩
  · exact .dropped large steps
  · exact .delivered small (ends.mp last) received sameId payload steps
  · exact .kept small (fun last => ends.mpr last more) kept holds' (used'.trans used) steps

theorem can2Rx_begin (now : UInt32) (distinct : Distinct (Pbuf.key cfp2IdConnMask) can.pbufs)
    (room : can.partialPacket cfp2IdConnMask (cfp2ConnId packet.id addr senderCount) = none →
      can.Timely now ∧ 0 < can.link.pool.remaining) :
    Can2Outcome can (can2Rx can (can2FrameAt addr senderCount packet 0) now).2
      (cfp2ConnId packet.id addr senderCount) packet.id (chunk 4 canFrameSize packet.payload 0) 1
      (0 + 1 = can2Count packet) now := by
  have begins := (can2FrameAt_begins addr senderCount packet 0).mpr rfl
  have key := can2FrameAt_key addr senderCount packet 0
  have flag : ((can2FrameAt addr senderCount packet 0).id &&& cfp2Begin != 0) = true := by
    simpa using begins
  obtain ⟨pbuf, bound, binds, holds, used, _⟩ :=
    @canBind_ok cfg qfifoLen cfp2IdConnMask can (can2FrameAt addr senderCount packet 0).id true now
      distinct (fun absent => ⟨rfl, room (by rw [← key]; exact absent)⟩)
  have long : ¬(can2FrameAt addr senderCount packet 0).data.length < 4 := by
    rw [can2FrameAt, if_pos rfl, List.length_append, beBytes_length]
    omega
  have rest : (can2FrameAt addr senderCount packet 0).data.drop 4 =
      chunk 4 canFrameSize packet.payload 0 :=
    List.drop_left' (beBytes_length _ _)
  have step : (can2Rx can (can2FrameAt addr senderCount packet 0) now).2 =
      (can2Append bound.countFrame (can2Begin pbuf (can2FrameAt addr senderCount packet 0))
        (can2FrameAt addr senderCount packet 0).id (chunk 4 canFrameSize packet.payload 0)).2 := by
    simp only [can2Rx, flag, binds, if_pos begins, if_neg long, rest]
  rw [key] at holds
  rw [step]
  exact can2Append_outcome holds.countFrame (can2Begin_holds pbuf addr senderCount packet) rfl used 0 _

/-- A BEGIN frame without a free buffer is ignored. -/
theorem can2Rx_full (distinct : Distinct (Pbuf.key cfp2IdConnMask) can.pbufs) (timely : can.Timely now)
    (absent : can.partialPacket cfp2IdConnMask (cfp2ConnId packet.id addr senderCount) = none)
    (full : can.link.pool.remaining = 0) :
    can.Steps cfp2IdConnMask (cfp2ConnId packet.id addr senderCount)
      (can2Rx can (can2FrameAt addr senderCount packet 0) now).2 none [] := by
  have begins := (can2FrameAt_begins addr senderCount packet 0).mpr rfl
  have flag : ((can2FrameAt addr senderCount packet 0).id &&& cfp2Begin != 0) = true := by
    simpa using begins
  rw [← can2FrameAt_key addr senderCount packet 0] at absent
  rcases canBind_cases can (can2FrameAt addr senderCount packet 0).id cfp2IdConnMask true now with
    ⟨pbuf, found, _⟩ | ⟨_, notBegin, _⟩ | ⟨_, _, _, link, binds, handed, sameAddr, mtu⟩ | ⟨_, _, filled, _⟩
  · rw [absent] at found
    cases found
  · cases notBegin
  · rw [pbufCleanup_timely timely] at binds
    have step : (can2Rx can (can2FrameAt addr senderCount packet 0) now).2 = { can with link } := by
      simp only [can2Rx, flag, binds]
    rw [can2FrameAt_key] at absent
    rw [step]
    exact ⟨⟨sameAddr, mtu⟩, by simp [handed], absent, fun _ _ => rfl, distinct⟩
  · simp only [pbufCleanup_timely timely] at filled
    omega

/-- A later frame without a partial packet is ignored. -/
theorem can2Rx_missed {index : Nat} (later : index ≠ 0)
    (distinct : Distinct (Pbuf.key cfp2IdConnMask) can.pbufs)
    (absent : can.partialPacket cfp2IdConnMask (cfp2ConnId packet.id addr senderCount) = none) :
    can.Steps cfp2IdConnMask (cfp2ConnId packet.id addr senderCount)
      (can2Rx can (can2FrameAt addr senderCount packet index) now).2 none [] := by
  have begins := mt (can2FrameAt_begins addr senderCount packet index).mp later
  have flag : ((can2FrameAt addr senderCount packet index).id &&& cfp2Begin != 0) = false := by
    simpa using begins
  have missing := absent
  rw [← can2FrameAt_key addr senderCount packet index, Can.partialPacket] at missing
  have step : (can2Rx can (can2FrameAt addr senderCount packet index) now).2 = can.countFrame := by
    simp only [can2Rx, canBind, pbufFind, flag, missing, Option.map_none, Bool.false_eq_true, if_false]
  rw [step]
  exact ⟨⟨rfl, rfl⟩, (List.append_nil _).symm, absent, fun _ _ => rfl, distinct⟩

/-- A later frame has the expected number or drops the partial packet. -/
theorem can2Rx_next (now : UInt32) {index : Nat} (later : index ≠ 0)
    (distinct : Distinct (Pbuf.key cfp2IdConnMask) can.pbufs) {old : Pbuf}
    (found : can.partialPacket cfp2IdConnMask (cfp2ConnId packet.id addr senderCount) = some old)
    {bytes : List UInt8} {frames : Nat} (holds : old.Holds2 packet.id bytes frames) :
    (index % 2 ^ 3 ≠ frames % 2 ^ 3 ∧
        can.Steps cfp2IdConnMask (cfp2ConnId packet.id addr senderCount)
          (can2Rx can (can2FrameAt addr senderCount packet index) now).2 none []) ∨
      (index % 2 ^ 3 = frames % 2 ^ 3 ∧
        Can2Outcome can (can2Rx can (can2FrameAt addr senderCount packet index) now).2
          (cfp2ConnId packet.id addr senderCount) packet.id
          (bytes ++ chunk 4 canFrameSize packet.payload index) (frames + 1)
          (index + 1 = can2Count packet) now) := by
  have begins := mt (can2FrameAt_begins addr senderCount packet index).mp later
  have key := can2FrameAt_key addr senderCount packet index
  have counter := can2FrameAt_counter addr senderCount packet later
  have flag : ((can2FrameAt addr senderCount packet index).id &&& cfp2Begin != 0) = false := by
    simpa using begins
  obtain ⟨pbuf, bound, binds, binding, used, same⟩ :=
    @canBind_ok cfg qfifoLen cfp2IdConnMask can (can2FrameAt addr senderCount packet index).id false now
      distinct (fun absent => by rw [key, found] at absent; cases absent)
  have pbufIs := same old (by rw [key]; exact found)
  have count : pbuf.rxCount.toNat = frames % 2 ^ 3 := by
    rw [pbufIs]
    exact holds.frames
  rw [key] at binding
  by_cases expected : index % 2 ^ 3 = frames % 2 ^ 3
  · right
    have data : (can2FrameAt addr senderCount packet index).data =
        chunk 4 canFrameSize packet.payload index := by
      rw [can2FrameAt, if_neg later, List.nil_append]
    have step : (can2Rx can (can2FrameAt addr senderCount packet index) now).2 =
        (can2Append bound { pbuf with rxCount := (pbuf.rxCount + 1) &&& UInt16.ofNat cfp2FcMask }
          (can2FrameAt addr senderCount packet index).id
          (chunk 4 canFrameSize packet.payload index)).2 := by
      simp only [can2Rx, flag, binds, if_neg begins, counter, count, expected, data, ne_eq,
        not_true_eq_false, if_false]
    have holds' : ({ pbuf with rxCount := (pbuf.rxCount + 1) &&& UInt16.ofNat cfp2FcMask } : Pbuf).Holds2
        packet.id bytes (frames + 1) := by
      refine ⟨by rw [pbufIs]; exact holds.begins, by rw [pbufIs]; exact holds.bytes, ?_⟩
      have mask : (pbuf.rxCount + 1 &&& UInt16.ofNat cfp2FcMask).toNat =
          (pbuf.rxCount.toNat + 1) % 2 ^ 16 % 2 ^ 3 := by
        rw [UInt16.toNat_and, UInt16.toNat_add, ← Nat.and_two_pow_sub_one_eq_mod _ 3]
        rfl
      rw [mask, count]
      omega
    rw [step]
    exact ⟨expected, can2Append_outcome binding holds' rfl used index _⟩
  · left
    have step : (can2Rx can (can2FrameAt addr senderCount packet index) now).2 =
        (pbufFree bound cfp2IdConnMask pbuf).countFrame := by
      have differs : frames % 2 ^ 3 ≠ index % 2 ^ 3 := Ne.symm expected
      simp only [can2Rx, flag, binds, if_neg begins, counter, count, if_pos differs]
    rw [step]
    obtain ⟨setup, handed, own, others, distinct'⟩ := binding.free rfl
    exact ⟨expected, ⟨setup.addr, setup.mtu⟩, handed, own, others, distinct'⟩

end Frames

end Libcsp

/-
This file proves which packets survive CFP 2.0, with and without lost frames.
-/
import Libcsp.Cfp2
import Libcsp.Bus

namespace Libcsp

open BitField KeyedList Chunks

variable {cfg : Config} {qfifoLen senderLen : Nat}

/-! ## The bus -/

def can2Arrive (can : Can cfg qfifoLen) (arrival : Arrival cfg qfifoLen) : Can cfg qfifoLen :=
  (can2Rx (can.between arrival) arrival.frame arrival.now).2

theorem can2Tx_bus {sender : Can cfg senderLen} (driver : ∀ call, sender.txFunc call = true)
    (packet : Packet) :
    (can2Tx sender packet).2.bus = sender.bus ++ if packet.id.dst = sender.link.addr then []
      else (List.range (can2Count packet)).map
        (can2FrameAt sender.link.addr sender.cfpPacketCounter packet) := by
  rw [← can2Frames_eq]
  exact canTx_bus driver packet _ _

/-! ## The surviving frames -/

/-- The receiver takes these frames for the first ones of a packet. -/
structure Accepts (packet : Packet) (mtu : Nat) (free : Prop) (kept : List Nat) : Prop where
  buffer : free
  begins : kept.head? = some 0
  gaps : ∀ place index, kept[place]? = some index → index % 2 ^ 3 = place % 2 ^ 3
  room : 6 + (join 4 canFrameSize packet.payload kept).length ≤ mtu

variable {packet : Packet} {mtu : Nat} {free : Prop} {kept : List Nat} {index : Nat}

theorem Accepts.front (accepts : Accepts packet mtu free (kept ++ [index])) (some : kept ≠ []) :
    Accepts packet mtu free kept ∧ index % 2 ^ 3 = kept.length % 2 ^ 3 := by
  obtain ⟨buffer, begins, gaps, room⟩ := accepts
  rw [join_append, List.length_append] at room
  rw [List.head?_append_of_ne_nil _ some] at begins
  refine ⟨⟨buffer, begins, fun place index inside => ?_, by omega⟩, ?_⟩
  · apply gaps place index
    rw [List.getElem?_append_left (List.getElem?_eq_some_iff.mp inside).1]
    exact inside
  · apply gaps kept.length index
    rw [List.getElem?_append_right (Nat.le_refl _), Nat.sub_self]
    rfl

theorem Accepts.snoc (accepts : Accepts packet mtu free kept)
    (expected : index % 2 ^ 3 = kept.length % 2 ^ 3)
    (room : 6 + (join 4 canFrameSize packet.payload (kept ++ [index])).length ≤ mtu) :
    Accepts packet mtu free (kept ++ [index]) where
  buffer := accepts.buffer
  begins := by
    have some : kept ≠ [] := by
      intro empty
      have begins := accepts.begins
      rw [empty] at begins
      cases begins
    rw [List.head?_append_of_ne_nil _ some]
    exact accepts.begins
  gaps := by
    intro place other inside
    rcases Nat.lt_or_ge place kept.length with before | after
    · rw [List.getElem?_append_left before] at inside
      exact accepts.gaps place other inside
    · rw [List.getElem?_append_right after] at inside
      obtain ⟨bound, value⟩ := List.getElem?_eq_some_iff.mp inside
      rw [List.length_singleton] at bound
      have last : place = kept.length := by omega
      subst last
      simp only [Nat.sub_self, List.getElem_cons_zero] at value
      rw [← value]
      exact expected
  room := room

theorem accepts_first (small : 6 + (chunk 4 canFrameSize packet.payload 0).length ≤ mtu)
    (buffer : free) : Accepts packet mtu free [0] where
  buffer := buffer
  begins := rfl
  gaps := by
    intro place index inside
    obtain ⟨bound, value⟩ := List.getElem?_eq_some_iff.mp inside
    rw [List.length_singleton] at bound
    have first : place = 0 := by omega
    subst first
    simp only [List.getElem_cons_zero] at value
    rw [← value]
  room := by
    rw [join_singleton]
    exact small

/-- This proposition tells whether a BEGIN frame with the key gets a buffer. -/
def Can.Room (can : Can cfg qfifoLen) (key : Nat) (free : Prop) (now : UInt32) : Prop :=
  free ∧ (can.partialPacket cfp2IdConnMask key = none → can.Timely now ∧ 0 < can.link.pool.remaining) ∨
    ¬free ∧ can.partialPacket cfp2IdConnMask key = none ∧ can.Timely now ∧ can.link.pool.remaining = 0

/-- The receiver after some frames of the packet. -/
inductive Progress2 (before can : Can cfg qfifoLen) (key : Nat) (packet : Packet) (free : Prop)
    (kept : List Nat) : Prop
  | waiting (none : kept = [])
      (same : can.partialPacket cfp2IdConnMask key = before.partialPacket cfp2IdConnMask key)
      (handed : can.link.handed = before.link.handed)
  | partly (accepts : Accepts packet before.link.mtu.toNat free kept)
      (open' : can2Count packet - 1 ∉ kept) (pbuf : Pbuf)
      (found : can.partialPacket cfp2IdConnMask key = some pbuf)
      (holds : pbuf.Holds2 packet.id (join 4 canFrameSize packet.payload kept) kept.length)
      (handed : can.link.handed = before.link.handed)
  | delivered (accepts : Accepts packet before.link.mtu.toNat free kept)
      (ended : can2Count packet - 1 ∈ kept) (received : Packet)
      (sameId : received.id = packet.id.across before.link.addr)
      (payload : received.payload = join 4 canFrameSize packet.payload kept)
      (handed : can.link.handed = before.link.handed ++ [received])
  | lost (some : kept ≠ []) (rejects : ¬Accepts packet before.link.mtu.toNat free kept)
      (absent : can.partialPacket cfp2IdConnMask key = none)
      (handed : can.link.handed = before.link.handed)

section Run

variable {before can : Can cfg qfifoLen} {addr : UInt16} {senderCount : UInt32} {now : UInt32}

/-- A frame that the receiver accepts so far is dropped, delivered or kept. -/
theorem Progress2.of_outcome {after : Can cfg qfifoLen} {key : Nat} (setup : before.SameSetup can)
    (handed : can.link.handed = before.link.handed)
    (sub : (kept ++ [index]).Sublist (List.range (can2Count packet)))
    (accepts : 6 + (join 4 canFrameSize packet.payload (kept ++ [index])).length ≤
      before.link.mtu.toNat → Accepts packet before.link.mtu.toNat free (kept ++ [index]))
    (outcome : Can2Outcome can after key packet.id (join 4 canFrameSize packet.payload (kept ++ [index]))
      (kept ++ [index]).length (index + 1 = can2Count packet) now) :
    ∃ result packets, can.Steps cfp2IdConnMask key after result packets ∧
      Progress2 before after key packet free (kept ++ [index]) := by
  obtain ⟨small, ordered⟩ := range_lt_last sub
  cases outcome with
  | dropped large steps =>
      refine ⟨_, _, steps, .lost (by simp) (fun accepts => ?_) steps.own
        (by rw [steps.handed, handed, List.append_nil])⟩
      have := accepts.room
      rw [setup.mtu] at large
      omega
  | delivered fits ends received sameId payload steps =>
      rw [setup.mtu] at fits
      rw [setup.addr] at sameId
      refine ⟨_, _, steps, .delivered (accepts fits) ?_ received sameId payload
        (by rw [steps.handed, handed])⟩
      have last : can2Count packet - 1 = index := by omega
      rw [last]
      exact List.mem_append_right kept List.mem_cons_self
  | kept fits more pbuf holds used steps =>
      rw [setup.mtu] at fits
      refine ⟨_, _, steps, .partly (accepts fits) (fun member => ?_) pbuf steps.own holds
        (by rw [steps.handed, handed, List.append_nil])⟩
      rcases List.mem_append.mp member with earlier | same
      · have := ordered _ earlier
        omega
      · have := List.mem_singleton.mp same
        omega

/-- A frame that is ignored leaves the receiver without a partial packet. -/
theorem Progress2.of_ignored {after : Can cfg qfifoLen} {key : Nat}
    (handed : can.link.handed = before.link.handed)
    (rejects : ¬Accepts packet before.link.mtu.toNat free (kept ++ [index]))
    (steps : can.Steps cfp2IdConnMask key after none []) :
    ∃ result packets, can.Steps cfp2IdConnMask key after result packets ∧
      Progress2 before after key packet free (kept ++ [index]) :=
  ⟨_, _, steps, .lost (by simp) rejects steps.own (by rw [steps.handed, handed, List.append_nil])⟩

/-- One more frame takes the receiver to its state after this frame. -/
theorem Progress2.step (now : UInt32) (setup : before.SameSetup can)
    (distinct : Distinct (Pbuf.key cfp2IdConnMask) can.pbufs)
    (progress : Progress2 before can (cfp2ConnId packet.id addr senderCount) packet free kept)
    (sub : (kept ++ [index]).Sublist (List.range (can2Count packet)))
    (start : (kept ++ [index]).head? = some 0 ∨
      before.partialPacket cfp2IdConnMask (cfp2ConnId packet.id addr senderCount) = none)
    (room : kept = [] → can.Room (cfp2ConnId packet.id addr senderCount) free now) :
    ∃ result packets, can.Steps cfp2IdConnMask (cfp2ConnId packet.id addr senderCount)
        (can2Rx can (can2FrameAt addr senderCount packet index) now).2 result packets ∧
      Progress2 before (can2Rx can (can2FrameAt addr senderCount packet index) now).2
        (cfp2ConnId packet.id addr senderCount) packet free (kept ++ [index]) := by
  obtain ⟨small, ordered⟩ := range_lt_last sub
  cases progress with
  | waiting none same handed =>
      subst none
      by_cases first : index = 0
      · subst first
        rcases room rfl with ⟨buffer, room⟩ | ⟨noBuffer, absent, timely, full⟩
        · have outcome := can2Rx_begin now distinct room
          rw [← join_singleton] at outcome
          exact Progress2.of_outcome setup handed sub
            (fun fits => accepts_first (by rwa [← join_singleton]) buffer) outcome
        · exact Progress2.of_ignored handed (fun accepts => noBuffer accepts.buffer)
            (can2Rx_full distinct timely absent full)
      · have rejects : ¬Accepts packet before.link.mtu.toNat free ([] ++ [index]) := by
          intro accepts
          have begins := accepts.begins
          simp at begins
          exact first begins
        have absent : can.partialPacket cfp2IdConnMask (cfp2ConnId packet.id addr senderCount) = none := by
          rw [same]
          rcases start with begins | absent
          · simp at begins
            exact absurd begins first
          · exact absent
        exact Progress2.of_ignored handed rejects (can2Rx_missed first distinct absent)
  | partly accepts open' pbuf found holds handed =>
      have some : kept ≠ [] := by
        intro empty
        have begins := accepts.begins
        rw [empty] at begins
        cases begins
      have later : index ≠ 0 := by
        have first := List.mem_of_mem_head? accepts.begins
        have := ordered 0 first
        omega
      rcases can2Rx_next now later distinct found holds with ⟨gap, steps⟩ | ⟨expected, outcome⟩
      · exact Progress2.of_ignored handed (fun accepts => gap (accepts.front some).2) steps
      · rw [← join_singleton, ← join_append] at outcome
        have length : kept.length + 1 = (kept ++ [index]).length := by
          rw [List.length_append, List.length_singleton]
        rw [length] at outcome
        exact Progress2.of_outcome setup handed sub (accepts.snoc expected) outcome
  | delivered accepts ended received sameId payload handed =>
      have := ordered _ ended
      omega
  | lost some rejects absent handed =>
      have later : index ≠ 0 := by
        obtain ⟨other, member⟩ := List.exists_mem_of_ne_nil kept some
        have := ordered other member
        omega
      exact Progress2.of_ignored handed (fun accepts => rejects (accepts.front some).1)
        (can2Rx_missed later distinct absent)

/-- The frames of a packet that arrive lead to the state after them. -/
theorem progress2_run (arrivals : List (Arrival cfg qfifoLen))
    (distinct : Distinct (Pbuf.key cfp2IdConnMask) before.pbufs)
    (frames : arrivals.map Arrival.frame = kept.map (can2FrameAt addr senderCount packet))
    (sub : kept.Sublist (List.range (can2Count packet)))
    (start : ∀ first ∈ kept.head?, first = 0 ∨
      before.partialPacket cfp2IdConnMask (cfp2ConnId packet.id addr senderCount) = none)
    (room : ∀ arrival ∈ arrivals.head?,
      (before.between arrival).Room (cfp2ConnId packet.id addr senderCount) free arrival.now) :
    before.SameSetup (arrivals.foldl can2Arrive before) ∧
      Distinct (Pbuf.key cfp2IdConnMask) (arrivals.foldl can2Arrive before).pbufs ∧
      Progress2 before (arrivals.foldl can2Arrive before) (cfp2ConnId packet.id addr senderCount) packet
        free kept ∧
      (arrivals = [] → arrivals.foldl can2Arrive before = before) := by
  induction arrivals using List.reverseRecOn generalizing kept with
  | nil =>
      have empty : kept = [] := by simpa using frames.symm
      exact ⟨.refl before, distinct, .waiting empty rfl rfl, fun _ => rfl⟩
  | append_singleton done last ih =>
      obtain ⟨front, index, rfl⟩ : ∃ front index, kept = front ++ [index] := by
        rcases List.eq_nil_or_concat kept with rfl | ⟨front, index, rfl⟩
        · simp at frames
        · exact ⟨front, index, by rw [List.concat_eq_append]⟩
      rw [List.map_append, List.map_append] at frames
      obtain ⟨frames, lastFrame⟩ := List.append_inj' frames rfl
      have isLast : last.frame = can2FrameAt addr senderCount packet index := by simpa using lastFrame
      have first : ∀ first ∈ front.head?, first = 0 ∨
          before.partialPacket cfp2IdConnMask (cfp2ConnId packet.id addr senderCount) = none := by
        intro first member
        apply start first
        rw [List.head?_append, member]
        rfl
      have earlier : ∀ arrival ∈ done.head?, arrival ∈ (done ++ [last]).head? := by
        intro arrival member
        rw [List.head?_append, member]
        rfl
      obtain ⟨setup, distinct', progress, unchanged⟩ :=
        ih frames ((List.sublist_append_left front [index]).trans sub) first
          (fun arrival member => room arrival (earlier arrival member))
      rw [List.foldl_append, List.foldl_cons, List.foldl_nil]
      generalize done.foldl can2Arrive before = can at setup distinct' progress unchanged ⊢
      have start' : (front ++ [index]).head? = some 0 ∨
          before.partialPacket cfp2IdConnMask (cfp2ConnId packet.id addr senderCount) = none := by
        obtain ⟨first, isFirst⟩ : ∃ first, (front ++ [index]).head? = some first := by
          cases front <;> exact ⟨_, rfl⟩
        rcases start first isFirst with rfl | absent
        · exact .inl isFirst
        · exact .inr absent
      have setup' : before.SameSetup (can.between last) := ⟨setup.addr, setup.mtu⟩
      have progress' : Progress2 before (can.between last) (cfp2ConnId packet.id addr senderCount) packet
          free front := by
        cases progress with
        | waiting none same handed => exact .waiting none same handed
        | partly accepts open' pbuf found holds handed => exact .partly accepts open' pbuf found holds handed
        | delivered accepts ended received sameId payload handed =>
            exact .delivered accepts ended received sameId payload handed
        | lost some rejects absent handed => exact .lost some rejects absent handed
      have room' : front = [] →
          (can.between last).Room (cfp2ConnId packet.id addr senderCount) free last.now := by
        intro empty
        rw [empty, List.map_nil, List.map_eq_nil_iff] at frames
        have same := unchanged frames
        subst same
        rw [frames] at room
        exact room last rfl
      obtain ⟨result, packets, steps, next⟩ :=
        Progress2.step last.now setup' distinct' progress' sub start' room'
      rw [← isLast] at steps next
      exact ⟨setup'.trans steps.setup, steps.distinct, next, fun empty => by simp at empty⟩

end Run

/-! ## Lost frames -/

/-- The fields of the identifier fit in the CSP 2 header, and no rewrite changes the destination. -/
structure CspId.Crosses (id : CspId) (addr : UInt16) : Prop where
  pri : id.pri.toNat < 2 ^ 2
  dst : if id.dst.toNat % 2 ^ 14 = 0x3FFF then id.dst = addr else id.dst.toNat < 2 ^ 14
  src : id.src.toNat < 2 ^ 14
  dport : id.dport.toNat < 2 ^ 6
  sport : id.sport.toNat < 2 ^ 6
  flags : id.flags.toNat < 2 ^ 6

theorem ofNat8_mod_eq {value : UInt8} {bits : Nat} (small : bits ≤ 8) :
    UInt8.ofNat (value.toNat % 2 ^ bits) = value ↔ value.toNat < 2 ^ bits := by
  rw [← UInt8.toNat_inj, toNat_ofNat8_mod _ small]
  exact Nat.mod_eq_iff_lt (Nat.two_pow_pos bits).ne'

theorem ofNat16_mod_eq {value : UInt16} {bits : Nat} (small : bits ≤ 16) :
    UInt16.ofNat (value.toNat % 2 ^ bits) = value ↔ value.toNat < 2 ^ bits := by
  rw [← UInt16.toNat_inj, toNat_ofNat16_mod _ small]
  exact Nat.mod_eq_iff_lt (Nat.two_pow_pos bits).ne'

/-- The receiver sees the identifier of the sender exactly when it crosses. -/
theorem across_eq_iff {id : CspId} {addr : UInt16} : id.across addr = id ↔ id.Crosses addr := by
  have broadcast : id.cut2.dst = 0x3FFF ↔ id.dst.toNat % 2 ^ 14 = 0x3FFF := by
    rw [← UInt16.toNat_inj, id.cut2_toNat.2.1]
    rfl
  have fields : id.across addr = id ↔
      id.pri.toNat < 2 ^ 2 ∧ (if id.dst.toNat % 2 ^ 14 = 0x3FFF then id.dst = addr
        else id.dst.toNat < 2 ^ 14) ∧ id.src.toNat < 2 ^ 14 ∧ id.dport.toNat < 2 ^ 6 ∧
        id.sport.toNat < 2 ^ 6 ∧ id.flags.toNat < 2 ^ 6 := by
    rw [← @ofNat8_mod_eq id.pri 2 (by decide), ← @ofNat16_mod_eq id.dst 14 (by decide),
      ← @ofNat16_mod_eq id.src 14 (by decide), ← @ofNat8_mod_eq id.dport 6 (by decide),
      ← @ofNat8_mod_eq id.sport 6 (by decide), ← @ofNat8_mod_eq id.flags 6 (by decide)]
    obtain ⟨pri, flags, src, dst, dport, sport⟩ := id
    simp only [CspId.across, broadcast]
    split
    · simp only [CspId.cut2, CspId.mk.injEq]
      constructor
      · rintro ⟨pri, flags, src, dst, dport, sport⟩
        exact ⟨pri, dst.symm, src, dport, sport, flags⟩
      · rintro ⟨pri, dst, src, dport, sport, flags⟩
        exact ⟨pri, flags, src, dst.symm, dport, sport⟩
    · simp only [CspId.cut2, CspId.mk.injEq]
      constructor
      · rintro ⟨pri, flags, src, dst, dport, sport⟩
        exact ⟨pri, dst, src, dport, sport, flags⟩
      · rintro ⟨pri, dst, src, dport, sport, flags⟩
        exact ⟨pri, flags, src, dst, dport, sport⟩
  rw [fields]
  constructor
  · rintro ⟨pri, dst, src, dport, sport, flags⟩
    exact ⟨pri, dst, src, dport, sport, flags⟩
  · rintro ⟨pri, dst, src, dport, sport, flags⟩
    exact ⟨pri, dst, src, dport, sport, flags⟩

/-- The surviving frames look like a whole packet: the first one and the last one arrive, each place of
a frame tells a multiple of eight lost frames before it, and the data fits. -/
structure Undetected (frames : List CanFrame) (kept : List Nat) (mtu : Nat) : Prop where
  begins : 0 ∈ kept
  ends : frames.length - 1 ∈ kept
  gaps : ∀ place index, kept[place]? = some index → index % 2 ^ 3 = place % 2 ^ 3
  room : ((kept.filterMap (frames[·]?)).map fun frame => frame.data.length).sum + 2 ≤ mtu

theorem filterMap_range {number : Nat} (frameAt : Nat → CanFrame)
    (sub : kept.Sublist (List.range number)) :
    kept.filterMap (((List.range number).map frameAt)[·]?) = kept.map frameAt := by
  rw [← List.filterMap_eq_map]
  apply List.filterMap_congr
  intro index member
  have inside := List.mem_range.mp (sub.subset member)
  simp [inside]

/-- The first frame has four bytes of the CSP header in front of its data. -/
theorem keptBytes (addr : UInt16) (senderCount : UInt32) (packet : Packet) (kept : List Nat) :
    ((kept.map (can2FrameAt addr senderCount packet)).map fun frame => frame.data.length).sum =
      4 * kept.count 0 + (join 4 canFrameSize packet.payload kept).length := by
  induction kept with
  | nil => rfl
  | cons index rest ih =>
      have data : (can2FrameAt addr senderCount packet index).data.length =
          (if index = 0 then 4 else 0) + (chunk 4 canFrameSize packet.payload index).length := by
        rw [can2FrameAt, List.length_append]
        split <;> simp
      have joined : join 4 canFrameSize packet.payload (index :: rest) =
          chunk 4 canFrameSize packet.payload index ++ join 4 canFrameSize packet.payload rest := rfl
      rw [List.map_cons, List.map_cons, List.sum_cons, ih, data, joined, List.length_append,
        List.count_cons]
      simp only [beq_iff_eq]
      split <;> omega

theorem undetected_iff {addr : UInt16} {senderCount : UInt32}
    (sub : kept.Sublist (List.range (can2Count packet))) :
    Undetected ((List.range (can2Count packet)).map (can2FrameAt addr senderCount packet)) kept mtu ∧
        free ↔
      Accepts packet mtu free kept ∧ can2Count packet - 1 ∈ kept := by
  have bytes := keptBytes addr senderCount packet kept
  have single : 0 ∈ kept → kept.count 0 = 1 := fun begins =>
    List.count_eq_one_of_mem (List.nodup_range.sublist sub) begins
  have frames := filterMap_range (can2FrameAt addr senderCount packet) sub
  constructor
  · rintro ⟨⟨begins, ends, gaps, room⟩, buffer⟩
    rw [List.length_map, List.length_range] at ends
    rw [frames, bytes, single begins] at room
    exact ⟨⟨buffer, head_of_sublist_range sub begins, gaps, by omega⟩, ends⟩
  · rintro ⟨⟨buffer, begins, gaps, room⟩, ends⟩
    have member := List.mem_of_mem_head? begins
    refine ⟨⟨member, by rwa [List.length_map, List.length_range], gaps, ?_⟩, buffer⟩
    rw [frames, bytes, single member]
    omega

/-- A packet with this identifier and payload reads like the sent one. -/
theorem received_arrives_iff {received : Packet} {addr : UInt16} {bytes : List UInt8}
    (sameId : received.id = packet.id.across addr) (payload : received.payload = bytes) :
    received.Arrives packet ↔ packet.id.Crosses addr ∧ bytes = packet.payload := by
  rw [← across_eq_iff, ← sameId, ← payload]
  exact ⟨fun arrives => ⟨arrives.id, arrives.payload⟩,
    fun ⟨id, payload⟩ => ⟨id, Packet.length_of_payload payload, payload⟩⟩

theorem join_eq_iff (sub : kept.Sublist (List.range (can2Count packet))) (begins : 0 ∈ kept) :
    join 4 canFrameSize packet.payload kept = packet.payload ↔ kept.length = can2Count packet := by
  have number : count 4 canFrameSize packet.payload.length = can2Count packet := by
    rw [Packet.payload_length, can2Count]
  rw [← number] at sub ⊢
  constructor
  · intro whole
    by_contra short
    have bound := sub.length_le
    rw [List.length_range] at bound
    have less := join_incomplete canFrameSize_pos sub begins (by omega)
    rw [whole] at less
    omega
  · intro all
    rw [sub.eq_of_length (by rw [all, List.length_range])]
    exact join_all canFrameSize_pos packet.payload

/-- The packet comes out whole or not at all, unless the lost frames look like none. -/
theorem survivors_wholeOrNothing_iff {senderCfg : Config} {sender : Can senderCfg senderLen}
    (driver : ∀ call, sender.txFunc call = true) {packet : Packet} {frames : List CanFrame}
    (emitted : (can2Tx sender packet).2.bus = sender.bus ++ frames) {kept : List Nat}
    (lost : kept.Sublist (List.range frames.length)) {can : Can cfg qfifoLen} (quiet : can.pbufs = [])
    {arrivals : List (Arrival cfg qfifoLen)}
    (survivors : arrivals.map Arrival.frame = kept.filterMap (frames[·]?)) :
    ((arrivals.foldl can2Arrive can).link.handed = can.link.handed ∨
        ∃ received, (arrivals.foldl can2Arrive can).link.handed = can.link.handed ++ [received] ∧
          received.Arrives packet) ↔
      ((∀ arrival ∈ arrivals.head?, 0 < arrival.pool.remaining) →
        Undetected frames kept can.link.mtu.toNat →
          kept.length = frames.length ∧ packet.id.Crosses can.link.addr) := by
  rw [can2Tx_bus driver, List.append_cancel_left_eq] at emitted
  by_cases loopback : packet.id.dst = sender.link.addr
  · rw [if_pos loopback] at emitted
    subst emitted
    have none : kept = [] := by simpa using lost
    subst none
    have noArrivals : arrivals = [] := by simpa using survivors
    subst noArrivals
    exact ⟨fun _ _ undetected => absurd undetected.begins List.not_mem_nil, fun _ => .inl rfl⟩
  rw [if_neg loopback] at emitted
  subst emitted
  rw [List.length_map, List.length_range] at lost ⊢
  rw [filterMap_range _ lost] at survivors
  have absent : ∀ key, can.partialPacket cfp2IdConnMask key = none := by
    intro key
    rw [Can.partialPacket, quiet]
    rfl
  have timely : ∀ now, can.Timely now := by
    intro now pbuf member
    rw [quiet] at member
    cases member
  have same := @undetected_iff packet can.link.mtu.toNat
    (∀ arrival ∈ arrivals.head?, 0 < arrival.pool.remaining) kept sender.link.addr
    sender.cfpPacketCounter lost
  obtain ⟨_, _, progress, _⟩ := @progress2_run cfg qfifoLen packet
    (∀ arrival ∈ arrivals.head?, 0 < arrival.pool.remaining) kept can sender.link.addr
    sender.cfpPacketCounter arrivals
    (by rw [Distinct, quiet]; exact List.nodup_nil) survivors lost (fun _ _ => .inr (absent _))
    (by
      intro arrival isHead
      by_cases room : 0 < arrival.pool.remaining
      · refine .inl ⟨?_, fun _ => ⟨timely _, room⟩⟩
        intro other isHead'
        rw [Option.mem_def.mp isHead] at isHead'
        cases isHead'
        exact room
      · exact .inr ⟨fun free => room (free arrival isHead), absent _, timely _, Nat.eq_zero_of_not_pos room⟩)
  cases progress with
  | waiting none _ handed =>
      refine ⟨fun _ _ undetected => ?_, fun _ => .inl handed⟩
      have begins := undetected.begins
      rw [none] at begins
      cases begins
  | partly _ open' pbuf _ _ handed =>
      refine ⟨fun _ free undetected => ?_, fun _ => .inl handed⟩
      exact absurd (same.mp ⟨undetected, free⟩).2 open'
  | delivered accepts ended received sameId payload handed =>
      have whole : received.Arrives packet ↔
          kept.length = can2Count packet ∧ packet.id.Crosses can.link.addr := by
        rw [received_arrives_iff sameId payload, join_eq_iff lost
          (List.mem_of_mem_head? accepts.begins), and_comm]
      obtain ⟨undetected, free⟩ := same.mpr ⟨accepts, ended⟩
      rw [← whole, handed]
      constructor
      · rintro (nothing | ⟨other, appended, arrives⟩)
        · simp at nothing
        · have equal : other = received := by simpa using appended.symm
          exact fun _ _ => equal ▸ arrives
      · intro holds
        exact .inr ⟨received, rfl, holds free undetected⟩
  | lost _ rejects _ handed =>
      refine ⟨fun _ free undetected => ?_, fun _ => .inl handed⟩
      exact absurd (same.mp ⟨undetected, free⟩).1 rejects

/-- An interface of a new node with a driver that accepts each frame. -/
def busNode (addr : UInt16) : Can {} 15 :=
  canAddInterface
    { link := { iface := 1, addr, mtu := 0, frame := 0, rxError := 0, txError := 0, drop := 0
                pool := bufferInit {} fun _ => default, qfifo := .empty, handed := [] }
      cfpPacketCounter := 0, txFunc := fun _ => true, pbufs := [], txCalls := 0, bus := [] }

def busPacket (length : Nat) : Packet :=
  { (default : Packet) with
    length := UInt16.ofNat length
    id := { (default : CspId) with src := 1, dst := 2 }
    mem := fun index => UInt8.ofNat index }

def busFrames (packet : Packet) : List CanFrame := (can2Tx (busNode 1) packet).2.bus

def busArrivals (frames : List CanFrame) : List (Arrival {} 15) :=
  frames.map fun frame => ⟨frame, 0, (busNode 2).link.pool, .empty⟩

def busReceiver (packet : Packet) (kept : List Nat) : Can {} 15 :=
  (busArrivals (kept.filterMap ((busFrames packet)[·]?))).foldl can2Arrive (busNode 2)

theorem oneLostFrame_wholeOrNothing :
    (busReceiver (busPacket 76) [0, 2, 3, 4, 5, 6, 7, 8, 9]).link.handed = (busNode 2).link.handed ∨
      ∃ received, (busReceiver (busPacket 76) [0, 2, 3, 4, 5, 6, 7, 8, 9]).link.handed =
        (busNode 2).link.handed ++ [received] ∧ received.Arrives (busPacket 76) :=
  (@survivors_wholeOrNothing_iff {} 15 15 {} (busNode 1) (fun _ => rfl) (busPacket 76)
    (busFrames (busPacket 76)) rfl [0, 2, 3, 4, 5, 6, 7, 8, 9] (by decide +kernel) (busNode 2) rfl
    (busArrivals _) (by decide +kernel)).mpr
      fun _ undetected => absurd (undetected.gaps 1 2 rfl) (by decide)

/-- Eight lost frames between the first and the last one go unnoticed. -/
theorem eightLostFrames_truncate :
    (busFrames (busPacket 76)).length = 10 ∧
      ¬((busReceiver (busPacket 76) [0, 9]).link.handed = (busNode 2).link.handed ∨
        ∃ received, (busReceiver (busPacket 76) [0, 9]).link.handed =
          (busNode 2).link.handed ++ [received] ∧ received.Arrives (busPacket 76)) := by
  have lengths : (busReceiver (busPacket 76) [0, 9]).link.handed.map (·.length) = [12] := by
    decide +kernel
  refine ⟨by decide +kernel, ?_⟩
  rintro (nothing | ⟨received, handed, arrives⟩)
  · rw [nothing] at lengths
    cases lengths
  · have short : received.length = 12 := by
      rw [handed] at lengths
      simpa [busNode, canAddInterface] using lengths
    have same := arrives.length
    rw [short] at same
    exact absurd same (by decide)

/-! ## The round trip -/

theorem crosses_of_fits {id : CspId} (fits : id.Fits cfg) (version : cfg.version = 2)
    (unicast : id.dst ≠ 0x3FFF) (addr : UInt16) : id.Crosses addr := by
  obtain ⟨pri, dst, src, dport, sport, flags⟩ := fits
  simp only [idGetHostBits, if_pos version] at dst src flags
  refine ⟨pri, ?_, src, dport, sport, flags⟩
  have own : id.dst.toNat % 2 ^ 14 ≠ 0x3FFF := by
    rw [Nat.mod_eq_of_lt dst]
    intro broadcast
    exact unicast (UInt16.toNat_inj.mp broadcast)
  rw [if_neg own]
  exact dst

/-- The first frame carries the header that `csp_id2_prepend` writes. -/
theorem can2FrameAt_prepend {addr : UInt16} {senderCount : UInt32} (fits : packet.id.Fits cfg)
    (version : cfg.version = 2) :
    beBytes 2 ((can2FrameAt addr senderCount packet 0).id >>> 13) ++
      (can2FrameAt addr senderCount packet 0).data.take 4 =
        (id2Prepend packet).take id2HeaderSize := by
  have front : (can2FrameAt addr senderCount packet 0).data.take 4 =
      beBytes 4 (cfp2HeaderExtension packet.id) :=
    List.take_left' (beBytes_length _ _)
  have header := writeBytes_map packet.mem (dataAt - id2HeaderSize)
    (beBytes id2HeaderSize (id2Word packet.id))
  rw [beBytes_length] at header
  rw [front, can2FrameAt_header, can2Header, CspId.cut2_of_fits fits version]
  exact header.symm

/-- A packet crosses the bus without loss exactly when its data and the six bytes of the CSP header fit
in the limit of the receiver. -/
theorem datagram_crosses_iff {senderCfg : Config} {sender : Can senderCfg senderLen}
    (driver : ∀ call, sender.txFunc call = true) {packet : Packet} (version : cfg.version = 2)
    (fits : packet.id.Fits cfg) (other : packet.id.dst ≠ sender.link.addr)
    (unicast : packet.id.dst ≠ 0x3FFF) {frames : List CanFrame}
    (emitted : (can2Tx sender packet).2.bus = sender.bus ++ frames) {can : Can cfg qfifoLen}
    (distinct : Distinct (Pbuf.key cfp2IdConnMask) can.pbufs)
    {arrivals : List (Arrival cfg qfifoLen)} (all : arrivals.map Arrival.frame = frames)
    (room : ∀ arrival ∈ arrivals.head?, can.Timely arrival.now ∧ 0 < arrival.pool.remaining) :
    ((∃ first rest, frames = first :: rest ∧
        beBytes 2 (first.id >>> 13) ++ first.data.take 4 = (id2Prepend packet).take id2HeaderSize) ∧
      ∃ received, (arrivals.foldl can2Arrive can).link.handed = can.link.handed ++ [received] ∧
        received.Arrives packet) ↔ packet.length.toNat + 6 ≤ can.link.mtu.toNat := by
  rw [can2Tx_bus driver, List.append_cancel_left_eq, if_neg other] at emitted
  subst emitted
  have positive := can2Count_pos packet
  have last : can2Count packet - 1 ∈ List.range (can2Count packet) := List.mem_range.mpr (by omega)
  have split : List.range (can2Count packet) = 0 :: (List.range (can2Count packet - 1)).map Nat.succ := by
    rw [← List.range_succ_eq_map, Nat.sub_add_cancel positive]
  have first : (List.range (can2Count packet)).head? = some 0 := by
    rw [split]
    rfl
  have whole : join 4 canFrameSize packet.payload (List.range (can2Count packet)) = packet.payload :=
    (join_eq_iff (List.Sublist.refl _) (List.mem_range.mpr positive)).mpr (List.length_range)
  have header : ∃ first rest, (List.range (can2Count packet)).map
      (can2FrameAt sender.link.addr sender.cfpPacketCounter packet) = first :: rest ∧
      beBytes 2 (first.id >>> 13) ++ first.data.take 4 = (id2Prepend packet).take id2HeaderSize := by
    rw [split, List.map_cons]
    exact ⟨_, _, rfl, can2FrameAt_prepend fits version⟩
  obtain ⟨_, _, progress, _⟩ := @progress2_run cfg qfifoLen packet True (List.range (can2Count packet)) can
    sender.link.addr sender.cfpPacketCounter arrivals distinct all (List.Sublist.refl _)
    (by
      intro index isHead
      rw [first] at isHead
      cases isHead
      exact .inl rfl)
    (fun arrival isHead => .inl ⟨trivial, fun _ => room arrival isHead⟩)
  rw [and_iff_right header]
  cases progress with
  | waiting none _ _ =>
      rw [none] at first
      cases first
  | partly _ open' _ _ _ _ => exact absurd last open'
  | delivered accepts _ received sameId payload handed =>
      have fitting := accepts.room
      rw [whole, Packet.payload_length] at fitting
      have arrives : received.Arrives packet :=
        (received_arrives_iff sameId payload).mpr ⟨crosses_of_fits fits version unicast _, whole⟩
      exact ⟨fun _ => by omega, fun _ => ⟨received, handed, arrives⟩⟩
  | lost _ rejects _ handed =>
      constructor
      · rintro ⟨received, appended, _⟩
        rw [handed] at appended
        simp at appended
      · intro small
        refine (rejects ⟨trivial, first, fun place index inside => ?_, ?_⟩).elim
        · obtain ⟨bound, value⟩ := List.getElem?_eq_some_iff.mp inside
          rw [List.getElem_range] at value
          rw [value]
        · rw [whole, Packet.payload_length]
          omega

theorem shortDatagram_crosses :
    (∃ first rest, busFrames (busPacket 20) = first :: rest ∧
        beBytes 2 (first.id >>> 13) ++ first.data.take 4 =
          (id2Prepend (busPacket 20)).take id2HeaderSize) ∧
      ∃ received, ((busArrivals (busFrames (busPacket 20))).foldl can2Arrive (busNode 2)).link.handed =
        (busNode 2).link.handed ++ [received] ∧ received.Arrives (busPacket 20) :=
  (@datagram_crosses_iff {} 15 15 {} (busNode 1) (fun _ => rfl) (busPacket 20) rfl
    ⟨by decide, by decide, by decide, by decide, by decide, by decide⟩ (by decide) (by decide)
    (busFrames (busPacket 20)) rfl (busNode 2) List.nodup_nil (busArrivals (busFrames (busPacket 20)))
    (by decide +kernel) (fun _ isHead => ⟨fun _ member => absurd member List.not_mem_nil, by
      cases isHead
      decide +kernel⟩)).mpr (by decide)

/-- A packet within the limit of the interface is lost when its header exceeds the limit. -/
theorem fullDatagram_lost :
    (busPacket 243).length ≤ (busNode 2).link.mtu ∧
      ¬∃ received, ((busArrivals (busFrames (busPacket 243))).foldl can2Arrive (busNode 2)).link.handed =
        (busNode 2).link.handed ++ [received] ∧ received.Arrives (busPacket 243) := by
  refine ⟨by decide +kernel, ?_⟩
  rintro ⟨received, handed, _⟩
  have nothing : ((busArrivals (busFrames (busPacket 243))).foldl can2Arrive
      (busNode 2)).link.handed.length = 0 := by
    decide +kernel
  rw [handed] at nothing
  simp at nothing

end Libcsp

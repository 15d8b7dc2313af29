/-
This file proves which packets of a set survive CFP 1.x when their frames interleave and get lost.
-/
import Libcsp.Cfp1
import Libcsp.Bus
import Libcsp.Lib.Interleave

namespace Libcsp

open BitField KeyedList Chunks Interleave

variable {cfg : Config} {qfifoLen senderLen : Nat}

/-! ## One packet -/

variable {packet : Packet} {kept : List Nat} {index : Nat}

/-- The receiver takes these frames for the first ones of the packet. -/
structure Accepts1 (packet : Packet) (kept : List Nat) : Prop where
  begins : kept.head? = some 0
  numbers : ∀ place index, kept[place]? = some index →
    (can1Count packet - 1 - index) % 2 ^ 8 + place = (can1Count packet - 1) % 2 ^ 8

theorem Accepts1.ne_nil (accepts : Accepts1 packet kept) : kept ≠ [] := by
  intro empty
  have begins := accepts.begins
  rw [empty] at begins
  cases begins

theorem accepts1_first (packet : Packet) : Accepts1 packet [0] where
  begins := rfl
  numbers := by
    intro place index inside
    obtain ⟨bound, value⟩ := List.getElem?_eq_some_iff.mp inside
    rw [List.length_singleton] at bound
    have first : place = 0 := by omega
    subst first
    simp only [List.getElem_cons_zero] at value
    rw [← value]
    rfl

theorem Accepts1.snoc (accepts : Accepts1 packet kept)
    (expected : (can1Count packet - 1 - index) % 2 ^ 8 + kept.length = (can1Count packet - 1) % 2 ^ 8) :
    Accepts1 packet (kept ++ [index]) where
  begins := by
    rw [List.head?_append_of_ne_nil _ accepts.ne_nil]
    exact accepts.begins
  numbers := by
    intro place other inside
    rcases Nat.lt_or_ge place kept.length with before | after
    · rw [List.getElem?_append_left before] at inside
      exact accepts.numbers place other inside
    · rw [List.getElem?_append_right after] at inside
      obtain ⟨bound, value⟩ := List.getElem?_eq_some_iff.mp inside
      rw [List.length_singleton] at bound
      have last : place = kept.length := by omega
      subst last
      simp only [Nat.sub_self, List.getElem_cons_zero] at value
      rw [← value]
      exact expected

/-- The number of the remaining frames fits in its eight bits. -/
theorem can1Count_le_iff (packet : Packet) :
    can1Count packet ≤ 2 ^ 8 ↔ packet.length.toNat ≤ 2042 := by
  rw [can1Count_eq]
  omega

/-- The receiver accepts no packet whose number of remaining frames is truncated. -/
theorem Accepts1.small (accepts : Accepts1 packet (List.range (can1Count packet))) :
    packet.length.toNat ≤ 2042 := by
  rw [← can1Count_le_iff]
  by_contra large
  -- The first frame whose number starts over is the one after the number zero.
  have startsOver : (can1Count packet - 1) % 2 ^ 8 + 1 < can1Count packet := by
    have := Nat.mod_lt (can1Count packet - 1) (show 0 < 2 ^ 8 by decide)
    omega
  have number := accepts.numbers ((can1Count packet - 1) % 2 ^ 8 + 1)
    ((can1Count packet - 1) % 2 ^ 8 + 1) (List.getElem?_range startsOver)
  omega

/-- A packet is complete when all its frames have arrived and their numbers fit. -/
def Complete1 (packet : Packet) (kept : List Nat) : Prop :=
  kept = List.range (can1Count packet) ∧ packet.length.toNat ≤ 2042

theorem count_payload (packet : Packet) :
    count 2 canFrameSize packet.payload.length = can1Count packet := by
  rw [Packet.payload_length, can1Count]

/-- The receiver after some frames of the packet. -/
inductive Progress1 (can : Can cfg qfifoLen) (key : Nat) (packet : Packet) (kept : List Nat) : Prop
  | waiting (nothing : kept = []) (absent : can.partialPacket cfpIdConnMask key = none)
  | partly (accepts : Accepts1 packet kept)
      (short : (join 2 canFrameSize packet.payload kept).length < packet.length.toNat) (pbuf : Pbuf)
      (found : can.partialPacket cfpIdConnMask key = some pbuf)
      (holds : pbuf.Holds1 packet (join 2 canFrameSize packet.payload kept) kept.length)
  | delivered (complete : Complete1 packet kept)
      (absent : can.partialPacket cfpIdConnMask key = none)
  | lost (started : kept ≠ [])
      (rejects : ¬(kept <+: List.range (can1Count packet) ∧ packet.length.toNat ≤ 2042))
      (absent : can.partialPacket cfpIdConnMask key = none)

section Step

variable {can after : Can cfg qfifoLen} {dest : Nat} {ident : UInt32} {now : UInt32} {key : Nat}

/-- A frame of the packet hands the packet over exactly when it completes it. -/
structure Step1 (can after : Can cfg qfifoLen) (key : Nat) (packet : Packet) (kept : List Nat) : Prop where
  steps : ∃ result packets, can.Steps cfpIdConnMask key after result packets ∧
    ((Complete1 packet kept ∧ ∃ received : Packet, packets = [received] ∧ received.Arrives packet) ∨
      (¬Complete1 packet kept ∧ packets = []))
  progress : Progress1 after key packet kept

/-- A frame that the receiver accepts so far is delivered or kept. -/
theorem Step1.of_outcome (sub : kept.Sublist (List.range (can1Count packet)))
    (accepts : Accepts1 packet kept)
    (outcome : Can1Outcome can after key packet (join 2 canFrameSize packet.payload kept) kept.length now) :
    Step1 can after key packet kept := by
  have range := sub
  rw [← count_payload] at range
  cases outcome with
  | delivered whole received sameId payload steps =>
      rw [← Packet.payload_length] at whole
      have all := eq_range_of_join canFrameSize_pos range (List.mem_of_mem_head? accepts.begins) whole
      have equal : received.payload = packet.payload := by
        rw [payload, all, join_all canFrameSize_pos]
      rw [count_payload] at all
      have complete : Complete1 packet kept := ⟨all, Accepts1.small (by rw [← all]; exact accepts)⟩
      exact ⟨⟨_, _, steps, .inl ⟨complete, received, rfl, sameId, Packet.length_of_payload equal, equal⟩⟩,
        .delivered complete steps.own⟩
  | kept short pbuf holds used steps =>
      have incomplete : ¬Complete1 packet kept := by
        rintro ⟨rfl, _⟩
        rw [← count_payload, join_all canFrameSize_pos, Packet.payload_length] at short
        omega
      exact ⟨⟨_, _, steps, .inr ⟨incomplete, rfl⟩⟩, .partly accepts short pbuf steps.own holds⟩

/-- A frame that drops the partial packet loses the packet. -/
theorem Step1.of_ignored (started : kept ≠ [])
    (rejects : ¬(kept <+: List.range (can1Count packet) ∧ packet.length.toNat ≤ 2042))
    (steps : can.Steps cfpIdConnMask key after none []) : Step1 can after key packet kept :=
  ⟨⟨_, _, steps, .inr ⟨fun complete => rejects ⟨complete.1 ▸ List.prefix_refl _, complete.2⟩, rfl⟩⟩,
      .lost started rejects steps.own⟩

/-- A run of the first frames ends with the frame that its length tells. -/
theorem last_of_prefix {number : Nat} (first : kept ++ [index] <+: List.range number) :
    index = kept.length := by
  have place := first.getElem (i := kept.length) (by simp)
  simpa using place

/-- One more frame takes the receiver to its state after this frame. -/
theorem Progress1.step {senderCfg : Config} (version : senderCfg.version ≠ 2)
    (fits : packet.id.Fits senderCfg) (small : packet.length ≤ can.link.mtu) (now : UInt32)
    (distinct : Distinct (Pbuf.key cfpIdConnMask) can.pbufs)
    (progress : Progress1 can (can1Key dest ident packet) packet kept)
    (sub : (kept ++ [index]).Sublist (List.range (can1Count packet)))
    (room : can.Timely now ∧ 0 < can.link.pool.remaining) :
    Step1 can (can1Rx can (can1FrameAt dest ident packet index) now).2 (can1Key dest ident packet) packet
      (kept ++ [index]) := by
  obtain ⟨inside, ordered⟩ := range_lt_last sub
  have started : kept ++ [index] ≠ [] := by simp
  cases progress with
  | waiting nothing absent =>
      subst nothing
      by_cases first : index = 0
      · subst first
        have outcome := @can1Rx_begin cfg qfifoLen can dest ident packet senderCfg version fits small now
          distinct (fun _ => room)
        rw [← join_singleton] at outcome
        exact Step1.of_outcome sub (accepts1_first packet) outcome
      · refine Step1.of_ignored started (fun whole => first ?_) (can1Rx_missed first distinct absent)
        exact last_of_prefix whole.1
  | partly accepts short pbuf found holds =>
      have later : index ≠ 0 := by
        have := ordered 0 (List.mem_of_mem_head? accepts.begins)
        omega
      have fitting : (join 2 canFrameSize packet.payload kept ++
          chunk 2 canFrameSize packet.payload index).length ≤ packet.length.toNat := by
        rw [← join_singleton, ← join_append, ← Packet.payload_length]
        apply join_length_le canFrameSize_pos
        rw [count_payload]
        exact sub
      rcases can1Rx_next now later distinct found holds fitting with ⟨gap, steps⟩ | ⟨expected, outcome⟩
      · refine Step1.of_ignored started (fun whole => gap ?_) steps
        have last := last_of_prefix whole.1
        have few := (can1Count_le_iff packet).mpr whole.2
        omega
      · rw [← join_singleton, ← join_append] at outcome
        have length : kept.length + 1 = (kept ++ [index]).length := by
          rw [List.length_append, List.length_singleton]
        rw [length] at outcome
        exact Step1.of_outcome sub (accepts.snoc expected) outcome
  | delivered complete absent =>
      have last : can1Count packet - 1 ∈ kept := by
        rw [complete.1, List.mem_range]
        omega
      have := ordered _ last
      omega
  | lost some rejects absent =>
      have later : index ≠ 0 := by
        obtain ⟨other, member⟩ := List.exists_mem_of_ne_nil kept some
        have := ordered other member
        omega
      refine Step1.of_ignored started (fun whole => rejects ?_) (can1Rx_missed later distinct absent)
      exact ⟨(List.prefix_append kept [index]).trans whole.1, whole.2⟩

end Step

/-! ## Several packets -/

def can1Arrive (can : Can cfg qfifoLen) (arrival : Arrival cfg qfifoLen) : Can cfg qfifoLen :=
  (can1Rx (can.between arrival) arrival.frame arrival.now).2

theorem can1Tx_bus {senderCfg : Config} {sender : Can senderCfg senderLen}
    (version : senderCfg.version ≠ 2) (driver : ∀ call, sender.txFunc call = true) (via : UInt16)
    (packet : Packet) :
    (can1Tx sender via packet).2.bus = sender.bus ++ if packet.id.dst = sender.link.addr then []
      else (List.range (can1Count packet)).map
        (can1FrameAt (can1Dest via packet) sender.cfpPacketCounter packet) := by
  rw [← can1Frames_eq version]
  exact canTx_bus driver packet _ _

section Packets

variable {Index : Type}

def can1Run (can : Can cfg qfifoLen) (arrivals : List (Index × Arrival cfg qfifoLen)) :
    Can cfg qfifoLen :=
  arrivals.foldl (fun can arrival => can1Arrive can arrival.2) can

/-- At each arrival there is a free buffer, and no reassembly is idle for too long. -/
def Ready (can : Can cfg qfifoLen) : List (Index × Arrival cfg qfifoLen) → Prop
  | [] => True
  | (_, arrival) :: rest =>
      (can.Timely arrival.now ∧ 0 < arrival.pool.remaining) ∧ Ready (can1Arrive can arrival) rest

instance (can : Can cfg qfifoLen) (now : UInt32) : Decidable (can.Timely now) :=
  inferInstanceAs (Decidable (∀ pbuf ∈ can.pbufs, ¬now - pbuf.lastUsed > pbufTimeoutMs))

instance decidableReady (can : Can cfg qfifoLen) :
    (arrivals : List (Index × Arrival cfg qfifoLen)) → Decidable (Ready can arrivals)
  | [] => .isTrue trivial
  | (_, arrival) :: rest =>
      have := decidableReady (can1Arrive can arrival) rest
      inferInstanceAs (Decidable (_ ∧ _))

/-- A packet with the destination and the identifier in its frames. -/
structure Fragmented where
  dest : Nat
  ident : UInt32
  packet : Packet

def Fragmented.key (sent : Fragmented) : Nat := can1Key sent.dest sent.ident sent.packet

def Fragmented.frameAt (sent : Fragmented) (index : Nat) : CanFrame :=
  can1FrameAt sent.dest sent.ident sent.packet index

/-- The receiver after some frames of each packet. -/
structure Gathered (sent : Index → Fragmented) (kept : Index → List Nat) (before can : Can cfg qfifoLen) :
    Prop where
  setup : before.SameSetup can
  distinct : Distinct (Pbuf.key cfpIdConnMask) can.pbufs
  progress : ∀ one, Progress1 can (sent one).key (sent one).packet (kept one)
  handed : ∃ whose out, can.link.handed = before.link.handed ++ out ∧
    List.Forall₂ (fun (received : Packet) one => received.Arrives (sent one).packet) out whose ∧
    whose.Nodup ∧ ∀ one, one ∈ whose ↔ Complete1 (sent one).packet (kept one)

variable {sent : Index → Fragmented} {kept kept' : Index → List Nat} {before can : Can cfg qfifoLen}

theorem Progress1.of_lookup {packet : Packet} {kept : List Nat} {key : Nat} {after : Can cfg qfifoLen}
    (progress : Progress1 can key packet kept)
    (same : after.partialPacket cfpIdConnMask key = can.partialPacket cfpIdConnMask key) :
    Progress1 after key packet kept := by
  cases progress with
  | waiting nothing absent => exact .waiting nothing (same.trans absent)
  | partly accepts short pbuf found holds => exact .partly accepts short pbuf (same.trans found) holds
  | delivered complete absent => exact .delivered complete (same.trans absent)
  | lost started rejects absent => exact .lost started rejects (same.trans absent)

theorem gathered_nil (quiet : before.pbufs = []) : Gathered sent (fun _ => []) before before where
  setup := .refl before
  distinct := by
    rw [Distinct, quiet]
    exact List.nodup_nil
  progress := by
    intro one
    apply Progress1.waiting rfl
    rw [Can.partialPacket, quiet]
    rfl
  handed := by
    refine ⟨[], [], (List.append_nil _).symm, .nil, List.nodup_nil, fun one => ?_⟩
    have positive := can1Count_pos (sent one).packet
    have incomplete : ¬Complete1 (sent one).packet [] := by
      rintro ⟨empty, _⟩
      have length := congrArg List.length empty
      rw [List.length_nil, List.length_range] at length
      omega
    exact ⟨fun member => absurd member List.not_mem_nil, fun complete => absurd complete incomplete⟩

theorem Gathered.between (gathered : Gathered sent kept before can) (arrival : Arrival cfg qfifoLen) :
    Gathered sent kept before (can.between arrival) :=
  ⟨⟨gathered.setup.addr, gathered.setup.mtu⟩, gathered.distinct,
    fun one => (gathered.progress one).of_lookup rfl, gathered.handed⟩

theorem can1Run_snoc (can : Can cfg qfifoLen) (done : List (Index × Arrival cfg qfifoLen)) (one : Index)
    (arrival : Arrival cfg qfifoLen) :
    can1Run can (done ++ [(one, arrival)]) = can1Arrive (can1Run can done) arrival := by
  rw [can1Run, List.foldl_append]
  rfl

theorem ready_snoc {done : List (Index × Arrival cfg qfifoLen)} {one : Index}
    {arrival : Arrival cfg qfifoLen} :
    Ready can (done ++ [(one, arrival)]) ↔
      Ready can done ∧ (can1Run can done).Timely arrival.now ∧ 0 < arrival.pool.remaining := by
  induction done generalizing can with
  | nil => exact ⟨fun ready => ⟨trivial, ready.1⟩, fun ready => ⟨ready.2, trivial⟩⟩
  | cons first rest ih =>
      rw [List.cons_append, Ready, ih, Ready]
      exact and_assoc.symm

/-- Each packet that is handed over reads like another sent one, and each one without losses is among
them. -/
def HandsOver (packet : Index → Packet) (lossless : Index → Prop) (before after : Can cfg qfifoLen) :
    Prop :=
  ∃ whose out, after.link.handed = before.link.handed ++ out ∧
    List.Forall₂ (fun received one => received.Arrives (packet one)) out whose ∧
    whose.Nodup ∧ ∀ one, lossless one → one ∈ whose

theorem mem_of_forall₂ {First Second : Type} {related : First → Second → Prop} {first : List First}
    {second : List Second} (all : List.Forall₂ related first second) :
    (∀ two ∈ second, ∃ one ∈ first, related one two) := by
  induction all with
  | nil => exact fun _ member => absurd member List.not_mem_nil
  | cons holds _ ih =>
      intro two member
      rcases List.mem_cons.mp member with rfl | later
      · exact ⟨_, List.mem_cons_self, holds⟩
      · obtain ⟨one, inside, related⟩ := ih two later
        exact ⟨one, List.mem_cons_of_mem _ inside, related⟩

/-- The receiver hands over exactly the complete packets, so the packets without losses are among them
when the number of their frames fits. -/
theorem Gathered.handsOver_iff (gathered : Gathered sent kept before can) {lossless : Index → Prop}
    (whole : ∀ one, lossless one → kept one = List.range (can1Count (sent one).packet)) :
    HandsOver (fun one => (sent one).packet) lossless before can ↔
      ∀ one, lossless one → (sent one).packet.length.toNat ≤ 2042 := by
  obtain ⟨whose, out, handed, arrive, nodup, complete⟩ := gathered.handed
  constructor
  · rintro ⟨whose', out', handed', arrive', _, all⟩ one noLoss
    rw [handed, List.append_cancel_left_eq] at handed'
    subst handed'
    obtain ⟨received, member, arrives⟩ := mem_of_forall₂ arrive' one (all one noLoss)
    obtain ⟨other, member', arrives'⟩ := mem_of_forall₂ arrive.flip received member
    have small := ((complete other).mp member').2
    rwa [← arrives.length, arrives'.length]
  · intro small
    exact ⟨whose, out, handed, arrive, nodup,
      fun one noLoss => (complete one).mpr ⟨whole one noLoss, small one noLoss⟩⟩

variable [DecidableEq Index]

/-- One more frame of a packet leaves the other packets alone. -/
theorem Gathered.step {after : Can cfg qfifoLen} (gathered : Gathered sent kept before can) {one : Index}
    (step : Step1 can after (sent one).key (sent one).packet (kept' one))
    (incomplete : ¬Complete1 (sent one).packet (kept one))
    (others : ∀ other, other ≠ one → kept' other = kept other)
    (apart : ∀ other, other ≠ one → (sent other).key ≠ (sent one).key) :
    Gathered sent kept' before after := by
  obtain ⟨⟨result, packets, steps, outcome⟩, progress⟩ := step
  obtain ⟨whose, out, handed, arrive, nodup, complete⟩ := gathered.handed
  refine ⟨gathered.setup.trans steps.setup, steps.distinct, ?_, ?_⟩
  · intro other
    by_cases same : other = one
    · subst same
      exact progress
    · rw [others other same]
      exact (gathered.progress other).of_lookup (steps.others _ (apart other same))
  · have fresh : one ∉ whose := fun member => incomplete ((complete one).mp member)
    rcases outcome with ⟨whole, received, rfl, arrives⟩ | ⟨notWhole, rfl⟩
    · refine ⟨whose ++ [one], out ++ [received], by rw [steps.handed, handed, List.append_assoc],
        List.rel_append arrive (.cons arrives .nil), ?_, ?_⟩
      · rw [← List.concat_eq_append]
        exact nodup.concat fresh
      · intro other
        rw [List.mem_append, List.mem_singleton]
        by_cases same : other = one
        · subst same
          exact ⟨fun _ => whole, fun _ => .inr rfl⟩
        · rw [others other same, ← complete]
          exact or_iff_left same
    · refine ⟨whose, out, by rw [steps.handed, handed, List.append_nil], arrive, nodup, fun other => ?_⟩
      by_cases same : other = one
      · subst same
        exact ⟨fun member => absurd member fresh, fun whole => absurd whole notWhole⟩
      · rw [others other same]
        exact complete other

/-- The surviving frames of all packets take the receiver to its state after them. -/
theorem gathered_run {senderCfg : Index → Config} (version : ∀ one, (senderCfg one).version ≠ 2)
    (fits : ∀ one, (sent one).packet.id.Fits (senderCfg one))
    (small : ∀ one, (sent one).packet.length ≤ before.link.mtu)
    (apart : ∀ one other, other ≠ one → (sent other).key ≠ (sent one).key)
    (quiet : before.pbufs = [])
    (sub : ∀ one, (kept one).Sublist (List.range (can1Count (sent one).packet)))
    (arrivals : List (Index × Arrival cfg qfifoLen))
    (follows : ∀ one, (part one arrivals).map Arrival.frame <+: (kept one).map (sent one).frameAt)
    (ready : Ready before arrivals) :
    Gathered sent (fun one => (kept one).take (part one arrivals).length) before
      (can1Run before arrivals) := by
  induction arrivals using List.reverseRecOn with
  | nil => exact gathered_nil quiet
  | append_singleton done last ih =>
      obtain ⟨one, arrival⟩ := last
      obtain ⟨follows, place⟩ := part_follows_snoc follows
      obtain ⟨ready, room⟩ := ready_snoc.mp ready
      have gathered := (ih follows ready).between arrival
      obtain ⟨inside, value⟩ := List.getElem?_eq_some_iff.mp place
      rw [List.length_map] at inside
      rw [List.getElem_map] at value
      have next : (kept one).take (part one (done ++ [(one, arrival)])).length =
          (kept one).take (part one done).length ++ [(kept one)[(part one done).length]] := by
        rw [part_snoc_same, List.length_append, List.length_singleton, List.take_append_getElem]
      have sub' : ((kept one).take (part one done).length ++ [(kept one)[(part one done).length]]).Sublist
          (List.range (can1Count (sent one).packet)) := by
        rw [← next]
        exact (List.take_sublist _ _).trans (sub one)
      have step := Progress1.step (version one) (fits one) (by rw [gathered.setup.mtu]; exact small one)
        arrival.now gathered.distinct (gathered.progress one) sub' room
      have frame : can1FrameAt (sent one).dest (sent one).ident (sent one).packet
          (kept one)[(part one done).length] = arrival.frame := value
      rw [frame, ← next] at step
      rw [can1Run_snoc]
      refine gathered.step step ?_ ?_ (apart one)
      · rintro ⟨whole, _⟩
        have length := congrArg List.length whole
        have more := sub'.length_le
        rw [List.length_append, List.length_singleton, List.length_range] at more
        rw [List.length_range] at length
        omega
      · intro other different
        simp only [part_snoc_other (Ne.symm different)]

/-- CFP 1.x hands over every packet without losses exactly when the number of its frames fits in the
field for the remaining frames. -/
theorem packets_reassembled_iff {senderCfg : Index → Config} (version : ∀ one, (senderCfg one).version = 1)
    {sender : (one : Index) → Can (senderCfg one) senderLen}
    (driver : ∀ one call, (sender one).txFunc call = true) {packet : Index → Packet} {via : Index → UInt16}
    (fits : ∀ one, (packet one).id.Fits (senderCfg one))
    (remote : ∀ one, (packet one).id.dst ≠ (sender one).link.addr)
    (apart : ∀ one other, one ≠ other →
      ((packet one).id.src.toNat % 2 ^ 5, can1Dest (via one) (packet one) % 2 ^ 5,
          (sender one).cfpPacketCounter.toNat % 2 ^ 10) ≠
        ((packet other).id.src.toNat % 2 ^ 5, can1Dest (via other) (packet other) % 2 ^ 5,
          (sender other).cfpPacketCounter.toNat % 2 ^ 10))
    {frames : Index → List CanFrame}
    (emitted : ∀ one, (can1Tx (sender one) (via one) (packet one)).2.bus = (sender one).bus ++ frames one)
    {can : Can cfg qfifoLen} (quiet : can.pbufs = []) (small : ∀ one, (packet one).length ≤ can.link.mtu)
    {arrivals : List (Index × Arrival cfg qfifoLen)}
    (survivors : ∀ one, ((part one arrivals).map Arrival.frame).Sublist (frames one))
    (ready : Ready can arrivals) :
    HandsOver packet (fun one => (part one arrivals).map Arrival.frame = frames one) can
        (can1Run can arrivals) ↔
      ∀ one, (part one arrivals).map Arrival.frame = frames one → (packet one).length.toNat ≤ 2042 := by
  have notTwo : ∀ one, (senderCfg one).version ≠ 2 := by
    intro one
    rw [version]
    decide
  have onBus : ∀ one, frames one = (List.range (can1Count (packet one))).map
      (can1FrameAt (can1Dest (via one) (packet one)) (sender one).cfpPacketCounter (packet one)) := by
    intro one
    have sent := emitted one
    rw [can1Tx_bus (notTwo one) (driver one), List.append_cancel_left_eq, if_neg (remote one)] at sent
    exact sent.symm
  have places : ∀ one, ∃ kept : List Nat, kept.Sublist (List.range (can1Count (packet one))) ∧
      (part one arrivals).map Arrival.frame = kept.map
        (can1FrameAt (can1Dest (via one) (packet one)) (sender one).cfpPacketCounter (packet one)) := by
    intro one
    have survived := survivors one
    rw [onBus, List.sublist_map_iff] at survived
    exact survived
  choose kept sub frame using places
  have gathered := @gathered_run cfg qfifoLen Index
    (fun one => ⟨can1Dest (via one) (packet one), (sender one).cfpPacketCounter, packet one⟩) kept can _
    senderCfg notTwo fits small
    (fun one other different same => apart other one different (by
      obtain ⟨src, dest, ident⟩ := can1Key_inj.mp same
      rw [src, dest, ident]))
    quiet sub arrivals (fun one => frame one ▸ List.prefix_refl _) ready
  have all : ∀ one, (kept one).take (part one arrivals).length = kept one := by
    intro one
    have length := congrArg List.length (frame one)
    rw [List.length_map, List.length_map] at length
    rw [length, List.take_length]
  simp only [all] at gathered
  refine gathered.handsOver_iff fun one noLoss => (sub one).eq_of_length ?_
  have length := congrArg List.length noLoss
  rw [frame, onBus, List.length_map, List.length_map] at length
  exact length

end Packets

/-- An interface of a new node with a driver that accepts each frame. -/
def can1Node (cfg : Config) (addr : UInt16) : Can cfg 15 :=
  canAddInterface
    { link := { iface := 1, addr, mtu := 0, frame := 0, rxError := 0, txError := 0, drop := 0
                pool := bufferInit cfg fun _ => default, qfifo := .empty, handed := [] }
      cfpPacketCounter := 0, txFunc := fun _ => true, pbufs := [], txCalls := 0, bus := [] }

def can1Packet (src : UInt16) (length : Nat) : Packet :=
  { (default : Packet) with
    length := UInt16.ofNat length
    id := { (default : CspId) with src, dst := 2 }
    mem := fun index => UInt8.ofNat index }

def can1Sent (cfg : Config) (src : UInt16) (length : Nat) : List CanFrame :=
  (can1Tx (can1Node cfg src) noViaAddress (can1Packet src length)).2.bus

def can1Arrivals {Index : Type} (cfg : Config) (frames : List (Index × CanFrame)) :
    List (Index × Arrival cfg 15) :=
  frames.map fun (one, frame) => (one, ⟨frame, 0, (can1Node cfg 2).link.pool, .empty⟩)

/-- The first node sends three frames. The second one sends three as well, and the middle one is lost. -/
def lossyPair : List (Bool × CanFrame) :=
  match can1Sent { version := 1 } 1 12, can1Sent { version := 1 } 3 12 with
  | [a, b, c], [d, _, f] => [(true, a), (false, d), (true, b), (false, f), (true, c)]
  | _, _ => []

theorem lossyPair_reassembled :
    HandsOver (fun one => can1Packet (if one then 1 else 3) 12)
      (fun one => (part one (can1Arrivals { version := 1 } lossyPair)).map Arrival.frame =
        can1Sent { version := 1 } (if one then 1 else 3) 12)
      (can1Node { version := 1 } 2)
      (can1Run (can1Node { version := 1 } 2) (can1Arrivals { version := 1 } lossyPair)) :=
  (@packets_reassembled_iff { version := 1 } 15 15 Bool _ (fun _ => { version := 1 }) (fun _ => rfl)
    (fun one => can1Node { version := 1 } (if one then 1 else 3)) (fun _ _ => rfl)
    (fun one => can1Packet (if one then 1 else 3) 12) (fun _ => noViaAddress)
    (fun one => by
      cases one <;> exact ⟨by decide, by decide, by decide, by decide, by decide, by decide⟩)
    (by decide +kernel) (by decide +kernel) (fun one => can1Sent { version := 1 } (if one then 1 else 3) 12)
    (fun _ => rfl) (can1Node { version := 1 } 2) rfl (by decide +kernel)
    (can1Arrivals { version := 1 } lossyPair) (by decide +kernel) (by decide +kernel)).mpr
      fun _ _ => (show (12 : UInt16).toNat ≤ 2042 by decide)

def largeBuild : Config := { bufferSize := 4096, version := 1 }

def largeFrames : List CanFrame := can1Sent largeBuild 1 2043

def largeArrivals : List (Unit × Arrival largeBuild 15) :=
  can1Arrivals largeBuild (largeFrames.map ((), ·))

/-- A packet of 2043 bytes needs 256 frames after the first one, and their number starts at zero. -/
theorem largePacket_lost :
    (can1Packet 1 2043).length ≤ (can1Node largeBuild 2).link.mtu ∧
      Ready (can1Node largeBuild 2) largeArrivals ∧
      ¬HandsOver (fun _ => can1Packet 1 2043)
        (fun one => (part one largeArrivals).map Arrival.frame = largeFrames) (can1Node largeBuild 2)
        (can1Run (can1Node largeBuild 2) largeArrivals) := by
  refine ⟨by decide +kernel, by decide +kernel, ?_⟩
  rintro ⟨whose, out, handed, arrive, _, all⟩
  have nothing : (can1Run (can1Node largeBuild 2) largeArrivals).link.handed.length = 0 := by
    decide +kernel
  obtain ⟨received, member, _⟩ := mem_of_forall₂ arrive () (all () (by decide +kernel))
  have some := List.length_pos_of_mem member
  rw [handed, List.length_append] at nothing
  omega

end Libcsp

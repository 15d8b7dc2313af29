/-
This file proves when CFP 2.0 keeps the packets of two senders apart.
-/
import Libcsp.Datagram
import Libcsp.Lib.Interleave

namespace Libcsp

open BitField KeyedList Chunks Interleave

variable {cfg : Config} {qfifoLen senderLen : Nat}

/-! ## The number of packets -/

/-- The packets that are in progress or handed over. -/
def Can.packets (can : Can cfg qfifoLen) : Nat := can.pbufs.length + can.link.handed.length

theorem pbufCleanup_length (now : UInt32) (unlinked : Bool) (pbufs : List Pbuf) (pool : Pool cfg) :
    (pbufCleanup now unlinked pbufs pool).1.length ≤ pbufs.length := by
  induction pbufs generalizing unlinked pool with
  | nil => exact Nat.le_refl 0
  | cons pbuf rest ih =>
      rw [pbufCleanup]
      split
      · have bound := ih (!unlinked) (bufferFree pool (some pbuf.frame.packet))
        cases unlinked
        · exact Nat.le_succ_of_le bound
        · exact Nat.succ_le_succ bound
      · exact Nat.succ_le_succ (ih false pool)

/-- The end of csp_can2_rx does not make packets. -/
theorem can2Append_packets {bound : Can cfg qfifoLen} {pbuf old : Pbuf}
    (found : bound.partialPacket cfp2IdConnMask (pbuf.key cfp2IdConnMask) = some old) (id : Nat)
    (data : List UInt8) : (can2Append bound pbuf id data).2.packets ≤ bound.packets := by
  have removed : (remove (Pbuf.key cfp2IdConnMask) (pbuf.key cfp2IdConnMask) bound.pbufs).length + 1 =
      bound.pbufs.length := length_remove found
  have stored : ∀ entry, (store (Pbuf.key cfp2IdConnMask) entry bound.pbufs).length = bound.pbufs.length :=
    fun entry => length_store entry
  rw [can2Append]
  split
  · show (remove (Pbuf.key cfp2IdConnMask) (pbuf.key cfp2IdConnMask) bound.pbufs).length +
      bound.link.handed.length ≤ bound.packets
    simp only [Can.packets]
    omega
  · simp only
    split
    · have handed := congrArg List.length (qfifoWrite_handed bound.link
        (can2Packet bound.link.addr (pbuf.append data).frame))
      rw [List.length_append, List.length_singleton] at handed
      show (remove (Pbuf.key cfp2IdConnMask) (pbuf.key cfp2IdConnMask) bound.pbufs).length +
        (qfifoWrite bound.link (can2Packet bound.link.addr (pbuf.append data).frame)).handed.length ≤
          bound.packets
      simp only [Can.packets]
      omega
    · show (store (Pbuf.key cfp2IdConnMask) (pbuf.append data) bound.pbufs).length +
        bound.link.handed.length ≤ bound.packets
      rw [stored]
      exact Nat.le_refl _

/-- A bound frame does not make packets. -/
theorem can2Rx_packets_bound {can bound : Can cfg qfifoLen} {frame : CanFrame} {now : UInt32}
    {pbuf old : Pbuf}
    (binds : canBind can frame.id cfp2IdConnMask (frame.id &&& cfp2Begin != 0) now = .ok (pbuf, bound))
    (found : bound.partialPacket cfp2IdConnMask (pbuf.key cfp2IdConnMask) = some old) :
    (can2Rx can frame now).2.packets ≤ bound.packets := by
  have removed : (remove (Pbuf.key cfp2IdConnMask) (pbuf.key cfp2IdConnMask) bound.pbufs).length + 1 =
      bound.pbufs.length := length_remove found
  have freed : (pbufFree bound cfp2IdConnMask pbuf).countFrame.packets ≤ bound.packets := by
    show (remove (Pbuf.key cfp2IdConnMask) (pbuf.key cfp2IdConnMask) bound.pbufs).length +
      bound.link.handed.length ≤ bound.packets
    simp only [Can.packets]
    omega
  simp only [can2Rx, binds]
  split
  · split
    · exact freed
    · exact @can2Append_packets cfg qfifoLen bound.countFrame (can2Begin pbuf frame) old found _ _
  · split
    · exact freed
    · exact @can2Append_packets cfg qfifoLen bound
        { pbuf with rxCount := (pbuf.rxCount + 1) &&& UInt16.ofNat cfp2FcMask } old found _ _

/-- Only a BEGIN frame without a partial packet makes one, and it needs a buffer. -/
theorem can2Rx_packets (can : Can cfg qfifoLen) (frame : CanFrame) (now : UInt32) :
    (can2Rx can frame now).2.packets ≤ can.packets ∨
      (can.partialPacket cfp2IdConnMask (frame.id &&& cfp2IdConnMask) = none ∧
        frame.id &&& cfp2Begin ≠ 0 ∧
        0 < (pbufCleanup now false can.pbufs can.link.pool).2.remaining ∧
        (can2Rx can frame now).2.packets ≤
          (pbufCleanup now false can.pbufs can.link.pool).1.length + 1 + can.link.handed.length) := by
  rcases canBind_cases can frame.id cfp2IdConnMask (frame.id &&& cfp2Begin != 0) now with
    ⟨pbuf, found, binds⟩ | ⟨_, _, binds⟩ | ⟨_, _, _, link, binds, handed, _⟩ |
    ⟨absent, begins, filled, link, pbuf, binds, handed, _, _, cfpid, _⟩
  · have place : pbuf.key cfp2IdConnMask = frame.id &&& cfp2IdConnMask := lookup_key found
    rw [← place] at found
    exact .inl (@can2Rx_packets_bound cfg qfifoLen can can frame now { pbuf with lastUsed := now } pbuf
      binds found)
  · left
    simp only [can2Rx, binds]
    exact Nat.le_refl _
  · left
    have length := pbufCleanup_length now false can.pbufs can.link.pool
    simp only [can2Rx, binds, Can.packets, handed]
    omega
  · right
    refine ⟨absent, by simpa using begins, filled, ?_⟩
    have bounded := @can2Rx_packets_bound cfg qfifoLen can _ frame now pbuf pbuf binds
      (by rw [Can.partialPacket, lookup_cons, if_pos rfl])
    simp only [Can.packets, List.length_cons, handed] at bounded
    exact bounded

/-! ## Two senders -/

/-- Each arrival is tagged with its sender, which is one of two. -/
def can2Run (can : Can cfg qfifoLen) (arrivals : List (Bool × Arrival cfg qfifoLen)) :
    Can cfg qfifoLen :=
  arrivals.foldl (fun can arrival => can2Arrive can arrival.2) can

/-- The first frame of a sender finds a free buffer. When it arrives in the middle of the packet of the
other sender, the senders are separate and that packet has not timed out. -/
structure Starts (frames : Bool → Nat) (separate : Prop) (done : List (Bool × Arrival cfg qfifoLen))
    (sender : Bool) (arrival : Arrival cfg qfifoLen) : Prop where
  buffer : 0 < arrival.pool.remaining
  apart : ∀ last ∈ (part (!sender) done).getLast?, (part (!sender) done).length < frames (!sender) →
    separate ∧ ¬arrival.now - last.now > pbufTimeoutMs

/-- No sender is disturbed when it starts its packet. -/
def Undisturbed (frames : Bool → Nat) (separate : Prop)
    (arrivals : List (Bool × Arrival cfg qfifoLen)) : Prop :=
  ∀ done sender arrival rest, arrivals = done ++ (sender, arrival) :: rest →
    part sender done = [] → Starts frames separate done sender arrival

variable {frames : Bool → Nat} {separate : Prop} {done : List (Bool × Arrival cfg qfifoLen)}
  {sender : Bool} {arrival : Arrival cfg qfifoLen}

theorem part_snoc_not (sender : Bool) (done : List (Bool × Arrival cfg qfifoLen))
    (arrival : Arrival cfg qfifoLen) : part (!sender) (done ++ [(sender, arrival)]) = part (!sender) done :=
  part_snoc_other (Bool.not_ne_self sender).symm _ _

theorem undisturbed_nil : Undisturbed frames separate ([] : List (Bool × Arrival cfg qfifoLen)) := by
  intro done _ _ _ split
  cases done <;> cases split

theorem undisturbed_snoc :
    Undisturbed frames separate (done ++ [(sender, arrival)]) ↔
      Undisturbed frames separate done ∧
        (part sender done = [] → Starts frames separate done sender arrival) := by
  constructor
  · intro starts
    refine ⟨?_, starts done sender arrival [] rfl⟩
    rintro front who other rest rfl
    exact starts front who other (rest ++ [(sender, arrival)]) (by simp)
  · rintro ⟨starts, last⟩ front who other rest split
    rcases List.eq_nil_or_concat rest with rfl | ⟨middle, final, rfl⟩
    · obtain ⟨same, single⟩ := List.append_inj' split rfl
      cases single
      cases same
      exact last
    · rw [List.concat_eq_append, ← List.cons_append, ← List.append_assoc] at split
      exact starts front who other middle (List.append_inj' split rfl).1

/-- Separate senders with buffers at hand and no long pause are undisturbed. -/
theorem undisturbed_of_calm (apart : separate) {arrivals : List (Bool × Arrival cfg qfifoLen)}
    (buffers : ∀ one ∈ arrivals, 0 < one.2.pool.remaining)
    (quick : ∀ one ∈ arrivals, ∀ other ∈ arrivals, ¬other.2.now - one.2.now > pbufTimeoutMs) :
    Undisturbed frames separate arrivals := by
  rintro done sender arrival rest rfl first
  have here : (sender, arrival) ∈ done ++ (sender, arrival) :: rest :=
    List.mem_append_right _ List.mem_cons_self
  refine ⟨buffers _ here, fun last isLast _ => ⟨apart, ?_⟩⟩
  have before := mem_part.mp (List.mem_of_mem_getLast? isLast)
  exact quick _ (List.mem_append_left _ before) _ here

/-! ## Undisturbed runs -/

/-- One packet of one sender. -/
structure Transmission where
  addr : UInt16
  senderCount : UInt32
  packet : Packet

def Transmission.key (sent : Transmission) : Nat := cfp2ConnId sent.packet.id sent.addr sent.senderCount

def Transmission.total (sent : Transmission) : Nat := can2Count sent.packet

def Transmission.frameAt (sent : Transmission) (index : Nat) : CanFrame :=
  can2FrameAt sent.addr sent.senderCount sent.packet index

/-- Some but not all frames of the sender have arrived. -/
def InProgress (sent : Bool → Transmission) (done : List (Bool × Arrival cfg qfifoLen)) (sender : Bool) :
    Prop :=
  part sender done ≠ [] ∧ (part sender done).length < (sent sender).total

/-- The receiver has handed this packet of the sender over. -/
structure Transmission.Received (sent : Transmission) (addr : UInt16) (received : Packet) : Prop where
  id : received.id = sent.packet.id.across addr
  payload : received.payload = sent.packet.payload

/-- The receiver has a partial packet for each sender in progress and has handed over the others. -/
structure Together (sent : Bool → Transmission) (before can : Can cfg qfifoLen)
    (done : List (Bool × Arrival cfg qfifoLen)) : Prop where
  setup : before.SameSetup can
  distinct : Distinct (Pbuf.key cfp2IdConnMask) can.pbufs
  held : ∀ sender, InProgress sent done sender →
    ∃ pbuf, can.partialPacket cfp2IdConnMask (sent sender).key = some pbuf ∧
      pbuf.Holds2 (sent sender).packet.id
        (join 4 canFrameSize (sent sender).packet.payload (List.range (part sender done).length))
        (part sender done).length ∧
      ∀ last ∈ (part sender done).getLast?, pbuf.lastUsed = last.now
  only : ∀ pbuf ∈ can.pbufs, ∃ sender, InProgress sent done sender ∧
    pbuf.key cfp2IdConnMask = (sent sender).key
  apart : ∀ sender, InProgress sent done sender → InProgress sent done (!sender) →
    (sent sender).key ≠ (sent !sender).key
  delivered : ∃ order out, can.link.handed = before.link.handed ++ out ∧
    List.Forall₂ (fun received sender => (sent sender).Received before.link.addr received) out order ∧
    order.Nodup ∧ ∀ sender, sender ∈ order ↔ (part sender done).length = (sent sender).total

section Step

variable {sent : Bool → Transmission} {before can : Can cfg qfifoLen}

theorem Together.between (together : Together sent before can done) (arrival : Arrival cfg qfifoLen) :
    Together sent before (can.between arrival) done :=
  ⟨⟨together.setup.addr, together.setup.mtu⟩, together.distinct, together.held, together.only,
    together.apart, together.delivered⟩

theorem Transmission.total_pos (sent : Transmission) : 0 < sent.total := can2Count_pos _

theorem together_nil (quiet : before.pbufs = []) : Together sent before before [] where
  setup := .refl before
  distinct := by
    rw [Distinct, quiet]
    exact List.nodup_nil
  held := fun _ progress => absurd rfl progress.1
  only := by
    intro pbuf member
    rw [quiet] at member
    cases member
  apart := fun _ progress => absurd rfl progress.1
  delivered := by
    refine ⟨[], [], (List.append_nil _).symm, .nil, List.nodup_nil, fun sender => ?_⟩
    have positive := (sent sender).total_pos
    simp only [List.not_mem_nil, part_nil, List.length_nil, false_iff]
    omega

/-- When a sender starts, each partial packet is the one of the other sender. -/
theorem Together.onlyOther (together : Together sent before can done)
    (first : part sender done = []) {pbuf : Pbuf} (member : pbuf ∈ can.pbufs) :
    InProgress sent done (!sender) ∧ pbuf.key cfp2IdConnMask = (sent !sender).key := by
  obtain ⟨who, progress, key⟩ := together.only pbuf member
  rcases Bool.eq_or_eq_not who sender with rfl | rfl
  · exact absurd first progress.1
  · exact ⟨progress, key⟩

theorem Together.absent (together : Together sent before can done)
    (first : part sender done = [])
    (separate : InProgress sent done (!sender) → (sent sender).key ≠ (sent !sender).key) :
    can.partialPacket cfp2IdConnMask (sent sender).key = none := by
  rw [Can.partialPacket, lookup_eq_none]
  intro pbuf member same
  obtain ⟨progress, key⟩ := together.onlyOther first member
  exact separate progress (same.symm.trans key)

theorem Together.timely (together : Together sent before can done)
    (first : part sender done = []) {now : UInt32}
    (current : ∀ last ∈ (part (!sender) done).getLast?,
      (part (!sender) done).length < (sent !sender).total → ¬now - last.now > pbufTimeoutMs) :
    can.Timely now := by
  intro pbuf member
  obtain ⟨progress, key⟩ := together.onlyOther first member
  obtain ⟨held, found, _, used⟩ := together.held (!sender) progress
  have same := lookup_of_mem together.distinct member
  rw [key] at same
  rw [Can.partialPacket, same] at found
  cases found
  have last := List.getLast?_eq_some_getLast progress.1
  rw [used _ last]
  exact current _ last progress.2

theorem inProgress_own :
    InProgress sent (done ++ [(sender, arrival)]) sender ↔
      (part sender done).length + 1 < (sent sender).total := by
  simp [InProgress]

theorem inProgress_other :
    InProgress sent (done ++ [(sender, arrival)]) (!sender) ↔ InProgress sent done (!sender) := by
  rw [InProgress, InProgress, part_snoc_not]

/-- The receiver stays together when a frame of a sender drops nothing. -/
theorem Together.advance {after : Can cfg qfifoLen} (together : Together sent before can done)
    (small : 6 + (sent sender).packet.payload.length ≤ before.link.mtu.toNat)
    (more : (part sender done).length < (sent sender).total)
    (separate : InProgress sent done (!sender) → (sent sender).key ≠ (sent !sender).key)
    (outcome : Can2Outcome can after (sent sender).key (sent sender).packet.id
      (join 4 canFrameSize (sent sender).packet.payload
        (List.range ((part sender done).length + 1)))
      ((part sender done).length + 1)
      ((part sender done).length + 1 = (sent sender).total) arrival.now) :
    Together sent before after (done ++ [(sender, arrival)]) := by
  obtain ⟨result, packets, steps, own, out⟩ : ∃ result packets,
      can.Steps cfp2IdConnMask (sent sender).key after result packets ∧
      (if (part sender done).length + 1 < (sent sender).total then
        ∃ pbuf, result = some pbuf ∧ pbuf.Holds2 (sent sender).packet.id
          (join 4 canFrameSize (sent sender).packet.payload
            (List.range ((part sender done).length + 1)))
          ((part sender done).length + 1) ∧ pbuf.lastUsed = arrival.now
      else result = none) ∧
      (if (part sender done).length + 1 < (sent sender).total then packets = []
      else ∃ received, packets = [received] ∧ (sent sender).Received before.link.addr received) := by
    cases outcome with
    | dropped large steps =>
        rw [together.setup.mtu, join_range] at large
        have := List.length_take_le' (start 4 canFrameSize ((part sender done).length + 1))
          (sent sender).packet.payload
        omega
    | delivered _ ends received sameId payload steps =>
        have last : ¬(part sender done).length + 1 < (sent sender).total := by omega
        refine ⟨_, _, steps, by rw [if_neg last], ?_⟩
        rw [if_neg last]
        refine ⟨received, rfl, by rw [sameId, together.setup.addr], ?_⟩
        have number : (sent sender).total =
            count 4 canFrameSize (sent sender).packet.payload.length := by
          rw [Packet.payload_length]
          rfl
        rw [payload, ends, number]
        exact join_all canFrameSize_pos _
    | kept _ notLast pbuf holds used steps =>
        have open' : (part sender done).length + 1 < (sent sender).total := by omega
        exact ⟨_, _, steps, by rw [if_pos open']; exact ⟨pbuf, rfl, holds, used⟩, by rw [if_pos open']⟩
  have others : ∀ who, InProgress sent (done ++ [(sender, arrival)]) who →
      (who = sender ∧ (part sender done).length + 1 < (sent sender).total) ∨
        (who = !sender ∧ InProgress sent done (!sender)) := by
    intro who progress
    rcases Bool.eq_or_eq_not who sender with rfl | rfl
    · exact .inl ⟨rfl, inProgress_own.mp progress⟩
    · exact .inr ⟨rfl, inProgress_other.mp progress⟩
  refine ⟨together.setup.trans steps.setup, steps.distinct, ?_, ?_, ?_, ?_⟩
  · intro who progress
    rcases others who progress with ⟨rfl, open'⟩ | ⟨rfl, progress'⟩
    · rw [if_pos open'] at own
      obtain ⟨pbuf, rfl, holds, used⟩ := own
      rw [part_snoc_same, List.length_append, List.length_singleton, List.getLast?_concat]
      refine ⟨pbuf, steps.own, holds, ?_⟩
      intro last isLast
      cases isLast
      exact used
    · rw [steps.others _ (Ne.symm (separate progress')), part_snoc_not]
      exact together.held _ progress'
  · intro pbuf member
    have found := lookup_of_mem steps.distinct member
    by_cases same : pbuf.key cfp2IdConnMask = (sent sender).key
    · refine ⟨sender, inProgress_own.mpr ?_, same⟩
      by_contra last
      rw [if_neg last] at own
      have none := steps.own
      rw [own, Can.partialPacket, ← same, found] at none
      cases none
    · have before := steps.others _ same
      rw [Can.partialPacket, found] at before
      obtain ⟨who, progress, key⟩ := together.only pbuf (lookup_mem before.symm)
      rcases Bool.eq_or_eq_not who sender with rfl | rfl
      · exact absurd key same
      · exact ⟨!sender, inProgress_other.mpr progress, key⟩
  · intro who progress progress'
    rcases others who progress with ⟨rfl, _⟩ | ⟨rfl, other⟩
    · exact separate (inProgress_other.mp progress')
    · rw [Bool.not_not]
      exact Ne.symm (separate other)
  · obtain ⟨order, delivered, handed, received, nodup, complete⟩ := together.delivered
    have notYet : sender ∉ order := fun member => by
      have := (complete sender).mp member
      omega
    have other := complete (!sender)
    by_cases last : (part sender done).length + 1 < (sent sender).total
    · rw [if_pos last] at out
      subst out
      refine ⟨order, delivered, by rw [steps.handed, handed, List.append_nil], received, nodup, ?_⟩
      intro who
      rcases Bool.eq_or_eq_not who sender with rfl | rfl
      · rw [part_snoc_same, List.length_append, List.length_singleton]
        exact ⟨fun member => absurd member notYet, fun all => absurd all (by omega)⟩
      · rw [part_snoc_not]
        exact other
    · rw [if_neg last] at out
      obtain ⟨packet, rfl, isPacket⟩ := out
      refine ⟨order ++ [sender], delivered ++ [packet], by rw [steps.handed, handed, List.append_assoc],
        List.rel_append received (.cons isPacket .nil), ?_, ?_⟩
      · rw [List.nodup_append]
        refine ⟨nodup, List.nodup_singleton _, fun who member other same => ?_⟩
        rintro rfl
        rw [List.mem_singleton] at same
        exact notYet (same ▸ member)
      · intro who
        rcases Bool.eq_or_eq_not who sender with rfl | rfl
        · rw [part_snoc_same, List.length_append, List.length_singleton]
          exact ⟨fun _ => by omega, fun _ => List.mem_append_right _ List.mem_cons_self⟩
        · rw [part_snoc_not, ← other, List.mem_append, List.mem_singleton]
          exact or_iff_left (Bool.not_ne_self sender)

/-- The next frame of a sender keeps the receiver together when the sender starts well. -/
theorem Together.step (together : Together sent before can done)
    (small : 6 + (sent sender).packet.payload.length ≤ before.link.mtu.toNat)
    (isFrame : arrival.frame = (sent sender).frameAt (part sender done).length)
    (more : (part sender done).length < (sent sender).total)
    (starts : part sender done = [] →
      Starts (fun who => (sent who).total) ((sent true).key ≠ (sent false).key) done sender arrival) :
    Together sent before (can2Arrive can arrival) (done ++ [(sender, arrival)]) := by
  have together' := together.between arrival
  have separate : part sender done = [] → InProgress sent done (!sender) →
      (sent sender).key ≠ (sent !sender).key := by
    intro first progress
    obtain ⟨differ, _⟩ := (starts first).apart _ (List.getLast?_eq_some_getLast progress.1) progress.2
    cases sender
    · exact Ne.symm differ
    · exact differ
  rw [can2Arrive, isFrame]
  by_cases first : part sender done = []
  · have absent := together'.absent first (separate first)
    have timely := together'.timely first
      (fun last isLast open' => ((starts first).apart last isLast open').2)
    apply together'.advance small more (separate first)
    rw [first, List.length_nil]
    have outcome := @can2Rx_begin cfg qfifoLen (can.between arrival) (sent sender).addr
      (sent sender).senderCount (sent sender).packet arrival.now together'.distinct
      (fun _ => ⟨timely, (starts first).buffer⟩)
    rw [← join_singleton] at outcome
    exact outcome
  · have progress : InProgress sent done sender := ⟨first, more⟩
    obtain ⟨old, found, holds, _⟩ := together'.held sender progress
    have later : (part sender done).length ≠ 0 := mt List.length_eq_zero_iff.mp first
    apply together'.advance small more (together.apart sender progress)
    rcases can2Rx_next arrival.now later together'.distinct found holds with ⟨gap, _⟩ | ⟨_, outcome⟩
    · exact absurd rfl gap
    · rw [← join_singleton, ← join_append, ← List.range_succ] at outcome
      exact outcome

end Step

/-! ## Disturbed runs -/

/-- The number of senders that have not started. -/
def waiting (done : List (Bool × Arrival cfg qfifoLen)) : Nat :=
  (if part true done = [] then 1 else 0) + if part false done = [] then 1 else 0

theorem waiting_snoc (sender : Bool) (done : List (Bool × Arrival cfg qfifoLen))
    (arrival : Arrival cfg qfifoLen) :
    waiting (done ++ [(sender, arrival)]) + (if part sender done = [] then 1 else 0) =
      waiting done := by
  have own : ¬part sender done ++ [arrival] = [] := by simp
  cases sender with
  | true =>
      have other : part false (done ++ [(true, arrival)]) = _ := part_snoc_not true done arrival
      rw [waiting, waiting, part_snoc_same, other, if_neg own, Nat.zero_add, Nat.add_comm]
      rfl
  | false =>
      have other : part true (done ++ [(false, arrival)]) = _ := part_snoc_not false done arrival
      rw [waiting, waiting, part_snoc_same, other, if_neg own]
      rfl

section Bound

variable {sent : Bool → Transmission} {before can : Can cfg qfifoLen}

/-- A frame makes a packet only when its sender starts. -/
theorem packets_step (can : Can cfg qfifoLen)
    (isFrame : arrival.frame = (sent sender).frameAt (part sender done).length) :
    (can2Arrive can arrival).packets + waiting (done ++ [(sender, arrival)]) ≤
      can.packets + waiting done := by
  have wait := waiting_snoc sender done arrival
  rcases can2Rx_packets (can.between arrival) arrival.frame arrival.now with
    fewer | ⟨_, begins, _, more⟩
  · have fewer' : (can2Arrive can arrival).packets ≤ can.packets := fewer
    omega
  · have first : part sender done = [] := by
      rw [isFrame] at begins
      exact List.length_eq_zero_iff.mp ((can2FrameAt_begins _ _ _ _).mp begins)
    have cleaned := pbufCleanup_length arrival.now false can.pbufs arrival.pool
    have more' : (can2Arrive can arrival).packets ≤
        (pbufCleanup arrival.now false can.pbufs arrival.pool).1.length + 1 + can.link.handed.length :=
      more
    have packets : can.packets = can.pbufs.length + can.link.handed.length := rfl
    rw [if_pos first] at wait
    omega

/-- When a sender starts, only the other one can have a partial packet. -/
theorem Together.alone (together : Together sent before can done) (first : part sender done = []) :
    can.pbufs = [] ∨ ∃ pbuf, can.pbufs = [pbuf] ∧ InProgress sent done (!sender) ∧
      pbuf.key cfp2IdConnMask = (sent !sender).key ∧
      ∃ last, (part (!sender) done).getLast? = some last ∧ pbuf.lastUsed = last.now := by
  have other : ∀ pbuf ∈ can.pbufs, InProgress sent done (!sender) ∧
      pbuf.key cfp2IdConnMask = (sent !sender).key := fun _ member => together.onlyOther first member
  have distinct := together.distinct
  cases pbufs : can.pbufs with
  | nil => exact .inl rfl
  | cons pbuf rest =>
      rw [pbufs] at other distinct
      obtain ⟨progress, key⟩ := other pbuf List.mem_cons_self
      cases rest with
      | nil =>
          obtain ⟨held, found, _, used⟩ := together.held _ progress
          rw [Can.partialPacket, pbufs, lookup_cons, if_pos key] at found
          cases found
          have last := List.getLast?_eq_some_getLast progress.1
          exact .inr ⟨pbuf, rfl, progress, key, _, last, used _ last⟩
      | cons second more =>
          have key' := (other second (List.mem_cons_of_mem _ List.mem_cons_self)).2
          rw [Distinct, List.map_cons, List.map_cons, key, key'] at distinct
          exact absurd List.mem_cons_self (List.nodup_cons.mp distinct).1

/-- A sender that starts badly makes no packet or costs the other one its partial packet. -/
theorem Together.disturbed (together : Together sent before can done)
    (isFrame : arrival.frame = (sent sender).frameAt (part sender done).length)
    (first : part sender done = [])
    (disturbed : ¬Starts (fun who => (sent who).total) ((sent true).key ≠ (sent false).key) done sender
      arrival) :
    (can2Arrive can arrival).packets ≤ can.packets := by
  rcases can2Rx_packets (can.between arrival) arrival.frame arrival.now with
    fewer | ⟨absent, _, filled, more⟩
  · exact fewer
  have packets : can.packets = can.pbufs.length + can.link.handed.length := rfl
  have more' : (can2Arrive can arrival).packets ≤
      (pbufCleanup arrival.now false can.pbufs arrival.pool).1.length + 1 + can.link.handed.length :=
    more
  have filled' : 0 < (pbufCleanup arrival.now false can.pbufs arrival.pool).2.remaining := filled
  rw [isFrame, Transmission.frameAt, can2FrameAt_key] at absent
  -- Only the other sender can have a partial packet, and it has at most one.
  rcases together.alone first with none | ⟨pbuf, one, progress, key, last, isLast, used⟩
  · rw [none] at filled'
    refine absurd ⟨filled', fun last isLast open' => ?_⟩ disturbed
    have started : InProgress sent done (!sender) :=
      ⟨fun empty => (by rw [empty] at isLast; cases isLast), open'⟩
    obtain ⟨pbuf, found, _⟩ := together.held _ started
    rw [Can.partialPacket, none] at found
    cases found
  · by_cases late : arrival.now - pbuf.lastUsed > pbufTimeoutMs
    · rw [one, pbufCleanup, if_pos late] at more'
      rw [packets, one]
      exact more'
    · rw [one, pbufCleanup, if_neg late] at filled'
      refine absurd ⟨filled', fun other isOther _ => ⟨?_, ?_⟩⟩ disturbed
      · have differ : (sent sender).key ≠ (sent !sender).key := by
          intro same
          have missing : can.partialPacket cfp2IdConnMask (sent sender).key = none := absent
          rw [Can.partialPacket, one, lookup_cons, if_pos (key.trans same.symm)] at missing
          cases missing
        cases sender
        · exact Ne.symm differ
        · exact differ
      · rw [isLast] at isOther
        cases isOther
        rw [← used]
        exact late

/-- The frames of each sender arrive in their order. -/
def Follows (sent : Bool → Transmission) (done : List (Bool × Arrival cfg qfifoLen)) : Prop :=
  ∀ sender, (part sender done).map Arrival.frame <+:
    (List.range (sent sender).total).map (sent sender).frameAt

theorem Follows.snoc (follows : Follows sent (done ++ [(sender, arrival)])) :
    Follows sent done ∧ arrival.frame = (sent sender).frameAt (part sender done).length ∧
      (part sender done).length < (sent sender).total := by
  obtain ⟨earlier, place⟩ := part_follows_snoc follows
  obtain ⟨inside, value⟩ := List.getElem?_eq_some_iff.mp place
  rw [List.length_map, List.length_range] at inside
  rw [List.getElem_map, List.getElem_range] at value
  exact ⟨earlier, value.symm, inside⟩

theorem can2Run_snoc :
    can2Run before (done ++ [(sender, arrival)]) = can2Arrive (can2Run before done) arrival := by
  rw [can2Run, List.foldl_append]
  rfl

/-- Each sender makes at most one packet. -/
theorem packets_run (before : Can cfg qfifoLen) (arrivals : List (Bool × Arrival cfg qfifoLen))
    (follows : Follows sent arrivals) :
    (can2Run before arrivals).packets + waiting arrivals ≤ before.packets + 2 := by
  induction arrivals using List.reverseRecOn with
  | nil => exact Nat.le_refl _
  | append_singleton done last ih =>
      obtain ⟨sender, arrival⟩ := last
      obtain ⟨follows, isFrame, _⟩ := follows.snoc
      have step := packets_step (can2Run before done) isFrame
      rw [can2Run_snoc]
      exact step.trans (ih follows)

/-- The receiver stays together as long as no sender is disturbed, and otherwise a packet is lost. -/
theorem senders_run (quiet : before.pbufs = [])
    (small : ∀ sender, 6 + (sent sender).packet.payload.length ≤ before.link.mtu.toNat)
    (arrivals : List (Bool × Arrival cfg qfifoLen)) (follows : Follows sent arrivals) :
    (Together sent before (can2Run before arrivals) arrivals ∧
        Undisturbed (fun who => (sent who).total) ((sent true).key ≠ (sent false).key) arrivals) ∨
      ((can2Run before arrivals).packets + waiting arrivals ≤ before.packets + 1 ∧
        ¬Undisturbed (fun who => (sent who).total) ((sent true).key ≠ (sent false).key) arrivals) := by
  induction arrivals using List.reverseRecOn with
  | nil => exact .inl ⟨together_nil quiet, undisturbed_nil⟩
  | append_singleton done last ih =>
      obtain ⟨sender, arrival⟩ := last
      have bound := packets_run before done follows.snoc.1
      obtain ⟨follows, isFrame, more⟩ := follows.snoc
      rw [can2Run_snoc, undisturbed_snoc]
      rcases ih follows with ⟨together, calm⟩ | ⟨lost, disturbed⟩
      · by_cases starts : part sender done = [] →
            Starts (fun who => (sent who).total) ((sent true).key ≠ (sent false).key) done sender arrival
        · exact .inl ⟨together.step (small sender) isFrame more starts, calm, starts⟩
        · right
          obtain ⟨first, bad⟩ := Classical.not_imp.mp starts
          have fewer := together.disturbed isFrame first bad
          have wait := waiting_snoc sender done arrival
          rw [if_pos first] at wait
          exact ⟨by omega, fun calm => starts calm.2⟩
      · have step := packets_step (can2Run before done) isFrame
        exact .inr ⟨step.trans lost, fun calm => disturbed calm.1⟩

end Bound

/-! ## Both packets -/

/-- An identifier that a receiver makes from one with the same destination crosses. -/
theorem crosses_of_across {id other : CspId} {addr : UInt16} (same : id.across addr = other)
    (dst : id.dst = other.dst) : other.Crosses addr := by
  obtain ⟨pri, cutDst, src, dport, sport, flags⟩ := id.cut2_toNat
  have broadcast : id.cut2.dst = 0x3FFF ↔ id.dst.toNat % 2 ^ 14 = 0x3FFF := by
    rw [← UInt16.toNat_inj, cutDst]
    rfl
  have fields : other.pri = id.cut2.pri ∧ other.src = id.cut2.src ∧ other.dport = id.cut2.dport ∧
      other.sport = id.cut2.sport ∧ other.flags = id.cut2.flags := by
    rw [← same, CspId.across]
    split <;> exact ⟨rfl, rfl, rfl, rfl, rfl⟩
  obtain ⟨samePri, sameSrc, sameDport, sameSport, sameFlags⟩ := fields
  constructor
  · rw [samePri, pri]
    exact Nat.mod_lt _ (by decide)
  · rw [← dst]
    have other' := congrArg CspId.dst same
    rw [← dst, CspId.across] at other'
    split
    · rename_i reserved
      rw [if_pos (broadcast.mpr reserved)] at other'
      exact other'.symm
    · rename_i unicast
      rw [if_neg (mt broadcast.mp unicast)] at other'
      rw [← other', cutDst]
      exact Nat.mod_lt _ (by decide)
  · rw [sameSrc, src]
    exact Nat.mod_lt _ (by decide)
  · rw [sameDport, dport]
    exact Nat.mod_lt _ (by decide)
  · rw [sameSport, sport]
    exact Nat.mod_lt _ (by decide)
  · rw [sameFlags, flags]
    exact Nat.mod_lt _ (by decide)

theorem both_of_nodup {order : List Bool} (nodup : order.Nodup) (all : ∀ sender, sender ∈ order) :
    ∃ sender, order = [sender, !sender] := by
  have length := nodup.length_le_card
  rw [Fintype.card_bool] at length
  match order, all with
  | [], all => exact absurd (all true) List.not_mem_nil
  | [only], all =>
      have other := List.mem_singleton.mp (all !only)
      exact absurd other (Bool.not_ne_self only)
  | [first, second], _ =>
      have differ : first ≠ second := by simpa using nodup
      refine ⟨first, ?_⟩
      cases first <;> cases second <;> first | rfl | exact absurd rfl differ
  | _ :: _ :: _ :: _, _ => simp at length

section Senders

variable {senderCfg : Config} {senders : Bool → Can senderCfg senderLen} {packet : Bool → Packet}

/-- Both packets come out, each once and each with the identifier and the payload of one sender. -/
def BothArrive (packet : Bool → Packet) (before after : Can cfg qfifoLen) : Prop :=
  ∃ sender first second, after.link.handed = before.link.handed ++ [first, second] ∧
    first.Arrives (packet sender) ∧ second.Arrives (packet !sender)

/-- The receiver can tell the senders apart. -/
def Separate (senders : Bool → Can senderCfg senderLen) : Prop :=
  (senders true).link.addr.toNat % 2 ^ 5 ≠ (senders false).link.addr.toNat % 2 ^ 5 ∨
    (senders true).cfpPacketCounter.toNat % 2 ^ 2 ≠ (senders false).cfpPacketCounter.toNat % 2 ^ 2

/-- The packets of the senders on the bus. -/
def transmissions (senders : Bool → Can senderCfg senderLen) (packet : Bool → Packet) (sender : Bool) :
    Transmission :=
  ⟨(senders sender).link.addr, (senders sender).cfpPacketCounter, packet sender⟩

theorem separate_iff (samePri : (packet true).id.pri = (packet false).id.pri)
    (sameDst : (packet true).id.dst = (packet false).id.dst) :
    (transmissions senders packet true).key ≠ (transmissions senders packet false).key ↔
      Separate senders := by
  have same := @cfp2ConnId_inj (packet true).id (packet false).id (senders true).link.addr
    (senders false).link.addr (senders true).cfpPacketCounter (senders false).cfpPacketCounter
  rw [samePri, sameDst, and_iff_right rfl, and_iff_right rfl] at same
  rw [Separate, ← not_and_or]
  exact not_congr same

theorem BothArrive.length {before after : Can cfg qfifoLen} (both : BothArrive packet before after) :
    after.link.handed.length = before.link.handed.length + 2 := by
  obtain ⟨_, first, second, handed, _⟩ := both
  rw [handed, List.length_append]
  rfl

/-- A receiver that has stayed together to the end has handed both packets over. -/
theorem Together.both_iff {before after : Can cfg qfifoLen}
    {arrivals : List (Bool × Arrival cfg qfifoLen)}
    (together : Together (transmissions senders packet) before after arrivals)
    (sameDst : (packet true).id.dst = (packet false).id.dst)
    (all : ∀ sender, (part sender arrivals).length = can2Count (packet sender)) :
    BothArrive packet before after ↔ ∀ sender, (packet sender).id.Crosses before.link.addr := by
  obtain ⟨order, out, handed, received, nodup, complete⟩ := together.delivered
  obtain ⟨sender, rfl⟩ := both_of_nodup nodup fun sender => (complete sender).mpr (all sender)
  obtain ⟨first, rest, isFirst, others, rfl⟩ := List.forall₂_cons_right_iff.mp received
  obtain ⟨second, none, isSecond, nothing, rfl⟩ := List.forall₂_cons_right_iff.mp others
  cases nothing
  have dst : ∀ one other, (packet one).id.dst = (packet other).id.dst := by
    intro one other
    cases one <;> cases other <;> first | rfl | exact sameDst | exact sameDst.symm
  constructor
  · rintro ⟨who, first', second', handed', arrives, arrives'⟩
    rw [handed, List.append_cancel_left_eq] at handed'
    cases handed'
    intro some
    rcases Bool.eq_or_eq_not some who with rfl | rfl
    · exact crosses_of_across (isFirst.id.symm.trans arrives.id) (dst sender some)
    · exact crosses_of_across (isSecond.id.symm.trans arrives'.id) (dst (!sender) (!who))
  · intro crosses
    exact ⟨sender, first, second, handed,
      (received_arrives_iff isFirst.id isFirst.payload).mpr ⟨crosses sender, rfl⟩,
      (received_arrives_iff isSecond.id isSecond.payload).mpr ⟨crosses !sender, rfl⟩⟩

/-- Both packets come out of every interleaving in which the senders leave each other alone. -/
theorem senders_isolated_iff (driver : ∀ sender call, (senders sender).txFunc call = true)
    (samePri : (packet true).id.pri = (packet false).id.pri)
    (sameDst : (packet true).id.dst = (packet false).id.dst) {frames : Bool → List CanFrame}
    (emitted : ∀ sender, (can2Tx (senders sender) (packet sender)).2.bus =
      (senders sender).bus ++ frames sender) {can : Can cfg qfifoLen} (quiet : can.pbufs = [])
    (small : ∀ sender, (packet sender).length.toNat + 6 ≤ can.link.mtu.toNat)
    {arrivals : List (Bool × Arrival cfg qfifoLen)}
    (interleaved : ∀ sender, (part sender arrivals).map Arrival.frame = frames sender) :
    BothArrive packet can (can2Run can arrivals) ↔
      (∀ sender, (packet sender).id.dst ≠ (senders sender).link.addr ∧
          (packet sender).id.Crosses can.link.addr) ∧
        Undisturbed (fun sender => (frames sender).length) (Separate senders) arrivals := by
  have onBus : ∀ sender, frames sender = if (packet sender).id.dst = (senders sender).link.addr then []
      else (List.range (can2Count (packet sender))).map
        (transmissions senders packet sender).frameAt := by
    intro sender
    have sent := emitted sender
    rw [can2Tx_bus (driver sender), List.append_cancel_left_eq] at sent
    exact sent.symm
  have follows : Follows (transmissions senders packet) arrivals := by
    intro sender
    rw [interleaved, onBus]
    split
    · exact List.nil_prefix
    · exact List.prefix_refl _
  have quietPackets : can.packets = can.link.handed.length := by
    rw [Can.packets, quiet, List.length_nil, Nat.zero_add]
  have after : (can2Run can arrivals).packets =
      (can2Run can arrivals).pbufs.length + (can2Run can arrivals).link.handed.length := rfl
  by_cases loopback : ∃ sender, (packet sender).id.dst = (senders sender).link.addr
  · obtain ⟨sender, own⟩ := loopback
    constructor
    · intro both
      have silent : part sender arrivals = [] := by
        have none := interleaved sender
        rw [onBus, if_pos own] at none
        exact List.map_eq_nil_iff.mp none
      have waits : 0 < waiting arrivals := by
        rw [waiting]
        cases sender
        · rw [if_pos silent]
          omega
        · rw [if_pos silent]
          omega
      have bound := packets_run can arrivals follows
      have length := both.length
      omega
    · exact fun ⟨remote, _⟩ => absurd own (remote sender).1
  · have remote : ∀ sender, (packet sender).id.dst ≠ (senders sender).link.addr :=
      fun sender own => loopback ⟨sender, own⟩
    have number : ∀ sender, (frames sender).length = can2Count (packet sender) := by
      intro sender
      rw [onBus, if_neg (remote sender), List.length_map, List.length_range]
    have numbers : (fun sender => (frames sender).length) =
        fun sender => (transmissions senders packet sender).total := funext number
    have fits : ∀ sender, 6 + (transmissions senders packet sender).packet.payload.length ≤
        can.link.mtu.toNat := by
      intro sender
      have := small sender
      have payload := (packet sender).payload_length
      simp only [transmissions]
      omega
    rw [numbers, ← propext (@separate_iff senderLen senderCfg senders packet samePri sameDst)]
    rcases senders_run quiet fits arrivals follows with ⟨together, calm⟩ | ⟨lost, disturbed⟩
    · have all : ∀ sender, (part sender arrivals).length = can2Count (packet sender) := by
        intro sender
        rw [← number, ← interleaved, List.length_map]
      rw [together.both_iff sameDst all, and_iff_left calm]
      exact ⟨fun crosses sender => ⟨remote sender, crosses sender⟩, fun fine sender => (fine sender).2⟩
    · refine ⟨fun both => ?_, fun fine => absurd fine.2 disturbed⟩
      have length := both.length
      omega

end Senders

/-- The first sender has the address 1. Both send at the same time. -/
def pairSenders (other : UInt16) (sender : Bool) : Can {} 15 := busNode (if sender then 1 else other)

def pairPacket (other : UInt16) (sender : Bool) : Packet :=
  { busPacket 12 with id := { (busPacket 12).id with src := (pairSenders other sender).link.addr } }

def pairFrames (other : UInt16) (sender : Bool) : List CanFrame :=
  (can2Tx (pairSenders other sender) (pairPacket other sender)).2.bus

def pairArrivals (other : UInt16) : List (Bool × Arrival {} 15) :=
  (busArrivals (pairFrames other true)).map (true, ·) |>.zip
    ((busArrivals (pairFrames other false)).map (false, ·)) |>.flatMap fun (one, two) => [one, two]

theorem senders1And3_isolated :
    BothArrive (pairPacket 3) (busNode 2) (can2Run (busNode 2) (pairArrivals 3)) :=
  (@senders_isolated_iff {} 15 15 {} (pairSenders 3) (pairPacket 3) (fun _ _ => rfl) rfl rfl (pairFrames 3)
    (fun _ => rfl) (busNode 2) rfl (by decide +kernel) (pairArrivals 3) (by decide +kernel)).mpr
    ⟨fun sender => ⟨by cases sender <;> decide +kernel, by
      cases sender <;> exact ⟨by decide, by decide, by decide, by decide, by decide, by decide⟩⟩,
      undisturbed_of_calm (.inl (by decide)) (by decide +kernel) (by decide +kernel)⟩

/-- The addresses 1 and 33 differ in the highest bit of the sender field, which the mask leaves out. -/
theorem senders1And33_mixed :
    (pairSenders 33 true).link.addr.toNat % 2 ^ 6 ≠ (pairSenders 33 false).link.addr.toNat % 2 ^ 6 ∧
      (∀ sender, (part sender (pairArrivals 33)).map Arrival.frame = pairFrames 33 sender) ∧
      ¬BothArrive (pairPacket 33) (busNode 2) (can2Run (busNode 2) (pairArrivals 33)) := by
  refine ⟨by decide, by decide +kernel, fun both => ?_⟩
  have one : (can2Run (busNode 2) (pairArrivals 33)).link.handed.length = 1 := by decide +kernel
  rw [both.length] at one
  exact absurd one (by decide)

end Libcsp

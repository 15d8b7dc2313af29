/-
This file shows that bridges between the same two segments cannot start a storm.
-/
import Libcsp.Bridge
import Libcsp.Lib.Transition

namespace Libcsp

variable {cfg : Config}

/-! ## Contents -/

/-- The header and the payload of a packet, which a segment carries. -/
abbrev Content := CspId × List UInt8

def Packet.content (packet : Packet) : Content := (packet.id, packet.payload)

def Outgoing.content (sent : Outgoing) : Content := (sent.id, sent.payload)

/-- The checksum that a bridge stores for a packet. -/
def contentSum (cfg : Config) (content : Content) : UInt32 :=
  cfg.crc32Memory (headerBytes cfg content.1 ++ content.2)

/-- The frames of the packets fit in the 16-bit length. -/
def Sized (cfg : Config) (packets : List Content) : Prop :=
  ∀ content ∈ packets, content.2.length + idHeaderSize cfg < 2 ^ 16

theorem Sized.sum {packets : List Content} (sized : Sized cfg packets) (arrival : DedupArrival)
    (known : arrival.packet.content ∈ packets) : arrival.sum cfg = contentSum cfg arrival.packet.content := by
  have room := sized _ known
  simp only [Packet.content, Packet.payload_length] at room
  exact arrival.sum_eq cfg room

/-! ## One bridge -/

/-- Since the start of the window the bridge sent only known packets, and it remembers everything that it let through.
It may have let through other packets before. -/
structure Bridge.Remembers (bridge : Bridge cfg) (sent : List Outgoing) (packets : List Content) (start now : Nat) :
    Prop where
  known : ∀ transmission ∈ sent, transmission.content ∈ packets
  passed : ∃ earlier passed : List DedupArrival, DedupRun.Recalls cfg ⟨bridge.dedup, earlier ++ passed⟩ ∧
    (∀ past ∈ earlier, past.time ≤ start) ∧ (passed.map (DedupArrival.sum cfg)).Nodup ∧
    (∀ past ∈ passed, start ≤ past.time ∧ past.time ≤ now ∧ past.sum cfg ∈ packets.map (contentSum cfg)) ∧
    (sent.map fun transmission => contentSum cfg transmission.content).Sublist (passed.map (DedupArrival.sum cfg))

/-- The clock does not start again in the window or right behind it. -/
def SteadyWindow (start : Nat) : Prop := clockTurn start = clockTurn (start + 2 * dedupWindowMs.toNat)

theorem SteadyWindow.looksRight {start : Nat} (steady : SteadyWindow start) {arrival past : DedupArrival}
    (first : start ≤ past.time) (order : past.time ≤ arrival.time) (window : arrival.time < start + dedupWindowMs.toNat) :
    LooksRight arrival past := by
  have millis : dedupWindowMs.toNat = 100 := rfl
  simp only [SteadyWindow, clockTurn, millis] at steady
  simp only [LooksRight, clockTurn, DedupArrival.windowEnd, millis] at window ⊢
  omega

/-- The last slots hold everything that passed in the window. -/
theorem mem_recent {earlier passed : List DedupArrival} (short : passed.length ≤ dedupCount) {past : DedupArrival}
    (member : past ∈ passed) : past ∈ (earlier ++ passed).drop ((earlier ++ passed).length - dedupCount) := by
  rw [List.drop_append_of_le_length (by rw [List.length_append]; omega)]
  exact List.mem_append_right _ member

/-- The slots are enough for different packets of the hosts. -/
theorem passed_short {passed : List DedupArrival} {packets : List Content} (few : packets.length ≤ dedupCount)
    (fresh : (passed.map (DedupArrival.sum cfg)).Nodup)
    (known : ∀ past ∈ passed, past.sum cfg ∈ packets.map (contentSum cfg)) : passed.length ≤ dedupCount := by
  have inside : passed.map (DedupArrival.sum cfg) ⊆ packets.map (contentSum cfg) := by
    intro value member
    obtain ⟨past, passes, same⟩ := List.mem_map.mp member
    exact same ▸ known past passes
  have bound := fresh.length_le_of_subset inside
  rw [List.length_map, List.length_map] at bound
  exact bound.trans few

/-- The check drops what passed in the window before. -/
theorem answer_of_passed {dedup : Dedup} {earlier passed : List DedupArrival} {arrival : DedupArrival} {start : Nat}
    (recalls : DedupRun.Recalls cfg ⟨dedup, earlier ++ passed⟩)
    (order : ∀ past ∈ earlier ++ passed, past.time ≤ arrival.time) (short : passed.length ≤ dedupCount)
    (steady : SteadyWindow start) (begins : ∀ past ∈ passed, start ≤ past.time)
    (window : arrival.time < start + dedupWindowMs.toNat)
    (seen : arrival.sum cfg ∈ passed.map (DedupArrival.sum cfg)) :
    DedupRun.answer cfg ⟨dedup, earlier ++ passed⟩ arrival = true := by
  obtain ⟨past, member, same⟩ := List.mem_map.mp seen
  have remembered : DedupRun.Remembers cfg ⟨dedup, earlier ++ passed⟩ arrival past := ⟨mem_recent short member, same⟩
  have right := steady.looksRight (begins past member) (order past (List.mem_append_right _ member)) window
  exact (DedupRun.answer_history recalls order).mpr (.inl ⟨past, remembered, .inl right⟩)

/-- A packet that passes is new to the bridge. -/
theorem Bridge.Remembers.work {bridge : Bridge cfg} {sent : List Outgoing} {packets : List Content} {start now : Nat}
    (remembers : bridge.Remembers sent packets start now) {ifA ifB : Nat} (joins : bridge.Joins ifA ifB)
    (few : packets.length ≤ dedupCount) (steady : SteadyWindow start) (sized : Sized cfg packets) (begins : start ≤ now)
    {arrival : BridgeArrival} (known : arrival.packet.content ∈ packets) (later : now ≤ arrival.time)
    (window : arrival.time < start + dedupWindowMs.toNat) :
    let after := bridgeWork bridge arrival.clock (some (arrival.ingress, arrival.packet))
    ∃ more, after.io.outgoing = bridge.io.outgoing ++ more ∧ after.Joins ifA ifB ∧
      after.Remembers (sent ++ more) packets start arrival.time := by
  obtain ⟨joined, dedup, duplicate, passes⟩ := bridgeWork_cases joins arrival
  obtain ⟨earlier, passed, recalls, old, fresh, past, sub⟩ := remembers.passed
  have older : ∀ other ∈ passed, start ≤ other.time ∧ other.time ≤ arrival.time ∧
      other.sum cfg ∈ packets.map (contentSum cfg) :=
    fun other member => ⟨(past other member).1, (past other member).2.1.trans later, (past other member).2.2⟩
  have order : ∀ other ∈ earlier ++ passed, other.time ≤ arrival.time := by
    intro other member
    rcases List.mem_append.mp member with member | member
    · exact (old other member).trans (begins.trans later)
    · exact (older other member).2.1
  have presented := DedupRun.present_recalls recalls arrival.toDedupArrival
  simp only
  cases check : (dedupIsDuplicate cfg arrival.clock bridge.dedup arrival.packet).1 with
  | true =>
      obtain ⟨silent, -⟩ := duplicate check
      have answer : DedupRun.answer cfg ⟨bridge.dedup, earlier ++ passed⟩ arrival.toDedupArrival = true := check
      rw [DedupRun.present, if_pos answer, ← dedup] at presented
      refine ⟨[], by rw [silent, List.append_nil], joined, ?_⟩
      rw [List.append_nil]
      exact ⟨remembers.known, earlier, passed, presented, old, fresh, older, sub⟩
  | false =>
      have answer : DedupRun.answer cfg ⟨bridge.dedup, earlier ++ passed⟩ arrival.toDedupArrival = false := check
      rw [DedupRun.present, if_neg (by rw [answer]; exact Bool.false_ne_true), ← dedup, List.append_assoc] at presented
      have sum : arrival.sum cfg = contentSum cfg arrival.packet.content := sized.sum arrival.toDedupArrival known
      have short := passed_short few fresh fun other member => (past other member).2.2
      have new : arrival.sum cfg ∉ passed.map (DedupArrival.sum cfg) := by
        intro seen
        have dropped := answer_of_passed recalls order short steady (fun other member => (older other member).1) window seen
        rw [dropped] at answer
        cases answer
      have nodup : ((passed ++ [arrival.toDedupArrival]).map (DedupArrival.sum cfg)).Nodup := by
        rw [List.map_append]
        exact List.nodup_append.mpr ⟨fresh, List.nodup_singleton _, by simpa using new⟩
      have olds : ∀ other ∈ passed ++ [arrival.toDedupArrival], start ≤ other.time ∧ other.time ≤ arrival.time ∧
          other.sum cfg ∈ packets.map (contentSum cfg) := by
        intro other member
        rcases List.mem_append.mp member with member | member
        · exact older other member
        · obtain rfl := List.mem_singleton.mp member
          exact ⟨begins.trans later, le_rfl, sum ▸ List.mem_map_of_mem known⟩
      rcases (passes check).sends with sends | ⟨silent, -⟩
      · refine ⟨[arrival.across ifA ifB], sends, joined, ?_, earlier, _, presented, old, nodup, olds, ?_⟩
        · intro transmission member
          rcases List.mem_append.mp member with member | member
          · exact remembers.known transmission member
          · obtain rfl := List.mem_singleton.mp member
            exact known
        · rw [List.map_append, List.map_append]
          exact sub.append (by rw [List.map_singleton, List.map_singleton, sum]; exact .refl _)
      · refine ⟨[], by rw [silent, List.append_nil], joined, ?_⟩
        rw [List.append_nil]
        refine ⟨remembers.known, earlier, _, presented, old, nodup, olds, ?_⟩
        rw [List.map_append]
        exact sub.trans (List.sublist_append_left _ _)

/-! ## The network -/

/-- Two segments with bridges between them. The air of a segment has everything that was sent on it. -/
structure BridgedNetwork (cfg : Config) where
  air : Bool → List Content
  bridges : Nat → Bridge cfg
  /-- The time in milliseconds. -/
  now : Nat

inductive BridgedInput where
  | host (segment : Bool) (packet : Packet)
  | work (bridge : Nat) (segment : Bool) (packet : Packet) (time : Nat)

/-- The interface of a bridge on a segment. -/
abbrev BridgePorts := Nat → Bool → Nat

/-- A bridge works on a packet from one segment, and sends on the segments of its interfaces. -/
def bridgedStep (ports : BridgePorts) (network : BridgedNetwork cfg) : BridgedInput → BridgedNetwork cfg
  | .host segment packet =>
      { network with air := Function.update network.air segment (network.air segment ++ [packet.content]) }
  | .work bridge segment packet time =>
      let before := network.bridges bridge
      let after := bridgeWork before (UInt32.ofNat time) (some (ports bridge segment, packet))
      let sent := after.io.outgoing.drop before.io.outgoing.length
      { air := fun other => network.air other ++
          (sent.filter fun transmission => transmission.iface = ports bridge other).map Outgoing.content
        bridges := Function.update network.bridges bridge after
        now := time }

/-- A bridge ran before the start of the window, with any packets and clocks. -/
def Bridge.RanUntil (bridge : Bridge cfg) (start : Nat) : Prop :=
  ∃ earlier : List DedupArrival, bridge.dedup = (DedupRun.after cfg earlier).dedup ∧
    ∀ arrival ∈ earlier, arrival.time ≤ start

/-- The hosts send only these packets, each one as often as they want. A bridge may hear a packet of the air at any
time in the window, also more than once and in any order. -/
def bridgedMachine (cfg : Config) (ports : BridgePorts) (packets : List Content) (start : Nat) :
    Machine (BridgedNetwork cfg) BridgedInput where
  initial network := network.now = start ∧ (∀ segment, network.air segment ⊆ packets) ∧
    ∀ bridge, (network.bridges bridge).Joins (ports bridge false) (ports bridge true) ∧
      (network.bridges bridge).RanUntil start
  step := bridgedStep ports
  allowed network
    | .host _ packet => packet.content ∈ packets
    | .work _ segment packet time =>
        packet.content ∈ network.air segment ∧ network.now ≤ time ∧ time < start + dedupWindowMs.toNat

/-- What the bridge has sent between the two states. -/
def sentSince (before network : BridgedNetwork cfg) (bridge : Nat) : List Outgoing :=
  (network.bridges bridge).io.outgoing.drop (before.bridges bridge).io.outgoing.length

/-- The invariant of the network in a run from this state. -/
structure BridgedNetwork.Calm (before network : BridgedNetwork cfg) (ports : BridgePorts) (packets : List Content)
    (start : Nat) : Prop where
  begins : start ≤ network.now
  air : ∀ segment, network.air segment ⊆ packets
  joins : ∀ bridge, (network.bridges bridge).Joins (ports bridge false) (ports bridge true)
  keeps : ∀ bridge, (before.bridges bridge).io.outgoing <+: (network.bridges bridge).io.outgoing
  remembers : ∀ bridge, (network.bridges bridge).Remembers (sentSince before network bridge) packets start network.now

theorem Bridge.Remembers.wait {bridge : Bridge cfg} {sent : List Outgoing} {packets : List Content}
    {start now time : Nat} (remembers : bridge.Remembers sent packets start now) (later : now ≤ time) :
    bridge.Remembers sent packets start time := by
  obtain ⟨earlier, passed, recalls, old, fresh, past, sub⟩ := remembers.passed
  exact ⟨remembers.known, earlier, passed, recalls, old, fresh,
    fun other member => ⟨(past other member).1, (past other member).2.1.trans later, (past other member).2.2⟩, sub⟩

/-- At the start of the window nothing has passed in it. -/
theorem Bridge.RanUntil.remembers {bridge : Bridge cfg} {start : Nat} (ran : bridge.RanUntil start)
    (packets : List Content) : bridge.Remembers [] packets start start := by
  obtain ⟨earlier, dedup, old⟩ := ran
  have recalls : DedupRun.Recalls cfg ⟨bridge.dedup, (DedupRun.after cfg earlier).passed ++ []⟩ := by
    rw [dedup, List.append_nil]
    exact DedupRun.after_recalls cfg earlier
  refine ⟨by simp, _, [], recalls, ?_, List.nodup_nil, by simp, by simp⟩
  exact fun past member => old past (DedupRun.passed_subset cfg earlier member)

theorem BridgedNetwork.Calm.step {before network : BridgedNetwork cfg} {ports : BridgePorts} {packets : List Content}
    {start : Nat} (calm : before.Calm network ports packets start) (few : packets.length ≤ dedupCount)
    (steady : SteadyWindow start) (sized : Sized cfg packets) (input : BridgedInput)
    (allowed : (bridgedMachine cfg ports packets start).allowed network input) :
    before.Calm (bridgedStep ports network input) ports packets start := by
  cases input with
  | host segment packet =>
      refine ⟨calm.begins, fun other => ?_, calm.joins, calm.keeps, calm.remembers⟩
      by_cases same : other = segment
      · subst same
        simp only [bridgedStep, Function.update_self]
        exact List.append_subset.mpr ⟨calm.air other, by simpa using (show packet.content ∈ packets from allowed)⟩
      · simp only [bridgedStep, Function.update_of_ne same]
        exact calm.air other
  | work bridge segment packet time =>
      obtain ⟨heard, later, window⟩ := allowed
      have known : packet.content ∈ packets := calm.air segment heard
      let arrival : BridgeArrival := ⟨⟨time, packet⟩, ports bridge segment⟩
      let after := bridgeWork (network.bridges bridge) arrival.clock (some (arrival.ingress, arrival.packet))
      obtain ⟨more, grown, joins, remembers⟩ := @Bridge.Remembers.work cfg _ _ _ _ _ (calm.remembers bridge) _ _
        (calm.joins bridge) few steady sized calm.begins arrival known later window
      have sent : after.io.outgoing.drop (network.bridges bridge).io.outgoing.length = more := by
        change List.drop _ (bridgeWork _ _ _).io.outgoing = more
        rw [grown, List.drop_left]
      have since : after.io.outgoing.drop (before.bridges bridge).io.outgoing.length =
          sentSince before network bridge ++ more := by
        change List.drop _ (bridgeWork _ _ _).io.outgoing = _
        rw [grown, List.drop_append_of_le_length (calm.keeps bridge).length_le, sentSince]
      have others : ∀ other, (bridgedStep ports network (.work bridge segment packet time)).bridges other =
          if other = bridge then after else network.bridges other := fun other => by
        by_cases same : other = bridge
        · subst same
          rw [if_pos rfl]
          exact Function.update_self _ _ _
        · rw [if_neg same]
          exact Function.update_of_ne same _ _
      refine ⟨calm.begins.trans later, fun other => ?_, fun other => ?_, fun other => ?_, fun other => ?_⟩
      · refine List.append_subset.mpr ⟨calm.air other, fun content member => ?_⟩
        obtain ⟨transmission, inside, rfl⟩ := List.mem_map.mp member
        have inSent := List.mem_of_mem_filter inside
        exact remembers.known transmission (List.mem_append_right _ (sent ▸ inSent))
      · rw [others]
        split
        · rename_i same
          exact same ▸ joins
        · exact calm.joins other
      · rw [others]
        split
        · rename_i same
          subst same
          exact (calm.keeps other).trans ⟨more, grown.symm⟩
        · exact calm.keeps other
      · rw [sentSince, others]
        split
        · rename_i same
          subst same
          rw [since]
          exact remembers
        · exact (calm.remembers other).wait later

/-- While the clocks show one window, and the hosts send at most as many different packets as a bridge remembers, each
bridge sends each packet at most once, however often it comes back over the other bridges. -/
theorem bridges_sendOnce {ports : BridgePorts} {packets : List Content} {start : Nat}
    (few : packets.length ≤ dedupCount) (steady : SteadyWindow start) (sized : Sized cfg packets)
    {before : BridgedNetwork cfg} (initial : (bridgedMachine cfg ports packets start).initial before)
    (inputs : List BridgedInput) (allowed : (bridgedMachine cfg ports packets start).Allows before inputs)
    (bridge : Nat) :
    let network := (bridgedMachine cfg ports packets start).trace before inputs
    let sent := (sentSince before network bridge).map Outgoing.content
    (before.bridges bridge).io.outgoing <+: (network.bridges bridge).io.outgoing ∧
      sent.Nodup ∧ sent ⊆ packets ∧ sent.length ≤ packets.length := by
  have calm : before.Calm ((bridgedMachine cfg ports packets start).trace before inputs) ports packets start := by
    refine @Machine.trace_invariant _ _ (bridgedMachine cfg ports packets start)
      (fun _ network => before.Calm network ports packets start) before ?_ ?_ inputs allowed
    · obtain ⟨now, air, bridges⟩ := initial
      refine ⟨now.ge, air, fun other => (bridges other).1, fun _ => List.prefix_rfl, fun other => ?_⟩
      rw [now, sentSince, List.drop_length]
      exact (bridges other).2.remembers packets
    · exact fun _ state input _ calm allowed => calm.step few steady sized input allowed
  obtain ⟨-, passed, -, -, fresh, -, sub⟩ := (calm.remembers bridge).passed
  intro network sent
  have nodup : sent.Nodup := by
    apply List.Nodup.of_map (contentSum cfg)
    rw [List.map_map]
    exact fresh.sublist sub
  have inside : sent ⊆ packets := by
    intro content member
    obtain ⟨transmission, inside, rfl⟩ := List.mem_map.mp member
    exact (calm.remembers bridge).known transmission inside
  exact ⟨calm.keeps bridge, nodup, inside, nodup.length_le_of_subset inside⟩

/-- Two bridges join the same segments at time 1000. -/
def twinBridges : BridgedNetwork {} := { air := fun _ => [], bridges := fun _ => twoPortBridge, now := 1000 }

def twinPorts : BridgePorts := fun _ segment => if segment then 2 else 1

/-- The second bridge sends the packet back, and the first bridge hears it again. -/
def backAndForth : List BridgedInput :=
  [.host false default, .work 0 false default 1001, .work 1 true default 1002, .work 0 false default 1003]

theorem backAndForth_sendsOnce :
    (sentSince twinBridges ((bridgedMachine {} twinPorts [Packet.content default] 1000).trace twinBridges
      backAndForth) 0).length ≤ 1 := by
  have sized : Sized {} [Packet.content default] := by
    intro content member
    obtain rfl := List.mem_singleton.mp member
    decide
  have initial : (bridgedMachine {} twinPorts [Packet.content default] 1000).initial twinBridges :=
    ⟨rfl, fun _ => List.nil_subset _, fun _ => ⟨⟨rfl, rfl⟩, [], rfl, by simp⟩⟩
  have sent := (bridges_sendOnce (by decide) (show SteadyWindow 1000 from rfl) sized initial backAndForth
    ⟨List.mem_singleton_self _, ⟨by decide, by decide, by decide⟩, ⟨by decide, by decide, by decide⟩,
      ⟨by decide, by decide, by decide⟩, trivial⟩ 0).2.2.2
  rwa [List.length_map] at sent

end Libcsp

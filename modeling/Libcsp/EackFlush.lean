/-
This file states what csp_rdp_flush_eack does to each packet of the retransmission queue and to its timer.
-/
import Libcsp.Acknowledge
import Libcsp.TxQueue

namespace Libcsp

variable {cfg : Config}

theorem rdpFlushEack_packets (ctx : Ctx cfg) (own : ctx.OwnsTx) (eack : Packet) :
    ∃ queue pool, (rdpFlushEack ctx eack).stack =
        { ctx.stack with txQueue := queue, io := { ctx.stack.io with pool } } ∧
      pool = freeAll ctx.stack.io.pool
        ((ctx.stack.txQueue.items.filter fun packet => eackLists eack packet.seqNr).map
          (eackMarkAll ctx.stack.now ctx.conn.rdp.packetTimeout eack)) ∧
      queue.items = (ctx.stack.txQueue.items.filter fun packet => !eackLists eack packet.seqNr).map
        (eackMarkAll ctx.stack.now ctx.conn.rdp.packetTimeout eack) :=
  rdpFlushEackLoop_packets ctx.conn.index ctx.conn.rdp.packetTimeout eack ctx.stack.txQueue.items [] ctx.stack
    (List.append_nil _).symm own

/-! ## The history of a retransmission queue -/

/-- A packet of the retransmission queue with the time of the last EACK that expedited it. -/
structure TxEntry (packetTimeout : UInt32) (now : Nat) where
  packet : Packet
  expedited : Option Nat
  past : ∀ time, expedited = some time → time ≤ now
  quarantine : ∀ time, expedited = some time → packet.rdpQuarantine = UInt32.ofNat time + packetTimeout / 2

/-- The retransmission queue of the only connection at a time in milliseconds, which the clock cuts to 32 bits. -/
structure TxHistory (ctx : Ctx cfg) (now : Nat) where
  entries : List (TxEntry ctx.conn.rdp.packetTimeout now)
  packets : entries.map TxEntry.packet = ctx.stack.txQueue.items
  own : ctx.OwnsTx
  clock : ctx.stack.now = UInt32.ofNat now

namespace TxEntry
variable {packetTimeout : UInt32} {now : Nat}

/-- An EACK has expedited the packet in the last half of the packet timeout. -/
def Recent (entry : TxEntry packetTimeout now) : Prop :=
  ∃ time, entry.expedited = some time ∧ now ≤ time + (packetTimeout / 2).toNat

/-- The packet precedes a listed number in the order of the wrapping numbers. -/
def Precedes (entry : TxEntry packetTimeout now) (eack : Packet) : Prop :=
  ∃ number ∈ eackNumbers eack, rdpSeqBefore entry.packet.seqNr number = true

/-- The quarantine is over for the signed test of the code. -/
def Released (entry : TxEntry packetTimeout now) : Prop :=
  rdpTimeAfter (UInt32.ofNat now) entry.packet.rdpQuarantine = true

/-- The code expedites a packet that is below a listed number but precedes none. -/
def WronglyExpedited (entry : TxEntry packetTimeout now) (eack : Packet) : Prop :=
  entry.packet.BelowListed eack ∧ ¬entry.Precedes eack ∧ entry.Released

/-- A packet precedes a listed number, but it is below none, or the test does not see that its quarantine is over. -/
def Overlooked (entry : TxEntry packetTimeout now) (eack : Packet) : Prop :=
  entry.Precedes eack ∧ ¬entry.Recent ∧ (¬entry.packet.BelowListed eack ∨ ¬entry.Released)

/-- A recent quarantine is not over. -/
theorem Recent.not_released {entry : TxEntry packetTimeout now} (recent : entry.Recent) : ¬entry.Released := by
  obtain ⟨time, expedited, near⟩ := recent
  have past := entry.past time expedited
  have half : (packetTimeout / 2).toNat < 2 ^ 31 := by
    have bound := packetTimeout.toNat_lt
    have quotient : (packetTimeout / 2).toNat = packetTimeout.toNat / 2 := UInt32.toNat_div _ _
    omega
  have elapsed : (UInt32.ofNat now - UInt32.ofNat time).toNat = now - time := by
    have split : UInt32.ofNat now = UInt32.ofNat (now - time) + UInt32.ofNat time := by
      rw [← UInt32.ofNat_add, Nat.sub_add_cancel past]
    rw [split, UInt32.add_sub_cancel]
    exact UInt32.toNat_ofNat_of_lt' (by omega : now - time < 2 ^ 32)
  rw [Released, entry.quarantine time expedited, rdpTimeAfter_add_iff, elapsed, WithinHalf]
  omega

end TxEntry

/-- Only the time of the retransmission and the quarantine of the packet are new. -/
def Packet.Restamped (packet before : Packet) : Prop :=
  ∃ timestampTx rdpQuarantine, packet = { before with timestampTx, rdpQuarantine }

theorem eackMarkAll_restamped (now packetTimeout : UInt32) (eack packet : Packet) :
    (eackMarkAll now packetTimeout eack packet).Restamped packet := by
  rw [eackMarkAll_eq]
  split <;> exact ⟨_, _, rfl⟩

/-- The packet after the flush has its content, and it is due at the next test of the timeouts if its own timeout is
over, or if it precedes a listed number and no EACK has expedited it recently. -/
structure Keeps (conn : Conn cfg) (eack : Packet) {now : Nat} (delay : Nat) (packet : Packet)
    (entry : TxEntry conn.rdp.packetTimeout now) : Prop where
  content : packet.Restamped entry.packet
  due : rdpTimedOut conn (UInt32.ofNat (now + delay)) packet = true ↔
    rdpTimedOut conn (UInt32.ofNat (now + delay)) entry.packet = true ∨ (entry.Precedes eack ∧ ¬entry.Recent)

/-- The flush frees the listed packets, and it keeps all others in their order. -/
structure FlushesEack {ctx : Ctx cfg} {now : Nat} (history : TxHistory ctx now) (eack : Packet) (delay : Nat) :
    Prop where
  freed : ∃ pool packets, (rdpFlushEack ctx eack).stack.io = { ctx.stack.io with pool } ∧
    pool = freeAll ctx.stack.io.pool packets ∧ packets.map Packet.buf =
      (history.entries.filter fun entry => eackLists eack entry.packet.seqNr).map fun entry => entry.packet.buf
  kept : List.Forall₂ (Keeps ctx.conn eack delay) (rdpFlushEack ctx eack).stack.txQueue.items
    (history.entries.filter fun entry => !eackLists eack entry.packet.seqNr)

/-- An expedited packet is due for the next half turn of the clock. -/
theorem expedite_timedOut (conn : Conn cfg) {now delay : Nat} (soon : delay < 2 ^ 31 - 1) (packet : Packet) :
    rdpTimedOut conn (UInt32.ofNat (now + delay))
      (packet.expedite (UInt32.ofNat now) conn.rdp.packetTimeout) = true := by
  have one : (1 : UInt32).toNat = 1 := rfl
  have bound := conn.rdp.packetTimeout.toNat_lt
  have elapsed : (UInt32.ofNat (now + delay) - (UInt32.ofNat now - conn.rdp.packetTimeout - 1)).toNat =
      (delay + 1 + conn.rdp.packetTimeout.toNat) % 2 ^ 32 := by
    rw [UInt32.toNat_sub, UInt32.toNat_sub, UInt32.toNat_sub, UInt32.toNat_ofNat', UInt32.toNat_ofNat', one]
    omega
  change rdpTimeAfter _ (UInt32.ofNat now - conn.rdp.packetTimeout - 1 + conn.rdp.packetTimeout) = true
  rw [rdpTimeAfter_add_iff, elapsed, WithinHalf]
  omega

/-- The flush treats one packet as it should, unless its own timeout hides a wrong choice. -/
theorem keeps_iff (conn : Conn cfg) (eack : Packet) {now delay : Nat} (soon : delay < 2 ^ 31 - 1)
    (entry : TxEntry conn.rdp.packetTimeout now) :
    Keeps conn eack delay (eackMarkAll (UInt32.ofNat now) conn.rdp.packetTimeout eack entry.packet) entry ↔
      (rdpTimedOut conn (UInt32.ofNat (now + delay)) entry.packet = false →
        ¬entry.WronglyExpedited eack ∧ ¬entry.Overlooked eack) := by
  have marks := eackMarkAll_eq (UInt32.ofNat now) conn.rdp.packetTimeout eack entry.packet
  by_cases selected : entry.packet.BelowListed eack ∧ entry.Released
  · rw [marks.trans (if_pos selected)]
    have early : ¬entry.Recent := fun recent => recent.not_released selected.2
    have right : ¬entry.Overlooked eack := fun overlooked =>
      overlooked.2.2.elim (absurd selected.1) (absurd selected.2)
    have wrong : entry.WronglyExpedited eack ↔ ¬entry.Precedes eack :=
      ⟨fun wrong => wrong.2.1, fun behind => ⟨selected.1, behind, selected.2⟩⟩
    rw [wrong, not_not, and_iff_left right]
    have due := @expedite_timedOut cfg conn now delay soon entry.packet
    constructor
    · intro keeps waits
      rcases keeps.due.mp due with late | turn
      · exact absurd (late.symm.trans waits) (by decide)
      · exact turn.1
    · intro precedes
      refine ⟨⟨_, _, rfl⟩, fun _ => ?_, fun _ => due⟩
      cases late : rdpTimedOut conn (UInt32.ofNat (now + delay)) entry.packet with
      | true => exact .inl rfl
      | false => exact .inr ⟨precedes late, early⟩
  · rw [marks.trans (if_neg selected)]
    have right : ¬entry.WronglyExpedited eack := fun wrong => selected ⟨wrong.1, wrong.2.2⟩
    have overlooked : entry.Overlooked eack ↔ entry.Precedes eack ∧ ¬entry.Recent :=
      ⟨fun overlooked => ⟨overlooked.1, overlooked.2.1⟩, fun turn => ⟨turn.1, turn.2, not_and_or.mp selected⟩⟩
    rw [overlooked, and_iff_right right]
    constructor
    · intro keeps waits turn
      exact absurd ((keeps.due.mpr (.inr turn)).symm.trans waits) (by decide)
    · intro stays
      refine ⟨⟨_, _, rfl⟩, .inl, fun due => ?_⟩
      rcases due with late | turn
      · exact late
      · cases late : rdpTimedOut conn (UInt32.ofNat (now + delay)) entry.packet with
        | true => rfl
        | false => exact absurd turn (stays late)

section Flush
variable {ctx : Ctx cfg} {now : Nat}

/-- Only the choice of the expedited packets can be wrong. -/
theorem flushesEack_iff (history : TxHistory ctx now) (eack : Packet) (delay : Nat) :
    FlushesEack history eack delay ↔ ∀ entry ∈ history.entries, eackLists eack entry.packet.seqNr = false →
      Keeps ctx.conn eack delay
        (eackMarkAll (UInt32.ofNat now) ctx.conn.rdp.packetTimeout eack entry.packet) entry := by
  obtain ⟨queue, pool, flushed, freed, kept⟩ := rdpFlushEack_packets ctx history.own eack
  rw [← history.packets, List.filter_map, List.map_map, history.clock] at freed kept
  simp only [Function.comp_def] at kept
  constructor
  · intro flushes entry member unlisted
    have all := flushes.kept
    rw [flushed, kept, List.forall₂_map_left_iff, List.forall₂_same] at all
    exact all entry (List.mem_filter.mpr ⟨member, by simp [unlisted]⟩)
  · intro all
    refine ⟨⟨pool, _, by rw [flushed], freed, ?_⟩, ?_⟩
    · rw [List.map_map]
      apply List.map_congr_left
      intro entry _
      simp only [Function.comp_apply, eackMarkAll_eq]
      split <;> rfl
    · rw [flushed, kept, List.forall₂_map_left_iff, List.forall₂_same]
      intro entry member
      obtain ⟨member, unlisted⟩ := List.mem_filter.mp member
      exact all entry member (by simpa using unlisted)

/-- The flush frees and keeps the right packets in every queue, and it expedites the right ones exactly if no kept
packet that is not due anyway is expedited wrongly or overlooked. -/
theorem rdpFlushEack_flushes_iff (history : TxHistory ctx now) (eack : Packet) {delay : Nat}
    (soon : delay < 2 ^ 31 - 1) :
    FlushesEack history eack delay ↔
      ∀ entry ∈ history.entries, eackLists eack entry.packet.seqNr = false →
        rdpTimedOut ctx.conn (UInt32.ofNat (now + delay)) entry.packet = false →
          ¬entry.WronglyExpedited eack ∧ ¬entry.Overlooked eack := by
  rw [flushesEack_iff]
  exact forall₃_congr fun entry _ _ => keeps_iff ctx.conn eack soon entry

/-- The packet of an entry behind a flush that keeps it, with the time of the flush if the flush expedited it. -/
def TxEntry.flush {packetTimeout : UInt32} (entry : TxEntry packetTimeout now) (eack : Packet) :
    TxEntry packetTimeout now :=
  if entry.packet.BelowListed eack ∧ rdpTimeAfter (UInt32.ofNat now) entry.packet.rdpQuarantine = true then
    { packet := entry.packet.expedite (UInt32.ofNat now) packetTimeout
      expedited := some now
      past := fun _ same => Nat.le_of_eq (Option.some.inj same).symm
      quarantine := fun _ same => Option.some.inj same ▸ rfl }
  else entry

theorem TxEntry.flush_packet {packetTimeout : UInt32} (entry : TxEntry packetTimeout now) (eack : Packet) :
    (entry.flush eack).packet = eackMarkAll (UInt32.ofNat now) packetTimeout eack entry.packet := by
  rw [eackMarkAll_eq, TxEntry.flush]
  split <;> rfl

/-- The entries of the kept packets behind a flush. -/
def TxHistory.flushed (history : TxHistory ctx now) (eack : Packet) : List (TxEntry ctx.conn.rdp.packetTimeout now) :=
  (history.entries.filter fun entry => !eackLists eack entry.packet.seqNr).map fun entry => entry.flush eack

theorem TxHistory.flushed_packets (history : TxHistory ctx now) (eack : Packet) :
    (history.flushed eack).map TxEntry.packet = (rdpFlushEack ctx eack).stack.txQueue.items := by
  obtain ⟨queue, pool, flushed, _, kept⟩ := rdpFlushEack_packets ctx history.own eack
  rw [← history.packets, List.filter_map, List.map_map, history.clock] at kept
  rw [flushed, kept, TxHistory.flushed, List.map_map]
  apply List.map_congr_left
  intro entry _
  exact entry.flush_packet eack

/-- The flush leaves a queue with a history. -/
def TxHistory.flush (history : TxHistory ctx now) (eack : Packet) : TxHistory (rdpFlushEack ctx eack) now where
  entries := history.flushed eack
  packets := history.flushed_packets eack
  own := by
    intro packet member
    rw [← history.flushed_packets eack, TxHistory.flushed, List.map_map] at member
    obtain ⟨entry, kept, rfl⟩ := List.mem_map.mp member
    have queued : entry.packet ∈ ctx.stack.txQueue.items :=
      history.packets ▸ List.mem_map_of_mem (List.mem_of_mem_filter kept)
    have own := history.own entry.packet queued
    rw [Function.comp_apply, entry.flush_packet, eackMarkAll_eq]
    split <;> exact own
  clock := by
    obtain ⟨queue, pool, flushed, _, _⟩ := rdpFlushEack_packets ctx history.own eack
    rw [flushed]
    exact history.clock

end Flush

/-! ## Queues that the flush treats wrongly -/

instance (ctx : Ctx cfg) : Decidable ctx.OwnsTx :=
  inferInstanceAs (Decidable (∀ packet ∈ ctx.stack.txQueue.items, _))

/-- The history of a queue whose packets no EACK has expedited. -/
def TxHistory.fresh (ctx : Ctx cfg) (now : Nat) (own : ctx.OwnsTx) (clock : ctx.stack.now = UInt32.ofNat now) :
    TxHistory ctx now where
  entries := ctx.stack.txQueue.items.map fun packet =>
    { packet
      expedited := none
      past := fun _ never => by cases never
      quarantine := fun _ never => by cases never }
  packets := by rw [List.map_map]; exact List.map_id _
  own
  clock

/-- A connection that has sent two packets from this sequence number on, with a packet timeout of one second. -/
def sentTwo (sndNxt : UInt16) (now : UInt32) : Ctx {} :=
  let sender : Ctx {} :=
    { conn := { openEnd.conn with rdp := { openEnd.conn.rdp with sndNxt, sndUna := sndNxt, packetTimeout := 1000 } }
      stack := { openEnd.stack with now } }
  (rdpSend (rdpSend sender (userPacket [1])).2.2 (userPacket [2])).2.2

/-- An EACK that lists one sequence number. -/
def eackOf (number : UInt16) : Packet :=
  { (default : Packet) with length := 7, mem := putBe16 (fun _ => 0) dataAt number }

theorem TxHistory.fresh_fails {ctx : Ctx cfg} {now delay : Nat} (own : ctx.OwnsTx)
    (clock : ctx.stack.now = UInt32.ofNat now) {eack : Packet}
    (waits : ∃ packet ∈ ctx.stack.txQueue.items, eackLists eack packet.seqNr = false ∧
      (∃ number ∈ eackNumbers eack, rdpSeqBefore packet.seqNr number = true) ∧
      rdpTimedOut ctx.conn (UInt32.ofNat (now + delay))
        (eackMarkAll (UInt32.ofNat now) ctx.conn.rdp.packetTimeout eack packet) = false) :
    ¬FlushesEack (TxHistory.fresh ctx now own clock) eack delay := by
  obtain ⟨packet, member, unlisted, precedes, idle⟩ := waits
  intro flushes
  have keeps := (flushesEack_iff _ eack delay).mp flushes _ (List.mem_map_of_mem member) unlisted
  have never : ∀ time, (none : Option Nat) ≠ some time := fun time never => by cases never
  have due := keeps.due.mpr (.inr ⟨precedes, fun ⟨time, expedited, _⟩ => never time expedited⟩)
  exact absurd (due.symm.trans idle) (by decide)

/-- A sent packet is not expedited after 2^31 milliseconds, nor when the listed number is behind the wrap. -/
theorem sentTwo_overlooked :
    (∃ history : TxHistory (sentTwo 1 2147483649) 2147483649, ¬FlushesEack history (eackOf 2) 0) ∧
      ∃ history : TxHistory (sentTwo 65535 10) 10, ¬FlushesEack history (eackOf 0) 0 := by
  have ownLate : (sentTwo 1 2147483649).OwnsTx := by decide +kernel
  have ownWrap : (sentTwo 65535 10).OwnsTx := by decide +kernel
  constructor
  · exact ⟨_, TxHistory.fresh_fails ownLate rfl (by decide +kernel)⟩
  · exact ⟨_, TxHistory.fresh_fails ownWrap rfl (by decide +kernel)⟩

/-- Near the start of the clock, the flush expedites the first of two packets. -/
theorem sentTwo_flushes : ∃ history : TxHistory (sentTwo 1 10) 10, history.entries ≠ [] ∧
    FlushesEack history (eackOf 2) 0 := by
  have own : (sentTwo 1 10).OwnsTx := by decide +kernel
  have right : ∀ packet ∈ (sentTwo 1 10).stack.txQueue.items, eackLists (eackOf 2) packet.seqNr = false →
      (∃ number ∈ eackNumbers (eackOf 2), rdpSeqBefore packet.seqNr number = true) ∧
        packet.BelowListed (eackOf 2) ∧ rdpTimeAfter (UInt32.ofNat 10) packet.rdpQuarantine = true := by
    decide +kernel
  refine ⟨TxHistory.fresh (sentTwo 1 10) 10 own rfl, ?_, ?_⟩
  · exact List.map_eq_nil_iff.not.mpr (by decide +kernel)
  · apply (rdpFlushEack_flushes_iff _ _ (by decide)).mpr
    intro entry member unlisted _
    obtain ⟨packet, queued, rfl⟩ := List.mem_map.mp member
    obtain ⟨precedes, below, released⟩ := right packet queued unlisted
    exact ⟨fun wrong => wrong.2.1 precedes, fun overlooked => overlooked.2.2.elim (absurd below) (absurd released)⟩

end Libcsp

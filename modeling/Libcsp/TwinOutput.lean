/-
This file relates two runs of the buffer pool and of the output path that differ in the content of the buffers.
-/
import Libcsp.Io
import Libcsp.Lib.RelatedQueues

namespace Libcsp

variable {cfg : Config} {strict : Prop}

/-! ## Buffers -/

/-- Two contents of one buffer, with the same quarantine if the relation is strict. -/
structure Packet.SameBuffer (strict : Prop) (first second : Packet) : Prop where
  buf : first.buf = second.buf
  quarantine : strict → first.rdpQuarantine = second.rdpQuarantine

/-- Two contents of one buffer with the same length. -/
structure Packet.SameShape (strict : Prop) (first second : Packet) : Prop extends
    first.SameBuffer strict second where
  length : first.length = second.length

theorem Packet.SameBuffer.refl (packet : Packet) : packet.SameBuffer strict packet := ⟨rfl, fun _ => rfl⟩

theorem Packet.SameShape.refl (packet : Packet) : packet.SameShape strict packet := ⟨.refl packet, rfl⟩

/-- Two pools have the same free buffers. -/
structure Pool.Twin (strict : Prop) (first second : Pool cfg) : Prop where
  buffers : first.buffers.Related (Packet.SameBuffer strict) second.buffers
  refcount : first.refcount = second.refcount

theorem Pool.Twin.refl (pool : Pool cfg) : pool.Twin strict pool := ⟨.refl .refl _, rfl⟩

section Pools
variable {first second : Pool cfg} (twin : first.Twin strict second)
include twin

theorem bufferGet_twin (size : Nat) :
    (bufferGet first size = (none, first) ∧ bufferGet second size = (none, second)) ∨
      ∃ (packet packet' : Packet) (pool pool' : Pool cfg), bufferGet first size = (some packet, pool) ∧
        bufferGet second size = (some packet', pool') ∧ packet.SameBuffer strict packet' ∧
        pool.Twin strict pool' := by
  unfold bufferGet
  split
  · exact .inl ⟨rfl, rfl⟩
  · rcases twin.buffers.dequeue with ⟨empty, empty'⟩ | ⟨packet, packet', rest, rest', got, got', same, related⟩
    · rw [empty, empty']
      exact .inl ⟨rfl, rfl⟩
    · rw [got, got']
      exact .inr ⟨_, _, _, _, rfl, rfl, same, related, by rw [twin.refcount, same.buf]⟩

theorem bufferFree_twin {packet packet' : Packet} (same : packet.SameBuffer strict packet') :
    (bufferFree first (some packet)).Twin strict (bufferFree second (some packet')) := by
  simp only [bufferFree, twin.refcount, same.buf]
  split
  · exact twin
  · split
    · exact ⟨twin.buffers, rfl⟩
    · rcases twin.buffers.enqueue same with ⟨full, full'⟩ | ⟨next, next', stored, stored', related⟩
      · rw [full, full']
        exact ⟨twin.buffers, rfl⟩
      · rw [stored, stored']
        exact ⟨related, rfl⟩

theorem bufferClone_twin {packet packet' : Packet} (same : packet.SameShape strict packet') :
    (bufferClone first (some packet) = (none, first) ∧ bufferClone second (some packet') = (none, second)) ∨
      ∃ (buf : Nat) (pool pool' : Pool cfg), bufferClone first (some packet) = (some { packet with buf }, pool) ∧
        bufferClone second (some packet') = (some { packet' with buf }, pool') ∧ pool.Twin strict pool' := by
  simp only [bufferClone, ← same.length]
  rcases bufferGet_twin twin packet.length.toNat with ⟨failed, failed'⟩ |
    ⟨clone, clone', pool, pool', got, got', sameClone, twin'⟩
  · rw [failed, failed']
    exact .inl ⟨rfl, rfl⟩
  · rw [got, got']
    exact .inr ⟨_, _, _, rfl, by rw [sameClone.buf], twin'⟩

end Pools

/-! ## The output path -/

/-- Both histories continue the same one with corresponding entries. -/
def Continues {Entry : Type} (rel : Entry → Entry → Prop) (base first second : List Entry) : Prop :=
  ∃ more more', first = base ++ more ∧ second = base ++ more' ∧ List.Forall₂ rel more more'

theorem Continues.refl {Entry : Type} (rel : Entry → Entry → Prop) (base : List Entry) :
    Continues rel base base base :=
  ⟨[], [], (List.append_nil _).symm, (List.append_nil _).symm, .nil⟩

theorem Continues.append {Entry : Type} {rel : Entry → Entry → Prop} {base first second more more' : List Entry}
    (continues : Continues rel base first second) (related : List.Forall₂ rel more more') :
    Continues rel base (first ++ more) (second ++ more') := by
  obtain ⟨before, before', rfl, rfl, related'⟩ := continues
  exact ⟨_, _, List.append_assoc .., List.append_assoc .., List.rel_append related' related⟩

/-- Two output paths do the same from now on, and what they sent since `base` corresponds. -/
structure Io.Twin (strict : Prop) (sent : CspId × Packet → CspId × Packet → Prop) (base : List (CspId × Packet))
    (first second : Io cfg) : Prop where
  pool : first.pool.Twin strict second.pool
  ifaceAt : first.ifaceAt = second.ifaceAt
  interfaces : first.interfaces = second.interfaces
  rtable : first.rtable = second.rtable
  promiscEnabled : first.promiscEnabled = second.promiscEnabled
  promiscQueue : first.promiscQueue.items.length = second.promiscQueue.items.length
  outbox : Continues sent base first.outbox second.outbox

variable {sent : CspId × Packet → CspId × Packet → Prop} {base : List (CspId × Packet)}

theorem Io.Twin.refl (io : Io cfg) : io.Twin strict sent io.outbox io :=
  ⟨.refl _, rfl, rfl, rfl, rfl, rfl, .refl _ _⟩

section Output
variable {first second : Io cfg} (twin : first.Twin strict sent base second)
include twin

theorem Io.Twin.setPool {pool pool' : Pool cfg} (pools : pool.Twin strict pool') :
    Io.Twin strict sent base { first with pool } { second with pool := pool' } :=
  { twin with pool := pools }

theorem Io.Twin.free {packet packet' : Packet} (same : packet.SameBuffer strict packet') :
    (first.free packet).Twin strict sent base (second.free packet') :=
  twin.setPool (bufferFree_twin twin.pool same)

theorem promiscAdd_twin {packet packet' : Packet} (same : packet.SameShape strict packet') :
    (promiscAdd first packet).Twin strict sent base (promiscAdd second packet') := by
  unfold promiscAdd
  by_cases enabled : first.promiscEnabled = true
  · rw [if_pos enabled, if_pos (twin.promiscEnabled.symm.trans enabled)]
    rcases bufferClone_twin twin.pool same with ⟨failed, failed'⟩ | ⟨buf, pool, pool', cloned, cloned', pools⟩
    · rw [failed, failed']
      exact twin
    · rw [cloned, cloned']
      have queues : first.promiscQueue.Related (fun _ _ => True) second.promiscQueue :=
        List.forall₂_iff_get.mpr ⟨twin.promiscQueue, fun _ _ _ => trivial⟩
      have copies : ({ packet with buf } : Packet).SameBuffer strict { packet' with buf } := ⟨rfl, same.quarantine⟩
      rcases @BoundedQueue.Related.enqueue _ _ _ _ _ queues { packet with buf } { packet' with buf } trivial with
        ⟨full, full'⟩ | ⟨next, next', stored, stored', related⟩
      · simp only [full, full']
        exact twin.setPool (bufferFree_twin pools copies)
      · simp only [stored, stored']
        exact { twin with pool := pools, promiscQueue := related.length }
  · rw [if_neg enabled, if_neg (by rwa [← twin.promiscEnabled])]
    exact twin

theorem callNexthop_twin (iface : Nat) (via : UInt16) {packet packet' : Packet}
    (same : packet.SameBuffer strict packet') :
    (callNexthop first iface via packet).Twin strict sent base (callNexthop second iface via packet') := by
  have counted : (first.countCall iface).Twin strict sent base (second.countCall iface) :=
    { twin with ifaceAt := by simp only [Io.countCall, twin.ifaceAt] }
  simp only [callNexthop, ← twin.ifaceAt]
  split
  · exact counted.free same
  · exact { counted with }
  · exact { counted.free same with }

end Output

/-- Both results failed or both succeeded, with packets of one shape. -/
inductive SameResult (strict : Prop) : Except Packet Packet → Except Packet Packet → Prop where
  | error {packet packet' : Packet} (same : packet.SameShape strict packet') :
      SameResult strict (.error packet) (.error packet')
  | ok {packet packet' : Packet} (same : packet.SameShape strict packet') :
      SameResult strict (.ok packet) (.ok packet')

section Trailers
variable {packet packet' : Packet} (same : packet.SameShape strict packet')
include same

theorem hmacAppend_twin : SameResult strict (hmacAppend cfg packet) (hmacAppend cfg packet') := by
  simp only [hmacAppend, ← same.length]
  split
  · exact .error same
  · exact .ok ⟨⟨same.buf, same.quarantine⟩, rfl⟩

theorem crc32Append_twin : SameResult strict (crc32Append cfg packet) (crc32Append cfg packet') := by
  simp only [crc32Append, ← same.length]
  split
  · exact .error same
  · exact .ok ⟨⟨same.buf, same.quarantine⟩, rfl⟩

/-- The trailers fit in both packets or in neither. -/
theorem sendTrailers_twin (idout : CspId) (fromMe : Bool) :
    SameResult strict (sendTrailers cfg idout packet fromMe) (sendTrailers cfg idout packet' fromMe) := by
  have checked : ∀ {packet packet' : Packet}, packet.SameShape strict packet' →
      SameResult strict (if idout.has cspFCrc32 then crc32Append cfg packet else .ok packet)
        (if idout.has cspFCrc32 then crc32Append cfg packet' else .ok packet') := by
    intro packet packet' same
    split
    · exact crc32Append_twin same
    · exact .ok same
  cases fromMe with
  | false => exact .ok same
  | true =>
      simp only [sendTrailers, if_true]
      by_cases signed : idout.has cspFHmac = true
      · rw [if_pos signed, if_pos signed]
        have appended := @hmacAppend_twin cfg _ _ _ same
        generalize hmacAppend cfg packet = result at appended
        generalize hmacAppend cfg packet' = result' at appended
        cases appended with
        | error same => exact .error same
        | ok same => exact checked same
      · rw [if_neg signed, if_neg signed]
        exact checked same

end Trailers

section Output
variable {first second : Io cfg} (twin : first.Twin strict sent base second)
include twin

theorem sendDirectIface_twin (idout : CspId) (iface : Nat) (via : UInt16) (fromMe : Bool) {packet packet' : Packet}
    (same : packet.SameShape strict packet') :
    (sendDirectIface first idout (some packet) iface via fromMe).Twin strict sent base
      (sendDirectIface second idout (some packet') iface via fromMe) := by
  have named : ({ packet with id := idout } : Packet).SameShape strict { packet' with id := idout } :=
    ⟨⟨same.buf, same.quarantine⟩, same.length⟩
  have copied : Io.Twin strict sent base
      (if fromMe && iface != ifLo then promiscAdd first { packet with id := idout } else first)
      (if fromMe && iface != ifLo then promiscAdd second { packet' with id := idout } else second) := by
    split
    · exact promiscAdd_twin twin named
    · exact twin
  simp only [sendDirectIface]
  generalize (if fromMe && iface != ifLo then promiscAdd first { packet with id := idout } else first) = io at copied
  generalize (if fromMe && iface != ifLo then promiscAdd second { packet' with id := idout } else second) = io'
    at copied
  have trailed := @sendTrailers_twin cfg _ _ _ named idout fromMe
  generalize sendTrailers cfg idout { packet with id := idout } fromMe = result at trailed
  generalize sendTrailers cfg idout { packet' with id := idout } fromMe = result' at trailed
  cases trailed with
  | error same => exact copied.free same.toSameBuffer
  | ok same =>
      simp only [← copied.ifaceAt, ← same.length]
      split
      · exact copied.free same.toSameBuffer
      · exact callNexthop_twin copied iface via same.toSameBuffer

omit twin in
theorem sendDirectLoop_twin (idout : CspId) (routedFrom : Option Nat) (ifaces : List Nat) (found : Bool)
    {packet packet' : Packet} (same : packet.SameShape strict packet') {first second : Io cfg}
    (twin : first.Twin strict sent base second) :
    (sendDirectLoop idout (some packet) routedFrom ifaces (found, first)).1 =
        (sendDirectLoop idout (some packet') routedFrom ifaces (found, second)).1 ∧
      (sendDirectLoop idout (some packet) routedFrom ifaces (found, first)).2.Twin strict sent base
        (sendDirectLoop idout (some packet') routedFrom ifaces (found, second)).2 := by
  induction ifaces generalizing found first second with
  | nil => exact ⟨rfl, twin⟩
  | cons iface rest ih =>
      have decision : sendsOn second idout.dst routedFrom iface = sendsOn first idout.dst routedFrom iface := by
        simp only [sendsOn, twin.ifaceAt]
      simp only [sendDirectLoop, decision]
      split
      · apply ih
        rcases bufferClone_twin twin.pool same with ⟨failed, failed'⟩ | ⟨buf, pool, pool', cloned, cloned', pools⟩
        · simp only [failed, failed']
          exact { twin with }
        · have address : (second.ifaceAt iface).addr = (first.ifaceAt iface).addr := by rw [twin.ifaceAt]
          simp only [cloned, cloned', address]
          have copies : ({ packet with buf } : Packet).SameShape strict { packet' with buf } :=
            ⟨⟨rfl, same.quarantine⟩, same.length⟩
          exact sendDirectIface_twin (twin.setPool pools) _ _ _ _ copies
      · exact ih found twin

theorem sendDirectBody_twin (idout : CspId) (routedFrom : Option Nat) {packet packet' : Packet}
    (same : packet.SameShape strict packet') :
    (sendDirectBody first idout (some packet) routedFrom).Twin strict sent base
      (sendDirectBody second idout (some packet') routedFrom) := by
  obtain ⟨found, looped⟩ := sendDirectLoop_twin idout routedFrom first.interfaces false same twin
  simp only [sendDirectBody, ← twin.interfaces]
  generalize sendDirectLoop idout (some packet) routedFrom first.interfaces (false, first) = result at found looped
  generalize sendDirectLoop idout (some packet') routedFrom first.interfaces (false, second) = result' at found looped
  obtain ⟨flag, io⟩ := result
  obtain ⟨flag', io'⟩ := result'
  obtain rfl : flag = flag' := found
  cases flag with
  | true => exact Io.Twin.free looped same.toSameBuffer
  | false =>
      have looped : io.Twin strict sent base io' := looped
      have routes : rtableFindRoute cfg io'.rtable idout.dst = rtableFindRoute cfg io.rtable idout.dst := by
        rw [looped.rtable]
      simp only [routes]
      split
      · exact sendDirectIface_twin looped _ _ _ _ same
      · exact looped.free same.toSameBuffer

/-- Corresponding packets leave in the same way. -/
theorem sendDirect_twin (idout : CspId) (routedFrom : Option Nat) {packet packet' : Packet}
    (same : packet.SameShape strict packet') (corresponds : sent (idout, packet) (idout, packet')) :
    (sendDirect first idout (some packet) routedFrom).Twin strict sent base
      (sendDirect second idout (some packet') routedFrom) := by
  have recorded : Io.Twin strict sent base { first with outbox := first.outbox ++ [(idout, packet)] }
      { second with outbox := second.outbox ++ [(idout, packet')] } :=
    { twin with outbox := twin.outbox.append (.cons corresponds .nil) }
  exact sendDirectBody_twin recorded idout routedFrom same

end Output
end Libcsp

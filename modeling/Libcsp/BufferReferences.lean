/-
This file counts the references to one buffer of the pool while other code uses the pool.
-/
import Libcsp.SendOwnership

namespace Libcsp

variable {cfg : Config}

/-! ## The pool -/

/-- A buffer is in the pool exactly when it has no reference. -/
structure Pool.Sound (pool : Pool cfg) : Prop where
  distinct : pool.freeBufs.Nodup
  free_iff : ∀ buf, buf ∈ pool.freeBufs ↔ buf < cfg.bufferCount ∧ pool.refcount buf = 0
  inside : ∀ buf, pool.refcount buf ≠ 0 → buf < cfg.bufferCount

theorem bufferInit_sound (content : Nat → Packet) : (bufferInit cfg content).Sound := by
  have bufs : (bufferInit cfg content).freeBufs = List.range cfg.bufferCount := by
    simp [bufferInit, Pool.freeBufs, Function.comp_def]
  constructor
  · rw [bufs]
    exact List.nodup_range
  · intro buf
    rw [bufs, List.mem_range]
    exact ⟨fun inside => ⟨inside, rfl⟩, fun inside => inside.1⟩
  · exact fun buf used => absurd rfl used

/-- An allocation takes a buffer without references, and gives it one. -/
theorem bufferGet_sound {pool after : Pool cfg} {size : Nat} {packet : Packet} (sound : pool.Sound)
    (got : bufferGet pool size = (some packet, after)) :
    after.Sound ∧ pool.refcount packet.buf = 0 ∧ after.refcount = Function.update pool.refcount packet.buf 1 := by
  obtain ⟨failed, -⟩ | ⟨head, rest, -, items, taken⟩ := bufferGet_cases pool size
  · rw [failed] at got
    cases got
  · rw [taken] at got
    cases got
    have bufs : pool.freeBufs = packet.buf :: rest.items.map Packet.buf := by
      rw [Pool.freeBufs, items, List.map_cons]
    have head := (sound.free_iff packet.buf).mp (by rw [bufs]; exact List.mem_cons_self)
    have distinct := sound.distinct
    rw [bufs, List.nodup_cons] at distinct
    refine ⟨⟨distinct.2, fun buf => ?_, fun buf used => ?_⟩, head.2, rfl⟩
    · by_cases same : buf = packet.buf
      · subst same
        simp only [Function.update_self]
        exact ⟨fun member => absurd member distinct.1, fun free => absurd free.2 (by decide)⟩
      · have member := sound.free_iff buf
        rw [bufs, List.mem_cons, or_iff_right same] at member
        simp only [Function.update_of_ne same]
        exact member
    · by_cases same : buf = packet.buf
      · rw [same]
        exact head.1
      · simp only [Function.update_of_ne same] at used
        exact sound.inside buf used

/-- While a buffer is in use, the queue of free buffers has room for it. -/
theorem Pool.Sound.room {pool : Pool cfg} (sound : pool.Sound) {buf : Nat} (used : pool.refcount buf ≠ 0) :
    pool.buffers.items.length < cfg.bufferCount := by
  have absent : buf ∉ pool.freeBufs := fun member => used ((sound.free_iff buf).mp member).2
  have inside : buf :: pool.freeBufs ⊆ List.range cfg.bufferCount := by
    intro other member
    rw [List.mem_range]
    obtain rfl | member := List.mem_cons.mp member
    · exact sound.inside other used
    · exact ((sound.free_iff other).mp member).1
  have bound := ((List.nodup_cons.mpr ⟨absent, sound.distinct⟩).subperm inside).length_le
  rw [List.length_cons, List.length_range, pool.freeBufs_length] at bound
  exact bound

/-- A buffer in use gets another count of references, and is in the pool without references. -/
theorem Pool.Sound.recount {pool after : Pool cfg} (sound : pool.Sound) {buf : Nat} {count : UInt32}
    (used : pool.refcount buf ≠ 0) (refs : after.refcount = Function.update pool.refcount buf count)
    (bufs : after.freeBufs = pool.freeBufs ++ if count = 0 then [buf] else []) : after.Sound := by
  have absent : buf ∉ pool.freeBufs := fun member => used ((sound.free_iff buf).mp member).2
  have inside := sound.inside buf used
  constructor
  · rw [bufs]
    split
    · exact sound.distinct.append (List.nodup_singleton buf) (List.disjoint_singleton.mpr absent)
    · rw [List.append_nil]
      exact sound.distinct
  · intro other
    rw [bufs, refs, List.mem_append]
    by_cases same : other = buf
    · subst same
      rw [Function.update_self, or_iff_right absent, and_iff_right inside]
      split
      · rename_i zero
        exact ⟨fun _ => zero, fun _ => List.mem_singleton_self other⟩
      · rename_i some'
        exact ⟨fun member => absurd member List.not_mem_nil, fun zero => absurd zero some'⟩
    · rw [Function.update_of_ne same, ← sound.free_iff other]
      apply or_iff_left
      split
      · exact fun member => same (List.mem_singleton.mp member)
      · exact List.not_mem_nil
  · intro other
    rw [refs]
    by_cases same : other = buf
    · exact fun _ => same ▸ inside
    · rw [Function.update_of_ne same]
      exact sound.inside other

/-- A free takes one reference away, if there is one. The last one puts the buffer back. -/
theorem bufferFree_sound {pool : Pool cfg} (sound : pool.Sound) (packet : Packet) :
    (bufferFree pool (some packet)).Sound ∧ ∀ buf, ((bufferFree pool (some packet)).refcount buf).toNat =
      (pool.refcount buf).toNat - [packet.buf].count buf := by
  by_cases free : pool.refcount packet.buf = 0
  · rw [bufferFree, if_pos free]
    refine ⟨sound, fun buf => ?_⟩
    by_cases same : packet.buf = buf
    · subst same
      rw [free, List.count_singleton_self]
      rfl
    · rw [List.count_singleton, if_neg (by simpa using same)]
      rfl
  · have positive : 0 < (pool.refcount packet.buf).toNat :=
      Nat.pos_of_ne_zero fun zero => free (UInt32.toNat_inj.mp zero)
    have less : (pool.refcount packet.buf - 1).toNat = (pool.refcount packet.buf).toNat - 1 :=
      UInt32.toNat_sub_of_le _ _ (UInt32.le_iff_toNat_le.mpr positive)
    have counts : ∀ buf, (Function.update pool.refcount packet.buf (pool.refcount packet.buf - 1) buf).toNat =
        (pool.refcount buf).toNat - [packet.buf].count buf := by
      intro buf
      by_cases same : packet.buf = buf
      · subst same
        rw [Function.update_self, less, List.count_singleton_self]
      · rw [Function.update_of_ne (Ne.symm same), List.count_singleton, if_neg (by simpa using same)]
        rfl
    rw [bufferFree, if_neg free]
    simp only
    split
    · rename_i more
      refine ⟨sound.recount free rfl ?_, counts⟩
      rw [if_neg (UInt32.pos_iff_ne_zero.mp more), List.append_nil]
      rfl
    · rename_i last
      rw [BoundedQueue.enqueue_of_room packet (sound.room free)]
      refine ⟨sound.recount free rfl ?_, counts⟩
      rw [if_pos (UInt32.le_zero_iff.mp (UInt32.not_lt.mp last))]
      exact List.map_append

/-! ## One buffer -/

/-- The references to this buffer are its entries in two lists and `extra` further ones. The list `queued`
is for a received packet, and `lent` for packets from the pool. -/
structure Pool.Tracks (pool : Pool cfg) (buf extra : Nat) (queued lent : List Nat) : Prop where
  sound : pool.Sound
  counted : (pool.refcount buf).toNat = queued.count buf + lent.count buf + extra
  once : queued.count buf + lent.count buf ≤ 1
  fresh : buf ∈ lent → extra = 0

section Tracks
variable {pool : Pool cfg} {buf extra : Nat} {queued lent : List Nat}

theorem Pool.Tracks.perm {queued' lent' : List Nat} (tracks : pool.Tracks buf extra queued lent)
    (same : queued.Perm queued') (same' : lent.Perm lent') : pool.Tracks buf extra queued' lent' where
  sound := tracks.sound
  counted := by rw [← same.count_eq, ← same'.count_eq, tracks.counted]
  once := by
    rw [← same.count_eq, ← same'.count_eq]
    exact tracks.once
  fresh member := tracks.fresh (same'.mem_iff.mpr member)

/-- An entry for another buffer may get lost. -/
theorem Pool.Tracks.drop {other : Nat} (tracks : pool.Tracks buf extra (other :: queued) lent) (different : other ≠ buf) :
    pool.Tracks buf extra queued lent := by
  obtain ⟨sound, counted, once, fresh⟩ := tracks
  rw [List.count_cons_of_ne different] at counted once
  exact ⟨sound, counted, once, fresh⟩

theorem Pool.Tracks.dropLent {other : Nat} (tracks : pool.Tracks buf extra queued (other :: lent)) (different : other ≠ buf) :
    pool.Tracks buf extra queued lent := by
  obtain ⟨sound, counted, once, fresh⟩ := tracks
  rw [List.count_cons_of_ne different] at counted once
  exact ⟨sound, counted, once, fun member => fresh (List.mem_cons_of_mem other member)⟩

/-- The free of a received packet. -/
theorem bufferFree_tracks {packet : Packet} (tracks : pool.Tracks buf extra (packet.buf :: queued) lent) :
    (bufferFree pool (some packet)).Tracks buf extra queued lent := by
  obtain ⟨sound, counted, once, fresh⟩ := tracks
  obtain ⟨after, counts⟩ := bufferFree_sound sound packet
  rw [← List.singleton_append, List.count_append] at counted once
  refine ⟨after, ?_, by omega, fresh⟩
  rw [counts, counted]
  omega

/-- The free of a packet from the pool. -/
theorem bufferFree_tracksLent {packet : Packet} (tracks : pool.Tracks buf extra queued (packet.buf :: lent)) :
    (bufferFree pool (some packet)).Tracks buf extra queued lent := by
  obtain ⟨sound, counted, once, fresh⟩ := tracks
  obtain ⟨after, counts⟩ := bufferFree_sound sound packet
  rw [← List.singleton_append, List.count_append] at counted once
  refine ⟨after, ?_, by omega, fun member => fresh (List.mem_cons_of_mem _ member)⟩
  rw [counts, counted]
  omega

/-- An allocation lends one buffer out, or fails. -/
theorem bufferGet_tracks (tracks : pool.Tracks buf extra queued lent) (size : Nat) :
    (bufferGet pool size).2.Tracks buf extra queued ((bufferGet pool size).1.toList.map Packet.buf ++ lent) := by
  obtain ⟨sound, counted, once, fresh⟩ := tracks
  cases got : bufferGet pool size with
  | mk found after =>
      cases found with
      | none =>
          obtain ⟨failed, -⟩ | ⟨_, _, _, _, taken⟩ := bufferGet_cases pool size
          · rw [failed] at got
            cases got
            exact ⟨sound, counted, once, fresh⟩
          · rw [taken] at got
            cases got
      | some packet =>
          obtain ⟨sound', free, refs⟩ := bufferGet_sound sound got
          simp only [Option.toList_some, List.map_cons, List.map_nil, List.singleton_append]
          by_cases same : packet.buf = buf
          · rw [same] at free refs
            rw [free] at counted
            simp only [UInt32.toNat_zero] at counted
            rw [same]
            refine ⟨sound', ?_, ?_, fun _ => by omega⟩
            · rw [refs, Function.update_self, List.count_cons_self]
              simp only [UInt32.toNat_one]
              omega
            · rw [List.count_cons_self]
              omega
          · have kept : (packet.buf :: lent).count buf = lent.count buf := List.count_cons_of_ne same
            refine ⟨sound', ?_, ?_, fun member => fresh ?_⟩
            · rw [refs, Function.update_of_ne (Ne.symm same), kept, counted]
            · rw [kept]
              exact once
            · exact (List.mem_cons.mp member).resolve_left (Ne.symm same)

theorem bufferClone_tracks (tracks : pool.Tracks buf extra queued lent) (packet : Packet) :
    (bufferClone pool (some packet)).2.Tracks buf extra queued
      ((bufferClone pool (some packet)).1.toList.map Packet.buf ++ lent) := by
  have got := bufferGet_tracks tracks packet.length.toNat
  rw [bufferClone_some]
  cases taken : (bufferGet pool packet.length.toNat).1 with
  | none =>
      rw [taken] at got
      exact got
  | some clone =>
      rw [taken] at got
      exact got

end Tracks

/-! ## The output path -/

/-- The output path keeps some of the lent buffers, and its caller holds the others. -/
def Io.Tracks (io : Io cfg) (buf extra : Nat) (queued lent : List Nat) : Prop :=
  io.pool.Tracks buf extra queued (io.usedBufs ++ lent)

section Output
variable {io : Io cfg} {buf extra : Nat} {queued lent : List Nat}

theorem Io.Tracks.perm {lent' : List Nat} (tracks : io.Tracks buf extra queued lent) (same : lent.Perm lent') :
    io.Tracks buf extra queued lent' :=
  Pool.Tracks.perm tracks (List.Perm.refl _) (same.append_left _)

theorem Io.free_tracks {packet : Packet} (tracks : io.Tracks buf extra (packet.buf :: queued) lent) :
    (io.free packet).Tracks buf extra queued lent := bufferFree_tracks tracks

theorem Io.free_tracksLent {packet : Packet} (tracks : io.Tracks buf extra queued (packet.buf :: lent)) :
    (io.free packet).Tracks buf extra queued lent :=
  bufferFree_tracksLent (Pool.Tracks.perm tracks (List.Perm.refl _) List.perm_middle)

/-- A copy of a packet comes from the pool. -/
theorem Io.clone_tracks (tracks : io.Tracks buf extra queued lent) (packet : Packet) :
    Io.Tracks { io with pool := (bufferClone io.pool (some packet)).2 } buf extra queued
      ((bufferClone io.pool (some packet)).1.toList.map Packet.buf ++ lent) := by
  apply (bufferClone_tracks tracks packet).perm (List.Perm.refl _)
  rw [← List.append_assoc, ← List.append_assoc]
  exact List.perm_append_comm.append_right lent

theorem promiscAdd_tracks (tracks : io.Tracks buf extra queued lent) (packet : Packet) :
    (promiscAdd io packet).Tracks buf extra queued lent := by
  have cloned := io.clone_tracks tracks packet
  unfold promiscAdd
  split
  · generalize bufferClone io.pool (some packet) = result at cloned
    obtain ⟨_ | copy, pool⟩ := result
    · exact cloned
    · simp only
      split
      · exact Io.free_tracksLent cloned
      · rename_i promiscQueue stored
        have items := (BoundedQueue.enqueue_eq_some.mp stored).2
        apply Pool.Tracks.perm cloned (List.Perm.refl _)
        simp only [Io.usedBufs, items, Option.toList_some, List.map_append, List.map_cons, List.map_nil,
          List.append_assoc]
        exact List.Perm.refl _
  · exact tracks

theorem callNexthop_tracks {packet : Packet} (iface : Nat) (via : UInt16)
    (tracks : io.Tracks buf extra queued (packet.buf :: lent)) :
    (callNexthop io iface via packet).Tracks buf extra queued lent := by
  have freed : (io.free packet).Tracks buf extra queued lent := Io.free_tracksLent tracks
  simp only [callNexthop]
  split
  · exact freed
  · apply Pool.Tracks.perm tracks (List.Perm.refl _)
    simp only [Io.usedBufs, List.map_append, List.map_cons, List.map_nil, List.append_assoc]
    apply List.Perm.append_left
    exact List.perm_middle
  · exact freed

theorem sendDirectIface_tracks {packet : Packet} (idout : CspId) (iface : Nat) (via : UInt16) (fromMe : Bool)
    (tracks : io.Tracks buf extra queued (packet.buf :: lent)) :
    (sendDirectIface io idout (some packet) iface via fromMe).Tracks buf extra queued lent := by
  have read : (if fromMe && iface != ifLo then promiscAdd io { packet with id := idout } else io).Tracks buf extra
      queued (packet.buf :: lent) := by
    split
    · exact promiscAdd_tracks tracks _
    · exact tracks
  simp only [sendDirectIface]
  generalize (if fromMe && iface != ifLo then promiscAdd io { packet with id := idout } else io) = after at read
  obtain ⟨trailed, same, ⟨failed, -⟩ | ⟨ok, -⟩⟩ := sendTrailers_cases idout { packet with id := idout } fromMe
  · rw [failed]
    apply Io.free_tracksLent
    rw [same]
    exact read
  · rw [ok]
    simp only
    split
    · apply Io.free_tracksLent
      rw [same]
      exact read
    · apply callNexthop_tracks
      rw [same]
      exact read

theorem sendDirectLoop_tracks (idout : CspId) (packet : Packet) (routedFrom : Option Nat) (ifaces : List Nat)
    (found : Bool) (tracks : io.Tracks buf extra queued lent) :
    (sendDirectLoop idout (some packet) routedFrom ifaces (found, io)).2.Tracks buf extra queued lent := by
  induction ifaces generalizing found io with
  | nil => exact tracks
  | cons iface rest ih =>
      simp only [sendDirectLoop]
      split
      · apply ih
        have cloned := io.clone_tracks tracks packet
        generalize bufferClone io.pool (some packet) = result at cloned
        obtain ⟨_ | copy, pool⟩ := result
        · exact cloned
        · exact sendDirectIface_tracks _ _ _ _ cloned
      · exact ih found tracks

/-- The output path takes over a packet from the pool. -/
theorem sendDirect_tracks {packet : Packet} (idout : CspId) (routedFrom : Option Nat)
    (tracks : io.Tracks buf extra queued (packet.buf :: lent)) :
    (sendDirect io idout (some packet) routedFrom).Tracks buf extra queued lent := by
  have logged : Io.Tracks { io with outbox := io.outbox ++ [(idout, packet)] } buf extra queued
      (packet.buf :: lent) := tracks
  have looped := sendDirectLoop_tracks idout packet routedFrom io.interfaces false logged
  simp only [sendDirect, sendDirectBody, Option.map_some, Option.toList_some]
  generalize sendDirectLoop idout (some packet) routedFrom io.interfaces
    (false, { io with outbox := io.outbox ++ [(idout, packet)] }) = result at looped
  obtain ⟨_ | _, after⟩ := result
  · simp only
    split
    · exact sendDirectIface_tracks _ _ _ _ looped
    · exact Io.free_tracksLent looped
  · exact Io.free_tracksLent looped

theorem sendDirectLoop_tracksNull (idout : CspId) (routedFrom : Option Nat) (ifaces : List Nat) (found : Bool)
    (tracks : io.Tracks buf extra queued lent) :
    (sendDirectLoop idout none routedFrom ifaces (found, io)).2.Tracks buf extra queued lent := by
  induction ifaces generalizing found io with
  | nil => exact tracks
  | cons iface rest ih =>
      simp only [sendDirectLoop]
      split
      · exact ih true tracks
      · exact ih found tracks

/-- Without a packet, the output path gets no buffer. -/
theorem sendDirect_tracksNull (idout : CspId) (routedFrom : Option Nat) (tracks : io.Tracks buf extra queued lent) :
    (sendDirect io idout none routedFrom).Tracks buf extra queued lent := by
  have logged : Io.Tracks { io with outbox := io.outbox ++ [] } buf extra queued lent := tracks
  have looped := sendDirectLoop_tracksNull idout routedFrom io.interfaces false logged
  simp only [sendDirect, sendDirectBody, Option.map_none, Option.toList_none]
  generalize sendDirectLoop idout none routedFrom io.interfaces
    (false, { io with outbox := io.outbox ++ [] }) = result at looped
  obtain ⟨_ | _, after⟩ := result
  · simp only
    split
    · exact looped
    · exact looped
  · exact looped

end Output

end Libcsp

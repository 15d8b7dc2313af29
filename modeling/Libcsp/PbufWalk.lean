/-
This file models the pointer walks of csp_if_can_pbuf.c and states which packets they leave in the list.
-/
import Libcsp.CanText
import Libcsp.Lib.LinkedList
import Libcsp.QueueFlush

namespace Libcsp

open LinkedList

variable {cfg : Config}

/-! ## The walks -/

/-- The pointer `ifdata->pbufs`, the packets that it may lead to, and the pool. -/
structure PbufHeap (cfg : Config) where
  pbufs : Option Nat
  next : Nat → Option Nat
  packet : Nat → Pbuf
  pool : Pool cfg

namespace PbufHeap

/-- The packet leaves the list through the pointer of the packet that the walk saw before it. -/
def erase (heap : PbufHeap cfg) (prev : Option Nat) (packet : Nat) : PbufHeap cfg :=
  match prev with
  | some prev => { heap with next := Function.update heap.next prev (heap.next packet) }
  | none => { heap with pbufs := heap.next packet }

def free (heap : PbufHeap cfg) (packet : Nat) : PbufHeap cfg :=
  { heap with pool := bufferFree heap.pool (some (heap.packet packet).frame.packet) }

/-- The packet was idle for too long. -/
def expired (heap : PbufHeap cfg) (now : UInt32) (packet : Nat) : Bool :=
  now - (heap.packet packet).lastUsed > pbufTimeoutMs

/-- The loop of `csp_can_pbuf_cleanup`. The number bounds its steps. -/
def cleanupLoop (now : UInt32) : Nat → Option Nat → Option Nat → PbufHeap cfg → Option (PbufHeap cfg)
  | _, none, _, heap => some heap
  | 0, some _, _, _ => none
  | steps + 1, some packet, prev, heap =>
      let heap := if heap.expired now packet then (heap.erase prev packet).free packet else heap
      cleanupLoop now steps (heap.next packet) (some packet) heap

/-- This is `csp_can_pbuf_cleanup`. -/
def cleanup (heap : PbufHeap cfg) (now : UInt32) (steps : Nat) : Option (PbufHeap cfg) :=
  cleanupLoop now steps heap.pbufs none heap

/-- This is `csp_can_pbuf_new`. -/
def new (heap : PbufHeap cfg) (id : Nat) (now : UInt32) (steps : Nat) : Option (PbufHeap cfg) := do
  let heap ← heap.cleanup now steps
  match bufferGet heap.pool 0 with
  | (none, pool) => some { heap with pool }
  | (some packet, pool) =>
      let pbuf : Pbuf := { frame := ⟨packet, 0, 0⟩, rxCount := 0, remain := 0, cfpid := id, lastUsed := now }
      some {
        pbufs := some packet.buf
        next := Function.update heap.next packet.buf heap.pbufs
        packet := Function.update heap.packet packet.buf pbuf
        pool }

/-- The loop of `csp_can_pbuf_find`. -/
def findLoop (id mask : Nat) (now : UInt32) : Nat → Option Nat → PbufHeap cfg → Option (PbufHeap cfg)
  | _, none, heap => some heap
  | 0, some _, _ => none
  | steps + 1, some packet, heap =>
      if (heap.packet packet).cfpid &&& mask = id &&& mask then
        some { heap with packet := Function.update heap.packet packet { heap.packet packet with lastUsed := now } }
      else findLoop id mask now steps (heap.next packet) heap

/-- The loop of `csp_can_pbuf_free`. -/
def freeLoop (buffer : Nat) (bufFree : Bool) : Nat → Option Nat → Option Nat → PbufHeap cfg → Option (PbufHeap cfg)
  | _, none, _, heap => some heap
  | 0, some _, _, _ => none
  | steps + 1, some packet, prev, heap =>
      let heap :=
        if packet = buffer then
          if bufFree then (heap.erase prev packet).free packet else heap.erase prev packet
        else heap
      freeLoop buffer bufFree steps (heap.next packet) (some packet) heap

/-- The list that `ifdata->pbufs` leads to. -/
structure Lists (heap : PbufHeap cfg) (packets : List Nat) : Prop where
  linked : Linked heap.next heap.pbufs packets
  bufs : ∀ packet ∈ packets, (heap.packet packet).frame.packet.buf = packet

end PbufHeap

/-! ## The packets that stay -/

/-- A removal has an effect when the packet before it is in the list. -/
def survivors (expired : Nat → Bool) : Bool → List Nat → List Nat
  | _, [] => []
  | unlinked, packet :: rest =>
      if expired packet then
        if unlinked then packet :: survivors expired false rest else survivors expired true rest
      else packet :: survivors expired false rest

/-- No two neighbours are expired. -/
def Apart (expired : Nat → Bool) (packets : List Nat) : Prop :=
  packets.IsChain fun first second => ¬(expired first = true ∧ expired second = true)

instance (expired : Nat → Bool) (packets : List Nat) : Decidable (Apart expired packets) :=
  inferInstanceAs (Decidable (List.IsChain _ _))

theorem apart_cons (expired : Nat → Bool) (packet : Nat) (rest : List Nat) : Apart expired (packet :: rest) ↔
    (expired packet = true → ∀ head ∈ rest.head?, expired head = false) ∧ Apart expired rest := by
  rw [Apart, List.isChain_cons]
  apply and_congr_left'
  constructor
  · intro apart old head first
    exact Bool.eq_false_iff.mpr fun also => apart head first ⟨old, also⟩
  · rintro apart head first ⟨old, also⟩
    rw [apart old head first] at also
    cases also

theorem survivors_eq_filter (expired : Nat → Bool) (unlinked : Bool) (packets : List Nat) :
    survivors expired unlinked packets = packets.filter (fun packet => !expired packet) ↔
      (unlinked = true → ∀ head ∈ packets.head?, expired head = false) ∧ Apart expired packets := by
  induction packets generalizing unlinked with
  | nil => simp [survivors, Apart]
  | cons packet rest ih =>
      rw [survivors]
      cases old : expired packet with
      | true =>
          rw [if_pos rfl, List.filter_cons_of_neg (by simp [old])]
          cases unlinked with
          | true =>
              simp only [if_true, List.head?_cons, Option.mem_some_iff, forall_eq', forall_const]
              constructor
              · intro same
                -- The expired packet stays in the list.
                have member : packet ∈ rest.filter fun packet => !expired packet := same ▸ List.mem_cons_self
                rw [List.mem_filter, old] at member
                cases member.2
              · rintro ⟨young, _⟩
                rw [old] at young
                cases young
          | false =>
              rw [if_neg Bool.false_ne_true, ih, apart_cons]
              simp [old]
      | false =>
          rw [if_neg Bool.false_ne_true, List.filter_cons_of_pos (by simp [old]), List.cons.injEq,
            and_iff_right rfl, ih, apart_cons]
          simp [old]

namespace PbufHeap

variable {heap : PbufHeap cfg} {now : UInt32} {front rest : List Nat} {prev : Option Nat}

/-- The walk saw this packet last. It is the last one of the list, or it just left the list. -/
def Follows (unlinked : Bool) (front rest : List Nat) (prev : Option Nat) : Prop :=
  if unlinked then ∃ packet ∉ front ++ rest, prev = some packet else prev = front.getLast?

/-- The erasure takes the next packet out of the list exactly when its predecessor is in the list. -/
theorem erase_linked {packet : Nat} {unlinked : Bool} (follows : Follows unlinked front (packet :: rest) prev)
    (linked : Linked heap.next heap.pbufs (front ++ packet :: rest)) :
    Linked (heap.erase prev packet).next (heap.erase prev packet).pbufs
      (if unlinked then front ++ packet :: rest else front ++ rest) := by
  cases unlinked with
  | true =>
      obtain ⟨gone, foreign, rfl⟩ := follows
      exact (Linked.update foreign).mpr linked
  | false =>
      obtain rfl : prev = front.getLast? := follows
      cases front using List.reverseRecOn with
      | nil => exact linked.2
      | append_singleton more last _ =>
          rw [List.getLast?_concat]
          exact linked.unlink

/-- The erasure changes no other pointer of the walk. -/
theorem erase_next {packet : Nat} {unlinked : Bool} (follows : Follows unlinked front (packet :: rest) prev)
    (linked : Linked heap.next heap.pbufs (front ++ packet :: rest)) :
    (heap.erase prev packet).next packet = rest.head? := by
  have behind : heap.next packet = rest.head? := linked.tail.head?
  rw [← behind]
  cases prev with
  | none => rfl
  | some last =>
      apply Function.update_of_ne
      rintro rfl
      cases unlinked with
      | true =>
          obtain ⟨gone, foreign, same⟩ := follows
          obtain rfl := Option.some.inj same
          exact foreign (List.mem_append_right front List.mem_cons_self)
      | false =>
          have inside : packet ∈ front := List.mem_of_getLast? (Eq.symm follows)
          have distinct := linked.nodup
          rw [List.nodup_append] at distinct
          exact distinct.2.2 packet inside packet List.mem_cons_self rfl

@[simp] theorem erase_packet (heap : PbufHeap cfg) (prev : Option Nat) (packet : Nat) :
    (heap.erase prev packet).packet = heap.packet := by
  cases prev <;> rfl

@[simp] theorem erase_pool (heap : PbufHeap cfg) (prev : Option Nat) (packet : Nat) :
    (heap.erase prev packet).pool = heap.pool := by
  cases prev <;> rfl

/-- The contents of these packets in their order. -/
def contents (heap : PbufHeap cfg) (packets : List Nat) : List Packet :=
  packets.map fun packet => (heap.packet packet).frame.packet

theorem erase_expired (heap : PbufHeap cfg) (prev : Option Nat) (packet : Nat) (now : UInt32) :
    ((heap.erase prev packet).free packet).expired now = heap.expired now := by
  cases prev <;> rfl

/-- The frees of the walk so far and to come. -/
theorem erase_freeAll (heap : PbufHeap cfg) (prev : Option Nat) (packet : Nat) (packets : List Nat) :
    freeAll ((heap.erase prev packet).free packet).pool
        (((heap.erase prev packet).free packet).contents packets) =
      freeAll heap.pool (heap.contents (packet :: packets)) := by
  cases prev <;> rfl

/-- The walk frees each expired packet. The list keeps the survivors. -/
theorem cleanupLoop_lists {steps : Nat} {unlinked : Bool} (enough : rest.length ≤ steps)
    (follows : Follows unlinked front rest prev) (linked : Linked heap.next heap.pbufs (front ++ rest)) :
    ∃ next pbufs, cleanupLoop now steps rest.head? prev heap = some { heap with
        next, pbufs, pool := freeAll heap.pool (heap.contents (rest.filter (heap.expired now))) } ∧
      Linked next pbufs (front ++ survivors (heap.expired now) unlinked rest) := by
  induction rest generalizing steps unlinked front prev heap with
  | nil => exact ⟨heap.next, heap.pbufs, by cases steps <;> rfl, linked⟩
  | cons packet rest ih =>
      obtain ⟨more, rfl⟩ := Nat.exists_eq_add_one_of_ne_zero (Nat.ne_zero_of_lt enough)
      have fewer : rest.length ≤ more := Nat.le_of_succ_le_succ enough
      have shift : front ++ packet :: rest = front ++ [packet] ++ rest := by simp
      rw [List.head?_cons, cleanupLoop, survivors]
      cases old : heap.expired now packet with
      | true =>
          have erased := erase_linked follows linked
          have after := erase_next follows linked
          rw [List.filter_cons_of_pos old]
          simp only [if_true]
          cases unlinked with
          | true =>
              rw [if_pos rfl, shift] at erased
              obtain ⟨next, pbufs, walked, listed⟩ := @ih ((heap.erase prev packet).free packet) (front ++ [packet])
                (some packet) more false fewer (List.getLast?_concat).symm erased
              rw [erase_expired] at walked listed
              rw [erase_freeAll] at walked
              refine ⟨next, pbufs, ?_, ?_⟩
              · rw [show ((heap.erase prev packet).free packet).next packet = rest.head? from after, walked]
                simp [free]
              · simpa using listed
          | false =>
              rw [if_neg Bool.false_ne_true] at erased
              have gone : packet ∉ front ++ rest := by
                have distinct := linked.nodup
                rw [List.nodup_middle, List.nodup_cons] at distinct
                exact distinct.1
              obtain ⟨next, pbufs, walked, listed⟩ := @ih ((heap.erase prev packet).free packet) front
                (some packet) more true fewer ⟨packet, gone, rfl⟩ erased
              rw [erase_expired] at walked listed
              rw [erase_freeAll] at walked
              refine ⟨next, pbufs, ?_, ?_⟩
              · rw [show ((heap.erase prev packet).free packet).next packet = rest.head? from after, walked]
                simp [free]
              · simpa using listed
      | false =>
          rw [List.filter_cons_of_neg (by simp [old])]
          simp only [Bool.false_eq_true, if_false]
          rw [linked.tail.head?]
          rw [shift] at linked
          obtain ⟨next, pbufs, walked, listed⟩ := @ih heap (front ++ [packet]) (some packet) more false fewer
            (List.getLast?_concat).symm linked
          exact ⟨next, pbufs, walked, by simpa using listed⟩

theorem cleanup_lists {packets : List Nat} (lists : heap.Lists packets) (now : UInt32) {steps : Nat}
    (enough : packets.length ≤ steps) :
    ∃ after, heap.cleanup now steps = some after ∧ after.packet = heap.packet ∧
      after.pool = freeAll heap.pool (heap.contents (packets.filter (heap.expired now))) ∧
      Linked after.next after.pbufs (survivors (heap.expired now) false packets) := by
  obtain ⟨next, pbufs, walked, listed⟩ := @cleanupLoop_lists cfg heap now [] packets none steps false enough rfl
    lists.linked
  rw [← lists.linked.head?] at walked
  exact ⟨_, walked, rfl, rfl, listed⟩

/-- The walk frees exactly the expired packets, and it keeps exactly the others if and only if no two
neighbours are expired. -/
theorem cleanup_iff {packets : List Nat} (lists : heap.Lists packets) (now : UInt32) {steps : Nat}
    (enough : packets.length ≤ steps) :
    ∃ after, heap.cleanup now steps = some after ∧
      after.pool = freeAll heap.pool (heap.contents (packets.filter (heap.expired now))) ∧
      (after.Lists (packets.filter fun packet => !heap.expired now packet) ↔ Apart (heap.expired now) packets) := by
  obtain ⟨after, walked, same, pool, listed⟩ := cleanup_lists lists now enough
  refine ⟨after, walked, pool, ?_⟩
  have decides := survivors_eq_filter (heap.expired now) false packets
  rw [and_iff_right (fun impossible => by cases impossible)] at decides
  rw [← decides]
  constructor
  · intro kept
    exact listed.unique kept.linked
  · intro equal
    refine ⟨equal ▸ listed, fun packet member => ?_⟩
    rw [same]
    exact lists.bufs packet (List.mem_of_mem_filter member)

/-- The walk does what `pbufCleanup` does with the list of the packets. -/
theorem pbufCleanup_survivors (heap : PbufHeap cfg) (now : UInt32) (unlinked : Bool) (packets : List Nat)
    (pool : Pool cfg) : pbufCleanup now unlinked (packets.map heap.packet) pool =
      ((survivors (heap.expired now) unlinked packets).map heap.packet,
        freeAll pool (heap.contents (packets.filter (heap.expired now)))) := by
  induction packets generalizing unlinked pool with
  | nil => rfl
  | cons packet rest ih =>
      rw [List.map_cons, pbufCleanup, survivors]
      by_cases old : now - (heap.packet packet).lastUsed > pbufTimeoutMs
      · have expired : heap.expired now packet = true := decide_eq_true old
        rw [if_pos old, if_pos expired, List.filter_cons_of_pos expired, ih]
        cases unlinked <;> rfl
      · have fresh : ¬heap.expired now packet = true := fun expired => old (of_decide_eq_true expired)
        rw [if_neg old, if_neg fresh, List.filter_cons_of_neg fresh, ih]
        rfl

/-! ## The other calls -/

theorem freeLoop_absent {buffer : Nat} (bufFree : Bool) {steps : Nat} {start : Option Nat}
    (enough : rest.length ≤ steps) (absent : buffer ∉ rest) (linked : Linked heap.next start rest) :
    freeLoop buffer bufFree steps start prev heap = some heap := by
  induction rest generalizing steps start prev with
  | nil =>
      obtain rfl : start = none := linked
      cases steps <;> rfl
  | cons packet rest ih =>
      obtain ⟨more, rfl⟩ := Nat.exists_eq_add_one_of_ne_zero (Nat.ne_zero_of_lt enough)
      rw [List.mem_cons, not_or] at absent
      rw [linked.1, freeLoop, if_neg (Ne.symm absent.1)]
      exact ih (Nat.le_of_succ_le_succ enough) absent.2 linked.2

/-- The walk takes the buffer out of the list. -/
theorem freeLoop_lists {buffer : Nat} (bufFree : Bool) {steps : Nat} (enough : rest.length ≤ steps)
    (absent : buffer ∉ front) (follows : Follows false front rest prev)
    (linked : Linked heap.next heap.pbufs (front ++ rest)) :
    ∃ next pbufs, freeLoop buffer bufFree steps rest.head? prev heap = some { heap with
        next, pbufs, pool := if buffer ∈ rest ∧ bufFree = true then (heap.free buffer).pool else heap.pool } ∧
      Linked next pbufs (front ++ rest.erase buffer) := by
  induction rest generalizing steps front prev with
  | nil => exact ⟨heap.next, heap.pbufs, by cases steps <;> simp [freeLoop], by simpa using linked⟩
  | cons packet rest ih =>
      obtain ⟨more, rfl⟩ := Nat.exists_eq_add_one_of_ne_zero (Nat.ne_zero_of_lt enough)
      have fewer : rest.length ≤ more := Nat.le_of_succ_le_succ enough
      rw [List.head?_cons, freeLoop]
      by_cases same : packet = buffer
      · subst same
        have gone : packet ∉ rest := by
          have distinct := linked.nodup
          rw [List.nodup_middle, List.nodup_cons] at distinct
          exact fun inside => distinct.1 (List.mem_append_right front inside)
        have erased : Linked (heap.erase prev packet).next (heap.erase prev packet).pbufs (front ++ rest) :=
          erase_linked follows linked
        have after := erase_next follows linked
        have behind : Linked (heap.erase prev packet).next rest.head? rest := by
          cases rest with
          | nil => rfl
          | cons head more => exact ⟨rfl, erased.tail⟩
        rw [if_pos rfl, List.erase_cons_head]
        refine ⟨(heap.erase prev packet).next, (heap.erase prev packet).pbufs, ?_, erased⟩
        cases bufFree with
        | true =>
            simp only [if_true]
            rw [show ((heap.erase prev packet).free packet).next packet = rest.head? from after,
              @freeLoop_absent cfg ((heap.erase prev packet).free packet) rest _ packet true more _ fewer gone behind]
            simp [free]
        | false =>
            simp only [Bool.false_eq_true, if_false]
            rw [after, freeLoop_absent false fewer gone behind]
            cases prev <;> simp [erase]
      · rw [if_neg same, linked.tail.head?, List.erase_cons_tail (by simpa using same)]
        have shift : front ++ packet :: rest = front ++ [packet] ++ rest := by simp
        rw [shift] at linked
        obtain ⟨next, pbufs, walked, listed⟩ := @ih (front ++ [packet]) (some packet) more fewer
          (by simp [absent, Ne.symm same]) (List.getLast?_concat).symm linked
        refine ⟨next, pbufs, ?_, by simpa using listed⟩
        rw [walked]
        simp [Ne.symm same]

/-- The search changes a time stamp only. -/
theorem findLoop_lists (id mask : Nat) (now : UInt32) {steps : Nat} {start : Option Nat}
    (enough : rest.length ≤ steps) (linked : Linked heap.next start rest) :
    ∃ packet, findLoop id mask now steps start heap = some { heap with packet } ∧
      ∀ place, (packet place).frame = (heap.packet place).frame := by
  induction rest generalizing steps start with
  | nil =>
      obtain rfl : start = none := linked
      exact ⟨heap.packet, by cases steps <;> rfl, fun _ => rfl⟩
  | cons packet rest ih =>
      obtain ⟨more, rfl⟩ := Nat.exists_eq_add_one_of_ne_zero (Nat.ne_zero_of_lt enough)
      rw [linked.1, findLoop]
      split
      · refine ⟨_, rfl, fun place => ?_⟩
        by_cases same : place = packet
        · subst same
          rw [Function.update_self]
        · rw [Function.update_of_ne same]
      · exact ih (Nat.le_of_succ_le_succ enough) linked.2

end PbufHeap

/-! ## Sequences of calls -/

/-- A call of this file, or something that the rest of the node does with the pool and the packets. -/
inductive PbufCall (cfg : Config) where
  | new (id : Nat) (now : UInt32)
  | find (id mask : Nat) (now : UInt32)
  | free (buffer : Nat) (bufFree : Bool)
  | other (pool : Pool cfg) (packet : Nat → Pbuf)

namespace PbufHeap

variable {heap : PbufHeap cfg}

/-- Each packet of the list has its buffer for itself. -/
def Owned (heap : PbufHeap cfg) : Prop :=
  ∃ packets held, heap.Lists packets ∧ heap.pool.Accounts (packets ++ held)

/-- The walks have a step for each buffer of the pool. -/
def call (heap : PbufHeap cfg) : PbufCall cfg → Option (PbufHeap cfg)
  | .new id now => heap.new id now cfg.bufferCount
  | .find id mask now => findLoop id mask now cfg.bufferCount heap.pbufs heap
  | .free buffer bufFree => freeLoop buffer bufFree cfg.bufferCount heap.pbufs none heap
  | .other pool packet => some { heap with pool, packet }

/-- The rest of the node leaves the buffers of the list alone. -/
def Allows (heap : PbufHeap cfg) : PbufCall cfg → Prop
  | .other pool packet => Owned { heap with pool, packet }
  | _ => True

/-- A new packet does not meet two expired neighbours. -/
def Spaced (heap : PbufHeap cfg) : PbufCall cfg → Prop
  | .new _ now => ∀ packets, heap.Lists packets → Apart (heap.expired now) packets
  | _ => True

/-- The calls are made one after the other. -/
def run (heap : PbufHeap cfg) : List (PbufCall cfg) → Option (PbufHeap cfg)
  | [] => some heap
  | call :: rest => (heap.call call).bind fun after => after.run rest

/-- Each call of the sequence is allowed and spaced when its turn comes. -/
def RunSpaced (heap : PbufHeap cfg) : List (PbufCall cfg) → Prop
  | [] => True
  | call :: rest => heap.Allows call ∧ heap.Spaced call ∧
      ∀ after, heap.call call = some after → after.RunSpaced rest

theorem Owned.not_free (owned : heap.Owned) {packets : List Nat} (lists : heap.Lists packets) :
    ∀ packet ∈ packets, packet ∉ heap.pool.freeBufs := by
  obtain ⟨listed, held, same, accounts⟩ := owned
  obtain rfl := same.linked.unique lists.linked
  intro packet member free
  have apart := List.nodup_append.mp accounts.distinct
  exact apart.2.2 packet free packet (List.mem_append_left held member) rfl

theorem contents_bufs {packets : List Nat} (bufs : ∀ packet ∈ packets, (heap.packet packet).frame.packet.buf = packet) :
    (heap.contents packets).map Packet.buf = packets := by
  rw [contents, List.map_map]
  exact (List.map_congr_left bufs).trans (List.map_id _)

theorem length_le {packets held : List Nat} (accounts : heap.pool.Accounts (packets ++ held)) :
    packets.length ≤ cfg.bufferCount := by
  have bound := accounts.length_le
  rw [List.length_append] at bound
  omega

/-- After a cleanup of a spaced list each packet that stays has its buffer for itself. -/
theorem cleanup_owned {packets held : List Nat} (lists : heap.Lists packets)
    (accounts : heap.pool.Accounts (packets ++ held)) {now : UInt32} (apart : Apart (heap.expired now) packets) :
    ∃ after, heap.cleanup now cfg.bufferCount = some after ∧
      after.Lists (packets.filter fun packet => !heap.expired now packet) ∧
      after.pool.Accounts ((packets.filter fun packet => !heap.expired now packet) ++ held) := by
  obtain ⟨after, walked, pool, decides⟩ := cleanup_iff lists now (length_le accounts)
  refine ⟨after, walked, decides.mpr apart, ?_⟩
  have bufs := @contents_bufs cfg heap (packets.filter (heap.expired now)) fun packet member =>
    lists.bufs packet (List.mem_of_mem_filter member)
  have split : (packets ++ held).Perm (packets.filter (heap.expired now) ++
      ((packets.filter fun packet => !heap.expired now packet) ++ held)) := by
    rw [← List.append_assoc]
    exact ((List.filter_append_perm _ packets).append_right held).symm
  rw [pool]
  apply (freeAll_accounts heap.pool _ _ _).1
  rw [bufs]
  exact accounts.perm split

theorem new_owned (owned : heap.Owned) (id : Nat) {now : UInt32}
    (spaced : ∀ packets, heap.Lists packets → Apart (heap.expired now) packets) :
    ∃ after, heap.new id now cfg.bufferCount = some after ∧ after.Owned := by
  obtain ⟨packets, held, lists, accounts⟩ := owned
  obtain ⟨after, walked, listed, kept⟩ := cleanup_owned lists accounts (spaced packets lists)
  rw [new, walked]
  simp only [Option.bind_eq_bind, Option.bind_some]
  generalize (packets.filter fun packet => !heap.expired now packet) = fresh at listed kept
  cases got : bufferGet after.pool 0 with
  | mk taken pool =>
      cases taken with
      | none =>
          refine ⟨_, rfl, fresh, held, ⟨listed.linked, listed.bufs⟩, ?_⟩
          rcases bufferGet_cases after.pool 0 with ⟨failed, _⟩ | ⟨_, _, _, _, found⟩
          · rw [failed] at got
            cases got
            exact kept
          · rw [found] at got
            cases got
      | some packet =>
          obtain ⟨_, owned⟩ := bufferGet_accounts kept got
          have foreign : packet.buf ∉ fresh := by
            have distinct := owned.distinct.of_append_right
            rw [List.nodup_cons] at distinct
            exact fun inside => distinct.1 (List.mem_append_left held inside)
          refine ⟨_, rfl, packet.buf :: fresh, held, ⟨⟨rfl, ?_⟩, ?_⟩, owned⟩
          · simp only [Function.update_self]
            exact (Linked.update foreign).mpr listed.linked
          · intro place member
            by_cases same : place = packet.buf
            · subst same
              simp only [Function.update_self]
            · simp only [Function.update_of_ne same]
              exact listed.bufs place ((List.mem_cons.mp member).resolve_left same)

theorem free_owned (owned : heap.Owned) (buffer : Nat) (bufFree : Bool) :
    ∃ after, freeLoop buffer bufFree cfg.bufferCount heap.pbufs none heap = some after ∧ after.Owned := by
  obtain ⟨packets, held, lists, accounts⟩ := owned
  obtain ⟨next, pbufs, walked, listed⟩ := @freeLoop_lists cfg heap [] packets none buffer bufFree _
    (length_le accounts) List.not_mem_nil rfl lists.linked
  rw [← lists.linked.head?] at walked
  refine ⟨_, walked, packets.erase buffer, ?_⟩
  have bufs : ∀ packet ∈ packets.erase buffer, (heap.packet packet).frame.packet.buf = packet :=
    fun packet member => lists.bufs packet (List.mem_of_mem_erase member)
  by_cases member : buffer ∈ packets
  · have taken : heap.pool.Accounts (buffer :: (packets.erase buffer ++ held)) :=
      accounts.perm ((List.perm_cons_erase member).append_right held)
    cases bufFree with
    | true =>
        refine ⟨held, ⟨listed, bufs⟩, ?_⟩
        have freed : (heap.packet buffer).frame.packet.buf = buffer := lists.bufs buffer member
        rw [← freed] at taken
        simpa [member, free, freed] using (bufferFree_accounts taken).1
    | false =>
        refine ⟨buffer :: held, ⟨listed, bufs⟩, ?_⟩
        simpa using taken.perm List.perm_middle.symm
  · refine ⟨held, ⟨listed, bufs⟩, ?_⟩
    rw [List.erase_of_not_mem member]
    simpa [member] using accounts

/-- One call ends, and each packet of the list keeps its buffer for itself. -/
theorem call_owned (owned : heap.Owned) (call : PbufCall cfg) (allowed : heap.Allows call)
    (spaced : heap.Spaced call) : ∃ after, heap.call call = some after ∧ after.Owned := by
  cases call with
  | new id now => exact new_owned owned id spaced
  | free buffer bufFree => exact free_owned owned buffer bufFree
  | other pool packet => exact ⟨_, rfl, allowed⟩
  | find id mask now =>
      obtain ⟨packets, held, lists, accounts⟩ := owned
      obtain ⟨packet, found, frames⟩ := findLoop_lists id mask now (length_le accounts) lists.linked
      refine ⟨_, found, packets, held, ⟨lists.linked, fun place member => ?_⟩, accounts⟩
      rw [frames]
      exact lists.bufs place member

theorem run_owned (owned : heap.Owned) (calls : List (PbufCall cfg)) (spaced : heap.RunSpaced calls) :
    ∃ after, heap.run calls = some after ∧ after.Owned := by
  induction calls generalizing heap with
  | nil => exact ⟨heap, rfl, owned⟩
  | cons call rest ih =>
      obtain ⟨allowed, apart, later⟩ := spaced
      obtain ⟨next, called, kept⟩ := call_owned owned call allowed apart
      obtain ⟨after, ran, last⟩ := ih kept (later next called)
      refine ⟨after, ?_, last⟩
      rw [run, called]
      exact ran

end PbufHeap

/-- A cleanup frees exactly the expired packets of every list, and the others stay alone in it exactly when no two
neighbours are expired. In a sequence of calls in which each new packet meets no expired neighbours the list never
contains a free packet. -/
theorem pbufs_cleanup_iff :
    (∀ (heap : PbufHeap cfg) (packets : List Nat) (now : UInt32) (steps : Nat), heap.Lists packets →
      packets.length ≤ steps → ∃ after, heap.cleanup now steps = some after ∧
        after.pool = freeAll heap.pool (heap.contents (packets.filter (heap.expired now))) ∧
        (after.Lists (packets.filter fun packet => !heap.expired now packet) ↔
          Apart (heap.expired now) packets)) ∧
    ∀ (heap : PbufHeap cfg) (calls : List (PbufCall cfg)) (held : List Nat), heap.pbufs = none →
      heap.pool.Accounts held → heap.RunSpaced calls →
      ∃ after packets, heap.run calls = some after ∧ after.Lists packets ∧
        ∀ packet ∈ packets, packet ∉ after.pool.freeBufs := by
  constructor
  · exact fun heap packets now steps lists enough => PbufHeap.cleanup_iff lists now enough
  · intro heap calls held empty accounts spaced
    have owned : heap.Owned := ⟨[], held, ⟨empty, by simp⟩, accounts⟩
    obtain ⟨after, ran, kept⟩ := PbufHeap.run_owned owned calls spaced
    obtain ⟨packets, _, lists, _⟩ := id kept
    exact ⟨after, packets, ran, lists, kept.not_free lists⟩

/-- An interface without partial packets. -/
def emptyPbufs : PbufHeap {} where
  pbufs := none
  next _ := none
  packet _ := { frame := ⟨default, 0, 0⟩, rxCount := 0, remain := 0, cfpid := 0, lastUsed := 0 }
  pool := bufferInit {} fun _ => default

/-- Two packets begin and expire, and then a third begins: one of the two is free and in the list. -/
theorem emptyPbufs_dangling :
    ((emptyPbufs.run [.new 1 0, .new 2 0, .new 3 2000]).any fun after =>
      decide (Linked after.next after.pbufs [2, 0]) && decide (0 ∈ after.pool.freeBufs)) = true := by
  decide +kernel

end Libcsp

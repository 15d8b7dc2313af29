/-
This file says how a frame finds its partial packet and what it does to the list of partial packets.
-/
import Libcsp.Can

namespace Libcsp

open KeyedList

variable {cfg : Config} {qfifoLen : Nat}

/-! ## The list of partial packets -/

/-- The partial packet with the key. -/
def Can.partialPacket (can : Can cfg qfifoLen) (mask key : Nat) : Option Pbuf :=
  lookup (Pbuf.key mask) key can.pbufs

/-- No partial packet has timed out. -/
def Can.Timely (can : Can cfg qfifoLen) (now : UInt32) : Prop :=
  ∀ pbuf ∈ can.pbufs, ¬now - pbuf.lastUsed > pbufTimeoutMs

theorem pbufCleanup_timely {now : UInt32} {pbufs : List Pbuf} {pool : Pool cfg}
    (timely : ∀ pbuf ∈ pbufs, ¬now - pbuf.lastUsed > pbufTimeoutMs) :
    pbufCleanup now false pbufs pool = (pbufs, pool) := by
  induction pbufs with
  | nil => rfl
  | cons pbuf rest ih =>
      rw [pbufCleanup, if_neg (timely pbuf List.mem_cons_self),
        ih fun other member => timely other (List.mem_cons_of_mem _ member)]

/-- A receive function leaves the set-up of the interface alone. -/
structure Can.SameSetup (before after : Can cfg qfifoLen) : Prop where
  addr : after.link.addr = before.link.addr
  mtu : after.link.mtu = before.link.mtu

theorem Can.SameSetup.refl (can : Can cfg qfifoLen) : can.SameSetup can := ⟨rfl, rfl⟩

theorem Can.SameSetup.trans {first second third : Can cfg qfifoLen} (earlier : first.SameSetup second)
    (later : second.SameSetup third) : first.SameSetup third :=
  ⟨later.addr.trans earlier.addr, later.mtu.trans earlier.mtu⟩

theorem qfifoWrite_setup (link : Link cfg qfifoLen) (packet : Packet) :
    (qfifoWrite link packet).addr = link.addr ∧ (qfifoWrite link packet).mtu = link.mtu := by
  simp only [qfifoWrite]
  split <;> exact ⟨rfl, rfl⟩

/-- The binding of a frame finds the partial packet, or makes one for a BEGIN frame. -/
theorem canBind_cases (can : Can cfg qfifoLen) (id mask : Nat) (begins : Bool) (now : UInt32) :
    (∃ pbuf, can.partialPacket mask (id &&& mask) = some pbuf ∧
        canBind can id mask begins now = .ok ({ pbuf with lastUsed := now }, can)) ∨
      (can.partialPacket mask (id &&& mask) = none ∧ begins = false ∧
        canBind can id mask begins now = .error (.inval, can.countFrame)) ∨
      (can.partialPacket mask (id &&& mask) = none ∧ begins = true ∧
        (pbufCleanup now false can.pbufs can.link.pool).2.remaining = 0 ∧
        ∃ link, canBind can id mask begins now = .error (.nomem, { can with
            pbufs := (pbufCleanup now false can.pbufs can.link.pool).1, link }) ∧
          link.handed = can.link.handed ∧ link.addr = can.link.addr ∧ link.mtu = can.link.mtu) ∨
      (can.partialPacket mask (id &&& mask) = none ∧ begins = true ∧
        0 < (pbufCleanup now false can.pbufs can.link.pool).2.remaining ∧
        ∃ link pbuf, canBind can id mask begins now = .ok (pbuf, { can with
            pbufs := pbuf :: (pbufCleanup now false can.pbufs can.link.pool).1, link }) ∧
          link.handed = can.link.handed ∧ link.addr = can.link.addr ∧ link.mtu = can.link.mtu ∧
          pbuf.cfpid = id ∧ pbuf.lastUsed = now) := by
  rw [Can.partialPacket, canBind, pbufFind]
  cases found : lookup (Pbuf.key mask) (id &&& mask) can.pbufs with
  | some pbuf => exact .inl ⟨pbuf, rfl, rfl⟩
  | none =>
      right
      cases begins with
      | false => exact .inl ⟨rfl, rfl, rfl⟩
      | true =>
          right
          simp only [Option.map_none, if_true, pbufNew]
          rcases bufferGet_cases (pbufCleanup now false can.pbufs can.link.pool).2 0 with
            ⟨got, large | empty⟩ | ⟨packet, rest, _, items, got⟩
          · omega
          · left
            refine ⟨trivial, trivial, by simp [Pool.remaining, BoundedQueue.size, empty], ?_⟩
            simp only [got]
            exact ⟨_, rfl, rfl, rfl, rfl⟩
          · right
            refine ⟨trivial, trivial, by simp [Pool.remaining, BoundedQueue.size, items], ?_⟩
            simp only [got]
            exact ⟨_, _, rfl, rfl, rfl, rfl, rfl, rfl⟩

theorem can1Begin_cfpid (pbuf : Pbuf) (frame : CanFrame) :
    (can1Begin pbuf frame).cfpid = pbuf.cfpid ∧ (can1Begin pbuf frame).lastUsed = pbuf.lastUsed := by
  cases pbuf
  exact ⟨rfl, rfl⟩

/-! ## The effect of one frame -/

/-- A frame with this key hands over some packets and leaves this partial packet. The partial packets
with other keys stay. -/
structure Can.Steps (mask key : Nat) (before after : Can cfg qfifoLen) (result : Option Pbuf)
    (packets : List Packet) : Prop where
  setup : before.SameSetup after
  handed : after.link.handed = before.link.handed ++ packets
  own : after.partialPacket mask key = result
  others : ∀ other, other ≠ key → after.partialPacket mask other = before.partialPacket mask other
  distinct : Distinct (Pbuf.key mask) after.pbufs

variable {mask key : Nat} {can bound : Can cfg qfifoLen} {pbuf : Pbuf}

/-- The receiver works on a partial packet that the list holds under its key. -/
structure Can.Binds (mask key : Nat) (can bound : Can cfg qfifoLen) (pbuf : Pbuf) : Prop where
  steps : ∃ old, can.Steps mask key bound (some old) []
  key : pbuf.key mask = key

theorem Can.Binds.countFrame (binds : can.Binds mask key bound pbuf) :
    can.Binds mask key bound.countFrame pbuf where
  steps := by
    obtain ⟨old, setup, handed, own, others, distinct⟩ := binds.steps
    exact ⟨old, ⟨setup.addr, setup.mtu⟩, handed, own, others, distinct⟩
  key := binds.key

/-- The partial packet leaves the list. -/
theorem Can.Binds.remove (binds : can.Binds mask key bound pbuf) {after : Can cfg qfifoLen}
    {packets : List Packet} (pbufs : after.pbufs = KeyedList.remove (Pbuf.key mask) (pbuf.key mask) bound.pbufs)
    (setup : bound.SameSetup after) (handed : after.link.handed = bound.link.handed ++ packets) :
    can.Steps mask key after none packets := by
  obtain ⟨old, setup', handed', own, others, distinct⟩ := binds.steps
  rw [binds.key] at pbufs
  refine ⟨setup'.trans setup, by rw [handed, handed', List.append_nil], ?_, ?_, ?_⟩
  · rw [Can.partialPacket, pbufs]
    exact lookup_remove_same distinct
  · intro other different
    rw [Can.partialPacket, pbufs, lookup_remove_other (Ne.symm different)]
    exact others other different
  · rw [pbufs]
    exact distinct.remove _

theorem Can.Binds.free (binds : can.Binds mask key bound pbuf) {freed : Pbuf}
    (same : freed.key mask = pbuf.key mask) :
    can.Steps mask key (pbufFree bound mask freed) none [] :=
  binds.remove (by rw [← same]; rfl) ⟨rfl, rfl⟩ (List.append_nil _).symm

theorem Can.Binds.deliver (binds : can.Binds mask key bound pbuf) {done : Pbuf}
    (same : done.key mask = pbuf.key mask) (packet : Packet) :
    can.Steps mask key (pbufDeliver bound mask done packet) none [packet] :=
  binds.remove (by rw [← same]; rfl)
    ⟨(qfifoWrite_setup bound.link packet).1, (qfifoWrite_setup bound.link packet).2⟩
    (qfifoWrite_handed bound.link packet)

theorem Can.Binds.store (binds : can.Binds mask key bound pbuf) {stored : Pbuf}
    (same : stored.key mask = pbuf.key mask) :
    can.Steps mask key (pbufStore bound mask stored) (some stored) [] := by
  obtain ⟨old, setup, handed, own, others, distinct⟩ := binds.steps
  have place : stored.key mask = key := same.trans binds.key
  refine ⟨⟨setup.addr, setup.mtu⟩, handed, ?_, ?_, distinct.store stored⟩
  · rw [← place] at own ⊢
    exact lookup_store_same own
  · intro other different
    rw [Can.partialPacket, pbufStore, lookup_store_other (by rw [place]; exact Ne.symm different)]
    exact others other different

/-- A frame with a partial packet, or a BEGIN frame with a free buffer, is bound. -/
theorem canBind_ok {id : Nat} {begins : Bool} {now : UInt32}
    (distinct : Distinct (Pbuf.key mask) can.pbufs)
    (room : can.partialPacket mask (id &&& mask) = none →
      begins = true ∧ can.Timely now ∧ 0 < can.link.pool.remaining) :
    ∃ pbuf bound, canBind can id mask begins now = .ok (pbuf, bound) ∧
      can.Binds mask (id &&& mask) bound pbuf ∧ pbuf.lastUsed = now ∧
      (∀ old, can.partialPacket mask (id &&& mask) = some old → pbuf = { old with lastUsed := now }) := by
  rcases canBind_cases can id mask begins now with ⟨pbuf, found, binds⟩ | ⟨absent, notBegin, _⟩ |
    ⟨absent, _, full, _⟩ | ⟨absent, _, _, link, pbuf, binds, handed, addr, mtu, cfpid, used⟩
  · have place : pbuf.key mask = id &&& mask := lookup_key found
    refine ⟨_, _, binds, ⟨⟨pbuf, .refl can, (List.append_nil _).symm, found, fun _ _ => rfl, distinct⟩,
      place⟩, rfl, ?_⟩
    intro old found'
    rw [found] at found'
    cases found'
    rfl
  · rw [notBegin] at room
    cases (room absent).1
  · obtain ⟨_, timely, filled⟩ := room absent
    simp only [pbufCleanup_timely timely] at full
    omega
  · obtain ⟨_, timely, _⟩ := room absent
    rw [pbufCleanup_timely timely] at binds
    have place : pbuf.key mask = id &&& mask := by rw [Pbuf.key, cfpid]
    refine ⟨_, _, binds, ⟨⟨pbuf, ⟨addr, mtu⟩, by simp [handed], ?_, ?_, ?_⟩, place⟩, used, ?_⟩
    · rw [Can.partialPacket, lookup_cons, if_pos place]
    · intro other different
      rw [Can.partialPacket, lookup_cons, if_neg (by rw [place]; exact Ne.symm different)]
      rfl
    · exact distinct.cons (by rw [place]; exact absent)
    · intro old found
      rw [absent] at found
      cases found

end Libcsp

/-
This file determines when csp_send_direct survives an exhausted pool, and shows who owns each buffer.
-/
import Libcsp.RdpUser

namespace Libcsp

variable {cfg : Config}

/-! ## Places of buffers -/

/-- These buffers belong to a next hop or wait in the promiscuous queue. -/
def Io.usedBufs (io : Io cfg) : List Nat :=
  io.kept.map Packet.buf ++ io.promiscQueue.items.map Packet.buf

/-- The output path knows these buffers: free ones, and ones that it gave away. -/
def Io.places (io : Io cfg) : List Nat := io.pool.freeBufs ++ io.usedBufs

/-- Each buffer has one place: the pool, a next hop, the promiscuous queue, or `held`. -/
def Io.Accounts (io : Io cfg) (held : List Nat) : Prop := io.pool.Accounts (io.usedBufs ++ held)

/-- The operation takes the buffer over and loses none. -/
structure Consumes (before after : Io cfg) (buf : Nat) (held : List Nat) : Prop where
  accounts : after.Accounts held
  places : after.places.Perm (buf :: before.places)

/-- The operation moves buffers between the places and loses none. -/
structure Moves (before after : Io cfg) (held : List Nat) : Prop where
  accounts : after.Accounts held
  places : after.places.Perm before.places

theorem Consumes.after_moves {first second third : Io cfg} {buf : Nat} {held : List Nat}
    (moves : Moves first second (buf :: held)) (consumes : Consumes second third buf held) :
    Consumes first third buf held where
  accounts := consumes.accounts
  places := consumes.places.trans (moves.places.cons buf)

theorem Io.free_consumes (io : Io cfg) (packet : Packet) {held : List Nat}
    (accounts : io.Accounts (packet.buf :: held)) :
    Consumes io (io.free packet) packet.buf held := by
  obtain ⟨freed, bufs⟩ := bufferFree_accounts (accounts.perm List.perm_middle)
  refine ⟨freed, ?_⟩
  have places : (io.free packet).places = io.pool.freeBufs ++ packet.buf :: io.usedBufs := by
    simp only [places, Io.free, bufs, usedBufs, List.append_assoc, List.singleton_append]
  rw [places]
  exact List.perm_middle

/-- A clone takes its buffer from the free list. -/
theorem Io.clone_accounts {io : Io cfg} {held : List Nat} (accounts : io.Accounts held)
    (packet : Packet) :
    (bufferClone io.pool (some packet) = (none, io.pool) ∧
        ¬(packet.length.toNat ≤ cfg.bufferSize ∧ 0 < io.pool.remaining)) ∨
      ∃ buf pool, bufferClone io.pool (some packet) = (some { packet with buf }, pool) ∧
        packet.length.toNat ≤ cfg.bufferSize ∧ pool.remaining + 1 = io.pool.remaining ∧
        Io.Accounts { io with pool } (buf :: held) ∧
        io.places = buf :: Io.places { io with pool } := by
  rcases bufferClone_accounts accounts packet with ⟨failed, why⟩ | ⟨buf, pool, cloned, fits, bufs, remaining, rest⟩
  · exact .inl ⟨failed, why⟩
  · refine .inr ⟨buf, pool, cloned, fits, remaining, rest.perm List.perm_middle.symm, ?_⟩
    simp only [places, bufs, List.cons_append]
    rfl

theorem promiscAdd_moves {io : Io cfg} {held : List Nat} (accounts : io.Accounts held)
    (packet : Packet) : Moves io (promiscAdd io packet) held := by
  unfold promiscAdd
  split
  · rcases io.clone_accounts accounts packet with ⟨failed, _⟩ | ⟨buf, pool, cloned, _, _, taken, places⟩
    · rw [failed]
      exact ⟨accounts, List.Perm.refl _⟩
    · rw [cloned]
      simp only
      split
      · rename_i full
        have freed := Io.free_consumes { io with pool } { packet with buf } taken
        exact ⟨freed.accounts, by rw [places]; exact freed.places⟩
      · rename_i promiscQueue stored
        obtain ⟨_, items⟩ := BoundedQueue.enqueue_eq_some.mp stored
        have used : Io.usedBufs { io with pool, promiscQueue } = io.usedBufs ++ [buf] := by
          simp only [Io.usedBufs, items, List.map_append, List.map_cons, List.map_nil,
            List.append_assoc]
        refine ⟨?_, ?_⟩
        · change pool.Accounts _
          rw [used, List.append_assoc]
          exact taken
        · rw [places]
          simp only [Io.places, used, ← List.append_assoc]
          exact List.perm_append_singleton _ _
  · exact ⟨accounts, List.Perm.refl _⟩

theorem callNexthop_consumes {io : Io cfg} {held : List Nat} (iface : Nat) (via : UInt16)
    (packet : Packet) (accounts : io.Accounts (packet.buf :: held)) :
    Consumes io (callNexthop io iface via packet) packet.buf held := by
  have freed := Io.free_consumes io packet accounts
  simp only [callNexthop]
  split
  · exact ⟨freed.accounts, freed.places⟩
  · have used : (io.kept ++ [packet]).map Packet.buf ++ io.promiscQueue.items.map Packet.buf =
        io.kept.map Packet.buf ++ packet.buf :: io.promiscQueue.items.map Packet.buf := by
      simp
    have moved : (io.kept.map Packet.buf ++ packet.buf :: io.promiscQueue.items.map Packet.buf).Perm
        (packet.buf :: io.usedBufs) := List.perm_middle
    refine ⟨?_, ?_⟩
    · change io.pool.Accounts (((io.kept ++ [packet]).map Packet.buf ++
        io.promiscQueue.items.map Packet.buf) ++ held)
      rw [used]
      exact accounts.perm (List.perm_middle.trans (moved.append_right held).symm)
    · change (io.pool.freeBufs ++ ((io.kept ++ [packet]).map Packet.buf ++
        io.promiscQueue.items.map Packet.buf)).Perm _
      rw [used]
      exact (moved.append_left _).trans List.perm_middle
  · exact ⟨freed.accounts, freed.places⟩

/-- A trailer of four bytes must fit the buffer. -/
def trailerLength (cfg : Config) (asked : Bool) (length : UInt16) : Option UInt16 :=
  if asked then
    if length.toNat + 4 > cfg.bufferSize then none else some (length + 4)
  else some length

/-- The length of a packet with its trailers. -/
def trailedLength (cfg : Config) (idout : CspId) (length : UInt16) (fromMe : Bool) : Option UInt16 :=
  if fromMe then
    (trailerLength cfg (idout.has cspFHmac) length).bind (trailerLength cfg (idout.has cspFCrc32))
  else some length

theorem sendTrailers_cases (idout : CspId) (packet : Packet) (fromMe : Bool) :
    ∃ trailed, trailed.buf = packet.buf ∧
      ((sendTrailers cfg idout packet fromMe = .error trailed ∧
          trailedLength cfg idout packet.length fromMe = none) ∨
        (sendTrailers cfg idout packet fromMe = .ok trailed ∧
          trailedLength cfg idout packet.length fromMe = some trailed.length)) := by
  have hmac : ∀ packet : Packet, ∃ trailed, trailed.buf = packet.buf ∧
      ((hmacAppend cfg packet = .error trailed ∧ trailerLength cfg true packet.length = none) ∨
        (hmacAppend cfg packet = .ok trailed ∧
          trailerLength cfg true packet.length = some trailed.length)) := by
    intro packet
    simp only [hmacAppend, trailerLength, if_true]
    split
    · exact ⟨packet, rfl, .inl ⟨rfl, rfl⟩⟩
    · refine ⟨_, ?_, .inr ⟨rfl, rfl⟩⟩
      rfl
  have crc : ∀ packet : Packet, ∃ trailed, trailed.buf = packet.buf ∧
      ((crc32Append cfg packet = .error trailed ∧ trailerLength cfg true packet.length = none) ∨
        (crc32Append cfg packet = .ok trailed ∧
          trailerLength cfg true packet.length = some trailed.length)) := by
    intro packet
    simp only [crc32Append, trailerLength, if_true]
    split
    · exact ⟨packet, rfl, .inl ⟨rfl, rfl⟩⟩
    · refine ⟨_, ?_, .inr ⟨rfl, rfl⟩⟩
      rfl
  simp only [sendTrailers, trailedLength]
  cases fromMe with
  | false => exact ⟨packet, rfl, .inr ⟨rfl, rfl⟩⟩
  | true =>
      cases first : idout.has cspFHmac with
      | false =>
          cases second : idout.has cspFCrc32 with
          | false => exact ⟨packet, rfl, .inr ⟨rfl, rfl⟩⟩
          | true => exact crc packet
      | true =>
          obtain ⟨signed, buf, ⟨result, length⟩ | ⟨result, length⟩⟩ := hmac packet
          · exact ⟨signed, buf, .inl ⟨by simp [result, bind, Except.bind], by simp [length]⟩⟩
          · cases second : idout.has cspFCrc32 with
            | false =>
                refine ⟨signed, buf, .inr ⟨by simp [result, bind, Except.bind], ?_⟩⟩
                rw [if_pos rfl, length]
                rfl
            | true =>
                obtain ⟨trailed, same, ends⟩ := crc signed
                refine ⟨trailed, same.trans buf, ?_⟩
                simpa [result, length, bind, Except.bind] using ends

/-! ## The budget of free buffers -/

/-- These counts decide whether the copies of one packet find a buffer. -/
structure Budget where
  free : Nat
  promiscRoom : Nat
  handed : Nat → Nat

def Io.budget (io : Io cfg) : Budget :=
  { free := io.pool.remaining
    promiscRoom := io.promiscQueue.free
    handed := fun iface => (io.ifaceAt iface).handed }

/-- The promiscuous queue stores its copy when it has room and the pool has a buffer. -/
def Budget.promisc (io : Io cfg) (length : UInt16) (budget : Budget) : Budget :=
  if io.promiscEnabled && decide (length.toNat ≤ cfg.bufferSize) && decide (0 < budget.free) &&
      decide (0 < budget.promiscRoom) then
    { budget with free := budget.free - 1, promiscRoom := budget.promiscRoom - 1 }
  else budget

def Budget.giveBack (budget : Budget) : Budget := { budget with free := budget.free + 1 }

/-- The next hop gives the buffer back, unless it keeps the packet. -/
def Budget.hand (io : Io cfg) (iface : Nat) (budget : Budget) : Budget :=
  let result := (io.ifaceAt iface).nexthop (budget.handed iface)
  let budget := { budget with
    handed := Function.update budget.handed iface (budget.handed iface + 1) }
  if result = .keeps then budget else budget.giveBack

/-- The send of one packet on an interface uses the budget up in this way. -/
def Budget.send (io : Io cfg) (idout : CspId) (length : UInt16) (iface : Nat) (fromMe : Bool)
    (budget : Budget) : Budget :=
  let budget := if fromMe && iface != ifLo then budget.promisc io length else budget
  match trailedLength cfg idout length fromMe with
  | none => budget.giveBack
  | some length =>
      if (io.ifaceAt iface).mtu > 0 && length > (io.ifaceAt iface).mtu then budget.giveBack
      else budget.hand io iface

/-- Each interface that the loop picks finds a free buffer for its copy. -/
def copiesFit (io : Io cfg) (idout : CspId) (length : UInt16) (routedFrom : Option Nat) :
    List Nat → Budget → Bool
  | [], _ => true
  | iface :: rest, budget =>
      if sendsOn io idout.dst routedFrom iface then
        decide (length.toNat ≤ cfg.bufferSize ∧ 0 < budget.free) &&
          copiesFit io idout length routedFrom rest
            (Budget.send io { idout with src := (io.ifaceAt iface).addr } length iface
              routedFrom.isNone { budget with free := budget.free - 1 })
      else copiesFit io idout length routedFrom rest budget

/-- Two states agree on all that a send does not change. -/
structure SameLinks (first second : Io cfg) : Prop where
  addr : ∀ iface, (second.ifaceAt iface).addr = (first.ifaceAt iface).addr
  netmask : ∀ iface, (second.ifaceAt iface).netmask = (first.ifaceAt iface).netmask
  mtu : ∀ iface, (second.ifaceAt iface).mtu = (first.ifaceAt iface).mtu
  nexthop : ∀ iface, (second.ifaceAt iface).nexthop = (first.ifaceAt iface).nexthop
  promiscEnabled : second.promiscEnabled = first.promiscEnabled
  nullDeref : second.nullDeref = first.nullDeref

theorem SameLinks.of_fields {first second : Io cfg} (ifaceAt : second.ifaceAt = first.ifaceAt)
    (promiscEnabled : second.promiscEnabled = first.promiscEnabled)
    (nullDeref : second.nullDeref = first.nullDeref) : SameLinks first second := by
  refine ⟨?_, ?_, ?_, ?_, promiscEnabled, nullDeref⟩ <;> simp [ifaceAt]

theorem SameLinks.refl (io : Io cfg) : SameLinks io io := .of_fields rfl rfl rfl

theorem SameLinks.trans {first second third : Io cfg} (left : SameLinks first second)
    (right : SameLinks second third) : SameLinks first third where
  addr iface := (right.addr iface).trans (left.addr iface)
  netmask iface := (right.netmask iface).trans (left.netmask iface)
  mtu iface := (right.mtu iface).trans (left.mtu iface)
  nexthop iface := (right.nexthop iface).trans (left.nexthop iface)
  promiscEnabled := right.promiscEnabled.trans left.promiscEnabled
  nullDeref := right.nullDeref.trans left.nullDeref

theorem SameLinks.sendsOn {first second : Io cfg} (same : SameLinks first second) (dst : UInt16)
    (routedFrom : Option Nat) (iface : Nat) :
    Libcsp.sendsOn second dst routedFrom iface = Libcsp.sendsOn first dst routedFrom iface := by
  cases routedFrom <;>
    simp [Libcsp.sendsOn, iflistIsWithinSubnet, same.addr, same.netmask]

theorem SameLinks.copiesFit {first second : Io cfg} (same : SameLinks first second) (idout : CspId)
    (length : UInt16) (routedFrom : Option Nat) (ifaces : List Nat) (budget : Budget) :
    Libcsp.copiesFit second idout length routedFrom ifaces budget =
      Libcsp.copiesFit first idout length routedFrom ifaces budget := by
  induction ifaces generalizing budget with
  | nil => rfl
  | cons iface rest ih =>
      simp only [Libcsp.copiesFit, same.sendsOn, same.addr, ih, Budget.send, Budget.promisc,
        Budget.hand, same.promiscEnabled, same.mtu, same.nexthop]

theorem promiscAdd_links (io : Io cfg) (packet : Packet) : SameLinks io (promiscAdd io packet) := by
  unfold promiscAdd
  repeat' split
  all_goals exact .of_fields rfl rfl rfl

theorem callNexthop_links (io : Io cfg) (iface : Nat) (via : UInt16) (packet : Packet) :
    SameLinks io (callNexthop io iface via packet) := by
  have counted : SameLinks io (io.countCall iface) := by
    refine ⟨?_, ?_, ?_, ?_, rfl, rfl⟩ <;>
      · intro other
        by_cases same : other = iface
        · subst same
          simp [Io.countCall]
        · simp [same, Io.countCall]
  simp only [callNexthop]
  split <;> exact ⟨counted.addr, counted.netmask, counted.mtu, counted.nexthop, rfl, rfl⟩

theorem sendDirectIface_links (io : Io cfg) (idout : CspId) (packet : Packet) (iface : Nat)
    (via : UInt16) (fromMe : Bool) :
    SameLinks io (sendDirectIface io idout (some packet) iface via fromMe) := by
  have promisc : SameLinks io
      (if fromMe && iface != ifLo then promiscAdd io { packet with id := idout } else io) := by
    split
    · exact promiscAdd_links _ _
    · exact SameLinks.refl io
  simp only [sendDirectIface]
  generalize (if fromMe && iface != ifLo then promiscAdd io { packet with id := idout } else io) =
    copied at promisc
  split
  · exact promisc.trans (.of_fields rfl rfl rfl)
  · split
    · exact promisc.trans (.of_fields rfl rfl rfl)
    · exact promisc.trans (callNexthop_links _ _ _ _)

/-! ## One interface -/

theorem Io.free_budget (io : Io cfg) (packet : Packet) {held : List Nat}
    (accounts : io.Accounts (packet.buf :: held)) : (io.free packet).budget = io.budget.giveBack := by
  obtain ⟨_, bufs⟩ := bufferFree_accounts (accounts.perm List.perm_middle)
  have remaining := congrArg List.length bufs
  rw [Pool.freeBufs_length, List.length_append, Pool.freeBufs_length] at remaining
  simp only [budget, Io.free, Budget.giveBack, remaining, List.length_singleton]

theorem promiscAdd_budget {io : Io cfg} {held : List Nat} (accounts : io.Accounts held)
    (packet : Packet) : (promiscAdd io packet).budget = io.budget.promisc io packet.length := by
  unfold promiscAdd Budget.promisc
  cases io.promiscEnabled with
  | false => rfl
  | true =>
      rw [if_pos rfl, Bool.true_and]
      rcases io.clone_accounts accounts packet with ⟨failed, why⟩ | ⟨buf, pool, cloned, fits, remaining, taken, _⟩
      · rw [failed, if_neg]
        · rfl
        · rw [Bool.and_eq_true, Bool.and_eq_true, decide_eq_true_eq, decide_eq_true_eq]
          exact fun enough => why enough.1
      · rw [cloned]
        simp only
        split
        · rename_i full
          have bound := BoundedQueue.enqueue_eq_none.mp full
          have freed := Io.free_budget { io with pool } { packet with buf } taken
          have noRoom : io.promiscQueue.free = 0 := by
            rw [BoundedQueue.free, bound, Nat.sub_self]
          rw [if_neg (by simp [Io.budget, noRoom])]
          refine freed.trans ?_
          simp only [Io.budget, Budget.giveBack, remaining]
        · rename_i promiscQueue stored
          obtain ⟨room, items⟩ := BoundedQueue.enqueue_eq_some.mp stored
          have space : promiscQueue.free = io.promiscQueue.free - 1 := by
            rw [BoundedQueue.free, BoundedQueue.free, items, List.length_append,
              List.length_singleton, Nat.sub_add_eq]
          have slot : 0 < io.promiscQueue.free := Nat.sub_pos_of_lt room
          rw [if_pos]
          · simp only [Io.budget, space, ← remaining, Nat.add_sub_cancel]
          · simp only [Io.budget, ← remaining, fits, slot, decide_true, Bool.and_true,
              Nat.zero_lt_succ]

theorem callNexthop_budget {io : Io cfg} {held : List Nat} (iface : Nat) (via : UInt16)
    (packet : Packet) (accounts : io.Accounts (packet.buf :: held)) :
    (callNexthop io iface via packet).budget = io.budget.hand io iface := by
  have handed : (io.countCall iface).budget =
      { io.budget with
        handed := Function.update io.budget.handed iface (io.budget.handed iface + 1) } := by
    have each : ∀ other, ((io.countCall iface).ifaceAt other).handed =
        Function.update io.budget.handed iface (io.budget.handed iface + 1) other := by
      intro other
      by_cases same : other = iface
      · subst same
        simp [Io.budget, Io.countCall]
      · simp [same, Io.budget, Io.countCall]
    simp only [Io.budget] at each ⊢
    rw [funext each]
    rfl
  have freed : ((io.countCall iface).free packet).budget = (io.countCall iface).budget.giveBack :=
    Io.free_budget (io.countCall iface) packet accounts
  simp only [callNexthop]
  split
  · rename_i result
    have fails : (io.ifaceAt iface).nexthop (io.budget.handed iface) = .error := result
    rw [Budget.hand, if_neg (by rw [fails]; decide), freed, handed]
  · rename_i result
    have keeps : (io.ifaceAt iface).nexthop (io.budget.handed iface) = .keeps := result
    rw [Budget.hand, if_pos keeps, ← handed]
    rfl
  · rename_i result
    have frees : (io.ifaceAt iface).nexthop (io.budget.handed iface) = .frees := result
    rw [Budget.hand, if_neg (by rw [frees]; decide), ← handed, ← freed]
    rfl

/-- A send on one interface consumes its packet and uses the budget up as counted. -/
theorem sendDirectIface_consumes {io : Io cfg} {held : List Nat} (idout : CspId) (packet : Packet)
    (iface : Nat) (via : UInt16) (fromMe : Bool) (accounts : io.Accounts (packet.buf :: held)) :
    Consumes io (sendDirectIface io idout (some packet) iface via fromMe) packet.buf held ∧
      (sendDirectIface io idout (some packet) iface via fromMe).budget =
        Budget.send io idout packet.length iface fromMe io.budget := by
  have promisc : ∃ copied,
      (if fromMe && iface != ifLo then promiscAdd io { packet with id := idout } else io) = copied ∧
      Moves io copied (packet.buf :: held) ∧ SameLinks io copied ∧
      copied.budget =
        if fromMe && iface != ifLo then io.budget.promisc io packet.length else io.budget := by
    refine ⟨_, rfl, ?_⟩
    split
    · exact ⟨promiscAdd_moves accounts _, promiscAdd_links _ _, promiscAdd_budget accounts _⟩
    · exact ⟨⟨accounts, List.Perm.refl _⟩, SameLinks.refl io, rfl⟩
  obtain ⟨copied, same, moves, links, budget⟩ := promisc
  obtain ⟨trailed, buf, ⟨result, length⟩ | ⟨result, length⟩⟩ :=
    @sendTrailers_cases cfg idout { packet with id := idout } fromMe
  · have freed := Io.free_consumes copied trailed (by rw [buf]; exact moves.accounts)
    have spent := Io.free_budget copied trailed (by rw [buf]; exact moves.accounts)
    have sent : sendDirectIface io idout (some packet) iface via fromMe = copied.free trailed := by
      simp only [sendDirectIface, same, result]
    rw [buf] at freed
    rw [sent]
    refine ⟨Consumes.after_moves moves freed, ?_⟩
    rw [spent, Budget.send, length, budget]
  · have sent : sendDirectIface io idout (some packet) iface via fromMe =
        if (io.ifaceAt iface).mtu > 0 && trailed.length > (io.ifaceAt iface).mtu then
          copied.free trailed
        else callNexthop copied iface via trailed := by
      simp only [sendDirectIface, same, result, links.mtu]
    have held' : copied.Accounts (trailed.buf :: held) := by
      rw [buf]
      exact moves.accounts
    rw [sent, Budget.send, length]
    simp only
    split
    · have freed := Io.free_consumes copied trailed held'
      rw [buf] at freed
      exact ⟨Consumes.after_moves moves freed, by rw [Io.free_budget copied trailed held', budget]⟩
    · have handed := callNexthop_consumes iface via trailed held'
      rw [buf] at handed
      refine ⟨Consumes.after_moves moves handed, ?_⟩
      rw [callNexthop_budget iface via trailed held', budget]
      simp only [Budget.hand, links.nexthop]

/-! ## The loop over the interfaces -/

theorem sendDirectIface_nullDeref (io : Io cfg) (idout : CspId) (packet : Option Packet)
    (iface : Nat) (via : UInt16) (fromMe : Bool) :
    (sendDirectIface io idout packet iface via fromMe).nullDeref =
      (io.nullDeref || packet.isNone) := by
  cases packet with
  | none => simp [sendDirectIface]
  | some packet => simp [(sendDirectIface_links io idout packet iface via fromMe).nullDeref]

theorem sendDirectLoop_nullDeref (idout : CspId) (packet : Option Packet)
    (routedFrom : Option Nat) (ifaces : List Nat) (found : Bool) (io : Io cfg)
    (deref : io.nullDeref = true) :
    (sendDirectLoop idout packet routedFrom ifaces (found, io)).2.nullDeref = true := by
  induction ifaces generalizing found io with
  | nil => exact deref
  | cons iface rest ih =>
      simp only [sendDirectLoop]
      split
      · exact ih true _ (by rw [sendDirectIface_nullDeref]; simp [deref])
      · exact ih found io deref

/-- The loop that finds no interface changes nothing. -/
theorem sendDirectLoop_unused (idout : CspId) (packet : Option Packet) (routedFrom : Option Nat)
    (ifaces : List Nat) (found : Bool) (io : Io cfg)
    (unused : ∀ iface ∈ ifaces, sendsOn io idout.dst routedFrom iface = false) :
    sendDirectLoop idout packet routedFrom ifaces (found, io) = (found, io) := by
  induction ifaces with
  | nil => rfl
  | cons iface rest ih =>
      rw [sendDirectLoop, unused iface List.mem_cons_self]
      exact ih fun other member => unused other (List.mem_cons_of_mem _ member)

theorem sendDirectLoop_found (idout : CspId) (packet : Option Packet) (routedFrom : Option Nat)
    (ifaces : List Nat) (found : Bool) (io : Io cfg)
    (used : found = true ∨ ∃ iface ∈ ifaces, sendsOn io idout.dst routedFrom iface = true) :
    (sendDirectLoop idout packet routedFrom ifaces (found, io)).1 = true := by
  have stays : ∀ (ifaces : List Nat) (io : Io cfg),
      (sendDirectLoop idout packet routedFrom ifaces (true, io)).1 = true := by
    intro ifaces
    induction ifaces with
    | nil => exact fun _ => rfl
    | cons iface rest ih =>
        intro io
        simp only [sendDirectLoop]
        split
        · exact ih _
        · exact ih _
  rcases used with rfl | ⟨iface, member, sends⟩
  · exact stays ifaces io
  · induction ifaces generalizing found with
    | nil => exact absurd member List.not_mem_nil
    | cons head rest ih =>
        simp only [sendDirectLoop]
        split
        · exact stays rest _
        · rename_i skips
          rcases List.mem_cons.mp member with rfl | member
          · exact absurd sends skips
          · exact ih found member

/-- The loop passes NULL on to each interface that it picks. -/
theorem sendDirectLoop_null (idout : CspId) (routedFrom : Option Nat) (ifaces : List Nat)
    (found : Bool) (io : Io cfg)
    (used : ∃ iface ∈ ifaces, sendsOn io idout.dst routedFrom iface = true) :
    (sendDirectLoop idout none routedFrom ifaces (found, io)).2.nullDeref = true := by
  obtain ⟨iface, member, sends⟩ := used
  induction ifaces generalizing found with
  | nil => exact absurd member List.not_mem_nil
  | cons head rest ih =>
      simp only [sendDirectLoop]
      split
      · exact sendDirectLoop_nullDeref _ _ _ _ _ _ rfl
      · rename_i skips
        rcases List.mem_cons.mp member with rfl | member
        · exact absurd sends skips
        · exact ih found member

/-- The loop moves buffers and dereferences no NULL exactly when its copies fit. -/
theorem sendDirectLoop_safe {io : Io cfg} {held : List Nat} (idout : CspId) (packet : Packet)
    (routedFrom : Option Nat) (ifaces : List Nat) (found : Bool) (accounts : io.Accounts held)
    (clean : io.nullDeref = false) :
    (copiesFit io idout packet.length routedFrom ifaces io.budget = true →
        Moves io (sendDirectLoop idout (some packet) routedFrom ifaces (found, io)).2 held ∧
          SameLinks io (sendDirectLoop idout (some packet) routedFrom ifaces (found, io)).2) ∧
      (copiesFit io idout packet.length routedFrom ifaces io.budget = false →
        (sendDirectLoop idout (some packet) routedFrom ifaces (found, io)).2.nullDeref = true) := by
  induction ifaces generalizing io found with
  | nil => exact ⟨fun _ => ⟨⟨accounts, List.Perm.refl _⟩, SameLinks.refl io⟩, by simp [copiesFit]⟩
  | cons iface rest ih =>
      simp only [copiesFit, sendDirectLoop]
      split
      · rcases io.clone_accounts accounts packet with ⟨failed, why⟩ | ⟨buf, pool, cloned, fits, remaining, taken, places⟩
        · rw [failed]
          have short : decide (packet.length.toNat ≤ cfg.bufferSize ∧ 0 < io.budget.free) = false :=
            decide_eq_false why
          rw [short, Bool.false_and]
          exact ⟨by simp, fun _ => sendDirectLoop_nullDeref _ _ _ _ _ _ rfl⟩
        · rw [cloned]
          have enough : decide (packet.length.toNat ≤ cfg.bufferSize ∧ 0 < io.budget.free) = true :=
            decide_eq_true ⟨fits, by simp only [Io.budget]; omega⟩
          rw [enough, Bool.true_and]
          obtain ⟨consumes, budget⟩ := sendDirectIface_consumes
            { idout with src := (io.ifaceAt iface).addr } { packet with buf } iface noViaAddress
            routedFrom.isNone taken
          have start : SameLinks io { io with pool } := .of_fields rfl rfl rfl
          have links := start.trans (sendDirectIface_links { io with pool }
            { idout with src := (io.ifaceAt iface).addr } { packet with buf } iface noViaAddress
            routedFrom.isNone)
          have spent : Io.budget { io with pool } = { io.budget with free := io.budget.free - 1 } := by
            simp only [Io.budget, ← remaining, Nat.add_sub_cancel]
          have sent : Budget.send { io with pool } { idout with src := (io.ifaceAt iface).addr }
              packet.length iface routedFrom.isNone (Io.budget { io with pool }) =
            Budget.send io { idout with src := (io.ifaceAt iface).addr } packet.length iface
              routedFrom.isNone { io.budget with free := io.budget.free - 1 } := by
            rw [spent]
            rfl
          obtain ⟨safe, derefs⟩ := ih true consumes.accounts (links.nullDeref.trans clean)
          rw [links.copiesFit, budget, sent] at safe derefs
          refine ⟨fun fit => ?_, derefs⟩
          obtain ⟨moves, further⟩ := safe fit
          exact ⟨⟨moves.accounts, moves.places.trans (by rw [places]; exact consumes.places)⟩,
            links.trans further⟩
      · exact ih found accounts clean

/-! ## The whole send -/

/-- The call consumed its packet, lost no buffer, and dereferenced no NULL. -/
structure SendsSafely (before after : Io cfg) (buf : Nat) (held : List Nat) : Prop
    extends Consumes before after buf held where
  clean : after.nullDeref = false

/-- The call sent a copy of a held packet, lost no buffer, and dereferenced no NULL. -/
structure ResendsSafely (before after : Io cfg) (held : List Nat) : Prop
    extends Moves before after held where
  clean : after.nullDeref = false

theorem copiesFit_of_unused {io : Io cfg} {idout : CspId} {length : UInt16}
    {routedFrom : Option Nat} {ifaces : List Nat} (budget : Budget)
    (unused : ∀ iface ∈ ifaces, sendsOn io idout.dst routedFrom iface = false) :
    copiesFit io idout length routedFrom ifaces budget = true := by
  induction ifaces with
  | nil => rfl
  | cons iface rest ih =>
      rw [copiesFit, unused iface List.mem_cons_self]
      exact ih fun other member => unused other (List.mem_cons_of_mem _ member)

/-- After the loop has found an interface, the body frees the original packet. -/
theorem sendDirectBody_of_used {io : Io cfg} (idout : CspId) (packet : Option Packet)
    (routedFrom : Option Nat)
    (used : ∃ iface ∈ io.interfaces, sendsOn io idout.dst routedFrom iface = true) :
    sendDirectBody io idout packet routedFrom =
      { (sendDirectLoop idout packet routedFrom io.interfaces (false, io)).2 with
        pool := bufferFree
          (sendDirectLoop idout packet routedFrom io.interfaces (false, io)).2.pool packet } := by
  have found := sendDirectLoop_found idout packet routedFrom io.interfaces false io (.inr used)
  rw [sendDirectBody]
  generalize sendDirectLoop idout packet routedFrom io.interfaces (false, io) = result at found ⊢
  obtain ⟨_ | _, after⟩ := result
  · exact absurd found (by simp)
  · rfl

/-- A send is safe exactly when the pool has a buffer for each copy at its turn. -/
theorem sendDirectBody_safe_iff {io : Io cfg} {held : List Nat} (idout : CspId) (packet : Packet)
    (routedFrom : Option Nat) (accounts : io.Accounts (packet.buf :: held))
    (clean : io.nullDeref = false) :
    SendsSafely io (sendDirectBody io idout (some packet) routedFrom) packet.buf held ↔
      copiesFit io idout packet.length routedFrom io.interfaces io.budget = true := by
  obtain ⟨safe, derefs⟩ := sendDirectLoop_safe idout packet routedFrom io.interfaces false accounts clean
  by_cases unused : ∀ iface ∈ io.interfaces, sendsOn io idout.dst routedFrom iface = false
  · rw [copiesFit_of_unused _ unused]
    simp only [sendDirectBody, sendDirectLoop_unused idout (some packet) routedFrom _ false io unused,
      iff_true]
    split
    · rename_i route _
      obtain ⟨consumes, _⟩ := sendDirectIface_consumes idout packet route.iface route.via
        routedFrom.isNone accounts
      have links := sendDirectIface_links io idout packet route.iface route.via routedFrom.isNone
      exact ⟨consumes, links.nullDeref.trans clean⟩
    · exact ⟨Io.free_consumes io packet accounts, clean⟩
  · rw [sendDirectBody_of_used idout (some packet) routedFrom (by simpa using unused)]
    constructor
    · intro sends
      by_contra short
      have deref := derefs (by simpa using short)
      exact absurd (deref.symm.trans sends.clean) (by simp)
    · intro fit
      obtain ⟨moves, links⟩ := safe fit
      exact ⟨Consumes.after_moves moves (Io.free_consumes _ packet moves.accounts),
        links.nullDeref.trans clean⟩

/-- A send of NULL is safe exactly when no interface and no route takes the destination. -/
theorem sendDirectBody_null_iff {io : Io cfg} {held : List Nat} (idout : CspId)
    (routedFrom : Option Nat) (accounts : io.Accounts held) (clean : io.nullDeref = false) :
    ResendsSafely io (sendDirectBody io idout none routedFrom) held ↔
      (∀ iface ∈ io.interfaces, sendsOn io idout.dst routedFrom iface = false) ∧
        rtableFindRoute cfg io.rtable idout.dst = none := by
  by_cases unused : ∀ iface ∈ io.interfaces, sendsOn io idout.dst routedFrom iface = false
  · simp only [sendDirectBody, sendDirectLoop_unused idout none routedFrom _ false io unused]
    cases route : rtableFindRoute cfg io.rtable idout.dst with
    | none =>
        exact ⟨fun _ => ⟨unused, rfl⟩, fun _ => ⟨⟨accounts, List.Perm.refl _⟩, clean⟩⟩
    | some route =>
        simp only [reduceCtorEq, and_false, iff_false]
        intro sends
        exact absurd sends.clean (by simp [sendDirectIface])
  · have derefs : (sendDirectBody io idout none routedFrom).nullDeref = true := by
      have used : ∃ iface ∈ io.interfaces, sendsOn io idout.dst routedFrom iface = true := by
        simpa using unused
      rw [sendDirectBody_of_used idout none routedFrom used]
      exact sendDirectLoop_null idout routedFrom io.interfaces false io used
    exact ⟨fun sends => absurd (derefs.symm.trans sends.clean) (by simp),
      fun ⟨silent, _⟩ => absurd silent unused⟩

/-- The clone for a retransmission and the copies of its send find free buffers. Without a clone
the send must have nowhere to go. -/
def resendFits (io : Io cfg) (idout : CspId) (packet : Packet) : Prop :=
  if packet.length.toNat ≤ cfg.bufferSize ∧ 0 < io.pool.remaining then
    copiesFit io idout packet.length none io.interfaces
      { io.budget with free := io.budget.free - 1 } = true
  else
    (∀ iface ∈ io.interfaces, sendsOn io idout.dst none iface = false) ∧
      rtableFindRoute cfg io.rtable idout.dst = none

theorem rdpRetransmit_safe_iff {stack : Stack cfg} {held : List Nat} (conn : Conn cfg)
    (packet : Packet) (accounts : stack.io.Accounts held) (clean : stack.io.nullDeref = false) :
    ResendsSafely stack.io (rdpRetransmit conn stack packet).io held ↔
      resendFits stack.io conn.idout packet := by
  rcases stack.io.clone_accounts accounts packet with ⟨failed, why⟩ | ⟨buf, pool, cloned, fits, remaining, taken, places⟩
  · rw [resendFits, if_neg why]
    simp only [rdpRetransmit, failed, sendDirect, Option.map_none, Option.toList_none,
      List.append_nil]
    exact sendDirectBody_null_iff conn.idout none accounts clean
  · rw [resendFits, if_pos ⟨fits, by omega⟩]
    simp only [rdpRetransmit, cloned, sendDirect]
    generalize stack.io.outbox ++
      (Option.map (fun packet => (conn.idout, packet)) (some { packet with buf })).toList = outbox
    have start : SameLinks stack.io { stack.io with pool, outbox } := .of_fields rfl rfl rfl
    have budget : Io.budget { stack.io with pool, outbox } =
        { stack.io.budget with free := stack.io.budget.free - 1 } := by
      simp only [Io.budget, ← remaining, Nat.add_sub_cancel]
    have whole := @sendDirectBody_safe_iff cfg { stack.io with pool, outbox } held conn.idout
      { packet with buf } none taken clean
    rw [start.copiesFit, budget] at whole
    refine Iff.trans ⟨fun sends => ?_, fun sends => ?_⟩ whole
    · exact ⟨⟨sends.accounts, places ▸ sends.places⟩, sends.clean⟩
    · exact ⟨⟨sends.accounts, places ▸ sends.places⟩, sends.clean⟩

/-- This is the safety of both sends under any load of the pool: for a packet of the caller, and for
the copy of a packet that waits in the retransmission queue. -/
theorem sends_safe_iff (stack : Stack cfg) (conn : Conn cfg) (idout : CspId) (packet : Packet)
    (routedFrom : Option Nat) (held : List Nat) (accounts : stack.io.Accounts (packet.buf :: held))
    (clean : stack.io.nullDeref = false) :
    (SendsSafely stack.io (sendDirect stack.io idout (some packet) routedFrom) packet.buf held ↔
        copiesFit stack.io idout packet.length routedFrom stack.io.interfaces stack.io.budget =
          true) ∧
      (ResendsSafely stack.io (rdpRetransmit conn stack packet).io (packet.buf :: held) ↔
        resendFits stack.io conn.idout packet) := by
  refine ⟨?_, rdpRetransmit_safe_iff conn packet accounts clean⟩
  have start : SameLinks stack.io { stack.io with
      outbox := stack.io.outbox ++ [(idout, packet)] } := .of_fields rfl rfl rfl
  rw [← start.copiesFit]
  refine Iff.trans ⟨fun sends => ?_, fun sends => ?_⟩ (@sendDirectBody_safe_iff cfg
    { stack.io with outbox := stack.io.outbox ++ [(idout, packet)] } held idout packet routedFrom
    accounts clean)
  · exact ⟨⟨sends.accounts, sends.places⟩, sends.clean⟩
  · exact ⟨⟨sends.accounts, sends.places⟩, sends.clean⟩

/-! ## A node with one interface -/

/-- The interface of a node with address 1 on a subnet of 64 addresses. -/
def subnetIface : Iface := { addr := 1, netmask := 8, mtu := 0, nexthop := fun _ => .frees }

/-- The node has `count` buffers and has given the first one out. -/
def oneBufferOut (count : Nat) : Stack { bufferCount := count } :=
  let io := Io.init { bufferCount := count } (fun _ => default) [subnetIface] []
  Stack.init { io with pool := (bufferGet io.pool 10).2 }

def outPacket : Packet := { (default : Packet) with buf := 0, length := 10 }

def toNeighbour : CspId := { (default : CspId) with dst := 2 }

theorem sends_safe_threeBuffers :
    SendsSafely (oneBufferOut 3).io (sendDirect (oneBufferOut 3).io toNeighbour (some outPacket) none)
        0 [] ∧
      ResendsSafely (oneBufferOut 3).io
        (rdpRetransmit { (default : Conn _) with idout := toNeighbour } (oneBufferOut 3) outPacket).io
        [0] := by
  have both := sends_safe_iff (oneBufferOut 3) { (default : Conn _) with idout := toNeighbour }
    toNeighbour outPacket none [] ⟨by decide, by decide, by decide⟩ rfl
  have resend : resendFits (oneBufferOut 3).io toNeighbour outPacket := by
    rw [resendFits, if_pos (by decide)]
    decide
  exact ⟨both.1.mpr (by decide), both.2.mpr resend⟩

/-- The copy for the only interface is NULL when the packet holds the last buffer. -/
theorem lastBuffer_derefs_null :
    (oneBufferOut 1).io.Accounts [0] ∧ (oneBufferOut 1).io.nullDeref = false ∧
      (sendDirect (oneBufferOut 1).io toNeighbour (some outPacket) none).nullDeref = true :=
  ⟨⟨by decide, by decide, by decide⟩, rfl, by decide⟩

end Libcsp

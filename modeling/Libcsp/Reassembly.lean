/-
This file determines when the reassembly queue of a connection holds only segments that are ahead.
-/
import Libcsp.RxQueue

namespace Libcsp

variable {cfg : Config}

/-! ## The invariant -/

/-- The segments have distinct numbers, and all lie after `rcvCur` and within reach. -/
structure Spaced (rcvCur : UInt16) (reach : Nat) (items : List Packet) : Prop where
  distinct : (items.map Packet.hostSeqNr).Nodup
  ahead : ∀ packet ∈ items,
    0 < seqAhead rcvCur packet.hostSeqNr ∧ seqAhead rcvCur packet.hostSeqNr ≤ reach

/-- The connection is open with a window that the build allows. -/
def RxView.Windowed (cfg : Config) (view : RxView) : Prop :=
  view.state = .open ∧ 1 ≤ view.windowSize.toNat ∧ view.windowSize.toNat ≤ cfg.rdpMaxWindow

/-- This invariant of the receiving side holds in every state of a run. -/
structure RxView.Sound (cfg : Config) (view : RxView) : Prop where
  rdp : view.idin.has cspFRdp = true
  own : ∀ packet ∈ view.items, packet.conn = view.index
  empty : view.state = .closed ∨ view.state = .synSent ∨ view.state = .synRcvd → view.items = []
  spaced : view.Windowed cfg → Spaced view.rcvCur (2 * view.windowSize.toNat) view.items

theorem Spaced.reorder {rcvCur : UInt16} {reach : Nat} {items items' : List Packet}
    (spaced : Spaced rcvCur reach items) (order : items'.Perm items) : Spaced rcvCur reach items' where
  distinct := (order.map _).nodup_iff.mpr spaced.distinct
  ahead packet member := spaced.ahead packet (order.mem_iff.mp member)

/-- The number after `rcvCur` is one step away, and all others come closer when it is taken. -/
theorem Spaced.advance {rcvCur : UInt16} {reach : Nat} {items : List Packet}
    (spaced : Spaced rcvCur reach items)
    (absent : ∀ packet ∈ items, packet.hostSeqNr ≠ rcvCur + 1) : Spaced (rcvCur + 1) reach items where
  distinct := spaced.distinct
  ahead packet member := by
    obtain ⟨after, within⟩ := spaced.ahead packet member
    have different : rcvCur ≠ packet.hostSeqNr := by
      intro same
      simp [← same] at after
    have closer := seqAhead_succ_left different
    have notNext : seqAhead (rcvCur + 1) packet.hostSeqNr ≠ 0 :=
      fun zero => absent packet member (seqAhead_eq_zero.mp zero).symm
    omega

theorem Spaced.deliver {rcvCur : UInt16} {reach : Nat} {packet : Packet} {items : List Packet}
    (spaced : Spaced rcvCur reach (packet :: items)) (next : packet.hostSeqNr = rcvCur + 1) :
    Spaced (rcvCur + 1) reach items := by
  obtain ⟨absent, distinct⟩ := List.nodup_cons.mp spaced.distinct
  have rest : Spaced rcvCur reach items :=
    ⟨distinct, fun other member => spaced.ahead other (List.mem_cons_of_mem _ member)⟩
  refine rest.advance fun other member same => absent ?_
  rw [next, ← same]
  exact List.mem_map_of_mem member

theorem Spaced.store {rcvCur : UInt16} {reach : Nat} {packet : Packet} {items : List Packet}
    (spaced : Spaced rcvCur reach items)
    (absent : ∀ stored ∈ items, stored.hostSeqNr ≠ packet.hostSeqNr)
    (ahead : 0 < seqAhead rcvCur packet.hostSeqNr ∧ seqAhead rcvCur packet.hostSeqNr ≤ reach) :
    Spaced rcvCur reach (packet :: items) := by
  refine ⟨List.nodup_cons.mpr ⟨fun member => ?_, spaced.distinct⟩, fun stored member => ?_⟩
  · obtain ⟨stored, inside, same⟩ := List.mem_map.mp member
    exact absent stored inside same
  · rcases List.mem_cons.mp member with rfl | member
    · exact ahead
    · exact spaced.ahead stored member

/-- The receive window reaches two windows behind `rcv_cur`. -/
theorem rdpSeqValid_ahead {rdp : Rdp} {seqNr : UInt16} (small : rdp.windowSize.toNat < 2 ^ 15)
    (positive : 1 ≤ rdp.windowSize.toNat) (valid : rdpSeqValid rdp seqNr = true) :
    0 < seqAhead rdp.rcvCur seqNr ∧ seqAhead rdp.rcvCur seqNr ≤ 2 * rdp.windowSize.toNat := by
  have inside := rdpSeqBetween_iff.mp valid
  have width : ((rdp.windowSize * 2).toUInt16).toNat = 2 * rdp.windowSize.toNat := by
    simp only [UInt32.toNat_toUInt16, UInt32.toNat_mul, UInt32.reduceToNat]
    omega
  simp only [seqAhead_eq, UInt16.toNat_sub, UInt16.toNat_add, width, UInt16.reduceToNat] at inside ⊢
  have := rdp.rcvCur.toNat_lt
  have := seqNr.toNat_lt
  omega

theorem Spaced.flush {reach : Nat} {before after : RxSide} (flushes : Flushes before after)
    (spaced : Spaced before.rcvCur reach before.items) : Spaced after.rcvCur reach after.items := by
  refine @Flushes.invariant (fun side => Spaced side.rcvCur reach side.items) ?_ ?_ _ _ flushes spaced
  · intro side items order spaced
    exact spaced.reorder order
  · intro side packet rest next spaced
    exact spaced.deliver next

theorem RxView.Sound.reorder {view : RxView} {items : List Packet} (sound : view.Sound cfg)
    (order : items.Perm view.items) : ({ view with items } : RxView).Sound cfg where
  rdp := sound.rdp
  own packet member := sound.own packet (order.mem_iff.mp member)
  empty state := by
    have nothing := sound.empty state
    rw [nothing] at order
    exact order.eq_nil
  spaced window := (sound.spaced window).reorder order

theorem RxView.Sound.flush {view : RxView} {side : RxSide} (sound : view.Sound cfg)
    (flushes : Flushes view.toRxSide side) : ({ view with toRxSide := side } : RxView).Sound cfg where
  rdp := sound.rdp
  own packet member := sound.own packet (flushes.sub packet member)
  empty state := by
    apply List.eq_nil_iff_forall_not_mem.mpr
    intro packet member
    have inside := flushes.sub packet member
    rw [sound.empty state] at inside
    cases inside
  spaced window := (sound.spaced window).flush flushes

theorem RxView.sound_of_empty {view : RxView} (rdp : view.idin.has cspFRdp = true)
    (nothing : view.items = []) : view.Sound cfg where
  rdp := rdp
  own := by simp [nothing]
  empty _ := nothing
  spaced _ := by
    rw [nothing]
    exact ⟨List.nodup_nil, by simp⟩

theorem RxView.Sound.closes {before after : RxView} (sound : before.Sound cfg)
    (closes : RxCloses before after) : after.Sound cfg := by
  cases closes with
  | waits rxLog => exact ⟨sound.rdp, sound.own, by simp, fun window => by cases window.1⟩
  | releases rxLog => exact RxView.sound_of_empty sound.rdp rfl

/-- A state with a new `rcv_cur` is sound when no copy of the taken segment is in the queue. -/
theorem RxView.Sound.advance {view : RxView} (sound : view.Sound cfg)
    (absent : view.Windowed cfg → ∀ stored ∈ view.items, stored.hostSeqNr ≠ view.rcvCur + 1)
    (rxLog : List (Option Packet)) :
    ({ view with rcvCur := view.rcvCur + 1, rxLog } : RxView).Sound cfg where
  rdp := sound.rdp
  own := sound.own
  empty := sound.empty
  spaced window := (sound.spaced window).advance (absent window)

/-! ## One packet -/

/-- The segment is the next one, and no copy of it waits in the queue. -/
def NextIsNew (conn : Conn cfg) (items : List Packet) (packet : Packet) (header : RdpHeader) : Prop :=
  rdpHeaderSize < packet.length.toNat → header.seqNr = conn.rdp.rcvCur + 1 → 0 < conn.rxQueue.free →
    ∀ stored ∈ items, stored.hostSeqNr ≠ header.seqNr

/-- The state is sound before the first segment opens the connection, and it is when it has. -/
theorem RxView.Sound.opened {view : RxView} (sound : view.Sound cfg)
    (state : view.state = .synRcvd ∨ view.state = .open) :
    ({ view with state := .open } : RxView).Sound cfg := by
  rcases state with received | opened
  · exact RxView.sound_of_empty sound.rdp (sound.empty (.inr (.inr received)))
  · rw [← opened]
    exact sound

theorem RxView.Sound.store {view : RxView} {packet : Packet} (sound : view.Sound cfg)
    (opened : view.state = .open) (own : packet.conn = view.index)
    (absent : ∀ stored ∈ view.items, stored.hostSeqNr ≠ packet.hostSeqNr)
    (ahead : view.Windowed cfg → 0 < seqAhead view.rcvCur packet.hostSeqNr ∧
      seqAhead view.rcvCur packet.hostSeqNr ≤ 2 * view.windowSize.toNat) :
    ({ view with items := packet :: view.items } : RxView).Sound cfg where
  rdp := sound.rdp
  own other member := by
    rcases List.mem_cons.mp member with rfl | member
    · exact own
    · exact sound.own other member
  empty state := by
    rcases state with state | state | state <;> simp [show view.state = _ from state] at opened
  spaced window := (sound.spaced window).store absent (ahead window)

/-- The RDP module keeps the invariant, unless the packet is the next segment and a copy waits. -/
theorem RxStep.sound {ctx : Ctx cfg} {packet : Packet} {after : RxView} (sound : ctx.rxView.Sound cfg)
    (step : RxStep ctx packet after)
    (new : ctx.rxView.Windowed cfg → acceptsData ctx.conn.rdp packet.header = true →
      NextIsNew ctx.conn ctx.stack.rxQueue.items packet packet.header) : after.Sound cfg := by
  cases step with
  | keeps items order => exact sound.reorder order
  | opens received items order => exact (sound.opened (.inl received)).reorder order
  | stores state accepted long absent items order =>
      have opened := sound.opened state
      have number := packet.received_hostSeqNr ctx.conn.index
      refine (opened.store rfl rfl (fun stored member => ?_) fun window => ?_).reorder order
      · rw [number]
        exact absent stored member
      · rw [number]
        simp only [acceptsData, Bool.and_eq_true] at accepted
        exact rdpSeqValid_ahead (lt_of_le_of_lt window.2.2 cfg.rdpMaxWindow_lt) window.2.1 accepted.1.2
  | delivers state accepted long next room side flushes =>
      have opened := sound.opened state
      refine (opened.advance (fun window stored member => ?_) _).flush flushes
      · rcases state with received | wasOpen
        · rw [show ctx.rxView.items = [] from sound.empty (.inr (.inr received))] at member
          cases member
        · have windowed : ctx.rxView.Windowed cfg := ⟨wasOpen, window.2⟩
          have different := new windowed accepted long next room stored member
          rw [show packet.header.seqNr = _ from next] at different
          exact different
  | accepts closed windowSize => exact RxView.sound_of_empty sound.rdp (sound.empty (.inl closed))
  | connects sent => exact RxView.sound_of_empty sound.rdp (sound.empty (.inr (.inl sent)))
  | closes after closes => exact sound.closes closes

/-! ## Runs -/

/-- No accepted segment is the next one while a copy of it waits in the reassembly queue. -/
def DeliversNewOnly (ctx : Ctx cfg) : ConnInput cfg → Prop
  | .arrive packet =>
      packet.id.has cspFRdp = true → ctx.rxView.Windowed cfg →
        acceptsData ctx.conn.rdp packet.header = true →
          NextIsNew ctx.conn ctx.stack.rxQueue.items packet packet.header
  | _ => True

instance (view : RxView) : Decidable (view.Windowed cfg) := inferInstanceAs (Decidable (_ ∧ _ ∧ _))

instance (conn : Conn cfg) (items : List Packet) (packet : Packet) (header : RdpHeader) :
    Decidable (NextIsNew conn items packet header) :=
  inferInstanceAs (Decidable (_ → _ → _ → ∀ stored ∈ items, _))

instance (ctx : Ctx cfg) : ∀ input, Decidable (DeliversNewOnly ctx input)
  | .connect => .isTrue trivial
  | .wake _ => .isTrue trivial
  | .arrive _ => inferInstanceAs (Decidable (_ → _ → _ → NextIsNew _ _ _ _))
  | .timeouts => .isTrue trivial
  | .send _ => .isTrue trivial
  | .read => .isTrue trivial
  | .close => .isTrue trivial
  | .environment _ => .isTrue trivial

instance (ctx : Ctx cfg) (input : ConnInput cfg) :
    Decidable (((connMachine cfg).restrict DeliversNewOnly).allowed ctx input) :=
  inferInstanceAs (Decidable (connAllowed ctx input ∧ DeliversNewOnly ctx input))

theorem connClose_rxSound {ctx : Ctx cfg} (sound : ctx.rxView.Sound cfg) (closedBy : UInt8) :
    (connClose ctx closedBy).rxView.Sound cfg := by
  rcases connClose_rx sound.rdp closedBy with same | closes
  · rw [same]
    exact sound
  · exact sound.closes closes

theorem routeDeliver_rxSound {ctx : Ctx cfg} {packet : Packet} (sound : ctx.rxView.Sound cfg)
    (connState : ctx.conn.state = .open) (condition : DeliversNewOnly ctx (.arrive packet)) :
    (routeDeliver ctx packet).rxView.Sound cfg := by
  have openRdp : ctx.OpenRdp := ⟨connState, sound.rdp⟩
  simp only [routeDeliver]
  split
  · rename_i flag
    have received := (rdpNewPacket_rx openRdp sound.own packet).sound sound (condition flag)
    simp only [routeRdp]
    generalize rdpNewPacket ctx packet = result at received
    obtain ⟨close, after⟩ := result
    cases close with
    | true => exact connClose_rxSound received _
    | false => exact received
  · rcases routePlain_rx openRdp packet with ⟨rxLog, same⟩ | closes
    · rw [same]
      exact ⟨sound.rdp, sound.own, sound.empty, sound.spaced⟩
    · exact sound.closes closes

/-- One event keeps the invariant. -/
theorem connStep_rxSound {ctx : Ctx cfg} {input : ConnInput cfg} (sound : ctx.rxView.Sound cfg)
    (allowed : connAllowed ctx input) (condition : DeliversNewOnly ctx input) :
    (connStep ctx input).rxView.Sound cfg := by
  cases input with
  | connect =>
      obtain ⟨connState, closed⟩ := allowed
      have nothing : ctx.stack.rxQueue.items = [] := sound.empty (.inl closed)
      rcases rdpConnectStart_rx ⟨connState, sound.rdp⟩ (by simp [closed]) with same | closes
      · exact same ▸ RxView.sound_of_empty sound.rdp nothing
      · exact (RxView.sound_of_empty (by exact sound.rdp) (by exact nothing)).closes closes
  | wake retry =>
      have woken := rdpConnectWake_rx ⟨allowed, sound.rdp⟩ retry
      rcases woken with same | same | closes | closes
      · exact same ▸ sound
      · exact same ▸ RxView.sound_of_empty sound.rdp rfl
      · exact sound.closes closes
      · exact (RxView.sound_of_empty (by exact sound.rdp) rfl).closes closes
  | arrive packet => exact routeDeliver_rxSound sound allowed condition
  | timeouts =>
      rcases rdpCheckTimeouts_rx ⟨allowed, sound.rdp⟩ sound.own with closes | ⟨_, same⟩ |
        ⟨side, flushes, same⟩
      · exact sound.closes closes
      · exact (congrArg Ctx.rxView same) ▸ sound
      · exact same ▸ sound.flush flushes
  | send packet =>
      change (cspSend ctx (some packet)).rxView.Sound cfg
      rw [cspSend_rxView]
      exact sound
  | read =>
      change (cspRead ctx).2.rxView.Sound cfg
      rw [cspRead_rxView]
      exact sound
  | close => exact connClose_rxSound sound _
  | environment stack => exact sound

theorem connRun_rxSound {ctx : Ctx cfg}
    (reached : ((connMachine cfg).restrict DeliversNewOnly).Reachable ctx) :
    ctx.rxView.Sound cfg := by
  refine @Machine.Reachable.invariant _ _ _ (fun ctx => ctx.rxView.Sound cfg) ?_ ?_ _ reached
  · intro ctx fresh
    exact RxView.sound_of_empty fresh.rdp fresh.rxQueue
  · rintro ctx input sound ⟨allowed, condition⟩
    exact connStep_rxSound sound allowed condition

/-- In a run without such an arrival, the stored segments have distinct numbers, and all lie after
`rcv_cur` and at most two windows after it. -/
theorem reassembly_holds_ahead :
    ∀ ctx : Ctx cfg, ((connMachine cfg).restrict DeliversNewOnly).Reachable ctx →
      ctx.conn.rdp.state = .open → 1 ≤ ctx.conn.rdp.windowSize.toNat →
        ctx.conn.rdp.windowSize.toNat ≤ cfg.rdpMaxWindow →
          Spaced ctx.conn.rdp.rcvCur (2 * ctx.conn.rdp.windowSize.toNat) ctx.stack.rxQueue.items :=
  fun _ reached opened positive bounded => (connRun_rxSound reached).spaced ⟨opened, positive, bounded⟩

/-- The receive queue of the server has three free slots, and segment 115 waits for segment 114. -/
def nearlyFullInputs : List (ConnInput {}) :=
  [.arrive (synSegment 100), .arrive (rdpSegment rdpAck 101 0 [])] ++
    (List.range 13).map (fun index => .arrive (rdpSegment rdpAck (101 + UInt16.ofNat index) 0 [7])) ++
    [.arrive (rdpSegment rdpAck 115 0 [7])]

def nearlyFull : Ctx {} := (connMachine {}).trace freshServer nearlyFullInputs

theorem nearlyFull_holds_ahead :
    Spaced nearlyFull.conn.rdp.rcvCur (2 * nearlyFull.conn.rdp.windowSize.toNat)
      nearlyFull.stack.rxQueue.items := by
  have start : ((connMachine {}).restrict DeliversNewOnly).initial freshServer := freshServer_fresh
  have reached := (Machine.Reachable.start start).traceRestrict nearlyFullInputs (by decide +kernel)
  exact reassembly_holds_ahead nearlyFull reached (by decide +kernel) (by decide +kernel)
    (by decide +kernel)

/-- Segment 114 leaves two free slots, so the flush stops. The second copy of segment 115 is then
delivered directly, and the first copy stays in the queue. -/
def deliveredTwice : Ctx {} :=
  (connMachine {}).trace nearlyFull
    [.arrive (rdpSegment rdpAck 114 0 [7]), .arrive (rdpSegment rdpAck 115 0 [7])]

theorem deliveredTwice_keeps_copy :
    (connMachine {}).Reachable deliveredTwice ∧ deliveredTwice.conn.rdp.state = .open ∧
      deliveredTwice.conn.rdp.windowSize.toNat = 4 ∧ deliveredTwice.conn.rdp.rcvCur = 115 ∧
      deliveredTwice.stack.rxQueue.items.map Packet.hostSeqNr = [115] := by
  have start : (connMachine {}).initial freshServer := freshServer_fresh
  refine ⟨((Machine.Reachable.start start).trace nearlyFullInputs ?_).trace _ ?_, ?_, ?_, ?_, ?_⟩
  · decide +kernel
  · decide +kernel
  · decide +kernel
  · decide +kernel
  · decide +kernel
  · decide +kernel

end Libcsp

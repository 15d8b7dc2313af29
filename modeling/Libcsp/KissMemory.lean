/-
This file follows the packet pointer of csp_kiss_rx and proves that the receiver writes to its own packet only.
-/
import Libcsp.Kiss
import Libcsp.Lib.EventLog
import Libcsp.Lib.Transition

namespace Libcsp

variable {cfg : Config} {qfifoLen : Nat}

/-! ## The receiver with its pointer -/

/-- This is `csp_kiss_mode_t`. -/
inductive KissRxMode where
  | notStarted
  | started
  | escaped
  | skipFrame
  deriving DecidableEq, Repr

/-- What the receiver does with the memory of the buffers. -/
inductive KissAccess where
  | took (buf : Nat)
  /-- One byte goes to `frame_begin[index]`, which is this place behind the start of the header. -/
  | wrote (buf index place : Nat)
  | handed (buf : Nat)
  | nullPointer
  deriving DecidableEq, Repr

/-- The fields of `csp_kiss_interface_data_t`. The pointer is none for NULL, and else it has the content
that it points to. -/
structure KissMemory (cfg : Config) (qfifoLen : Nat) where
  link : Link cfg qfifoLen
  maxRxLength : Nat
  rxMode : KissRxMode
  rxLength : Nat
  rxFirst : Bool
  rxPacket : Option Frame
  /-- History: the buffers that other code holds. -/
  others : List Nat
  /-- History: the accesses in their order. -/
  log : List KissAccess

/-- The receiver follows its pointer. -/
def KissMemory.withPacket (state : KissMemory cfg qfifoLen) (access : Frame → KissMemory cfg qfifoLen) :
    KissMemory cfg qfifoLen :=
  match state.rxPacket with
  | some frame => access frame
  | none => { state with log := state.log ++ [.nullPointer] }

def KissMemory.checkLength (state : KissMemory cfg qfifoLen) : KissMemory cfg qfifoLen :=
  if state.rxLength ≥ state.maxRxLength then
    { state with link := state.link.countRxError, rxMode := .notStarted, rxLength := 0 }
  else state

/-- The transfer starts in this packet. -/
def KissMemory.startTransfer (state : KissMemory cfg qfifoLen) (packet : Packet) : KissMemory cfg qfifoLen :=
  { state with rxPacket := some (idSetupRx cfg packet), rxLength := 0, rxMode := .started, rxFirst := true }

def KissMemory.start (state : KissMemory cfg qfifoLen) : KissMemory cfg qfifoLen :=
  match state.rxPacket with
  | some frame => state.startTransfer frame.packet
  | none =>
      match bufferGet state.link.pool 0 with
      | (some packet, pool) =>
          { state with
            link := { state.link with pool }
            log := state.log ++ [.took packet.buf] : KissMemory cfg qfifoLen }.startTransfer packet
      | (none, pool) => { state with link := { state.link with pool }, rxMode := .skipFrame }

def KissMemory.store (state : KissMemory cfg qfifoLen) (byte : UInt8) : KissMemory cfg qfifoLen :=
  state.withPacket fun frame => { state with
    rxPacket := some (frame.write state.rxLength [byte])
    rxLength := state.rxLength + 1
    log := state.log ++ [.wrote frame.packet.buf state.rxLength (frame.frameBegin + state.rxLength)] }

/-- The queue takes the packet over, or its buffer is free again. -/
def KissMemory.handOver (state : KissMemory cfg qfifoLen) (packet : Packet) : KissMemory cfg qfifoLen :=
  { state with
    link := qfifoWrite state.link packet
    rxPacket := none
    rxMode := .notStarted
    others := match state.link.qfifo.enqueue (state.link.iface, packet) with
      | some _ => packet.buf :: state.others
      | none => state.others
    log := state.log ++ [.handed packet.buf] }

def KissMemory.accept (state : KissMemory cfg qfifoLen) (frame : Frame) : KissMemory cfg qfifoLen :=
  let frame := { frame with frameLength := UInt16.ofNat state.rxLength }
  match idStrip cfg frame with
  | none => { state with
      link := state.link.countRxError, rxPacket := some frame, rxMode := .notStarted }
  | some packet =>
      let state := { state with link := state.link.countFrame }
      match crc32Verify cfg packet with
      | (.none, packet) => state.handOver packet
      | (_, packet) => { state with
          link := state.link.countRxError, rxPacket := some { frame with packet }, rxMode := .notStarted }

/-- The two tests of the escaped mode stand one after the other. -/
def KissMemory.unescape (state : KissMemory cfg qfifoLen) (inputbyte : UInt8) : KissMemory cfg qfifoLen :=
  let state := if inputbyte = tfesc then state.store fesc else state
  let state := if inputbyte = tfend then state.store fend else state
  { state with rxMode := .started }

/-- The body of the loop of `csp_kiss_rx`. -/
def KissMemory.rxByte (state : KissMemory cfg qfifoLen) (inputbyte : UInt8) : KissMemory cfg qfifoLen :=
  let state := state.checkLength
  match state.rxMode with
  | .notStarted => if inputbyte ≠ fend then state else state.start
  | .started =>
      if inputbyte = fesc then { state with rxMode := .escaped }
      else if inputbyte = fend then if state.rxLength > 0 then state.withPacket state.accept else state
      else if state.rxFirst then { state with rxFirst := false }
      else state.store inputbyte
  | .escaped => state.unescape inputbyte
  | .skipFrame => if inputbyte = fend then { state with rxMode := .notStarted } else state

/-- This is `csp_kiss_rx`. -/
def KissMemory.rx (state : KissMemory cfg qfifoLen) (buf : List UInt8) : KissMemory cfg qfifoLen :=
  buf.foldl KissMemory.rxByte state

/-- This is `csp_kiss_add_interface`. -/
def KissMemory.addInterface (link : Link cfg qfifoLen) (others : List Nat) : KissMemory cfg qfifoLen :=
  let kiss := kissAddInterface link
  { link := kiss.link
    maxRxLength := kiss.maxRxLength
    rxMode := .notStarted
    rxLength := kiss.rxLength
    rxFirst := kiss.rxFirst
    rxPacket := none
    others
    log := [] }

/-! ## The receiver among the other code -/

/-- The receiver takes its bytes one by one. Between two of them other code uses the pool, the queue and
the counters. -/
inductive KissInput (cfg : Config) (qfifoLen : Nat) where
  | byte (inputbyte : UInt8)
  | get (size : Nat)
  | free (packet : Packet)
  | others (link : Link cfg qfifoLen)

/-- Other code holds what it gets until it frees it. -/
def KissMemory.otherGet (state : KissMemory cfg qfifoLen) (size : Nat) : KissMemory cfg qfifoLen :=
  let got := bufferGet state.link.pool size
  { state with
    link := { state.link with pool := got.2 }
    others := got.1.toList.map Packet.buf ++ state.others }

def KissMemory.otherFree (state : KissMemory cfg qfifoLen) (packet : Packet) : KissMemory cfg qfifoLen :=
  { state with link := state.link.free packet, others := state.others.erase packet.buf }

def KissMemory.step (state : KissMemory cfg qfifoLen) : KissInput cfg qfifoLen → KissMemory cfg qfifoLen
  | .byte inputbyte => state.rxByte inputbyte
  | .get size => state.otherGet size
  | .free packet => state.otherFree packet
  | .others link => { state with link := { link with pool := state.link.pool } }

/-- Other code frees the buffers that it holds, and no others. -/
def KissMemory.Permits (state : KissMemory cfg qfifoLen) : KissInput cfg qfifoLen → Prop
  | .free packet => packet.buf ∈ state.others
  | _ => True

/-- The receiver starts with `csp_kiss_add_interface`. -/
def kissMachine (cfg : Config) (qfifoLen : Nat) : Machine (KissMemory cfg qfifoLen) (KissInput cfg qfifoLen) where
  initial state := ∃ link others, link.pool.Accounts others ∧ state = KissMemory.addInterface link others
  step := KissMemory.step
  allowed := KissMemory.Permits

/-- One call is a run of its bytes. -/
theorem KissMemory.rx_trace (state : KissMemory cfg qfifoLen) (buf : List UInt8) :
    (kissMachine cfg qfifoLen).Allows state (buf.map .byte) ∧
      (kissMachine cfg qfifoLen).trace state (buf.map .byte) = state.rx buf := by
  induction buf generalizing state with
  | nil => exact ⟨trivial, rfl⟩
  | cons inputbyte rest ih => exact ⟨⟨trivial, (ih (state.rxByte inputbyte)).1⟩, (ih (state.rxByte inputbyte)).2⟩

/-- The machine takes a whole chunk at once as well. -/
theorem KissMemory.rx_reachable {state : KissMemory cfg qfifoLen}
    (reached : (kissMachine cfg qfifoLen).Reachable state) (buf : List UInt8) :
    (kissMachine cfg qfifoLen).Reachable (state.rx buf) := by
  obtain ⟨allowed, run⟩ := state.rx_trace buf
  rw [← run]
  exact reached.trace _ allowed

/-! ## Memory safety -/

/-- The receiver alone has the buffer. -/
structure KissMemory.Owns (state : KissMemory cfg qfifoLen) (buf : Nat) : Prop where
  notFree : buf ∉ state.link.pool.freeBufs
  notOthers : buf ∉ state.others
  counted : state.link.pool.refcount buf = 1

/-- The receiver can write to its packet in these modes. -/
def KissMemory.Active (state : KissMemory cfg qfifoLen) : Prop :=
  state.rxMode = .started ∨ state.rxMode = .escaped

/-- The accesses so far use no NULL pointer, stay within the header and the data, and spare the packets that
were handed over. A handed packet is the receiver's again when the pool has given it out anew. -/
structure KissLogSafe (cfg : Config) (log : List KissAccess) : Prop where
  pointer : .nullPointer ∉ log
  within : ∀ buf index place, .wrote buf index place ∈ log →
    index < cfg.bufferSize ∧ dataAt - idHeaderSize cfg ≤ place ∧ place < dataAt + cfg.bufferSize
  handedOff : ∀ buf, UsesOpen (fun access => ∃ index place, access = .wrote buf index place)
    (· = .handed buf) (· = .took buf) log

structure KissMemory.Safe (state : KissMemory cfg qfifoLen) : Prop where
  owner : state.Active → ∃ frame, state.rxPacket = some frame ∧ state.Owns frame.packet.buf
  max : state.maxRxLength = cfg.bufferSize
  accesses : KissLogSafe cfg state.log

/-- The receiver and the other code share the used buffers. A packet that the receiver keeps was not handed
over since the pool gave it out. -/
structure KissMemory.Sound (state : KissMemory cfg qfifoLen) : Prop where
  max : state.maxRxLength = cfg.bufferSize
  accounts : state.link.pool.Accounts ((state.rxPacket.map (·.packet.buf)).toList ++ state.others)
  active : state.Active → ∃ frame, state.rxPacket = some frame ∧ frame.frameBegin = dataAt - idHeaderSize cfg
  accesses : KissLogSafe cfg state.log
  way : ∀ frame, state.rxPacket = some frame →
    OpenAfter (· = .handed frame.packet.buf) (· = .took frame.packet.buf) state.log

theorem KissLogSafe.nil : KissLogSafe cfg [] where
  pointer := List.not_mem_nil
  within _ _ _ member := absurd member List.not_mem_nil
  handedOff _ := UsesOpen.nil

/-- An access that writes nothing is safe. -/
theorem KissLogSafe.concat {log : List KissAccess} (safe : KissLogSafe cfg log) {access : KissAccess}
    (pointer : access ≠ .nullPointer) (harmless : ∀ buf index place, access ≠ .wrote buf index place) :
    KissLogSafe cfg (log ++ [access]) where
  pointer member := by
    rcases List.mem_append.mp member with member | member
    · exact safe.pointer member
    · exact pointer (List.mem_singleton.mp member).symm
  within buf index place member := by
    rcases List.mem_append.mp member with member | member
    · exact safe.within buf index place member
    · exact absurd (List.mem_singleton.mp member).symm (harmless buf index place)
  handedOff buf := (safe.handedOff buf).concat fun ⟨index, place, wrote⟩ => absurd wrote (harmless buf index place)

/-- A byte within the area goes to a packet that was not handed over. -/
theorem KissLogSafe.wrote {log : List KissAccess} (safe : KissLogSafe cfg log) {buf index : Nat}
    (way : OpenAfter (· = .handed buf) (· = .took buf) log) (inside : index < cfg.bufferSize) :
    KissLogSafe cfg (log ++ [.wrote buf index (dataAt - idHeaderSize cfg + index)]) where
  pointer member := by
    rcases List.mem_append.mp member with member | member
    · exact safe.pointer member
    · cases List.mem_singleton.mp member
  within _ _ _ member := by
    rcases List.mem_append.mp member with member | member
    · exact safe.within _ _ _ member
    · cases List.mem_singleton.mp member
      omega
  handedOff other := by
    refine (safe.handedOff other).concat fun ⟨_, _, wrote⟩ => ?_
    cases wrote
    exact way

theorem KissMemory.Sound.owns {state : KissMemory cfg qfifoLen} (sound : state.Sound) {frame : Frame}
    (packet : state.rxPacket = some frame) : state.Owns frame.packet.buf := by
  have accounts := sound.accounts
  simp only [packet, Option.map_some, Option.toList_some, List.singleton_append] at accounts
  refine ⟨fun free => ?_, (List.nodup_cons.mp accounts.distinct.of_append_right).1,
    accounts.counted _ List.mem_cons_self⟩
  exact List.disjoint_of_nodup_append accounts.distinct free List.mem_cons_self

/-- A step that leaves the pool, the log and the pointer alone keeps the invariant, if it starts no transfer. -/
theorem KissMemory.Sound.keep {state after : KissMemory cfg qfifoLen} (sound : state.Sound)
    (max : after.maxRxLength = state.maxRxLength) (pool : after.link.pool = state.link.pool)
    (packet : after.rxPacket.map (·.packet.buf) = state.rxPacket.map (·.packet.buf))
    (others : after.others = state.others) (log : after.log = state.log)
    (active : after.Active → state.Active ∧ after.rxPacket = state.rxPacket) : after.Sound where
  max := max.trans sound.max
  accounts := by
    rw [pool, packet, others]
    exact sound.accounts
  active mode := by
    obtain ⟨before, same⟩ := active mode
    rw [same]
    exact sound.active before
  accesses := by
    rw [log]
    exact sound.accesses
  way frame same := by
    rw [same, Option.map_some] at packet
    obtain ⟨old, held, buf⟩ := Option.map_eq_some_iff.mp packet.symm
    rw [log, ← buf]
    exact sound.way old held

theorem KissMemory.Sound.checkLength {state : KissMemory cfg qfifoLen} (sound : state.Sound) :
    state.checkLength.Sound ∧ (state.checkLength.Active → state.checkLength.rxLength < cfg.bufferSize) := by
  unfold KissMemory.checkLength
  split
  · exact ⟨sound.keep rfl rfl rfl rfl rfl fun active => by simp [KissMemory.Active] at active,
      fun active => by simp [KissMemory.Active] at active⟩
  · rename_i short
    rw [sound.max] at short
    exact ⟨sound, fun _ => by omega⟩

/-- The receiver sets its packet up for a transfer. -/
theorem KissMemory.Sound.startTransfer {state : KissMemory cfg qfifoLen} {packet : Packet}
    (max : state.maxRxLength = cfg.bufferSize) (accounts : state.link.pool.Accounts (packet.buf :: state.others))
    (accesses : KissLogSafe cfg state.log)
    (way : OpenAfter (· = .handed packet.buf) (· = .took packet.buf) state.log) :
    (state.startTransfer packet).Sound := by
  unfold KissMemory.startTransfer
  rw [idSetupRx_eq]
  refine ⟨max, accounts, fun _ => ⟨_, rfl, rfl⟩, accesses, fun frame same => ?_⟩
  cases same
  exact way

theorem KissMemory.Sound.start {state : KissMemory cfg qfifoLen} (sound : state.Sound) : state.start.Sound := by
  unfold KissMemory.start
  have accounts := sound.accounts
  cases packet : state.rxPacket with
  | some frame =>
      rw [packet] at accounts
      exact .startTransfer sound.max accounts sound.accesses (sound.way frame packet)
  | none =>
      rw [packet] at accounts
      rcases bufferGet_cases state.link.pool 0 with ⟨failed, -⟩ | ⟨head, rest, -, -, taken⟩
      · simp only [failed]
        exact sound.keep rfl rfl (by rw [packet]) rfl rfl fun active => by simp [KissMemory.Active] at active
      · simp only [taken]
        refine .startTransfer sound.max (bufferGet_accounts accounts taken).2
          (sound.accesses.concat (by simp) (by simp)) (.opened rfl (by simp))

/-- A byte is stored within the area, as the length was checked. -/
theorem KissMemory.Sound.store {state : KissMemory cfg qfifoLen} (sound : state.Sound) (active : state.Active)
    (short : state.rxLength < cfg.bufferSize) (byte : UInt8) :
    (state.store byte).Sound ∧ (state.store byte).Active := by
  obtain ⟨frame, packet, begins⟩ := sound.active active
  have accounts := sound.accounts
  rw [packet] at accounts
  simp only [KissMemory.store, KissMemory.withPacket, packet, begins]
  refine ⟨⟨sound.max, accounts, fun _ => ⟨_, rfl, begins⟩, ?_, fun written same => ?_⟩, active⟩
  · exact sound.accesses.wrote (sound.way frame packet) short
  · cases same
    exact (sound.way frame packet).concat (by simp)

theorem idStrip_buf {frame : Frame} {packet : Packet} (strips : idStrip cfg frame = some packet) :
    packet.buf = frame.packet.buf := by
  rw [idStrip_eq, stripHeader] at strips
  split at strips
  · cases strips
  · cases strips
    rfl

theorem crc32Verify_buf (cfg : Config) (packet : Packet) : (crc32Verify cfg packet).2.buf = packet.buf := by
  have prepended : (idPrepend cfg packet).packet.buf = packet.buf := by
    rw [idPrepend_eq]
    rfl
  simp only [crc32Verify]
  split
  · rfl
  · split
    · exact prepended
    · split
      · exact prepended
      · exact prepended

/-- The queue or the pool takes the packet of the receiver. -/
theorem KissMemory.Sound.handOver {state : KissMemory cfg qfifoLen} (sound : state.Sound) {packet : Packet}
    (held : state.rxPacket.map (·.packet.buf) = some packet.buf) : (state.handOver packet).Sound := by
  have accounts := sound.accounts
  rw [held, Option.toList_some, List.singleton_append] at accounts
  refine ⟨sound.max, ?_, fun active => by simp [KissMemory.Active, KissMemory.handOver] at active,
    sound.accesses.concat (by simp) (by simp), fun _ none => by cases none⟩
  simp only [KissMemory.handOver, qfifoWrite]
  cases state.link.qfifo.enqueue (state.link.iface, packet) with
  | some qfifo => exact accounts
  | none => exact (bufferFree_accounts accounts).1

/-- The end of a frame hands its packet over or keeps it for the next frame. -/
theorem KissMemory.Sound.accept {state : KissMemory cfg qfifoLen} (sound : state.Sound) {frame : Frame}
    (held : state.rxPacket = some frame) : (state.accept frame).Sound := by
  have buf : state.rxPacket.map (·.packet.buf) = some frame.packet.buf := by rw [held, Option.map_some]
  simp only [KissMemory.accept]
  cases strips : idStrip cfg { frame with frameLength := UInt16.ofNat state.rxLength } with
  | none => exact sound.keep rfl rfl buf.symm rfl rfl fun active => by simp [KissMemory.Active] at active
  | some packet =>
      have same := idStrip_buf strips
      have verified := crc32Verify_buf cfg packet
      have counted : { state with link := state.link.countFrame : KissMemory cfg qfifoLen }.Sound :=
        sound.keep rfl rfl rfl rfl rfl fun active => ⟨active, rfl⟩
      obtain ⟨⟨result, checked⟩, verdict⟩ : ∃ verdict, crc32Verify cfg packet = verdict := ⟨_, rfl⟩
      rw [verdict, same] at verified
      have kept : some checked.buf = state.rxPacket.map (·.packet.buf) := by rw [buf, ← verified]
      cases result with
      | none =>
          simp only [verdict]
          exact counted.handOver kept.symm
      | _ =>
          simp only [verdict]
          exact sound.keep rfl rfl kept rfl rfl fun active => by simp [KissMemory.Active] at active

/-- Only one of the two tests of the escaped mode succeeds. -/
theorem KissMemory.Sound.unescape {state : KissMemory cfg qfifoLen} (sound : state.Sound) (active : state.Active)
    (short : state.rxLength < cfg.bufferSize) (inputbyte : UInt8) : (state.unescape inputbyte).Sound := by
  have back : ∀ {state : KissMemory cfg qfifoLen}, state.Sound → state.Active →
      { state with rxMode := .started : KissMemory cfg qfifoLen }.Sound :=
    fun sound active => sound.keep rfl rfl rfl rfl rfl fun _ => ⟨active, rfl⟩
  by_cases escape : inputbyte = tfesc
  · obtain ⟨stored, active⟩ := sound.store active short fesc
    have notEnd : ¬inputbyte = tfend := by
      rw [escape]
      decide
    simp only [KissMemory.unescape, if_pos escape, if_neg notEnd]
    exact back stored active
  · by_cases ends : inputbyte = tfend
    · obtain ⟨stored, active⟩ := sound.store active short fend
      simp only [KissMemory.unescape, if_neg escape, if_pos ends]
      exact back stored active
    · simp only [KissMemory.unescape, if_neg escape, if_neg ends]
      exact back sound active

/-- Each byte keeps the invariant, whatever the mode, the length and the pool. -/
theorem KissMemory.Sound.rxByte {state : KissMemory cfg qfifoLen} (sound : state.Sound) (inputbyte : UInt8) :
    (state.rxByte inputbyte).Sound := by
  obtain ⟨sound, short⟩ := sound.checkLength
  unfold KissMemory.rxByte
  generalize state.checkLength = state at sound short
  cases mode : state.rxMode with
  | notStarted =>
      simp only [mode]
      split
      · exact sound
      · exact sound.start
  | started =>
      have active : state.Active := .inl mode
      simp only [mode]
      split
      · exact sound.keep rfl rfl rfl rfl rfl fun _ => ⟨active, rfl⟩
      · split
        · split
          · obtain ⟨frame, held, -⟩ := sound.active active
            simp only [KissMemory.withPacket, held]
            exact sound.accept held
          · exact sound
        · split
          · exact sound.keep rfl rfl rfl rfl rfl fun _ => ⟨active, rfl⟩
          · exact (sound.store active (short active) inputbyte).1
  | escaped =>
      have active : state.Active := .inr mode
      simp only [mode]
      exact sound.unescape active (short active) inputbyte
  | skipFrame =>
      simp only [mode]
      split
      · exact sound.keep rfl rfl rfl rfl rfl fun active => by simp [KissMemory.Active] at active
      · exact sound

/-- The other code keeps the invariant as it frees only what it holds. -/
theorem KissMemory.Sound.step {state : KissMemory cfg qfifoLen} (sound : state.Sound) (input : KissInput cfg qfifoLen)
    (permitted : state.Permits input) : (state.step input).Sound := by
  have accounts := sound.accounts
  cases input with
  | byte inputbyte => exact sound.rxByte inputbyte
  | get size =>
      refine ⟨sound.max, ?_, sound.active, sound.accesses, sound.way⟩
      simp only [KissMemory.step, KissMemory.otherGet]
      rcases bufferGet_cases state.link.pool size with ⟨failed, -⟩ | ⟨head, rest, -, -, taken⟩
      · rw [failed]
        exact accounts
      · have moved := (bufferGet_accounts accounts taken).2
        rw [taken]
        exact moved.perm List.perm_middle.symm
  | free packet =>
      refine ⟨sound.max, ?_, sound.active, sound.accesses, sound.way⟩
      have order := (List.perm_cons_erase permitted).append_left (state.rxPacket.map (·.packet.buf)).toList
      exact (bufferFree_accounts (accounts.perm (order.trans List.perm_middle))).1
  | others link => exact sound.keep rfl rfl rfl rfl rfl fun active => ⟨active, rfl⟩

/-- The receiver owns its packet whenever it can write to it, writes only within the header and the data, and
never writes to a packet that it has handed over. -/
theorem kissRx_memorySafe {state : KissMemory cfg qfifoLen} (reached : (kissMachine cfg qfifoLen).Reachable state) :
    state.Safe := by
  have sound : state.Sound := by
    refine reached.invariant ?_ (fun _ input sound permitted => sound.step input permitted)
    rintro _ ⟨link, others, accounts, rfl⟩
    refine ⟨rfl, ?_, fun active => ?_, .nil, fun _ none => by cases none⟩
    · simp only [KissMemory.addInterface, kissAddInterface]
      split
      · exact accounts
      · exact accounts
    · simp [KissMemory.Active, KissMemory.addInterface] at active
  refine ⟨fun active => ?_, sound.max, sound.accesses⟩
  obtain ⟨frame, held, -⟩ := sound.active active
  exact ⟨frame, held, sound.owns held⟩

theorem bufferInit_accounts (cfg : Config) (content : Nat → Packet) : (bufferInit cfg content).Accounts [] := by
  have bufs : (bufferInit cfg content).freeBufs ++ [] = List.range cfg.bufferCount := by
    simp [bufferInit, Pool.freeBufs, Function.comp_def]
  refine ⟨?_, ?_, fun _ none => absurd none List.not_mem_nil⟩
  · rw [bufs]
    exact List.nodup_range
  · rw [bufs]
    exact fun buf member => List.mem_range.mp member

/-- The receiver takes a packet, stores two bytes in it, and gives up the frame as it has no header. -/
theorem storedByte_safe :
    ((KissMemory.addInterface addedKiss.link []).rx [fend, tncData, 7, fesc, tfend, fend]).Safe :=
  kissRx_memorySafe (KissMemory.rx_reachable (.start ⟨addedKiss.link, [], bufferInit_accounts _ _, rfl⟩) _)

/-! ## The typed receiver -/

/-- The value of `rx_mode`. -/
def KissMode.rxMode : KissMode → KissRxMode
  | .notStarted _ => .notStarted
  | .started _ => .started
  | .escaped _ => .escaped
  | .skipFrame => .skipFrame

/-- The fields of the receiver whose mode carries its packet. -/
def Kiss.fields (kiss : Kiss cfg qfifoLen) (others : List Nat) (log : List KissAccess) : KissMemory cfg qfifoLen where
  link := kiss.link
  maxRxLength := kiss.maxRxLength
  rxMode := kiss.rxMode.rxMode
  rxLength := kiss.rxLength
  rxFirst := kiss.rxFirst
  rxPacket := kiss.rxMode.rxPacket
  others
  log

/-- The pointer behaves as the mode says. -/
def KissMemory.Refines (state : KissMemory cfg qfifoLen) (kiss : Kiss cfg qfifoLen) : Prop :=
  ∃ others log, state = kiss.fields others log

theorem Kiss.checkLength_fields (kiss : Kiss cfg qfifoLen) (others : List Nat) (log : List KissAccess) :
    (kiss.fields others log).checkLength = kiss.checkLength.fields others log := by
  unfold KissMemory.checkLength Kiss.checkLength
  by_cases long : kiss.rxLength ≥ kiss.maxRxLength
  · rw [if_pos long]
    exact if_pos long
  · rw [if_neg long]
    exact if_neg long

theorem Kiss.start_refined (kiss : Kiss cfg qfifoLen) (rxPacket : Option Frame)
    (mode : kiss.rxMode = .notStarted rxPacket) (others : List Nat) (log : List KissAccess) :
    (kiss.fields others log).start.Refines (kiss.start rxPacket) := by
  have pointer : (kiss.fields others log).rxPacket = rxPacket := by
    rw [Kiss.fields, mode]
    rfl
  simp only [KissMemory.start, pointer, Kiss.start]
  cases rxPacket with
  | some frame => exact ⟨others, log, rfl⟩
  | none =>
      have pool : (kiss.fields others log).link.pool = kiss.link.pool := rfl
      rw [pool]
      obtain ⟨packet, rest⟩ := bufferGet kiss.link.pool 0
      cases packet with
      | some packet => exact ⟨others, log ++ [.took packet.buf], rfl⟩
      | none => exact ⟨others, log, by simp only [Kiss.fields, mode]; rfl⟩

theorem Kiss.store_refined (kiss : Kiss cfg qfifoLen) (frame : Frame) (packet : kiss.rxMode.rxPacket = some frame)
    (byte : UInt8) (others : List Nat) (log : List KissAccess) :
    { (kiss.fields others log).store byte with rxMode := .started : KissMemory cfg qfifoLen }.Refines
      (kiss.store frame byte) := by
  simp only [KissMemory.store, KissMemory.withPacket, Kiss.fields, packet]
  exact ⟨_, _, rfl⟩

theorem Kiss.accept_refined (kiss : Kiss cfg qfifoLen) (frame : Frame) (others : List Nat) (log : List KissAccess) :
    ((kiss.fields others log).accept frame).Refines (kiss.accept frame) := by
  have length : (kiss.fields others log).rxLength = kiss.rxLength := rfl
  simp only [KissMemory.accept, Kiss.accept, length]
  cases idStrip cfg { frame with frameLength := UInt16.ofNat kiss.rxLength } with
  | none => exact ⟨others, log, rfl⟩
  | some packet =>
      dsimp only
      obtain ⟨result, checked⟩ := crc32Verify cfg packet
      cases result with
      | none => exact ⟨_, _, rfl⟩
      | _ => exact ⟨others, log, rfl⟩

/-- Each byte moves the two receivers to the same fields. -/
theorem KissMemory.Refines.rxByte {state : KissMemory cfg qfifoLen} {kiss : Kiss cfg qfifoLen}
    (refines : state.Refines kiss) (inputbyte : UInt8) : (state.rxByte inputbyte).Refines (kissRxByte kiss inputbyte) := by
  obtain ⟨others, log, rfl⟩ := refines
  unfold KissMemory.rxByte kissRxByte
  rw [kiss.checkLength_fields]
  generalize kiss.checkLength = kiss
  have same : (kiss.fields others log).rxMode = kiss.rxMode.rxMode := rfl
  cases mode : kiss.rxMode with
  | notStarted packet =>
      simp only [same, mode, KissMode.rxMode]
      split
      · exact ⟨others, log, rfl⟩
      · exact kiss.start_refined packet mode others log
  | started frame =>
      have packet : kiss.rxMode.rxPacket = some frame := by rw [mode, KissMode.rxPacket]
      have pointer : (kiss.fields others log).rxPacket = some frame := packet
      simp only [same, mode, KissMode.rxMode]
      split
      · exact ⟨others, log, by simp only [Kiss.fields, packet]; rfl⟩
      · split
        · have length : (kiss.fields others log).rxLength = kiss.rxLength := rfl
          rw [length]
          split
          · simp only [KissMemory.withPacket, pointer]
            exact kiss.accept_refined frame others log
          · exact ⟨others, log, rfl⟩
        · have first : (kiss.fields others log).rxFirst = kiss.rxFirst := rfl
          rw [first]
          split
          · exact ⟨others, log, by simp only [Kiss.fields, mode, KissMode.rxMode]⟩
          · have stored := kiss.store_refined frame packet inputbyte others log
            have stays : { (kiss.fields others log).store inputbyte with rxMode := .started } =
                (kiss.fields others log).store inputbyte := by
              simp only [KissMemory.store, KissMemory.withPacket, pointer, same, mode, KissMode.rxMode]
            rwa [stays] at stored
  | escaped frame =>
      have packet : kiss.rxMode.rxPacket = some frame := by rw [mode, KissMode.rxPacket]
      simp only [same, mode, KissMode.rxMode]
      by_cases escape : inputbyte = tfesc
      · have notEnd : ¬inputbyte = tfend := by
          rw [escape]
          decide
        simp only [KissMemory.unescape, if_pos escape, if_neg notEnd]
        exact kiss.store_refined frame packet fesc others log
      · by_cases ends : inputbyte = tfend
        · simp only [KissMemory.unescape, if_neg escape, if_pos ends]
          exact kiss.store_refined frame packet fend others log
        · simp only [KissMemory.unescape, if_neg escape, if_neg ends]
          exact ⟨others, log, by simp only [Kiss.fields, packet]; rfl⟩
  | skipFrame =>
      simp only [same, mode, KissMode.rxMode]
      split
      · exact ⟨others, log, by simp only [Kiss.fields, mode]; rfl⟩
      · exact ⟨others, log, rfl⟩

/-- The receiver with its pointer is always a receiver whose mode carries its packet. -/
theorem kissMachine_refines {state : KissMemory cfg qfifoLen} (reached : (kissMachine cfg qfifoLen).Reachable state) :
    ∃ kiss : Kiss cfg qfifoLen, kiss.Reachable ∧ state.Refines kiss := by
  refine @Machine.Reachable.invariant _ _ _ (fun state => ∃ kiss, kiss.Reachable ∧ state.Refines kiss) ?_ ?_ _ reached
  · rintro _ ⟨link, others, -, rfl⟩
    exact ⟨kissAddInterface link, .added link, others, [], rfl⟩
  · rintro state input ⟨kiss, reachable, refines⟩ -
    cases input with
    | byte inputbyte => exact ⟨_, reachable.received [inputbyte], refines.rxByte inputbyte⟩
    | get size =>
        obtain ⟨others, log, rfl⟩ := refines
        exact ⟨_, reachable.others { kiss.link with pool := (bufferGet kiss.link.pool size).2 }, _, log, rfl⟩
    | free packet =>
        obtain ⟨others, log, rfl⟩ := refines
        exact ⟨_, reachable.others (kiss.link.free packet), _, log, rfl⟩
    | others link =>
        obtain ⟨others, log, rfl⟩ := refines
        exact ⟨_, reachable.others { link with pool := kiss.link.pool }, others, log, rfl⟩

end Libcsp

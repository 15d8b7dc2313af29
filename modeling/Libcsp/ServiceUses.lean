/-
This file follows the packet through csp_service_handler: which calls free it and which calls reply with it.
-/
import Libcsp.ConnlessSend

namespace Libcsp

variable {cfg : Config} {size : Nat}

/-- A call that takes the packet over. -/
inductive PacketUse where
  | freed (buf : Nat)
  | replied (buf : Nat)
  deriving DecidableEq, Repr

/-- A host with the history of the calls that take packets over. -/
structure UseLog (cfg : Config) (size : Nat) where
  host : Host cfg size
  uses : List PacketUse

namespace UseLog

def free (log : UseLog cfg size) (packet : Packet) : UseLog cfg size :=
  ⟨log.host.free packet, log.uses ++ [.freed packet.buf]⟩

def reply (log : UseLog cfg size) (packet : Packet) : UseLog cfg size :=
  ⟨log.host.reply packet, log.uses ++ [.replied packet.buf]⟩

end UseLog

/-- This is `csp_service_handler` with the history. -/
def serviceHandlerLog (platform : Platform) (log : UseLog cfg size) (packet : Packet) : Option (UseLog cfg size) :=
  match Service.ofPort packet.id.dport with
  | some .cmp => do
      let (ret, packet, host) ← cmpHandler platform log.host packet
      if ret ≠ .none then some (UseLog.free { log with host } packet)
      else some (UseLog.reply { log with host } packet)
  | some .ping => some (log.reply packet)
  | some .ps =>
      let (length, mem) := platform.psHook packet
      let packet := { packet with length := length.toUInt16, mem }
      let log := if packet.length = 0 then log.free packet else log
      some (log.reply packet)
  | some .memfree => some (log.reply (packet.answer platform.memfreeHook))
  | some .reboot =>
      let host := { log.host with actions := log.host.actions ++ rebootActions (packet.be32At 0) }
      some (UseLog.free { log with host } packet)
  | some .bufFree => some (log.reply (packet.answer (UInt32.ofNat log.host.io.pool.remaining)))
  | some .uptime => some (log.reply (packet.answer platform.getS))
  | none => some (log.free packet)

/-- The history does not change what the handler does. -/
theorem serviceHandlerLog_host (platform : Platform) (log : UseLog cfg size) (packet : Packet) :
    (serviceHandlerLog platform log packet).map UseLog.host = serviceHandler platform log.host packet := by
  unfold serviceHandlerLog serviceHandler
  generalize Service.ofPort packet.id.dport = service
  obtain _ | service := service
  · rfl
  · cases service with
    | cmp =>
        cases cmpHandler platform log.host packet with
        | none => rfl
        | some result =>
            obtain ⟨ret, reply, host⟩ := result
            by_cases failed : ret ≠ .none
            · simp only [Option.bind_eq_bind, Option.bind_some, if_pos failed]
              rfl
            · simp only [Option.bind_eq_bind, Option.bind_some, if_neg failed]
              rfl
    | ps =>
        simp only [Option.map_some, Option.some.injEq]
        split <;> rfl
    | ping => rfl
    | memfree => rfl
    | reboot => rfl
    | bufFree => rfl
    | uptime => rfl

/-- The handler frees the packet once, or it replies with the packet once. -/
def UsesOnce (packet : Packet) (uses : List PacketUse) : Prop :=
  uses = [.freed packet.buf] ∨ uses = [.replied packet.buf]

instance (packet : Packet) (uses : List PacketUse) : Decidable (UsesOnce packet uses) :=
  inferInstanceAs (Decidable (_ ∨ _))

/-- The process service answers with nothing. -/
def AnswersNothing (platform : Platform) (packet : Packet) : Prop :=
  Service.ofPort packet.id.dport = some .ps ∧ (platform.psHook packet).1.toUInt16 = 0

instance (platform : Platform) (packet : Packet) : Decidable (AnswersNothing platform packet) :=
  inferInstanceAs (Decidable (_ ∧ _))

theorem serviceHandlerLog_empty {platform : Platform} {packet : Packet} (host : Host cfg size)
    (empty : AnswersNothing platform packet) : ∃ after, serviceHandlerLog platform ⟨host, []⟩ packet =
      some ⟨after, [.freed packet.buf, .replied packet.buf]⟩ := by
  obtain ⟨service, length⟩ := empty
  rw [serviceHandlerLog, service]
  simp only [if_pos length]
  exact ⟨_, rfl⟩

theorem serviceHandlerLog_once {platform : Platform} {packet : Packet} {host : Host cfg size}
    {log : UseLog cfg size} (answers : ¬AnswersNothing platform packet)
    (returned : serviceHandlerLog platform ⟨host, []⟩ packet = some log) : UsesOnce packet log.uses := by
  unfold serviceHandlerLog at returned
  generalize known : Service.ofPort packet.id.dport = service at returned
  obtain _ | service := service
  · cases returned
    exact .inl rfl
  · cases service with
    | cmp =>
        obtain ⟨⟨ret, reply, after⟩, called, last⟩ := Option.bind_eq_some_iff.mp returned
        obtain ⟨_, _, buf, _⟩ := cmpHandler_result called
        rw [UsesOnce, ← buf]
        simp only at last
        split at last
        · cases last
          exact .inl rfl
        · cases last
          exact .inr rfl
    | ps =>
        simp only [Option.some.injEq] at returned
        rw [if_neg fun empty => answers ⟨known, empty⟩] at returned
        cases returned
        exact .inr rfl
    | reboot =>
        cases returned
        exact .inl rfl
    | ping =>
        cases returned
        exact .inr rfl
    | memfree =>
        cases returned
        exact .inr rfl
    | bufFree =>
        cases returned
        exact .inr rfl
    | uptime =>
        cases returned
        exact .inr rfl

/-- The handler uses its packet once exactly when it is not the process service with an empty answer. -/
theorem serviceHandler_usesOnce_iff (platform : Platform) (host : Host cfg size) (packet : Packet) :
    (∀ log, serviceHandlerLog platform ⟨host, []⟩ packet = some log →
      serviceHandler platform host packet = some log.host ∧ UsesOnce packet log.uses) ↔
      ¬AnswersNothing platform packet := by
  constructor
  · intro once empty
    obtain ⟨after, returned⟩ := serviceHandlerLog_empty host empty
    obtain ⟨_, uses⟩ := once _ returned
    rcases uses with uses | uses <;> cases uses
  · intro answers log returned
    refine ⟨?_, serviceHandlerLog_once answers returned⟩
    rw [← serviceHandlerLog_host platform ⟨host, []⟩ packet, returned]
    rfl

/-- A node whose only route leads to an interface that keeps its packets. One buffer is in use. -/
def psHost : Host {} 1 :=
  { idleHost with
    io := { Io.init {} (fun _ => default) [{ addr := 9, netmask := 0, mtu := 0, nexthop := fun _ => .keeps }] [] with
      pool := (bufferGet (bufferInit {} fun _ => default) 4).2 }
    rtable := ⟨[{ iface := some 1 }], rfl, 1⟩ }

def psRequest : Packet := { (default : Packet) with id := { (default : CspId) with src := 5, dport := 2 } }

/-- With a hook that returns 0 the interface gets a buffer that is on the free list. -/
theorem psRequest_usedTwice :
    (serviceHandlerLog {} ⟨psHost, []⟩ psRequest).any (fun log =>
      decide (¬UsesOnce psRequest log.uses) && decide (log.uses = [.freed 0, .replied 0]) &&
        decide (0 ∈ log.host.io.pool.freeBufs) && decide (0 ∈ log.host.io.kept.map Packet.buf)) = true := by
  decide +kernel

end Libcsp

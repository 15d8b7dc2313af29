/-
This file compares csp_read and csp_send with their instrumented versions, which contain mutation probes.
-/
import Libcsp.RdpUser

namespace Libcsp

variable {cfg : Config}

/-! ## The functions behind their probes -/

/-- A call has a return value, a connection argument that may be NULL, and the static data. The
result `none` is an access through a NULL connection. -/
abbrev CallResult (cfg : Config) (Value : Type) := Option (Value × Option (Conn cfg) × Stack cfg)

/-- This is `csp_read` without its probe, for any connection argument. -/
def readUnprobed (conn : Option (Conn cfg)) (stack : Stack cfg) : CallResult cfg (Option Packet) :=
  match conn with
  | none => some (none, none, stack)
  | some conn =>
      let (packet, ctx) := cspRead ⟨conn, stack⟩
      some (packet, some ctx.conn, ctx.stack)

/-- This is `csp_send` without its probe, for any connection argument. -/
def sendUnprobed (conn : Option (Conn cfg)) (packet : Option Packet) (stack : Stack cfg) :
    CallResult cfg Unit :=
  match packet, conn with
  | none, conn => some ((), conn, stack)
  | some packet, none => some ((), none, stack.free packet)
  | some packet, some conn =>
      let ctx := cspSend ⟨conn, stack⟩ (some packet)
      some ((), some ctx.conn, ctx.stack)

/-! ## The probes -/

/-- The array of a probe. Its first element is always zero. -/
abbrev ProbeBuffer := Nat → Int

def probeLoad (id : CspId) : ProbeBuffer
  | 1 => id.pri.toNat
  | 2 => id.src.toNat
  | 3 => id.dst.toNat
  | 4 => id.dport.toNat
  | 5 => id.sport.toNat
  | 6 => id.flags.toNat
  | _ => 0

/-- The assignments back to the header fields narrow each `int`. -/
def probeStore (buffer : ProbeBuffer) : CspId where
  pri := UInt8.ofInt (buffer 1)
  src := UInt16.ofInt (buffer 2)
  dst := UInt16.ofInt (buffer 3)
  dport := UInt8.ofInt (buffer 4)
  sport := UInt8.ofInt (buffer 5)
  flags := UInt8.ofInt (buffer 6)

/-- This is `_FAQAS_mutate`, which returns early for the option -1. The rest of its body is the
parameter `operate`. -/
def faqasMutate (operate : Int → ProbeBuffer → ProbeBuffer) (mutation : Int) (data : ProbeBuffer) :
    ProbeBuffer :=
  if mutation = -1 then data else operate mutation data

/-- One probe mutates a copy of the header and writes it back. -/
def probe (operate : Int → ProbeBuffer → ProbeBuffer) (mutation : Int) (id : CspId) : CspId :=
  probeStore (faqasMutate operate mutation (probeLoad id))

/-- This is `csp_read`. The probe reads `conn->idin` before the function checks its arguments. -/
def readProbed (operate : Int → ProbeBuffer → ProbeBuffer) (mutation : Int)
    (conn : Option (Conn cfg)) (stack : Stack cfg) : CallResult cfg (Option Packet) :=
  match conn with
  | none => none
  | some conn => readUnprobed (some { conn with idin := probe operate mutation conn.idin }) stack

/-- This is `csp_send`. The probe reads `conn->idout` before the function checks its arguments. -/
def sendProbed (operate : Int → ProbeBuffer → ProbeBuffer) (mutation : Int)
    (conn : Option (Conn cfg)) (packet : Option Packet) (stack : Stack cfg) : CallResult cfg Unit :=
  match conn with
  | none => none
  | some conn =>
      sendUnprobed (some { conn with idout := probe operate mutation conn.idout }) packet stack

/-! ## The inactive probe -/

theorem ofInt_toNat8 (value : UInt8) : UInt8.ofInt (value.toNat : Int) = value := by
  have bound := value.toNat_lt
  have same : ((value.toNat : Int) % 2 ^ 8).toNat = value.toNat := by omega
  rw [UInt8.ofInt, same, UInt8.ofNat_toNat]

theorem ofInt_toNat16 (value : UInt16) : UInt16.ofInt (value.toNat : Int) = value := by
  have bound := value.toNat_lt
  have same : ((value.toNat : Int) % 2 ^ 16).toNat = value.toNat := by omega
  rw [UInt16.ofInt, same, UInt16.ofNat_toNat]

/-- Each header field survives the way through the array. -/
theorem probeStore_load (id : CspId) : probeStore (probeLoad id) = id := by
  simp only [probeStore, probeLoad, ofInt_toNat8, ofInt_toNat16]

theorem probe_inactive (operate : Int → ProbeBuffer → ProbeBuffer) (id : CspId) :
    probe operate (-1) id = id := by
  rw [probe, faqasMutate, if_pos rfl, probeStore_load]

/-- The inactive probes change nothing exactly when the connection is not NULL. -/
theorem probes_transparent_iff (operate : Int → ProbeBuffer → ProbeBuffer) (conn : Option (Conn cfg))
    (packet : Option Packet) (stack : Stack cfg) :
    (readProbed operate (-1) conn stack = readUnprobed conn stack ↔ conn ≠ none) ∧
      (sendProbed operate (-1) conn packet stack = sendUnprobed conn packet stack ↔
        conn ≠ none) := by
  cases conn with
  | none => cases packet <;> simp [readProbed, readUnprobed, sendProbed, sendUnprobed]
  | some conn => simp only [readProbed, sendProbed, probe_inactive, ne_eq, reduceCtorEq,
      not_false_eq_true, and_self]

/-- An idle node. -/
def idleStack : Stack {} := Stack.init (Io.init {} (fun _ => default) [] [])

/-- Without the probes a NULL connection returns NULL and frees the packet. The probes access it. -/
theorem nullConn_accessed :
    (readUnprobed (none : Option (Conn {})) idleStack).isSome = true ∧
      readProbed (fun _ data => data) (-1) (none : Option (Conn {})) idleStack = none ∧
      (sendUnprobed (none : Option (Conn {})) (some default) idleStack).isSome = true ∧
      sendProbed (fun _ data => data) (-1) (none : Option (Conn {})) (some default) idleStack = none :=
  ⟨rfl, rfl, rfl, rfl⟩

end Libcsp

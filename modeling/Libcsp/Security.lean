/-
This file models what csp_route_work checks in a packet: the trailers, the options, and duplicates.
-/
import Libcsp.Header
import Libcsp.Stack

namespace Libcsp

variable {cfg : Config}

def cspSoRdpReq : UInt32 := 0x0001
def cspSoHmacReq : UInt32 := 0x0004
def cspSoCrc32Req : UInt32 := 0x0040
def cspSoCrc32Prohib : UInt32 := 0x0080
def cspSoConnLess : UInt32 := 0x0100
def cspSoSame : UInt32 := 0x8000

def hasOpt (opts opt : UInt32) : Bool := opts &&& opt != 0

theorem hasOpt_or (first second opt : UInt32) :
    hasOpt (first ||| second) opt = (hasOpt first opt || hasOpt second opt) := by
  have none : (first ||| second) &&& opt = 0 ↔ first &&& opt = 0 ∧ second &&& opt = 0 := by
    rw [← UInt32.toBitVec_inj, ← UInt32.toBitVec_inj, ← UInt32.toBitVec_inj]
    simp only [UInt32.toBitVec_and, UInt32.toBitVec_or, BitVec.and_or_distrib_right]
    exact BitVec.or_eq_zero_iff
  rw [Bool.eq_iff_iff]
  simp only [hasOpt, bne_iff_ne, Bool.or_eq_true, ne_eq, none, not_and_or]

/-! ## Trailers -/

/-- The last four data bytes in network byte order. -/
def Packet.trailer (packet : Packet) : UInt32 :=
  be32 packet.mem (dataAt + packet.length.toNat - 4)

def Packet.dropTrailer (packet : Packet) : Packet := { packet with length := packet.length - 4 }

/-- This is `csp_crc32_verify`. It accepts a checksum with or without the header. -/
def crc32Verify (cfg : Config) (packet : Packet) : CspErr × Packet :=
  if packet.length < 4 then (.crc32, packet)
  else
    let frame := idPrepend cfg packet
    if frame.packet.trailer = cfg.crc32Memory frame.bytes then (.none, frame.packet.dropTrailer)
    else if frame.packet.trailer =
        cfg.crc32Memory (frame.packet.dataBytes (packet.length.toNat - 4)) then
      (.none, frame.packet.dropTrailer)
    else (.crc32, frame.packet)

/-- This is `csp_hmac_verify` without the header. -/
def hmacVerify (cfg : Config) (packet : Packet) : CspErr × Packet :=
  if packet.length < 4 then (.hmac, packet)
  else if packet.trailer = cfg.hmacMemory (packet.dataBytes (packet.length.toNat - 4)) then
    (.none, packet.dropTrailer)
  else (.hmac, packet)

/-! ## The security check -/

/-- A trailer is verified when the packet has it, and may be required. -/
def checkTrailer (verify : Packet → CspErr × Packet) (flag : UInt8) (required : Bool) (err : CspErr)
    (packet : Packet) : CspErr × Packet :=
  if packet.id.has flag then verify packet else if required then (err, packet) else (.none, packet)

/-- This is `csp_route_security_check`. -/
def routeSecurityCheck (cfg : Config) (securityOpts : UInt32) (packet : Packet) : CspErr × Packet :=
  match checkTrailer (crc32Verify cfg) cspFCrc32 (hasOpt securityOpts cspSoCrc32Req) .crc32 packet with
  | (.none, packet) =>
      match checkTrailer (hmacVerify cfg) cspFHmac (hasOpt securityOpts cspSoHmacReq) .hmac packet with
      | (.none, packet) =>
          if !packet.id.has cspFRdp && hasOpt securityOpts cspSoRdpReq then (.inval, packet)
          else (.none, packet)
      | failed => failed
  | failed => failed

/-! ## Duplicates -/

/-- The modes of `csp_conf.dedup`. -/
inductive DedupMode where
  | off
  | fwd
  | incoming
  | all
  deriving DecidableEq, Repr, Inhabited

def dedupCount : Nat := 16
def dedupWindowMs : UInt32 := 100

/-- The ring buffer of the last checksums. -/
structure Dedup where
  array : Nat → UInt32
  timestamp : Nat → UInt32
  next : Nat

instance : Inhabited Dedup := ⟨⟨fun _ => 0, fun _ => 0, 0⟩⟩

/-- This is `csp_dedup_is_duplicate`. It writes the header in front of the data. -/
def dedupIsDuplicate (cfg : Config) (now : UInt32) (dedup : Dedup) (packet : Packet) :
    Bool × Dedup × Packet :=
  let frame := idPrepend cfg packet
  let crc := cfg.crc32Memory frame.bytes
  if (List.range dedupCount).any fun index =>
      crc == dedup.array index && decide (now < dedup.timestamp index + dedupWindowMs) then
    (true, dedup, frame.packet)
  else
    (false,
      { array := Function.update dedup.array dedup.next crc
        timestamp := Function.update dedup.timestamp dedup.next now
        next := (dedup.next + 1) % dedupCount },
      frame.packet)

end Libcsp

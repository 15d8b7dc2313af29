/-
This file states what a packet has that passes csp_route_security_check, and what the check leaves of it.
-/
import Libcsp.Checksum
import Libcsp.RouterCases

namespace Libcsp

open BitField

variable {cfg : Config}

/-! ## The received bytes -/

/-- The header has the flags that the options require. -/
structure CspId.Carries (id : CspId) (opts : UInt32) : Prop where
  crc32 : hasOpt opts cspSoCrc32Req = true → id.has cspFCrc32 = true
  hmac : hasOpt opts cspSoHmacReq = true → id.has cspFHmac = true
  rdp : hasOpt opts cspSoRdpReq = true → id.has cspFRdp = true

/-- The checksum at the end is that of the whole frame, or that of the data in front of it. -/
def Packet.SumVerifies (cfg : Config) (packet : Packet) : Prop :=
  4 ≤ packet.length.toNat ∧
    (packet.trailer = cfg.crc32Memory (idPrepend cfg packet).bytes ∨
      packet.trailer = cfg.crc32Memory (packet.dataBytes (packet.length.toNat - 4)))

/-- The signature at the end is that of the data in front of it. -/
def Packet.SignatureVerifies (cfg : Config) (packet : Packet) : Prop :=
  4 ≤ packet.length.toNat ∧ packet.trailer = cfg.hmacMemory (packet.dataBytes (packet.length.toNat - 4))

/-- The checksum lies behind the signature. -/
def Packet.withoutSum (packet : Packet) : Packet :=
  if packet.id.has cspFCrc32 then packet.dropTrailer else packet

def Packet.withoutTrailers (packet : Packet) : Packet :=
  if packet.id.has cspFHmac then packet.withoutSum.dropTrailer else packet.withoutSum

/-- The packet has what the options require, and each trailer of it is right. -/
structure Packet.Secures (cfg : Config) (opts : UInt32) (packet : Packet) : Prop where
  carries : packet.id.Carries opts
  sum : packet.id.has cspFCrc32 = true → packet.SumVerifies cfg
  signature : packet.id.has cspFHmac = true → packet.withoutSum.SignatureVerifies cfg

/-- The trailers of a packet are right for all options. -/
theorem Packet.Secures.under {opts other : UInt32} {packet : Packet} (secures : packet.Secures cfg opts)
    (carries : packet.id.Carries other) : packet.Secures cfg other :=
  ⟨carries, secures.sum, secures.signature⟩

theorem Packet.withoutSum_id (packet : Packet) : packet.withoutSum.id = packet.id := by
  unfold Packet.withoutSum
  split
  · rfl
  · rfl

theorem Packet.withoutTrailers_id (packet : Packet) : packet.withoutTrailers.id = packet.id := by
  unfold Packet.withoutTrailers
  split
  · exact packet.withoutSum_id
  · exact packet.withoutSum_id

/-! ## Packets that look alike -/

theorem Packet.SameVisible.symm {first second : Packet} (same : first.SameVisible second) :
    second.SameVisible first where
  length := same.length.symm
  id := same.id.symm
  data index inside := (same.data index (same.length ▸ inside)).symm

theorem Packet.SameVisible.trans {first second third : Packet} (left : first.SameVisible second)
    (right : second.SameVisible third) : first.SameVisible third where
  length := left.length.trans right.length
  id := left.id.trans right.id
  data index inside := (left.data index inside).trans (right.data index (left.length ▸ inside))

theorem Packet.SameVisible.dropTrailer {first second : Packet} (same : first.SameVisible second)
    (long : 4 ≤ first.length.toNat) : first.dropTrailer.SameVisible second.dropTrailer where
  length := by rw [Packet.dropTrailer, Packet.dropTrailer, same.length]
  id := same.id
  data index inside := by
    have shorter : first.dropTrailer.length.toNat = first.length.toNat - 4 := by
      rw [Packet.dropTrailer, UInt16.toNat_sub_of_le _ _ (UInt16.le_iff_toNat_le.mpr (by simpa using long))]
      rfl
    exact same.data index (by omega)

theorem Packet.SameVisible.trailer {first second : Packet} (same : first.SameVisible second)
    (long : 4 ≤ first.length.toNat) : first.trailer = second.trailer :=
  Packet.trailer_of_payload same.payload long

theorem Packet.SameVisible.dataBytes {first second : Packet} (same : first.SameVisible second) {count : Nat}
    (inside : count ≤ first.length.toNat) : first.dataBytes count = second.dataBytes count :=
  Packet.dataBytes_of_payload same.payload inside

/-- The frame of a packet is its header and its data. -/
theorem Packet.SameVisible.frame {first second : Packet} (same : first.SameVisible second) (cfg : Config) :
    (idPrepend cfg first).bytes = (idPrepend cfg second).bytes := by
  have small := idHeaderSize_le cfg
  simp only [idPrepend_eq, Frame.bytes, Frame.take, prependHeader, same.length, same.id]
  apply List.map_congr_left
  intro index inside
  have inside := List.mem_range.mp inside
  by_cases header : index < idHeaderSize cfg
  · simp only [writeBytes, beBytes_length]
    rw [if_pos (by omega), if_pos (by omega)]
  · have data := same.data (index - idHeaderSize cfg) (by
      rw [same.length]
      rw [UInt16.toNat_add, toNat_ofNat16 (by omega)] at inside
      have := Nat.mod_le (second.length.toNat + idHeaderSize cfg) (2 ^ 16)
      omega)
    have place : dataAt + (index - idHeaderSize cfg) = dataAt - idHeaderSize cfg + index := by
      simp only [dataAt]
      omega
    simp only [writeBytes, beBytes_length]
    rw [if_neg (by simp only [dataAt]; omega), if_neg (by simp only [dataAt]; omega)]
    simpa only [Packet.data, place] using data

theorem Packet.SameVisible.sumVerifies {first second : Packet} (same : first.SameVisible second)
    (verifies : first.SumVerifies cfg) : second.SumVerifies cfg := by
  obtain ⟨long, matched⟩ := verifies
  rw [same.trailer long, same.frame cfg, same.dataBytes (Nat.sub_le _ _), same.length] at matched
  exact ⟨same.length ▸ long, matched⟩

theorem Packet.SameVisible.signatureVerifies {first second : Packet} (same : first.SameVisible second)
    (verifies : first.SignatureVerifies cfg) : second.SignatureVerifies cfg := by
  obtain ⟨long, matched⟩ := verifies
  rw [same.trailer long, same.dataBytes (Nat.sub_le _ _), same.length] at matched
  exact ⟨same.length ▸ long, matched⟩

/-- Packets that look alike pass for the same options. -/
theorem Packet.SameVisible.secures {first second : Packet} {opts : UInt32} (same : first.SameVisible second)
    (secures : first.Secures cfg opts) : second.Secures cfg opts where
  carries := same.id ▸ secures.carries
  sum flag := same.sumVerifies (secures.sum (same.id ▸ flag))
  signature flag := by
    refine Packet.SameVisible.signatureVerifies ?_ (secures.signature (same.id ▸ flag))
    simp only [Packet.withoutSum, same.id]
    split
    · rename_i summed
      exact same.dropTrailer (secures.sum (same.id ▸ summed)).1
    · exact same

theorem Packet.SameVisible.withoutSum {first second : Packet} {opts : UInt32} (same : first.SameVisible second)
    (secures : first.Secures cfg opts) : first.withoutSum.SameVisible second.withoutSum := by
  simp only [Packet.withoutSum, same.id]
  split
  · rename_i summed
    exact same.dropTrailer (secures.sum (same.id ▸ summed)).1
  · exact same

theorem Packet.SameVisible.withoutTrailers {first second : Packet} {opts : UInt32}
    (same : first.SameVisible second) (secures : first.Secures cfg opts) :
    first.withoutTrailers.SameVisible second.withoutTrailers := by
  have unsummed := same.withoutSum secures
  simp only [Packet.withoutTrailers, same.id]
  split
  · rename_i signed
    exact unsummed.dropTrailer (secures.signature (same.id ▸ signed)).1
  · exact unsummed

/-! ## The check -/

theorem crc32Verify_sums {packet verified : Packet} (passed : crc32Verify cfg packet = (.none, verified)) :
    packet.SumVerifies cfg ∧ verified.SameVisible packet.dropTrailer := by
  have visible := idPrepend_visible cfg packet
  simp only [crc32Verify] at passed
  split at passed
  · cases passed
  · rename_i short
    have long : 4 ≤ packet.length.toNat := by
      have long := UInt16.le_iff_toNat_le.mp (UInt16.not_lt.mp short)
      simpa using long
    have same := visible.symm
    have dropped := (same.dropTrailer long).symm
    rw [← same.trailer long, ← same.dataBytes (Nat.sub_le _ _)] at passed
    split at passed
    · rename_i whole
      cases passed
      exact ⟨⟨long, .inl whole⟩, dropped⟩
    · split at passed
      · rename_i data
        cases passed
        exact ⟨⟨long, .inr data⟩, dropped⟩
      · cases passed

theorem hmacVerify_signs {packet verified : Packet} (passed : hmacVerify cfg packet = (.none, verified)) :
    packet.SignatureVerifies cfg ∧ verified = packet.dropTrailer := by
  simp only [hmacVerify] at passed
  split at passed
  · cases passed
  · rename_i short
    have long : 4 ≤ packet.length.toNat := by
      have long := UInt16.le_iff_toNat_le.mp (UInt16.not_lt.mp short)
      simpa using long
    split at passed
    · rename_i matched
      cases passed
      exact ⟨⟨long, matched⟩, rfl⟩
    · cases passed

/-- A packet passes one check with its trailer, or without a trailer that nothing requires. -/
theorem checkTrailer_passes {verify : Packet → CspErr × Packet} {flag : UInt8} {required : Bool} {err : CspErr}
    {packet verified : Packet} (failure : err ≠ .none)
    (passed : checkTrailer verify flag required err packet = (.none, verified)) :
    packet.id.has flag = true ∧ verify packet = (.none, verified) ∨
      packet.id.has flag = false ∧ required = false ∧ verified = packet := by
  unfold checkTrailer at passed
  split at passed
  · rename_i flagged
    exact .inl ⟨flagged, passed⟩
  · rename_i plain
    split at passed
    · exact absurd (congrArg Prod.fst passed) failure
    · rename_i free
      cases passed
      exact .inr ⟨Bool.eq_false_iff.mpr plain, Bool.eq_false_iff.mpr free, rfl⟩

/-- The first of the three checks. -/
theorem checkSum_passes {opts : UInt32} {packet summed : Packet}
    (passed : checkTrailer (crc32Verify cfg) cspFCrc32 (hasOpt opts cspSoCrc32Req) .crc32 packet =
      (.none, summed)) :
    (hasOpt opts cspSoCrc32Req = true → packet.id.has cspFCrc32 = true) ∧
      (packet.id.has cspFCrc32 = true → packet.SumVerifies cfg) ∧ summed.SameVisible packet.withoutSum := by
  obtain ⟨flag, verified⟩ | ⟨flag, free, rfl⟩ := checkTrailer_passes (by decide) passed
  · obtain ⟨sums, visible⟩ := crc32Verify_sums verified
    rw [Packet.withoutSum, if_pos flag]
    exact ⟨fun _ => flag, fun _ => sums, visible⟩
  · rw [Packet.withoutSum, if_neg (by simp [flag])]
    refine ⟨fun required => ?_, fun set => ?_, .refl _⟩
    · rw [free] at required
      cases required
    · rw [flag] at set
      cases set

/-- The second of the three checks. -/
theorem checkSignature_passes {opts : UInt32} {packet signed : Packet}
    (passed : checkTrailer (hmacVerify cfg) cspFHmac (hasOpt opts cspSoHmacReq) .hmac packet =
      (.none, signed)) :
    (hasOpt opts cspSoHmacReq = true → packet.id.has cspFHmac = true) ∧
      (packet.id.has cspFHmac = true → packet.SignatureVerifies cfg) ∧
        signed = if packet.id.has cspFHmac then packet.dropTrailer else packet := by
  obtain ⟨flag, verified⟩ | ⟨flag, free, rfl⟩ := checkTrailer_passes (by decide) passed
  · obtain ⟨signs, same⟩ := hmacVerify_signs verified
    rw [if_pos flag]
    exact ⟨fun _ => flag, fun _ => signs, same⟩
  · rw [if_neg (by simp [flag])]
    refine ⟨fun required => ?_, fun set => ?_, rfl⟩
    · rw [free] at required
      cases required
    · rw [flag] at set
      cases set

/-- A packet that passes has what the options require, and loses its trailers. -/
theorem routeSecurityCheck_secures {opts : UInt32} {packet checked : Packet}
    (passed : routeSecurityCheck cfg opts packet = (.none, checked)) :
    packet.Secures cfg opts ∧ checked.SameVisible packet.withoutTrailers := by
  simp only [routeSecurityCheck] at passed
  split at passed
  · rename_i summed sumPassed
    split at passed
    · rename_i signed signPassed
      split at passed
      · cases passed
      · rename_i rdp
        cases passed
        obtain ⟨sumRequired, sums, unsummed⟩ := checkSum_passes sumPassed
        obtain ⟨signRequired, signs, same⟩ := checkSignature_passes signPassed
        have id : summed.id = packet.id := unsummed.id.trans packet.withoutSum_id
        rw [id] at signRequired signs same
        have visible : checked.SameVisible packet.withoutTrailers := by
          rw [same, Packet.withoutTrailers]
          split
          · rename_i flag
            exact unsummed.dropTrailer (signs flag).1
          · exact unsummed
        have signature flag := unsummed.signatureVerifies (signs flag)
        refine ⟨⟨⟨sumRequired, signRequired, fun required => ?_⟩, sums, signature⟩, visible⟩
        rw [visible.id, packet.withoutTrailers_id, required] at rdp
        simpa using rdp
    · rename_i failed
      exact absurd passed (failed _)
  · rename_i failed
    exact absurd passed (failed _)

/-- The router checks the received bytes. -/
theorem Packet.Passes.secures {opts : UInt32} {packet checked : Packet}
    (passes : Packet.Passes cfg opts packet checked) :
    packet.Secures cfg opts ∧ checked.SameVisible packet.withoutTrailers := by
  obtain ⟨received, visible, passed⟩ := passes
  obtain ⟨secures, same⟩ := routeSecurityCheck_secures passed
  exact ⟨visible.secures secures, same.trans (visible.withoutTrailers secures)⟩

/-! ## The trailers of a sender -/

/-- The header flag asks for a trailer of four bytes. -/
def CspId.trailerBytes (id : CspId) (flag : UInt8) : Nat := if id.has flag then 4 else 0

/-- The sender puts the signature behind the payload, and the checksum behind the signature. -/
def CspId.trailers (id : CspId) : Nat := id.trailerBytes cspFHmac + id.trailerBytes cspFCrc32

section Trailer
variable {append : Packet → Except Packet Packet} {verify : Packet → CspErr × Packet} {value : List UInt8 → UInt32}
  (appends : ∀ packet framed : Packet, append packet = .ok framed ↔
    packet.length.toNat + 4 ≤ cfg.bufferSize ∧ framed = packet.withTrailer (value packet.payload))
include appends

/-- A trailer that fits is appended. -/
theorem appendTrailer_ok (flag : UInt8) {packet : Packet}
    (fits : packet.length.toNat + packet.id.trailerBytes flag ≤ cfg.bufferSize) :
    ∃ framed, (if packet.id.has flag then append packet else .ok packet) = .ok framed ∧
      framed.id = packet.id ∧ framed.length.toNat = packet.length.toNat + packet.id.trailerBytes flag := by
  unfold CspId.trailerBytes at fits ⊢
  split
  · rename_i flagged
    rw [if_pos flagged] at fits
    exact ⟨_, (appends packet _).mpr ⟨fits, rfl⟩, rfl, Packet.withTrailer_length fits _⟩
  · exact ⟨packet, rfl, rfl, rfl⟩

variable (verifies : ∀ (packet : Packet) (count : Nat), packet.length.toNat = count + 4 →
    packet.trailer = value (packet.dataBytes count) →
      ∃ verified, verify packet = (.none, verified) ∧ verified.id = packet.id ∧
        verified.length.toNat = count ∧ verified.payload = packet.dataBytes count)
include verifies

/-- The receiver takes back what the sender appends, when both see the flag. -/
theorem appendTrailer_checked (flag : UInt8) {packet framed : Packet}
    (returned : (if packet.id.has flag then append packet else .ok packet) = .ok framed) :
    framed.id = packet.id ∧
      ∀ (received : Packet) (required : Bool) (err : CspErr), received.id = packet.id →
        received.payload = framed.payload → (required = true → packet.id.has flag = true) →
          ∃ checked, checkTrailer verify flag required err received = (.none, checked) ∧
            checked.id = packet.id ∧ checked.payload = packet.payload := by
  cases flagged : packet.id.has flag with
  | true =>
      rw [flagged, if_pos rfl] at returned
      obtain ⟨fits, rfl⟩ := (appends packet framed).mp returned
      refine ⟨rfl, ?_⟩
      intro received required err same payload _
      have length := Packet.withTrailer_length fits (value packet.payload)
      have long : received.length.toNat = packet.length.toNat + 4 := by
        rw [Packet.length_of_payload payload, length]
      have data : received.dataBytes packet.length.toNat = packet.payload :=
        (Packet.dataBytes_of_payload payload (by omega)).trans (Packet.withTrailer_dataBytes _)
      have word : received.trailer = value (received.dataBytes packet.length.toNat) := by
        rw [Packet.trailer_of_payload payload (by omega), Packet.withTrailer_trailer fits, data]
      obtain ⟨verified, passed, kept, -, left⟩ := verifies received _ long word
      refine ⟨verified, ?_, kept.trans same, left.trans data⟩
      rw [checkTrailer, same, flagged, if_pos rfl, passed]
  | false =>
      rw [flagged, if_neg Bool.false_ne_true] at returned
      cases returned
      refine ⟨rfl, ?_⟩
      intro received required err same payload implies
      refine ⟨received, ?_, same, payload⟩
      have free : required = false := Bool.eq_false_iff.mpr fun needed => Bool.false_ne_true (implies needed)
      rw [checkTrailer, same, flagged, free]
      rfl

end Trailer

/-- The output path appends the signature first. -/
theorem sendTrailers_eq (packet : Packet) : sendTrailers cfg packet.id packet true =
    (if packet.id.has cspFHmac then hmacAppend cfg packet else .ok packet).bind fun signed =>
      if packet.id.has cspFCrc32 then crc32Append cfg signed else .ok signed := by
  simp only [sendTrailers, if_true]
  split <;> rfl

theorem sendTrailers_parts {packet framed : Packet} (returned : sendTrailers cfg packet.id packet true = .ok framed) :
    ∃ signed, (if packet.id.has cspFHmac then hmacAppend cfg packet else .ok packet) = .ok signed ∧
      (if packet.id.has cspFCrc32 then crc32Append cfg signed else .ok signed) = .ok framed := by
  rw [sendTrailers_eq] at returned
  cases first : (if packet.id.has cspFHmac then hmacAppend cfg packet else .ok packet) with
  | error failed =>
      rw [first] at returned
      cases returned
  | ok signed =>
      rw [first] at returned
      exact ⟨signed, rfl, returned⟩

/-- The receiver holds the key of the sender and gets the bytes of the sender. Its checks take the trailers
off again. -/
theorem sendTrailers_verified {peer : Config} (key : peer.hmacMemory = cfg.hmacMemory)
    (sum : peer.crc32Memory = cfg.crc32Memory) {packet framed : Packet}
    (returned : sendTrailers cfg packet.id packet true = .ok framed) :
    framed.id = packet.id ∧ ∀ (received : Packet) (opts : UInt32), received.id = packet.id →
      received.payload = framed.payload → packet.id.Carries opts →
        ∃ checked, routeSecurityCheck peer opts received = (.none, checked) ∧
          checked.id = packet.id ∧ checked.payload = packet.payload := by
  obtain ⟨signed, appended, summed⟩ := sendTrailers_parts returned
  obtain ⟨signedId, verified⟩ := @appendTrailer_checked cfg _ (hmacVerify peer) _
    (fun packet framed => @hmacAppend_eq_ok cfg packet framed)
    (fun packet count length trailer => @hmacVerify_ok peer packet count length (key ▸ trailer)) cspFHmac _ _ appended
  rw [← signedId] at summed
  obtain ⟨framedId, checks⟩ := @appendTrailer_checked cfg _ (crc32Verify peer) _
    (fun packet framed => @crc32Append_eq_ok cfg packet framed)
    (fun packet count length trailer => @crc32Verify_ok peer packet count length (sum ▸ trailer)) cspFCrc32 _ _ summed
  rw [signedId] at framedId checks
  refine ⟨framedId, fun received opts same payload carries => ?_⟩
  obtain ⟨bare, sumPassed, bareId, barePayload⟩ :=
    checks received (hasOpt opts cspSoCrc32Req) .crc32 same payload carries.crc32
  obtain ⟨checked, signPassed, checkedId, checkedPayload⟩ :=
    verified bare (hasOpt opts cspSoHmacReq) .hmac bareId barePayload carries.hmac
  refine ⟨checked, ?_, checkedId, checkedPayload⟩
  have allowed : (!checked.id.has cspFRdp && hasOpt opts cspSoRdpReq) = false := by
    rw [checkedId]
    cases required : hasOpt opts cspSoRdpReq with
    | true => rw [carries.rdp required]; rfl
    | false => exact Bool.and_false _
  simp only [routeSecurityCheck, sumPassed, signPassed, allowed, Bool.false_eq_true, if_false]

/-- A sender whose trailers fit appends them, and its own checks take them off again. -/
theorem sendTrailers_checked {packet : Packet}
    (fits : packet.length.toNat + packet.id.trailers ≤ cfg.bufferSize) :
    ∃ framed, sendTrailers cfg packet.id packet true = .ok framed ∧ framed.id = packet.id ∧
      ∀ opts, packet.id.Carries opts →
        ∃ checked, routeSecurityCheck cfg opts framed = (.none, checked) ∧
          checked.id = packet.id ∧ checked.payload = packet.payload := by
  unfold CspId.trailers at fits
  obtain ⟨signed, appended, signedId, signedLength⟩ := @appendTrailer_ok cfg _ _
    (fun packet framed => @hmacAppend_eq_ok cfg packet framed) cspFHmac packet (by omega)
  obtain ⟨framed, summed, -, -⟩ := @appendTrailer_ok cfg _ _
    (fun packet framed => @crc32Append_eq_ok cfg packet framed) cspFCrc32 signed (by rw [signedId, signedLength]; omega)
  rw [signedId] at summed
  have returned : sendTrailers cfg packet.id packet true = .ok framed := by
    rw [sendTrailers_eq, appended]
    exact summed
  obtain ⟨same, verified⟩ := sendTrailers_verified rfl rfl returned
  exact ⟨framed, returned, same, fun opts => verified framed opts same rfl⟩

end Libcsp

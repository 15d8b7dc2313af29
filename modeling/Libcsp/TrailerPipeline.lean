/-
This file follows the trailers of a packet from csp_send_direct_iface to the checks of its receiver.
-/
import Libcsp.SecurityCheck
import Libcsp.SendOwnership

namespace Libcsp

variable {cfg : Config}

/-! ## The output path with its counters -/

/-- The transmit counters of one interface. -/
structure TxCounters where
  tx : UInt32
  txbytes : UInt32
  txError : UInt32
  deriving DecidableEq, Repr, Inhabited

/-- The result of one call of `csp_send_direct_iface`. -/
structure IfaceSend (cfg : Config) where
  io : Io cfg
  counters : TxCounters
  /-- History: the packet that the next hop got. -/
  handed : Option Packet

/-- The label `tx_err`. -/
def txErr (io : Io cfg) (counters : TxCounters) (packet : Packet) (handed : Option Packet) : IfaceSend cfg where
  io := io.free packet
  counters := { counters with txError := counters.txError + 1 }
  handed := handed

/-- This is `csp_send_direct_iface` with the counters of its interface. -/
def sendDirectIfaceCounted (io : Io cfg) (counters : TxCounters) (idout : CspId) (packet : Packet) (iface : Nat)
    (via : UInt16) (fromMe : Bool) : IfaceSend cfg :=
  let packet := { packet with id := idout }
  let io := if fromMe && iface != ifLo then promiscAdd io packet else io
  match sendTrailers cfg idout packet fromMe with
  | .error packet => txErr io counters packet none
  | .ok packet =>
      let bytes := packet.length
      let mtu := (io.ifaceAt iface).mtu
      if mtu > 0 && bytes > mtu then txErr io counters packet none
      else
        match (io.ifaceAt iface).nexthop (io.ifaceAt iface).handed with
        | .error => txErr (io.countCall iface) counters packet (some packet)
        | _ =>
            { io := callNexthop io iface via packet
              counters := { counters with tx := counters.tx + 1, txbytes := counters.txbytes + bytes.toUInt32 }
              handed := some packet }

/-- The counters do not influence the output path. -/
theorem sendDirectIfaceCounted_io (io : Io cfg) (counters : TxCounters) (idout : CspId) (packet : Packet)
    (iface : Nat) (via : UInt16) (fromMe : Bool) :
    (sendDirectIfaceCounted io counters idout packet iface via fromMe).io =
      sendDirectIface io idout (some packet) iface via fromMe := by
  simp only [sendDirectIfaceCounted, sendDirectIface]
  generalize (if fromMe && iface != ifLo then promiscAdd io { packet with id := idout } else io) = copied
  cases sendTrailers cfg idout { packet with id := idout } fromMe with
  | error failed => rfl
  | ok framed =>
      simp only
      split
      · rfl
      · cases result : (copied.ifaceAt iface).nexthop (copied.ifaceAt iface).handed with
        | error =>
            simp only [callNexthop, result]
            rfl
        | keeps => rfl
        | frees => rfl

/-! ## The round trip -/

/-- The call frees the packet once and counts one error. -/
structure DropsOnce (io : Io cfg) (counters : TxCounters) (packet : Packet) (result : IfaceSend cfg) : Prop where
  freed : ∃ (copied : Io cfg) (dropped : Packet), dropped.buf = packet.buf ∧ result.io = copied.free dropped ∧
    (copied = io ∨ ∃ seen : Packet, copied = promiscAdd io seen)
  released : ∀ held, io.Accounts (packet.buf :: held) →
    result.io.Accounts held ∧ packet.buf ∈ result.io.pool.freeBufs
  counted : result.counters = { counters with txError := counters.txError + 1 }

theorem txErr_dropsOnce {io copied : Io cfg} {packet dropped : Packet} (counters : TxCounters)
    (moved : copied = io ∨ ∃ seen : Packet, copied = promiscAdd io seen) (same : dropped.buf = packet.buf) :
    DropsOnce io counters packet (txErr copied counters dropped none) where
  freed := ⟨copied, dropped, same, rfl, moved⟩
  released held accounts := by
    have kept : copied.Accounts (packet.buf :: held) := by
      rcases moved with rfl | ⟨seen, rfl⟩
      · exact accounts
      · exact (promiscAdd_moves accounts seen).accounts
    rw [← same] at kept ⊢
    obtain ⟨freed, bufs⟩ := bufferFree_accounts (kept.perm List.perm_middle)
    refine ⟨freed, ?_⟩
    show dropped.buf ∈ (bufferFree copied.pool (some dropped)).freeBufs
    rw [bufs]
    exact List.mem_append_right _ (List.mem_singleton_self _)
  counted := rfl

/-- A receiver with the key of the sender gets the payload of each packet that reaches the next hop. Each
other packet is freed once and counted. -/
theorem trailers_roundTrip {peer : Config} (key : peer.hmacMemory = cfg.hmacMemory)
    (sum : peer.crc32Memory = cfg.crc32Memory) (io : Io cfg) (counters : TxCounters) (idout : CspId)
    (packet : Packet) (iface : Nat) (via : UInt16) :
    (∀ framed ∈ (sendDirectIfaceCounted io counters idout packet iface via true).handed,
      framed.id = idout ∧ ∀ (received : Packet) (opts : UInt32), received.SameVisible framed →
        received.id.Carries opts → ∃ checked, routeSecurityCheck peer opts received = (.none, checked) ∧
          checked.payload = packet.payload ∧ checked.length = packet.length) ∧
    ((sendDirectIfaceCounted io counters idout packet iface via true).handed = none →
      DropsOnce io counters packet (sendDirectIfaceCounted io counters idout packet iface via true)) := by
  have moved : (if true && iface != ifLo then promiscAdd io { packet with id := idout } else io) = io ∨
      ∃ seen, (if true && iface != ifLo then promiscAdd io { packet with id := idout } else io) =
        promiscAdd io seen := by
    split
    · exact .inr ⟨_, rfl⟩
    · exact .inl rfl
  simp only [sendDirectIfaceCounted]
  generalize (if true && iface != ifLo then promiscAdd io { packet with id := idout } else io) = copied at moved
  obtain ⟨trailed, buf, ⟨failed, -⟩ | ⟨framedOk, -⟩⟩ := @sendTrailers_cases cfg idout { packet with id := idout } true
  · rw [failed]
    exact ⟨by simp [txErr], fun _ => txErr_dropsOnce counters moved buf⟩
  · have verified : trailed.id = idout ∧ ∀ (received : Packet) (opts : UInt32), received.SameVisible trailed →
        received.id.Carries opts → ∃ checked, routeSecurityCheck peer opts received = (.none, checked) ∧
          checked.payload = packet.payload ∧ checked.length = packet.length := by
      obtain ⟨same, checks⟩ := @sendTrailers_verified cfg peer key sum { packet with id := idout } trailed framedOk
      refine ⟨same, fun received opts visible carries => ?_⟩
      have id : received.id = idout := visible.id.trans same
      obtain ⟨checked, passed, -, payload⟩ := checks received opts id visible.payload (id ▸ carries)
      exact ⟨checked, passed, payload, Packet.length_of_payload payload⟩
    rw [framedOk]
    simp only
    split
    · exact ⟨by simp [txErr], fun _ => txErr_dropsOnce counters moved buf⟩
    · split
      · refine ⟨fun framed member => ?_, by simp [txErr]⟩
        obtain rfl := Option.mem_some_iff.mp member
        exact verified
      · refine ⟨fun framed member => ?_, by simp⟩
        obtain rfl := Option.mem_some_iff.mp member
        exact verified

/-- A build with a signature and a checksum that see the bytes. -/
def sealingBuild : Config where
  crc32Memory bytes := UInt32.ofNat (bytes.foldl (fun sum byte => 31 * sum + byte.toNat) 1)
  hmacMemory bytes := UInt32.ofNat (bytes.foldl (fun sum byte => 37 * sum + byte.toNat) 5)

/-- Three bytes for a peer that wants both trailers. -/
def sealedId : CspId := { pri := 2, flags := cspFHmac ||| cspFCrc32, src := 1, dst := 2, dport := 10, sport := 20 }

def sealedPacket : Packet := { (default : Packet) with length := 3, mem := writeBytes (fun _ => 0) dataAt [7, 8, 9] }

theorem sealedPacket_roundTrip : ∃ framed checked,
    (sendDirectIfaceCounted (Io.init sealingBuild (fun _ => default) [] []) default sealedId sealedPacket ifLo
      noViaAddress true).handed = some framed ∧
    routeSecurityCheck sealingBuild (cspSoHmacReq ||| cspSoCrc32Req) framed = (.none, checked) ∧
      checked.payload = [7, 8, 9] := by
  obtain ⟨framed, handed⟩ := Option.isSome_iff_exists.mp (by decide +kernel :
    (sendDirectIfaceCounted (Io.init sealingBuild (fun _ => default) [] []) default sealedId sealedPacket ifLo
      noViaAddress true).handed.isSome = true)
  obtain ⟨id, checks⟩ := (@trailers_roundTrip sealingBuild sealingBuild rfl rfl
    (Io.init sealingBuild (fun _ => default) [] []) default sealedId sealedPacket ifLo noViaAddress).1 framed handed
  have carries : sealedId.Carries (cspSoHmacReq ||| cspSoCrc32Req) :=
    ⟨fun _ => by decide, fun _ => by decide, fun required => absurd required (by decide)⟩
  obtain ⟨checked, passed, payload, -⟩ := checks framed _ (Packet.SameVisible.refl framed) (id ▸ carries)
  exact ⟨framed, checked, handed, passed, payload.trans (by decide +kernel)⟩

end Libcsp

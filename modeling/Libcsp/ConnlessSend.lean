/-
This file determines when the packets of csp_sendto and csp_sendto_reply are not marked as RDP.
-/
import Libcsp.RdpSpec
import Libcsp.Service

namespace Libcsp

variable {cfg : Config} {size : Nat}

/-! ## The flags -/

/-- The header asks for exactly the trailers of the options and, with `CSP_O_SAME`, of these flags. It
does not announce an RDP header. -/
structure CspId.SaysPlain (opts : UInt32) (asked : UInt8) (id : CspId) : Prop where
  rdp : id.has cspFRdp = false
  hmac : id.has cspFHmac = (hasOpt opts cspSoHmacReq || (hasOpt opts cspSoSame && asked &&& cspFHmac != 0))
  crc32 : id.has cspFCrc32 =
    (hasOpt opts cspSoCrc32Req || (hasOpt opts cspSoSame && asked &&& cspFCrc32 != 0))

/-- Each packet that the call gave to `csp_send_direct` has such flags. -/
def SendsPlain (opts : UInt32) (asked : UInt8) (before after : Io cfg) : Prop :=
  ∃ sent, after.outbox = before.outbox ++ sent ∧
    ∀ entry ∈ sent, entry.1.SaysPlain opts asked ∧ entry.2.id.SaysPlain opts asked

/-- A receiver delivers packets with these flags as plain data. -/
def ParsedPlain (cfg : Config) (flags : UInt8) : Prop :=
  ∀ (ctx : Ctx cfg) (packet : Packet), packet.id.flags = flags → routeDeliver ctx packet = routePlain ctx packet

theorem CspId.SaysPlain.parsed {opts : UInt32} {asked : UInt8} {id : CspId} (plain : id.SaysPlain opts asked) :
    ParsedPlain cfg id.flags := by
  intro ctx packet flags
  have rdp := plain.rdp
  rw [CspId.has, ← flags] at rdp
  rw [routeDeliver, CspId.has, rdp]
  rfl

/-- The flags of the sent header. -/
def sendtoFlags (opts : UInt32) (asked : UInt8) : UInt8 :=
  let flags := if hasOpt opts cspSoSame then asked else 0
  let flags := if hasOpt opts cspSoHmacReq then flags ||| cspFHmac else flags
  if hasOpt opts cspSoCrc32Req then flags ||| cspFCrc32 else flags

/-- A flag of the union is a flag of one part. -/
theorem or_flag (first second flag : UInt8) :
    ((first ||| second) &&& flag != 0) = (first &&& flag != 0 || second &&& flag != 0) := by
  have split : (first ||| second) &&& flag = first &&& flag ||| second &&& flag := by
    apply UInt8.toNat_inj.mp
    simp only [UInt8.toNat_and, UInt8.toNat_or]
    exact Nat.and_or_distrib_right _ _ _
  rw [split, Bool.eq_iff_iff, Bool.or_eq_true, bne_iff_ne, bne_iff_ne, bne_iff_ne, Ne, UInt8.or_eq_zero_iff]
  exact not_and_or

theorem sendtoFlags_flag (opts : UInt32) (asked flag : UInt8) :
    (sendtoFlags opts asked &&& flag != 0) =
      ((hasOpt opts cspSoSame && asked &&& flag != 0) || (hasOpt opts cspSoHmacReq && cspFHmac &&& flag != 0) ||
        (hasOpt opts cspSoCrc32Req && cspFCrc32 &&& flag != 0)) := by
  have none : ((0 : UInt8) &&& flag != 0) = false := by simp
  simp only [sendtoFlags]
  cases hasOpt opts cspSoSame <;> cases hasOpt opts cspSoHmacReq <;> cases hasOpt opts cspSoCrc32Req <;>
    simp [or_flag]

/-- Without RDP in the copied flags, the header says what it must. -/
theorem sendtoFlags_plain_iff {id : CspId} {opts : UInt32} {asked : UInt8}
    (flags : id.flags = sendtoFlags opts asked) :
    id.SaysPlain opts asked ↔ ¬(hasOpt opts cspSoSame = true ∧ asked &&& cspFRdp ≠ 0) := by
  have flag : ∀ flag, id.has flag = (sendtoFlags opts asked &&& flag != 0) := by
    intro flag
    rw [CspId.has, flags]
  have rdp : id.has cspFRdp = (hasOpt opts cspSoSame && asked &&& cspFRdp != 0) := by
    have others : (cspFHmac &&& cspFRdp != 0) = false ∧ (cspFCrc32 &&& cspFRdp != 0) = false := by decide
    rw [flag, sendtoFlags_flag, others.1, others.2, Bool.and_false, Bool.and_false, Bool.or_false, Bool.or_false]
  constructor
  · rintro plain ⟨same, marked⟩
    have clear := plain.rdp
    rw [rdp, same, bne_iff_ne.mpr marked] at clear
    cases clear
  · intro allowed
    refine ⟨?_, ?_, ?_⟩
    · rw [rdp, Bool.eq_false_iff, Ne, Bool.and_eq_true, bne_iff_ne]
      exact allowed
    · have others : (cspFHmac &&& cspFHmac != 0) = true ∧ (cspFCrc32 &&& cspFHmac != 0) = false := by decide
      rw [flag, sendtoFlags_flag, others.1, others.2, Bool.and_true, Bool.and_false, Bool.or_false, Bool.or_comm]
    · have others : (cspFHmac &&& cspFCrc32 != 0) = false ∧ (cspFCrc32 &&& cspFCrc32 != 0) = true := by decide
      rw [flag, sendtoFlags_flag, others.1, others.2, Bool.and_true, Bool.and_false, Bool.or_false, Bool.or_comm]

/-! ## The calls -/

/-- A call without the option `CSP_O_RDP` sends one packet with the computed flags. -/
theorem cspSendto_sends (io : Io cfg) (prio : UInt8) (dest : UInt16) (dport srcPort : UInt8) (opts : UInt32)
    (packet : Packet) (allowed : hasOpt opts cspSoRdpReq = false) :
    ∃ id : CspId, id.flags = sendtoFlags opts packet.id.flags ∧
      (cspSendto io prio dest dport srcPort opts packet).outbox = io.outbox ++ [(id, { packet with id })] := by
  refine ⟨⟨prio, sendtoFlags opts packet.id.flags, 0, dest, dport, srcPort⟩, rfl, ?_⟩
  simp only [cspSendto, allowed, Bool.false_eq_true, if_false, sendDirect_outbox]
  rfl

theorem cspSendto_rejects (io : Io cfg) (prio : UInt8) (dest : UInt16) (dport srcPort : UInt8) (opts : UInt32)
    (packet : Packet) (rejected : hasOpt opts cspSoRdpReq = true) :
    cspSendto io prio dest dport srcPort opts packet = io.free packet := by
  simp only [cspSendto, rejected, if_true]

/-- One sent packet decides about the call. -/
theorem sendsPlain_iff {io after : Io cfg} {opts : UInt32} {asked : UInt8} {id : CspId} {packet : Packet}
    (flags : id.flags = sendtoFlags opts asked) (sent : after.outbox = io.outbox ++ [(id, { packet with id })]) :
    SendsPlain opts asked io after ↔ ¬(hasOpt opts cspSoSame = true ∧ asked &&& cspFRdp ≠ 0) := by
  rw [← sendtoFlags_plain_iff flags]
  constructor
  · rintro ⟨entries, outbox, plain⟩
    rw [sent] at outbox
    obtain rfl := List.append_cancel_left outbox
    exact (plain _ (List.mem_singleton_self _)).1
  · intro plain
    refine ⟨_, sent, fun entry member => ?_⟩
    obtain rfl := List.mem_singleton.mp member
    exact ⟨plain, plain⟩

theorem sendsPlain_of_same {io after : Io cfg} (opts : UInt32) (asked : UInt8) (same : after.outbox = io.outbox) :
    SendsPlain opts asked io after := ⟨[], by rw [same, List.append_nil], by simp⟩

/-- `csp_sendto` keeps the RDP flag of the packet exactly with `CSP_O_SAME`. -/
theorem cspSendto_plain_iff (io : Io cfg) (prio : UInt8) (dest : UInt16) (dport srcPort : UInt8) (opts : UInt32)
    (packet : Packet) :
    SendsPlain opts packet.id.flags io (cspSendto io prio dest dport srcPort opts packet) ↔
      hasOpt opts cspSoRdpReq = true ∨ ¬(hasOpt opts cspSoSame = true ∧ packet.id.flags &&& cspFRdp ≠ 0) := by
  cases rdp : hasOpt opts cspSoRdpReq with
  | true =>
      rw [cspSendto_rejects io prio dest dport srcPort opts packet rdp]
      exact ⟨fun _ => .inl rfl, fun _ => sendsPlain_of_same opts _ rfl⟩
  | false =>
      obtain ⟨id, flags, sent⟩ := cspSendto_sends io prio dest dport srcPort opts packet rdp
      rw [sendsPlain_iff flags sent]
      simp

/-- The flags that a reply may copy. -/
def askedFlags (request : Option Packet) : UInt8 := request.elim 0 fun request => request.id.flags

/-- A reply copies the RDP flag of its request exactly with `CSP_O_SAME`. -/
theorem cspSendtoReply_plain_iff (io : Io cfg) (request : Option Packet) (reply : Packet) (opts : UInt32) :
    SendsPlain opts (askedFlags request) io (cspSendtoReply io request reply opts) ↔
      hasOpt opts cspSoRdpReq = true ∨
        ¬(hasOpt opts cspSoSame = true ∧ askedFlags request &&& cspFRdp ≠ 0) := by
  cases request with
  | none =>
      refine ⟨fun _ => .inr ?_, fun _ => sendsPlain_of_same opts _ rfl⟩
      simp [askedFlags]
  | some request =>
      simp only [askedFlags, Option.elim_some, cspSendtoReply]
      split
      · exact cspSendto_plain_iff io _ _ _ _ opts { reply with id.flags := request.id.flags }
      · rename_i different
        cases rdp : hasOpt opts cspSoRdpReq with
        | true =>
            rw [cspSendto_rejects io _ _ _ _ opts reply rdp]
            exact ⟨fun _ => .inl rfl, fun _ => sendsPlain_of_same opts _ rfl⟩
        | false =>
            obtain ⟨id, flags, sent⟩ := cspSendto_sends io request.id.pri request.id.src request.id.sport
              request.id.dport opts reply rdp
            have copied : sendtoFlags opts reply.id.flags = sendtoFlags opts request.id.flags := by
              simp only [sendtoFlags, different, Bool.false_eq_true, if_false]
            rw [sendsPlain_iff (flags.trans copied) sent]
            simp

/-! ## The services -/

/-- The request of this code gets a reply. -/
def CmpCode.Accepts (platform : Platform) (host : Host cfg size) (packet : Packet) : CmpCode → Prop
  | .ident => True
  | .routeSetV1 => (host.getByName (packet.text 4)).isSome = true
  | .routeSetV2 => (host.getByName (packet.text 8)).isSome = true
  | .ifStats => (host.getByName (packet.text 2)).isSome = true
  | .peek => packet.data 6 ≤ cmpPeekMaxLen
  | .poke => packet.data 6 ≤ cmpPokeMaxLen
  | .clock => packet.be32At 2 = 0 ∨ platform.clockSetTime ⟨packet.be32At 2, packet.be32At 6⟩ = .none

def CmpAccepts (platform : Platform) (host : Host cfg size) (packet : Packet) : Prop :=
  packet.data 0 = cmpRequest ∧
    ∃ code, CmpCode.ofByte (packet.data 1) = some code ∧ code.Accepts platform host packet

/-- The service replies to the request. -/
def Service.Replies (platform : Platform) (host : Host cfg size) (packet : Packet) : Service → Prop
  | .cmp => CmpAccepts platform host packet
  | .reboot => False
  | _ => True

/-- The handler sends a reply, whatever it has to say. -/
def HandlerReplies (platform : Platform) (host : Host cfg size) (packet : Packet) : Prop :=
  ∃ service, Service.ofPort packet.id.dport = some service ∧ service.Replies platform host packet

/-- The table takes a route of an interface. -/
theorem rtableSet_accepts {t after : Rtable size} {address : UInt16} {netmask : Int} {ifc : Nat} {via : UInt16}
    {ret : CspErr} (returned : t.set cfg address netmask (some ifc) via = some (ret, after)) : ret = .none := by
  have bound : ¬Rtable.effectiveNetmask cfg netmask > idGetHostBits cfg := by
    rw [Rtable.effectiveNetmask]
    split <;> omega
  simp only [Rtable.set, reduceCtorEq, false_or, bound, if_false] at returned
  obtain ⟨next, -, same⟩ := Option.bind_eq_some_iff.mp returned
  cases same
  rfl

theorem cmpRouteSet_result {host after : Host cfg size} {ifc : Option Nat} {address via : UInt16} {netmask : Int}
    {ret : CspErr} (returned : cmpRouteSet host ifc address netmask via = some (ret, after)) :
    (ret = .none ↔ ifc.isSome = true) ∧ after.io = host.io := by
  cases ifc with
  | none =>
      cases returned
      exact ⟨by simp, rfl⟩
  | some ifc =>
      obtain ⟨⟨set, routed⟩, called, same⟩ := Option.bind_eq_some_iff.mp returned
      obtain ⟨⟨set', rtable⟩, stored, same'⟩ := Option.bind_eq_some_iff.mp called
      cases same'
      cases same
      exact ⟨by simp [rtableSet_accepts stored], rfl⟩

/-- A handler of one code replies as its request allows, and it does not send or free anything. -/
theorem cmpSwitch_result {platform : Platform} {host after : Host cfg size} {packet reply : Packet} {ret : CspErr}
    (code : CmpCode) (returned : cmpSwitch platform host packet code = some (ret, reply, after)) :
    (ret = .none ↔ code.Accepts platform host packet) ∧ reply.id = packet.id ∧ reply.buf = packet.buf ∧
      after.io = host.io := by
  cases code with
  | ident =>
      cases returned
      exact ⟨by simp [CmpCode.Accepts], rfl, rfl, rfl⟩
  | routeSetV1 =>
      obtain ⟨⟨set, routed⟩, called, same⟩ := Option.bind_eq_some_iff.mp returned
      cases same
      obtain ⟨accepts, io⟩ := cmpRouteSet_result called
      exact ⟨accepts, rfl, rfl, io⟩
  | routeSetV2 =>
      obtain ⟨⟨set, routed⟩, called, same⟩ := Option.bind_eq_some_iff.mp returned
      cases same
      obtain ⟨accepts, io⟩ := cmpRouteSet_result called
      exact ⟨accepts, rfl, rfl, io⟩
  | ifStats =>
      simp only [cmpSwitch, doCmpIfStats] at returned
      cases found : host.getByName (packet.text 2) with
      | none =>
          rw [found] at returned
          cases returned
          exact ⟨by simp [CmpCode.Accepts, found], rfl, rfl, rfl⟩
      | some ifc =>
          rw [found] at returned
          cases returned
          exact ⟨by simp [CmpCode.Accepts, found], rfl, rfl, rfl⟩
  | peek =>
      simp only [cmpSwitch, doCmpPeek] at returned
      split at returned
      · rename_i long
        cases returned
        exact ⟨by simpa [CmpCode.Accepts] using long, rfl, rfl, rfl⟩
      · rename_i fits
        cases returned
        exact ⟨by simpa [CmpCode.Accepts] using fits, rfl, rfl, rfl⟩
  | poke =>
      simp only [cmpSwitch, doCmpPoke] at returned
      split at returned
      · rename_i long
        cases returned
        exact ⟨by simpa [CmpCode.Accepts] using long, rfl, rfl, rfl⟩
      · rename_i fits
        cases returned
        exact ⟨by simpa [CmpCode.Accepts] using fits, rfl, rfl, rfl⟩
  | clock =>
      rw [cmpSwitch, doCmpClock_eq] at returned
      cases returned
      obtain ⟨accepts, io⟩ := clockSet_result platform host ⟨packet.be32At 2, packet.be32At 6⟩
      exact ⟨accepts, rfl, rfl, io⟩

/-- The CMP handler accepts these requests, and it does not send or free anything. -/
theorem cmpHandler_result {platform : Platform} {host after : Host cfg size} {packet reply : Packet} {ret : CspErr}
    (returned : cmpHandler platform host packet = some (ret, reply, after)) :
    (ret = .none ↔ CmpAccepts platform host packet) ∧ reply.id = packet.id ∧ reply.buf = packet.buf ∧
      after.io = host.io := by
  unfold cmpHandler at returned
  split at returned
  · rename_i other
    cases returned
    exact ⟨by simp [CmpAccepts, other], rfl, rfl, rfl⟩
  · rename_i request
    split at returned
    · rename_i unknown
      cases returned
      exact ⟨by simp [CmpAccepts, unknown], rfl, rfl, rfl⟩
    · rename_i code known
      obtain ⟨⟨set, message, handled⟩, called, same⟩ := Option.bind_eq_some_iff.mp returned
      cases same
      obtain ⟨accepts, id, buf, io⟩ := cmpSwitch_result code called
      refine ⟨accepts.trans ?_, id, buf, io⟩
      simp [CmpAccepts, not_not.mp request, known]

/-- A reply copies the flags of the packet that it answers. -/
theorem Host.reply_sends (host : Host cfg size) (packet : Packet) :
    ∃ id : CspId, id.flags = sendtoFlags cspSoSame packet.id.flags ∧
      (host.reply packet).io.outbox = host.io.outbox ++ [(id, { packet with id })] := by
  have same : hasOpt cspSoSame cspSoSame = true := by decide
  obtain ⟨id, flags, sent⟩ := cspSendto_sends { host.io with rtable := host.routes } packet.id.pri packet.id.src
    packet.id.sport packet.id.dport cspSoSame packet (by decide)
  refine ⟨id, flags, ?_⟩
  rw [← sent]
  simp only [Host.reply, cspSendtoReply, same, if_true]

/-- The handler replies to exactly these requests, with their own flags. -/
theorem serviceHandler_sends {platform : Platform} {host after : Host cfg size} {packet : Packet}
    (returned : serviceHandler platform host packet = some after) :
    (HandlerReplies platform host packet ∧ ∃ (id : CspId) (reply : Packet),
        id.flags = sendtoFlags cspSoSame packet.id.flags ∧
          after.io.outbox = host.io.outbox ++ [(id, { reply with id })]) ∨
      (¬HandlerReplies platform host packet ∧ after.io.outbox = host.io.outbox) := by
  have sends : ∀ (sender : Host cfg size) (reply : Packet), sender.io.outbox = host.io.outbox →
      reply.id = packet.id → ∃ (id : CspId) (reply' : Packet), id.flags = sendtoFlags cspSoSame packet.id.flags ∧
        (sender.reply reply).io.outbox = host.io.outbox ++ [(id, { reply' with id })] := by
    intro sender reply outbox same
    obtain ⟨id, flags, sent⟩ := sender.reply_sends reply
    exact ⟨id, reply, same ▸ flags, outbox ▸ sent⟩
  unfold serviceHandler at returned
  unfold HandlerReplies
  generalize Service.ofPort packet.id.dport = service at returned
  obtain _ | service := service
  · cases returned
    exact .inr ⟨by simp, rfl⟩
  · simp only [Option.some.injEq, exists_eq_left']
    cases service with
    | cmp =>
        obtain ⟨⟨ret, reply, handled⟩, called, last⟩ := Option.bind_eq_some_iff.mp returned
        obtain ⟨accepts, id, -, io⟩ := cmpHandler_result called
        simp only at last
        split at last
        · rename_i failed
          cases last
          exact .inr ⟨fun replies => failed (accepts.mpr replies),
            (congrArg Io.outbox io : handled.io.outbox = _)⟩
        · rename_i ok
          cases last
          exact .inl ⟨accepts.mp (not_not.mp ok), sends handled reply (congrArg Io.outbox io) id⟩
    | ps =>
        cases returned
        exact .inl ⟨trivial, sends _ _ (by split <;> rfl) rfl⟩
    | reboot =>
        cases returned
        exact .inr ⟨id, rfl⟩
    | ping =>
        cases returned
        exact .inl ⟨trivial, sends host _ rfl rfl⟩
    | memfree =>
        cases returned
        exact .inl ⟨trivial, sends host _ rfl rfl⟩
    | bufFree =>
        cases returned
        exact .inl ⟨trivial, sends host _ rfl rfl⟩
    | uptime =>
        cases returned
        exact .inl ⟨trivial, sends host _ rfl rfl⟩

/-- A service replies as plain data exactly when its request is plain data, or when it does not reply. -/
theorem serviceHandler_plain_iff {platform : Platform} {host after : Host cfg size} {packet : Packet}
    (returned : serviceHandler platform host packet = some after) :
    SendsPlain cspSoSame packet.id.flags host.io after.io ↔
      packet.id.flags &&& cspFRdp = 0 ∨ ¬HandlerReplies platform host packet := by
  have same : hasOpt cspSoSame cspSoSame = true := by decide
  rcases serviceHandler_sends returned with ⟨replies, id, reply, flags, sent⟩ | ⟨silent, outbox⟩
  · rw [sendsPlain_iff flags sent, same]
    simp [replies]
  · exact ⟨fun _ => .inr silent, fun _ => sendsPlain_of_same _ _ outbox⟩

/-- Connection-less sends are plain exactly when they copy no RDP flag. Receivers parse such packets as
plain data. -/
theorem connlessSends_plain_iff :
    (∀ (io : Io cfg) (prio : UInt8) (dest : UInt16) (dport srcPort : UInt8) (opts : UInt32) (packet : Packet),
      SendsPlain opts packet.id.flags io (cspSendto io prio dest dport srcPort opts packet) ↔
        hasOpt opts cspSoRdpReq = true ∨ ¬(hasOpt opts cspSoSame = true ∧ packet.id.flags &&& cspFRdp ≠ 0)) ∧
    (∀ (io : Io cfg) (request : Option Packet) (reply : Packet) (opts : UInt32),
      SendsPlain opts (askedFlags request) io (cspSendtoReply io request reply opts) ↔
        hasOpt opts cspSoRdpReq = true ∨ ¬(hasOpt opts cspSoSame = true ∧ askedFlags request &&& cspFRdp ≠ 0)) ∧
    (∀ (platform : Platform) (host after : Host cfg size) (packet : Packet),
      serviceHandler platform host packet = some after →
        (SendsPlain cspSoSame packet.id.flags host.io after.io ↔
          packet.id.flags &&& cspFRdp = 0 ∨ ¬HandlerReplies platform host packet)) ∧
    ∀ (opts : UInt32) (asked : UInt8) (before after : Io cfg), SendsPlain opts asked before after →
      ∃ sent, after.outbox = before.outbox ++ sent ∧ ∀ entry ∈ sent, ParsedPlain cfg entry.1.flags := by
  refine ⟨cspSendto_plain_iff, cspSendtoReply_plain_iff, fun platform host after packet => serviceHandler_plain_iff,
    fun opts asked before after plain => ?_⟩
  obtain ⟨sent, outbox, flags⟩ := plain
  exact ⟨sent, outbox, fun entry member => (flags entry member).1.parsed⟩

/-- A node with the loopback interface only. -/
def idleHost : Host {} 1 where
  io := Io.init {} (fun _ => default) [] []
  name _ := loopbackName
  stats := default
  rtable := .init 1
  memory _ := 0
  clock := default
  actions := []

/-- A ping request that arrived on an RDP connection. -/
def rdpPing : Packet :=
  { (default : Packet) with
    length := 1
    id := { (default : CspId) with flags := cspFRdp, src := 2, dst := 1, dport := 1, sport := 20 } }

/-- The reply to the ping announces an RDP header that it does not have. -/
theorem rdpPing_reply_notPlain :
    ∃ after, serviceHandler {} idleHost rdpPing = some after ∧
      ¬SendsPlain cspSoSame rdpPing.id.flags idleHost.io after.io := by
  have handled : serviceHandler {} idleHost rdpPing = some (idleHost.reply rdpPing) := rfl
  refine ⟨_, handled, fun plain => ?_⟩
  rcases (serviceHandler_plain_iff handled).mp plain with clear | silent
  · exact absurd clear (by decide)
  · exact silent ⟨.ping, by decide, trivial⟩

/-- A ping that arrived without RDP. -/
def plainPing : Packet := { rdpPing with id := { rdpPing.id with flags := 0 } }

theorem plainPing_reply_plain :
    SendsPlain cspSoSame plainPing.id.flags idleHost.io (idleHost.reply plainPing).io :=
  ((@connlessSends_plain_iff {} 1).2.2.1 {} idleHost (idleHost.reply plainPing) plainPing rfl).mpr
    (.inl (by decide))

end Libcsp

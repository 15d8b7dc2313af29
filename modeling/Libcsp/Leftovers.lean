/-
This file shows exactly which service requests a node handles by their received bytes alone.
-/
import Libcsp.ConnlessSend

namespace Libcsp

variable {cfg : Config} {size : Nat}

/-! ## The observer -/

/-- The outside sees the actions, the memory, the clock, the routes, and the bytes of the sent packets. -/
structure Observation (size : Nat) where
  actions : List ServiceAction
  memory : UInt32 → UInt8
  clock : Timestamp
  rtable : Rtable size
  sent : List (CspId × List UInt8)

def Host.seen (host : Host cfg size) : Observation size where
  actions := host.actions
  memory := host.memory
  clock := host.clock
  rtable := host.rtable
  sent := host.io.outbox.map fun entry => (entry.1, entry.2.payload)

/-- `csp_ps_hook` reads the request, and its answer is what it wrote. -/
def Platform.HookReadsRequest (platform : Platform) : Prop :=
  ∀ first second : Packet, first.SameVisible second →
    (platform.psHook first).1 = (platform.psHook second).1 ∧
      ∀ index < (platform.psHook first).1.toUInt16.toNat,
        (platform.psHook first).2 (dataAt + index) = (platform.psHook second).2 (dataAt + index)

/-- The end of the fields that the handler of this code reads. -/
def CmpCode.fieldsEnd (packet : Packet) : CmpCode → Nat
  | .ident => 2
  | .routeSetV1 => 15
  | .routeSetV2 => 19
  | .ifStats => 13
  | .peek => 7
  | .poke => 7 + (packet.data 6).toNat
  | .clock => 10

/-- The request is too short for the fields that its handler reads. -/
def Packet.LacksField (packet : Packet) : Prop :=
  match Service.ofPort packet.id.dport with
  | some .reboot => packet.length.toNat < 4
  | some .cmp => packet.length.toNat < 2 ∨
      ∃ code, CmpCode.ofByte (packet.data 1) = some code ∧ packet.length.toNat < code.fieldsEnd packet
  | _ => False

/-- Each node handles the received bytes of the request alone, and ignores a request that is too short. -/
structure HandlesReceived (cfg : Config) (packet : Packet) : Prop where
  same : ∀ {size : Nat} (platform : Platform) (host : Host cfg size) (other : Packet),
    platform.HookReadsRequest → packet.SameVisible other →
      (serviceHandler platform host packet).map Host.seen = (serviceHandler platform host other).map Host.seen
  ignores : ∀ {size : Nat} (platform : Platform) (host : Host cfg size), packet.LacksField →
    (serviceHandler platform host packet).map Host.seen = some host.seen

/-- The bytes that the handler of this code reads or sends back. The second route message ends with padding. -/
def CmpCode.needs (packet : Packet) : CmpCode → Nat
  | .routeSetV2 => 20
  | .poke => if packet.data 6 > cmpPokeMaxLen then 7 else 7 + (packet.data 6).toNat
  | code => code.fieldsEnd packet

/-- The message of the CMP service has all bytes that its handler needs, or it is not a request. -/
def Packet.WholeCmp (packet : Packet) : Prop :=
  1 ≤ packet.length.toNat ∧ (packet.data 0 = cmpRequest → 2 ≤ packet.length.toNat ∧
    ∀ code, CmpCode.ofByte (packet.data 1) = some code → code.needs packet ≤ packet.length.toNat)

/-- The received bytes are enough for the handler, or a reboot request does not begin like a magic word. -/
def Packet.Whole (packet : Packet) : Prop :=
  match Service.ofPort packet.id.dport with
  | some .reboot => 4 ≤ packet.length.toNat ∨
      ∀ magicWord ∈ [cspRebootMagic, cspRebootShutdownMagic], ¬packet.payload <+: be32Bytes magicWord
  | some .cmp => packet.WholeCmp
  | _ => True

/-! ## Reads and writes of the received bytes -/

theorem Packet.put_data (packet : Packet) (offset : Nat) (bytes : List UInt8) (index : Nat) :
    (packet.put offset bytes).data index =
      if offset ≤ index ∧ index < offset + bytes.length then bytes.getD (index - offset) 0
      else packet.data index := by
  have offsets : dataAt + index - (dataAt + offset) = index - offset := by omega
  simp only [Packet.put, Packet.data, writeBytes, offsets]
  apply if_congr _ rfl rfl
  omega

namespace Packet.SameVisible

variable {first second : Packet} (same : first.SameVisible second)
include same

theorem put (offset : Nat) (bytes : List UInt8) : (first.put offset bytes).SameVisible (second.put offset bytes) where
  length := same.length
  id := same.id
  data index inside := by
    rw [Packet.put_data, Packet.put_data]
    split
    · rfl
    · exact same.data index inside

/-- The reply may be shorter than the request. -/
theorem resize {length : UInt16} (inside : length.toNat ≤ first.length.toNat) :
    Packet.SameVisible { first with length } { second with length } where
  length := rfl
  id := same.id
  data index small := same.data index (Nat.lt_of_lt_of_le small inside)

/-- The reply may be longer than the request, when the handler wrote the other bytes. -/
theorem put_resize {offset : Nat} {bytes : List UInt8} {length : UInt16} (start : offset ≤ first.length.toNat)
    (covers : length.toNat ≤ offset + bytes.length) :
    Packet.SameVisible { first.put offset bytes with length } { second.put offset bytes with length } where
  length := rfl
  id := same.id
  data index small := by
    change index < length.toNat at small
    change (first.put offset bytes).data index = (second.put offset bytes).data index
    rw [Packet.put_data, Packet.put_data]
    split
    · rfl
    · exact same.data index (by omega)

theorem be16At {offset : Nat} (inside : offset + 2 ≤ first.length.toNat) :
    first.be16At offset = second.be16At offset :=
  be16_congr (same.data offset (by omega)) (same.data (offset + 1) (by omega))

theorem be32At {offset : Nat} (inside : offset + 4 ≤ first.length.toNat) :
    first.be32At offset = second.be32At offset := by
  have high : first.be16At offset = second.be16At offset := same.be16At (by omega)
  have low : first.be16At (offset + 2) = second.be16At (offset + 2) := same.be16At (by omega)
  simp only [Packet.be16At, ← Nat.add_assoc] at high low
  simp only [Packet.be32At, be32, high, low]

theorem bytes {offset len : Nat} (inside : offset + len ≤ first.length.toNat) :
    (List.range len).map (fun index => first.data (offset + index)) =
      (List.range len).map fun index => second.data (offset + index) := by
  apply List.map_congr_left
  intro index small
  have := List.mem_range.mp small
  exact same.data _ (by omega)

theorem text {offset : Nat} (inside : offset + 10 ≤ first.length.toNat) :
    first.text offset = second.text offset := by
  simp only [Packet.text, same.bytes inside]

theorem swapAddr (inside : 6 ≤ first.length.toNat) : first.swapAddr.SameVisible second.swapAddr := by
  have addr : first.be32At 2 = second.be32At 2 := same.be32At inside
  rw [Packet.swapAddr, Packet.swapAddr, addr]
  exact same.put 2 _

end Packet.SameVisible

/-! ## The handlers -/

/-- Two answers say the same and leave the node in one state. A failed request has no reply. -/
structure SameAnswer (first second : CspErr × Packet × Host cfg size) : Prop where
  ret : first.1 = second.1
  reply : first.1 = .none → first.2.1.SameVisible second.2.1
  host : first.2.2 = second.2.2

variable {platform : Platform} {host : Host cfg size} {first second : Packet}

/-- The answer to a route message has no bytes of its own. -/
theorem routeAnswer_same (result : Option (CspErr × Host cfg size)) {first second : Packet}
    (visible : first.SameVisible second) :
    Option.Rel SameAnswer (result.bind fun routed => some (routed.1, first, routed.2))
      (result.bind fun routed => some (routed.1, second, routed.2)) := by
  cases result with
  | none => exact .none
  | some routed => exact .some ⟨rfl, fun _ => visible, rfl⟩

theorem be32Bytes_length (value : UInt32) : (be32Bytes value).length = 4 := rfl

theorem IfaceStats.words_length (stats : IfaceStats) : (stats.words.flatMap be32Bytes).length = 40 := by
  simp [IfaceStats.words, be32Bytes_length]

theorem doCmpIfStats_same (same : first.SameVisible second) (long : 13 ≤ first.length.toNat) :
    @SameAnswer cfg size
      ((doCmpIfStats host first).1, { (doCmpIfStats host first).2 with length := cmpSizeIfStats }, host)
      ((doCmpIfStats host second).1, { (doCmpIfStats host second).2 with length := cmpSizeIfStats }, host) := by
  have text : first.text 2 = second.text 2 := same.text (by omega)
  simp only [doCmpIfStats, ← text]
  cases host.getByName (first.text 2) with
  | none => exact ⟨rfl, (fun failed => by cases failed), rfl⟩
  | some ifc => exact ⟨rfl, fun _ => same.put_resize long (by rw [IfaceStats.words_length]; decide), rfl⟩

theorem doCmpPeek_same (same : first.SameVisible second) (long : 7 ≤ first.length.toNat) :
    SameAnswer (doCmpPeek host first) (doCmpPeek host second) := by
  have addr : first.be32At 2 = second.be32At 2 := same.be32At (by omega)
  have len : first.data 6 = second.data 6 := same.data 6 (by omega)
  have swapped := same.swapAddr (by omega)
  simp only [doCmpPeek, ← addr, ← len]
  split
  · exact ⟨rfl, fun _ => swapped, rfl⟩
  · exact ⟨rfl, fun _ => swapped.put 7 _, rfl⟩

theorem doCmpPoke_same (same : first.SameVisible second)
    (long : CmpCode.poke.needs first ≤ first.length.toNat) :
    SameAnswer (doCmpPoke host first) (doCmpPoke host second) := by
  have seven : 7 ≤ first.length.toNat := by
    apply Nat.le_trans _ long
    simp only [CmpCode.needs]
    split <;> omega
  have addr : first.be32At 2 = second.be32At 2 := same.be32At (by omega)
  have len : first.data 6 = second.data 6 := same.data 6 (by omega)
  have swapped := same.swapAddr (by omega)
  simp only [doCmpPoke, ← addr, ← len]
  split
  · exact ⟨rfl, fun _ => swapped, rfl⟩
  · rename_i fits
    simp only [CmpCode.needs, if_neg fits] at long
    have bytes := @Packet.SameVisible.bytes _ _ swapped 7 (first.data 6).toNat long
    exact ⟨rfl, fun _ => swapped, by rw [bytes]⟩

theorem doCmpClock_same (same : first.SameVisible second) (long : 10 ≤ first.length.toNat) :
    SameAnswer (doCmpClock platform host first) (doCmpClock platform host second) := by
  have sec : first.be32At 2 = second.be32At 2 := same.be32At (by omega)
  have nsec : first.be32At 6 = second.be32At 6 := same.be32At (by omega)
  rw [doCmpClock_eq, doCmpClock_eq, ← sec, ← nsec]
  exact ⟨rfl, fun _ => same.put 2 _, rfl⟩

theorem fixedString_length (len : Nat) (text : List UInt8) (positive : 0 < len) :
    (fixedString len text).length = len := by
  rw [fixedString, List.length_append, List.length_take, List.length_replicate]
  omega

theorem doCmpIdent_same (same : first.SameVisible second) (long : 2 ≤ first.length.toNat) :
    Packet.SameVisible { doCmpIdent platform first with length := cmpSizeIdent }
      { doCmpIdent platform second with length := cmpSizeIdent } := by
  apply same.put_resize long
  simp only [List.length_append, fixedString_length _ _ (show 0 < cspHostnameLen by decide),
    fixedString_length _ _ (show 0 < cspModelLen by decide),
    fixedString_length _ _ (show 0 < cmpIdentRevLen by decide),
    fixedString_length _ _ (show 0 < cmpIdentDateLen by decide),
    fixedString_length _ _ (show 0 < cmpIdentTimeLen by decide)]
  decide

/-- With the bytes that it needs, the handler of a code answers the same. -/
theorem cmpSwitch_same (same : first.SameVisible second) (two : 2 ≤ first.length.toNat) (code : CmpCode)
    (long : code.needs first ≤ first.length.toNat) :
    Option.Rel SameAnswer (cmpSwitch platform host first code) (cmpSwitch platform host second code) := by
  cases code with
  | ident => exact .some ⟨rfl, fun _ => doCmpIdent_same same two, rfl⟩
  | routeSetV1 =>
      have routed : doCmpRouteSetV1 host first = doCmpRouteSetV1 host second := by
        simp only [CmpCode.needs, CmpCode.fieldsEnd] at long
        rw [doCmpRouteSetV1, doCmpRouteSetV1, same.text (by omega), same.data 2 (by omega), same.data 3 (by omega)]
      simp only [cmpSwitch, ← routed]
      exact routeAnswer_same _ (same.resize long)
  | routeSetV2 =>
      have routed : doCmpRouteSetV2 host first = doCmpRouteSetV2 host second := by
        simp only [CmpCode.needs] at long
        rw [doCmpRouteSetV2, doCmpRouteSetV2, same.text (by omega), same.be16At (by omega), same.be16At (by omega),
          same.be16At (by omega)]
      simp only [cmpSwitch, ← routed]
      exact routeAnswer_same _ (same.resize long)
  | ifStats => exact .some (doCmpIfStats_same same long)
  | peek => exact .some (doCmpPeek_same same long)
  | poke => exact .some (doCmpPoke_same same long)
  | clock => exact .some (doCmpClock_same same long)

theorem cmpHandler_same (same : first.SameVisible second) (whole : first.WholeCmp) :
    Option.Rel SameAnswer (cmpHandler platform host first) (cmpHandler platform host second) := by
  obtain ⟨one, whole⟩ := whole
  have type : first.data 0 = second.data 0 := same.data 0 one
  simp only [cmpHandler, ← type]
  split
  · exact .some ⟨rfl, (fun failed => by cases failed), rfl⟩
  · rename_i request
    obtain ⟨two, long⟩ := whole (not_not.mp request)
    have code : first.data 1 = second.data 1 := same.data 1 two
    simp only [← code]
    split
    · exact .some ⟨rfl, (fun failed => by cases failed), rfl⟩
    · rename_i code known
      have answers := @cmpSwitch_same cfg size platform host first second same two code (long code known)
      generalize cmpSwitch platform host first code = left at answers ⊢
      generalize cmpSwitch platform host second code = right at answers ⊢
      cases answers with
      | none => exact .none
      | some answer => exact .some ⟨answer.ret, fun ok => (answer.reply ok).put 0 _, answer.host⟩

/-! ## The replies -/

/-- The header of the reply to a request. -/
def replyId (id : CspId) : CspId :=
  { pri := id.pri, flags := id.flags, src := 0, dst := id.src, dport := id.sport, sport := id.dport }

theorem Host.reply_seen (host : Host cfg size) (packet : Packet) :
    (host.reply packet).seen =
      { host.seen with sent := host.seen.sent ++ [(replyId packet.id, packet.payload)] } := by
  have flag : hasOpt cspSoSame cspSoSame = true ∧ hasOpt cspSoSame cspSoRdpReq = false ∧
      hasOpt cspSoSame cspSoHmacReq = false ∧ hasOpt cspSoSame cspSoCrc32Req = false := by decide
  obtain ⟨same, rdp, hmac, crc⟩ := flag
  simp only [Host.seen, Host.reply, cspSendtoReply, cspSendto, same, rdp, hmac, crc, if_true, Bool.false_eq_true,
    if_false, sendDirect_outbox, List.map_append]
  rfl

/-- Replies with the same bytes look the same. -/
theorem reply_same {left right : Host cfg size} (hosts : left.seen = right.seen)
    (same : first.SameVisible second) : (left.reply first).seen = (right.reply second).seen := by
  rw [left.reply_seen, right.reply_seen, hosts, same.id, same.payload]

/-- The end of the CMP service frees a failed request, and sends the reply otherwise. -/
def cmpFinish (result : CspErr × Packet × Host cfg size) : Host cfg size :=
  if result.1 ≠ .none then result.2.2.free result.2.1 else result.2.2.reply result.2.1

theorem serviceHandler_cmp (service : Service.ofPort first.id.dport = some .cmp) :
    serviceHandler platform host first = (cmpHandler platform host first).map cmpFinish := by
  simp only [serviceHandler, service]
  cases cmpHandler platform host first with
  | none => rfl
  | some result =>
      simp only [Option.map_some, cmpFinish]
      exact (apply_ite some _ _ _).symm

theorem cmpFinish_same {first second : CspErr × Packet × Host cfg size} (answer : SameAnswer first second) :
    (cmpFinish first).seen = (cmpFinish second).seen := by
  rw [cmpFinish, cmpFinish, ← answer.ret, ← answer.host]
  split
  · rfl
  · rename_i ok
    exact reply_same rfl (answer.reply (not_not.mp ok))

theorem Packet.SameVisible.answer (same : first.SameVisible second) (word : UInt32) :
    (first.answer word).SameVisible (second.answer word) :=
  same.put_resize (Nat.zero_le _) (by rfl)

/-- The answer of the process hook is visible as the hook wrote it. -/
theorem psAnswer_same (reads : platform.HookReadsRequest) (same : first.SameVisible second) :
    Packet.SameVisible
      { first with length := (platform.psHook first).1.toUInt16, mem := (platform.psHook first).2 }
      { second with length := (platform.psHook second).1.toUInt16, mem := (platform.psHook second).2 } where
  length := by rw [(reads first second same).1]
  id := same.id
  data := (reads first second same).2

/-! ## The magic words -/

theorem Packet.be32At_toNat (packet : Packet) :
    (packet.be32At 0).toNat = (packet.data 0).toNat * 16777216 + (packet.data 1).toNat * 65536 +
      (packet.data 2).toNat * 256 + (packet.data 3).toNat := by
  have := (packet.data 0).toNat_lt
  have := (packet.data 1).toNat_lt
  have := (packet.data 2).toNat_lt
  have := (packet.data 3).toNat_lt
  change (be32 packet.mem dataAt).toNat = _
  simp only [be32, be16, UInt32.toNat_add, UInt32.toNat_mul, UInt16.toNat_add, UInt16.toNat_mul,
    UInt16.toNat_toUInt32, UInt8.toNat_toUInt16, UInt16.reduceToNat, UInt32.reduceToNat, Packet.data] at *
  simp only [Nat.add_assoc, Nat.add_zero, Nat.reduceAdd] at *
  omega

/-- A load gives the bytes back. -/
theorem be32Bytes_be32At (packet : Packet) : be32Bytes (packet.be32At 0) = packet.dataBytes 4 := by
  have bytes : packet.dataBytes 4 = [packet.data 0, packet.data 1, packet.data 2, packet.data 3] := rfl
  have := (packet.data 0).toNat_lt
  have := (packet.data 1).toNat_lt
  have := (packet.data 2).toNat_lt
  have := (packet.data 3).toNat_lt
  rw [bytes, be32Bytes]
  simp only [List.cons.injEq, and_true, ← UInt8.toNat_inj, UInt32.toNat_toUInt8, UInt32.toNat_div,
    packet.be32At_toNat, UInt32.reduceToNat]
  omega

/-- A word that was stored is loaded again. -/
theorem Packet.be32At_put (packet : Packet) (word : UInt32) : (packet.put 0 (be32Bytes word)).be32At 0 = word := by
  have first : (packet.put 0 (be32Bytes word)).data 0 = (word / 16777216).toUInt8 := packet.put_data 0 _ 0
  have second : (packet.put 0 (be32Bytes word)).data 1 = (word / 65536).toUInt8 := packet.put_data 0 _ 1
  have third : (packet.put 0 (be32Bytes word)).data 2 = (word / 256).toUInt8 := packet.put_data 0 _ 2
  have fourth : (packet.put 0 (be32Bytes word)).data 3 = word.toUInt8 := packet.put_data 0 _ 3
  have := word.toNat_lt
  apply UInt32.toNat_inj.mp
  rw [Packet.be32At_toNat, first, second, third, fourth]
  simp only [UInt32.toNat_toUInt8, UInt32.toNat_div, UInt32.reduceToNat]
  omega

/-- The received bytes of a short request are the begin of the word that the handler reads. -/
theorem payload_begins (short : first.length.toNat ≤ 4) : first.payload <+: be32Bytes (first.be32At 0) := by
  have taken : first.payload = (first.dataBytes 4).take first.length.toNat := by
    rw [Packet.payload, Packet.dataBytes, Packet.dataBytes, ← List.map_take, List.take_range, Nat.min_eq_left short]
  rw [be32Bytes_be32At, taken]
  exact List.take_prefix _ _

/-- A word that is not magic does nothing. -/
theorem rebootActions_other {word : UInt32} (other : word ∉ [cspRebootMagic, cspRebootShutdownMagic]) :
    rebootActions word = [] := by
  rw [List.mem_cons, List.mem_singleton, not_or] at other
  rw [rebootActions, if_neg other.1, if_neg other.2]

/-- A short request that does not begin like a magic word does nothing. -/
theorem rebootActions_short (short : first.length.toNat ≤ 4)
    (other : ∀ magicWord ∈ [cspRebootMagic, cspRebootShutdownMagic], ¬first.payload <+: be32Bytes magicWord) :
    rebootActions (first.be32At 0) = [] := by
  apply rebootActions_other
  intro magic
  exact other _ magic (payload_begins short)

theorem serviceHandler_reboot (service : Service.ofPort first.id.dport = some .reboot) :
    (serviceHandler platform host first).map Host.seen =
      some { host.seen with actions := host.actions ++ rebootActions (first.be32At 0) } := by
  simp only [serviceHandler, service]
  rfl

/-! ## Whole requests -/

/-- A whole request is handled by its received bytes alone. -/
theorem serviceHandler_same (reads : platform.HookReadsRequest) (same : first.SameVisible second)
    (whole : first.Whole) :
    (serviceHandler platform host first).map Host.seen = (serviceHandler platform host second).map Host.seen := by
  have port : Service.ofPort second.id.dport = Service.ofPort first.id.dport := by rw [same.id]
  unfold Packet.Whole at whole
  cases service : Service.ofPort first.id.dport with
  | none =>
      simp only [serviceHandler, port, service]
      rfl
  | some service' =>
      rw [service] at port whole
      cases service' with
      | cmp =>
          rw [serviceHandler_cmp service, serviceHandler_cmp port]
          have answers := @cmpHandler_same cfg size platform host first second same whole
          generalize cmpHandler platform host first = left at answers ⊢
          generalize cmpHandler platform host second = right at answers ⊢
          cases answers with
          | none => rfl
          | some answer => exact congrArg some (cmpFinish_same answer)
      | ping =>
          simp only [serviceHandler, port, service]
          exact congrArg some (reply_same rfl same)
      | ps =>
          have answer := psAnswer_same reads same
          simp only [serviceHandler, port, service]
          rw [← (reads first second same).1]
          rw [← (reads first second same).1] at answer
          split <;> exact congrArg some (reply_same rfl answer)
      | memfree =>
          simp only [serviceHandler, port, service]
          exact congrArg some (reply_same rfl (same.answer _))
      | bufFree =>
          simp only [serviceHandler, port, service]
          exact congrArg some (reply_same rfl (same.answer _))
      | uptime =>
          simp only [serviceHandler, port, service]
          exact congrArg some (reply_same rfl (same.answer _))
      | reboot =>
          rw [serviceHandler_reboot service, serviceHandler_reboot port]
          have word : 4 ≤ first.length.toNat → first.be32At 0 = second.be32At 0 := fun long => same.be32At long
          rcases whole with long | other
          · rw [word long]
          · by_cases long : 4 ≤ first.length.toNat
            · rw [word long]
            · have short : first.length.toNat ≤ 4 := by omega
              have short' : second.length.toNat ≤ 4 := same.length ▸ short
              rw [rebootActions_short short other, rebootActions_short short' (same.payload ▸ other)]

/-- A whole message without all fields is no request, or its length field is too large. -/
theorem cmpHandler_ignores (whole : first.WholeCmp) (lacks : first.length.toNat < 2 ∨
    ∃ code, CmpCode.ofByte (first.data 1) = some code ∧ first.length.toNat < code.fieldsEnd first) :
    ∃ reply, cmpHandler platform host first = some (.inval, reply, host) := by
  by_cases request : first.data 0 = cmpRequest
  · obtain ⟨two, long⟩ := whole.2 request
    rcases lacks with short | ⟨code, known, short⟩
    · omega
    · have needs := long code known
      cases code with
      | poke =>
          simp only [CmpCode.needs, CmpCode.fieldsEnd] at needs short
          split at needs
          · rename_i large
            simp only [cmpHandler, request, known, cmpSwitch, doCmpPoke, if_pos large]
            exact ⟨_, rfl⟩
          · omega
      | routeSetV2 =>
          simp only [CmpCode.needs, CmpCode.fieldsEnd] at needs short
          omega
      | _ => exact absurd needs (Nat.not_le.mpr short)
  · exact ⟨first, if_pos request⟩

/-- A whole request that lacks a field is not acted on. -/
theorem serviceHandler_ignores (whole : first.Whole) (lacks : first.LacksField) :
    (serviceHandler platform host first).map Host.seen = some host.seen := by
  unfold Packet.Whole at whole
  unfold Packet.LacksField at lacks
  split at lacks
  · rename_i service
    rw [service] at whole
    rcases whole with long | other
    · omega
    · rw [serviceHandler_reboot service, rebootActions_short (by omega) other, List.append_nil]
      rfl
  · rename_i service
    rw [service] at whole
    obtain ⟨reply, handled⟩ := @cmpHandler_ignores cfg size platform host first whole lacks
    rw [serviceHandler_cmp service, handled]
    rfl
  · exact lacks.elim

/-! ## Requests with leftovers -/

/-- A hook that leaves the packet reads the request only. -/
theorem defaultPlatform_reads : Platform.HookReadsRequest {} :=
  fun _ _ _ => ⟨rfl, fun _ empty => absurd empty (by simp)⟩

/-- A node whose interface has this name. -/
def namedHost (cfg : Config) (name : List Char) : Host cfg 1 where
  io := Io.init cfg (fun _ => default) [] []
  name _ := name
  stats := default
  rtable := .init 1
  memory _ := 0
  clock := default
  actions := []

theorem namedHost_getByName (cfg : Config) (name : List Char) : (namedHost cfg name).getByName name = some 0 := by
  change List.find? (fun _ => name.take 10 == name.take 10) [0] = some 0
  simp

/-- Some node replies to each message whose length field is in range. -/
theorem CmpCode.accepts_somewhere (cfg : Config) (packet : Packet) (code : CmpCode)
    (inRange : code = .peek ∨ code = .poke → packet.data 6 ≤ 200) :
    ∃ host : Host cfg 1, code.Accepts {} host packet := by
  cases code with
  | ident => exact ⟨namedHost cfg [], trivial⟩
  | routeSetV1 => exact ⟨namedHost cfg (packet.text 4), by rw [Accepts, namedHost_getByName]; rfl⟩
  | routeSetV2 => exact ⟨namedHost cfg (packet.text 8), by rw [Accepts, namedHost_getByName]; rfl⟩
  | ifStats => exact ⟨namedHost cfg (packet.text 2), by rw [Accepts, namedHost_getByName]; rfl⟩
  | peek => exact ⟨namedHost cfg [], inRange (.inl rfl)⟩
  | poke => exact ⟨namedHost cfg [], inRange (.inr rfl)⟩
  | clock => exact ⟨namedHost cfg [], .inr rfl⟩

/-- A reply changes what the outside sees. -/
theorem not_replies_of_seen (unseen : (serviceHandler platform host first).map Host.seen = some host.seen) :
    ¬HandlerReplies platform host first := by
  intro replies
  obtain ⟨after, returned, seen⟩ := Option.map_eq_some_iff.mp unseen
  rcases serviceHandler_sends returned with ⟨_, id, reply, _, sent⟩ | ⟨silent, _⟩
  · have lengths := congrArg (fun observation => observation.sent.length) seen
    simp only [Host.seen, sent, List.map_append, List.length_append, List.length_map, List.length_singleton]
      at lengths
    omega
  · exact silent replies

/-- A node that handles received bytes alone ignores each request with the bytes of a short one. -/
theorem HandlesReceived.ignores_other (handles : HandlesReceived cfg first) (lacks : first.LacksField)
    (same : first.SameVisible second) (host : Host cfg size) :
    (serviceHandler {} host second).map Host.seen = some host.seen :=
  (handles.same {} host second defaultPlatform_reads same).symm.trans (handles.ignores {} host lacks)

/-- So it has no reply to such a message. -/
theorem HandlesReceived.not_accepts (handles : HandlesReceived cfg first) (lacks : first.LacksField)
    (service : Service.ofPort first.id.dport = some .cmp) (same : first.SameVisible second) (host : Host cfg size) :
    ¬CmpAccepts {} host second := by
  intro accepts
  have port : Service.ofPort second.id.dport = some .cmp := same.id ▸ service
  exact not_replies_of_seen (handles.ignores_other lacks same host) ⟨.cmp, port, accepts⟩

/-- Bytes behind the received ones, or equal to them, are not visible. -/
theorem Packet.sameVisible_put (packet : Packet) (offset : Nat) (bytes : List UInt8)
    (kept : ∀ index < packet.length.toNat, offset ≤ index → index < offset + bytes.length →
      bytes.getD (index - offset) 0 = packet.data index) : packet.SameVisible (packet.put offset bytes) where
  length := rfl
  id := rfl
  data index inside := by
    rw [Packet.put_data]
    split
    · rename_i range
      exact (kept index inside range.1 range.2).symm
    · rfl

/-- A message without its type or code may get a reply. -/
theorem HandlesReceived.typed (handles : HandlesReceived cfg first)
    (service : Service.ofPort first.id.dport = some .cmp) :
    1 ≤ first.length.toNat ∧ (first.data 0 = cmpRequest → 2 ≤ first.length.toNat) := by
  have ident (short : first.length.toNat < 2)
      (request : ∀ index < first.length.toNat, first.data index = cmpRequest) : False := by
    have lacks : first.LacksField := by
      rw [Packet.LacksField, service]
      exact .inl short
    have same := first.sameVisible_put 0 [cmpRequest, 1] (by
      intro index inside _ _
      obtain rfl : index = 0 := by omega
      exact (request 0 inside).symm)
    refine handles.not_accepts lacks service same (namedHost cfg []) ⟨?_, .ident, ?_, trivial⟩
    · rw [Packet.put_data]
      rfl
    · rw [Packet.put_data]
      rfl
  constructor
  · by_contra none
    exact ident (by omega) (fun index inside => absurd inside (by omega))
  · intro request
    by_contra short
    apply ident (by omega)
    intro index inside
    obtain rfl : index = 0 := by omega
    exact request

/-- The handler of a message that lacks a field may take leftovers for it, unless the length is out of range. -/
theorem HandlesReceived.fields (handles : HandlesReceived cfg first)
    (service : Service.ofPort first.id.dport = some .cmp) (request : first.data 0 = cmpRequest)
    {code : CmpCode} (known : CmpCode.ofByte (first.data 1) = some code) (two : 2 ≤ first.length.toNat)
    (short : first.length.toNat < code.fieldsEnd first) :
    code = .poke ∧ 7 ≤ first.length.toNat ∧ first.data 6 > cmpPokeMaxLen := by
  have lacks : first.LacksField := by
    rw [Packet.LacksField, service]
    exact .inr ⟨code, known, short⟩
  by_cases seven : 7 ≤ first.length.toNat
  · by_contra inRange
    have small : code = .peek ∨ code = .poke → first.data 6 ≤ 200 := by
      rintro (rfl | rfl)
      · exact absurd short (Nat.not_lt.mpr seven)
      · exact UInt8.not_lt.mp fun large => inRange ⟨rfl, seven, large⟩
    obtain ⟨host, accepts⟩ := code.accepts_somewhere cfg first small
    exact handles.not_accepts lacks service (.refl first) host ⟨request, code, known, accepts⟩
  · -- The length field of a memory message is a leftover here.
    have same := first.sameVisible_put 6 [0] (fun index inside start => absurd inside (by omega))
    have zero : (first.put 6 [0]).data 6 = 0 := by
      rw [Packet.put_data]
      rfl
    obtain ⟨host, accepts⟩ := code.accepts_somewhere cfg (first.put 6 [0]) fun _ => by rw [zero]; decide
    refine absurd ⟨?_, code, ?_, accepts⟩ (handles.not_accepts lacks service same host)
    · rw [← same.data 0 (by omega), request]
    · rw [← same.data 1 two, known]

/-- The table of a new node takes a route. -/
theorem namedHost_setRoute (cfg : Config) (name : List Char) (address : UInt16) (netmask : Int) (via : UInt16) :
    ∃ after, cmpRouteSet (namedHost cfg name) (some 0) address netmask via = some (.none, after) := by
  have bound : ¬Rtable.effectiveNetmask cfg netmask > idGetHostBits cfg := by
    rw [Rtable.effectiveNetmask]
    split <;> omega
  simp only [cmpRouteSet, Host.setRoute, Rtable.set, reduceCtorEq, false_or, bound, if_false]
  exact ⟨_, rfl⟩

/-- The reply to a route message has the bytes of the message up to the padding. -/
theorem routeSetV2_sent {name : List Char} (service : Service.ofPort first.id.dport = some .cmp)
    (request : first.data 0 = cmpRequest) (known : CmpCode.ofByte (first.data 1) = some .routeSetV2)
    (named : first.text 8 = name) :
    ((serviceHandler {} (namedHost cfg name) first).map Host.seen).map Observation.sent =
      some [(replyId first.id,
        (({ first with length := cmpSizeRouteSetV2 } : Packet).put 0 [cmpReply]).payload)] := by
  obtain ⟨after, routed⟩ := namedHost_setRoute cfg name (first.be16At 2) (first.be16At 6).toNat (first.be16At 4)
  have io := (cmpRouteSet_result routed).2
  have handled : cmpHandler {} (namedHost cfg name) first =
      some (.none, ({ first with length := cmpSizeRouteSetV2 } : Packet).put 0 [cmpReply], after) := by
    simp only [cmpHandler, request, known, cmpSwitch, doCmpRouteSetV2, named, namedHost_getByName, routed]
    rfl
  rw [serviceHandler_cmp service, handled, Option.map_some, Option.map_some, Option.map_some, cmpFinish,
    if_neg (not_not.mpr rfl), Host.reply_seen]
  simp only [Host.seen, io]
  rfl

/-- The padding of a reply is a leftover. -/
theorem HandlesReceived.padded (handles : HandlesReceived cfg first)
    (service : Service.ofPort first.id.dport = some .cmp) (request : first.data 0 = cmpRequest)
    (known : CmpCode.ofByte (first.data 1) = some .routeSetV2) : first.length.toNat ≠ 19 := by
  intro length
  let other := first.put 19 [first.data 19 + 1]
  have same : first.SameVisible other :=
    first.sameVisible_put 19 _ fun index inside start => absurd inside (by omega)
  have text : other.text 8 = first.text 8 := (same.text (by omega)).symm
  have seen := handles.same {} (namedHost cfg (first.text 8)) other defaultPlatform_reads same
  have sent := congrArg (Option.map Observation.sent) seen
  have request' : other.data 0 = cmpRequest := same.data 0 (by omega) ▸ request
  have known' : CmpCode.ofByte (other.data 1) = some .routeSetV2 := same.data 1 (by omega) ▸ known
  have service' : Service.ofPort other.id.dport = some .cmp := service
  rw [routeSetV2_sent service request known rfl, routeSetV2_sent service' request' known' text] at sent
  have payload := congrArg Prod.snd (List.singleton_inj.mp (Option.some.inj sent))
  have last := Packet.data_of_payload payload (show 19 < cmpSizeRouteSetV2.toNat by decide)
  change first.data 19 = other.data 19 at last
  rw [Packet.put_data] at last
  change first.data 19 = first.data 19 + 1 at last
  exact absurd last (by simp)

theorem HandlesReceived.wholeCmp (handles : HandlesReceived cfg first)
    (service : Service.ofPort first.id.dport = some .cmp) : first.WholeCmp := by
  obtain ⟨one, typed⟩ := handles.typed service
  refine ⟨one, fun request => ⟨typed request, fun code known => ?_⟩⟩
  by_cases short : first.length.toNat < code.fieldsEnd first
  · obtain ⟨rfl, seven, large⟩ := handles.fields service request known (typed request) short
    rw [CmpCode.needs, if_pos large]
    exact seven
  · cases code with
    | routeSetV2 =>
        have padded := handles.padded service request known
        simp only [CmpCode.needs, CmpCode.fieldsEnd] at short ⊢
        omega
    | poke =>
        simp only [CmpCode.needs, CmpCode.fieldsEnd] at short ⊢
        split <;> omega
    | _ => exact Nat.not_lt.mp short

/-- A short request that begins like a magic word may become it with leftovers. -/
theorem HandlesReceived.notMagic (handles : HandlesReceived cfg first)
    (service : Service.ofPort first.id.dport = some .reboot) (short : first.length.toNat < 4) {magicWord : UInt32}
    (magic : magicWord ∈ [cspRebootMagic, cspRebootShutdownMagic]) : ¬first.payload <+: be32Bytes magicWord := by
  intro begins
  have lacks : first.LacksField := by
    rw [Packet.LacksField, service]
    exact short
  have same := first.sameVisible_put 0 (be32Bytes magicWord) (by
    intro index inside _ _
    obtain ⟨rest, word⟩ := begins
    rw [← word, Nat.sub_zero, List.getD_append _ _ _ _ (first.payload_length ▸ inside)]
    simp [Packet.payload, Packet.dataBytes, inside])
  have unseen := handles.ignores_other lacks same (namedHost cfg [])
  rw [serviceHandler_reboot (by exact service), Packet.be32At_put] at unseen
  have acted := congrArg Observation.actions (Option.some.inj unseen)
  rw [List.mem_cons, List.mem_singleton] at magic
  rcases magic with rfl | rfl
  · change rebootActions cspRebootMagic = [] at acted
    exact absurd acted (by decide)
  · change rebootActions cspRebootShutdownMagic = [] at acted
    exact absurd acted (by decide)

/-- Exactly the whole requests are handled by their received bytes alone. -/
theorem handlesReceived_iff (packet : Packet) : HandlesReceived cfg packet ↔ packet.Whole := by
  constructor
  · intro handles
    unfold Packet.Whole
    split
    · rename_i service
      by_cases long : 4 ≤ packet.length.toNat
      · exact .inl long
      · exact .inr fun magicWord magic => handles.notMagic service (by omega) magic
    · rename_i service
      exact handles.wholeCmp service
    · trivial
  · intro whole
    exact ⟨fun platform host other reads same => serviceHandler_same reads same whole,
      fun platform host lacks => serviceHandler_ignores whole lacks⟩

/-- A reboot request of three bytes. The fourth byte of the magic word is a leftover. -/
def cutReboot : Packet :=
  { (default : Packet) with
    length := 3
    id := { (default : CspId) with src := 2, dst := 1, dport := 4, sport := 20 }
    mem := writeBytes (fun _ => 0) dataAt (be32Bytes cspRebootMagic) }

/-- The same three bytes in a buffer of zeros. -/
def clearedReboot : Packet :=
  { cutReboot with mem := writeBytes (fun _ => 0) dataAt ((be32Bytes cspRebootMagic).take 3) }

/-- The leftover reboots the node. -/
theorem cutReboot_reboots : ¬HandlesReceived {} cutReboot := by
  intro handles
  have seen := handles.same {} idleHost clearedReboot defaultPlatform_reads ⟨rfl, rfl, by decide⟩
  have actions : some [ServiceAction.reboot] = some [] := congrArg (Option.map Observation.actions) seen
  cases actions

end Libcsp

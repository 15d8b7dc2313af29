/-
This file shows that the remote calls of peek and poke read and write one memory.
-/
import Libcsp.Lib.Session
import Libcsp.RemoteCalls

namespace Libcsp

variable {cfg : Config} {size : Nat}

/-! ## The memory -/

/-- A request for the memory of a node. -/
inductive MemoryRequest where
  | peek (addr : UInt32) (len : UInt8)
  | poke (addr : UInt32) (bytes : List UInt8)
  deriving DecidableEq, Repr

/-- The bytes from an address on. Addresses wrap. -/
def loadFrom (memory : UInt32 → UInt8) (addr : UInt32) (len : Nat) : List UInt8 :=
  (List.range len).map fun index => memory (addr + UInt32.ofNat index)

/-- The memory after a store of one byte after the other. -/
def storeFrom (memory : UInt32 → UInt8) (addr : UInt32) : List UInt8 → UInt32 → UInt8
  | [] => memory
  | byte :: rest => storeFrom (Function.update memory addr byte) (addr + 1) rest

/-- A memory that answers each request with the bytes at its place. -/
def memoryServer : Server (UInt32 → UInt8) MemoryRequest (CspErr × List UInt8)
  | memory, .peek addr len => ((.none, loadFrom memory addr len.toNat), memory)
  | memory, .poke addr bytes => ((.none, bytes), storeFrom memory addr bytes)

theorem loadFrom_length (memory : UInt32 → UInt8) (addr : UInt32) (len : Nat) :
    (loadFrom memory addr len).length = len := by
  rw [loadFrom, List.length_map, List.length_range]

/-- A store writes each byte at its own address. -/
theorem storeFrom_eq (memory : UInt32 → UInt8) (addr : UInt32) (bytes : List UInt8) (short : bytes.length ≤ 2 ^ 32)
    (address : UInt32) :
    storeFrom memory addr bytes address = bytes.getD (address - addr).toNat (memory address) := by
  induction bytes generalizing memory addr with
  | nil => rfl
  | cons byte rest ih =>
      rw [List.length_cons] at short
      rw [storeFrom, ih _ _ (by omega)]
      by_cases first : address = addr
      · have outside : rest.length ≤ (addr - (addr + 1)).toNat := by
          have before : addr - (addr + 1) = 0xffffffff := by grind
          rw [before]
          change rest.length ≤ 2 ^ 32 - 1
          omega
        rw [first, List.getD_eq_default _ _ outside, Function.update_self, UInt32.sub_self]
        rfl
      · have next : (address - addr).toNat = (address - (addr + 1)).toNat + 1 := by
          have positive : (address - addr).toNat ≠ 0 := fun zero =>
            first (by have : address - addr = 0 := UInt32.toNat_inj.mp zero; grind)
          have step : address - (addr + 1) = (address - addr) - 1 := by grind
          have small : (1 : UInt32) ≤ address - addr := UInt32.le_iff_toNat_le.mpr (Nat.one_le_iff_ne_zero.mpr positive)
          rw [step, UInt32.toNat_sub_of_le _ _ small]
          change _ = _ - 1 + 1
          omega
        rw [next, List.getD_cons_succ, Function.update_of_ne first]

/-! ## Calls -/

def MemoryRequest.addr : MemoryRequest → UInt32
  | .peek addr _ => addr
  | .poke addr _ => addr

def MemoryRequest.len : MemoryRequest → UInt8
  | .peek _ len => len
  | .poke _ bytes => UInt8.ofNat bytes.length

def MemoryRequest.bytes : MemoryRequest → List UInt8
  | .peek _ _ => []
  | .poke _ bytes => bytes

/-- A call of `csp_cmp_peek` or `csp_cmp_poke` over its own connection. The message has old bytes in the fields that the
caller does not set. -/
structure MemoryCall (cfg : Config) where
  request : MemoryRequest
  conn : Ctx cfg
  type : UInt8
  code : UInt8
  old : List UInt8

/-- The message in the memory of the caller. -/
def MemoryCall.msg (call : MemoryCall cfg) : List UInt8 :=
  call.type :: call.code :: be32Bytes call.request.addr ++ call.request.len :: (call.request.bytes ++ call.old)

/-- The request is not too long for the message, and the connection is fresh. -/
structure MemoryCall.Valid (call : MemoryCall cfg) : Prop where
  size : call.msg.length = cmpMessageSize
  short : call.request.len ≤ cmpPeekMaxLen
  calls : call.conn.Calls 0 (10 + call.request.len.toNat)

/-- The data of a memory message. -/
def memoryData (bytes : List UInt8) (len : Nat) : List UInt8 := (bytes.drop 7).take len

/-- One remote call returns its error code and the data of its message. -/
def remoteMemory (platform : Platform) (there back : Carrier) :
    Server (Host cfg size) (MemoryCall cfg) (CspErr × List UInt8) := fun host call =>
  let cmp := match call.request with
    | .peek _ _ => cmpPeek (some call.conn) host call.msg (roundTrip platform there back)
    | .poke _ _ => cmpPoke (some call.conn) host call.msg (roundTrip platform there back)
  ((cmp.1, memoryData cmp.2.1 call.request.len.toNat), cmp.2.2)

/-! ## The server -/

/-- The bytes of a memory message. -/
def memoryMessage (code : UInt8) (addr : UInt32) (len : UInt8) (data : List UInt8) : List UInt8 :=
  (cmpRequest :: code :: be32Bytes addr ++ [len]) ++ data

/-- A packet with the fields of a memory message. -/
structure Packet.Asks (packet : Packet) (code : UInt8) (addr : UInt32) (len : UInt8) (data : List UInt8) : Prop where
  length : packet.length.toNat = 10 + len.toNat
  type : packet.data 0 = cmpRequest
  code : packet.data 1 = code
  addr : packet.be32At 2 = addr
  data : (List.range len.toNat).map (fun index => packet.data (7 + index)) = data
  len : packet.data 6 = len

theorem Packet.asks_of_payload {packet : Packet} {code len : UInt8} {addr : UInt32} {data padding : List UInt8}
    (payload : packet.payload = memoryMessage code addr len (data ++ padding)) (whole : data.length = len.toNat)
    (three : padding.length = 3) : packet.Asks code addr len data := by
  obtain ⟨count, total⟩ : ∃ count, count = len.toNat + 3 := ⟨_, rfl⟩
  have length : packet.length.toNat = 7 + count := by
    have behind : (data ++ padding).length = count := by rw [List.length_append, whole, three, total]
    rw [← packet.payload_length, payload, memoryMessage, List.length_append, behind]
    rfl
  have split : packet.dataBytes 7 ++ (List.range count).map (fun index => packet.data (7 + index)) =
      memoryMessage code addr len (data ++ padding) := by
    rw [← payload, Packet.payload, length, Packet.dataBytes, Packet.dataBytes, List.range_add, List.map_append,
      List.map_map]
    rfl
  obtain ⟨head, tail⟩ := List.append_inj split rfl
  rw [total, List.range_add, List.map_append] at tail
  have front := List.append_inj_left tail (by rw [List.length_map, List.length_range, whole])
  let shifted : Packet := { packet with mem := fun address => packet.mem (address + 2) }
  have fields : [packet.data 0, packet.data 1] ++ (shifted.dataBytes 4 ++ [packet.data 6]) =
      [cmpRequest, code] ++ (be32Bytes addr ++ [len]) := head
  obtain ⟨start, fields⟩ := List.append_inj fields rfl
  obtain ⟨word, last⟩ := List.append_inj fields rfl
  obtain ⟨type, start⟩ := List.cons.inj start
  have moved : shifted.be32At 0 = packet.be32At 2 := by
    simp only [Packet.be32At, be32, be16, shifted, Nat.add_assoc, Nat.reduceAdd]
  exact {
    length := by omega
    type
    code := List.head_eq_of_cons_eq start
    addr := moved.symm.trans (Packet.be32At_of_bytes word)
    data := front
    len := List.head_eq_of_cons_eq last }

/-- The data of a reply. -/
theorem Packet.payload_memoryData {packet : Packet} {len : Nat} (length : packet.length.toNat = 10 + len) :
    memoryData packet.payload len = (List.range len).map fun index => packet.data (7 + index) := by
  have parts : packet.length.toNat = 7 + (len + 3) := by omega
  rw [memoryData, Packet.payload, Packet.dataBytes, parts, List.range_add, List.map_append, List.map_map,
    List.drop_left' (by rw [List.length_map, List.length_range]), List.range_add, List.map_append,
    List.take_left' (by rw [List.length_map, List.length_range])]
  rfl

/-- The server answers a request with these bytes in the data of the message, and then it has this memory. -/
def AnswersData (platform : Platform) (host : Host cfg size) (request : Packet) (len : Nat) (data : List UInt8)
    (memory : UInt32 → UInt8) : Prop :=
  ∃ after bytes, Answers platform host request after bytes ∧ bytes.length = 10 + len ∧ memoryData bytes len = data ∧
    after.memory = memory

/-- A handled memory message is sent back with the type of a reply. -/
theorem cmpSwitch_answersData {platform : Platform} {host after : Host cfg size} {request reply : Packet}
    {code : CmpCode} {len : Nat} {data : List UInt8} (port : request.id.dport = 0) (type : request.data 0 = cmpRequest)
    (known : CmpCode.ofByte (request.data 1) = some code)
    (switched : cmpSwitch platform host request code = some (.none, reply, after)) (io : after.io = host.io)
    (id : reply.id = request.id) (length : reply.length.toNat = 10 + len)
    (bytes : (List.range len).map (fun index => reply.data (7 + index)) = data) :
    AnswersData platform host request len data after.memory := by
  have handled : serviceHandler platform host request = some (after.reply (reply.put 0 [cmpReply])) := by
    have service : Service.ofPort request.id.dport = some .cmp := by
      rw [port]
      rfl
    rw [serviceHandler_cmp service]
    simp only [cmpHandler, type, known, switched, ne_eq, not_true_eq_false, if_false]
    rfl
  have length' : (reply.put 0 [cmpReply]).length.toNat = 10 + len := length
  refine ⟨_, _, Host.reply_answers handled io id, ?_, ?_, rfl⟩
  · rw [Packet.payload_length, length']
  · rw [Packet.payload_memoryData length', ← bytes]
    apply List.map_congr_left
    intro index _
    rw [Packet.put_data, if_neg (by simp only [List.length_singleton]; omega)]

/-- A peek sends the bytes of the memory, and keeps the memory. -/
theorem Packet.Asks.peek {platform : Platform} {host : Host cfg size} {request : Packet} {addr : UInt32} {len : UInt8}
    {data : List UInt8} (asks : request.Asks cspCmpPeek addr len data) (port : request.id.dport = 0)
    (short : len ≤ cmpPeekMaxLen) :
    AnswersData platform host request len.toNat (loadFrom host.memory addr len.toNat) host.memory := by
  have switched : cmpSwitch platform host request .peek = some (.none,
      request.swapAddr.put 7 (loadFrom host.memory addr len.toNat), host.act (.peek addr len)) := by
    simp only [cmpSwitch, doCmpPeek, asks.addr, asks.len, if_neg (UInt8.not_lt.mpr short), loadFrom]
  have known : CmpCode.ofByte (request.data 1) = some .peek := congrArg CmpCode.ofByte asks.code
  apply @cmpSwitch_answersData cfg size platform host (host.act (.peek addr len)) request _ .peek _ _ port asks.type known
    switched rfl rfl asks.length
  apply List.ext_getElem (by rw [List.length_map, List.length_range, loadFrom_length])
  intro index _ inside
  rw [loadFrom_length] at inside
  rw [List.getElem_map, List.getElem_range, Packet.put_data, loadFrom_length, if_pos (by omega), Nat.add_sub_cancel_left,
    List.getD_eq_getElem _ _ (by rw [loadFrom_length]; exact inside)]

/-- A poke stores its bytes, and sends them back. -/
theorem Packet.Asks.poke {platform : Platform} {host : Host cfg size} {request : Packet} {addr : UInt32} {len : UInt8}
    {data : List UInt8} (asks : request.Asks cspCmpPoke addr len data) (port : request.id.dport = 0)
    (short : len ≤ cmpPokeMaxLen) :
    AnswersData platform host request len.toNat data (storeFrom host.memory addr data) := by
  have behind : ∀ index, request.swapAddr.data (7 + index) = request.data (7 + index) := fun index => by
    rw [Packet.swapAddr, Packet.put_data, if_neg (by simp only [List.length_reverse, be32Bytes_length]; omega)]
  have length : data.length = len.toNat := by rw [← asks.data, List.length_map, List.length_range]
  have stored : (fun address => data.getD (address - addr).toNat (host.memory address)) =
      storeFrom host.memory addr data := by
    funext address
    have := len.toNat_lt
    exact (storeFrom_eq host.memory addr data (by omega) address).symm
  have switched : cmpSwitch platform host request .poke = some (.none, request.swapAddr,
      { host.act (.poke addr data) with memory := storeFrom host.memory addr data }) := by
    simp only [cmpSwitch, doCmpPoke, asks.addr, asks.len, if_neg (UInt8.not_lt.mpr short), behind, asks.data, stored]
  have known : CmpCode.ofByte (request.data 1) = some .poke := congrArg CmpCode.ofByte asks.code
  have kept : (List.range len.toNat).map (fun index => request.swapAddr.data (7 + index)) = data := by
    simp only [behind, asks.data]
  exact cmpSwitch_answersData port asks.type known switched rfl rfl asks.length kept

/-! ## The client -/

/-- The bytes that a call sends behind the length field. A peek sends old bytes. -/
def MemoryCall.sentData (call : MemoryCall cfg) : List UInt8 :=
  (call.request.bytes ++ call.old).take call.request.len.toNat

/-- A call also sends the three bytes behind its data. -/
theorem MemoryCall.msg_take (call : MemoryCall cfg) (code : UInt8) :
    (cmpMessage code call.msg).take (10 + call.request.len.toNat) =
      memoryMessage code call.request.addr call.request.len (call.sentData ++
        ((call.request.bytes ++ call.old).drop call.request.len.toNat).take 3) := by
  have parts : cmpMessage code call.msg =
      (cmpRequest :: code :: be32Bytes call.request.addr ++ [call.request.len]) ++ (call.request.bytes ++ call.old) := rfl
  have count : 10 + call.request.len.toNat = 7 + (call.request.len.toNat + 3) := by omega
  rw [parts, count, List.take_append, List.take_of_length_le (Nat.le_add_right 7 _), MemoryCall.sentData,
    ← List.take_add]
  exact congrArg _ (congrArg (fun len => List.take len _) (Nat.add_sub_cancel_left 7 _))

theorem MemoryCall.Valid.room {call : MemoryCall cfg} (valid : call.Valid) (code : UInt8) :
    10 + call.request.len.toNat ≤ (cmpMessage code call.msg).length := by
  have length : (cmpMessage code call.msg).length = call.msg.length := rfl
  have short : call.request.len.toNat ≤ 200 := valid.short
  rw [length, valid.size, cmpMessageSize]
  omega

/-- The message has all bytes that a call sends behind the length field. -/
theorem MemoryCall.Valid.sent_length {call : MemoryCall cfg} (valid : call.Valid) :
    call.request.len.toNat + 3 ≤ (call.request.bytes ++ call.old).length := by
  have room := valid.room 0
  have length : (cmpMessage 0 call.msg).length = 7 + (call.request.bytes ++ call.old).length := by
    change (_ :: _ :: _ :: _ :: _ :: _ :: _ :: _ : List UInt8).length = _
    simp only [List.length_cons]
    omega
  omega

/-- A call that the server answers returns the data of the answer. -/
theorem MemoryCall.Valid.returns {call : MemoryCall cfg} (valid : call.Valid) {platform : Platform} (there back : Carrier)
    {host : Host cfg size} {code : UInt8} {data : List UInt8} {memory : UInt32 → UInt8}
    (answers : ∀ request : Packet, request.Asks code call.request.addr call.request.len call.sentData →
      request.id.dport = 0 → AnswersData platform host request call.request.len.toNat data memory) :
    let cmp := cspCmp (some call.conn) host code (cmpMemorySize call.msg) call.msg (roundTrip platform there back)
    cmp.1 = .none ∧ memoryData cmp.2.1 call.request.len.toNat = data ∧ cmp.2.2.memory = memory := by
  let size := 10 + call.request.len.toNat
  have calls : call.conn.Calls 0 (max size size) := by
    rw [Nat.max_self]
    exact valid.calls
  have room : size ≤ (cmpMessage code call.msg).length := valid.room code
  have small : size < 2 ^ 16 := by
    have : call.request.len.toNat ≤ 200 := valid.short
    omega
  have sent := valid.sent_length
  obtain ⟨status, bytes, inbuf, length, kept, dropped⟩ := @Ctx.Calls.transaction cfg _ call.conn 0 host
    (some (cmpMessage code call.msg)) size size calls (by omega) (roundTrip platform there back)
    (fun world bytes => world.memory = memory ∧ memoryData bytes call.request.len.toNat = data)
    fun sent buffer outbox => by
      let request := transactionRequest (some (cmpMessage code call.msg)) size buffer
      have payload := (there.payload call.conn.conn.idout request).trans
        ((transactionRequest_payload buffer room small).trans (call.msg_take code))
      obtain ⟨after, bytes, answer, length, dropped, kept⟩ := answers _
        (Packet.asks_of_payload payload (by rw [MemoryCall.sentData, List.length_take]; omega)
          (by rw [List.length_take, List.length_drop]; omega)) ((there.dport _ _).trans valid.calls.dport)
      exact ⟨after, bytes, ⟨kept, dropped⟩, length, answer.roundTrip outbox valid.calls.plainOut⟩
  have sizes : cmpMemorySize call.msg = size := rfl
  simp only [cspCmp, sizes]
  generalize cspTransaction (some call.conn) host (some (cmpMessage code call.msg)) size size
    (roundTrip platform there back) = result at status inbuf kept ⊢
  refine ⟨if_neg (by omega), ?_, kept⟩
  rw [inbuf, Option.getD_some, memoryData, List.drop_append_of_le_length (by omega), List.take_append_of_le_length]
  · exact dropped
  · rw [List.length_drop]
    omega

/-! ## Sessions -/

theorem MemoryCall.Valid.sentData_poke {call : MemoryCall cfg} (valid : call.Valid) {addr : UInt32} {bytes : List UInt8}
    (request : call.request = .poke addr bytes) : call.sentData = bytes := by
  have whole : call.msg.length = 7 + (bytes ++ call.old).length := by
    rw [MemoryCall.msg, request]
    change (_ :: _ :: _ :: _ :: _ :: _ :: _ :: _ : List UInt8).length = _
    simp only [List.length_cons, MemoryRequest.bytes]
    omega
  have short : bytes.length < 2 ^ 8 := by
    have size := valid.size
    rw [whole, cmpMessageSize, List.length_append] at size
    omega
  have len : (UInt8.ofNat bytes.length).toNat = bytes.length := by
    rw [UInt8.toNat_ofNat', Nat.mod_eq_of_lt short]
  rw [MemoryCall.sentData, request]
  simp only [MemoryRequest.bytes, MemoryRequest.len, len, List.take_left']

/-- One call is one access to the memory of the server. -/
theorem remoteMemory_refines (platform : Platform) (there back : Carrier) :
    @Server.Refines (Host cfg size) (MemoryCall cfg) (CspErr × List UInt8) _ _ _ (remoteMemory platform there back)
      memoryServer Host.memory MemoryCall.request id MemoryCall.Valid := by
  have step : ∀ (host : Host cfg size) (call : MemoryCall cfg), call.Valid →
      (remoteMemory platform there back host call).1 = (memoryServer host.memory call.request).1 ∧
        (remoteMemory platform there back host call).2.memory = (memoryServer host.memory call.request).2 := by
    intro host call valid
    obtain ⟨request, conn, type, code, old⟩ := call
    cases request with
    | peek addr len =>
        obtain ⟨err, data, memory⟩ := valid.returns there back fun packet asks port =>
          @Packet.Asks.peek cfg size platform host packet _ _ _ asks port valid.short
        exact ⟨Prod.ext err data, memory⟩
    | poke addr bytes =>
        obtain ⟨err, data, memory⟩ := valid.returns there back fun packet asks port =>
          @Packet.Asks.poke cfg size platform host packet _ _ _ asks port valid.short
        rw [valid.sentData_poke rfl] at data memory
        exact ⟨Prod.ext err data, memory⟩
  exact ⟨fun host call valid => (step host call valid).1, fun host call valid => (step host call valid).2⟩

/-- A client writes two bytes at the end of the addresses, and another client reads them back. -/
def wrapCalls : List (MemoryCall {}) :=
  [⟨.poke 0xffffffff [5, 6], callEnd 0, 9, 9, List.replicate 201 0⟩,
    ⟨.peek 0xffffffff 2, callEnd 0, 9, 9, List.replicate 203 0⟩]

end Libcsp

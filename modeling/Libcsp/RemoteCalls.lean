/-
This file follows a remote call from one node to the services of another node and back.
-/
import Libcsp.AcceptedSegment
import Libcsp.Loopback
import Libcsp.Transaction

namespace Libcsp

variable {cfg : Config} {size : Nat} {World : Type}

/-! ## The network -/

/-- A path without a loss carries the header and the bytes of a datagram from `csp_send_direct` of one node to the
other node, where the source address is the address of an interface. -/
structure Carrier where
  carry : CspId → Packet → Packet
  header : ∀ id packet, ∃ src, (carry id packet).id = { id with src }
  payload : ∀ id packet, (carry id packet).payload = packet.payload

/-- The network carries the last sent datagram to the services of the server, and it carries the answers back. A store
of the server outside its route table ends the exchange. -/
def roundTrip (platform : Platform) (there back : Carrier) (host : Host cfg size) (ctx : Ctx cfg) :
    Host cfg size × Ctx cfg :=
  match ctx.stack.io.outbox.getLast? with
  | none => (host, ctx)
  | some (id, request) =>
      match serviceHandler platform host (there.carry id request) with
      | none => (host, ctx)
      | some after =>
          let replies := after.io.outbox.drop host.io.outbox.length
          (after, replies.foldl (fun ctx reply => routeDeliver ctx (back.carry reply.1 reply.2)) ctx)

theorem Carrier.length (link : Carrier) (id : CspId) (packet : Packet) :
    (link.carry id packet).length = packet.length := Packet.length_of_payload (link.payload id packet)

theorem Carrier.flags (link : Carrier) (id : CspId) (packet : Packet) :
    (link.carry id packet).id.flags = id.flags := by
  obtain ⟨src, header⟩ := link.header id packet
  rw [header]

theorem Carrier.dport (link : Carrier) (id : CspId) (packet : Packet) :
    (link.carry id packet).id.dport = id.dport := by
  obtain ⟨src, header⟩ := link.header id packet
  rw [header]

theorem Carrier.plain (link : Carrier) {id : CspId} (packet : Packet) (plain : id.has cspFRdp = false) :
    (link.carry id packet).id.has cspFRdp = false := by
  rw [CspId.has, link.flags]
  exact plain

/-- A service answers a carried request with one reply of these bytes. -/
structure Answers (platform : Platform) (host : Host cfg size) (request : Packet) (after : Host cfg size)
    (bytes : List UInt8) : Prop where
  handled : serviceHandler platform host request = some after
  replied : after.seen.sent = host.seen.sent ++ [(replyId request.id, bytes)]

theorem Host.reply_answers {platform : Platform} {host before : Host cfg size} {request reply : Packet}
    (handled : serviceHandler platform host request = some (before.reply reply)) (outbox : before.io = host.io)
    (id : reply.id = request.id) : Answers platform host request (before.reply reply) reply.payload where
  handled := handled
  replied := by
    rw [before.reply_seen, id]
    simp only [Host.seen, outbox]

/-- The answer comes back to the client as one plain packet. -/
theorem Answers.roundTrip {platform : Platform} {there back : Carrier} {host after : Host cfg size} {ctx : Ctx cfg}
    {id : CspId} {request : Packet} {bytes : List UInt8} {earlier : List (CspId × Packet)}
    (sent : ctx.stack.io.outbox = earlier ++ [(id, request)]) (plain : id.has cspFRdp = false)
    (answers : Answers platform host (there.carry id request) after bytes) :
    ∃ reply : Packet, reply.payload = bytes ∧ reply.id.has cspFRdp = false ∧
      roundTrip platform there back host ctx = (after, routeDeliver ctx reply) := by
  have replied := answers.replied
  simp only [Host.seen] at replied
  obtain ⟨before, last, outbox, same, one⟩ := List.map_eq_append_iff.mp replied
  obtain ⟨⟨replyTo, reply⟩, rfl, entry⟩ := List.map_eq_singleton_iff.mp one
  obtain ⟨rfl, payload⟩ := Prod.mk.inj entry
  have count := congrArg List.length same
  rw [List.length_map, List.length_map] at count
  refine ⟨back.carry (replyId (there.carry id request).id) reply, (back.payload _ _).trans payload, ?_, ?_⟩
  · exact back.plain reply (there.plain request plain)
  · rw [Libcsp.roundTrip, sent, List.getLast?_concat]
    simp only [answers.handled, outbox, ← count, List.drop_left, List.foldl_cons, List.foldl_nil]

/-! ## Clients -/

/-- A connection that `csp_connect` opened without RDP for a call to this port. The client has a buffer of this size. -/
structure Ctx.Calls (ctx : Ctx cfg) (port : UInt8) (space : Nat) : Prop where
  inUse : ctx.conn.state = .open
  plainOut : ctx.conn.idout.has cspFRdp = false
  plainIn : ctx.conn.idin.has cspFRdp = false
  dport : ctx.conn.idout.dport = port
  client : ctx.conn.destSocket = none
  unread : ctx.conn.rxQueue.items = []
  room : 0 < cfg.connRxqueueLen
  buffer : (bufferGet ctx.stack.io.pool space).1.isSome = true

/-- `csp_connect` returns such a connection in the next free slot, unless the options of the call or the default options
ask for RDP. The client needs a free buffer behind it. -/
theorem cspConnect_calls {node : Node cfg} {slot : Nat} (next : node.nextSlot = some slot) (prio : UInt8) (dest : UInt16)
    (dport : UInt8) {opts : UInt32} (plain : hasOpt (connectOpts node.connDflSo opts) cspSoRdpReq = false) {space : Nat}
    (room : 0 < cfg.connRxqueueLen)
    (buffer : (bufferGet (cspConnect node prio dest dport opts).stack.io.pool space).1.isSome = true) :
    ((cspConnect node prio dest dport opts).ctx slot).Calls dport space := by
  obtain ⟨opened, renewed, connected⟩ := cspConnect_of_next next prio dest dport opts
  have conn : opened.conns slot = (node.conns slot).client node.connDflSo node.stack.now prio dest dport opts := by
    rw [renewed, Node.renew_own]
  have plainIn : (opened.conns slot).idin.has cspFRdp = false := by
    rw [conn]
    exact connectFlags_plain rfl plain
  have returned : cspConnect node prio dest dport opts = opened.setHeld slot true := by
    rw [connected, plainIn, if_neg Bool.false_ne_true]
  have same : ((cspConnect node prio dest dport opts).ctx slot).conn = opened.conns slot := by
    rw [returned]
    rfl
  refine ⟨?_, ?_, ?_, ?_, ?_, ?_, room, buffer⟩ <;> rw [same]
  · rw [conn]
    rfl
  · rw [conn]
    exact connectFlags_plain rfl plain
  · exact plainIn
  · rw [conn]
    rfl
  · rw [conn]
    rfl
  · rw [conn]
    rfl

theorem transactionRequest_payload {bytes : List UInt8} {outlen : Nat} (packet : Packet) (inside : outlen ≤ bytes.length)
    (small : outlen < 2 ^ 16) : (transactionRequest (some bytes) outlen packet).payload = bytes.take outlen := by
  have length : (UInt16.ofNat outlen).toNat = (bytes.take outlen).length := by
    rw [UInt16.toNat_ofNat', Nat.mod_eq_of_lt small, List.length_take, Nat.min_eq_left inside]
  simp only [transactionRequest, Packet.payload, Packet.dataBytes, length]
  exact writeBytes_map packet.mem dataAt (bytes.take outlen)

/-- The call sends one request. -/
theorem Ctx.Calls.sends {ctx : Ctx cfg} {port : UInt8} {space : Nat} (calls : ctx.Calls port space)
    (pool : Pool cfg) (request : Packet) : ∃ io : Io cfg, io.outbox = ctx.stack.io.outbox ++ [(ctx.conn.idout, request)] ∧
      cspSend { ctx with stack.io.pool := pool } (some request) = { ctx with stack.io := io } := by
  refine ⟨sendDirect { ctx.stack.io with pool } ctx.conn.idout (some request) none, ?_, ?_⟩
  · rw [sendDirect_outbox]
    rfl
  · simp only [cspSend, calls.inUse, ne_eq, not_true_eq_false, if_false, calls.plainOut, Bool.false_eq_true]

/-- The read behind the arrival of a reply returns this reply. -/
theorem Ctx.Calls.reads {ctx : Ctx cfg} {port : UInt8} {space : Nat} (calls : ctx.Calls port space)
    (stack : Stack cfg) {reply : Packet} (plain : reply.id.has cspFRdp = false) :
    (cspRead (routeDeliver { ctx with stack } reply)).1 = some reply := by
  have room : ctx.conn.rxQueue.items.length < cfg.connRxqueueLen := by
    rw [calls.unread]
    exact calls.room
  obtain ⟨rxQueue, items, delivered⟩ := @routeDeliver_plain cfg { ctx with stack } reply plain room
  rw [calls.unread, List.nil_append] at items
  let arrived : Ctx cfg := { conn := { ctx.conn with rxQueue, rxLog := ctx.conn.rxLog ++ [some reply] }, stack }
  have kept : routePost arrived = arrived := by simp only [routePost, arrived, calls.client]
  have read : cspRead arrived = (some reply, { arrived with conn := { arrived.conn with rxQueue := .empty } }) :=
    @cspRead_plain cfg arrived calls.inUse calls.plainIn reply items
  rw [delivered]
  change (cspRead (routePost arrived)).1 = _
  rw [kept, read]

/-- A transaction returns the answer of the network when it has the expected length. -/
theorem Ctx.Calls.transaction {ctx : Ctx cfg} {port : UInt8} {world : World} {outbuf : Option (List UInt8)}
    {inlen outlen : Nat} (calls : ctx.Calls port (max inlen outlen)) (expects : 0 < inlen)
    (during : World → Ctx cfg → World × Ctx cfg) {holds : World → List UInt8 → Prop}
    (answered : ∀ (sent : Ctx cfg) (buffer : Packet), sent.stack.io.outbox = ctx.stack.io.outbox ++
        [(ctx.conn.idout, transactionRequest outbuf outlen buffer)] →
      ∃ after bytes, holds after bytes ∧ bytes.length = inlen ∧ ∃ reply : Packet, reply.payload = bytes ∧
        reply.id.has cspFRdp = false ∧ during world sent = (after, routeDeliver sent reply)) :
    let call := cspTransaction (some ctx) world outbuf outlen inlen during
    call.status = inlen ∧ ∃ bytes, call.inbuf = some bytes ∧ bytes.length = inlen ∧ holds call.world bytes := by
  have space : (max (inlen : Int) outlen).toNat = max inlen outlen := by
    omega
  have buffer := calls.buffer
  simp only [cspTransaction, cspTransactionPersistent, space]
  generalize bufferGet ctx.stack.io.pool (max inlen outlen) = got at buffer
  obtain ⟨_ | packet, pool⟩ := got
  · cases buffer
  · obtain ⟨io, outbox, sends⟩ := calls.sends pool (transactionRequest outbuf outlen packet)
    obtain ⟨after, bytes, holding, length, reply, payload, plain, carried⟩ :=
      answered { ctx with stack.io := io } packet outbox
    have read := calls.reads { ctx.stack with io } plain
    have replyLength : reply.length.toNat = inlen := by rw [← reply.payload_length, payload, length]
    simp only [sends, carried, if_neg (show ¬(inlen : Int) = 0 by omega)]
    generalize cspRead (routeDeliver { ctx with stack.io := io } reply) = result at read
    obtain ⟨got, last⟩ := result
    obtain rfl : got = some reply := read
    simp only [transactionReply, replyLength, not_true_eq_false, and_false, ne_eq, if_false, payload, true_and]
    exact ⟨bytes, rfl, length, holding⟩

/-! ## Words -/

theorem beWord_be32Bytes (word : UInt32) : beWord (be32Bytes word) = word := by
  have small := word.toNat_lt
  apply UInt32.toNat_inj.mp
  simp only [beWord, be32Bytes, List.foldl_cons, List.foldl_nil, UInt32.toNat_add, UInt32.toNat_mul,
    UInt8.toNat_toUInt32, UInt32.toNat_toUInt8, UInt32.toNat_div, UInt32.reduceToNat]
  omega

theorem be32Bytes_injective : Function.Injective be32Bytes :=
  Function.LeftInverse.injective beWord_be32Bytes

theorem Packet.be32At_of_bytes {packet : Packet} {word : UInt32} (bytes : packet.dataBytes 4 = be32Bytes word) :
    packet.be32At 0 = word :=
  be32Bytes_injective ((be32Bytes_be32At packet).trans bytes)

theorem Packet.answer_payload (packet : Packet) (word : UInt32) : (packet.answer word).payload = be32Bytes word :=
  writeBytes_map packet.mem dataAt (be32Bytes word)

/-- The word that a node has for a service. -/
def Host.word (host : Host cfg size) (platform : Platform) : Service → Option UInt32
  | .memfree => some platform.memfreeHook
  | .bufFree => some (UInt32.ofNat host.io.pool.remaining)
  | .uptime => some platform.getS
  | _ => none

theorem Host.word_answers {platform : Platform} {host : Host cfg size} {request : Packet} {service : Service}
    {word : UInt32} (port : Service.ofPort request.id.dport = some service) (has : host.word platform service = some word) :
    Answers platform host request (host.reply (request.answer word)) (be32Bytes word) := by
  rw [← request.answer_payload word]
  refine Host.reply_answers ?_ rfl rfl
  cases service with
  | memfree | bufFree | uptime =>
      cases has
      simp only [serviceHandler, port]
  | _ => cases has

/-- A call gets the word that the server has when the request arrives. -/
theorem cspGetWord_returns {platform : Platform} {host : Host cfg size} {port : UInt8} {service : Service}
    {word : UInt32} (served : Service.ofPort port = some service) (has : host.word platform service = some word)
    (there back : Carrier) {connect : UInt8 → Option (Ctx cfg)} {ctx : Ctx cfg} (connects : connect port = some ctx)
    (calls : ctx.Calls port 4) : cspGetWord port connect host (roundTrip platform there back) = (.none, word) := by
  obtain ⟨status, bytes, inbuf, -, rfl⟩ := @Ctx.Calls.transaction cfg _ ctx port host none 4 0 calls (by decide)
    (roundTrip platform there back) (fun _ bytes => bytes = be32Bytes word) fun sent buffer outbox => by
      refine ⟨_, _, rfl, be32Bytes_length word, Answers.roundTrip outbox calls.plainOut (Host.word_answers ?_ has)⟩
      rw [there.dport, calls.dport, served]
  change (cspTransaction (some ctx) host none 0 4 (roundTrip platform there back)).status = 4 at status
  change (cspTransaction (some ctx) host none 0 4 (roundTrip platform there back)).inbuf = _ at inbuf
  simp only [cspGetWord, connects, status, inbuf, if_true, Option.getD_some, beWord_be32Bytes]

/-! ## Magic words -/

/-- A close of a plain connection sends nothing. -/
theorem Ctx.Calls.close_outbox {ctx : Ctx cfg} {port : UInt8} {space : Nat} (calls : ctx.Calls port space)
    (stack : Stack cfg) : (cspClose { ctx with stack }).stack.io.outbox = stack.io.outbox := by
  have unused : ctx.conn.usesRdp = false := by rw [Conn.usesRdp, calls.plainIn, calls.plainOut, Bool.or_false]
  obtain ⟨pool, flushed, -⟩ := flushRxList_frees stack.io ctx.conn.rxQueue.items
  simp only [cspClose, connClose, calls.inUse, unused, connRelease, connFlushRxQueue, calls.plainIn, flushed,
    reduceCtorEq, if_false, Bool.false_eq_true]

/-- The call ends at once, and its request makes the server do exactly this when it arrives. -/
structure Transaction.Causes (call : Transaction cfg World) (action : ServiceAction) (platform : Platform)
    (there back : Carrier) (host : Host cfg size) : Prop where
  status : call.status = 1
  caused : ∃ after, call.after = some after ∧ ∃ served, roundTrip platform there back host after = (served, after) ∧
    served.seen = (host.act action).seen

theorem cspSendMagic_causes {platform : Platform} {host : Host cfg size} {magicWord : UInt32} {action : ServiceAction}
    (magic : rebootActions magicWord = [action]) (there back : Carrier) {connect : UInt8 → Option (Ctx cfg)}
    {ctx : Ctx cfg} (connects : connect cspRebootPort = some ctx) (calls : ctx.Calls cspRebootPort 4) (world : World)
    (during : World → Ctx cfg → World × Ctx cfg) :
    (cspSendMagic magicWord connect world during).Causes action platform there back host := by
  have buffer := calls.buffer
  simp only [cspSendMagic, connects, cspTransaction, cspTransactionPersistent, Nat.cast_ofNat,
    show (max (0 : Int) 4).toNat = 4 from rfl, if_true]
  generalize bufferGet ctx.stack.io.pool 4 = got at buffer
  obtain ⟨_ | packet, pool⟩ := got
  · cases buffer
  · let request := transactionRequest (some (be32Bytes magicWord)) 4 packet
    obtain ⟨io, outbox, sends⟩ := calls.sends pool request
    refine ⟨rfl, cspClose { ctx with stack.io := io }, ?_, ?_⟩
    · change some (cspClose (cspSend _ (some request))) = _
      rw [sends]
    · have sent : (cspClose { ctx with stack.io := io }).stack.io.outbox =
          ctx.stack.io.outbox ++ [(ctx.conn.idout, request)] := (calls.close_outbox _).trans outbox
      have port : Service.ofPort (there.carry ctx.conn.idout request).id.dport = some .reboot := by
        rw [there.dport, calls.dport]
        rfl
      have payload : (there.carry ctx.conn.idout request).payload = be32Bytes magicWord :=
        (there.payload _ _).trans (transactionRequest_payload packet (be32Bytes_length magicWord).ge (by decide))
      have length : (there.carry ctx.conn.idout request).length.toNat = 4 := by
        rw [← Packet.payload_length, payload]
        rfl
      rw [Packet.payload, length] at payload
      simp only [roundTrip, sent, List.getLast?_concat, serviceHandler, port, Packet.be32At_of_bytes payload, magic]
      refine ⟨_, Prod.ext rfl ?_, rfl⟩
      simp only [Host.free, Io.free, List.drop_length, List.foldl_nil]

/-- The link sets only the header. -/
def plainCarrier : Carrier where
  carry id packet := { packet with id }
  header id _ := ⟨id.src, rfl⟩
  payload _ _ := rfl

def callingNode : Node {} := Node.init (Io.init {} (fun _ => default) [] []) default

/-- The client end of a call to the port of node 5. -/
def callEnd (port : UInt8) : Ctx {} := (cspConnect callingNode 2 5 port 0).ctx 1

theorem callEnd_calls (port : UInt8) {space : Nat} (fits : space ≤ 256) : (callEnd port).Calls port space := by
  refine cspConnect_calls (by decide) 2 5 port (by decide) (by decide) ?_
  rw [bufferGet, if_neg (Nat.not_lt.mpr fits)]
  rfl

end Libcsp

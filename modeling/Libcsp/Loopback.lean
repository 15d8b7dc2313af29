/-
This file shows that a client and a server of one node exchange packets over the loopback interface.
-/
import Libcsp.Demux
import Libcsp.SecurityCheck

namespace Libcsp

variable {cfg : Config}

/-! ## The loopback interface -/

/-- The loopback is the only interface. -/
structure Io.LoopbackOnly (io : Io cfg) : Prop where
  interfaces : io.interfaces = [ifLo]
  loopback : ∃ handed, io.ifaceAt ifLo = { loopback cfg with handed }

/-- The subnet of the loopback contains the address. -/
def loops (cfg : Config) (addr : UInt16) : Bool := iflistIsWithinSubnet cfg addr (some (loopback cfg))

theorem loops_zero (cfg : Config) : loops cfg 0 = true := by
  simp [loops, iflistIsWithinSubnet, loopback]

/-- A clone takes one free buffer. -/
theorem bufferClone_of_free {pool : Pool cfg} {packet : Packet} (fits : packet.length.toNat ≤ cfg.bufferSize)
    (free : 0 < pool.remaining) :
    ∃ buf after, bufferClone pool (some packet) = (some { packet with buf }, after) ∧
      pool.remaining = after.remaining + 1 := by
  rw [bufferClone_some]
  obtain ⟨-, large | empty⟩ | ⟨head, rest, -, items, got⟩ := bufferGet_cases pool packet.length.toNat
  · omega
  · simp [Pool.remaining, BoundedQueue.size, empty] at free
  · refine ⟨head.buf, _, by rw [got]; rfl, ?_⟩
    simp [Pool.remaining, BoundedQueue.size, items]

/-- A clone that fails takes no buffer. -/
theorem bufferClone_remaining (pool : Pool cfg) (packet : Packet) :
    pool.remaining ≤ (bufferClone pool (some packet)).2.remaining + 1 := by
  rw [bufferClone_some]
  obtain ⟨got, -⟩ | ⟨head, rest, -, items, got⟩ := bufferGet_cases pool packet.length.toNat
  · rw [got]
    exact Nat.le_succ _
  · rw [got]
    simp [Pool.remaining, BoundedQueue.size, items]

theorem promiscAdd_remaining (io : Io cfg) (packet : Packet) :
    io.pool.remaining ≤ (promiscAdd io packet).pool.remaining + 1 := by
  have cloned := bufferClone_remaining io.pool packet
  unfold promiscAdd
  split
  · generalize bufferClone io.pool (some packet) = result at cloned
    obtain ⟨_ | copy, pool⟩ := result
    · exact cloned
    · simp only
      split
      · exact cloned.trans (Nat.succ_le_succ (bufferFree_remaining pool (some copy)))
      · exact cloned
  · exact Nat.le_succ _

theorem promiscAdd_loopbackOnly {io : Io cfg} (only : io.LoopbackOnly) (packet : Packet) :
    (promiscAdd io packet).LoopbackOnly := by
  unfold promiscAdd
  split
  · split
    · exact ⟨only.interfaces, only.loopback⟩
    · split
      · exact ⟨only.interfaces, only.loopback⟩
      · exact ⟨only.interfaces, only.loopback⟩
  · exact only

/-- The loopback takes each packet for its subnet. -/
theorem sendsOn_loopback {io : Io cfg} (only : io.LoopbackOnly) {dst : UInt16} (covered : loops cfg dst = true) :
    sendsOn io dst none ifLo = true := by
  obtain ⟨handed, lo⟩ := only.loopback
  have within : iflistIsWithinSubnet cfg dst (some (io.ifaceAt ifLo)) = true := by
    rw [lo]
    exact covered
  have mask : (io.ifaceAt ifLo).netmask ≠ 0 := by
    rw [lo]
    show UInt16.ofNat (idGetHostBits cfg) ≠ 0
    unfold idGetHostBits
    split
    · decide
    · decide
  rw [sendsOn, within, bne_iff_ne.mpr mask]
  rfl

/-- The loopback keeps the packet with its trailers. -/
theorem sendDirectIface_loops {io : Io cfg} {handed : Nat} (lo : io.ifaceAt ifLo = { loopback cfg with handed })
    {idout : CspId} {packet framed : Packet} (via : UInt16)
    (sealed : sendTrailers cfg idout { packet with id := idout } true = .ok framed) :
    sendDirectIface io idout (some packet) ifLo via true = { io with
      ifaceAt := Function.update io.ifaceAt ifLo { loopback cfg with handed := handed + 1 }
      wire := io.wire ++ [(ifLo, via, framed)]
      kept := io.kept ++ [framed] } := by
  simp only [sendDirectIface, sealed, bne_self_eq_false, Bool.and_false, Bool.false_eq_true, if_false, callNexthop,
    Io.countCall, lo]
  rfl

/-- The loopback accepts a copy of the packet with its trailers, and takes one buffer at most. -/
theorem sendDirect_loops {io : Io cfg} (only : io.LoopbackOnly) {idout : CspId} (covered : loops cfg idout.dst = true)
    {packet : Packet} (fits : packet.length.toNat + idout.trailers ≤ cfg.bufferSize)
    (free : 0 < io.pool.remaining) :
    ∃ framed, (sendDirect io idout (some packet) none).LoopbackOnly ∧
      (sendDirect io idout (some packet) none).wire = io.wire ++ [(ifLo, noViaAddress, framed)] ∧
      io.pool.remaining ≤ (sendDirect io idout (some packet) none).pool.remaining + 1 ∧
      framed.id = { idout with src := 0 } ∧
      ∀ opts, framed.id.Carries opts →
        ∃ checked, routeSecurityCheck cfg opts framed = (.none, checked) ∧
          checked.id = framed.id ∧ checked.payload = packet.payload := by
  obtain ⟨handed, lo⟩ := only.loopback
  obtain ⟨buf, pool, cloned, remaining⟩ := @bufferClone_of_free cfg io.pool packet (by omega) free
  obtain ⟨framed, sealed, id, checks⟩ :=
    @sendTrailers_checked cfg { packet with buf, id := { idout with src := 0 } } fits
  refine ⟨framed, ?_⟩
  have sent : sendDirect io idout (some packet) none = { io with
      pool := bufferFree pool (some packet)
      ifaceAt := Function.update io.ifaceAt ifLo { loopback cfg with handed := handed + 1 }
      outbox := io.outbox ++ [(idout, packet)]
      wire := io.wire ++ [(ifLo, noViaAddress, framed)]
      kept := io.kept ++ [framed] } := by
    have looped (ifaces : List Nat) (one : ifaces = [ifLo]) : sendDirectLoop idout (some packet) none ifaces
        (false, { io with outbox := io.outbox ++ [(idout, packet)] }) = (true, { io with
          pool
          ifaceAt := Function.update io.ifaceAt ifLo { loopback cfg with handed := handed + 1 }
          outbox := io.outbox ++ [(idout, packet)]
          wire := io.wire ++ [(ifLo, noViaAddress, framed)]
          kept := io.kept ++ [framed] }) := by
      subst one
      have sends : sendsOn { io with outbox := io.outbox ++ [(idout, packet)] } idout.dst none ifLo = true :=
        sendsOn_loopback ⟨only.interfaces, only.loopback⟩ covered
      simp only [sendDirectLoop, if_pos sends, cloned, lo, Option.isNone_none]
      apply congrArg (Prod.mk true)
      exact @sendDirectIface_loops cfg { io with pool, outbox := io.outbox ++ [(idout, packet)] } handed lo
        { idout with src := 0 } { packet with buf } framed noViaAddress sealed
    simp only [sendDirect, Option.map_some, Option.toList_some, sendDirectBody]
    rw [looped io.interfaces only.interfaces]
  rw [sent]
  refine ⟨⟨only.interfaces, handed + 1, Function.update_self ifLo _ io.ifaceAt⟩, rfl, ?_, id, ?_⟩
  · have more := bufferFree_remaining pool (some packet)
    show io.pool.remaining ≤ (bufferFree pool (some packet)).remaining + 1
    omega
  · intro opts carries
    rw [id] at carries
    obtain ⟨checked, passed, kept, payload⟩ := checks opts carries
    exact ⟨checked, passed, kept.trans id.symm, payload⟩

/-! ## Sends and the router -/

/-- The loopback is the only interface of the node, and the router looks for no duplicates. -/
structure Node.LoopbackOnly (node : Node cfg) : Prop where
  io : node.stack.io.LoopbackOnly
  dedup : node.dedupMode = .off

/-- No connection in use is an RDP connection. -/
def Node.Plain (node : Node cfg) : Prop :=
  ∀ slot, (node.conns slot).state = .open → (node.conns slot).idin.has cspFRdp = false

/-- The first packet that a call gave to an interface, as the loopback queues it for the router. -/
def Node.transmitted (before after : Node cfg) : Option (Nat × Packet) :=
  (after.stack.io.wire.drop before.stack.io.wire.length).head?.map fun entry => (entry.1, entry.2.2)

/-- A connection sends a packet, and the router reads it from the loopback. -/
def Node.sendAndRoute (node : Node cfg) (slot : Nat) (packet : Packet) : Node cfg :=
  let sent := node.put slot (cspSend (node.ctx slot) (some packet))
  routeWork sent (node.transmitted sent)

/-- Timeouts concern RDP connections only. -/
theorem connCheckTimeouts_plain {node : Node cfg} (plain : node.Plain) : connCheckTimeouts node = node := by
  unfold connCheckTimeouts
  generalize List.range cfg.connMax = slots
  induction slots with
  | nil => rfl
  | cons slot rest ih =>
      rw [checkTimeoutsOn]
      split
      · rename_i rdp
        simp only [Bool.and_eq_true, decide_eq_true_eq] at rdp
        rw [plain slot rdp.1] at rdp
        cases rdp.2
      · exact ih

/-- Each packet from the loopback is for this node. -/
theorem isToMe_loopback (handed : Nat) (packet : Packet) :
    isToMe cfg { loopback cfg with handed } packet = true := by
  have whole : 2 ^ (idGetHostBits cfg - (UInt16.ofNat (idGetHostBits cfg)).toNat) - 1 = 0 := by
    unfold idGetHostBits
    split
    · decide
    · decide
  have broadcast : idIsBroadcast cfg packet.id.dst (UInt16.ofNat (idGetHostBits cfg)) = true := by
    rw [idIsBroadcast, whole]
    simp
  rw [isToMe, loopback, broadcast, Bool.or_true]

theorem routeWork_loops {node : Node cfg} (only : node.LoopbackOnly) (plain : node.Plain) (packet : Packet) :
    routeWork node (some (ifLo, packet)) =
      (routeLocal (node.setIo (promiscAdd node.stack.io packet)) packet).finish := by
  obtain ⟨handed, lo⟩ := (promiscAdd_loopbackOnly only.io packet).loopback
  have mode : (node.setIo (promiscAdd node.stack.io packet)).dedupMode = .off := only.dedup
  have toMe : isToMe cfg ((node.setIo (promiscAdd node.stack.io packet)).stack.io.ifaceAt ifLo) packet = true := by
    rw [show (node.setIo (promiscAdd node.stack.io packet)).stack.io = promiscAdd node.stack.io packet from rfl, lo]
    exact isToMe_loopback handed packet
  simp only [routeWork, connCheckTimeouts_plain plain, routeInput, mode, toMe]
  rfl

theorem Node.put_io (node : Node cfg) (slot : Nat) (io : Io cfg) :
    node.put slot { node.ctx slot with stack.io := io } = node.setIo io := by
  simp only [Node.put, Slots.put, Slots.ctx, Function.update_eq_self, if_true]
  rfl

/-- A packet of a plain connection reaches the local part of the router, which can check it. -/
theorem sendAndRoute_local {node : Node cfg} (only : node.LoopbackOnly) (plain : node.Plain) {slot : Nat}
    (inUse : (node.conns slot).state = .open) (noRdp : (node.conns slot).idout.has cspFRdp = false)
    (covered : loops cfg (node.conns slot).idout.dst = true) {packet : Packet}
    (fits : packet.length.toNat + (node.conns slot).idout.trailers ≤ cfg.bufferSize)
    (free : 0 < node.stack.io.pool.remaining) :
    ∃ io framed, node.sendAndRoute slot packet = (routeLocal (node.setIo io) framed).finish ∧ io.LoopbackOnly ∧
      node.stack.io.pool.remaining ≤ io.pool.remaining + 2 ∧
      framed.id = { (node.conns slot).idout with src := 0 } ∧
      ∀ opts, framed.id.Carries opts → ∃ checked, routeSecurityCheck cfg opts framed = (.none, checked) ∧
        checked.id = framed.id ∧ checked.payload = packet.payload := by
  obtain ⟨framed, looped, wire, less, id, checks⟩ := @sendDirect_loops cfg _ only.io _ covered packet fits free
  generalize sent : sendDirect node.stack.io (node.conns slot).idout (some packet) none = io at looped wire less
  have put : node.put slot (cspSend (node.ctx slot) (some packet)) = node.setIo io := by
    rw [← node.put_io slot io, ← sent]
    have open' : ¬(node.ctx slot).conn.state ≠ .open := fun closed => closed inUse
    have bare : (node.ctx slot).conn.idout.has cspFRdp = false := noRdp
    rw [cspSend, if_neg open', if_neg (by simp [bare])]
    rfl
  have read : node.transmitted (node.setIo io) = some (ifLo, framed) := by
    rw [Node.transmitted, show (node.setIo io).stack.io.wire = _ from wire, List.drop_left]
    rfl
  refine ⟨promiscAdd io framed, framed, ?_, promiscAdd_loopbackOnly looped framed, ?_, id,
    checks⟩
  · rw [Node.sendAndRoute, put, read]
    exact @routeWork_loops cfg (node.setIo io) ⟨looped, only.dedup⟩ plain framed
  · have copied := promiscAdd_remaining io framed
    omega

/-! ## Deliveries -/

/-- The flush of a receive queue changes only the pool, and frees buffers. -/
theorem flushRxList_frees (io : Io cfg) (packets : List (Option Packet)) :
    ∃ pool, flushRxList io packets = { io with pool } ∧ io.pool.remaining ≤ pool.remaining := by
  induction packets generalizing io with
  | nil => exact ⟨io.pool, rfl, le_rfl⟩
  | cons packet rest ih =>
      obtain ⟨pool, flushed, more⟩ := ih { io with pool := bufferFree io.pool packet }
      exact ⟨pool, flushed, (bufferFree_remaining io.pool packet).trans more⟩

theorem portGetCallback_of_socket {node : Node cfg} {port : UInt8} {socket : Nat}
    (bound : portGetSocket node port = some socket) : portGetCallback node port = false := by
  have low := portGetSocket_bound bound
  rw [portGetSocket, if_neg (by omega)] at bound
  rw [portGetCallback, if_neg (by omega)]
  cases own : node.ports port.toNat with
  | openCb =>
      rw [own] at bound
      cases bound
  | «open» socket => rfl
  | closed =>
      simp only [own] at bound ⊢
      cases any : node.ports (cfg.portMaxBind + 1) with
      | openCb =>
          rw [any] at bound
          cases bound
      | _ => rfl

/-- A plain packet goes to the receive queue of its connection. -/
theorem routeDeliver_plain {ctx : Ctx cfg} {packet : Packet} (plain : packet.id.has cspFRdp = false)
    (room : ctx.conn.rxQueue.items.length < cfg.connRxqueueLen) :
    ∃ rxQueue, rxQueue.items = ctx.conn.rxQueue.items ++ [some packet] ∧
      routeDeliver ctx packet = routePost { ctx with
        conn := { ctx.conn with rxQueue, rxLog := ctx.conn.rxLog ++ [some packet] } } := by
  have short : (ctx.conn.rxQueue.items ++ [some packet]).length ≤ cfg.connRxqueueLen := by
    simp only [List.length_append, List.length_singleton]
    omega
  refine ⟨⟨ctx.conn.rxQueue.items ++ [some packet], short⟩, rfl, ?_⟩
  rw [routeDeliver, plain, if_neg (by simp), routePlain, connEnqueuePacket,
    BoundedQueue.enqueue_of_room (some packet) room]

/-- A packet for a port of this node that is not in the port table goes to its connection. -/
theorem routeLocal_found {node : Node cfg} {slot : Nat} {packet checked : Packet}
    (above : cfg.portMaxBind < packet.id.dport.toNat) (found : connFindExisting node packet.id = some slot)
    (passed : routeSecurityCheck cfg (node.conns slot).opts packet = (.none, checked)) :
    routeLocal node packet = .deliver node slot checked := by
  simp only [routeLocal, portGetCallback, portGetSocket, if_pos above, Option.filter_none, routeConnection, found,
    passed]
  rfl

/-- A packet that matches no connection opens one for the socket of its port. -/
theorem routeLocal_opens {node : Node cfg} {socket slot : Nat} {packet checked : Packet}
    (bound : portGetSocket node packet.id.dport = some socket)
    (conns : hasOpt (node.stack.sockets socket).opts cspSoConnLess = false)
    (missing : connFindExisting node packet.id = none)
    (passed : routeSecurityCheck cfg (node.stack.sockets socket).opts packet = (.none, checked))
    (same : checked.id = packet.id) (next : node.nextSlot = some slot) :
    routeLocal node packet = .deliver (node.renew slot ((node.conns slot).server node.stack.now packet.id socket
      (node.stack.sockets socket).opts)) slot checked := by
  simp only [routeLocal, portGetCallback_of_socket bound, bound, Option.filter_some, conns, Bool.false_eq_true,
    if_false, routeConnection, missing, passed, same, connNew_of_next next, Node.renew, Node.allocate,
    Function.update_self, Function.update_idem]
  rfl

/-- The new server connection holds the packet, and its socket gets it. -/
theorem finish_serves {node : Node cfg} {slot socket : Nat} {now opts : UInt32} {id : CspId} {checked : Packet}
    (index : (node.conns slot).index = slot) (plain : checked.id.has cspFRdp = false)
    (room : (node.stack.sockets socket).rxQueue.items.length < cfg.connRxqueueLen) :
    ∃ after rxQueue rxLog, (Routed.deliver (node.renew slot ((node.conns slot).server now id socket opts)) slot
        checked).finish = after ∧
      rxQueue.items = [some checked] ∧
      after.conns = Function.update node.conns slot
        { (node.conns slot).server now id socket opts with rxQueue, rxLog, destSocket := none } ∧
      (after.stack.sockets socket).rxQueue.items = (node.stack.sockets socket).rxQueue.items ++ [.inr slot] ∧
      after.stack.io = flushRxList node.stack.io (node.conns slot).rxQueue.items ∧
      after.dedupMode = node.dedupMode := by
  have empty : ((node.renew slot ((node.conns slot).server now id socket opts)).ctx slot).conn =
      (node.conns slot).server now id socket opts := node.renew_own slot _
  obtain ⟨rxQueue, items, delivered⟩ := @routeDeliver_plain cfg
    ((node.renew slot ((node.conns slot).server now id socket opts)).ctx slot) checked plain (by
      rw [empty]
      exact Nat.zero_lt_of_lt room)
  rw [empty] at items delivered
  refine ⟨_, rxQueue, (node.conns slot).rxLog ++ [some checked], rfl, items, ?_⟩
  have posted : ((node.renew slot ((node.conns slot).server now id socket opts)).ctx slot).stack.post socket slot =
      some { node.stack with
        io := flushRxList node.stack.io (node.conns slot).rxQueue.items
        sockets := Function.update node.stack.sockets socket { node.stack.sockets socket with
          rxQueue := ⟨(node.stack.sockets socket).rxQueue.items ++ [.inr slot], by
            simp only [List.length_append, List.length_singleton]
            omega⟩ }
        posted := node.stack.posted ++ [slot] } := by
    simp only [Slots.ctx, Node.renew, Node.allocate, Stack.post, BoundedQueue.enqueue_of_room _ room]
  have own : ((node.conns slot).server now id socket opts).index = slot := index
  have waits : ((node.conns slot).server now id socket opts).destSocket = some socket := rfl
  simp only [Routed.finish, delivered, routePost, waits, own, posted]
  refine ⟨?_, ?_, rfl, rfl⟩
  · simp only [Node.put, Slots.put, Node.renew, Node.allocate, Function.update_idem]
    rfl
  · simp only [Node.put, Slots.put, Function.update_self]

/-- A packet for a connection that no socket waits for changes only its receive queue. -/
theorem finish_found {node : Node cfg} {slot : Nat} {checked : Packet} (plain : checked.id.has cspFRdp = false)
    (posted : (node.conns slot).destSocket = none)
    (room : (node.conns slot).rxQueue.items.length < cfg.connRxqueueLen) :
    ∃ rxQueue rxLog, rxQueue.items = (node.conns slot).rxQueue.items ++ [some checked] ∧
      (Routed.deliver node slot checked).finish =
        { node with conns := Function.update node.conns slot { node.conns slot with rxQueue, rxLog } } := by
  obtain ⟨rxQueue, items, delivered⟩ := @routeDeliver_plain cfg (node.ctx slot) checked plain room
  refine ⟨rxQueue, (node.conns slot).rxLog ++ [some checked], items, ?_⟩
  have done : (node.ctx slot).conn.destSocket = none := posted
  simp only [Routed.finish, delivered, routePost, done]
  simp only [Node.put, Slots.put, Slots.ctx, posted, if_true]

/-- A read of a plain connection takes the head of its queue. -/
theorem cspRead_plain {ctx : Ctx cfg} (inUse : ctx.conn.state = .open) (plain : ctx.conn.idin.has cspFRdp = false)
    {packet : Packet} (items : ctx.conn.rxQueue.items = [some packet]) :
    cspRead ctx = (some packet, { ctx with conn := { ctx.conn with rxQueue := .empty } }) := by
  have head : ctx.conn.rxQueue.dequeue = some (some packet, .empty) := BoundedQueue.dequeue_eq_some.mpr items
  simp only [cspRead, inUse, ne_eq, not_true, if_false, head, plain, Bool.false_and, Bool.false_eq_true]

/-! ## Options -/

/-- A connect asks for the trailers that its options require. -/
theorem connectFlags_carries {id : CspId} {opts : UInt32} (flags : id.flags = connectFlags opts) :
    id.Carries opts := by
  constructor
  · intro crc32
    simp only [CspId.has, flags, connectFlags, crc32]
    cases hasOpt opts cspSoRdpReq <;> cases hasOpt opts cspSoHmacReq <;> rfl
  · intro hmac
    simp only [CspId.has, flags, connectFlags, hmac]
    cases hasOpt opts cspSoRdpReq <;> cases hasOpt opts cspSoCrc32Req <;> rfl
  · intro rdp
    simp only [CspId.has, flags, connectFlags, rdp]
    cases hasOpt opts cspSoHmacReq <;> cases hasOpt opts cspSoCrc32Req <;> rfl

/-- No option takes CSP_O_RDP back. -/
theorem connectOpts_rdp {opts : UInt32} (rdp : hasOpt opts cspSoRdpReq = true) (connDflSo : UInt32) :
    hasOpt (connectOpts connDflSo opts) cspSoRdpReq = true := by
  have asked : hasOpt (opts ||| connDflSo) cspSoRdpReq = true := by rw [hasOpt_or, rdp, Bool.true_or]
  simp only [connectOpts]
  split
  · have bit : ~~~cspSoCrc32Req &&& cspSoRdpReq = cspSoRdpReq := by decide
    rw [hasOpt, UInt32.and_assoc, bit]
    exact asked
  · exact asked

theorem connectFlags_plain {id : CspId} {opts : UInt32} (flags : id.flags = connectFlags opts)
    (noRdp : hasOpt opts cspSoRdpReq = false) : id.has cspFRdp = false := by
  simp only [CspId.has, flags, connectFlags, noRdp]
  cases hasOpt opts cspSoHmacReq <;> cases hasOpt opts cspSoCrc32Req <;> rfl

/-! ## Replies -/

/-- The server connection is the other side of the client connection, which reads nothing else. -/
structure Node.Answers (node : Node cfg) (client server : Nat) : Prop where
  clientInUse : (node.conns client).state = .open
  clientType : (node.conns client).type = .client
  posted : (node.conns client).destSocket = none
  waits : (node.conns client).rxQueue.items = []
  clientPlain : (node.conns client).idin.has cspFRdp = false
  serverInUse : (node.conns server).state = .open
  serverPlain : (node.conns server).idout.has cspFRdp = false
  port : (node.conns server).idout.dport = (node.conns client).idin.dport
  covered : loops cfg (node.conns server).idout.dst = true
  carries : ∀ src, CspId.Carries { (node.conns server).idout with src } (node.conns client).opts

/-- A reply of the server reaches its client and no other connection. -/
theorem Node.Answers.reply {node : Node cfg} {client server : Nat} (answers : node.Answers client server)
    (demuxed : node.Demuxed) (ports : cfg.portMaxBind + cfg.connMax ≤ 63) (only : node.LoopbackOnly)
    (plain : node.Plain) (some' : 0 < cfg.connRxqueueLen) {packet : Packet}
    (fits : packet.length.toNat + (node.conns server).idout.trailers ≤ cfg.bufferSize)
    (free : 0 < node.stack.io.pool.remaining) :
    ∃ back answer, node.sendAndRoute server packet = back ∧ answer.payload = packet.payload ∧
      (cspRead (back.ctx client)).1 = some answer ∧
      ∀ other, other ≠ client → back.conns other = node.conns other := by
  obtain ⟨io, framed, routed, -, -, id, checks⟩ := sendAndRoute_local only plain answers.serverInUse
    answers.serverPlain answers.covered fits free
  have port : framed.id.dport = (node.conns client).idin.dport := by
    rw [id]
    exact answers.port
  obtain ⟨checked, passed, same, payload⟩ := checks (node.conns client).opts (by
    rw [id]
    exact answers.carries 0)
  have own := demuxed.client_port ports answers.clientInUse answers.clientType
  have found : connFindExisting (node.setIo io) framed.id = some client := by
    have accepts : (node.conns client).accepts framed.id = true :=
      (Conn.accepts_iff _ _).mpr ⟨answers.clientInUse, .inl ⟨answers.clientType, port.symm⟩⟩
    exact demuxed.find_of_accepts ports (List.mem_range.mpr (demuxed.inside client answers.clientInUse)) accepts
  have delivers : routeLocal (node.setIo io) framed = .deliver (node.setIo io) client checked := by
    apply routeLocal_found _ found passed
    rw [port, own]
    omega
  obtain ⟨rxQueue, rxLog, items, finished⟩ := @finish_found cfg (node.setIo io) client checked (by
    rw [same, id]
    exact answers.serverPlain) answers.posted (by
    rw [show ((node.setIo io).conns client).rxQueue.items = [] from answers.waits]
    exact some')
  rw [delivers, finished] at routed
  rw [show ((node.setIo io).conns client).rxQueue.items = [] from answers.waits, List.nil_append] at items
  refine ⟨_, checked, routed, payload, ?_, fun other different => Function.update_of_ne different _ _⟩
  have read := @cspRead_plain cfg ⟨{ node.conns client with rxQueue, rxLog }, (node.setIo io).stack⟩
    answers.clientInUse answers.clientPlain checked items
  simp only [Slots.ctx, Function.update_self]
  exact congrArg Prod.fst read

/-! ## Requests -/

/-- A server waits on the socket for connections to the port, and its connections to the port still have
their clients. -/
structure Node.Listens (node : Node cfg) (socket : Nat) (dport : UInt8) : Prop where
  bound : portGetSocket node dport = some socket
  conns : hasOpt (node.stack.sockets socket).opts cspSoConnLess = false
  room : (node.stack.sockets socket).rxQueue.items.length < cfg.connRxqueueLen
  peers : ∀ slot, (node.conns slot).state = .open → (node.conns slot).type = .server →
    (node.conns slot).idin.dport = dport → ∃ peer, node.OwnsPort peer (node.conns slot).idin.sport

/-- The server sees the connection of the client from the other side. -/
structure Conn.Mirrors (server client : Conn cfg) : Prop where
  pri : server.idin.pri = client.idout.pri
  flags : server.idin.flags = client.idout.flags
  dport : server.idin.dport = client.idout.dport
  sport : server.idin.sport = client.idout.sport
  answers : server.idin.sport = client.idin.dport

/-- The client is new, and a free slot is left for its server. -/
structure Node.Requests (node : Node cfg) (client : Nat) (dport : UInt8) : Prop where
  inUse : (node.conns client).state = .open
  type : (node.conns client).type = .client
  posted : (node.conns client).destSocket = none
  waits : (node.conns client).rxQueue.items = []
  plain : (node.conns client).idout.has cspFRdp = false
  covered : loops cfg (node.conns client).idout.dst = true
  source : (node.conns client).idout.src = 0
  port : (node.conns client).idout.dport = dport
  flags : (node.conns client).idin.flags = (node.conns client).idout.flags
  options : (node.conns client).idout.flags = connectFlags (node.conns client).opts
  spare : ∃ slot, slot < cfg.connMax ∧ (node.conns slot).state = .closed
  unmet : ∀ slot, (node.conns slot).state = .open → (node.conns slot).type = .server →
    (node.conns slot).idin.dport = dport → (node.conns slot).idin.sport ≠ (node.conns client).idout.sport

/-- The first packet of the client opens the server connection, which holds it. -/
theorem Node.Requests.serve {node : Node cfg} {client socket : Nat} {dport : UInt8}
    (requests : node.Requests client dport) (demuxed : node.Demuxed) (indexed : node.Indexed) (ports : cfg.portMaxBind + cfg.connMax ≤ 63)
    (only : node.LoopbackOnly) (plain : node.Plain) (bound : portGetSocket node dport = some socket)
    (conns : hasOpt (node.stack.sockets socket).opts cspSoConnLess = false)
    (room : (node.stack.sockets socket).rxQueue.items.length < cfg.connRxqueueLen)
    (carries : (node.conns client).idout.Carries (node.stack.sockets socket).opts) {packet : Packet}
    (fits : packet.length.toNat + (node.conns client).idout.trailers ≤ cfg.bufferSize)
    (free : 0 < node.stack.io.pool.remaining) :
    ∃ server after received rxQueue rxLog, node.sendAndRoute client packet = after ∧
      (node.conns server).state = .closed ∧ received.payload = packet.payload ∧ rxQueue.items = [some received] ∧
      after.conns = Function.update node.conns server
        { (node.conns server).server node.stack.now (node.conns client).idout socket
            (node.stack.sockets socket).opts with rxQueue, rxLog, destSocket := none } ∧
      (after.stack.sockets socket).rxQueue.items = (node.stack.sockets socket).rxQueue.items ++ [.inr server] ∧
      after.LoopbackOnly ∧ node.stack.io.pool.remaining ≤ after.stack.io.pool.remaining + 2 := by
  obtain ⟨io, framed, routed, looped, less, sentId, checks⟩ := sendAndRoute_local only plain requests.inUse
    requests.plain requests.covered fits free
  have id : framed.id = (node.conns client).idout := by rw [sentId, ← requests.source]
  have port : framed.id.dport = dport := by rw [id, requests.port]
  obtain ⟨received, passed, same, payload⟩ := checks (node.stack.sockets socket).opts (id ▸ carries)
  have low := portGetSocket_bound bound
  have missing : connFindExisting (node.setIo io) framed.id = none := by
    apply List.find?_eq_none.mpr
    intro slot _ accepts
    obtain ⟨inUse, ⟨type, own⟩ | ⟨type, source⟩⟩ := (Conn.accepts_iff _ _).mp accepts
    · have high := demuxed.client_port ports inUse type
      rw [show (node.conns slot).idin.dport = dport from own.trans port] at high
      omega
    · apply requests.unmet slot inUse type (source.1.trans port)
      rw [← id]
      exact source.2.1
  obtain ⟨spare, inside, closed⟩ := requests.spare
  obtain ⟨server, next⟩ := @Node.nextSlot_isSome cfg (node.setIo io) spare inside closed
  have delivers := @routeLocal_opens cfg (node.setIo io) socket server framed received (port ▸ bound) conns missing
    passed same next
  obtain ⟨after, rxQueue, rxLog, finished, items, effect, accepted, flushed, mode⟩ :=
    @finish_serves cfg (node.setIo io) server socket node.stack.now (node.stack.sockets socket).opts framed.id
      received (indexed server) (by rw [same, id]; exact requests.plain) room
  obtain ⟨pool, flush, more⟩ := flushRxList_frees io (node.conns server).rxQueue.items
  have flushed : after.stack.io = { io with pool } := flushed.trans flush
  refine ⟨server, after, received, rxQueue, rxLog, ?_, (Node.nextSlot_free next).2, payload, items, ?_, accepted,
    ⟨?_, mode.trans only.dedup⟩, ?_⟩
  · rw [routed, delivers]
    exact finished
  · rw [effect, id]
    rfl
  · rw [flushed]
    exact ⟨looped.interfaces, looped.loopback⟩
  · rw [flushed]
    exact less.trans (Nat.add_le_add_right more 2)

/-! ## Exchanges -/

/-- The connections have distinct ports or sources, and each slot knows its place. -/
structure Node.Ordered (node : Node cfg) : Prop where
  demuxed : node.Demuxed
  indexed : node.Indexed

theorem Node.Ordered.step {node : Node cfg} (ordered : node.Ordered) (input : NodeInput cfg) :
    (nodeStep node input).Ordered :=
  ⟨(nodeStep_turns node input).demuxed ordered.demuxed, (nodeStep_turns node input).indexed ordered.indexed⟩

theorem Node.Ordered.sendAndRoute {node : Node cfg} (ordered : node.Ordered) (slot : Nat) (packet : Packet) :
    (node.sendAndRoute slot packet).Ordered := (ordered.step (.send slot packet)).step (.route _)

/-- A connect without RDP opens the client, and sends nothing. -/
theorem cspConnect_plain {node connected : Node cfg} {client : Nat} (next : node.nextSlot = some client)
    {prio dport : UInt8} {dest : UInt16} {opts : UInt32} (noRdp : hasOpt (connectOpts node.connDflSo opts) cspSoRdpReq = false)
    (connects : cspConnect node prio dest dport opts = connected) :
    connected.conns = Function.update node.conns client
        ((node.conns client).client node.connDflSo node.stack.now prio dest dport opts) ∧
      connected.held client = true ∧ connected.stack.sockets = node.stack.sockets ∧ connected.ports = node.ports ∧
      connected.dedupMode = node.dedupMode ∧
      ∃ pool, connected.stack.io = { node.stack.io with pool } ∧ node.stack.io.pool.remaining ≤ pool.remaining := by
  obtain ⟨opened, renewed, connect⟩ := cspConnect_of_next next prio dest dport opts
  have own : opened.conns client =
      (node.conns client).client node.connDflSo node.stack.now prio dest dport opts := by
    rw [renewed]
    exact node.renew_own client _
  have bare : (opened.conns client).idin.has cspFRdp = false := by
    rw [own]
    exact connectFlags_plain rfl noRdp
  rw [bare, if_neg (by simp), connects] at connect
  subst connect renewed
  obtain ⟨pool, flushed, more⟩ := flushRxList_frees node.stack.io (node.conns client).rxQueue.items
  exact ⟨rfl, Function.update_self _ _ _, rfl, rfl, rfl, pool, flushed, more⟩

/-- The client of a connect requests the service of the socket. -/
theorem Node.Listens.requests {node connected : Node cfg} {socket : Nat} {dport : UInt8}
    (listens : node.Listens socket dport) (demuxed : node.Demuxed) (ports : cfg.portMaxBind + cfg.connMax ≤ 63)
    {client spare : Nat} (next : node.nextSlot = some client) (inside : spare < cfg.connMax)
    (unused : (node.conns spare).state = .closed) (other : spare ≠ client) {prio : UInt8} {dest : UInt16}
    (covered : loops cfg dest = true) {opts : UInt32}
    (noRdp : hasOpt (connectOpts node.connDflSo opts) cspSoRdpReq = false)
    (conns : connected.conns = Function.update node.conns client
      ((node.conns client).client node.connDflSo node.stack.now prio dest dport opts)) :
    connected.Requests client dport := by
  have own := congrFun conns client
  rw [Function.update_self] at own
  have kept {slot : Nat} (different : slot ≠ client) : connected.conns slot = node.conns slot := by
    rw [conns, Function.update_of_ne different]
  refine ⟨?_, ?_, ?_, ?_, ?_, ?_, ?_, ?_, ?_, ?_, ⟨spare, inside, ?_⟩, ?_⟩
  any_goals rw [own]
  any_goals rfl
  · exact connectFlags_plain rfl noRdp
  · exact covered
  · rw [kept other]
    exact unused
  · intro slot inUse server port
    by_cases same : slot = client
    · rw [same, own] at server
      cases server
    · rw [kept same] at inUse server port ⊢
      obtain ⟨peer, owns⟩ := listens.peers slot inUse server port
      obtain ⟨clientInside, free⟩ := Node.nextSlot_free next
      exact demuxed.port_free ports clientInside free owns

/-- Whatever the rest of the program does, a reply of the server reaches its client and no other connection. -/
def Node.RepliesTo (node : Node cfg) (server client : Nat) : Prop :=
  ∀ environment : Node cfg, environment.LoopbackOnly → 0 < environment.stack.io.pool.remaining →
    ∀ reply : Packet, reply.length.toNat + (node.conns server).idout.trailers ≤ cfg.bufferSize →
      ∃ back answer, (node.inside environment).sendAndRoute server reply = back ∧
        answer.payload = reply.payload ∧ (cspRead (back.ctx client)).1 = some answer ∧
        ∀ other, other ≠ client → back.conns other = node.conns other

/-- The calls of the rest of the program keep both connections. -/
theorem Node.Answers.repliesTo {node : Node cfg} {client server : Nat} (answers : node.Answers client server)
    (ordered : node.Ordered) (ports : cfg.portMaxBind + cfg.connMax ≤ 63) (plain : node.Plain)
    (some' : 0 < cfg.connRxqueueLen) : node.RepliesTo server client := by
  intro environment only free reply room
  have later := ordered.step (.environment environment)
  have answers' : (node.inside environment).Answers client server := { answers with }
  exact answers'.reply later.demuxed ports ⟨only.io, only.dedup⟩ plain some' room free

/-- A client that connects over the loopback gets a server connection with its priority, flags, and ports. The
server reads the payload of the client, and its replies go back to this client only. -/
theorem loopback_exchange (cfg : Config) (ports : cfg.portMaxBind + cfg.connMax ≤ 63) {start : Node cfg}
    (initial : (nodeMachine cfg).initial start) (inputs : List (NodeInput cfg)) {node : Node cfg}
    (reached : (nodeMachine cfg).trace start inputs = node) (only : node.LoopbackOnly) (plain : node.Plain)
    {socket : Nat} {dport : UInt8} (listens : node.Listens socket dport) {client spare : Nat}
    (next : node.nextSlot = some client) (inside : spare < cfg.connMax) (unused : (node.conns spare).state = .closed)
    (other : spare ≠ client) (prio : UInt8) {dest : UInt16} (covered : loops cfg dest = true) {opts : UInt32}
    (noRdp : hasOpt (connectOpts node.connDflSo opts) cspSoRdpReq = false) {connected : Node cfg}
    (connects : cspConnect node prio dest dport opts = connected)
    (carries : (connected.conns client).idout.Carries (node.stack.sockets socket).opts) {packet : Packet}
    (fits : packet.length.toNat + (connected.conns client).idout.trailers ≤ cfg.bufferSize)
    (free : 0 < node.stack.io.pool.remaining) :
    (connected.held client = true ∧ (connected.conns client).idout.pri = prio ∧
        (connected.conns client).idout.flags = connectFlags (connectOpts node.connDflSo opts) ∧
        (connected.conns client).idout.dport = dport) ∧
      ∃ server routed received read, connected.sendAndRoute client packet = routed ∧
        (routed.stack.sockets socket).rxQueue.items = (node.stack.sockets socket).rxQueue.items ++ [.inr server] ∧
        (routed.conns server).Mirrors (connected.conns client) ∧
        cspRead (routed.ctx server) = (some received, read) ∧ received.payload = packet.payload ∧
        (routed.put server read).LoopbackOnly ∧
        node.stack.io.pool.remaining ≤ (routed.put server read).stack.io.pool.remaining + 2 ∧
        (routed.put server read).RepliesTo server client := by
  have ordered : node.Ordered := by
    subst reached
    exact ⟨(nodeMachine_demuxed initial inputs).1, nodeMachine_indexed initial inputs⟩
  obtain ⟨conns, held, sockets, bindings, mode, pool, io, more⟩ := cspConnect_plain next noRdp connects
  have requests := listens.requests ordered.demuxed ports next inside unused other covered noRdp conns
  have ordered' : connected.Ordered := by
    rw [← connects]
    exact ordered.step (.connect prio dest dport opts)
  have clientConn := congrFun conns client
  rw [Function.update_self] at clientConn
  have plain' : connected.Plain := by
    intro slot
    by_cases same : slot = client
    · rw [same, clientConn]
      exact fun _ => connectFlags_plain rfl noRdp
    · rw [conns, Function.update_of_ne same]
      exact plain slot
  have only' : connected.LoopbackOnly := by
    refine ⟨?_, mode.trans only.dedup⟩
    rw [io]
    exact ⟨only.io.interfaces, only.io.loopback⟩
  have more : node.stack.io.pool.remaining ≤ connected.stack.io.pool.remaining := by
    rw [io]
    exact more
  obtain ⟨server, routed, received, rxQueue, rxLog, routes, closed, payload, items, effect, accepted, looped, less⟩ :=
    @Node.Requests.serve cfg connected client socket dport requests ordered'.demuxed ordered'.indexed ports only'
      plain' (by rw [portGetSocket, bindings]; exact listens.bound) (by rw [sockets]; exact listens.conns)
      (by rw [sockets]; exact listens.room) (by rw [sockets]; exact carries) packet fits (free.trans_le more)
  have different : client ≠ server := by
    rintro rfl
    rw [requests.inUse] at closed
    cases closed
  have own := congrFun effect server
  rw [Function.update_self] at own
  have kept {slot : Nat} (apart : slot ≠ server) : routed.conns slot = connected.conns slot := by
    rw [effect, Function.update_of_ne apart]
  have read := @cspRead_plain cfg (routed.ctx server) (by rw [Slots.ctx, own]; rfl)
    (by rw [Slots.ctx, own]; exact requests.plain) received (by rw [Slots.ctx, own]; exact items)
  refine ⟨⟨held, ?_, ?_, requests.port⟩, server, routed, received, _, routes, ?_, ?_, read, payload, ?_, ?_, ?_⟩
  · rw [clientConn]
    rfl
  · rw [clientConn]
    rfl
  · rw [accepted, sockets]
  · rw [own, clientConn]
    exact ⟨rfl, rfl, rfl, rfl, rfl⟩
  · exact ⟨looped.io, looped.dedup⟩
  · exact more.trans less
  · have serverConn : (routed.put server { routed.ctx server with
        conn := { (routed.ctx server).conn with rxQueue := .empty } }).conns server =
          { routed.conns server with rxQueue := .empty } := Function.update_self _ _ _
    have others {slot : Nat} (apart : slot ≠ server) : (routed.put server { routed.ctx server with
        conn := { (routed.ctx server).conn with rxQueue := .empty } }).conns slot = connected.conns slot :=
      (Function.update_of_ne apart _ _).trans (kept apart)
    have ordered'' := (ordered'.sendAndRoute client packet).step (.read server)
    simp only [nodeStep, routes, read] at ordered''
    apply Node.Answers.repliesTo _ ordered'' ports _ (Nat.zero_lt_of_lt listens.room)
    · constructor
      any_goals rw [others different]
      any_goals rw [serverConn, own]
      · exact requests.inUse
      · exact requests.type
      · exact requests.posted
      · exact requests.waits
      · exact plain' client requests.inUse
      · rfl
      · exact requests.plain
      · rw [clientConn]
        rfl
      · show loops cfg (connected.conns client).idout.src = true
        rw [requests.source]
        exact loops_zero cfg
      · exact fun src => connectFlags_carries requests.options
    · intro slot
      by_cases same : slot = server
      · rw [same, serverConn, own]
        exact fun _ => requests.plain
      · rw [others same]
        exact plain' slot

/-- An idle node after `csp_init`, where a socket is bound to port 10. -/
def loopbackServer : Node {} :=
  (nodeMachine {}).trace idleNode
    [.environment { idleNode with ports := fun port => if port = 10 then .open 0 else .closed }]

theorem loopbackServer_exchanges : ∃ server routed received read,
    (cspConnect loopbackServer 2 0 10 (cspSoHmacReq ||| cspSoCrc32Req)).sendAndRoute 1 (userPacket [1, 2, 3]) = routed ∧
      (routed.stack.sockets 0).rxQueue.items = [.inr server] ∧
      cspRead (routed.ctx server) = (some received, read) ∧ received.payload = [1, 2, 3] ∧
      (routed.put server read).RepliesTo server 1 := by
  have exchange := @loopback_exchange {} (by decide) idleNode ⟨_, _, rfl⟩
    [.environment { idleNode with ports := fun port => if port = 10 then .open 0 else .closed }] loopbackServer rfl
    ⟨⟨rfl, 0, rfl⟩, rfl⟩ (fun slot inUse => by cases inUse) 0 10
    ⟨rfl, rfl, by decide, fun slot inUse => by cases inUse⟩ 1 2 rfl (by decide) rfl (by decide) 2 0 (loops_zero {})
    (cspSoHmacReq ||| cspSoCrc32Req) (by decide) _ rfl ⟨by decide, by decide, by decide⟩ (userPacket [1, 2, 3])
    (by decide) (by decide)
  obtain ⟨-, server, routed, received, read, routes, accepted, -, reads, payload, -, -, replies⟩ := exchange
  exact ⟨server, routed, received, read, routes, accepted, reads, payload, replies⟩

end Libcsp

/-
This file states which connections the node opens, and what the router does with each packet.
-/
import Libcsp.ConnIdentity

namespace Libcsp

variable {cfg : Config}

/-! ## New connections -/

/-- The slot holds a new connection with these headers and an empty queue. -/
def Conn.renew (conn : Conn cfg) (type : ConnType) (idin idout : CspId) (now : UInt32) : Conn cfg :=
  { conn with state := .open, timestamp := now, type, idin, idout, rxQueue := .empty }

/-- A new connection takes the slot, and the packets of the last one go back to the pool. -/
def Node.renew (node : Node cfg) (slot : Nat) (conn : Conn cfg) : Node cfg :=
  node.allocate slot conn (flushRxList node.stack.io (node.conns slot).rxQueue.items) (UInt8.ofNat slot)

theorem Node.renew_own (node : Node cfg) (slot : Nat) (conn : Conn cfg) :
    (node.renew slot conn).conns slot = conn := by
  simp [Node.renew, Node.allocate]

theorem Node.renew_other (node : Node cfg) {slot other : Nat} (conn : Conn cfg) (different : other ≠ slot) :
    (node.renew slot conn).conns other = node.conns other := by
  simp [Node.renew, Node.allocate, different]

theorem connSearch_inside {conns : Nat → Conn cfg} {count last slot : Nat} (some' : 0 < cfg.connMax)
    (found : connSearch conns count last = some slot) : slot < cfg.connMax := by
  induction count generalizing last with
  | zero => cases found
  | succ count ih =>
      simp only [connSearch] at found
      split at found
      · rw [← Option.some.inj found]
        exact Nat.mod_lt _ some'
      · exact ih found

/-- The search of `csp_conn_allocate` finds a free slot that it passes. -/
theorem connSearch_passes {conns : Nat → Conn cfg} {count last distance : Nat} (within : distance < count)
    (free : (conns ((last + 1 + distance) % cfg.connMax)).state = .closed) :
    ∃ slot, connSearch conns count last = some slot := by
  induction count generalizing last distance with
  | zero => omega
  | succ count ih =>
      rw [connSearch]
      split
      · exact ⟨_, rfl⟩
      · rename_i used
        cases distance with
        | zero => exact absurd free used
        | succ distance =>
            apply ih (Nat.lt_of_succ_lt_succ within)
            rw [← Nat.mod_add_mod] at free
            rw [Nat.add_right_comm]
            exact free

/-- The search for a slot reads the states of the slots. -/
theorem connSearch_congr {first second : Nat → Conn cfg} (states : ∀ slot, (second slot).state = (first slot).state)
    (count last : Nat) : connSearch second count last = connSearch first count last := by
  induction count generalizing last with
  | zero => rfl
  | succ count ih => simp only [connSearch, states, ih]

/-- The slot that `csp_conn_allocate` gives to the next connection. -/
def Node.nextSlot (node : Node cfg) : Option Nat := connSearch node.conns cfg.connMax node.lastGiven.toNat

/-- With a free slot in the table, the next connection gets one. -/
theorem Node.nextSlot_isSome {node : Node cfg} {slot : Nat} (inside : slot < cfg.connMax)
    (free : (node.conns slot).state = .closed) : ∃ next, node.nextSlot = some next := by
  have behind := Nat.mod_lt (node.lastGiven.toNat + 1) (Nat.zero_lt_of_lt inside)
  have reach {distance : Nat} (within : distance < cfg.connMax)
      (meets : ((node.lastGiven.toNat + 1) % cfg.connMax + distance) % cfg.connMax = slot) :
      ∃ next, node.nextSlot = some next := by
    apply connSearch_passes within
    rw [← Nat.mod_add_mod, meets]
    exact free
  by_cases ahead : (node.lastGiven.toNat + 1) % cfg.connMax ≤ slot
  · apply @reach (slot - (node.lastGiven.toNat + 1) % cfg.connMax) (by omega)
    rw [Nat.add_sub_cancel' ahead, Nat.mod_eq_of_lt inside]
  · apply @reach (slot + cfg.connMax - (node.lastGiven.toNat + 1) % cfg.connMax) (by omega)
    rw [Nat.add_sub_cancel' (by omega), Nat.add_mod_right, Nat.mod_eq_of_lt inside]

theorem connNew_of_next {node : Node cfg} {slot : Nat} (next : node.nextSlot = some slot) (idin idout : CspId)
    (type : ConnType) : connNew node idin idout type =
      (some slot, node.renew slot ((node.conns slot).renew type idin idout node.stack.now)) := by
  rw [Node.nextSlot] at next
  simp only [connNew, connAllocate, next, Node.put, Slots.put, Slots.ctx, Function.update_self,
    Function.update_idem, connFlushRxQueue, if_true]
  rfl

theorem Node.nextSlot_free {node : Node cfg} {slot : Nat} (next : node.nextSlot = some slot) :
    slot < cfg.connMax ∧ (node.conns slot).state = .closed := by
  have some' : 0 < cfg.connMax := by
    by_contra empty
    rw [Node.nextSlot, Nat.eq_zero_of_not_pos empty] at next
    cases next
  exact ⟨connSearch_inside some' next, connSearch_closed next⟩

/-- A new connection takes a free slot of the table, or no slot is free. -/
theorem connNew_renews (node : Node cfg) (idin idout : CspId) (type : ConnType) :
    connNew node idin idout type = (none, node) ∨
      ∃ slot, slot < cfg.connMax ∧ (node.conns slot).state = .closed ∧ node.nextSlot = some slot ∧
        connNew node idin idout type =
          (some slot, node.renew slot ((node.conns slot).renew type idin idout node.stack.now)) := by
  cases next : node.nextSlot with
  | none =>
      rw [Node.nextSlot] at next
      simp only [connNew, connAllocate, next, true_or]
  | some slot =>
      obtain ⟨inside, free⟩ := Node.nextSlot_free next
      exact .inr ⟨slot, inside, free, rfl, connNew_of_next next idin idout type⟩

/-- The client has its own source port, and the options of the call. -/
def Conn.client (conn : Conn cfg) (connDflSo : UInt32) (now : UInt32) (prio : UInt8) (dest : UInt16)
    (dport : UInt8) (opts : UInt32) : Conn cfg :=
  let opts := connectOpts connDflSo opts
  let flags := connectFlags opts
  { conn.renew .client
      { pri := prio, flags, src := dest, dst := 0, dport := conn.sportOutgoing, sport := dport }
      { pri := prio, flags, src := 0, dst := dest, dport, sport := conn.sportOutgoing } now with
    destSocket := none
    opts }

/-- A connect opens a client in the next slot. -/
theorem cspConnect_of_next {node : Node cfg} {slot : Nat} (next : node.nextSlot = some slot) (prio : UInt8)
    (dest : UInt16) (dport : UInt8) (opts : UInt32) :
    ∃ opened, opened = node.renew slot
        ((node.conns slot).client node.connDflSo node.stack.now prio dest dport opts) ∧
      cspConnect node prio dest dport opts =
        if (opened.conns slot).idin.has cspFRdp then
          connectReturns opened slot true (rdpConnectStart (opened.ctx slot))
        else opened.setHeld slot true := by
  refine ⟨_, rfl, ?_⟩
  simp only [cspConnect, connNew_of_next next]
  simp only [Node.renew, Node.allocate, Function.update_self, Slots.ctx, Conn.client, Conn.renew, CspId.has]
  split
  · exact (connectReturns_update { node with
      stack.io := flushRxList node.stack.io (node.conns slot).rxQueue.items
      lastGiven := UInt8.ofNat slot
      held := Function.update node.held slot false
      waiting := Function.update node.waiting slot none } slot _ true _).trans
        (connectReturns_update _ slot _ true _).symm
  · simp only [Node.put, Slots.put, Function.update_idem, if_true]

/-- A connect opens a client in a free slot of the table, or no slot is free. -/
theorem cspConnect_renews (node : Node cfg) (prio : UInt8) (dest : UInt16) (dport : UInt8)
    (opts : UInt32) :
    cspConnect node prio dest dport opts = node ∨
      ∃ slot opened, slot < cfg.connMax ∧ (node.conns slot).state = .closed ∧ node.nextSlot = some slot ∧
        opened = node.renew slot
          ((node.conns slot).client node.connDflSo node.stack.now prio dest dport opts) ∧
        cspConnect node prio dest dport opts =
          if (opened.conns slot).idin.has cspFRdp then
            connectReturns opened slot true (rdpConnectStart (opened.ctx slot))
          else opened.setHeld slot true := by
  cases next : node.nextSlot with
  | none =>
      rw [Node.nextSlot] at next
      simp only [cspConnect, connNew, connAllocate, next, true_or]
  | some slot =>
      obtain ⟨inside, free⟩ := Node.nextSlot_free next
      obtain ⟨opened, renewed, connected⟩ := cspConnect_of_next next prio dest dport opts
      exact .inr ⟨slot, opened, inside, free, rfl, renewed, connected⟩

/-! ## The checks of the router -/

/-- The checks pass, behind a deduplication that may write the header in front of the data. -/
def Packet.Passes (cfg : Config) (opts : UInt32) (packet checked : Packet) : Prop :=
  ∃ received, received.SameVisible packet ∧ routeSecurityCheck cfg opts received = (.none, checked)

section Keeps
variable {Field : Type} {field : Packet → Field}

theorem checkTrailer_keeps {verify : Packet → CspErr × Packet}
    (keeps : ∀ packet, field (verify packet).2 = field packet) (flag : UInt8) (required : Bool) (err : CspErr)
    (packet : Packet) : field (checkTrailer verify flag required err packet).2 = field packet := by
  unfold checkTrailer
  split
  · exact keeps packet
  · split
    · rfl
    · rfl

/-- The checks change only the length and the bytes in front of the data. -/
theorem routeSecurityCheck_keeps (header : ∀ packet, field (idPrepend cfg packet).packet = field packet)
    (trailer : ∀ packet : Packet, field packet.dropTrailer = field packet) (opts : UInt32) (packet : Packet) :
    field (routeSecurityCheck cfg opts packet).2 = field packet := by
  have crc : ∀ packet, field (crc32Verify cfg packet).2 = field packet := by
    intro packet
    simp only [crc32Verify]
    split
    · rfl
    · split
      · exact (trailer _).trans (header packet)
      · split
        · exact (trailer _).trans (header packet)
        · exact header packet
  have hmac : ∀ packet, field (hmacVerify cfg packet).2 = field packet := by
    intro packet
    simp only [hmacVerify]
    split
    · rfl
    · split
      · exact trailer packet
      · rfl
  have summed := checkTrailer_keeps crc cspFCrc32 (hasOpt opts cspSoCrc32Req) .crc32 packet
  simp only [routeSecurityCheck]
  generalize checkTrailer (crc32Verify cfg) cspFCrc32 (hasOpt opts cspSoCrc32Req) .crc32 packet = result at summed
  obtain ⟨err, packet'⟩ := result
  have signed := checkTrailer_keeps hmac cspFHmac (hasOpt opts cspSoHmacReq) .hmac packet'
  cases err with
  | none =>
      simp only
      generalize checkTrailer (hmacVerify cfg) cspFHmac (hasOpt opts cspSoHmacReq) .hmac packet' = result at signed
      obtain ⟨err, packet''⟩ := result
      cases err with
      | none =>
          simp only
          split
          · exact signed.trans summed
          · exact signed.trans summed
      | _ => exact signed.trans summed
  | _ => exact summed

end Keeps

theorem idPrepend_visible (cfg : Config) (packet : Packet) :
    (idPrepend cfg packet).packet.SameVisible packet := by
  have small := idHeaderSize_le cfg
  have fits : idHeaderSize cfg ≤ dataAt := by simp only [dataAt]; omega
  have payload := prependHeader_payload (idWord cfg packet.id) packet fits
  rw [idPrepend_eq]
  refine ⟨rfl, rfl, fun index inside => ?_⟩
  exact Packet.data_of_payload payload inside

theorem idPrepend_buf (cfg : Config) (packet : Packet) : (idPrepend cfg packet).packet.buf = packet.buf := by
  rw [idPrepend_eq]
  rfl

theorem routeSecurityCheck_id (cfg : Config) (opts : UInt32) (packet : Packet) :
    (routeSecurityCheck cfg opts packet).2.id = packet.id :=
  routeSecurityCheck_keeps (fun packet => (idPrepend_visible cfg packet).id) (fun _ => rfl) opts packet

theorem routeSecurityCheck_buf (cfg : Config) (opts : UInt32) (packet : Packet) :
    (routeSecurityCheck cfg opts packet).2.buf = packet.buf :=
  routeSecurityCheck_keeps (idPrepend_buf cfg) (fun _ => rfl) opts packet

theorem Packet.Passes.id {opts : UInt32} {packet checked : Packet}
    (passes : Packet.Passes cfg opts packet checked) : checked.id = packet.id := by
  obtain ⟨received, visible, passed⟩ := passes
  have kept := routeSecurityCheck_id cfg opts received
  rw [passed] at kept
  exact kept.trans visible.id

/-! ## The router -/

/-- The server answers to the source of its first packet, and waits for its socket. -/
def Conn.server (conn : Conn cfg) (now : UInt32) (id : CspId) (socket : Nat) (opts : UInt32) : Conn cfg :=
  { conn.renew .server id (answerId id) now with destSocket := some socket, opts }

/-- The router is done with the packet, queues it for a socket, or hands it to a connection. -/
inductive Node.Handles (node : Node cfg) (packet : Packet) : Routed cfg → Prop where
  | done (io : Io cfg) (dedup : Dedup) (calledBack : List Packet) :
      node.Handles packet (.done { node with stack.io := io, dedup, calledBack })
  | queued (io : Io cfg) (dedup : Dedup) {socket : Nat} {checked : Packet}
      {rxQueue : BoundedQueue (Packet ⊕ Nat) cfg.connRxqueueLen}
      (passes : Packet.Passes cfg (node.stack.sockets socket).opts packet checked)
      (stored : (node.stack.sockets socket).rxQueue.enqueue (.inl checked) = some rxQueue) :
      node.Handles packet (.done { node with
        stack.io := io
        stack.sockets := Function.update node.stack.sockets socket
          { node.stack.sockets socket with rxQueue }
        dedup })
  | found (io : Io cfg) (dedup : Dedup) {slot : Nat} {checked : Packet}
      (existing : connFindExisting node packet.id = some slot)
      (passes : Packet.Passes cfg (node.conns slot).opts packet checked) :
      node.Handles packet (.deliver { node with stack.io := io, dedup } slot checked)
  | opened (io : Io cfg) (dedup : Dedup) {socket slot : Nat} {checked : Packet}
      (missing : connFindExisting node packet.id = none)
      (bound : portGetSocket node packet.id.dport = some socket)
      (passes : Packet.Passes cfg (node.stack.sockets socket).opts packet checked)
      (inside : slot < cfg.connMax) (free : (node.conns slot).state = .closed)
      (next : node.nextSlot = some slot) :
      node.Handles packet (.deliver (Node.renew { node with stack.io := io, dedup } slot
        ((node.conns slot).server node.stack.now checked.id socket (node.stack.sockets socket).opts))
          slot checked)

theorem Node.Handles.of_io {node : Node cfg} {packet : Packet} {io : Io cfg} {dedup : Dedup}
    {routed : Routed cfg} (handles : Node.Handles { node with stack.io := io, dedup } packet routed) :
    node.Handles packet routed := by
  cases handles with
  | done io dedup calledBack => exact .done io dedup calledBack
  | queued io dedup passes stored => exact .queued io dedup passes stored
  | found io dedup existing passes => exact .found io dedup existing passes
  | opened io dedup missing bound passes inside free next =>
      exact .opened io dedup missing bound passes inside free next

section Visible
variable {node : Node cfg} {received packet : Packet} (visible : received.SameVisible packet)
include visible

theorem routeConnection_handles :
    node.Handles packet (routeConnection node (portGetSocket node packet.id.dport) received) := by
  have freed : ∀ packet' : Packet, node.Handles packet (.done (node.free packet')) := fun packet' =>
    .done _ _ _
  simp only [routeConnection, visible.id]
  split
  · rename_i slot existing
    split
    · rename_i checked passed
      exact .found _ _ existing ⟨received, visible, passed⟩
    · exact freed _
  · rename_i missing
    split
    · exact freed _
    · rename_i socket bound
      split
      · rename_i checked passed
        obtain none | ⟨slot, inside, free, next, new⟩ :=
          connNew_renews node checked.id (answerId checked.id) .server
        · rw [none]
          exact freed _
        · rw [new]
          simp only [Node.renew, Node.allocate, Function.update_self, Function.update_idem]
          exact .opened node.stack.io node.dedup missing bound ⟨received, visible, passed⟩ inside
            free next
      · exact freed _

theorem routeConnless_handles (socket : Nat) :
    node.Handles packet (.done (routeConnless node socket received)) := by
  simp only [routeConnless]
  split
  · rename_i checked passed
    split
    · exact .done _ _ _
    · rename_i rxQueue stored
      exact .queued node.stack.io node.dedup ⟨received, visible, passed⟩ stored
  · exact .done _ _ _

theorem routeLocal_handles : node.Handles packet (routeLocal node received) := by
  simp only [routeLocal, visible.id]
  split
  · split
    · exact .done _ _ _
    · exact .done _ _ _
  · split
    · exact routeConnless_handles visible _
    · exact routeConnection_handles visible

end Visible

/-- The router opens and finds connections by the header of the packet that it read. -/
theorem routeInput_handles (node : Node cfg) (ingress : Nat) (packet : Packet) :
    node.Handles packet (routeInput node ingress packet) := by
  have checked : ∀ (io : Io cfg) (dedup : Dedup) (received : Packet) (toMe : Bool),
      received.SameVisible packet →
        node.Handles packet (routeChecked { node with stack.io := io, dedup } ingress received toMe) := by
    intro io dedup received toMe visible
    apply @Node.Handles.of_io cfg node packet io dedup
    simp only [routeChecked]
    split
    · exact routeLocal_handles visible
    · exact .done _ _ _
  simp only [routeInput]
  split
  · have visible : (dedupIsDuplicate cfg node.stack.now node.dedup packet).2.2.SameVisible packet := by
      simp only [dedupIsDuplicate]
      split
      · exact idPrepend_visible cfg packet
      · exact idPrepend_visible cfg packet
    simp only [Node.setIo]
    generalize dedupIsDuplicate cfg node.stack.now node.dedup packet = result at visible
    obtain ⟨_ | _, dedup, received⟩ := result
    · exact checked _ _ _ _ visible
    · exact .done _ _ _
  · exact checked _ node.dedup _ _ (.refl packet)

end Libcsp

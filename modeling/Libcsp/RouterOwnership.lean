/-
This file shows that csp_route_work gives each received packet to one owner.
-/
import Libcsp.PacketTracking
import Libcsp.RouterCases
import Libcsp.StoredPackets

namespace Libcsp

variable {cfg : Config}

/-! ## The RDP module -/

/-- The branch has stored the packet, or its label frees it. -/
structure RdpBranch.Owns (branch : RdpBranch cfg) (buf extra : Nat) : Prop where
  same : branch.packet.buf = buf
  tracks : branch.ctx.Tracks buf extra (if branch.exit = .acceptedOpen then [] else [buf]) []

/-- A post to an accept queue moves no packet. -/
theorem Ctx.Tracks.post {ctx : Ctx cfg} {buf extra : Nat} {queued lent : List Nat}
    (tracks : ctx.Tracks buf extra queued lent) {socket : Nat} {stack : Stack cfg}
    (posted : ctx.stack.post socket ctx.conn.index = some stack) :
    Ctx.Tracks { conn := { ctx.conn with destSocket := none }, stack } buf extra queued lent := by
  unfold Stack.post at posted
  split at posted
  · cases posted
  · cases posted
    exact ⟨tracks.io, tracks.rxTagged, tracks.txTagged⟩

theorem rdpOpenServer_tracks {ctx : Ctx cfg} {buf extra : Nat} {queued lent : List Nat}
    (tracks : ctx.Tracks buf extra queued lent) : (rdpOpenServer ctx).2.Tracks buf extra queued lent := by
  have opened : Ctx.Tracks { ctx with conn.rdp.state := .open } buf extra queued lent := tracks
  simp only [rdpOpenServer]
  split
  · exact opened
  · split
    · exact opened
    · rename_i posted
      exact opened.post posted

section Branches
variable {ctx : Ctx cfg} {packet : Packet} {buf extra : Nat} (own : packet.buf = buf)
  (tracks : ctx.Tracks buf extra [buf] [])
include own tracks

theorem rdpRecvRst_owns (header : RdpHeader) : (rdpRecvRst ctx header packet).Owns buf extra := by
  have acked : (rdpRstAck ctx header).Tracks buf extra [buf] [] := by
    unfold rdpRstAck
    split
    · exact tracks
    · exact tracks
  simp only [rdpRecvRst]
  generalize rdpRstAck ctx header = before at acked
  split
  · exact ⟨own, acked⟩
  · exact ⟨own, acked⟩
  · split
    · refine ⟨own, ?_⟩
      apply rdpSendCmp_tracksPlain none _ _ _ (by decide)
      exact acked
    · exact ⟨own, acked⟩

theorem rdpRecvClosed_owns (header : RdpHeader) : (rdpRecvClosed ctx header packet).Owns buf extra := by
  simp only [rdpRecvClosed]
  split
  · exact ⟨own, rdpSendCmp_tracksPlain none _ _ tracks (by decide)⟩
  · refine ⟨own, ?_⟩
    apply rdpSendCmp_tracks none _ _ _ fun _ => List.mem_singleton_self buf
    exact tracks

theorem rdpRecvSynSent_owns (header : RdpHeader) : (rdpRecvSynSent ctx header packet).Owns buf extra := by
  simp only [rdpRecvSynSent]
  split
  · have sent : Ctx.Tracks (rdpSendCmp
        { ctx with conn.rdp := { ctx.conn.rdp with
          rcvCur := header.seqNr
          rcvIrs := header.seqNr
          rcvLsa := header.seqNr - 1
          sndUna := header.ackNr + 1
          ackTimestamp := ctx.stack.now
          state := .open } } none rdpAck ctx.conn.rdp.sndNxt header.seqNr).2 buf extra [buf] [] := by
      apply rdpSendCmp_tracksPlain none _ _ _ (by decide)
      exact tracks
    exact ⟨own, sent⟩
  · split
    · exact ⟨own, rdpSendCmp_tracksPlain none _ _ tracks (by decide)⟩
    · exact ⟨own, tracks⟩

theorem rdpRecvCloseWait_owns (header : RdpHeader) : (rdpRecvCloseWait ctx header packet).Owns buf extra := by
  simp only [rdpRecvCloseWait]
  split
  · exact ⟨own, tracks⟩
  · split
    · exact ⟨own, tracks⟩
    · refine ⟨own, ?_⟩
      apply rdpSendCmp_tracksPlain none _ _ _ (by decide)
      exact tracks

theorem rdpRecvData_owns (header : RdpHeader) : (rdpRecvData ctx header packet).Owns buf extra := by
  subst own
  simp only [rdpRecvData]
  split
  · exact ⟨rfl, tracks⟩
  · split
    · have held : ctx.stack.Tracks ctx.conn.index packet.buf extra (packet.buf :: ctx.conn.queuedBufs) [] :=
        Stack.Tracks.perm tracks List.perm_append_comm (List.Perm.refl _)
      obtain ⟨added, after, result, stored⟩ := rdpRxQueueAdd_tracks header.seqNr held
      rw [result]
      cases added with
      | false =>
          refine ⟨rfl, rdpCheckAck_tracks ?_⟩
          exact Stack.Tracks.perm stored (@List.perm_append_comm _ [packet.buf] ctx.conn.queuedBufs) (List.Perm.refl _)
      | true =>
          refine ⟨rfl, rdpSendEack_tracks ?_⟩
          rw [if_pos rfl, Ctx.Tracks, List.append_nil]
          exact stored
    · obtain ⟨err, conn, freed, received, same, after⟩ := rdpReceiveData_tracks tracks
      rw [received]
      cases err with
      | none => exact ⟨same, rdpRxQueueFlush_tracks (rdpCheckAck_tracks after)⟩
      | _ =>
          refine ⟨same, ?_⟩
          rw [same] at after
          exact after

theorem rdpRecvAcked_owns (header : RdpHeader) : (rdpRecvAcked ctx header packet).Owns buf extra := by
  have acked : Ctx.Tracks { ctx with conn.rdp.sndUna := header.ackNr + 1 } buf extra [buf] [] := tracks
  simp only [rdpRecvAcked]
  split
  · split
    · exact ⟨own, rdpFlushEackLoop_tracks _ _ _ acked⟩
    · exact ⟨own, acked⟩
  · exact rdpRecvData_owns own acked header

theorem rdpRecvOpen_owns (header : RdpHeader) : (rdpRecvOpen ctx header packet).Owns buf extra := by
  simp only [rdpRecvOpen]
  split
  · split
    · exact ⟨own, tracks⟩
    · exact ⟨own, tracks⟩
  · split
    · split
      · exact ⟨own, rdpSendCmp_tracks none _ _ tracks fun _ => List.mem_singleton_self buf⟩
      · exact ⟨own, rdpSendEack_tracks tracks⟩
    · split
      · exact ⟨own, tracks⟩
      · split
        · split
          · exact ⟨own, tracks⟩
          · have opened := rdpOpenServer_tracks tracks
            generalize rdpOpenServer ctx = result at opened
            obtain ⟨_ | _, after⟩ := result
            · exact ⟨own, opened⟩
            · exact rdpRecvAcked_owns own opened header
        · exact rdpRecvAcked_owns own tracks header

theorem rdpNewPacketBody_owns : (rdpNewPacketBody ctx packet).Owns buf extra := by
  have host : (rdpHeaderToHost packet).buf = buf := own
  simp only [rdpNewPacketBody]
  split
  · exact rdpRecvRst_owns host tracks _
  · split
    · exact rdpRecvClosed_owns host tracks _
    · exact rdpRecvSynSent_owns host tracks _
    · exact rdpRecvOpen_owns host tracks _
    · exact rdpRecvOpen_owns host tracks _
    · exact rdpRecvCloseWait_owns host tracks _

end Branches

theorem rdpFinish_tracks {branch : RdpBranch cfg} {buf extra : Nat} (owns : branch.Owns buf extra) :
    (rdpFinish branch).2.Tracks buf extra [] [] := by
  obtain ⟨same, tracks⟩ := owns
  unfold rdpFinish
  split
  · rename_i left
    rw [left, if_neg (by simp), ← same] at tracks
    rw [← same]
    exact Ctx.free_tracks (rdpDiscardClose_tracks _ tracks)
  · rename_i left
    rw [left, if_neg (by simp), ← same] at tracks
    rw [← same]
    exact Ctx.free_tracks tracks
  · rename_i left
    rw [left, if_pos rfl] at tracks
    exact tracks

section Deliver
variable {ctx : Ctx cfg} {buf extra : Nat}

theorem routePost_tracks (tracks : ctx.Tracks buf extra [] []) : (routePost ctx).Tracks buf extra [] [] := by
  simp only [routePost]
  split
  · exact tracks
  · split
    · exact connClose_tracks _ tracks
    · rename_i posted
      exact tracks.post posted

theorem routePlain_tracks {packet : Packet} (tracks : ctx.Tracks packet.buf extra [packet.buf] []) :
    (routePlain ctx packet).Tracks packet.buf extra [] [] := by
  obtain ⟨err, conn, enqueued, after⟩ := connEnqueuePacket_tracks tracks
  simp only [routePlain, enqueued]
  cases err with
  | none => exact routePost_tracks after
  | _ => exact Ctx.free_tracks after

/-- The connection takes the packet over. -/
theorem routeDeliver_tracks {packet : Packet} (tracks : ctx.Tracks packet.buf extra [packet.buf] []) :
    (routeDeliver ctx packet).Tracks packet.buf extra [] [] := by
  unfold routeDeliver
  split
  · have finished := rdpFinish_tracks (rdpNewPacketBody_owns rfl tracks)
    simp only [routeRdp, rdpNewPacket]
    generalize rdpFinish (rdpNewPacketBody ctx packet) = result at finished
    obtain ⟨_ | _, after⟩ := result
    · exact finished
    · exact connClose_tracks _ finished
  · exact routePlain_tracks tracks

end Deliver

/-! ## Places -/

/-- The router leaves a packet that is for this node in one of these places. -/
inductive Place where
  | callback
  | socket (socket : Nat)
  | conn (slot : Nat)
  | reassembly
  deriving DecidableEq, Repr

/-- The buffer of an entry in the queue of a socket. -/
def mailBuf : Packet ⊕ Nat → Option Nat
  | .inl packet => some packet.buf
  | .inr _ => none

/-- The buffers of the packets in one place. -/
def Node.bufsAt (node : Node cfg) : Place → List Nat
  | .callback => node.calledBack.map Packet.buf
  | .socket socket => (node.stack.sockets socket).rxQueue.items.filterMap mailBuf
  | .conn slot => (node.conns slot).queuedBufs
  | .reassembly => node.stack.rxQueue.items.map Packet.buf

/-- The buffers that serve packets of this node: with a next hop, in the promiscuous queue, or in the
retransmission queue. -/
def Node.lentBufs (node : Node cfg) : List Nat := node.stack.io.usedBufs ++ node.stack.txQueue.items.map Packet.buf

/-- The packet is in one place, and nothing gave a reference to its buffer back. -/
structure Node.Keeps (node after : Node cfg) (buf extra : Nat) (place : Place) : Prop where
  stored : (after.bufsAt place).count buf = (node.bufsAt place).count buf + 1
  others : ∀ other, other ≠ place → (after.bufsAt other).count buf = (node.bufsAt other).count buf
  lent : buf ∉ after.lentBufs
  refs : (after.stack.io.pool.refcount buf).toNat = 1 + extra

/-- The packet is in no place, and one reference to its buffer is gone. The last reference puts the buffer
into the pool, from where the node may have taken it for a packet of its own. -/
structure Node.Frees (node after : Node cfg) (buf extra : Nat) : Prop where
  others : ∀ place, (after.bufsAt place).count buf = (node.bufsAt place).count buf
  refs : 0 < extra → (after.stack.io.pool.refcount buf).toNat = extra ∧ buf ∉ after.lentBufs
  pool : extra = 0 → (after.stack.io.pool.freeBufs ++ after.lentBufs).count buf = 1

/-- The router holds the packet, and the buffer has no other place. Callbacks may have had it before. -/
structure Node.Awaits (node : Node cfg) (buf extra : Nat) : Prop where
  io : node.stack.io.Tracks buf extra [buf] (node.stack.txQueue.items.map Packet.buf)
  alone : ∀ place, place ≠ .callback → buf ∉ node.bufsAt place
  inside : buf < cfg.bufferCount

section Places
variable {node after : Node cfg} {buf extra : Nat}

/-- Entries for other buffers do not matter. -/
theorem Pool.tracks_append {pool : Pool cfg} {queued lent more : List Nat} (absent : buf ∉ more) :
    pool.Tracks buf extra (more ++ queued) lent ↔ pool.Tracks buf extra queued lent := by
  have same : (more ++ queued).count buf = queued.count buf := by
    rw [List.count_append, List.count_eq_zero.mpr absent, Nat.zero_add]
  constructor
  · intro tracks
    exact ⟨tracks.sound, same ▸ tracks.counted, same ▸ tracks.once, tracks.fresh⟩
  · intro tracks
    exact ⟨tracks.sound, same.symm ▸ tracks.counted, same.symm ▸ tracks.once, tracks.fresh⟩

/-- A packet with a place keeps its references. -/
theorem Pool.Tracks.kept {pool : Pool cfg} {queued lent : List Nat} (tracks : pool.Tracks buf extra queued lent)
    (one : queued.count buf = 1) : buf ∉ lent ∧ (pool.refcount buf).toNat = 1 + extra := by
  obtain ⟨-, counted, once, -⟩ := tracks
  have none : lent.count buf = 0 := by omega
  exact ⟨List.count_eq_zero.mp none, by omega⟩

theorem Node.Awaits.notLent (awaits : node.Awaits buf extra) : buf ∉ node.lentBufs := by
  have once := awaits.io.once
  rw [List.count_singleton_self] at once
  exact List.count_eq_zero.mp (by unfold Node.lentBufs; omega)

/-- A call on any slot starts with the packet in the hands of the router. -/
theorem Node.Awaits.tracks (awaits : node.Awaits buf extra) (slot : Nat) :
    (node.ctx slot).Tracks buf extra [buf] [] := by
  have conn := awaits.alone (.conn slot) (by simp)
  have reassembly := awaits.alone .reassembly (by simp)
  have lent := awaits.notLent
  rw [Node.lentBufs, List.mem_append, not_or] at lent
  refine ⟨?_, ?_, ?_⟩
  · rw [List.append_nil]
    exact (Pool.tracks_append reassembly).mpr ((Pool.tracks_append conn).mpr awaits.io)
  · intro packet member same
    exact absurd (List.mem_map.mpr ⟨packet, member, same⟩) reassembly
  · intro packet member same
    exact absurd (List.mem_map.mpr ⟨packet, member, same⟩) lent.2

/-- The freed buffer is in the pool, or in use again. -/
theorem Node.Frees.of_tracks {lent : List Nat} (tracks : after.stack.io.pool.Tracks buf extra [] lent)
    (same : lent = after.lentBufs) (inside : buf < cfg.bufferCount)
    (others : ∀ place, (after.bufsAt place).count buf = (node.bufsAt place).count buf) :
    node.Frees after buf extra := by
  subst same
  obtain ⟨sound, counted, once, fresh⟩ := tracks
  rw [List.count_nil, Nat.zero_add] at counted once
  refine ⟨others, fun more => ?_, fun last => ?_⟩
  · have absent : buf ∉ after.lentBufs := fun member => absurd (fresh member) (by omega)
    rw [List.count_eq_zero.mpr absent] at counted
    exact ⟨by omega, absent⟩
  · rw [List.count_append]
    by_cases lent : buf ∈ after.lentBufs
    · have used := List.count_pos_iff.mpr lent
      have busy : buf ∉ after.stack.io.pool.freeBufs := by
        intro free
        rw [((sound.free_iff buf).mp free).2] at counted
        simp only [UInt32.toNat_zero] at counted
        omega
      rw [List.count_eq_zero.mpr busy]
      omega
    · have none := List.count_eq_zero.mpr lent
      have free : buf ∈ after.stack.io.pool.freeBufs := by
        refine (sound.free_iff buf).mpr ⟨inside, UInt32.toNat_inj.mp ?_⟩
        rw [counted, none, last]
        rfl
      rw [none, List.count_eq_one_of_mem sound.distinct free]

/-- The packet has exactly one place, or its reference went back once. -/
def Node.Settles (node after : Node cfg) (buf extra : Nat) : Prop :=
  (∃ place, node.Keeps after buf extra place) ∨ node.Frees after buf extra

theorem mailBuf_absent {items : List (Packet ⊕ Nat)} :
    buf ∉ items.filterMap mailBuf ↔ ∀ packet, .inl packet ∈ items → packet.buf ≠ buf := by
  constructor
  · exact fun absent packet member same => absent (List.mem_filterMap.mpr ⟨.inl packet, member, congrArg some same⟩)
  · intro absent member
    obtain ⟨entry, member, same⟩ := List.mem_filterMap.mp member
    cases entry with
    | inl packet => exact absent packet member (Option.some.inj same)
    | inr conn => cases same

/-- No socket holds the packet. -/
def mailShelf (buf : Nat) : Shelf where
  stored _ := True
  queued _ := True
  mailed _ _ packet := packet.buf ≠ buf

theorem mailShelf_suits (buf conn : Nat) : (mailShelf buf).Suits conn := ⟨fun _ _ => trivial, fun _ _ _ => trivial⟩

theorem Node.Awaits.holds (awaits : node.Awaits buf extra) (slot : Nat) :
    (node.ctx slot).Holds (mailShelf buf) where
  stored _ _ := trivial
  queued _ _ := trivial
  mailed socket packet member := mailBuf_absent.mp (awaits.alone (.socket socket) (by simp)) packet member

/-- The places of the node after a call on one slot. -/
theorem Node.put_bufsAt (node : Node cfg) (slot : Nat) (call : Ctx cfg) :
    (node.put slot call).bufsAt .callback = node.bufsAt .callback ∧
      (∀ socket, (node.put slot call).bufsAt (.socket socket) =
        (call.stack.sockets socket).rxQueue.items.filterMap mailBuf) ∧
      (node.put slot call).bufsAt (.conn slot) = call.conn.queuedBufs ∧
      (∀ other, other ≠ slot → (node.put slot call).bufsAt (.conn other) = node.bufsAt (.conn other)) ∧
      (node.put slot call).bufsAt .reassembly = call.stack.rxQueue.items.map Packet.buf := by
  refine ⟨rfl, fun _ => rfl, ?_, fun other different => ?_, rfl⟩
  · simp [Node.bufsAt, Node.put, Slots.put]
  · simp [Node.bufsAt, Node.put, Slots.put, different]

/-- A call that does not get the packet leaves it in the hands of the router. -/
theorem Node.Awaits.put (awaits : node.Awaits buf extra) {slot : Nat} {call : Ctx cfg}
    (tracks : call.Tracks buf extra [buf] []) (holds : call.Holds (mailShelf buf)) :
    (node.put slot call).Awaits buf extra := by
  obtain ⟨-, sockets, own, others, reassembly⟩ := node.put_bufsAt slot call
  have once := tracks.io.once
  simp only [List.count_append, List.count_singleton_self] at once
  have conn : buf ∉ call.conn.queuedBufs := List.count_eq_zero.mp (by omega)
  have rx : buf ∉ call.stack.rxQueue.items.map Packet.buf := List.count_eq_zero.mp (by omega)
  refine ⟨?_, fun place notCallback => ?_, awaits.inside⟩
  · have io := tracks.io
    rw [List.append_nil] at io
    exact (Pool.tracks_append conn).mp ((Pool.tracks_append rx).mp io)
  · cases place with
    | callback => exact absurd rfl notCallback
    | socket socket =>
        rw [sockets]
        exact mailBuf_absent.mpr (holds.mailed socket)
    | conn other =>
        by_cases same : other = slot
        · rw [same, own]
          exact conn
        · rw [others other same]
          exact awaits.alone _ notCallback
    | reassembly =>
        rw [reassembly]
        exact rx

/-- Before the router is done, only callbacks may have had the packet. -/
theorem Node.Awaits.count (awaits : node.Awaits buf extra) {place : Place} (other : place ≠ .callback) :
    (node.bufsAt place).count buf = 0 := List.count_eq_zero.mpr (awaits.alone place other)

/-- A connection takes the packet over. -/
theorem Node.Awaits.deliver {packet : Packet} (awaits : node.Awaits packet.buf extra) (slot : Nat) :
    node.Settles (node.put slot (routeDeliver (node.ctx slot) packet)) packet.buf extra := by
  have tracks := routeDeliver_tracks (awaits.tracks slot)
  have holds : (routeDeliver (node.ctx slot) packet).Holds (mailShelf packet.buf) :=
    routeDeliver_holds (awaits.holds slot) (fun _ _ => mailShelf_suits _ _) (fun _ _ => ⟨trivial, trivial⟩)
      fun _ => trivial
  generalize routeDeliver (node.ctx slot) packet = call at tracks holds
  obtain ⟨callback, sockets, own, others, reassembly⟩ := node.put_bufsAt slot call
  have mail (socket : Nat) : packet.buf ∉ (node.put slot call).bufsAt (.socket socket) := by
    rw [sockets]
    exact mailBuf_absent.mpr (holds.mailed socket)
  have counts (place : Place) (notConn : place ≠ .conn slot) (notRx : place ≠ .reassembly) :
      ((node.put slot call).bufsAt place).count packet.buf = (node.bufsAt place).count packet.buf := by
    cases place with
    | callback => rw [callback]
    | socket socket => rw [List.count_eq_zero.mpr (mail socket), awaits.count (by simp)]
    | conn other => rw [others other (fun same => notConn (by rw [same]))]
    | reassembly => exact absurd rfl notRx
  have io := tracks.io
  rw [List.append_nil, List.append_nil] at io
  have once := io.once
  rw [List.count_append] at once
  by_cases queued : packet.buf ∈ call.conn.queuedBufs
  · have one : call.conn.queuedBufs.count packet.buf = 1 :=
      le_antisymm (by omega) (List.count_pos_iff.mpr queued)
    have rx : packet.buf ∉ call.stack.rxQueue.items.map Packet.buf := List.count_eq_zero.mp (by omega)
    obtain ⟨lent, refs⟩ := Pool.Tracks.kept ((Pool.tracks_append rx).mp io) one
    refine .inl ⟨.conn slot, ?_, fun place notConn => ?_, lent, refs⟩
    · rw [own, one, awaits.count (by simp)]
    · by_cases notRx : place = .reassembly
      · rw [notRx, reassembly, List.count_eq_zero.mpr rx, awaits.count (by simp)]
      · exact counts place notConn notRx
  · have none := List.count_eq_zero.mpr queued
    by_cases stored : packet.buf ∈ call.stack.rxQueue.items.map Packet.buf
    · have one : (call.stack.rxQueue.items.map Packet.buf).count packet.buf = 1 :=
        le_antisymm (by omega) (List.count_pos_iff.mpr stored)
      obtain ⟨lent, refs⟩ := Pool.Tracks.kept io (by rw [List.count_append, one, none])
      refine .inl ⟨.reassembly, ?_, fun place notRx => ?_, lent, refs⟩
      · rw [reassembly, one, awaits.count (by simp)]
      · by_cases notConn : place = .conn slot
        · rw [notConn, own, none, awaits.count (by simp)]
        · exact counts place notConn notRx
    · have free := (Pool.tracks_append stored).mp io
      rw [← List.append_nil call.conn.queuedBufs] at free
      refine .inr (Node.Frees.of_tracks ((Pool.tracks_append queued).mp free) rfl awaits.inside fun place => ?_)
      by_cases notRx : place = .reassembly
      · rw [notRx, reassembly, List.count_eq_zero.mpr stored, awaits.count (by simp)]
      · by_cases notConn : place = .conn slot
        · rw [notConn, own, none, awaits.count (by simp)]
        · exact counts place notConn notRx

/-! ## The router -/

theorem Node.Settles.of_counts {before : Node cfg} (settles : node.Settles after buf extra)
    (same : ∀ place, (node.bufsAt place).count buf = (before.bufsAt place).count buf) :
    before.Settles after buf extra := by
  obtain ⟨place, keeps⟩ | frees := settles
  · refine .inl ⟨place, ?_, fun other different => ?_, keeps.lent, keeps.refs⟩
    · rw [keeps.stored, same]
    · rw [keeps.others other different, same]
  · exact .inr ⟨fun place => (frees.others place).trans (same place), frees.refs, frees.pool⟩

/-- As long as the router holds the packet, only the history of the callbacks matters. -/
theorem Node.Awaits.counts (awaits : node.Awaits buf extra) (awaits' : after.Awaits buf extra)
    (callbacks : after.calledBack = node.calledBack) (place : Place) :
    (after.bufsAt place).count buf = (node.bufsAt place).count buf := by
  by_cases callback : place = .callback
  · subst callback
    simp only [Node.bufsAt, callbacks]
  · rw [awaits.count callback, awaits'.count callback]

/-- The output path may change while the router holds the packet. -/
theorem Node.Awaits.setIo (awaits : node.Awaits buf extra) {io : Io cfg} (dedup : Dedup)
    (tracks : io.Tracks buf extra [buf] (node.stack.txQueue.items.map Packet.buf)) :
    Node.Awaits { node with stack.io := io, dedup } buf extra where
  io := tracks
  alone place other := by
    have absent := awaits.alone place other
    cases place with
    | callback => exact absent
    | socket socket => exact absent
    | conn slot => exact absent
    | reassembly => exact absent
  inside := awaits.inside

theorem Node.Awaits.free {packet : Packet} (awaits : node.Awaits packet.buf extra) :
    node.Settles (node.free packet) packet.buf extra := by
  refine .inr (Node.Frees.of_tracks (Io.free_tracks awaits.io) rfl awaits.inside fun place => ?_)
  cases place with
  | callback => rfl
  | socket socket => rfl
  | conn slot => rfl
  | reassembly => rfl

/-- A new connection frees only what the last one left in the slot. -/
theorem Node.Awaits.renew (awaits : node.Awaits buf extra) (slot : Nat) {conn : Conn cfg}
    (empty : conn.rxQueue = .empty) : (node.renew slot conn).Awaits buf extra where
  io := by
    apply flushRxList_tracks
    exact (Pool.tracks_append (awaits.alone (.conn slot) (by simp))).mpr awaits.io
  alone place other := by
    have absent := awaits.alone place other
    cases place with
    | callback => exact absent
    | socket socket => exact absent
    | conn slot' =>
        by_cases same : slot' = slot
        · subst same
          simp only [Node.bufsAt, Node.renew_own, Conn.queuedBufs, empty]
          exact List.not_mem_nil
        · simp only [Node.bufsAt, node.renew_other conn same]
          exact absent
    | reassembly => exact absent
  inside := awaits.inside

theorem checkTimeoutsOn_awaits (slots : List Nat) (awaits : node.Awaits buf extra) :
    (checkTimeoutsOn slots node).Awaits buf extra ∧ (checkTimeoutsOn slots node).calledBack = node.calledBack := by
  induction slots generalizing node with
  | nil => exact ⟨awaits, rfl⟩
  | cons slot rest ih =>
      simp only [checkTimeoutsOn]
      split
      · apply ih
        apply awaits.put (rdpCheckTimeouts_tracks (awaits.tracks slot))
        exact rdpCheckTimeouts_holds (awaits.holds slot) fun _ => mailShelf_suits _ _
      · exact ih awaits

section Received
variable {packet : Packet} (awaits : node.Awaits packet.buf extra)
include awaits

theorem routeConnless_settles (socket : Nat) :
    node.Settles (routeConnless node socket packet) packet.buf extra := by
  have same := routeSecurityCheck_buf cfg (node.stack.sockets socket).opts packet
  simp only [routeConnless]
  generalize routeSecurityCheck cfg (node.stack.sockets socket).opts packet = result at same
  obtain ⟨err, checked⟩ := result
  have same : checked.buf = packet.buf := same
  rw [← same] at awaits ⊢
  split
  · rename_i passed
    cases passed
    split
    · exact awaits.free
    · rename_i rxQueue stored
      have items := (BoundedQueue.enqueue_eq_some.mp stored).2
      obtain ⟨lent, refs⟩ := Pool.Tracks.kept awaits.io (List.count_singleton_self)
      refine .inl ⟨.socket socket, ?_, fun place other => ?_, lent, refs⟩
      · simp only [Node.bufsAt, Function.update_self, items, List.filterMap_append, List.count_append]
        exact congrArg _ List.count_singleton_self
      · cases place with
        | callback => rfl
        | socket socket' =>
            have different : socket' ≠ socket := fun same => other (by rw [same])
            simp only [Node.bufsAt, Function.update_of_ne different]
        | conn slot => rfl
        | reassembly => rfl
  · rename_i failed
    cases failed
    exact awaits.free

theorem routeConnection_settles (socket : Option Nat) :
    node.Settles (routeConnection node socket packet).finish packet.buf extra := by
  have checks (opts : UInt32) := routeSecurityCheck_buf cfg opts packet
  simp only [routeConnection]
  split
  · rename_i slot _
    have same := checks (node.conns slot).opts
    generalize routeSecurityCheck cfg (node.conns slot).opts packet = result at same
    obtain ⟨err, checked⟩ := result
    have same : checked.buf = packet.buf := same
    rw [← same] at awaits ⊢
    split
    · rename_i passed
      cases passed
      exact awaits.deliver slot
    · rename_i failed
      cases failed
      exact awaits.free
  · split
    · exact awaits.free
    · rename_i socket
      have same := checks (node.stack.sockets socket).opts
      generalize routeSecurityCheck cfg (node.stack.sockets socket).opts packet = result at same
      obtain ⟨err, checked⟩ := result
      have same : checked.buf = packet.buf := same
      rw [← same] at awaits ⊢
      split
      · rename_i passed
        cases passed
        obtain none | ⟨slot, -, -, -, new⟩ := connNew_renews node checked.id (answerId checked.id) .server
        · rw [none]
          exact awaits.free
        · rw [new]
          have renewed := @Node.Awaits.renew cfg node _ _ awaits slot ((node.conns slot).server node.stack.now
            checked.id socket (node.stack.sockets socket).opts) rfl
          have delivered := (renewed.deliver slot).of_counts fun place => awaits.counts renewed rfl place
          simp only [Node.renew, Node.allocate, Function.update_self, Function.update_idem]
          exact delivered
      · rename_i failed
        cases failed
        exact awaits.free

theorem routeLocal_settles : node.Settles (routeLocal node packet).finish packet.buf extra := by
  simp only [routeLocal]
  split
  · have same := routeSecurityCheck_buf cfg 0 packet
    generalize routeSecurityCheck cfg 0 packet = result at same
    obtain ⟨err, checked⟩ := result
    have same : checked.buf = packet.buf := same
    rw [← same] at awaits ⊢
    split
    · rename_i passed
      cases passed
      obtain ⟨lent, refs⟩ := Pool.Tracks.kept awaits.io (List.count_singleton_self)
      refine .inl ⟨.callback, ?_, fun place other => ?_, lent, refs⟩
      · simp only [Routed.finish, Node.bufsAt, List.map_append, List.count_append]
        exact congrArg _ List.count_singleton_self
      · cases place with
        | callback => exact absurd rfl other
        | socket socket => rfl
        | conn slot => rfl
        | reassembly => rfl
    · rename_i failed
      cases failed
      exact awaits.free
  · split
    · exact routeConnless_settles awaits _
    · exact routeConnection_settles awaits _

/-- The router gives each packet for this node to one owner. -/
theorem routeInput_settles (ingress : Nat) (toMe : isToMe cfg (node.stack.io.ifaceAt ingress) packet = true) :
    node.Settles (routeInput node ingress packet).finish packet.buf extra := by
  have read := promiscAdd_tracks awaits.io packet
  have toMe' : isToMe cfg ((promiscAdd node.stack.io packet).ifaceAt ingress) packet = true := by
    have links := promiscAdd_links node.stack.io packet
    simp only [isToMe, links.addr, links.netmask]
    exact toMe
  simp only [routeInput, Node.setIo, toMe']
  generalize promiscAdd node.stack.io packet = io at read
  split
  · have same : (dedupIsDuplicate cfg node.stack.now node.dedup packet).2.2.buf = packet.buf := by
      simp only [dedupIsDuplicate]
      split
      · exact idPrepend_buf cfg packet
      · exact idPrepend_buf cfg packet
    generalize dedupIsDuplicate cfg node.stack.now node.dedup packet = result at same
    obtain ⟨duplicate, dedup, received⟩ := result
    have same : received.buf = packet.buf := same
    have later := awaits.setIo dedup read
    rw [← same] at awaits later ⊢
    cases duplicate with
    | true => exact later.free.of_counts fun place => awaits.counts later rfl place
    | false => exact (routeLocal_settles later).of_counts fun place => awaits.counts later rfl place
  · have later := awaits.setIo node.dedup read
    exact (routeLocal_settles later).of_counts fun place => awaits.counts later rfl place

end Received

end Places

/-- Each packet for this node that the router takes has one place when `csp_route_work` returns, or a
reference to its buffer went back to the pool once. A further reference stays. -/
theorem packet_hasOneOwner (cfg : Config) (node : Node cfg) (ingress : Nat) (packet : Packet) (extra : Nat)
    (sound : node.stack.io.pool.Sound)
    (held : (node.stack.io.pool.refcount packet.buf).toNat = 1 + extra)
    (alone : ∀ place, place ≠ .callback → packet.buf ∉ node.bufsAt place)
    (notLent : packet.buf ∉ node.lentBufs)
    (toMe : isToMe cfg ((connCheckTimeouts node).stack.io.ifaceAt ingress) packet = true) :
    node.Settles (routeWork node (some (ingress, packet))) packet.buf extra := by
  have used : node.stack.io.pool.refcount packet.buf ≠ 0 := by
    intro none
    rw [none, UInt32.toNat_zero] at held
    omega
  have none := List.count_eq_zero.mpr notLent
  have awaits : node.Awaits packet.buf extra := by
    refine ⟨⟨sound, ?_, ?_, fun member => absurd member notLent⟩, alone, sound.inside _ used⟩
    · rw [List.count_singleton_self, held, show (node.stack.io.usedBufs ++ _).count packet.buf = 0 from none]
    · rw [List.count_singleton_self, show (node.stack.io.usedBufs ++ _).count packet.buf = 0 from none]
  obtain ⟨timed, callbacks⟩ := checkTimeoutsOn_awaits (List.range cfg.connMax) awaits
  exact (routeInput_settles timed ingress toMe).of_counts fun place => awaits.counts timed callbacks place

/-- The first buffer of the pool holds a packet for port 10 of this node. -/
def takenPool : Option Packet × Pool {} := bufferGet (bufferInit {} fun _ => default) 256

def receivingNode : Node {} :=
  { Node.init { Io.init {} (fun _ => default) [] [] with pool := takenPool.2 } default with
    ports := fun port => if port = 10 then .open 0 else .closed }

def receivedPacket : Packet :=
  { userPacket [7] with buf := 0, id := { (default : CspId) with dport := 10, sport := 20 } }

theorem receivedPacket_hasOneOwner :
    (routeWork receivingNode (some (0, receivedPacket))).bufsAt (.conn 1) = [0] ∧
      receivingNode.Settles (routeWork receivingNode (some (0, receivedPacket))) 0 0 := by
  refine ⟨by decide +kernel, packet_hasOneOwner {} receivingNode 0 receivedPacket 0 ?_ ?_ ?_ ?_ ?_⟩
  · exact (bufferGet_sound (bufferInit_sound _) (rfl : takenPool = (some _, takenPool.2))).1
  · decide +kernel
  · intro place other
    cases place with
    | callback => exact absurd rfl other
    | socket socket => exact List.not_mem_nil
    | conn slot => exact List.not_mem_nil
    | reassembly => exact List.not_mem_nil
  · decide +kernel
  · decide +kernel

end Libcsp

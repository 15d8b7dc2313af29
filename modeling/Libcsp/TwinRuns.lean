/-
This file relates two runs of the RDP functions whose sequence numbers differ by a constant.
-/
import Libcsp.EackTransfer
import Libcsp.TwinOutput

namespace Libcsp

variable {cfg : Config} {strict : Prop} {shift : UInt16}

/-! ## Packets -/

/-- The first bytes are the same, or they are an EACK list with shifted numbers. -/
structure Packet.SameContent (shift : UInt16) (eack : Bool) (count : Nat) (first second : Packet) : Prop where
  entries : eack = true → ∀ index, 2 * index + 1 < count → second.data16 index = first.data16 index + shift
  bytes : eack = false ∨ shift = 0 → first.dataBytes count = second.dataBytes count

/-- One segment in two runs has a header with shifted numbers. -/
structure Packet.SegmentTwin (shift : UInt16) (first second : Packet) : Prop where
  length : first.length = second.length
  flags : first.rdpFlags = second.rdpFlags
  seqNr : second.seqNr = first.seqNr + shift
  ackNr : second.ackNr = first.ackNr + shift
  content : first.SameContent shift (first.hasRdp rdpEak) (first.length.toNat - rdpHeaderSize) second

/-- A packet of the retransmission queue in two runs. -/
structure Packet.TxTwin (shift : UInt16) (first second : Packet) : Prop where
  buf : first.buf = second.buf
  length : first.length = second.length
  conn : first.conn = second.conn
  timestampTx : first.timestampTx = second.timestampTx
  quarantine : first.rdpQuarantine = second.rdpQuarantine
  flags : first.rdpFlags = second.rdpFlags
  seqNr : second.seqNr = first.seqNr + shift
  body : first.body = second.body
  payload : shift = 0 → first.payload = second.payload

/-- A packet of the reassembly queue in two runs. -/
structure Packet.RxTwin (strict : Prop) (shift : UInt16) (first second : Packet) : Prop extends
    first.SameShape strict second where
  id : first.id = second.id
  conn : first.conn = second.conn
  seqNr : second.hostSeqNr = first.hostSeqNr + shift
  data : (rdpHeaderRemove first).payload = (rdpHeaderRemove second).payload
  payload : shift = 0 → first.payload = second.payload

/-- A packet for userspace in two runs. -/
structure Packet.UserTwin (strict : Prop) (first second : Packet) : Prop extends
    first.SameBuffer strict second where
  id : first.id = second.id
  payload : first.payload = second.payload

theorem Packet.UserTwin.refl : ∀ packet : Option Packet, Option.Rel (Packet.UserTwin strict) packet packet
  | none => .none
  | some packet => .some ⟨.refl packet, rfl, rfl⟩

/-- A packet that a node sent in two runs. -/
def SentTwin (shift : UInt16) (first second : CspId × Packet) : Prop :=
  first.1 = second.1 ∧ first.2.SegmentTwin shift second.2

theorem Packet.TxTwin.sameShape {first second : Packet} (twin : first.TxTwin shift second) :
    first.SameShape strict second := ⟨⟨twin.buf, fun _ => twin.quarantine⟩, twin.length⟩

theorem Packet.TxTwin.tagged {first second : Packet} (twin : first.TxTwin shift second) (conn : Nat) :
    (first.tagged conn).TxTwin shift (second.tagged conn) := { twin with conn := rfl }

theorem Packet.RxTwin.tagged {first second : Packet} (twin : first.RxTwin strict shift second) (conn : Nat) :
    (first.tagged conn).RxTwin strict shift (second.tagged conn) := { twin with conn := rfl }

/-! ## States -/

/-- All sequence numbers of a connection move by a constant. -/
def Rdp.shifted (shift : UInt16) (rdp : Rdp) : Rdp :=
  { rdp with
    sndNxt := rdp.sndNxt + shift
    sndUna := rdp.sndUna + shift
    sndIss := rdp.sndIss + shift
    rcvCur := rdp.rcvCur + shift
    rcvIrs := rdp.rcvIrs + shift
    rcvLsa := rdp.rcvLsa + shift }

/-- A connection in two runs. -/
inductive Conn.Twin (strict : Prop) (shift : UInt16) (conn : Conn cfg) : Conn cfg → Prop where
  | mk {rxQueue : BoundedQueue (Option Packet) cfg.connRxqueueLen} {rxLog : List (Option Packet)}
      (queued : conn.rxQueue.Related (Option.Rel (Packet.UserTwin strict)) rxQueue)
      (logged : List.Forall₂ (Option.Rel (Packet.UserTwin strict)) conn.rxLog rxLog) :
      Conn.Twin strict shift conn { conn with rdp := conn.rdp.shifted shift, rxQueue, rxLog }

/-- The static data in two runs. -/
inductive Stack.Twin (strict : Prop) (shift : UInt16) (base : List (CspId × Packet)) (stack : Stack cfg) :
    Stack cfg → Prop where
  | mk {io : Io cfg} {txQueue rxQueue : BoundedQueue Packet (cfg.rdpMaxWindow * 2)}
      (output : stack.io.Twin strict (SentTwin shift) base io)
      (tx : stack.txQueue.Related (Packet.TxTwin shift) txQueue)
      (rx : stack.rxQueue.Related (Packet.RxTwin strict shift) rxQueue) :
      Stack.Twin strict shift base stack { stack with io, txQueue, rxQueue }

/-- The state of a call in two runs. -/
inductive Ctx.Twin (strict : Prop) (shift : UInt16) (base : List (CspId × Packet)) (ctx : Ctx cfg) :
    Ctx cfg → Prop where
  | mk {connection : Conn cfg} {stack : Stack cfg} (conn : ctx.conn.Twin strict shift connection)
      (shared : ctx.stack.Twin strict shift base stack) : Ctx.Twin strict shift base ctx ⟨connection, stack⟩

variable {base : List (CspId × Packet)}

/-! ## The shared queues -/

section SharedQueues
variable {capacity : Nat} {rel : Packet → Packet → Prop}
  (shape : ∀ packet packet', rel packet packet' → packet.SameBuffer strict packet')
  (tags : ∀ packet packet', rel packet packet' → packet.conn = packet'.conn)
  (retag : ∀ conn packet packet', rel packet packet' → rel (packet.tagged conn) (packet'.tagged conn))
include shape

theorem rdpQueueAdd_twin {first second : Shared cfg capacity} (queues : first.1.Related rel second.1)
    (pools : first.2.Twin strict second.2) (conn : Nat) {packet packet' : Packet}
    (tagged : rel (packet.tagged conn) (packet'.tagged conn)) :
    (rdpQueueAdd first conn packet).1.Related rel (rdpQueueAdd second conn packet').1 ∧
      (rdpQueueAdd first conn packet).2.Twin strict (rdpQueueAdd second conn packet').2 := by
  rcases queues.enqueue tagged with ⟨full, full'⟩ | ⟨next, next', stored, stored', related⟩
  · simp only [rdpQueueAdd]
    simp only [Packet.tagged] at full full'
    rw [full, full']
    exact ⟨queues, bufferFree_twin pools (shape _ _ tagged)⟩
  · simp only [rdpQueueAdd]
    simp only [Packet.tagged] at stored stored'
    rw [stored, stored']
    exact ⟨related, pools⟩

include tags retag

theorem rdpQueueGetLoop_twin (conn count : Nat) {first second : Shared cfg capacity}
    (queues : first.1.Related rel second.1) (pools : first.2.Twin strict second.2) :
    Option.Rel rel (rdpQueueGetLoop conn count first).1 (rdpQueueGetLoop conn count second).1 ∧
      (rdpQueueGetLoop conn count first).2.1.Related rel (rdpQueueGetLoop conn count second).2.1 ∧
      (rdpQueueGetLoop conn count first).2.2.Twin strict (rdpQueueGetLoop conn count second).2.2 := by
  induction count generalizing first second with
  | zero => exact ⟨.none, queues, pools⟩
  | succ count ih =>
      simp only [rdpQueueGetLoop]
      rcases queues.dequeue with ⟨empty, empty'⟩ | ⟨packet, packet', rest, rest', got, got', same, related⟩
      · rw [empty, empty']
        exact ⟨.none, queues, pools⟩
      · rw [got, got']
        simp only [← tags packet packet' same]
        split
        · exact ⟨.some same, related, pools⟩
        · obtain ⟨queues', pools'⟩ := @rdpQueueAdd_twin cfg strict capacity rel shape (rest, first.2)
            (rest', second.2) related pools conn packet packet' (retag conn packet packet' same)
          exact ih queues' pools'

end SharedQueues

section Queues
variable {first second : Stack cfg} (twin : first.Twin strict shift base second)
include twin

theorem rdpQueueTxAdd_twin (conn : Nat) {packet packet' : Packet}
    (same : (packet.tagged conn).TxTwin shift (packet'.tagged conn)) :
    (rdpQueueTxAdd first conn packet).Twin strict shift base (rdpQueueTxAdd second conn packet') := by
  obtain ⟨output, tx, rx⟩ := twin
  obtain ⟨queues, pools⟩ := @rdpQueueAdd_twin cfg strict _ _ (fun _ _ twin => twin.sameShape.toSameBuffer)
    first.tx (_, _) tx output.pool conn packet packet' same
  exact .mk (output.setPool pools) queues rx

theorem rdpQueueRxAdd_twin (conn : Nat) {packet packet' : Packet}
    (same : (packet.tagged conn).RxTwin strict shift (packet'.tagged conn)) :
    (rdpQueueRxAdd first conn packet).Twin strict shift base (rdpQueueRxAdd second conn packet') := by
  obtain ⟨output, tx, rx⟩ := twin
  obtain ⟨queues, pools⟩ := @rdpQueueAdd_twin cfg strict _ _ (fun _ _ twin => twin.toSameBuffer)
    first.rx (_, _) rx output.pool conn packet packet' same
  exact .mk (output.setPool pools) tx queues

theorem rdpQueueTxGet_twin (conn : Nat) :
    Option.Rel (Packet.TxTwin shift) (rdpQueueTxGet first conn).1 (rdpQueueTxGet second conn).1 ∧
      (rdpQueueTxGet first conn).2.Twin strict shift base (rdpQueueTxGet second conn).2 := by
  obtain ⟨output, tx, rx⟩ := twin
  have size := tx.size
  obtain ⟨found, queues, pools⟩ := @rdpQueueGetLoop_twin cfg strict _ _ (fun _ _ twin => twin.sameShape.toSameBuffer)
    (fun _ _ twin => twin.conn) (fun conn _ _ twin => twin.tagged conn) conn first.txQueue.size first.tx
    (_, _) tx output.pool
  simp only [rdpQueueTxGet, rdpQueueGet, Stack.tx, ← size]
  exact ⟨found, .mk (output.setPool pools) queues rx⟩

theorem rdpQueueRxGet_twin (conn : Nat) :
    Option.Rel (Packet.RxTwin strict shift) (rdpQueueRxGet first conn).1 (rdpQueueRxGet second conn).1 ∧
      (rdpQueueRxGet first conn).2.Twin strict shift base (rdpQueueRxGet second conn).2 := by
  obtain ⟨output, tx, rx⟩ := twin
  have size := rx.size
  obtain ⟨found, queues, pools⟩ := @rdpQueueGetLoop_twin cfg strict _ _ (fun _ _ twin => twin.toSameBuffer)
    (fun _ _ twin => twin.conn) (fun conn _ _ twin => twin.tagged conn) conn first.rxQueue.size first.rx
    (_, _) rx output.pool
  simp only [rdpQueueRxGet, rdpQueueGet, Stack.rx, ← size]
  exact ⟨found, .mk (output.setPool pools) tx queues⟩

end Queues

end Libcsp

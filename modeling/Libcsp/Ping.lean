/-
This file models csp_ping of csp_services.c, and states when a successful ping is a complete echo.
-/
import Libcsp.AcceptedSegment
import Libcsp.RdpUser

namespace Libcsp

variable {cfg : Config} {packet reply : Packet} {size start : UInt32}

/-- The byte of the pattern at an index. -/
def pingByte (index : Nat) : UInt8 := UInt8.ofNat (index % (0xFF + 1))

/-- A request has increasing numbers in its data. -/
def pingRequest (size : UInt32) (packet : Packet) : Packet :=
  { packet with
    length := size.toUInt16
    mem := writeBytes packet.mem dataAt ((List.range size.toNat).map pingByte) }

/-- The check of `csp_ping` compares as many bytes as the request had. -/
def pingMatches (size : UInt32) (packet : Packet) : Bool :=
  (List.range size.toNat).all fun index => packet.data index == pingByte index

/-- One call of `csp_ping`, with the packets that it got from `csp_buffer_get` and `csp_read` and gave to `csp_send`
and `csp_buffer_free`, and the number of its calls of `csp_close`. -/
structure PingCall (cfg : Config) where
  ret : Int32
  after : Option (Ctx cfg)
  taken : List Packet
  handed : List Packet
  received : List Packet
  freed : List Packet
  closes : Nat

/-- The part of `csp_ping` behind the label `out`. -/
def pingOut (start : UInt32) (ctx : Ctx cfg) (taken handed received : List Packet) (packet : Option Packet)
    (status : Bool) : PingCall cfg :=
  let stack := { ctx.stack with io := { ctx.stack.io with pool := bufferFree ctx.stack.io.pool packet } }
  let after := cspClose { ctx with stack }
  let time := after.stack.now - start
  { ret := if status then time.toInt32 else -1
    after := some after
    taken, handed, received
    freed := packet.toList
    closes := 1 }

/-- This is `csp_ping` from the time `start` on. `csp_connect` gave the connection, and `during` is what the router
does until `csp_read` looks into the queue of the connection. -/
def cspPing (start : UInt32) (size : UInt32) (conn : Option (Ctx cfg)) (during : Ctx cfg → Ctx cfg) : PingCall cfg :=
  match conn with
  | none => { ret := -1, after := none, taken := [], handed := [], received := [], freed := [], closes := 0 }
  | some ctx =>
      match bufferGet ctx.stack.io.pool size.toNat with
      | (none, pool) =>
          pingOut start { ctx with stack := { ctx.stack with io := { ctx.stack.io with pool } } } [] [] [] none false
      | (some packet, pool) =>
          let request := pingRequest size packet
          let ctx := { ctx with stack := { ctx.stack with io := { ctx.stack.io with pool } } }
          match cspRead (during (cspSend ctx (some request))) with
          | (none, ctx) => pingOut start ctx [packet] [request] [] none false
          | (some reply, ctx) => pingOut start ctx [packet] [request] [reply] (some reply) (pingMatches size reply)

/-! ## Complete echoes -/

/-- The packet has the length and the bytes of the request. -/
structure Packet.Echoes (packet : Packet) (size : UInt32) : Prop where
  length : packet.length.toNat = size.toNat
  bytes : packet.payload = (List.range size.toNat).map pingByte

/-- A ping is right about the echo, and it leaves no packet and no connection behind. -/
structure PingCall.Right (call : PingCall cfg) (size : UInt32) (connected : Bool) : Prop where
  complete : 0 ≤ call.ret → ∃ reply, call.received = [reply] ∧ reply.Echoes size
  refuses : ∀ reply ∈ call.received, ¬reply.Echoes size → call.ret = -1
  frees : call.freed = call.received
  sends : call.handed.map Packet.buf = call.taken.map Packet.buf
  closes : call.closes = if connected then 1 else 0

/-- The time of the call reads as the error code -1. -/
def PingCall.WrapsTime (call : PingCall cfg) (start : UInt32) : Prop :=
  ∃ after, call.after = some after ∧ (after.stack.now - start).toInt32 = -1

/-- A reply that passes the check has the length of the request. -/
def PingCall.SameLengths (call : PingCall cfg) (start size : UInt32) : Prop :=
  ∀ reply ∈ call.received, pingMatches size reply = true → reply.length.toNat = size.toNat ∨ call.WrapsTime start

/-- The check compares the bytes, and not the length. -/
theorem echoes_iff : reply.Echoes size ↔ reply.length.toNat = size.toNat ∧ pingMatches size reply = true := by
  have checked : pingMatches size reply = true ↔ ∀ index ∈ List.range size.toNat, reply.data index = pingByte index := by
    simp [pingMatches]
  have bytes : reply.length.toNat = size.toNat →
      (reply.payload = (List.range size.toNat).map pingByte ↔ pingMatches size reply = true) := by
    intro length
    rw [checked, Packet.payload, Packet.dataBytes, length]
    exact List.map_inj_left
  constructor
  · rintro ⟨length, same⟩
    exact ⟨length, (bytes length).mp same⟩
  · rintro ⟨length, same⟩
    exact ⟨length, (bytes length).mpr same⟩

theorem pingOut_right_iff (ctx : Ctx cfg) {taken handed : List Packet} (reply : Packet)
    (sends : handed.map Packet.buf = taken.map Packet.buf) :
    (pingOut start ctx taken handed [reply] (some reply) (pingMatches size reply)).Right size true ↔
      (pingOut start ctx taken handed [reply] (some reply) (pingMatches size reply)).SameLengths start size := by
  let call := pingOut start ctx taken handed [reply] (some reply) (pingMatches size reply)
  have failed : pingMatches size reply = false → call.ret = -1 := fun refused => by
    simp only [call, pingOut, refused]
    rfl
  have wraps : pingMatches size reply = true → (call.ret = -1 ↔ call.WrapsTime start) := fun passes => by
    simp only [call, pingOut, passes, if_true, PingCall.WrapsTime, Option.some.injEq, exists_eq_left']
  constructor
  · intro right reply' member passes
    obtain rfl := List.mem_singleton.mp member
    by_cases length : reply'.length.toNat = size.toNat
    · exact .inl length
    · exact .inr ((wraps passes).mp (right.refuses _ member fun echoes => length echoes.length))
  · intro same
    refine ⟨fun least => ⟨reply, rfl, ?_⟩, fun reply' member other => ?_, rfl, sends, rfl⟩
    · cases passes : pingMatches size reply with
      | false =>
          change 0 ≤ call.ret at least
          rw [failed passes] at least
          exact absurd least (by decide)
      | true =>
          refine echoes_iff.mpr ⟨(same reply (List.mem_singleton_self reply) passes).resolve_right fun wrapped => ?_, passes⟩
          change 0 ≤ call.ret at least
          rw [(wraps passes).mpr wrapped] at least
          exact absurd least (by decide)
    · obtain rfl := List.mem_singleton.mp member
      change call.ret = -1
      cases passes : pingMatches size reply' with
      | false => exact failed passes
      | true =>
          exact (wraps passes).mpr ((same _ member passes).resolve_left fun length => other (echoes_iff.mpr ⟨length, passes⟩))

/-- A call without a reply returns the error code. -/
theorem pingOut_silent (ctx : Ctx cfg) {taken handed : List Packet}
    (sends : handed.map Packet.buf = taken.map Packet.buf) :
    (pingOut start ctx taken handed [] none false).Right size true where
  complete least := absurd (show (0 : Int32) ≤ -1 from least) (by decide)
  refuses _ member := absurd member List.not_mem_nil
  frees := rfl
  sends := sends
  closes := rfl

/-- The request of an earlier ping is still in the buffer of a reply of one byte. -/
def truncatedEcho : Packet := { pingRequest 3 default with length := 1 }

/-- The truncated reply arrives while the ping waits. -/
def truncatedReply (ctx : Ctx {}) : Ctx {} := { ctx with conn := (connEnqueuePacket ctx.conn (some truncatedEcho)).2 }

/-- A connection without RDP. -/
def plainEnd : Ctx {} :=
  { openEnd with conn := { openEnd.conn with idin := default, idout := default } }

end Libcsp

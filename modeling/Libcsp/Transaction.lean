/-
This file models the transactions of csp_io.c and the remote calls of csp_services.c and csp_cmp.h.
-/
import Libcsp.Leftovers
import Libcsp.RdpUser

namespace Libcsp

variable {cfg : Config} {World : Type}

/-! ## Transactions -/

/-- What a transaction returns, the bytes that it copies to `inbuf`, the connection behind it, and the rest of the
network. -/
structure Transaction (cfg : Config) (World : Type) where
  status : Int
  inbuf : Option (List UInt8)
  after : Option (Ctx cfg)
  world : World

/-- The request holds `outlen` bytes of `outbuf`. A NULL buffer leaves the data as it is. -/
def transactionRequest (outbuf : Option (List UInt8)) (outlen : Nat) (packet : Packet) : Packet :=
  { packet with
    length := UInt16.ofNat outlen
    mem := match outbuf with
      | none => packet.mem
      | some bytes => writeBytes packet.mem dataAt (bytes.take outlen) }

/-- A reply of the wrong length is dropped. The length -1 accepts every reply. -/
def transactionReply (ctx : Ctx cfg) (world : World) (inlen : Int) (reply : Packet) : Transaction cfg World :=
  if inlen ≠ -1 ∧ (reply.length.toNat : Int) ≠ inlen then ⟨0, none, some (ctx.free reply), world⟩
  else ⟨reply.length.toNat, some reply.payload, some (ctx.free reply), world⟩

/-- This is `csp_transaction_persistent`. The function `during` is what the network does until `csp_read` looks into
the queue of the connection. -/
def cspTransactionPersistent (ctx : Ctx cfg) (world : World) (outbuf : Option (List UInt8)) (outlen : Nat)
    (inlen : Int) (during : World → Ctx cfg → World × Ctx cfg) : Transaction cfg World :=
  match bufferGet ctx.stack.io.pool (max inlen outlen).toNat with
  | (none, pool) => ⟨0, none, some { ctx with stack.io.pool := pool }, world⟩
  | (some packet, pool) =>
      let ctx := cspSend { ctx with stack.io.pool := pool } (some (transactionRequest outbuf outlen packet))
      if inlen = 0 then ⟨1, none, some ctx, world⟩
      else
        let (world, ctx) := during world ctx
        match cspRead ctx with
        | (none, ctx) => ⟨0, none, some ctx, world⟩
        | (some reply, ctx) => transactionReply ctx world inlen reply

/-- This is `csp_transaction_w_opts`. The argument `conn` is the result of `csp_connect`. -/
def cspTransaction (conn : Option (Ctx cfg)) (world : World) (outbuf : Option (List UInt8)) (outlen : Nat)
    (inlen : Int) (during : World → Ctx cfg → World × Ctx cfg) : Transaction cfg World :=
  match conn with
  | none => ⟨0, none, none, world⟩
  | some ctx =>
      let call := cspTransactionPersistent ctx world outbuf outlen inlen during
      { call with after := call.after.map cspClose }

/-! ## Remote calls -/

/-- The word of a buffer in network byte order. -/
def beWord (bytes : List UInt8) : UInt32 :=
  bytes.foldl (fun word byte => word * 256 + byte.toUInt32) 0

/-- The calls that get one word differ only in the port, which is a parameter of `csp_connect`. -/
def cspGetWord (port : UInt8) (connect : UInt8 → Option (Ctx cfg)) (world : World)
    (during : World → Ctx cfg → World × Ctx cfg) : CspErr × UInt32 :=
  let call := cspTransaction (connect port) world none 0 4 during
  if call.status = 4 then (.none, beWord (call.inbuf.getD [])) else (.timedout, 0)

def cspMemfreePort : UInt8 := 3
def cspRebootPort : UInt8 := 4
def cspBufFreePort : UInt8 := 5
def cspUptimePort : UInt8 := 6

/-- This is `csp_get_memfree`. -/
def cspGetMemfree (connect : UInt8 → Option (Ctx cfg)) (world : World)
    (during : World → Ctx cfg → World × Ctx cfg) : CspErr × UInt32 :=
  cspGetWord cspMemfreePort connect world during

/-- This is `csp_get_buf_free`. -/
def cspGetBufFree (connect : UInt8 → Option (Ctx cfg)) (world : World)
    (during : World → Ctx cfg → World × Ctx cfg) : CspErr × UInt32 :=
  cspGetWord cspBufFreePort connect world during

/-- This is `csp_get_uptime`. -/
def cspGetUptime (connect : UInt8 → Option (Ctx cfg)) (world : World)
    (during : World → Ctx cfg → World × Ctx cfg) : CspErr × UInt32 :=
  cspGetWord cspUptimePort connect world during

/-- The calls that send a magic word wait for no reply. -/
def cspSendMagic (magicWord : UInt32) (connect : UInt8 → Option (Ctx cfg)) (world : World)
    (during : World → Ctx cfg → World × Ctx cfg) : Transaction cfg World :=
  cspTransaction (connect cspRebootPort) world (some (be32Bytes magicWord)) 4 0 during

/-- This is `csp_reboot`. -/
def cspReboot (connect : UInt8 → Option (Ctx cfg)) (world : World)
    (during : World → Ctx cfg → World × Ctx cfg) : Transaction cfg World :=
  cspSendMagic cspRebootMagic connect world during

/-- This is `csp_shutdown`. -/
def cspShutdown (connect : UInt8 → Option (Ctx cfg)) (world : World)
    (during : World → Ctx cfg → World × Ctx cfg) : Transaction cfg World :=
  cspSendMagic cspRebootShutdownMagic connect world during

/-- The message with its type and its code. -/
def cmpMessage (code : UInt8) (msg : List UInt8) : List UInt8 := cmpRequest :: code :: msg.drop 2

/-- This is `csp_cmp`. The request and the reply share the buffer `msg`. -/
def cspCmp (conn : Option (Ctx cfg)) (world : World) (code : UInt8) (msgSize : Nat) (msg : List UInt8)
    (during : World → Ctx cfg → World × Ctx cfg) : CspErr × List UInt8 × World :=
  let msg := cmpMessage code msg
  let call := cspTransaction conn world (some msg) msgSize msgSize during
  let msg := (call.inbuf.getD []) ++ msg.drop (call.inbuf.getD []).length
  (if call.status = 0 then .timedout else .none, msg, call.world)

def cspCmpPeek : UInt8 := 4
def cspCmpPoke : UInt8 := 5

/-- The size of `struct csp_cmp_message` up to the end of a `peek` or a `poke`. Three bytes of padding follow the data. -/
def cmpMessageSize : Nat := 210

/-- The size of a memory message with only as many bytes of data as its length field says, and three bytes for the
padding. -/
def cmpMemorySize (msg : List UInt8) : Nat := cmpMessageSize - 200 + (msg.getD 6 0).toNat

/-- This is `csp_cmp_peek`. -/
def cmpPeek (conn : Option (Ctx cfg)) (world : World) (msg : List UInt8)
    (during : World → Ctx cfg → World × Ctx cfg) : CspErr × List UInt8 × World :=
  cspCmp conn world cspCmpPeek (cmpMemorySize msg) msg during

/-- This is `csp_cmp_poke`. -/
def cmpPoke (conn : Option (Ctx cfg)) (world : World) (msg : List UInt8)
    (during : World → Ctx cfg → World × Ctx cfg) : CspErr × List UInt8 × World :=
  cspCmp conn world cspCmpPoke (cmpMemorySize msg) msg during

end Libcsp

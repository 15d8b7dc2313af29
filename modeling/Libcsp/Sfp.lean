/-
This file models the Simple Fragmentation Protocol of csp_sfp.c over a connection that delivers packets.
-/
import Libcsp.Checksum

namespace Libcsp

variable {cfg : Config}

/-- This is `sfp_header_t` in host byte order. -/
structure SfpHeader where
  offset : UInt32
  totalsize : UInt32
  deriving DecidableEq, Repr

/-- The size of `sfp_header_t`. -/
def sfpHeaderSize : Nat := 8

/-- This is `csp_sfp_header_add` with the stores of its caller. -/
def sfpHeaderAdd (packet : Packet) (header : SfpHeader) : Packet :=
  let place := dataAt + packet.length.toNat
  { packet with
    length := packet.length + UInt16.ofNat sfpHeaderSize
    mem := putBe32 (putBe32 packet.mem (place + 4) header.totalsize) place header.offset }

/-- This is `csp_sfp_header_remove`. The bytes behind the new length are not read again. -/
def sfpHeaderRemove (packet : Packet) : Option (SfpHeader × Packet) :=
  if !packet.id.has cspFFrag then none
  else if packet.length < UInt16.ofNat sfpHeaderSize then none
  else
    let length := packet.length - UInt16.ofNat sfpHeaderSize
    let place := dataAt + length.toNat
    let header := { offset := be32 packet.mem place, totalsize := be32 packet.mem (place + 4) }
    if header.offset > header.totalsize then none else some (header, { packet with length })

/-! ## The sender -/

/-- The sender uses its connection and the pool. -/
structure SfpSender where
  /-- The value of `conn->idout`. -/
  idout : CspId
  /-- The number of buffers that it took. -/
  taken : Nat
  /-- History: the packets that `csp_send` got, with the identifier of the connection. -/
  sent : List (CspId × Packet)

/-- The result of `csp_buffer_get` in a pool whose free buffers are this sequence. -/
def sfpBufferGet (cfg : Config) (buffers : Nat → Option Packet) (taken size : Nat) : Option Packet :=
  if size > cfg.bufferSize then none else buffers taken

/-- The packet of one turn has the copied bytes and the header. -/
def sfpFragment (buffer : Packet) (data : Memory) (totalsize count size : UInt32) : Packet :=
  let bytes := (List.range size.toNat).map fun index => data (count.toNat + index)
  sfpHeaderAdd { buffer with length := size.toUInt16, mem := writeBytes buffer.mem dataAt bytes }
    { offset := count, totalsize }

/-- The number of bytes in the next packet. -/
def sfpSize (totalsize mtu count : UInt32) : UInt32 :=
  if totalsize - count > mtu then mtu else totalsize - count

/-- The next packet goes on with the data. -/
theorem sfpSize_toNat {totalsize mtu count : UInt32} (more : count < totalsize) :
    (sfpSize totalsize mtu count).toNat = min mtu.toNat (totalsize.toNat - count.toNat) := by
  have rest : (totalsize - count).toNat = totalsize.toNat - count.toNat :=
    UInt32.toNat_sub_of_le _ _ (UInt32.le_of_lt more)
  rw [sfpSize]
  split
  · rename_i large
    rw [gt_iff_lt, UInt32.lt_iff_toNat_lt] at large
    omega
  · rename_i small
    rw [gt_iff_lt, UInt32.lt_iff_toNat_lt] at small
    omega

theorem sfpCount_toNat {totalsize mtu count : UInt32} (more : count < totalsize) :
    (count + sfpSize totalsize mtu count).toNat = count.toNat + (sfpSize totalsize mtu count).toNat := by
  have bound := totalsize.toNat_lt
  have size := @sfpSize_toNat totalsize mtu count more
  have small := UInt32.lt_iff_toNat_lt.mp more
  rw [UInt32.toNat_add]
  apply Nat.mod_eq_of_lt
  omega

/-- The loop of `csp_sfp_send_own_memcpy` with the plain `memcpy`. -/
def sfpSendLoop (cfg : Config) (buffers : Nat → Option Packet) (data : Memory) (totalsize mtu : UInt32)
    (positive : mtu ≠ 0) (count : UInt32) (sender : SfpSender) : CspErr × SfpSender :=
  if _ : count < totalsize then
    match sfpBufferGet cfg buffers sender.taken (mtu.toNat + sfpHeaderSize) with
    | none => (.nomem, sender)
    | some buffer =>
        let size := sfpSize totalsize mtu count
        let idout := { sender.idout with flags := sender.idout.flags ||| cspFFrag }
        let packet := sfpFragment buffer data totalsize count size
        sfpSendLoop cfg buffers data totalsize mtu positive (count + size)
          { idout, taken := sender.taken + 1, sent := sender.sent ++ [(idout, packet)] }
  else (.none, sender)
termination_by totalsize.toNat - count.toNat
decreasing_by
  have more := ‹count < totalsize›
  have size := @sfpSize_toNat totalsize mtu count more
  have next := @sfpCount_toNat totalsize mtu count more
  have small := UInt32.lt_iff_toNat_lt.mp more
  have some' : mtu.toNat ≠ 0 := fun zero => positive (UInt32.toNat_inj.mp zero)
  omega

/-- This is `csp_sfp_send_own_memcpy`. -/
def sfpSendOwnMemcpy (cfg : Config) (buffers : Nat → Option Packet) (data : Memory) (totalsize mtu : UInt32)
    (sender : SfpSender) : CspErr × SfpSender :=
  if positive : mtu ≠ 0 then sfpSendLoop cfg buffers data totalsize mtu positive 0 sender else (.inval, sender)

/-! ## The receiver -/

/-- The local variables of `csp_sfp_recv_fp`. The block of `malloc` has arbitrary content at first. -/
structure SfpState where
  data : Option Memory
  datasize : UInt32
  dataOffset : UInt32

/-- The memory for the transfer is allocated with the first packet. -/
def SfpState.allocate (state : SfpState) (malloc : UInt32 → Option Memory) (totalsize : UInt32) :
    Option (Memory × UInt32) :=
  match state.data with
  | some data => some (data, state.datasize)
  | none => (malloc totalsize).map fun data => (data, totalsize)

/-- One packet ends the transfer or continues it. In each case, it is freed. -/
inductive SfpStep where
  | fails (err : CspErr)
  | completes (data : Memory) (datasize : UInt32)
  | continues (state : SfpState)

/-- The body of the loop of `csp_sfp_recv_fp`. -/
def sfpStep (malloc : UInt32 → Option Memory) (packet : Packet) (state : SfpState) : SfpStep :=
  match sfpHeaderRemove packet with
  | none => .fails .sfp
  | some (header, packet) =>
      if header.offset ≠ state.dataOffset then .fails .sfp
      else
        match state.allocate malloc header.totalsize with
        | none => .fails .nomem
        | some (data, datasize) =>
            let dataOffset := state.dataOffset + packet.length.toUInt32
            if dataOffset > datasize ∨ datasize ≠ header.totalsize then .fails .sfp
            else
              let data := writeBytes data state.dataOffset.toNat packet.payload
              if dataOffset ≥ datasize then .completes data datasize
              else if packet.length = 0 then .fails .sfp
              else .continues { data := some data, datasize, dataOffset }

/-- The results of `csp_sfp_recv_fp`, the packets that are left on the connection, and the freed buffers. -/
structure SfpResult where
  err : CspErr
  returnData : Option Memory
  returnDatasize : Int
  queue : List Packet
  freed : List Nat

/-- The loop of `csp_sfp_recv_fp`. A read without a packet times out. -/
def sfpRecvLoop (malloc : UInt32 → Option Memory) (queue : List Packet) (packet : Packet) (state : SfpState)
    (freed : List Nat) : SfpResult :=
  let freed := freed ++ [packet.buf]
  match sfpStep malloc packet state with
  | .fails err => { err, returnData := none, returnDatasize := 0, queue, freed }
  | .completes data datasize =>
      { err := .none, returnData := some data, returnDatasize := datasize.toBitVec.toInt, queue, freed }
  | .continues state =>
      match queue with
      | [] => { err := .timedout, returnData := none, returnDatasize := 0, queue := [], freed }
      | next :: rest => sfpRecvLoop malloc rest next state freed

/-- This is `csp_sfp_recv_fp`. -/
def sfpRecvFp (malloc : UInt32 → Option Memory) (queue : List Packet) (firstPacket : Option Packet) : SfpResult :=
  let start : SfpState := { data := none, datasize := 0, dataOffset := 0 }
  match firstPacket with
  | some packet => sfpRecvLoop malloc queue packet start []
  | none =>
      match queue with
      | [] => { err := .timedout, returnData := none, returnDatasize := 0, queue := [], freed := [] }
      | packet :: rest => sfpRecvLoop malloc rest packet start []

end Libcsp

/-
This file states which packets cross a UDP link.
-/
import Libcsp.I2cRoundTrip

namespace Libcsp

open BitField

variable {cfg : Config} {qfifoLen : Nat} {link : Link cfg qfifoLen} {packet fresh received : Packet}

/-- A frame in a buffer of the receiver gives the packet that the sender framed. -/
theorem receivedFrame_arrives (fresh : Packet) (fits : packet.id.Fits cfg)
    (counted : packet.length.toNat + idHeaderSize cfg < 2 ^ 16) :
    ∃ received, idStrip cfg (receivedFrame cfg fresh (idPrepend cfg packet).bytes) = some received ∧
      received.Arrives packet := by
  have length := idPrepend_frameLength cfg packet
  rw [Nat.mod_eq_of_lt counted] at length
  have carried := @receivedFrame_bytes cfg fresh _ (show (idPrepend cfg packet).bytes.length < 2 ^ 16 by omega)
  have parts := carried.trans (idPrepend_bytes cfg packet counted)
  obtain ⟨received, stripped, same, payload⟩ := idStrip_of_bytes (receivedFrame_begin cfg fresh _) parts
    (beBytes_length _ _)
  refine ⟨received, stripped, ?_, ?_, payload⟩
  · rw [same]
    simp only [beValue_beBytes, idFields_word fits]
  · rw [same]
    simp only [packet.payload_length, UInt16.ofNat_toNat]

/-! ## UDP -/

/-- The receive work of the thread that `csp_if_udp_init` starts, with the mtu that the thread reads. The mtu is 0 until
the function sets it to the size of a buffer. -/
def udpDeliver (mtu : Nat) (receiver : Link cfg qfifoLen) (packet : Packet) : Link cfg qfifoLen :=
  (udpRxWork receiver mtu (some (idPrepend cfg packet).bytes)).2

/-- The socket sends one datagram, and each receiver with a buffer and space in its router queue queues exactly this
packet. The result of `sendto` tells whether the network takes a datagram. -/
structure UdpRoundTrip (sendto : List UInt8 → Bool) (mtu : Nat) (sender : Udp cfg qfifoLen) (packet : Packet) :
    Prop where
  sends : (udpTx sender packet).sent.filter sendto = [(idPrepend cfg packet).bytes]
  arrives : ∀ (length : Nat) (receiver : Link cfg length), 0 < receiver.pool.remaining →
    receiver.qfifo.items.length < length →
      ∃ received, (udpDeliver mtu receiver packet).qfifo.items = receiver.qfifo.items ++ [(receiver.iface, received)] ∧
        received.Arrives packet

variable {mtu : Nat}

/-- A datagram of more than four bytes that fits in the mtu arrives. -/
theorem udpDeliver_arrives (known : mtu ≤ cfg.bufferSize) (fits : packet.id.Fits cfg)
    (available : 0 < link.pool.remaining) (room : link.qfifo.items.length < qfifoLen)
    (long : 4 < packet.length.toNat + idHeaderSize cfg) (small : packet.length.toNat ≤ mtu)
    (counted : packet.length.toNat + idHeaderSize cfg < 2 ^ 16) :
    ∃ received, (udpDeliver mtu link packet).qfifo.items = link.qfifo.items ++ [(link.iface, received)] ∧
      received.Arrives packet := by
  have length : (idPrepend cfg packet).bytes.length = packet.length.toNat + idHeaderSize cfg := by
    rw [idPrepend_frameLength, Nat.mod_eq_of_lt counted]
  have whole : udpReceived cfg mtu (idPrepend cfg packet).bytes = (idPrepend cfg packet).bytes := by
    rw [udpReceived, List.take_of_length_le]
    omega
  rcases bufferGet_hasBuffer link mtu with ⟨-, fresh, pool, got⟩ | ⟨lacks, -⟩
  · obtain ⟨received, stripped, arrives⟩ := @receivedFrame_arrives cfg packet fresh fits counted
    refine ⟨received, ?_, arrives⟩
    have counts : ¬(idPrepend cfg packet).bytes.length ≤ 4 := by omega
    simp only [udpDeliver, udpRxWork, got, Option.map_some, whole, if_neg counts, stripped]
    exact @qfifoWrite_room cfg qfifoLen { link with pool } room received
  · exact absurd ⟨known, available⟩ lacks

/-- A packet in the queue comes from a datagram of more than four bytes, without the bytes behind the mtu. -/
theorem udpDeliver_queued (empty : link.qfifo.items = [])
    (queued : (udpDeliver mtu link packet).qfifo.items = [(link.iface, received)]) :
    4 < (packet.length.toNat + idHeaderSize cfg) % 2 ^ 16 ∧ received.length.toNat ≤ mtu ∧
      received.length.toNat + idHeaderSize cfg ≤ (packet.length.toNat + idHeaderSize cfg) % 2 ^ 16 := by
  have length := idPrepend_frameLength cfg packet
  have nothing : (udpDeliver mtu link packet).qfifo.items ≠ [] := by simp [queued]
  rcases bufferGet_hasBuffer link mtu with ⟨-, fresh, pool, got⟩ | ⟨-, got⟩
  · let bytes := udpReceived cfg mtu (idPrepend cfg packet).bytes
    have cut : bytes.length = min (mtu + idHeaderSize cfg) ((packet.length.toNat + idHeaderSize cfg) % 2 ^ 16) := by
      rw [← length]
      exact List.length_take
    by_cases short : bytes.length ≤ 4
    · simp only [udpDeliver, udpRxWork, got, Option.map_some, bytes, if_pos short] at nothing
      exact absurd empty nothing
    · cases stripped : idStrip cfg (receivedFrame cfg fresh bytes) with
      | none =>
          simp only [udpDeliver, udpRxWork, got, Option.map_some, if_neg short, stripped, bytes] at nothing
          exact absurd empty nothing
      | some result =>
          simp only [udpDeliver, udpRxWork, got, Option.map_some, if_neg short, stripped, bytes] at queued
          have same := @qfifoWrite_queued cfg qfifoLen { link with pool } result received empty queued
          have total := (idStrip_some (receivedFrame_begin cfg fresh bytes) stripped).1
          rw [Frame.bytes_length, receivedFrame_length, Nat.mod_eq_of_lt (by omega)] at total
          rw [same]
          omega
  · simp only [udpDeliver, udpRxWork, got] at nothing
    exact absurd empty nothing

/-- A packet crosses the link exactly when the socket opens, the network takes the datagram, and the datagram has more
than four bytes and fits in the mtu of the receiver. The empty packets of CSP 1 are lost. -/
theorem udpRoundTrip_iff {sender : Udp cfg qfifoLen} (sendto : List UInt8 → Bool) (buffers : 0 < cfg.bufferCount)
    (known : mtu ≤ cfg.bufferSize) (fits : packet.id.Fits cfg) :
    UdpRoundTrip sendto mtu sender packet ↔ sender.socket sender.txCalls = true ∧
      sendto (idPrepend cfg packet).bytes = true ∧ 4 < packet.length.toNat + idHeaderSize cfg ∧
        packet.length.toNat ≤ mtu ∧ packet.length.toNat + idHeaderSize cfg < 2 ^ 16 := by
  constructor
  · rintro ⟨sends, arrives⟩
    have opened : sender.socket sender.txCalls = true := by
      by_contra failed
      rw [udpTx, if_neg failed] at sends
      cases sends
    have taken : (idPrepend cfg packet).bytes ∈ (udpTx sender packet).sent.filter sendto := by simp [sends]
    have available : 0 < (bufferInit cfg fun _ => default).remaining := by
      simpa [bufferInit, Pool.remaining, BoundedQueue.size] using buffers
    obtain ⟨received, queued, whole⟩ := arrives 1 (emptyReceiver (bufferInit cfg fun _ => default)) available
      Nat.zero_lt_one
    obtain ⟨long, small, source⟩ := udpDeliver_queued rfl queued
    have range := packet.length.toNat_lt
    have header := idHeaderSize_le cfg
    rw [whole.length] at small source
    exact ⟨opened, (List.mem_filter.mp taken).2, by omega, small, by omega⟩
  · rintro ⟨opened, taken, long, small, counted⟩
    refine ⟨?_, fun _ _ available room => udpDeliver_arrives known fits available room long small counted⟩
    rw [udpTx, if_pos opened]
    exact List.filter_cons_of_pos taken

def addedUdp : Udp {} 15 := { link := addedI2c.link, socket := fun _ => true, txCalls := 0 }

/-- The network takes datagrams of at most 65507 bytes, and the receiver has the mtu of a buffer. -/
theorem kissPacket_crossesUdp : UdpRoundTrip (fun bytes => bytes.length ≤ 65507) 256 addedUdp (kissPacket [1, 2, 3]) :=
  (udpRoundTrip_iff _ (by decide) (by decide) ⟨by decide, by decide, by decide, by decide, by decide, by decide⟩).mpr
    ⟨rfl, by decide, by decide, by decide, by decide⟩

end Libcsp

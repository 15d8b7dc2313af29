/-
This file shows that csp_hmac.c signs packets with the standard keyed hash.
-/
import Libcsp.SecurityCheck
import Libcsp.Sha1

namespace Libcsp

open BitField CellRing SecureHash

variable {cfg : Config} {packet : Packet}

/-! ## The keyed hash -/

structure HmacState where
  md : Sha1State
  key : List UInt8

/-- This is `csp_hmac_init`. The local variables of the callers start with arbitrary bytes. -/
def hmacInit (stack : Memory) (key : List UInt8) : Except CspErr HmacState :=
  if key.length < 1 then .error .inval
  else
    let key :=
      if key.length > sha1Blocksize then
        let hash := sha1Memory stack key
        hash ++ List.replicate (sha1Blocksize - 20) 0
      else key ++ List.replicate (sha1Blocksize - key.length) 0
    let buf := key.map (· ^^^ 0x36)
    .ok { md := sha1Process (sha1Init stack) buf, key }

/-- This is `csp_hmac_process`. -/
def hmacProcess (hmac : HmacState) (input : List UInt8) : HmacState :=
  { hmac with md := sha1Process hmac.md input }

/-- This is `csp_hmac_done`. It gives the signature. -/
def hmacDone (hmac : HmacState) : List UInt8 :=
  let isha := sha1Done hmac.md
  let buf := hmac.key.map (· ^^^ 0x5C)
  let md := sha1Init hmac.md.buf
  let md := sha1Process md buf
  let md := sha1Process md isha
  sha1Done md

/-- This is `csp_hmac_memory`. -/
def cspHmacMemory (stack : Memory) (key data : List UInt8) : Except CspErr (List UInt8) := do
  let state ← hmacInit stack key
  .ok (hmacDone (hmacProcess state data))

/-- This is the state after `csp_hmac_init` and further input. -/
structure HmacState.Signs (hmac : HmacState) (key message : List UInt8) : Prop where
  inner : hmac.md.Hashes ((blockKey key).map (· ^^^ 0x36) ++ message)
  key : hmac.key = blockKey key

theorem hmacInit_signs (stack : Memory) {key : List UInt8} (filled : key ≠ []) :
    ∃ hmac, hmacInit stack key = .ok hmac ∧ hmac.Signs key [] := by
  have positive : ¬key.length < 1 := by
    have := List.length_pos_iff.mpr filled
    omega
  have padded : (if key.length > sha1Blocksize then sha1Memory stack key ++ List.replicate (sha1Blocksize - 20) 0
      else key ++ List.replicate (sha1Blocksize - key.length) 0) = blockKey key := by
    rw [blockKey]
    split
    · rename_i long
      have long' : 64 < key.length := long
      rw [if_pos long', sha1Memory_eq, digest_length]
      rfl
    · rename_i short
      have short' : ¬64 < key.length := short
      rw [if_neg short']
      rfl
  refine ⟨_, if_neg positive, ?_, padded⟩
  rw [List.append_nil, ← padded]
  exact sha1Process_hashes (sha1Init_hashes stack) _

theorem hmacProcess_signs {hmac : HmacState} {key message : List UInt8} (signs : hmac.Signs key message)
    (input : List UInt8) : (hmacProcess hmac input).Signs key (message ++ input) where
  inner := by
    rw [← List.append_assoc]
    exact sha1Process_hashes signs.inner input
  key := signs.key

theorem hmacDone_signs {hmac : HmacState} {key message : List UInt8} (signs : hmac.Signs key message) :
    hmacDone hmac = keyedDigest key message := by
  have outer := sha1Process_hashes (sha1Process_hashes (sha1Init_hashes hmac.md.buf) (hmac.key.map (· ^^^ 0x5C)))
    (sha1Done hmac.md)
  rw [List.nil_append] at outer
  rw [keyedDigest, ← sha1Done_hashes signs.inner, ← signs.key]
  exact sha1Done_hashes outer

/-- Any sequence of calls signs the whole message, and only an empty key is refused. -/
theorem hmacDone_process (stack : Memory) (key : List UInt8) (pieces : List (List UInt8)) :
    (hmacInit stack key).map (fun hmac => hmacDone (pieces.foldl hmacProcess hmac)) =
      if key = [] then .error .inval else .ok (keyedDigest key pieces.flatten) := by
  split
  · rename_i empty
    subst empty
    rfl
  · rename_i filled
    obtain ⟨hmac, init, signs⟩ := hmacInit_signs stack filled
    have all : ∀ (hmac : HmacState) (message : List UInt8), hmac.Signs key message →
        (pieces.foldl hmacProcess hmac).Signs key (message ++ pieces.flatten) := by
      induction pieces with
      | nil =>
          intro hmac message signs
          rwa [List.flatten_nil, List.append_nil]
      | cons piece pieces ih =>
          intro hmac message signs
          rw [List.flatten_cons, ← List.append_assoc]
          exact ih _ _ (hmacProcess_signs signs piece)
    rw [init]
    exact congrArg Except.ok (hmacDone_signs (all hmac [] signs))

theorem cspHmacMemory_eq (stack : Memory) {key : List UInt8} (filled : key ≠ []) (data : List UInt8) :
    cspHmacMemory stack key data = .ok (keyedDigest key data) := by
  obtain ⟨hmac, init, signs⟩ := hmacInit_signs stack filled
  rw [cspHmacMemory, init]
  exact congrArg Except.ok (hmacDone_signs (hmacProcess_signs signs data))

/-! ## The signature of a packet -/

/-- This is the key after `csp_hmac_set_key`. -/
def hmacSetKey (stack : Memory) (key : List UInt8) : List UInt8 := (sha1Memory stack key).take 16

/-- The build computes signatures with this node key. -/
def Config.withKey (cfg : Config) (stack : Memory) (key : List UInt8) : Config :=
  { cfg with
    hmacMemory := fun data =>
      match cspHmacMemory stack key data with
      | .ok hmac => UInt32.ofNat (beValue (hmac.take 4))
      | .error _ => 0 }

/-- A 32-bit load in network byte order sees four bytes. -/
theorem be32_eq (mem : Memory) (address : Nat) : be32 mem address = UInt32.ofNat (beValue (load mem address 4)) := by
  have first := (mem address).toNat_lt
  have second := (mem (address + 1)).toNat_lt
  have third := (mem (address + 2)).toNat_lt
  have fourth := (mem (address + 3)).toNat_lt
  have value : beValue (load mem address 4) = (((mem address).toNat * 256 + (mem (address + 1)).toNat) * 256 +
      (mem (address + 2)).toNat) * 256 + (mem (address + 3)).toNat := by
    have zero : 0 * 256 + (mem address).toNat = (mem address).toNat := by omega
    rw [← zero]
    rfl
  apply UInt32.toNat_inj.mp
  rw [value, UInt32.toNat_ofNat']
  simp only [be32, be16, UInt32.toNat_add, UInt32.toNat_mul, UInt16.toNat_toUInt32, UInt16.toNat_add, UInt16.toNat_mul,
    UInt8.toNat_toUInt16, UInt16.reduceToNat, UInt32.reduceToNat, Nat.add_assoc, Nat.reduceAdd]
  omega

theorem fourBytes_inj {first second : List UInt8} (four : first.length = 4) (four' : second.length = 4) :
    UInt32.ofNat (beValue first) = UInt32.ofNat (beValue second) ↔ first = second := by
  constructor
  · intro same
    have small : beValue first < UInt32.size := Nat.lt_of_lt_of_eq (beValue_lt first) (by rw [four]; rfl)
    have small' : beValue second < UInt32.size := Nat.lt_of_lt_of_eq (beValue_lt second) (by rw [four']; rfl)
    have value := congrArg UInt32.toNat same
    rw [UInt32.toNat_ofNat_of_lt' small, UInt32.toNat_ofNat_of_lt' small'] at value
    rw [← beBytes_beValue first, ← beBytes_beValue second, four, four', value]
  · intro same
    rw [same]

/-- The payload of a long packet ends with its trailer. -/
theorem Packet.payload_split (long : 4 ≤ packet.length.toNat) :
    packet.payload = packet.dataBytes (packet.length.toNat - 4) ++
      load packet.mem (dataAt + packet.length.toNat - 4) 4 := by
  have split := load_append packet.mem dataAt (packet.length.toNat - 4) 4
  rwa [Nat.sub_add_cancel long, ← Nat.add_sub_assoc long] at split

theorem Packet.trailer_iff (long : 4 ≤ packet.length.toNat) {bytes : List UInt8} (four : bytes.length = 4) :
    packet.trailer = UInt32.ofNat (beValue bytes) ↔
      packet.payload = packet.dataBytes (packet.length.toNat - 4) ++ bytes := by
  rw [Packet.trailer, be32_eq, fourBytes_inj (load_length _ _ _) four, packet.payload_split long,
    List.append_right_inj]

theorem withKey_signature (stack : Memory) {key : List UInt8} (filled : key ≠ []) (data : List UInt8) :
    (cfg.withKey stack key).hmacMemory data = UInt32.ofNat (beValue ((keyedDigest key data).take 4)) := by
  rw [Config.withKey]
  dsimp only
  rw [cspHmacMemory_eq stack filled]

/-- The signature of a packet is the start of the keyed hash of its payload. -/
structure SignsPacket (cfg : Config) (key : List UInt8) (packet : Packet) : Prop where
  refuses : cfg.bufferSize < packet.length.toNat + 4 → hmacAppend cfg packet = .error packet
  appends : packet.length.toNat + 4 ≤ cfg.bufferSize → ∃ signed, hmacAppend cfg packet = .ok signed ∧
    signed.payload = packet.payload ++ (keyedDigest key packet.payload).take 4 ∧
    ∃ verified, hmacVerify cfg signed = (.none, verified) ∧ verified.payload = packet.payload
  accepts : (hmacVerify cfg packet).1 = .none ↔
    ∃ body, packet.payload = body ++ (keyedDigest key body).take 4
  strips : ∀ body, packet.payload = body ++ (keyedDigest key body).take 4 → (hmacVerify cfg packet).2.payload = body
  keeps : (hmacVerify cfg packet).1 ≠ .none → hmacVerify cfg packet = (.hmac, packet)

theorem signature_length (key data : List UInt8) : ((keyedDigest key data).take 4).length = 4 := by
  rw [List.length_take, keyedDigest, digest_length]
  rfl

section Signature
variable {key : List UInt8}
  (computes : ∀ data, cfg.hmacMemory data = UInt32.ofNat (beValue ((keyedDigest key data).take 4)))
include computes

/-- A signed payload has only one division into the data and the signature. -/
theorem hmacVerify_signed {body : List UInt8} (signed : packet.payload = body ++ (keyedDigest key body).take 4) :
    hmacVerify cfg packet = (.none, packet.dropTrailer) ∧ packet.dropTrailer.payload = body := by
  have length : packet.length.toNat = body.length + 4 := by
    rw [← packet.payload_length, signed, List.length_append, signature_length]
  have long : 4 ≤ packet.length.toNat := by omega
  have count : packet.length.toNat - 4 = body.length := by omega
  have data : packet.dataBytes body.length = body := by
    have split := packet.payload_split long
    rw [signed, count] at split
    exact (List.append_inj_left split (load_length packet.mem dataAt body.length).symm).symm
  have trailer := (Packet.trailer_iff long (signature_length key body)).mpr (by rw [count, data, signed])
  refine ⟨?_, (Packet.dropTrailer_payload length).trans data⟩
  rw [hmacVerify, if_neg (Packet.not_short length), count, data, if_pos (trailer.trans (computes body).symm)]

theorem hmacVerify_accepts :
    (hmacVerify cfg packet).1 = .none ↔ ∃ body, packet.payload = body ++ (keyedDigest key body).take 4 := by
  constructor
  · intro passed
    obtain ⟨⟨long, signature⟩, _⟩ := @hmacVerify_signs cfg packet _ (Prod.ext passed rfl)
    rw [computes] at signature
    exact ⟨_, (Packet.trailer_iff long (signature_length key _)).mp signature⟩
  · rintro ⟨body, signed⟩
    rw [(hmacVerify_signed computes signed).1]

omit computes in
theorem hmacVerify_refuses (refused : (hmacVerify cfg packet).1 ≠ .none) :
    hmacVerify cfg packet = (.hmac, packet) := by
  unfold hmacVerify at refused ⊢
  split
  · rfl
  · rename_i short
    rw [if_neg short] at refused
    split
    · rename_i same
      exact absurd (by rw [if_pos same]) refused
    · rfl

theorem hmacAppend_signed (fits : packet.length.toNat + 4 ≤ cfg.bufferSize) :
    ∃ signed, hmacAppend cfg packet = .ok signed ∧
      signed.payload = packet.payload ++ (keyedDigest key packet.payload).take 4 := by
  refine ⟨_, hmacAppend_eq_ok.mpr ⟨fits, rfl⟩, ?_⟩
  have length := Packet.withTrailer_length fits (cfg.hmacMemory packet.payload)
  have trailer := (Packet.withTrailer_trailer fits (cfg.hmacMemory packet.payload)).trans (computes packet.payload)
  have split := (Packet.trailer_iff (by omega) (signature_length key packet.payload)).mp trailer
  rwa [length, Nat.add_sub_cancel, Packet.withTrailer_dataBytes] at split

end Signature

/-- With a key that `csp_hmac_set_key` derives, exactly the packets with a standard signature pass. -/
theorem hmacVerify_standard (cfg : Config) (stack : Memory) (secret : List UInt8) (packet : Packet) :
    SignsPacket (cfg.withKey stack (hmacSetKey stack secret)) ((digest secret).take 16) packet := by
  have derived : hmacSetKey stack secret = (digest secret).take 16 := by rw [hmacSetKey, sha1Memory_eq]
  have filled : (digest secret).take 16 ≠ [] := by
    apply List.ne_nil_of_length_pos
    rw [List.length_take, digest_length]
    decide
  rw [derived]
  have computes := @withKey_signature cfg stack _ filled
  constructor
  · intro large
    exact if_pos large
  · intro fits
    obtain ⟨signed, appended, payload⟩ := hmacAppend_signed computes fits
    obtain ⟨verified, same⟩ := hmacVerify_signed computes payload
    exact ⟨signed, appended, payload, _, verified, same⟩
  · exact hmacVerify_accepts computes
  · intro body signed
    obtain ⟨verified, same⟩ := hmacVerify_signed computes signed
    rw [verified, same]
  · exact hmacVerify_refuses

end Libcsp

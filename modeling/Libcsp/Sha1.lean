/-
This file shows that csp_sha1.c computes the standard hash of a message that arrives in pieces.
-/
import Libcsp.Lib.CellRing
import Libcsp.Lib.SecureHash
import Libcsp.Types

namespace Libcsp

open BitField BlockHash CellRing SecureHash

/-! ## The compression -/

/-- This is the macro `ROL`. -/
def rol (x y : UInt32) : UInt32 := x <<< y ||| x >>> (32 - y)

/-- This is the macro `LOAD32H`. -/
def load32h (y : List UInt8) : UInt32 :=
  ((y.getD 0 0).toUInt32 &&& 0xff) <<< 24 ||| ((y.getD 1 0).toUInt32 &&& 0xff) <<< 16 |||
    ((y.getD 2 0).toUInt32 &&& 0xff) <<< 8 ||| ((y.getD 3 0).toUInt32 &&& 0xff) <<< 0

/-- This is the macro `STORE32H`. -/
def store32h (x : UInt32) : List UInt8 :=
  [((x >>> 24) &&& 0xff).toUInt8, ((x >>> 16) &&& 0xff).toUInt8, ((x >>> 8) &&& 0xff).toUInt8,
    ((x >>> 0) &&& 0xff).toUInt8]

/-- This is the macro `STORE64H`. -/
def store64h (x : UInt64) : List UInt8 :=
  [((x >>> 56) &&& 0xff).toUInt8, ((x >>> 48) &&& 0xff).toUInt8, ((x >>> 40) &&& 0xff).toUInt8,
    ((x >>> 32) &&& 0xff).toUInt8, ((x >>> 24) &&& 0xff).toUInt8, ((x >>> 16) &&& 0xff).toUInt8,
    ((x >>> 8) &&& 0xff).toUInt8, ((x >>> 0) &&& 0xff).toUInt8]

/-- These are the macros `F0` to `F3`. -/
def f0 (x y z : UInt32) : UInt32 := z ^^^ (x &&& (y ^^^ z))
def f1 (x y z : UInt32) : UInt32 := x ^^^ y ^^^ z
def f2 (x y z : UInt32) : UInt32 := (x &&& y) ||| (z &&& (x ||| y))
def f3 (x y z : UInt32) : UInt32 := x ^^^ y ^^^ z

/-- The words of `W` before the expansion. -/
def loadWords (buf : List UInt8) : List UInt32 := (List.range 16).map fun i => load32h (buf.drop (4 * i))

/-- The loop that expands `W` continues with the next word. -/
def expandWord (w : List UInt32) : List UInt32 :=
  w ++ [rol (w.getD (w.length - 3) 0 ^^^ w.getD (w.length - 8) 0 ^^^ w.getD (w.length - 14) 0 ^^^
    w.getD (w.length - 16) 0) 1]

def expand : Nat → List UInt32 → List UInt32
  | 0, w => w
  | count + 1, w => expand count (expandWord w)

/-- These are the macros `FF_0` to `FF_3`. The first result is the new `e`, and the second is the new `b`. -/
def ff (f : UInt32 → UInt32 → UInt32 → UInt32) (k : UInt32) (w : List UInt32) (a b c d e : UInt32) (i : Nat) :
    UInt32 × UInt32 :=
  (rol a 5 + f b c d + e + w.getD i 0 + k, rol b 30)

/-- One pass of a round loop. The variables change their roles from line to line. -/
def ffFive (f : UInt32 → UInt32 → UInt32 → UInt32) (k : UInt32) (w : List UInt32) (words : Words) (i : Nat) :
    Words :=
  let ⟨a, b, c, d, e⟩ := words
  let (e, b) := ff f k w a b c d e i
  let (d, a) := ff f k w e a b c d (i + 1)
  let (c, e) := ff f k w d e a b c (i + 2)
  let (b, d) := ff f k w c d e a b (i + 3)
  let (a, c) := ff f k w b c d e a (i + 4)
  ⟨a, b, c, d, e⟩

/-- One of the four round loops. -/
def ffLoop (f : UInt32 → UInt32 → UInt32 → UInt32) (k : UInt32) (w : List UInt32) (start : Nat) (words : Words) :
    Words :=
  [start, start + 5, start + 10, start + 15].foldl (ffFive f k w) words

/-- This is `csp_sha1_compress`. -/
def sha1Compress (state : Words) (buf : List UInt8) : Words :=
  let w := expand 64 (loadWords buf)
  let words := ffLoop f0 0x5a827999 w 0 state
  let words := ffLoop f1 0x6ed9eba1 w 20 words
  let words := ffLoop f2 0x8f1bbcdc w 40 words
  let words := ffLoop f3 0xca62c1d6 w 60 words
  { a := state.a + words.a
    b := state.b + words.b
    c := state.c + words.c
    d := state.d + words.d
    e := state.e + words.e }

theorem masked_byte (value count : Nat) : (value >>> count &&& 255) % 2 ^ 8 = value / 2 ^ count % 2 ^ 8 := by
  rw [Nat.shiftRight_eq_div_pow, Nat.and_two_pow_sub_one_eq_mod _ 8, Nat.mod_mod]

/-- The stores write the bytes of the word, the highest first. -/
theorem store32h_eq (x : UInt32) : store32h x = beBytes 4 x.toNat := by
  have byte : ∀ count, ((x >>> UInt32.ofNat count) &&& 0xff).toNat = x.toNat >>> (count % 2 ^ 32 % 32) &&& 255 := by
    intro count
    rw [UInt32.toNat_and, UInt32.toNat_shiftRight, UInt32.toNat_ofNat']
    rfl
  have a := byte 24
  have b := byte 16
  have c := byte 8
  have d := byte 0
  simp only [UInt32.reduceOfNat] at a b c d
  simp only [store32h, beBytes, List.cons.injEq, ← UInt8.toNat_inj, UInt32.toNat_toUInt8, UInt8.toNat_ofNat',
    a, b, c, d]
  exact ⟨masked_byte _ 24, masked_byte _ 16, masked_byte _ 8, masked_byte _ 0, trivial⟩

theorem store64h_eq (x : UInt64) : store64h x = beBytes 8 x.toNat := by
  have byte : ∀ count, ((x >>> UInt64.ofNat count) &&& 0xff).toNat = x.toNat >>> (count % 2 ^ 64 % 64) &&& 255 := by
    intro count
    rw [UInt64.toNat_and, UInt64.toNat_shiftRight, UInt64.toNat_ofNat']
    rfl
  have a := byte 56
  have b := byte 48
  have c := byte 40
  have d := byte 32
  have e := byte 24
  have f := byte 16
  have g := byte 8
  have h := byte 0
  simp only [UInt64.reduceOfNat] at a b c d e f g h
  simp only [store64h, beBytes, List.cons.injEq, ← UInt8.toNat_inj, UInt64.toNat_toUInt8, UInt8.toNat_ofNat',
    a, b, c, d, e, f, g, h]
  exact ⟨masked_byte _ 56, masked_byte _ 48, masked_byte _ 40, masked_byte _ 32, masked_byte _ 24, masked_byte _ 16,
    masked_byte _ 8, masked_byte _ 0, trivial⟩

/-! ## The rounds of the standard -/

theorem f0_eq : f0 = choose := by
  funext x y z
  rw [← UInt32.toBitVec_inj]
  simp only [f0, choose, UInt32.toBitVec_xor, UInt32.toBitVec_and, UInt32.toBitVec_not]
  apply BitVec.eq_of_getLsbD_eq
  intro i inside
  simp only [BitVec.getLsbD_xor, BitVec.getLsbD_and, BitVec.getLsbD_not, inside, decide_true, Bool.true_and]
  cases x.toBitVec.getLsbD i <;> cases y.toBitVec.getLsbD i <;> cases z.toBitVec.getLsbD i <;> rfl

theorem f2_eq : f2 = majority := by
  funext x y z
  rw [← UInt32.toBitVec_inj]
  simp only [f2, majority, UInt32.toBitVec_xor, UInt32.toBitVec_and, UInt32.toBitVec_or]
  apply BitVec.eq_of_getLsbD_eq
  intro i _
  simp only [BitVec.getLsbD_xor, BitVec.getLsbD_and, BitVec.getLsbD_or]
  cases x.toBitVec.getLsbD i <;> cases y.toBitVec.getLsbD i <;> cases z.toBitVec.getLsbD i <;> rfl

theorem byte_shift (byte : UInt8) {count : Nat} (small : count ≤ 24) :
    ((byte.toUInt32 &&& 0xff) <<< UInt32.ofNat count).toNat = byte.toNat * 2 ^ count := by
  have bound : 2 ^ count ≤ 2 ^ 24 := Nat.pow_le_pow_right (by decide) small
  have below := byte.toNat_lt
  have product := Nat.mul_le_mul (Nat.le_of_lt_succ below) bound
  have masked : (byte.toUInt32 &&& 0xff).toNat = byte.toNat := by
    rw [UInt32.toNat_and, UInt8.toNat_toUInt32]
    exact (Nat.and_two_pow_sub_one_eq_mod _ 8).trans (Nat.mod_eq_of_lt below)
  rw [UInt32.toNat_shiftLeft, masked, UInt32.toNat_ofNat_of_lt' (by simp only [UInt32.size]; omega),
    Nat.mod_eq_of_lt (Nat.lt_of_le_of_lt small (by decide)), Nat.shiftLeft_eq,
    Nat.mod_eq_of_lt (Nat.lt_of_le_of_lt product (by decide))]

theorem or_eq_add (high : Nat) {count low : Nat} (below : low < 2 ^ count) :
    high * 2 ^ count ||| low = high * 2 ^ count + low := by
  rw [← Nat.shiftLeft_eq, Nat.shiftLeft_add_eq_or_of_lt below]

theorem load32h_eq {y : List UInt8} (four : y.length = 4) : load32h y = UInt32.ofNat (beValue y) := by
  obtain ⟨a, b, c, d, rfl⟩ := List.length_eq_four.mp four
  have below := b.toNat_lt
  have below' := c.toNat_lt
  have below'' := d.toNat_lt
  have first := @byte_shift a 24 (by decide)
  have second := @byte_shift b 16 (by decide)
  have third := @byte_shift c 8 (by decide)
  have fourth := @byte_shift d 0 (by decide)
  simp only [UInt32.reduceOfNat] at first second third fourth
  have value : beValue [a, b, c, d] < UInt32.size := Nat.lt_of_lt_of_le (beValue_lt _) (by simp [UInt32.size])
  apply UInt32.toNat_inj.mp
  rw [UInt32.toNat_ofNat_of_lt' value]
  simp only [load32h, List.getD_cons_zero, List.getD_cons_succ, UInt32.toNat_or, first, second, third, fourth,
    Nat.or_assoc]
  rw [Nat.pow_zero, Nat.mul_one, or_eq_add c.toNat below'', or_eq_add b.toNat (by omega), or_eq_add a.toNat (by omega)]
  simp only [beValue, List.foldl_cons, List.foldl_nil]
  omega

theorem schedule_later {buf : List UInt8} {t : Nat} (later : 16 ≤ t) :
    schedule buf t = rotl 1 (schedule buf (t - 3) ^^^ schedule buf (t - 8) ^^^ schedule buf (t - 14) ^^^
      schedule buf (t - 16)) := by
  rw [schedule, if_neg (Nat.not_lt.mpr later)]

theorem expandWord_getD {w : List UInt32} {t : Nat} (inside : t < w.length) : (expandWord w).getD t 0 = w.getD t 0 := by
  simp only [expandWord, List.getD_eq_getElem?_getD, List.getElem?_append_left inside]

/-- The words are the message schedule as far as they go. -/
theorem expand_schedule {buf : List UInt8} (count : Nat) {w : List UInt32} (first : 16 ≤ w.length)
    (words : ∀ t < w.length, w.getD t 0 = schedule buf t) :
    ∀ t < w.length + count, (expand count w).getD t 0 = schedule buf t := by
  induction count generalizing w with
  | zero => exact words
  | succ count ih =>
      have longer : (expandWord w).length = w.length + 1 := List.length_append
      intro t inside
      apply ih
      · omega
      · intro t inside
        rcases Nat.lt_or_ge t w.length with old | new
        · rw [expandWord_getD old]
          exact words t old
        · obtain rfl : t = w.length := by omega
          have last : (expandWord w).getD w.length 0 = rol (w.getD (w.length - 3) 0 ^^^ w.getD (w.length - 8) 0 ^^^
              w.getD (w.length - 14) 0 ^^^ w.getD (w.length - 16) 0) 1 := by
            rw [expandWord, List.getD_append_right _ _ _ _ (Nat.le_refl _), Nat.sub_self, List.getD_cons_zero]
          rw [last, words _ (by omega), words _ (by omega), words _ (by omega), words _ (by omega),
            schedule_later first]
          rfl
      · omega

theorem loadWords_schedule {buf : List UInt8} (whole : buf.length = 64) :
    ∀ t < 80, (expand 64 (loadWords buf)).getD t 0 = schedule buf t := by
  have length : (loadWords buf).length = 16 := by rw [loadWords, List.length_map, List.length_range]
  have read := @expand_schedule buf 64 (loadWords buf) (by omega)
  rw [length] at read
  refine read fun t inside => ?_
  have four : ((buf.drop (4 * t)).take 4).length = 4 := by
    rw [List.length_take, List.length_drop]
    omega
  have same : load32h (buf.drop (4 * t)) = load32h ((buf.drop (4 * t)).take 4) := by
    simp [load32h, List.getD_eq_getElem?_getD]
  rw [schedule, if_pos inside, ← load32h_eq four, ← same, loadWords, List.getD_eq_getElem?_getD, List.getElem?_map,
    List.getElem?_range inside]
  rfl

section Rounds
variable {f : UInt32 → UInt32 → UInt32 → UInt32} {k : UInt32} {w : List UInt32} {buf : List UInt8}

/-- Five lines of a round loop are five rounds of the standard. -/
theorem ffFive_rounds {i : Nat} (words : ∀ t < 80, w.getD t 0 = schedule buf t) (inside : i + 5 ≤ 80)
    (function : ∀ t, i ≤ t → t < i + 5 → mix t = f ∧ roundConstant t = k) (state : Words) :
    ffFive f k w state i = [i, i + 1, i + 2, i + 3, i + 4].foldl (roundStep buf) state := by
  have step : ∀ (state : Words) (t : Nat), i ≤ t → t < i + 5 → roundStep buf state t =
      ⟨rotl 5 state.a + f state.b state.c state.d + state.e + w.getD t 0 + k, state.a, rotl 30 state.b, state.c,
        state.d⟩ := by
    intro state t after before
    obtain ⟨sameMix, sameConstant⟩ := function t after before
    rw [roundStep, sameMix, sameConstant, words t (by omega), add_right_comm _ k]
  simp only [List.foldl_cons, List.foldl_nil]
  rw [step _ i (by omega) (by omega), step _ (i + 1) (by omega) (by omega), step _ (i + 2) (by omega) (by omega),
    step _ (i + 3) (by omega) (by omega), step _ (i + 4) (by omega) (by omega)]
  rfl

/-- A round loop is twenty rounds of the standard. -/
theorem ffLoop_rounds {start : Nat} (words : ∀ t < 80, w.getD t 0 = schedule buf t) (inside : start + 20 ≤ 80)
    (function : ∀ t, start ≤ t → t < start + 20 → mix t = f ∧ roundConstant t = k) (state : Words) :
    ffLoop f k w start state = (List.range' start 20).foldl (roundStep buf) state := by
  have five : ∀ (state : Words) (i : Nat), start ≤ i → i + 5 ≤ start + 20 →
      ffFive f k w state i = [i, i + 1, i + 2, i + 3, i + 4].foldl (roundStep buf) state :=
    fun state i after before => ffFive_rounds words (by omega) (fun t _ _ => function t (by omega) (by omega)) state
  rw [ffLoop, List.foldl_cons, List.foldl_cons, List.foldl_cons, List.foldl_cons, List.foldl_nil,
    five _ start (by omega) (by omega), five _ (start + 5) (by omega) (by omega),
    five _ (start + 10) (by omega) (by omega), five _ (start + 15) (by omega) (by omega),
    ← List.foldl_append, ← List.foldl_append, ← List.foldl_append]
  rfl

end Rounds

/-- The compression of the source is the compression of the standard. -/
theorem sha1Compress_eq {buf : List UInt8} (whole : buf.length = 64) (state : Words) :
    sha1Compress state buf = compressBlock state buf := by
  have words := loadWords_schedule whole
  have rounds : List.range 80 = List.range' 0 20 ++ List.range' 20 20 ++ List.range' 40 20 ++ List.range' 60 20 := rfl
  have one := @ffLoop_rounds f0 0x5a827999 _ _ 0 words (by omega) fun t after before =>
    ⟨by rw [mix, if_pos (by omega), f0_eq], by rw [roundConstant, if_pos (by omega)]⟩
  have two := @ffLoop_rounds f1 0x6ed9eba1 _ _ 20 words (by omega) fun t after before =>
    ⟨by rw [mix, if_neg (by omega), if_pos (by omega)]; rfl,
      by rw [roundConstant, if_neg (by omega), if_pos (by omega)]⟩
  have three := @ffLoop_rounds f2 0x8f1bbcdc _ _ 40 words (by omega) fun t after before =>
    ⟨by rw [mix, if_neg (by omega), if_neg (by omega), if_pos (by omega), f2_eq],
      by rw [roundConstant, if_neg (by omega), if_neg (by omega), if_pos (by omega)]⟩
  have four := @ffLoop_rounds f3 0xca62c1d6 _ _ 60 words (by omega) fun t after before =>
    ⟨by rw [mix, if_neg (by omega), if_neg (by omega), if_neg (by omega)]; rfl,
      by rw [roundConstant, if_neg (by omega), if_neg (by omega), if_neg (by omega)]⟩
  rw [sha1Compress, compressBlock, rounds, List.foldl_append, List.foldl_append, List.foldl_append, one, two, three,
    four]
  rfl

/-! ## The stream -/

def sha1Blocksize : Nat := 64

/-- The hash state between two calls. The buffer is never full there. -/
structure Sha1State where
  length : UInt64
  state : Words
  curlen : Nat
  buf : Memory
  room : curlen < sha1Blocksize

/-- This is `csp_sha1_init`. It leaves the buffer as it is. -/
def sha1Init (buf : Memory) : Sha1State where
  length := 0
  state := ⟨0x67452301, 0xefcdab89, 0x98badcfe, 0x10325476, 0xc3d2e1f0⟩
  curlen := 0
  buf
  room := by decide

/-- The loop of `csp_sha1_process` copies bytes to the buffer, and it compresses a full buffer. -/
def Sha1State.collect (sha1 : Sha1State) (bytes : List UInt8) (fits : sha1.curlen + bytes.length ≤ sha1Blocksize) :
    Sha1State :=
  let buf := store sha1.buf sha1.curlen bytes
  if full : sha1.curlen + bytes.length = sha1Blocksize then
    { state := sha1Compress sha1.state (load buf 0 sha1Blocksize)
      length := sha1.length + 512
      curlen := 0
      buf
      room := by decide }
  else
    { sha1 with
      curlen := sha1.curlen + bytes.length
      buf
      room := by omega }

/-- One pass of this loop gives the state and the rest of the input. -/
def sha1Pass (sha1 : Sha1State) (input : List UInt8) : Sha1State × List UInt8 :=
  if sha1.curlen = 0 ∧ sha1Blocksize ≤ input.length then
    ({ sha1 with
        state := sha1Compress sha1.state (input.take sha1Blocksize)
        length := sha1.length + 512 },
      input.drop sha1Blocksize)
  else
    let n := min input.length (sha1Blocksize - sha1.curlen)
    (sha1.collect (input.take n) (by
        have := sha1.room
        rw [List.length_take]
        omega),
      input.drop n)

theorem sha1Pass_shorter (sha1 : Sha1State) {input : List UInt8} (more : input.length ≠ 0) :
    (sha1Pass sha1 input).2.length < input.length := by
  have room := sha1.room
  have positive : 0 < sha1Blocksize := by decide
  unfold sha1Pass
  split
  · rw [List.length_drop]
    omega
  · rw [List.length_drop]
    omega

/-- This is `csp_sha1_process`. The input has `inlen` bytes. -/
def sha1Process (sha1 : Sha1State) (input : List UInt8) : Sha1State :=
  if more : input.length ≠ 0 then
    have := sha1Pass_shorter sha1 more
    sha1Process (sha1Pass sha1 input).1 (sha1Pass sha1 input).2
  else sha1
termination_by input.length

/-- A loop writes zeros until the buffer has this length. -/
def fillZeros (buf : Memory) (curlen limit : Nat) : Memory := store buf curlen (List.replicate (limit - curlen) 0)

/-- This is `csp_sha1_done`. It gives the digest. -/
def sha1Done (sha1 : Sha1State) : List UInt8 :=
  let length := sha1.length + UInt64.ofNat (sha1.curlen * 8)
  let buf := setByte sha1.buf sha1.curlen 0x80
  let curlen := sha1.curlen + 1
  let (state, buf, curlen) :=
    if curlen > 56 then
      let buf := fillZeros buf curlen 64
      (sha1Compress sha1.state (load buf 0 sha1Blocksize), buf, 0)
    else (sha1.state, buf, curlen)
  let buf := fillZeros buf curlen 56
  let buf := store buf 56 (store64h length)
  let state := sha1Compress state (load buf 0 sha1Blocksize)
  [state.a, state.b, state.c, state.d, state.e].flatMap store32h

/-- This is `csp_sha1_memory`. Its local state has an arbitrary buffer. -/
def sha1Memory (buf : Memory) (msg : List UInt8) : List UInt8 := sha1Done (sha1Process (sha1Init buf) msg)

/-! ## The message behind a state -/

/-- The hash state as the library sees it. -/
def Sha1State.stream (sha1 : Sha1State) : HashStream Words UInt8 where
  state := sha1.state
  pending := load sha1.buf 0 sha1.curlen

/-- The state comes from this message. -/
structure Sha1State.Hashes (sha1 : Sha1State) (message : List UInt8) : Prop where
  stream : sha1.stream = feed compression ⟨initialWords, []⟩ message
  bits : (sha1.length.toNat + 8 * sha1.curlen) % 2 ^ 64 = 8 * message.length % 2 ^ 64

variable {sha1 : Sha1State} {message : List UInt8}

theorem Sha1State.stream_length (sha1 : Sha1State) : sha1.stream.pending.length = sha1.curlen := load_length _ _ _

theorem sha1Init_hashes (buf : Memory) : (sha1Init buf).Hashes [] where
  stream := (@feed_nil _ _ compression ⟨initialWords, []⟩ compression.positive).symm
  bits := rfl

theorem Sha1State.Hashes.next {after : Sha1State} {taken : List UInt8} (hashes : sha1.Hashes message)
    (stream : after.stream = feed compression sha1.stream taken)
    (bits : (after.length.toNat + 8 * after.curlen) % 2 ^ 64 =
      (sha1.length.toNat + 8 * sha1.curlen + 8 * taken.length) % 2 ^ 64) :
    after.Hashes (message ++ taken) where
  stream := by rw [stream, hashes.stream, feed_feed]
  bits := by
    have before := hashes.bits
    rw [List.length_append]
    omega

theorem length_block (sha1 : Sha1State) : (sha1.length + 512).toNat = (sha1.length.toNat + 512) % 2 ^ 64 :=
  UInt64.toNat_add _ _

/-- The bytes in the buffer wait, or they complete a block. -/
theorem Sha1State.collect_hashes (hashes : sha1.Hashes message) {bytes : List UInt8}
    (fits : sha1.curlen + bytes.length ≤ sha1Blocksize) : (sha1.collect bytes fits).Hashes (message ++ bytes) := by
  have buffer := load_store_behind sha1.buf 0 sha1.curlen bytes
  rw [Nat.zero_add] at buffer
  unfold Sha1State.collect
  split
  · rename_i full
    have size : sha1.stream.pending.length + bytes.length = compression.size := by rwa [sha1.stream_length]
    rw [full] at buffer
    refine hashes.next ?_ ?_
    · have block : (load sha1.buf 0 sha1.curlen ++ bytes).length = 64 := by rwa [List.length_append, load_length]
      rw [feed_block compression size, Sha1State.stream]
      dsimp only
      rw [buffer, sha1Compress_eq block]
      rfl
    · have more := length_block sha1
      dsimp only
      rw [sha1Blocksize] at full
      omega
  · rename_i short
    have size : sha1.stream.pending.length + bytes.length < compression.size := by
      rw [sha1.stream_length]
      exact Nat.lt_of_le_of_ne fits short
    refine hashes.next ?_ ?_
    · rw [feed_short compression size, Sha1State.stream, buffer]
      rfl
    · dsimp only
      omega

/-- A pass takes the next bytes of the input into the hash. -/
theorem sha1Pass_hashes (hashes : sha1.Hashes message) (input : List UInt8) :
    ∃ taken, input = taken ++ (sha1Pass sha1 input).2 ∧ (sha1Pass sha1 input).1.Hashes (message ++ taken) := by
  unfold sha1Pass
  split
  · rename_i direct
    obtain ⟨empty, long⟩ := direct
    have whole : (input.take sha1Blocksize).length = 64 := by
      rw [List.length_take]
      exact Nat.min_eq_left long
    have pending : sha1.stream.pending = [] := by
      rw [← List.length_eq_zero_iff, sha1.stream_length, empty]
    have size : sha1.stream.pending.length + (input.take sha1Blocksize).length = compression.size := by
      rw [pending, whole]
      rfl
    refine ⟨_, (List.take_append_drop _ _).symm, hashes.next ?_ ?_⟩
    · rw [feed_block compression size, pending, List.nil_append, ← pending, sha1Compress_eq whole]
      rfl
    · have more := length_block sha1
      rw [whole]
      dsimp only
      omega
  · have fits :
        sha1.curlen + (input.take (min input.length (sha1Blocksize - sha1.curlen))).length ≤ sha1Blocksize := by
      have room := sha1.room
      rw [List.length_take]
      omega
    exact ⟨_, (List.take_append_drop _ _).symm, Sha1State.collect_hashes hashes fits⟩

/-- A call takes its whole input into the hash. -/
theorem sha1Process_hashes (hashes : sha1.Hashes message) (input : List UInt8) :
    (sha1Process sha1 input).Hashes (message ++ input) := by
  fun_induction sha1Process sha1 input generalizing message with
  | case1 sha1 input more shorter ih =>
      obtain ⟨taken, split, pass⟩ := sha1Pass_hashes hashes input
      have rest := ih pass
      rwa [List.append_assoc, ← split] at rest
  | case2 sha1 input none =>
      obtain rfl := List.length_eq_zero_iff.mp (not_not.mp none)
      rwa [List.append_nil]

theorem setByte_eq_store (mem : Memory) (address : Nat) (value : UInt8) :
    setByte mem address value = store mem address [value] := by
  funext index
  by_cases same : index = address
  · have inside : address ≤ index ∧ index < address + [value].length := by
      rw [List.length_singleton]
      omega
    simp only [store, dif_pos inside, List.getElem_singleton]
    rw [same, setByte_same]
  · have outside : ¬(address ≤ index ∧ index < address + [value].length) := by
      rw [List.length_singleton]
      omega
    simp only [store, dif_neg outside, setByte_other same]

theorem fillZeros_load (buf : Memory) {curlen limit : Nat} (below : curlen ≤ limit) :
    load (fillZeros buf curlen limit) 0 limit = load buf 0 curlen ++ List.replicate (limit - curlen) 0 := by
  have filled := load_store_behind buf 0 curlen (List.replicate (limit - curlen) (0 : UInt8))
  rwa [Nat.zero_add, List.length_replicate, Nat.add_sub_cancel' below] at filled

/-- The last block has the length behind the zeros. -/
theorem lastBlock_load (buf : Memory) {curlen : Nat} (below : curlen ≤ 56) (length : UInt64) :
    load (store (fillZeros buf curlen 56) 56 (store64h length)) 0 sha1Blocksize =
      load buf 0 curlen ++ List.replicate (56 - curlen) 0 ++ beBytes 8 length.toNat := by
  have behind := load_store_behind (fillZeros buf curlen 56) 0 56 (store64h length)
  rw [Nat.zero_add, fillZeros_load buf below] at behind
  rw [← store64h_eq]
  exact behind

theorem words_bytes (words : Words) : [words.a, words.b, words.c, words.d, words.e].flatMap store32h = words.bytes :=
  congrArg (fun bytes => List.flatMap bytes [words.a, words.b, words.c, words.d, words.e]) (funext store32h_eq)

/-- The bits that `csp_sha1_done` writes behind the last zeros. -/
def Sha1State.total (sha1 : Sha1State) : UInt64 := sha1.length + UInt64.ofNat (sha1.curlen * 8)

/-- The bytes that wait for their block, and the padding. -/
def Sha1State.ending (sha1 : Sha1State) : List UInt8 :=
  sha1.stream.pending ++ (0x80 :: List.replicate ((119 - sha1.curlen) % 64) 0 ++ beBytes 8 sha1.total.toNat)

theorem marked_load (sha1 : Sha1State) :
    load (setByte sha1.buf sha1.curlen 0x80) 0 (sha1.curlen + 1) = sha1.stream.pending ++ [0x80] := by
  have behind := load_store_behind sha1.buf 0 sha1.curlen [0x80]
  rwa [Nat.zero_add, ← setByte_eq_store] at behind

/-- The padding fits in the block of the waiting bytes. -/
theorem sha1Done_short (fits : ¬sha1.curlen + 1 > 56) :
    sha1Done sha1 = (absorb compression sha1.state sha1.ending).bytes := by
  have zeros : (119 - sha1.curlen) % 64 = 56 - (sha1.curlen + 1) := by omega
  have last := @lastBlock_load (setByte sha1.buf sha1.curlen 0x80) (sha1.curlen + 1) (by omega) sha1.total
  rw [marked_load, Sha1State.total] at last
  have block : sha1.ending = sha1.stream.pending ++ [0x80] ++ List.replicate (56 - (sha1.curlen + 1)) 0 ++
      beBytes 8 sha1.total.toNat := by
    rw [Sha1State.ending, zeros]
    simp only [List.append_assoc, List.cons_append, List.nil_append]
  have whole : sha1.ending.length = 64 := by
    simp only [block, List.length_append, List.length_singleton, sha1.stream_length, List.length_replicate,
      beBytes_length]
    omega
  rw [← words_bytes, absorb_one compression whole, sha1Done]
  simp only [if_neg fits]
  rw [last, ← Sha1State.total, ← block, sha1Compress_eq whole]
  rfl

/-- The padding continues in a further block. -/
theorem sha1Done_long (large : sha1.curlen + 1 > 56) :
    sha1Done sha1 = (absorb compression sha1.state sha1.ending).bytes := by
  have room : sha1.curlen < 64 := sha1.room
  have zeros : (119 - sha1.curlen) % 64 = 64 - (sha1.curlen + 1) + 56 := by omega
  have first : load (fillZeros (setByte sha1.buf sha1.curlen 0x80) (sha1.curlen + 1) 64) 0 sha1Blocksize =
      sha1.stream.pending ++ [0x80] ++ List.replicate (sha1Blocksize - (sha1.curlen + 1)) 0 := by
    rw [← marked_load]
    exact fillZeros_load _ room
  have last : load (store (fillZeros (fillZeros (setByte sha1.buf sha1.curlen 0x80) (sha1.curlen + 1) 64) 0 56) 56
      (store64h sha1.total)) 0 sha1Blocksize = List.replicate 56 0 ++ beBytes 8 sha1.total.toNat :=
    lastBlock_load _ (Nat.zero_le 56) sha1.total
  have blocks : sha1.ending = sha1.stream.pending ++ [0x80] ++ List.replicate (sha1Blocksize - (sha1.curlen + 1)) 0 ++
      (List.replicate 56 0 ++ beBytes 8 sha1.total.toNat) := by
    rw [Sha1State.ending, zeros, List.replicate_add]
    simp only [List.append_assoc, List.cons_append, List.nil_append]
    rfl
  have whole : (sha1.stream.pending ++ [0x80] ++
      List.replicate (sha1Blocksize - (sha1.curlen + 1)) 0).length = 64 := by
    simp only [List.length_append, List.length_singleton, sha1.stream_length, List.length_replicate, sha1Blocksize]
    omega
  have whole' : (List.replicate 56 0 ++ beBytes 8 sha1.total.toNat).length = 64 := by
    rw [List.length_append, List.length_replicate, beBytes_length]
  rw [← words_bytes, blocks, absorb_block compression whole, absorb_one compression whole', sha1Done]
  simp only [if_pos large]
  rw [Sha1State.total] at last
  rw [last, first, sha1Compress_eq whole, ← Sha1State.total, sha1Compress_eq whole']
  rfl

/-- The digest of a hash state is the digest of its message. -/
theorem sha1Done_hashes (hashes : sha1.Hashes message) : sha1Done sha1 = digest message := by
  obtain ⟨stream, bits⟩ := hashes
  have state : sha1.state = absorb compression initialWords message := congrArg HashStream.state stream
  have pending : sha1.stream.pending = rest compression message := congrArg HashStream.pending stream
  have count : message.length % 64 = sha1.curlen := by
    rw [← sha1.stream_length, pending]
    exact (rest_length compression message).symm
  have total : beBytes 8 sha1.total.toNat = beBytes 8 (8 * message.length) := by
    apply beBytes_congr
    rw [Sha1State.total, UInt64.toNat_add, UInt64.toNat_ofNat']
    omega
  have ending : sha1.ending = rest compression message ++ messagePadding message.length := by
    rw [Sha1State.ending, pending, total, messagePadding, count]
  rw [digest, (absorb_append compression initialWords message _).1, ← state, ← ending]
  by_cases large : sha1.curlen + 1 > 56
  · exact sha1Done_long large
  · exact sha1Done_short large

/-- Any sequence of calls of `csp_sha1_process` gives the hash of the whole message. -/
theorem sha1Done_process (buf : Memory) (pieces : List (List UInt8)) :
    sha1Done (pieces.foldl sha1Process (sha1Init buf)) = digest pieces.flatten := by
  have hashes : ∀ (sha1 : Sha1State) (message : List UInt8), sha1.Hashes message →
      (pieces.foldl sha1Process sha1).Hashes (message ++ pieces.flatten) := by
    induction pieces with
    | nil =>
        intro sha1 message hashes
        rwa [List.flatten_nil, List.append_nil]
    | cons piece pieces ih =>
        intro sha1 message hashes
        rw [List.flatten_cons, ← List.append_assoc]
        exact ih _ _ (sha1Process_hashes hashes piece)
  exact sha1Done_hashes (hashes _ [] (sha1Init_hashes buf))

theorem sha1Memory_eq (buf : Memory) (msg : List UInt8) : sha1Memory buf msg = digest msg :=
  sha1Done_hashes (sha1Process_hashes (sha1Init_hashes buf) msg)

example : sha1Memory (fun _ => 7) [0x61, 0x62, 0x63] =
    [0xa9, 0x99, 0x3e, 0x36, 0x47, 0x06, 0x81, 0x6a, 0xba, 0x3e, 0x25, 0x71, 0x78, 0x50, 0xc2, 0x6c, 0x9c, 0xd0, 0xd8,
      0x9d] := by decide +kernel

end Libcsp

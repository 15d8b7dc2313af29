/-
This file relates a hash function that receives its message in pieces to the compression of whole blocks.
-/
import Mathlib.Data.List.Basic
import Mathlib.Tactic.Common

namespace Libcsp.BlockHash

/-- A compression function and the size of its blocks. -/
structure Compression (State Byte : Type) where
  size : Nat
  positive : 0 < size
  compress : State → List Byte → State

variable {State Byte : Type} (hash : Compression State Byte) {state : State} {message more : List Byte}

/-- The state after a number of blocks. -/
def blocks : Nat → State → List Byte → State
  | 0, state, _ => state
  | count + 1, state, message => blocks count (hash.compress state (message.take hash.size)) (message.drop hash.size)

/-- The state after all whole blocks of the message. -/
def absorb (state : State) (message : List Byte) : State := blocks hash (message.length / hash.size) state message

/-- The bytes behind the last whole block. -/
def rest (message : List Byte) : List Byte := message.drop (message.length / hash.size * hash.size)

/-! ## Whole blocks -/

theorem absorb_short (short : message.length < hash.size) : absorb hash state message = state := by
  rw [absorb, Nat.div_eq_of_lt short, blocks]

theorem rest_short (short : message.length < hash.size) : rest hash message = message := by
  rw [rest, Nat.div_eq_of_lt short, Nat.zero_mul, List.drop_zero]

theorem quotient_long (long : hash.size ≤ message.length) :
    message.length / hash.size = (message.drop hash.size).length / hash.size + 1 := by
  rw [List.length_drop, Nat.div_eq_sub_div hash.positive long]

theorem absorb_long (long : hash.size ≤ message.length) :
    absorb hash state message =
      absorb hash (hash.compress state (message.take hash.size)) (message.drop hash.size) := by
  rw [absorb, quotient_long hash long, blocks, absorb]

theorem rest_long (long : hash.size ≤ message.length) :
    rest hash message = rest hash (message.drop hash.size) := by
  rw [rest, quotient_long hash long, rest, List.drop_drop]
  congr 1
  rw [Nat.add_mul, Nat.one_mul, Nat.add_comm]

theorem rest_length (message : List Byte) : (rest hash message).length = message.length % hash.size := by
  rw [rest, List.length_drop, Nat.mod_eq_sub, Nat.mul_comm]

/-- A message continues behind its own rest. -/
theorem absorb_append (state : State) (message more : List Byte) :
    absorb hash state (message ++ more) = absorb hash (absorb hash state message) (rest hash message ++ more) ∧
      rest hash (message ++ more) = rest hash (rest hash message ++ more) := by
  induction count : message.length using Nat.strongRecOn generalizing state message with
  | ind count ih =>
      subst count
      rcases Nat.lt_or_ge message.length hash.size with short | long
      · rw [absorb_short hash short, rest_short hash short]
        exact ⟨rfl, rfl⟩
      · have positive := hash.positive
        have whole : hash.size ≤ (message ++ more).length := by
          rw [List.length_append]
          omega
        have smaller : (message.drop hash.size).length < message.length := by
          rw [List.length_drop]
          omega
        have later := ih _ smaller (hash.compress state (message.take hash.size)) _ rfl
        rw [absorb_long hash whole, rest_long hash whole, absorb_long hash long, rest_long hash long,
          List.take_append_of_le_length long, List.drop_append_of_le_length long]
        exact later

theorem absorb_block {block : List Byte} (whole : block.length = hash.size) (more : List Byte) :
    absorb hash state (block ++ more) = absorb hash (hash.compress state block) more := by
  rw [absorb_long hash (by rw [List.length_append]; omega), List.take_left' whole, List.drop_left' whole]

theorem absorb_one (whole : message.length = hash.size) :
    absorb hash state message = hash.compress state message := by
  have empty : ([] : List Byte).length < hash.size := hash.positive
  have block := @absorb_block _ _ hash state message whole []
  rwa [List.append_nil, absorb_short hash empty] at block

/-! ## A message in pieces -/

/-- A hash computation holds the state of the whole blocks and the bytes behind them. -/
structure HashStream (State Byte : Type) where
  state : State
  pending : List Byte

variable {stream : HashStream State Byte} {input : List Byte}

def feed (stream : HashStream State Byte) (input : List Byte) : HashStream State Byte where
  state := absorb hash stream.state (stream.pending ++ input)
  pending := rest hash (stream.pending ++ input)

/-- Two pieces act as one. -/
theorem feed_feed (stream : HashStream State Byte) (input more : List Byte) :
    feed hash (feed hash stream input) more = feed hash stream (input ++ more) := by
  have both := absorb_append hash stream.state (stream.pending ++ input) more
  rw [feed, feed, feed, ← List.append_assoc, both.1, both.2]

theorem feed_nil (short : stream.pending.length < hash.size) : feed hash stream [] = stream := by
  rw [feed, List.append_nil, absorb_short hash short, rest_short hash short]

/-- The bytes wait until their block is complete. -/
theorem feed_short (short : stream.pending.length + input.length < hash.size) :
    feed hash stream input = { stream with pending := stream.pending ++ input } := by
  have small : (stream.pending ++ input).length < hash.size := by rwa [List.length_append]
  rw [feed, absorb_short hash small, rest_short hash small]

/-- The bytes complete one block. -/
theorem feed_block (whole : stream.pending.length + input.length = hash.size) :
    feed hash stream input = { state := hash.compress stream.state (stream.pending ++ input), pending := [] } := by
  have long : (stream.pending ++ input).length = hash.size := by rwa [List.length_append]
  have empty : ([] : List Byte).length < hash.size := hash.positive
  rw [feed, absorb_long hash (Nat.le_of_eq long.symm), rest_long hash (Nat.le_of_eq long.symm),
    List.take_of_length_le (Nat.le_of_eq long), List.drop_of_length_le (Nat.le_of_eq long),
    absorb_short hash empty, rest_short hash empty]

end Libcsp.BlockHash

/-
This file proves that a window with delayed acknowledgements neither floods its receiver nor gets stuck.
-/
import Mathlib.Logic.Relation
import Mathlib.Data.Nat.Basic
import Mathlib.Order.Basic
import Mathlib.Tactic.Common

namespace Libcsp

/-- The counts of a stream of messages. The list `acks` holds the acknowledgements on their way back. -/
structure Flow where
  sent : Nat
  una : Nat
  arrived : Nat
  acked : Nat
  taken : Nat
  acks : List Nat

/-- The sender has at most `window` messages out. The receiver has `room` places, acknowledges only with more than
`reserve` free places, and owes no more than `delay` acknowledgements once it has taken all messages. -/
structure FlowBounds where
  window : Nat
  room : Nat
  reserve : Nat
  delay : Nat

namespace Flow

/-- The receiver may acknowledge. -/
def MayAck (flow : Flow) (bounds : FlowBounds) : Prop :=
  flow.arrived + bounds.reserve < bounds.room + flow.taken

inductive Step (bounds : FlowBounds) : Flow → Flow → Prop where
  | send (flow : Flow) (ready : flow.sent < flow.una + bounds.window) :
      Step bounds flow { flow with sent := flow.sent + 1 }
  | arrive (flow : Flow) (flying : flow.arrived < flow.sent) :
      Step bounds flow { flow with arrived := flow.arrived + 1 }
  /-- The receiver takes a message and still waits with the acknowledgement. -/
  | take (flow : Flow) (waits : flow.taken < flow.arrived)
      (early : flow.taken + 1 < flow.arrived ∨ flow.arrived ≤ flow.acked + bounds.delay) :
      Step bounds flow { flow with taken := flow.taken + 1 }
  | takeAck (flow : Flow) (waits : flow.taken < flow.arrived)
      (may : MayAck { flow with taken := flow.taken + 1 } bounds) :
      Step bounds flow { flow with
        taken := flow.taken + 1, acked := flow.arrived, acks := flow.acks ++ [flow.arrived] }
  | ack (flow : Flow) (may : flow.MayAck bounds) :
      Step bounds flow { flow with acked := flow.arrived, acks := flow.acks ++ [flow.arrived] }
  | heed (flow : Flow) (ack : Nat) (rest : List Nat) (first : flow.acks = ack :: rest) :
      Step bounds flow { flow with una := ack, acks := rest }

/-- The numbers rise from the first one over the list to the last one, which ends the list. -/
def Climbs (first : Nat) : List Nat → Nat → Prop
  | [], last => first = last
  | next :: rest, last => first ≤ next ∧ Climbs next rest last

theorem Climbs.rises {first last : Nat} {numbers : List Nat} (climbs : Climbs first numbers last) : first ≤ last := by
  induction numbers generalizing first with
  | nil => exact Nat.le_of_eq climbs
  | cons next rest ih => exact climbs.1.trans (ih climbs.2)

theorem Climbs.snoc {first last more : Nat} {numbers : List Nat} (climbs : Climbs first numbers last)
    (above : last ≤ more) : Climbs first (numbers ++ [more]) more := by
  induction numbers generalizing first with
  | nil => exact ⟨climbs.rises.trans above, rfl⟩
  | cons next rest ih => exact ⟨climbs.1, ih climbs.2⟩

/-- Each place of the receiver that a message may still need is free. -/
structure Sound (flow : Flow) (bounds : FlowBounds) : Prop where
  climbs : Climbs flow.una flow.acks flow.acked
  acked : flow.acked ≤ flow.arrived
  arrived : flow.arrived ≤ flow.sent
  taken : flow.taken ≤ flow.arrived
  window : flow.sent ≤ flow.una + bounds.window
  reserve : flow.acked + bounds.reserve < bounds.room + flow.taken
  owed : flow.taken = flow.arrived → flow.arrived ≤ flow.acked + bounds.delay

/-- The receiver may acknowledge all that has arrived. -/
theorem Sound.answer {flow : Flow} {bounds : FlowBounds} (sound : flow.Sound bounds) (may : flow.MayAck bounds) :
    Sound { flow with acked := flow.arrived, acks := flow.acks ++ [flow.arrived] } bounds where
  climbs := sound.climbs.snoc sound.acked
  acked := le_rfl
  arrived := sound.arrived
  taken := sound.taken
  window := sound.window
  reserve := may
  owed _ := Nat.le_add_right _ _

theorem Step.sound {bounds : FlowBounds} {flow after : Flow} (step : Step bounds flow after)
    (sound : flow.Sound bounds) : after.Sound bounds := by
  have fewer := sound.taken
  cases step with
  | send ready =>
      exact { sound with arrived := sound.arrived.trans (Nat.le_succ _), window := ready }
  | arrive flying =>
      refine { sound with acked := ?_, arrived := flying, taken := ?_, owed := ?_ }
      · exact sound.acked.trans (Nat.le_succ _)
      · exact fewer.trans (Nat.le_succ _)
      · intro all
        simp only at all
        omega
  | take waits early =>
      have places := sound.reserve
      refine { sound with taken := waits, reserve := ?_, owed := ?_ }
      · simp only
        omega
      · intro all
        simp only at all ⊢
        omega
  | takeAck waits may =>
      exact {
        climbs := sound.climbs.snoc sound.acked, acked := le_rfl, arrived := sound.arrived, taken := waits,
        window := sound.window, reserve := may, owed := fun _ => Nat.le_add_right _ _ }
  | ack may => exact sound.answer may
  | heed ack rest first =>
      have climbs := sound.climbs
      rw [first] at climbs
      have rises := climbs.1
      have window := sound.window
      refine { sound with climbs := climbs.2, window := ?_ }
      simp only
      omega

/-- Any number of steps. -/
abbrev Runs (bounds : FlowBounds) : Flow → Flow → Prop := Relation.ReflTransGen (Step bounds)

theorem Runs.sound {bounds : FlowBounds} {flow after : Flow} (runs : Runs bounds flow after)
    (sound : flow.Sound bounds) : after.Sound bounds := by
  induction runs with
  | refl => exact sound
  | tail _ last ih => exact last.sound ih

/-- All messages on their way and all waiting messages together leave a place free. -/
theorem Sound.fits {flow : Flow} {bounds : FlowBounds} (sound : flow.Sound bounds)
    (covers : bounds.window ≤ bounds.reserve) : flow.sent < bounds.room + flow.taken := by
  have climbs := sound.climbs.rises
  have window := sound.window
  have reserve := sound.reserve
  omega

/-- When nothing is on its way and nothing waits, the window is open. -/
theorem Sound.ready {flow : Flow} {bounds : FlowBounds} (sound : flow.Sound bounds)
    (prompt : bounds.delay < bounds.window) (landed : flow.arrived = flow.sent) (heard : flow.acks = [])
    (all : flow.taken = flow.arrived) : flow.sent < flow.una + bounds.window := by
  have climbs := sound.climbs
  rw [heard] at climbs
  have same : flow.una = flow.acked := climbs
  have owed := sound.owed all
  omega

end Flow
end Libcsp

/-
This file runs a server that answers one request after the other, and lifts a refinement of one answer to runs.
-/
import Mathlib.Tactic.Common

namespace Libcsp

/-- A server answers a request, and it changes its state. -/
abbrev Server (State Request Reply : Type) := State → Request → Reply × State

namespace Server

variable {State Request Reply State' Request' Reply' : Type}

/-- The answers to a list of requests, and the last state. -/
def run (server : Server State Request Reply) : State → List Request → List Reply × State
  | state, [] => ([], state)
  | state, request :: rest =>
      let answer := server state request
      let later := server.run answer.2 rest
      (answer.1 :: later.1, later.2)

/-- The server behaves like the other one on all requests that it has to handle. -/
structure Refines (server : Server State Request Reply) (spec : Server State' Request' Reply')
    (view : State → State') (request' : Request → Request') (reply' : Reply → Reply')
    (handles : Request → Prop) : Prop where
  reply : ∀ state request, handles request →
    reply' (server state request).1 = (spec (view state) (request' request)).1
  state : ∀ state request, handles request →
    view (server state request).2 = (spec (view state) (request' request)).2

theorem Refines.run {server : Server State Request Reply} {spec : Server State' Request' Reply'}
    {view : State → State'} {request' : Request → Request'} {reply' : Reply → Reply'} {handles : Request → Prop}
    (refines : Refines server spec view request' reply' handles) (state : State) (requests : List Request)
    (handled : ∀ request ∈ requests, handles request) :
    (server.run state requests).1.map reply' = (Server.run spec (view state) (requests.map request')).1 ∧
      view (server.run state requests).2 = (Server.run spec (view state) (requests.map request')).2 := by
  induction requests generalizing state with
  | nil => exact ⟨rfl, rfl⟩
  | cons request rest ih =>
      have first := handled request List.mem_cons_self
      obtain ⟨replies, last⟩ := ih (server state request).2 fun other member =>
        handled other (List.mem_cons_of_mem _ member)
      rw [refines.state state request first] at replies last
      constructor
      · simp only [Server.run, List.map_cons, refines.reply state request first, replies]
      · exact last

end Server
end Libcsp

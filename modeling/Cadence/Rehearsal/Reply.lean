import Cadence.Broadcast.Session
import Cadence.Channel
import Cadence.Pause.Session

/-!
# Replies

What the steps of a rehearsal answer.
-/

namespace Cadence.Rehearsal

/-- The answer of one step. -/
inductive Reply
  | nothing
  | gone
  | noTimer
  | pending
  | unreadableClock
  | flag (b : Bool)
  | count (n : Nat)
  | span (d : Span)
  | text (s : String)
  | status (status : Pause.Status)
  | timer (running : Bool) (delay : Option Span)
  | record (listeners : Nat) (delay : Option Span)
  | listener (origin : Origin) (sent : Nat) (disconnected : Bool) (description : String)
  | notice (notice : Notice)
  | notices (notices : List Notice)
  | stats (stats : Broadcast.Stats)
deriving Inhabited

def Reply.ofArrival : Arrival → Reply
  | .ran n => .count n
  | .jumped none => .nothing
  | .jumped (some d) => .span d
  | .arrived => .nothing

/-- Takes the script of the next call off a list of scripts. -/
def takeScript {α : Type} : List (List α) → List α × List (List α)
  | [] => ([], [])
  | script :: rest => (script, rest)

/-- How many turns a rehearsal takes at most. -/
def budget : Nat := 1000000000

end Cadence.Rehearsal

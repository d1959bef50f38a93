import Cadence.Json.Document

/-!
# Counters of a dispatcher

Five counters that only grow: broadcasts accepted and suppressed, fan-outs begun
and given up, and notifications made.
-/

namespace Cadence.Broadcast

/-- Counters of what a dispatcher did. -/
structure Stats where
  dispatches : Nat := 0
  suppressed : Nat := 0
  fanouts : Nat := 0
  notifications : Nat := 0
  droppedFanouts : Nat := 0
deriving DecidableEq

namespace Stats

def describe (s : Stats) : String :=
  "DispatcherStats \x7b dispatches: " ++ Text.decimal s.dispatches
    ++ ", suppressed: " ++ Text.decimal s.suppressed
    ++ ", fanouts: " ++ Text.decimal s.fanouts
    ++ ", notifications: " ++ Text.decimal s.notifications
    ++ ", dropped_fanouts: " ++ Text.decimal s.droppedFanouts ++ " \x7d"

def toJson (s : Stats) : Json :=
  .object [("dispatches", .nat s.dispatches), ("suppressed", .nat s.suppressed),
    ("fanouts", .nat s.fanouts), ("notifications", .nat s.notifications),
    ("dropped_fanouts", .nat s.droppedFanouts)]

open Document

def ofJson? (x : Json) : Option Stats := do
  let f ← fields? ["dispatches", "suppressed", "fanouts", "notifications", "dropped_fanouts"]
    false x
  return ⟨← required (f "dispatches") word?, ← required (f "suppressed") word?,
    ← required (f "fanouts") word?, ← required (f "notifications") word?,
    ← required (f "dropped_fanouts") word?⟩

end Stats

end Cadence.Broadcast

import Cadence.Event
import Cadence.Json.Document

/-!
# The incident log

A log keeps the newest incidents of one tree of scopes, oldest first. When a
scope goes away its incidents are filed under the root of its tree instead.
-/

namespace Cadence.Incident

abbrev ScopeId := Nat

/-- An incident and the scope under which it is filed. -/
structure Filed (α : Type) where
  scope : ScopeId
  incident : α
deriving DecidableEq

/-- How many incidents a log keeps unless it is told otherwise. -/
def defaultCapacity : Nat := 1000

/-- The newest incidents, at most `capacity`, and how many there ever were. -/
structure Log (α : Type) where
  capacity : Nat := defaultCapacity
  entries : List (Filed α) := []
  totalRecorded : Nat := 0
  totalEvicted : Nat := 0
deriving DecidableEq

structure LogStats where
  capacity : Nat
  len : Nat
  totalRecorded : Nat
  totalEvicted : Nat
deriving DecidableEq

namespace Log

variable {α : Type}

/-- Files an incident; a full log drops its oldest one, and a log without
capacity keeps nothing. -/
def record (log : Log α) (scope : ScopeId) (incident : α) : Log α :=
  let log := { log with totalRecorded := log.totalRecorded + 1 }
  if log.capacity = 0 then { log with totalEvicted := log.totalEvicted + 1 }
  else if log.entries.length = log.capacity then
    { log with
      entries := log.entries.drop 1 ++ [⟨scope, incident⟩]
      totalEvicted := log.totalEvicted + 1 }
  else { log with entries := log.entries ++ [⟨scope, incident⟩] }

/-- The incidents filed under one of the scopes, oldest first. -/
def query (log : Log α) (scopes : List ScopeId) : List α :=
  (log.entries.filter fun e => e.scope ∈ scopes).map (·.incident)

def countOf (log : Log α) (scope : ScopeId) : Nat :=
  (log.entries.filter fun e => e.scope = scope).length

/-- Files the incidents of one scope under another. -/
def rekey (log : Log α) (scope heir : ScopeId) : Log α :=
  { log with
    entries := log.entries.map fun e => if e.scope = scope then { e with scope := heir } else e }

/-- A scope went away. `root` is the root of its tree, if the scope is known;
a root leaves its incidents as they are. -/
def onScopeDeleted (log : Log α) (scope : ScopeId) (root : Option ScopeId) :
    Log α × List Event :=
  match root with
  | none => (log, [])
  | some root =>
      if root = scope then (log, [])
      else (log.rekey scope root, [.rekeyed scope root (log.countOf scope)])

def stats (log : Log α) : LogStats :=
  ⟨log.capacity, log.entries.length, log.totalRecorded, log.totalEvicted⟩

end Log

namespace LogStats

def toJson (s : LogStats) : Json :=
  .object [("capacity", .nat s.capacity), ("len", .nat s.len),
    ("total_recorded", .nat s.totalRecorded), ("total_evicted", .nat s.totalEvicted)]

open Document

def ofJson? (x : Json) : Option LogStats := do
  let f ← fields? ["capacity", "len", "total_recorded", "total_evicted"] false x
  return ⟨← required (f "capacity") word?, ← required (f "len") word?,
    ← required (f "total_recorded") word?, ← required (f "total_evicted") word?⟩

end LogStats

end Cadence.Incident

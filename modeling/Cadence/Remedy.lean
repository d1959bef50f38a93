import Cadence.Json.Document

/-!
# Remedies

What a person can do about a failure: one summary and further alternatives.
-/

namespace Cadence

/-- Guidance for a failure. -/
structure Remedy where
  summary : String
  alternatives : List String := []
deriving DecidableEq

namespace Remedy

/-- The guidance for people: a line for each alternative under the summary. -/
def plain (r : Remedy) : String :=
  let alternatives := r.alternatives.map fun a => "    - " ++ a ++ "\n"
  "To fix:\n  " ++ r.summary ++ "\n"
    ++ (if alternatives.isEmpty then "" else "  Alternatives:\n")
    ++ String.join alternatives

def toJson (r : Remedy) : Json :=
  .object [("summary", .string r.summary), ("alternatives", .array (r.alternatives.map .string))]

open Document

def ofJson? (x : Json) : Option Remedy := do
  let f ← fields? ["summary", "alternatives"] false x
  let items ← required (f "alternatives") items?
  return ⟨← required (f "summary") string?, ← items.mapM string?⟩

end Remedy

end Cadence

/-!
# Ownership by a thread

A component belongs to one thread: the one that made it, or after it was
detached the first one that asks.
-/

namespace Cadence

/-- The thread that a component belongs to, if any. -/
structure Ownership (θ : Type) where
  owner : Option θ

namespace Ownership

variable {θ : Type} [DecidableEq θ]

/-- Whether `thread` may call. A detached component is bound to it. -/
def admits (o : Ownership θ) (thread : θ) : Bool × Ownership θ :=
  match o.owner with
  | some owner => (owner == thread, o)
  | none => (true, ⟨some thread⟩)

def detach (_ : Ownership θ) : Ownership θ := ⟨none⟩

/-- What a call from a thread that does not own the component says. -/
def violation : String := "called off the owning sequence"

end Ownership

end Cadence

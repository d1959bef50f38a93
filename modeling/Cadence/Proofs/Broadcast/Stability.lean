import Cadence.Proofs.Broadcast.Roll

/-! # What every move keeps

A move of a session lets its dispatcher do one thing at most, and the dispatcher may go away
after it. So what each operation of a dispatcher keeps is kept by every move, and along every
run, on any timeline and whoever is called in between. Only broadcasts, which read the clock
and put tasks off, are left to the property in question.
-/

namespace Cadence.Broadcast

variable {σ δ ε κ : Type} {P : Dispatcher ε → Prop}

/-- A property that every operation of a dispatcher keeps, except perhaps a broadcast. -/
structure Dispatcher.Stable (P : Dispatcher ε → Prop) : Prop where
  resolveInterval : ∀ {d : Dispatcher ε}, P d → P d.resolveInterval.2.1
  add : ∀ {d : Dispatcher ε} (origin : Origin) (endpoint : ε), P d → P (d.add origin endpoint).2.1
  remove : ∀ {d : Dispatcher ε} (r : Registration), P d → P (d.remove r).1
  startFanOut : ∀ {d : Dispatcher ε} (origin : Origin) (ticket : Option Ticket), P d →
    P (d.startFanOut origin ticket).2.1
  countNotification : ∀ {d : Dispatcher ε}, P d → P d.countNotification
  /-- The dispatcher goes away. -/
  vacate : ∀ {d : Dispatcher ε}, P d → P { d with records := [], inFlight := [] }

namespace Dispatcher.Stable

variable [Timeline σ δ (Errand κ)] {s u : Session σ δ ε}

theorem answer (h : Stable P) (hu : P u.dispatcher) (notes : List Note) (answer : Answer) :
    P (u.answer notes answer : Outcome σ δ ε κ).session.dispatcher := by
  unfold Session.answer
  split
  next => exact h.vacate hu
  next => exact hu

theorem fan (h : Stable P) (hu : P u.dispatcher) (notes : List Note) (entrance : Entrance)
    (origin : Origin) (ids : List EndpointId) :
    P (u.fan notes entrance origin ids : Outcome σ δ ε κ).session.dispatcher := by
  unfold Session.fan
  split
  next => exact h.countNotification hu
  next =>
    cases entrance with
    | request => exact h.answer hu notes .done
    | task ticket => exact hu

theorem fanOut (h : Stable P) (hu : P u.dispatcher) (notes : List Note) (entrance : Entrance)
    (origin : Origin) : P (u.fanOut notes entrance origin : Outcome σ δ ε κ).session.dispatcher :=
  h.fan (h.startFanOut origin entrance.ticket? hu) _ _ _ _

theorem proceed (h : Stable P) (hs : P s.dispatcher) :
    P (s.proceed : Outcome σ δ ε κ).session.dispatcher := by
  unfold Session.proceed
  split
  next drive rest hframes =>
    split
    next task events timers drive' hturn =>
      cases task with
      | fanOut origin ticket =>
          refine h.fanOut ?_ _ _ _
          exact hs
      | posted work => exact hs
    next => exact hs
  next => exact hs

theorem resume (h : Stable P) (hs : P s.dispatcher) :
    P (s.resume : Outcome σ δ ε κ).session.dispatcher := by
  unfold Session.resume
  split
  next =>
    refine h.fan ?_ _ _ _ _
    exact hs
  next =>
    refine h.answer ?_ _ _
    exact hs
  next => exact hs
  next => exact hs

theorem letGo (h : Stable P) (hs : P s.dispatcher) :
    P (s.letGo : Outcome σ δ ε κ).session.dispatcher := by
  unfold Session.letGo
  split
  next => exact hs
  next =>
    split
    next => exact hs
    next => exact h.vacate hs

theorem travel (hs : P s.dispatcher) (t : Travel) :
    P (s.travel t : Outcome σ δ ε κ).session.dispatcher := by
  unfold Session.travel
  split <;> exact hs

/-- Every move keeps a stable property, if broadcasts do. -/
theorem perform (h : Stable P) (hs : P s.dispatcher) (visit : List Origin → List Origin)
    (m : Move ε)
    (hbroadcast : m = .broadcast → P (s.broadcast visit : Outcome σ δ ε κ).session.dispatcher) :
    P (s.perform visit m : Outcome σ δ ε κ).session.dispatcher := by
  unfold Session.perform
  split
  next => exact hs
  next =>
    cases m with
    | add origin endpoint => exact h.add origin endpoint hs
    | broadcast => exact hbroadcast rfl
    | dispatch origin => exact h.fanOut hs _ _ _
    | remove r =>
        refine h.answer ?_ _ _
        exact h.remove r hs
    | resolve =>
        refine h.answer ?_ _ _
        exact h.resolveInterval hs
    | disconnect r => exact h.remove r hs
    | letGo => exact h.letGo hs
    | travel t => exact travel hs t
    | resume => exact h.resume hs
    | proceed => exact h.proceed hs

/-- A stable property that broadcasts keep as well holds along every run. -/
theorem along (h : Stable P)
    (hbroadcast : ∀ (s : Session σ δ ε) (visit : List Origin → List Origin), P s.dispatcher →
      P (s.broadcast visit : Outcome σ δ ε κ).session.dispatcher)
    (hs : P s.dispatcher) (run : List (Roll.Beat σ ε)) : P (Roll.after s run).dispatcher := by
  induction run generalizing s with
  | nil => exact hs
  | cons beat rest ih =>
      refine ih ?_
      cases beat with
      | move visit m => exact h.perform hs visit m fun _ => hbroadcast s visit hs
      | others timers => exact hs

end Dispatcher.Stable

end Cadence.Broadcast

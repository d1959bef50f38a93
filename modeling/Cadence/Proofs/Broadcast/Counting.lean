import Cadence.Proofs.Broadcast.Conservation
import Cadence.Proofs.Broadcast.Roll

/-! # What a session counts

On any timeline a dispatcher counts the fan-outs that begin with a record, and the
notifications. Over a run these are the fan-outs that were called for or came up and found
a record, and the listeners that were reached. A ticket is in flight once at most.
-/

namespace Cadence.Broadcast

namespace Dispatcher

variable {ε : Type} {d d' d'' : Dispatcher ε} {begun : Bool}

/-- No ticket is in flight twice, or before it is issued. -/
structure Ticketed (d : Dispatcher ε) : Prop where
  nodup : (d.inFlight.map Prod.fst).Nodup
  below : ∀ ticket ∈ d.inFlight.map Prod.fst, ticket < d.nextTicket

theorem ticketed_of_nil (h : d.inFlight = []) : d.Ticketed := by
  constructor <;> rw [h]
  · exact List.nodup_nil
  · exact nofun

/-- Nothing is counted but a fan-out, if one began, and tickets stay apart. -/
structure Begins (d d' : Dispatcher ε) (begun : Bool) : Prop where
  fanouts : d'.stats.fanouts = d.stats.fanouts + begun.toNat
  notifications : d'.stats.notifications = d.stats.notifications
  ticketed : d.Ticketed → d'.Ticketed

theorem begins_of_eq (hstats : d'.stats = d.stats) (hinFlight : d'.inFlight = d.inFlight)
    (hnext : d'.nextTicket = d.nextTicket) : d.Begins d' false where
  fanouts := by rw [hstats]; rfl
  notifications := by rw [hstats]
  ticketed h := ⟨hinFlight ▸ h.nodup, hinFlight ▸ hnext ▸ h.below⟩

theorem Begins.refl (d : Dispatcher ε) : d.Begins d false := begins_of_eq rfl rfl rfl

theorem Begins.trans (h : d.Begins d' false) (h' : d'.Begins d'' begun) : d.Begins d'' begun where
  fanouts := h'.fanouts.trans (congrArg (· + begun.toNat) h.fanouts)
  notifications := h'.notifications.trans h.notifications
  ticketed := h'.ticketed ∘ h.ticketed

theorem resolveInterval_begins (d : Dispatcher ε) : d.Begins d.resolveInterval.2.1 false :=
  begins_of_eq d.resolveInterval_settled.stats d.resolveInterval_settled.inFlight
    d.resolveInterval_kept.nextTicket

theorem add_begins (d : Dispatcher ε) (origin : Origin) (endpoint : ε) :
    d.Begins (d.add origin endpoint).2.1 false :=
  begins_of_eq (d.add_settled origin endpoint).stats (d.add_settled origin endpoint).inFlight
    (d.add_counters origin endpoint).2

theorem remove_begins (d : Dispatcher ε) (r : Registration) : d.Begins (d.remove r).1 false :=
  begins_of_eq (d.remove_settled r).stats (d.remove_settled r).inFlight (d.remove_counters r).2

section Timers

variable {σ κ : Type} [TimerService σ (Errand κ)]

theorem close_begins (d : Dispatcher ε) (timers : σ) : d.Begins (d.close timers).1 false :=
  ⟨rfl, rfl, fun _ => ticketed_of_nil rfl⟩

/-- A fan-out that is scheduled is in flight under a new ticket. -/
theorem scheduleFanOut_begins (d : Dispatcher ε) (timers : σ) (origin : Origin) :
    d.Begins (scheduleFanOut (d, timers) origin).1 false := by
  unfold scheduleFanOut
  dsimp only
  split
  next => exact .refl d
  next record _ =>
    refine ⟨rfl, rfl, fun h => ?_⟩
    constructor
    case nodup =>
      rw [List.map_append]
      refine List.nodup_append.mpr ⟨h.nodup, List.nodup_singleton _, ?_⟩
      intro ticket hticket new hnew
      rw [List.mem_singleton.mp hnew]
      exact Nat.ne_of_lt (h.below ticket hticket)
    case below =>
      intro ticket hticket
      rw [List.map_append] at hticket
      rcases List.mem_append.mp hticket with hold | hnew
      · exact Nat.lt_succ_of_lt (h.below ticket hold)
      · exact List.mem_singleton.mp hnew ▸ Nat.lt_succ_self _

theorem foldl_scheduleFanOut_begins (d : Dispatcher ε) (timers : σ) (origins : List Origin) :
    d.Begins (origins.foldl scheduleFanOut (d, timers)).1 false := by
  induction origins generalizing d timers with
  | nil => exact .refl d
  | cons o rest ih => exact (d.scheduleFanOut_begins timers o).trans (ih _ _)

theorem broadcast_begins (visit : List Origin → List Origin) (d : Dispatcher ε) (timers : σ)
    (now : Option Span) : d.Begins (d.broadcast visit timers now).2.1 false := by
  have hresolved := d.resolveInterval_begins
  unfold broadcast
  dsimp only
  split
  next => exact hresolved
  next now =>
    split
    next => exact hresolved.trans ⟨rfl, rfl, fun h => ⟨h.nodup, h.below⟩⟩
    next =>
      refine Begins.trans ?_ (foldl_scheduleFanOut_begins _ _ _)
      exact hresolved.trans ⟨rfl, rfl, fun h => ⟨h.nodup, h.below⟩⟩

end Timers

theorem startFanOut_inFlight_sublist (d : Dispatcher ε) (origin : Origin)
    (ticket : Option Ticket) : (d.startFanOut origin ticket).2.1.inFlight.Sublist d.inFlight := by
  cases ticket with
  | some ticket =>
      rw [startFanOut_inFlight]
      exact List.eraseP_sublist
  | none =>
      rw [(d.startFanOut_request origin).1]

/-- A fan-out has begun if its origin has a record. -/
theorem startFanOut_begins (d : Dispatcher ε) (origin : Origin) (ticket : Option Ticket) :
    d.Begins (d.startFanOut origin ticket).2.1 (d.record? origin).isSome := by
  have hsublist := (d.startFanOut_inFlight_sublist origin ticket).map Prod.fst
  have hnext := (d.startFanOut_kept origin ticket).nextTicket
  constructor
  case fanouts =>
    unfold startFanOut record?
    cases hrecord : d.records.lookup origin <;> cases ticket <;> simp [hrecord]
  case notifications =>
    unfold startFanOut record?
    cases hrecord : d.records.lookup origin <;> cases ticket <;> simp [hrecord]
  case ticketed =>
    intro h
    exact ⟨h.nodup.sublist hsublist, fun t ht => hnext.symm ▸ h.below t (hsublist.subset ht)⟩

end Dispatcher

namespace Snapshot

open Roll (Beat next after)

variable {σ δ ε κ : Type} {s u : Session σ δ ε} {new : Bool}

/-- What comes out of a beat is counted: a fan-out if one began, and the notification that was
made. -/
structure Credits (s : Session σ δ ε) (new : Bool) (out : Outcome σ δ ε κ) : Prop where
  fanouts : out.session.dispatcher.stats.fanouts = s.dispatcher.stats.fanouts + new.toNat
  notifications : out.session.dispatcher.stats.notifications =
    s.dispatcher.stats.notifications + out.reached?.isSome.toNat
  ticketed : s.dispatcher.Ticketed → out.session.dispatcher.Ticketed

theorem credits_of_quiet {out : Outcome σ δ ε κ} (hquiet : out.reached? = none)
    (h : s.dispatcher.Begins out.session.dispatcher new) : Credits s new out where
  fanouts := h.fanouts
  notifications := by
    rw [hquiet]
    exact h.notifications
  ticketed := h.ticketed

variable [Timeline σ δ (Errand κ)]

theorem credits_answer (h : s.dispatcher.Begins u.dispatcher new) (notes : List Note)
    (answer : Answer) : Credits s new (u.answer notes answer : Outcome σ δ ε κ) := by
  refine credits_of_quiet (Session.reached?_answer u notes answer) ?_
  unfold Session.answer
  split
  next => exact ⟨h.fanouts, h.notifications, fun _ => Dispatcher.ticketed_of_nil rfl⟩
  next => exact h

theorem credits_fan (h : s.dispatcher.Begins u.dispatcher new) (notes : List Note)
    (entrance : Entrance) (origin : Origin) (ids : List EndpointId) :
    Credits s new (u.fan notes entrance origin ids : Outcome σ δ ε κ) := by
  unfold Session.fan
  split
  next =>
    refine ⟨h.fanouts, congrArg (· + 1) h.notifications, fun hbefore => ?_⟩
    have hticketed := h.ticketed hbefore
    exact ⟨hticketed.nodup, hticketed.below⟩
  next =>
    cases entrance with
    | request => exact credits_answer h notes .done
    | task ticket => exact credits_of_quiet rfl h

theorem credits_fanOut (h : u.dispatcher = s.dispatcher) (notes : List Note)
    (entrance : Entrance) (origin : Origin) :
    Credits s (s.dispatcher.record? origin).isSome
      (u.fanOut notes entrance origin : Outcome σ δ ε κ) := by
  obtain ⟨logged, hfan⟩ := u.fanOut_eq (κ := κ) notes entrance origin
  rw [hfan, h]
  refine credits_fan ?_ _ _ _ _
  exact s.dispatcher.startFanOut_begins origin entrance.ticket?

/-! ## Fan-outs that begin -/

/-- The fan-out that comes up at the next turn of the drive on top, if it is one: its ticket
and its origin. -/
def due? (s : Session σ δ ε) : Option (Ticket × Origin) :=
  match s.frames with
  | .travelling drive :: _ =>
      match Timeline.turn s.timers drive with
      | .run (.fanOut origin ticket) _ _ _ => some (ticket, origin)
      | _ => none
  | _ => none

/-- How a fan-out comes to begin in a beat and for which origin, if one does. -/
def opening? (s : Session σ δ ε) : Beat σ ε → Option (Entrance × Origin)
  | .move _ (.dispatch origin) => if s.standing = .owned then some (.request, origin) else none
  | .move _ .proceed => (due? s).map fun due => (.task due.1, due.2)
  | _ => none

/-- Whether a fan-out begins in a beat and finds a record. -/
def begins (s : Session σ δ ε) (beat : Beat σ ε) : Bool :=
  (opening? s beat).any fun opening => (s.dispatcher.record? opening.2).isSome

/-- A fan-out that comes up begins with the dispatcher and the stack that it finds. -/
theorem proceed_of_due {ticket : Ticket} {origin : Origin} (hdue : due? s = some (ticket, origin)) :
    ∃ (u : Session σ δ ε) (notes : List Note),
      (s.proceed : Outcome σ δ ε κ) = u.fanOut notes (.task ticket) origin ∧
        u.dispatcher = s.dispatcher ∧ u.standing = s.standing ∧
        u.frames.length = s.frames.length := by
  unfold due? at hdue
  split at hdue
  next drive rest hframes =>
    split at hdue
    next events timers drive' hturn =>
      cases hdue
      let u : Session σ δ ε := { s with timers, frames := .travelling drive' :: rest }
      refine ⟨u, u.noted events, ?_, rfl, rfl, ?_⟩
      · unfold Session.proceed
        rw [hframes]
        dsimp only
        rw [hturn]
      · rw [hframes]
        rfl
    next => cases hdue
  next => cases hdue

/-- If no fan-out comes up, a drive's turn passes the dispatcher by. -/
theorem proceed_of_not_due (hdue : due? s = none) :
    (s.proceed : Outcome σ δ ε κ).reached? = none ∧
      (s.proceed : Outcome σ δ ε κ).session.dispatcher = s.dispatcher := by
  unfold Session.proceed
  split
  next drive rest hframes =>
    unfold due? at hdue
    rw [hframes] at hdue
    dsimp only at hdue
    split
    next task events timers drive' hturn =>
      rw [hturn] at hdue
      cases task with
      | fanOut origin ticket => cases hdue
      | posted work => exact ⟨rfl, rfl⟩
    next => exact ⟨rfl, rfl⟩
  next => exact ⟨rfl, rfl⟩

theorem credits_proceed (s : Session σ δ ε) (visit : List Origin → List Origin) :
    Credits s (begins s (.move visit .proceed)) (s.proceed : Outcome σ δ ε κ) := by
  unfold begins opening?
  cases hdue : due? s with
  | some due =>
      obtain ⟨u, notes, hproceed, hdispatcher, _, _⟩ := proceed_of_due hdue
      rw [hproceed]
      exact credits_fanOut hdispatcher notes (.task due.1) due.2
  | none =>
      obtain ⟨hquiet, hdispatcher⟩ := proceed_of_not_due hdue
      exact credits_of_quiet hquiet (hdispatcher ▸ .refl _)

/-! ## Any beat -/

theorem credits_resume (s : Session σ δ ε) : Credits s false (s.resume : Outcome σ δ ε κ) := by
  unfold Session.resume
  split
  next =>
    refine credits_fan ?_ _ _ _ _
    exact .refl _
  next =>
    refine credits_answer ?_ _ _
    exact .refl _
  next => exact credits_of_quiet rfl (.refl _)
  next => exact credits_of_quiet rfl (.refl _)

theorem credits_letGo (s : Session σ δ ε) : Credits s false (s.letGo : Outcome σ δ ε κ) := by
  unfold Session.letGo
  split
  next => exact credits_of_quiet rfl (.refl _)
  next =>
    split
    next => exact credits_of_quiet rfl (.refl _)
    next => exact credits_of_quiet rfl (s.dispatcher.close_begins s.timers)

theorem credits_travel (s : Session σ δ ε) (t : Travel) :
    Credits s false (s.travel t : Outcome σ δ ε κ) := by
  unfold Session.travel
  split <;> exact credits_of_quiet rfl (.refl _)

theorem begins_dispatch (howned : s.standing = .owned) (visit : List Origin → List Origin)
    (origin : Origin) :
    begins s (.move visit (.dispatch origin)) = (s.dispatcher.record? origin).isSome := by
  unfold begins opening?
  dsimp only
  rw [if_pos howned]
  rfl

/-- What is refused, since nobody holds the dispatcher, begins nothing. -/
theorem begins_of_refused {m : Move ε} (hrefused : Session.Move.needsDispatcher m)
    (hother : s.standing ≠ .owned) (visit : List Origin → List Origin) :
    begins s (.move visit m) = false := by
  cases m with
  | dispatch origin =>
      unfold begins opening?
      dsimp only
      rw [if_neg hother]
      rfl
  | proceed => cases hrefused
  | _ => rfl

theorem credits_perform (s : Session σ δ ε) (visit : List Origin → List Origin) (m : Move ε) :
    Credits s (begins s (.move visit m)) (s.perform visit m : Outcome σ δ ε κ) := by
  unfold Session.perform
  split
  next hrefused =>
    rw [begins_of_refused hrefused.1 hrefused.2]
    exact credits_of_quiet rfl (.refl _)
  next hopen =>
    have howned : Session.Move.needsDispatcher m → s.standing = .owned := fun hneeds =>
      Decidable.byContradiction fun hother => hopen ⟨hneeds, hother⟩
    cases m with
    | add origin endpoint => exact credits_of_quiet rfl (s.dispatcher.add_begins origin endpoint)
    | broadcast =>
        refine credits_answer ?_ _ _
        exact s.dispatcher.broadcast_begins visit s.timers _
    | dispatch origin =>
        rw [begins_dispatch (howned rfl)]
        exact credits_fanOut rfl _ _ _
    | remove r =>
        refine credits_answer ?_ _ _
        exact s.dispatcher.remove_begins r
    | resolve =>
        refine credits_answer ?_ _ _
        exact s.dispatcher.resolveInterval_begins
    | disconnect r => exact credits_of_quiet rfl (s.dispatcher.remove_begins r)
    | letGo => exact credits_letGo s
    | travel t => exact credits_travel s t
    | resume => exact credits_resume s
    | proceed => exact credits_proceed s visit

theorem credits_next (s : Session σ δ ε) (beat : Beat σ ε) :
    Credits s (begins s beat) (next s beat) := by
  cases beat with
  | move visit m => exact credits_perform s visit m
  | others timers => exact credits_of_quiet rfl (.refl _)

/-! ## Runs -/

/-- How many fan-outs that find a record begin in a run. -/
def begun (s : Session σ δ ε) : List (Beat σ ε) → Nat
  | [] => 0
  | beat :: rest => (begins s beat).toNat + begun (next s beat).session rest

/-- The notifications made in a run. -/
def calls (s : Session σ δ ε) : List (Beat σ ε) → List (Reach ε)
  | [] => []
  | beat :: rest => (next s beat).reached?.toList ++ calls (next s beat).session rest

/-- Over a run the fan-outs that begin and the notifications are counted. -/
theorem credits_after (s : Session σ δ ε) (beats : List (Beat σ ε)) :
    (after s beats).dispatcher.stats.fanouts = s.dispatcher.stats.fanouts + begun s beats ∧
      (after s beats).dispatcher.stats.notifications =
        s.dispatcher.stats.notifications + (calls s beats).length := by
  induction beats generalizing s with
  | nil => exact ⟨rfl, rfl⟩
  | cons beat rest ih =>
      have hcredits := credits_next s beat
      obtain ⟨hfanouts, hnotifications⟩ := ih (next s beat).session
      have hreached : (next s beat).reached?.isSome.toNat =
          (next s beat).reached?.toList.length := by
        cases (next s beat).reached? <;> rfl
      have hafter : after s (beat :: rest) = after (next s beat).session rest := rfl
      rw [hafter, hfanouts, hnotifications, hcredits.fanouts, hcredits.notifications, hreached,
        begun, calls, List.length_append]
      exact ⟨Nat.add_assoc _ _ _, Nat.add_assoc _ _ _⟩

theorem ticketed_after (hticketed : s.dispatcher.Ticketed) (beats : List (Beat σ ε)) :
    (after s beats).dispatcher.Ticketed := by
  induction beats generalizing s with
  | nil => exact hticketed
  | cons beat rest ih => exact ih ((credits_next s beat).ticketed hticketed)

end Snapshot

end Cadence.Broadcast

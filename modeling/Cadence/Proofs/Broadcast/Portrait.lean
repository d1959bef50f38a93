import Cadence.Proofs.Broadcast.Scene

/-! # Portraits

A portrait is what a scene looks like to one origin: its record, what waits for it,
what its listeners were told and the verdicts of all broadcasts. Registrations and
posted work have their places in it and not their numbers, which others use up too.
Nothing in a portrait is about other origins, and it settles as the scene does.
-/

namespace Cadence.Broadcast

/-- What an origin notices of what happens. -/
inductive Sign (κ : Type)
  /-- A listener was registered, and the origin has this delay now. -/
  | enrolled (delay : Option Span)
  /-- The registration at this place was taken back. -/
  | struck (place : Nat)
  | broadcast
  | dispatched
  | letGo
  | posted (delay : Span) (work : κ)
  /-- The work at this place was taken back. -/
  | withdrawn (place : Nat)
  /-- A drive was started that goes as far as this. -/
  | travelled (target : Span)
  | resumed
deriving DecidableEq

/-- What a scene looks like to an origin. -/
@[ext] structure Portrait (κ : Type) where
  owned : Bool := true
  /-- How far the drives on the stack go, with nothing for posted work. -/
  frames : List (Option Span) := []
  lastDispatch : Option Span := none
  delay : Option Span := none
  /-- The places of those that are registered. -/
  places : List Nat := []
  /-- How many registrations there were. -/
  enrolled : Nat := 0
  /-- How many times work was posted. -/
  posted : Nat := 0
  queue : List (Span × Option (Nat × κ)) := []
  told : List (Nat × Span) := []
  verdicts : List Verdict := []

/-- The verdict on a broadcast, after the last one that was accepted. -/
def judge (interval now : Span) (lastDispatch : Option Span) : Verdict :=
  if Agenda.clockSecs ≤ now.secs then .unreadableClock
  else if lastDispatch.any fun last => now - last < interval then .suppressed
  else .accepted

namespace Portrait

variable {κ : Type}

/-- A fan-out of the origin tells all that are registered. -/
def fanOut (now : Span) (p : Portrait κ) : Portrait κ :=
  { p with told := p.told ++ p.places.map (·, now) }

/-- What happens by itself: the drive on top comes to what waits first, or to its end. -/
def tick (p : Portrait κ) : Option (Portrait κ) :=
  match p.frames with
  | some limit :: rest =>
      match p.queue with
      | [] => some { p with frames := rest }
      | (due, work) :: queue =>
          if limit < due then some { p with frames := rest }
          else match work with
            | none => some ({ p with queue }.fanOut due)
            | some _ => some { p with queue, frames := none :: p.frames }
  | _ => none

section Ticks

variable {p : Portrait κ} {limit due : Span} {rest : List (Option Span)}
  {queue : List (Span × Option (Nat × κ))}

theorem tick_of_late (hframes : p.frames = some limit :: rest)
    (hlate : ∀ x ∈ p.queue, limit < x.1) : p.tick = some { p with frames := rest } := by
  unfold tick
  rw [hframes]
  dsimp only
  split
  next => rfl
  next hqueue => exact if_pos (hlate _ (hqueue ▸ List.mem_cons_self))

theorem tick_of_fanOut (hframes : p.frames = some limit :: rest)
    (hqueue : p.queue = (due, none) :: queue) (hdue : due ≤ limit) :
    p.tick = some ({ p with queue }.fanOut due) := by
  simp [tick, hframes, hqueue, Span.not_lt.mpr hdue]

theorem tick_of_work {work : Nat × κ} (hframes : p.frames = some limit :: rest)
    (hqueue : p.queue = (due, some work) :: queue) (hdue : due ≤ limit) :
    p.tick = some { p with queue, frames := none :: p.frames } := by
  simp [tick, hframes, hqueue, Span.not_lt.mpr hdue]

end Ticks

/-- What a portrait may still do by itself, by what waits and then by its frames. -/
def load (p : Portrait κ) : Nat × Nat := (p.queue.length, p.frames.length)

theorem load_tick {p next : Portrait κ} (h : p.tick = some next) :
    Prod.Lex (· < ·) (· < ·) next.load p.load := by
  unfold tick at h
  split at h
  next limit rest hframes =>
    have hover : Prod.Lex (· < ·) (· < ·) ({ p with frames := rest } : Portrait κ).load p.load := by
      refine .right _ ?_
      rw [hframes]
      exact Nat.lt_succ_self _
    split at h
    next =>
      cases h
      exact hover
    next due work queue hqueue =>
      have hshorter : queue.length < p.queue.length := by
        rw [hqueue]
        exact Nat.lt_succ_self _
      split at h
      next =>
        cases h
        exact hover
      next =>
        cases work <;> cases h <;> exact .left _ _ hshorter
  next => cases h

/-- The portrait once nothing happens by itself any more. -/
def settle (p : Portrait κ) : Portrait κ :=
  match _htick : p.tick with
  | none => p
  | some next => settle next
termination_by p.load
decreasing_by exact load_tick _htick

theorem settle_of_tick {p next : Portrait κ} (h : p.tick = some next) :
    p.settle = next.settle := by
  rw [settle]
  split
  next hnone => cases hnone.symm.trans h
  next found hfound => cases hfound.symm.trans h; rfl

theorem settle_of_rest {p : Portrait κ} (h : p.tick = none) : p.settle = p := by
  rw [settle]
  split
  next => rfl
  next found hfound => cases hfound.symm.trans h

/-- A broadcast is judged. An accepted one schedules a fan-out if the origin has a record. -/
def broadcast (interval now : Span) (p : Portrait κ) : Portrait κ :=
  let verdict := judge interval now p.lastDispatch
  { p with
    lastDispatch := if verdict = .accepted then some now else p.lastDispatch
    queue := if verdict = .accepted then
        p.delay.elim p.queue fun delay => enqueue (now + delay, none) p.queue
      else p.queue
    verdicts := p.verdicts ++ [verdict] }

/-- A registration is taken back; the record goes with the last one. -/
def strike (place : Nat) (p : Portrait κ) : Portrait κ :=
  let places := p.places.filter (· ≠ place)
  { p with places, delay := if places = [] then none else p.delay }

/-- What a sign does to the portrait at once. -/
def heed (interval now : Span) (p : Portrait κ) : Sign κ → Portrait κ
  | .enrolled delay =>
      if p.owned then
        { p with delay, places := p.places ++ [p.enrolled], enrolled := p.enrolled + 1 }
      else p
  | .struck place => p.strike place
  | .broadcast => if p.owned then p.broadcast interval now else p
  | .dispatched => if p.owned then p.fanOut now else p
  | .letGo =>
      if p.owned then
        { p with
          owned := false
          delay := none
          places := []
          queue := p.queue.filter fun x => x.2.isSome }
      else p
  | .posted delay work =>
      { p with
        posted := p.posted + 1
        queue := enqueue (now + delay, some (p.posted, work)) p.queue }
  | .withdrawn place =>
      { p with queue := p.queue.filter fun x => x.2.map Prod.fst ≠ some place }
  | .travelled target => { p with frames := some target :: p.frames }
  | .resumed =>
      match p.frames with
      | none :: rest => { p with frames := rest }
      | _ => p

/-- What is done to the portrait at once where there is a sign, and nothing where there is none. -/
def notice (interval now : Span) (p : Portrait κ) (sign? : Option (Sign κ)) : Portrait κ :=
  sign?.elim p (p.heed interval now)

/-- The portrait after some signs with their times, once it has settled after each. -/
def follow (interval : Span) (p : Portrait κ) (signs : List (Span × Sign κ)) : Portrait κ :=
  signs.foldl (fun p x => (p.heed interval x.1 x.2).settle) p

end Portrait

/-! ## Places -/

/-- A view with the places of the work and not its numbers. -/
def placed {κ : Type} (posts : List TaskId) (seen : List (Span × Option (TaskId × κ))) :
    List (Span × Option (Nat × κ)) :=
  seen.map fun x => (x.1, x.2.map fun work => (posts.idxOf work.1, work.2))

section Places

variable {κ : Type}

theorem idxOf_append_fresh {α : Type} [DecidableEq α] {roll : List α} {x : α} (h : x ∉ roll) :
    (roll ++ [x]).idxOf x = roll.length := by
  simp [List.idxOf_append_of_notMem h]

theorem placed_append {posts : List TaskId} {seen : List (Span × Option (TaskId × κ))}
    (h : ∀ x ∈ seen, ∀ work ∈ x.2, work.1 ∈ posts) (later : List TaskId) :
    placed (posts ++ later) seen = placed posts seen := by
  refine List.map_congr_left fun x hx => ?_
  cases hwork : x.2 with
  | none => rfl
  | some work => simp [List.idxOf_append_of_mem (h x hx work hwork)]

theorem placed_enqueue (posts : List TaskId) (x : Span × Option (TaskId × κ))
    (seen : List (Span × Option (TaskId × κ))) :
    placed posts (enqueue x seen) =
      enqueue (x.1, x.2.map fun work => (posts.idxOf work.1, work.2)) (placed posts seen) := by
  simp [placed, enqueue, List.filter_map, Function.comp_def]

theorem mem_enqueue {β : Type} {x y : Span × β} {seen : List (Span × β)} :
    y ∈ enqueue x seen ↔ y = x ∨ y ∈ seen := by
  unfold enqueue
  rw [List.mem_append, List.mem_cons, List.mem_filter, List.mem_filter]
  by_cases hlater : x.1 < y.1 <;> simp [hlater, or_comm]

/-- What is told to the listeners of one origin is news to that origin only. -/
theorem update_append {α : Type} (told : Origin → List α) (other origin : Origin)
    (news : List α) :
    Function.update told other (told other ++ news) origin =
      told origin ++ if other = origin then news else [] := by
  by_cases hother : other = origin
  · subst hother
    rw [Function.update_self, if_pos rfl]
  · rw [Function.update_of_ne (Ne.symm hother), if_neg hother, List.append_nil]

end Places

/-! ## Portraits of scenes -/

/-- The interval is this one whenever it is asked for, and has been since. -/
structure Dispatcher.Steady {ε : Type} (interval : Span) (d : Dispatcher ε) : Prop where
  source : ∀ k, d.intervals.answer k = interval
  known : ∀ found ∈ d.interval, found = interval

/-- Listeners that do not call back when they are notified. -/
def still : Reaction := fun _ _ => []

def Answer.verdict? : Answer → Option Verdict
  | .verdict found => some found
  | _ => none

/-- How far the drive of a frame goes, if it is one. -/
def Frame.limit? : Frame Agenda.Drive → Option Span
  | .travelling drive => some drive.limit
  | _ => none

/-- Frames that are there while no listener is called. -/
def Frame.IsPlain (frame : Frame Agenda.Drive) : Prop :=
  frame = .working ∨ ∃ drive, frame = .travelling drive

/-- Fan-outs that nobody reacts to tell all that are registered. -/
theorem Cell.visit_still {ε : Type} (ids : List EndpointId) (time : Span) (c : Cell ε)
    (h : ∀ id ∈ ids, id ∈ c.registered) :
    c.visit (fun _ => []) time ids = { c with told := c.told ++ ids.map (·, time) } := by
  induction ids generalizing c with
  | nil => simp [visit]
  | cons id rest ih =>
      have hlater : ∀ x ∈ rest, x ∈ (c.tell (fun _ => []) time id).registered := fun x hx =>
        h x (List.mem_cons_of_mem id hx)
      unfold visit
      rw [if_pos (h id List.mem_cons_self), ih _ hlater]
      simp [tell]

namespace Scene

variable {ε κ : Type}

/-- What a scene looks like to an origin, with its registrations and the posted work in the
order in which they came. -/
def portrait (origin : Origin) (roll : List EndpointId) (posts : List TaskId)
    (sc : Scene ε κ) : Portrait κ where
  owned := sc.session.standing = .owned
  frames := sc.session.frames.map Frame.limit?
  lastDispatch := sc.session.dispatcher.lastDispatch
  delay := sc.session.dispatcher.randomDelay origin
  places := (sc.session.dispatcher.registered origin).map fun id => roll.idxOf id
  enrolled := roll.length
  posted := posts.length
  queue := placed posts (view origin sc.session.timers.queue)
  told := (sc.told origin).map fun n => (roll.idxOf n.1, n.2)
  verdicts := sc.answers.filterMap Answer.verdict?

variable {origin : Origin} {roll : List EndpointId} {posts : List TaskId} {sc : Scene ε κ}

/-- Where only drives and posted work are on the stack, a portrait rests as its scene does. -/
theorem tick_portrait_of_rests (hrests : sc.Rests)
    (hplain : ∀ frame ∈ sc.session.frames, frame.IsPlain) :
    (sc.portrait origin roll posts).tick = none := by
  have hframes : (sc.portrait origin roll posts).frames = sc.session.frames.map Frame.limit? := rfl
  unfold Portrait.tick
  rw [hframes]
  cases hstack : sc.session.frames with
  | nil => rfl
  | cons frame rest =>
      rcases hplain frame (hstack ▸ List.mem_cons_self) with rfl | ⟨drive, rfl⟩
      · rfl
      · exact absurd hstack (hrests.drive drive rest)

/-- A fan-out that nobody reacts to changes what the listeners of its origin were told. -/
theorem fanOut_still (h : sc.session.dispatcher.Sound) (time : Span) (other : Origin) :
    let b := sc.board.fanOut (sc.heed still) time other
    b.records = sc.session.dispatcher.records ∧
      b.told = Function.update sc.told other
        (sc.told other ++ (sc.session.dispatcher.registered other).map (·, time)) := by
  intro b
  have hvisit : (sc.board.cell other).visit (sc.heed still other) time
      (sc.board.cell other).registered = _ :=
    (sc.board.cell other).visit_still _ time fun _ hid => hid
  constructor
  · refine Eq.trans ?_ (amended_lookup h.origins_nodup other)
    exact congrArg (amended _ other) (congrArg Cell.record hvisit)
  · exact congrArg (Function.update sc.told other) (congrArg Cell.told hvisit)

/-- A scene in which no listener is called, and in which everything of the origin has its
place: whoever is registered or was told, and all posted work that waits. -/
structure Posed (origin : Origin) (interval : Span) (roll : List EndpointId)
    (posts : List TaskId) (sc : Scene ε κ) : Prop where
  kempt : sc.session.Kempt
  vacated : sc.session.Vacated
  standing : sc.session.standing ≠ .orphaned
  plain : ∀ frame ∈ sc.session.frames, frame.IsPlain
  steady : sc.session.dispatcher.Steady interval
  roll_lt : ∀ id ∈ roll, id < sc.session.dispatcher.nextEndpoint
  registered : ∀ id ∈ sc.session.dispatcher.registered origin, id ∈ roll
  told : ∀ n ∈ sc.told origin, n.1 ∈ roll
  posts_lt : ∀ id ∈ posts, id < sc.session.timers.nextId
  posted : ∀ x ∈ view origin sc.session.timers.queue, ∀ work ∈ x.2, work.1 ∈ posts

variable {interval : Span}

theorem Posed.plain_cons (h : sc.Posed origin interval roll posts)
    {frame : Frame Agenda.Drive} {rest : List (Frame Agenda.Drive)}
    (hframes : sc.session.frames = frame :: rest) :
    frame.IsPlain ∧ ∀ later ∈ rest, later.IsPlain := by
  have hplain := h.plain
  rw [hframes] at hplain
  exact List.forall_mem_cons.mp hplain

/-- Whoever is told by a fan-out to all that are registered has its place. -/
theorem Posed.told_append (h : sc.Posed origin interval roll posts) (other : Origin)
    (time : Span) :
    ∀ n ∈ sc.told origin ++ if other = origin then
      (sc.session.dispatcher.registered other).map (·, time) else [], n.1 ∈ roll := by
  intro n hn
  rcases List.mem_append.mp hn with hbefore | hnew
  · exact h.told n hbefore
  · split at hnew
    next hother =>
      subst hother
      obtain ⟨id, hid, rfl⟩ := List.mem_map.mp hnew
      exact h.registered id hid
    next => cases hnew

/-- A scene stays posed as its drive goes on. -/
theorem Posed.onward (h : sc.Posed origin interval roll posts) {b : Board ε}
    {inFlight : List (Ticket × TaskId)} {timers : Agenda (Errand κ)}
    {frames : List (Frame Agenda.Drive)}
    (kempt : (sc.onward b inFlight timers frames).session.Kempt)
    (records : b.records = sc.session.dispatcher.records)
    (told : ∀ n ∈ b.told origin, n.1 ∈ roll) (nextId : timers.nextId = sc.session.timers.nextId)
    (seen : view origin timers.queue ⊆ view origin sc.session.timers.queue)
    (plain : ∀ frame ∈ frames, frame.IsPlain) :
    (sc.onward b inFlight timers frames).Posed origin interval roll posts where
  kempt := kempt
  vacated hclosed := records.trans (h.vacated hclosed)
  standing := h.standing
  plain := plain
  steady := ⟨h.steady.source, h.steady.known⟩
  roll_lt := h.roll_lt
  registered id hid := by
    rw [Dispatcher.registered_congr (d := sc.session.dispatcher) records] at hid
    exact h.registered id hid
  told := told
  posts_lt id hid := by
    simpa [Scene.onward, nextId] using h.posts_lt id hid
  posted x hx := h.posted x (seen hx)

/-- Where the records stay, a portrait changes only in what shows of the rest. -/
theorem portrait_of_records (roll : List EndpointId) (posts : List TaskId) {u : OnAgenda ε κ}
    {told : Origin → List (EndpointId × Span)} {answers : List Answer}
    (records : u.dispatcher.records = sc.session.dispatcher.records)
    (standing : u.standing = sc.session.standing) :
    ({ session := u, told, answers } : Scene ε κ).portrait origin roll posts =
      { sc.portrait origin roll posts with
        frames := u.frames.map Frame.limit?
        lastDispatch := u.dispatcher.lastDispatch
        queue := placed posts (view origin u.timers.queue)
        told := (told origin).map fun n => (roll.idxOf n.1, n.2)
        verdicts := answers.filterMap Answer.verdict? } := by
  have hdelay : u.dispatcher.randomDelay origin = sc.session.dispatcher.randomDelay origin :=
    congrArg (Option.map _) (Dispatcher.record?_congr records origin)
  have hregistered := Dispatcher.registered_congr records origin
  simp only [portrait, hdelay, hregistered, standing]

theorem portrait_onward (roll : List EndpointId) (posts : List TaskId) {b : Board ε}
    {inFlight : List (Ticket × TaskId)} {timers : Agenda (Errand κ)}
    {frames : List (Frame Agenda.Drive)} (records : b.records = sc.session.dispatcher.records) :
    (sc.onward b inFlight timers frames).portrait origin roll posts =
      { sc.portrait origin roll posts with
        frames := frames.map Frame.limit?
        queue := placed posts (view origin timers.queue)
        told := (b.told origin).map fun n => (roll.idxOf n.1, n.2) } :=
  portrait_of_records roll posts records rfl

/-- Answers have no place of their own. -/
theorem Posed.answering (h : sc.Posed origin interval roll posts) (answers : List Answer) :
    ({ sc with answers } : Scene ε κ).Posed origin interval roll posts :=
  { h with }

theorem portrait_answering (sc : Scene ε κ) (answer : Answer) :
    ({ sc with answers := sc.answers ++ [answer] } : Scene ε κ).portrait origin roll posts =
      { sc.portrait origin roll posts with
        verdicts := (sc.portrait origin roll posts).verdicts ++ answer.verdict?.toList } := by
  have hverdicts : [answer].filterMap Answer.verdict? = answer.verdict?.toList := by
    cases h : answer.verdict? <;> simp [h]
  simp [portrait, List.filterMap_append, hverdicts]

section Turns

variable {drive : Agenda.Drive} {rest : List (Frame Agenda.Drive)} {e : Entry (Errand κ)}
  {b : Agenda (Errand κ)}

theorem portrait_frames (hframes : sc.session.frames = .travelling drive :: rest) :
    (sc.portrait origin roll posts).frames = some drive.limit :: rest.map Frame.limit? :=
  congrArg (List.map Frame.limit?) hframes

/-- A drive that is over ends in the portrait, too. -/
theorem Posed.tick_idle (h : sc.Posed origin interval roll posts)
    (hframes : sc.session.frames = .travelling drive :: rest)
    (hpop : sc.session.timers.popDue drive.limit = none) :
    ∃ next, sc.tick still = some next ∧ next.Posed origin interval roll posts ∧
      (sc.portrait origin roll posts).tick = some (next.portrait origin roll posts) := by
  have htick := tick_of_idle still hframes hpop
  have hkempt := kempt_tick h.kempt htick
  obtain ⟨-, hplain⟩ := h.plain_cons hframes
  have hlate : ∀ x ∈ (sc.portrait origin roll posts).queue, drive.limit < x.1 := by
    intro x hx
    obtain ⟨y, hy, rfl⟩ := List.mem_map.mp hx
    obtain ⟨f, hf, hseen⟩ := List.mem_filterMap.mp hy
    rw [glimpse_deadline hseen]
    exact h.kempt.sound.agenda.lt_of_popDue_eq_none hpop hf
  refine ⟨_, htick, Posed.answering ?_ _, ?_⟩
  · exact h.onward ⟨hkempt.sound, hkempt.matched⟩ rfl h.told rfl (List.Subset.refl _) hplain
  · refine (Portrait.tick_of_late (portrait_frames hframes) hlate).trans (congrArg some ?_)
    refine Eq.trans ?_ (portrait_answering (sc.onward _ _ _ _) _).symm
    rw [portrait_onward roll posts rfl]
    simp only [Answer.verdict?, Option.toList_none, List.append_nil]
    rfl

/-- Posted work that comes up does so in the portrait, too. -/
theorem Posed.tick_posted (h : sc.Posed origin interval roll posts)
    (hframes : sc.session.frames = .travelling drive :: rest)
    (hpop : sc.session.timers.popDue drive.limit = some (e, b)) {work : κ}
    (htask : e.task = .posted work) :
    ∃ next, sc.tick still = some next ∧ next.Posed origin interval roll posts ∧
      (sc.portrait origin roll posts).tick = some (next.portrait origin roll posts) := by
  have htick := tick_of_posted still hframes hpop htask
  have hkempt := kempt_tick h.kempt htick
  have hview : view origin sc.session.timers.queue = _ := view_of_popDue hpop
  obtain ⟨-, hplain⟩ := h.plain_cons hframes
  obtain ⟨queue, -, hdue, rfl⟩ := Agenda.popDue_eq_some_iff.mp hpop
  rw [glimpse_of_posted htask] at hview
  refine ⟨_, htick, ?_, ?_⟩
  · refine h.onward hkempt rfl h.told rfl ?_ ?_
    · rw [hview]
      exact List.subset_cons_self _ _
    · exact List.forall_mem_cons.mpr
        ⟨.inl rfl, List.forall_mem_cons.mpr ⟨.inr ⟨_, rfl⟩, hplain⟩⟩
  · have hqueue : (sc.portrait origin roll posts).queue =
        (e.key.deadline, some (posts.idxOf e.id, work)) :: placed posts (view origin queue) :=
      congrArg (placed posts) hview
    refine (Portrait.tick_of_work (portrait_frames hframes) hqueue hdue).trans (congrArg some ?_)
    rw [portrait_onward roll posts rfl, portrait_frames hframes]
    rfl

/-- A fan-out that comes up shows in the portrait if it is for its origin. -/
theorem Posed.reaches_fanOut (h : sc.Posed origin interval roll posts)
    (hframes : sc.session.frames = .travelling drive :: rest)
    (hpop : sc.session.timers.popDue drive.limit = some (e, b)) {other : Origin} {ticket : Ticket}
    (htask : e.task = .fanOut other ticket) :
    ∃ next, Reaches still sc next ∧ next.Posed origin interval roll posts ∧
      next.session.timers.queue.length < sc.session.timers.queue.length ∧
      (if other = origin then
        (sc.portrait origin roll posts).tick = some (next.portrait origin roll posts)
      else next.portrait origin roll posts = sc.portrait origin roll posts) := by
  have hsound := h.kempt.sound
  have hreach := Scene.reaches_fanOut still hsound hframes hpop htask
  have hkempt := hreach.kempt h.kempt
  have hview : view origin sc.session.timers.queue = _ := view_of_popDue hpop
  obtain ⟨hrecords, htold⟩ := fanOut_still hsound.registry e.key.deadline other
  obtain ⟨-, hplain⟩ := h.plain_cons hframes
  obtain ⟨queue, hqueue, hdue, rfl⟩ := Agenda.popDue_eq_some_iff.mp hpop
  rw [glimpse_of_fanOut htask] at hview
  refine ⟨_, hreach, ?_, ?_, ?_⟩
  · refine h.onward hkempt hrecords ?_ rfl ?_ ?_
    · rw [htold, update_append]
      exact h.told_append other _
    · rw [hview]
      exact List.subset_append_right _ _
    · exact List.forall_mem_cons.mpr ⟨.inr ⟨_, rfl⟩, hplain⟩
  · show queue.length < _
    rw [hqueue]
    exact Nat.lt_succ_self _
  · rw [portrait_onward roll posts hrecords, htold]
    split
    next hother =>
      subst hother
      have hwaits : (sc.portrait other roll posts).queue =
          (e.key.deadline, none) :: placed posts (view other queue) := by
        refine (congrArg (placed posts) hview).trans ?_
        rw [if_pos rfl]
        rfl
      refine (Portrait.tick_of_fanOut (portrait_frames hframes) hwaits hdue).trans
        (congrArg some ?_)
      simp [Portrait.fanOut, portrait, hframes, Frame.limit?, Agenda.started]
    next hother =>
      rw [if_neg hother] at hview
      simp [portrait, hframes, hview, Frame.limit?, Agenda.started,
        Function.update_of_ne (Ne.symm hother)]

end Turns

/-- The portrait settles as its scene does. -/
theorem Posed.settle (h : sc.Posed origin interval roll posts) :
    (sc.settle still).Posed origin interval roll posts ∧
      (sc.settle still).portrait origin roll posts = (sc.portrait origin roll posts).settle := by
  induction sc using load_wf.induction with
  | _ sc ih =>
    have hrested (hrests : sc.Rests) :
        (sc.settle still).Posed origin interval roll posts ∧
          (sc.settle still).portrait origin roll posts =
            (sc.portrait origin roll posts).settle := by
      rw [settle_of_rest (tick_eq_none_iff.mpr hrests),
        Portrait.settle_of_rest (tick_portrait_of_rests hrests h.plain)]
      exact ⟨h, rfl⟩
    have hticked {next : Scene ε κ} (htick : sc.tick still = some next)
        (hnext : next.Posed origin interval roll posts)
        (hshown : (sc.portrait origin roll posts).tick =
          some (next.portrait origin roll posts)) :
        (sc.settle still).Posed origin interval roll posts ∧
          (sc.settle still).portrait origin roll posts =
            (sc.portrait origin roll posts).settle := by
      rw [settle_of_tick htick, Portrait.settle_of_tick hshown]
      exact ih next (load_tick htick) hnext
    cases hframes : sc.session.frames with
    | nil => exact hrested ⟨by simp [hframes], by simp [hframes]⟩
    | cons frame rest =>
        rcases (h.plain_cons hframes).1 with rfl | ⟨drive, rfl⟩
        · exact hrested ⟨by simp [hframes], by simp [hframes]⟩
        · cases hpop : sc.session.timers.popDue drive.limit with
          | none =>
              obtain ⟨next, htick, hnext, hshown⟩ := h.tick_idle hframes hpop
              exact hticked htick hnext hshown
          | some found =>
              obtain ⟨e, b⟩ := found
              cases htask : e.task with
              | posted work =>
                  obtain ⟨next, htick, hnext, hshown⟩ := h.tick_posted hframes hpop htask
                  exact hticked htick hnext hshown
              | fanOut other ticket =>
                  obtain ⟨next, hreach, hnext, hshorter, hshown⟩ :=
                    h.reaches_fanOut hframes hpop htask
                  obtain ⟨hposed, hsettled⟩ := ih next (.left _ _ hshorter) hnext
                  rw [hreach.settle]
                  refine ⟨hposed, hsettled.trans ?_⟩
                  split at hshown
                  next => exact (Portrait.settle_of_tick hshown).symm
                  next => rw [hshown]

end Scene

end Cadence.Broadcast

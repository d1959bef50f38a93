import Cadence.Proofs.Broadcast.Conservation
import Cadence.Proofs.Broadcast.Recreation

/-! # Views of the queue

What an origin has to wait for on an agenda is its own fan-outs and posted work. Its
view of the queue has these with their deadlines, and the work with its number, but
not the fan-outs of other origins. What is done to the queue shows in the view as if
nothing else were there: a new task comes behind whatever is not later.
-/

namespace Cadence

namespace Agenda

variable {τ : Type}

/-- A new entry comes behind those that are not later and before those that are. -/
theorem insert_eq {e : Entry τ} {queue : List (Entry τ)} (h : queue.Pairwise (·.key < ·.key))
    (horder : ∀ x ∈ queue, x.key.order < e.key.order) :
    insert e queue = queue.filter (fun x => ¬ e.key.deadline < x.key.deadline) ++
      e :: queue.filter (fun x => e.key.deadline < x.key.deadline) := by
  induction queue with
  | nil => rfl
  | cons x rest ih =>
      obtain ⟨hx, hrest⟩ := List.pairwise_cons.mp h
      have hlater : e.key < x.key ↔ e.key.deadline < x.key.deadline := by
        have hx := horder x List.mem_cons_self
        rw [Key.lt_iff]
        constructor
        · rintro (hlt | ⟨-, hlt⟩)
          · exact hlt
          · omega
        · exact .inl
      unfold insert
      by_cases hlt : e.key.deadline < x.key.deadline
      · have hall : ∀ y ∈ rest, e.key.deadline < y.key.deadline := by
          intro y hy
          exact Nat.lt_of_lt_of_le hlt (Key.deadline_le_of_lt (hx y hy))
        have hnone : rest.filter (fun y => ¬ e.key.deadline < y.key.deadline) = [] := by
          simpa using hall
        have hsome : rest.filter (fun y => e.key.deadline < y.key.deadline) = rest := by
          simpa using hall
        rw [if_pos (hlater.mpr hlt)]
        simp only [List.filter_cons, hlt, hnone, hsome, not_true, decide_true, decide_false,
          if_true, Bool.false_eq_true, if_false, List.nil_append]
      · rw [if_neg (hlater.not.mpr hlt), ih hrest fun y hy => horder y (List.mem_cons_of_mem x hy)]
        simp [hlt]

/-- Taking tasks back one after the other takes them all out of the queue. -/
theorem Sound.foldl_cancel_queue {a : Agenda τ} (h : a.Sound) {β : Type}
    (tasks : List (β × TaskId)) :
    (tasks.foldl (fun a (_, id) => a.cancel id) a).queue =
      a.queue.filter fun e => e.id ∉ tasks.map Prod.snd := by
  induction tasks generalizing a with
  | nil => simp
  | cons task rest ih =>
      rw [List.foldl_cons, ih (h.cancel task.2), h.cancel_queue, List.filter_filter]
      refine List.filter_congr fun e _ => ?_
      rw [List.map_cons, ← Bool.decide_and]
      simp only [List.mem_cons, not_or, and_comm]

theorem foldl_cancel_nextId {β : Type} (a : Agenda τ) (tasks : List (β × TaskId)) :
    (tasks.foldl (fun a (_, id) => a.cancel id) a).nextId = a.nextId := by
  induction tasks generalizing a with
  | nil => rfl
  | cons task rest ih => exact (ih _).trans (a.cancel_nextId task.2)

theorem popDue_eq_none_iff {a : Agenda τ} {limit : Span} :
    a.popDue limit = none ↔ ∀ t ∈ a.queue.head?.map (·.key.deadline), limit < t := by
  unfold popDue
  cases a.queue with
  | nil => simp
  | cons e rest => simp

end Agenda

namespace Broadcast

variable {ε κ : Type}

/-! ## Views -/

/-- What an origin sees of an entry: the deadline, and the work with its number if it is
work. -/
def glimpse (origin : Origin) (e : Entry (Errand κ)) : Option (Span × Option (TaskId × κ)) :=
  match e.task with
  | .fanOut other _ => if other = origin then some (e.key.deadline, none) else none
  | .posted work => some (e.key.deadline, some (e.id, work))

def view (origin : Origin) (queue : List (Entry (Errand κ))) :
    List (Span × Option (TaskId × κ)) :=
  queue.filterMap (glimpse origin)

/-- A view with something new in it, behind whatever is not later. -/
def enqueue {β : Type} (x : Span × β) (seen : List (Span × β)) : List (Span × β) :=
  seen.filter (fun y => ¬ x.1 < y.1) ++ x :: seen.filter fun y => x.1 < y.1

section Views

variable {origin : Origin} {a b : Agenda (Errand κ)} {e : Entry (Errand κ)}

theorem glimpse_deadline {x : Span × Option (TaskId × κ)} (h : glimpse origin e = some x) :
    x.1 = e.key.deadline := by
  unfold glimpse at h
  split at h
  next =>
    split at h
    · cases h; rfl
    · cases h
  next => cases h; rfl

/-- What is kept of the queue by deadlines is kept of the view. -/
theorem view_filter_deadline (origin : Origin) (queue : List (Entry (Errand κ)))
    (p : Span → Bool) :
    view origin (queue.filter fun e => p e.key.deadline) =
      (view origin queue).filter fun x => p x.1 := by
  unfold view
  rw [List.filterMap_filter, List.filter_filterMap]
  refine List.filterMap_congr fun e _ => ?_
  cases hseen : glimpse origin e with
  | none => simp
  | some x => simp [Option.filter, glimpse_deadline hseen]

/-- A task that an origin does not see does not show in its view. -/
theorem view_schedule_of_none {delay : Span} {task : Errand κ}
    (h : glimpse origin (a.entryFor delay task) = none) :
    view origin (a.schedule delay task).2.queue = view origin a.queue :=
  Agenda.filterMap_insert h a.queue

/-- A new task shows in the view as if nothing else were in the queue. -/
theorem view_schedule_of_some (h : a.Sound) {delay : Span} {task : Errand κ}
    {x : Span × Option (TaskId × κ)} (hx : glimpse origin (a.entryFor delay task) = some x) :
    view origin (a.schedule delay task).2.queue = enqueue x (view origin a.queue) := by
  have hqueue : (a.schedule delay task).2.queue = _ :=
    Agenda.insert_eq (e := a.entryFor delay task) h.ascending h.order_lt
  have hearlier := view_filter_deadline origin a.queue
    fun t => ¬ (a.entryFor delay task).key.deadline < t
  have hlater := view_filter_deadline origin a.queue
    fun t => (a.entryFor delay task).key.deadline < t
  unfold enqueue
  rw [hqueue, glimpse_deadline hx, ← hearlier, ← hlater]
  unfold view
  rw [List.filterMap_append, List.filterMap_cons, hx]

theorem view_of_popDue {limit : Span} (hpop : a.popDue limit = some (e, b)) :
    view origin a.queue = (glimpse origin e).toList ++ view origin b.queue :=
  Agenda.filterMap_of_popDue (glimpse origin) hpop

theorem glimpse_of_fanOut {other : Origin} {ticket : Ticket} (h : e.task = .fanOut other ticket) :
    glimpse origin e = if other = origin then some (e.key.deadline, none) else none := by
  simp [glimpse, h]

theorem glimpse_of_posted {work : κ} (h : e.task = .posted work) :
    glimpse origin e = some (e.key.deadline, some (e.id, work)) := by
  simp [glimpse, h]

/-- Work that is taken back goes out of the view by its number. -/
theorem view_withdraw (h : a.Sound) (id : TaskId) :
    view origin (withdraw a id).queue =
      (view origin a.queue).filter fun x => x.2.map Prod.fst ≠ some id := by
  unfold withdraw view
  split
  next htaken =>
    -- the number is the one of a fan-out, so no work has it
    simp only [List.any_eq_true, decide_eq_true_eq] at htaken
    obtain ⟨f, hf, rfl, hbooking⟩ := htaken
    refine (List.filter_eq_self.mpr fun x hx => ?_).symm
    obtain ⟨e, he, hseen⟩ := List.mem_filterMap.mp hx
    cases htask : e.task with
    | fanOut other ticket =>
        rw [glimpse_of_fanOut htask] at hseen
        split at hseen <;> cases hseen
        simp
    | posted work =>
        rw [glimpse_of_posted htask] at hseen
        cases hseen
        have hne : e.id ≠ f.id := by
          intro heq
          rw [← h.eq_of_id_eq he hf heq, booking?_of_posted htask] at hbooking
          cases hbooking
        simpa using hne
  next hfree =>
    rw [h.cancel_queue, List.filterMap_filter, List.filter_filterMap]
    refine List.filterMap_congr fun e he => ?_
    cases htask : e.task with
    | fanOut other ticket =>
        have hne : e.id ≠ id := by
          rintro rfl
          simp only [List.any_eq_true, decide_eq_true_eq, not_exists, not_and] at hfree
          exact hfree e he rfl (by simp [booking?_of_fanOut htask])
        rw [glimpse_of_fanOut htask]
        by_cases hother : other = origin <;> simp [hne, hother, Option.filter]
    | posted work =>
        rw [glimpse_of_posted htask]
        by_cases hid : e.id = id <;> simp [hid, Option.filter]

/-- Some origin sees an entry. -/
theorem exists_glimpse (e : Entry (Errand κ)) : ∃ origin x, glimpse origin e = some x := by
  cases htask : e.task with
  | fanOut origin ticket => exact ⟨origin, _, (glimpse_of_fanOut htask).trans (if_pos rfl)⟩
  | posted work => exact ⟨default, _, glimpse_of_posted htask⟩

/-- Nothing that is seen is due before the first entry. -/
theorem deadline_le_of_mem_view (h : a.Sound) {rest : List (Entry (Errand κ))}
    (hqueue : a.queue = e :: rest) {x : Span × Option (TaskId × κ)}
    (hx : x ∈ view origin a.queue) : e.key.deadline ≤ x.1 := by
  obtain ⟨f, hf, hseen⟩ := List.mem_filterMap.mp hx
  have hascending := h.ascending
  rw [hqueue] at hf hascending
  rw [glimpse_deadline hseen]
  rcases List.mem_cons.mp hf with rfl | hf
  · exact Span.le_refl _
  · exact Key.deadline_le_of_lt ((List.pairwise_cons.mp hascending).1 f hf)

/-- Nothing is due before what comes first on an agenda on which the same is seen. -/
theorem deadline_le_of_seen (h : a.Sound) {rest : List (Entry (Errand κ))}
    (hqueue : a.queue = e :: rest)
    (hseen : ∀ origin, view origin b.queue = view origin a.queue) :
    ∀ f ∈ b.queue, e.key.deadline ≤ f.key.deadline := by
  intro f hf
  obtain ⟨origin, x, hx⟩ := exists_glimpse f
  have hmem : x ∈ view origin b.queue := List.mem_filterMap.mpr ⟨f, hf, hx⟩
  rw [← glimpse_deadline hx]
  exact deadline_le_of_mem_view h hqueue (hseen origin ▸ hmem)

/-- Where all origins see the same, the first entries are due at the same time. -/
theorem head_deadline_eq (h : a.Sound) (hb : b.Sound)
    (hseen : ∀ origin, view origin b.queue = view origin a.queue) :
    b.queue.head?.map (·.key.deadline) = a.queue.head?.map (·.key.deadline) := by
  have hmem {a : Agenda (Errand κ)} {e : Entry (Errand κ)} {rest : List (Entry (Errand κ))}
      (hqueue : a.queue = e :: rest) : ∃ origin x, x ∈ view origin a.queue := by
    obtain ⟨origin, x, hx⟩ := exists_glimpse e
    refine ⟨origin, x, ?_⟩
    rw [hqueue]
    exact List.mem_filterMap.mpr ⟨e, List.mem_cons_self, hx⟩
  cases ha : a.queue with
  | nil =>
      cases hb' : b.queue with
      | nil => rfl
      | cons f later =>
          obtain ⟨origin, x, hx⟩ := hmem hb'
          rw [hseen, ha] at hx
          cases hx
  | cons e rest =>
      cases hb' : b.queue with
      | nil =>
          obtain ⟨origin, x, hx⟩ := hmem ha
          rw [← hseen, hb'] at hx
          cases hx
      | cons f later =>
          have hge := deadline_le_of_seen h ha hseen f (hb' ▸ List.mem_cons_self)
          have hle := deadline_le_of_seen hb hb' (fun origin => (hseen origin).symm) e
            (ha ▸ List.mem_cons_self)
          exact congrArg some (Span.le_antisymm hle hge)

/-! ## Fan-outs that are scheduled together -/

/-- What scheduling a fan-out for each of some origins comes to. -/
structure Announced (d : Dispatcher ε) (a : Agenda (Errand κ)) (origins : List Origin)
    (d' : Dispatcher ε) (a' : Agenda (Errand κ)) : Prop where
  dispatcher : ∃ given, given.length = origins.length ∧
    d' = { d with
      nextTicket := d.nextTicket + origins.length
      inFlight := d.inFlight ++ given }
  elapsed : a'.elapsed = a.elapsed
  nextId : a'.nextId = a.nextId + origins.length
  sound : a'.Sound
  seen : ∀ origin, view origin a'.queue =
    if origin ∈ origins then
      enqueue (a.elapsed + (d.randomDelay origin).getD .zero, none) (view origin a.queue)
    else view origin a.queue

theorem announced_foldl {d : Dispatcher ε} (h : a.Sound) {origins : List Origin}
    (hnodup : origins.Nodup) (hrecords : ∀ o ∈ origins, d.record? o ≠ none) :
    Announced d a origins (origins.foldl Dispatcher.scheduleFanOut (d, a)).1
      (origins.foldl Dispatcher.scheduleFanOut (d, a)).2 := by
  induction origins generalizing d a with
  | nil => exact ⟨⟨[], by simp⟩, rfl, rfl, h, by simp⟩
  | cons o rest ih =>
      obtain ⟨ho, hrest⟩ := List.nodup_cons.mp hnodup
      obtain ⟨record, hrecord⟩ := Option.ne_none_iff_exists'.mp (hrecords o List.mem_cons_self)
      rw [List.foldl_cons, scheduleFanOut_of_record hrecord]
      have hlater := ih
        (d := { d with
          nextTicket := d.nextTicket + 1
          inFlight := d.inFlight ++ [(d.nextTicket, a.nextId)] })
        (h.schedule record.delay (.fanOut o d.nextTicket)) hrest
        fun x hx => hrecords x (List.mem_cons_of_mem o hx)
      refine ⟨?_, hlater.elapsed, ?_, hlater.sound, fun origin => ?_⟩
      · obtain ⟨given, hgiven, hd⟩ := hlater.dispatcher
        refine ⟨(d.nextTicket, a.nextId) :: given, by simp [hgiven], ?_⟩
        rw [hd]
        simp [Nat.add_assoc, Nat.add_comm 1]
      · rw [hlater.nextId]
        simp [Agenda.schedule, Nat.add_assoc, Nat.add_comm 1]
      · rw [hlater.seen origin]
        by_cases horigin : origin = o
        · subst horigin
          have hseen : glimpse origin (a.entryFor record.delay (.fanOut origin d.nextTicket)) =
              some (a.elapsed + record.delay, none) := by
            simp [glimpse, Agenda.entryFor]
          rw [if_neg ho, if_pos List.mem_cons_self, view_schedule_of_some h hseen]
          simp [Dispatcher.randomDelay, hrecord]
        · have hunseen :
              glimpse origin (a.entryFor record.delay (.fanOut o d.nextTicket)) = none := by
            simp [glimpse, Agenda.entryFor, Ne.symm horigin]
          rw [view_schedule_of_none hunseen]
          simp only [List.mem_cons, horigin, false_or]
          rfl

/-- An accepted broadcast schedules a fan-out for each record. -/
theorem announced_broadcast {d : Dispatcher ε} (hd : d.Sound) (ha : a.Sound) (route : Route)
    (now : Span) :
    let origins := route.visit (d.resolveInterval.2.1.records.map Prod.fst)
    let state := origins.foldl Dispatcher.scheduleFanOut (d.resolveInterval.2.1.accepting now, a)
    Announced (d.resolveInterval.2.1.accepting now) a origins state.1 state.2 := by
  intro origins state
  have hvisit := route.perm (d.resolveInterval.2.1.records.map Prod.fst)
  have hnodup : (d.resolveInterval.2.1.records.map Prod.fst).Nodup :=
    d.resolveInterval_kept.records ▸ hd.origins_nodup
  exact announced_foldl ha (hvisit.nodup_iff.mpr hnodup) fun o ho =>
    Dispatcher.record?_ne_none.mpr (hvisit.mem_iff.mp ho)

end Views

/-! ## Sessions whose books are in order -/

namespace Session

/-- A sound agenda, and a dispatcher that has the tickets of all its fan-outs that wait. -/
structure Tidy (s : OnAgenda ε κ) : Prop where
  agenda : s.timers.Sound
  matched : Matched s.dispatcher s.timers

variable {s u : OnAgenda ε κ}

theorem Tidy.congr (h : s.Tidy) (hinFlight : u.dispatcher.inFlight = s.dispatcher.inFlight)
    (htimers : u.timers = s.timers) : u.Tidy := by
  refine ⟨htimers ▸ h.agenda, ?_⟩
  unfold Matched
  rw [hinFlight, htimers]
  exact h.matched

/-- A dispatcher that goes away takes all its fan-outs with it. -/
theorem Tidy.queue_close (h : s.Tidy) :
    s.close.1.timers.queue = s.timers.queue.filter fun e => (booking? e).isNone := by
  refine (h.agenda.foldl_cancel_queue s.dispatcher.inFlight).trans
    (List.filter_congr fun e he => ?_)
  have hslots : e.id ∈ s.dispatcher.inFlight.map Prod.snd ↔
      ∃ ticket, (ticket, e.id) ∈ slots s.timers := by
    rw [(h.matched.map Prod.snd).mem_iff]
    simp
  cases htask : e.task with
  | fanOut origin ticket =>
      have hin : e.id ∈ s.dispatcher.inFlight.map Prod.snd :=
        hslots.mpr ⟨ticket, mem_slots.mpr ⟨e, he, rfl, origin, htask⟩⟩
      simp [booking?_of_fanOut htask, hin]
  | posted work =>
      have hout : e.id ∉ s.dispatcher.inFlight.map Prod.snd := by
        intro hin
        obtain ⟨ticket, hslot⟩ := hslots.mp hin
        obtain ⟨f, hf, hid, origin, hfanOut⟩ := mem_slots.mp hslot
        rw [h.agenda.eq_of_id_eq hf he hid, htask] at hfanOut
        cases hfanOut
      simp [booking?_of_posted htask, hout]

/-- Of a dispatcher that has gone away nothing is seen any more but posted work. -/
theorem Tidy.view_close (h : s.Tidy) (origin : Origin) :
    view origin s.close.1.timers.queue =
      (view origin s.timers.queue).filter fun x => x.2.isSome := by
  unfold view
  rw [h.queue_close, List.filterMap_filter, List.filter_filterMap]
  refine List.filterMap_congr fun e _ => ?_
  cases htask : e.task with
  | fanOut other ticket =>
      by_cases hother : other = origin <;>
        simp [glimpse_of_fanOut htask, booking?_of_fanOut htask, hother, Option.filter]
  | posted work => simp [glimpse_of_posted htask, booking?_of_posted htask, Option.filter]

theorem Tidy.close (h : s.Tidy) : s.close.1.Tidy := by
  have hslots : slots s.close.1.timers = [] := by
    unfold slots
    rw [h.queue_close, List.filterMap_filter]
    refine List.filterMap_eq_nil_iff.mpr fun e _ => ?_
    cases hbooking : booking? e <;> simp [slot?, hbooking]
  refine ⟨(sound_foldl_cancel h.agenda s.dispatcher.inFlight).1, ?_⟩
  unfold Matched
  rw [hslots]
  exact List.Perm.refl _

theorem Tidy.answer (h : u.Tidy) (notes : List Note) (answer : Answer) :
    (u.answer notes answer : Result ε κ).session.Tidy := by
  unfold Session.answer
  split
  next => exact h.close
  next => exact h

theorem Tidy.fan (h : u.Tidy) (notes : List Note) (entrance : Entrance) (origin : Origin)
    (ids : List EndpointId) : (u.fan notes entrance origin ids : Result ε κ).session.Tidy := by
  unfold Session.fan
  split
  next => exact h.congr rfl rfl
  next =>
    cases entrance with
    | request => exact h.answer notes .done
    | task _ => exact h

/-- A fan-out that comes up turns to whoever is registered for its origin. -/
theorem proceed_of_fanOut {drive : Agenda.Drive} {rest : List (Frame Agenda.Drive)}
    {e : Entry (Errand κ)} {b : Agenda (Errand κ)} {origin : Origin} {ticket : Ticket}
    (hframes : s.frames = .travelling drive :: rest)
    (hpop : s.timers.popDue drive.limit = some (e, b)) (htask : e.task = .fanOut origin ticket) :
    ∃ notes, (s.proceed : Result ε κ) =
      { s.opened drive rest e b with
        dispatcher := (s.dispatcher.startFanOut origin (some ticket)).2.1 }.fan notes (.task ticket)
          origin (s.dispatcher.registered origin) := by
  have hfires : s.Fires (.move .straight .proceed) ticket origin :=
    ⟨.straight, drive, rest, e, b, rfl, hframes, hpop, htask⟩
  obtain ⟨drive', rest', e', b', notes, hframes', hpop', _, hact⟩ := hfires.act_eq
  cases hframes.symm.trans hframes'
  cases hpop.symm.trans hpop'
  obtain ⟨logged, hfan⟩ := (s.opened drive rest e b).fanOut_eq (κ := κ) notes (.task ticket) origin
  exact ⟨logged, hact.trans hfan⟩

/-- Posted work that comes up is for somebody outside to do. -/
theorem proceed_of_posted {drive : Agenda.Drive} {rest : List (Frame Agenda.Drive)}
    {e : Entry (Errand κ)} {b : Agenda (Errand κ)} {work : κ}
    (hframes : s.frames = .travelling drive :: rest)
    (hpop : s.timers.popDue drive.limit = some (e, b)) (htask : e.task = .posted work) :
    ∃ notes, (s.proceed : Result ε κ) =
      { session :=
          { s.opened drive rest e b with
            frames := .working :: (s.opened drive rest e b).frames }
        notes
        signal := .called (.work work) } := by
  have hturn : Timeline.turn s.timers drive = _ := Agenda.turn_of_popDue_eq_some hpop
  unfold Session.proceed
  rw [hframes]
  dsimp only
  rw [hturn, htask]
  exact ⟨_, rfl⟩

/-- A drive ends when nothing is due any more. -/
theorem proceed_of_idle {drive : Agenda.Drive} {rest : List (Frame Agenda.Drive)}
    (hframes : s.frames = .travelling drive :: rest)
    (hpop : s.timers.popDue drive.limit = none) :
    (s.proceed : Result ε κ) =
      { session := { s with timers := s.timers.settled drive, frames := rest }
        signal := .answered (.arrived drive.arrival) } := by
  have hturn : Timeline.turn s.timers drive = _ := Agenda.turn_of_popDue_eq_none hpop
  unfold Session.proceed
  rw [hframes]
  dsimp only
  rw [hturn]

/-- Nothing goes on by itself where no drive is on top. -/
theorem proceed_of_rest (hrest : ∀ drive rest, s.frames ≠ .travelling drive :: rest) :
    (s.proceed : Result ε κ) = { session := s } := by
  unfold proceed
  split
  next drive rest hframes => exact absurd hframes (hrest drive rest)
  next => rfl

/-- A sound session whose dispatcher's books are in order. -/
structure Kempt (s : OnAgenda ε κ) : Prop where
  sound : s.Sound
  matched : Matched s.dispatcher s.timers

theorem Kempt.tidy (h : s.Kempt) : s.Tidy := ⟨h.sound.agenda, h.matched⟩

theorem Kempt.tidy_proceed (h : s.Kempt) : (s.proceed : Result ε κ).session.Tidy := by
  have hnodup := (List.nodup_append.mp h.sound.tickets_nodup).1
  by_cases hdriven : ∃ drive rest, s.frames = .travelling drive :: rest
  · obtain ⟨drive, rest, hframes⟩ := hdriven
    cases hpop : s.timers.popDue drive.limit with
    | some found =>
        obtain ⟨e, b⟩ := found
        have hagenda : (b.started e).Sound := h.sound.agenda.started hpop
        cases htask : e.task with
        | fanOut origin ticket =>
            obtain ⟨hmatched, -⟩ := h.matched.eraseP hnodup hpop htask
            rw [← s.dispatcher.startFanOut_inFlight origin ticket] at hmatched
            obtain ⟨notes, hproceed⟩ := proceed_of_fanOut hframes hpop htask
            rw [hproceed]
            refine Tidy.fan ?_ _ _ _ _
            exact ⟨hagenda, hmatched⟩
        | posted work =>
            have hslots := slots_of_popDue hpop
            rw [slot?_of_posted htask] at hslots
            obtain ⟨notes, hproceed⟩ := proceed_of_posted hframes hpop htask
            rw [hproceed]
            exact ⟨hagenda, h.matched.trans (.of_eq hslots)⟩
    | none =>
        have haimed := h.sound.aimed drive (hframes ▸ List.mem_cons_self)
        rw [proceed_of_idle hframes hpop]
        exact ⟨h.sound.agenda.settled haimed hpop, h.matched⟩
  · rw [proceed_of_rest fun drive rest hframes => hdriven ⟨drive, rest, hframes⟩]
    exact h.tidy

theorem Tidy.broadcast (h : s.Tidy) (route : Route) (now : Option Span) :
    let out := s.dispatcher.broadcast route.visit s.timers now
    Tidy { s with dispatcher := out.2.1, timers := out.2.2.1 } := by
  have hresolved := s.dispatcher.resolveInterval_settled.matched h.matched
  have hkept := s.dispatcher.resolveInterval_kept
  cases now with
  | none => exact ⟨h.agenda, hresolved⟩
  | some now =>
      by_cases hearly :
          s.dispatcher.resolveInterval.2.1.debounced s.dispatcher.resolveInterval.1 now
      · rw [s.dispatcher.broadcast_of_early route.visit s.timers hearly]
        exact ⟨h.agenda, hresolved⟩
      · rw [s.dispatcher.broadcast_of_ready route.visit s.timers hearly]
        have haccepting : s.dispatcher.Kept (s.dispatcher.resolveInterval.2.1.accepting now) :=
          ⟨hkept.records, hkept.nextEndpoint, hkept.nextTicket⟩
        refine ⟨(scattered_visit haccepting route s.timers).sound h.agenda, ?_⟩
        refine (@Matched.accept ε κ s.dispatcher _ s.timers _ h.matched route now ?_).1
        rw [← hkept.records]

theorem Kempt.tidy_act (h : s.Kempt) (deed : Deed ε κ) : (s.act deed).session.Tidy := by
  have htidy := h.tidy
  cases deed with
  | post delay work =>
      refine ⟨h.sound.agenda.schedule delay (.posted work), ?_⟩
      exact h.matched.trans (slots_schedule s.timers delay (.posted work)).symm
  | move route m =>
      unfold act perform
      dsimp only
      split
      next => exact htidy
      next =>
        cases m with
        | add origin endpoint =>
            exact htidy.congr (s.dispatcher.add_settled origin endpoint).inFlight rfl
        | broadcast =>
            exact (Tidy.broadcast htidy route (Timeline.clock Agenda.Drive s.timers)).answer _ _
        | dispatch origin =>
            obtain ⟨logged, hfan⟩ := s.fanOut_eq (κ := κ) [] .request origin
            dsimp only
            rw [hfan]
            refine Tidy.fan ?_ _ _ _ _
            exact htidy.congr (s.dispatcher.startFanOut_request origin).1 rfl
        | remove r =>
            refine Tidy.answer ?_ _ _
            exact htidy.congr (s.dispatcher.remove_settled r).inFlight rfl
        | resolve =>
            refine Tidy.answer ?_ _ _
            exact htidy.congr s.dispatcher.resolveInterval_settled.inFlight rfl
        | disconnect r => exact htidy.congr (s.dispatcher.remove_settled r).inFlight rfl
        | letGo =>
            dsimp only
            unfold letGo
            split
            next => exact htidy
            next =>
              split
              next => exact htidy.congr rfl rfl
              next => exact htidy.close
        | travel t =>
            dsimp only
            unfold travel
            split
            next => exact htidy.congr rfl rfl
            next => exact htidy
        | resume =>
            dsimp only
            unfold resume
            split
            next =>
              refine Tidy.fan ?_ _ _ _ _
              exact htidy.congr rfl rfl
            next =>
              refine Tidy.answer ?_ _ _
              exact htidy.congr rfl rfl
            next => exact htidy.congr rfl rfl
            next => exact htidy
        | proceed => exact h.tidy_proceed

theorem Kempt.act (h : s.Kempt) (deed : Deed ε κ) : (s.act deed).session.Kempt :=
  ⟨h.sound.act deed, (h.tidy_act deed).matched⟩

/-- Whatever happens, the books stay in order. -/
theorem Kempt.undergo (h : s.Kempt) (happening : Happening ε κ) :
    (s.undergo happening).session.Kempt := by
  cases happening with
  | deed deed => exact h.act deed
  | withdraw id =>
      refine ⟨h.sound.undergo (.withdraw id), ?_⟩
      exact h.matched.trans (.of_eq (slots_withdraw h.sound.agenda id).symm)

theorem kempt_fresh (intervals : IntervalSource) (delays : DelaySource) :
    (fresh intervals delays : OnAgenda ε κ).Kempt :=
  ⟨sound_fresh intervals delays, List.Perm.refl _⟩

end Session

end Broadcast

end Cadence

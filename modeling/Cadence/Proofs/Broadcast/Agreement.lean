import Cadence.Proofs.Broadcast.Scene

/-! # Agreement of sessions

Two sessions agree when they differ at most in the order of what waits for the same
time, in the tickets of fan-outs and in the numbers that these wait under. Every
origin then has the same view of both queues, and the dispatchers differ in nothing but
what they have in flight. Whatever happens to both, they go on to agree, in whichever
orders they go through their records.
-/

namespace Cadence.Broadcast

namespace Dispatcher

variable {ε : Type}

/-- A dispatcher with other tickets in flight. -/
def flying (d : Dispatcher ε) (inFlight : List (Ticket × TaskId)) : Dispatcher ε :=
  { d with inFlight }

variable (d : Dispatcher ε) (f : List (Ticket × TaskId))

theorem resolveInterval_flying :
    (d.flying f).resolveInterval =
      (d.resolveInterval.1, d.resolveInterval.2.1.flying f, d.resolveInterval.2.2) := by
  unfold resolveInterval
  cases hinterval : d.interval <;> simp [flying, hinterval]

theorem ensureRecord_flying (origin : Origin) :
    (d.flying f).ensureRecord origin =
      ((d.ensureRecord origin).1.flying f, (d.ensureRecord origin).2) := by
  have hrecord : (d.flying f).record? origin = d.record? origin := rfl
  unfold ensureRecord
  rw [hrecord, resolveInterval_flying]
  split <;> rfl

theorem add_flying (origin : Origin) (endpoint : ε) :
    (d.flying f).add origin endpoint =
      ((d.add origin endpoint).1, (d.add origin endpoint).2.1.flying f,
        (d.add origin endpoint).2.2) := by
  have hensure := ensureRecord_flying { d with nextEndpoint := d.nextEndpoint + 1 } f origin
  unfold flying at hensure
  simp [add, flying, hensure, updateRecord]

theorem remove_flying (r : Registration) :
    (d.flying f).remove r = ((d.remove r).1.flying f, (d.remove r).2) := by
  have hlistener : (d.flying f).listener? r.origin r.id = d.listener? r.origin r.id := rfl
  unfold remove
  rw [hlistener]
  split
  next => rfl
  next =>
    have hrecord (g : Record ε → Record ε) :
        ((d.flying f).updateRecord r.origin g).record? r.origin =
          (d.updateRecord r.origin g).record? r.origin := rfl
    dsimp only
    rw [hrecord]
    split <;> rfl

theorem startFanOut_flying (origin : Origin) :
    (d.flying f).startFanOut origin none =
      ((d.startFanOut origin none).1, (d.startFanOut origin none).2.1.flying f,
        (d.startFanOut origin none).2.2) := by
  have hrecord : (d.flying f).record? origin = d.record? origin := rfl
  unfold startFanOut
  dsimp only
  rw [hrecord]
  cases d.record? origin <;> rfl

theorem nextListener_flying (origin : Origin) (ids : List EndpointId) :
    (d.flying f).nextListener origin ids = d.nextListener origin ids := by
  induction ids with
  | nil => rfl
  | cons id rest ih =>
      have hlistener : (d.flying f).listener? origin id = d.listener? origin id := rfl
      simp [nextListener, hlistener, ih]

end Dispatcher

variable {ε κ : Type}

/-! ## What agrees -/

/-- Two sessions that differ at most in the order of what waits for the same time, and in
the tickets and numbers of fan-outs. -/
structure Session.Agrees (s s' : OnAgenda ε κ) : Prop where
  standing : s'.standing = s.standing
  frames : s'.frames = s.frames
  dispatcher : s'.dispatcher = s.dispatcher.flying s'.dispatcher.inFlight
  pending : s'.dispatcher.inFlight.length = s.dispatcher.inFlight.length
  elapsed : s'.timers.elapsed = s.timers.elapsed
  nextId : s'.timers.nextId = s.timers.nextId
  seen : ∀ origin, view origin s'.timers.queue = view origin s.timers.queue

/-- Outcomes that signal the same, with sessions that agree. -/
structure Outcome.Agrees (out out' : Result ε κ) : Prop where
  session : out.session.Agrees out'.session
  signal : out'.signal = out.signal

/-- Scenes whose sessions agree and in which the same was seen. -/
structure Scene.Agrees (sc sc' : Scene ε κ) : Prop where
  session : sc.session.Agrees sc'.session
  told : sc'.told = sc.told
  answers : sc'.answers = sc.answers

theorem Scene.Agrees.absorb {sc sc' : Scene ε κ} {out out' : Result ε κ} (h : sc.Agrees sc')
    (hout : out.Agrees out') : (sc.absorb out).Agrees (sc'.absorb out') := by
  have hnotification : out'.notification? = out.notification? := by
    unfold Outcome.notification?
    rw [hout.signal, hout.session.frames, hout.session.elapsed]
  have hanswer : out'.answer? = out.answer? := by
    unfold Outcome.answer?
    rw [hout.signal]
  refine ⟨hout.session, ?_, ?_⟩
  · simp [Scene.absorb, hnotification, h.told]
  · simp [Scene.absorb, hanswer, h.answers]

namespace Session

variable {s s' u u' : OnAgenda ε κ}

theorem Agrees.refl (s : OnAgenda ε κ) : s.Agrees s :=
  ⟨rfl, rfl, rfl, rfl, rfl, rfl, fun _ => rfl⟩

/-- What is done to the dispatcher, and not to what it has in flight or to the agenda,
leaves two sessions in agreement. -/
theorem Agrees.congr (h : s.Agrees s') (hinFlight : u.dispatcher.inFlight = s.dispatcher.inFlight)
    (hdispatcher : u'.dispatcher = u.dispatcher.flying s'.dispatcher.inFlight)
    (htimers : u.timers = s.timers) (htimers' : u'.timers = s'.timers)
    (hframes : u'.frames = u.frames) (hstanding : u'.standing = u.standing) : u.Agrees u' := by
  have hflying : u'.dispatcher.inFlight = s'.dispatcher.inFlight := by
    rw [hdispatcher]
    rfl
  constructor
  case standing => exact hstanding
  case frames => exact hframes
  case dispatcher => rw [hflying, hdispatcher]
  case pending => rw [hflying, hinFlight, h.pending]
  case elapsed => rw [htimers, htimers', h.elapsed]
  case nextId => rw [htimers, htimers', h.nextId]
  case seen => rw [htimers, htimers']; exact h.seen

/-! ## Answers and fan-outs -/

theorem Agrees.close (h : u.Agrees u') (ht : u.Tidy) (ht' : u'.Tidy) :
    u.close.1.Agrees u'.close.1 := by
  have hd := h.dispatcher
  constructor
  case standing => rfl
  case frames => exact h.frames
  case dispatcher =>
    simp only [Session.close, Dispatcher.close]
    rw [hd]
    rfl
  case pending => rfl
  case elapsed =>
    have hu := (sound_foldl_cancel ht.agenda u.dispatcher.inFlight).2.2
    have hu' := (sound_foldl_cancel ht'.agenda u'.dispatcher.inFlight).2.2
    exact hu'.trans (h.elapsed.trans hu.symm)
  case nextId =>
    have hu := u.timers.foldl_cancel_nextId u.dispatcher.inFlight
    have hu' := u'.timers.foldl_cancel_nextId u'.dispatcher.inFlight
    exact hu'.trans (h.nextId.trans hu.symm)
  case seen =>
    intro origin
    rw [ht.view_close, ht'.view_close, h.seen]

theorem Agrees.answer (h : u.Agrees u') (ht : u.Tidy) (ht' : u'.Tidy) (notes notes' : List Note)
    (answer : Answer) :
    (u.answer notes answer : Result ε κ).Agrees (u'.answer notes' answer) := by
  have hclosing : (u'.standing = .orphaned ∧ ¬ u'.busy) ↔ (u.standing = .orphaned ∧ ¬ u.busy) := by
    unfold busy
    rw [h.standing, h.frames]
  unfold Session.answer
  by_cases hlast : u.standing = .orphaned ∧ ¬ u.busy
  · rw [if_pos hlast, if_pos (hclosing.mpr hlast)]
    exact ⟨h.close ht ht', rfl⟩
  · rw [if_neg hlast, if_neg (hclosing.not.mpr hlast)]
    exact ⟨h, rfl⟩

theorem Agrees.fan (h : u.Agrees u') (ht : u.Tidy) (ht' : u'.Tidy) (notes notes' : List Note)
    (entrance : Entrance) (origin : Origin) (ids : List EndpointId) :
    (u.fan notes entrance origin ids : Result ε κ).Agrees
      (u'.fan notes' entrance origin ids) := by
  have hnext : u'.dispatcher.nextListener origin ids = u.dispatcher.nextListener origin ids := by
    rw [h.dispatcher, Dispatcher.nextListener_flying]
  unfold Session.fan
  rw [hnext]
  split
  next id endpoint later _ =>
    refine ⟨h.congr rfl ?_ rfl rfl ?_ h.standing, rfl⟩
    · rw [h.dispatcher]
      rfl
    · simp [h.frames]
  next =>
    cases entrance with
    | request => exact h.answer ht ht' notes notes' .done
    | task ticket => exact ⟨h, rfl⟩

/-! ## Broadcasts -/

/-- Fan-outs that are scheduled in two orders leave two sessions in agreement. -/
theorem Agrees.announced (h : s.Agrees s') {d d1 d1' : Dispatcher ε} {a1 a1' : Agenda (Errand κ)}
    {origins origins' : List Origin} (horigins : origins'.Perm origins)
    (hinFlight : d.inFlight = s.dispatcher.inFlight)
    (ha : Announced d s.timers origins d1 a1)
    (ha' : Announced (d.flying s'.dispatcher.inFlight) s'.timers origins' d1' a1') :
    Agrees { s with dispatcher := d1, timers := a1 }
      { s' with dispatcher := d1', timers := a1' } := by
  obtain ⟨given, hgiven, rfl⟩ := ha.dispatcher
  obtain ⟨given', hgiven', rfl⟩ := ha'.dispatcher
  have hlength := horigins.length_eq
  constructor
  case standing => exact h.standing
  case frames => exact h.frames
  case dispatcher => simp [Dispatcher.flying, hlength]
  case pending => simp [Dispatcher.flying, hgiven, hgiven', hlength, hinFlight, h.pending]
  case elapsed => exact ha'.elapsed.trans (h.elapsed.trans ha.elapsed.symm)
  case nextId =>
    refine ha'.nextId.trans ?_
    rw [h.nextId, hlength]
    exact ha.nextId.symm
  case seen =>
    intro origin
    have hdelay : (d.flying s'.dispatcher.inFlight).randomDelay origin = d.randomDelay origin := rfl
    refine (ha'.seen origin).trans (Eq.trans ?_ (ha.seen origin).symm)
    simp only [horigins.mem_iff, h.elapsed, h.seen, hdelay]

theorem Agrees.broadcast (h : s.Agrees s') (hk : s.Kempt) (hk' : s'.Kempt)
    (route route' : Route) :
    (s.broadcast route.visit : Result ε κ).Agrees (s'.broadcast route'.visit) := by
  have hclock : Timeline.clock Agenda.Drive s'.timers = Timeline.clock Agenda.Drive s.timers := by
    show s'.timers.clock = s.timers.clock
    unfold Agenda.clock
    rw [h.elapsed]
  have hstate (now : Option Span) :
      let out := s.dispatcher.broadcast route.visit s.timers now
      let out' := s'.dispatcher.broadcast route'.visit s'.timers now
      out'.1 = out.1 ∧ Agrees { s with dispatcher := out.2.1, timers := out.2.2.1 }
        { s' with dispatcher := out'.2.1, timers := out'.2.2.1 } := by
    have hsettled := s.dispatcher.resolveInterval_settled
    have hresolve := s.dispatcher.resolveInterval_flying s'.dispatcher.inFlight
    rw [← h.dispatcher] at hresolve
    cases now with
    | none =>
        refine ⟨rfl, h.congr hsettled.inFlight ?_ rfl rfl h.frames h.standing⟩
        exact congrArg (·.2.1) hresolve
    | some now =>
        have hdebounced : s'.dispatcher.resolveInterval.2.1.debounced
            s'.dispatcher.resolveInterval.1 now =
              s.dispatcher.resolveInterval.2.1.debounced s.dispatcher.resolveInterval.1 now := by
          rw [hresolve]
          rfl
        by_cases hearly : s.dispatcher.resolveInterval.2.1.debounced
            s.dispatcher.resolveInterval.1 now
        · rw [s.dispatcher.broadcast_of_early _ _ hearly,
            s'.dispatcher.broadcast_of_early _ _ (hdebounced.trans hearly)]
          refine ⟨rfl, h.congr hsettled.inFlight ?_ rfl rfl h.frames h.standing⟩
          rw [hresolve]
          rfl
        · rw [s.dispatcher.broadcast_of_ready _ _ hearly,
            s'.dispatcher.broadcast_of_ready _ _ (hdebounced ▸ hearly), hresolve]
          have hvisit := route.perm (s.dispatcher.resolveInterval.2.1.records.map Prod.fst)
          have hvisit' := route'.perm (s.dispatcher.resolveInterval.2.1.records.map Prod.fst)
          have hannounced := announced_broadcast hk.sound.registry hk.sound.agenda route now
          have hannounced' := announced_broadcast hk'.sound.registry hk'.sound.agenda route' now
          rw [hresolve] at hannounced'
          refine ⟨rfl, ?_⟩
          exact h.announced (d := s.dispatcher.resolveInterval.2.1.accepting now)
            (hvisit'.trans hvisit.symm) hsettled.inFlight hannounced hannounced'
  obtain ⟨hverdict, hagrees⟩ := hstate (Timeline.clock Agenda.Drive s.timers)
  unfold Session.broadcast
  rw [hclock]
  dsimp only
  rw [hverdict]
  exact hagrees.answer (Tidy.broadcast hk.tidy route _) (Tidy.broadcast hk'.tidy route' _) _ _ _

/-! ## Whatever happens -/

theorem Agrees.depart (h : s.Agrees s') (hk : s.Kempt) (hk' : s'.Kempt) (t : Travel) :
    s'.timers.depart t = s.timers.depart t := by
  have hhead := head_deadline_eq hk.sound.agenda hk'.sound.agenda h.seen
  have hdelay : s'.timers.nextDelay = s.timers.nextDelay := by
    have hmap (a : Agenda (Errand κ)) : a.nextDelay =
        (a.queue.head?.map (·.key.deadline)).map (· - a.elapsed) := by
      simp [Agenda.nextDelay, Function.comp_def]
    rw [hmap, hmap, hhead, h.elapsed]
  cases t with
  | advance distance => simp [Agenda.depart, Agenda.advance, h.elapsed]
  | runUntilIdle => simp [Agenda.depart, h.elapsed]
  | fastForward => simp [Agenda.depart, Agenda.advance, hdelay, h.elapsed]

theorem Agrees.resume (h : s.Agrees s') (hk : s.Kempt) (hk' : s'.Kempt) :
    (s.resume : Result ε κ).Agrees s'.resume := by
  have hpopped (rest : List (Frame Agenda.Drive)) :
      Agrees { s with frames := rest } { s' with frames := rest } :=
    h.congr rfl h.dispatcher rfl rfl rfl h.standing
  have htidy (rest : List (Frame Agenda.Drive)) : Tidy { s with frames := rest } :=
    hk.tidy.congr rfl rfl
  have htidy' (rest : List (Frame Agenda.Drive)) : Tidy { s' with frames := rest } :=
    hk'.tidy.congr rfl rfl
  unfold Session.resume
  rw [h.frames]
  split
  next entrance origin current ids rest _ =>
    exact (hpopped rest).fan (htidy rest) (htidy' rest) _ _ _ _ _
  next id rest _ => exact (hpopped rest).answer (htidy rest) (htidy' rest) _ _ _
  next rest _ => exact ⟨hpopped rest, rfl⟩
  next => exact ⟨h, rfl⟩

theorem Agrees.letGo (h : s.Agrees s') (hk : s.Kempt) (hk' : s'.Kempt) :
    (s.letGo : Result ε κ).Agrees s'.letGo := by
  have hbusy : s'.busy = s.busy := by
    unfold busy
    rw [h.frames]
  unfold Session.letGo
  rw [h.standing, hbusy]
  split
  next => exact ⟨h, rfl⟩
  next =>
    split
    next => exact ⟨h.congr rfl h.dispatcher rfl rfl h.frames rfl, rfl⟩
    next => exact ⟨h.close hk.tidy hk'.tidy, rfl⟩

theorem Agrees.remove (h : s.Agrees s') (r : Registration) :
    Agrees { s with dispatcher := (s.dispatcher.remove r).1 }
      { s' with dispatcher := (s'.dispatcher.remove r).1 } := by
  refine h.congr (s.dispatcher.remove_settled r).inFlight ?_ rfl rfl h.frames h.standing
  rw [h.dispatcher, Dispatcher.remove_flying]
  rfl

/-- What the same reaction takes back leaves two sessions in agreement. -/
theorem Agrees.react (h : s.Agrees s') (origin : Origin) (removals : List Removal) :
    (s.react origin removals).Agrees (s'.react origin removals) := by
  unfold Session.react
  induction removals generalizing s s' with
  | nil => exact h
  | cons removal rest ih =>
      have hheeded : (removal.byHandler ∨ s'.standing = .owned) ↔
          (removal.byHandler ∨ s.standing = .owned) := by
        rw [h.standing]
      rw [List.foldl_cons, List.foldl_cons]
      refine ih ?_
      rw [act_removal, act_removal]
      by_cases heeded : removal.byHandler ∨ s.standing = .owned
      · rw [if_pos heeded, if_pos (hheeded.mpr heeded)]
        exact h.remove _
      · rw [if_neg heeded, if_neg (hheeded.not.mpr heeded)]
        exact h

theorem Agrees.perform (h : s.Agrees s') (hk : s.Kempt) (hk' : s'.Kempt) (route route' : Route)
    (hrest : ∀ drive rest, s.frames ≠ .travelling drive :: rest) (m : Move ε) :
    (s.perform route.visit m : Result ε κ).Agrees (s'.perform route'.visit m) := by
  have hrefused : (Move.needsDispatcher m ∧ s'.standing ≠ .owned) ↔
      (Move.needsDispatcher m ∧ s.standing ≠ .owned) := by
    rw [h.standing]
  unfold Session.perform
  by_cases hgone : Move.needsDispatcher m ∧ s.standing ≠ .owned
  · rw [if_pos hgone, if_pos (hrefused.mpr hgone)]
    exact ⟨h, rfl⟩
  · rw [if_neg hgone, if_neg (hrefused.not.mpr hgone)]
    cases m with
    | add origin endpoint =>
        have hadd := s.dispatcher.add_flying s'.dispatcher.inFlight origin endpoint
        rw [← h.dispatcher] at hadd
        refine ⟨h.congr (s.dispatcher.add_settled origin endpoint).inFlight ?_ rfl rfl ?_
          h.standing, ?_⟩
        · simp [Session.add, hadd]
        · simp [Session.add, hadd, h.frames]
        · simp [Session.add, hadd]
    | broadcast => exact h.broadcast hk hk' route route'
    | dispatch origin =>
        have hstart := s.dispatcher.startFanOut_flying s'.dispatcher.inFlight origin
        rw [← h.dispatcher] at hstart
        have hbegun := (s.dispatcher.startFanOut_request origin).1
        have hbegun' := (s'.dispatcher.startFanOut_request origin).1
        unfold Session.fanOut
        dsimp only [Entrance.ticket?]
        rw [hstart]
        refine Agrees.fan ?_ ?_ ?_ _ _ _ _ _
        · exact h.congr hbegun rfl rfl rfl h.frames h.standing
        · exact hk.tidy.congr hbegun rfl
        · exact hk'.tidy.congr (by rfl) rfl
    | remove r =>
        refine (h.remove r).answer ?_ ?_ _ _ _
        · exact hk.tidy.congr (s.dispatcher.remove_settled r).inFlight rfl
        · exact hk'.tidy.congr (s'.dispatcher.remove_settled r).inFlight rfl
    | resolve =>
        have hresolve := s.dispatcher.resolveInterval_flying s'.dispatcher.inFlight
        rw [← h.dispatcher] at hresolve
        have hsettled := s.dispatcher.resolveInterval_settled.inFlight
        unfold Session.resolve
        rw [hresolve]
        refine Agrees.answer ?_ ?_ ?_ _ _ _
        · exact h.congr hsettled rfl rfl rfl h.frames h.standing
        · exact hk.tidy.congr hsettled rfl
        · exact hk'.tidy.congr (by rfl) rfl
    | disconnect r => exact ⟨h.remove r, rfl⟩
    | letGo => exact h.letGo hk hk'
    | travel t =>
        have hdepart : (Timeline.depart s'.timers t : Agenda.Drive ⊕ Arrival) =
            Timeline.depart s.timers t := h.depart hk hk' t
        dsimp only
        unfold Session.travel
        rw [hdepart]
        split
        next drive _ =>
          refine ⟨h.congr rfl h.dispatcher rfl rfl ?_ h.standing, rfl⟩
          simp [h.frames]
        next => exact ⟨h, rfl⟩
    | resume => exact h.resume hk hk'
    | proceed =>
        dsimp only
        rw [proceed_of_rest hrest, proceed_of_rest (h.frames ▸ hrest)]
        exact ⟨h, rfl⟩

end Session

/-- The same happening, with another order in which a broadcast goes through the records. -/
def Happening.reroute {ε κ : Type} (route : Route) : Happening ε κ → Happening ε κ
  | .deed (.move _ m) => .deed (.move route m)
  | h => h

/-- Where no drive is on top, two sessions go on to agree, whatever happens to both. -/
theorem Session.Agrees.undergo {s s' : OnAgenda ε κ} (h : s.Agrees s') (hk : s.Kempt)
    (hk' : s'.Kempt) (route route' : Route)
    (hrest : ∀ drive rest, s.frames ≠ .travelling drive :: rest) (happening : Happening ε κ) :
    (s.undergo (happening.reroute route)).Agrees (s'.undergo (happening.reroute route')) := by
  cases happening with
  | deed deed =>
      cases deed with
      | move _ m => exact h.perform hk hk' route route' hrest m
      | post delay work =>
          refine ⟨?_, rfl⟩
          have hseen (origin : Origin) :
              view origin (s'.timers.schedule delay (.posted work)).2.queue =
                view origin (s.timers.schedule delay (.posted work)).2.queue := by
            have hnew (a : Agenda (Errand κ)) :
                glimpse origin (a.entryFor delay (.posted work)) =
                  some (a.elapsed + delay, some (a.nextId, work)) := rfl
            rw [view_schedule_of_some hk.sound.agenda (hnew _),
              view_schedule_of_some hk'.sound.agenda (hnew _), h.seen, h.elapsed, h.nextId]
          exact ⟨h.standing, h.frames, h.dispatcher, h.pending, h.elapsed,
            congrArg (· + 1) h.nextId, hseen⟩
  | withdraw id =>
      have hkept (a : Agenda (Errand κ)) :
          (withdraw a id).elapsed = a.elapsed ∧ (withdraw a id).nextId = a.nextId := by
        rcases withdraw_cases a id with heq | ⟨heq, -⟩ <;> simp [heq]
      have hseen (origin : Origin) :
          view origin (withdraw s'.timers id).queue = view origin (withdraw s.timers id).queue := by
        rw [view_withdraw hk.sound.agenda, view_withdraw hk'.sound.agenda, h.seen]
      refine ⟨⟨h.standing, h.frames, h.dispatcher, h.pending, ?_, ?_, hseen⟩, rfl⟩
      · exact (hkept _).1.trans (h.elapsed.trans (hkept _).1.symm)
      · exact (hkept _).2.trans (h.nextId.trans (hkept _).2.symm)

end Cadence.Broadcast

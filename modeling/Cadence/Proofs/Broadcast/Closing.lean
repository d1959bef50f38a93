import Cadence.Proofs.Broadcast.Conservation

/-! # A dispatcher that has gone away

Once its owner has let it go, a dispatcher goes away as soon as no operation on it is under
way. It takes back all that it had put off and forgets its listeners. What outlives it finds
nothing left to do: a fan-out that is under way turns to nobody any more, and a handler
finds no registration to take back.
-/

namespace Cadence.Broadcast.Session

variable {ε κ : Type} {s u : OnAgenda ε κ}

/-! ## The end of the last operation -/

/-- An orphaned dispatcher is there for the sake of an operation under way. -/
def Tended (s : OnAgenda ε κ) : Prop := s.standing = .orphaned → s.busy

theorem Tended.of_standing (h : s.standing ≠ .orphaned) : s.Tended :=
  fun horphaned => absurd horphaned h

theorem tended_answer (u : OnAgenda ε κ) (notes : List Note) (answer : Answer) :
    (u.answer notes answer : Result ε κ).session.Tended := by
  unfold Session.answer
  split
  next => exact .of_standing nofun
  next hheld =>
    intro horphaned
    by_contra hidle
    exact hheld ⟨horphaned, hidle⟩

theorem tended_fan (u : OnAgenda ε κ) (notes : List Note) {entrance : Entrance} {origin : Origin}
    {ids : List EndpointId} (h : entrance ≠ .request → u.Tended) :
    (u.fan notes entrance origin ids : Result ε κ).session.Tended := by
  unfold fan
  split
  next id endpoint later _ =>
    intro horphaned
    cases entrance with
    | request => rfl
    | task ticket => exact h nofun horphaned
  next =>
    cases entrance with
    | request => exact u.tended_answer notes .done
    | task ticket => exact h nofun

theorem Tended.proceed (h : s.Tended) : (s.proceed : Result ε κ).session.Tended := by
  have hbusy : ∀ (drive : Agenda.Drive) (rest : List (Frame Agenda.Drive)),
      s.frames = .travelling drive :: rest → s.standing = .orphaned →
      rest.any Frame.isRequest = true := by
    intro drive rest hframes horphaned
    have htended : s.frames.any Frame.isRequest = true := h horphaned
    rw [hframes] at htended
    exact htended
  unfold Session.proceed
  split
  next drive rest hframes =>
    split
    next task events timers drive' _ =>
      cases task with
      | fanOut origin ticket =>
          refine tended_fan _ _ fun _ horphaned => ?_
          exact hbusy drive rest hframes horphaned
      | posted work => exact hbusy drive rest hframes
    next => exact hbusy drive rest hframes
  next => exact h

theorem Tended.resume (h : s.Tended) : (s.resume : Result ε κ).session.Tended := by
  unfold Session.resume
  split
  next entrance origin last ids rest hframes =>
    refine tended_fan _ _ fun htask horphaned => ?_
    -- the frame of a scheduled fan-out is none of an operation
    have hbusy : s.frames.any Frame.isRequest = true := h horphaned
    rw [hframes] at hbusy
    cases entrance with
    | request => exact absurd rfl htask
    | task ticket => exact hbusy
  next => exact tended_answer _ _ _
  next rest hframes =>
    intro horphaned
    have hbusy : s.frames.any Frame.isRequest = true := h horphaned
    rw [hframes] at hbusy
    exact hbusy
  next => exact h

theorem Tended.letGo (h : s.Tended) : (s.letGo : Result ε κ).session.Tended := by
  unfold Session.letGo
  split
  next => exact h
  next =>
    split
    next hbusy => exact fun _ => hbusy
    next => exact .of_standing nofun

theorem Tended.undergo (h : s.Tended) (happening : Happening ε κ) :
    (s.undergo happening).session.Tended := by
  cases happening with
  | withdraw id => exact h
  | deed deed =>
      cases deed with
      | post delay work => exact h
      | move route m =>
          unfold Session.undergo Session.act Session.perform
          dsimp only
          split
          next => exact h
          next hopen =>
            have hheld : Move.needsDispatcher m = true → s.standing = .owned := fun hneeds =>
              not_not.mp fun hother => hopen ⟨hneeds, hother⟩
            cases m with
            | add origin endpoint => exact .of_standing (by simp [Session.add, hheld rfl])
            | broadcast => exact tended_answer _ _ _
            | dispatch origin => exact tended_fan _ _ (absurd rfl)
            | remove r => exact tended_answer _ _ _
            | resolve => exact tended_answer _ _ _
            | disconnect r => exact h
            | letGo => exact h.letGo
            | travel t =>
                dsimp only
                unfold Session.travel
                split <;> exact h
            | resume => exact h.resume
            | proceed => exact h.proceed

theorem tended_course (h : s.Tended) (run : List (Happening ε κ)) : (s.course run).Tended := by
  induction run generalizing s with
  | nil => exact h
  | cons happening rest ih => exact ih (h.undergo happening)

/-! ## Going away -/

/-- If the dispatcher goes away in what happens, nothing else happens to it and its agenda. -/
def Shuts (s : OnAgenda ε κ) (out : Result ε κ) : Prop :=
  out.session.standing = .closed →
    ∃ u : OnAgenda ε κ, u.dispatcher = s.dispatcher ∧ u.timers = s.timers ∧
      out.session = u.close.1

theorem shuts_of_standing {out : Result ε κ} (halive : s.standing ≠ .closed)
    (h : out.session.standing = s.standing) : s.Shuts out :=
  fun hclosed => absurd (h.symm.trans hclosed) halive

theorem shuts_answer (halive : s.standing ≠ .closed) (hstanding : u.standing = s.standing)
    (hsame : s.standing = .orphaned → u.dispatcher = s.dispatcher ∧ u.timers = s.timers)
    (notes : List Note) (answer : Answer) : s.Shuts (u.answer notes answer : Result ε κ) := by
  unfold Session.answer
  split
  next horphaned =>
    obtain ⟨hdispatcher, htimers⟩ := hsame (hstanding.symm.trans horphaned.1)
    exact fun _ => ⟨u, hdispatcher, htimers, rfl⟩
  next => exact shuts_of_standing halive hstanding

theorem shuts_fan (halive : s.standing ≠ .closed) (hstanding : u.standing = s.standing)
    (hsame : s.standing = .orphaned → u.dispatcher = s.dispatcher ∧ u.timers = s.timers)
    (notes : List Note) (entrance : Entrance) (origin : Origin) (ids : List EndpointId) :
    s.Shuts (u.fan notes entrance origin ids : Result ε κ) := by
  unfold fan
  split
  next => exact shuts_of_standing halive hstanding
  next =>
    cases entrance with
    | request => exact shuts_answer halive hstanding hsame notes .done
    | task ticket => exact shuts_of_standing halive hstanding

/-- A scheduled fan-out that comes up does not take the dispatcher along, for no operation
ends with it. -/
theorem standing_fan_task (u : OnAgenda ε κ) (notes : List Note) (ticket : Ticket)
    (origin : Origin) (ids : List EndpointId) :
    (u.fan notes (.task ticket) origin ids : Result ε κ).session.standing = u.standing := by
  unfold fan
  split <;> rfl

theorem standing_proceed (s : OnAgenda ε κ) :
    (s.proceed : Result ε κ).session.standing = s.standing := by
  unfold Session.proceed
  split
  next drive rest hframes =>
    split
    next task events timers drive' _ =>
      cases task with
      | fanOut origin ticket => exact standing_fan_task _ _ ticket origin _
      | posted work => rfl
    next => rfl
  next => rfl

theorem shuts_perform (halive : s.standing ≠ .closed) (route : Route) (m : Move ε) :
    s.Shuts (s.perform route.visit m : Result ε κ) := by
  unfold perform
  split
  next => exact shuts_of_standing halive rfl
  next hopen =>
    -- only the owner calls the dispatcher, so nobody has let it go yet
    have hheld : Move.needsDispatcher m = true → ∀ {p : Prop}, s.standing = .orphaned → p :=
      fun hneeds _ horphaned => absurd ⟨hneeds, by simp [horphaned]⟩ hopen
    cases m with
    | add origin endpoint => exact shuts_of_standing halive rfl
    | broadcast => exact shuts_answer halive (by rfl) (hheld rfl) _ _
    | dispatch origin => exact shuts_fan halive (by rfl) (hheld rfl) _ _ _ _
    | remove r => exact shuts_answer halive (by rfl) (hheld rfl) _ _
    | resolve => exact shuts_answer halive (by rfl) (hheld rfl) _ _
    | disconnect r => exact shuts_of_standing halive rfl
    | letGo =>
        dsimp only
        unfold letGo
        split
        next => exact shuts_of_standing halive rfl
        next =>
          split
          next => exact fun hclosed => Standing.noConfusion hclosed
          next => exact fun _ => ⟨s, rfl, rfl, rfl⟩
    | travel t =>
        dsimp only
        unfold travel
        split <;> exact shuts_of_standing halive rfl
    | resume =>
        dsimp only
        unfold resume
        split
        next => exact shuts_fan halive (by rfl) (fun _ => ⟨by rfl, by rfl⟩) _ _ _ _
        next => exact shuts_answer halive (by rfl) (fun _ => ⟨by rfl, by rfl⟩) _ _
        next => exact shuts_of_standing halive rfl
        next => exact shuts_of_standing halive rfl
    | proceed => exact shuts_of_standing halive s.standing_proceed

theorem shuts_undergo (halive : s.standing ≠ .closed) (h : Happening ε κ) :
    s.Shuts (s.undergo h) := by
  cases h with
  | withdraw id => exact shuts_of_standing halive rfl
  | deed deed =>
      cases deed with
      | post delay work => exact shuts_of_standing halive rfl
      | move route m => exact shuts_perform halive route m

/-- Taking tasks back leaves exactly those that are not among them. -/
theorem foldl_cancel_queue {τ : Type} {a : Agenda τ} (h : a.Sound)
    (tasks : List (Ticket × TaskId)) :
    (tasks.foldl (fun a (_, id) => a.cancel id) a).queue =
      a.queue.filter (·.id ∉ tasks.map Prod.snd) := by
  induction tasks generalizing a with
  | nil => simp
  | cons task rest ih =>
      rw [List.foldl_cons, ih (h.cancel task.2), h.cancel_queue, List.filter_filter]
      apply List.filter_congr
      intro e _
      by_cases hid : e.id = task.2 <;> simp [hid]

/-- All that a dispatcher had put off is taken back when it goes away. -/
theorem slots_close (h : s.timers.Sound) (hmatched : Matched s.dispatcher s.timers) :
    slots s.close.1.timers = [] := by
  have hqueue : s.close.1.timers.queue =
      s.timers.queue.filter (·.id ∉ s.dispatcher.inFlight.map Prod.snd) :=
    foldl_cancel_queue h s.dispatcher.inFlight
  unfold slots
  rw [hqueue]
  refine List.filterMap_eq_nil_iff.mpr fun e he => ?_
  obtain ⟨hmem, hkept⟩ := List.mem_filter.mp he
  refine Option.eq_none_iff_forall_not_mem.mpr fun p hp => ?_
  -- a fan-out that waits is in flight under its number
  have hslot : p ∈ slots s.timers := List.mem_filterMap.mpr ⟨e, hmem, hp⟩
  have hid : e.id = p.2 := (slot?_eq_some_iff.mp hp).1
  have hflight : p.2 ∈ s.dispatcher.inFlight.map Prod.snd :=
    List.mem_map_of_mem (hmatched.mem_iff.mpr hslot)
  simp [hid, hflight] at hkept

/-! ## What outlives the dispatcher -/

/-- The dispatcher has gone away and left nothing behind. -/
structure Gone (s : OnAgenda ε κ) : Prop where
  closed : s.standing = .closed
  records : s.dispatcher.records = []
  inFlight : s.dispatcher.inFlight = []
  slots : slots s.timers = []

theorem gone_close (h : s.timers.Sound) (hmatched : Matched s.dispatcher s.timers) :
    s.close.1.Gone :=
  ⟨rfl, rfl, rfl, slots_close h hmatched⟩

theorem Gone.registered (h : s.Gone) (origin : Origin) : s.dispatcher.registered origin = [] :=
  Dispatcher.registered_of_none (by simp [Dispatcher.record?, h.records])

theorem Gone.remove (h : s.Gone) (r : Registration) : (s.dispatcher.remove r).1 = s.dispatcher :=
  Dispatcher.remove_of_not_mem (by simp [h.registered])

/-- What happens passes the dispatcher by. -/
structure Spares (s : OnAgenda ε κ) (out : Result ε κ) : Prop where
  dispatcher : out.session.dispatcher = s.dispatcher
  slots : Broadcast.slots out.session.timers = []
  silent : out.notifies = false

theorem Gone.answer (h : s.Gone) (hstanding : u.standing = s.standing)
    (hdispatcher : u.dispatcher = s.dispatcher) (htimers : u.timers = s.timers)
    (notes : List Note) (answer : Answer) : s.Spares (u.answer notes answer : Result ε κ) := by
  unfold Session.answer
  rw [if_neg (by simp [hstanding, h.closed])]
  exact ⟨hdispatcher, htimers ▸ h.slots, rfl⟩

/-- A fan-out that is under way when the dispatcher goes away turns to nobody any more. -/
theorem Gone.fan (h : s.Gone) (hstanding : u.standing = s.standing)
    (hdispatcher : u.dispatcher = s.dispatcher) (htimers : u.timers = s.timers)
    (notes : List Note) (entrance : Entrance) (origin : Origin) (ids : List EndpointId) :
    s.Spares (u.fan notes entrance origin ids : Result ε κ) := by
  unfold Session.fan
  split
  next id endpoint later hnext =>
    obtain ⟨_, _, _, hid⟩ := Dispatcher.nextListener_eq_some hnext
    rw [hdispatcher, h.registered] at hid
    cases hid
  next =>
    cases entrance with
    | request => exact h.answer hstanding hdispatcher htimers notes .done
    | task ticket => exact ⟨hdispatcher, htimers ▸ h.slots, rfl⟩

theorem Gone.proceed (h : s.Gone) : s.Spares (s.proceed : Result ε κ) := by
  unfold Session.proceed
  split
  next drive rest hframes =>
    cases hpop : s.timers.popDue drive.limit with
    | some found =>
        obtain ⟨e, b⟩ := found
        have hturn : Timeline.turn s.timers drive = _ := Agenda.turn_of_popDue_eq_some hpop
        rw [hturn]
        dsimp only
        have hslots := slots_of_popDue hpop
        rw [h.slots] at hslots
        cases htask : e.task with
        | fanOut origin ticket => simp [slot?_of_fanOut htask] at hslots
        | posted work => exact ⟨rfl, (List.append_eq_nil_iff.mp hslots.symm).2, rfl⟩
    | none =>
        have hturn : Timeline.turn s.timers drive = _ := Agenda.turn_of_popDue_eq_none hpop
        rw [hturn]
        exact ⟨rfl, h.slots, rfl⟩
  next => exact ⟨rfl, h.slots, rfl⟩

theorem Gone.perform (h : s.Gone) (route : Route) (m : Move ε) :
    s.Spares (s.perform route.visit m : Result ε κ) := by
  unfold Session.perform
  split
  next => exact ⟨rfl, h.slots, rfl⟩
  next hopen =>
    cases m with
    | disconnect r => exact ⟨h.remove r, h.slots, rfl⟩
    | letGo =>
        dsimp only
        unfold Session.letGo
        rw [if_pos (by simp [h.closed])]
        exact ⟨rfl, h.slots, rfl⟩
    | travel t =>
        dsimp only
        unfold Session.travel
        split <;> exact ⟨rfl, h.slots, rfl⟩
    | resume =>
        dsimp only
        unfold Session.resume
        split
        next => exact h.fan (by rfl) (by rfl) (by rfl) _ _ _ _
        next => exact h.answer (by rfl) (by rfl) (by rfl) _ _
        next => exact ⟨rfl, h.slots, rfl⟩
        next => exact ⟨rfl, h.slots, rfl⟩
    | proceed => exact h.proceed
    -- the other moves are refused without a dispatcher
    | _ => exact absurd ⟨rfl, by simp [h.closed]⟩ hopen

theorem Gone.spares (h : s.Gone) (hsound : s.timers.Sound) (happening : Happening ε κ) :
    s.Spares (s.undergo happening) := by
  cases happening with
  | withdraw id => exact ⟨rfl, (slots_withdraw hsound id).trans h.slots, rfl⟩
  | deed deed =>
      cases deed with
      | move route m => exact h.perform route m
      | post delay work =>
          have hslots := slots_schedule s.timers delay (.posted work)
          rw [h.slots] at hslots
          exact ⟨rfl, hslots.eq_nil, rfl⟩

theorem Gone.undergo (h : s.Gone) (hsound : s.timers.Sound) (happening : Happening ε κ) :
    (s.undergo happening).session.Gone := by
  obtain ⟨hdispatcher, hslots, _⟩ := h.spares hsound happening
  exact ⟨closed_undergo h.closed happening, hdispatcher ▸ h.records, hdispatcher ▸ h.inFlight,
    hslots⟩

theorem Gone.course (h : s.Gone) (hsound : s.Sound) (rest : List (Happening ε κ)) :
    (s.course rest).Gone ∧ (s.course rest).dispatcher = s.dispatcher := by
  induction rest generalizing s with
  | nil => exact ⟨h, rfl⟩
  | cons happening rest ih =>
      obtain ⟨hgone, hdispatcher⟩ := ih (h.undergo hsound.agenda happening)
        (hsound.undergo happening)
      exact ⟨hgone, hdispatcher.trans (h.spares hsound.agenda happening).dispatcher⟩

/-- A handler that is run after the end changes nothing. -/
theorem Gone.disconnect (h : s.Gone) (route : Route) (r : Registration) :
    (s.undergo (.deed (.move route (.disconnect r)))).session = s := by
  show { s with dispatcher := (s.dispatcher.remove r).1 } = s
  rw [h.remove]

/-! ## Every run -/

/-- A dispatcher that has gone away in the course of a run has left nothing behind. -/
theorem gone_course (intervals : IntervalSource) (delays : DelaySource)
    (run : List (Happening ε κ))
    (h : ((fresh intervals delays : OnAgenda ε κ).course run).standing = .closed) :
    ((fresh intervals delays : OnAgenda ε κ).course run).Gone := by
  induction run using List.reverseRecOn with
  | nil => cases h
  | append_singleton run happening ih =>
      have hsound : ((fresh intervals delays : OnAgenda ε κ).course run).Sound :=
        (sound_fresh intervals delays).course run
      rw [course_concat] at h ⊢
      by_cases hbefore : ((fresh intervals delays : OnAgenda ε κ).course run).standing = .closed
      · exact (ih hbefore).undergo hsound.agenda happening
      · -- it goes away right now, and until now its tickets were the fan-outs that wait
        obtain ⟨u, hdispatcher, htimers, hclose⟩ := shuts_undergo hbefore happening h
        rw [hclose]
        refine gone_close (htimers ▸ hsound.agenda) ?_
        rw [hdispatcher, htimers]
        exact (balanced_course intervals delays run hbefore).matched

/-- Letting a dispatcher go is final. It goes away at once if no operation on it is under
way, and otherwise with the last one that is. From then on, whatever happens, it stays away
and as it is, without records and without tickets. No fan-out of it waits on the agenda,
nobody is notified, and running a handler changes nothing. -/
theorem letGo_is_final (intervals : IntervalSource) (delays : DelaySource)
    (run : List (Happening ε κ)) :
    let s : OnAgenda ε κ := (fresh intervals delays).course run
    (s.standing = .owned → ∀ route,
      (s.undergo (.deed (.move route .letGo))).session.standing =
        if s.busy then .orphaned else .closed) ∧
    (s.standing = .orphaned → s.busy) ∧
    (s.standing = .closed → ∀ rest,
      let t := s.course rest
      t.standing = .closed ∧ t.dispatcher = s.dispatcher ∧
        t.dispatcher.records = [] ∧ t.dispatcher.inFlight = [] ∧
        (∀ e ∈ t.timers.queue, ∀ origin ticket, e.task ≠ .fanOut origin ticket) ∧
        (∀ h, (t.undergo h).notifies = false) ∧
        ∀ route r, (t.undergo (.deed (.move route (.disconnect r)))).session = t) := by
  intro s
  refine ⟨fun howned route => ?_, ?_, fun hclosed rest => ?_⟩
  · show (s.letGo : Result ε κ).session.standing = _
    unfold letGo
    rw [if_neg (by simp [howned])]
    split <;> rfl
  · exact tended_course (s := fresh intervals delays) (.of_standing nofun) run
  · intro t
    have hsound : s.Sound := (sound_fresh intervals delays).course run
    obtain ⟨hgone, hdispatcher⟩ := (gone_course intervals delays run hclosed).course hsound rest
    refine ⟨hgone.closed, hdispatcher, hgone.records, hgone.inFlight, ?_, ?_, hgone.disconnect⟩
    · intro e he origin ticket htask
      have hslot : (ticket, e.id) ∈ slots t.timers := mem_slots.mpr ⟨e, he, rfl, origin, htask⟩
      rw [hgone.slots] at hslot
      cases hslot
    · exact fun h => (hgone.spares (hsound.course rest).agenda h).silent

/-- Two listeners are to be told of a broadcast, and the first one lets the dispatcher go
while it is told. -/
def lettingGo : List (Happening Unit Unit) :=
  [.add default (), .resume, .add default (), .resume, .broadcast,
    .travel (.advance (.ofSecs 10)), .proceed, .letGo].map fun m => .deed (.move .straight m)

/-- The first of two listeners has been told when the dispatcher goes away, and the second one
is not told any more. -/
theorem letGo_is_final_within_notice :
    (tenSeconds.course lettingGo).standing = .closed ∧
      (tenSeconds.tally lettingGo).notified = 1 ∧
      ((tenSeconds.course lettingGo).undergo (.deed (.move .straight .resume))).notifies =
        false := by
  have hclosed : (tenSeconds.course lettingGo).standing = .closed := by decide +kernel
  have hfinal := (letGo_is_final _ _ lettingGo).2.2 hclosed []
  exact ⟨hclosed, by decide +kernel, hfinal.2.2.2.2.2.1 _⟩

end Cadence.Broadcast.Session

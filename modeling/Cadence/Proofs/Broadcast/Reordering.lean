import Cadence.Proofs.Broadcast.Agreement

/-! # The order of the records does not show

A broadcast goes through the records in an order that nobody controls, and with it the
order changes in which fan-outs of the same instant come up. Such fan-outs work on
different cells, so they commute, and all that come up at one instant before any
posted work leave the same board behind. So two runs that differ in these orders alone
are not told apart by anything that can be seen of them.
-/

namespace Cadence.Broadcast

variable {ε κ : Type}

/-! ## The fan-outs that come up first -/

/-- The origin that an entry is a fan-out of, if it is one. -/
def destined? (e : Entry (Errand κ)) : Option Origin := (booking? e).map Booking.origin

/-- Whether an entry is a fan-out for a time. -/
def isFanOutAt (t : Span) (e : Entry (Errand κ)) : Bool :=
  (destined? e).isSome ∧ e.key.deadline = t

/-- Whether what an origin sees is a fan-out of its own for a time. -/
def isOwnAt (t : Span) (x : Span × Option (TaskId × κ)) : Bool :=
  x.2.isNone ∧ x.1 = t

section Blocks

variable {origin : Origin} {t : Span} {queue : List (Entry (Errand κ))} {e : Entry (Errand κ)}

theorem isFanOutAt_iff :
    isFanOutAt t e ↔ e.key.deadline = t ∧ ∃ origin ticket, e.task = .fanOut origin ticket := by
  unfold isFanOutAt destined?
  cases htask : e.task with
  | fanOut origin ticket => simp [booking?_of_fanOut htask]
  | posted work => simp [booking?_of_posted htask]

/-- An origin sees the fan-outs that come up first as its own among them, and the rest of the
queue as what comes after these. -/
theorem view_takeWhile (h : queue.Pairwise (·.key < ·.key)) (ht : ∀ e ∈ queue, t ≤ e.key.deadline)
    (origin : Origin) :
    view origin (queue.takeWhile (isFanOutAt t)) = (view origin queue).takeWhile (isOwnAt t) ∧
      view origin (queue.dropWhile (isFanOutAt t)) =
        (view origin queue).dropWhile (isOwnAt t) := by
  induction queue with
  | nil => exact ⟨rfl, rfl⟩
  | cons e rest ih =>
      obtain ⟨he, hrest⟩ := List.pairwise_cons.mp h
      have hlater := ih hrest fun x hx => ht x (List.mem_cons_of_mem e hx)
      unfold view at hlater ⊢
      by_cases hfirst : isFanOutAt t e
      · obtain ⟨hdeadline, other, ticket, htask⟩ := isFanOutAt_iff.mp hfirst
        have hseen : glimpse origin e = _ := glimpse_of_fanOut htask
        by_cases hother : other = origin
        · simp [hfirst, hseen, hother, hdeadline, hlater, isOwnAt]
        · simp [hfirst, hseen, hother, hlater]
      · -- work comes first, or whatever is left is for a later time
        have hother (x : Span × Option (TaskId × κ)) (seen : List (Span × Option (TaskId × κ)))
            (hx : (e :: rest).filterMap (glimpse origin) = x :: seen) : isOwnAt t x = false := by
          cases htask : e.task with
          | posted work =>
              rw [List.filterMap_cons, glimpse_of_posted htask] at hx
              cases hx
              simp [isOwnAt]
          | fanOut other ticket =>
              have hne : e.key.deadline ≠ t := fun hdeadline =>
                hfirst (isFanOutAt_iff.mpr ⟨hdeadline, other, ticket, htask⟩)
              obtain ⟨f, hf, hseen⟩ := List.mem_filterMap.mp (hx ▸ List.mem_cons_self)
              have hle : e.key.deadline ≤ x.1 := by
                rw [glimpse_deadline hseen]
                rcases List.mem_cons.mp hf with rfl | hf
                · exact Span.le_refl _
                · exact Key.deadline_le_of_lt (he f hf)
              have hlate : x.1 ≠ t := fun hdue =>
                hne (Span.le_antisymm (hdue ▸ hle) (ht e List.mem_cons_self))
              simp [isOwnAt, hlate]
        rw [List.takeWhile_cons_of_neg hfirst, List.dropWhile_cons_of_neg hfirst]
        cases hseen : (e :: rest).filterMap (glimpse origin) with
        | nil => exact ⟨rfl, rfl⟩
        | cons x seen => simp [hother x seen hseen]

/-- How many fan-outs an origin has among some is what it sees of them. -/
theorem count_destined (block : List (Entry (Errand κ)))
    (hblock : ∀ e ∈ block, isFanOutAt t e) (origin : Origin) :
    (block.filterMap destined?).count origin = (view origin block).length := by
  induction block with
  | nil => rfl
  | cons e rest ih =>
      obtain ⟨-, other, ticket, htask⟩ := isFanOutAt_iff.mp (hblock e List.mem_cons_self)
      have hrest := ih fun x hx => hblock x (List.mem_cons_of_mem e hx)
      have hdestined : destined? e = some other := by simp [destined?, booking?_of_fanOut htask]
      unfold view at hrest ⊢
      rw [List.filterMap_cons, hdestined, List.filterMap_cons, glimpse_of_fanOut htask]
      by_cases hother : other = origin
      · simp [hother, hrest]
      · simp [hother, hrest]

theorem length_destined (block : List (Entry (Errand κ))) (hblock : ∀ e ∈ block, isFanOutAt t e) :
    (block.filterMap destined?).length = block.length := by
  induction block with
  | nil => rfl
  | cons e rest ih =>
      obtain ⟨-, origin, ticket, htask⟩ := isFanOutAt_iff.mp (hblock e List.mem_cons_self)
      have hdestined : destined? e = some origin := by simp [destined?, booking?_of_fanOut htask]
      simp [hdestined, ih fun x hx => hblock x (List.mem_cons_of_mem e hx)]

/-- Where all origins see the same, the fan-outs that come up first are those of the same
origins. -/
theorem block_perm {a b : Agenda (Errand κ)} (h : a.Sound) (hb : b.Sound)
    (ht : ∀ e ∈ a.queue, t ≤ e.key.deadline) (ht' : ∀ e ∈ b.queue, t ≤ e.key.deadline)
    (hseen : ∀ origin, view origin b.queue = view origin a.queue) :
    ((b.queue.takeWhile (isFanOutAt t)).filterMap destined?).Perm
      ((a.queue.takeWhile (isFanOutAt t)).filterMap destined?) := by
  refine List.perm_iff_count.mpr fun origin => ?_
  rw [count_destined _ (List.all_eq_true.mp List.all_takeWhile) origin,
    count_destined _ (List.all_eq_true.mp List.all_takeWhile) origin,
    (view_takeWhile h.ascending ht origin).1, (view_takeWhile hb.ascending ht' origin).1, hseen]

end Blocks

namespace Scene

variable {reaction : Reaction} {t : Span} {rest : List (Frame Agenda.Drive)}

/-- The fan-outs that come up first run through one after the other. -/
theorem reaches_block (reaction : Reaction) {block left : List (Entry (Errand κ))}
    {sc : Scene ε κ} {drive : Agenda.Drive} (hk : sc.session.Kempt)
    (hframes : sc.session.frames = .travelling drive :: rest)
    (hqueue : sc.session.timers.queue = block ++ left) (hblock : ∀ e ∈ block, isFanOutAt t e)
    (hdue : t ≤ drive.limit) :
    ∃ inFlight timers,
      Reaches reaction sc
        (sc.onward ((block.filterMap destined?).foldl (Board.fanOut (sc.heed reaction) t) sc.board)
          inFlight timers (.travelling { drive with ran := drive.ran + block.length } :: rest)) ∧
      timers.queue = left ∧
      timers.elapsed = (if block = [] then sc.session.timers.elapsed else t) ∧
      timers.nextId = sc.session.timers.nextId ∧
      inFlight.length + block.length = sc.session.dispatcher.inFlight.length := by
  induction block generalizing sc drive with
  | nil =>
      refine ⟨sc.session.dispatcher.inFlight, sc.session.timers, ?_, hqueue, rfl, rfl, rfl⟩
      have hsame : sc.onward sc.board sc.session.dispatcher.inFlight sc.session.timers
          (.travelling drive :: rest) = sc := by
        rw [← hframes]
        rfl
      show Reaches reaction sc (sc.onward sc.board sc.session.dispatcher.inFlight
        sc.session.timers (.travelling drive :: rest))
      rw [hsame]
      exact .refl
  | cons e block ih =>
      obtain ⟨rfl, origin, ticket, htask⟩ := isFanOutAt_iff.mp (hblock e List.mem_cons_self)
      have hpop := Agenda.popDue_eq_some_iff.mpr ⟨_, hqueue, hdue, rfl⟩
      have hfirst := reaches_fanOut reaction hk.sound hframes hpop htask
      have hk1 := hfirst.kempt hk
      obtain ⟨inFlight, timers, hreach, hleft, helapsed, hnextId, hlength⟩ :=
        ih hk1 rfl rfl (fun x hx => hblock x (List.mem_cons_of_mem e hx)) hdue
      have hnodup := (List.nodup_append.mp hk.sound.tickets_nodup).1
      obtain ⟨-, herased⟩ := hk.matched.eraseP hnodup hpop htask
      have hdestined : destined? e = some origin := by simp [destined?, booking?_of_fanOut htask]
      refine ⟨inFlight, timers, ?_, hleft, ?_, hnextId, ?_⟩
      · have hran : drive.ran + (block.length + 1) = drive.ran + 1 + block.length := by omega
        rw [List.filterMap_cons, hdestined, List.length_cons, hran]
        exact hfirst.trans hreach
      · have hstarted := hk.sound.agenda.started_elapsed hpop
        rw [helapsed, if_neg (List.cons_ne_nil e block)]
        split
        · exact hstarted
        · rfl
      · rw [herased, List.length_cons, ← Nat.add_assoc]
        exact congrArg (· + 1) hlength

/-! ## Settling -/

variable {sc sc' : Scene ε κ}

theorem Agrees.board (h : sc.Agrees sc') : sc'.board = sc.board := by
  unfold Scene.board
  rw [h.told, h.session.dispatcher]
  rfl

/-- Two scenes that agree go on to agree with one board, the same frames and agendas on which
the same is seen. -/
theorem Agrees.onward (h : sc.Agrees sc') (b : Board ε) (frames : List (Frame Agenda.Drive))
    {inFlight inFlight' : List (Ticket × TaskId)} {timers timers' : Agenda (Errand κ)}
    (hpending : inFlight'.length = inFlight.length) (helapsed : timers'.elapsed = timers.elapsed)
    (hnextId : timers'.nextId = timers.nextId)
    (hseen : ∀ origin, view origin timers'.queue = view origin timers.queue) :
    (sc.onward b inFlight timers frames).Agrees (sc'.onward b inFlight' timers' frames) := by
  refine ⟨⟨h.session.standing, rfl, ?_, hpending, helapsed, hnextId, hseen⟩, rfl, h.answers⟩
  unfold Scene.onward
  dsimp only
  rw [h.session.dispatcher]
  rfl

/-- Where nothing is due in one of two scenes that agree, nothing is due in the other. -/
theorem Agrees.popDue_eq_none (h : sc.Agrees sc') (hk : sc.session.Kempt)
    (hk' : sc'.session.Kempt) (limit : Span) :
    sc'.session.timers.popDue limit = none ↔ sc.session.timers.popDue limit = none := by
  rw [Agenda.popDue_eq_none_iff, Agenda.popDue_eq_none_iff,
    head_deadline_eq hk.sound.agenda hk'.sound.agenda h.session.seen]

/-- Two notified listeners that react in the same way leave two scenes in agreement. -/
theorem Agrees.tick_fanning (reaction : Reaction) (h : sc.Agrees sc') (hk : sc.session.Kempt)
    (hk' : sc'.session.Kempt) {entrance : Entrance} {origin : Origin} {current : EndpointId}
    {ids : List EndpointId}
    (hframes : sc.session.frames = .fanning entrance origin current ids :: rest) :
    ∃ next next', sc.tick reaction = some next ∧ sc'.tick reaction = some next' ∧
      next.Agrees next' := by
  have hframes' := h.session.frames.trans hframes
  have htick {sc : Scene ε κ}
      (hframes : sc.session.frames = .fanning entrance origin current ids :: rest) :
      sc.tick reaction = some (sc.absorb ((sc.session.react origin
        (reaction origin (sc.told origin))).act (.move .straight .resume))) := by
    unfold tick
    rw [hframes]
  refine ⟨_, _, htick hframes, htick hframes', h.absorb ?_⟩
  rw [h.told]
  have hreacted := h.session.react origin (reaction origin (sc.told origin))
  refine hreacted.resume ?_ ?_
  · exact hk.react origin _
  · exact hk'.react origin _

/-- Work that comes up in one of two scenes that agree comes up in the other. -/
theorem Agrees.tick_posted (reaction : Reaction) (h : sc.Agrees sc') (hk : sc.session.Kempt)
    (hk' : sc'.session.Kempt) {drive : Agenda.Drive}
    (hframes : sc.session.frames = .travelling drive :: rest) {e : Entry (Errand κ)}
    {b : Agenda (Errand κ)} (hpop : sc.session.timers.popDue drive.limit = some (e, b)) {work : κ}
    (htask : e.task = .posted work) :
    ∃ next next', sc.tick reaction = some next ∧ sc'.tick reaction = some next' ∧
      next.Agrees next' := by
  have hframes' := h.session.frames.trans hframes
  obtain ⟨⟨e', b'⟩, hpop'⟩ : ∃ found, sc'.session.timers.popDue drive.limit = some found := by
    refine Option.ne_none_iff_exists'.mp fun hnone => ?_
    rw [(h.popDue_eq_none hk hk' drive.limit).mp hnone] at hpop
    cases hpop
  have hview (origin : Origin) : (glimpse origin e').toList ++ view origin b'.queue =
      (e.key.deadline, some (e.id, work)) :: view origin b.queue := by
    rw [← view_of_popDue hpop', h.session.seen, view_of_popDue hpop, glimpse_of_posted htask]
    rfl
  cases htask' : e'.task with
  | fanOut origin ticket =>
      -- its own origin would see a fan-out where the other scene has work
      have hown := hview origin
      simp [glimpse_of_fanOut htask'] at hown
  | posted work' =>
      have hsame : e'.key.deadline = e.key.deadline ∧ work' = work ∧
          ∀ origin, view origin b'.queue = view origin b.queue := by
        have hboth (origin : Origin) := hview origin
        simp only [glimpse_of_posted htask', Option.toList_some, List.singleton_append,
          List.cons.injEq, Prod.mk.injEq, Option.some.injEq] at hboth
        exact ⟨(hboth default).1.1, (hboth default).1.2.2, fun origin => (hboth origin).2⟩
      obtain ⟨hdeadline, rfl, hseen⟩ := hsame
      refine ⟨_, _, tick_of_posted reaction hframes hpop htask,
        tick_of_posted reaction hframes' hpop' htask', ?_⟩
      rw [h.board]
      refine h.onward _ _ h.session.pending ?_ ?_ hseen
      · have hstarted := hk.sound.agenda.started_elapsed hpop
        have hstarted' := hk'.sound.agenda.started_elapsed hpop'
        exact hstarted'.trans (hdeadline.trans hstarted.symm)
      · obtain ⟨_, _, _, rfl⟩ := Agenda.popDue_eq_some_iff.mp hpop
        obtain ⟨_, _, _, rfl⟩ := Agenda.popDue_eq_some_iff.mp hpop'
        exact h.session.nextId

/-- Where nothing is due any more, both drives end. -/
theorem Agrees.tick_idle (reaction : Reaction) (h : sc.Agrees sc') (hk : sc.session.Kempt)
    (hk' : sc'.session.Kempt) {drive : Agenda.Drive}
    (hframes : sc.session.frames = .travelling drive :: rest)
    (hpop : sc.session.timers.popDue drive.limit = none) :
    ∃ next next', sc.tick reaction = some next ∧ sc'.tick reaction = some next' ∧
      next.Agrees next' := by
  have hframes' := h.session.frames.trans hframes
  have hpop' := (h.popDue_eq_none hk hk' drive.limit).mpr hpop
  refine ⟨_, _, tick_of_idle reaction hframes hpop, tick_of_idle reaction hframes' hpop', ?_⟩
  rw [h.board, h.answers]
  have hsettled : (sc'.session.timers.settled drive).elapsed =
      (sc.session.timers.settled drive).elapsed := by
    unfold Agenda.settled
    rw [h.session.elapsed]
  have honward := h.onward sc.board rest h.session.pending hsettled h.session.nextId h.session.seen
  exact ⟨honward.session, rfl, rfl⟩

/-- The fan-outs that come up first in two scenes that agree leave them in agreement. -/
theorem Agrees.reaches_block (reaction : Reaction) (h : sc.Agrees sc') (hk : sc.session.Kempt)
    (hk' : sc'.session.Kempt) {drive : Agenda.Drive}
    (hframes : sc.session.frames = .travelling drive :: rest) {e : Entry (Errand κ)}
    {b : Agenda (Errand κ)} (hpop : sc.session.timers.popDue drive.limit = some (e, b))
    {origin : Origin} {ticket : Ticket} (htask : e.task = .fanOut origin ticket) :
    ∃ next next', Reaches reaction sc next ∧ Reaches reaction sc' next' ∧ next.Agrees next' ∧
      next.session.timers.queue.length < sc.session.timers.queue.length := by
  have hframes' := h.session.frames.trans hframes
  obtain ⟨left, hqueue, hdue, -⟩ := Agenda.popDue_eq_some_iff.mp hpop
  have hfirst : isFanOutAt e.key.deadline e := isFanOutAt_iff.mpr ⟨rfl, origin, ticket, htask⟩
  have hearliest := deadline_le_of_seen hk.sound.agenda hqueue fun _ => rfl
  have hearliest' := deadline_le_of_seen hk.sound.agenda hqueue h.session.seen
  have hperm := block_perm hk.sound.agenda hk'.sound.agenda hearliest hearliest' h.session.seen
  obtain ⟨inFlight, timers, hreach, hleft, helapsed, hnextId, hlength⟩ :=
    Scene.reaches_block reaction hk hframes List.takeWhile_append_dropWhile.symm
      (List.all_eq_true.mp List.all_takeWhile) hdue
  obtain ⟨inFlight', timers', hreach', hleft', helapsed', hnextId', hlength'⟩ :=
    Scene.reaches_block reaction hk' hframes' List.takeWhile_append_dropWhile.symm
      (List.all_eq_true.mp List.all_takeWhile) hdue
  have hcount := hperm.length_eq
  rw [length_destined _ (List.all_eq_true.mp List.all_takeWhile),
    length_destined _ (List.all_eq_true.mp List.all_takeWhile)] at hcount
  have hsome : 0 < (sc.session.timers.queue.takeWhile (isFanOutAt e.key.deadline)).length := by
    rw [hqueue, List.takeWhile_cons_of_pos hfirst]
    exact Nat.succ_pos _
  have hheed : sc'.heed reaction = sc.heed reaction := by
    funext origin told
    unfold heed
    rw [h.session.standing]
  have hfold := Board.foldl_fanOut_perm (sc.heed reaction) e.key.deadline sc.board hperm
  rw [h.board, hheed] at hreach'
  rw [hfold, hcount] at hreach'
  refine ⟨_, _, hreach, hreach', h.onward _ _ ?_ ?_ ?_ fun o => ?_, ?_⟩
  · have hpending := h.session.pending
    omega
  · rw [helapsed, helapsed', if_neg (List.ne_nil_of_length_pos hsome),
      if_neg (List.ne_nil_of_length_pos (hcount ▸ hsome))]
  · exact hnextId'.trans (h.session.nextId.trans hnextId.symm)
  · rw [hleft, hleft', (view_takeWhile hk.sound.agenda.ascending hearliest o).2,
      (view_takeWhile hk'.sound.agenda.ascending hearliest' o).2, h.session.seen]
  · show timers.queue.length < _
    have hsplit := congrArg List.length (List.takeWhile_append_dropWhile
      (p := isFanOutAt e.key.deadline) (l := sc.session.timers.queue))
    rw [List.length_append, ← hleft] at hsplit
    omega

/-- Two scenes that agree settle in agreement. -/
theorem Agrees.settle (h : sc.Agrees sc') (hk : sc.session.Kempt) (hk' : sc'.session.Kempt) :
    (sc.settle reaction).Agrees (sc'.settle reaction) := by
  induction sc using load_wf.induction generalizing sc' with
  | _ sc ih =>
    have hrested (hrests : sc.Rests) : (sc.settle reaction).Agrees (sc'.settle reaction) := by
      have hrests' : sc'.Rests :=
        ⟨h.session.frames ▸ hrests.drive, h.session.frames ▸ hrests.listener⟩
      rw [settle_of_rest (tick_eq_none_iff.mpr hrests),
        settle_of_rest (tick_eq_none_iff.mpr hrests')]
      exact h
    have hticked {next next' : Scene ε κ} (htick : sc.tick reaction = some next)
        (htick' : sc'.tick reaction = some next') (hnext : next.Agrees next') :
        (sc.settle reaction).Agrees (sc'.settle reaction) := by
      rw [settle_of_tick htick, settle_of_tick htick']
      exact ih next (load_tick htick) hnext (kempt_tick hk htick) (kempt_tick hk' htick')
    cases hframes : sc.session.frames with
    | nil => exact hrested ⟨by simp [hframes], by simp [hframes]⟩
    | cons frame rest =>
        cases frame with
        | installing id => exact hrested ⟨by simp [hframes], by simp [hframes]⟩
        | working => exact hrested ⟨by simp [hframes], by simp [hframes]⟩
        | fanning entrance origin current ids =>
            obtain ⟨next, next', htick, htick', hnext⟩ := h.tick_fanning reaction hk hk' hframes
            exact hticked htick htick' hnext
        | travelling drive =>
            cases hpop : sc.session.timers.popDue drive.limit with
            | none =>
                obtain ⟨next, next', htick, htick', hnext⟩ :=
                  h.tick_idle reaction hk hk' hframes hpop
                exact hticked htick htick' hnext
            | some found =>
                obtain ⟨e, b⟩ := found
                cases htask : e.task with
                | posted work =>
                    obtain ⟨next, next', htick, htick', hnext⟩ :=
                      h.tick_posted reaction hk hk' hframes hpop htask
                    exact hticked htick htick' hnext
                | fanOut origin ticket =>
                    obtain ⟨next, next', hreach, hreach', hnext, hshorter⟩ :=
                      h.reaches_block reaction hk hk' hframes hpop htask
                    rw [hreach.settle, hreach'.settle]
                    exact ih next (.left _ _ hshorter) hnext (hreach.kempt hk) (hreach'.kempt hk')

end Scene

/-! ## Runs -/

/-- Something that happens, and what listeners do when they are notified in its course. -/
structure Cue (ε κ : Type) where
  happening : Happening ε κ
  reaction : Reaction

/-- Cues in which a broadcast goes through the records in the order chosen for its place. -/
def routed (routes : Nat → Route) (cues : List (Cue ε κ)) : List (Cue ε κ) :=
  cues.mapIdx fun i cue => { cue with happening := cue.happening.reroute (routes i) }

namespace Scene

/-- The scene after some cues. -/
def run (sc : Scene ε κ) (cues : List (Cue ε κ)) : Scene ε κ :=
  cues.foldl (fun sc cue => sc.play cue.reaction cue.happening) sc

theorem Agrees.play {sc sc' : Scene ε κ} (h : sc.Agrees sc') (hk : sc.session.Kempt)
    (hk' : sc'.session.Kempt) (hrests : sc.Rests) (route route' : Route) (reaction : Reaction)
    (happening : Happening ε κ) :
    (sc.play reaction (happening.reroute route)).Agrees
      (sc'.play reaction (happening.reroute route')) :=
  have hundergone := h.session.undergo hk hk' route route' hrests.drive happening
  (h.absorb hundergone).settle (hk.undergo _) (hk'.undergo _)

theorem agrees_run (intervals : IntervalSource) (delays : DelaySource) (cues : List (Cue ε κ))
    (routes routes' : Nat → Route) :
    let sc := (opening intervals delays).run (routed routes cues)
    let sc' := (opening intervals delays).run (routed routes' cues)
    sc.Agrees sc' ∧ sc.session.Kempt ∧ sc'.session.Kempt ∧ sc.Rests := by
  induction cues using List.reverseRecOn with
  | nil =>
      have hk := Session.kempt_fresh (ε := ε) (κ := κ) intervals delays
      exact ⟨⟨.refl _, rfl, rfl⟩, hk, hk, ⟨fun _ _ => nofun, fun _ _ _ _ _ => nofun⟩⟩
  | append_singleton cues cue ih =>
      obtain ⟨hagrees, hk, hk', hrests⟩ := ih
      have hlast (routes : Nat → Route) :
          (opening intervals delays).run (routed routes (cues ++ [cue])) =
            ((opening intervals delays).run (routed routes cues)).play cue.reaction
              (cue.happening.reroute (routes cues.length)) := by
        unfold run routed
        rw [List.mapIdx_concat, List.foldl_concat]
      dsimp only
      rw [hlast, hlast]
      exact ⟨hagrees.play hk hk' hrests _ _ _ _, kempt_play _ hk _, kempt_play _ hk' _,
        rests_settle _ _⟩

/-- Nobody can tell in which order a broadcast goes through the records. Whatever happens,
where listeners that are notified do no more than take registrations of their own origin
back, and in whichever orders two runs go through their records at each broadcast, after
every step the listeners of every origin were told the same at the same times. The answers
are the same, with the number of tasks that each drive ran, and so are the time, the
counters and the fan-outs in flight. The same origins have records with the same listeners
and the same delays. -/
theorem order_of_records_unobservable (intervals : IntervalSource) (delays : DelaySource)
    (cues : List (Cue ε κ)) (routes routes' : Nat → Route) :
    let sc := (opening intervals delays).run (routed routes cues)
    let sc' := (opening intervals delays).run (routed routes' cues)
    let d := sc.session.dispatcher
    let d' := sc'.session.dispatcher
    sc'.told = sc.told ∧ sc'.answers = sc.answers ∧
      sc'.session.timers.elapsed = sc.session.timers.elapsed ∧
      d'.stats = d.stats ∧ d'.pendingFanouts = d.pendingFanouts ∧
      d'.originCount = d.originCount ∧
      ∀ origin, d'.listenerCount origin = d.listenerCount origin ∧
        d'.randomDelay origin = d.randomDelay origin := by
  intro sc sc' d d'
  obtain ⟨hagrees, -⟩ := agrees_run intervals delays cues routes routes'
  have hd : d' = d.flying d'.inFlight := hagrees.session.dispatcher
  refine ⟨hagrees.told, hagrees.answers, hagrees.session.elapsed, ?_, hagrees.session.pending,
    ?_, fun origin => ⟨?_, ?_⟩⟩ <;> rw [hd] <;> rfl

end Scene

end Cadence.Broadcast

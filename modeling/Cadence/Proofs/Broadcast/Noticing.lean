import Cadence.Proofs.Broadcast.Portrait
import Cadence.Proofs.Broadcast.Spacing

/-! # What shows in a portrait

Each move shows in the portrait of an origin in a way that the portrait itself
determines, with the time and what the move says of the origin. Moves that are made
for other origins do not show. A broadcast shows in every portrait, by its verdict
and by at most one fan-out.
-/

namespace Cadence

/-- How far time is to go. -/
def Agenda.target {τ : Type} (a : Agenda τ) (t : Travel) : Span :=
  match a.depart t with
  | .inl drive => drive.limit
  | .inr _ => a.elapsed

namespace Broadcast

variable {ε κ : Type}

namespace Dispatcher

variable {d : Dispatcher ε} {interval : Span}

/-! ## A steady interval -/

theorem Steady.resolveInterval (h : d.Steady interval) :
    d.resolveInterval.1 = interval ∧ d.resolveInterval.2.1.Steady interval := by
  unfold Dispatcher.resolveInterval
  split
  next found hfound => exact ⟨h.known found hfound, h⟩
  next =>
    refine ⟨h.source _, h.source, fun found hfound => ?_⟩
    cases hfound
    exact h.source _

theorem Steady.add (h : d.Steady interval) (origin : Origin) (endpoint : ε) :
    (d.add origin endpoint).2.1.Steady interval := by
  have hnumbered : ({ d with nextEndpoint := d.nextEndpoint + 1 } : Dispatcher ε).Steady interval :=
    ⟨h.source, h.known⟩
  have hensured := hnumbered.resolveInterval.2
  unfold Dispatcher.add Dispatcher.ensureRecord
  dsimp only
  split
  next => exact ⟨h.source, h.known⟩
  next => exact ⟨hensured.source, hensured.known⟩

theorem Steady.remove (h : d.Steady interval) (r : Registration) :
    (d.remove r).1.Steady interval := by
  obtain ⟨records, hremove⟩ := d.remove_eq r
  rw [hremove]
  exact ⟨h.source, h.known⟩

/-- The delay of an origin stays as long as somebody is registered for it. -/
theorem Sound.randomDelay_remove (h : d.Sound) (r : Registration) (origin : Origin) :
    (d.remove r).1.randomDelay origin =
      if (d.remove r).1.registered origin = [] then none else d.randomDelay origin := by
  unfold randomDelay
  cases hrecord : (d.remove r).1.record? origin with
  | none => simp [registered_of_none hrecord]
  | some record =>
      obtain ⟨hpeopled, before, hbefore, hdelay⟩ := h.record?_of_remove hrecord
      simp [registered_of_record? hrecord, hpeopled, hbefore, hdelay]

theorem debounced_eq (d : Dispatcher ε) (interval now : Span) :
    d.debounced interval now = d.lastDispatch.any fun last => now - last < interval := by
  unfold debounced
  cases d.lastDispatch <;> rfl

/-- Who has no record has no delay. -/
theorem randomDelay_eq_none {origin : Origin} :
    d.randomDelay origin = none ↔ d.record? origin = none :=
  Option.map_eq_none_iff

end Dispatcher

/-- What a broadcast is to one origin: a verdict, and a fan-out of its own if the broadcast is
accepted and the origin has a record. -/
structure Aired (origin : Origin) (interval : Span) (d : Dispatcher ε) (a : Agenda (Errand κ))
    (verdict : Verdict) (d' : Dispatcher ε) (a' : Agenda (Errand κ)) : Prop where
  judged : verdict = judge interval a.elapsed d.lastDispatch
  steady : d'.Steady interval
  records : d'.records = d.records
  nextEndpoint : d'.nextEndpoint = d.nextEndpoint
  lastDispatch : d'.lastDispatch = if verdict = .accepted then some a.elapsed else d.lastDispatch
  nextId : a.nextId ≤ a'.nextId
  seen : view origin a'.queue = if verdict = .accepted then
      (d.randomDelay origin).elim (view origin a.queue) fun delay =>
        enqueue (a.elapsed + delay, none) (view origin a.queue)
    else view origin a.queue

section Airing

variable {origin : Origin} {interval : Span} {d d' : Dispatcher ε} {a : Agenda (Errand κ)}

/-- A broadcast that is not accepted schedules nothing. -/
theorem aired_refused {verdict : Verdict} (hrefused : verdict ≠ .accepted)
    (hjudged : verdict = judge interval a.elapsed d.lastDispatch) (hsteady : d'.Steady interval)
    (hkept : d.Kept d') (hlast : d'.lastDispatch = d.lastDispatch) :
    Aired origin interval d a verdict d' a where
  judged := hjudged
  steady := hsteady
  records := hkept.records
  nextEndpoint := hkept.nextEndpoint
  lastDispatch := hlast.trans (if_neg hrefused).symm
  nextId := Nat.le_refl _
  seen := (if_neg hrefused).symm

/-- A broadcast that is accepted schedules a fan-out for each record. -/
theorem aired_accepted (h : d.Steady interval) (hd : d.Sound) (ha : a.Sound) (route : Route)
    (hjudged : .accepted = judge interval a.elapsed d.lastDispatch) :
    let state := (route.visit (d.resolveInterval.2.1.records.map Prod.fst)).foldl
      Dispatcher.scheduleFanOut (d.resolveInterval.2.1.accepting a.elapsed, a)
    Aired origin interval d a .accepted state.1 state.2 := by
  intro state
  have hsteady := h.resolveInterval.2
  have hkept := d.resolveInterval_kept
  have hvisit := route.perm (d.resolveInterval.2.1.records.map Prod.fst)
  have hannounced := announced_broadcast hd ha route a.elapsed
  have hdelay : (d.resolveInterval.2.1.accepting a.elapsed).randomDelay origin =
      d.randomDelay origin :=
    congrArg (Option.map _) (Dispatcher.record?_congr hkept.records origin)
  have hmem : origin ∈ route.visit (d.resolveInterval.2.1.records.map Prod.fst) ↔
      d.randomDelay origin ≠ none := by
    rw [hvisit.mem_iff, hkept.records, ← Dispatcher.record?_ne_none, Ne, Ne,
      Dispatcher.randomDelay_eq_none]
  obtain ⟨given, -, hstate⟩ := hannounced.dispatcher
  constructor
  case judged => exact hjudged
  case steady =>
    refine cast (congrArg (Dispatcher.Steady interval) hstate.symm) ?_
    exact ⟨hsteady.source, hsteady.known⟩
  case records => exact (congrArg Dispatcher.records hstate).trans hkept.records
  case nextEndpoint => exact (congrArg Dispatcher.nextEndpoint hstate).trans hkept.nextEndpoint
  case lastDispatch => exact congrArg Dispatcher.lastDispatch hstate
  case nextId => exact hannounced.nextId ▸ Nat.le_add_right _ _
  case seen =>
    refine (hannounced.seen origin).trans ?_
    simp only [hmem, hdelay]
    cases d.randomDelay origin <;> simp

theorem aired_broadcast (h : d.Steady interval) (hd : d.Sound) (ha : a.Sound) (route : Route)
    (origin : Origin) :
    let out := d.broadcast route.visit a (Timeline.clock Agenda.Drive a)
    Aired origin interval d a out.1 out.2.1 out.2.2.1 := by
  obtain ⟨hinterval, hsteady⟩ := h.resolveInterval
  have hkept := d.resolveInterval_kept
  have hlast := d.idle_resolveInterval.lastDispatch
  have hclock : Timeline.clock Agenda.Drive a = a.clock := rfl
  have hjudge (hreadable : a.elapsed.secs < Agenda.clockSecs) :
      judge interval a.elapsed d.lastDispatch =
        if d.resolveInterval.2.1.debounced interval a.elapsed then .suppressed else .accepted := by
    unfold judge
    rw [if_neg (Nat.not_le.mpr hreadable), Dispatcher.debounced_eq, hlast]
  rw [hclock]
  unfold Agenda.clock
  by_cases hreadable : a.elapsed.secs < Agenda.clockSecs
  · rw [if_pos hreadable]
    by_cases hearly : d.resolveInterval.2.1.debounced interval a.elapsed
    · rw [d.broadcast_of_early _ _ (hinterval.symm ▸ hearly)]
      have hjudged := ((hjudge hreadable).trans (if_pos hearly)).symm
      refine aired_refused (fun heq => Verdict.noConfusion heq) hjudged ?_ ?_ hlast
      · exact ⟨hsteady.source, hsteady.known⟩
      · exact ⟨hkept.records, hkept.nextEndpoint, hkept.nextTicket⟩
    · rw [d.broadcast_of_ready _ _ (hinterval.symm ▸ hearly)]
      exact aired_accepted h hd ha route ((hjudge hreadable).trans (if_neg hearly)).symm
  · rw [if_neg hreadable, d.broadcast_of_unreadable]
    refine aired_refused (fun heq => Verdict.noConfusion heq) ?_ hsteady hkept hlast
    exact (if_pos (Nat.le_of_not_lt hreadable)).symm

end Airing

/-! ## What a happening does to a portrait -/

namespace Scene

variable {origin : Origin} {interval : Span} {roll : List EndpointId} {posts : List TaskId}
  {sc : Scene ε κ}

/-- A scene comes by itself to one that is posed, and that settles to look like this. -/
def Comes (origin : Origin) (interval : Span) (roll : List EndpointId) (posts : List TaskId)
    (sc : Scene ε κ) (p : Portrait κ) : Prop :=
  ∃ next, Reaches still sc next ∧ next.Posed origin interval roll posts ∧
    (next.portrait origin roll posts).settle = p.settle

theorem Posed.comes (h : sc.Posed origin interval roll posts) {p : Portrait κ}
    (hp : sc.portrait origin roll posts = p) : Comes origin interval roll posts sc p :=
  ⟨sc, .refl, h, congrArg Portrait.settle hp⟩

/-- What a scene comes to by itself is what it settles to. -/
theorem Comes.settle {p : Portrait κ} (h : Comes origin interval roll posts sc p) :
    (sc.settle still).Posed origin interval roll posts ∧
      (sc.settle still).portrait origin roll posts = p.settle := by
  obtain ⟨next, hreach, hposed, hsettled⟩ := h
  obtain ⟨hnext, hportrait⟩ := hposed.settle
  rw [hreach.settle]
  exact ⟨hnext, hportrait.trans hsettled⟩

theorem answer_of_held {u : OnAgenda ε κ} (h : u.standing ≠ .orphaned) (notes : List Note)
    (answer : Answer) :
    (u.answer notes answer : Result ε κ) =
      { session := u, notes, signal := .answered answer } := by
  unfold Session.answer
  rw [if_neg fun horphaned => h horphaned.1]

theorem absorb_answered (sc : Scene ε κ) (u : OnAgenda ε κ) (notes : List Note)
    (answer : Answer) :
    sc.absorb { session := u, notes, signal := .answered answer } =
      { sc with session := u, answers := sc.answers ++ [answer] } := rfl

theorem absorb_answer {u : OnAgenda ε κ} (h : u.standing ≠ .orphaned) (sc : Scene ε κ)
    (notes : List Note) (answer : Answer) :
    sc.absorb (u.answer notes answer) =
      { sc with session := u, answers := sc.answers ++ [answer] } := by
  rw [answer_of_held h, absorb_answered]

theorem absorb_quiet (sc : Scene ε κ) (u : OnAgenda ε κ) :
    sc.absorb { session := u } = { sc with session := u } := by
  simp [absorb, Outcome.notification?, Outcome.answer?]

/-- An answer that is no verdict does not show. -/
theorem Posed.comes_answer (h : sc.Posed origin interval roll posts) (answer : Answer)
    (hverdict : answer.verdict? = none) :
    Comes origin interval roll posts { sc with answers := sc.answers ++ [answer] }
      (sc.portrait origin roll posts) :=
  (h.answering _).comes (by simp [portrait_answering, hverdict])

/-- A scene stays posed if nobody comes in and nothing new waits but fan-outs. -/
theorem Posed.alter (h : sc.Posed origin interval roll posts) {u : OnAgenda ε κ}
    {answers : List Answer} (kempt : u.Kempt) (vacated : u.Vacated)
    (standing : u.standing ≠ .orphaned) (frames : u.frames = sc.session.frames)
    (steady : u.dispatcher.Steady interval)
    (nextEndpoint : u.dispatcher.nextEndpoint = sc.session.dispatcher.nextEndpoint)
    (registered : u.dispatcher.registered origin ⊆ sc.session.dispatcher.registered origin)
    (nextId : sc.session.timers.nextId ≤ u.timers.nextId)
    (posted : ∀ x ∈ view origin u.timers.queue, x.2.isSome →
      x ∈ view origin sc.session.timers.queue) :
    ({ sc with session := u, answers } : Scene ε κ).Posed origin interval roll posts where
  kempt := kempt
  vacated := vacated
  standing := standing
  plain := frames ▸ h.plain
  steady := steady
  roll_lt id hid := by
    rw [nextEndpoint]
    exact h.roll_lt id hid
  registered id hid := h.registered id (registered hid)
  told := h.told
  posts_lt id hid := Nat.lt_of_lt_of_le (h.posts_lt id hid) nextId
  posted x hx work hwork := h.posted x (posted x hx (Option.isSome_of_mem hwork)) work hwork

/-- A registration that is taken back shows in the portrait of its origin. -/
theorem Posed.comes_remove (h : sc.Posed origin interval roll posts) (r : Registration)
    (hkempt : Session.Kempt
      { sc.session with dispatcher := (sc.session.dispatcher.remove r).1 })
    (hvacated : Session.Vacated
      { sc.session with dispatcher := (sc.session.dispatcher.remove r).1 }) :
    Comes origin interval roll posts
      { sc with
        session := { sc.session with dispatcher := (sc.session.dispatcher.remove r).1 }
        answers := sc.answers ++ [.done] }
      (if r.origin = origin then (sc.portrait origin roll posts).strike (roll.idxOf r.id)
      else sc.portrait origin roll posts) := by
  have hsound := h.kempt.sound.registry
  have hidle := sc.session.dispatcher.idle_remove r
  have hregistered := hsound.registered_remove r origin
  have hverdicts : (sc.answers ++ [Answer.done]).filterMap Answer.verdict? =
      sc.answers.filterMap Answer.verdict? := by simp [Answer.verdict?]
  refine Posed.comes ?_ ?_
  · apply h.alter
    case kempt => exact hkempt
    case vacated => exact hvacated
    case standing => exact h.standing
    case frames => rfl
    case steady => exact h.steady.remove r
    case nextEndpoint => exact (sc.session.dispatcher.remove_counters r).1
    case registered => exact fun id hid => (hsound.mem_registered_remove.mp hid).1
    case nextId => exact Nat.le_refl _
    case posted => exact fun _ hx _ => hx
  · split
    next horigin =>
      subst horigin
      have hplaces : ((sc.session.dispatcher.remove r).1.registered r.origin).map roll.idxOf =
          ((sc.session.dispatcher.registered r.origin).map roll.idxOf).filter
            (· ≠ roll.idxOf r.id) := by
        rw [hregistered, if_pos rfl, List.filter_map]
        refine congrArg (List.map _) (List.filter_congr fun id hid => ?_)
        simp [List.idxOf_inj (h.registered id hid)]
      have hgone : (sc.session.dispatcher.remove r).1.registered r.origin = [] ↔
          ((sc.session.dispatcher.registered r.origin).map roll.idxOf).filter
            (· ≠ roll.idxOf r.id) = [] := by
        rw [← hplaces, List.map_eq_nil_iff]
      have hdelay := (hsound.randomDelay_remove r r.origin).trans (if_congr hgone rfl rfl)
      simp only [portrait, Portrait.strike, hverdicts, hidle.lastDispatch, hplaces, hdelay]
      rfl
    next horigin =>
      have hrecord : (sc.session.dispatcher.remove r).1.record? origin =
          sc.session.dispatcher.record? origin := by
        rw [hsound.remove_eq]
        exact Dispatcher.record?_amend_of_ne (Ne.symm horigin)
      simp [portrait, hverdicts, hidle.lastDispatch, Dispatcher.randomDelay, Dispatcher.registered,
        hrecord]

/-- A fan-out that is called for and that nobody reacts to tells all that are registered. -/
theorem reaches_request {u : OnAgenda ε κ} (hu : u.dispatcher.Sound)
    (hstanding : u.standing ≠ .orphaned) (sc : Scene ε κ) (notes : List Note) (other : Origin) :
    ∃ stats, Reaches still
      (sc.absorb (u.fan notes .request other (u.dispatcher.registered other)))
      { session := { u with dispatcher := { u.dispatcher with stats } }
        told := Function.update sc.told other
          (sc.told other ++ (u.dispatcher.registered other).map (·, u.timers.elapsed))
        answers := sc.answers ++ [.done] } := by
  let c : Cell ε := ⟨u.dispatcher.record? other, sc.told other⟩
  have hvisit := c.visit_still (u.dispatcher.registered other) u.timers.elapsed
    fun _ hid => hid
  have hreach : Reaches still _ _ := reaches_fan hu sc notes .request hvisit
  have hnotified (count : Nat) : u.dispatcher.notified other c.record count =
      { u.dispatcher with
        stats :=
          { u.dispatcher.stats with
            notifications := u.dispatcher.stats.notifications + count } } := by
    unfold Dispatcher.notified
    rw [hu.amend_self]
  have hdone (v : OnAgenda ε κ) :
      (v.fan [] .request other [] : Result ε κ) = v.answer [] .done := rfl
  rw [hnotified, hdone, absorb_answer] at hreach
  · exact ⟨_, hreach⟩
  · exact hstanding

/-- A fan-out that is called for shows in the portrait of its origin. -/
theorem Posed.comes_dispatch (h : sc.Posed origin interval roll posts) (other : Origin)
    (hkempt : (sc.session.fanOut [] .request other : Result ε κ).session.Kempt) :
    Comes origin interval roll posts (sc.absorb (sc.session.fanOut [] .request other))
      (if other = origin then
        (sc.portrait origin roll posts).fanOut sc.session.timers.elapsed
      else sc.portrait origin roll posts) := by
  obtain ⟨logged, hfan⟩ := sc.session.fanOut_eq (κ := κ) [] .request other
  have hkept := sc.session.dispatcher.startFanOut_kept other none
  have hidle := sc.session.dispatcher.idle_startFanOut other none
  have halike := sc.session.dispatcher.alike_startFanOut other none
  have hregistered := Dispatcher.registered_congr hkept.records
  let u : OnAgenda ε κ :=
    { sc.session with dispatcher := (sc.session.dispatcher.startFanOut other none).2.1 }
  have hu : u.dispatcher.Sound := h.kempt.sound.registry.congr hkept.records hkept.nextEndpoint
  obtain ⟨stats, hreach⟩ := reaches_request hu h.standing sc logged other
  have hrequest : (sc.session.fanOut [] .request other : Result ε κ) =
      u.fan logged .request other (u.dispatcher.registered other) :=
    hfan.trans (congrArg (u.fan logged .request other) (hregistered other).symm)
  rw [hrequest] at hkempt ⊢
  have htold : Function.update sc.told other (sc.told other ++
      (u.dispatcher.registered other).map (·, u.timers.elapsed)) origin =
        sc.told origin ++ if other = origin then
          (sc.session.dispatcher.registered other).map (·, sc.session.timers.elapsed) else [] := by
    rw [update_append, ← hregistered other]
  have hposed : ({ sc with
      session := { u with dispatcher := { u.dispatcher with stats } }
      answers := sc.answers ++ [.done] } : Scene ε κ).Posed origin interval roll posts := by
    apply h.alter
    case kempt => exact hreach.kempt hkempt
    case vacated => exact fun hclosed => hkept.records.trans (h.vacated hclosed)
    case standing => exact h.standing
    case frames => rfl
    case steady => exact ⟨halike.intervals ▸ h.steady.source, halike.interval ▸ h.steady.known⟩
    case nextEndpoint => exact hkept.nextEndpoint
    case registered => exact fun id hid => hregistered origin ▸ hid
    case nextId => exact Nat.le_refl _
    case posted => exact fun _ hx _ => hx
  refine ⟨_, hreach, { hposed with told := fun n hn => ?_ }, congrArg Portrait.settle ?_⟩
  · exact h.told_append other _ n ((congrArg (n ∈ ·) htold).mp hn)
  · rw [portrait_of_records roll posts (by exact hkept.records) (by rfl), htold]
    split
    next hother =>
      subst hother
      simp [Portrait.fanOut, portrait, u, hidle.lastDispatch, Answer.verdict?]
    next hother =>
      simp [portrait, u, hidle.lastDispatch, Answer.verdict?]

/-- A broadcast shows in every portrait. -/
theorem Posed.comes_broadcast (h : sc.Posed origin interval roll posts) (route : Route)
    (hkempt : (sc.session.broadcast route.visit : Result ε κ).session.Kempt) :
    Comes origin interval roll posts (sc.absorb (sc.session.broadcast route.visit))
      ((sc.portrait origin roll posts).broadcast interval sc.session.timers.elapsed) := by
  have haired := aired_broadcast h.steady h.kempt.sound.registry h.kempt.sound.agenda route origin
  unfold Session.broadcast at hkempt ⊢
  generalize sc.session.dispatcher.broadcast route.visit sc.session.timers
    (Timeline.clock Agenda.Drive sc.session.timers) = out at haired hkempt ⊢
  obtain ⟨verdict, d, timers, events⟩ := out
  dsimp only at haired hkempt ⊢
  rw [answer_of_held (by exact h.standing)] at hkempt
  rw [absorb_answer (by exact h.standing)]
  have hregistered := Dispatcher.registered_congr haired.records origin
  refine Posed.comes ?_ ?_
  · apply h.alter
    case kempt => exact hkempt
    case vacated => exact fun hclosed => haired.records.trans (h.vacated hclosed)
    case standing => exact h.standing
    case frames => rfl
    case steady => exact haired.steady
    case nextEndpoint => exact haired.nextEndpoint
    case registered => exact fun id hid => hregistered ▸ hid
    case nextId => exact haired.nextId
    case posted =>
      intro x hx hwork
      replace hx := (congrArg (x ∈ ·) haired.seen).mp hx
      split at hx
      next =>
        cases hdelay : sc.session.dispatcher.randomDelay origin with
        | none => simpa [hdelay] using hx
        | some delay =>
            rw [hdelay] at hx
            rcases mem_enqueue.mp hx with rfl | hold
            · cases hwork
            · exact hold
      next => exact hx
  · have hjudged : judge interval sc.session.timers.elapsed
        (sc.portrait origin roll posts).lastDispatch = verdict := haired.judged.symm
    rw [portrait_of_records roll posts haired.records (by rfl)]
    unfold Portrait.broadcast
    rw [hjudged, haired.lastDispatch, haired.seen]
    by_cases haccepted : verdict = .accepted
    · cases hdelay : sc.session.dispatcher.randomDelay origin <;>
        simp [portrait, haccepted, hdelay, placed_enqueue, Answer.verdict?]
    · simp [portrait, haccepted, Answer.verdict?]

/-- That the interval is asked for does not show. -/
theorem Posed.comes_resolve (h : sc.Posed origin interval roll posts)
    (hkempt : (sc.session.resolve : Result ε κ).session.Kempt) :
    Comes origin interval roll posts (sc.absorb sc.session.resolve)
      (sc.portrait origin roll posts) := by
  have hkept := sc.session.dispatcher.resolveInterval_kept
  have hidle := sc.session.dispatcher.idle_resolveInterval
  have hregistered := Dispatcher.registered_congr hkept.records origin
  unfold Session.resolve at hkempt ⊢
  dsimp only at hkempt ⊢
  rw [answer_of_held (by exact h.standing)] at hkempt
  rw [absorb_answer (by exact h.standing)]
  refine Posed.comes ?_ ?_
  · apply h.alter
    case kempt => exact hkempt
    case vacated => exact fun hclosed => hkept.records.trans (h.vacated hclosed)
    case standing => exact h.standing
    case frames => rfl
    case steady => exact h.steady.resolveInterval.2
    case nextEndpoint => exact hkept.nextEndpoint
    case registered => exact fun id hid => hregistered ▸ hid
    case nextId => exact Nat.le_refl _
    case posted => exact fun _ hx _ => hx
  · rw [portrait_of_records roll posts hkept.records (by rfl)]
    simp [portrait, hidle.lastDispatch, Answer.verdict?]

/-- An owner that lets go shows in every portrait. -/
theorem Posed.comes_letGo (h : sc.Posed origin interval roll posts)
    (hkempt : (sc.session.letGo : Result ε κ).session.Kempt) :
    Comes origin interval roll posts (sc.absorb sc.session.letGo)
      ((sc.portrait origin roll posts).heed interval sc.session.timers.elapsed .letGo) := by
  have hbusy : sc.session.busy = false := by
    unfold Session.busy
    rw [List.any_eq_false]
    intro frame hframe
    rcases h.plain frame hframe with rfl | ⟨drive, rfl⟩ <;> simp [Session.Frame.isRequest]
  unfold Session.letGo at hkempt ⊢
  by_cases howned : sc.session.standing = .owned
  · simp only [howned, hbusy, ne_eq, not_true, Bool.false_eq_true, if_false] at hkempt ⊢
    have hview := h.kempt.tidy.view_close origin
    rw [absorb_answered]
    refine Posed.comes ?_ ?_
    · apply h.alter
      case kempt => exact hkempt
      case vacated => exact fun _ => rfl
      case standing => exact fun horphaned => Standing.noConfusion horphaned
      case frames => rfl
      case steady => exact ⟨h.steady.source, h.steady.known⟩
      case nextEndpoint => rfl
      case registered => exact List.nil_subset _
      case nextId => exact Nat.le_of_eq (Agenda.foldl_cancel_nextId _ _).symm
      case posted =>
        intro x hx _
        rw [hview] at hx
        exact (List.mem_filter.mp hx).1
    · have hqueue : placed posts (view origin sc.session.close.1.timers.queue) =
          (placed posts (view origin sc.session.timers.queue)).filter fun x => x.2.isSome := by
        rw [hview]
        simp [placed, List.filter_map, Function.comp_def]
      have hstanding : sc.session.close.1.standing = .closed := rfl
      have hframes : sc.session.close.1.frames = sc.session.frames := rfl
      have hlast : sc.session.close.1.dispatcher.lastDispatch =
          sc.session.dispatcher.lastDispatch := rfl
      have hdelay : sc.session.close.1.dispatcher.randomDelay origin = none := rfl
      have hplaces : sc.session.close.1.dispatcher.registered origin = [] := rfl
      simp [Portrait.heed, portrait, howned, hqueue, hstanding, hframes, hlast, hdelay, hplaces,
        Answer.verdict?]
  · simp only [howned, ne_eq, not_false_iff, if_true]
    refine cast (congrArg (Comes origin interval roll posts _) ?_)
      (h.comes_answer (.dropped false) rfl)
    simp [Portrait.heed, portrait, howned]

/-- A drive that starts shows in every portrait with its target. One that has nothing to run
may start or not. -/
theorem Posed.comes_travel (h : sc.Posed origin interval roll posts) (t : Travel)
    (hkempt : (sc.session.travel t : Result ε κ).session.Kempt) :
    Comes origin interval roll posts (sc.absorb (sc.session.travel t))
      ((sc.portrait origin roll posts).heed interval sc.session.timers.elapsed
        (.travelled (sc.session.timers.target t))) := by
  have hdepart : Timeline.depart sc.session.timers t = sc.session.timers.depart t := rfl
  unfold Session.travel at hkempt ⊢
  unfold Agenda.target
  rw [hdepart] at hkempt ⊢
  cases hstart : sc.session.timers.depart t with
  | inl drive =>
      rw [hstart] at hkempt
      refine ⟨_, .refl, { h with kempt := hkempt, plain := ?_ }, ?_⟩
      · exact List.forall_mem_cons.mpr ⟨.inr ⟨drive, rfl⟩, h.plain⟩
      · refine congrArg Portrait.settle ?_
        simp [portrait, absorb, Portrait.heed, Frame.limit?, Outcome.answer?,
          Outcome.notification?]
  | inr arrival =>
      have hempty : sc.session.timers.queue = [] := by
        cases t with
        | advance _ | runUntilIdle => simp [Agenda.depart] at hstart
        | fastForward =>
            unfold Agenda.depart at hstart
            dsimp only at hstart
            split at hstart
            next hnone => simpa [Agenda.nextDelay] using hnone
            next => cases hstart
      have hover : ((sc.portrait origin roll posts).heed interval sc.session.timers.elapsed
          (.travelled sc.session.timers.elapsed)).tick = some (sc.portrait origin roll posts) := by
        refine Portrait.tick_of_late rfl fun x hx => ?_
        simp [Portrait.heed, portrait, placed, view, hempty] at hx
      obtain ⟨next, hreach, hposed, hsettled⟩ := h.comes_answer (.arrived arrival) rfl
      exact ⟨next, hreach, hposed, hsettled.trans (Portrait.settle_of_tick hover).symm⟩

/-- Work that returns shows in every portrait. -/
theorem Posed.comes_resume (h : sc.Posed origin interval roll posts) (hrests : sc.Rests)
    (hkempt : (sc.session.resume : Result ε κ).session.Kempt) :
    Comes origin interval roll posts (sc.absorb sc.session.resume)
      ((sc.portrait origin roll posts).heed interval sc.session.timers.elapsed .resumed) := by
  unfold Session.resume at hkempt ⊢
  cases hframes : sc.session.frames with
  | nil =>
      dsimp only
      rw [absorb_quiet]
      refine h.comes ?_
      simp [Portrait.heed, portrait, hframes]
  | cons frame rest =>
      obtain ⟨hframe, hplain⟩ := h.plain_cons hframes
      rcases hframe with rfl | ⟨drive, rfl⟩
      · rw [hframes] at hkempt
        dsimp only at hkempt ⊢
        rw [absorb_quiet]
        refine Posed.comes ?_ ?_
        · exact { h with kempt := hkempt, plain := hplain }
        · simp [Portrait.heed, portrait, hframes, Frame.limit?]
      · exact absurd hframes (hrests.drive drive rest)

/-- Posted work has the next place in every portrait. -/
theorem Posed.comes_post (h : sc.Posed origin interval roll posts) (delay : Span) (work : κ)
    (hkempt : (sc.session.act (.post delay work)).session.Kempt) :
    Comes origin interval roll (posts ++ [sc.session.timers.nextId])
      (sc.absorb (sc.session.act (.post delay work)))
      ((sc.portrait origin roll posts).heed interval sc.session.timers.elapsed
        (.posted delay work)) := by
  have hseen : view origin (sc.session.timers.schedule delay (.posted work)).2.queue = _ :=
    view_schedule_of_some h.kempt.sound.agenda (glimpse_of_posted rfl)
  unfold Session.act at hkempt ⊢
  dsimp only at hkempt ⊢
  rw [absorb_quiet]
  have hfresh : sc.session.timers.nextId ∉ posts := fun hmem =>
    Nat.lt_irrefl _ (h.posts_lt _ hmem)
  refine Posed.comes ?_ ?_
  · constructor
    case kempt => exact hkempt
    case vacated => exact h.vacated
    case standing => exact h.standing
    case plain => exact h.plain
    case steady => exact h.steady
    case roll_lt => exact h.roll_lt
    case registered => exact h.registered
    case told => exact h.told
    case posts_lt =>
      intro id hid
      rcases List.mem_append.mp hid with hold | hnew
      · exact Nat.lt_succ_of_lt (h.posts_lt id hold)
      · rw [List.mem_singleton.mp hnew]
        exact Nat.lt_succ_self _
    case posted =>
      intro x hx found hfound
      rw [hseen] at hx
      rcases mem_enqueue.mp hx with rfl | hold
      · cases hfound
        exact List.mem_append_right _ List.mem_cons_self
      · exact List.mem_append_left _ (h.posted x hold found hfound)
  · have hold := placed_append h.posted [sc.session.timers.nextId]
    simp [Portrait.heed, portrait, hseen, placed_enqueue, hold, idxOf_append_fresh hfresh,
      Agenda.entryFor]

/-- Posted work that is taken back goes by its place. -/
theorem Posed.comes_withdraw (h : sc.Posed origin interval roll posts) (id : TaskId)
    (hkempt : (sc.session.undergo (.withdraw id : Happening ε κ)).session.Kempt) :
    Comes origin interval roll posts (sc.absorb (sc.session.undergo (.withdraw id)))
      ((sc.portrait origin roll posts).heed interval sc.session.timers.elapsed
        (.withdrawn (posts.idxOf id))) := by
  have hview : view origin (withdraw sc.session.timers id).queue = _ :=
    view_withdraw h.kempt.sound.agenda id
  unfold Session.undergo at hkempt ⊢
  dsimp only at hkempt ⊢
  rw [absorb_quiet]
  refine Posed.comes ?_ ?_
  · apply h.alter
    case kempt => exact hkempt
    case vacated => exact h.vacated
    case standing => exact h.standing
    case frames => rfl
    case steady => exact h.steady
    case nextEndpoint => rfl
    case registered => exact List.Subset.refl _
    case nextId =>
      rcases withdraw_cases sc.session.timers id with hsame | ⟨hcancel, -⟩
      · exact Nat.le_of_eq (congrArg Agenda.nextId hsame).symm
      · have hkept : (withdraw sc.session.timers id).nextId = sc.session.timers.nextId :=
          (congrArg Agenda.nextId hcancel).trans (Agenda.cancel_nextId _ id)
        exact Nat.le_of_eq hkept.symm
    case posted =>
      intro x hx _
      rw [hview] at hx
      exact (List.mem_filter.mp hx).1
  · have hqueue : placed posts (view origin (withdraw sc.session.timers id).queue) =
        (placed posts (view origin sc.session.timers.queue)).filter
          fun x => x.2.map Prod.fst ≠ some (posts.idxOf id) := by
      unfold placed
      rw [hview, List.filter_map]
      refine congrArg (List.map _) (List.filter_congr fun x hx => ?_)
      cases hwork : x.2 with
      | none => simp [hwork]
      | some work => simp [hwork, List.idxOf_inj (h.posted x hx work hwork)]
    simp [Portrait.heed, portrait, hqueue]

/-- The scene in which a listener was registered, was handed its registration and returned. -/
def joined (sc : Scene ε κ) (other : Origin) (endpoint : ε) : Scene ε κ where
  session := { sc.session with dispatcher := (sc.session.dispatcher.add other endpoint).2.1 }
  told := sc.told
  answers := sc.answers ++ [.registered sc.session.dispatcher.nextEndpoint]

section Joining

variable (h : sc.Posed origin interval roll posts) (howned : sc.session.standing = .owned)
  (other : Origin) (endpoint : ε)

include h howned

/-- Who registers for an origin has the next place. -/
theorem Posed.posed_joined (hkempt : (sc.joined other endpoint).session.Kempt) :
    (sc.joined other endpoint).Posed origin interval
      (roll ++ if other = origin then [sc.session.dispatcher.nextEndpoint] else []) posts := by
  have hnext := (sc.session.dispatcher.add_counters other endpoint).1
  have hregistered := sc.session.dispatcher.registered_add other endpoint origin
  constructor
  case kempt => exact hkempt
  case vacated => exact Session.Vacated.of_held howned
  case standing => exact h.standing
  case plain => exact h.plain
  case steady => exact h.steady.add other endpoint
  case roll_lt =>
    intro x hx
    refine Nat.lt_of_lt_of_eq ?_ hnext.symm
    rcases List.mem_append.mp hx with hold | hnew
    · exact Nat.lt_succ_of_lt (h.roll_lt x hold)
    · split at hnew
      · rw [List.mem_singleton.mp hnew]
        exact Nat.lt_succ_self _
      · cases hnew
  case registered =>
    intro x hx
    replace hx := (congrArg (x ∈ ·) hregistered).mp hx
    rcases List.mem_append.mp hx with hold | hnew
    · exact List.mem_append_left _ (h.registered x hold)
    · refine List.mem_append_right _ ?_
      simpa only [eq_comm] using hnew
  case told => exact fun n hn => List.mem_append_left _ (h.told n hn)
  case posts_lt => exact h.posts_lt
  case posted => exact h.posted

/-- A registration shows in the portrait of its origin, with the delay that the origin has
then. -/
theorem Posed.portrait_joined :
    (sc.joined other endpoint).portrait origin
        (roll ++ if other = origin then [sc.session.dispatcher.nextEndpoint] else []) posts =
      if other = origin then
        (sc.portrait origin roll posts).heed interval sc.session.timers.elapsed
          (.enrolled ((sc.session.dispatcher.add other endpoint).2.1.randomDelay origin))
      else sc.portrait origin roll posts := by
  have hidle := sc.session.dispatcher.idle_add other endpoint
  split
  next hother =>
    subst hother
    have hregistered := sc.session.dispatcher.registered_add other endpoint other
    have hfresh : sc.session.dispatcher.nextEndpoint ∉ roll := fun hmem =>
      Nat.lt_irrefl _ (h.roll_lt _ hmem)
    rw [if_pos rfl] at hregistered
    simp [Portrait.heed, portrait, joined, hregistered, howned, hidle.lastDispatch,
      Answer.verdict?]
    exact ⟨⟨fun x hx => List.idxOf_append_of_mem (h.registered x hx), idxOf_append_fresh hfresh⟩,
      fun x time hx => List.idxOf_append_of_mem (h.told (x, time) hx)⟩
  next hother =>
    obtain ⟨delay, hrecord⟩ := sc.session.dispatcher.record?_add other endpoint
    have hrecord' : (sc.session.dispatcher.add other endpoint).2.1.record? origin =
        sc.session.dispatcher.record? origin := (hrecord origin).trans (if_neg (Ne.symm hother))
    simp [portrait, joined, Dispatcher.registered, Dispatcher.randomDelay, hrecord',
      hidle.lastDispatch, Answer.verdict?]
    rfl

end Joining

/-- What is refused does not show. -/
theorem Posed.heed_of_gone (h : sc.Posed origin interval roll posts)
    (hgone : sc.session.standing ≠ .owned) :
    let p := sc.portrait origin roll posts
    p.owned = false ∧ ∀ place, p.strike place = p := by
  intro p
  have hclosed : sc.session.standing = .closed := by
    cases hstanding : sc.session.standing with
    | owned => exact absurd hstanding hgone
    | orphaned => exact absurd hstanding h.standing
    | closed => rfl
  have hrecord : sc.session.dispatcher.record? origin = none :=
    congrArg (List.lookup origin) (h.vacated hclosed)
  have hplaces : p.places = [] :=
    congrArg (List.map _) (Dispatcher.registered_of_none hrecord)
  have hdelay : p.delay = none := Dispatcher.randomDelay_eq_none.mpr hrecord
  refine ⟨decide_eq_false hgone, fun place => ?_⟩
  ext1 <;> simp [Portrait.strike, hplaces, hdelay]

end Scene

end Broadcast

end Cadence

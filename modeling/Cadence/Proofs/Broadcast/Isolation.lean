import Cadence.Proofs.Broadcast.Noticing

/-! # Origins in isolation

Origins share the time of the last dispatch, the numbers that are given out and the
queue. None of this tells one origin about the others. What is done for other origins
does not show in its portrait, and all else changes the portrait in a way that the
portrait itself determines. So two runs that an origin cannot tell apart by what is
done for it leave it the same deliveries, and all broadcasts the same verdicts.
-/

namespace Cadence.Broadcast

variable {ε κ : Type}

/-! ## Stages -/

namespace Session

/-- The number under which a listener is registered for an origin. -/
def enrolled? (origin : Origin) (s : OnAgenda ε κ) : Happening ε κ → Option EndpointId
  | .deed (.move _ (.add other _)) =>
      if other = origin ∧ s.standing = .owned then some s.dispatcher.nextEndpoint else none
  | _ => none

/-- The number under which work is posted. -/
def posted? (s : OnAgenda ε κ) : Happening ε κ → Option TaskId
  | .deed (.post _ _) => some s.timers.nextId
  | _ => none

end Session

/-- The scene once a listener that was handed its registration has returned. -/
def Scene.returned (sc : Scene ε κ) : Scene ε κ :=
  match sc.session.frames with
  | .installing _ :: _ => sc.absorb (sc.session.act (.move .straight .resume))
  | _ => sc

/-- A scene, with the registrations of an origin and the posted work in the order in which
they came. -/
structure Stage (ε κ : Type) where
  scene : Scene ε κ
  roll : List EndpointId := []
  posts : List TaskId := []

namespace Stage

/-- The stage after something happened, with listeners that do not call back. -/
def next (origin : Origin) (st : Stage ε κ) (h : Happening ε κ) : Stage ε κ where
  scene := (st.scene.play still h).returned
  roll := st.roll ++ (st.scene.session.enrolled? origin h).toList
  posts := st.posts ++ (st.scene.session.posted? h).toList

/-- What an origin notices of a happening. It does not notice what is done for others, and of
a drive it notices how far it goes. -/
def sign? (origin : Origin) (st : Stage ε κ) (h : Happening ε κ) : Option (Sign κ) :=
  match h with
  | .withdraw id => some (.withdrawn (st.posts.idxOf id))
  | .deed (.post delay work) => some (.posted delay work)
  | .deed (.move _ m) =>
      match m with
      | .add other _ =>
          if other = origin then
            some (.enrolled ((st.scene.session.undergo h).session.dispatcher.randomDelay origin))
          else none
      | .remove r | .disconnect r =>
          if r.origin = origin then some (.struck (st.roll.idxOf r.id)) else none
      | .broadcast => some .broadcast
      | .dispatch other => if other = origin then some .dispatched else none
      | .letGo => some .letGo
      | .travel t => some (.travelled (st.scene.session.timers.target t))
      | .resume => some .resumed
      | .resolve | .proceed => none

/-- The stage after some happenings. -/
def after (origin : Origin) (st : Stage ε κ) (run : List (Happening ε κ)) : Stage ε κ :=
  run.foldl (next origin) st

/-- What an origin notices of a run, with the times. -/
def signs (origin : Origin) (st : Stage ε κ) : List (Happening ε κ) → List (Span × Sign κ)
  | [] => []
  | h :: rest =>
      ((st.sign? origin h).map (st.scene.session.timers.elapsed, ·)).toList ++
        (st.next origin h).signs origin rest

end Stage

namespace Scene

variable {origin : Origin} {interval : Span} {roll : List EndpointId} {posts : List TaskId}
  {sc : Scene ε κ}

/-- A listener is registered, handed its registration, and returns. -/
theorem returned_play_add (h : sc.Posed origin interval roll posts)
    (howned : sc.session.standing = .owned) (route : Route) (other : Origin) (endpoint : ε) :
    (sc.play still (.deed (.move route (.add other endpoint)))).returned =
      sc.joined other endpoint := by
  let u : OnAgenda ε κ :=
    { sc.session with dispatcher := (sc.session.dispatcher.add other endpoint).2.1 }
  have hundergone : sc.absorb (sc.session.undergo (.deed (.move route (.add other endpoint)))) =
      { sc with
        session :=
          { u with frames := .installing sc.session.dispatcher.nextEndpoint :: u.frames } } := by
    simp [Session.undergo, Session.act, Session.perform, Session.add, howned, absorb,
      Outcome.notification?, Outcome.answer?, Dispatcher.add, u]
  unfold play
  rw [hundergone, settle_of_rest rfl]
  refine absorb_answer ?_ _ _ _
  exact h.standing

theorem Posed.returned (h : sc.Posed origin interval roll posts) : sc.returned = sc := by
  unfold Scene.returned
  cases hframes : sc.session.frames with
  | nil => rfl
  | cons frame rest =>
      rcases (h.plain_cons hframes).1 with rfl | ⟨drive, rfl⟩ <;> rfl

theorem kempt_returned (h : sc.session.Kempt) : sc.returned.session.Kempt := by
  unfold Scene.returned
  split
  next => exact h.act _
  next => exact h

/-- The sign of a move that is refused changes nothing in the portrait. -/
theorem Posed.heed_of_refused (h : sc.Posed origin interval roll posts)
    (hgone : sc.session.standing ≠ .owned) (route : Route) {m : Move ε}
    (hneeds : Session.Move.needsDispatcher m) :
    (sc.portrait origin roll posts).notice interval sc.session.timers.elapsed
      ((Stage.mk sc roll posts).sign? origin (.deed (.move route m))) =
        sc.portrait origin roll posts := by
  obtain ⟨howned, hstrike⟩ := h.heed_of_gone hgone
  unfold Portrait.notice
  cases m with
  | add other _ | dispatch other =>
      by_cases hother : other = origin <;> simp [Stage.sign?, hother, Portrait.heed, howned]
  | remove r =>
      by_cases hother : r.origin = origin <;>
        simp [Stage.sign?, hother, Portrait.heed, hstrike]
  | broadcast => simp [Stage.sign?, Portrait.heed, howned]
  | resolve => rfl
  | disconnect _ | letGo | travel _ | resume | proceed =>
      simp [Session.Move.needsDispatcher] at hneeds

/-- A move shows by its sign, and one that has none does not show. -/
theorem Posed.comes_move (h : sc.Posed origin interval roll posts) (hrests : sc.Rests)
    (route : Route) (m : Move ε)
    (hadd : ∀ other endpoint, m = .add other endpoint → sc.session.standing ≠ .owned) :
    Comes origin interval roll posts (sc.absorb (sc.session.perform route.visit m))
      ((sc.portrait origin roll posts).notice interval sc.session.timers.elapsed
        ((Stage.mk sc roll posts).sign? origin (.deed (.move route m)))) := by
  have hkempt : (sc.session.perform route.visit m : Result ε κ).session.Kempt :=
    h.kempt.act (.move route m)
  have hvacated : (sc.session.perform route.visit m : Result ε κ).session.Vacated :=
    h.vacated.act (.move route m)
  unfold Session.perform at hkempt hvacated ⊢
  by_cases hgone : Session.Move.needsDispatcher m ∧ sc.session.standing ≠ .owned
  · rw [if_pos hgone]
    refine cast (congrArg (Comes origin interval roll posts _) ?_) (h.comes_answer .gone rfl)
    exact (h.heed_of_refused hgone.2 route hgone.1).symm
  · rw [if_neg hgone] at hkempt hvacated ⊢
    have howned : Session.Move.needsDispatcher m → sc.session.standing = .owned := fun hneeds =>
      Decidable.byContradiction fun hnot => hgone ⟨hneeds, hnot⟩
    unfold Portrait.notice
    cases m with
    | add other endpoint => exact absurd (howned rfl) (hadd other endpoint rfl)
    | broadcast =>
        have hheld : (sc.portrait origin roll posts).owned = true := decide_eq_true (howned rfl)
        simpa [Stage.sign?, Portrait.heed, hheld] using h.comes_broadcast route hkempt
    | dispatch other =>
        have hheld : (sc.portrait origin roll posts).owned = true := decide_eq_true (howned rfl)
        have hcomes := h.comes_dispatch other hkempt
        by_cases hother : other = origin <;>
          simpa [Stage.sign?, Portrait.heed, hheld, hother] using hcomes
    | remove r =>
        unfold Session.remove at hkempt hvacated ⊢
        dsimp only at hkempt hvacated ⊢
        rw [answer_of_held (by exact h.standing)] at hkempt hvacated
        rw [absorb_answer (by exact h.standing)]
        have hcomes := h.comes_remove r hkempt hvacated
        by_cases hother : r.origin = origin <;>
          simpa [Stage.sign?, Portrait.heed, hother] using hcomes
    | resolve => exact h.comes_resolve hkempt
    | disconnect r =>
        dsimp only
        rw [absorb_answered]
        have hcomes := h.comes_remove r hkempt hvacated
        by_cases hother : r.origin = origin <;>
          simpa [Stage.sign?, Portrait.heed, hother] using hcomes
    | letGo => exact h.comes_letGo hkempt
    | travel t => exact h.comes_travel t hkempt
    | resume => exact h.comes_resume hrests hkempt
    | proceed =>
        dsimp only
        rw [Session.proceed_of_rest hrests.drive, absorb_quiet]
        exact h.comes rfl

/-- What happens shows by its sign, and what has none does not show. -/
theorem Posed.comes_undergo (h : sc.Posed origin interval roll posts) (hrests : sc.Rests)
    (happening : Happening ε κ)
    (hadd : ∀ route other endpoint, happening = .deed (.move route (.add other endpoint)) →
      sc.session.standing ≠ .owned) :
    Comes origin interval (roll ++ (sc.session.enrolled? origin happening).toList)
      (posts ++ (sc.session.posted? happening).toList)
      (sc.absorb (sc.session.undergo happening))
      ((sc.portrait origin roll posts).notice interval sc.session.timers.elapsed
        ((Stage.mk sc roll posts).sign? origin happening)) := by
  have hkempt := h.kempt.undergo happening
  cases happening with
  | withdraw id =>
      have hcomes := h.comes_withdraw id hkempt
      simpa [Session.enrolled?, Session.posted?, Stage.sign?, Portrait.notice] using hcomes
  | deed deed =>
      cases deed with
      | post delay work =>
          have hcomes := h.comes_post delay work hkempt
          simpa [Session.enrolled?, Session.posted?, Stage.sign?, Session.undergo,
            Portrait.notice] using hcomes
      | move route m =>
          have hcomes := h.comes_move hrests route m fun other endpoint heq =>
            hadd route other endpoint (heq ▸ rfl)
          have hnobody : sc.session.enrolled? origin (.deed (.move route m)) = none := by
            cases m with
            | add other endpoint => exact if_neg fun hboth => hadd route other endpoint rfl hboth.2
            | _ => rfl
          simpa [hnobody, Session.posted?, Session.undergo, Session.act] using hcomes

end Scene

/-! ## Runs -/

namespace Stage

variable {origin : Origin} {interval : Span} {st : Stage ε κ}

/-- What a stage looks like to the origin. -/
def portrait (origin : Origin) (st : Stage ε κ) : Portrait κ :=
  st.scene.portrait origin st.roll st.posts

/-- A stage on which nothing happens by itself, with everything of the origin in its place. -/
structure Poised (origin : Origin) (interval : Span) (st : Stage ε κ) : Prop where
  posed : st.scene.Posed origin interval st.roll st.posts
  rests : st.scene.Rests

theorem Poised.settle_portrait (h : st.Poised origin interval) :
    (st.portrait origin).settle = st.portrait origin :=
  Portrait.settle_of_rest (Scene.tick_portrait_of_rests h.rests h.posed.plain)

/-- A registration changes the portrait of its origin by its sign, and no other. -/
theorem Poised.next_add (h : st.Poised origin interval)
    (howned : st.scene.session.standing = .owned) (route : Route) (other : Origin)
    (endpoint : ε) :
    let happening : Happening ε κ := .deed (.move route (.add other endpoint))
    (st.next origin happening).Poised origin interval ∧
      (st.next origin happening).portrait origin =
        ((st.portrait origin).notice interval st.scene.session.timers.elapsed
          (st.sign? origin happening)).settle := by
  intro happening
  have hreturned := Scene.returned_play_add h.posed howned route other endpoint
  have hkempt := Scene.kempt_returned (Scene.kempt_play still h.posed.kempt happening)
  rw [hreturned] at hkempt
  have hposed := h.posed.posed_joined howned other endpoint hkempt
  have hportrait := h.posed.portrait_joined howned other endpoint
  have hroll : (st.scene.session.enrolled? origin happening).toList =
      if other = origin then [st.scene.session.dispatcher.nextEndpoint] else [] := by
    by_cases hother : other = origin <;> simp [Session.enrolled?, happening, hother, howned]
  have hstage : st.next origin happening =
      { scene := st.scene.joined other endpoint
        roll := st.roll ++
          if other = origin then [st.scene.session.dispatcher.nextEndpoint] else []
        posts := st.posts } := by
    unfold Stage.next
    rw [hreturned, hroll]
    simp [Session.posted?, happening]
  have hpoised : (st.next origin happening).Poised origin interval := by
    rw [hstage]
    exact ⟨hposed, h.rests.drive, h.rests.listener⟩
  refine ⟨hpoised, hpoised.settle_portrait.symm.trans (congrArg Portrait.settle ?_)⟩
  rw [hstage]
  unfold portrait Portrait.notice
  rw [hportrait]
  by_cases hother : other = origin
  · subst hother
    have hdispatcher : (st.scene.session.undergo happening).session.dispatcher =
        (st.scene.session.dispatcher.add other endpoint).2.1 := by
      simp [happening, Session.undergo, Session.act, Session.perform, Session.add, howned]
    simp [sign?, happening, hdispatcher]
  · simp [sign?, happening, hother]

/-- What happens changes the portrait by its sign alone. -/
theorem Poised.next (h : st.Poised origin interval) (happening : Happening ε κ) :
    (st.next origin happening).Poised origin interval ∧
      (st.next origin happening).portrait origin =
        ((st.portrait origin).notice interval st.scene.session.timers.elapsed
          (st.sign? origin happening)).settle := by
  by_cases hadd : ∃ route other endpoint,
      happening = .deed (.move route (.add other endpoint)) ∧ st.scene.session.standing = .owned
  · obtain ⟨route, other, endpoint, rfl, howned⟩ := hadd
    exact h.next_add howned route other endpoint
  · have hcomes := h.posed.comes_undergo h.rests happening fun route other endpoint heq howned =>
      hadd ⟨route, other, endpoint, heq, howned⟩
    obtain ⟨hposed, hportrait⟩ := hcomes.settle
    have hscene : (st.next origin happening).scene = st.scene.play still happening :=
      hposed.returned
    refine ⟨⟨?_, ?_⟩, ?_⟩
    · rw [hscene]
      exact hposed
    · rw [hscene]
      exact Scene.rests_settle _ _
    · unfold portrait
      rw [hscene]
      exact hportrait

/-- The portrait after a run is what its signs make of the portrait before it. -/
theorem Poised.after (h : st.Poised origin interval) (run : List (Happening ε κ)) :
    (st.after origin run).portrait origin =
      (st.portrait origin).follow interval (st.signs origin run) := by
  induction run generalizing st with
  | nil => rfl
  | cons happening rest ih =>
      obtain ⟨hnext, hportrait⟩ := h.next happening
      unfold signs
      refine (ih hnext).trans ?_
      rw [hportrait]
      unfold Portrait.follow
      rw [List.foldl_append]
      cases st.sign? origin happening with
      | none => exact congrArg (List.foldl _ · _) h.settle_portrait
      | some sign => rfl

/-- A stage at the beginning, with an interval that is the same whenever it is asked for. -/
def opening (interval : Span) (delays : DelaySource) : Stage ε κ where
  scene := Scene.opening ⟨fun _ => interval, 0⟩ delays

theorem poised_opening (origin : Origin) (interval : Span) (delays : DelaySource) :
    (opening interval delays : Stage ε κ).Poised origin interval := by
  constructor
  case posed =>
    constructor
    case kempt => exact Session.kempt_fresh _ _
    case vacated => exact fun hclosed => Standing.noConfusion hclosed
    case standing => exact fun horphaned => Standing.noConfusion horphaned
    case plain => exact fun frame hframe => absurd hframe List.not_mem_nil
    case steady =>
      refine ⟨fun _ => rfl, fun found hfound => ?_⟩
      cases hfound
    case roll_lt => exact fun id hid => absurd hid List.not_mem_nil
    case registered => exact fun id hid => absurd hid List.not_mem_nil
    case told => exact fun n hn => absurd hn List.not_mem_nil
    case posts_lt => exact fun id hid => absurd hid List.not_mem_nil
    case posted => exact fun x hx => absurd hx List.not_mem_nil
  case rests =>
    exact ⟨fun _ _ => (List.cons_ne_nil _ _).symm, fun _ _ _ _ _ => (List.cons_ne_nil _ _).symm⟩

/-- The deliveries to an origin's listeners, each with the place of the listener and the
time. -/
def deliveries (origin : Origin) (st : Stage ε κ) : List (Nat × Span) :=
  (st.scene.told origin).map fun n => (st.roll.idxOf n.1, n.2)

/-- The verdicts on the broadcasts. -/
def verdicts (st : Stage ε κ) : List Verdict := st.scene.answers.filterMap Answer.verdict?

/-- An origin does not learn of the others. Take two runs with the same interval in which all
that is not done for other origins is the same at the same times, drives go equally far, and
the records of one origin have the same delays. Then all broadcasts have the same verdicts, and
the listeners of this origin, by the places of their registrations, have the same deliveries at
the same times, whatever is done for other origins in either run. -/
theorem origins_isolated (origin : Origin) (interval : Span) (delays delays' : DelaySource)
    (run run' : List (Happening ε κ))
    (halike : (opening interval delays).signs origin run =
      (opening interval delays').signs origin run') :
    let st := (opening interval delays).after origin run
    let st' := (opening interval delays').after origin run'
    st'.verdicts = st.verdicts ∧ st'.deliveries origin = st.deliveries origin := by
  intro st st'
  have hst : st.portrait origin = _ := (poised_opening origin interval delays).after run
  have hst' : st'.portrait origin = _ := (poised_opening origin interval delays').after run'
  have hportraits : st'.portrait origin = st.portrait origin := by
    rw [hst, hst', halike]
    rfl
  exact ⟨congrArg Portrait.verdicts hportraits, congrArg Portrait.told hportraits⟩

/-- The stage after something that leaves nothing to happen by itself. -/
theorem next_of_rest {happening : Happening ε κ}
    (hrest : (st.scene.absorb (st.scene.session.undergo happening)).tick still = none) :
    st.next origin happening =
      { scene := (st.scene.absorb (st.scene.session.undergo happening)).returned
        roll := st.roll ++ (st.scene.session.enrolled? origin happening).toList
        posts := st.posts ++ (st.scene.session.posted? happening).toList } := by
  have hplay : st.scene.play still happening = _ := Scene.settle_of_rest hrest
  unfold next
  rw [hplay]

/-- A stage with an interval of a minute and delays from a script. -/
def scripted (delays : List Span) : Stage Unit Unit := opening (.ofSecs 60) (.scripted delays)

/-- A listener registers for an origin. -/
def joining (origin : Origin) : Happening Unit Unit := .deed (.move .straight (.add origin ()))

def broadcasting : Happening Unit Unit := .deed (.move .straight .broadcast)

/-- A listener registers, and ten seconds pass after a broadcast. -/
def alone : List (Happening Unit Unit) :=
  [joining default, broadcasting, .deed (.move .straight (.travel (.advance (.ofSecs 10))))]

/-- The same after a listener registered for another origin. -/
def accompanied : List (Happening Unit Unit) :=
  joining { (default : Origin) with port := 1 } :: alone

/-- The origin draws ten seconds in both. -/
theorem signs_accompanied :
    (scripted [.ofSecs 10]).signs default alone =
      (scripted [.ofSecs 20, .ofSecs 10]).signs default accompanied := by
  have halone : (scripted [.ofSecs 10]).signs default alone =
      [(.zero, .enrolled (some (.ofSecs 10))), (.zero, .broadcast),
        (.zero, .travelled (.ofSecs 10))] := by
    simp only [alone, signs]
    rw [next_of_rest rfl, next_of_rest rfl]
    rfl
  rw [halone]
  simp only [accompanied, alone, signs]
  rw [next_of_rest rfl, next_of_rest rfl, next_of_rest rfl]
  rfl

/-- The listener is told ten seconds after the broadcast. -/
theorem deliveries_alone :
    let st := (scripted [.ofSecs 10]).after default alone
    st.verdicts = [.accepted] ∧ st.deliveries default = [(0, .ofSecs 10)] := by
  have hjoined : (scripted [.ofSecs 10]).next default (joining default) = _ := next_of_rest rfl
  have hbroadcast : ((scripted [.ofSecs 10]).next default (joining default)).next default
      broadcasting = _ := (congrArg (next default · broadcasting) hjoined).trans (next_of_rest rfl)
  simp only [alone, after, List.foldl_cons, List.foldl_nil]
  rw [hbroadcast]
  unfold next Scene.play
  rw [Scene.settle_of_tick rfl, Scene.settle_of_tick rfl, Scene.settle_of_tick rfl,
    Scene.settle_of_rest rfl]
  exact ⟨rfl, rfl⟩

/-- The listener is told the same whether or not somebody registers for another origin. -/
theorem origins_isolated_accompanied :
    (scripted [.ofSecs 10]).signs default alone =
        (scripted [.ofSecs 20, .ofSecs 10]).signs default accompanied ∧
      let st := (scripted [.ofSecs 20, .ofSecs 10]).after default accompanied
      st.verdicts = [.accepted] ∧ st.deliveries default = [(0, .ofSecs 10)] := by
  obtain ⟨hverdicts, hdeliveries⟩ := origins_isolated default (.ofSecs 60)
    (.scripted [.ofSecs 10]) (.scripted [.ofSecs 20, .ofSecs 10]) alone accompanied
    signs_accompanied
  obtain ⟨haccepted, htold⟩ := deliveries_alone
  exact ⟨signs_accompanied, hverdicts.trans haccepted, hdeliveries.trans htold⟩

end Stage

end Cadence.Broadcast

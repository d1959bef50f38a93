import Cadence.Pause.Session
import Cadence.Proofs.Agenda.Queue
import Mathlib.Data.List.Induction

/-! # Runs of a pause session

A run is a list of moves of the surroundings. Calls nest to any depth, so what an
operation still has to do is read off the stages on the stack, and a law of the
coordinator speaks of the coordinator, its agenda, these stages and the calls
made so far. One move is at most one operation of the coordinator, followed by
its closing when the last call that used it has returned.
-/

namespace Cadence.Pause

/-- The call that a signal makes, if it makes one. -/
def Signal.calls : Signal → List Call
  | .called call => [call]
  | _ => []

/-- The stage at which a frame goes on, if it belongs to a coordinator call or to
the release timer's task. -/
def Frame.stage? {δ : Type} : Frame δ → Option Stage
  | .within _ stage => some stage
  | .travelling _ => none

namespace Progress

variable {σ : Type}

/-- The call out at which an operation stopped. -/
def calls (p : Progress σ) : List Call := p.next.toList.map Prod.fst

/-- The stage that an operation left behind. -/
def stages (p : Progress σ) : List Stage := p.next.toList.map Prod.snd

end Progress

/-- The stages at which an entrance can stop. Only a coordinator that goes away
is closing, and the timer's task leaves nothing to be done. -/
def Entrance.Admits : Entrance → Stage → Prop
  | .request, .closing .. => False
  | .request, _ => True
  | .alarm, stage => stage = .finished
  | .close _, .closing .. => True
  | .close _, stage => stage = .finished

namespace Session

section Runs

variable {σ δ : Type} [Timeline σ δ Alarm]

/-- The session after some moves. -/
def after (s : Session σ δ) (moves : List Move) : Session σ δ :=
  moves.foldl (fun s m => (s.perform m).session) s

/-- The calls that some moves lead to, in their order. -/
def calls (s : Session σ δ) : List Move → List Call
  | [] => []
  | m :: rest => (s.perform m).signal.calls ++ (s.perform m).session.calls rest

@[simp] theorem after_nil (s : Session σ δ) : s.after [] = s := rfl

@[simp] theorem calls_nil (s : Session σ δ) : s.calls [] = [] := rfl

theorem after_append (s : Session σ δ) (first second : List Move) :
    s.after (first ++ second) = (s.after first).after second :=
  List.foldl_append

theorem calls_append (s : Session σ δ) (first second : List Move) :
    s.calls (first ++ second) = s.calls first ++ (s.after first).calls second := by
  induction first generalizing s with
  | nil => rfl
  | cons m rest ih => simp only [List.cons_append, calls, ih, List.append_assoc]; rfl

theorem after_concat (s : Session σ δ) (moves : List Move) (m : Move) :
    s.after (moves ++ [m]) = ((s.after moves).perform m).session :=
  s.after_append moves [m]

theorem calls_concat (s : Session σ δ) (moves : List Move) (m : Move) :
    s.calls (moves ++ [m]) = s.calls moves ++ ((s.after moves).perform m).signal.calls := by
  rw [calls_append]
  simp [calls]

/-- The stages of the calls under way, innermost first. -/
def stages (s : Session σ δ) : List Stage := s.frames.filterMap Frame.stage?

/-- Neither a coordinator call nor a task of the release timer is under way. -/
def AtRest (s : Session σ δ) : Prop := s.stages = []

end Runs

/-- A session on an agenda of its own. -/
abbrev OnAgenda := Session (Agenda Alarm) Agenda.Drive

/-- The session at the beginning. -/
def fresh : OnAgenda := { timers := {} }

/-! ## Stacks -/

/-- How the frames on a stack fit together with the coordinator's standing. -/
structure Formed (s : OnAgenda) : Prop where
  admitted : ∀ entrance stage, .within entrance stage ∈ s.frames → entrance.Admits stage
  requests : ∀ stage, .within .request stage ∈ s.frames → s.standing ≠ .closed
  closings : ∀ dropped stage, .within (.close dropped) stage ∈ s.frames → s.standing = .closed
  drives : ∀ drive, .travelling drive ∈ s.frames → drive.Aimed

theorem formed_fresh : fresh.Formed where
  admitted := by simp [fresh]
  requests := by simp [fresh]
  closings := by simp [fresh]
  drives := by simp [fresh]

theorem mem_stages {s : OnAgenda} {stage : Stage} :
    stage ∈ s.stages ↔ ∃ entrance, .within entrance stage ∈ s.frames := by
  unfold stages
  rw [List.mem_filterMap]
  constructor
  · rintro ⟨frame, hframe, hstage⟩
    cases frame with
    | travelling drive => cases hstage
    | within entrance found =>
        cases hstage
        exact ⟨entrance, hframe⟩
  · rintro ⟨entrance, hframe⟩
    exact ⟨_, hframe, rfl⟩

/-- Before a coordinator goes away none of its calls closes it. -/
theorem Formed.not_closing {s : OnAgenda} (h : s.Formed) (hstanding : s.standing ≠ .closed)
    (rest : List SourceId) (held : Bool) : .closing rest held ∉ s.stages := by
  intro hmem
  obtain ⟨entrance, hframe⟩ := mem_stages.mp hmem
  have hadmits := h.admitted entrance _ hframe
  cases entrance with
  | request => exact hadmits
  | alarm => cases hadmits
  | close dropped => exact hstanding (h.closings dropped _ hframe)

/-- With no operation under way, only tasks of the timer may wait to return. -/
theorem Formed.finished {s : OnAgenda} (h : s.Formed) (hstanding : s.standing ≠ .closed)
    (hbusy : ¬ s.busy) {stage : Stage} (hmem : stage ∈ s.stages) : stage = .finished := by
  obtain ⟨entrance, hframe⟩ := mem_stages.mp hmem
  cases entrance with
  | request => exact absurd (List.any_eq_true.mpr ⟨_, hframe, rfl⟩) hbusy
  | alarm => exact h.admitted .alarm stage hframe
  | close dropped => exact absurd (h.closings dropped _ hframe) hstanding

end Session

/-! ## Laws -/

/-- A law relates a coordinator, its agenda, the stages of the calls under way and
the calls made so far. -/
abbrev Law := Coordinator → Agenda Alarm → List Stage → List Call → Prop

/-- A law holds once an operation has stopped above the given stages. -/
def Progress.Meets (p : Progress (Agenda Alarm)) (law : Law) (below : List Stage)
    (calls : List Call) : Prop :=
  law p.coordinator p.timers (p.stages ++ below) (calls ++ p.calls)

theorem Progress.meets_none {p : Progress (Agenda Alarm)} (h : p.next = none) (law : Law)
    (below : List Stage) (calls : List Call) :
    p.Meets law below calls ↔ law p.coordinator p.timers below calls := by
  simp [Meets, stages, Progress.calls, h]

theorem Progress.meets_some {p : Progress (Agenda Alarm)} {call : Call} {stage : Stage}
    (h : p.next = some (call, stage)) (law : Law) (below : List Stage) (calls : List Call) :
    p.Meets law below calls ↔ law p.coordinator p.timers (stage :: below) (calls ++ [call]) := by
  simp [Meets, stages, Progress.calls, h]

/-- A law that every operation keeps, save for the finish of a source. -/
structure Law.Stable (law : Law) : Prop where
  pause : ∀ {c a below calls}, law c a below calls →
    (∀ rest held, .closing rest held ∉ below) →
    ∀ sources grace, (c.pause a sources grace).Meets law below calls
  list : ∀ {c a below calls}, law c a below calls →
    ∀ grace, law c a (.listing grace :: below) (calls ++ [.allSources])
  resume : ∀ {c a stage below calls}, law c a (stage :: below) calls →
    (∀ grace, stage = .listing grace → ∀ rest held, .closing rest held ∉ below) →
    ∀ sources, (c.resume a sources stage).Meets law below calls
  alarm : ∀ {c a below calls limit e b}, law c a below calls → a.popDue limit = some (e, b) →
    (c.alarm (b.started e) e.task).Meets law below calls
  settled : ∀ {c a below calls} {d : Agenda.Drive}, law c a below calls → d.Aimed →
    a.popDue d.limit = none → law c (a.settled d) below calls
  close : ∀ {c a below calls}, law c a below calls → (∀ stage ∈ below, stage = .finished) →
    (c.close a).Meets law below calls

/-! ## Stages of the operations -/

namespace Coordinator

variable {σ : Type}

theorem observeNext_stage {c : Coordinator} {sources : List SourceId} {call : Call} {stage : Stage}
    (h : c.observeNext sources = some (call, stage)) : ∃ rest, stage = .observing rest := by
  induction sources with
  | nil => cases h
  | cons s rest ih =>
      unfold observeNext at h
      split at h
      · cases h
        exact ⟨rest, rfl⟩
      · exact ih h

theorem closeNext_admitted (c : Coordinator) (a : σ) (rest : List SourceId) (held : Bool)
    (events : List Event) (dropped : Bool) {stage : Stage}
    (h : stage ∈ (c.closeNext a rest held events).stages) :
    (Entrance.close dropped).Admits stage := by
  cases rest with
  | nil => cases held <;> simp_all [closeNext, Progress.stages, Entrance.Admits]
  | cons s rest => simp_all [closeNext, Progress.stages, Entrance.Admits]

theorem alarm_admitted (c : Coordinator) (a : σ) (alarm : Alarm) {stage : Stage}
    (h : stage ∈ (c.alarm a alarm).stages) : Entrance.alarm.Admits stage := by
  unfold Coordinator.alarm giveUp at h
  dsimp only at h
  repeat' split at h
  all_goals simp_all [Progress.stages, Entrance.Admits]

variable [TimerService σ Alarm]

theorem pause_admitted (c : Coordinator) (a : σ) (sources : List SourceId) (grace : Span)
    {stage : Stage} (h : stage ∈ (c.pause a sources grace).stages) :
    Entrance.request.Admits stage := by
  unfold pause at h
  dsimp only at h
  split at h
  · simp_all [Progress.stages, Entrance.Admits]
  · obtain ⟨⟨call, found⟩, hnext, rfl⟩ := List.mem_map.mp h
    obtain ⟨rest, rfl⟩ := observeNext_stage (Option.mem_toList.mp hnext)
    trivial

theorem finish_admitted (c : Coordinator) (a : σ) (source : SourceId) {stage : Stage}
    (h : stage ∈ (c.finish a source).stages) : Entrance.request.Admits stage := by
  unfold finish at h
  dsimp only at h
  repeat' split at h
  all_goals simp_all [Progress.stages, Entrance.Admits]

theorem close_admitted (c : Coordinator) (a : σ) (dropped : Bool) {stage : Stage}
    (h : stage ∈ (c.close a).stages) : (Entrance.close dropped).Admits stage :=
  closeNext_admitted _ _ _ _ _ dropped h

/-- What goes on at a stage stops at a stage of the same entrance. -/
theorem resume_admitted (c : Coordinator) (a : σ) (sources : List SourceId) {entrance : Entrance}
    {stage next : Stage} (hstage : entrance.Admits stage)
    (h : next ∈ (c.resume a sources stage).stages) : entrance.Admits next := by
  -- an alarm stops at its end and a closing at a closing, so most pairs cannot occur
  cases stage with
  | acquired added =>
      cases entrance with
      | request =>
          unfold resume adopt at h
          dsimp only at h
          split at h
          · obtain ⟨⟨call, found⟩, hnext, rfl⟩ := List.mem_map.mp h
            obtain ⟨rest, rfl⟩ := observeNext_stage (Option.mem_toList.mp hnext)
            trivial
          · simp_all [Progress.stages, Entrance.Admits]
      | alarm => cases hstage
      | close dropped => cases hstage
  | observing rest =>
      cases entrance with
      | request =>
          obtain ⟨⟨call, found⟩, hnext, rfl⟩ := List.mem_map.mp h
          obtain ⟨rest, rfl⟩ := observeNext_stage (Option.mem_toList.mp hnext)
          trivial
      | alarm => cases hstage
      | close dropped => cases hstage
  | unobserved givenUp =>
      cases entrance with
      | request => cases givenUp <;> simp_all [resume, Progress.stages, Entrance.Admits]
      | alarm => cases hstage
      | close dropped => cases hstage
  | listing grace =>
      cases entrance with
      | request => exact pause_admitted c a sources grace h
      | alarm => cases hstage
      | close dropped => cases hstage
  | closing rest held =>
      cases entrance with
      | request => exact absurd hstage id
      | alarm => cases hstage
      | close dropped => exact closeNext_admitted c a rest held [] dropped h
  | finished => simp [resume, Progress.stages] at h

end Coordinator

/-! ## Runs keep stable laws -/

namespace Session

/-- A well formed session at which a law holds. -/
def Upholds (law : Law) (s : OnAgenda) (calls : List Call) : Prop :=
  s.Formed ∧ law s.coordinator s.timers s.stages calls

theorem Upholds.quiet {law : Law} {s : OnAgenda} {calls : List Call} (h : Upholds law s calls) :
    Upholds law s (calls ++ []) := by
  rw [List.append_nil]
  exact h

theorem Formed.push {s : OnAgenda} (h : s.Formed) (entrance : Entrance) {stage : Stage}
    (hadmits : entrance.Admits stage) (hrequest : entrance = .request → s.standing ≠ .closed)
    (hclose : ∀ dropped, entrance = .close dropped → s.standing = .closed)
    (c : Coordinator) (a : Agenda Alarm) :
    Formed { s with
      coordinator := c
      timers := a
      frames := .within entrance stage :: s.frames } where
  admitted e found hmem := by
    rcases List.mem_cons.mp hmem with heq | hmem
    · cases heq
      exact hadmits
    · exact h.admitted e found hmem
  requests found hmem := by
    rcases List.mem_cons.mp hmem with heq | hmem
    · cases heq
      exact hrequest rfl
    · exact h.requests found hmem
  closings dropped found hmem := by
    rcases List.mem_cons.mp hmem with heq | hmem
    · cases heq
      exact hclose dropped rfl
    · exact h.closings dropped found hmem
  drives drive hmem := by
    rcases List.mem_cons.mp hmem with heq | hmem
    · cases heq
    · exact h.drives drive hmem

theorem Formed.pop {s : OnAgenda} (h : s.Formed) {frame : Frame Agenda.Drive}
    {rest : List (Frame Agenda.Drive)} (hframes : s.frames = frame :: rest) (a : Agenda Alarm) :
    Formed { s with timers := a, frames := rest } where
  admitted e found hmem := h.admitted e found (hframes ▸ List.mem_cons_of_mem _ hmem)
  requests found hmem := h.requests found (hframes ▸ List.mem_cons_of_mem _ hmem)
  closings dropped found hmem := h.closings dropped found (hframes ▸ List.mem_cons_of_mem _ hmem)
  drives drive hmem := h.drives drive (hframes ▸ List.mem_cons_of_mem _ hmem)

theorem Formed.drive {s : OnAgenda} (h : s.Formed) {drive : Agenda.Drive} (haimed : drive.Aimed)
    (a : Agenda Alarm) :
    Formed { s with timers := a, frames := .travelling drive :: s.frames } where
  admitted e stage hmem := h.admitted e stage ((List.mem_cons.mp hmem).resolve_left nofun)
  requests stage hmem := h.requests stage ((List.mem_cons.mp hmem).resolve_left nofun)
  closings dropped stage hmem :=
    h.closings dropped stage ((List.mem_cons.mp hmem).resolve_left nofun)
  drives found hmem := by
    rcases List.mem_cons.mp hmem with heq | hmem
    · cases heq
      exact haimed
    · exact h.drives found hmem

/-- A coordinator that goes away while no operation is under way stays well formed. -/
theorem Formed.closed {s : OnAgenda} (h : s.Formed) (hbusy : ¬ s.busy) :
    Formed { s with standing := .closed } where
  admitted := h.admitted
  requests _ hmem := absurd (List.any_eq_true.mpr ⟨_, hmem, rfl⟩) hbusy
  closings _ _ _ := rfl
  drives := h.drives

theorem Formed.orphaned {s : OnAgenda} (h : s.Formed) (hstanding : s.standing = .owned) :
    Formed { s with standing := .orphaned } where
  admitted := h.admitted
  requests _ _ := by simp
  closings dropped stage hmem := by
    have hclosed := h.closings dropped stage hmem
    rw [hstanding] at hclosed
    cases hclosed
  drives := h.drives

/-- An operation that ends or stops keeps the law, also where the coordinator goes
away with it. -/
theorem settle_upholds {law : Law} (hlaw : law.Stable) {s : OnAgenda} (hs : s.Formed)
    {calls : List Call} (entrance : Entrance) (p : Progress (Agenda Alarm))
    (hp : p.Meets law s.stages calls) (hadmits : ∀ stage ∈ p.stages, entrance.Admits stage)
    (hrequest : entrance = .request → s.standing ≠ .closed)
    (hclose : ∀ dropped, entrance = .close dropped → s.standing = .closed) :
    Upholds law (s.settle entrance p).session (calls ++ (s.settle entrance p).signal.calls) := by
  unfold settle
  cases hnext : p.next with
  | some found =>
      obtain ⟨call, stage⟩ := found
      have hstage := hadmits stage (by simp [Progress.stages, hnext])
      exact ⟨hs.push entrance hstage hrequest hclose _ _,
        (Progress.meets_some hnext law s.stages calls).mp hp⟩
  | none =>
      have hlawful := (Progress.meets_none hnext law s.stages calls).mp hp
      have hquiet : law p.coordinator p.timers s.stages (calls ++ []) := by
        rw [List.append_nil]
        exact hlawful
      have hformed : Formed { s with coordinator := p.coordinator, timers := p.timers } :=
        ⟨hs.admitted, hs.requests, hs.closings, hs.drives⟩
      cases entrance with
      | alarm => exact ⟨hformed, hquiet⟩
      | close dropped => exact ⟨hformed, hquiet⟩
      | request =>
          dsimp only
          split
          -- the last request under way takes an orphaned coordinator with it
          next horphan =>
            obtain ⟨hstanding, hbusy⟩ := horphan
            have hopen : s.standing ≠ .closed := hrequest rfl
            have hfinal := hlaw.close hlawful fun stage hmem => hs.finished hopen hbusy hmem
            have hshut := hformed.closed hbusy
            split
            next call stage hnext =>
              refine ⟨hshut.push (.close false) ?_ nofun (fun _ _ => rfl) _ _, ?_⟩
              · exact Coordinator.close_admitted p.coordinator p.timers false
                  (by simp [Progress.stages, hnext])
              · exact (Progress.meets_some hnext law s.stages calls).mp hfinal
            next hnext =>
              have hclosed := (Progress.meets_none hnext law s.stages calls).mp hfinal
              rw [← List.append_nil calls] at hclosed
              exact ⟨⟨hshut.admitted, hshut.requests, hshut.closings, hshut.drives⟩, hclosed⟩
          next => exact ⟨hformed, hquiet⟩

theorem request_upholds {law : Law} (hlaw : law.Stable) {s : OnAgenda} {calls : List Call}
    (hs : Upholds law s calls) (p : Progress (Agenda Alarm))
    (hp : s.standing = .owned → p.Meets law s.stages calls)
    (hadmits : ∀ stage ∈ p.stages, Entrance.request.Admits stage) :
    Upholds law (s.request p).session (calls ++ (s.request p).signal.calls) := by
  unfold request
  split
  next howned =>
    exact settle_upholds hlaw hs.1 .request p (hp howned) hadmits (by simp [howned]) nofun
  next => exact hs.quiet

theorem letGo_upholds {law : Law} (hlaw : law.Stable) {s : OnAgenda} {calls : List Call}
    (hs : Upholds law s calls) :
    Upholds law s.letGo.session (calls ++ s.letGo.signal.calls) := by
  unfold letGo
  split
  next => exact hs.quiet
  next hstanding =>
    have howned : s.standing = .owned := not_not.mp hstanding
    split
    next => exact ⟨hs.1.orphaned howned, hs.quiet.2⟩
    next hbusy =>
      have hopen : s.standing ≠ .closed := by simp [howned]
      exact settle_upholds hlaw (hs.1.closed hbusy) (.close true) _
        (hlaw.close hs.2 fun stage hmem => hs.1.finished hopen hbusy hmem)
        (fun stage hmem => Coordinator.close_admitted s.coordinator s.timers true hmem)
        nofun (fun _ _ => rfl)

theorem travel_upholds {law : Law} {s : OnAgenda} {calls : List Call} (hs : Upholds law s calls)
    (t : Travel) : Upholds law (s.travel t).session (calls ++ (s.travel t).signal.calls) := by
  unfold travel
  split
  next drive hdepart => exact ⟨hs.1.drive (Agenda.depart_aimed hdepart) s.timers, hs.quiet.2⟩
  next => exact hs.quiet

theorem resume_upholds {law : Law} (hlaw : law.Stable) {s : OnAgenda} {calls : List Call}
    (hs : Upholds law s calls) (sources : List SourceId) :
    Upholds law (s.resume sources).session (calls ++ (s.resume sources).signal.calls) := by
  have hformed := hs.1
  have hlawful := hs.2
  unfold resume
  split
  next entrance stage rest hframes =>
    have hmem : .within entrance stage ∈ s.frames := hframes ▸ List.mem_cons_self
    have hpop : Formed { s with frames := rest } := hformed.pop hframes s.timers
    have hstages : s.stages = stage :: Session.stages { s with frames := rest } := by
      simp [Session.stages, hframes, Frame.stage?]
    rw [hstages] at hlawful
    refine settle_upholds hlaw hpop entrance _ (hlaw.resume hlawful ?_ sources) ?_ ?_ ?_
    · -- the sources are listed for a request only, and requests never close
      rintro grace rfl last held
      have hrequest : entrance = .request := by
        have hadmits := hformed.admitted entrance _ hmem
        cases entrance with
        | request => rfl
        | alarm => cases hadmits
        | close dropped => cases hadmits
      exact hpop.not_closing (hformed.requests _ (hrequest ▸ hmem)) last held
    · intro next hnext
      exact Coordinator.resume_admitted s.coordinator s.timers sources
        (hformed.admitted entrance stage hmem) hnext
    · rintro rfl
      exact hformed.requests stage hmem
    · rintro dropped rfl
      exact hformed.closings dropped stage hmem
  next => exact hs.quiet

theorem proceed_upholds {law : Law} (hlaw : law.Stable) {s : OnAgenda} {calls : List Call}
    (hs : Upholds law s calls) :
    Upholds law s.proceed.session (calls ++ s.proceed.signal.calls) := by
  have hformed := hs.1
  have hlawful := hs.2
  unfold proceed
  split
  next drive rest hframes =>
    have haimed : drive.Aimed := hformed.drives drive (hframes ▸ List.mem_cons_self)
    -- the frame of a drive is no stage, so the law does not see it
    have hstages : s.stages = Session.stages { s with frames := rest } := by
      unfold Session.stages
      rw [hframes]
      rfl
    rw [hstages] at hlawful
    cases hpop : s.timers.popDue drive.limit with
    | some found =>
        obtain ⟨e, b⟩ := found
        have hturn : Timeline.turn s.timers drive = _ := Agenda.turn_of_popDue_eq_some hpop
        rw [hturn]
        have haimed' : Agenda.Drive.Aimed { drive with ran := drive.ran + 1 } := haimed
        have hon := (hformed.pop hframes s.timers).drive haimed' (b.started e)
        refine settle_upholds hlaw hon .alarm _ (hlaw.alarm hlawful hpop) ?_ nofun nofun
        intro stage hmem
        exact Coordinator.alarm_admitted s.coordinator _ e.task hmem
    | none =>
        have hturn : Timeline.turn s.timers drive = _ := Agenda.turn_of_popDue_eq_none hpop
        rw [hturn]
        have hsettled := hlaw.settled hlawful haimed hpop
        rw [← List.append_nil calls] at hsettled
        exact ⟨hformed.pop hframes _, hsettled⟩
  next => exact hs.quiet

/-- A stable law survives a move, provided that it survives the finish of a source
where the move is one. -/
theorem perform_upholds {law : Law} (hlaw : law.Stable) {s : OnAgenda} {calls : List Call}
    (hs : Upholds law s calls) (m : Move)
    (hfinish : ∀ source, m = .finish source → s.standing = .owned →
      (s.coordinator.finish s.timers source).Meets law s.stages calls) :
    Upholds law (s.perform m).session (calls ++ (s.perform m).signal.calls) := by
  cases m with
  | pause sources grace =>
      refine request_upholds hlaw hs _ ?_ fun stage hmem =>
        Coordinator.pause_admitted s.coordinator s.timers sources grace hmem
      intro howned
      exact hlaw.pause hs.2 (hs.1.not_closing (by simp [howned])) sources grace
  | pauseAll grace =>
      -- only the question for the sources is asked here
      refine request_upholds hlaw hs _ (fun _ => hlaw.list hs.2 grace) ?_
      intro stage hmem
      simp only [Progress.stages, Option.toList_some, List.map_cons, List.map_nil,
        List.mem_singleton] at hmem
      subst hmem
      trivial
  | finish source =>
      exact request_upholds hlaw hs _ (hfinish source rfl) fun stage hmem =>
        Coordinator.finish_admitted s.coordinator s.timers source hmem
  | letGo => exact letGo_upholds hlaw hs
  | travel t => exact travel_upholds hs t
  | resume sources => exact resume_upholds hlaw hs sources
  | proceed => exact proceed_upholds hlaw hs

/-- A stable law that also survives every finish of a source holds throughout every run. -/
theorem run_upholds {law : Law} (hlaw : law.Stable) (hstart : law {} {} [] [])
    (hfinish : ∀ {c a below calls}, law c a below calls →
      ∀ source, (c.finish a source).Meets law below calls)
    (moves : List Move) : Upholds law (fresh.after moves) (fresh.calls moves) := by
  induction moves using List.reverseRecOn with
  | nil => exact ⟨formed_fresh, hstart⟩
  | append_singleton moves m ih =>
      rw [after_concat, calls_concat]
      exact perform_upholds hlaw ih m fun source _ _ => hfinish ih.2 source

end Session

end Cadence.Pause

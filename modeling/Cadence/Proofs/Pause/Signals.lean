import Cadence.Proofs.Pause.Holding

/-! # What the signaller was told

A source is in the observation set from the moment a pause asks for it, but it is
only observed at the signaller in its turn, and a coordinator that goes away
empties the set before it unobserves the sources one by one. In both windows the
last call for the source and the set disagree, and the source is named at a stage
on the stack.
-/

namespace Cadence.Pause

/-- Whether a call tells the signaller about a source. -/
def Call.concerns (s : SourceId) (call : Call) : Bool :=
  call = .observe s || call = .unobserve s

/-- The calls that tell the signaller about a source, in their order. -/
def signals (s : SourceId) (calls : List Call) : List Call := calls.filter (Call.concerns s)

/-- The sources that an operation at this stage has still to observe. -/
def Stage.awaited : Stage → List SourceId
  | .acquired added => added
  | .observing rest => rest
  | _ => []

/-- The sources that a coordinator which goes away has still to unobserve. -/
def Stage.leaving : Stage → List SourceId
  | .closing rest _ => rest
  | _ => []

/-- The sources whose observe call is outstanding. -/
def awaited (below : List Stage) : List SourceId := below.flatMap Stage.awaited

/-- The sources whose last unobserve call is outstanding. -/
def leaving (below : List Stage) : List SourceId := below.flatMap Stage.leaving

@[simp] theorem awaited_cons (stage : Stage) (below : List Stage) :
    awaited (stage :: below) = stage.awaited ++ awaited below := rfl

@[simp] theorem leaving_cons (stage : Stage) (below : List Stage) :
    leaving (stage :: below) = stage.leaving ++ leaving below := rfl

@[simp] theorem signals_append (s : SourceId) (first second : List Call) :
    signals s (first ++ second) = signals s first ++ signals s second :=
  List.filter_append first second

@[simp] theorem signals_observe (s : SourceId) : signals s [.observe s] = [.observe s] := by
  simp [signals, Call.concerns]

@[simp] theorem signals_unobserve (s : SourceId) : signals s [.unobserve s] = [.unobserve s] := by
  simp [signals, Call.concerns]

theorem signals_observe_ne {s x : SourceId} (h : x ≠ s) : signals s [.observe x] = [] := by
  simp [signals, Call.concerns, h]

theorem signals_unobserve_ne {s x : SourceId} (h : x ≠ s) : signals s [.unobserve x] = [] := by
  simp [signals, Call.concerns, h]

/-- The signaller was last told to observe the source. -/
def Watched (s : SourceId) (calls : List Call) : Prop :=
  (signals s calls).getLast? = some (.observe s)

theorem watched_observe (s : SourceId) (calls : List Call) :
    Watched s (calls ++ [.observe s]) := by
  simp [Watched]

theorem not_watched_unobserve (s : SourceId) (calls : List Call) :
    ¬ Watched s (calls ++ [.unobserve s]) := by
  simp [Watched]

theorem watched_observe_ne {s x : SourceId} (h : x ≠ s) (calls : List Call) :
    Watched s (calls ++ [.observe x]) ↔ Watched s calls := by
  simp [Watched, signals_observe_ne h]

theorem watched_unobserve_ne {s x : SourceId} (h : x ≠ s) (calls : List Call) :
    Watched s (calls ++ [.unobserve x]) ↔ Watched s calls := by
  simp [Watched, signals_unobserve_ne h]

theorem watched_other {s : SourceId} {call : Call} (h : call.concerns s = false)
    (calls : List Call) : Watched s (calls ++ [call]) ↔ Watched s calls := by
  simp [Watched, signals, h]

theorem Coordinator.finish_of_mem (c : Coordinator) (a : Agenda Alarm) {s : SourceId}
    (h : s ∈ c.observed) :
    ∃ givenUp, (c.finish a s).next = some (.unobserve s, .unobserved givenUp) ∧
      (c.finish a s).coordinator.observed = c.observed.erase s := by
  unfold finish
  rw [if_pos h]
  dsimp only
  split
  next => exact ⟨false, rfl, rfl⟩
  next =>
    split
    next => exact ⟨c.held, rfl, rfl⟩
    next => exact ⟨false, rfl, rfl⟩

/-! ## Laws of the observation set -/

section Tells

/-- A law of the observation set that looks at stages only for the sources that wait there,
and at calls only for those to the signaller. -/
structure Tells (law : List SourceId → List Stage → List Call → Prop) : Prop where
  exchange : ∀ {observed above calls}, law observed above calls →
    ∀ below, awaited above = awaited below → leaving above = leaving below →
    (∀ rest held, .closing rest held ∈ below → .closing rest held ∈ above) →
    law observed below calls
  aside : ∀ {observed below calls}, law observed below calls →
    ∀ call, (∀ s, call.concerns s = false) → law observed below (calls ++ [call])
  observeNext : ∀ {c : Coordinator} {a sources below calls},
    law c.observed (.observing sources :: below) calls → ∀ events,
    Progress.Meets { coordinator := c, timers := a, events, next := c.observeNext sources }
      (fun c _ => law c.observed) below calls

namespace Tells

variable {law : List SourceId → List Stage → List Call → Prop} {c : Coordinator}
  {a : Agenda Alarm} {below : List Stage} {calls : List Call}

/-- The handle is let go last, and that tells the signaller nothing. -/
theorem release (ht : Tells law) {observed : List SourceId} (h : law observed below calls) :
    law observed (.finished :: below) (calls ++ [.release]) := by
  refine ht.aside (ht.exchange h (.finished :: below) rfl rfl ?_) .release fun _ => rfl
  intro rest held hmem
  exact (List.mem_cons.mp hmem).resolve_left nofun

/-- Sources that a request has taken in are observed, with a pause or after it. -/
theorem pause (ht : Tells law) {sources : List SourceId} {grace : Span}
    (h : law (c.taken a sources grace).coordinator.observed
      (.observing (c.taken a sources grace).added :: below) calls) :
    (c.pause a sources grace).Meets (fun c _ => law c.observed) below calls := by
  by_cases hacquire : sources ≠ [] ∧ c.held = false
  · rw [Coordinator.pause_acquires hacquire.1 hacquire.2]
    refine ht.aside (ht.exchange h (.acquired _ :: below) rfl rfl ?_) .acquire fun _ => rfl
    intro rest held hmem
    exact List.mem_cons_of_mem _ ((List.mem_cons.mp hmem).resolve_left nofun)
  · rw [Coordinator.pause_observes hacquire]
    exact ht.observeNext h []

/-- Whatever becomes of an acquired pause, its sources are observed next. -/
theorem adopt (ht : Tells law) {added : List SourceId}
    (h : law c.observed (.acquired added :: below) calls) :
    (c.adopt a added).Meets (fun c _ => law c.observed) below calls := by
  have hnext : law c.observed (.observing added :: below) calls := by
    refine ht.exchange h _ rfl rfl ?_
    intro rest held hmem
    exact List.mem_cons_of_mem _ ((List.mem_cons.mp hmem).resolve_left nofun)
  unfold Coordinator.adopt
  dsimp only
  split
  next =>
    have hkept : law ({ c with held := true } : Coordinator).observed
        (.observing added :: below) calls := hnext
    exact ht.observeNext hkept []
  next => exact ht.aside hnext .release fun _ => rfl

theorem alarm (ht : Tells law) (h : law c.observed below calls) (alarm : Alarm) :
    (c.alarm a alarm).Meets (fun c _ => law c.observed) below calls := by
  unfold Coordinator.alarm
  split
  next => exact (Progress.meets_none rfl _ _ _).mpr h
  next timer hfire =>
    obtain ⟨observed, held, grace, running⟩ := c
    cases held with
    | false => exact (Progress.meets_none rfl _ _ _).mpr h
    | true => exact ht.release h

theorem list (ht : Tells law) {observed : List SourceId} (h : law observed below calls)
    (grace : Span) : law observed (.listing grace :: below) (calls ++ [.allSources]) := by
  refine ht.aside (ht.exchange h (.listing grace :: below) rfl rfl ?_) .allSources fun _ => rfl
  intro rest held hmem
  exact (List.mem_cons.mp hmem).resolve_left nofun

theorem closed (ht : Tells law) (h : law c.observed below calls) (held : Bool)
    (events : List Event) :
    (c.closeNext a [] held events).Meets (fun c _ => law c.observed) below calls := by
  cases held with
  | false => exact (Progress.meets_none rfl _ _ _).mpr h
  | true => exact ht.release h

theorem drop (ht : Tells law) {observed : List SourceId} {stage : Stage}
    (h : law observed (stage :: below) calls) (hawaited : stage.awaited = [])
    (hleaving : stage.leaving = []) : law observed below calls := by
  refine ht.exchange h below ?_ ?_ fun rest held hmem => List.mem_cons_of_mem _ hmem
  · rw [awaited_cons, hawaited, List.nil_append]
  · rw [leaving_cons, hleaving, List.nil_append]

/-- An operation goes on from any stage; how it takes in sources and how it closes is left
to the law. -/
theorem resume (ht : Tells law) {stage : Stage} {sources : List SourceId}
    (h : law c.observed (stage :: below) calls)
    (hpause : ∀ grace, stage = .listing grace →
      (c.pause a sources grace).Meets (fun c _ => law c.observed) below calls)
    (hclose : ∀ rest held, stage = .closing rest held →
      (c.closeNext a rest held []).Meets (fun c _ => law c.observed) below calls) :
    (c.resume a sources stage).Meets (fun c _ => law c.observed) below calls := by
  cases stage with
  | acquired added => exact ht.adopt h
  | observing rest => exact ht.observeNext h []
  | unobserved givenUp =>
      cases givenUp with
      | false => exact (Progress.meets_none rfl _ _ _).mpr (ht.drop h rfl rfl)
      | true => exact ht.release (ht.drop h rfl rfl)
  | listing grace => exact hpause grace rfl
  | closing rest held => exact hclose rest held rfl
  | finished => exact (Progress.meets_none rfl _ _ _).mpr (ht.drop h rfl rfl)

end Tells

end Tells

/-! ## The set and the last calls -/

/-- The observation set and the last calls agree, but for the sources that wait
to be observed and those that wait to be unobserved. -/
structure Told (observed : List SourceId) (below : List Stage) (calls : List Call) : Prop where
  observed_watched : ∀ s ∈ observed, Watched s calls ∨ s ∈ awaited below
  watched_observed : ∀ s, Watched s calls → s ∈ observed ∨ s ∈ leaving below
  closing_empty : ∀ rest held, .closing rest held ∈ below → observed = []

namespace Told

variable {c : Coordinator} {a : Agenda Alarm} {observed : List SourceId} {below : List Stage}
  {calls : List Call}

theorem start : Told [] [] [] where
  observed_watched := by simp
  watched_observed := by simp [Watched, signals]
  closing_empty := by simp

/-- Stages are told apart only by the sources that wait at them. -/
theorem exchange {above : List Stage} (h : Told observed above calls) (below : List Stage)
    (hawaited : awaited above = awaited below) (hleaving : leaving above = leaving below)
    (hclosing : ∀ rest held, .closing rest held ∈ below → .closing rest held ∈ above) :
    Told observed below calls where
  observed_watched s hs := hawaited ▸ h.observed_watched s hs
  watched_observed s hs := hleaving ▸ h.watched_observed s hs
  closing_empty rest held hmem := h.closing_empty rest held (hclosing rest held hmem)

/-- A call to the provider, or for the list of sources, tells the signaller nothing. -/
theorem aside (h : Told observed below calls) (call : Call)
    (hcall : ∀ s, call.concerns s = false) : Told observed below (calls ++ [call]) where
  observed_watched s hs := (h.observed_watched s hs).imp_left (watched_other (hcall s) calls).mpr
  watched_observed s hs := h.watched_observed s ((watched_other (hcall s) calls).mp hs)
  closing_empty := h.closing_empty

/-- The sources that an operation has still to observe are called out in turn. -/
theorem observeNext {sources : List SourceId}
    (h : Told c.observed (.observing sources :: below) calls)
    (events : List Event) :
    Progress.Meets
      { coordinator := c, timers := a, events, next := c.observeNext sources }
      (fun c _ => Told c.observed) below calls := by
  have hclosing : ∀ rest held, .closing rest held ∈ below → c.observed = [] :=
    fun rest held hmem => h.closing_empty rest held (List.mem_cons_of_mem _ hmem)
  cases hnext : c.observeNext sources with
  | none =>
      have hgone := Coordinator.observeNext_eq_none hnext
      refine (Progress.meets_none rfl _ _ _).mpr ⟨?_, h.watched_observed, hclosing⟩
      intro s hs
      apply (h.observed_watched s hs).imp_right
      intro hawaited
      exact (List.mem_append.mp hawaited).resolve_left fun hmem => hgone s hmem hs
  | some found =>
      obtain ⟨call, stage⟩ := found
      obtain ⟨skipped, x, rest, rfl, hskipped, hx, rfl, rfl⟩ :=
        Coordinator.observeNext_eq_some hnext
      refine (Progress.meets_some rfl _ _ _).mpr ⟨?_, ?_, ?_⟩
      · intro s hs
        by_cases hsx : x = s
        · exact .inl (hsx ▸ watched_observe x calls)
        · apply (h.observed_watched s hs).imp (watched_observe_ne hsx calls).mpr
          intro hawaited
          -- skipped sources have left the set, so `s` is not one of them
          have hskip : s ∉ skipped := fun hmem => hskipped s hmem hs
          simpa [Stage.awaited, hskip, Ne.symm hsx] using hawaited
      · intro s hs
        by_cases hsx : x = s
        · exact .inl (hsx ▸ hx)
        · exact h.watched_observed s ((watched_observe_ne hsx calls).mp hs)
      · intro last held hmem
        exact hclosing last held ((List.mem_cons.mp hmem).resolve_left nofun)

theorem tells : Tells Told where
  exchange := exchange
  aside := aside
  observeNext h events := h.observeNext events

/-- New sources are awaited from the moment they are in the set. -/
theorem taken (h : Told c.observed below calls) (hopen : ∀ rest held, .closing rest held ∉ below)
    {g : Coordinator.Gathering (Agenda Alarm)} (hg : c.Gathered g) :
    Told g.coordinator.observed (.observing g.added :: below) calls where
  observed_watched s hs := by
    rw [awaited_cons, List.mem_append]
    rcases (hg.mem_observed s).mp hs with hs | hs
    · exact (h.observed_watched s hs).imp_right .inr
    · exact .inr (.inl hs)
  watched_observed s hs :=
    (h.watched_observed s hs).imp_left fun hmem => (hg.mem_observed s).mpr (.inl hmem)
  closing_empty rest held hmem :=
    absurd ((List.mem_cons.mp hmem).resolve_left nofun) (hopen rest held)

theorem pause (h : Told c.observed below calls) (hopen : ∀ rest held, .closing rest held ∉ below)
    (hattuned : Attuned c.timer a) (hascending : c.observed.Pairwise (· < ·))
    (sources : List SourceId) (grace : Span) :
    (c.pause a sources grace).Meets (fun c _ => Told c.observed) below calls :=
  tells.pause (h.taken hopen (Coordinator.gathered_taken hattuned hascending sources grace))

/-- A finished source is out of the set when the signaller is told. -/
theorem finish (h : Told c.observed below calls) (hascending : c.observed.Pairwise (· < ·))
    (source : SourceId) : (c.finish a source).Meets (fun c _ => Told c.observed) below calls := by
  by_cases hsource : source ∈ c.observed
  · obtain ⟨givenUp, hnext, hobserved⟩ := c.finish_of_mem a hsource
    have hnodup : c.observed.Nodup := hascending.imp Nat.ne_of_lt
    refine (Progress.meets_some hnext _ _ _).mpr ⟨?_, ?_, ?_⟩
    · intro s hs
      rw [hobserved, hnodup.mem_erase_iff] at hs
      exact (h.observed_watched s hs.2).imp_left (watched_unobserve_ne (Ne.symm hs.1) calls).mpr
    · intro s hs
      by_cases hsx : source = s
      · exact absurd (hsx ▸ hs) (not_watched_unobserve source calls)
      · rw [hobserved, hnodup.mem_erase_iff]
        exact (h.watched_observed s ((watched_unobserve_ne hsx calls).mp hs)).imp_left
          fun hmem => ⟨Ne.symm hsx, hmem⟩
    · intro rest held hmem
      rw [hobserved, h.closing_empty rest held ((List.mem_cons.mp hmem).resolve_left nofun)]
      rfl
  · unfold Coordinator.finish
    rw [if_neg hsource]
    exact (Progress.meets_none rfl _ _ _).mpr h

/-- Each source that leaves is unobserved in its turn. -/
theorem closeNext {rest : List SourceId} {held : Bool}
    (h : Told c.observed (.closing rest held :: below) calls) (events : List Event) :
    (c.closeNext a rest held events).Meets (fun c _ => Told c.observed) below calls := by
  have hempty : c.observed = [] := h.closing_empty rest held List.mem_cons_self
  cases rest with
  | nil => exact tells.closed (tells.drop h rfl rfl) held events
  | cons x rest =>
      refine (Progress.meets_some rfl _ _ _).mpr ⟨?_, ?_, fun _ _ _ => hempty⟩
      · intro s hs
        exact absurd hs (hempty ▸ List.not_mem_nil)
      · intro s hs
        by_cases hsx : x = s
        · exact absurd (hsx ▸ hs) (not_watched_unobserve x calls)
        · apply (h.watched_observed s ((watched_unobserve_ne hsx calls).mp hs)).imp_right
          intro hmem
          simpa [Stage.leaving, Ne.symm hsx] using hmem

/-- A coordinator that goes away leaves all its sources at once. -/
theorem close (h : Told c.observed below calls) :
    (c.close a).Meets (fun c _ => Told c.observed) below calls := by
  refine closeNext ⟨by simp, ?_, fun _ _ _ => rfl⟩ _
  intro s hs
  exact .inr (List.mem_append.mpr (h.watched_observed s hs))

end Told

/-- The pause is secured and the signaller is told what the coordinator observes. -/
structure Signalled (c : Coordinator) (a : Agenda Alarm) (below : List Stage) (calls : List Call) :
    Prop extends Secured c a below calls, Told c.observed below calls

namespace Signalled

variable {c : Coordinator} {a : Agenda Alarm} {below : List Stage} {calls : List Call}

theorem resume {stage : Stage} (h : Signalled c a (stage :: below) calls)
    (hopen : ∀ grace, stage = .listing grace → ∀ rest held, .closing rest held ∉ below)
    (sources : List SourceId) :
    (c.resume a sources stage).Meets (fun c _ => Told c.observed) below calls := by
  refine Told.tells.resume h.toTold ?_ ?_
  · rintro grace rfl
    exact (Told.tells.drop h.toTold rfl rfl).pause (hopen grace rfl) h.attuned h.ascending sources
      grace
  · rintro rest held rfl
    exact h.toTold.closeNext []

theorem finish (h : Signalled c a below calls) (source : SourceId) :
    (c.finish a source).Meets Signalled below calls :=
  ⟨h.toSecured.finish source, h.toTold.finish h.ascending source⟩

theorem stable : Law.Stable Signalled where
  pause h hopen sources grace :=
    ⟨Secured.stable.pause h.toSecured hopen sources grace,
      h.toTold.pause hopen h.attuned h.ascending sources grace⟩
  list h grace :=
    ⟨Secured.stable.list h.toSecured grace,
      (Told.tells.list h.toTold grace)⟩
  resume h hopen sources :=
    ⟨Secured.stable.resume h.toSecured hopen sources, h.resume hopen sources⟩
  alarm h hpop := ⟨Secured.stable.alarm h.toSecured hpop, Told.tells.alarm h.toTold _⟩
  settled h haimed hnone := ⟨Secured.stable.settled h.toSecured haimed hnone, h.toTold⟩
  close h hbelow := ⟨Secured.stable.close h.toSecured hbelow, h.toTold.close⟩

theorem run (moves : List Move) :
    Session.Upholds Signalled (Session.fresh.after moves) (Session.fresh.calls moves) :=
  Session.run_upholds stable ⟨Secured.start, Told.start⟩ (fun h source => h.finish source) moves

end Signalled

/-- Whatever the collaborators call back into the coordinator: at rest the pause is
held exactly while a source is observed or the release timer runs, one handle is
out exactly while it is held, and a source is observed exactly if the signaller
was last told so. At every moment, a pause that is held is wanted, and the timer
runs only where no source is observed. -/
theorem pause_follows_sources (moves : List Move) :
    let s := Session.fresh.after moves
    let calls := Session.fresh.calls moves
    (s.AtRest →
      (s.coordinator.held = true ↔
        s.coordinator.observed ≠ [] ∨ s.coordinator.timer.isRunning = true) ∧
      calls.count .acquire = calls.count .release + (if s.coordinator.held then 1 else 0) ∧
      ∀ source, source ∈ s.coordinator.observed ↔
        (signals source calls).getLast? = some (.observe source)) ∧
    (s.coordinator.held = true →
      s.coordinator.observed ≠ [] ∨ s.coordinator.timer.isRunning = true) ∧
    (s.coordinator.timer.isRunning = true → s.coordinator.observed = []) := by
  intro s calls
  have h := (Signalled.run moves).2
  refine ⟨fun hrest => ?_, h.held_wanted, h.trailing⟩
  have hstages : s.stages = [] := hrest
  rw [hstages] at h
  refine ⟨⟨h.held_wanted, fun hwanted => ?_⟩, h.balance, fun source => ?_⟩
  · exact (h.wanted_held hwanted).resolve_right fun ⟨added, hmem⟩ => List.not_mem_nil hmem
  · exact ⟨fun hmem => (h.observed_watched source hmem).resolve_right List.not_mem_nil,
      fun hlast => (h.watched_observed source hlast).resolve_right List.not_mem_nil⟩

end Cadence.Pause

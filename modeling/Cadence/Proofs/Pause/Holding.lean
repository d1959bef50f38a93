import Cadence.Proofs.Pause.Run
import Cadence.Proofs.Pause.Sources

/-! # When the pause is held

The pause is wanted while a source is observed or the release timer runs. Between
a call to the provider and the adoption of what it returns the pause may be
wanted and not held, so the law keeps a window open for each such call. Handles
that were given up and are not let go yet are counted where they wait.
-/

namespace Cadence.Pause

/-- The handles that an operation at this stage has still to adopt or to let go. -/
def Stage.handles : Stage → Nat
  | .acquired _ => 1
  | .unobserved givenUp => if givenUp then 1 else 0
  | .closing _ held => if held then 1 else 0
  | _ => 0

/-- The handles that wait at some stages. -/
def waiting (below : List Stage) : Nat :=
  below.foldr (fun stage count => stage.handles + count) 0

@[simp] theorem waiting_cons (stage : Stage) (below : List Stage) :
    waiting (stage :: below) = stage.handles + waiting below := rfl

/-- Something asks for the pause: a source that is busy, or a grace that trails. -/
def Coordinator.Wanted (c : Coordinator) : Prop :=
  c.observed ≠ [] ∨ c.timer.isRunning = true

/-- The pause is held only where it is wanted, and where it is wanted it is held or
about to be adopted. Handles acquired are let go, held or waiting at a stage. -/
structure Secured (c : Coordinator) (a : Agenda Alarm) (below : List Stage) (calls : List Call) :
    Prop where
  attuned : Attuned c.timer a
  ascending : c.observed.Pairwise (· < ·)
  trailing : c.timer.isRunning = true → c.observed = []
  held_wanted : c.held = true → c.Wanted
  wanted_held : c.Wanted → c.held = true ∨ ∃ added, .acquired added ∈ below
  balance : calls.count .acquire =
    calls.count .release + (if c.held then 1 else 0) + waiting below

namespace Secured

variable {c : Coordinator} {a : Agenda Alarm} {below : List Stage} {calls : List Call}

theorem start : Secured {} {} [] [] where
  attuned := Attuned.fresh
  ascending := List.Pairwise.nil
  trailing h := by cases h
  held_wanted h := by cases h
  wanted_held h := by
    rcases h with h | h
    · exact absurd rfl h
    · cases h
  balance := rfl

/-- A stage that adopts nothing and lets nothing go makes no difference. -/
theorem drop {stage : Stage} (h : Secured c a (stage :: below) calls)
    (hstage : ∀ added, stage ≠ .acquired added) (hhandles : stage.handles = 0) :
    Secured c a below calls := by
  refine ⟨h.attuned, h.ascending, h.trailing, h.held_wanted, ?_, ?_⟩
  · intro hwanted
    refine (h.wanted_held hwanted).imp_right fun ⟨added, hmem⟩ => ⟨added, ?_⟩
    exact (List.mem_cons.mp hmem).resolve_left fun heq => hstage added heq.symm
  · have hbalance := h.balance
    rwa [waiting_cons, hhandles, Nat.zero_add] at hbalance

/-- A handle may wait at one stage or at another. -/
theorem exchange {stage other : Stage} (h : Secured c a (stage :: below) calls)
    (hstage : ∀ added, stage ≠ .acquired added) (hhandles : stage.handles = other.handles) :
    Secured c a (other :: below) calls := by
  refine ⟨h.attuned, h.ascending, h.trailing, h.held_wanted, ?_, ?_⟩
  · intro hwanted
    refine (h.wanted_held hwanted).imp_right fun ⟨added, hmem⟩ => ⟨added, ?_⟩
    exact List.mem_cons_of_mem _
      ((List.mem_cons.mp hmem).resolve_left fun heq => hstage added heq.symm)
  · have hbalance := h.balance
    rwa [waiting_cons, hhandles] at hbalance

theorem push {stage : Stage} (h : Secured c a below calls) (hhandles : stage.handles = 0) :
    Secured c a (stage :: below) calls := by
  refine ⟨h.attuned, h.ascending, h.trailing, h.held_wanted, ?_, ?_⟩
  · exact fun hwanted => (h.wanted_held hwanted).imp_right fun ⟨added, hmem⟩ =>
      ⟨added, List.mem_cons_of_mem _ hmem⟩
  · rw [waiting_cons, hhandles, Nat.zero_add]
    exact h.balance

/-- A call to the signaller makes no difference to the pause. -/
theorem tell {stage : Stage} {call : Call} (h : Secured c a below calls)
    (hhandles : stage.handles = 0) (hacquire : call ≠ .acquire) (hrelease : call ≠ .release) :
    Secured c a (stage :: below) (calls ++ [call]) := by
  have hpush := h.push hhandles
  refine ⟨h.attuned, h.ascending, h.trailing, h.held_wanted, hpush.wanted_held, ?_⟩
  have hbalance := hpush.balance
  simpa [List.count_cons, hacquire, hrelease] using hbalance

theorem observeNext (h : Secured c a below calls) (sources : List SourceId) (events : List Event) :
    Progress.Meets
      { coordinator := c, timers := a, events, next := c.observeNext sources }
      Secured below calls := by
  cases hnext : c.observeNext sources with
  | none => exact (Progress.meets_none rfl _ _ _).mpr h
  | some found =>
      obtain ⟨call, stage⟩ := found
      obtain ⟨_, s, rest, _, _, _, rfl, rfl⟩ := Coordinator.observeNext_eq_some hnext
      exact h.tell rfl nofun nofun

/-- Sources taken in while the pause is held leave it held. -/
theorem taken (h : Secured c a below calls) {sources : List SourceId} (grace : Span)
    (hkept : ¬ (sources ≠ [] ∧ c.held = false)) :
    Secured (c.taken a sources grace).coordinator (c.taken a sources grace).timers below calls := by
  by_cases hsources : sources = []
  · subst hsources
    exact h
  have hg := Coordinator.gathered_taken h.attuned h.ascending sources grace
  obtain ⟨hidle, hbusy⟩ := Coordinator.taken_stirs (c := c) (a := a) grace hsources
  have hheld : c.held = true := by simpa [hsources] using hkept
  refine ⟨hg.attuned, hg.ascending, fun hrun => ?_, fun _ => .inl hbusy, fun _ => .inl ?_, ?_⟩
  · exact absurd (hidle.symm.trans hrun) nofun
  · rw [hg.held, hheld]
  · rw [hg.held]
    exact h.balance

/-- Sources taken in while the pause is not held open a window for it. -/
theorem acquiring (h : Secured c a below calls) {sources : List SourceId} (grace : Span)
    (hsources : sources ≠ []) (hfree : c.held = false) (added : List SourceId) :
    Secured (c.taken a sources grace).coordinator (c.taken a sources grace).timers
      (.acquired added :: below) (calls ++ [.acquire]) := by
  have hg := Coordinator.gathered_taken h.attuned h.ascending sources grace
  obtain ⟨hidle, hbusy⟩ := Coordinator.taken_stirs (c := c) (a := a) grace hsources
  refine ⟨hg.attuned, hg.ascending, fun hrun => ?_, fun _ => .inl hbusy,
    fun _ => .inr ⟨added, List.mem_cons_self⟩, ?_⟩
  · exact absurd (hidle.symm.trans hrun) nofun
  · have hbalance := h.balance
    rw [hfree] at hbalance
    rw [hg.held, hfree]
    simp [Stage.handles, hbalance]
    omega

theorem pause (h : Secured c a below calls) (sources : List SourceId) (grace : Span) :
    (c.pause a sources grace).Meets Secured below calls := by
  by_cases hacquire : sources ≠ [] ∧ c.held = false
  · rw [Coordinator.pause_acquires hacquire.1 hacquire.2]
    exact h.acquiring grace hacquire.1 hacquire.2 _
  · rw [Coordinator.pause_observes hacquire]
    exact (h.taken grace hacquire).observeNext _ []

theorem adopt {added : List SourceId} (h : Secured c a (.acquired added :: below) calls) :
    (c.adopt a added).Meets Secured below calls := by
  have hbalance := h.balance
  simp only [waiting_cons, Stage.handles] at hbalance
  unfold Coordinator.adopt
  dsimp only
  split
  next hadopt =>
    simp only [Bool.and_eq_true, Bool.or_eq_true, Bool.not_eq_true', List.isEmpty_eq_false_iff]
      at hadopt
    obtain ⟨hwanted, hfree⟩ := hadopt
    have hsecured : Secured { c with held := true } a below calls := by
      refine ⟨h.attuned, h.ascending, h.trailing, fun _ => hwanted, fun _ => .inl rfl, ?_⟩
      simp only [hfree] at hbalance
      simp only [↓reduceIte]
      simp at hbalance
      omega
    exact hsecured.observeNext added []
  next hsurplus =>
    -- the window closes: somebody else has adopted, or nothing asks any more
    have hheld : c.Wanted → c.held = true := by
      intro hwanted
      by_contra hfree
      apply hsurplus
      rcases hwanted with hbusy | hrun <;> simp_all
    refine ⟨h.attuned, h.ascending, h.trailing, h.held_wanted, fun hw => .inl (hheld hw), ?_⟩
    simp [Progress.stages, Progress.calls, Stage.handles]
    omega

theorem finish (h : Secured c a below calls) (source : SourceId) :
    (c.finish a source).Meets Secured below calls := by
  have hbalance := h.balance
  unfold Coordinator.finish
  split
  next hsource =>
    have hbusy : c.observed ≠ [] := List.ne_nil_of_mem hsource
    -- a source is observed, so no release trails
    have hidle : c.timer.isRunning ≠ true := fun hrun => hbusy (h.trailing hrun)
    have hcover (stage : Stage) : c.held = true ∨ ∃ added, .acquired added ∈ stage :: below :=
      (h.wanted_held (.inl hbusy)).imp_right (Exists.imp fun _ => List.mem_cons_of_mem stage)
    have hrest : (c.observed.erase source).Pairwise (· < ·) :=
      h.ascending.sublist List.erase_sublist
    dsimp only
    split
    next hothers =>
      refine ⟨h.attuned, hrest, fun hrun => absurd hrun hidle, ?_, ?_, ?_⟩
      · exact fun _ => .inl (by simpa using hothers)
      · exact fun _ => hcover _
      · simpa [Progress.stages, Progress.calls, Stage.handles] using hbalance
    next hlast =>
      have hempty : c.observed.erase source = [] := by
        simpa only [Bool.not_eq_true', Bool.not_eq_false, List.isEmpty_iff] using hlast
      split
      next =>
        refine ⟨h.attuned, hrest, fun hrun => absurd hrun hidle, ?_, ?_, ?_⟩
        · exact fun hheld => absurd hheld Bool.false_ne_true
        · rintro (hobserved | hrun)
          · exact absurd hempty hobserved
          · exact absurd hrun hidle
        · simpa [Progress.stages, Progress.calls, Stage.handles, Coordinator.giveUp,
            Nat.add_assoc] using hbalance
      next =>
        refine ⟨h.attuned.start c.grace, hrest, fun _ => hempty, fun _ => .inr rfl, ?_, ?_⟩
        · exact fun _ => hcover _
        · simpa [Progress.stages, Progress.calls, Stage.handles] using hbalance
  next => exact (Progress.meets_none rfl _ _ _).mpr h

theorem alarm (h : Secured c a below calls) {limit : Span} {e : Entry Alarm} {b : Agenda Alarm}
    (hpop : a.popDue limit = some (e, b)) :
    (c.alarm (b.started e) e.task).Meets Secured below calls := by
  obtain ⟨hrun, hfire, hattuned⟩ := h.attuned.of_popDue hpop
  have hempty : c.observed = [] := h.trailing hrun
  have hbalance := h.balance
  unfold Coordinator.alarm
  rw [hfire]
  refine ⟨hattuned, h.ascending, nofun, nofun, ?_, ?_⟩
  · rintro (hobserved | hrun)
    · exact absurd hempty hobserved
    · cases hrun
  · cases hheld : c.held <;>
      simp [Progress.stages, Progress.calls, Stage.handles, Coordinator.giveUp, hheld]
        at hbalance ⊢ <;>
      omega

/-- The remaining calls of a coordinator that goes away end with the handle it held. -/
theorem closeNext (held : Bool) (h : Secured c a (.closing [] held :: below) calls)
    (rest : List SourceId) (events : List Event) :
    (c.closeNext a rest held events).Meets Secured below calls := by
  have hbalance := h.balance
  have hcover : c.Wanted → c.held = true ∨ ∃ added, .acquired added ∈ below := by
    intro hwanted
    refine (h.wanted_held hwanted).imp_right fun ⟨added, hmem⟩ => ⟨added, ?_⟩
    exact (List.mem_cons.mp hmem).resolve_left nofun
  cases rest with
  | nil =>
      -- all sources are unobserved, and the handle is let go if there is one
      refine ⟨h.attuned, h.ascending, h.trailing, h.held_wanted, ?_, ?_⟩
      · exact fun hwanted => (hcover hwanted).imp_right fun ⟨added, hmem⟩ =>
          ⟨added, List.mem_append_right _ hmem⟩
      · cases held <;>
          simp [Coordinator.closeNext, Progress.stages, Progress.calls, Stage.handles]
            at hbalance ⊢ <;>
          omega
  | cons s rest =>
      refine ⟨h.attuned, h.ascending, h.trailing, h.held_wanted, ?_, ?_⟩
      · exact fun hwanted => (hcover hwanted).imp_right fun ⟨added, hmem⟩ =>
          ⟨added, List.mem_append_right _ hmem⟩
      · cases hheld : c.held <;> cases held <;>
          simpa [Coordinator.closeNext, Progress.stages, Progress.calls, Stage.handles, hheld]
            using hbalance

theorem close (h : Secured c a below calls) : (c.close a).Meets Secured below calls := by
  have hbalance := h.balance
  refine closeNext c.held ?_ c.observed _
  refine ⟨h.attuned.stop, List.Pairwise.nil, nofun, nofun, ?_, ?_⟩
  · rintro (hobserved | hrun)
    · exact absurd rfl hobserved
    · cases hrun
  · cases hheld : c.held <;>
      simp [Stage.handles, hheld] at hbalance ⊢ <;>
      omega

theorem stable : Law.Stable Secured where
  pause h _ sources grace := h.pause sources grace
  list h _ := h.tell rfl nofun nofun
  resume {c a stage below calls} h _ sources := by
    have hquiet (hkept : Secured c a below calls) :
        Progress.Meets { coordinator := c, timers := a } Secured below calls :=
      (Progress.meets_none rfl _ _ _).mpr hkept
    cases stage with
    | acquired added => exact h.adopt
    | observing rest => exact (h.drop nofun rfl).observeNext rest []
    | unobserved givenUp =>
        cases givenUp with
        | false => exact hquiet (h.drop nofun rfl)
        -- the handle waits here as it would at the end of a closing
        | true => exact closeNext true (h.exchange nofun rfl) [] []
    | listing grace => exact (h.drop nofun rfl).pause sources grace
    | closing rest held => exact closeNext held (h.exchange nofun rfl) rest []
    | finished => exact hquiet (h.drop nofun rfl)
  alarm h hpop := h.alarm hpop
  settled h haimed hnone :=
    ⟨h.attuned.settled haimed hnone, h.ascending, h.trailing, h.held_wanted, h.wanted_held,
      h.balance⟩
  close h _ := h.close

end Secured

end Cadence.Pause

import Cadence.Proofs.Pause.Signals

/-! # What holds on any timeline

The release timer may be kept by a service that takes no task back, or brings up tasks
as it likes. Even then every handle that was acquired is let go, held, or waits at a
stage, the signaller watches no source that is not in the observation set, and the set
is in ascending order.
-/

namespace Cadence.Pause

/-- The books of a coordinator, whatever service keeps its timer. -/
structure Kept (c : Coordinator) (below : List Stage) (calls : List Call) : Prop where
  ascending : c.observed.Pairwise (· < ·)
  watched : ∀ s, Watched s calls → s ∈ c.observed
  balance : calls.count .acquire =
    calls.count .release + (if c.held then 1 else 0) + waiting below

/-- The books are kept once an operation has stopped above the given stages. -/
def Progress.Keeps {σ : Type} (p : Progress σ) (below : List Stage) (calls : List Call) : Prop :=
  Kept p.coordinator (p.stages ++ below) (calls ++ p.calls)

namespace Kept

variable {c d : Coordinator} {below : List Stage} {stage : Stage} {calls : List Call}

theorem start : Kept {} [] [] where
  ascending := List.Pairwise.nil
  watched _ h := by cases h
  balance := rfl

/-- The timer and the grace are no part of the books. -/
theorem congr (h : Kept c below calls) (hobserved : d.observed = c.observed)
    (hheld : d.held = c.held) : Kept d below calls := by
  obtain ⟨hascending, hwatched, hbalance⟩ := h
  rw [← hobserved] at hascending
  rw [← hheld] at hbalance
  exact ⟨hascending, fun s hs => hobserved ▸ hwatched s hs, hbalance⟩

theorem push (h : Kept c below calls) (hhandles : stage.handles = 0) :
    Kept c (stage :: below) calls := by
  refine ⟨h.ascending, h.watched, ?_⟩
  rw [waiting_cons, hhandles, Nat.zero_add]
  exact h.balance

theorem drop (h : Kept c (stage :: below) calls) (hhandles : stage.handles = 0) :
    Kept c below calls := by
  refine ⟨h.ascending, h.watched, ?_⟩
  have hbalance := h.balance
  rwa [waiting_cons, hhandles, Nat.zero_add] at hbalance

/-- A call that leaves the handles alone may only begin to watch a source that is
observed. -/
theorem tell {call : Call} (h : Kept c below calls) (hhandles : stage.handles = 0)
    (hacquire : call ≠ .acquire) (hrelease : call ≠ .release)
    (hobserve : ∀ s, call = .observe s → s ∈ c.observed) :
    Kept c (stage :: below) (calls ++ [call]) := by
  have hpush := h.push hhandles
  refine ⟨h.ascending, fun s hs => ?_, ?_⟩
  · cases call with
    | observe x =>
        by_cases hx : x = s
        · exact hx ▸ hobserve x rfl
        · exact h.watched s ((watched_observe_ne hx calls).mp hs)
    | unobserve x =>
        by_cases hx : x = s
        · exact absurd (hx ▸ hs) (not_watched_unobserve x calls)
        · exact h.watched s ((watched_unobserve_ne hx calls).mp hs)
    | _ => exact h.watched s ((watched_other rfl calls).mp hs)
  · simpa [List.count_cons, hacquire, hrelease] using hpush.balance

/-- A handle that waits is let go. -/
theorem release {other : Stage} (h : Kept c (stage :: below) calls) (hhandles : stage.handles = 1)
    (hother : other.handles = 0) : Kept c (other :: below) (calls ++ [.release]) := by
  have hbalance := h.balance
  rw [waiting_cons, hhandles] at hbalance
  refine ⟨h.ascending, fun s hs => h.watched s ((watched_other rfl calls).mp hs), ?_⟩
  simp [hother, hbalance]
  omega

/-- A handle that is held may be given up at a stage where it waits. -/
theorem giveUp (h : Kept c below calls) (hfree : d.held = false)
    (hobserved : d.observed = c.observed) (hhandles : stage.handles = if c.held then 1 else 0) :
    Kept d (stage :: below) calls := by
  refine ⟨hobserved ▸ h.ascending, fun s hs => hobserved ▸ h.watched s hs, ?_⟩
  rw [waiting_cons, hhandles, hfree, h.balance]
  simp [Nat.add_assoc]

end Kept

/-! ## Operations -/

section Operations

variable {σ : Type} {c : Coordinator} {timers : σ} {below : List Stage} {calls : List Call}

theorem Kept.quiet (h : Kept c below calls) :
    Progress.Keeps { coordinator := c, timers } below calls := by
  simpa [Progress.Keeps, Progress.stages, Progress.calls] using h

/-- Only sources that are still in the set are observed. -/
theorem Kept.observeNext (h : Kept c below calls) (sources : List SourceId) (events : List Event) :
    Progress.Keeps { coordinator := c, timers, events, next := c.observeNext sources }
      below calls := by
  unfold Progress.Keeps Progress.stages Progress.calls
  cases hnext : c.observeNext sources with
  | none => simpa using h
  | some found =>
      obtain ⟨call, stage⟩ := found
      obtain ⟨_, s, rest, _, _, hs, rfl, rfl⟩ := Coordinator.observeNext_eq_some hnext
      refine h.tell rfl nofun nofun ?_
      rintro x heq
      cases heq
      exact hs

/-- An acquired handle is held from now on, or let go again. -/
theorem Kept.adopt {added : List SourceId} (h : Kept c (.acquired added :: below) calls) :
    (c.adopt timers added).Keeps below calls := by
  unfold Coordinator.adopt
  dsimp only
  split
  next hadopt =>
    have hfree : c.held = false := by simp_all
    have hbalance := h.balance
    rw [hfree, waiting_cons] at hbalance
    have hkept : Kept { c with held := true } below calls := by
      refine ⟨h.ascending, h.watched, hbalance.trans ?_⟩
      simp [Stage.handles]
      omega
    exact hkept.observeNext added []
  next => exact h.release rfl rfl

theorem Kept.alarm [TimerService σ Alarm] (h : Kept c below calls) (alarm : Alarm) :
    (c.alarm timers alarm).Keeps below calls := by
  unfold Coordinator.alarm
  split
  next => exact h.quiet
  next timer hfire =>
    unfold Coordinator.giveUp Progress.Keeps Progress.stages Progress.calls
    dsimp only
    cases hheld : c.held with
    | false =>
        have hkept : Kept { c with timer, held := false } below calls := h.congr rfl hheld.symm
        simpa using hkept
    | true =>
        have hwaiting : Kept { c with timer, held := false } (.unobserved true :: below) calls :=
          h.giveUp rfl rfl (by simp [hheld, Stage.handles])
        exact hwaiting.release rfl rfl

variable [TimerService σ Alarm]

/-- Taking in sources only adds to the set. -/
theorem gather_kept (grace : Span) (g : Coordinator.Gathering σ) (s : SourceId)
    (hascending : g.coordinator.observed.Pairwise (· < ·)) :
    (Coordinator.gather grace g s).coordinator.observed.Pairwise (· < ·) ∧
      g.coordinator.observed ⊆ (Coordinator.gather grace g s).coordinator.observed ∧
      (Coordinator.gather grace g s).coordinator.held = g.coordinator.held := by
  unfold Coordinator.gather
  dsimp only
  split
  next => exact ⟨hascending, List.Subset.refl _, rfl⟩
  next hnew =>
    refine ⟨Coordinator.insertSource_ascending hascending hnew, fun x hx => ?_, rfl⟩
    exact Coordinator.mem_insertSource.mpr (.inr hx)

theorem Kept.gathered (h : Kept c below calls) (timers : σ) (sources : List SourceId)
    (grace : Span) :
    Kept (sources.foldl (Coordinator.gather grace) { coordinator := c, timers }).coordinator
      below calls := by
  generalize hg : ({ coordinator := c, timers } : Coordinator.Gathering σ) = g
  have hkept : Kept g.coordinator below calls := hg ▸ h
  clear hg
  induction sources generalizing g with
  | nil => exact hkept
  | cons s rest ih =>
      obtain ⟨hascending, hsubset, hheld⟩ := gather_kept grace g s hkept.ascending
      exact ih _ ⟨hascending, fun x hx => hsubset (hkept.watched x hx), hheld ▸ hkept.balance⟩

theorem Kept.pause (h : Kept c below calls) (sources : List SourceId) (grace : Span) :
    (c.pause timers sources grace).Keeps below calls := by
  have hkept := h.gathered timers sources grace
  unfold Coordinator.pause
  dsimp only
  generalize sources.foldl (Coordinator.gather grace) { coordinator := c, timers } = g at hkept ⊢
  split
  next =>
    -- the handle that is asked for waits to be adopted
    refine ⟨hkept.ascending, fun s hs => hkept.watched s ((watched_other rfl calls).mp hs), ?_⟩
    have hbalance := hkept.balance
    simp [Progress.stages, Progress.calls, Stage.handles, hbalance]
    omega
  next => exact hkept.observeNext g.added []

theorem Kept.finish (h : Kept c below calls) (source : SourceId) :
    (c.finish timers source).Keeps below calls := by
  unfold Coordinator.finish
  split
  next hsource =>
    have hnodup : c.observed.Nodup := h.ascending.imp Nat.ne_of_lt
    have hascending : (c.observed.erase source).Pairwise (· < ·) :=
      h.ascending.sublist List.erase_sublist
    have hwatched : ∀ s, Watched s (calls ++ [.unobserve source]) →
        s ∈ c.observed.erase source := by
      intro s hs
      have hne : source ≠ s := fun heq => not_watched_unobserve source calls (heq ▸ hs)
      rw [hnodup.mem_erase_iff]
      exact ⟨Ne.symm hne, h.watched s ((watched_unobserve_ne hne calls).mp hs)⟩
    have hbalance := h.balance
    dsimp only
    split
    next =>
      exact ⟨hascending, hwatched, by
        simpa [Progress.stages, Progress.calls, Stage.handles] using hbalance⟩
    next =>
      split
      next =>
        exact ⟨hascending, hwatched, by
          simpa [Progress.stages, Progress.calls, Stage.handles, Coordinator.giveUp,
            Nat.add_assoc] using hbalance⟩
      next =>
        exact ⟨hascending, hwatched, by
          simpa [Progress.stages, Progress.calls, Stage.handles] using hbalance⟩
  next => exact h.quiet

/-- A coordinator that has not gone away goes on from any stage of its operations. -/
theorem Kept.resume {stage : Stage} (h : Kept c (stage :: below) calls)
    (hopen : ∀ rest held, stage ≠ .closing rest held) (sources : List SourceId) :
    (c.resume timers sources stage).Keeps below calls := by
  cases stage with
  | acquired added => exact h.adopt
  | observing rest => exact (h.drop rfl).observeNext rest []
  | unobserved givenUp =>
      cases givenUp with
      | false => exact (h.drop rfl).quiet
      | true => exact h.release rfl rfl
  | listing grace => exact (h.drop rfl).pause sources grace
  | closing rest held => exact absurd rfl (hopen rest held)
  | finished => exact (h.drop rfl).quiet

end Operations

end Cadence.Pause

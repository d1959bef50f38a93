import Cadence.Proofs.Pause.Release
import Mathlib.Data.List.Induction

/-! # The observation set

The observed sources are kept in ascending order without repetition. A pause
request adds the sources that were not observed before, each once, and leaves
no timer running. The signaller is asked to observe a new source only if it is
still in the set at its turn.
-/

namespace Cadence.Pause.Coordinator

/-! ## Insertion -/

theorem mem_insertSource {s x : SourceId} {sources : List SourceId} :
    x ∈ insertSource s sources ↔ x = s ∨ x ∈ sources := by
  induction sources with
  | nil => simp [insertSource]
  | cons y rest ih =>
      unfold insertSource
      split
      · exact List.mem_cons
      · rw [List.mem_cons, ih, List.mem_cons]
        exact or_left_comm

theorem insertSource_ascending {s : SourceId} {sources : List SourceId}
    (h : sources.Pairwise (· < ·)) (hnew : s ∉ sources) :
    (insertSource s sources).Pairwise (· < ·) := by
  induction sources with
  | nil => exact List.pairwise_singleton _ _
  | cons y rest ih =>
      obtain ⟨hy, hrest⟩ := List.pairwise_cons.mp h
      unfold insertSource
      split
      next hlt =>
        refine List.pairwise_cons.mpr ⟨?_, h⟩
        intro x hx
        rcases List.mem_cons.mp hx with rfl | hx
        · exact hlt
        · exact Nat.lt_trans hlt (hy x hx)
      next hlt =>
        have hne : y ≠ s := fun heq => hnew (heq ▸ List.mem_cons_self)
        refine List.pairwise_cons.mpr ⟨?_, ih hrest fun hs => hnew (List.mem_cons_of_mem y hs)⟩
        intro x hx
        rcases mem_insertSource.mp hx with rfl | hx
        · exact Nat.lt_of_le_of_ne (Nat.not_lt.mp hlt) hne
        · exact hy x hx

/-! ## Gathering -/

/-- What a request has taken in so far, against the coordinator it began with. -/
structure Gathered (c : Coordinator) (g : Gathering (Agenda Alarm)) : Prop where
  attuned : Attuned g.coordinator.timer g.timers
  ascending : g.coordinator.observed.Pairwise (· < ·)
  held : g.coordinator.held = c.held
  mem_observed : ∀ s, s ∈ g.coordinator.observed ↔ s ∈ c.observed ∨ s ∈ g.added
  added_new : ∀ s ∈ g.added, s ∉ c.observed
  added_nodup : g.added.Nodup

theorem Gathered.gather {c : Coordinator} {g : Gathering (Agenda Alarm)} (h : Gathered c g)
    (grace : Span) (s : SourceId) : Gathered c (gather grace g s) := by
  unfold Coordinator.gather
  dsimp only
  split
  next => exact ⟨h.attuned.stop, h.ascending, h.held, h.mem_observed, h.added_new, h.added_nodup⟩
  next hnew =>
    have hnew' : s ∉ g.coordinator.observed := hnew
    rw [h.mem_observed, not_or] at hnew'
    refine ⟨h.attuned.stop, insertSource_ascending h.ascending hnew, h.held, ?_, ?_, ?_⟩
    · intro x
      rw [mem_insertSource, h.mem_observed, List.mem_append, List.mem_singleton]
      exact ⟨fun hx => hx.elim (fun hs => .inr (.inr hs)) (Or.imp_right .inl),
        fun hx => hx.elim (fun ho => .inr (.inl ho)) fun hx =>
          hx.elim (fun ha => .inr (.inr ha)) .inl⟩
    · intro x hx
      rcases List.mem_append.mp hx with hx | hx
      · exact h.added_new x hx
      · exact List.mem_singleton.mp hx ▸ hnew'.1
    · refine List.nodup_append.mpr ⟨h.added_nodup, List.nodup_singleton s, ?_⟩
      rintro x hx _ hy rfl
      exact hnew'.2 (List.mem_singleton.mp hy ▸ hx)

/-- Each source taken in calls a trailing release off and is in the set. -/
theorem gather_stirs (grace : Span) (g : Gathering (Agenda Alarm)) (s : SourceId) :
    (gather grace g s).coordinator.timer.armed = false ∧
      s ∈ (gather grace g s).coordinator.observed := by
  unfold gather
  dsimp only
  split
  next hmem => exact ⟨rfl, hmem⟩
  next => exact ⟨rfl, mem_insertSource.mpr (.inl rfl)⟩

variable {c : Coordinator} {a : Agenda Alarm}

/-- The coordinator after a request has taken in its sources. -/
def taken (c : Coordinator) (a : Agenda Alarm) (sources : List SourceId) (grace : Span) :
    Gathering (Agenda Alarm) :=
  sources.foldl (gather grace) { coordinator := c, timers := a }

theorem gathered_taken (hattuned : Attuned c.timer a) (hascending : c.observed.Pairwise (· < ·))
    (sources : List SourceId) (grace : Span) : Gathered c (c.taken a sources grace) := by
  unfold taken
  induction sources using List.reverseRecOn with
  | nil => exact ⟨hattuned, hascending, rfl, by simp, by simp, List.nodup_nil⟩
  | append_singleton sources s ih =>
      rw [List.foldl_append]
      exact ih.gather grace s

theorem taken_stirs (grace : Span) {sources : List SourceId} (hne : sources ≠ []) :
    (c.taken a sources grace).coordinator.timer.armed = false ∧
      (c.taken a sources grace).coordinator.observed ≠ [] := by
  unfold taken
  -- the last source alone leaves the timer idle and the set non-empty
  rw [← List.dropLast_append_getLast hne, List.foldl_append]
  obtain ⟨hidle, hmem⟩ := gather_stirs grace
    (sources.dropLast.foldl (gather grace) { coordinator := c, timers := a }) (sources.getLast hne)
  exact ⟨hidle, List.ne_nil_of_mem hmem⟩

theorem taken_held (sources : List SourceId) (grace : Span) :
    (c.taken a sources grace).coordinator.held = c.held := by
  unfold taken
  induction sources using List.reverseRecOn with
  | nil => rfl
  | append_singleton sources s ih =>
      rw [List.foldl_append, ← ih]
      show (gather grace _ s).coordinator.held = _
      unfold gather
      dsimp only
      split <;> rfl

/-- A request acquires the pause exactly if it names a source and the pause is not held. -/
theorem pause_acquires {sources : List SourceId} {grace : Span} (hsources : sources ≠ [])
    (hfree : c.held = false) :
    c.pause a sources grace =
      { coordinator := (c.taken a sources grace).coordinator
        timers := (c.taken a sources grace).timers
        events := [.acquiringPause (c.taken a sources grace).added.length]
        next := some (.acquire, .acquired (c.taken a sources grace).added) } := by
  have hheld := c.taken_held (a := a) sources grace
  unfold pause
  exact if_pos (by simpa [taken, hfree, hsources] using hheld)

theorem pause_observes {sources : List SourceId} {grace : Span}
    (hkept : ¬ (sources ≠ [] ∧ c.held = false)) :
    c.pause a sources grace =
      { coordinator := (c.taken a sources grace).coordinator
        timers := (c.taken a sources grace).timers
        next := (c.taken a sources grace).coordinator.observeNext
          (c.taken a sources grace).added } := by
  have hheld := c.taken_held (a := a) sources grace
  unfold pause
  refine if_neg fun hacquire => hkept ?_
  rw [Bool.and_eq_true] at hacquire
  refine ⟨?_, ?_⟩
  · rintro rfl
    cases hacquire.1
  · rw [← hheld]
    simpa [taken] using hacquire.2

/-! ## Observing in turn -/

/-- The sources skipped in search of the next one to observe have left the set. -/
theorem observeNext_eq_some {sources : List SourceId} {call : Call} {stage : Stage}
    (h : c.observeNext sources = some (call, stage)) :
    ∃ skipped s rest, sources = skipped ++ s :: rest ∧ (∀ x ∈ skipped, x ∉ c.observed) ∧
      s ∈ c.observed ∧ call = .observe s ∧ stage = .observing rest := by
  induction sources with
  | nil => cases h
  | cons s rest ih =>
      unfold observeNext at h
      split at h
      next hs =>
        cases h
        exact ⟨[], s, rest, rfl, by simp, hs, rfl, rfl⟩
      next hs =>
        obtain ⟨skipped, found, later, rfl, hskipped, hfound, hcall, hstage⟩ := ih h
        refine ⟨s :: skipped, found, later, rfl, ?_, hfound, hcall, hstage⟩
        intro x hx
        rcases List.mem_cons.mp hx with rfl | hx
        · exact hs
        · exact hskipped x hx

theorem observeNext_eq_none {sources : List SourceId} (h : c.observeNext sources = none) :
    ∀ s ∈ sources, s ∉ c.observed := by
  induction sources with
  | nil => simp
  | cons s rest ih =>
      unfold observeNext at h
      split at h
      next => cases h
      next hs =>
        intro x hx
        rcases List.mem_cons.mp hx with rfl | hx
        · exact hs
        · exact ih h x hx

end Cadence.Pause.Coordinator

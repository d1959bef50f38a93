import Cadence.Executor
import Cadence.Proofs.Agenda.Queue
import Mathlib.Data.List.Perm.Basic

/-! # The choice of the loop

The loop may start any task that is ready, and none that is not. With no task
ready the time moves to the earliest deadline, or to the target of the advance
if none is due by then. Where one deadline is before all others, there is no
choice.
-/

namespace Cadence.Executor

variable {τ : Type}

/-! ## The choice among ready tasks -/

theorem pick_eq_none {e : Executor τ} {choice : Nat}
    (h : ∀ job ∈ e.jobs, job.ready e.elapsed = false) : e.pick choice = none := by
  have hnone : e.jobs.filter (Job.ready e.elapsed) = [] :=
    List.filter_eq_nil_iff.mpr fun job hjob => by simp [h job hjob]
  simp [pick, hnone]

theorem mem_of_pick {e : Executor τ} {choice : Nat} {job : Job τ}
    (h : e.pick choice = some job) : job ∈ e.jobs ∧ job.ready e.elapsed = true :=
  List.mem_filter.mp (List.mem_of_getElem? h)

/-- Every ready task is the choice of the loop in one way or another. -/
theorem exists_pick {e : Executor τ} {job : Job τ} (hjob : job ∈ e.jobs)
    (hready : job.ready e.elapsed = true) : ∃ choice, e.pick choice = some job := by
  have hmem : job ∈ e.jobs.filter (Job.ready e.elapsed) := List.mem_filter.mpr ⟨hjob, hready⟩
  obtain ⟨choice, hlt, hchoice⟩ := List.getElem_of_mem hmem
  refine ⟨choice, ?_⟩
  unfold pick
  dsimp only
  rw [Nat.mod_eq_of_lt hlt, List.getElem?_eq_getElem hlt, hchoice]

/-- Where only one task is ready the loop has no choice. -/
theorem pick_sole {e : Executor τ} {job : Job τ} (hnodup : e.jobs.Nodup) (hjob : job ∈ e.jobs)
    (hready : job.ready e.elapsed = true)
    (hsole : ∀ other ∈ e.jobs, other.ready e.elapsed = true → other = job) (choice : Nat) :
    e.pick choice = some job := by
  have hperm : (e.jobs.filter (Job.ready e.elapsed)).Perm [job] := by
    rw [List.perm_ext_iff_of_nodup (hnodup.filter _) (List.nodup_singleton job)]
    intro other
    rw [List.mem_filter, List.mem_singleton]
    constructor
    · exact fun ⟨hother, hready⟩ => hsole other hother hready
    · rintro rfl
      exact ⟨hjob, hready⟩
  simp [pick, List.perm_singleton.mp hperm, Nat.mod_one]

/-! ## The search for a ready task -/

/-- Looking for a ready task moves the time and nothing else. -/
theorem exists_seek_eq (e : Executor τ) (target : Span) (choice : Nat) :
    ∃ time, (e.seek target choice).1 = { e with elapsed := time } := by
  unfold seek
  split
  · exact ⟨e.elapsed, rfl⟩
  · exact ⟨_, rfl⟩

theorem mem_of_seek {e : Executor τ} {target : Span} {choice : Nat} {job : Job τ}
    (h : (e.seek target choice).2 = some job) : job ∈ e.jobs := by
  unfold seek at h
  split at h
  next found hpick =>
    cases h
    exact (mem_of_pick hpick).1
  next =>
    obtain ⟨_, _, hpick⟩ := Option.bind_eq_some_iff.mp h
    exact (mem_of_pick (e := { e with elapsed := _ }) hpick).1

/-! ## The earliest deadline -/

/-- The earliest deadline is one that a task waits for, and none waits for an earlier one. -/
theorem earliest_spec (jobs : List (Job τ)) :
    (∀ best, earliest jobs = some best → (∃ job ∈ jobs, job.wait = .deadline best) ∧
      ∀ job ∈ jobs, ∀ due, job.wait = .deadline due → best ≤ due) ∧
    (earliest jobs = none → ∀ job ∈ jobs, ∀ due, job.wait ≠ .deadline due) := by
  induction jobs with
  | nil => simp [earliest]
  | cons job rest ih =>
      obtain ⟨hsome, hnone⟩ := ih
      cases hwait : job.wait with
      | signal raised => simpa [earliest, hwait] using ⟨hsome, hnone⟩
      | deadline time =>
          cases hrest : earliest rest with
          | none =>
              have hlone := hnone hrest
              simp only [earliest, hwait, hrest]
              refine ⟨fun best hbest => ?_, nofun⟩
              obtain rfl := Option.some.inj hbest
              refine ⟨⟨job, List.mem_cons_self, hwait⟩, fun other hother due hdue => ?_⟩
              rcases List.mem_cons.mp hother with rfl | hother
              · cases hwait.symm.trans hdue
                exact Span.le_refl _
              · exact absurd hdue (hlone other hother due)
          | some least =>
              obtain ⟨⟨found, hfound, hleast⟩, hmin⟩ := hsome least hrest
              simp only [earliest, hwait, hrest]
              refine ⟨fun best hbest => ?_, nofun⟩
              have hbest := Option.some.inj hbest
              -- the first task is due before the earliest of the others, or it is not
              split at hbest
              next hle =>
                subst hbest
                refine ⟨⟨job, List.mem_cons_self, hwait⟩, fun other hother due hdue => ?_⟩
                rcases List.mem_cons.mp hother with rfl | hother
                · cases hwait.symm.trans hdue
                  exact Span.le_refl _
                · exact Span.le_trans hle (hmin other hother due hdue)
              next hlt =>
                subst hbest
                refine ⟨⟨found, List.mem_cons_of_mem _ hfound, hleast⟩,
                  fun other hother due hdue => ?_⟩
                rcases List.mem_cons.mp hother with rfl | hother
                · cases hwait.symm.trans hdue
                  exact Nat.le_of_not_le hlt
                · exact hmin other hother due hdue

/-- The task waits for this time, and all others wait for later ones. -/
structure First (jobs : List (Job τ)) (job : Job τ) (time : Span) : Prop where
  mem : job ∈ jobs
  wait : job.wait = .deadline time
  others : ∀ other ∈ jobs, other ≠ job → ∃ due, other.wait = .deadline due ∧ time < due

theorem First.eq_of_ready {jobs : List (Job τ)} {job other : Job τ} {time now : Span}
    (h : First jobs job time) (hnow : now ≤ time) (hother : other ∈ jobs)
    (hready : other.ready now = true) : other = job := by
  by_contra hne
  obtain ⟨due, hwait, hlt⟩ := h.others other hother hne
  have hpast : due ≤ now := by simpa [Job.ready, hwait] using hready
  exact Span.not_lt.mpr (Span.le_trans hpast hnow) hlt

theorem First.earliest_eq {jobs : List (Job τ)} {job : Job τ} {time : Span}
    (h : First jobs job time) : earliest jobs = some time := by
  cases hbest : earliest jobs with
  | none => exact absurd h.wait ((earliest_spec jobs).2 hbest job h.mem time)
  | some best =>
      obtain ⟨⟨other, hother, hotherWait⟩, hmin⟩ := (earliest_spec jobs).1 best hbest
      by_cases heq : other = job
      · subst heq
        cases h.wait.symm.trans hotherWait
        rfl
      · obtain ⟨due, hdueWait, hlt⟩ := h.others other hother heq
        cases hotherWait.symm.trans hdueWait
        exact absurd hlt (Span.not_lt.mpr (hmin job h.mem time h.wait))

/-- The loop finds the task that is due before all others, and moves the time to its deadline. -/
theorem First.seek_eq {e : Executor τ} {target time : Span} {job : Job τ}
    (h : First e.jobs job time) (hnodup : e.jobs.Nodup) (hnow : e.elapsed ≤ time)
    (hdue : time ≤ target) (choice : Nat) :
    e.seek target choice = ({ e with elapsed := time }, some job) := by
  cases hready : job.ready e.elapsed with
  | true =>
      have hsame : e.elapsed = time :=
        Span.le_antisymm hnow (by simpa [Job.ready, h.wait] using hready)
      have hpick := pick_sole hnodup h.mem hready (fun _ => h.eq_of_ready hnow) choice
      unfold seek
      rw [hpick]
      simp [← hsame]
  | false =>
      have hnone : e.pick choice = none := by
        refine pick_eq_none fun other hother => ?_
        cases hother' : other.ready e.elapsed with
        | false => rfl
        | true =>
            obtain rfl := h.eq_of_ready hnow hother hother'
            exact hother'.symm.trans hready
      have hpick : ({ e with elapsed := time } : Executor τ).pick choice = some job := by
        refine pick_sole (e := { e with elapsed := time }) hnodup h.mem ?_
          (fun _ => h.eq_of_ready (Span.le_refl time)) choice
        simpa [Job.ready, h.wait] using Span.le_refl time
      unfold seek
      rw [hnone]
      simp [h.earliest_eq, Option.filter, hdue, Span.max_eq_right hnow, hpick]

/-- With nothing due by the target the time moves there. -/
theorem seek_idle {e : Executor τ} {target : Span}
    (hidle : ∀ job ∈ e.jobs, ∃ due, job.wait = .deadline due ∧ target < due)
    (hnow : e.elapsed ≤ target) (choice : Nat) :
    e.seek target choice = ({ e with elapsed := target }, none) := by
  have hnone : e.pick choice = none := by
    refine pick_eq_none fun job hjob => ?_
    obtain ⟨due, hwait, hlt⟩ := hidle job hjob
    have hpast : ¬ due ≤ e.elapsed := fun hle =>
      Nat.lt_irrefl _ (Nat.lt_of_lt_of_le hlt (Span.le_trans hle hnow))
    simpa [Job.ready, hwait] using hpast
  have hlate : (earliest e.jobs).filter (· ≤ target) = none := by
    cases hbest : earliest e.jobs with
    | none => rfl
    | some best =>
        obtain ⟨⟨job, hjob, hwait⟩, _⟩ := (earliest_spec e.jobs).1 best hbest
        obtain ⟨due, hdueWait, hlt⟩ := hidle job hjob
        cases hwait.symm.trans hdueWait
        have hlate : ¬ best ≤ target := Nat.not_le_of_lt hlt
        simp [Option.filter, hlate]
  unfold seek
  rw [hnone, hlate]
  simp [Span.max_eq_right hnow]

/-! ## What a search finds -/

/-- The loop finds nothing only if nothing is ready. -/
theorem not_ready_of_pick {e : Executor τ} {choice : Nat} (h : e.pick choice = none) {job : Job τ}
    (hjob : job ∈ e.jobs) : job.ready e.elapsed = false := by
  by_contra hready
  have hmem : job ∈ e.jobs.filter (Job.ready e.elapsed) :=
    List.mem_filter.mpr ⟨hjob, by simpa using hready⟩
  unfold pick at h
  dsimp only at h
  rw [List.getElem?_eq_none_iff] at h
  exact Nat.not_le_of_lt (Nat.mod_lt _ (List.length_pos_of_mem hmem)) h

theorem ready_of_signal {job : Job τ} {raised : Bool} (h : job.wait = .signal raised)
    (time : Span) : job.ready time = raised := by
  simp [Job.ready, h]

theorem ready_of_deadline {job : Job τ} {due : Span} (h : job.wait = .deadline due) (time : Span) :
    job.ready time = true ↔ due ≤ time := by
  simp [Job.ready, h]

/-- With no deadline up to a target, no task is due by then. -/
theorem not_due_of_earliest {jobs : List (Job τ)} {target : Span}
    (h : (earliest jobs).filter (· ≤ target) = none) {job : Job τ} (hjob : job ∈ jobs) {due : Span}
    (hwait : job.wait = .deadline due) : ¬ due ≤ target := by
  cases hbest : earliest jobs with
  | none => exact absurd hwait ((earliest_spec jobs).2 hbest job hjob due)
  | some best =>
      have hlate : ¬ best ≤ target := by simpa [hbest, Option.filter] using h
      have hfirst : best ≤ due := ((earliest_spec jobs).1 best hbest).2 job hjob due hwait
      exact fun hle => hlate (Span.le_trans hfirst hle)

/-- What is found is ready at the time that it has become, and if nothing is found then nothing
is ready by then. -/
theorem seek_spec (e : Executor τ) (target : Span) (choice : Nat) :
    ∃ time, e.elapsed ≤ time ∧ (e.seek target choice).1 = { e with elapsed := time } ∧
      match (e.seek target choice).2 with
      | some job => job ∈ e.jobs ∧ job.ready time = true
      | none => ∀ job ∈ e.jobs, job.ready time = false := by
  unfold seek
  cases hpick : e.pick choice with
  | some job => exact ⟨e.elapsed, Span.le_refl _, rfl, mem_of_pick hpick⟩
  | none =>
      dsimp only
      refine ⟨_, Span.le_max_left _ _, rfl, ?_⟩
      cases hnext : (earliest e.jobs).filter (· ≤ target) with
      | some best =>
          rw [Option.bind_some]
          cases hagain : ({ e with elapsed := e.elapsed.max ((some best).getD target) } :
              Executor τ).pick choice with
          | some job => exact mem_of_pick hagain
          | none => exact fun job hjob => not_ready_of_pick hagain hjob
      | none =>
          intro job hjob
          have hidle := not_ready_of_pick hpick hjob
          cases hwait : job.wait with
          | signal raised =>
              rw [ready_of_signal hwait] at hidle ⊢
              exact hidle
          | deadline due =>
              have hpast : ¬ due ≤ e.elapsed := by
                rw [← ready_of_deadline hwait, hidle]
                exact Bool.false_ne_true
              have htarget : ¬ due ≤ target := not_due_of_earliest hnext hjob hwait
              rw [← Bool.not_eq_true, ready_of_deadline hwait]
              rcases Span.max_eq_or e.elapsed target with hmax | hmax
              · exact fun hle => hpast (hmax ▸ hle)
              · exact fun hle => htarget (hmax ▸ hle)

end Cadence.Executor

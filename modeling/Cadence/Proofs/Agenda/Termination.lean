import Cadence.Proofs.Agenda.Piecewise
import Mathlib.Data.Multiset.DershowitzManna

/-! # Advances come to an end

A task that is due by the limit of an advance has a number of generations before it: how often
tasks may put off further ones by a least span until the limit is passed. Each task that runs
makes way for any number of tasks, but they all have fewer generations before them. So the
generations of the waiting tasks decrease as a multiset with every turn. The limit has to lie
before the largest span, where deadlines stop and tasks may be put off for ever without coming
to lie behind it.
-/

namespace Cadence.Agenda

variable {ω τ : Type} {least limit : Span}

/-- How many generations of tasks can still run by the limit, from a task of this deadline on. -/
def generations (least limit deadline : Span) : Nat :=
  if deadline ≤ limit then (limit.nanos - deadline.nanos) / least.nanos + 1 else 0

/-- What is put off by at least the least span has fewer generations before it. -/
theorem generations_add_lt {now deadline delay : Span} (hleast : .zero < least)
    (hlimit : limit < .longest) (hnow : deadline ≤ now) (hdue : deadline ≤ limit)
    (hdelay : least ≤ delay) :
    generations least limit (now + delay) < generations least limit deadline := by
  unfold generations
  rw [if_pos hdue]
  split
  next hlater =>
    rw [Span.le_iff, Span.nanos_add] at hlater
    rw [Span.le_iff] at hnow hdelay
    rw [Span.lt_iff] at hleast hlimit
    rw [Span.nanos_longest] at hlimit
    -- before the limit the sum has not stopped at the largest span
    have hsum : (now + delay).nanos = now.nanos + delay.nanos := by
      rw [Span.nanos_add]
      omega
    have hroom : least.nanos ≤ limit.nanos - deadline.nanos := by omega
    rw [hsum, Nat.div_eq_sub_div hleast hroom]
    have hquotient := Nat.div_le_div_right (c := least.nanos)
      (show limit.nanos - (now.nanos + delay.nanos) ≤
        limit.nanos - deadline.nanos - least.nanos by omega)
    omega
  next => exact Nat.succ_pos _

/-- The generations before each of the tasks that wait. -/
def horizon (least limit : Span) (a : Agenda τ) : Multiset Nat :=
  (a.queue : Multiset (Entry τ)).map fun e => generations least limit e.key.deadline

theorem horizon_schedule (a : Agenda τ) (delay : Span) (task : τ) :
    (a.schedule delay task).2.horizon least limit =
      generations least limit (a.elapsed + delay) ::ₘ a.horizon least limit := by
  unfold horizon
  rw [Multiset.coe_eq_coe.mpr (a.schedule_queue_perm delay task), ← Multiset.cons_coe,
    Multiset.map_cons]
  rfl

theorem cancel_sublist (a : Agenda τ) (id : TaskId) : (a.cancel id).queue.Sublist a.queue := by
  unfold cancel
  split
  next => exact List.Sublist.refl _
  next => exact List.eraseP_sublist

theorem horizon_cancel_le (a : Agenda τ) (id : TaskId) :
    (a.cancel id).horizon least limit ≤ a.horizon least limit :=
  Multiset.map_le_map (Multiset.coe_le.mpr (a.cancel_sublist id).subperm)

theorem horizon_of_popDue {a b : Agenda τ} {e : Entry τ} (due : a.popDue limit = some (e, b)) :
    a.horizon least limit =
      generations least limit e.key.deadline ::ₘ (b.started e).horizon least limit := by
  obtain ⟨rest, hqueue, -, rfl⟩ := popDue_eq_some_iff.mp due
  unfold horizon started
  rw [hqueue, ← Multiset.cons_coe, Multiset.map_cons]

/-- A multiset decreases if a number is taken out and only smaller ones are put in. -/
theorem isDershowitzMannaLT_of_filter {first second : Multiset Nat} {n : Nat}
    (h : n ::ₘ first.filter (n ≤ ·) ≤ second) : first.IsDershowitzMannaLT second := by
  obtain ⟨rest, rfl⟩ := Multiset.le_iff_exists_add.mp h
  refine ⟨first.filter (n ≤ ·), first.filter (¬ n ≤ ·), n ::ₘ rest, by simp,
    (Multiset.filter_add_not _ _).symm, by simp, fun m hm => ?_⟩
  exact ⟨n, Multiset.mem_cons_self n rest, Nat.lt_of_not_le (Multiset.mem_filter.mp hm).2⟩

namespace Conduct

variable {c : Conduct ω τ} {tasks : Set τ}

/-- Deeds that put off only tasks of the set, each by the least span or more. -/
def Patient (least : Span) (tasks : Set τ) (deeds : List (Deed τ)) : Prop :=
  ∀ delay further, .schedule delay further ∈ deeds → least ≤ delay ∧ further ∈ tasks

/-- The tasks of the set put off only one another, each time by the least span or more. -/
def Periodic (c : Conduct ω τ) (least : Span) (tasks : Set τ) : Prop :=
  ∀ w a task, task ∈ tasks → Patient least tasks (c.does w a task).1

/-- As long as a task only puts off and takes back, the time stands still, and everything with
many generations before it was there when the task began. -/
theorem filter_horizon_foldl_le {deadline : Span} (hleast : .zero < least)
    (hlimit : limit < .longest) (hdue : deadline ≤ limit) {deeds : List (Deed τ)}
    (hdeeds : Patient least tasks deeds) {a : Agenda τ} (hnow : deadline ≤ a.elapsed) :
    ((deeds.foldl Deed.perform a).horizon least limit).filter
        (generations least limit deadline ≤ ·) ≤
      (a.horizon least limit).filter (generations least limit deadline ≤ ·) := by
  induction deeds generalizing a with
  | nil => exact le_rfl
  | cons deed rest ih =>
      have hrest : Patient least tasks rest := fun delay further h =>
        hdeeds delay further (List.mem_cons_of_mem _ h)
      cases deed with
      | schedule delay task =>
          have hfewer := generations_add_lt hleast hlimit hnow hdue
            (hdeeds delay task List.mem_cons_self).1
          refine (ih hrest (a := (a.schedule delay task).2) hnow).trans (le_of_eq ?_)
          rw [horizon_schedule, Multiset.filter_cons_of_neg _ (Nat.not_le_of_lt hfewer)]
      | cancel id =>
          refine (ih hrest (a := a.cancel id) (by rwa [cancel_elapsed])).trans ?_
          exact Multiset.filter_le_filter _ (a.horizon_cancel_le id)

theorem mem_tasks_foldl {deeds : List (Deed τ)} (hdeeds : Patient least tasks deeds)
    {a : Agenda τ} (hqueue : ∀ e ∈ a.queue, e.task ∈ tasks) :
    ∀ e ∈ (deeds.foldl Deed.perform a).queue, e.task ∈ tasks := by
  induction deeds generalizing a with
  | nil => exact hqueue
  | cons deed rest ih =>
      refine ih (fun delay further h => hdeeds delay further (List.mem_cons_of_mem _ h)) ?_
      cases deed with
      | schedule delay task =>
          intro e he
          rcases mem_schedule.mp he with rfl | he
          · exact (hdeeds delay task List.mem_cons_self).2
          · exact hqueue e he
      | cancel id => exact fun e he => hqueue e ((a.cancel_sublist id).subset he)

/-- When a task has run, the generations before the tasks that wait are fewer. -/
theorem horizon_leaves_lt (hleast : .zero < least) (hlimit : limit < .longest)
    (hperiodic : c.Periodic least tasks) {w : ω} {a b : Agenda τ} {e : Entry τ}
    (due : a.popDue limit = some (e, b)) (htask : e.task ∈ tasks) :
    ((c.leaves w (b.started e) e.task).horizon least limit).IsDershowitzMannaLT
      (a.horizon least limit) := by
  obtain ⟨rest, -, hdue, -⟩ := popDue_eq_some_iff.mp due
  have hnow : e.key.deadline ≤ (b.started e).elapsed := by
    show _ ≤ Span.max _ _
    unfold Span.max
    split
    next => exact Span.le_refl _
    next hpast => exact Nat.le_of_not_le hpast
  apply isDershowitzMannaLT_of_filter
  rw [horizon_of_popDue due]
  refine Multiset.cons_le_cons _ ?_
  exact (filter_horizon_foldl_le hleast hlimit hdue (hperiodic w _ e.task htask) hnow).trans
    (Multiset.filter_le _ _)

/-- From every agenda an advance over tasks that put off by a least span comes to its end. -/
theorem exists_reaches (hleast : .zero < least) (hlimit : limit < .longest)
    (hperiodic : c.Periodic least tasks) (w : ω) {a : Agenda τ}
    (hqueue : ∀ e ∈ a.queue, e.task ∈ tasks) : ∃ log w' a', c.Reaches limit w a log w' a' := by
  have hwf : WellFounded (Multiset.IsDershowitzMannaLT : Multiset Nat → Multiset Nat → Prop) :=
    Multiset.wellFounded_isDershowitzMannaLT
  induction hhorizon : a.horizon least limit using hwf.induction generalizing w a with
  | _ _ ih =>
      cases hpop : a.popDue limit with
      | none => exact ⟨_, _, _, .rests hpop⟩
      | some found =>
          obtain ⟨e, b⟩ := found
          obtain ⟨rest, hcons, -, hb⟩ := popDue_eq_some_iff.mp hpop
          have htask : e.task ∈ tasks := hqueue e (by simp [hcons])
          have hstarted : ∀ f ∈ (b.started e).queue, f.task ∈ tasks := fun f hf =>
            hqueue f (hcons ▸ List.mem_cons_of_mem e (by rwa [hb] at hf))
          have hfewer := horizon_leaves_lt (w := w) hleast hlimit hperiodic hpop htask
          obtain ⟨log, w', a', hrest⟩ := ih _ (hhorizon ▸ hfewer) (c.does w (b.started e) e.task).2
            (mem_tasks_foldl (hperiodic w _ e.task htask) hstarted) rfl
          exact ⟨_, _, _, .runs hpop hrest⟩

/-- If every task that waits belongs to a set whose tasks put off only tasks of the set, each
by some least span or more, then an advance to a time before the largest span returns, in
whatever state it is called, and has run and counted finitely many tasks. -/
theorem advance_returns (c : Conduct ω τ) {least : Span} (hleast : .zero < least)
    {tasks : Set τ} (hperiodic : c.Periodic least tasks) (x : Scene ω τ)
    (hqueue : ∀ e ∈ x.session.agenda.queue, e.task ∈ tasks) (distance : Span)
    (hwithin : x.session.agenda.elapsed.nanos + distance.nanos < Span.maxNanos) :
    ∃ log y, c.Calls x (.advance distance) log y (.ran log.length) := by
  obtain ⟨w, a, frames⟩ := x
  have hlimit : a.elapsed + distance < .longest := by
    rw [Span.lt_iff, Span.nanos_add, Span.nanos_longest]
    exact Nat.lt_of_le_of_lt (Nat.min_le_left _ _) hwithin
  obtain ⟨log, w', a', hreaches⟩ := exists_reaches hleast hlimit hperiodic w hqueue
  exact ⟨log, _, calls_advance_iff.mpr ⟨w', a', hreaches, rfl, rfl⟩⟩

/-- Five seconds over a task that puts itself off by two are over after two runs. -/
theorem advance_returns_ticking :
    ticking.Periodic (.ofSecs 2) Set.univ ∧
      ∃ log y, ticking.Calls ⟨0, Session.fresh.after [.schedule (.ofSecs 2) ()]⟩
          (.advance (.ofSecs 5)) log y (.ran log.length) ∧
        log.map Ran.time = [.ofSecs 2, .ofSecs 4] := by
  have hperiodic : ticking.Periodic (.ofSecs 2) Set.univ := by
    intro w a task _ delay further h
    obtain ⟨rfl, -⟩ : delay = .ofSecs 2 ∧ further = () := by simpa [ticking] using h
    exact ⟨Span.le_refl _, Set.mem_univ _⟩
  obtain ⟨log, y, hcalls⟩ := advance_returns ticking (by decide) hperiodic
    ⟨0, Session.fresh.after [.schedule (.ofSecs 2) ()]⟩ (fun _ _ => Set.mem_univ _) (.ofSecs 5)
    (by decide)
  obtain ⟨rfl, -⟩ := hcalls.unique (.driven rfl (.starts rfl (.starts rfl (.arrives rfl))))
  exact ⟨hperiodic, _, y, hcalls, rfl⟩

end Conduct

end Cadence.Agenda

import Cadence.Proofs.Agenda.Run

/-! # The order in which tasks run

A task starts at the time it was scheduled for. A drive runs what is due by its
target and leaves nothing due behind when it returns. As long as no task waits for a
drive of its own, tasks start in the order of their keys: whatever is still to come
stands behind every task that has started.
-/

namespace Cadence.Agenda

variable {τ : Type}

namespace Session

/-- At most one drive is under way besides the outermost `n`. -/
def Level (n : Nat) (s : Session τ) : Prop :=
  s.drives.length = n ∨ s.drives.length = n + 1

/-- At no point of these moves a task above the outermost `n` drives waits for a drive
of its own. -/
def Flat (n : Nat) (s : Session τ) (stretch : List (Move τ)) : Prop :=
  ∀ part, part <+: stretch → (s.after part).Level n

theorem flat_cons {n : Nat} {s : Session τ} {m : Move τ} {rest : List (Move τ)}
    (h : s.Flat n (m :: rest)) : s.Level n ∧ (s.perform m).1.Flat n rest := by
  refine ⟨h [] List.nil_prefix, fun part hpart => ?_⟩
  exact h (m :: part) (List.cons_prefix_cons.mpr ⟨rfl, hpart⟩)

/-- What holds from the start of a task on: all that waits comes behind it, and so does
all that will be scheduled. -/
structure Past (key : Key) (n : Nat) (s : Session τ) : Prop where
  order_lt : key.order < s.agenda.nextOrder
  reached : key.deadline ≤ s.agenda.elapsed
  waiting : ∀ e ∈ s.agenda.queue, key < e.key
  target : ∀ drive rest, s.drives = drive :: rest → rest.length = n → key.deadline ≤ drive.limit

theorem Past.proceed {key : Key} {n : Nat} {s : Session τ} (h : Past key n s) (hsound : s.Sound)
    (hlevel : s.Level n) (hlevel' : (s.perform .proceed).1.Level n) :
    Past key n (s.perform .proceed).1 := by
  cases s.proceeds with
  | starts drive rest e b before due out =>
      have helapsed := hsound.agenda.started_elapsed due
      obtain ⟨queue, hqueue, _, rfl⟩ := popDue_eq_some_iff.mp due
      rw [out]
      refine ⟨h.order_lt, ?_, fun x hx => h.waiting x (hqueue ▸ List.mem_cons_of_mem e hx), ?_⟩
      · have hlt := h.waiting e (hqueue ▸ List.mem_cons_self)
        exact helapsed.symm ▸ Key.deadline_le_of_lt hlt
      · rintro d rest' hdrives hlength
        obtain ⟨rfl, rfl⟩ := List.cons.inj hdrives
        exact h.target drive _ (drives_of_frames before) hlength
  | returns drive rest before idle out =>
      rw [out] at hlevel' ⊢
      have hdrives := drives_of_frames before
      have hfewer : s.drives.length = (rest.filterMap Frame.drive?).length + 1 :=
        hdrives ▸ rfl
      -- the outermost drives stay, so the one that returns is the innermost of n + 1
      have hlength : (rest.filterMap Frame.drive?).length = n := by
        have hleft : (rest.filterMap Frame.drive?).length = n ∨
            (rest.filterMap Frame.drive?).length = n + 1 := hlevel'
        unfold Level at hlevel
        omega
      have htarget := h.target drive _ hdrives hlength
      refine ⟨h.order_lt, ?_, h.waiting, fun d inner hinner hn => ?_⟩
      · show key.deadline ≤ drive.settle.getD s.agenda.elapsed
        cases hsettle : drive.settle with
        | none => exact h.reached
        | some time =>
            have haimed := hsound.aimed drive (hdrives ▸ List.mem_cons_self)
            rw [haimed time hsettle]
            exact htarget
      · have hmore : (rest.filterMap Frame.drive?).length = inner.length + 1 :=
          congrArg List.length hinner
        omega
  | rests still out => exact out.symm ▸ h

theorem Past.perform {key : Key} {n : Nat} {s : Session τ} (h : Past key n s) (hsound : s.Sound)
    (hlevel : s.Level n) (m : Move τ) (hlevel' : (s.perform m).1.Level n) :
    Past key n (s.perform m).1 := by
  cases m with
  | schedule delay task =>
      refine ⟨Nat.lt_succ_of_lt h.order_lt, h.reached, fun e he => ?_, h.target⟩
      rcases mem_schedule.mp he with rfl | he
      · exact Key.lt_of_deadline_le (Span.le_trans h.reached (Span.le_add_right _ _)) h.order_lt
      · exact h.waiting e he
  | cancel id =>
      refine ⟨?_, ?_, fun e he => h.waiting e (hsound.agenda.mem_cancel.mp he).1, h.target⟩
      · exact (cancel_nextOrder s.agenda id).symm ▸ h.order_lt
      · exact (cancel_elapsed s.agenda id).symm ▸ h.reached
  | travel t =>
      unfold Session.perform
      dsimp only
      split
      next drive hdepart =>
        refine ⟨h.order_lt, h.reached, h.waiting, fun d rest hdrives _ => ?_⟩
        obtain ⟨rfl, rfl⟩ := List.cons.inj hdrives
        exact Span.le_trans h.reached (elapsed_le_of_depart hdepart)
      next => exact h
  | finish =>
      unfold Session.perform
      dsimp only
      split
      next rest hframes =>
        refine ⟨h.order_lt, h.reached, h.waiting, fun d inner hdrives => ?_⟩
        exact h.target d inner ((drives_of_frames hframes).trans hdrives)
      next => exact h
  | proceed => exact h.proceed hsound hlevel hlevel'

/-- Whatever waits when a task starts comes behind it. -/
theorem Sound.past {s : Session τ} (h : s.Sound) {m : Move τ} {e : Entry τ}
    (hstart : s.start? m = some e) (n : Nat) : Past e.key n (s.perform m).1 := by
  have helapsed := (h.start_elapsed hstart).2
  have hmem := mem_of_start hstart
  obtain ⟨drive, rest, b, rfl, _, due, out⟩ := start_cases hstart
  obtain ⟨queue, hqueue, hdue, rfl⟩ := popDue_eq_some_iff.mp due
  refine ⟨?_, helapsed.symm ▸ Span.le_refl _, ?_, ?_⟩
  · rw [out]
    exact h.agenda.order_lt e hmem
  · have hascending := h.agenda.ascending
    rw [hqueue] at hascending
    rw [out]
    exact (List.pairwise_cons.mp hascending).1
  · rw [out]
    intro d inner hdrives _
    obtain ⟨rfl, rfl⟩ := List.cons.inj hdrives
    exact hdue

/-- Every task that starts later comes behind. -/
theorem Past.lt_of_mem_starts {key : Key} {n : Nat} {s : Session τ} (h : Past key n s)
    (hsound : s.Sound) {stretch : List (Move τ)} (hflat : s.Flat n stretch) {e : Entry τ}
    (he : e ∈ s.starts stretch) : key < e.key := by
  induction stretch generalizing s with
  | nil => cases he
  | cons m rest ih =>
      obtain ⟨hlevel, hrest⟩ := flat_cons hflat
      rcases List.mem_append.mp he with hfirst | hlater
      · exact h.waiting e (mem_of_start (Option.mem_toList.mp hfirst))
      · have hlevel' := hrest [] List.nil_prefix
        exact ih (h.perform hsound hlevel m hlevel') (hsound.perform m) hrest hlater

theorem Sound.starts_ascending {n : Nat} {s : Session τ} (h : s.Sound)
    {stretch : List (Move τ)} (hflat : s.Flat n stretch) :
    (s.starts stretch).Pairwise (·.key < ·.key) := by
  induction stretch generalizing s with
  | nil => exact List.Pairwise.nil
  | cons m rest ih =>
      obtain ⟨_, hrest⟩ := flat_cons hflat
      have hlater := ih (h.perform m) hrest
      show ((s.start? m).toList ++ (s.perform m).1.starts rest).Pairwise _
      cases hstart : s.start? m with
      | none => exact hlater
      | some e =>
          refine List.pairwise_cons.mpr ⟨fun x hx => ?_, hlater⟩
          exact (h.past hstart n).lt_of_mem_starts (h.perform m) hrest hx

/-- Every task starts exactly at the time at which it was scheduled to run. A drive,
nested or not, starts nothing that is due after its target, and leaves nothing behind
that is due by then. In a stretch in which no task waits for a drive of its own, tasks
start in the order of their deadlines, and of their scheduling where these are equal. -/
theorem tasks_run_on_time_and_in_order (moves : List (Move τ)) :
    let s := (fresh : Session τ).after moves
    (∀ m task events, (s.perform m).2 = .started task events → ∃ e, s.start? m = some e) ∧
    (∀ m e, s.start? m = some e →
      (s.perform m).2 = .started e.task [.runningTask .agenda e.id] ∧
      (s.perform m).1.agenda.elapsed = e.key.deadline ∧
      ∃ before delay rest, moves = before ++ .schedule delay e.task :: rest ∧
        ((fresh.after before).perform (.schedule delay e.task)).2 = .scheduled e.id ∧
        e.key.deadline.nanos =
          min ((fresh.after before).agenda.elapsed.nanos + delay.nanos) Span.maxNanos ∧
        e.key.order = before.countP Move.isSchedule) ∧
    (∀ before t during drive, moves = before ++ .travel t :: during →
      (fresh.after before).agenda.depart t = .inl drive → (fresh.after before).Underway t during →
      (∀ distance, t = .advance distance →
        drive.limit = (fresh.after before).agenda.elapsed + distance) ∧
      s.Bounded drive (fresh.after before).frames) ∧
    (∀ before stretch n, moves = before ++ stretch → (fresh.after before).Flat n stretch →
      ((fresh.after before).starts stretch).Pairwise (·.key < ·.key)) := by
  intro s
  have hsound : s.Sound := sound_fresh.after moves
  refine ⟨fun m task events hsignal => exists_start hsignal, fun m e hstart => ?_, ?_, ?_⟩
  · obtain ⟨hsignal, helapsed⟩ := hsound.start_elapsed hstart
    obtain ⟨before, delay, rest, hmoves, hentry⟩ := exists_schedule moves (mem_of_start hstart)
    refine ⟨hsignal, helapsed, before, delay, rest, hmoves, ?_, ?_, ?_⟩
    · rw [hentry]
      rfl
    · rw [hentry]
      exact Span.nanos_add _ _
    · rw [hentry]
      exact nextOrder_after before
  · rintro before t during drive rfl hdepart hunderway
    refine ⟨?_, ?_⟩
    · rintro distance rfl
      cases hdepart
      rfl
    · have hholds := hunderway.holds hdepart
      rw [← after_append] at hholds
      exact hholds.bounded hsound
  · rintro before stretch n rfl hflat
    exact (sound_fresh.after before).starts_ascending hflat

end Session

end Cadence.Agenda

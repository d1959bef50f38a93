import Cadence.Proofs.Agenda.Run

/-! # The clock of an agenda

A task starts at the time of its deadline, and nothing that waits is overdue, so the
time is set back in one place only: an advance that returns sets it to a target that
was fixed when the advance started. If a task of this advance has moved the time past
that target by a drive of its own, then the clock goes back.
-/

namespace Cadence.Agenda.Session

variable {τ : Type}

/-! ## One move -/

/-- The drive on top has nothing left to start, and its target is behind. -/
def Overtaken (s : Session τ) : Prop :=
  ∃ drive rest, s.frames = .travelling drive :: rest ∧ s.start? .proceed = none ∧
    drive.settle ≠ none ∧ drive.limit < s.agenda.elapsed

/-- The time is set back only by the return of a drive whose target is behind. -/
theorem Sound.elapsed_lt_iff {s : Session τ} (h : s.Sound) (m : Move τ) :
    (s.perform m).1.agenda.elapsed < s.agenda.elapsed ↔ m = .proceed ∧ s.Overtaken := by
  have hsame : ¬ s.agenda.elapsed < s.agenda.elapsed := Nat.lt_irrefl _
  cases m with
  | schedule delay task => exact iff_of_false hsame (by simp)
  | cancel id =>
      refine iff_of_false ?_ (by simp)
      show ¬ (s.agenda.cancel id).elapsed < _
      rw [cancel_elapsed]
      exact hsame
  | travel t =>
      refine iff_of_false ?_ (by simp)
      unfold Session.perform
      dsimp only
      split <;> exact hsame
  | finish =>
      refine iff_of_false ?_ (by simp)
      unfold Session.perform
      dsimp only
      split <;> exact hsame
  | proceed =>
      rw [and_iff_right rfl]
      cases s.proceeds with
      | starts drive rest e b before due out start =>
          -- what waits is not overdue, so a task that starts moves the time on
          obtain ⟨queue, hqueue, _⟩ := popDue_eq_some_iff.mp due
          have hlate := h.agenda.not_overdue e (by simp [hqueue])
          refine iff_of_false ?_ ?_
          · rw [out]
            show ¬ (b.started e).elapsed < _
            rw [h.agenda.started_elapsed due]
            exact Span.not_lt.mpr hlate
          · rintro ⟨_, _, _, hidle, _⟩
            cases start.symm.trans hidle
      | returns drive rest before idle out start =>
          rw [out]
          have haimed := h.aimed drive (drives_of_frames before ▸ List.mem_cons_self)
          show drive.settle.getD s.agenda.elapsed < _ ↔ _
          constructor
          · intro hback
            cases hsettle : drive.settle with
            | none =>
                rw [hsettle] at hback
                exact absurd hback hsame
            | some time =>
                rw [hsettle, haimed time hsettle] at hback
                exact ⟨drive, rest, before, start, by simp [hsettle], hback⟩
          · rintro ⟨found, _, hframes, _, hsettle, hbehind⟩
            obtain ⟨time, htime⟩ := Option.ne_none_iff_exists'.mp hsettle
            cases before.symm.trans hframes
            rw [htime, haimed time htime]
            exact hbehind
      | rests still out start =>
          rw [out]
          refine iff_of_false hsame ?_
          rintro ⟨drive, rest, hframes, _⟩
          exact still drive rest hframes

/-! ## Where drives come from -/

/-- A drive that a move leaves in its place was there before, or the move started it. -/
theorem Holds.origin {s : Session τ} {m : Move τ} {drive : Drive} {below : List Frame}
    (h : (s.perform m).1.Holds drive below) :
    s.Holds drive below ∨ ∃ t new, m = .travel t ∧ s.agenda.depart t = .inl new ∧
      new.limit = drive.limit ∧ new.settle = drive.settle ∧ s.frames = below := by
  obtain ⟨above, d, hframes, hlimit, hsettle⟩ := h
  cases m with
  | schedule delay task => exact .inl ⟨above, d, hframes, hlimit, hsettle⟩
  | cancel id => exact .inl ⟨above, d, hframes, hlimit, hsettle⟩
  | travel t =>
      unfold Session.perform at hframes
      dsimp only at hframes
      split at hframes
      next new hdepart =>
        cases above with
        | nil =>
            cases hframes
            exact .inr ⟨t, _, rfl, hdepart, hlimit, hsettle, rfl⟩
        | cons frame above => exact .inl ⟨above, d, (List.cons.inj hframes).2, hlimit, hsettle⟩
      next => exact .inl ⟨above, d, hframes, hlimit, hsettle⟩
  | finish =>
      unfold Session.perform at hframes
      dsimp only at hframes
      split at hframes
      next rest htop =>
        exact .inl ⟨.working :: above, d, htop.trans (congrArg _ hframes), hlimit, hsettle⟩
      next => exact .inl ⟨above, d, hframes, hlimit, hsettle⟩
  | proceed =>
      cases s.proceeds with
      | starts top rest e b before due out =>
          -- the drive that started the task lies below it and has counted it
          rw [out] at hframes
          match above with
          | [] => cases hframes
          | [_] =>
              cases hframes
              exact .inl ⟨[], top, before, hlimit, hsettle⟩
          | _ :: _ :: above =>
              have hrest := (List.cons.inj (List.cons.inj hframes).2).2
              exact .inl ⟨.travelling top :: above, d, before.trans (congrArg _ hrest), hlimit,
                hsettle⟩
      | returns top rest before idle out =>
          rw [out] at hframes
          exact .inl ⟨.travelling top :: above, d, before.trans (congrArg _ hframes), hlimit,
            hsettle⟩
      | rests still out =>
          rw [out] at hframes
          exact .inl ⟨above, d, hframes, hlimit, hsettle⟩

/-- Every drive on the stack was started by an earlier move and has not returned since. -/
theorem exists_travel (moves : List (Move τ)) {drive : Drive} {below : List Frame}
    (h : (fresh.after moves).Holds drive below) :
    ∃ before t new during, moves = before ++ .travel t :: during ∧
      (fresh.after before).agenda.depart t = .inl new ∧ new.limit = drive.limit ∧
      new.settle = drive.settle ∧ (fresh.after before).frames = below ∧
      (fresh.after before).Underway t during := by
  induction moves using List.reverseRecOn with
  | nil =>
      obtain ⟨above, d, hframes, _⟩ := h
      cases above <;> cases hframes
  | append_singleton moves m ih =>
      have hlength := h.length_lt
      rw [after_concat] at h
      rcases h.origin with h | ⟨t, new, rfl, hdepart, hlimit, hsettle, hbelow⟩
      · obtain ⟨before, t, new, during, rfl, hdepart, hlimit, hsettle, hbelow, hunderway⟩ := ih h
        refine ⟨before, t, new, during ++ [m], by simp, hdepart, hlimit, hsettle, hbelow, ?_⟩
        intro part hpart
        rcases List.prefix_concat_iff.mp hpart with rfl | hpart
        · rw [hbelow, ← after_append]
          simpa using hlength
        · exact hunderway part hpart
      · refine ⟨moves, t, new, [], rfl, hdepart, hlimit, hsettle, hbelow, ?_⟩
        intro part hpart
        rw [List.prefix_nil.mp hpart, hbelow, ← after_append]
        exact hlength

/-! ## Runs -/

/-- At no moment of these moves the time is before the time at an earlier moment. -/
def ClockAscends (s : Session τ) (moves : List (Move τ)) : Prop :=
  ∀ earlier later, earlier <+: later → later <+: moves →
    (s.after earlier).agenda.elapsed ≤ (s.after later).agenda.elapsed

/-- The time goes on throughout a run if no single move sets it back. -/
theorem clockAscends_of_moves {s : Session τ} {moves : List (Move τ)}
    (h : ∀ before m, before ++ [m] <+: moves →
      (s.after before).agenda.elapsed ≤ ((s.after before).perform m).1.agenda.elapsed) :
    s.ClockAscends moves := by
  rintro earlier _ ⟨more, rfl⟩ hlater
  induction more using List.reverseRecOn with
  | nil =>
      rw [List.append_nil]
      exact Span.le_refl _
  | append_singleton more m ih =>
      rw [← List.append_assoc] at hlater ⊢
      have hbefore := ih ((List.prefix_append _ _).trans hlater)
      rw [after_concat]
      exact Span.le_trans hbefore (h _ m hlater)

/-- In the course of these moves an advance returns although the time was past its target
before: a task that it started has moved the time further. -/
def Overruns (moves : List (Move τ)) : Prop :=
  ∃ before t drive during part, before ++ .travel t :: (during ++ [.proceed]) <+: moves ∧
    t ≠ .runUntilIdle ∧ (fresh.after before).agenda.depart t = .inl drive ∧
    (fresh.after before).Underway t during ∧
    (fresh.after (before ++ .travel t :: (during ++ [.proceed]))).frames =
      (fresh.after before).frames ∧
    part <+: during ∧ drive.limit < (fresh.after (before ++ .travel t :: part)).agenda.elapsed

theorem settle_of_depart {a : Agenda τ} {t : Travel} {drive : Drive}
    (h : a.depart t = .inl drive) : drive.settle = none ↔ t = .runUntilIdle := by
  cases t with
  | advance distance =>
      cases h
      simp [Agenda.advance]
  | runUntilIdle =>
      cases h
      simp
  | fastForward =>
      simp only [depart] at h
      split at h
      · cases h
      · cases h
        simp [Agenda.advance]

/-- An advance that returns leaves the time at its target. -/
theorem elapsed_of_return {before during : List (Move τ)} {t : Travel} {drive : Drive}
    (hdepart : (fresh.after before).agenda.depart t = .inl drive) (ht : t ≠ .runUntilIdle)
    (hunderway : (fresh.after before).Underway t during)
    (hreturns : (fresh.after (before ++ .travel t :: (during ++ [.proceed]))).frames =
      (fresh.after before).frames) :
    (fresh.after (before ++ .travel t :: (during ++ [.proceed]))).agenda.elapsed =
      drive.limit := by
  have hholds := hunderway.holds hdepart
  rw [after_append, ← List.cons_append, after_concat] at hreturns ⊢
  obtain ⟨time, htime⟩ := Option.ne_none_iff_exists'.mp
    ((settle_of_depart hdepart).not.mpr ht)
  rcases hholds.perform .proceed with hholds | ⟨d, hsettle, _, hreturn⟩
  · exact absurd hholds.length_lt (by rw [hreturns]; exact Nat.lt_irrefl _)
  · rw [hreturn]
    show d.settle.getD _ = _
    rw [hsettle, htime]
    exact depart_aimed hdepart time htime

theorem Overruns.not_clockAscends {moves : List (Move τ)} (h : Overruns moves) :
    ¬ (fresh : Session τ).ClockAscends moves := by
  obtain ⟨before, t, drive, during, part, hmoves, ht, hdepart, hunderway, hreturns, hpart,
    hpast⟩ := h
  intro hascends
  have hearlier : before ++ .travel t :: part <+: before ++ .travel t :: (during ++ [.proceed]) :=
    (List.prefix_append_right_inj _).mpr
      (List.cons_prefix_cons.mpr ⟨rfl, hpart.trans (List.prefix_append _ _)⟩)
  have hle := hascends _ _ hearlier hmoves
  rw [elapsed_of_return hdepart ht hunderway hreturns] at hle
  exact Span.not_lt.mpr hle hpast

theorem clockAscends_of_not_overruns {moves : List (Move τ)} (h : ¬ Overruns moves) :
    (fresh : Session τ).ClockAscends moves := by
  refine clockAscends_of_moves fun before m hprefix => Span.not_lt.mp fun hback => h ?_
  obtain ⟨rfl, drive, rest, hframes, hidle, hsettle, hbehind⟩ :=
    ((sound_fresh.after before).elapsed_lt_iff m).mp hback
  -- the drive that sets the time back was started earlier in the run
  obtain ⟨first, t, new, during, rfl, hdepart, hlimit, hnew, hbelow, hunderway⟩ :=
    exists_travel before ⟨[], drive, hframes, rfl, rfl⟩
  refine ⟨first, t, new, during, during, ?_, ?_, hdepart, hunderway, ?_, List.prefix_refl _, ?_⟩
  · simpa using hprefix
  · exact (settle_of_depart hdepart).not.mp (hnew ▸ hsettle)
  · have hend : first ++ .travel t :: (during ++ [.proceed]) =
        first ++ .travel t :: during ++ [.proceed] := by simp
    rw [hend, after_concat, hbelow]
    cases (fresh.after (first ++ .travel t :: during)).proceeds with
    | starts top below e b before due out start => cases start.symm.trans hidle
    | returns top below before idle out =>
        cases before.symm.trans hframes
        rw [out]
    | rests still => exact absurd hframes (still drive rest)
  · exact hlimit ▸ hbehind

/-! ## Drives within their bounds -/

/-- No drive aims past an advance that waits for it. -/
def Within (s : Session τ) : Prop :=
  s.drives.Pairwise fun inner outer => outer.settle ≠ none → inner.limit ≤ outer.limit

/-- No advance under way is behind the time. -/
def Ahead (s : Session τ) : Prop :=
  ∀ drive ∈ s.drives, drive.settle ≠ none → s.agenda.elapsed ≤ drive.limit

theorem Ahead.proceed {s : Session τ} (h : s.Ahead) (hsound : s.Sound) (hwithin : s.Within) :
    (s.perform .proceed).1.Ahead := by
  cases s.proceeds with
  | starts drive rest e b before due out =>
      have helapsed := hsound.agenda.started_elapsed due
      obtain ⟨_, _, hdue, _⟩ := popDue_eq_some_iff.mp due
      have hdrives : s.drives = drive :: rest.filterMap Frame.drive? := drives_of_frames before
      unfold Within at hwithin
      rw [hdrives] at hwithin
      rw [out]
      rintro d hd hsettle
      show (b.started e).elapsed ≤ _
      rw [helapsed]
      rcases List.mem_cons.mp hd with rfl | hd
      · exact hdue
      · exact Span.le_trans hdue ((List.pairwise_cons.mp hwithin).1 d hd hsettle)
  | returns drive rest before idle out =>
      have hdrives : s.drives = drive :: rest.filterMap Frame.drive? := drives_of_frames before
      have haimed := hsound.aimed drive (hdrives ▸ List.mem_cons_self)
      unfold Within at hwithin
      rw [hdrives] at hwithin
      rw [out]
      rintro d hd hsettle
      show drive.settle.getD s.agenda.elapsed ≤ _
      cases htime : drive.settle with
      | none => exact h d (hdrives ▸ List.mem_cons_of_mem drive hd) hsettle
      | some time =>
          rw [haimed time htime]
          exact (List.pairwise_cons.mp hwithin).1 d hd hsettle
  | rests still out => exact out.symm ▸ h

theorem Ahead.perform {s : Session τ} (h : s.Ahead) (hsound : s.Sound) (hwithin : s.Within)
    (m : Move τ) : (s.perform m).1.Ahead := by
  cases m with
  | schedule delay task => exact h
  | cancel id =>
      intro drive hdrive hsettle
      show (s.agenda.cancel id).elapsed ≤ _
      rw [cancel_elapsed]
      exact h drive hdrive hsettle
  | travel t =>
      unfold Session.perform
      dsimp only
      split
      next new hdepart =>
        intro drive hdrive hsettle
        rcases List.mem_cons.mp hdrive with rfl | hdrive
        · exact elapsed_le_of_depart hdepart
        · exact h drive hdrive hsettle
      next => exact h
  | finish =>
      unfold Session.perform
      dsimp only
      split
      next rest hframes =>
        intro drive hdrive
        exact h drive (drives_of_frames hframes ▸ hdrive)
      next => exact h
  | proceed => exact h.proceed hsound hwithin

theorem ahead_after {moves : List (Move τ)}
    (hwithin : ∀ part, part <+: moves → (fresh.after part : Session τ).Within) :
    (fresh.after moves : Session τ).Ahead := by
  induction moves using List.reverseRecOn with
  | nil => simp [Ahead, after, fresh, drives]
  | append_singleton moves m ih =>
      have hbefore := ih fun part hpart => hwithin part (hpart.trans (List.prefix_append _ _))
      rw [after_concat]
      exact hbefore.perform (sound_fresh.after moves) (hwithin moves (List.prefix_append _ _)) m

theorem not_overruns_of_within {moves : List (Move τ)}
    (hwithin : ∀ part, part <+: moves → (fresh.after part : Session τ).Within) :
    ¬ Overruns moves := by
  rintro ⟨before, t, drive, during, part, hmoves, ht, hdepart, hunderway, _, hpart, hpast⟩
  have hprefix : before ++ .travel t :: part <+: moves := by
    refine List.IsPrefix.trans ?_ hmoves
    exact (List.prefix_append_right_inj _).mpr
      (List.cons_prefix_cons.mpr ⟨rfl, hpart.trans (List.prefix_append _ _)⟩)
  have hahead := ahead_after fun first hfirst => hwithin first (hfirst.trans hprefix)
  have hholds : (fresh.after (before ++ .travel t :: part)).Holds drive
      (fresh.after before).frames := by
    rw [after_append]
    exact Underway.holds hdepart fun first hfirst => hunderway first (hfirst.trans hpart)
  obtain ⟨above, d, hframes, hlimit, hsettle⟩ := hholds
  have hmem : d ∈ (fresh.after (before ++ .travel t :: part)).drives :=
    List.mem_filterMap.mpr ⟨.travelling d, by simp [hframes], rfl⟩
  have hle := hahead d hmem (hsettle ▸ (settle_of_depart hdepart).not.mpr ht)
  exact Span.not_lt.mpr (hlimit ▸ hle) hpast

/-- The clock goes on throughout a run exactly if no advance returns whose target is behind
by then, and it does so whenever tasks start no drives beyond the targets of the advances
that wait for them. -/
theorem clock_ascends_iff (moves : List (Move τ)) :
    ((fresh : Session τ).ClockAscends moves ↔ ¬ Overruns moves) ∧
      ((∀ part, part <+: moves → (fresh.after part : Session τ).Within) →
        (fresh : Session τ).ClockAscends moves) :=
  ⟨⟨fun hascends hoverruns => hoverruns.not_clockAscends hascends, clockAscends_of_not_overruns⟩,
    fun hwithin => clockAscends_of_not_overruns (not_overruns_of_within hwithin)⟩

/-! ## A clock that goes back -/

/-- A task that is due in a second advances the agenda by ten seconds, in the course of an
advance by five. -/
def overshooting : List (Move Unit) :=
  [.schedule (.ofSecs 1) (), .travel (.advance (.ofSecs 5)), .proceed,
    .travel (.advance (.ofSecs 10)), .proceed, .finish, .proceed]

/-- After eleven seconds the clock shows five. -/
theorem clock_goes_back :
    ¬ (fresh : Session Unit).ClockAscends overshooting := by
  intro hascends
  have hle := hascends (overshooting.take 6) overshooting (List.take_prefix _ _)
    (List.prefix_refl _)
  exact absurd hle (by decide +kernel)

end Cadence.Agenda.Session

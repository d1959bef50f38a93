import Cadence.Proofs.Agenda.Conduct

/-! # Advancing in pieces

An advance may be cut wherever one likes. What is due by the cut runs first in any case, and
then the time goes from the cut to the deadline of the next task, as it would have gone from
the task before. A cut at the earliest deadline is a jump, so an advance is also a number of
jumps and what remains of it.
-/

namespace Cadence

namespace Span

variable {a b c : Span}

theorem add_assoc (a b c : Span) : a + b + c = a + (b + c) := by
  apply Span.ext
  simp only [nanos_add]
  omega

theorem sub_zero (a : Span) : a - .zero = a := by
  apply Span.ext
  rw [nanos_sub, nanos_zero, Nat.sub_zero]

/-- Where the sum does not stop at the largest span, it is taken away part by part. -/
theorem sub_add_eq (h : (b + c).nanos = b.nanos + c.nanos) : a - (b + c) = a - b - c := by
  apply Span.ext
  rw [nanos_sub, nanos_sub, nanos_sub, h, Nat.sub_add_eq]

end Span

namespace Agenda.Conduct

variable {ω τ : Type} {c : Conduct ω τ} {w w' : ω} {a z : Agenda τ} {log : List (Ran τ)}
  {early late : Span}

/-! ## The cut -/

theorem popDue_resting (a : Agenda τ) (time limit : Span) :
    (a.resting time).popDue limit = (a.popDue limit).map fun (e, b) => (e, b.resting time) := by
  unfold popDue resting
  dsimp only
  cases a.queue with
  | nil => rfl
  | cons e rest =>
      dsimp only
      split <;> rfl

/-- A task starts at its deadline, whether the time rested at a cut before or not. -/
theorem started_resting {b : Agenda τ} {e : Entry τ} (hsound : a.Sound)
    (hidle : a.popDue early = none) (due : a.popDue late = some (e, b)) :
    (b.resting early).started e = b.started e := by
  have helapsed := hsound.started_elapsed due
  have hlate : early < e.key.deadline := by
    obtain ⟨rest, hqueue, -⟩ := popDue_eq_some_iff.mp due
    exact hsound.lt_of_popDue_eq_none hidle (by simp [hqueue])
  unfold started resting at *
  dsimp only at *
  rw [helapsed, Span.max_eq_right (Span.le_of_lt hlate)]

/-- Where nothing is due the time may rest. -/
theorem reaches_resting_iff (hsound : a.Sound) (hidle : a.popDue early = none) :
    c.Reaches late w (a.resting early) log w' z ↔ c.Reaches late w a log w' z := by
  cases hpop : a.popDue late with
  | none =>
      have hrests : (a.resting early).popDue late = none := by rw [popDue_resting, hpop]; rfl
      constructor
      · intro h
        cases h with
        | rests _ => exact .rests hpop
        | runs due _ => cases due.symm.trans hrests
      · intro h
        cases h with
        | rests _ => exact .rests hrests
        | runs due _ => cases due.symm.trans hpop
  | some found =>
      obtain ⟨e, b⟩ := found
      have hstarted := started_resting hsound hidle hpop
      have hruns : (a.resting early).popDue late = some (e, b.resting early) := by
        rw [popDue_resting, hpop]
        rfl
      constructor
      · intro h
        cases h with
        | rests idle => cases idle.symm.trans hruns
        | runs due rest =>
            cases due.symm.trans hruns
            rw [hstarted] at rest ⊢
            exact .runs hpop rest
      · intro h
        cases h with
        | rests idle => cases idle.symm.trans hpop
        | runs due rest =>
            cases due.symm.trans hpop
            rw [← hstarted] at rest ⊢
            exact .runs hruns rest

/-- What is not due by the later limit is not due by the earlier one. -/
theorem popDue_eq_none_of_le (hle : early ≤ late) (hidle : a.popDue late = none) :
    a.popDue early = none := by
  unfold popDue at *
  split
  next hqueue => rfl
  next e rest hqueue =>
    rw [hqueue] at hidle
    dsimp only at hidle
    split at hidle
    next hlater => exact if_pos (Nat.lt_of_le_of_lt hle hlater)
    next => cases hidle

/-- An advance goes to any earlier limit first, and on from there. -/
theorem reaches_iff (hsound : a.Sound) (hle : early ≤ late) :
    c.Reaches late w a log w' z ↔ ∃ first second v b, c.Reaches early w a first v b ∧
      c.Reaches late v b second w' z ∧ log = first ++ second := by
  constructor
  · intro h
    induction h with
    | rests hidle =>
        have hrests := popDue_eq_none_of_le hle hidle
        exact ⟨[], [], _, _, .rests hrests,
          (reaches_resting_iff hsound hrests).mpr (.rests hidle), rfl⟩
    | @runs w _ a _ b e log due rest ih =>
        cases hpop : a.popDue early with
        | none =>
            -- the cut falls before this task
            exact ⟨[], _, w, _, .rests hpop,
              (reaches_resting_iff hsound hpop).mpr (.runs due rest), rfl⟩
        | some found =>
            obtain ⟨queue, hqueue, hdue, rfl⟩ := popDue_eq_some_iff.mp due
            obtain ⟨queue', hqueue', hearly, hfound⟩ := popDue_eq_some_iff.mp hpop
            cases hqueue.symm.trans hqueue'
            obtain ⟨first, second, v, b, hfirst, hsecond, rfl⟩ :=
              ih ((hsound.started due).foldl_perform _)
            exact ⟨_, second, v, b, .runs (hfound ▸ hpop) hfirst, hsecond, rfl⟩
  · rintro ⟨first, second, v, b, hfirst, hsecond, rfl⟩
    induction hfirst with
    | rests hidle => exact (reaches_resting_iff hsound hidle).mp hsecond
    | runs due rest ih =>
        obtain ⟨queue, hqueue, hdue, hb⟩ := popDue_eq_some_iff.mp due
        exact .runs (popDue_eq_some_iff.mpr ⟨queue, hqueue, Span.le_trans hdue hle, hb⟩)
          (ih ((hsound.started due).foldl_perform _) hsecond)

/-! ## Calls -/

variable {x y x' : Scene ω τ} {arrival : Arrival}

theorem Calls.sound {distance : Span} (h : c.Calls x (.advance distance) log y arrival)
    (hsound : x.session.agenda.Sound) : y.session.agenda.Sound := by
  obtain ⟨w, a, frames⟩ := x
  obtain ⟨w', a', hreaches, rfl, -⟩ := calls_advance_iff.mp h
  exact hreaches.sound hsound

/-- An advance by a sum is one advance after the other. -/
theorem calls_advance_add (hsound : x.session.agenda.Sound) (distance further : Span) :
    c.Calls x (.advance (distance + further)) log x' arrival ↔
      ∃ first second y m n, c.Calls x (.advance distance) first y (.ran m) ∧
        c.Calls y (.advance further) second x' (.ran n) ∧ log = first ++ second ∧
        arrival = .ran (m + n) := by
  obtain ⟨w, a, frames⟩ := x
  rw [calls_advance_iff, ← Span.add_assoc]
  constructor
  · rintro ⟨w', a', hreaches, rfl, rfl⟩
    obtain ⟨first, second, v, b, hfirst, hsecond, rfl⟩ :=
      (reaches_iff hsound (Span.le_add_right _ _)).mp hreaches
    have hcut : b.elapsed = a.elapsed + distance := hfirst.elapsed
    refine ⟨first, second, ⟨v, ⟨b, frames⟩⟩, first.length, second.length,
      calls_advance_iff.mpr ⟨v, b, hfirst, rfl, rfl⟩,
      calls_advance_iff.mpr ⟨w', a', hcut.symm ▸ hsecond, rfl, rfl⟩, rfl, ?_⟩
    rw [List.length_append]
  · rintro ⟨first, second, y, m, n, hbefore, hafter, rfl, rfl⟩
    obtain ⟨v, b, hfirst, rfl, hm⟩ := calls_advance_iff.mp hbefore
    obtain ⟨w', a', hsecond, rfl, hn⟩ := calls_advance_iff.mp hafter
    cases hm
    cases hn
    have hcut : b.elapsed = a.elapsed + distance := hfirst.elapsed
    refine ⟨w', a', (reaches_iff hsound (Span.le_add_right _ _)).mpr
      ⟨first, second, v, b, hfirst, hcut ▸ hsecond, rfl⟩, rfl, ?_⟩
    rw [List.length_append]

/-- A jump leads exactly to the earliest deadline, and runs a task. -/
theorem jump_exact (hsound : x.session.agenda.Sound) {delay : Span}
    (h : c.Calls x .fastForward log y (.jumped (some delay))) :
    log ≠ [] ∧ ∃ e ∈ x.session.agenda.queue,
      (∀ f ∈ x.session.agenda.queue, e.key.deadline ≤ f.key.deadline) ∧
      y.session.agenda.elapsed = e.key.deadline ∧
      e.key.deadline.nanos = x.session.agenda.elapsed.nanos + delay.nanos := by
  obtain ⟨w, a, frames⟩ := x
  obtain ⟨hnext, hadvance⟩ := calls_fastForward_iff.mp h
  obtain ⟨w', a', hreaches, rfl, -⟩ := calls_advance_iff.mp hadvance
  unfold nextDelay at hnext
  cases hqueue : a.queue with
  | nil =>
      rw [hqueue] at hnext
      cases hnext
  | cons e rest =>
      rw [hqueue] at hnext
      cases hnext
      have hfirst : e ∈ a.queue := by simp [hqueue]
      have hlate : a.elapsed ≤ e.key.deadline := hsound.not_overdue e hfirst
      rw [Span.add_sub_of_le hlate] at hreaches
      refine ⟨?_, e, hqueue ▸ hfirst, ?_, hreaches.elapsed, ?_⟩
      · rintro rfl
        cases hreaches with
        | rests hidle => exact Nat.lt_irrefl _ (hsound.lt_of_popDue_eq_none hidle hfirst)
      · have hascending := hsound.ascending
        rw [hqueue] at hascending
        intro f hf
        rcases List.mem_cons.mp hf with rfl | hf
        · exact Span.le_refl _
        · exact Key.deadline_le_of_lt ((List.pairwise_cons.mp hascending).1 f hf)
      · rw [Span.nanos_sub]
        exact (Nat.add_sub_cancel' hlate).symm

/-! ## Jumps -/

/-- Jumps one after the other, and the distance that they cover. -/
inductive Leaps (c : Conduct ω τ) : Scene ω τ → Span → List (Ran τ) → Scene ω τ → Prop
  | stay (x : Scene ω τ) : Leaps c x .zero [] x
  | leap {x y x' : Scene ω τ} {delay distance : Span} {first second : List (Ran τ)}
      (jump : c.Calls x .fastForward first y (.jumped (some delay)))
      (rest : Leaps c y distance second x') : Leaps c x (delay + distance) (first ++ second) x'

theorem advance_of_jump {delay : Span}
    (h : c.Calls x .fastForward log y (.jumped (some delay))) :
    c.Calls x (.advance delay) log y (.ran log.length) := by
  obtain ⟨w, a, frames⟩ := x
  exact (calls_fastForward_iff.mp h).2

theorem elapsed_of_jump {delay : Span} (hsound : x.session.agenda.Sound)
    (h : c.Calls x .fastForward log y (.jumped (some delay))) :
    y.session.agenda.elapsed.nanos = x.session.agenda.elapsed.nanos + delay.nanos := by
  obtain ⟨-, e, -, -, hdeadline, hexact⟩ := jump_exact hsound h
  rw [hdeadline, hexact]

/-- Jumps cover their distance exactly: no sum of them goes beyond the largest span. -/
theorem Leaps.elapsed {distance : Span} (h : c.Leaps x distance log y)
    (hsound : x.session.agenda.Sound) :
    y.session.agenda.elapsed.nanos = x.session.agenda.elapsed.nanos + distance.nanos := by
  induction h with
  | stay x => rfl
  | @leap x y x' delay distance first second jump rest ih =>
      have hrest := ih ((advance_of_jump jump).sound hsound)
      have hbound := x'.session.agenda.elapsed.nanos_le
      rw [elapsed_of_jump hsound jump] at hrest
      rw [Span.nanos_add]
      omega

theorem nanos_of_leap {x' : Scene ω τ} {delay distance : Span} {first second : List (Ran τ)}
    (hsound : x.session.agenda.Sound)
    (jump : c.Calls x .fastForward first y (.jumped (some delay)))
    (rest : c.Leaps y distance second x') :
    (delay + distance).nanos = delay.nanos + distance.nanos := by
  have hwhole := (Leaps.leap jump rest).elapsed hsound
  have hrest := rest.elapsed ((advance_of_jump jump).sound hsound)
  rw [elapsed_of_jump hsound jump] at hrest
  omega

theorem Calls.arrival_eq {distance : Span} (h : c.Calls x (.advance distance) log y arrival) :
    arrival = .ran log.length := by
  obtain ⟨w, a, frames⟩ := x
  obtain ⟨_, _, _, _, harrival⟩ := calls_advance_iff.mp h
  exact harrival

/-- Jumps take the place of the beginning of an advance. -/
theorem Leaps.calls_advance_iff {covered distance : Span} {first : List (Ran τ)}
    (h : c.Leaps x covered first y) (hsound : x.session.agenda.Sound)
    (hwithin : covered ≤ distance) :
    c.Calls x (.advance distance) log x' arrival ↔
      ∃ second n, c.Calls y (.advance (distance - covered)) second x' (.ran n) ∧
        log = first ++ second ∧ arrival = .ran (first.length + n) := by
  induction h generalizing distance log arrival with
  | stay x =>
      rw [Span.sub_zero]
      constructor
      · intro hcall
        cases hcall.arrival_eq
        exact ⟨log, log.length, hcall, rfl, by simp⟩
      · rintro ⟨second, n, hcall, rfl, rfl⟩
        simpa using hcall
  | @leap x y z delay covered first second jump rest ih =>
      have hfirst := advance_of_jump jump
      have hsum := nanos_of_leap hsound jump rest
      rw [Span.le_iff, hsum] at hwithin
      have hdelay : delay ≤ distance := by
        rw [Span.le_iff]
        omega
      have hcovered : covered ≤ distance - delay := by
        rw [Span.le_iff, Span.nanos_sub]
        omega
      have hremains : distance - (delay + covered) = distance - delay - covered :=
        Span.sub_add_eq hsum
      have hpieces : c.Calls x (.advance distance) log x' arrival ↔ _ :=
        Span.add_sub_of_le hdelay ▸ calls_advance_add hsound delay (distance - delay)
      rw [hpieces]
      constructor
      · rintro ⟨first', second', y', m, n, hbefore, hafter, rfl, rfl⟩
        -- the call has one course only, that of the jump
        obtain ⟨rfl, rfl, hm⟩ := hbefore.unique hfirst
        cases hm
        obtain ⟨more, k, hmore, rfl, hn⟩ :=
          (ih (hfirst.sound hsound) hcovered).mp hafter
        cases hn
        refine ⟨more, k, hremains.symm ▸ hmore, by rw [List.append_assoc], ?_⟩
        rw [List.length_append, Nat.add_assoc]
      · rintro ⟨more, k, hmore, rfl, rfl⟩
        refine ⟨first, second ++ more, y, first.length, second.length + k, hfirst, ?_,
          by rw [List.append_assoc], by rw [List.length_append, Nat.add_assoc]⟩
        exact (ih (hfirst.sound hsound) hcovered).mpr ⟨more, k, hremains ▸ hmore, rfl, rfl⟩

/-- An advance that runs a task begins with a jump. -/
theorem exists_jump {distance : Span} (hsound : x.session.agenda.Sound)
    (h : c.Calls x (.advance distance) log x' arrival) (hran : log ≠ []) :
    ∃ delay first second y n, delay ≤ distance ∧ first ≠ [] ∧ log = first ++ second ∧
      c.Calls x .fastForward first y (.jumped (some delay)) ∧
      c.Calls y (.advance (distance - delay)) second x' (.ran n) := by
  obtain ⟨w, a, frames⟩ := x
  obtain ⟨w', a', hreaches, -, -⟩ := calls_advance_iff.mp h
  cases hreaches with
  | rests => exact absurd rfl hran
  | @runs _ _ _ _ b e log due rest =>
      obtain ⟨queue, hqueue, hdue, -⟩ := popDue_eq_some_iff.mp due
      have hlate : a.elapsed ≤ e.key.deadline := hsound.not_overdue e (by simp [hqueue])
      have hnext : a.nextDelay = some (e.key.deadline - a.elapsed) := by
        unfold nextDelay
        rw [hqueue]
        rfl
      have hdelay : e.key.deadline - a.elapsed ≤ distance := by
        rw [Span.le_iff, Span.nanos_add] at hdue
        rw [Span.le_iff, Span.nanos_sub]
        omega
      rw [← Span.add_sub_of_le hdelay, calls_advance_add hsound] at h
      obtain ⟨first, second, y, m, n, hbefore, hafter, hlog, -⟩ := h
      have hm := hbefore.arrival_eq
      have hjump := calls_fastForward_iff.mpr ⟨hnext, hm ▸ hbefore⟩
      exact ⟨_, first, second, y, n, hdelay, (jump_exact hsound hjump).1, hlog, hjump, hafter⟩

/-- An advance that returns is a number of jumps, after which it runs nothing more. -/
theorem exists_leaps {distance : Span} (hsound : x.session.agenda.Sound)
    (h : c.Calls x (.advance distance) log x' arrival) :
    ∃ covered y, c.Leaps x covered log y ∧ covered ≤ distance ∧
      c.Calls y (.advance (distance - covered)) [] x' (.ran 0) := by
  -- every jump runs a task, so fewer are left of the log
  induction hlength : log.length using Nat.strongRecOn
    generalizing x distance log arrival with
  | ind n ih =>
      by_cases hran : log = []
      · subst hran
        refine ⟨.zero, x, .stay x, Nat.zero_le _, ?_⟩
        rw [Span.sub_zero]
        exact h.arrival_eq ▸ h
      · obtain ⟨delay, first, second, y, m, hdelay, hfirst, rfl, hjump, hafter⟩ :=
          exists_jump hsound h hran
        have hshorter : second.length < n := by
          have hpositive := List.length_pos_of_ne_nil hfirst
          rw [← hlength, List.length_append]
          omega
        obtain ⟨covered, z, hleaps, hcovered, hremains⟩ :=
          ih _ hshorter ((advance_of_jump hjump).sound hsound) hafter rfl
        have hsum := nanos_of_leap hsound hjump hleaps
        rw [Span.le_iff, Span.nanos_sub] at hcovered
        rw [Span.le_iff] at hdelay
        refine ⟨delay + covered, z, .leap hjump hleaps, ?_, ?_⟩
        · rw [Span.le_iff, hsum]
          omega
        · exact Span.sub_add_eq hsum ▸ hremains

/-- Advancing in pieces changes nothing, from any state and for any tasks that do not drive. A
call has one course at most. To advance by a sum, which stops at the largest span, is to advance
by the one part and then by the other: either both calls return or the one does, with the same
tasks at the same times, the same end and as many tasks counted. A jump is an advance to the
earliest deadline, which it meets exactly, and runs a task there. An advance that returns is a
number of jumps and what remains of the distance, and wherever some jumps lead within the
distance, the advance goes on from there. -/
theorem advance_in_pieces (c : Conduct ω τ) (w : ω) (moves : List (Move τ)) :
    let x : Scene ω τ := ⟨w, Session.fresh.after moves⟩
    let agenda := x.session.agenda
    (∀ t log log' y y' arrival arrival', c.Calls x t log y arrival →
      c.Calls x t log' y' arrival' → log = log' ∧ y = y' ∧ arrival = arrival') ∧
    (∀ distance further log z arrival, c.Calls x (.advance (distance + further)) log z arrival ↔
      ∃ first second y m n, c.Calls x (.advance distance) first y (.ran m) ∧
        c.Calls y (.advance further) second z (.ran n) ∧ log = first ++ second ∧
        arrival = .ran (m + n)) ∧
    (∀ delay log y, c.Calls x .fastForward log y (.jumped (some delay)) ↔
      agenda.nextDelay = some delay ∧ c.Calls x (.advance delay) log y (.ran log.length)) ∧
    (∀ delay log y, c.Calls x .fastForward log y (.jumped (some delay)) →
      log ≠ [] ∧ ∃ e ∈ agenda.queue, (∀ f ∈ agenda.queue, e.key.deadline ≤ f.key.deadline) ∧
        y.session.agenda.elapsed = e.key.deadline) ∧
    (∀ distance log z arrival, c.Calls x (.advance distance) log z arrival →
      ∃ covered y, c.Leaps x covered log y ∧ covered ≤ distance ∧
        c.Calls y (.advance (distance - covered)) [] z (.ran 0)) ∧
    (∀ covered distance first y, c.Leaps x covered first y → covered ≤ distance →
      ∀ log z arrival, c.Calls x (.advance distance) log z arrival ↔
        ∃ second n, c.Calls y (.advance (distance - covered)) second z (.ran n) ∧
          log = first ++ second ∧ arrival = .ran (first.length + n)) := by
  intro x agenda
  have hsound : x.session.agenda.Sound := (Session.sound_fresh.after moves).agenda
  refine ⟨fun t log log' y y' arrival arrival' h h' => h.unique h',
    fun distance further log z arrival => calls_advance_add hsound distance further,
    fun delay log y => calls_fastForward_iff, fun delay log y hjump => ?_,
    fun distance log z arrival h => exists_leaps hsound h,
    fun covered distance first y hleaps hwithin log z arrival =>
      hleaps.calls_advance_iff hsound hwithin⟩
  obtain ⟨hran, e, he, hfirst, hdeadline, -⟩ := jump_exact hsound hjump
  exact ⟨hran, e, he, hfirst, hdeadline⟩

/-- A task that puts itself off by two seconds, and counts in the world. -/
def ticking : Conduct Nat Unit where
  does n _ _ := ([.schedule (.ofSecs 2) ()], n + 1)

/-- Five seconds are three and two, between the ticks. -/
theorem advance_in_pieces_ticking :
    ∃ log y, ticking.Calls ⟨0, Session.fresh.after [.schedule (.ofSecs 2) ()]⟩
        (.advance (.ofSecs 3 + .ofSecs 2)) log y (.ran 2) ∧
      log.map Ran.time = [.ofSecs 2, .ofSecs 4] ∧ y.world = 2 := by
  obtain ⟨-, hpieces, -⟩ := advance_in_pieces ticking 0 [.schedule (.ofSecs 2) ()]
  exact ⟨_, _, (hpieces _ _ _ _ _).mpr ⟨_, _, _, 1, 1, .driven rfl (.starts rfl (.arrives rfl)),
    .driven rfl (.starts rfl (.arrives rfl)), rfl, rfl⟩, rfl, rfl⟩

end Agenda.Conduct

end Cadence

import Cadence.Proofs.Agenda.Run

/-! # Drives over tasks that do not drive

What a task does is told by a conduct: from the world and the agenda that the task finds it
tells what the task puts off and takes back, and the world that it leaves behind. Then a call
to a drive has one course at most. It is told here by the moves of a session, and once more on
the agenda alone, where it is the same.
-/

namespace Cadence.Agenda

variable {ω τ : Type}

/-- What a task may ask of the agenda if it does not drive. -/
inductive Deed (τ : Type)
  | schedule (delay : Span) (task : τ)
  | cancel (id : TaskId)

def Deed.move : Deed τ → Move τ
  | .schedule delay task => .schedule delay task
  | .cancel id => .cancel id

def Deed.perform (a : Agenda τ) : Deed τ → Agenda τ
  | .schedule delay task => (a.schedule delay task).2
  | .cancel id => a.cancel id

/-- What each task does, and the world after it. Whatever a task is told while it runs, such as
the time or the number of a task that it puts off, shows in the agenda that it finds. -/
structure Conduct (ω τ : Type) where
  does : ω → Agenda τ → τ → List (Deed τ) × ω

/-- A session, and everything else that tasks go by. -/
structure Scene (ω τ : Type) where
  world : ω
  session : Session τ

/-- A task that ran, what was logged as it started, and the time. -/
structure Ran (τ : Type) where
  task : τ
  events : List Event
  time : Span

namespace Conduct

variable (c : Conduct ω τ)

/-- The scene at the end of a task that has just been started. -/
def act (w : ω) (s : Session τ) (task : τ) : Scene ω τ where
  world := (c.does w s.agenda task).2
  session := s.after ((c.does w s.agenda task).1.map Deed.move ++ [.finish])

/-- The drive on top runs tasks until it arrives. -/
inductive Drives : Scene ω τ → List (Ran τ) → Scene ω τ → Arrival → Prop
  | arrives {w : ω} {s s' : Session τ} {arrival : Arrival}
      (turn : s.perform .proceed = (s', .arrived arrival)) : Drives ⟨w, s⟩ [] ⟨w, s'⟩ arrival
  | starts {w : ω} {s s' : Session τ} {task : τ} {events : List Event} {log : List (Ran τ)}
      {y : Scene ω τ} {arrival : Arrival}
      (turn : s.perform .proceed = (s', .started task events))
      (rest : Drives (c.act w s' task) log y arrival) :
      Drives ⟨w, s⟩ (⟨task, events, s'.agenda.elapsed⟩ :: log) y arrival

/-- A call to drive the agenda returns. -/
inductive Calls : Scene ω τ → Travel → List (Ran τ) → Scene ω τ → Arrival → Prop
  | answered {w : ω} {s s' : Session τ} {t : Travel} {arrival : Arrival}
      (call : s.perform (.travel t) = (s', .arrived arrival)) : Calls ⟨w, s⟩ t [] ⟨w, s'⟩ arrival
  | driven {w : ω} {s s' : Session τ} {t : Travel} {log : List (Ran τ)} {y : Scene ω τ}
      {arrival : Arrival} (call : s.perform (.travel t) = (s', .quiet))
      (drives : Drives c ⟨w, s'⟩ log y arrival) : Calls ⟨w, s⟩ t log y arrival

variable {c}

theorem Drives.unique {x y y' : Scene ω τ} {log log' : List (Ran τ)} {arrival arrival' : Arrival}
    (h : c.Drives x log y arrival) (h' : c.Drives x log' y' arrival') :
    log = log' ∧ y = y' ∧ arrival = arrival' := by
  induction h generalizing log' with
  | arrives turn =>
      cases h' with
      | arrives turn' =>
          cases turn.symm.trans turn'
          exact ⟨rfl, rfl, rfl⟩
      | starts turn' _ => cases turn.symm.trans turn'
  | starts turn _ ih =>
      cases h' with
      | arrives turn' => cases turn.symm.trans turn'
      | starts turn' rest' =>
          cases turn.symm.trans turn'
          obtain ⟨rfl, hend⟩ := ih rest'
          exact ⟨rfl, hend⟩

/-- A call has one course at most. -/
theorem Calls.unique {x y y' : Scene ω τ} {t : Travel} {log log' : List (Ran τ)}
    {arrival arrival' : Arrival} (h : c.Calls x t log y arrival)
    (h' : c.Calls x t log' y' arrival') : log = log' ∧ y = y' ∧ arrival = arrival' := by
  cases h with
  | answered call =>
      cases h' with
      | answered call' =>
          cases call.symm.trans call'
          exact ⟨rfl, rfl, rfl⟩
      | driven call' _ => cases call.symm.trans call'
  | driven call drives =>
      cases h' with
      | answered call' => cases call.symm.trans call'
      | driven call' drives' =>
          cases call.symm.trans call'
          exact drives.unique drives'

end Conduct

/-! ## On the agenda alone -/

/-- The agenda when an advance to `time` is over. -/
def resting (a : Agenda τ) (time : Span) : Agenda τ := { a with elapsed := time }

theorem settled_eq_resting {d : Drive} (hsettle : d.settle = some d.limit) (a : Agenda τ) :
    a.settled d = a.resting d.limit := by
  unfold settled resting
  rw [hsettle]
  rfl

theorem Sound.resting {a : Agenda τ} (h : a.Sound) {limit : Span}
    (hidle : a.popDue limit = none) : (a.resting limit).Sound :=
  h.settled (d := ⟨limit, some limit, none, 0⟩) (fun _ htime => (Option.some.inj htime).symm)
    hidle

theorem Sound.foldl_perform {a : Agenda τ} (h : a.Sound) (deeds : List (Deed τ)) :
    (deeds.foldl Deed.perform a).Sound := by
  induction deeds generalizing a with
  | nil => exact h
  | cons deed rest ih =>
      refine ih ?_
      cases deed with
      | schedule delay task => exact h.schedule delay task
      | cancel id => exact h.cancel id

namespace Conduct

variable {c : Conduct ω τ} {w w' : ω} {a a' b : Agenda τ} {e : Entry τ} {log : List (Ran τ)}
  {limit : Span} {frames : List Frame}

/-- The agenda that a task leaves. -/
def leaves (c : Conduct ω τ) (w : ω) (a : Agenda τ) (task : τ) : Agenda τ :=
  (c.does w a task).1.foldl Deed.perform a

/-- From the agenda `a` an advance to `limit` runs the tasks of the log and ends with `a'`. -/
inductive Reaches (c : Conduct ω τ) (limit : Span) :
    ω → Agenda τ → List (Ran τ) → ω → Agenda τ → Prop
  | rests {w : ω} {a : Agenda τ} (idle : a.popDue limit = none) :
      Reaches c limit w a [] w (a.resting limit)
  | runs {w w' : ω} {a a' b : Agenda τ} {e : Entry τ} {log : List (Ran τ)}
      (due : a.popDue limit = some (e, b))
      (rest : Reaches c limit (c.does w (b.started e) e.task).2
        (c.leaves w (b.started e) e.task) log w' a') :
      Reaches c limit w a
        (⟨e.task, [.runningTask .agenda e.id], (b.started e).elapsed⟩ :: log) w' a'

theorem Reaches.elapsed (h : c.Reaches limit w a log w' a') : a'.elapsed = limit := by
  induction h with
  | rests idle => rfl
  | runs due rest ih => exact ih

theorem Reaches.sound (h : c.Reaches limit w a log w' a') (hsound : a.Sound) : a'.Sound := by
  induction h with
  | rests idle => exact hsound.resting idle
  | runs due rest ih => exact ih ((hsound.started due).foldl_perform _)

theorem after_moves (deeds : List (Deed τ)) (a : Agenda τ) (frames : List Frame) :
    Session.after ⟨a, frames⟩ (deeds.map Deed.move) = ⟨deeds.foldl Deed.perform a, frames⟩ := by
  induction deeds generalizing a with
  | nil => rfl
  | cons deed rest ih => cases deed <;> exact ih _

/-- A task works on the agenda, and then it leaves the stack. -/
theorem act_eq (c : Conduct ω τ) (w : ω) (a : Agenda τ) (frames : List Frame) (task : τ) :
    c.act w ⟨a, .working :: frames⟩ task =
      ⟨(c.does w a task).2, ⟨c.leaves w a task, frames⟩⟩ := by
  unfold act leaves
  rw [Session.after_concat, after_moves]
  rfl

/-- A drive that settles at its limit does what an advance does. -/
theorem drives_iff {d : Drive} (hsettle : d.settle = some d.limit) {y : Scene ω τ}
    {arrival : Arrival} :
    c.Drives ⟨w, ⟨a, .travelling d :: frames⟩⟩ log y arrival ↔
      ∃ w' a', c.Reaches d.limit w a log w' a' ∧ y = ⟨w', ⟨a', frames⟩⟩ ∧
        arrival = { d with ran := d.ran + log.length }.arrival := by
  constructor
  · intro h
    generalize hx : (⟨w, ⟨a, .travelling d :: frames⟩⟩ : Scene ω τ) = x at h
    induction h generalizing w a d with
    | arrives turn =>
        cases hx
        cases hpop : a.popDue d.limit with
        | none =>
            rw [Session.proceed_of_idle hpop] at turn
            cases turn
            exact ⟨_, _, .rests hpop, by rw [settled_eq_resting hsettle], rfl⟩
        | some found =>
            rw [Session.proceed_of_due hpop] at turn
            cases turn
    | starts turn rest ih =>
        cases hx
        cases hpop : a.popDue d.limit with
        | none =>
            rw [Session.proceed_of_idle hpop] at turn
            cases turn
        | some found =>
            rw [Session.proceed_of_due hpop] at turn
            cases turn
            obtain ⟨w', a', hreaches, hy, harrival⟩ :=
              ih (d := { d with ran := d.ran + 1 }) hsettle (act_eq c _ _ _ _).symm
            refine ⟨w', a', .runs hpop hreaches, hy, harrival.trans ?_⟩
            rw [List.length_cons, Nat.add_right_comm, Nat.add_assoc]
  · rintro ⟨w', a', h, rfl, rfl⟩
    obtain ⟨limit, hlimit⟩ : ∃ limit, limit = d.limit := ⟨_, rfl⟩
    rw [← hlimit] at h
    induction h generalizing d with
    | rests idle =>
        subst hlimit
        rw [← settled_eq_resting hsettle]
        exact .arrives (Session.proceed_of_idle idle)
    | runs due rest ih =>
        subst hlimit
        refine .starts (Session.proceed_of_due due) ?_
        rw [act_eq]
        have hrest := ih (d := { d with ran := d.ran + 1 }) hsettle rfl
        rw [List.length_cons, ← Nat.add_assoc, Nat.add_right_comm]
        exact hrest

/-- An advance counts the tasks that it runs. -/
theorem calls_advance_iff {distance : Span} {y : Scene ω τ} {arrival : Arrival} :
    c.Calls ⟨w, ⟨a, frames⟩⟩ (.advance distance) log y arrival ↔
      ∃ w' a', c.Reaches (a.elapsed + distance) w a log w' a' ∧ y = ⟨w', ⟨a', frames⟩⟩ ∧
        arrival = .ran log.length := by
  have hcalls : c.Calls ⟨w, ⟨a, frames⟩⟩ (.advance distance) log y arrival ↔
      c.Drives ⟨w, ⟨a, .travelling (a.advance distance) :: frames⟩⟩ log y arrival := by
    refine ⟨fun h => ?_, .driven rfl⟩
    cases h with
    | answered call => cases call
    | driven call drives =>
        cases call
        exact drives
  have hcount : ({ a.advance distance with ran := (a.advance distance).ran + log.length } :
      Drive).arrival = .ran log.length := congrArg Arrival.ran (Nat.zero_add _)
  rw [hcalls, drives_iff rfl, hcount]
  rfl

/-- A jump is an advance to the earliest deadline. -/
theorem calls_fastForward_iff {delay : Span} {y : Scene ω τ} :
    c.Calls ⟨w, ⟨a, frames⟩⟩ .fastForward log y (.jumped (some delay)) ↔
      a.nextDelay = some delay ∧ c.Calls ⟨w, ⟨a, frames⟩⟩ (.advance delay) log y
        (.ran log.length) := by
  rw [calls_advance_iff]
  constructor
  · intro h
    cases h with
    | answered call =>
        cases hnext : a.nextDelay <;> simp only [Session.perform, depart, hnext] at call <;>
          cases call
    | driven call drives =>
        cases hnext : a.nextDelay with
        | none =>
            simp only [Session.perform, depart, hnext] at call
            cases call
        | some found =>
            simp only [Session.perform, depart, hnext] at call
            cases call
            obtain ⟨w', a', hreaches, hy, harrival⟩ := (drives_iff rfl).mp drives
            cases harrival
            exact ⟨rfl, w', a', hreaches, hy, rfl⟩
  · rintro ⟨hnext, w', a', hreaches, hy, -⟩
    have hcall : Session.perform ⟨a, frames⟩ (.travel .fastForward) =
        (⟨a, .travelling { a.advance delay with jump := some delay } :: frames⟩, .quiet) := by
      simp only [Session.perform, depart, hnext]
    exact .driven hcall ((drives_iff rfl).mpr ⟨w', a', hreaches, hy, rfl⟩)

end Conduct

end Cadence.Agenda

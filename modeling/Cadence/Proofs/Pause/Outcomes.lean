import Cadence.Proofs.Pause.Upkeep

/-! # What a move comes to

Whatever timeline a session has, a move is at most one operation that begins, one that
goes on, or one task of the timer. It stops at a call or ends, and the last operation to
end takes an orphaned coordinator with it. The calls under way that are the coordinator's
own are the entries of the stack.
-/

namespace Cadence.Pause

/-- The entrance and the stage of a frame, if it belongs to the coordinator. -/
def Frame.entry? {δ : Type} : Frame δ → Option (Entrance × Stage)
  | .within entrance stage => some (entrance, stage)
  | .travelling _ => none

namespace Session

variable {σ δ : Type}

/-- The entrances and stages of the calls under way, innermost first. -/
def entries (s : Session σ δ) : List (Entrance × Stage) := s.frames.filterMap Frame.entry?

theorem entries_of_cons {s : Session σ δ} {entrance : Entrance} {stage : Stage}
    {rest : List (Frame δ)} (h : s.frames = .within entrance stage :: rest) :
    s.entries = (entrance, stage) :: rest.filterMap Frame.entry? := by
  unfold entries
  rw [h]
  rfl

theorem entries_of_travelling {s : Session σ δ} {drive : δ} {rest : List (Frame δ)}
    (h : s.frames = .travelling drive :: rest) : s.entries = rest.filterMap Frame.entry? := by
  unfold entries
  rw [h]
  rfl

theorem entries_of_append {s u : Session σ δ} {entrance : Entrance} {stages : List Stage}
    (h : s.frames = stages.map (.within entrance) ++ u.frames) :
    s.entries = stages.map (entrance, ·) ++ u.entries := by
  unfold entries
  rw [h, List.filterMap_append, List.filterMap_map]
  exact congrArg (· ++ _) (List.filterMap_eq_map (f := (entrance, ·)) ▸ rfl)

theorem mem_entries {s : Session σ δ} {entrance : Entrance} {stage : Stage} :
    (entrance, stage) ∈ s.entries ↔ .within entrance stage ∈ s.frames := by
  unfold entries
  rw [List.mem_filterMap]
  constructor
  · rintro ⟨frame, hframe, hentry⟩
    cases frame with
    | travelling drive => cases hentry
    | within e found =>
        cases hentry
        exact hframe
  · exact fun hframe => ⟨_, hframe, rfl⟩

theorem busy_iff {s : Session σ δ} : s.busy ↔ ∃ stage, (.request, stage) ∈ s.entries := by
  unfold busy
  rw [List.any_eq_true]
  constructor
  · rintro ⟨frame, hframe, hrequest⟩
    cases frame with
    | travelling drive => cases hrequest
    | within entrance stage =>
        cases entrance with
        | request => exact ⟨stage, mem_entries.mpr hframe⟩
        | alarm => cases hrequest
        | close dropped => cases hrequest
  · rintro ⟨stage, hmem⟩
    exact ⟨_, mem_entries.mp hmem, rfl⟩

section Outcomes

variable [Timeline σ δ Alarm] {s : Session σ δ}

/-- What becomes of an operation that stops or ends: it leaves a stage behind if it stopped, or
the last one under way takes an orphaned coordinator with it. -/
inductive Settling (s : Session σ δ) (entrance : Entrance) (p : Progress σ)
    (out : Outcome σ δ) : Prop
  | goes (coordinator : out.session.coordinator = p.coordinator)
      (frames : out.session.frames = p.stages.map (.within entrance) ++ s.frames)
      (calls : out.signal.calls = p.calls) (standing : out.session.standing = s.standing)
  | shuts (request : entrance = .request) (orphaned : s.standing = .orphaned) (idle : ¬ s.busy)
      (ended : p.next = none) (closed : out.session.standing = .closed)
      (coordinator : out.session.coordinator = (p.coordinator.close p.timers).coordinator)
      (frames : out.session.frames =
        (p.coordinator.close p.timers).stages.map (.within (.close false)) ++ s.frames)
      (calls : out.signal.calls = (p.coordinator.close p.timers).calls)

theorem settling (s : Session σ δ) (entrance : Entrance) (p : Progress σ) :
    Settling s entrance p (s.settle entrance p) := by
  unfold settle
  cases hnext : p.next with
  | some found =>
      obtain ⟨call, stage⟩ := found
      exact .goes rfl (by simp [Progress.stages, hnext])
        (by simp [Progress.calls, Signal.calls, hnext]) rfl
  | none =>
      have hstages : p.stages = [] := by simp [Progress.stages, hnext]
      have hcalls : p.calls = [] := by simp [Progress.calls, hnext]
      cases entrance with
      | alarm => exact .goes rfl (by rw [hstages]; rfl) (by rw [hcalls]; rfl) rfl
      | close dropped => exact .goes rfl (by rw [hstages]; rfl) (by rw [hcalls]; rfl) rfl
      | request =>
          dsimp only
          split
          next horphan =>
            split
            next call stage hclose =>
              refine .shuts rfl horphan.1 horphan.2 hnext rfl rfl ?_ ?_
              · simp [Progress.stages, hclose]
              · simp [Progress.calls, hclose, Signal.calls]
            next hclose =>
              refine .shuts rfl horphan.1 horphan.2 hnext rfl rfl ?_ ?_
              · simp [Progress.stages, hclose]
              · simp [Progress.calls, hclose, Signal.calls]
          next => exact .goes rfl (by rw [hstages]; rfl) (by rw [hcalls]; rfl) rfl

/-- What a move comes to, whatever the timeline brings up. -/
inductive Comes (s : Session σ δ) (m : Move) (out : Outcome σ δ) : Prop
  /-- The coordinator and its calls are not concerned. -/
  | rest (coordinator : out.session.coordinator = s.coordinator)
      (entries : out.session.entries = s.entries) (calls : out.signal.calls = [])
      (standing : out.session.standing = s.standing ∨
        s.standing = .owned ∧ out.session.standing = .orphaned)
  /-- An operation begins. -/
  | begins (p : Progress σ) (owned : s.standing = .owned)
      (kept : ∀ {below calls}, Kept s.coordinator below calls → p.Keeps below calls)
      (admitted : ∀ stage ∈ p.stages, Entrance.request.Admits stage)
      (settling : Settling s .request p out)
  /-- A task of the timer runs. -/
  | rings (u : Session σ δ) (alarm : Alarm) (coordinator : u.coordinator = s.coordinator)
      (entries : u.entries = s.entries) (standing : u.standing = s.standing)
      (settling : Settling u .alarm (s.coordinator.alarm u.timers alarm) out)
  /-- An operation goes on. -/
  | returns (entrance : Entrance) (stage : Stage) (rest : List (Frame δ))
      (sources : List SourceId) (move : m = .resume sources)
      (before : s.frames = .within entrance stage :: rest)
      (settling : Settling { s with frames := rest } entrance
        (s.coordinator.resume s.timers sources stage) out)
  /-- The owner lets the coordinator go, and no operation is under way. -/
  | leaves (move : m = .letGo) (owned : s.standing = .owned) (idle : ¬ s.busy)
      (settling : Settling { s with standing := .closed } (.close true)
        (s.coordinator.close s.timers) out)

theorem comes_request {m : Move} {p : Progress σ}
    (hkept : ∀ {below calls}, Kept s.coordinator below calls → p.Keeps below calls)
    (hadmitted : ∀ stage ∈ p.stages, Entrance.request.Admits stage) :
    Comes s m (s.request p) := by
  unfold request
  split
  next howned => exact .begins p howned hkept hadmitted (s.settling .request p)
  next => exact .rest rfl rfl rfl (.inl rfl)

theorem comes_letGo : Comes s .letGo s.letGo := by
  unfold letGo
  split
  next => exact .rest rfl rfl rfl (.inl rfl)
  next hstanding =>
    have howned : s.standing = .owned := not_not.mp hstanding
    split
    next => exact .rest rfl rfl rfl (.inr ⟨howned, rfl⟩)
    next hidle => exact .leaves rfl howned hidle (settling _ _ _)

theorem comes_travel {m : Move} (t : Travel) : Comes s m (s.travel t) := by
  unfold travel
  split <;> exact .rest rfl rfl rfl (.inl rfl)

theorem comes_resume (sources : List SourceId) :
    Comes s (.resume sources) (s.resume sources) := by
  unfold resume
  split
  next entrance stage rest hframes =>
    exact .returns entrance stage rest sources rfl hframes (settling _ _ _)
  next => exact .rest rfl rfl rfl (.inl rfl)

theorem comes_proceed {m : Move} : Comes s m s.proceed := by
  unfold proceed
  split
  next drive rest hframes =>
    have hentries := entries_of_travelling hframes
    split
    next alarm events timers drive' hturn =>
      have hrings := settling { s with timers, frames := .travelling drive' :: rest } .alarm
        (s.coordinator.alarm timers alarm)
      -- what is logged is of no account
      refine .rings { s with timers, frames := .travelling drive' :: rest } alarm rfl hentries.symm
        rfl ?_
      cases hrings with
      | goes coordinator frames calls standing => exact .goes coordinator frames calls standing
      | shuts request => cases request
    next => exact .rest rfl hentries.symm rfl (.inl rfl)
  next => exact .rest rfl rfl rfl (.inl rfl)

theorem comes (s : Session σ δ) (m : Move) : Comes s m (s.perform m) := by
  cases m with
  | pause sources grace =>
      exact comes_request (fun h => h.pause sources grace) fun stage hstage =>
        Coordinator.pause_admitted s.coordinator s.timers sources grace hstage
  | pauseAll grace =>
      refine comes_request (fun h => h.tell rfl nofun nofun nofun) fun stage hstage => ?_
      cases List.mem_singleton.mp hstage
      trivial
  | finish source =>
      exact comes_request (fun h => h.finish source) fun stage hstage =>
        Coordinator.finish_admitted s.coordinator s.timers source hstage
  | letGo => exact comes_letGo
  | travel t => exact comes_travel t
  | resume sources => exact comes_resume sources
  | proceed => exact comes_proceed

end Outcomes

end Session

end Cadence.Pause

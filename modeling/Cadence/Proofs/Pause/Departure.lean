import Cadence.Proofs.Pause.Outcomes
import Cadence.Proofs.Pause.Changes

/-! # A coordinator that goes away

A coordinator goes away when its owner lets it go, or with the last operation that was
under way then. It unobserves what it observes and lets go of what it holds, and that is
the last that is heard of it: tasks of its timer may still come up, on a service that
takes none back, but they find nothing to give up.
-/

namespace Cadence.Pause

/-- The calls with which a coordinator goes away. -/
def Coordinator.farewell (c : Coordinator) : List Call :=
  c.observed.map .unobserve ++ if c.held then [.release] else []

/-- The calls that a coordinator which goes away has still to make after the one it is at. -/
def Stage.owed : Stage → List Call
  | .closing rest held => rest.map .unobserve ++ if held then [.release] else []
  | _ => []

namespace Coordinator

variable {σ : Type} {c : Coordinator} {timers : σ}

/-- All that is left to do is called out, now or later. -/
theorem closeNext_owed (rest : List SourceId) (held : Bool) (events : List Event) :
    (c.closeNext timers rest held events).calls ++
        (c.closeNext timers rest held events).stages.flatMap Stage.owed =
      rest.map .unobserve ++ if held then [.release] else [] := by
  cases rest with
  | nil => cases held <;> rfl
  | cons s rest => simp [closeNext, Progress.calls, Progress.stages, Stage.owed]

/-- A task that comes up finds nothing to give up once the pause is let go. -/
theorem alarm_of_free (hfree : c.held = false) (hidle : c.timer.armed = false) (timers : σ)
    (alarm : Alarm) :
    (c.alarm timers alarm).next = none ∧
      (c.alarm timers alarm).coordinator.held = false ∧
      (c.alarm timers alarm).coordinator.timer.armed = false := by
  unfold Coordinator.alarm giveUp
  split
  next => exact ⟨rfl, hfree, hidle⟩
  next timer hfire =>
    refine ⟨by rw [hfree]; rfl, rfl, ?_⟩
    unfold OneShot.fire at hfire
    split at hfire
    next =>
      cases hfire
      rfl
    next => cases hfire

theorem farewell_length : c.farewell.length = c.observed.length + if c.held then 1 else 0 := by
  unfold farewell
  split <;> simp

/-- Going away lets go of one handle if one is held, and acquires none. -/
theorem count_farewell :
    c.farewell.count .acquire = 0 ∧ c.farewell.count .release = if c.held then 1 else 0 := by
  have hacquire : Call.acquire ∉ c.observed.map .unobserve := by simp
  have hrelease : Call.release ∉ c.observed.map .unobserve := by simp
  unfold farewell
  rw [List.count_append, List.count_append, List.count_eq_zero_of_not_mem hacquire,
    List.count_eq_zero_of_not_mem hrelease]
  cases c.held <;> exact ⟨rfl, rfl⟩

theorem watched_unobserved {s : SourceId} (sources : List SourceId) (calls : List Call) :
    Watched s (calls ++ sources.map .unobserve) ↔ Watched s calls ∧ s ∉ sources := by
  induction sources generalizing calls with
  | nil => simp
  | cons x rest ih =>
      rw [List.map_cons, List.append_cons, ih]
      by_cases hx : x = s
      · simp [hx, not_watched_unobserve]
      · rw [watched_unobserve_ne hx]
        simp [Ne.symm hx]

/-- Going away ends the watch on what is still observed. -/
theorem watched_farewell {s : SourceId} (calls : List Call) :
    Watched s (calls ++ c.farewell) ↔ Watched s calls ∧ s ∉ c.observed := by
  unfold farewell
  rw [← List.append_assoc]
  cases c.held with
  | false => rw [← watched_unobserved, if_neg nofun, List.append_nil]
  | true => rw [← watched_unobserved, if_pos rfl, watched_other rfl]

variable [TimerService σ Alarm]

theorem close_owed :
    (c.close timers).calls ++ (c.close timers).stages.flatMap Stage.owed = c.farewell :=
  closeNext_owed c.observed c.held _

theorem close_free (timers : σ) :
    (c.close timers).coordinator.held = false ∧
      (c.close timers).coordinator.timer.armed = false := by
  unfold close
  rw [(closeNext_state _ _ _).1]
  exact ⟨rfl, rfl⟩

end Coordinator

namespace Session

section Books

variable {σ δ : Type} {s : Session σ δ}

/-- The calls that a coordinator which goes away has still to make. -/
def owed (s : Session σ δ) : List Call := (s.entries.map Prod.snd).flatMap Stage.owed

/-- No call with which the coordinator goes away is under way. -/
def Departed (s : Session σ δ) : Prop :=
  ∀ dropped stage, .within (.close dropped) stage ∉ s.frames

theorem owed_cons {entries : List (Entrance × Stage)} {entrance : Entrance} {stage : Stage}
    (h : s.entries = (entrance, stage) :: entries) :
    s.owed = stage.owed ++ (entries.map Prod.snd).flatMap Stage.owed := by
  unfold owed
  rw [h, List.map_cons, List.flatMap_cons]

theorem owed_of_append {u : Session σ δ} {entrance : Entrance} {stages : List Stage}
    (h : s.frames = stages.map (.within entrance) ++ u.frames) :
    s.owed = stages.flatMap Stage.owed ++ u.owed := by
  unfold owed
  rw [entries_of_append h]
  simp [List.flatMap_map, Function.comp_def]

/-- Only a coordinator that goes away owes calls. -/
theorem owed_eq_nil (h : ∀ entry ∈ s.entries, entry.2 = .finished) : s.owed = [] := by
  unfold owed
  rw [List.flatMap_map, List.flatMap_eq_nil_iff]
  intro entry hentry
  rw [h entry hentry]
  rfl

/-- None of the calls under way closes the coordinator. -/
structure Unclosed (s : Session σ δ) : Prop where
  admitted : ∀ entry ∈ s.entries, entry.1.Admits entry.2
  unclosed : ∀ entry ∈ s.entries, ∀ dropped, entry.1 ≠ .close dropped

/-- A coordinator that is still there keeps its books. -/
structure Present (s : Session σ δ) (calls : List Call) : Prop extends s.Unclosed where
  kept : Kept s.coordinator (s.entries.map Prod.snd) calls

theorem Unclosed.congr {u : Session σ δ} (h : s.Unclosed) (hentries : u.entries = s.entries) :
    u.Unclosed :=
  ⟨hentries ▸ h.admitted, hentries ▸ h.unclosed⟩

/-- With no operation under way, only tasks of the timer may wait to return. -/
theorem Unclosed.finished (h : s.Unclosed) (hidle : ¬ s.busy) {entry : Entrance × Stage}
    (hentry : entry ∈ s.entries) : entry = (.alarm, .finished) := by
  obtain ⟨entrance, stage⟩ := entry
  cases entrance with
  | request => exact absurd (busy_iff.mpr ⟨stage, hentry⟩) hidle
  | alarm => exact congrArg _ (h.admitted _ hentry)
  | close dropped => exact absurd rfl (h.unclosed _ hentry dropped)

/-- With no operation under way, no handle waits to be adopted or let go. -/
theorem Unclosed.waiting_eq_zero (h : s.Unclosed) (hidle : ¬ s.busy) :
    waiting (s.entries.map Prod.snd) = 0 := by
  have hfinished : ∀ entry ∈ s.entries, entry = (.alarm, .finished) :=
    fun entry => h.finished hidle
  generalize s.entries = entries at hfinished
  induction entries with
  | nil => rfl
  | cons entry rest ih =>
      rw [List.map_cons, waiting_cons, hfinished entry List.mem_cons_self,
        ih fun e he => hfinished e (List.mem_cons_of_mem entry he)]
      rfl

/-- An operation that stops leaves the books as it kept them. -/
theorem Unclosed.present {entrance : Entrance} {p : Progress σ} {out : Outcome σ δ}
    {calls : List Call} (h : s.Unclosed) (hentrance : ∀ dropped, entrance ≠ .close dropped)
    (hadmitted : ∀ stage ∈ p.stages, entrance.Admits stage)
    (hkeeps : p.Keeps (s.entries.map Prod.snd) calls)
    (hcoordinator : out.session.coordinator = p.coordinator)
    (hframes : out.session.frames = p.stages.map (.within entrance) ++ s.frames)
    (hcalls : out.signal.calls = p.calls) : out.session.Present (calls ++ out.signal.calls) := by
  have hentries := entries_of_append hframes
  have hmem : ∀ entry ∈ out.session.entries,
      (∃ stage ∈ p.stages, (entrance, stage) = entry) ∨ entry ∈ s.entries := by
    intro entry hentry
    rwa [hentries, List.mem_append, List.mem_map] at hentry
  refine ⟨⟨fun entry hentry => ?_, fun entry hentry => ?_⟩, ?_⟩
  · rcases hmem entry hentry with ⟨stage, hstage, rfl⟩ | hentry
    · exact hadmitted stage hstage
    · exact h.admitted entry hentry
  · rcases hmem entry hentry with ⟨stage, hstage, rfl⟩ | hentry
    · exact hentrance
    · exact h.unclosed entry hentry
  · rw [hcoordinator, hentries, hcalls, List.map_append, List.map_map]
    simpa [Progress.Keeps, Function.comp_def] using hkeeps

/-- Nothing is held, the timer is idle, and the calls under way that are the coordinator's
own are those with which it goes away. -/
structure Parted (s : Session σ δ) : Prop where
  closed : s.standing = .closed
  free : s.coordinator.held = false
  idle : s.coordinator.timer.armed = false
  admitted : ∀ entry ∈ s.entries, entry.1.Admits entry.2 ∧ entry.1 ≠ .request

/-- A coordinator that has gone away owes nothing. -/
theorem Parted.owed_eq_nil (h : s.Parted) (hdeparted : s.Departed) : s.owed = [] := by
  refine Session.owed_eq_nil fun entry hentry => ?_
  obtain ⟨entrance, stage⟩ := entry
  obtain ⟨hadmits, hentrance⟩ := h.admitted _ hentry
  cases entrance with
  | request => exact absurd rfl hentrance
  | alarm => exact hadmits
  | close dropped => exact absurd (mem_entries.mp hentry) (hdeparted dropped stage)

end Books

section Moves

variable {σ δ : Type} [Timeline σ δ Alarm] {s : Session σ δ} {calls : List Call}

/-! ## Before the coordinator goes away -/

/-- An operation under way goes on from the books as they are. -/
theorem Present.returns (h : s.Present calls) {entrance : Entrance} {stage : Stage}
    {rest : List (Frame δ)} (hframes : s.frames = .within entrance stage :: rest)
    (sources : List SourceId) :
    Unclosed { s with frames := rest } ∧ (∀ dropped, entrance ≠ .close dropped) ∧
      entrance.Admits stage ∧
      (s.coordinator.resume s.timers sources stage).Keeps
        ((entries { s with frames := rest }).map Prod.snd) calls := by
  have hentries : s.entries = (entrance, stage) :: entries { s with frames := rest } :=
    entries_of_cons hframes
  have hadmits : entrance.Admits stage := h.admitted (entrance, stage) (by simp [hentries])
  have hentrance := h.unclosed (entrance, stage) (by simp [hentries])
  refine ⟨⟨fun entry hentry => ?_, fun entry hentry => ?_⟩, hentrance, hadmits, ?_⟩
  · exact h.admitted entry (hentries ▸ List.mem_cons_of_mem _ hentry)
  · exact h.unclosed entry (hentries ▸ List.mem_cons_of_mem _ hentry)
  · have hkept := h.kept
    rw [hentries, List.map_cons] at hkept
    refine hkept.resume ?_ sources
    rintro last held rfl
    cases entrance with
    | request => exact hadmits
    | alarm => cases hadmits
    | close dropped => exact hentrance dropped rfl

theorem Present.perform (h : s.Present calls) {m : Move}
    (hpresent : (s.perform m).session.standing ≠ .closed) :
    (s.perform m).session.Present (calls ++ (s.perform m).signal.calls) := by
  have hrequest : ∀ dropped, Entrance.request ≠ .close dropped := nofun
  have halarm : ∀ dropped, Entrance.alarm ≠ .close dropped := nofun
  cases s.comes m with
  | rest coordinator entries silent standing =>
      rw [silent, List.append_nil]
      refine ⟨h.toUnclosed.congr entries, ?_⟩
      rw [coordinator, entries]
      exact h.kept
  | begins p owned kept admitted settling =>
      cases settling with
      | goes coordinator frames silent standing =>
          exact h.toUnclosed.present hrequest admitted (kept h.kept) coordinator frames silent
      | shuts _ _ _ _ closed => exact absurd closed hpresent
  | rings u alarm coordinator entries standing settling =>
      cases settling with
      | goes coordinator' frames silent standing =>
          refine (h.toUnclosed.congr entries).present halarm ?_ ?_ coordinator' frames silent
          · exact fun stage hstage => s.coordinator.alarm_admitted u.timers alarm hstage
          · exact entries ▸ h.kept.alarm alarm
      | shuts request => cases request
  | returns entrance stage rest sources move before settling =>
      obtain ⟨hunclosed, hentrance, hadmits, hkeeps⟩ := h.returns before sources
      cases settling with
      | goes coordinator frames silent standing =>
          refine hunclosed.present hentrance ?_ hkeeps coordinator frames silent
          exact fun next hnext =>
            s.coordinator.resume_admitted s.timers sources hadmits hnext
      | shuts _ _ _ _ closed => exact absurd closed hpresent
  | leaves move owned idle settling =>
      cases settling with
      | goes _ _ _ standing => exact absurd standing hpresent
      | shuts request => cases request

/-- A session at the beginning, on any timeline. -/
def opening (timers : σ) : Session σ δ := { timers }

theorem closed_perform (h : s.standing = .closed) (m : Move) :
    (s.perform m).session.standing = .closed := by
  cases s.comes m with
  | rest _ _ _ standing =>
      refine standing.elim (fun hsame => hsame.trans h) fun howned => ?_
      exact absurd (h.symm.trans howned.1) nofun
  | begins _ owned => exact absurd (h.symm.trans owned) nofun
  | rings u alarm _ _ standing settling =>
      cases settling with
      | goes _ _ _ standing' => exact standing'.trans (standing.trans h)
      | shuts _ _ _ _ closed => exact closed
  | returns _ _ _ _ _ _ settling =>
      cases settling with
      | goes _ _ _ standing => exact standing.trans h
      | shuts _ _ _ _ closed => exact closed
  | leaves _ _ _ settling =>
      cases settling with
      | goes _ _ _ standing => exact standing
      | shuts _ _ _ _ closed => exact closed

theorem present_after (timers : σ) (moves : List Move)
    (hpresent : ((opening timers : Session σ δ).after moves).standing ≠ .closed) :
    ((opening timers : Session σ δ).after moves).Present
      ((opening timers : Session σ δ).calls moves) := by
  induction moves using List.reverseRecOn with
  | nil => exact ⟨⟨nofun, nofun⟩, .start⟩
  | append_singleton moves m ih =>
      rw [after_concat] at hpresent ⊢
      rw [calls_concat]
      exact (ih fun hclosed => hpresent (closed_perform hclosed m)).perform hpresent

/-! ## Once it has gone away -/

/-- A call with which the coordinator goes away returns, or a task of the timer does. -/
theorem resume_of_parted {entrance : Entrance} {stage : Stage} (hadmits : entrance.Admits stage)
    (hentrance : entrance ≠ .request) (sources : List SourceId) :
    (s.coordinator.resume s.timers sources stage).coordinator = s.coordinator ∧
      (s.coordinator.resume s.timers sources stage).calls ++
        (s.coordinator.resume s.timers sources stage).stages.flatMap Stage.owed = stage.owed := by
  cases stage with
  | closing rest held =>
      exact ⟨(Coordinator.closeNext_state rest held []).1, Coordinator.closeNext_owed rest held []⟩
  | finished => exact ⟨rfl, rfl⟩
  | _ =>
      cases entrance with
      | request => exact absurd rfl hentrance
      | alarm => cases hadmits
      | close dropped => cases hadmits

/-- A move makes the next of the calls that are owed, or none. -/
theorem Parted.perform (h : s.Parted) (m : Move) :
    (s.perform m).session.Parted ∧
      (s.perform m).signal.calls ++ (s.perform m).session.owed = s.owed := by
  have hclosed := closed_perform h.closed m
  cases s.comes m with
  | rest coordinator entries silent _ =>
      refine ⟨⟨hclosed, coordinator ▸ h.free, coordinator ▸ h.idle, entries ▸ h.admitted⟩, ?_⟩
      rw [silent]
      unfold owed
      rw [entries, List.nil_append]
  | begins _ owned => exact absurd (h.closed.symm.trans owned) nofun
  | rings u alarm coordinator entries standing settling =>
      cases settling with
      | goes coordinator' frames silent _ =>
          obtain ⟨hnext, hfree, hidle⟩ :=
            Coordinator.alarm_of_free h.free h.idle u.timers alarm
          have hcalls : (s.perform m).signal.calls = [] := by
            rw [silent, Progress.calls, hnext]
            rfl
          have hentries : (s.perform m).session.entries = s.entries := by
            rw [entries_of_append frames, Progress.stages, hnext]
            exact entries
          refine ⟨⟨hclosed, coordinator' ▸ hfree, coordinator' ▸ hidle, ?_⟩, ?_⟩
          · exact hentries ▸ h.admitted
          · rw [hcalls]
            unfold owed
            rw [hentries, List.nil_append]
      | shuts request => cases request
  | returns entrance stage rest sources move before settling =>
      have hentries : s.entries = (entrance, stage) :: entries { s with frames := rest } :=
        entries_of_cons before
      obtain ⟨hadmits, hentrance⟩ := h.admitted (entrance, stage) (by simp [hentries])
      obtain ⟨hcoordinator, howed⟩ := s.resume_of_parted hadmits hentrance sources
      cases settling with
      | goes coordinator frames silent _ =>
          rw [hcoordinator] at coordinator
          refine ⟨⟨hclosed, coordinator ▸ h.free, coordinator ▸ h.idle, ?_⟩, ?_⟩
          · intro entry hentry
            rw [entries_of_append frames, List.mem_append, List.mem_map] at hentry
            rcases hentry with ⟨next, hnext, rfl⟩ | hentry
            · exact ⟨s.coordinator.resume_admitted s.timers sources hadmits hnext, hentrance⟩
            · exact h.admitted entry (hentries ▸ List.mem_cons_of_mem _ hentry)
          · rw [owed_of_append frames, owed_cons hentries, ← howed, silent, List.append_assoc]
            rfl
      | shuts request => exact absurd request hentrance
  | leaves _ owned => exact absurd (h.closed.symm.trans owned) nofun

/-- Whatever follows, the calls that are owed are made in their order, and no others. -/
theorem Parted.after (h : s.Parted) (later : List Move) :
    (s.after later).Parted ∧ s.calls later ++ (s.after later).owed = s.owed := by
  induction later generalizing s with
  | nil => exact ⟨h, rfl⟩
  | cons m later ih =>
      obtain ⟨hparted, howed⟩ := h.perform m
      obtain ⟨hafter, hcalls⟩ := ih hparted
      refine ⟨hafter, ?_⟩
      rw [← howed, ← hcalls, ← List.append_assoc]
      rfl

/-! ## Going away -/

/-- The coordinator at the moment at which a move may let it go away: an operation that goes
on with the move has been carried out by then. -/
def leaver (s : Session σ δ) : Move → Coordinator
  | .resume sources =>
      match s.frames with
      | .within _ stage :: _ => (s.coordinator.resume s.timers sources stage).coordinator
      | _ => s.coordinator
  | _ => s.coordinator

/-- The coordinator goes away with this move. -/
def Departs (s : Session σ δ) (m : Move) : Prop :=
  s.standing ≠ .closed ∧ (s.perform m).session.standing = .closed

/-- What is left when a coordinator goes away: its books, the calls of others under way, and
the first of its last calls. -/
structure Leaves (s : Session σ δ) (m : Move) (calls : List Call) (timers : σ) (dropped : Bool)
    (u : Session σ δ) : Prop extends u.Unclosed where
  idle : ¬ u.busy
  kept : Kept (s.leaver m) (u.entries.map Prod.snd) calls
  coordinator : (s.perform m).session.coordinator = ((s.leaver m).close timers).coordinator
  frames : (s.perform m).session.frames =
    ((s.leaver m).close timers).stages.map (.within (.close dropped)) ++ u.frames
  silent : (s.perform m).signal.calls = ((s.leaver m).close timers).calls

theorem Present.leaves (h : s.Present calls) {m : Move} (hdeparts : s.Departs m) :
    ∃ timers dropped u, s.Leaves m calls timers dropped u := by
  obtain ⟨hpresent, hclosed⟩ := hdeparts
  cases s.comes m with
  | rest _ _ _ standing =>
      rcases standing with hsame | howned
      · exact absurd (hsame.symm.trans hclosed) hpresent
      · exact absurd (hclosed.symm.trans howned.2) nofun
  | begins p owned _ _ settling =>
      cases settling with
      | goes _ _ _ standing => exact absurd (standing.symm.trans hclosed) hpresent
      | shuts _ orphaned => exact absurd (owned.symm.trans orphaned) nofun
  | rings u alarm _ _ standing settling =>
      cases settling with
      | goes _ _ _ standing' =>
          exact absurd (standing.symm.trans (standing'.symm.trans hclosed)) hpresent
      | shuts request => cases request
  | returns entrance stage rest sources move before settling =>
      obtain ⟨hunclosed, _, _, hkeeps⟩ := h.returns before sources
      cases settling with
      | goes _ _ _ standing => exact absurd (standing.symm.trans hclosed) hpresent
      | shuts _ _ idle ended _ coordinator frames silent =>
          have hleaver : s.leaver m =
              (s.coordinator.resume s.timers sources stage).coordinator := by
            rw [move, leaver, before]
          refine ⟨(s.coordinator.resume s.timers sources stage).timers, false, _, hunclosed, idle,
            ?_, ?_, ?_, ?_⟩
          · simpa [Progress.Keeps, Progress.stages, Progress.calls, ended, hleaver] using hkeeps
          · rw [hleaver]
            exact coordinator
          · rw [hleaver]
            exact frames
          · rw [hleaver]
            exact silent
  | leaves move _ idle settling =>
      cases settling with
      | goes coordinator frames silent _ =>
          have hleaver : s.leaver m = s.coordinator := by
            rw [move]
            rfl
          refine ⟨s.timers, true, s, h.toUnclosed, idle, hleaver ▸ h.kept, ?_, ?_, ?_⟩
          · rw [hleaver]
            exact coordinator
          · rw [hleaver]
            exact frames
          · rw [hleaver]
            exact silent
      | shuts request => cases request

/-- The last calls are all that is owed from now on. -/
theorem Leaves.parted {m : Move} {timers : σ} {dropped : Bool} {u : Session σ δ}
    (h : s.Leaves m calls timers dropped u) (hclosed : (s.perform m).session.standing = .closed) :
    (s.perform m).session.Parted ∧
      (s.perform m).signal.calls ++ (s.perform m).session.owed = (s.leaver m).farewell := by
  have hfree := (s.leaver m).close_free timers
  rw [← h.coordinator] at hfree
  have hfinished : ∀ entry ∈ u.entries, entry = (.alarm, .finished) :=
    fun entry => h.finished h.idle
  refine ⟨⟨hclosed, hfree.1, hfree.2, fun entry hentry => ?_⟩, ?_⟩
  · rw [entries_of_append h.frames, List.mem_append, List.mem_map] at hentry
    rcases hentry with ⟨stage, hstage, rfl⟩ | hentry
    · exact ⟨(s.leaver m).close_admitted timers dropped hstage, nofun⟩
    · rw [hfinished entry hentry]
      exact ⟨rfl, nofun⟩
  · rw [owed_of_append h.frames, h.silent,
      u.owed_eq_nil fun entry hentry => congrArg Prod.snd (hfinished entry hentry), List.append_nil]
    exact Coordinator.close_owed

/-- One of the last calls returns, and the next is made in its place. -/
theorem frames_of_return (stage : Stage) {dropped : Bool} {below : List (Frame δ)}
    (hframes : s.frames = .within (.close dropped) stage :: below) :
    (s.perform (.resume [])).session.frames =
      (s.coordinator.resume s.timers [] stage).stages.map (.within (.close dropped)) ++ below := by
  have hsettle : s.perform (.resume []) = ({ s with frames := below } : Session σ δ).settle
      (.close dropped) (s.coordinator.resume s.timers [] stage) := by
    simp only [perform, resume, hframes]
  cases hsettle ▸ settling { s with frames := below } (.close dropped)
      (s.coordinator.resume s.timers [] stage) with
  | goes _ frames => exact frames
  | shuts request => cases request

/-- When the last calls have returned, one after the other, none of them is left. -/
theorem frames_of_returns {c : Coordinator} {timers : σ} {events : List Event} {dropped : Bool}
    {below : List (Frame δ)} (rest : List SourceId) (held : Bool)
    (hframes : s.frames =
      (c.closeNext timers rest held events).stages.map (.within (.close dropped)) ++ below) :
    (s.after (List.replicate (rest.length + if held then 1 else 0) (.resume []))).frames =
      below := by
  induction rest generalizing s c timers events with
  | nil =>
      cases held with
      | false => exact hframes
      | true => exact frames_of_return .finished hframes
  | cons x rest ih =>
      rw [List.length_cons, Nat.add_right_comm, List.replicate_succ]
      exact ih (frames_of_return (.closing rest held) hframes)

theorem Leaves.departed {m : Move} {timers : σ} {dropped : Bool} {u : Session σ δ}
    (h : s.Leaves m calls timers dropped u) :
    (s.after (m :: List.replicate (s.leaver m).farewell.length (.resume []))).Departed := by
  have hframes := frames_of_returns (s.leaver m).observed (s.leaver m).held h.frames
  rw [← Coordinator.farewell_length] at hframes
  intro dropped stage hmem
  have hframe : .within (.close dropped) stage ∈ u.frames := hframes ▸ hmem
  exact h.unclosed _ (mem_entries.mpr hframe) dropped rfl

theorem departs_letGo (howned : s.standing = .owned) (hidle : ¬ s.busy) : s.Departs .letGo := by
  refine ⟨howned ▸ nofun, ?_⟩
  have hletGo : s.perform .letGo = ({ s with standing := .closed } : Session σ δ).settle
      (.close true) (s.coordinator.close s.timers) := by
    unfold perform letGo
    rw [if_neg (not_not.mpr howned), if_neg hidle]
  cases hletGo ▸ settling { s with standing := .closed } (.close true)
      (s.coordinator.close s.timers) with
  | goes _ _ _ standing => exact standing
  | shuts request => cases request

/-- The last calls come in their order, whatever else happens, and once they have returned
the books are closed. -/
theorem Present.undone (h : s.Present calls) {m : Move} (hdeparts : s.Departs m)
    (later : List Move) :
    s.calls (m :: later) <+: (s.leaver m).farewell ∧
      ((s.after (m :: later)).Departed → s.calls (m :: later) = (s.leaver m).farewell) ∧
      (calls ++ (s.leaver m).farewell).count .acquire =
        (calls ++ (s.leaver m).farewell).count .release ∧
      ∀ source, ¬ Watched source (calls ++ (s.leaver m).farewell) := by
  obtain ⟨timers, dropped, u, hleaves⟩ := h.leaves hdeparts
  obtain ⟨hparted, howed⟩ := hleaves.parted hdeparts.2
  obtain ⟨hafter, hcalls⟩ := hparted.after later
  have hall : s.calls (m :: later) ++ (s.after (m :: later)).owed = (s.leaver m).farewell := by
    rw [← howed, ← hcalls, ← List.append_assoc]
    rfl
  refine ⟨⟨_, hall⟩, fun hdeparted => ?_, ?_, fun source hwatched => ?_⟩
  · have hnothing : (s.after (m :: later)).owed = [] := hafter.owed_eq_nil hdeparted
    rwa [hnothing, List.append_nil] at hall
  · have hbalance := hleaves.kept.balance
    rw [hleaves.waiting_eq_zero hleaves.idle] at hbalance
    rw [List.count_append, List.count_append, Coordinator.count_farewell.1,
      Coordinator.count_farewell.2, hbalance]
    rfl
  · rw [Coordinator.watched_farewell] at hwatched
    exact hwatched.2 (hleaves.kept.watched source hwatched.1)

/-- Once the coordinator goes away the timer is idle for good. -/
theorem Present.idle (h : s.Present calls) {m : Move} (hdeparts : s.Departs m)
    (later : List Move) : (s.after (m :: later)).coordinator.timer.armed = false := by
  obtain ⟨timers, dropped, u, hleaves⟩ := h.leaves hdeparts
  exact ((hleaves.parted hdeparts.2).1.after later).1.idle

/-- A coordinator that its owner lets go goes away at once, unless an operation is under way;
then it goes away with the last of them. From then on it unobserves what it still observes, in
ascending order, lets go of the pause if it holds it, and makes no other call, whatever its
timer brings up. Once these calls have returned every pause that it acquired was let go and
every source that it observed was unobserved. On an agenda none of its tasks waits any more. -/
theorem coordinator_goes_for_good :
    (∀ (σ δ : Type) [Timeline σ δ Alarm] (timers : σ) (moves : List Move) (m : Move),
      let start : Session σ δ := opening timers
      let s := start.after moves
      let c := s.leaver m
      (s.standing = .owned → ¬ s.busy → s.Departs .letGo ∧ s.leaver .letGo = s.coordinator) ∧
      (s.Departs m →
        c.observed.Pairwise (· < ·) ∧
        (∀ later, s.calls (m :: later) <+: c.farewell) ∧
        (s.after (m :: List.replicate c.farewell.length (.resume []))).Departed ∧
        ∀ later, (s.after (m :: later)).Departed →
          let calls := start.calls (moves ++ m :: later)
          calls = start.calls moves ++ c.farewell ∧
          calls.count .acquire = calls.count .release ∧
          ∀ source, ¬ Watched source calls)) ∧
    ∀ (moves : List Move) (m : Move), (fresh.after moves).Departs m →
      ∀ later, (fresh.after (moves ++ m :: later)).timers.queue = [] := by
  refine ⟨fun σ δ _ timers moves m => ⟨fun howned hidle => ?_, ?_⟩, ?_⟩
  · exact ⟨departs_letGo howned hidle, rfl⟩
  · intro hdeparts
    have hpresent := present_after timers moves hdeparts.1
    obtain ⟨timers', dropped, u, hleaves⟩ := hpresent.leaves hdeparts
    refine ⟨hleaves.kept.ascending, fun later => (hpresent.undone hdeparts later).1,
      hleaves.departed, fun later hdeparted => ?_⟩
    obtain ⟨_, hall, hbalance, hunwatched⟩ := hpresent.undone hdeparts later
    dsimp only
    rw [calls_append, hall hdeparted]
    exact ⟨rfl, hbalance, hunwatched⟩
  · intro moves m hdeparts later
    have hpresent : (fresh.after moves).Present (fresh.calls moves) :=
      present_after fresh.timers moves hdeparts.1
    have hidle := hpresent.idle hdeparts later
    rw [← after_append] at hidle
    exact (Signalled.run (moves ++ m :: later)).2.attuned.idle hidle

end Moves

/-- A pause was trailing and is held again when its owner lets go, on a service that takes no
task back: the task of the release that was called off still comes up, and nothing follows. -/
theorem coordinator_goes_for_good_leaky :
    let timers : Leaky (Agenda Alarm) := ⟨{}⟩
    let start : Session (Leaky (Agenda Alarm)) Agenda.Drive := opening timers
    let moves : List Move := [.pause [3] (.ofSecs 1), .resume [], .resume [], .finish 3, .resume [],
      .pause [5, 2] .zero, .resume [], .resume []]
    let later : List Move := [.resume [], .resume [], .resume [], .travel (.advance (.ofSecs 2)),
      .proceed, .proceed]
    (start.after moves).coordinator.status = .active ∧
      (start.after moves).timers.timers.queue.length = 1 ∧
      start.calls (moves ++ .letGo :: later) =
        start.calls moves ++ [.unobserve 2, .unobserve 5, .release] ∧
      (start.after (moves ++ .letGo :: later)).timers.timers.queue = [] ∧
      (start.calls (moves ++ .letGo :: later)).count .acquire = 1 := by
  intro timers start moves later
  obtain ⟨hgoes, hgone⟩ := coordinator_goes_for_good.1 _ Agenda.Drive timers moves .letGo
  have howned : (start.after moves).standing = .owned := by decide
  have hidle : ¬ (start.after moves).busy := by decide
  have hframes : ((start.after moves).after (.letGo :: later)).frames = [] := by decide
  have hdeparted : ((start.after moves).after (.letGo :: later)).Departed := by
    intro dropped stage hmem
    rw [hframes] at hmem
    cases hmem
  have hfarewell : ((start.after moves).leaver .letGo).farewell =
      [.unobserve 2, .unobserve 5, .release] := by decide
  obtain ⟨_, _, _, hcalls⟩ := hgone (hgoes howned hidle).1
  have hall := (hcalls later hdeparted).1.trans (congrArg _ hfarewell)
  exact ⟨by decide, by decide, hall, by decide, by decide⟩

end Session

end Cadence.Pause

import Mathlib.Data.List.Induction
import Cadence.Broadcast.Session
import Cadence.Proofs.Broadcast.Registry

/-! # The roll of registrations

A session of a dispatcher on any timeline, with any surroundings. Its run enters
into a ledger each registration that is handed out and each one that is taken
back, by the operation or by a handler. The registry shows what the ledger says:
the registrations that were handed out and have not been taken back since.
-/

namespace Cadence.Broadcast.Roll

/-- A beat of a run: a move of the surroundings, with the order in which a broadcast would
go through the records, or a change that somebody else makes to the timers. -/
inductive Beat (σ ε : Type)
  | move (visit : List Origin → List Origin) (move : Move ε)
  | others (timers : σ)

/-- An entry of the ledger. -/
inductive Mark
  /-- A registration was handed out. -/
  | enrolled (registration : Registration)
  /-- A registration was taken back. -/
  | struck (registration : Registration)
deriving DecidableEq

/-- The numbers handed out, in the order of the ledger. -/
def numbers (ledger : List Mark) : List EndpointId :=
  ledger.filterMap fun
    | .enrolled r => some r.id
    | .struck _ => none

/-- The numbers handed out for an origin and not taken back from it since. -/
def live : List Mark → Origin → List EndpointId
  | [], _ => []
  | .enrolled r :: rest, origin =>
      (if r.origin = origin ∧ .struck r ∉ rest then [r.id] else []) ++ live rest origin
  | .struck _ :: rest, origin => live rest origin

/-- The numbers of the registrations that listeners are being handed. -/
def inHand {δ : Type} (frames : List (Frame δ)) : List EndpointId :=
  frames.filterMap fun
    | .installing id => some id
    | _ => none

section Runs

variable {σ δ ε κ : Type} [Timeline σ δ (Errand κ)]

def next (s : Session σ δ ε) : Beat σ ε → Outcome σ δ ε κ
  | .move visit m => s.perform visit m
  | .others timers => { session := { s with timers } }

/-- The session after some beats. -/
def after (s : Session σ δ ε) (beats : List (Beat σ ε)) : Session σ δ ε :=
  beats.foldl (fun s beat => (next s beat).session) s

/-- What a beat enters into the ledger. An operation that finds the dispatcher gone enters
nothing. -/
def marks (beat : Beat σ ε) (out : Outcome σ δ ε κ) : List Mark :=
  match beat, out.signal with
  | .move _ (.add origin _), .called (.install _ r) => [.enrolled ⟨origin, r.id⟩]
  | .move _ (.remove r), .answered .done => [.struck r]
  | .move _ (.disconnect r), .answered .done => [.struck r]
  | _, _ => []

/-- The ledger of a run. -/
def ledger (s : Session σ δ ε) : List (Beat σ ε) → List Mark
  | [] => []
  | beat :: rest => marks beat (next s beat) ++ ledger (next s beat).session rest

/-- The number that a caller is answered. -/
def told (out : Outcome σ δ ε κ) : List EndpointId :=
  match out.signal with
  | .answered (.registered id) => [id]
  | _ => []

/-- The numbers that callers are answered in a run. -/
def answered (s : Session σ δ ε) : List (Beat σ ε) → List EndpointId
  | [] => []
  | beat :: rest => told (next s beat) ++ answered (next s beat).session rest

theorem after_concat (s : Session σ δ ε) (beats : List (Beat σ ε)) (beat : Beat σ ε) :
    after s (beats ++ [beat]) = (next (after s beats) beat).session :=
  List.foldl_append

theorem ledger_concat (s : Session σ δ ε) (beats : List (Beat σ ε)) (beat : Beat σ ε) :
    ledger s (beats ++ [beat]) =
      ledger s beats ++ marks beat (next (after s beats) beat) := by
  induction beats generalizing s with
  | nil => simp [ledger, after]
  | cons first rest ih =>
      rw [List.cons_append, ledger, ih, ledger, List.append_assoc]
      rfl

theorem answered_concat (s : Session σ δ ε) (beats : List (Beat σ ε)) (beat : Beat σ ε) :
    answered s (beats ++ [beat]) = answered s beats ++ told (next (after s beats) beat) := by
  induction beats generalizing s with
  | nil => simp [answered, after]
  | cons first rest ih =>
      rw [List.cons_append, answered, ih, answered, List.append_assoc]
      rfl

end Runs

/-! ## The ledger -/

section Ledgers

variable {ledger : List Mark} {r : Registration} {origin : Origin} {id : EndpointId}

theorem numbers_enrolled (ledger : List Mark) (r : Registration) :
    numbers (ledger ++ [.enrolled r]) = numbers ledger ++ [r.id] :=
  List.filterMap_append

theorem numbers_struck (ledger : List Mark) (r : Registration) :
    numbers (ledger ++ [.struck r]) = numbers ledger := by
  simp [numbers]

theorem live_enrolled (ledger : List Mark) (r : Registration) (origin : Origin) :
    live (ledger ++ [.enrolled r]) origin =
      live ledger origin ++ if origin = r.origin then [r.id] else [] := by
  induction ledger with
  | nil => simp [live, eq_comm]
  | cons mark rest ih =>
      cases mark with
      | enrolled other => simp [live, ih]
      | struck other => exact ih

theorem live_struck (ledger : List Mark) (r : Registration) (origin : Origin) :
    live (ledger ++ [.struck r]) origin =
      if origin = r.origin then (live ledger origin).filter (· ≠ r.id)
      else live ledger origin := by
  induction ledger with
  | nil => simp [live]
  | cons mark rest ih =>
      cases mark with
      | struck other => exact ih
      | enrolled other =>
          obtain ⟨o, id⟩ := other
          obtain ⟨o', id'⟩ := r
          simp only [List.cons_append, live, ih, List.mem_append, List.mem_singleton,
            Mark.struck.injEq, Registration.mk.injEq]
          by_cases horigin : origin = o'
          · by_cases hid : id = id' <;> by_cases ho : o = origin <;>
              by_cases hstruck : Mark.struck ⟨o, id⟩ ∈ rest <;> simp_all
          · by_cases ho : o = origin <;> simp_all

/-- Who is live has been handed out. -/
theorem mem_numbers_of_live (h : id ∈ live ledger origin) : id ∈ numbers ledger := by
  induction ledger with
  | nil => cases h
  | cons mark rest ih =>
      cases mark with
      | struck other => exact ih h
      | enrolled other =>
          show id ∈ other.id :: numbers rest
          rcases List.mem_append.mp h with hfirst | hrest
          · split at hfirst
            next => simp_all
            next => cases hfirst
          · exact List.mem_cons_of_mem _ (ih hrest)

theorem mem_numbers_of_enrolled (h : .enrolled r ∈ ledger) : r.id ∈ numbers ledger :=
  List.mem_filterMap.mpr ⟨_, h, rfl⟩

/-- A number that is handed out once is nobody's under another origin. -/
theorem not_live_elsewhere (hnodup : (numbers ledger).Nodup) (h : .enrolled r ∈ ledger)
    (horigin : origin ≠ r.origin) : r.id ∉ live ledger origin := by
  induction ledger with
  | nil => cases h
  | cons mark rest ih =>
      cases mark with
      | struck other => exact ih hnodup (by simpa using h)
      | enrolled other =>
          obtain ⟨hfresh, hrest⟩ := List.nodup_cons.mp
            (show (other.id :: numbers rest).Nodup from hnodup)
          intro hlive
          rcases List.mem_append.mp hlive with hfirst | hlive
          · split at hfirst
            next hother =>
              have hid : r.id = other.id := by simpa using hfirst
              rcases List.mem_cons.mp h with heq | hmem
              · cases heq
                exact horigin hother.1.symm
              · exact hfresh (hid ▸ mem_numbers_of_enrolled hmem)
            next => cases hfirst
          · rcases List.mem_cons.mp h with heq | hmem
            · exact hfresh (Mark.enrolled.inj heq ▸ mem_numbers_of_live hlive)
            · exact ih hrest hmem hlive

/-- A registration that was taken back does not come to life again. -/
theorem not_live_of_struck {before rest : List Mark}
    (hnodup : (numbers (before ++ .struck r :: rest)).Nodup) (h : .enrolled r ∈ before) :
    r.id ∉ live (before ++ .struck r :: rest) r.origin := by
  induction before with
  | nil => cases h
  | cons mark before ih =>
      cases mark with
      | struck other => exact ih hnodup (by simpa using h)
      | enrolled other =>
          obtain ⟨hfresh, hrest⟩ := List.nodup_cons.mp
            (show (other.id :: numbers (before ++ .struck r :: rest)).Nodup from hnodup)
          intro hlive
          rcases List.mem_append.mp hlive with hfirst | hlive
          · split at hfirst
            next hother =>
              have hid : r.id = other.id := by simpa using hfirst
              rcases List.mem_cons.mp h with heq | hmem
              · cases heq
                exact hother.2 (by simp)
              · refine hfresh (hid ▸ mem_numbers_of_enrolled ?_)
                exact List.mem_append_left _ hmem
            next => cases hfirst
          · rcases List.mem_cons.mp h with heq | hmem
            · exact hfresh (Mark.enrolled.inj heq ▸ mem_numbers_of_live hlive)
            · exact ih hrest hmem hlive

end Ledgers

/-! ## One beat -/

/-- Scheduling fan-outs leaves the registry alone. -/
theorem foldl_scheduleFanOut_registry {σ ε κ : Type} [TimerService σ (Errand κ)]
    (d : Dispatcher ε) (timers : σ) (origins : List Origin) :
    (origins.foldl Dispatcher.scheduleFanOut (d, timers)).1.records = d.records ∧
      (origins.foldl Dispatcher.scheduleFanOut (d, timers)).1.nextEndpoint = d.nextEndpoint := by
  induction origins generalizing d timers with
  | nil => exact ⟨rfl, rfl⟩
  | cons o rest ih =>
      rw [List.foldl_cons]
      obtain ⟨hrecords, hnext⟩ := ih (Dispatcher.scheduleFanOut (d, timers) o).1
        (Dispatcher.scheduleFanOut (d, timers) o).2
      have hstep : (Dispatcher.scheduleFanOut (d, timers) o).1.records = d.records ∧
          (Dispatcher.scheduleFanOut (d, timers) o).1.nextEndpoint = d.nextEndpoint := by
        unfold Dispatcher.scheduleFanOut
        dsimp only
        split <;> exact ⟨rfl, rfl⟩
      exact ⟨hrecords.trans hstep.1, hnext.trans hstep.2⟩

section Beats

variable {σ δ ε κ : Type}

/-- The registry is as it was, unless the dispatcher goes away. -/
structure Stays (s s' : Session σ δ ε) : Prop where
  nextEndpoint : s'.dispatcher.nextEndpoint = s.dispatcher.nextEndpoint
  records : (s'.dispatcher.records = s.dispatcher.records ∧
      (s'.standing = .closed ↔ s.standing = .closed)) ∨
    (s'.dispatcher.records = [] ∧ s'.standing = .closed)

theorem Stays.of_eq {s s' : Session σ δ ε}
    (hnext : s'.dispatcher.nextEndpoint = s.dispatcher.nextEndpoint)
    (hrecords : s'.dispatcher.records = s.dispatcher.records)
    (hstanding : s'.standing = s.standing) : Stays s s' :=
  ⟨hnext, .inl ⟨hrecords, by rw [hstanding]⟩⟩

variable [Timeline σ δ (Errand κ)]

/-- What a beat does to the registry, to the numbers in hand and to the ledger. -/
inductive Turns (s : Session σ δ ε) (beat : Beat σ ε) (out : Outcome σ δ ε κ) : Prop
  /-- A registration is handed out. -/
  | enroll (origin : Origin) (endpoint : ε) (held : s.standing = .owned)
      (session : out.session = { s with
        dispatcher := (s.dispatcher.add origin endpoint).2.1
        frames := .installing s.dispatcher.nextEndpoint :: s.frames })
      (entered : marks beat out = [.enrolled ⟨origin, s.dispatcher.nextEndpoint⟩])
      (silent : told out = [])
  /-- A registration is taken back. -/
  | strike (r : Registration)
      (session : out.session = { s with dispatcher := (s.dispatcher.remove r).1 })
      (entered : marks beat out = [.struck r]) (silent : told out = [])
  /-- Neither. -/
  | stay (stays : Stays s out.session) (entered : marks beat out = [])
      (hands : told out ++ inHand out.session.frames = inHand s.frames)

/-- Nothing happens to the registry, and a number leaves a hand only as an answer. -/
structure Quiet (s : Session σ δ ε) (out : Outcome σ δ ε κ) : Prop where
  stays : Stays s out.session
  hands : told out ++ inHand out.session.frames = inHand s.frames

variable {s u : Session σ δ ε}

/-- Answering a caller changes nothing but that an orphaned dispatcher may go away. -/
theorem quiet_answer (hstays : Stays s u) (notes : List Note) (answer : Answer)
    (hhands : told ({ session := u, signal := .answered answer } : Outcome σ δ ε κ) ++
      inHand u.frames = inHand s.frames) :
    Quiet s (u.answer notes answer : Outcome σ δ ε κ) := by
  unfold Session.answer
  split
  next =>
    exact ⟨⟨hstays.nextEndpoint, .inr ⟨rfl, rfl⟩⟩, hhands⟩
  next => exact ⟨hstays, hhands⟩

theorem quiet_fan (hstays : Stays s u) (hframes : inHand u.frames = inHand s.frames)
    (notes : List Note) (entrance : Entrance) (origin : Origin) (ids : List EndpointId) :
    Quiet s (u.fan notes entrance origin ids : Outcome σ δ ε κ) := by
  unfold Session.fan
  split
  next => exact ⟨⟨hstays.nextEndpoint, hstays.records⟩, hframes⟩
  next =>
    cases entrance with
    | request => exact quiet_answer hstays notes .done hframes
    | task ticket => exact ⟨hstays, hframes⟩

theorem quiet_fanOut (hstays : Stays s u) (hframes : inHand u.frames = inHand s.frames)
    (notes : List Note) (entrance : Entrance) (origin : Origin) :
    Quiet s (u.fanOut notes entrance origin : Outcome σ δ ε κ) := by
  have hkept := u.dispatcher.startFanOut_kept origin entrance.ticket?
  unfold Session.fanOut
  dsimp only
  refine quiet_fan ⟨?_, ?_⟩ ?_ _ _ _ _
  · exact hkept.nextEndpoint.trans hstays.nextEndpoint
  · dsimp only
    rw [hkept.records]
    exact hstays.records
  · exact hframes

theorem quiet_proceed (s : Session σ δ ε) : Quiet s (s.proceed : Outcome σ δ ε κ) := by
  unfold Session.proceed
  split
  next drive rest hframes =>
    have hhands : inHand rest = inHand s.frames := by
      rw [hframes]
      rfl
    split
    next task events timers drive' hturn =>
      cases task with
      | fanOut origin ticket =>
          refine quiet_fanOut ?_ ?_ _ _ _
          · exact .of_eq rfl rfl rfl
          · exact hhands
      | posted work => exact ⟨.of_eq rfl rfl rfl, hhands⟩
    next => exact ⟨.of_eq rfl rfl rfl, hhands⟩
  next => exact ⟨.of_eq rfl rfl rfl, rfl⟩

theorem quiet_resume (s : Session σ δ ε) : Quiet s (s.resume : Outcome σ δ ε κ) := by
  unfold Session.resume
  split
  next entrance origin last ids rest hframes =>
    refine quiet_fan ?_ ?_ _ _ _ _
    · exact .of_eq rfl rfl rfl
    · rw [hframes]
      rfl
  next id rest hframes =>
    -- the number passes from the hand to the answer
    refine quiet_answer ?_ _ _ ?_
    · exact .of_eq rfl rfl rfl
    · rw [hframes]
      rfl
  next rest hframes =>
    refine ⟨.of_eq rfl rfl rfl, ?_⟩
    rw [hframes]
    rfl
  next => exact ⟨.of_eq rfl rfl rfl, rfl⟩

theorem quiet_broadcast (s : Session σ δ ε) (visit : List Origin → List Origin) :
    Quiet s (s.broadcast visit : Outcome σ δ ε κ) := by
  have hkept := s.dispatcher.resolveInterval_kept
  unfold Session.broadcast Dispatcher.broadcast
  dsimp only
  split
  next =>
    refine quiet_answer ?_ _ _ ?_
    · exact .of_eq hkept.nextEndpoint hkept.records rfl
    · rfl
  next now hclock =>
    split
    next =>
      refine quiet_answer ?_ _ _ ?_
      · exact .of_eq hkept.nextEndpoint hkept.records rfl
      · rfl
    next =>
      obtain ⟨hrecords, hnext⟩ := foldl_scheduleFanOut_registry
        { s.dispatcher.resolveInterval.2.1 with
          lastDispatch := some now
          stats := { s.dispatcher.resolveInterval.2.1.stats with
            dispatches := s.dispatcher.resolveInterval.2.1.stats.dispatches + 1 } }
        s.timers (visit (s.dispatcher.resolveInterval.2.1.records.map Prod.fst))
      refine quiet_answer ?_ _ _ ?_
      · exact .of_eq (hnext.trans hkept.nextEndpoint) (hrecords.trans hkept.records) rfl
      · rfl

theorem quiet_resolve (s : Session σ δ ε) : Quiet s (s.resolve : Outcome σ δ ε κ) := by
  have hkept := s.dispatcher.resolveInterval_kept
  unfold Session.resolve
  refine quiet_answer ?_ _ _ ?_
  · exact .of_eq hkept.nextEndpoint hkept.records rfl
  · rfl

theorem quiet_letGo (s : Session σ δ ε) : Quiet s (s.letGo : Outcome σ δ ε κ) := by
  unfold Session.letGo
  split
  next => exact ⟨.of_eq rfl rfl rfl, rfl⟩
  next howned =>
    split
    next =>
      have hheld : s.standing = .owned := not_not.mp howned
      exact ⟨⟨rfl, .inl ⟨rfl, by simp [hheld]⟩⟩, rfl⟩
    next => exact ⟨⟨rfl, .inr ⟨rfl, rfl⟩⟩, rfl⟩

theorem quiet_travel (s : Session σ δ ε) (t : Travel) :
    Quiet s (s.travel t : Outcome σ δ ε κ) := by
  unfold Session.travel
  split <;> exact ⟨.of_eq rfl rfl rfl, rfl⟩

omit [Timeline σ δ (Errand κ)] in
theorem turns_of_quiet {beat : Beat σ ε} {out : Outcome σ δ ε κ} (h : Quiet s out)
    (hentered : marks beat out = []) : Turns s beat out :=
  .stay h.stays hentered h.hands

/-- An operation that the owner calls answers without the dispatcher going away. -/
theorem turns_remove (visit : List Origin → List Origin) (r : Registration)
    (howned : s.standing = .owned) :
    Turns s (.move visit (.remove r)) (s.remove r : Outcome σ δ ε κ) := by
  unfold Session.remove Session.answer
  dsimp only
  rw [if_neg (by simp [howned])]
  exact .strike r rfl rfl rfl

theorem turns_next (s : Session σ δ ε) (beat : Beat σ ε) :
    Turns s beat (next s beat : Outcome σ δ ε κ) := by
  cases beat with
  | others timers => exact turns_of_quiet ⟨.of_eq rfl rfl rfl, rfl⟩ rfl
  | move visit m =>
      unfold next Session.perform
      dsimp only
      split
      next hgone =>
        refine turns_of_quiet ⟨.of_eq rfl rfl rfl, rfl⟩ ?_
        cases m <;> rfl
      next hheld =>
        have howned : Session.Move.needsDispatcher m → s.standing = .owned := fun hneeds =>
          Decidable.byContradiction fun hnot => hheld ⟨hneeds, hnot⟩
        cases m with
        | add origin endpoint => exact .enroll origin endpoint (howned rfl) rfl rfl rfl
        | broadcast => exact turns_of_quiet (quiet_broadcast s visit) rfl
        | dispatch origin => exact turns_of_quiet (quiet_fanOut (.of_eq rfl rfl rfl) rfl _ _ _) rfl
        | remove r => exact turns_remove visit r (howned rfl)
        | resolve => exact turns_of_quiet (quiet_resolve s) rfl
        | disconnect r => exact .strike r rfl rfl rfl
        | letGo => exact turns_of_quiet (quiet_letGo s) rfl
        | travel t => exact turns_of_quiet (quiet_travel s t) rfl
        | resume => exact turns_of_quiet (quiet_resume s) rfl
        | proceed => exact turns_of_quiet (quiet_proceed s) rfl

end Beats

/-! ## The registry and the ledger -/

section Keeping

variable {σ δ ε κ : Type} {s : Session σ δ ε} {entries : List Mark} {given : List EndpointId}

/-- The registry shows who is live by the ledger. The numbers that callers were answered and
those still in hand are the numbers handed out, which ascend. -/
structure Shown (entries : List Mark) (given : List EndpointId) (s : Session σ δ ε) : Prop where
  sound : s.dispatcher.Sound
  registered : ∀ origin, s.dispatcher.registered origin =
    if s.standing = .closed then [] else live entries origin
  ascending : (numbers entries).Pairwise (· < ·)
  below : ∀ id ∈ numbers entries, id < s.dispatcher.nextEndpoint
  accounted : (given ++ inHand s.frames).Perm (numbers entries)

theorem shown_fresh (timers : σ) (intervals : IntervalSource) (delays : DelaySource) :
    Shown [] [] ({ timers, dispatcher := { intervals, delays } } : Session σ δ ε) where
  sound := Dispatcher.sound_of_no_records rfl
  registered _ := rfl
  ascending := .nil
  below _ h := nomatch h
  accounted := .nil

theorem Shown.nodup (h : Shown entries given s) : (numbers entries).Nodup :=
  h.ascending.imp Nat.ne_of_lt

theorem Shown.stay (h : Shown entries given s) {s' : Session σ δ ε} {said : List EndpointId}
    (hstays : Stays s s') (hands : said ++ inHand s'.frames = inHand s.frames) :
    Shown entries (given ++ said) s' where
  sound := by
    rcases hstays.records with ⟨hrecords, -⟩ | ⟨hnone, -⟩
    · exact h.sound.congr hrecords hstays.nextEndpoint
    · exact Dispatcher.sound_of_no_records hnone
  registered origin := by
    rcases hstays.records with ⟨hrecords, hstanding⟩ | ⟨hnone, hclosed⟩
    · rw [Dispatcher.registered_congr hrecords, h.registered]
      simp only [hstanding]
    · rw [if_pos hclosed]
      exact Dispatcher.registered_of_none (by simp [Dispatcher.record?, hnone])
  ascending := h.ascending
  below := hstays.nextEndpoint ▸ h.below
  accounted := by
    rw [List.append_assoc, hands]
    exact h.accounted

theorem Shown.enroll (h : Shown entries given s) (origin : Origin) (endpoint : ε)
    (hheld : s.standing = .owned) :
    Shown (entries ++ [.enrolled ⟨origin, s.dispatcher.nextEndpoint⟩]) given
      { s with
        dispatcher := (s.dispatcher.add origin endpoint).2.1
        frames := .installing s.dispatcher.nextEndpoint :: s.frames } where
  sound := h.sound.add origin endpoint
  registered o := by
    have hopen : s.standing ≠ .closed := by simp [hheld]
    rw [Dispatcher.registered_add, h.registered, live_enrolled, if_neg hopen, if_neg hopen]
  ascending := by
    rw [numbers_enrolled]
    refine List.pairwise_append.mpr ⟨h.ascending, List.pairwise_singleton _ _, ?_⟩
    intro x hx y hy
    rw [List.mem_singleton.mp hy]
    exact h.below x hx
  below id hid := by
    rw [(s.dispatcher.add_counters origin endpoint).1]
    rw [numbers_enrolled] at hid
    rcases List.mem_append.mp hid with hold | hnew
    · exact Nat.lt_succ_of_lt (h.below id hold)
    · exact List.mem_singleton.mp hnew ▸ Nat.lt_succ_self _
  accounted := by
    rw [numbers_enrolled]
    refine List.perm_middle.trans ?_
    exact (h.accounted.cons _).trans (List.perm_append_singleton _ _).symm

theorem Shown.strike (h : Shown entries given s) (r : Registration) :
    Shown (entries ++ [.struck r]) given
      { s with dispatcher := (s.dispatcher.remove r).1 } where
  sound := h.sound.remove r
  registered o := by
    rw [h.sound.registered_remove, h.registered, live_struck]
    split <;> split <;> rfl
  ascending := numbers_struck entries r ▸ h.ascending
  below := by
    rw [numbers_struck, (s.dispatcher.remove_counters r).1]
    exact h.below
  accounted := numbers_struck entries r ▸ h.accounted

variable [Timeline σ δ (Errand κ)]

/-- What the registry shows, it shows after the next beat. -/
theorem Shown.next (h : Shown entries given s) (beat : Beat σ ε) :
    Shown (entries ++ marks beat (next s beat)) (given ++ told (next s beat))
      (next s beat).session := by
  cases turns_next s beat with
  | enroll origin endpoint held session entered silent =>
      rw [session, entered, silent, List.append_nil]
      exact h.enroll origin endpoint held
  | strike r session entered silent =>
      rw [session, entered, silent, List.append_nil]
      exact h.strike r
  | stay stays entered hands =>
      rw [entered, List.append_nil]
      exact h.stay stays hands

theorem shown_after (timers : σ) (intervals : IntervalSource) (delays : DelaySource)
    (beats : List (Beat σ ε)) :
    let start : Session σ δ ε := { timers, dispatcher := { intervals, delays } }
    Shown (ledger start beats) (answered start beats) (after start beats) := by
  intro start
  induction beats using List.reverseRecOn with
  | nil => exact shown_fresh timers intervals delays
  | append_singleton beats beat ih =>
      rw [ledger_concat, answered_concat, after_concat]
      exact ih.next beat

end Keeping

/-! ## Delays of records -/

section Delays

variable {σ δ ε κ : Type} [Timeline σ δ (Errand κ)] {s : Session σ δ ε}

/-- A record that is there before a beat and after it has the same delay. -/
theorem randomDelay_next (hsound : s.dispatcher.Sound) (beat : Beat σ ε) {origin : Origin}
    (hbefore : s.dispatcher.record? origin ≠ none)
    (hafter : (next s beat).session.dispatcher.record? origin ≠ none) :
    (next s beat).session.dispatcher.randomDelay origin = s.dispatcher.randomDelay origin := by
  obtain ⟨before, hbefore⟩ := Option.ne_none_iff_exists'.mp hbefore
  cases turns_next s beat with
  | enroll o endpoint held session entered silent =>
      obtain ⟨delay, hadd⟩ := s.dispatcher.record?_add o endpoint
      unfold Dispatcher.randomDelay
      rw [session]
      dsimp only
      rw [hadd origin, hbefore]
      split
      next ho =>
        subst ho
        rw [hbefore]
        rfl
      next => rfl
  | strike r session entered silent =>
      rw [session] at hafter ⊢
      obtain ⟨record, hrecord⟩ := Option.ne_none_iff_exists'.mp hafter
      obtain ⟨_, found, hfound, hdelay⟩ := hsound.record?_of_remove hrecord
      unfold Dispatcher.randomDelay
      rw [hrecord, hfound, Option.map_some, Option.map_some, hdelay]
  | stay stays entered hands =>
      rcases stays.records with ⟨hrecords, -⟩ | ⟨hnone, -⟩
      · unfold Dispatcher.randomDelay
        rw [Dispatcher.record?_congr hrecords]
      · exact absurd (by simp [Dispatcher.record?, hnone]) hafter

/-- As long as an origin has a record, the delay of the record stays the same. -/
theorem randomDelay_after {entries : List Mark} {given : List EndpointId}
    (h : Shown entries given s) (beats : List (Beat σ ε)) {origin : Origin}
    (hrecord : ∀ before, before <+: beats →
      (after s before).dispatcher.record? origin ≠ none) :
    (after s beats).dispatcher.randomDelay origin = s.dispatcher.randomDelay origin := by
  induction beats generalizing s entries given with
  | nil => rfl
  | cons beat rest ih =>
      have hfirst := hrecord [] List.nil_prefix
      have hsecond := hrecord [beat] ⟨rest, rfl⟩
      have hrest := ih (h.next beat) fun before hprefix =>
        hrecord (beat :: before) (List.cons_prefix_cons.mpr ⟨rfl, hprefix⟩)
      exact hrest.trans (randomDelay_next h.sound beat hfirst hsecond)

/-- A handler whose registration is gone changes nothing. -/
theorem disconnect_of_remove_eq {r : Registration} (h : (s.dispatcher.remove r).1 = s.dispatcher)
    (visit : List Origin → List Origin) : (s.perform visit (.disconnect r)).session = s := by
  show { s with dispatcher := (s.dispatcher.remove r).1 } = s
  rw [h]

/-- Nor does the operation. -/
theorem remove_of_remove_eq {r : Registration} (h : (s.dispatcher.remove r).1 = s.dispatcher)
    (visit : List Origin → List Origin) : (s.perform visit (.remove r)).session = s := by
  unfold Session.perform
  split
  next => rfl
  next hheld =>
    have howned : s.standing = .owned :=
      Decidable.byContradiction fun hnot => hheld ⟨rfl, hnot⟩
    show (s.remove r).session = s
    unfold Session.remove Session.answer
    dsimp only
    rw [if_neg (by simp [howned]), h]

/-- An origin has a record exactly if it has a live registration, and as many listeners as it
has live registrations. Numbers ascend, callers are answered them once, and each belongs to
one origin. Taking back a registration that is not live changes nothing, one that was taken
back is not live again, and a record keeps its delay. -/
theorem registry_follows_ledger (timers : σ) (intervals : IntervalSource) (delays : DelaySource)
    (beats : List (Beat σ ε)) :
    let start : Session σ δ ε := { timers, dispatcher := { intervals, delays } }
    let s := after start beats
    let entries := ledger start beats
    (∀ origin, (s.dispatcher.record? origin ≠ none ↔
        s.standing ≠ .closed ∧ live entries origin ≠ []) ∧
      s.dispatcher.listenerCount origin =
        if s.standing = .closed then 0 else (live entries origin).length) ∧
    (numbers entries).Pairwise (· < ·) ∧
    (answered start beats ++ inHand s.frames).Perm (numbers entries) ∧
    (∀ origin other id, id ∈ s.dispatcher.registered origin →
      id ∈ s.dispatcher.registered other → origin = other) ∧
    (∀ r, r.id ∉ live entries r.origin → ∀ visit,
      (s.perform visit (.disconnect r)).session = s ∧
        (s.perform visit (.remove r)).session = s) ∧
    (∀ r before rest, entries = before ++ .struck r :: rest → .enrolled r ∈ before →
      r.id ∉ live entries r.origin) ∧
    (∀ r, .enrolled r ∈ entries → ∀ origin, origin ≠ r.origin → r.id ∉ live entries origin) ∧
    ∀ earlier later origin, beats = earlier ++ later →
      (∀ part, part <+: later →
        (after start (earlier ++ part)).dispatcher.record? origin ≠ none) →
      s.dispatcher.randomDelay origin =
        (after start earlier).dispatcher.randomDelay origin := by
  intro start s entries
  have h : Shown entries (answered start beats) s := shown_after timers intervals delays beats
  have hgone : ∀ r : Registration, r.id ∉ live entries r.origin →
      r.id ∉ s.dispatcher.registered r.origin := by
    intro r hdead
    rw [h.registered]
    split
    next => exact List.not_mem_nil
    next => exact hdead
  refine ⟨fun origin => ⟨?_, ?_⟩, h.ascending, h.accounted, h.sound.home, ?_, ?_, ?_, ?_⟩
  · rw [h.sound.record?_ne_none_iff, h.registered]
    split <;> simp_all
  · rw [Dispatcher.listenerCount_eq, h.registered]
    split <;> rfl
  · intro r hdead visit
    have hsame := Dispatcher.remove_of_not_mem (hgone r hdead)
    exact ⟨disconnect_of_remove_eq hsame visit, remove_of_remove_eq hsame visit⟩
  · rintro r before rest heq hbefore
    rw [heq]
    exact not_live_of_struck (heq ▸ h.nodup) hbefore
  · exact fun r henrolled origin horigin => not_live_elsewhere h.nodup henrolled horigin
  · rintro earlier later origin rfl hrecord
    have hearlier : Shown (ledger start earlier) (answered start earlier) (after start earlier) :=
      shown_after timers intervals delays earlier
    have happend : ∀ part, after start (earlier ++ part) = after (after start earlier) part :=
      fun part => List.foldl_append
    show (after start (earlier ++ later)).dispatcher.randomDelay origin = _
    rw [happend]
    refine randomDelay_after hearlier later fun part hpart => ?_
    rw [← happend]
    exact hrecord part hpart

end Delays

end Cadence.Broadcast.Roll

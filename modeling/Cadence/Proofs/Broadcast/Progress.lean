import Cadence.Broadcast.Session
import Cadence.Proofs.Broadcast.Registry

/-! # Fan-outs on the stack

On any timeline a fan-out stays at its place on the stack until it is over, and goes on
only when it is on top. It then turns to the listeners it has left, one after the other,
until one is still registered, and notifies this one.
-/

namespace Cadence.Broadcast

/-- A notification: above how many frames it is made, and which listener it reaches under
which number. -/
structure Reach (ε : Type) where
  height : Nat
  id : EndpointId
  endpoint : ε

section Frames

variable {δ : Type} {frames rest : List (Frame δ)} {depth : Nat} {origin : Origin}
  {ids : List EndpointId}

/-- A fan-out of an origin lies right above some number of frames and has these listeners
left. -/
def Faces (frames : List (Frame δ)) (depth : Nat) (origin : Origin) (ids : List EndpointId) :
    Prop :=
  ∃ entrance current below,
    (.fanning entrance origin current ids :: below) <:+ frames ∧ below.length = depth

theorem faces_cons {frame : Frame δ} :
    Faces (frame :: rest) depth origin ids ↔
      (∃ entrance current, frame = .fanning entrance origin current ids ∧ rest.length = depth) ∨
      Faces rest depth origin ids := by
  constructor
  · rintro ⟨entrance, current, below, hsuffix, hdepth⟩
    rcases List.suffix_cons_iff.mp hsuffix with heq | hsuffix
    · cases heq
      exact .inl ⟨entrance, current, rfl, hdepth⟩
    · exact .inr ⟨entrance, current, below, hsuffix, hdepth⟩
  · rintro (⟨entrance, current, rfl, hdepth⟩ | ⟨entrance, current, below, hsuffix, hdepth⟩)
    · exact ⟨entrance, current, rest, List.suffix_refl _, hdepth⟩
    · exact ⟨entrance, current, below, List.suffix_cons_iff.mpr (.inr hsuffix), hdepth⟩

theorem Faces.cons (h : Faces rest depth origin ids) (frame : Frame δ) :
    Faces (frame :: rest) depth origin ids :=
  faces_cons.mpr (.inr h)

theorem Faces.lt_length (h : Faces frames depth origin ids) : depth < frames.length := by
  obtain ⟨_, _, _, hsuffix, rfl⟩ := h
  exact hsuffix.length_le

end Frames

section Outcomes

variable {σ δ ε κ : Type}

/-- The notification that a move led to, if it led to one. -/
def Outcome.reached? (out : Outcome σ δ ε κ) : Option (Reach ε) :=
  match out.signal, out.session.frames with
  | .called (.notify endpoint), .fanning _ _ id _ :: below => some ⟨below.length, id, endpoint⟩
  | _, _ => none

end Outcomes

/-- What happens to a fan-out right above some number of frames when the dispatcher is found
as it is here: it is over, for nobody that it has left is registered, or it stays as it is, or
it goes on to the next that is. -/
inductive Progress {δ ε : Type} (d : Dispatcher ε) (depth : Nat) (origin : Origin)
    (ids : List EndpointId) (frames : List (Frame δ)) : Option (Reach ε) → Prop
  | ends (short : frames.length ≤ depth) (through : ∀ id ∈ ids, id ∉ d.registered origin) :
      Progress d depth origin ids frames none
  | stays (reached : Option (Reach ε)) (faces : Faces frames depth origin ids)
      (higher : ∀ r ∈ reached, depth < r.height) : Progress d depth origin ids frames reached
  | goes (id : EndpointId) (endpoint : ε) (passed later : List EndpointId)
      (split : ids = passed ++ id :: later) (gone : ∀ x ∈ passed, x ∉ d.registered origin)
      (here : d.listener? origin id = some endpoint) (faces : Faces frames depth origin later) :
      Progress d depth origin ids frames (some ⟨depth, id, endpoint⟩)

theorem Progress.congr {δ ε : Type} {d d' : Dispatcher ε} {depth : Nat} {origin : Origin}
    {ids : List EndpointId} {frames : List (Frame δ)} {reached : Option (Reach ε)}
    (h : Progress d depth origin ids frames reached) (hrecords : d'.records = d.records) :
    Progress d' depth origin ids frames reached := by
  cases h with
  | ends short through =>
      exact .ends short (Dispatcher.registered_congr hrecords origin ▸ through)
  | stays _ faces higher => exact .stays _ faces higher
  | goes id endpoint passed later split gone here faces =>
      refine .goes id endpoint passed later split ?_ ?_ faces
      · exact Dispatcher.registered_congr hrecords origin ▸ gone
      · exact (Dispatcher.listener?_congr hrecords origin id).trans here

theorem stays_of_quiet {σ δ ε κ : Type} {d : Dispatcher ε} {depth : Nat} {origin : Origin}
    {ids : List EndpointId} {out : Outcome σ δ ε κ} (hquiet : out.reached? = none)
    (hfaces : Faces out.session.frames depth origin ids) :
    Progress d depth origin ids out.session.frames out.reached? :=
  .stays _ hfaces (hquiet ▸ nofun)

namespace Session

variable {σ δ ε κ : Type} [Timeline σ δ (Errand κ)] {s u : Session σ δ ε} {d : Dispatcher ε}
  {depth : Nat} {origin : Origin} {ids : List EndpointId}

/-! ## A fan-out that takes its turn -/

theorem frames_answer (u : Session σ δ ε) (notes : List Note) (answer : Answer) :
    (u.answer notes answer : Outcome σ δ ε κ).session.frames = u.frames := by
  unfold Session.answer
  split <;> rfl

theorem reached?_answer (u : Session σ δ ε) (notes : List Note) (answer : Answer) :
    (u.answer notes answer : Outcome σ δ ε κ).reached? = none := by
  unfold Session.answer
  split <;> rfl

/-- A fan-out goes on to the first of these listeners that is still registered. -/
theorem progress_fan (u : Session σ δ ε) (notes : List Note) (entrance : Entrance)
    (origin : Origin) (ids : List EndpointId) :
    Progress u.dispatcher u.frames.length origin ids
      (u.fan notes entrance origin ids : Outcome σ δ ε κ).session.frames
      (u.fan notes entrance origin ids : Outcome σ δ ε κ).reached? := by
  unfold fan
  split
  next id endpoint later hnext =>
    obtain ⟨passed, hsplit, hgone, _⟩ := Dispatcher.nextListener_eq_some hnext
    refine .goes id endpoint passed later hsplit hgone (Dispatcher.nextListener_listener? hnext) ?_
    exact faces_cons.mpr (.inl ⟨entrance, id, rfl, rfl⟩)
  next hnext =>
    have hthrough := Dispatcher.nextListener_eq_none hnext
    cases entrance with
    | task ticket => exact .ends (Nat.le_refl _) hthrough
    | request =>
        dsimp only
        rw [frames_answer, reached?_answer]
        exact .ends (Nat.le_refl _) hthrough

theorem fanOut_eq (u : Session σ δ ε) (notes : List Note) (entrance : Entrance)
    (origin : Origin) :
    ∃ logged, (u.fanOut notes entrance origin : Outcome σ δ ε κ) =
      { u with dispatcher := (u.dispatcher.startFanOut origin entrance.ticket?).2.1 }.fan logged
        entrance origin (u.dispatcher.registered origin) := by
  unfold fanOut
  dsimp only
  rw [u.dispatcher.startFanOut_ids origin entrance.ticket?]
  exact ⟨_, rfl⟩

/-- A fan-out that begins has all listeners of its origin before it. -/
theorem progress_fanOut (u : Session σ δ ε) (notes : List Note) (entrance : Entrance)
    (origin : Origin) :
    Progress u.dispatcher u.frames.length origin (u.dispatcher.registered origin)
      (u.fanOut notes entrance origin : Outcome σ δ ε κ).session.frames
      (u.fanOut notes entrance origin : Outcome σ δ ε κ).reached? := by
  have hkept := u.dispatcher.startFanOut_kept origin entrance.ticket?
  obtain ⟨logged, hfan⟩ := u.fanOut_eq (κ := κ) notes entrance origin
  rw [hfan]
  refine Progress.congr ?_ hkept.records.symm
  exact progress_fan
    { u with dispatcher := (u.dispatcher.startFanOut origin entrance.ticket?).2.1 } logged entrance
    origin _

theorem perform_dispatch (howned : s.standing = .owned) (visit : List Origin → List Origin)
    (origin : Origin) :
    (s.perform visit (.dispatch origin) : Outcome σ δ ε κ) = s.fanOut [] .request origin := by
  unfold perform
  rw [if_neg fun hrefused => hrefused.2 howned]

/-! ## A fan-out that is covered -/

theorem stays_answer (hfaces : Faces u.frames depth origin ids) (notes : List Note)
    (answer : Answer) :
    Progress d depth origin ids (u.answer notes answer : Outcome σ δ ε κ).session.frames
      (u.answer notes answer : Outcome σ δ ε κ).reached? :=
  stays_of_quiet (reached?_answer u notes answer)
    ((frames_answer (κ := κ) u notes answer).symm ▸ hfaces)

/-- Another fan-out takes its turn further up. -/
theorem stays_fan (hfaces : Faces u.frames depth origin ids) (notes : List Note)
    (entrance : Entrance) (other : Origin) (left : List EndpointId) :
    Progress d depth origin ids
      (u.fan notes entrance other left : Outcome σ δ ε κ).session.frames
      (u.fan notes entrance other left : Outcome σ δ ε κ).reached? := by
  unfold fan
  split
  next id endpoint later _ =>
    refine .stays _ (hfaces.cons _) fun r hr => ?_
    cases hr
    exact hfaces.lt_length
  next =>
    cases entrance with
    | task ticket => exact stays_of_quiet rfl hfaces
    | request => exact stays_answer hfaces notes .done

theorem stays_fanOut (hfaces : Faces u.frames depth origin ids) (notes : List Note)
    (entrance : Entrance) (other : Origin) :
    Progress d depth origin ids (u.fanOut notes entrance other : Outcome σ δ ε κ).session.frames
      (u.fanOut notes entrance other : Outcome σ δ ε κ).reached? := by
  obtain ⟨logged, hfan⟩ := u.fanOut_eq (κ := κ) notes entrance other
  rw [hfan]
  refine stays_fan ?_ _ _ _ _
  exact hfaces

theorem stays_proceed (hfaces : Faces s.frames depth origin ids) :
    Progress d depth origin ids (s.proceed : Outcome σ δ ε κ).session.frames
      (s.proceed : Outcome σ δ ε κ).reached? := by
  unfold proceed
  split
  next drive rest hframes =>
    rw [hframes] at hfaces
    have hbelow : Faces rest depth origin ids := (faces_cons.mp hfaces).resolve_left nofun
    split
    next task events timers drive' hturn =>
      cases task with
      | fanOut other ticket =>
          refine stays_fanOut ?_ _ _ _
          exact hbelow.cons _
      | posted work => exact stays_of_quiet rfl ((hbelow.cons _).cons _)
    next => exact stays_of_quiet rfl hbelow
  next => exact stays_of_quiet rfl hfaces

/-! ## Any move -/

/-- When a call returns, the fan-out on top takes its turn. -/
theorem progress_resume (hfaces : Faces s.frames depth origin ids) :
    Progress s.dispatcher depth origin ids (s.resume : Outcome σ δ ε κ).session.frames
      (s.resume : Outcome σ δ ε κ).reached? := by
  unfold resume
  split
  next entrance other current left rest hframes =>
    rw [hframes] at hfaces
    rcases faces_cons.mp hfaces with ⟨_, _, heq, rfl⟩ | hbelow
    · cases heq
      exact progress_fan { s with frames := rest } [] entrance origin ids
    · refine stays_fan ?_ _ _ _ _
      exact hbelow
  next id rest hframes =>
    rw [hframes] at hfaces
    refine stays_answer ?_ _ _
    exact (faces_cons.mp hfaces).resolve_left nofun
  next rest hframes =>
    rw [hframes] at hfaces
    exact stays_of_quiet rfl ((faces_cons.mp hfaces).resolve_left nofun)
  next => exact stays_of_quiet rfl hfaces

/-- Whatever the surroundings do, a fan-out stays in its place until it is on top, and then
takes its turn when the call that it made returns. -/
theorem progress_perform (hfaces : Faces s.frames depth origin ids)
    (visit : List Origin → List Origin) (m : Move ε) :
    Progress s.dispatcher depth origin ids
      (s.perform visit m : Outcome σ δ ε κ).session.frames
      (s.perform visit m : Outcome σ δ ε κ).reached? := by
  unfold perform
  split
  next => exact stays_of_quiet rfl hfaces
  next =>
    cases m with
    | add other endpoint => exact stays_of_quiet rfl (hfaces.cons _)
    | broadcast =>
        refine stays_answer ?_ _ _
        exact hfaces
    | dispatch other => exact stays_fanOut hfaces [] .request other
    | remove r =>
        refine stays_answer ?_ _ _
        exact hfaces
    | resolve =>
        refine stays_answer ?_ _ _
        exact hfaces
    | disconnect r => exact stays_of_quiet rfl hfaces
    | letGo =>
        dsimp only
        unfold letGo
        split
        next => exact stays_of_quiet rfl hfaces
        next => split <;> exact stays_of_quiet rfl hfaces
    | travel t =>
        dsimp only
        unfold travel
        split
        next drive _ => exact stays_of_quiet rfl (hfaces.cons _)
        next => exact stays_of_quiet rfl hfaces
    | resume => exact progress_resume hfaces
    | proceed => exact stays_proceed hfaces

end Session

end Cadence.Broadcast

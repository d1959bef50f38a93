import Cadence.Proofs.Broadcast.Counting

/-! # What a fan-out goes through

A fan-out takes down who is registered for its origin when it begins. On any timeline,
and whatever those that it notifies do to the dispatcher, it turns to each number that it
took down, in ascending order, and notifies the listener that is registered under it at
that turn.
-/

namespace Cadence.Broadcast.Snapshot

open Roll (Beat next after)

/-! ## Turns -/

section Turns

variable {δ ε : Type} {depth : Nat} {frames : List (Frame δ)} {origin : Origin}
  {ids : List EndpointId}

/-- The listeners left to the fan-out right above some number of frames. -/
def remaining (depth : Nat) : List (Frame δ) → List EndpointId
  | [] => []
  | .fanning _ _ _ ids :: below => if below.length = depth then ids else remaining depth below
  | _ :: below => remaining depth below

theorem remaining_of_short (h : frames.length ≤ depth) : remaining depth frames = [] := by
  induction frames with
  | nil => rfl
  | cons frame below ih =>
      have hbelow : below.length < depth := h
      have hnone := ih (Nat.le_of_lt hbelow)
      cases frame with
      | fanning _ _ _ ids => exact (if_neg (Nat.ne_of_lt hbelow)).trans hnone
      | _ => exact hnone

theorem remaining_of_faces (h : Faces frames depth origin ids) : remaining depth frames = ids := by
  induction frames with
  | nil => exact absurd h.lt_length (Nat.not_lt_zero depth)
  | cons frame below ih =>
      rcases faces_cons.mp h with ⟨entrance, current, rfl, hdepth⟩ | hbelow
      · exact if_pos hdepth
      · have hrest := ih hbelow
        cases frame with
        | fanning _ _ _ _ => exact (if_neg (Nat.ne_of_gt hbelow.lt_length)).trans hrest
        | _ => exact hrest

/-- A turn of a fan-out: to which number, and the dispatcher that it finds then. -/
structure Visit (ε : Type) where
  id : EndpointId
  dispatcher : Dispatcher ε

/-- The listener that is registered under the number at a turn. -/
def Visit.present? (origin : Origin) (v : Visit ε) : Option (EndpointId × ε) :=
  (v.dispatcher.listener? origin v.id).map (v.id, ·)

theorem present?_of_not_mem {d : Dispatcher ε} (h : ∀ id ∈ ids, id ∉ d.registered origin) :
    (ids.map (Visit.mk · d)).filterMap (Visit.present? origin) = [] := by
  refine List.filterMap_eq_nil_iff.mpr fun v hv => ?_
  obtain ⟨id, hid, rfl⟩ := List.mem_map.mp hv
  unfold Visit.present?
  rw [Dispatcher.listener?_eq_none.mpr (h id hid)]
  rfl

end Turns

section Runs

variable {σ δ ε κ : Type} [Timeline σ δ (Errand κ)] {s : Session σ δ ε} {depth : Nat}
  {origin : Origin} {ids : List EndpointId} {beat : Beat σ ε} {rest : List (Beat σ ε)}

/-- The turns of the fan-out right above some number of frames, which has these listeners
left: those that it has left no more after a beat had their turn in it. -/
def turns (depth : Nat) (ids : List EndpointId) (s : Session σ δ ε) :
    List (Beat σ ε) → List (Visit ε)
  | [] => []
  | beat :: rest =>
      let later := remaining depth (next s beat).session.frames
      (ids.take (ids.length - later.length)).map (Visit.mk · s.dispatcher) ++
        turns depth later (next s beat).session rest

/-- The notifications made right above some number of frames. -/
def callsAt (depth : Nat) (s : Session σ δ ε) (beats : List (Beat σ ε)) :
    List (EndpointId × ε) :=
  ((calls s beats).filter (·.height = depth)).map fun r => (r.id, r.endpoint)

/-- The notifications made from further up. -/
def callsAbove (depth : Nat) (s : Session σ δ ε) (beats : List (Beat σ ε)) : List (Reach ε) :=
  (calls s beats).filter (depth < ·.height)

/-- Before each of these beats something lies above some number of frames. -/
def Underway (depth : Nat) (s : Session σ δ ε) : List (Beat σ ε) → Prop
  | [] => True
  | beat :: rest => depth < s.frames.length ∧ Underway depth (next s beat).session rest

/-- In a run a fan-out turns to the first of the listeners that it has left and notifies those
that are registered then. Whatever else is notified meanwhile is so from further up. -/
structure Traverses (s : Session σ δ ε) (depth : Nat) (origin : Origin) (ids : List EndpointId)
    (beats : List (Beat σ ε)) : Prop where
  order : ids = (turns depth ids s beats).map Visit.id ++ remaining depth (after s beats).frames
  own : callsAt depth s beats = (turns depth ids s beats).filterMap (Visit.present? origin)
  above : ∀ r ∈ calls s beats, depth ≤ r.height
  faces : depth < (after s beats).frames.length →
    Faces (after s beats).frames depth origin (remaining depth (after s beats).frames)

theorem turns_single (depth : Nat) (ids : List EndpointId) (s : Session σ δ ε)
    (beat : Beat σ ε) :
    turns depth ids s [beat] =
      (ids.take (ids.length - (remaining depth (next s beat).session.frames).length)).map
        (Visit.mk · s.dispatcher) :=
  List.append_nil _

theorem calls_single (s : Session σ δ ε) (beat : Beat σ ε) :
    calls s [beat] = (next s beat).reached?.toList :=
  List.append_nil _

theorem Traverses.cons (hfirst : Traverses s depth origin ids [beat])
    (hrest : Traverses (next s beat).session depth origin
      (remaining depth (next s beat).session.frames) rest) :
    Traverses s depth origin ids (beat :: rest) := by
  have hturns : turns depth ids s (beat :: rest) = turns depth ids s [beat] ++
      turns depth (remaining depth (next s beat).session.frames) (next s beat).session rest := by
    rw [turns_single]
    rfl
  have hcalls : calls s (beat :: rest) = calls s [beat] ++ calls (next s beat).session rest := by
    rw [calls_single]
    rfl
  constructor
  case order =>
    show ids = _ ++ remaining depth (after (next s beat).session rest).frames
    rw [hturns, List.map_append, List.append_assoc, ← hrest.order]
    exact hfirst.order
  case own =>
    have hfirst := hfirst.own
    have hrest := hrest.own
    unfold callsAt at hfirst hrest ⊢
    rw [hturns, hcalls, List.filter_append, List.map_append, List.filterMap_append, hfirst, hrest]
  case above =>
    intro r hr
    rw [hcalls] at hr
    rcases List.mem_append.mp hr with hnow | hlater
    · exact hfirst.above r hnow
    · exact hrest.above r hlater
  case faces => exact hrest.faces

/-! ## One beat -/

/-- Those that are left when a fan-out ends have their turn, but nobody is there. -/
theorem traverses_of_ends (short : (next s beat).session.frames.length ≤ depth)
    (through : ∀ id ∈ ids, id ∉ s.dispatcher.registered origin)
    (hsilent : (next s beat).reached? = none) : Traverses s depth origin ids [beat] := by
  have hcalls : calls s [beat] = [] := by
    rw [calls_single, hsilent]
    rfl
  have hturns : turns depth ids s [beat] = ids.map (Visit.mk · s.dispatcher) := by
    rw [turns_single, remaining_of_short short, List.length_nil, Nat.sub_zero, List.take_length]
  constructor
  case order =>
    show ids = _ ++ remaining depth (next s beat).session.frames
    rw [hturns, remaining_of_short short]
    simp [Function.comp_def]
  case own =>
    rw [callsAt, hcalls, hturns, present?_of_not_mem through]
    rfl
  case above =>
    rw [hcalls]
    exact nofun
  case faces => exact fun htall => absurd short (Nat.not_le_of_lt htall)

/-- A fan-out that stays as it is has no turn, and who is notified is so from further up. -/
theorem traverses_of_stays (faces : Faces (next s beat).session.frames depth origin ids)
    (higher : ∀ r ∈ (next s beat).reached?, depth < r.height) :
    Traverses s depth origin ids [beat] := by
  have hturns : turns depth ids s [beat] = [] := by
    rw [turns_single, remaining_of_faces faces, Nat.sub_self]
    rfl
  have hhigher : ∀ r ∈ calls s [beat], depth < r.height := by
    intro r hr
    rw [calls_single] at hr
    exact higher r (Option.mem_toList.mp hr)
  constructor
  case order =>
    rw [hturns]
    exact (remaining_of_faces faces).symm
  case own =>
    rw [callsAt, hturns, List.filter_eq_nil_iff.mpr fun r hr => ?_]
    · rfl
    · simpa using Nat.ne_of_gt (hhigher r hr)
  case above => exact fun r hr => Nat.le_of_lt (hhigher r hr)
  case faces => exact fun _ => (remaining_of_faces faces).symm ▸ faces

/-- A fan-out that goes on passes over those that are gone, and notifies the next. -/
theorem traverses_of_goes {id : EndpointId} {endpoint : ε} {passed later : List EndpointId}
    (hreached : (next s beat).reached? = some ⟨depth, id, endpoint⟩)
    (split : ids = passed ++ id :: later)
    (gone : ∀ x ∈ passed, x ∉ s.dispatcher.registered origin)
    (here : s.dispatcher.listener? origin id = some endpoint)
    (faces : Faces (next s beat).session.frames depth origin later) :
    Traverses s depth origin ids [beat] := by
  have hcalls : calls s [beat] = [⟨depth, id, endpoint⟩] := by
    rw [calls_single, hreached]
    rfl
  have hsplit : ids = (passed ++ [id]) ++ later := split.trans (List.append_cons _ _ _)
  have hturns : turns depth ids s [beat] = (passed ++ [id]).map (Visit.mk · s.dispatcher) := by
    rw [turns_single, remaining_of_faces faces, hsplit, List.length_append, Nat.add_sub_cancel,
      List.take_left]
  constructor
  case order =>
    show ids = _ ++ remaining depth (next s beat).session.frames
    rw [hturns, remaining_of_faces faces, hsplit]
    simp [Function.comp_def]
  case own =>
    rw [callsAt, hcalls, hturns, List.map_append, List.filterMap_append, present?_of_not_mem gone]
    simp [Visit.present?, here]
  case above => simp [hcalls]
  case faces => exact fun _ => (remaining_of_faces faces).symm ▸ faces

/-- One beat takes a fan-out on by its progress. -/
theorem traverses_single
    (hprogress : Progress s.dispatcher depth origin ids (next s beat).session.frames
      (next s beat).reached?) : Traverses s depth origin ids [beat] := by
  generalize hreached : (next s beat).reached? = reached at hprogress
  cases hprogress with
  | ends short through => exact traverses_of_ends short through hreached
  | stays _ faces higher => exact traverses_of_stays faces (hreached ▸ higher)
  | goes id endpoint passed later split gone here faces =>
      exact traverses_of_goes hreached split gone here faces

theorem progress_next (hfaces : Faces s.frames depth origin ids) (beat : Beat σ ε) :
    Progress s.dispatcher depth origin ids (next s beat).session.frames
      (next s beat).reached? := by
  cases beat with
  | move visit m => exact Session.progress_perform hfaces visit m
  | others timers => exact stays_of_quiet rfl hfaces

/-- A fan-out that begins in a beat, or has come to its frame, is taken on by whatever
happens. -/
theorem traverses_of_progress
    (hprogress : Progress s.dispatcher depth origin ids (next s beat).session.frames
      (next s beat).reached?)
    (hunderway : Underway depth (next s beat).session rest) :
    Traverses s depth origin ids (beat :: rest) := by
  induction rest generalizing s beat ids with
  | nil => exact traverses_single hprogress
  | cons second rest ih =>
      have hfirst := traverses_single hprogress
      exact hfirst.cons (ih (progress_next (hfirst.faces hunderway.1) second) hunderway.2)

theorem Traverses.length_calls {beats : List (Beat σ ε)}
    (htraverses : Traverses s depth origin ids beats) :
    (calls s beats).length =
      (callsAt depth s beats).length + (callsAbove depth s beats).length := by
  have hother : (calls s beats).filter (fun r => !decide (r.height = depth)) =
      callsAbove depth s beats := by
    refine List.filter_congr fun r hr => ?_
    have habove := htraverses.above r hr
    rw [← decide_not, decide_eq_decide]
    omega
  rw [callsAt, List.length_map, ← hother]
  exact List.length_eq_length_filter_add _

/-! ## From the beginning on -/

/-- A fan-out begins when the owner calls for it, or when its ticket comes up. -/
theorem opening?_eq_some {entrance : Entrance}
    (hopening : opening? s beat = some (entrance, origin)) :
    (∃ visit, beat = .move visit (.dispatch origin) ∧ s.standing = .owned ∧
        entrance = .request) ∨
      ∃ visit ticket, beat = .move visit .proceed ∧ due? s = some (ticket, origin) ∧
        entrance = .task ticket := by
  unfold opening? at hopening
  split at hopening
  next visit asked =>
    split at hopening
    next howned =>
      cases hopening
      exact .inl ⟨visit, rfl, howned, rfl⟩
    next => cases hopening
  next visit =>
    obtain ⟨⟨ticket, found⟩, hdue, heq⟩ := Option.map_eq_some_iff.mp hopening
    cases heq
    exact .inr ⟨visit, ticket, rfl, hdue, rfl⟩
  next => cases hopening

/-- A fan-out begins with the dispatcher and the stack that it finds. -/
theorem next_of_opening {entrance : Entrance}
    (hopening : opening? s beat = some (entrance, origin)) :
    ∃ (u : Session σ δ ε) (notes : List Note),
      (next s beat : Outcome σ δ ε κ) = u.fanOut notes entrance origin ∧
        u.dispatcher = s.dispatcher ∧ u.standing = s.standing ∧
        u.frames.length = s.frames.length := by
  rcases opening?_eq_some hopening with
    ⟨visit, rfl, howned, rfl⟩ | ⟨visit, ticket, rfl, hdue, rfl⟩
  · exact ⟨s, [], Session.perform_dispatch howned visit origin, rfl, rfl, rfl⟩
  · exact proceed_of_due hdue

theorem progress_opening {entrance : Entrance}
    (hopening : opening? s beat = some (entrance, origin)) :
    Progress s.dispatcher s.frames.length origin (s.dispatcher.registered origin)
      (next s beat).session.frames (next s beat).reached? := by
  obtain ⟨u, notes, hnext, hdispatcher, _, hframes⟩ := next_of_opening hopening
  rw [hnext, ← hdispatcher, ← hframes]
  exact u.progress_fanOut notes entrance origin

/-- When the call that a fan-out made has returned, it goes on. -/
theorem remaining_resume (hfaces : Faces s.frames depth origin ids)
    (htop : s.frames.length = depth + 1) (visit : List Origin → List Origin) :
    (next s (.move visit .resume)).session.frames.length ≤ depth ∨
      (remaining depth (next s (.move visit .resume)).session.frames).length <
        (remaining depth s.frames).length := by
  obtain ⟨entrance, current, below, hsuffix, rfl⟩ := hfaces
  have hframes : s.frames = .fanning entrance origin current ids :: below :=
    (hsuffix.eq_of_length htop.symm).symm
  have hnext : (next s (.move visit .resume) : Outcome σ δ ε κ) =
      { s with frames := below }.fan [] entrance origin ids := by
    show (s.resume : Outcome σ δ ε κ) = _
    unfold Session.resume
    rw [hframes]
  have hleft : remaining below.length s.frames = ids := by
    rw [hframes]
    exact if_pos rfl
  rw [hnext, hleft]
  unfold Session.fan
  split
  next id endpoint later hfound =>
    obtain ⟨passed, rfl, _⟩ := Dispatcher.nextListener_eq_some hfound
    right
    show (if below.length = below.length then later else _).length < _
    rw [if_pos rfl, List.length_append, List.length_cons]
    omega
  next =>
    left
    cases entrance with
    | task ticket => exact Nat.le_refl _
    | request => exact Nat.le_of_eq (congrArg List.length (Session.frames_answer _ [] .done))

/-! ## Fan-outs without a record -/

/-- A fan-out that is called for and finds no record changes nothing. -/
theorem fanOut_request_of_none (hnone : s.dispatcher.record? origin = none)
    (howned : s.standing = .owned) :
    (s.fanOut [] .request origin : Outcome σ δ ε κ) =
      { session := s, signal := .answered .done } := by
  have hstart : s.dispatcher.startFanOut origin none = (none, s.dispatcher, []) := by
    unfold Dispatcher.startFanOut
    dsimp only
    rw [hnone]
  unfold Session.fanOut Entrance.ticket?
  dsimp only
  rw [hstart]
  show (s.answer _ .done : Outcome σ δ ε κ) = _
  unfold Session.answer
  rw [if_neg fun horphaned => Standing.noConfusion (howned.symm.trans horphaned.1)]
  rfl

/-- A scheduled fan-out that finds no record is dropped, and its ticket is cleared. -/
theorem fanOut_task_of_none {u : Session σ δ ε} (hnone : u.dispatcher.record? origin = none)
    (hticketed : u.dispatcher.Ticketed) (notes : List Note) (ticket : Ticket) :
    (u.fanOut notes (.task ticket) origin : Outcome σ δ ε κ).session =
        { u with
          dispatcher :=
            { u.dispatcher with
              inFlight := u.dispatcher.inFlight.filter (·.1 ≠ ticket)
              stats :=
                { u.dispatcher.stats with
                  droppedFanouts := u.dispatcher.stats.droppedFanouts + 1 } } } ∧
      (u.fanOut notes (.task ticket) origin : Outcome σ δ ε κ).signal = .quiet := by
  have hstart : u.dispatcher.startFanOut origin (some ticket) =
      (none,
        { u.dispatcher with
          inFlight := u.dispatcher.inFlight.filter (·.1 ≠ ticket)
          stats :=
            { u.dispatcher.stats with
              droppedFanouts := u.dispatcher.stats.droppedFanouts + 1 } },
        [.recordGone origin]) := by
    unfold Dispatcher.record? at hnone
    unfold Dispatcher.startFanOut Dispatcher.record?
    dsimp only
    rw [hnone, Labelled.eraseP_eq_filter hticketed.nodup ticket]
  unfold Session.fanOut Entrance.ticket?
  dsimp only
  rw [hstart]
  exact ⟨rfl, rfl⟩

/-! ## Every fan-out -/

/-- A fan-out keeps to the listeners that are registered for its origin when it begins. If
there is a record then, and as long as the fan-out is not over, it has gone through the first
of them in ascending order, and when it is over, through all of them. It notifies those that
are still registered when it turns to them, and nobody else. It goes on whenever a call that
it made returns. One more fan-out is counted besides those that begin meanwhile, and besides
the notifications that are made from further up it counts its own. Without a record nothing
happens to the dispatcher, but that a scheduled fan-out loses its ticket and is counted as
dropped. -/
theorem fanOut_keeps_to_snapshot (timers : σ) (intervals : IntervalSource) (delays : DelaySource)
    (past : List (Beat σ ε)) (beat : Beat σ ε) (entrance : Entrance) (origin : Origin)
    (hopening : opening? (after ({ timers, dispatcher := { intervals, delays } } :
      Session σ δ ε) past) beat = some (entrance, origin)) :
    let s : Session σ δ ε := after { timers, dispatcher := { intervals, delays } } past
    let ids := s.dispatcher.registered origin
    let depth := s.frames.length
    let out := next s beat
    (s.dispatcher.record? origin ≠ none →
      ids.Pairwise (· < ·) ∧ (∀ id ∈ ids, id < s.dispatcher.nextEndpoint) ∧
      ∀ later, Underway depth out.session later →
        let run := beat :: later
        let last := after s run
        ids = (turns depth ids s run).map Visit.id ++ remaining depth last.frames ∧
        (last.frames.length ≤ depth → (turns depth ids s run).map Visit.id = ids) ∧
        callsAt depth s run = (turns depth ids s run).filterMap (Visit.present? origin) ∧
        last.dispatcher.stats.fanouts =
          s.dispatcher.stats.fanouts + 1 + begun out.session later ∧
        last.dispatcher.stats.notifications = s.dispatcher.stats.notifications +
          (callsAt depth s run).length + (callsAbove depth s run).length ∧
        (last.frames.length = depth + 1 → ∀ visit,
          let returned := (next last (.move visit .resume)).session
          returned.frames.length ≤ depth ∨
            (remaining depth returned.frames).length < (remaining depth last.frames).length)) ∧
    (s.dispatcher.record? origin = none →
      (entrance = .request → out = { session := s, signal := .answered .done }) ∧
      ∀ ticket, entrance = .task ticket →
        out.signal = .quiet ∧ out.session.frames.length = depth ∧
        out.session.standing = s.standing ∧
        out.session.dispatcher =
          { s.dispatcher with
            inFlight := s.dispatcher.inFlight.filter (·.1 ≠ ticket)
            stats :=
              { s.dispatcher.stats with
                droppedFanouts := s.dispatcher.stats.droppedFanouts + 1 } }) := by
  intro s ids depth out
  have hsound : s.dispatcher.Sound := (Roll.shown_after timers intervals delays past).sound
  have hticketed : s.dispatcher.Ticketed :=
    ticketed_after (Dispatcher.ticketed_of_nil rfl) past
  refine ⟨fun hrecord => ⟨hsound.ascending origin, hsound.id_lt origin, fun later hunderway => ?_⟩,
    fun hnone => ⟨?_, ?_⟩⟩
  · intro run last
    have htraverses : Traverses s depth origin ids run :=
      traverses_of_progress (progress_opening hopening) hunderway
    obtain ⟨hfanouts, hnotifications⟩ := credits_after s run
    have hbegins : begins s beat = true := by
      unfold begins
      rw [hopening]
      exact Option.isSome_iff_ne_none.mpr hrecord
    refine ⟨htraverses.order, fun hover => ?_, htraverses.own, ?_, ?_, fun htop visit => ?_⟩
    · have horder := htraverses.order
      rw [remaining_of_short hover, List.append_nil] at horder
      exact horder.symm
    · rw [hfanouts, begun, hbegins]
      exact (Nat.add_assoc _ _ _).symm
    · rw [hnotifications, htraverses.length_calls, Nat.add_assoc]
    · have htall : depth < last.frames.length := htop ▸ Nat.lt_succ_self depth
      exact remaining_resume (htraverses.faces htall) htop visit
  · rintro rfl
    rcases opening?_eq_some hopening with ⟨visit, rfl, howned, _⟩ | ⟨_, _, _, _, hentrance⟩
    · exact (Session.perform_dispatch howned visit origin).trans
        (fanOut_request_of_none hnone howned)
    · cases hentrance
  · rintro ticket rfl
    obtain ⟨u, notes, hnext, hdispatcher, hstanding, hframes⟩ := next_of_opening hopening
    have hout : out = u.fanOut notes (.task ticket) origin := hnext
    obtain ⟨hsession, hquiet⟩ := fanOut_task_of_none (κ := κ) (hdispatcher.symm ▸ hnone)
      (hdispatcher.symm ▸ hticketed) notes ticket
    rw [hout, hquiet, hsession]
    refine ⟨rfl, hframes, hstanding, ?_⟩
    dsimp only
    rw [hdispatcher]

instance decidableUnderway (depth : Nat) : (s : Session σ δ ε) → (beats : List (Beat σ ε)) →
    Decidable (Underway depth s beats)
  | _, [] => .isTrue trivial
  | s, beat :: rest =>
      have := decidableUnderway depth (next s beat).session rest
      inferInstanceAs (Decidable (_ ∧ _))

end Runs

/-- Three listeners are registered. -/
def enrolling : List (Beat (Agenda (Errand Unit)) Unit) :=
  [.add default (), .resume, .add default (), .resume, .add default (), .resume].map (.move id)

/-- The first of three listeners takes the second one out, registers a fourth, and calls for
another fan-out before it returns. -/
def reshuffling : List (Beat (Agenda (Errand Unit)) Unit) :=
  [.remove ⟨default, 1⟩, .add default (), .resume, .dispatch default, .resume, .resume, .resume,
    .resume, .resume].map (.move id)

/-- The first fan-out has notified the first listener and the third. -/
theorem fanOut_keeps_to_snapshot_reshuffled :
    let s : OnAgenda Unit Unit := after Session.tenSeconds enrolling
    let beat : Beat (Agenda (Errand Unit)) Unit := .move id (.dispatch default)
    let depth := s.frames.length
    let ids := s.dispatcher.registered default
    let last := after s (beat :: reshuffling)
    opening? s beat = some (.request, default) ∧ ids = [0, 1, 2] ∧ last.frames.length ≤ depth ∧
      (turns depth ids s (beat :: reshuffling)).map Visit.id = ids ∧
      callsAt depth s (beat :: reshuffling) = [(0, ()), (2, ())] ∧
      last.dispatcher.stats.fanouts = 2 ∧ last.dispatcher.stats.notifications = 2 + 3 := by
  intro s beat depth ids last
  have hopening : opening? s beat = some (.request, default) := by decide +kernel
  have hrecord : s.dispatcher.record? default ≠ none := by
    rw [← Option.isSome_iff_ne_none]
    decide +kernel
  have hunderway : Underway depth (next s beat).session reshuffling := by decide +kernel
  have hover : last.frames.length ≤ depth := by decide +kernel
  have hkeeps := ((fanOut_keeps_to_snapshot (δ := Agenda.Drive) ({} : Agenda (Errand Unit)) _ _
    enrolling beat .request default hopening).1 hrecord).2.2 reshuffling hunderway
  exact ⟨hopening, by decide +kernel, hover, hkeeps.2.1 hover, by decide +kernel,
    by decide +kernel, by decide +kernel⟩

end Cadence.Broadcast.Snapshot

import Cadence.Proofs.Channel.Stream
import Cadence.Proofs.Labelled
import Cadence.Proofs.Watching.Moves

/-! # Endpoints that change

One endpoint changes at a time. What the others need is not touched by that, so it is enough to
look after the one: notices, the end of a connection from either side, and registrations.
-/

namespace Cadence.Rehearsal.Broadcasting

open Cadence.Broadcast
open Executor (Drive Loop Rostered Spared)

/-- The task that watches for an endpoint. -/
def Endpoint.watch? : Endpoint → Option TaskId
  | .recording _ _ => none
  | .channel _ _ watch => watch

/-- The endpoint that a call is made to. -/
def addressee : Call String Posted → Option String
  | .install label _ | .notify label | .work (.watch label) => some label
  | .work (.handler _) => none

/-- The endpoints once that of a label is another one. -/
def replace (endpoints : List (String × Endpoint)) (label : String) (new : Endpoint) :
    List (String × Endpoint) :=
  endpoints.map fun (l, old) => if l = label then (l, new) else (l, old)

theorem lookup_replace (endpoints : List (String × Endpoint)) (label other : String)
    (new : Endpoint) :
    (replace endpoints label new).lookup other =
      (endpoints.lookup other).map fun old => if other = label then new else old := by
  rw [← Labelled.lookup_map endpoints (fun l old => if l = label then new else old) other]
  refine congrArg (List.lookup other) (List.map_congr_left fun p _ => ?_)
  by_cases hlabel : p.1 = label <;> simp [hlabel]

variable {role role' : TaskId → Errand Posted} {touched : TaskId → Prop} {log log' : List String}
  {s : LoopSession} {endpoints : List (String × Endpoint)} {running : List TaskId}
  {call call' : Option (Call String Posted)} {e e' : Executor (Errand Posted)}
  {d : Dispatcher String} {l : Loop (Errand Posted)} {label : String}
  {c c' : Channel Registration} {held held' : Bool} {id : TaskId} {watch : Option TaskId}

/-! ## One endpoint among others -/

/-- Only the watcher of a channel may be stopped by it. -/
theorem Attended.watch_eq
    (h : Attended role log d e call label (.channel c held watch)) (hid : c.watcher = some id) :
    watch = some id := by
  cases h with
  | unwatched _ _ hnone => exact absurd (hnone.symm.trans hid) nofun
  | watched _ _ number vigil _ =>
      rcases vigil.watcher with hnone | hsome
      · exact absurd (hnone.symm.trans hid) nofun
      · exact hsome.symm.trans hid

/-- An endpoint only needs calls to it, and the work of registrations. -/
theorem Needs.addressee {endpoint : Endpoint} {k : Call String Posted}
    (h : Needs d label endpoint k) : addressee k = some label ∨ addressee k = none := by
  cases h with
  | install | watch => exact .inl rfl
  | handler => exact .inr rfl

/-- One endpoint changes, and nothing is touched but its own watcher. -/
theorem Tended.change (h : Tended role log s endpoints call) {old new : Endpoint}
    (hlookup : endpoints.lookup label = some old) (hwatch : new.watch? = old.watch?)
    (hpass : Passes role role' (fun id => old.watch? = some id) s.timers.executor l.executor)
    (hrostered : Rostered role' (runners s.frames) l.executor) (hlog : log ⊆ log')
    (hcall : ∀ k, call = some k → call' = call ∨ addressee k = some label)
    (hnew : Attended role' log' s.dispatcher l.executor call' label new) :
    Tended role' log' { s with timers := l } (replace endpoints label new) call' := by
  -- what is touched watches for this endpoint, so it is of no use to another one
  have hrole {id : TaskId} (hid : old.watch? = some id) : role id = .posted (.watch label) := by
    cases old with
    | recording => cases hid
    | channel c held watch =>
        cases hid
        exact (h.vigil hlookup).role
  have hother {other : String} (hne : other ≠ label) {endpoint : Endpoint}
      (hfound : (replace endpoints label new).lookup other = some endpoint) :
      endpoints.lookup other = some endpoint := by
    rw [lookup_replace] at hfound
    simpa [hne] using hfound
  have hsame {endpoint : Endpoint}
      (hfound : (replace endpoints label new).lookup label = some endpoint) : new = endpoint := by
    rw [lookup_replace, hlookup] at hfound
    simpa using hfound
  refine ⟨hrostered, fun x hx => ?_, h.registry, fun other endpoint hfound => ?_,
    fun other r hr => ?_, fun id hid other hwatching => ?_⟩
  · obtain ⟨hlt, origin, ticket, hfanOut⟩ := h.fanOuts x hx
    exact ⟨Nat.lt_of_lt_of_le hlt hpass.next, origin, ticket, (hpass.roles _ hlt).trans hfanOut⟩
  · by_cases hlabel : other = label
    · subst hlabel
      exact hsame hfound ▸ hnew
    · refine ((h.attended other endpoint (hother hlabel hfound)).pass h.rostered hpass.toFollows
        (fun id hwatching htouched => ?_) (fun id r hhandler htouched => ?_) (fun _ hr => hr)
        fun k hk hneeds => ?_).mono hlog
      · cases (hrole htouched).symm.trans hwatching
        exact hlabel rfl
      · exact absurd ((hrole htouched).symm.trans hhandler) nofun
      · refine (hcall k hk).resolve_right fun haddressed => hlabel ?_
        rcases hneeds.addressee with hsome | hnone
        · exact Option.some.inj (hsome.symm.trans haddressed)
        · exact absurd (hnone.symm.trans haddressed) nofun
  · rw [lookup_replace, Option.isSome_map]
    exact h.known other r hr
  · have hold : id < s.timers.executor.nextId := by
      by_contra hge
      exact hpass.unwatched id hid (Nat.le_of_not_lt hge) other hwatching
    obtain ⟨c, held, hfound⟩ :=
      h.appointed id hold other ((hpass.roles id hold).symm.trans hwatching)
    rw [lookup_replace, hfound, Option.map_some]
    by_cases hlabel : other = label
    · subst hlabel
      cases hlookup.symm.trans hfound
      rw [if_pos rfl]
      cases new with
      | recording => cases hwatch
      | channel c held watch =>
          cases hwatch
          exact ⟨c, held, rfl⟩
    · rw [if_neg hlabel]
      exact ⟨c, held, rfl⟩

/-! ## What a channel does to the loop -/

theorem stopWatching_passes (h : Rostered role running l.executor) :
    let l' := (c.stopWatching l).2
    Rostered role running l'.executor ∧
      Passes role role (fun id => c.watcher = some id) l.executor l'.executor ∧
      ∀ id, c.watcher = some id → id ∉ l'.executor.tracked := by
  unfold Channel.stopWatching
  dsimp only
  cases hwatcher : c.watcher with
  | none => exact ⟨h, Passes.refl role _ _, nofun⟩
  | some number =>
      refine ⟨h.cancel number, passes_cancel rfl, fun id hid => ?_⟩
      cases hid
      exact h.not_tracked_cancel number

theorem postHandler_passes (h : Rostered role running l.executor) (touched : TaskId → Prop) :
    let l' := (c.postHandler Stage.post l).2
    ∃ role', Rostered role' running l'.executor ∧
      Passes role role' touched l.executor l'.executor ∧
      (∀ r, c.handler = some r → Posts l'.executor r) ∧
      ∀ id < l.executor.nextId, id ∈ l'.executor.tracked → id ∈ l.executor.tracked := by
  unfold Channel.postHandler
  dsimp only
  cases hhandler : c.handler with
  | none => exact ⟨role, h, Passes.refl role _ _, nofun, fun _ _ hid => hid⟩
  | some r =>
      have hother (label : String) : Stage.post r ≠ .posted (.watch label) := nofun
      refine ⟨_, h.track _ (Stage.post r), passes_track role touched _ _ hother, ?_, ?_⟩
      · rintro _ ⟨⟩
        exact ⟨_, List.mem_append_right _ List.mem_cons_self, rfl, rfl, _, rfl, Span.le_refl _⟩
      · intro id hlt hid
        exact (Executor.spared_track _ (Stage.post r) hlt).tracked hid

/-- To disconnect stops the watcher and posts the registration. -/
theorem disconnect_passes (h : Rostered role running l.executor)
    (hconnected : c.disconnected = false)
    (hnumber : ∀ id, c.watcher = some id → id < l.executor.nextId) :
    let out := c.disconnect Stage.post l
    out.1 = { c with disconnected := true, watcher := none, handler := none } ∧
      ∃ role', Rostered role' running out.2.1.executor ∧
        Passes role role' (fun id => c.watcher = some id) l.executor out.2.1.executor ∧
        (∀ r, c.handler = some r → Posts out.2.1.executor r) ∧
        ∀ id, c.watcher = some id → id ∉ out.2.1.executor.tracked := by
  unfold Channel.disconnect
  rw [if_neg (by rw [hconnected]; nofun)]
  refine ⟨rfl, ?_⟩
  obtain ⟨hstopped, hpass, hgone⟩ := stopWatching_passes (c := { c with disconnected := true }) h
  obtain ⟨role', hposted, hpass', hposts, hback⟩ :=
    postHandler_passes (c := { c with disconnected := true, watcher := none }) hstopped
      (fun id => c.watcher = some id)
  refine ⟨role', hposted, hpass.trans hpass', hposts, fun id hid htracked => ?_⟩
  exact hgone id hid (hback id (Nat.lt_of_lt_of_le (hnumber id hid) hpass.next) htracked)

/-! ## The end of a connection -/

/-- A watcher that was stopped has nothing to notice any more. -/
theorem Vigil.over (h : Vigil role e call label c id)
    (hpass : Follows role role' (fun id => c.watcher = some id) e e')
    (hrostered : Rostered role' running e')
    (hstopped : ∀ id, c.watcher = some id → id ∉ e'.tracked) (hnone : c'.watcher = none)
    (hover : c'.alive = false ∨ c'.disconnected = true) : Vigil role' e' call' label c' id := by
  -- a listener that has forgotten its watcher stopped it then
  have hgone : id ∉ e'.tracked := by
    rcases h.watcher with hbefore | hsome
    · have hfree : ¬ c.watcher = some id := fun hid => absurd (hbefore.symm.trans hid) nofun
      exact fun htracked => h.stopped hbefore ((hpass.spared id h.number hfree).tracked htracked)
    · exact hstopped id hsome
  have hends (halive : c'.alive = true) (hconnected : c'.disconnected = false) : False := by
    rcases hover with hdropped | hdisconnected
    · exact absurd (halive.symm.trans hdropped) nofun
    · exact absurd (hdisconnected.symm.trans hconnected) nofun
  refine ⟨Nat.lt_of_lt_of_le h.number hpass.next, (hpass.roles id h.number).trans h.role,
    .inl hnone, fun _ => hgone, fun halive hconnected => (hends halive hconnected).elim,
    fun _ => hnone, fun _ => .inl hnone, fun job hjob hid hlive => ?_,
    fun halive hconnected => (hends halive hconnected).elim⟩
  exact absurd (hid ▸ hrostered.sound.live job hjob hlive) hgone

/-- A registration that was kept is posted instead. -/
theorem Custody.handedOn (h : Custody log d e call label c held)
    (hrostered : Rostered role running e) (hpass : Follows role role' touched e e')
    (hfree : ∀ id r, role id = .posted (.handler r) → ¬ touched id)
    (hcall : ∀ r, call = some (.install label r) ∨ call = some (.work (.handler r)) →
      call' = call)
    (hposts : ∀ r, c.handler = some r → Posts e' r) (hnone : c'.handler = none)
    (halive : c'.alive = c.alive) : Custody log d e' call' label c' held where
  severed _ := hnone
  covered r hr := by
    rcases h.covered r hr with hkept | hposted | hcalled
    · exact .inr (.inl (hposts r hkept))
    · exact .inr (.inl (hposted.pass hrostered hpass fun id => hfree id r))
    · exact .inr (.inr (hcall r hcalled ▸ hcalled))
  fresh hnew := by
    refine ⟨hnone, fun r hr => ?_⟩
    have hcalled := (h.fresh hnew).2 r hr
    exact (hcall r (.inl hcalled)).trans hcalled
  dropped hdropped := h.dropped (halive.symm.trans hdropped)

/-- Calls to a listener that are answered once it was notified. One of its watcher takes that it
is `disconnected`. -/
inductive Answered (label : String) (disconnected : Bool) : Call String Posted → Prop
  | notify : Answered label disconnected (.notify label)
  | watch (h : disconnected = true) : Answered label disconnected (.work (.watch label))

theorem Answered.addressee {disconnected : Bool} {k : Call String Posted}
    (h : Answered label disconnected k) : addressee k = some label := by
  cases h <;> rfl

/-- A registration that is being handed over still is. -/
theorem still_handing {disconnected : Bool} {other : String}
    (hcall : ∀ k, call = some k → call' = call ∨ Answered label disconnected k) (r : Registration)
    (h : call = some (.install other r) ∨ call = some (.work (.handler r))) : call' = call := by
  rcases h with hinstall | hhandler
  · exact (hcall _ hinstall).resolve_right nofun
  · exact (hcall _ hhandler).resolve_right nofun

/-- What is sent and buffered matters to nobody here, and a listener may be let go. -/
theorem Tended.amend (h : Tended role log s endpoints call)
    (hlookup : endpoints.lookup label = some (.channel c held watch)) (sent : Nat)
    (buffer : List Notice) (hheld : held = false → held' = false)
    (hcall : ∀ k, call = some k → call' = call ∨ Answered label c.disconnected k) :
    Tended role log s (replace endpoints label (.channel { c with sent, buffer } held' watch))
      call' := by
  have hpass := Passes.refl role (fun id => watch = some id) s.timers.executor
  refine h.change hlookup rfl hpass h.rostered (List.Subset.refl _)
    (fun k hk => (hcall k hk).imp_right Answered.addressee) ?_
  cases h.attended label _ hlookup with
  | unwatched _ _ hnone => exact .unwatched _ _ hnone
  | watched _ _ id vigil custody =>
      have hstays := Passes.refl role (fun _ => False) s.timers.executor
      refine .watched _ _ id ?_ ?_
      · refine (vigil.pass hstays.toFollows nofun fun hwork _ hconnected => ?_).congr
          rfl rfl rfl rfl
        refine (hcall _ hwork).resolve_right ?_
        rintro ⟨⟩
        next hdisconnected => exact absurd (hdisconnected.symm.trans hconnected) nofun
      · have hcustody : Custody log s.dispatcher s.timers.executor call' label c held :=
          custody.pass h.rostered hstays.toFollows (fun _ _ _ => nofun) (fun _ hr => hr)
            fun r _ => still_handing hcall r
        refine ⟨hcustody.severed, hcustody.covered, hcustody.fresh, fun hdropped => ?_⟩
        exact ⟨hheld (hcustody.dropped hdropped).1, (hcustody.dropped hdropped).2⟩

/-- A listener is disconnected, which answers what it was called for. -/
theorem Tended.disconnect (h : Tended role log s endpoints call)
    (hlookup : endpoints.lookup label = some (.channel c held watch))
    (hcall : ∀ k, call = some k → call' = call ∨ Answered label true k) :
    let out := c.disconnect Stage.post s.timers
    ∃ role', Tended role' log { s with timers := out.2.1 }
      (replace endpoints label (.channel out.1 held watch)) call' := by
  cases hdisconnected : c.disconnected with
  | true =>
      unfold Channel.disconnect
      rw [if_pos hdisconnected]
      exact ⟨role, h.amend hlookup c.sent c.buffer (fun hdropped => hdropped)
        (hdisconnected.symm ▸ hcall)⟩
  | false =>
      have hattended := h.attended label _ hlookup
      have hnumber (id : TaskId) (hid : c.watcher = some id) : id < s.timers.executor.nextId := by
        cases hattended.watch_eq hid
        cases hattended with
        | watched _ _ _ vigil _ => exact vigil.number
      obtain ⟨hout, role', hrostered, hpass, hposts, hgone⟩ :=
        disconnect_passes h.rostered hdisconnected hnumber
      refine ⟨role', h.change hlookup rfl (hpass.mono fun id => hattended.watch_eq) hrostered
        (List.Subset.refl _) (fun k hk => (hcall k hk).imp_right Answered.addressee) ?_⟩
      rw [hout]
      cases hattended with
      | unwatched _ _ hnone => exact .unwatched _ _ rfl
      | watched _ _ id vigil custody =>
          refine .watched _ _ id (vigil.over hpass.toFollows hrostered hgone rfl (.inr rfl)) ?_
          refine custody.handedOn h.rostered hpass.toFollows (fun number r hhandler hid => ?_)
            (still_handing hcall) hposts rfl rfl
          rcases vigil.watcher with hnone | hsome
          · exact absurd (hnone.symm.trans hid) nofun
          · cases hsome.symm.trans hid
            exact absurd (vigil.role.symm.trans hhandler) nofun

/-- A watcher that was woken disconnects its listener, if that is still there. -/
theorem Tended.wake (h : Tended role log s endpoints (some (.work (.watch label))))
    (hlookup : endpoints.lookup label = some (.channel c held watch)) :
    let out := c.wake Stage.post s.timers
    ∃ role', Tended role' log { s with timers := out.2.1 }
      (replace endpoints label (.channel out.1 held watch)) none := by
  unfold Channel.wake
  split
  next =>
    refine h.disconnect hlookup fun k hk => ?_
    cases hk
    exact .inr (.watch rfl)
  next hdropped =>
    have hidle : Idle endpoints s.dispatcher (.work (.watch label)) := by
      refine idle_watch fun c' held' id hfound => ?_
      cases hlookup.symm.trans hfound
      exact .inl (Bool.eq_false_iff.mpr hdropped)
    have hdone : Tended role log s endpoints none :=
      h.still rfl (Dispatcher.Kept.refl _) (List.Subset.refl _) rfl fun k hk => by
        cases hk
        exact .inr hidle
    exact ⟨role, hdone.amend hlookup c.sent c.buffer (fun hheld => hheld) nofun⟩

theorem Tended.notify (h : Tended role log s endpoints call)
    (hlookup : endpoints.lookup label = some (.channel c held watch))
    (hcall : ∀ k, call = some k → call' = call ∨ k = .notify label) :
    let out := c.notify Stage.post s.timers
    ∃ role', Tended role' log { s with timers := out.2.1 }
      (replace endpoints label (.channel out.1 held watch)) call' := by
  have hanswered (disconnected : Bool) (k : Call String Posted) (hk : call = some k) :
      call' = call ∨ Answered label disconnected k := by
    refine (hcall k hk).imp_right ?_
    rintro rfl
    exact .notify
  cases hdisconnected : c.disconnected with
  | true =>
      rw [Channel.notify_of_disconnected _ _ hdisconnected]
      exact ⟨role, h.amend hlookup c.sent c.buffer (fun hdropped => hdropped) (hanswered _)⟩
  | false =>
      by_cases haccepting : c.receiver = .accepting
      · rw [Channel.notify_of_accepting _ _ hdisconnected haccepting]
        exact ⟨role, h.amend hlookup _ _ (fun hdropped => hdropped) (hanswered _)⟩
      · rw [Channel.notify_of_closed _ _ hdisconnected haccepting]
        exact h.disconnect hlookup (hanswered _)

/-- A listener that nobody holds goes away, and its watcher with it. -/
theorem Tended.dropListener (h : Tended role log s endpoints call)
    (hlookup : endpoints.lookup label = some (.channel c false watch)) (halive : c.alive = true)
    (hnobody : ∀ r, ¬ Enlists s.dispatcher label r) :
    let out := c.dropListener s.timers
    Tended role log { s with timers := out.2 }
      (replace endpoints label (.channel out.1 false watch)) call := by
  have hattended := h.attended label _ hlookup
  obtain ⟨hrostered, hpass, hgone⟩ :=
    stopWatching_passes (c := { c with alive := false }) h.rostered
  unfold Channel.dropListener
  rw [if_pos halive]
  refine h.change hlookup rfl (hpass.mono fun id => hattended.watch_eq) hrostered
    (List.Subset.refl _) (fun _ _ => .inl rfl) ?_
  cases hattended with
  | unwatched _ _ hnone => exact .unwatched _ _ rfl
  | watched _ _ id vigil custody =>
      refine .watched _ _ id (vigil.over hpass.toFollows hrostered hgone rfl (.inl rfl)) ?_
      refine ⟨custody.severed, fun r hr => absurd hr (hnobody r), fun hnew => ?_,
        fun _ => ⟨rfl, hnobody⟩⟩
      exact ⟨(custody.fresh hnew).1, fun r hr => absurd hr (hnobody r)⟩

/-- A listener goes away exactly if nobody holds it. -/
theorem Tended.reclaim (h : Tended role log s endpoints call)
    (hlookup : endpoints.lookup label = some (.channel c held watch)) (kept : Bool)
    (hnobody : kept = false → held = false ∧ ∀ r, ¬ Enlists s.dispatcher label r) :
    let out := c.reclaim kept s.timers
    Tended role log { s with timers := out.2 }
      (replace endpoints label (.channel out.1 held watch)) call := by
  have hstays : Tended role log s (replace endpoints label (.channel c held watch)) call :=
    h.amend hlookup c.sent c.buffer (fun hheld => hheld) fun _ _ => .inl rfl
  unfold Channel.reclaim
  split
  next => exact hstays
  next hfree =>
    obtain ⟨rfl, hnone⟩ := hnobody (Bool.eq_false_iff.mpr hfree)
    cases halive : c.alive with
    | true => exact h.dropListener hlookup halive hnone
    | false =>
        unfold Channel.dropListener
        rw [halive]
        exact hstays

/-- A receiver goes away, which wakes the watcher. -/
theorem Tended.endReceiver (h : Tended role log s endpoints call)
    (hlookup : endpoints.lookup label = some (.channel c held watch)) {receiver : Receiver}
    (hended : receiver ≠ .accepting) (buffer : List Notice) :
    Tended role log { s with timers := Channel.alert watch s.timers }
      (replace endpoints label (.channel { c with receiver, buffer } held watch)) call := by
  cases h.attended label _ hlookup with
  | unwatched _ _ hnone =>
      exact h.change hlookup rfl (Passes.refl role _ _) h.rostered (List.Subset.refl _)
        (fun _ _ => .inl rfl) (.unwatched _ _ hnone)
  | watched _ _ id vigil custody =>
      have hpass : Passes role role (fun other => some id = some other) s.timers.executor
          (s.timers.executor.raise id) := passes_raise rfl
      have hwoken {job : Job (Errand Posted)} (hjob : job ∈ s.timers.executor.jobs)
          (hid : job.id = id) (hlive : job.cancelled = false) :
          job.raise.wait = .signal (receiver ≠ .accepting) := by
        unfold Job.raise
        rw [vigil.wait job hjob hid hlive]
        simp [hended]
      refine h.change hlookup rfl hpass (h.rostered.raise id) (List.Subset.refl _)
        (fun _ _ => .inl rfl) (.watched _ _ id ?_ ?_)
      · refine ⟨vigil.number, vigil.role, vigil.watcher, vigil.stopped, vigil.kept, vigil.dropped,
          fun _ => .inr hended, fun job hjob hid hlive => ?_, fun halive hconnected => ?_⟩
        · obtain ⟨old, hold, rfl⟩ := Executor.mem_raise.mp hjob
          by_cases heq : old.id = id
          · rw [if_pos heq] at hlive ⊢
            exact hwoken hold heq (old.raise_cancelled.symm.trans hlive)
          · rw [if_neg heq] at hid
            exact absurd hid heq
        · refine (vigil.waits halive hconnected).imp ?_ fun hcalled => ⟨hcalled.1, hended⟩
          rintro ⟨job, hjob, hid, hlive⟩
          refine ⟨job.raise, Executor.mem_raise.mpr ⟨job, hjob, if_pos hid⟩, ?_, ?_⟩
          · exact job.raise_id.trans hid
          · exact job.raise_cancelled.trans hlive
      · have hcustody := custody.pass h.rostered hpass.toFollows (fun number r hhandler hid => ?_)
          (fun _ hr => hr) fun _ _ _ => rfl
        · exact ⟨hcustody.severed, hcustody.covered, hcustody.fresh, hcustody.dropped⟩
        · cases hid
          exact absurd (vigil.role.symm.trans hhandler) nofun

/-! ## The beginning of a connection -/

/-- A listener is handed its registration, the only one it ever gets. Where the end has already
come it posts it at once, and its watcher still has that to notice. -/
theorem Tended.install {r : Registration}
    (h : Tended role log s endpoints (some (.install label r)))
    (hlookup : endpoints.lookup label = some (.channel c held watch))
    (hnew : watch.isSome = true → label ∉ log) :
    let out := c.onDisconnect Stage.post s.timers r
    ∃ role', Tended role' (log ++ if watch.isSome then [label] else [])
      { s with timers := out.2 } (replace endpoints label (.channel out.1 held watch)) none := by
  have hlog : log ⊆ log ++ if watch.isSome then [label] else [] := List.subset_append_left _ _
  have hcall (k : Call String Posted) (hk : some (Call.install label r) = some k) :
      (none : Option (Call String Posted)) = some (.install label r) ∨
        addressee k = some label := by
    cases hk
    exact .inr rfl
  have hattended := h.attended label _ hlookup
  -- it was not registered before, so it is under the registration that it is handed
  have honly {id : TaskId} (hwatch : watch = some id) (custody : Custody log s.dispatcher
      s.timers.executor (some (.install label r)) label c held) (other : Registration)
      (hother : Enlists s.dispatcher label other) : other = r := by
    cases (custody.fresh (hnew (hwatch ▸ rfl))).2 other hother
    rfl
  unfold Channel.onDisconnect
  dsimp only
  by_cases hends : c.disconnected = true ∨ c.receiver ≠ .accepting
  · rw [if_pos hends]
    obtain ⟨role', hrostered, hpass, hposts, -⟩ :=
      postHandler_passes (c := { c with handler := some r, disconnected := true }) h.rostered
        (fun _ => False)
    refine ⟨role', h.change hlookup rfl (hpass.mono nofun) hrostered hlog hcall ?_⟩
    cases hattended with
    | unwatched _ _ hnone => exact .unwatched _ _ hnone
    | watched _ _ id vigil custody =>
        have hvigil : Vigil role' _ none label c id := vigil.pass hpass.toFollows nofun nofun
        refine .watched _ _ id ?_ ?_
        · refine ⟨hvigil.number, hvigil.role, hvigil.watcher, hvigil.stopped, nofun,
            hvigil.dropped, fun _ => ?_, hvigil.wait, nofun⟩
          exact hends.elim vigil.severed .inr
        · refine ⟨fun _ => rfl, fun other hother => ?_, fun hfresh => ?_, custody.dropped⟩
          · exact .inr (.inl (honly rfl custody other hother ▸ hposts r rfl))
          · exact absurd (List.mem_append_right _ List.mem_cons_self) hfresh
  · rw [if_neg hends]
    refine ⟨role, h.change hlookup rfl (Passes.refl role _ _) h.rostered hlog hcall ?_⟩
    cases hattended with
    | unwatched _ _ hnone => exact .unwatched _ _ hnone
    | watched _ _ id vigil custody =>
        have hpass := Passes.refl role (fun _ => False) s.timers.executor
        refine .watched _ _ id ?_ ?_
        · exact (vigil.pass hpass.toFollows nofun nofun).congr rfl rfl rfl rfl
        · refine ⟨fun hdisconnected => absurd (.inl hdisconnected) hends, fun other hother => ?_,
            fun hfresh => ?_, custody.dropped⟩
          · exact .inl (honly rfl custody other hother ▸ rfl)
          · exact absurd (List.mem_append_right _ List.mem_cons_self) hfresh

/-! ## New endpoints -/

/-- An endpoint comes in under a label that is not taken. -/
theorem Tended.admit (h : Tended role log s endpoints call)
    (hfree : endpoints.lookup label = none) {new : Endpoint}
    (hfollows : Follows role role' (fun _ => False) s.timers.executor l.executor)
    (hrostered : Rostered role' (runners s.frames) l.executor)
    (hwatches : ∀ id < l.executor.nextId, s.timers.executor.nextId ≤ id → ∀ other,
      role' id = .posted (.watch other) → other = label ∧ new.watch? = some id)
    (hnew : Attended role' log s.dispatcher l.executor call label new) :
    Tended role' log { s with timers := l } (endpoints ++ [(label, new)]) call := by
  have hlookup (other : String) : (endpoints ++ [(label, new)]).lookup other =
      (endpoints.lookup other).or (if other = label then some new else none) := by
    rw [List.lookup_append, List.lookup_cons]
    by_cases hlabel : other = label
    · simp [hlabel]
    · have hne : (other == label) = false := by simpa using hlabel
      simp [hlabel, hne]
  have hfound {other : String} {endpoint : Endpoint}
      (h : (endpoints ++ [(label, new)]).lookup other = some endpoint) :
      endpoints.lookup other = some endpoint ∨ (other = label ∧ new = endpoint) := by
    rw [hlookup, Option.or_eq_some_iff] at h
    refine h.imp_right fun ⟨_, h⟩ => ?_
    simpa using h
  refine ⟨hrostered, fun x hx => ?_, h.registry, fun other endpoint hother => ?_,
    fun other r hr => ?_, fun id hid other hwatching => ?_⟩
  · obtain ⟨hlt, origin, ticket, hfanOut⟩ := h.fanOuts x hx
    exact ⟨Nat.lt_of_lt_of_le hlt hfollows.next, origin, ticket,
      (hfollows.roles _ hlt).trans hfanOut⟩
  · rcases hfound hother with hold | ⟨rfl, rfl⟩
    · exact (h.attended other endpoint hold).pass h.rostered hfollows (fun _ _ => nofun)
        (fun _ _ _ => nofun) (fun _ hr => hr) fun _ _ _ => rfl
    · exact hnew
  · rw [hlookup, Option.isSome_or, h.known other r hr]
    rfl
  · by_cases hold : id < s.timers.executor.nextId
    · obtain ⟨c, held, hother⟩ :=
        h.appointed id hold other ((hfollows.roles id hold).symm.trans hwatching)
      exact ⟨c, held, by rw [hlookup, hother, Option.some_or]⟩
    · obtain ⟨rfl, hwatch⟩ := hwatches id hid (Nat.le_of_not_lt hold) other hwatching
      cases new with
      | recording => cases hwatch
      | channel c held watch =>
          cases hwatch
          exact ⟨c, held, by rw [hlookup, hfree, Option.none_or, if_pos rfl]⟩

/-- Somebody who is watched by nobody comes in. -/
theorem Tended.admit_unwatched (h : Tended role log s endpoints call)
    (hfree : endpoints.lookup label = none) {new : Endpoint}
    (hnew : Attended role log s.dispatcher s.timers.executor call label new) :
    Tended role log s (endpoints ++ [(label, new)]) call := by
  have hpass := Passes.refl role (fun _ => False) s.timers.executor
  refine h.admit hfree hpass.toFollows h.rostered (fun id hlt hle => ?_) hnew
  exact absurd hlt (Nat.not_lt.mpr hle)

/-- A watched listener comes in, and its watcher begins to wait. -/
theorem Tended.admit_watched (h : Tended role log s endpoints call)
    (hfree : endpoints.lookup label = none) (origin : Origin) :
    let (id, executor) := s.timers.executor.spawn (.posted (.watch label))
    ∃ role', Tended role' log { s with timers := { s.timers with executor } }
      (endpoints ++ [(label, .channel { origin, watcher := some id } true (some id))]) call := by
  have hrostered := h.rostered.track (.signal false) (.posted (.watch label))
  have hnobody (r : Registration) : ¬ Enlists s.dispatcher label r := fun hr =>
    absurd (h.known label r hr) (by rw [hfree]; nofun)
  refine ⟨_, h.admit hfree (follows_track role _ _ _ _) hrostered (fun id hlt hle other hrole => ?_)
    (.watched _ _ _ ?_ ?_)⟩
  · cases Nat.le_antisymm (Nat.le_of_lt_succ hlt) hle
    rw [Function.update_self] at hrole
    cases hrole
    exact ⟨rfl, rfl⟩
  · refine ⟨Nat.lt_succ_self _, Function.update_self _ _ _, .inr rfl, nofun, fun _ _ => rfl, nofun,
      nofun, fun job hjob hid _ => ?_, fun _ _ => ?_⟩
    · rcases List.mem_append.mp hjob with hold | hnew
      · exact absurd hid (Nat.ne_of_lt (h.rostered.id_lt hold))
      · cases List.mem_singleton.mp hnew
        rfl
    · exact .inl ⟨_, List.mem_append_right _ List.mem_cons_self, rfl, rfl⟩
  · exact ⟨fun _ => rfl, fun r hr => absurd hr (hnobody r),
      fun _ => ⟨rfl, fun r hr => absurd hr (hnobody r)⟩, nofun⟩

end Cadence.Rehearsal.Broadcasting

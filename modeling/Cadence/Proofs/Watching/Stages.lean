import Cadence.Proofs.Watching.Endpoints

/-! # Stages with watched listeners

A stage is well as long as its session and its endpoints are tended. Each thing that may happen
on it keeps that up: calls, steps from outside or inside a notice, and turns of the loop.
-/

namespace Cadence.Broadcast.Dispatcher

/-- A label is among the listeners exactly if some registration stands for it. -/
theorem Sound.any_listener_iff {d : Dispatcher String} (h : d.Sound) (label : String) :
    (d.records.any fun (_, r) => r.listeners.any (·.2 == label)) = true ↔
      ∃ origin id, d.listener? origin id = some label := by
  rw [List.any_eq_true]
  constructor
  · rintro ⟨⟨origin, record⟩, hrecord, hany⟩
    obtain ⟨⟨id, found⟩, hlistener, hfound⟩ := List.any_eq_true.mp hany
    obtain rfl : found = label := by simpa using hfound
    have hlookup : d.record? origin = some record :=
      (Labelled.lookup_eq_some_iff h.origins_nodup).mpr hrecord
    have hnodup : (record.listeners.map Prod.fst).Nodup := by
      have hascending := h.ascending origin
      rw [registered_of_record? hlookup] at hascending
      exact hascending.imp Nat.ne_of_lt
    refine ⟨origin, id, ?_⟩
    unfold listener?
    rw [hlookup]
    exact (Labelled.lookup_eq_some_iff hnodup).mpr hlistener
  · rintro ⟨origin, id, hlistener⟩
    obtain ⟨record, hrecord, hlookup⟩ := Option.bind_eq_some_iff.mp hlistener
    refine ⟨(origin, record), (Labelled.lookup_eq_some_iff h.origins_nodup).mp hrecord, ?_⟩
    obtain ⟨before, after, heq, -⟩ := List.lookup_eq_some_iff.mp hlookup
    simp [heq]

end Cadence.Broadcast.Dispatcher

namespace Cadence.Channel

variable {η : Type} (c : Channel η)

/-- To receive changes the buffer alone. -/
theorem receive_drains : ∃ buffer, c.receive.2 = { c with buffer } := by
  unfold receive
  split
  next => exact ⟨c.buffer, rfl⟩
  next n rest _ => exact ⟨rest, rfl⟩

theorem poll_drains (sending : Bool) : ∃ buffer, (c.poll sending).2 = { c with buffer } := by
  obtain ⟨buffer, hbuffer⟩ := c.receive_drains
  refine ⟨buffer, ?_⟩
  unfold poll
  split
  next hreceive => exact (congrArg Prod.snd hreceive).symm.trans hbuffer
  next hreceive => exact (congrArg Prod.snd hreceive).symm.trans hbuffer

theorem close_ends :
    ∃ receiver buffer, receiver ≠ .accepting ∧ c.close = { c with receiver, buffer } := by
  unfold close
  split
  next => exact ⟨.closed, c.buffer, nofun, rfl⟩
  next hended => exact ⟨c.receiver, c.buffer, hended, rfl⟩

end Cadence.Channel

namespace Cadence.Rehearsal.Broadcasting

open Cadence.Broadcast
open Executor (Drive Loop Rostered Spared)

/-- A stage on a loop that may choose among ready tasks. -/
abbrev LoopStage := Stage (Loop (Errand Posted)) Drive

namespace Stage

variable {role : TaskId → Errand Posted} {log : List String} {w : LoopStage} {label : String}
  {call : Option (Call String Posted)}

/-- Everything on a stage is tended. -/
def Tends (w : LoopStage) (log : List String) : Prop :=
  ∃ role, Tended role log w.session w.endpoints (callOf w.signal)

/-- The listener that a call gives its registration, if it is a watched one. -/
def enrolls (w : LoopStage) : Call String Posted → List String
  | .install label _ => if ((w.endpoint? label).bind Endpoint.watch?).isSome then [label] else []
  | _ => []

/-- The watched listener that is given its registration next. -/
def enrolled (w : LoopStage) : List String := (callOf w.signal).elim [] w.enrolls

theorem registered_iff (h : Tended role log w.session w.endpoints call) :
    w.registered label = true ↔ ∃ r, Enlists w.session.dispatcher label r := by
  unfold registered
  rw [h.registry.any_listener_iff]
  constructor
  · rintro ⟨origin, id, hlistener⟩
    exact ⟨⟨origin, id⟩, hlistener⟩
  · rintro ⟨r, hr⟩
    exact ⟨r.origin, r.id, hr⟩

/-! ## Listeners that nobody holds -/

theorem tended_reclaim (h : Tended role log w.session w.endpoints call) (label : String) :
    Tended role log (w.reclaim label).session (w.reclaim label).endpoints call := by
  unfold reclaim
  split
  next c held watch hlookup =>
    refine h.reclaim hlookup (held || w.registered label) fun hfree => ?_
    obtain ⟨hheld, hregistered⟩ := Bool.or_eq_false_iff.mp hfree
    refine ⟨hheld, fun r hr => ?_⟩
    exact Bool.eq_false_iff.mp hregistered ((registered_iff h).mpr ⟨r, hr⟩)
  next => exact h

theorem reclaim_signal (w : LoopStage) (label : String) : (w.reclaim label).signal = w.signal := by
  unfold reclaim
  split <;> rfl

theorem tended_foldl_reclaim (labels : List (String × Endpoint))
    (h : Tended role log w.session w.endpoints call) :
    let w' := labels.foldl (fun w (label, _) => w.reclaim label) w
    Tended role log w'.session w'.endpoints call ∧ w'.signal = w.signal := by
  induction labels generalizing w with
  | nil => exact ⟨h, rfl⟩
  | cons entry rest ih =>
      obtain ⟨htended, hsignal⟩ := ih (tended_reclaim h entry.1)
      exact ⟨htended, hsignal.trans (w.reclaim_signal entry.1)⟩

theorem tends_absorb {out : Outcome (Loop (Errand Posted)) Drive String Posted}
    (h : Tended role log out.session w.endpoints (callOf out.signal)) :
    (w.absorb out).Tends log := by
  obtain ⟨htended, hsignal⟩ := tended_foldl_reclaim w.endpoints
    (w := { w with session := out.session, signal := out.signal, notes := w.notes ++ out.notes }) h
  have hout : (w.absorb out).signal = out.signal := hsignal
  exact ⟨role, hout ▸ htended⟩

/-! ## Moves and answers -/

theorem tends_move (h : Tended role log w.session w.endpoints none) (m : Move String)
    (hadd : ∀ origin label, m = .add origin label → (w.endpoints.lookup label).isSome ∧
      ∀ c id, w.endpoints.lookup label ≠ some (.channel c false (some id))) :
    (w.move m).Tends log := by
  obtain ⟨role', hmoved⟩ := h.perform id m hadd
  exact tends_absorb hmoved

theorem tends_resume (h : Tended role log w.session w.endpoints none) :
    (w.move .resume).Tends log :=
  tends_move h .resume nofun

/-- A registration is taken back, which is what its handler is called for. -/
theorem tended_move_disconnect {r : Registration}
    (h : Tended role log w.session w.endpoints call)
    (hcall : ∀ k, call = some k → k = .work (.handler r)) :
    Tended role log (w.move (.disconnect r)).session (w.move (.disconnect r)).endpoints none := by
  have hremoved : Tended role log
      { w.session with dispatcher := (w.session.dispatcher.remove r).1 } w.endpoints none := by
    refine h.remove r fun k hk => .inr ?_
    rw [hcall k hk]
    exact idle_handler fun label => not_enlists_remove h.registry label r
  exact (tended_foldl_reclaim w.endpoints hremoved).1

theorem tends_deliver (h : Tended role log w.session w.endpoints none) (reply : Reply) :
    (w.deliver reply).Tends log := by
  refine ⟨role, ?_⟩
  unfold deliver
  dsimp only
  split
  next => split <;> exact h
  next => exact h

/-! ## Calls -/

/-- A call that needs no answer is over. -/
theorem tended_idle {k : Call String Posted} (h : Tended role log w.session w.endpoints (some k))
    (hidle : Idle w.endpoints w.session.dispatcher k) :
    Tended role log w.session w.endpoints none :=
  h.still rfl (Dispatcher.Kept.refl _) (List.Subset.refl _) rfl fun k' hk => by
    cases hk
    exact .inr hidle

theorem tends_called_install {r : Registration}
    (h : Tended role log w.session w.endpoints (some (.install label r)))
    (honce : (log ++ w.enrolls (.install label r)).Nodup) :
    (w.called (.install label r)).Tends (log ++ w.enrolls (.install label r)) := by
  unfold enrolls endpoint? at honce ⊢
  unfold called endpoint?
  dsimp only at honce ⊢
  cases hlookup : w.endpoints.lookup label with
  | none =>
      rw [Option.bind_none, Option.isSome_none, if_neg nofun, List.append_nil]
      refine tends_resume (tended_idle h (idle_install fun c held id hfound => ?_))
      exact absurd (hlookup.symm.trans hfound) nofun
  | some endpoint =>
      cases endpoint with
      | recording origin handler =>
          rw [Option.bind_some, if_neg (by rintro ⟨⟩), List.append_nil]
          refine tends_resume (h.change hlookup rfl (Passes.refl role _ _) h.rostered
            (List.Subset.refl _) (fun k hk => ?_) (.recording origin (some r)))
          cases hk
          exact .inr rfl
      | channel c held watch =>
          rw [hlookup] at honce
          have hnew (hwatch : watch.isSome = true) : label ∉ log := fun hin => by
            rw [Option.bind_some, Endpoint.watch?, if_pos hwatch] at honce
            exact (List.nodup_append.mp honce).2.2 label hin label List.mem_cons_self rfl
          obtain ⟨role', hinstalled⟩ := h.install hlookup hnew
          exact tends_resume hinstalled

theorem tends_called_notify (h : Tended role log w.session w.endpoints (some (.notify label))) :
    (w.called (.notify label)).Tends log := by
  unfold called endpoint?
  dsimp only
  split
  next => exact ⟨role, tended_idle h (idle_notify label)⟩
  next c held watch hlookup =>
    obtain ⟨role', hnotified⟩ := h.notify hlookup fun k hk => by
      cases hk
      exact .inr rfl
    exact tends_resume hnotified
  next => exact tends_resume (tended_idle h (idle_notify label))

theorem tends_called_watch
    (h : Tended role log w.session w.endpoints (some (.work (.watch label)))) :
    (w.called (.work (.watch label))).Tends log := by
  unfold called endpoint?
  dsimp only
  split
  next c held watch hlookup =>
    obtain ⟨role', hwoken⟩ := h.wake hlookup
    exact tends_resume hwoken
  next hother =>
    refine tends_resume (tended_idle h (idle_watch fun c held id hfound => ?_))
    exact absurd hfound (hother c held (some id))

/-- Whatever a stage is called for, it does. -/
theorem tends_called {k : Call String Posted}
    (h : Tended role log w.session w.endpoints (some k)) (honce : (log ++ w.enrolls k).Nodup) :
    (w.called k).Tends (log ++ w.enrolls k) := by
  cases k with
  | install label r => exact tends_called_install h honce
  | notify label => exact (List.append_nil log).symm ▸ tends_called_notify h
  | work posted =>
      refine (List.append_nil log).symm ▸ ?_
      cases posted with
      | handler r =>
          exact tends_resume (tended_move_disconnect h fun k hk => by cases hk; rfl)
      | watch label => exact tends_called_watch h

/-! ## Steps -/

theorem tended_make (h : Tended role log w.session w.endpoints call) (label : String)
    (origin : Origin) (kind : Kind) :
    ∃ role', Tended role' log (w.make label origin kind).session
      (w.make label origin kind).endpoints call := by
  unfold make endpoint?
  cases hfree : w.endpoints.lookup label with
  | some => exact ⟨role, h⟩
  | none =>
      cases kind with
      | recording => exact ⟨role, h.admit_unwatched hfree (.recording origin none)⟩
      | channel => exact ⟨role, h.admit_unwatched hfree (.unwatched _ true rfl)⟩
      | watched => exact h.admit_watched hfree origin

/-- What was made is there. -/
theorem isSome_lookup_make (w : LoopStage) (label : String) (origin : Origin) (kind : Kind) :
    ((w.make label origin kind).endpoints.lookup label).isSome = true := by
  unfold make endpoint?
  split
  next hsome => exact hsome
  next =>
    rw [Labelled.lookup_isSome_iff]
    cases kind <;> simp [Channel.watched, Signals.spawn]

theorem tends_withReceiver (h : Tended role log w.session w.endpoints none) (label : String)
    {f : Channel Registration → Option TaskId → Reply × Channel Registration}
    (hf : ∀ c watch, ∃ buffer, (f c watch).2 = { c with buffer }) (otherwise : Reply) :
    (w.withReceiver label f otherwise).Tends log := by
  unfold withReceiver
  split
  next c held watch hlookup =>
    split
    next => exact tends_deliver h _
    next =>
      obtain ⟨buffer, hbuffer⟩ := hf c watch
      have hdrained : Tended role log w.session
          (replace w.endpoints label (.channel { c with buffer } held watch)) none :=
        h.amend hlookup c.sent buffer (fun hdropped => hdropped) nofun
      rw [← hbuffer] at hdrained
      exact tends_deliver hdrained _
  next => exact tends_deliver h _

theorem tends_endReceiver (h : Tended role log w.session w.endpoints none) (label : String)
    (reply otherwise : Reply) {f : Channel Registration → Channel Registration}
    (hf : ∀ c, ∃ receiver buffer, receiver ≠ .accepting ∧ f c = { c with receiver, buffer }) :
    (w.endReceiver label reply otherwise f).Tends log := by
  unfold endReceiver
  split
  next c held watch hlookup =>
    split
    next => exact tends_deliver h _
    next =>
      obtain ⟨receiver, buffer, hended, hout⟩ := hf c
      have hgone := h.endReceiver hlookup hended buffer
      rw [← hout] at hgone
      cases watch <;> exact tends_deliver hgone _
  next => exact tends_deliver h _

theorem tends_query (h : Tended role log w.session w.endpoints none)
    (answer : Dispatcher String → Reply) : (w.query answer).Tends log :=
  tends_deliver h _

theorem tends_add (h : Tended role log w.session w.endpoints none) (label : String)
    (origin : Origin) (kind : Kind) : (w.perform (.add label origin kind)).Tends log := by
  obtain ⟨role', hmade⟩ := tended_make h label origin kind
  unfold perform endpoint?
  dsimp only
  split
  next => exact tends_deliver hmade _
  next hheld =>
    refine tends_move hmade _ fun other name hadd => ?_
    cases hadd
    exact ⟨w.isSome_lookup_make label origin kind, fun c id => hheld c (some id)⟩

theorem tends_disconnect (h : Tended role log w.session w.endpoints none) (label : String) :
    (w.perform (.disconnect label)).Tends log := by
  unfold perform endpoint?
  dsimp only
  split
  next origin r hlookup =>
    have hgiven : Tended role log w.session
        (replace w.endpoints label (.recording origin none)) none :=
      h.change hlookup rfl (Passes.refl role _ _) h.rostered (List.Subset.refl _) nofun
        (.recording origin none)
    have hleft := tended_move_disconnect (r := r)
      (w := w.setEndpoint label (.recording origin none)) hgiven fun _ hk => nomatch hk
    exact tends_deliver hleft _
  next => exact tends_deliver h _
  next c watch hlookup =>
    obtain ⟨role', hdisconnected⟩ := h.disconnect hlookup nofun
    exact tends_deliver hdisconnected _
  next => exact tends_deliver h _

theorem tends_notify (h : Tended role log w.session w.endpoints none) (label : String) :
    (w.perform (.notify label)).Tends log := by
  unfold perform endpoint?
  dsimp only
  split
  next => exact ⟨role, h⟩
  next c watch hlookup =>
    obtain ⟨role', hnotified⟩ := h.notify hlookup fun _ hk => nomatch hk
    exact tends_deliver hnotified _
  next => exact tends_deliver h _

theorem tends_dropListener (h : Tended role log w.session w.endpoints none) (label : String) :
    (w.perform (.dropListener label)).Tends log := by
  unfold perform endpoint?
  dsimp only
  split
  next c watch hlookup =>
    have hlet : Tended role log w.session
        (replace w.endpoints label (.channel c false watch)) none :=
      h.amend hlookup c.sent c.buffer nofun nofun
    have hreclaimed := tended_reclaim (w := w.setEndpoint label (.channel c false watch)) hlet label
    exact tends_deliver hreclaimed _
  next => exact tends_deliver h _

/-- Any step keeps a stage well, wherever it is made. -/
theorem tends_perform (h : Tended role log w.session w.endpoints none) (step : Step) :
    (w.perform step).Tends log := by
  cases step with
  | make label origin kind =>
      obtain ⟨role', hmade⟩ := tended_make h label origin kind
      exact tends_deliver hmade _
  | add label origin kind => exact tends_add h label origin kind
  | disconnect label => exact tends_disconnect h label
  | notify label => exact tends_notify h label
  | broadcast => exact tends_move h _ nofun
  | dispatch origin => exact tends_move h _ nofun
  | remove r => exact tends_move h _ nofun
  | letGo => exact tends_move h _ nofun
  | record origin => exact tends_query h _
  | interval => exact tends_move h _ nofun
  | intervalCalls => exact tends_deliver h _
  | stats => exact tends_query h _
  | describe => exact tends_query h _
  | listener label => exact tends_deliver h _
  | dropListener label => exact tends_dropListener h label
  | receive label =>
      unfold perform
      exact tends_withReceiver h label (fun c _ => c.receive_drains) .gone
  | receiveAll label =>
      unfold perform
      exact tends_withReceiver h label (fun c watch => ⟨[], rfl⟩) .gone
  | poll label =>
      refine tends_withReceiver h label (fun c watch => ?_) .gone
      obtain ⟨buffer, hbuffer⟩ := c.poll_drains (c.sending watch w.session.timers)
      refine ⟨buffer, ?_⟩
      split <;> simp_all
  | close label =>
      exact tends_endReceiver h label _ _ Channel.close_ends
  | dropReceiver label =>
      exact tends_endReceiver h label _ _ fun c => ⟨.dropped, [], nofun, rfl⟩
  | travel t => exact tends_move h _ nofun

/-! ## What happens next -/

theorem tends_tick {w' : LoopStage} (h : w.Tends log) (htick : w.tick = some w')
    (honce : (log ++ w.enrolled).Nodup) : w'.Tends (log ++ w.enrolled) := by
  obtain ⟨role, htended⟩ := h
  unfold tick at htick
  unfold enrolled at honce ⊢
  cases hsignal : w.signal with
  | called k =>
      rw [hsignal] at htick htended honce
      cases htick
      exact tends_called htended honce
  | answered answer =>
      rw [hsignal] at htick htended
      cases htick
      exact (List.append_nil log).symm ▸ tends_deliver htended _
  | quiet =>
      rw [hsignal] at htick htended
      refine (List.append_nil log).symm ▸ ?_
      dsimp only at htick
      split at htick
      next =>
        cases htick
        exact tends_move htended _ nofun
      next =>
        split at htick
        next => cases htick
        next cue rest _ =>
          split at htick
          next step later _ =>
            cases htick
            exact tends_perform (w := { w with
              signal := .quiet
              cues := { cue with begun := some step, rest := later } :: rest }) htended step
          next =>
            cases htick
            have hleft : Tended role log w.session w.endpoints none := htended
            split
            next => exact tends_deliver (w := { w with signal := .quiet, cues := rest }) hleft _
            next =>
              split
              next => exact tends_resume (w := { w with signal := .quiet, cues := rest }) hleft
              next => exact ⟨role, hleft⟩

end Stage

end Cadence.Rehearsal.Broadcasting

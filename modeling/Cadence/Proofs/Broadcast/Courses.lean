import Cadence.Proofs.Broadcast.Exchange
import Cadence.Proofs.Broadcast.Roll

/-! # Runs, one within another

Four kinds of runs differ in what the surroundings of a session may do. In a run of deeds they
make moves and put work off; among happenings they also take work back, so deeds are happenings
(`Session.course_deeds`). In an exchange they have channel listeners as well, and all that these
do comes down to happenings of the session. Among beats, on any timeline, somebody else may leave
any timers behind, so happenings on an agenda are beats. Hence whatever is known of a wider kind
holds of the narrower ones within it.
-/

namespace Cadence.Broadcast

/-! ## Happenings are beats -/

namespace Session

variable {ε κ : Type}

/-- A happening as a beat. Whoever puts work off or takes it back changes the timers. -/
def beat (s : OnAgenda ε κ) : Happening ε κ → Roll.Beat (Agenda (Errand κ)) ε
  | .deed (.move route m) => .move route.visit m
  | .deed (.post delay work) => .others (s.timers.schedule delay (.posted work)).2
  | .withdraw id => .others (withdraw s.timers id)

/-- The beats of some happenings. -/
def beats (s : OnAgenda ε κ) : List (Happening ε κ) → List (Roll.Beat (Agenda (Errand κ)) ε)
  | [] => []
  | h :: rest => s.beat h :: (s.undergo h).session.beats rest

/-- A session undergoes a happening as it does the beat, and the outcome is the same. -/
theorem next_beat (s : OnAgenda ε κ) (h : Happening ε κ) :
    (Roll.next s (s.beat h) : Result ε κ) = s.undergo h := by
  cases h with
  | withdraw id => rfl
  | deed deed => cases deed <;> rfl

theorem after_beats (s : OnAgenda ε κ) (run : List (Happening ε κ)) :
    Roll.after s (s.beats run) = s.course run := by
  induction run generalizing s with
  | nil => rfl
  | cons h rest ih =>
      show Roll.after (Roll.next s (s.beat h) : Result ε κ).session _ = _
      rw [next_beat]
      exact ih _

end Session

/-! ## An exchange goes on by happenings -/

theorem Handover.unwatched {κ : Type} {c c' : Channel κ} {given posted : Option κ}
    (h : Handover c given c' posted) (hwatcher : c.watcher = none) : c'.watcher = none := by
  cases h with
  | keep _ _ _ watcher => exact watcher hwatcher
  | sever _ _ watcher => exact watcher hwatcher

namespace Exchange

variable {ν ω : Type} {x x' x'' : Exchange ν ω}

/-- All that the session of an exchange goes through are happenings, and nobody comes to watch
for a channel listener. -/
structure GoesOn (x x' : Exchange ν ω) : Prop where
  watcher : ∀ name, (x'.channel name).watcher = none
  course : ∃ run, x'.session = x.session.course run

theorem GoesOn.refl (hwatcher : ∀ name, (x.channel name).watcher = none) : GoesOn x x :=
  ⟨hwatcher, [], rfl⟩

theorem GoesOn.trans (h : GoesOn x x') (h' : GoesOn x' x'') : GoesOn x x'' := by
  obtain ⟨run, heq⟩ := h.course
  obtain ⟨more, heq'⟩ := h'.course
  refine ⟨h'.watcher, run ++ more, ?_⟩
  rw [heq', heq, Session.course_append]

variable [DecidableEq ν] (hwatcher : ∀ name, (x.channel name).watcher = none)

include hwatcher

/-- To post something without delay is a deed, and to post nothing is nothing at all. -/
theorem goesOn_setChannel (name : ν) {c' : Channel (Chore ω)} (hc : c'.watcher = none)
    (posted : Option (Chore ω)) :
    GoesOn x (x.setChannel name c' (posting x.session.timers posted)) where
  watcher other := by
    by_cases hother : other = name
    · subst hother
      simpa [setChannel] using hc
    · simpa [setChannel, hother] using hwatcher other
  course := by
    refine ⟨posted.toList.map fun work => .deed (.post .zero work), ?_⟩
    cases posted <;> rfl

theorem goesOn_install (name : ν) (chore : Chore ω) : GoesOn x (x.install name chore) := by
  obtain ⟨c', posted, heq, hover⟩ := x.exists_handover_install name chore
  rw [heq]
  exact goesOn_setChannel hwatcher name (hover.unwatched (hwatcher name)) posted

theorem goesOn_notify (name : ν) : GoesOn x (x.notify name) := by
  obtain ⟨c', posted, heq, hover⟩ := exists_handover_notify (hwatcher name)
  rw [heq]
  exact goesOn_setChannel hwatcher name (hover.unwatched (hwatcher name)) posted

theorem goesOn_disconnect (name : ν) : GoesOn x (x.disconnect name) := by
  obtain ⟨c', posted, heq, hover⟩ := exists_handover_disconnect (hwatcher name)
  rw [heq]
  exact goesOn_setChannel hwatcher name (hover.unwatched (hwatcher name)) posted

theorem goesOn_meet (call : Option (Call (Listener ν) (Chore ω))) : GoesOn x (x.meet call) := by
  unfold meet
  split
  next name r => exact goesOn_install hwatcher name _
  next name => exact goesOn_notify hwatcher name
  next r => exact ⟨hwatcher, [.deed (.move .straight (.disconnect r))], rfl⟩
  next => exact .refl hwatcher

theorem goesOn_undergo (h : Happening (Listener ν) (Chore ω)) : GoesOn x (x.undergo h) := by
  have hundergone : GoesOn x { x with session := (x.session.undergo h).session } :=
    ⟨hwatcher, [h], rfl⟩
  exact hundergone.trans (goesOn_meet hundergone.watcher _)

theorem goesOn_act (a : Act ν ω) : GoesOn x (x.act a) := by
  have hreceiver (name : ν) {c' : Channel (Chore ω)}
      (hc : c'.watcher = (x.channel name).watcher) :
      GoesOn x (x.setChannel name c' x.session.timers) :=
    goesOn_setChannel hwatcher name (hc.trans (hwatcher name)) none
  cases a with
  | move route m => exact goesOn_undergo hwatcher _
  | post delay work => exact goesOn_undergo hwatcher _
  | withdraw id =>
      unfold act
      dsimp only
      split
      next => exact .refl hwatcher
      next => exact goesOn_undergo hwatcher _
  | install name work => exact goesOn_install hwatcher name _
  | notify name => exact goesOn_notify hwatcher name
  | disconnect name => exact goesOn_disconnect hwatcher name
  | receive name =>
      refine hreceiver name ?_
      unfold Channel.receive
      split <;> rfl
  | close name =>
      refine hreceiver name ?_
      unfold Channel.close
      split <;> rfl
  | dropReceiver name => exact hreceiver name rfl

theorem goesOn_course (run : List (Act ν ω)) : GoesOn x (x.course run) := by
  induction run using List.reverseRecOn with
  | nil => exact .refl hwatcher
  | append_singleton run a ih =>
      rw [course_concat]
      exact ih.trans (goesOn_act ih.watcher a)

omit hwatcher in
/-- The session of an exchange has gone through a run of happenings. -/
theorem exists_course (origins : ν → Origin) (intervals : IntervalSource) (delays : DelaySource)
    (run : List (Act ν ω)) :
    ∃ happenings, ((opening origins intervals delays).course run).session =
      (Session.fresh intervals delays).course happenings :=
  (goesOn_course (x := opening origins intervals delays) (fun _ => rfl) run).course

end Exchange

end Cadence.Broadcast

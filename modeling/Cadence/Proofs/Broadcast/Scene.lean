import Cadence.Proofs.Broadcast.Cells
import Cadence.Proofs.Broadcast.Views
import Mathlib.Logic.Relation

/-! # Scenes

A scene is a session on an agenda together with what its surroundings have seen: what
the listeners of each origin were told, and the answers. Drives take their turns and
notified listeners return without anybody's doing; all a listener may do while it is
notified is to take registrations of its own origin back. So after each happening a
scene settles, until somebody outside has to act, and it always comes to that point.
-/

namespace Cadence.Broadcast

/-- A registration that a listener takes back while it is notified, by its handler or by the
operation. -/
structure Removal where
  byHandler : Bool
  id : EndpointId

def Removal.move {ε : Type} (removal : Removal) (origin : Origin) : Move ε :=
  if removal.byHandler then .disconnect ⟨origin, removal.id⟩ else .remove ⟨origin, removal.id⟩

/-- What is taken back when a listener of an origin is notified. It depends on what the
listeners of the origin have been told so far, with this notification last. -/
abbrev Reaction := Origin → List (EndpointId × Span) → List Removal

/-- A session, what the listeners of each origin were told and when, and the answers. -/
structure Scene (ε κ : Type) where
  session : OnAgenda ε κ
  told : Origin → List (EndpointId × Span) := fun _ => []
  answers : List Answer := []

section Outcomes

variable {ε κ : Type}

/-- The answer that a deed led to, if it led to one. -/
def Outcome.answer? (out : Result ε κ) : Option Answer :=
  match out.signal with
  | .answered answer => some answer
  | _ => none

/-- A session in which some registrations of an origin are taken back. -/
def Session.react (s : OnAgenda ε κ) (origin : Origin) (removals : List Removal) : OnAgenda ε κ :=
  removals.foldl (fun s removal => (s.act (.move .straight (removal.move origin))).session) s

/-- How much a frame may still do by itself. -/
def Frame.weight {δ : Type} : Frame δ → Nat
  | .travelling _ => 1
  | .fanning _ _ _ rest => rest.length + 1
  | .installing _ => 0
  | .working => 0

def Session.weight (s : OnAgenda ε κ) : Nat :=
  s.frames.foldr (fun frame weight => frame.weight + weight) 0

end Outcomes

namespace Scene

variable {ε κ : Type}

/-- The scene after an outcome of its session. -/
def absorb (sc : Scene ε κ) (out : Result ε κ) : Scene ε κ where
  session := out.session
  told := match out.notification? with
    | some n => Function.update sc.told n.origin (sc.told n.origin ++ [(n.id, n.time)])
    | none => sc.told
  answers := sc.answers ++ out.answer?.toList

/-- What happens by itself: the drive on top takes its turn, or the notified listener reacts
and returns. -/
def tick (reaction : Reaction) (sc : Scene ε κ) : Option (Scene ε κ) :=
  match sc.session.frames with
  | .travelling _ :: _ => some (sc.absorb (sc.session.act (.move .straight .proceed)))
  | .fanning _ origin _ _ :: _ =>
      some (sc.absorb ((sc.session.react origin (reaction origin (sc.told origin))).act
        (.move .straight .resume)))
  | _ => none

end Scene

/-! ## Coming to rest -/

namespace Dispatcher

variable {ε : Type}

/-- A scheduled fan-out that begins or is dropped. -/
theorem startFanOut_task (d : Dispatcher ε) (origin : Origin) (ticket : Ticket) :
    (d.startFanOut origin (some ticket)).2.1 =
      { d with
        inFlight := d.inFlight.eraseP (·.1 = ticket)
        stats :=
          { d.stats with
            droppedFanouts := d.stats.droppedFanouts + if d.record? origin = none then 1 else 0
            fanouts := d.stats.fanouts + if d.record? origin = none then 0 else 1 } } := by
  unfold startFanOut record?
  cases hrecord : d.records.lookup origin <;> simp [hrecord]

theorem nextListener_length {d : Dispatcher ε} {origin : Origin} {ids later : List EndpointId}
    {id : EndpointId} {endpoint : ε}
    (h : d.nextListener origin ids = some (id, endpoint, later)) : later.length < ids.length := by
  obtain ⟨passed, rfl, _⟩ := nextListener_eq_some h
  simp only [List.length_append, List.length_cons]
  omega

end Dispatcher

namespace Session

variable {ε κ : Type} {s : OnAgenda ε κ}

theorem act_removal (s : OnAgenda ε κ) (origin : Origin) (removal : Removal) :
    (s.act (.move .straight (removal.move origin))).session =
      if removal.byHandler ∨ s.standing = .owned then
        { s with dispatcher := (s.dispatcher.remove ⟨origin, removal.id⟩).1 }
      else s := by
  obtain ⟨byHandler, id⟩ := removal
  cases byHandler with
  | true => simp [Removal.move, act, perform, Move.needsDispatcher]
  | false =>
      by_cases howned : s.standing = .owned
      · simp [Removal.move, act, perform, Move.needsDispatcher, howned, remove, answer]
      · simp [Removal.move, act, perform, Move.needsDispatcher, howned]

/-- A reaction touches the records only. -/
theorem react_eq (s : OnAgenda ε κ) (origin : Origin) (removals : List Removal) :
    ∃ records, s.react origin removals =
      { s with dispatcher := { s.dispatcher with records } } := by
  unfold react
  induction removals generalizing s with
  | nil => exact ⟨s.dispatcher.records, rfl⟩
  | cons removal rest ih =>
      obtain ⟨records, hrest⟩ := ih (s.act (.move .straight (removal.move origin))).session
      rw [List.foldl_cons, hrest, act_removal]
      split
      next =>
        obtain ⟨records', hremove⟩ := s.dispatcher.remove_eq ⟨origin, removal.id⟩
        rw [hremove]
        exact ⟨records, rfl⟩
      next => exact ⟨records, rfl⟩

theorem Kempt.react (h : s.Kempt) (origin : Origin) (removals : List Removal) :
    (s.react origin removals).Kempt := by
  unfold Session.react
  induction removals generalizing s with
  | nil => exact h
  | cons removal rest ih => exact ih (h.act _)

theorem queue_close_le (s : OnAgenda ε κ) :
    s.close.1.timers.queue.length ≤ s.timers.queue.length := by
  show (s.dispatcher.inFlight.foldl (fun a slot => Agenda.cancel a slot.2)
    s.timers).queue.length ≤ _
  generalize s.dispatcher.inFlight = slots
  generalize s.timers = a
  induction slots generalizing a with
  | nil => exact Nat.le_refl _
  | cons slot rest ih =>
      refine Nat.le_trans (ih (a.cancel slot.2)) ?_
      unfold Agenda.cancel
      split
      next => exact Nat.le_refl _
      next => exact List.length_eraseP_le

/-- An answer leaves the frames alone, and nothing new is put off with it. -/
theorem load_answer (s : OnAgenda ε κ) (notes : List Note) (answer : Answer) :
    (s.answer notes answer : Result ε κ).session.frames = s.frames ∧
      (s.answer notes answer : Result ε κ).session.timers.queue.length ≤
        s.timers.queue.length := by
  unfold Session.answer
  split
  next => exact ⟨rfl, s.queue_close_le⟩
  next => exact ⟨rfl, Nat.le_refl _⟩

/-- A fan-out can go on at most once for each listener that it has not turned to yet. -/
theorem load_fan (s : OnAgenda ε κ) (notes : List Note) (entrance : Entrance) (origin : Origin)
    (ids : List EndpointId) :
    (s.fan notes entrance origin ids : Result ε κ).session.weight ≤ ids.length + s.weight ∧
      (s.fan notes entrance origin ids : Result ε κ).session.timers.queue.length ≤
        s.timers.queue.length := by
  unfold fan
  split
  next id endpoint later hnext =>
    have hlater := Dispatcher.nextListener_length hnext
    refine ⟨?_, Nat.le_refl _⟩
    simp only [weight, List.foldr_cons, Frame.weight]
    omega
  next =>
    cases entrance with
    | task ticket => exact ⟨Nat.le_add_left _ _, Nat.le_refl _⟩
    | request =>
        obtain ⟨hframes, hqueue⟩ := s.load_answer (κ := κ) notes .done
        refine ⟨?_, hqueue⟩
        unfold weight
        rw [hframes]
        exact Nat.le_add_left _ _

end Session

namespace Scene

variable {ε κ : Type} {reaction : Reaction} {sc next : Scene ε κ}

/-- What a scene may still do by itself, by the tasks that wait and then by its frames. -/
def load (sc : Scene ε κ) : Nat × Nat := (sc.session.timers.queue.length, sc.session.weight)

theorem load_wf :
    WellFounded fun next sc : Scene ε κ => Prod.Lex (· < ·) (· < ·) next.load sc.load :=
  InvImage.wf load (Prod.lex Nat.lt_wfRel Nat.lt_wfRel).wf

/-- Whatever happens by itself takes something off the agenda or off the frames. -/
theorem load_tick (h : sc.tick reaction = some next) :
    Prod.Lex (· < ·) (· < ·) next.load sc.load := by
  have hless {q w : Nat} (hqueue : q ≤ sc.session.timers.queue.length)
      (hweight : w < sc.session.weight) : Prod.Lex (· < ·) (· < ·) (q, w) sc.load := by
    rcases Nat.lt_or_eq_of_le hqueue with hlt | heq
    · exact .left _ _ hlt
    · exact heq ▸ .right _ hweight
  unfold tick at h
  split at h
  next drive rest hframes =>
    cases h
    show Prod.Lex _ _ ((sc.session.proceed : Result ε κ).session.timers.queue.length,
      (sc.session.proceed : Result ε κ).session.weight) _
    cases hpop : sc.session.timers.popDue drive.limit with
    | some found =>
        obtain ⟨e, b⟩ := found
        have hshorter : b.queue.length < sc.session.timers.queue.length := by
          obtain ⟨queue, hqueue, -, rfl⟩ := Agenda.popDue_eq_some_iff.mp hpop
          rw [hqueue]
          exact Nat.lt_succ_self _
        refine .left _ _ (Nat.lt_of_le_of_lt ?_ hshorter)
        cases htask : e.task with
        | posted work =>
            obtain ⟨notes, hproceed⟩ := Session.proceed_of_posted hframes hpop htask
            rw [hproceed]
            exact Nat.le_refl _
        | fanOut origin ticket =>
            obtain ⟨notes, hproceed⟩ := Session.proceed_of_fanOut hframes hpop htask
            rw [hproceed]
            exact (Session.load_fan _ _ _ _ _).2
    | none =>
        rw [Session.proceed_of_idle hframes hpop]
        refine hless (Nat.le_refl _) ?_
        simp [Session.weight, hframes, Frame.weight]
  next entrance origin current ids rest hframes =>
    cases h
    obtain ⟨records, hreact⟩ := sc.session.react_eq origin (reaction origin (sc.told origin))
    rw [hreact]
    show Prod.Lex _ _ ((Session.resume _ : Result ε κ).session.timers.queue.length,
      (Session.resume _ : Result ε κ).session.weight) _
    unfold Session.resume
    dsimp only
    rw [hframes]
    have hfan := Session.load_fan
      { sc.session with dispatcher := { sc.session.dispatcher with records }, frames := rest }
      (κ := κ) [] entrance origin ids
    refine hless hfan.2 (Nat.lt_of_le_of_lt hfan.1 ?_)
    simp only [Session.weight, hframes, List.foldr_cons, Frame.weight]
    omega
  next => cases h

/-- The scene once nothing happens by itself any more. -/
def settle (reaction : Reaction) (sc : Scene ε κ) : Scene ε κ :=
  match _htick : sc.tick reaction with
  | none => sc
  | some next => settle reaction next
termination_by sc.load
decreasing_by exact load_tick _htick

theorem settle_of_tick (h : sc.tick reaction = some next) :
    sc.settle reaction = next.settle reaction := by
  rw [settle]
  split
  next hnone => cases hnone.symm.trans h
  next found hfound => cases hfound.symm.trans h; rfl

theorem settle_of_rest (h : sc.tick reaction = none) : sc.settle reaction = sc := by
  rw [settle]
  split
  next => rfl
  next found hfound => cases hfound.symm.trans h

/-- The scene after something happened, once it has settled. -/
def play (reaction : Reaction) (sc : Scene ε κ) (h : Happening ε κ) : Scene ε κ :=
  (sc.absorb (sc.session.undergo h)).settle reaction

/-- A scene at the beginning. -/
def opening (intervals : IntervalSource) (delays : DelaySource) : Scene ε κ where
  session := Session.fresh intervals delays

/-- No drive and no notified listener is on top. -/
structure Rests (sc : Scene ε κ) : Prop where
  drive : ∀ drive rest, sc.session.frames ≠ .travelling drive :: rest
  listener : ∀ entrance origin current ids rest,
    sc.session.frames ≠ .fanning entrance origin current ids :: rest

theorem tick_eq_none_iff : sc.tick reaction = none ↔ sc.Rests := by
  unfold tick
  split
  next drive rest hframes =>
    simp only [reduceCtorEq, false_iff]
    exact fun hrests => hrests.drive drive rest hframes
  next entrance origin current ids rest hframes =>
    simp only [reduceCtorEq, false_iff]
    exact fun hrests => hrests.listener entrance origin current ids rest hframes
  next hdrive hlistener =>
    simp only [true_iff]
    exact ⟨hdrive, hlistener⟩

theorem rests_settle (reaction : Reaction) (sc : Scene ε κ) : (sc.settle reaction).Rests := by
  induction sc using settle.induct reaction with
  | case1 sc hrest =>
      rw [settle_of_rest hrest]
      exact tick_eq_none_iff.mp hrest
  | case2 sc next htick ih =>
      rw [settle_of_tick htick]
      exact ih

/-- One scene comes to another by itself. -/
def Reaches (reaction : Reaction) : Scene ε κ → Scene ε κ → Prop :=
  Relation.ReflTransGen fun sc next => sc.tick reaction = some next

theorem Reaches.settle {last : Scene ε κ} (h : Reaches reaction sc last) :
    sc.settle reaction = last.settle reaction := by
  induction h using Relation.ReflTransGen.head_induction_on with
  | refl => rfl
  | head htick _ ih => exact (settle_of_tick htick).trans ih

theorem reaches_settle (reaction : Reaction) (sc : Scene ε κ) :
    Reaches reaction sc (sc.settle reaction) := by
  induction sc using settle.induct reaction with
  | case1 sc hrest =>
      rw [settle_of_rest hrest]
      exact .refl
  | case2 sc next htick ih =>
      rw [settle_of_tick htick]
      exact .head htick ih

theorem kempt_tick (h : sc.session.Kempt) (htick : sc.tick reaction = some next) :
    next.session.Kempt := by
  unfold tick at htick
  split at htick
  next =>
    cases htick
    exact h.act _
  next =>
    cases htick
    exact (h.react _ _).act _
  next => cases htick

theorem Reaches.kempt {last : Scene ε κ} (h : Reaches reaction sc last)
    (hsc : sc.session.Kempt) : last.session.Kempt := by
  induction h with
  | refl => exact hsc
  | tail _ htick ih => exact kempt_tick ih htick

theorem kempt_play (reaction : Reaction) (h : sc.session.Kempt) (happening : Happening ε κ) :
    (sc.play reaction happening).session.Kempt :=
  (reaches_settle reaction _).kempt (h.undergo happening)

end Scene

/-! ## Fan-outs that run through -/

/-- The registrations that a reaction can take back: those of an owned dispatcher, or those
whose handlers are run. -/
def Standing.heeds (standing : Standing) (removals : List Removal) : List EndpointId :=
  (removals.filter fun removal => removal.byHandler ∨ standing = .owned).map Removal.id

namespace Session

variable {ε κ : Type} {s : OnAgenda ε κ}

/-- A reaction amends the record of its origin. -/
theorem Sound.react_eq (h : s.dispatcher.Sound) (origin : Origin) (removals : List Removal) :
    (s.react origin removals).dispatcher.Sound ∧
      s.react origin removals =
        { s with
          dispatcher := s.dispatcher.amend origin
            ((s.standing.heeds removals).foldl Record.struck (s.dispatcher.record? origin)) } := by
  unfold react Standing.heeds
  induction removals generalizing s with
  | nil => exact ⟨h, by simp [h.amend_self]⟩
  | cons removal rest ih =>
      rw [List.foldl_cons, act_removal]
      split
      next heeded =>
        obtain ⟨hsound, hreact⟩ :=
          @ih { s with dispatcher := (s.dispatcher.remove ⟨origin, removal.id⟩).1 } (h.remove _)
        have hfound : (s.dispatcher.amend origin (Record.struck (s.dispatcher.record? origin)
            removal.id)).record? origin =
              Record.struck (s.dispatcher.record? origin) removal.id :=
          Dispatcher.record?_amend fun hnone => by rw [hnone]; rfl
        refine ⟨hsound, hreact.trans ?_⟩
        simp only [h.remove_eq, hfound]
        rw [Dispatcher.amend_amend fun hnone => by rw [hnone, Record.foldl_struck_none]]
        simp [heeded]
      next hignored => simpa [hignored] using ih h

end Session

/-- A dispatcher that made some notifications and has another record of their origin now. -/
def Dispatcher.notified {ε : Type} (d : Dispatcher ε) (origin : Origin)
    (record : Option (Record ε)) (count : Nat) : Dispatcher ε :=
  { d.amend origin record with
    stats := { d.stats with notifications := d.stats.notifications + count } }

theorem Dispatcher.notified_notified {ε : Type} {d : Dispatcher ε} {origin : Origin}
    {record record' : Option (Record ε)} (h : record = none → record' = none)
    (count count' : Nat) :
    (d.notified origin record count).notified origin record' count' =
      d.notified origin record' (count + count') := by
  simp [notified, amend, amended_amended h, Nat.add_assoc]

namespace Scene

variable {ε κ : Type}

theorem fan_of_gone {u : OnAgenda ε κ} {origin : Origin} {id : EndpointId}
    (h : id ∉ u.dispatcher.registered origin) (notes : List Note) (entrance : Entrance)
    (rest : List EndpointId) :
    (u.fan notes entrance origin (id :: rest) : Result ε κ) = u.fan notes entrance origin rest := by
  have hskip : u.dispatcher.nextListener origin (id :: rest) =
      u.dispatcher.nextListener origin rest := by
    simp [Dispatcher.nextListener, Dispatcher.listener?_eq_none.mpr h]
  simp [Session.fan, hskip]

theorem fan_of_here {u : OnAgenda ε κ} {origin : Origin} {id : EndpointId}
    (h : id ∈ u.dispatcher.registered origin) (notes : List Note) (entrance : Entrance)
    (rest : List EndpointId) :
    ∃ endpoint logged, (u.fan notes entrance origin (id :: rest) : Result ε κ) =
      { session := { u with
          dispatcher := u.dispatcher.countNotification
          frames := .fanning entrance origin id rest :: u.frames }
        notes := logged
        signal := .called (.notify endpoint) } := by
  obtain ⟨endpoint, hendpoint⟩ := Option.isSome_iff_exists.mp (Dispatcher.listener?_isSome.mpr h)
  have hnext : u.dispatcher.nextListener origin (id :: rest) = some (id, endpoint, rest) := by
    simp [Dispatcher.nextListener, hendpoint]
  unfold Session.fan
  rw [hnext]
  exact ⟨endpoint, _, rfl⟩

/-- What is logged does not show in a scene. -/
theorem absorb_fan_nil (sc : Scene ε κ) (u : OnAgenda ε κ) (notes : List Note)
    (entrance : Entrance) (origin : Origin) :
    sc.absorb (u.fan notes entrance origin []) = sc.absorb (u.fan [] entrance origin []) := by
  cases entrance with
  | task ticket => rfl
  | request =>
      show sc.absorb (u.answer notes .done) = sc.absorb (u.answer [] .done)
      unfold Session.answer
      split <;> rfl

/-- A notified listener reacts, and the fan-out goes on to the next one. -/
theorem tick_fanning (reaction : Reaction) {u : OnAgenda ε κ} (hu : u.dispatcher.Sound)
    (sc : Scene ε κ) (notes : List Note) (entrance : Entrance) {origin : Origin} {id : EndpointId}
    (hid : id ∈ u.dispatcher.registered origin) (rest : List EndpointId) :
    let c := (⟨u.dispatcher.record? origin, sc.told origin⟩ : Cell ε).tell
      (fun told => u.standing.heeds (reaction origin told)) u.timers.elapsed id
    let d := u.dispatcher.notified origin c.record 1
    d.Sound ∧ (sc.absorb (u.fan notes entrance origin (id :: rest))).tick reaction =
      some ({ sc with told := Function.update sc.told origin c.told }.absorb
        ({ u with dispatcher := d }.fan [] entrance origin rest)) := by
  intro c d
  obtain ⟨endpoint, logged, hfan⟩ := fan_of_here (κ := κ) hid notes entrance rest
  let v : OnAgenda ε κ :=
    { u with
      dispatcher := u.dispatcher.countNotification
      frames := .fanning entrance origin id rest :: u.frames }
  have hv : v.dispatcher.Sound :=
    hu.congr (Dispatcher.Kept.refl u.dispatcher).countNotification.records rfl
  obtain ⟨hsound, hreact⟩ := Session.Sound.react_eq hv origin (reaction origin c.told)
  rw [hreact] at hsound
  refine ⟨hsound, ?_⟩
  have habsorb : sc.absorb (u.fan notes entrance origin (id :: rest)) =
      { session := v, told := Function.update sc.told origin c.told, answers := sc.answers } := by
    rw [hfan, ← List.append_nil sc.answers]
    rfl
  have hresume : ((v.react origin (reaction origin c.told)).act (.move .straight .resume) :
      Result ε κ) = { u with dispatcher := d }.fan [] entrance origin rest := by
    rw [hreact]
    rfl
  rw [habsorb]
  show some (absorb _ ((v.react origin (reaction origin (Function.update sc.told origin c.told
    origin))).act (.move .straight .resume))) = _
  rw [Function.update_self, hresume]
  rfl

/-- A fan-out runs through by itself. It tells the listeners that are still registered at
their turn, and touches nothing but the record of its origin. -/
theorem reaches_fan {reaction : Reaction} {u : OnAgenda ε κ} (hu : u.dispatcher.Sound)
    (sc : Scene ε κ) (notes : List Note) (entrance : Entrance) {origin : Origin}
    {ids : List EndpointId} {c : Cell ε}
    (hc : Cell.visit (fun told => u.standing.heeds (reaction origin told)) u.timers.elapsed ids
      ⟨u.dispatcher.record? origin, sc.told origin⟩ = c) :
    Reaches reaction (sc.absorb (u.fan notes entrance origin ids))
      ({ sc with told := Function.update sc.told origin c.told }.absorb
        ({ u with
          dispatcher := u.dispatcher.notified origin c.record
            (c.told.length - (sc.told origin).length) }.fan [] entrance origin [])) := by
  induction ids generalizing u sc notes with
  | nil =>
      subst hc
      have hsame : u.dispatcher.notified origin (u.dispatcher.record? origin) 0 = u.dispatcher := by
        simp [Dispatcher.notified, hu.amend_self]
      simp only [Cell.visit, hsame, Function.update_eq_self, Nat.sub_self]
      rw [absorb_fan_nil]
      exact .refl
  | cons id rest ih =>
      let heed := fun told => u.standing.heeds (reaction origin told)
      let c0 : Cell ε := ⟨u.dispatcher.record? origin, sc.told origin⟩
      by_cases hid : id ∈ u.dispatcher.registered origin
      · let c1 := c0.tell heed u.timers.elapsed id
        have hc1 : c1.visit heed u.timers.elapsed rest = c :=
          (congrArg (Cell.visit _ _ rest) (if_pos hid).symm).trans hc
        have hcount : 1 + (c.told.length - c1.told.length) =
            c.told.length - (sc.told origin).length := by
          have hle : c1.told.length ≤ c.told.length := hc1 ▸ c1.length_told_le heed _ rest
          have hlength : c1.told.length = (sc.told origin).length + 1 := List.length_append
          omega
        obtain ⟨hsound, htick⟩ := tick_fanning reaction hu sc notes entrance hid rest
        have hrecord : u.dispatcher.record? origin = none → c1.record = none := by
          intro hnone
          show List.foldl Record.struck (u.dispatcher.record? origin) _ = none
          rw [hnone, Record.foldl_struck_none]
        have hnone : c1.record = none → c.record = none := fun hnone =>
          hc1 ▸ c1.visit_of_none heed _ rest hnone
        have hfound : (u.dispatcher.notified origin c1.record 1).record? origin = c1.record :=
          Dispatcher.record?_amend hrecord
        have hlater := ih (u := { u with dispatcher := u.dispatcher.notified origin c1.record 1 })
          hsound { sc with told := Function.update sc.told origin c1.told } []
        simp only [Function.update_self, Function.update_idem, hfound] at hlater
        rw [← hcount, ← Dispatcher.notified_notified hnone]
        exact .head htick (hlater hc1)
      · have hc0 : c0.visit heed u.timers.elapsed rest = c :=
          (congrArg (Cell.visit _ _ rest) (if_neg hid).symm).trans hc
        rw [fan_of_gone hid]
        exact ih hu sc notes hc0

/-! ## Turns of the drive on top -/

def board (sc : Scene ε κ) : Board ε :=
  ⟨sc.told, sc.session.dispatcher.records, sc.session.dispatcher.stats⟩

/-- The scene with other frames and timers, and another board. -/
def onward (sc : Scene ε κ) (b : Board ε) (inFlight : List (Ticket × TaskId))
    (timers : Agenda (Errand κ)) (frames : List (Frame Agenda.Drive)) : Scene ε κ where
  session :=
    { sc.session with
      timers
      frames
      dispatcher :=
        { sc.session.dispatcher with records := b.records, stats := b.stats, inFlight } }
  told := b.told
  answers := sc.answers

/-- What is taken back by an origin's listeners, told what they were told, in this scene. -/
def heed (reaction : Reaction) (sc : Scene ε κ) (origin : Origin)
    (told : List (EndpointId × Span)) : List EndpointId :=
  sc.session.standing.heeds (reaction origin told)

section Turns

variable {reaction : Reaction} {sc : Scene ε κ} {drive : Agenda.Drive}
  {rest : List (Frame Agenda.Drive)} {e : Entry (Errand κ)} {b : Agenda (Errand κ)}

/-- A scheduled fan-out that has run through leaves nothing behind on the stack. -/
theorem reaches_fan_task {u : OnAgenda ε κ} (hu : u.dispatcher.Sound) (notes : List Note)
    (ticket : Ticket) {origin : Origin} {ids : List EndpointId} {c : Cell ε}
    (hc : Cell.visit (fun told => u.standing.heeds (reaction origin told)) u.timers.elapsed ids
      ⟨u.dispatcher.record? origin, sc.told origin⟩ = c) :
    Reaches reaction (sc.absorb (u.fan notes (.task ticket) origin ids))
      { session := { u with
          dispatcher := u.dispatcher.notified origin c.record
            (c.told.length - (sc.told origin).length) }
        told := Function.update sc.told origin c.told
        answers := sc.answers } := by
  have hreach := reaches_fan hu sc notes (.task ticket) hc
  simpa [absorb, Session.fan, Dispatcher.nextListener, Outcome.notification?, Outcome.answer?]
    using hreach

theorem tick_of_travelling (reaction : Reaction)
    (hframes : sc.session.frames = .travelling drive :: rest) :
    sc.tick reaction = some (sc.absorb sc.session.proceed) := by
  unfold tick
  rw [hframes]
  rfl

/-- A fan-out that comes up runs through. -/
theorem reaches_fanOut (reaction : Reaction) (h : sc.session.Sound)
    (hframes : sc.session.frames = .travelling drive :: rest)
    (hpop : sc.session.timers.popDue drive.limit = some (e, b)) {origin : Origin} {ticket : Ticket}
    (htask : e.task = .fanOut origin ticket) :
    Reaches reaction sc
      (sc.onward (sc.board.fanOut (sc.heed reaction) e.key.deadline origin)
        (sc.session.dispatcher.inFlight.eraseP (·.1 = ticket)) (b.started e)
        (.travelling { drive with ran := drive.ran + 1 } :: rest)) := by
  have helapsed : (b.started e).elapsed = e.key.deadline := h.agenda.started_elapsed hpop
  have hkept := sc.session.dispatcher.startFanOut_kept origin (some ticket)
  have hregistry := h.registry.congr hkept.records hkept.nextEndpoint
  obtain ⟨logged, hproceed⟩ := Session.proceed_of_fanOut hframes hpop htask
  refine .head (tick_of_travelling reaction hframes) ?_
  rw [hproceed]
  refine cast (congrArg (Reaches reaction _) ?_) (reaches_fan_task hregistry logged ticket rfl)
  rw [← helapsed]
  simp only [Session.opened, Dispatcher.startFanOut_task]
  rfl

/-- Posted work that comes up is for somebody outside to do. -/
theorem tick_of_posted (reaction : Reaction)
    (hframes : sc.session.frames = .travelling drive :: rest)
    (hpop : sc.session.timers.popDue drive.limit = some (e, b)) {work : κ}
    (htask : e.task = .posted work) :
    sc.tick reaction = some
      (sc.onward sc.board sc.session.dispatcher.inFlight (b.started e)
        (.working :: .travelling { drive with ran := drive.ran + 1 } :: rest)) := by
  obtain ⟨notes, hproceed⟩ := Session.proceed_of_posted hframes hpop htask
  rw [tick_of_travelling reaction hframes, hproceed]
  simp [absorb, onward, board, Session.opened, Outcome.notification?, Outcome.answer?]

/-- A drive ends when nothing is due any more. -/
theorem tick_of_idle (reaction : Reaction)
    (hframes : sc.session.frames = .travelling drive :: rest)
    (hpop : sc.session.timers.popDue drive.limit = none) :
    sc.tick reaction = some
      { sc.onward sc.board sc.session.dispatcher.inFlight
          (sc.session.timers.settled drive) rest with
        answers := sc.answers ++ [.arrived drive.arrival] } := by
  rw [tick_of_travelling reaction hframes, Session.proceed_of_idle hframes hpop]
  simp [absorb, onward, board, Outcome.notification?, Outcome.answer?]

end Turns

end Scene

end Cadence.Broadcast

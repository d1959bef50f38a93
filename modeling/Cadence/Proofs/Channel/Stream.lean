import Cadence.Channel
import Cadence.Proofs.Broadcast.Exchange
import Cadence.Proofs.Recorded
import Mathlib.Data.List.Induction

/-! # The stream of a channel

Both ends of a channel make their moves in any order, on any timer service. A notice leaves the
listener with the next number if the receiver accepts it, and comes out behind those before it.
The handler for the end of the connection is held by the listener until it is replaced, or
until the listener finds itself disconnected and hands it to the timer service.
-/

namespace Cadence

/-- The notice that waiting has brought. -/
def Reception.notice? : Reception → Option Notice
  | .notice n => some n
  | _ => none

namespace Channel

open Broadcast (Exchange Handover posting)

/-- A channel with the timer service of its listener, and what its receiver has drained. -/
structure Session (η σ τ : Type) where
  channel : Channel η
  timers : Recorded σ τ
  drained : List Notice := []

/-- A move of one end, or a change that somebody else makes to the timers. -/
inductive Move (η σ : Type)
  | notify
  | disconnect
  | onDisconnect (handler : η)
  | dropListener
  | receive
  /-- The receiver waits for a notice; `sending` says whether the sending end is held. -/
  | poll (sending : Bool)
  | close
  | dropReceiver
  | others (timers : σ)

/-- The handler that a move installs. -/
def Move.handler? {η σ : Type} : Move η σ → Option η
  | .onDisconnect handler => some handler
  | _ => none

/-- The part of a channel that notices go through. -/
structure Line where
  origin : Origin
  sent : Nat
  buffer : List Notice
  receiver : Receiver

def line {η : Type} (c : Channel η) : Line := ⟨c.origin, c.sent, c.buffer, c.receiver⟩

/-- The notices with the numbers from one on. -/
def numbered (origin : Origin) (sent : Nat) : List Notice :=
  (List.range' 1 sent).map (⟨origin.text, ·⟩)

theorem numbered_succ (origin : Origin) (sent : Nat) :
    numbered origin (sent + 1) = numbered origin sent ++ [⟨origin.text, sent + 1⟩] := by
  unfold numbered
  rw [List.range'_concat, List.map_append, Nat.one_mul, Nat.add_comm 1 sent]
  rfl

variable {η σ τ : Type} [TimerService σ τ]

namespace Session

/-- Both ends at the beginning. -/
def opened (origin : Origin) (watcher : Option TaskId) (timers : σ) : Session η σ τ where
  channel := { origin, watcher }
  timers := { timers }

def perform (post : η → τ) (s : Session η σ τ) : Move η σ → Session η σ τ
  | .notify =>
      let (channel, timers, _) := s.channel.notify post s.timers
      { s with channel, timers }
  | .disconnect =>
      let (channel, timers, _) := s.channel.disconnect post s.timers
      { s with channel, timers }
  | .onDisconnect handler =>
      let (channel, timers) := s.channel.onDisconnect post s.timers handler
      { s with channel, timers }
  | .dropListener =>
      let (channel, timers) := s.channel.dropListener s.timers
      { s with channel, timers }
  | .receive =>
      let (notice, channel) := s.channel.receive
      { s with channel, drained := s.drained ++ notice.toList }
  | .poll sending =>
      let (reception, channel) := s.channel.poll sending
      { s with channel, drained := s.drained ++ reception.notice?.toList }
  | .close => { s with channel := s.channel.close }
  | .dropReceiver => { s with channel := s.channel.dropReceiver }
  | .others timers => { s with timers := { s.timers with timers } }

/-- The session after some moves. -/
def after (post : η → τ) (s : Session η σ τ) (moves : List (Move η σ)) : Session η σ τ :=
  moves.foldl (perform post) s

theorem perform_notify (post : η → τ) (s : Session η σ τ) :
    s.perform post .notify =
      { s with
        channel := (s.channel.notify post s.timers).1
        timers := (s.channel.notify post s.timers).2.1 } :=
  rfl

theorem after_concat (post : η → τ) (s : Session η σ τ) (moves : List (Move η σ))
    (m : Move η σ) : s.after post (moves ++ [m]) = (s.after post moves).perform post m :=
  List.foldl_append

end Session

/-! ## Notices -/

section Notices

variable (post : η → τ) (c : Channel η) (timers : σ)

theorem line_disconnect : (c.disconnect post timers).1.line = c.line := by
  unfold disconnect
  split <;> rfl

theorem line_onDisconnect (handler : η) :
    (c.onDisconnect post timers handler).1.line = c.line := by
  unfold onDisconnect
  dsimp only
  split <;> rfl

theorem line_dropListener : (c.dropListener timers).1.line = c.line := by
  unfold dropListener
  split <;> rfl

variable {c}

theorem notify_of_disconnected (hdisconnected : c.disconnected = true) :
    c.notify post timers = (c, timers, []) :=
  if_pos hdisconnected

theorem notify_of_accepting (hconnected : c.disconnected = false)
    (haccepting : c.receiver = .accepting) :
    c.notify post timers =
      ({ c with
        sent := c.sent + 1
        buffer := c.buffer ++ [⟨c.origin.text, c.sent + 1⟩] }, timers, []) := by
  unfold notify
  rw [if_neg (by simp [hconnected]), if_pos haccepting]

theorem notify_of_closed (hconnected : c.disconnected = false) (hclosed : c.receiver ≠ .accepting) :
    c.notify post timers = c.disconnect post timers := by
  unfold notify
  rw [if_neg (by simp [hconnected]), if_neg hclosed]

variable (c)

/-- A notice is sent if both ends are there, and otherwise none. -/
theorem line_notify :
    (c.notify post timers).1.line = c.line ∨
      (c.disconnected = false ∧ c.receiver = .accepting ∧
        (c.notify post timers).1.line =
          { c.line with
            sent := c.sent + 1
            buffer := c.buffer ++ [⟨c.origin.text, c.sent + 1⟩] }) := by
  cases hconnected : c.disconnected with
  | true => exact .inl (by rw [notify_of_disconnected post timers hconnected])
  | false =>
      by_cases haccepting : c.receiver = .accepting
      · rw [notify_of_accepting post timers hconnected haccepting]
        exact .inr ⟨rfl, haccepting, rfl⟩
      · rw [notify_of_closed post timers hconnected haccepting]
        exact .inl (c.line_disconnect post timers)

end Notices

variable {post : η → τ} {s s' : Session η σ τ}

omit [TimerService σ τ] in
/-- What becomes of the notices in a move. -/
inductive Flow (s s' : Session η σ τ) : Prop
  | still (line : s'.channel.line = s.channel.line) (drained : s'.drained = s.drained)
  | sends (connected : s.channel.disconnected = false) (accepting : s.channel.receiver = .accepting)
      (line : s'.channel.line =
        { s.channel.line with
          sent := s.channel.sent + 1
          buffer := s.channel.buffer ++ [⟨s.channel.origin.text, s.channel.sent + 1⟩] })
      (drained : s'.drained = s.drained)
  | drains (notice : Notice) (rest : List Notice) (buffer : s.channel.buffer = notice :: rest)
      (line : s'.channel.line = { s.channel.line with buffer := rest })
      (drained : s'.drained = s.drained ++ [notice])
  | closes (accepting : s.channel.receiver = .accepting)
      (line : s'.channel.line = { s.channel.line with receiver := .closed })
      (drained : s'.drained = s.drained)
  | drops (line : s'.channel.line = { s.channel.line with receiver := .dropped, buffer := [] })
      (drained : s'.drained = s.drained)

theorem flow_perform (post : η → τ) (s : Session η σ τ) (m : Move η σ) :
    Flow s (s.perform post m) := by
  cases m with
  | notify =>
      rcases s.channel.line_notify post s.timers with hstill | ⟨hconnected, haccepting, hsends⟩
      · exact .still hstill rfl
      · exact .sends hconnected haccepting hsends rfl
  | disconnect => exact .still (s.channel.line_disconnect post s.timers) rfl
  | onDisconnect handler => exact .still (s.channel.line_onDisconnect post s.timers handler) rfl
  | dropListener => exact .still (s.channel.line_dropListener s.timers) rfl
  | receive =>
      unfold Session.perform receive
      cases hbuffer : s.channel.buffer with
      | nil => exact .still rfl (List.append_nil _)
      | cons notice rest => exact .drains notice rest hbuffer rfl rfl
  | poll sending =>
      unfold Session.perform poll receive
      cases hbuffer : s.channel.buffer with
      | nil =>
          refine .still rfl ?_
          dsimp only
          split <;> exact List.append_nil _
      | cons notice rest => exact .drains notice rest hbuffer rfl rfl
  | close =>
      by_cases haccepting : s.channel.receiver = .accepting
      · have hclosed : s.channel.close = { s.channel with receiver := .closed } :=
          if_pos haccepting
        exact .closes haccepting (congrArg line hclosed) rfl
      · have hsame : s.channel.close = s.channel := if_neg haccepting
        exact .still (congrArg line hsame) rfl
  | dropReceiver => exact .drops rfl rfl
  | others timers => exact .still rfl rfl

omit [TimerService σ τ] in
/-- Every notice that was sent has been drained or is buffered, in the order of the numbers. -/
def Carries (origin : Origin) (s : Session η σ τ) : Prop :=
  s.channel.receiver ≠ .dropped →
    s.drained ++ s.channel.buffer = numbered origin s.channel.sent

omit [TimerService σ τ] in
theorem Flow.origin (h : Flow s s') : s'.channel.origin = s.channel.origin := by
  cases h with
  | still line _ => exact congrArg Line.origin line
  | sends _ _ line _ => exact congrArg Line.origin line
  | drains _ _ _ line _ => exact congrArg Line.origin line
  | closes _ line _ => exact congrArg Line.origin line
  | drops line _ => exact congrArg Line.origin line

omit [TimerService σ τ] in
theorem Flow.carries (h : Flow s s') (hcarries : Carries s.channel.origin s) :
    Carries s.channel.origin s' := by
  intro hheld
  cases h with
  | still line drained =>
      obtain ⟨-, hsent, hbuffer, hreceiver⟩ := Line.mk.inj line
      rw [drained, hbuffer, hsent]
      exact hcarries fun hdropped => hheld (hreceiver.trans hdropped)
  | sends _ accepting line drained =>
      obtain ⟨-, hsent, hbuffer, -⟩ := Line.mk.inj line
      rw [drained, hbuffer, hsent, ← List.append_assoc, hcarries (by simp [accepting]),
        numbered_succ]
  | drains notice rest buffer line drained =>
      obtain ⟨-, hsent, hbuffer, hreceiver⟩ := Line.mk.inj line
      have hbefore := hcarries fun hdropped => hheld (hreceiver.trans hdropped)
      rw [buffer] at hbefore
      rw [drained, hbuffer, hsent, List.append_assoc]
      exact hbefore
  | closes accepting line drained =>
      obtain ⟨-, hsent, hbuffer, -⟩ := Line.mk.inj line
      rw [drained, hbuffer, hsent]
      exact hcarries (by simp [accepting])
  | drops line _ =>
      obtain ⟨-, -, -, hreceiver⟩ := Line.mk.inj line
      exact absurd hreceiver hheld

omit [TimerService σ τ] in
/-- A disconnected listener sends nothing, so at most something is drained. -/
theorem Flow.of_disconnected (h : Flow s s') (hdisconnected : s.channel.disconnected = true) :
    s'.channel.sent = s.channel.sent ∧ s'.channel.buffer <:+ s.channel.buffer := by
  cases h with
  | still line _ =>
      obtain ⟨-, hsent, hbuffer, -⟩ := Line.mk.inj line
      exact ⟨hsent, hbuffer ▸ List.suffix_refl _⟩
  | sends connected _ _ _ => cases connected.symm.trans hdisconnected
  | drains notice rest buffer line _ =>
      obtain ⟨-, hsent, hbuffer, -⟩ := Line.mk.inj line
      rw [buffer, hbuffer]
      exact ⟨hsent, List.suffix_cons notice rest⟩
  | closes _ line _ =>
      obtain ⟨-, hsent, hbuffer, -⟩ := Line.mk.inj line
      exact ⟨hsent, hbuffer ▸ List.suffix_refl _⟩
  | drops line _ =>
      obtain ⟨-, hsent, hbuffer, -⟩ := Line.mk.inj line
      exact ⟨hsent, hbuffer ▸ List.nil_suffix⟩

/-! ## Handlers -/

section Handlers

variable (post : η → τ) (c : Channel η) (timers : Recorded σ τ)

/-- What a listener hands to its timer service when it posts a handler. -/
def postings (post : η → τ) (posted : List η) : List (Span × τ) :=
  posted.map fun handler => (.zero, post handler)

/-- A listener that disconnects parts with the handler. -/
theorem disconnect_of_connected {c : Channel η} (hconnected : c.disconnected = false) :
    let ended := c.disconnect post timers
    ended.1.disconnected = true ∧ ended.1.watcher = none ∧ ended.1.handler = none ∧
      ended.2.1.handed = timers.handed ++ postings post c.handler.toList := by
  unfold disconnect stopWatching postHandler postings
  rw [if_neg (by simp [hconnected])]
  refine ⟨rfl, rfl, rfl, ?_⟩
  cases c.watcher <;> cases c.handler <;> simp

theorem hands_disconnect :
    ∃ posted, Handover c none (c.disconnect post timers).1 posted ∧
      (c.disconnect post timers).2.1.handed = timers.handed ++ postings post posted.toList := by
  cases hconnected : c.disconnected with
  | true =>
      have hsame : c.disconnect post timers = (c, timers, []) := if_pos hconnected
      rw [hsame]
      exact ⟨none, .keep rfl rfl (absurd rfl) id, (List.append_nil _).symm⟩
  | false =>
      obtain ⟨hdisconnected, hunwatched, hgone, hhanded⟩ :=
        disconnect_of_connected post timers hconnected
      exact ⟨c.handler, .sever hgone hdisconnected fun _ => hunwatched, hhanded⟩

theorem hands_notify :
    ∃ posted, Handover c none (c.notify post timers).1 posted ∧
      (c.notify post timers).2.1.handed = timers.handed ++ postings post posted.toList := by
  unfold notify
  split
  next => exact ⟨none, .keep rfl rfl (absurd rfl) id, (List.append_nil _).symm⟩
  next =>
    split
    next => exact ⟨none, .keep rfl rfl (absurd rfl) id, (List.append_nil _).symm⟩
    next => exact c.hands_disconnect post timers

theorem hands_onDisconnect (handler : η) :
    ∃ posted, Handover c (some handler) (c.onDisconnect post timers handler).1 posted ∧
      (c.onDisconnect post timers handler).2.handed =
        timers.handed ++ postings post posted.toList := by
  unfold onDisconnect
  dsimp only
  split
  next => exact ⟨some handler, .sever rfl rfl id, rfl⟩
  next hopen =>
    refine ⟨none, .keep rfl rfl (fun _ => ?_) id, (List.append_nil _).symm⟩
    simpa using (not_or.mp hopen).1

theorem hands_dropListener :
    Handover c none (c.dropListener timers).1 none ∧
      (c.dropListener timers).2.handed = timers.handed := by
  unfold dropListener
  split
  next =>
    refine ⟨.keep rfl rfl (absurd rfl) fun _ => rfl, ?_⟩
    unfold stopWatching
    cases c.watcher <;> rfl
  next => exact ⟨.keep rfl rfl (absurd rfl) id, rfl⟩

end Handlers

/-- The receiver's moves concern no handler. -/
theorem handover_of_receiver {c c' : Channel η} (hhandler : c'.handler = c.handler)
    (hdisconnected : c'.disconnected = c.disconnected) (hwatcher : c'.watcher = c.watcher) :
    Handover c none c' none :=
  .keep hhandler hdisconnected (absurd rfl) hwatcher.trans

/-- In a move the handler that it installs, or else the one that was held, is held or posted. -/
theorem hands_perform (post : η → τ) (s : Session η σ τ) (m : Move η σ) :
    ∃ posted, Handover s.channel m.handler? (s.perform post m).channel posted ∧
      (s.perform post m).timers.handed = s.timers.handed ++ postings post posted.toList := by
  have hnone : s.timers.handed = s.timers.handed ++ postings post [] := (List.append_nil _).symm
  cases m with
  | notify => exact s.channel.hands_notify post s.timers
  | disconnect => exact s.channel.hands_disconnect post s.timers
  | onDisconnect handler => exact s.channel.hands_onDisconnect post s.timers handler
  | dropListener =>
      obtain ⟨hover, hhanded⟩ := s.channel.hands_dropListener s.timers
      exact ⟨none, hover, hhanded.trans hnone⟩
  | receive =>
      refine ⟨none, ?_, hnone⟩
      unfold Session.perform receive
      cases hbuffer : s.channel.buffer <;> exact handover_of_receiver rfl rfl rfl
  | poll sending =>
      refine ⟨none, ?_, hnone⟩
      unfold Session.perform poll receive
      cases hbuffer : s.channel.buffer <;> exact handover_of_receiver rfl rfl rfl
  | close =>
      refine ⟨none, ?_, hnone⟩
      show Handover s.channel none s.channel.close none
      unfold close
      split <;> exact handover_of_receiver rfl rfl rfl
  | dropReceiver => exact ⟨none, handover_of_receiver rfl rfl rfl, hnone⟩
  | others timers => exact ⟨none, handover_of_receiver rfl rfl rfl, hnone⟩

/-- A handler that was posted, or is held, was installed, and once for each time. -/
def Accounts (post : η → τ) (installed : List η) (s : Session η σ τ) : Prop :=
  ∃ posted, s.timers.handed = postings post posted ∧
    (posted ++ s.channel.handler.toList).Sublist installed

theorem Accounts.perform {installed : List η} (h : Accounts post installed s) (m : Move η σ) :
    Accounts post (installed ++ m.handler?.toList) (s.perform post m) := by
  obtain ⟨before, hhanded, hinstalled⟩ := h
  obtain ⟨posted, hover, hmore⟩ := hands_perform post s m
  have hnewest : (before ++ (m.handler?.or s.channel.handler).toList).Sublist
      (installed ++ m.handler?.toList) := by
    cases m.handler? with
    | none => simpa using hinstalled
    | some handler =>
        exact ((List.sublist_append_left _ _).trans hinstalled).append (.refl _)
  rw [hhanded] at hmore
  rcases hover.kept_or_posted with ⟨hkept, rfl⟩ | ⟨hgone, rfl⟩
  · exact ⟨before, hmore.trans (List.append_nil _), hkept ▸ hnewest⟩
  · refine ⟨before ++ (m.handler?.or s.channel.handler).toList, ?_, ?_⟩
    · rw [hmore]
      unfold postings
      rw [List.map_append]
    · rw [hgone]
      exact (List.append_nil _).symm ▸ hnewest

omit [TimerService σ τ] in
theorem disconnected_of_handover {c c' : Channel η} {given posted : Option η}
    (h : Handover c given c' posted) (hdisconnected : c.disconnected = true) :
    c'.disconnected = true := by
  cases h with
  | keep _ disconnected _ _ => exact disconnected.trans hdisconnected
  | sever _ disconnected _ => exact disconnected

/-! ## Runs -/

theorem disconnected_after (hdisconnected : s.channel.disconnected = true)
    (moves : List (Move η σ)) :
    (s.after post moves).channel.disconnected = true ∧
      (s.after post moves).channel.sent = s.channel.sent ∧
      (s.after post moves).channel.buffer <:+ s.channel.buffer := by
  induction moves using List.reverseRecOn with
  | nil => exact ⟨hdisconnected, rfl, List.suffix_refl _⟩
  | append_singleton moves m ih =>
      obtain ⟨hstill, hsent, hbuffer⟩ := ih
      rw [Session.after_concat]
      obtain ⟨hnone, hdrained⟩ := (flow_perform post _ m).of_disconnected hstill
      obtain ⟨posted, hover, -⟩ := hands_perform post (s.after post moves) m
      exact ⟨disconnected_of_handover hover hstill, hnone.trans hsent, hdrained.trans hbuffer⟩

theorem carries_after (h : Carries s.channel.origin s) (moves : List (Move η σ)) :
    (s.after post moves).channel.origin = s.channel.origin ∧
      Carries s.channel.origin (s.after post moves) := by
  induction moves using List.reverseRecOn with
  | nil => exact ⟨rfl, h⟩
  | append_singleton moves m ih =>
      obtain ⟨horigin, hcarries⟩ := ih
      rw [Session.after_concat]
      have hflow := flow_perform post (s.after post moves) m
      have hnext := hflow.carries (horigin.symm ▸ hcarries)
      exact ⟨hflow.origin.trans horigin, horigin ▸ hnext⟩

theorem accounts_after (post : η → τ) (origin : Origin) (watcher : Option TaskId) (timers : σ)
    (moves : List (Move η σ)) :
    Accounts post (moves.filterMap Move.handler?)
      ((Session.opened origin watcher timers).after post moves) := by
  induction moves using List.reverseRecOn with
  | nil => exact ⟨[], rfl, .refl _⟩
  | append_singleton moves m ih =>
      rw [Session.after_concat, List.filterMap_append]
      have hnext := ih.perform m
      cases m <;> exact hnext

/-- Over any run of both ends of a channel: as long as the receiver is not dropped, what it has
drained and what is still buffered are the notices from one to the number sent, in order, each
with the origin's text. A listener that is disconnected stays so, and nothing is sent any more.
What the timer service was handed are installed handlers without delay, each once at most. To
notify a connected listener is to send the next notice, or, if the receiver takes none, to
disconnect and post the handler that is held. A dispatcher then keeps its registrations and its
fan-outs under way, and nothing runs. -/
theorem notices_are_numbered {ν ω : Type} [DecidableEq ν] (post : η → τ) (origin : Origin)
    (watcher : Option TaskId) (timers : σ) (moves : List (Move η σ)) :
    let start : Session η σ τ := .opened origin watcher timers
    let s := start.after post moves
    let notified := s.perform post .notify
    (s.channel.receiver ≠ .dropped →
      s.drained ++ s.channel.buffer =
        (List.range' 1 s.channel.sent).map fun number => ⟨origin.text, number⟩) ∧
    (s.channel.disconnected = true → ∀ more : List (Move η σ),
      let u := s.after post more
      u.channel.disconnected = true ∧ u.channel.sent = s.channel.sent ∧
        u.channel.buffer <:+ s.channel.buffer) ∧
    (∃ posted : List η, s.timers.handed = posted.map (fun handler => (.zero, post handler)) ∧
      posted.Sublist (moves.filterMap Move.handler?)) ∧
    (s.channel.disconnected = true → notified = s) ∧
    (s.channel.disconnected = false → s.channel.receiver = .accepting →
      notified = { s with channel := { s.channel with
        sent := s.channel.sent + 1
        buffer := s.channel.buffer ++ [⟨origin.text, s.channel.sent + 1⟩] } }) ∧
    (s.channel.disconnected = false → s.channel.receiver ≠ .accepting →
      notified.channel.disconnected = true ∧ notified.channel.handler = none ∧
      notified.timers.handed =
        s.timers.handed ++ s.channel.handler.toList.map fun handler => (.zero, post handler)) ∧
    ∀ (x : Exchange ν ω) (name : ν), (x.channel name).watcher = none →
      ∃ posted, (posted = none ∨ posted = (x.channel name).handler) ∧
        (x.notify name).session =
          { x.session with timers := posting x.session.timers posted } := by
  intro start s notified
  have hopened : Carries start.channel.origin start := fun _ => rfl
  refine ⟨?_, fun hdisconnected more => disconnected_after hdisconnected more, ?_, ?_, ?_, ?_, ?_⟩
  · exact (carries_after hopened moves).2
  · obtain ⟨posted, hhanded, hinstalled⟩ := accounts_after post origin watcher timers moves
    exact ⟨posted, hhanded, (List.sublist_append_left _ _).trans hinstalled⟩
  · intro hdisconnected
    show s.perform post .notify = s
    rw [Session.perform_notify, notify_of_disconnected post s.timers hdisconnected]
  · intro hconnected haccepting
    have htext : s.channel.origin.text = origin.text :=
      congrArg Origin.text (carries_after hopened moves).1
    show s.perform post .notify = _
    rw [Session.perform_notify, notify_of_accepting post s.timers hconnected haccepting, htext]
  · intro hconnected hclosed
    obtain ⟨hdisconnected, -, hgone, hhanded⟩ :=
      disconnect_of_connected post s.timers hconnected
    have hnotified : notified = _ := Session.perform_notify post s
    rw [hnotified, notify_of_closed post s.timers hconnected hclosed]
    exact ⟨hdisconnected, hgone, hhanded⟩
  · intro x name hwatcher
    obtain ⟨c', posted, hnotify, hover⟩ := Exchange.exists_handover_notify hwatcher
    refine ⟨posted, ?_, congrArg Exchange.session hnotify⟩
    rcases hover.kept_or_posted with ⟨-, hnone⟩ | ⟨-, hheld⟩
    · exact .inl hnone
    · exact .inr hheld

/-- Two notices, of which one is drained before the receiver is closed and the next one fails. -/
def closing : List (Move Nat (Agenda Nat)) :=
  [.onDisconnect 7, .notify, .notify, .receive, .close, .notify, .notify]

/-- The other notice stays in the buffer, and the handler is posted. -/
theorem notices_are_numbered_closing :
    let s := (Session.opened default none {}).after id closing
    s.channel.receiver ≠ .dropped ∧ s.channel.disconnected = true ∧
      s.drained ++ s.channel.buffer = numbered default 2 ∧
      s.timers.handed = [(.zero, 7)] ∧
      ∀ more, (s.after id more).channel.sent = 2 := by
  intro s
  obtain ⟨hstream, hends, -⟩ := notices_are_numbered (ν := Unit) (ω := Unit) id default none
    ({} : Agenda Nat) closing
  have hheld : s.channel.receiver ≠ .dropped := by decide
  exact ⟨hheld, rfl, hstream hheld, rfl, fun more => (hends rfl more).2.1⟩

end Channel

end Cadence

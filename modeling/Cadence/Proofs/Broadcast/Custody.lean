import Cadence.Proofs.Broadcast.Courses
import Mathlib.Data.List.Infix

/-! # Custody of registrations

Whoever is to take a registration back has custody of it: first the channel listener that
was handed it, and once the listener is disconnected the agenda, as a posted task. A
channel listener has room for one registration. When it is handed another, it forgets the
one that it keeps, and that one stays unless somebody takes it back of his own accord.
-/

namespace Cadence.Broadcast.Exchange

variable {ν ω : Type} {x x' : Exchange ν ω} {a : Act ν ω} {name : ν} {r : Registration}

/-! ## Custodians -/

/-- Who is to take a registration back. -/
inductive Custodian (ν : Type)
  | channel (name : ν)
  | agenda

/-- A custodian has a registration. -/
def Entrusts (x : Exchange ν ω) : Custodian ν → Registration → Prop
  | .channel name, r => x.Keeps name r
  | .agenda, r => ∃ due, x.Posts r due

/-- While the dispatcher is there, a registration has at most one custodian, and a channel
listener that is disconnected is none. -/
structure Guarded (x : Exchange ν ω) : Prop where
  sound : x.session.Sound
  watcher : ∀ name, (x.channel name).watcher = none
  severed : ∀ name, (x.channel name).disconnected = true → (x.channel name).handler = none
  id_lt : ∀ c r, x.Entrusts c r → r.id < x.session.dispatcher.nextEndpoint
  unique : ∀ c c' r, x.Entrusts c r → x.Entrusts c' r → c = c'

theorem Guarded.not_keeps (h : x.Guarded) (hdown : (x.channel name).disconnected = true) :
    ¬ x.Keeps name r := by
  intro hkeeps
  exact absurd ((h.severed name hdown).symm.trans hkeeps) nofun

theorem Guarded.id_lt_of_holds (h : x.Guarded) (hholds : x.Holds name r) :
    r.id < x.session.dispatcher.nextEndpoint := by
  apply h.sound.registry.id_lt r.origin
  rw [← Dispatcher.listener?_isSome, show x.session.dispatcher.listener? _ _ = _ from hholds]
  rfl

theorem alive_of_holds (h : x.session.Vacated) (hholds : x.Holds name r) :
    x.session.standing ≠ .closed := by
  intro hclosed
  have hnone : x.session.dispatcher.listener? r.origin r.id = none := by
    simp [Dispatcher.listener?, Dispatcher.record?, h hclosed]
  exact Option.some_ne_none _ (hholds.symm.trans hnone)

/-- A channel listener other than the one that an act is about keeps what it has. -/
theorem keeps_congr {n : ν} (hsame : x'.channel n = x.channel n) : x'.Keeps n r ↔ x.Keeps n r := by
  unfold Keeps
  rw [hsame]

/-- A custodian besides the listener that is handed something had the registration before. -/
theorem entrusts_of_hand {posted : Option (Chore ω)} {c : Custodian ν}
    (hothers : ∀ n, n ≠ name → x'.channel n = x.channel n)
    (hposts : ∀ r due, x'.Posts r due ↔
      x.Posts r due ∨ (posted = some (.handler r) ∧ due = x'.session.timers.elapsed))
    (hr : x'.Entrusts c r) :
    (x.Entrusts c r ∧ c ≠ .channel name) ∨ (c = .channel name ∧ x'.Keeps name r) ∨
      (c = .agenda ∧ posted = some (.handler r)) := by
  cases c with
  | channel n =>
      by_cases hn : n = name
      · subst hn
        exact .inr (.inl ⟨rfl, hr⟩)
      · exact .inl ⟨(keeps_congr (hothers n hn)).mp hr, fun heq => hn (Custodian.channel.inj heq)⟩
  | agenda =>
      obtain ⟨due, hdue⟩ := hr
      rcases (hposts r due).mp hdue with hbefore | ⟨hposted, _⟩
      · exact .inl ⟨⟨due, hbefore⟩, nofun⟩
      · exact .inr (.inr ⟨rfl, hposted⟩)

/-- What a listener is handed is new, and what it has besides was entrusted to nobody else. -/
theorem Guarded.brought_in (h : x.Guarded) {given : Option (Chore ω)}
    (hnext : x.session.dispatcher.nextEndpoint ≤ x'.session.dispatcher.nextEndpoint)
    (hfresh : ∀ r, given = some (.handler r) → r.id = x.session.dispatcher.nextEndpoint ∧
      r.id < x'.session.dispatcher.nextEndpoint)
    (hr : given.or (x.channel name).handler = some (.handler r)) :
    r.id < x'.session.dispatcher.nextEndpoint ∧
      (r.id = x.session.dispatcher.nextEndpoint ∨ ∃ c, x.Entrusts c r) ∧
      ∀ c, x.Entrusts c r → c = .channel name := by
  cases given with
  | some chore =>
      rw [Option.some_or] at hr
      obtain ⟨hid, hlt⟩ := hfresh r hr
      exact ⟨hlt, .inl hid, fun c hc => absurd hid (Nat.ne_of_lt (h.id_lt c r hc))⟩
  | none =>
      rw [Option.none_or] at hr
      have hkept : x.Entrusts (.channel name) r := hr
      exact ⟨Nat.lt_of_lt_of_le (h.id_lt _ r hkept) hnext, .inr ⟨_, hkept⟩,
        fun c hc => h.unique c _ r hc hkept⟩

/-- A registration stays with those who had it, or passes to one custodian; then it is new, or
somebody had it before. -/
theorem Guarded.entrusts_step (h : x.Guarded) (hstep : Step x a x') (r : Registration) :
    (∀ c, x'.Entrusts c r → x.Entrusts c r) ∨
      (r.id < x'.session.dispatcher.nextEndpoint ∧
        (r.id = x.session.dispatcher.nextEndpoint ∨ ∃ c, x.Entrusts c r) ∧
        ∃ keeper, ∀ c, x'.Entrusts c r → c = keeper) := by
  cases hstep with
  | rest next holds slots posts =>
      refine .inl fun c hr => ?_
      cases c with
      | channel n => exact (slots n).1.symm.trans hr
      | agenda => exact hr.imp fun due => (posts r due).mp
  | strike taken cause next holds slots posts others =>
      refine .inl fun c hr => ?_
      cases c with
      | channel n => exact (keeps_congr (congrFun slots n)).mp hr
      | agenda => exact hr.imp (posts r)
  | hand name given posted asked next fresh holds others handover posts =>
      by_cases hbrought : given.or (x.channel name).handler = some (.handler r)
      · obtain ⟨hlt, horigin, honly⟩ := h.brought_in next fresh hbrought
        refine .inr ⟨hlt, horigin, ?_⟩
        rcases handover.kept_or_posted with ⟨_, hnone⟩ | ⟨hnone, _⟩
        · refine ⟨.channel name, fun c hr => ?_⟩
          rcases entrusts_of_hand others posts hr with ⟨hold, _⟩ | ⟨hc, _⟩ | ⟨_, hposted⟩
          · exact honly c hold
          · exact hc
          · exact absurd (hnone.symm.trans hposted) nofun
        · refine ⟨.agenda, fun c hr => ?_⟩
          rcases entrusts_of_hand others posts hr with ⟨hold, hc⟩ | ⟨_, hkept⟩ | ⟨hc, _⟩
          · exact absurd (honly c hold) hc
          · exact absurd (hnone.symm.trans hkept) nofun
          · exact hc
      · refine .inl fun c hr => ?_
        rcases entrusts_of_hand others posts hr with ⟨hold, _⟩ | ⟨_, hkept⟩ | ⟨_, hposted⟩
        · exact hold
        · exact absurd (handover.source (.inl hkept)) hbrought
        · exact absurd (handover.source (.inr hposted)) hbrought

/-- A channel listener is not watched, and one that is disconnected keeps nothing. -/
theorem Guarded.channels_step (h : x.Guarded) (hstep : Step x a x') (name : ν) :
    (x'.channel name).watcher = none ∧
      ((x'.channel name).disconnected = true → (x'.channel name).handler = none) := by
  have hbefore := And.intro (h.watcher name) (h.severed name)
  cases hstep with
  | rest next holds slots posts =>
      obtain ⟨hhandler, hdown, hwatcher⟩ := slots name
      rw [hhandler, hdown, hwatcher]
      exact hbefore
  | strike r cause next holds slots posts others =>
      rw [slots]
      exact hbefore
  | hand other given posted asked next fresh holds others handover posts =>
      by_cases hn : name = other
      · subst hn
        cases handover with
        | sever handler _ watcher => exact ⟨watcher hbefore.1, fun _ => handler⟩
        | keep handler disconnected connected watcher =>
            refine ⟨watcher hbefore.1, fun hdown => ?_⟩
            have hwas := disconnected.symm.trans hdown
            have hgiven : given = none := by
              by_contra hsome
              exact absurd (hwas.symm.trans (connected hsome)) nofun
            rw [handler, hgiven, Option.none_or]
            exact hbefore.2 hwas
      · rw [others name hn]
        exact hbefore

theorem Step.next_le (h : Step x a x') :
    x.session.dispatcher.nextEndpoint ≤ x'.session.dispatcher.nextEndpoint := by
  cases h with
  | rest next _ _ _ => exact next
  | strike _ _ next _ _ _ _ => exact next
  | hand _ _ _ _ next _ _ _ _ _ => exact next

theorem Guarded.step (h : x.Guarded) (hstep : Step x a x') (hsound : x'.session.Sound) :
    x'.Guarded where
  sound := hsound
  watcher name := (h.channels_step hstep name).1
  severed name := (h.channels_step hstep name).2
  id_lt c r hr := by
    rcases h.entrusts_step hstep r with hold | ⟨hlt, _⟩
    · exact Nat.lt_of_lt_of_le (h.id_lt c r (hold c hr)) hstep.next_le
    · exact hlt
  unique c c' r hr hr' := by
    rcases h.entrusts_step hstep r with hold | ⟨_, _, keeper, honly⟩
    · exact h.unique c c' r (hold c hr) (hold c' hr')
    · exact (honly c hr).trans (honly c' hr').symm

theorem guarded_opening (origins : ν → Origin) (intervals : IntervalSource)
    (delays : DelaySource) : (opening origins intervals delays : Exchange ν ω).Guarded where
  sound := Session.sound_fresh intervals delays
  watcher _ := rfl
  severed _ _ := rfl
  id_lt c r hr := by
    cases c with
    | channel name => exact absurd hr nofun
    | agenda => exact absurd hr.choose_spec (List.not_mem_nil)
  unique c c' r hr _ := by
    cases c with
    | channel name => exact absurd hr nofun
    | agenda => exact absurd hr.choose_spec (List.not_mem_nil)

/-! ## Registrations that nobody is to take back -/

/-- An act hands a channel listener something while it keeps a registration that is held. -/
def Overwrites (x : Exchange ν ω) (a : Act ν ω) (name : ν) (r : Registration) : Prop :=
  x.Holds name r ∧ x.Keeps name r ∧ x.Installs a name

/-- The dispatcher holds a registration that nobody is to take back. -/
def Strands (x : Exchange ν ω) (name : ν) (r : Registration) : Prop :=
  x.Holds name r ∧ ∀ c, ¬ x.Entrusts c r

/-- A registration that is held stays, unless somebody takes it back or it is posted. -/
theorem Step.holds_of (hstep : Step x a x') (hholds : x.Holds name r)
    (hkept : ¬ x.Releases a r) (hnobody : ¬ x.Entrusts .agenda r) : x'.Holds name r := by
  cases hstep with
  | rest next holds slots posts => exact (holds name r).mpr hholds
  | hand other given posted asked next fresh holds others handover posts =>
      exact (holds name r).mpr (.inl hholds)
  | strike taken cause next holds slots posts others =>
      refine (holds name r).mpr ⟨hholds, ?_⟩
      rintro rfl
      exact cause.elim hkept hnobody

/-- What nobody is to take back stays so. -/
theorem Strands.step (h : x.Strands name r) (hguarded : x.Guarded) (hstep : Step x a x')
    (hkept : ¬ x.Releases a r) : x'.Strands name r := by
  obtain ⟨hholds, hnobody⟩ := h
  refine ⟨hstep.holds_of hholds hkept (hnobody .agenda), fun c hr => ?_⟩
  rcases hguarded.entrusts_step hstep r with hold | ⟨_, hnew | ⟨c', hc'⟩, _⟩
  · exact hnobody c (hold c hr)
  · exact absurd hnew (Nat.ne_of_lt (hguarded.id_lt_of_holds hholds))
  · exact hnobody c' hc'

/-- Whatever is posted was so before, or is due at once. -/
theorem Step.posts_cases (hstep : Step x a x') {due : Span} (hposts : x'.Posts r due) :
    x.Posts r due ∨ due = x'.session.timers.elapsed := by
  cases hstep with
  | rest next holds slots posts => exact .inl ((posts r due).mp hposts)
  | strike taken cause next holds slots posts others => exact .inl (posts r due hposts)
  | hand other given posted asked next fresh holds others handover posts =>
      exact ((posts r due).mp hposts).imp_right And.right

/-- What is held although neither its listener nor the agenda is to take it back was so
before, or the act overwrites it. -/
theorem Step.uncovered (hstep : Step x a x') (hholds : x'.Holds name r)
    (hkeeps : ¬ x'.Keeps name r) (hposts : ¬ x'.Entrusts .agenda r) :
    x.Overwrites a name r ∨ (x.Holds name r ∧ ¬ x.Keeps name r ∧ ¬ x.Entrusts .agenda r) := by
  cases hstep with
  | rest next holds slots posts =>
      refine .inr ⟨(holds name r).mp hholds, fun h => hkeeps ((slots name).1.trans h), ?_⟩
      exact fun h => hposts (h.imp fun due => (posts r due).mpr)
  | strike taken cause next holds slots posts others =>
      obtain ⟨hheld, hne⟩ := (holds name r).mp hholds
      refine .inr ⟨hheld, fun h => hkeeps ((keeps_congr (congrFun slots name)).mpr h), ?_⟩
      exact fun h => hposts (h.imp fun due => others r due hne)
  | hand other given posted asked next fresh holds others handover posts =>
      have hlands : name = other → given.or (x.channel other).handler ≠ some (.handler r) := by
        rintro rfl hsource
        rcases handover.kept_or_posted with ⟨hkept, _⟩ | ⟨_, hposted⟩
        · exact hkeeps (hkept.trans hsource)
        · exact hposts ⟨_, (posts r _).mpr (.inr ⟨hposted.trans hsource, rfl⟩)⟩
      rcases (holds name r).mp hholds with hheld | ⟨heq, hnew⟩
      · by_cases hkept : x.Keeps name r
        · have heq : name = other := by
            by_contra hne
            exact hkeeps ((keeps_congr (others name hne)).mpr hkept)
          subst heq
          refine .inl ⟨hheld, hkept, asked fun hnone => hlands rfl ?_⟩
          rw [hnone, Option.none_or]
          exact hkept
        · refine .inr ⟨hheld, hkept, fun h => hposts ?_⟩
          exact h.imp fun due hdue => (posts r due).mpr (.inl hdue)
      · exact absurd (by rw [hnew, Option.some_or]) (hlands heq)

/-! ## Runs -/

section Runs

variable [DecidableEq ν]

/-- While the dispatcher is there, an act does one of three things, and custody is kept. -/
theorem Guarded.act (h : x.Guarded) (a : Act ν ω)
    (halive : (x.act a).session.standing ≠ .closed) :
    Step x a (x.act a) ∧ (x.act a).Guarded := by
  have hstep := step_act h.sound h.watcher a halive
  obtain ⟨happenings, heq⟩ := (goesOn_act h.watcher a).course
  exact ⟨hstep, h.step hstep (heq ▸ h.sound.course happenings)⟩

/-- An act concerns the session, or one channel listener and the timers. -/
theorem act_cases (x : Exchange ν ω) (a : Act ν ω) :
    x.act a = x ∨ (∃ happening, x.act a = x.undergo happening) ∨
      ∃ name c' timers, x.act a = x.setChannel name c' timers := by
  cases a with
  | move route m => exact .inr (.inl ⟨_, rfl⟩)
  | post delay work => exact .inr (.inl ⟨_, rfl⟩)
  | withdraw id =>
      unfold act
      dsimp only
      split
      next => exact .inl rfl
      next => exact .inr (.inl ⟨_, rfl⟩)
  | install name work => exact .inr (.inr ⟨_, _, _, rfl⟩)
  | notify name => exact .inr (.inr ⟨_, _, _, rfl⟩)
  | disconnect name => exact .inr (.inr ⟨_, _, _, rfl⟩)
  | receive name => exact .inr (.inr ⟨_, _, _, rfl⟩)
  | close name => exact .inr (.inr ⟨_, _, _, rfl⟩)
  | dropReceiver name => exact .inr (.inr ⟨_, _, _, rfl⟩)

theorem alive_of_act (halive : (x.act a).session.standing ≠ .closed) :
    x.session.standing ≠ .closed := by
  rcases x.act_cases a with heq | ⟨happening, heq⟩ | ⟨name, c', timers, heq⟩ <;>
    rw [heq] at halive
  · exact halive
  · exact Session.alive_of_undergo (undergo_alive halive)
  · exact halive

section Opening

variable (origins : ν → Origin) (intervals : IntervalSource) (delays : DelaySource)

theorem guarded_course (run : List (Act ν ω))
    (halive : ((opening origins intervals delays).course run).session.standing ≠ .closed) :
    ((opening origins intervals delays).course run).Guarded := by
  induction run using List.reverseRecOn with
  | nil => exact guarded_opening origins intervals delays
  | append_singleton run a ih =>
      rw [course_concat] at halive ⊢
      exact ((ih (alive_of_act halive)).act a halive).2

theorem sound_course (run : List (Act ν ω)) :
    ((opening origins intervals delays).course run).session.Sound := by
  obtain ⟨happenings, heq⟩ := exists_course origins intervals delays run
  rw [heq]
  exact (Session.sound_fresh intervals delays).course happenings

theorem vacated_course (run : List (Act ν ω)) :
    ((opening origins intervals delays).course run).session.Vacated := by
  obtain ⟨happenings, heq⟩ := exists_course origins intervals delays run
  rw [heq]
  exact (Session.Vacated.of_held rfl).course happenings

end Opening

/-! ## Registrations that are forgotten -/

/-- In the course of a run a channel listener was handed something while it kept a
registration, and nobody has taken that back since of his own accord. -/
inductive Forgets (x : Exchange ν ω) (name : ν) (r : Registration) : List (Act ν ω) → Prop
  | overwritten {run : List (Act ν ω)} {a : Act ν ω} (h : (x.course run).Overwrites a name r) :
      Forgets x name r (run ++ [a])
  | still {run : List (Act ν ω)} {a : Act ν ω} (h : Forgets x name r run)
      (hkept : ¬ (x.course run).Releases a r) : Forgets x name r (run ++ [a])

/-- An act that installs something hands it to the channel listener, be it a new
registration or the work of somebody else. -/
theorem act_of_installs (h : x.Installs a name) :
    ∃ s' chore, x.act a = (Exchange.mk s' x.channel).install name chore ∧
      s'.timers = x.session.timers ∧
      ∀ r, chore = .handler r → r.id = x.session.dispatcher.nextEndpoint := by
  rcases h with ⟨work, rfl⟩ | ⟨route, origin, rfl, hheld⟩
  · exact ⟨x.session, .other work, rfl, rfl, fun _ => nofun⟩
  · refine ⟨(x.session.add origin (.channel name) : Result _ (Chore ω)).session,
      .handler ⟨origin, x.session.dispatcher.nextEndpoint⟩, ?_, rfl, ?_⟩
    · unfold act undergo Session.undergo Session.act Session.perform
      dsimp only
      rw [if_neg (fun hgone => hgone.2 hheld)]
      rfl
    · rintro r ⟨⟩
      rfl

/-- What a channel listener keeps when it is handed something else, nobody is to take back. -/
theorem Guarded.strands_of_overwrites (h : x.Guarded) (hover : x.Overwrites a name r)
    (halive : (x.act a).session.standing ≠ .closed) : (x.act a).Strands name r := by
  obtain ⟨hholds, hkeeps, hinstalls⟩ := hover
  have honly : ∀ c, x.Entrusts c r → c = .channel name := fun c hc =>
    h.unique c (.channel name) r hc hkeeps
  have hkept : ¬ x.Releases a r := by
    rintro ⟨route, ⟨rfl, _⟩ | rfl⟩ <;> rcases hinstalls with ⟨work, hother⟩ | ⟨_, _, hother, _⟩ <;>
      cases hother
  refine ⟨(h.act a halive).1.holds_of hholds hkept fun hposts => absurd (honly _ hposts) nofun, ?_⟩
  obtain ⟨s', chore, heq, htimers, hfresh⟩ := act_of_installs hinstalls
  obtain ⟨c', posted, hinstall, hover⟩ := (Exchange.mk s' x.channel).exists_handover_install name
    chore
  -- neither what the listener keeps now nor what it posts is the registration it had
  have hother : ¬ (c'.handler = some (.handler r) ∨ posted = some (.handler r)) := by
    intro hr
    have hsource := hover.source hr
    rw [Option.some_or, Option.some.injEq] at hsource
    exact Nat.ne_of_lt (h.id_lt_of_holds hholds) (hfresh r hsource)
  rw [heq, hinstall]
  rintro (n | _) hr
  · by_cases hn : n = name
    · subst hn
      refine hother (.inl ?_)
      simpa [Entrusts, Keeps, setChannel] using hr
    · refine hn (Custodian.channel.inj (honly (.channel n) ?_))
      simpa [Entrusts, Keeps, setChannel, hn] using hr
  · obtain ⟨due, hdue⟩ := hr
    rcases mem_handlers_posting.mp hdue with hbefore | ⟨hposted, _⟩
    · refine nomatch honly .agenda ⟨due, ?_⟩
      unfold Posts
      rw [← htimers]
      exact hbefore
    · exact hother (.inr hposted)

/-- What somebody takes back of his own accord is not held any more. -/
theorem Guarded.not_holds_of_releases (h : x.Guarded) (hreleases : x.Releases a r)
    (halive : (x.act a).session.standing ≠ .closed) : ¬ (x.act a).Holds name r := by
  have hgone : (x.session.dispatcher.remove r).1.listener? r.origin r.id ≠
      some (.channel name) := fun hfound => ((holds_remove h.sound).mp hfound).2 rfl
  rcases hreleases with ⟨route, ⟨rfl, hheld⟩ | rfl⟩
  · have hact : ∃ notes, x.session.undergo (.deed (.move route (.remove r))) =
        ({ x.session with dispatcher := (x.session.dispatcher.remove r).1 }.answer notes .done :
          Result _ (Chore ω)) := by
      unfold Session.undergo Session.act Session.perform
      exact ⟨_, if_neg fun hrefused => hrefused.2 hheld⟩
    obtain ⟨notes, hact⟩ := hact
    have halive' := undergo_alive halive
    rw [hact] at halive'
    unfold Exchange.act Exchange.undergo
    dsimp only
    rw [hact, Session.answer_of_alive halive']
    exact hgone
  · exact hgone

section Opening

variable (origins : ν → Origin) (intervals : IntervalSource) (delays : DelaySource)

/-- A registration that is held is kept by its channel listener, waits on the agenda, or is
forgotten. -/
theorem covered_course (run : List (Act ν ω))
    (halive : ((opening origins intervals delays).course run).session.standing ≠ .closed)
    (hholds : ((opening origins intervals delays).course run).Holds name r) :
    ((opening origins intervals delays).course run).Keeps name r ∨
      ((opening origins intervals delays).course run).Entrusts .agenda r ∨
      (opening origins intervals delays).Forgets name r run := by
  induction run using List.reverseRecOn with
  | nil => exact absurd hholds nofun
  | append_singleton run a ih =>
      have hguarded := guarded_course origins intervals delays run
      rw [course_concat] at halive hholds ⊢
      have hbefore := alive_of_act halive
      rw [or_iff_not_imp_left, or_iff_not_imp_left]
      intro hkeeps hposts
      have hstep := ((hguarded hbefore).act a halive).1
      rcases hstep.uncovered hholds hkeeps hposts with hover | ⟨hheld, hnot, hnone⟩
      · exact .overwritten hover
      · refine .still (((ih hbefore hheld).resolve_left hnot).resolve_left hnone) ?_
        exact fun hreleases => (hguarded hbefore).not_holds_of_releases hreleases halive hholds

/-- A registration that is forgotten stays. -/
theorem strands_course {run : List (Act ν ω)}
    (hforgets : (opening origins intervals delays).Forgets name r run)
    (halive : ((opening origins intervals delays).course run).session.standing ≠ .closed) :
    ((opening origins intervals delays).course run).Strands name r := by
  induction hforgets with
  | overwritten hover =>
      rw [course_concat] at halive ⊢
      have hguarded := guarded_course origins intervals delays _ (alive_of_act halive)
      exact hguarded.strands_of_overwrites hover halive
  | still _ hkept ih =>
      rw [course_concat] at halive ⊢
      have hguarded := guarded_course origins intervals delays _ (alive_of_act halive)
      exact (ih (alive_of_act halive)).step hguarded (hguarded.act _ halive).1 hkept

/-- What is posted is due by a time that the clock has not passed. -/
theorem due_le_course (run : List (Act ν ω)) {limit due : Span}
    (halive : ((opening origins intervals delays).course run).session.standing ≠ .closed)
    (hclock : ∀ first, first <+: run →
      ((opening origins intervals delays).course first).session.timers.elapsed ≤ limit)
    (hposts : ((opening origins intervals delays).course run).Posts r due) : due ≤ limit := by
  induction run using List.reverseRecOn with
  | nil => exact absurd hposts List.not_mem_nil
  | append_singleton run a ih =>
      have hguarded := guarded_course origins intervals delays run
      have hnow := hclock _ (List.prefix_refl _)
      rw [course_concat] at halive hposts hnow
      have hbefore := alive_of_act halive
      rcases (((hguarded hbefore).act a halive).1).posts_cases hposts with hold | rfl
      · exact ih hbefore (fun first hfirst => hclock first (hfirst.trans (List.prefix_append _ _)))
          hold
      · exact hnow

end Opening

/-! ## Registrations of disconnected listeners -/

/-- At the end of a run nothing is due any more, and the clock has never been ahead. -/
structure Settles (x : Exchange ν ω) (run : List (Act ν ω)) : Prop where
  clock : ∀ first, first <+: run →
    (x.course first).session.timers.elapsed ≤ (x.course run).session.timers.elapsed
  idle : (x.course run).session.timers.popDue (x.course run).session.timers.elapsed = none

instance (x : Exchange ν ω) (run : List (Act ν ω)) : Decidable (x.Settles run) :=
  decidable_of_iff ((∀ first ∈ run.inits,
      (x.course first).session.timers.elapsed ≤ (x.course run).session.timers.elapsed) ∧
    ((x.course run).session.timers.popDue (x.course run).session.timers.elapsed).isNone)
    ⟨fun h => ⟨fun first hfirst => h.1 first ((List.mem_inits _ _).mpr hfirst),
        Option.isNone_iff_eq_none.mp h.2⟩,
      fun h => ⟨fun first hfirst => h.clock first ((List.mem_inits _ _).mp hfirst),
        Option.isNone_iff_eq_none.mpr h.idle⟩⟩

/-- At the end of a run that settles, what is held of a disconnected listener is forgotten. -/
theorem forgets_of_settles (origins : ν → Origin) (intervals : IntervalSource)
    (delays : DelaySource) {run : List (Act ν ω)}
    (hsettles : (opening origins intervals delays).Settles run)
    (hdown : (((opening origins intervals delays).course run).channel name).disconnected = true)
    (hholds : ((opening origins intervals delays).course run).Holds name r) :
    (opening origins intervals delays).Forgets name r run := by
  have halive := alive_of_holds (vacated_course origins intervals delays run) hholds
  have hguarded := guarded_course origins intervals delays run halive
  rcases covered_course origins intervals delays run halive hholds with hkept | hposted | h
  · exact absurd hkept (hguarded.not_keeps hdown)
  · -- whatever is posted would be due by now
    obtain ⟨due, hdue⟩ := hposted
    have hle := due_le_course origins intervals delays run halive hsettles.clock hdue
    have hlt := lt_of_mem_handlers hguarded.sound.agenda hsettles.idle hdue
    exact absurd hlt (Span.not_lt.mpr hle)
  · exact h

/-- At the end of a run that settles, a dispatcher holds a registration of a disconnected
channel listener exactly if the listener has forgotten it, and has a record for an origin
exactly if anybody but a disconnected channel listener is registered there, or such a
registration is forgotten. -/
theorem disconnected_held_iff_forgotten (origins : ν → Origin) (intervals : IntervalSource)
    (delays : DelaySource) (run : List (Act ν ω))
    (hsettles : (opening origins intervals delays).Settles run) :
    let start : Exchange ν ω := opening origins intervals delays
    let x := start.course run
    (∀ name r, (x.channel name).disconnected = true →
      (x.Holds name r ↔ x.session.standing ≠ .closed ∧ start.Forgets name r run)) ∧
    ∀ origin, x.session.dispatcher.record? origin ≠ none ↔
      ∃ id listener, x.session.dispatcher.listener? origin id = some listener ∧
        ∀ name, listener = .channel name → (x.channel name).disconnected = true →
          start.Forgets name ⟨origin, id⟩ run := by
  intro start x
  have hvacated : x.session.Vacated := vacated_course origins intervals delays run
  have hregistry : x.session.dispatcher.Sound :=
    (sound_course origins intervals delays run).registry
  have hforgets : ∀ name r, (x.channel name).disconnected = true → x.Holds name r →
      start.Forgets name r run :=
    fun _ _ => forgets_of_settles origins intervals delays hsettles
  refine ⟨fun name r hdown => ⟨fun hholds => ?_, fun ⟨halive, h⟩ => ?_⟩, fun origin => ?_⟩
  · exact ⟨alive_of_holds hvacated hholds, hforgets name r hdown hholds⟩
  · exact (strands_course origins intervals delays h halive).1
  · constructor
    · intro hrecord
      obtain ⟨id, hid⟩ := List.exists_mem_of_ne_nil _ (hregistry.registered_ne_nil hrecord)
      obtain ⟨listener, hfound⟩ :=
        Option.isSome_iff_exists.mp (Dispatcher.listener?_isSome.mpr hid)
      refine ⟨id, listener, hfound, ?_⟩
      rintro name rfl hdown
      exact hforgets name ⟨origin, id⟩ hdown hfound
    · rintro ⟨id, listener, hfound, _⟩ hnone
      unfold Dispatcher.listener? at hfound
      rw [hnone] at hfound
      cases hfound

end Runs

/-! ## A listener that is registered twice -/

/-- A dispatcher with an interval of a minute and delays of ten seconds, and one channel. -/
def deskOfOne : Exchange Unit Unit :=
  opening (fun _ => default) ⟨fun _ => .ofSecs 60, 0⟩ (.scripted [.ofSecs 10])

/-- The channel listener is registered. -/
def enrolling : List (Act Unit Unit) :=
  [.move .straight (.add default (.channel ())), .move .straight .resume]

/-- The channel listener is disconnected, and all that is due runs. -/
def draining : List (Act Unit Unit) :=
  [.disconnect (), .move .straight (.travel .runUntilIdle), .move .straight .proceed,
    .move .straight .resume, .move .straight .proceed]

/-- The conditions are met when a listener that was registered once is disconnected. Its
registration is taken back, so it was not forgotten. -/
theorem disconnected_held_iff_forgotten_once :
    deskOfOne.Settles (enrolling ++ draining) ∧
      ((deskOfOne.course (enrolling ++ draining)).channel ()).disconnected = true ∧
      (deskOfOne.course (enrolling ++ draining)).session.dispatcher.record? default = none ∧
      ¬ deskOfOne.Forgets () ⟨default, 0⟩ (enrolling ++ draining) := by
  have hsettles : deskOfOne.Settles (enrolling ++ draining) := by decide +kernel
  have hiff := (disconnected_held_iff_forgotten _ _ _ _ hsettles).1 () ⟨default, 0⟩ rfl
  refine ⟨hsettles, rfl, by decide +kernel, fun hforgets => ?_⟩
  exact absurd (hiff.mpr ⟨by decide +kernel, hforgets⟩) nofun

/-- A listener that was registered twice leaves its first registration behind when it is
disconnected. -/
theorem first_of_two_registrations_stays :
    ¬ ∀ run : List (Act Unit Unit), deskOfOne.Settles run →
      ∀ name r, ((deskOfOne.course run).channel name).disconnected = true →
        ¬ (deskOfOne.course run).Holds name r := by
  intro hnone
  have hsettles : deskOfOne.Settles (enrolling ++ enrolling ++ draining) := by decide +kernel
  exact hnone _ hsettles () ⟨default, 0⟩ rfl rfl

end Cadence.Broadcast.Exchange

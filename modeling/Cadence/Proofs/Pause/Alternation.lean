import Cadence.Proofs.Pause.Signals

/-! # Alternation of observe and unobserve

A pause puts its new sources into the observation set before it acquires, and
only then observes them one by one. A finish that comes in between unobserves a
source that was never observed, and a second pause that follows it there makes
the first one observe the source once more. Apart from these early finishes the
calls for each source alternate, also where the coordinator goes away.
-/

namespace Cadence.Pause

/-- The calls for a source alternate, beginning with an observe. -/
def Alternates (s : SourceId) (calls : List Call) : Prop :=
  ∀ i call, (signals s calls)[i]? = some call →
    call = if i % 2 = 0 then .observe s else .unobserve s

theorem alternates_nil (s : SourceId) : Alternates s [] := by
  intro i call h
  cases h

/-- While the calls alternate, the last was an observe exactly if their number is odd. -/
theorem Alternates.watched_iff {s : SourceId} {calls : List Call} (h : Alternates s calls) :
    Watched s calls ↔ (signals s calls).length % 2 = 1 := by
  unfold Watched
  rw [List.getLast?_eq_getElem?]
  by_cases hempty : (signals s calls).length = 0
  · rw [List.length_eq_zero_iff.mp hempty]
    simp
  · obtain ⟨last, hlast⟩ : ∃ last, (signals s calls)[(signals s calls).length - 1]? = some last :=
      ⟨_, List.getElem?_eq_getElem (by omega)⟩
    have hcall := h _ _ hlast
    rw [hlast, hcall]
    split <;> simp <;> omega

theorem alternates_append {s : SourceId} {call : Call} {calls : List Call}
    (hcall : signals s [call] = [call]) :
    Alternates s (calls ++ [call]) ↔ Alternates s calls ∧
      call = if (signals s calls).length % 2 = 0 then .observe s else .unobserve s := by
  unfold Alternates
  rw [signals_append, hcall]
  constructor
  · refine fun h => ⟨fun i found hfound => h i found ?_, h _ call ?_⟩
    · obtain ⟨hi, _⟩ := List.getElem?_eq_some_iff.mp hfound
      rw [List.getElem?_append_left hi, hfound]
    · rw [List.getElem?_append_right (Nat.le_refl _), Nat.sub_self]
      rfl
  · rintro ⟨h, hlast⟩ i found hfound
    rcases Nat.lt_trichotomy i (signals s calls).length with hi | rfl | hi
    · rw [List.getElem?_append_left hi] at hfound
      exact h i found hfound
    · rw [List.getElem?_append_right (Nat.le_refl _), Nat.sub_self] at hfound
      cases hfound
      exact hlast
    · rw [List.getElem?_eq_none (by simp; omega)] at hfound
      cases hfound

theorem alternates_observe {s : SourceId} {calls : List Call} :
    Alternates s (calls ++ [.observe s]) ↔ Alternates s calls ∧ ¬ Watched s calls := by
  rw [alternates_append (signals_observe s)]
  apply and_congr_right
  intro h
  rw [h.watched_iff]
  split <;> simp <;> omega

theorem alternates_unobserve {s : SourceId} {calls : List Call} :
    Alternates s (calls ++ [.unobserve s]) ↔ Alternates s calls ∧ Watched s calls := by
  rw [alternates_append (signals_unobserve s)]
  apply and_congr_right
  intro h
  rw [h.watched_iff]
  split <;> simp <;> omega

theorem alternates_other {s : SourceId} {calls more : List Call} (h : signals s more = []) :
    Alternates s (calls ++ more) ↔ Alternates s calls := by
  unfold Alternates
  rw [signals_append, h, List.append_nil]

/-- What comes later does not mend calls that fail to alternate. -/
theorem Alternates.of_append {s : SourceId} {first second : List Call}
    (h : Alternates s (first ++ second)) : Alternates s first := by
  intro i call hcall
  apply h i call
  obtain ⟨hi, _⟩ := List.getElem?_eq_some_iff.mp hcall
  rw [signals_append, List.getElem?_append_left hi, hcall]

theorem closing_of_mem_leaving {s : SourceId} {below : List Stage} (h : s ∈ leaving below) :
    ∃ rest held, .closing rest held ∈ below := by
  obtain ⟨stage, hstage, hleaving⟩ := List.mem_flatMap.mp h
  cases stage with
  | closing rest held => exact ⟨rest, held, hstage⟩
  | _ => cases hleaving

/-- The calls for one source alternate so far, and those that are outstanding for
it will go on to do so. -/
structure Paired (s : SourceId) (observed : List SourceId) (below : List Stage)
    (calls : List Call) : Prop where
  alternates : Alternates s calls
  awaited_once : (awaited below).count s ≤ 1
  awaited_fresh : s ∈ awaited below → s ∈ observed ∧ ¬ Watched s calls
  leaving_once : (leaving below).count s ≤ 1
  leaving_watched : s ∈ leaving below → Watched s calls

namespace Paired

variable {s : SourceId} {c : Coordinator} {a : Agenda Alarm} {observed : List SourceId}
  {below : List Stage} {calls : List Call}

theorem start : Paired s [] [] [] where
  alternates := alternates_nil s
  awaited_once := Nat.zero_le _
  awaited_fresh h := absurd h List.not_mem_nil
  leaving_once := Nat.zero_le _
  leaving_watched h := absurd h List.not_mem_nil

/-- Stages are told apart only by the sources that wait at them. -/
theorem exchange {above : List Stage} (h : Paired s observed above calls) (below : List Stage)
    (hawaited : awaited above = awaited below) (hleaving : leaving above = leaving below) :
    Paired s observed below calls where
  alternates := h.alternates
  awaited_once := hawaited ▸ h.awaited_once
  awaited_fresh := hawaited ▸ h.awaited_fresh
  leaving_once := hleaving ▸ h.leaving_once
  leaving_watched := hleaving ▸ h.leaving_watched

/-- Calls that are not for the source make no difference. -/
theorem aside (h : Paired s observed below calls) (more : List Call) (hmore : signals s more = []) :
    Paired s observed below (calls ++ more) := by
  have hwatched : Watched s (calls ++ more) ↔ Watched s calls := by
    unfold Watched
    rw [signals_append, hmore, List.append_nil]
  refine ⟨(alternates_other hmore).mpr h.alternates, h.awaited_once, ?_, h.leaving_once, ?_⟩
  · rw [hwatched]
    exact h.awaited_fresh
  · rw [hwatched]
    exact h.leaving_watched

/-- At its turn a source that is still in the set is observed, and only then. -/
theorem observeNext {sources : List SourceId}
    (h : Paired s c.observed (.observing sources :: below) calls) (events : List Event) :
    Progress.Meets
      { coordinator := c, timers := a, events, next := c.observeNext sources }
      (fun c _ => Paired s c.observed) below calls := by
  have honce : sources.count s + (awaited below).count s ≤ 1 := by
    simpa [Stage.awaited] using h.awaited_once
  have hfresh : s ∈ sources ∨ s ∈ awaited below → s ∈ c.observed ∧ ¬ Watched s calls := by
    simpa [Stage.awaited] using h.awaited_fresh
  cases hnext : c.observeNext sources with
  | none =>
      refine (Progress.meets_none rfl _ _ _).mpr
        ⟨h.alternates, by omega, fun hs => hfresh (.inr hs), h.leaving_once, h.leaving_watched⟩
  | some found =>
      obtain ⟨call, stage⟩ := found
      obtain ⟨skipped, x, rest, rfl, hskipped, hx, rfl, rfl⟩ :=
        Coordinator.observeNext_eq_some hnext
      apply (Progress.meets_some rfl _ _ _).mpr
      simp only [List.count_append, List.count_cons, beq_iff_eq] at honce
      by_cases hxs : x = s
      · subst hxs
        rw [if_pos rfl] at honce
        -- it was awaited once, and that was here
        have hlast : x ∉ awaited (.observing rest :: below) := by
          rw [awaited_cons, ← List.count_eq_zero, List.count_append]
          show rest.count x + _ = 0
          omega
        have hunwatched := (hfresh (.inl (by simp))).2
        exact ⟨alternates_observe.mpr ⟨h.alternates, hunwatched⟩,
          by rw [List.count_eq_zero.mpr hlast]; exact Nat.zero_le _, fun hs => absurd hs hlast,
          h.leaving_once, fun _ => watched_observe x calls⟩
      · refine aside ?_ [.observe x] (signals_observe_ne hxs)
        refine ⟨h.alternates, ?_, ?_, h.leaving_once, h.leaving_watched⟩
        · rw [awaited_cons, List.count_append]
          show rest.count s + _ ≤ 1
          omega
        · intro hs
          refine hfresh ((List.mem_append.mp hs).imp_left fun hrest => ?_)
          exact List.mem_append_right _ (List.mem_cons_of_mem _ hrest)

theorem tells (s : SourceId) : Tells (Paired s) where
  exchange h below hawaited hleaving _ := h.exchange below hawaited hleaving
  aside h call hcall := h.aside [call] (by simp [signals, hcall s])
  observeNext h events := h.observeNext events

/-- A source that a pause takes in was not awaited before, and not watched. -/
theorem taken (h : Paired s c.observed below calls) (htold : Told c.observed below calls)
    (hopen : ∀ rest held, .closing rest held ∉ below)
    {g : Coordinator.Gathering (Agenda Alarm)} (hg : c.Gathered g) :
    Paired s g.coordinator.observed (.observing g.added :: below) calls := by
  have hstay : s ∉ leaving below := by
    intro hs
    obtain ⟨rest, held, hstage⟩ := closing_of_mem_leaving hs
    exact hopen rest held hstage
  refine ⟨h.alternates, ?_, ?_, h.leaving_once, h.leaving_watched⟩
  · rw [awaited_cons, List.count_append]
    show g.added.count s + _ ≤ 1
    by_cases hs : s ∈ g.added
    · have hnew : s ∉ awaited below := fun hbelow => hg.added_new s hs (h.awaited_fresh hbelow).1
      rw [List.count_eq_zero.mpr hnew]
      exact List.nodup_iff_count_le_one.mp hg.added_nodup s
    · rw [List.count_eq_zero.mpr hs, Nat.zero_add]
      exact h.awaited_once
  · intro hs
    rw [hg.mem_observed]
    rcases List.mem_append.mp hs with hs | hs
    · refine ⟨.inr hs, fun hwatched => ?_⟩
      exact (htold.watched_observed s hwatched).elim (hg.added_new s hs) hstay
    · exact (h.awaited_fresh hs).imp_left .inl

theorem pause (h : Paired s c.observed below calls) (htold : Told c.observed below calls)
    (hopen : ∀ rest held, .closing rest held ∉ below) (hattuned : Attuned c.timer a)
    (hascending : c.observed.Pairwise (· < ·)) (sources : List SourceId) (grace : Span) :
    (c.pause a sources grace).Meets (fun c _ => Paired s c.observed) below calls :=
  (tells s).pause
    (h.taken htold hopen (Coordinator.gathered_taken hattuned hascending sources grace))

/-- A finish keeps the calls alternating unless it comes early. -/
theorem finish (h : Paired s c.observed below calls) (htold : Told c.observed below calls)
    (hascending : c.observed.Pairwise (· < ·)) (source : SourceId)
    (htimely : source = s → s ∈ c.observed → s ∉ awaited below) :
    (c.finish a source).Meets (fun c _ => Paired s c.observed) below calls := by
  have hnodup : c.observed.Nodup := hascending.imp Nat.ne_of_lt
  by_cases hsource : source ∈ c.observed
  · obtain ⟨givenUp, hnext, hobserved⟩ := c.finish_of_mem a hsource
    apply (Progress.meets_some hnext _ _ _).mpr
    rw [hobserved]
    by_cases hs : source = s
    · subst hs
      -- its observe call has been made, since the finish is timely
      have hbelow := htimely rfl hsource
      have hwatched := (htold.observed_watched source hsource).resolve_right hbelow
      have hstay : source ∉ leaving below := by
        intro hmem
        obtain ⟨rest, held, hstage⟩ := closing_of_mem_leaving hmem
        exact List.not_mem_nil (htold.closing_empty rest held hstage ▸ hsource)
      exact ⟨alternates_unobserve.mpr ⟨h.alternates, hwatched⟩, h.awaited_once,
        fun hmem => absurd hmem hbelow, h.leaving_once, fun hmem => absurd hmem hstay⟩
    · refine aside ?_ [.unobserve source] (signals_unobserve_ne hs)
      refine ⟨h.alternates, h.awaited_once, fun hmem => ?_, h.leaving_once, h.leaving_watched⟩
      rw [hnodup.mem_erase_iff]
      exact (h.awaited_fresh hmem).imp_left fun hobs => ⟨Ne.symm hs, hobs⟩
  · unfold Coordinator.finish
    rw [if_neg hsource]
    exact (Progress.meets_none rfl _ _ _).mpr h

/-- A source that leaves is watched until its turn comes. -/
theorem closeNext {rest : List SourceId} {held : Bool}
    (h : Paired s c.observed (.closing rest held :: below) calls) (hempty : c.observed = [])
    (events : List Event) :
    (c.closeNext a rest held events).Meets (fun c _ => Paired s c.observed) below calls := by
  cases rest with
  | nil => exact (tells s).closed ((tells s).drop h rfl rfl) held events
  | cons x rest =>
      apply (Progress.meets_some rfl _ _ _).mpr
      have hidle : s ∉ awaited below := by
        intro hs
        exact List.not_mem_nil (hempty ▸ (h.awaited_fresh hs).1)
      have honce : (x :: rest).count s + (leaving below).count s ≤ 1 := by
        rw [← List.count_append]
        exact h.leaving_once
      simp only [List.count_cons, beq_iff_eq] at honce
      by_cases hxs : x = s
      · subst hxs
        rw [if_pos rfl] at honce
        -- it was leaving once, and that was here
        have hlast : x ∉ leaving (.closing rest held :: below) := by
          rw [leaving_cons, ← List.count_eq_zero, List.count_append]
          show rest.count x + _ = 0
          omega
        have hwatched := h.leaving_watched (List.mem_append_left _ List.mem_cons_self)
        exact ⟨alternates_unobserve.mpr ⟨h.alternates, hwatched⟩, h.awaited_once,
          fun hs => absurd hs hidle, by rw [List.count_eq_zero.mpr hlast]; exact Nat.zero_le _,
          fun hs => absurd hs hlast⟩
      · refine aside ?_ [.unobserve x] (signals_unobserve_ne hxs)
        refine ⟨h.alternates, h.awaited_once, h.awaited_fresh, ?_, fun hs => ?_⟩
        · rw [leaving_cons, List.count_append]
          show rest.count s + _ ≤ 1
          omega
        · refine h.leaving_watched ((List.mem_append.mp hs).elim (fun hrest => ?_) fun hbelow => ?_)
          · exact List.mem_append_left _ (List.mem_cons_of_mem x hrest)
          · exact List.mem_append_right _ hbelow

/-- With no operation under way every observed source is watched. -/
theorem close (h : Paired s c.observed below calls) (htold : Told c.observed below calls)
    (hascending : c.observed.Pairwise (· < ·)) (hbelow : ∀ stage ∈ below, stage = .finished) :
    (c.close a).Meets (fun c _ => Paired s c.observed) below calls := by
  have hawaited : awaited below = [] := by
    apply List.flatMap_eq_nil_iff.mpr
    intro stage hstage
    rw [hbelow stage hstage]
    rfl
  have hleaving : leaving below = [] := by
    apply List.flatMap_eq_nil_iff.mpr
    intro stage hstage
    rw [hbelow stage hstage]
    rfl
  have hnodup : c.observed.Nodup := hascending.imp Nat.ne_of_lt
  -- the observed sources are the ones that leave
  refine closeNext ⟨h.alternates, h.awaited_once, ?_, ?_, ?_⟩ rfl _
  · intro hs
    exact absurd (hawaited ▸ hs) List.not_mem_nil
  · rw [leaving_cons, hleaving, List.append_nil]
    exact List.nodup_iff_count_le_one.mp hnodup s
  · intro hs
    rw [leaving_cons, hleaving, List.append_nil] at hs
    apply (htold.observed_watched s hs).resolve_right
    rw [hawaited]
    exact List.not_mem_nil

end Paired

/-- The law of runs in which no finish of the source comes early. -/
structure Balanced (s : SourceId) (c : Coordinator) (a : Agenda Alarm) (below : List Stage)
    (calls : List Call) : Prop extends Signalled c a below calls, Paired s c.observed below calls

namespace Balanced

variable {s : SourceId} {c : Coordinator} {a : Agenda Alarm} {below : List Stage}
  {calls : List Call}

theorem resume {stage : Stage} (h : Balanced s c a (stage :: below) calls)
    (hopen : ∀ grace, stage = .listing grace → ∀ rest held, .closing rest held ∉ below)
    (sources : List SourceId) :
    (c.resume a sources stage).Meets (fun c _ => Paired s c.observed) below calls := by
  refine (Paired.tells s).resume h.toPaired ?_ ?_
  · rintro grace rfl
    exact ((Paired.tells s).drop h.toPaired rfl rfl).pause (Told.tells.drop h.toTold rfl rfl)
      (hopen grace rfl) h.attuned h.ascending sources grace
  · rintro rest held rfl
    exact h.toPaired.closeNext (h.closing_empty rest held List.mem_cons_self) []

theorem stable (s : SourceId) : Law.Stable (Balanced s) where
  pause h hopen sources grace :=
    ⟨Signalled.stable.pause h.toSignalled hopen sources grace,
      h.toPaired.pause h.toTold hopen h.attuned h.ascending sources grace⟩
  list h grace :=
    ⟨Signalled.stable.list h.toSignalled grace, (Paired.tells s).list h.toPaired grace⟩
  resume h hopen sources :=
    ⟨Signalled.stable.resume h.toSignalled hopen sources, h.resume hopen sources⟩
  alarm h hpop := ⟨Signalled.stable.alarm h.toSignalled hpop, (Paired.tells s).alarm h.toPaired _⟩
  settled h haimed hnone := ⟨Signalled.stable.settled h.toSignalled haimed hnone, h.toPaired⟩
  close h hbelow :=
    ⟨Signalled.stable.close h.toSignalled hbelow,
      h.toPaired.close h.toTold h.ascending hbelow⟩

end Balanced

namespace Session

/-- A finish of the source comes early here: its observe call is outstanding. -/
def Early (s : SourceId) (t : OnAgenda) : Prop :=
  t.standing = .owned ∧ s ∈ t.coordinator.observed ∧ s ∈ awaited t.stages

/-- In these moves no finish of the source comes early. -/
def Timely (s : SourceId) (moves : List Move) : Prop :=
  ∀ before rest, moves = before ++ .finish s :: rest → ¬ (fresh.after before).Early s

theorem timely_concat {s : SourceId} {moves : List Move} {m : Move} :
    Timely s (moves ++ [m]) ↔
      Timely s moves ∧ (m = .finish s → ¬ (fresh.after moves).Early s) := by
  constructor
  · refine fun h => ⟨fun before rest heq => h before (rest ++ [m]) (by simp [heq]), ?_⟩
    rintro rfl
    exact h moves [] rfl
  · rintro ⟨h, hlast⟩ before rest heq
    rcases List.eq_nil_or_concat rest with rfl | ⟨more, last, rfl⟩
    · obtain ⟨rfl, hm⟩ := List.append_inj' heq rfl
      exact hlast (List.cons.inj hm).1
    · rw [List.concat_eq_append, ← List.cons_append, ← List.append_assoc] at heq
      exact h before more (List.append_inj' heq rfl).1

/-- An early finish unobserves a source that is not watched. -/
theorem Early.not_alternates {s : SourceId} {t : OnAgenda} {calls : List Call} (h : t.Early s)
    (ht : Upholds (Balanced s) t calls) :
    ¬ Alternates s (calls ++ (t.perform (.finish s)).signal.calls) := by
  obtain ⟨howned, hobserved, hawaited⟩ := h
  obtain ⟨givenUp, hnext, _⟩ := t.coordinator.finish_of_mem t.timers hobserved
  have hsignal : (t.perform (.finish s)).signal = .called (.unobserve s) := by
    show (t.request _).signal = _
    simp [request, howned, settle, hnext]
  rw [hsignal]
  intro halternates
  exact (ht.2.awaited_fresh hawaited).2 (alternates_unobserve.mp halternates).2

/-- While no finish comes early the calls alternate, and with the first they cease to. -/
theorem balanced_run (s : SourceId) (moves : List Move) :
    (Timely s moves → Upholds (Balanced s) (fresh.after moves) (fresh.calls moves)) ∧
      (Alternates s (fresh.calls moves) → Timely s moves) := by
  induction moves using List.reverseRecOn with
  | nil =>
      refine ⟨fun _ => ⟨formed_fresh, ⟨Secured.start, Told.start⟩, Paired.start⟩, fun _ => ?_⟩
      intro before rest heq
      cases before <;> cases heq
  | append_singleton moves m ih =>
      obtain ⟨hkeep, hbreak⟩ := ih
      rw [timely_concat, after_concat, calls_concat]
      refine ⟨fun ⟨hbefore, hlast⟩ => ?_, fun halternates => ?_⟩
      · -- the law holds before the move, and a finish is timely by assumption
        apply perform_upholds (Balanced.stable s) (hkeep hbefore) m
        intro source hm howned
        have hlaw := (hkeep hbefore).2
        refine ⟨hlaw.toSignalled.finish source, ?_⟩
        apply hlaw.toPaired.finish hlaw.toTold hlaw.ascending source
        intro hs hobserved hawaited
        exact hlast (hs ▸ hm) ⟨howned, hobserved, hawaited⟩
      · have hbefore := hbreak halternates.of_append
        refine ⟨hbefore, ?_⟩
        rintro rfl hearly
        exact hearly.not_alternates (hkeep hbefore) halternates

end Session

/-- The calls for a source alternate exactly in those runs in which the source never
finishes while its observe call is outstanding. -/
theorem signals_alternate_iff (s : SourceId) (moves : List Move) :
    Alternates s (Session.fresh.calls moves) ↔
      ∀ before rest, moves = before ++ .finish s :: rest →
        ¬ (Session.fresh.after before).Early s := by
  obtain ⟨hkeep, hbreak⟩ := Session.balanced_run s moves
  exact ⟨hbreak, fun htimely => (hkeep htimely).2.alternates⟩

/-- A source that finishes inside the acquire of its pause is unobserved first. -/
theorem finish_in_acquire_unpaired :
    ¬ Alternates 1 (Session.fresh.calls [.pause [1] .zero, .finish 1]) := by
  intro h
  have hfirst := h 0 (.unobserve 1) (by decide)
  cases hfirst

end Cadence.Pause

import Cadence.Proofs.Incident.Lineage

/-! # Deletions in any order

The roots of scopes are fixed here. A log is told of incidents and of scopes that went away.
Two deletions never get into each other's way: the heir of a scope is a root, and a root is
its own heir, so no incident is passed on twice. A deletion and an incident of another scope
do not meet either, since a full log drops its oldest incident under whichever scope. What
counts is the order of the incidents, and of the incidents of a scope and its deletions.
-/

namespace Cadence.Incident

/-- The scope under which incidents are filed once the scope has gone away. -/
def Lineage.heir (lineage : Lineage) (scope : ScopeId) : ScopeId :=
  (lineage.root? scope).getD scope

theorem Lineage.heir_heir (lineage : Lineage) (scope : ScopeId) :
    lineage.heir (lineage.heir scope) = lineage.heir scope := by
  cases hroot : lineage.root? scope with
  | none => simp [heir, hroot]
  | some root => simp [heir, hroot, lineage.root?_root hroot]

/-- What a log is told: an incident of a scope, or that a scope went away. -/
inductive Report (α : Type)
  | filed (scope : ScopeId) (incident : α)
  | gone (scope : ScopeId)
deriving DecidableEq

namespace Report

variable {α : Type}

def scope : Report α → ScopeId
  | filed scope _ => scope
  | gone scope => scope

def isIncident : Report α → Bool
  | filed .. => true
  | gone _ => false

/-- The deed that a log does on a report, with the root that the lineage has for the scope. -/
def deed (lineage : Lineage) : Report α → Log.Deed α
  | filed scope incident => .record scope incident
  | gone scope => .delete scope (lineage.root? scope)

/-- Reports of which at least one is a deletion, and which are of different scopes if the
other one is an incident. -/
inductive Independent : Report α → Report α → Prop
  | gone_gone (s t : ScopeId) : Independent (gone s) (gone t)
  | gone_filed {s t : ScopeId} (h : t ≠ s) (i : α) : Independent (gone s) (filed t i)
  | filed_gone {s t : ScopeId} (h : t ≠ s) (i : α) : Independent (filed t i) (gone s)

/-- Two lists of reports that agree on the order of the incidents and, for each scope, on the
order of its incidents and its deletions. -/
structure Interleaved (first second : List (Report α)) : Prop where
  incidents : first.filter isIncident = second.filter isIncident
  scopes : ∀ s, first.filter (·.scope = s) = second.filter (·.scope = s)

/-- Everything that comes before the first report of its scope, or before the first incident
if it is one, is independent of a report. -/
theorem independent_of_front {report other : Report α} (hscope : other.scope ≠ report.scope)
    (hincident : report.isIncident → ¬ other.isIncident) : Independent report other := by
  match report, other with
  | gone s, gone t => exact .gone_gone s t
  | gone s, filed t i => exact .gone_filed hscope i
  | filed s i, gone t => exact .filed_gone (Ne.symm hscope) i
  | filed s i, filed t j => exact absurd rfl (hincident rfl)

/-- The first report of one list comes in the other one after reports that are independent of
it, and without it the lists still agree. -/
theorem Interleaved.uncons {report : Report α} {rest second : List (Report α)}
    (h : Interleaved (report :: rest) second) :
    ∃ front back, second = front ++ report :: back ∧
      (∀ other ∈ front, Independent report other) ∧ Interleaved rest (front ++ back) := by
  -- the first report of its scope is the report itself
  have hhead := h.scopes report.scope
  rw [List.filter_cons_of_pos (by simp)] at hhead
  obtain ⟨front, back, rfl, hfront, -, -⟩ := List.filter_eq_cons_iff.mp hhead.symm
  have hscope : ∀ other ∈ front, other.scope ≠ report.scope := fun other hother => by
    simpa using hfront other hother
  have hincident : report.isIncident → ∀ other ∈ front, ¬ other.isIncident := by
    intro hreport
    have hincidents := h.incidents
    rw [List.filter_cons_of_pos hreport, List.filter_append] at hincidents
    -- an incident in front would have to be the report
    intro other hother hkind
    obtain ⟨first, later, hfirst⟩ :=
      List.exists_cons_of_ne_nil (List.ne_nil_of_mem (List.mem_filter.mpr ⟨hother, hkind⟩))
    rw [hfirst, List.cons_append, List.cons.injEq] at hincidents
    have hmem : first ∈ front := (List.mem_filter.mp (hfirst ▸ List.mem_cons_self)).1
    exact hscope first hmem (by rw [hincidents.1])
  refine ⟨front, back, rfl, fun other hother => ?_, ?_, fun s => ?_⟩
  · exact independent_of_front (hscope other hother) fun hreport => hincident hreport other hother
  · have hincidents := h.incidents
    by_cases hreport : report.isIncident
    · have hnone : front.filter isIncident = [] :=
        List.filter_eq_nil_iff.mpr (hincident hreport)
      simpa [List.filter_append, hnone, hreport] using hincidents
    · simpa [List.filter_append, hreport] using hincidents
  · have hscopes := h.scopes s
    by_cases hs : report.scope = s
    · have hnone : front.filter (·.scope = s) = [] :=
        List.filter_eq_nil_iff.mpr fun other hother => by
          simpa using hs ▸ hscope other hother
      simpa [List.filter_append, hnone, hs] using hscopes
    · simpa [List.filter_append, hs] using hscopes

end Report

namespace Log

variable {α : Type} {lineage : Lineage}

/-- The log after a report. -/
def hear (lineage : Lineage) (log : Log α) (report : Report α) : Log α :=
  log.act (report.deed lineage)

/-- The log after some reports. -/
def hearAll (lineage : Lineage) (log : Log α) (reports : List (Report α)) : Log α :=
  reports.foldl (hear lineage) log

/-- The log with each of its incidents under another scope. -/
def refile (log : Log α) (f : Filed α → Filed α) : Log α :=
  { log with entries := log.entries.map f }

theorem refile_refile (log : Log α) (f g : Filed α → Filed α) :
    (log.refile f).refile g = log.refile (g ∘ f) := by
  simp [refile]

theorem hear_gone (log : Log α) (scope : ScopeId) :
    log.hear lineage (.gone scope) = log.refile (Filed.inherit scope (lineage.heir scope)) :=
  log.onScopeDeleted_eq scope _

/-- A full log drops its oldest incident, whatever scope it is filed under. -/
theorem record_refile (log : Log α) {f : Filed α → Filed α} {scope : ScopeId} {incident : α}
    (h : f ⟨scope, incident⟩ = ⟨scope, incident⟩) :
    (log.refile f).record scope incident = (log.record scope incident).refile f := by
  unfold record refile
  dsimp only
  rw [List.length_map]
  split
  next => rfl
  next =>
    split
    next => simp [h]
    next => simp [h]

theorem inherit_of_ne {scope heir : ScopeId} {e : Filed α} (h : e.scope ≠ scope) :
    e.inherit scope heir = e := if_neg h

/-- What a scope has handed on to its heir is not handed on once more. -/
theorem inherit_heir (s t : ScopeId) {e : Filed α} (h : e.scope = s) :
    (e.inherit s (lineage.heir s)).inherit t (lineage.heir t) = e.inherit s (lineage.heir s) := by
  have hscope : (e.inherit s (lineage.heir s)).scope = lineage.heir s := by
    unfold Filed.inherit
    rw [if_pos h]
  by_cases ht : lineage.heir s = t
  · -- the heir of the one is its own heir
    have hself : lineage.heir t = t := by rw [← ht, lineage.heir_heir]
    rw [hself, inherit_self]
  · exact inherit_of_ne fun heq => ht (hscope.symm.trans heq)

theorem inherit_comm (s t : ScopeId) (e : Filed α) :
    (e.inherit s (lineage.heir s)).inherit t (lineage.heir t) =
      (e.inherit t (lineage.heir t)).inherit s (lineage.heir s) := by
  by_cases hst : s = t
  · rw [hst]
  by_cases hs : e.scope = s
  · have ht : e.scope ≠ t := hs ▸ hst
    rw [inherit_heir s t hs, inherit_of_ne ht]
  by_cases ht : e.scope = t
  · rw [inherit_heir t s ht, inherit_of_ne hs]
  · rw [inherit_of_ne hs, inherit_of_ne ht, inherit_of_ne hs]

theorem inherit_inherit (s : ScopeId) (e : Filed α) :
    (e.inherit s (lineage.heir s)).inherit s (lineage.heir s) = e.inherit s (lineage.heir s) := by
  by_cases hs : e.scope = s
  · exact inherit_heir s s hs
  · rw [inherit_of_ne hs, inherit_of_ne hs]

theorem hear_gone_gone (log : Log α) (s t : ScopeId) :
    (log.hear lineage (.gone s)).hear lineage (.gone t) =
      (log.hear lineage (.gone t)).hear lineage (.gone s) := by
  simp only [hear_gone, refile_refile]
  congr 1
  funext e
  exact inherit_comm s t e

theorem hear_gone_twice (log : Log α) (s : ScopeId) :
    (log.hear lineage (.gone s)).hear lineage (.gone s) = log.hear lineage (.gone s) := by
  simp only [hear_gone, refile_refile]
  congr 1
  funext e
  exact inherit_inherit s e

theorem hear_gone_filed (log : Log α) {s t : ScopeId} (h : t ≠ s) (i : α) :
    (log.hear lineage (.gone s)).hear lineage (.filed t i) =
      (log.hear lineage (.filed t i)).hear lineage (.gone s) := by
  simp only [hear_gone]
  exact log.record_refile (inherit_of_ne h)

/-- Independent reports may come in either order. -/
theorem hear_comm (log : Log α) {a b : Report α} (h : a.Independent b) :
    (log.hear lineage a).hear lineage b = (log.hear lineage b).hear lineage a := by
  cases h with
  | gone_gone s t => exact log.hear_gone_gone s t
  | gone_filed h i => exact log.hear_gone_filed h i
  | filed_gone h i => exact (log.hear_gone_filed h i).symm

/-- A report may come earlier if it is independent of all that it overtakes. -/
theorem hearAll_overtake (log : Log α) {report : Report α} {front back : List (Report α)}
    (h : ∀ other ∈ front, report.Independent other) :
    log.hearAll lineage (front ++ report :: back) =
      log.hearAll lineage (report :: (front ++ back)) := by
  induction front generalizing log with
  | nil => rfl
  | cons other rest ih =>
      calc log.hearAll lineage (other :: (rest ++ report :: back))
          = (log.hear lineage other).hearAll lineage (report :: (rest ++ back)) :=
            ih _ fun b hb => h b (List.mem_cons_of_mem _ hb)
        _ = ((log.hear lineage report).hear lineage other).hearAll lineage (rest ++ back) :=
            congrArg (hearAll lineage · _) (log.hear_comm (h other List.mem_cons_self)).symm
        _ = log.hearAll lineage (report :: (other :: rest ++ back)) := rfl

/-- Lists of reports that differ in their interleaving only leave a log in the same state. -/
theorem hearAll_interleaved (log : Log α) {first second : List (Report α)}
    (h : Report.Interleaved first second) :
    log.hearAll lineage first = log.hearAll lineage second := by
  induction first generalizing log second with
  | nil =>
      have hnone : second = [] := by
        by_contra hsome
        obtain ⟨report, rest, rfl⟩ := List.exists_cons_of_ne_nil hsome
        simpa using h.scopes report.scope
      rw [hnone]
  | cons report rest ih =>
      obtain ⟨front, back, rfl, hfront, hrest⟩ := h.uncons
      rw [log.hearAll_overtake hfront]
      exact ih _ hrest

/-- A deletion that is repeated with no incident of its scope in between changes nothing. -/
theorem hearAll_repeated (log : Log α) {scope : ScopeId} {between : List (Report α)}
    (h : ∀ i, .filed scope i ∉ between) :
    log.hearAll lineage (.gone scope :: (between ++ [.gone scope])) =
      log.hearAll lineage (.gone scope :: between) := by
  have hindependent : ∀ other ∈ between, (Report.gone scope).Independent other := by
    intro other hother
    match other with
    | .gone t => exact .gone_gone scope t
    | .filed t i => exact .gone_filed (by rintro rfl; exact h i hother) i
  calc log.hearAll lineage (.gone scope :: (between ++ [.gone scope]))
      = (log.hear lineage (.gone scope)).hearAll lineage (.gone scope :: (between ++ [])) :=
        hearAll_overtake _ hindependent
    _ = ((log.hear lineage (.gone scope)).hear lineage (.gone scope)).hearAll lineage between := by
        rw [List.append_nil]
        rfl
    _ = log.hearAll lineage (.gone scope :: between) := by
        rw [hear_gone_twice]
        rfl

/-- With a fixed lineage two deletions may come in either order, and so may a deletion and an
incident of another scope. Hence all reports may be interleaved otherwise, as long as the
incidents keep their order and so do the incidents and the deletions of each scope, without
any difference to the log. A deletion that is repeated while its scope has no new incident
changes nothing. -/
theorem deletions_come_in_any_order (lineage : Lineage) (log : Log α) :
    (∀ s t, ((log.onScopeDeleted s (lineage.root? s)).1.onScopeDeleted t (lineage.root? t)).1 =
      ((log.onScopeDeleted t (lineage.root? t)).1.onScopeDeleted s (lineage.root? s)).1) ∧
    (∀ s t i, t ≠ s → (log.onScopeDeleted s (lineage.root? s)).1.record t i =
      ((log.record t i).onScopeDeleted s (lineage.root? s)).1) ∧
    (∀ first second, Report.Interleaved first second →
      log.hearAll lineage first = log.hearAll lineage second) ∧
    ∀ before between scope, (∀ i, .filed scope i ∉ between) →
      log.hearAll lineage (before ++ .gone scope :: (between ++ [.gone scope])) =
        log.hearAll lineage (before ++ .gone scope :: between) := by
  refine ⟨log.hear_gone_gone, fun s t i hne => log.hear_gone_filed hne i,
    fun first second => log.hearAll_interleaved, fun before between scope hnone => ?_⟩
  unfold hearAll
  rw [List.foldl_append, List.foldl_append]
  exact hearAll_repeated _ hnone

/-- Incidents of two frames of a page, and the ends of both. -/
def framesEnding : List (Report String) :=
  [.filed 5 "a", .gone 5, .filed 6 "b", .filed 1 "c", .gone 6]

/-- The same, with the end of the first frame told last and that of the second one as early as
possible. -/
def framesEndingLate : List (Report String) :=
  [.filed 5 "a", .filed 6 "b", .gone 6, .filed 1 "c", .gone 5]

/-- A page of scope 1 with frames of scopes 5 and 6. -/
def framedPage : Lineage where
  root? scope := if scope = 1 ∨ scope = 5 ∨ scope = 6 then some 1 else none
  root?_root {scope root} h := by
    split at h
    next => cases h; rfl
    next => cases h

/-- A log with room for two ends up the same, with the second frame's incident under the
page. -/
theorem deletions_come_in_any_order_framed :
    Report.Interleaved framesEnding framesEndingLate ∧
      (fresh 2).hearAll framedPage framesEnding = (fresh 2).hearAll framedPage framesEndingLate ∧
      ((fresh 2).hearAll framedPage framesEndingLate).entries = [⟨1, "b"⟩, ⟨1, "c"⟩] := by
  have hinterleaved : Report.Interleaved framesEnding framesEndingLate := by
    refine ⟨by decide, fun s => ?_⟩
    by_cases h5 : s = 5
    · subst h5; decide
    by_cases h6 : s = 6
    · subst h6; decide
    · simp [framesEnding, framesEndingLate, List.filter_cons, Report.scope, Ne.symm h5,
        Ne.symm h6]
  exact ⟨hinterleaved, (deletions_come_in_any_order framedPage (fresh 2)).2.2.1 _ _ hinterleaved,
    by decide⟩

end Log

end Cadence.Incident

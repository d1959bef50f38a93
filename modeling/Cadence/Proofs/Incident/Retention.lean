import Cadence.Incident.Log
import Mathlib.Data.List.DropRight
import Mathlib.Data.List.Induction

/-! # What a bounded log keeps

An archive has no bound: it files every incident under its current scope and
never drops one. A log keeps the newest part of its archive, as much as its
capacity allows. Dropping the oldest incident now or after any number of scopes
went away makes no difference, since a deletion files each incident by itself.
-/

namespace Cadence.Incident

/-- The incident as it is filed once `heir` has taken over from `scope`. -/
def Filed.inherit {α : Type} (scope heir : ScopeId) (e : Filed α) : Filed α :=
  if e.scope = scope then { e with scope := heir } else e

namespace Log

/-- An operation on a log. A deletion comes with the answer to the log's question
for the root of the scope. -/
inductive Deed (α : Type)
  | record (scope : ScopeId) (incident : α)
  | delete (scope : ScopeId) (root : Option ScopeId)

namespace Deed

variable {α : Type}

def isRecord : Deed α → Bool
  | record .. => true
  | delete .. => false

/-- What an archive holds after the deed. A scope without a known root, or one that
is a root itself, keeps its incidents. -/
def archive (filed : List (Filed α)) : Deed α → List (Filed α)
  | record scope incident => filed ++ [⟨scope, incident⟩]
  | delete scope root => filed.map (Filed.inherit scope (root.getD scope))

end Deed

variable {α : Type}

/-- Does one deed. -/
def act (log : Log α) : Deed α → Log α
  | .record scope incident => log.record scope incident
  | .delete scope root => (log.onScopeDeleted scope root).1

/-- The log after some deeds. -/
def after (log : Log α) (deeds : List (Deed α)) : Log α := deeds.foldl act log

/-- A log at the beginning. -/
def fresh (capacity : Nat) : Log α := { capacity }

/-- Every incident that was recorded, oldest first, under its current scope. -/
def archived (deeds : List (Deed α)) : List (Filed α) := deeds.foldl Deed.archive []

theorem after_concat (log : Log α) (deeds : List (Deed α)) (deed : Deed α) :
    log.after (deeds ++ [deed]) = (log.after deeds).act deed := by
  simp [after]

theorem archived_concat (deeds : List (Deed α)) (deed : Deed α) :
    archived (deeds ++ [deed]) = deed.archive (archived deeds) := by
  simp [archived]

/-! ## Operations -/

theorem inherit_self (scope : ScopeId) (e : Filed α) : e.inherit scope scope = e := by
  unfold Filed.inherit
  split
  next h => rw [← h]
  next => rfl

/-- A deletion files the incidents of the scope under the root that is known for it. -/
theorem onScopeDeleted_eq (log : Log α) (scope : ScopeId) (root : Option ScopeId) :
    (log.onScopeDeleted scope root).1 =
      { log with entries := log.entries.map (Filed.inherit scope (root.getD scope)) } := by
  have hkept : log.entries.map (Filed.inherit scope scope) = log.entries := by
    rw [List.map_congr_left fun e _ => inherit_self scope e, List.map_id']
  cases root with
  | none => rw [Option.getD_none, hkept]; rfl
  | some root =>
      unfold onScopeDeleted
      dsimp only
      split
      next h => rw [Option.getD_some, h, hkept]
      next => rfl

@[simp] theorem act_capacity (log : Log α) (deed : Deed α) :
    (log.act deed).capacity = log.capacity := by
  cases deed with
  | record scope incident =>
      unfold act record
      dsimp only
      split
      · rfl
      · split <;> rfl
  | delete scope root => rw [act, onScopeDeleted_eq]

/-! ## The window -/

/-- The log holds the newest part of an archive and has counted all of it. -/
structure Shows (log : Log α) (filed : List (Filed α)) : Prop where
  entries : log.entries = filed.rtake log.capacity
  recorded : log.totalRecorded = filed.length
  evicted : log.totalEvicted + log.entries.length = log.totalRecorded

theorem length_rtake (filed : List (Filed α)) (n : Nat) :
    (filed.rtake n).length = min n filed.length := by
  unfold List.rtake
  rw [List.length_drop]
  omega

theorem Shows.length_entries {log : Log α} {filed : List (Filed α)} (h : log.Shows filed) :
    log.entries.length = min log.capacity filed.length := by
  rw [h.entries, length_rtake]

/-- A new incident drives out the oldest one exactly where the log is full. -/
theorem Shows.record {log : Log α} {filed : List (Filed α)} (h : log.Shows filed)
    (scope : ScopeId) (incident : α) :
    (log.record scope incident).Shows (filed ++ [⟨scope, incident⟩]) := by
  have hlength := h.length_entries
  have hevicted := h.evicted
  have hrecorded := h.recorded
  unfold Log.record
  dsimp only
  split
  next hzero =>
    have hnone : log.entries = [] := by rw [h.entries, hzero, List.rtake_zero]
    refine ⟨by simp [hnone, hzero], by simp [hrecorded], ?_⟩
    simp only
    omega
  next hpositive =>
    obtain ⟨room, hroom⟩ := Nat.exists_eq_succ_of_ne_zero hpositive
    have hentries := h.entries
    rw [hroom] at hentries hlength
    split
    next hfull =>
      -- the window moves on by one
      have hdrop : log.entries.drop 1 = filed.rtake room := by
        rw [hentries]
        unfold List.rtake
        rw [List.drop_drop]
        congr 1
        omega
      refine ⟨?_, by simp [hrecorded], ?_⟩
      · rw [hroom, List.rtake_concat_succ, ← hdrop]
      · simp only [List.length_append, List.length_drop, List.length_singleton]
        omega
    next hfree =>
      -- nothing has been dropped so far, and nothing is now
      have hall : log.entries = filed.rtake room := by
        rw [hentries]
        unfold List.rtake
        congr 1
        omega
      refine ⟨?_, by simp [hrecorded], ?_⟩
      · rw [hroom, List.rtake_concat_succ, ← hall]
      · simp only [List.length_append, List.length_singleton]
        omega

theorem Shows.delete {log : Log α} {filed : List (Filed α)} (h : log.Shows filed)
    (scope : ScopeId) (root : Option ScopeId) :
    (log.onScopeDeleted scope root).1.Shows
      (filed.map (Filed.inherit scope (root.getD scope))) := by
  rw [onScopeDeleted_eq]
  refine ⟨?_, by simp [h.recorded], by simpa using h.evicted⟩
  dsimp only
  rw [h.entries]
  unfold List.rtake
  rw [List.map_drop, List.length_map]

theorem Shows.act {log : Log α} {filed : List (Filed α)} (h : log.Shows filed)
    (deed : Deed α) : (log.act deed).Shows (deed.archive filed) := by
  cases deed with
  | record scope incident => exact h.record scope incident
  | delete scope root => exact h.delete scope root

/-! ## Runs -/

@[simp] theorem after_capacity (log : Log α) (deeds : List (Deed α)) :
    (log.after deeds).capacity = log.capacity := by
  induction deeds using List.reverseRecOn with
  | nil => rfl
  | append_singleton deeds deed ih => rw [after_concat, act_capacity, ih]

theorem shows_after (capacity : Nat) (deeds : List (Deed α)) :
    ((fresh capacity).after deeds).Shows (archived deeds) := by
  induction deeds using List.reverseRecOn with
  | nil => exact ⟨(List.rtake_nil capacity).symm, rfl, rfl⟩
  | append_singleton deeds deed ih =>
      rw [after_concat, archived_concat]
      exact ih.act deed

/-- An archive grows by one with each record, and deletions leave its length. -/
theorem length_archived (deeds : List (Deed α)) :
    (archived deeds).length = deeds.countP Deed.isRecord := by
  induction deeds using List.reverseRecOn with
  | nil => rfl
  | append_singleton deeds deed ih =>
      rw [archived_concat, List.countP_append, ← ih]
      cases deed <;> simp [Deed.archive, Deed.isRecord]

/-- After any deeds a log holds the newest part of its archive: the last incidents, as many
as its capacity and the number `n` of records allow. Queries select from just these, the
counters are exact, and no record ever finds more incidents than the capacity. -/
theorem log_keeps_newest (capacity : Nat) (deeds : List (Deed α)) :
    let log := (fresh capacity).after deeds
    let n := deeds.countP Deed.isRecord
    let newest := (archived deeds).rtake (min capacity n)
    (archived deeds).length = n ∧
      log.entries = newest ∧
      (∀ scopes, log.query scopes = (newest.filter (·.scope ∈ scopes)).map (·.incident)) ∧
      log.entries.length = min capacity n ∧
      log.totalRecorded = n ∧
      log.totalEvicted = n - log.entries.length ∧
      ∀ before scope incident rest, deeds = before ++ .record scope incident :: rest →
        ((fresh capacity).after before).entries.length ≤ capacity := by
  intro log n newest
  have h := shows_after capacity deeds
  have hn := length_archived deeds
  have hcapacity : log.capacity = capacity := after_capacity _ _
  have hlength : log.entries.length = min capacity n := by
    rw [h.length_entries, hcapacity, hn]
  have hrecorded : log.totalRecorded = n := h.recorded.trans hn
  have hnewest : log.entries = newest := by
    rw [h.entries, hcapacity]
    show List.drop _ _ = List.drop _ _
    congr 1
    omega
  refine ⟨hn, hnewest, fun scopes => ?_, hlength, hrecorded, ?_, ?_⟩
  · rw [← hnewest]
    rfl
  · have hevicted : log.totalEvicted + log.entries.length = log.totalRecorded := h.evicted
    omega
  · intro before scope incident rest _
    rw [(shows_after capacity before).length_entries, after_capacity]
    exact Nat.min_le_left _ _

end Log

end Cadence.Incident

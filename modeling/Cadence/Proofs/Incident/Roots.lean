import Cadence.Incident.Store
import Cadence.Proofs.Incident.Retention
import Cadence.Proofs.Labelled

/-! # One log for each root

A store behaves as if every root had a log to itself. The log of a root is what a
log of its own would be that was only told of the deeds whose scope was found to
belong to the root, since the root itself last went away. Where no such deed was a
record, there is no log. Nothing is assumed about how the answers of the resolver
hang together, neither between deeds nor between the two questions of a deletion.
-/

namespace Cadence.Incident.Store

/-- An operation on a store, with the resolver's answers. A deletion asks twice, the
store first and then the log. -/
inductive Deed (α : Type)
  | record (scope : ScopeId) (incident : α) (root : Option ScopeId)
  | delete (scope : ScopeId) (root again : Option ScopeId)

namespace Deed

variable {α : Type}

/-- The root that the store is told for the scope of the deed. -/
def root : Deed α → Option ScopeId
  | record _ _ root => root
  | delete _ root _ => root

/-- The deed as a log is told of it. -/
def toLog : Deed α → Log.Deed α
  | record scope incident _ => .record scope incident
  | delete scope _ again => .delete scope again

/-- Whether the deed deletes `r` as a root. -/
def uproots (r : ScopeId) : Deed α → Bool
  | record .. => false
  | delete scope root _ => scope = r && root = some r

theorem root_of_uproots {r : ScopeId} {deed : Deed α} (h : deed.uproots r) :
    deed.root = some r := by
  cases deed with
  | record => cases h
  | delete scope root again => exact (by simpa [uproots] using h : _ ∧ root = some r).2

end Deed

variable {α : Type}

/-- Does one deed. -/
def act (s : Store α) : Deed α → Store α
  | .record scope incident root => (s.record scope incident root).1
  | .delete scope root again => (s.onScopeDeleted scope root again).1

/-- The store after some deeds. -/
def after (s : Store α) (deeds : List (Deed α)) : Store α := deeds.foldl act s

/-- A store at the beginning. -/
def fresh (capacity : Nat) : Store α := { capacity }

/-- The deeds that concern a root, since it last went away. -/
def concerning (r : ScopeId) (deeds : List (Deed α)) : List (Log.Deed α) :=
  ((deeds.rtakeWhile fun deed => !deed.uproots r).filter (·.root = some r)).map Deed.toLog

theorem after_concat (s : Store α) (deeds : List (Deed α)) (deed : Deed α) :
    s.after (deeds ++ [deed]) = (s.after deeds).act deed := by
  simp [after]

theorem concerning_uproots {r : ScopeId} (deeds : List (Deed α)) {deed : Deed α}
    (h : deed.uproots r) : concerning r (deeds ++ [deed]) = [] := by
  unfold concerning
  rw [List.rtakeWhile_concat_neg _ _ _ (by simp [h])]
  rfl

theorem concerning_root {r : ScopeId} (deeds : List (Deed α)) {deed : Deed α}
    (hkept : ¬ deed.uproots r) (hroot : deed.root = some r) :
    concerning r (deeds ++ [deed]) = concerning r deeds ++ [deed.toLog] := by
  unfold concerning
  rw [List.rtakeWhile_concat_pos _ _ _ (by simp [hkept])]
  simp [hroot]

theorem concerning_other {r : ScopeId} (deeds : List (Deed α)) {deed : Deed α}
    (hroot : deed.root ≠ some r) : concerning r (deeds ++ [deed]) = concerning r deeds := by
  have hkept : ¬ deed.uproots r := fun h => hroot (Deed.root_of_uproots h)
  unfold concerning
  rw [List.rtakeWhile_concat_pos _ _ _ (by simp [hkept])]
  simp [hroot]

/-! ## Looking up -/

/-- Every root has at most one log. -/
def Distinct (s : Store α) : Prop := (s.logs.map Prod.fst).Nodup

theorem updateLog_logs (s : Store α) (root : ScopeId) (f : Log α → Log α) :
    (s.updateLog root f).logs =
      s.logs.map fun p => (p.1, if p.1 = root then f p.2 else p.2) := by
  unfold updateLog
  apply List.map_congr_left
  rintro ⟨r, log⟩ _
  dsimp only
  split <;> rfl

theorem log?_updateLog (s : Store α) (root r : ScopeId) (f : Log α → Log α) :
    (s.updateLog root f).log? r = if r = root then (s.log? r).map f else s.log? r := by
  unfold log?
  rw [updateLog_logs,
    Labelled.lookup_map s.logs fun label log => if label = root then f log else log]
  split
  next h => rfl
  next h => exact Option.map_id_fun' ▸ rfl

theorem updateLog_roots (s : Store α) (root : ScopeId) (f : Log α → Log α) :
    (s.updateLog root f).logs.map Prod.fst = s.logs.map Prod.fst := by
  rw [updateLog_logs, List.map_map]
  rfl

/-- A record goes to the log of its root, which is made for it if there is none. -/
theorem log?_record (s : Store α) (scope : ScopeId) (incident : α) (root r : ScopeId) :
    (s.record scope incident (some root)).1.log? r =
      if r = root then
        some (((s.log? root).getD (Log.fresh s.capacity)).record scope incident)
      else s.log? r := by
  cases hlog : s.log? root with
  | some log =>
      simp only [record, hlog, log?_updateLog]
      split
      next h => rw [h, hlog]; rfl
      next => rfl
  | none =>
      simp only [record, hlog]
      show List.lookup r (s.logs ++ [(root, _)]) = _
      rw [List.lookup_append]
      split
      next h =>
        have hnone : s.logs.lookup r = none := h ▸ hlog
        rw [hnone, h]
        simp [Log.fresh]
      next h =>
        have hne : (r == root) = false := by simpa using h
        simp [log?, List.lookup_cons, hne]

/-- A root that is deleted takes its log along. -/
theorem log?_delete_root {s : Store α} (h : s.Distinct) (root r : ScopeId)
    (again : Option ScopeId) :
    (s.onScopeDeleted root (some root) again).1.log? r =
      if r = root then none else s.log? r := by
  cases hlog : s.log? root with
  | none =>
      simp only [onScopeDeleted, hlog]
      split
      next heq => rw [heq, hlog]
      next => rfl
  | some log =>
      simp only [onScopeDeleted, hlog, if_true]
      exact Labelled.lookup_eraseP h root r

/-- Another scope that is deleted concerns the log of its root only. -/
theorem log?_delete {s : Store α} {scope root : ScopeId} (h : root ≠ scope) (r : ScopeId)
    (again : Option ScopeId) :
    (s.onScopeDeleted scope (some root) again).1.log? r =
      if r = root then (s.log? r).map fun log => (log.onScopeDeleted scope again).1
      else s.log? r := by
  cases hlog : s.log? root with
  | none =>
      simp only [onScopeDeleted, hlog]
      split
      next heq => rw [heq, hlog]; rfl
      next => rfl
  | some log =>
      simp only [onScopeDeleted, hlog, if_neg h, log?_updateLog]
      split
      next heq => rw [heq, hlog]; rfl
      next => rfl

/-! ## One deed -/

theorem act_of_unknown (s : Store α) {deed : Deed α} (h : deed.root = none) :
    s.act deed = s := by
  cases deed with
  | record scope incident root => cases h; rfl
  | delete scope root again => cases h; rfl

/-- A deed changes no log but that of the root it was found to belong to. -/
theorem log?_act_other {s : Store α} (h : s.Distinct) {deed : Deed α} {r : ScopeId}
    (hroot : deed.root ≠ some r) : (s.act deed).log? r = s.log? r := by
  cases hfound : deed.root with
  | none => rw [s.act_of_unknown hfound]
  | some root =>
      have hne : r ≠ root := fun heq => hroot (heq ▸ hfound)
      cases deed with
      | record scope incident found =>
          cases hfound
          exact (s.log?_record scope incident root r).trans (if_neg hne)
      | delete scope found again =>
          cases hfound
          by_cases hscope : root = scope
          · subst hscope
            exact (log?_delete_root h root r again).trans (if_neg hne)
          · exact (log?_delete hscope r again).trans (if_neg hne)

/-- What a deed does to the list of logs. -/
theorem act_cases (s : Store α) (deed : Deed α) :
    s.act deed = s ∨
      (∃ root f, s.act deed = s.updateLog root f) ∨
      (∃ root log, s.log? root = none ∧
        s.act deed = { s with logs := s.logs ++ [(root, log)] }) ∨
      ∃ root, s.act deed = { s with logs := s.logs.eraseP (·.1 = root) } := by
  cases hroot : deed.root with
  | none => exact .inl (s.act_of_unknown hroot)
  | some root =>
      cases deed with
      | record scope incident found =>
          cases hroot
          cases hlog : s.log? root with
          | some log =>
              refine .inr (.inl ⟨root, (·.record scope incident), ?_⟩)
              simp only [act, record, hlog]
          | none =>
              have hact : s.act (.record scope incident (some root)) =
                  { s with
                    logs := s.logs ++ [(root, (Log.fresh s.capacity).record scope incident)] } := by
                simp only [act, record, hlog, Log.fresh]
              exact .inr (.inr (.inl ⟨root, _, hlog, hact⟩))
      | delete scope found again =>
          cases hroot
          cases hlog : s.log? root with
          | none => exact .inl (by simp [act, onScopeDeleted, hlog])
          | some log =>
              by_cases hscope : root = scope
              · refine .inr (.inr (.inr ⟨root, ?_⟩))
                simp only [act, onScopeDeleted, hlog, if_pos hscope]
              · refine .inr (.inl ⟨root, fun _ => (log.onScopeDeleted scope again).1, ?_⟩)
                simp only [act, onScopeDeleted, hlog, if_neg hscope]

/-- A log is made for a root only where there is none. -/
theorem Distinct.act {s : Store α} (h : s.Distinct) (deed : Deed α) : (s.act deed).Distinct := by
  unfold Distinct
  rcases s.act_cases deed with heq | ⟨root, f, heq⟩ | ⟨root, log, hlog, heq⟩ | ⟨root, heq⟩ <;>
    rw [heq]
  · exact h
  · rw [updateLog_roots]
    exact h
  · have hnew : root ∉ s.logs.map Prod.fst := by
      rw [← Labelled.lookup_isSome_iff]
      show ¬ (s.log? root).isSome
      simp [hlog]
    rw [List.map_append]
    refine List.nodup_append.mpr ⟨h, List.nodup_singleton root, ?_⟩
    rintro x hx _ hy rfl
    cases List.mem_singleton.mp hy
    exact hnew hx
  · exact List.Nodup.sublist (List.eraseP_sublist.map Prod.fst) h

@[simp] theorem act_capacity (s : Store α) (deed : Deed α) :
    (s.act deed).capacity = s.capacity := by
  rcases s.act_cases deed with heq | ⟨root, f, heq⟩ | ⟨root, log, _, heq⟩ | ⟨root, heq⟩ <;>
    rw [heq]
  rfl

/-! ## Runs -/

/-- A log without records is as good as new, whatever was deleted. -/
theorem fresh_after_of_no_record (capacity : Nat) {deeds : List (Log.Deed α)}
    (h : ¬ deeds.any Log.Deed.isRecord) :
    (Log.fresh capacity).after deeds = Log.fresh capacity := by
  induction deeds using List.reverseRecOn with
  | nil => rfl
  | append_singleton deeds deed ih =>
      rw [List.any_append, Bool.or_eq_true, not_or] at h
      rw [Log.after_concat, ih h.1]
      cases deed with
      | record => simp [Log.Deed.isRecord] at h
      | delete scope root => rw [Log.act, Log.onScopeDeleted_eq]; rfl

/-- Every root has the log that its own deeds lead to. -/
structure Divided (capacity : Nat) (deeds : List (Deed α)) (s : Store α) : Prop where
  distinct : s.Distinct
  capacity_eq : s.capacity = capacity
  log?_eq : ∀ r, s.log? r =
    if (concerning r deeds).any Log.Deed.isRecord then
      some ((Log.fresh capacity).after (concerning r deeds))
    else none

theorem Divided.log?_getD {capacity : Nat} {deeds : List (Deed α)} {s : Store α}
    (h : Divided capacity deeds s) (r : ScopeId) :
    (s.log? r).getD (Log.fresh capacity) = (Log.fresh capacity).after (concerning r deeds) := by
  rw [h.log?_eq r]
  split
  next => rfl
  next hnone => exact (fresh_after_of_no_record capacity hnone).symm

theorem Divided.act {capacity : Nat} {deeds : List (Deed α)} {s : Store α}
    (h : Divided capacity deeds s) (deed : Deed α) :
    Divided capacity (deeds ++ [deed]) (s.act deed) := by
  refine ⟨h.distinct.act deed, (s.act_capacity deed).trans h.capacity_eq, fun r => ?_⟩
  by_cases hroot : deed.root = some r
  · by_cases hkept : deed.uproots r
    · rw [concerning_uproots deeds hkept]
      cases deed with
      | record => cases hkept
      | delete scope root again =>
          obtain ⟨rfl, rfl⟩ : scope = r ∧ root = some r := by simpa [Deed.uproots] using hkept
          exact (log?_delete_root h.distinct scope scope again).trans (if_pos rfl)
    · rw [concerning_root deeds hkept hroot, List.any_append, Log.after_concat]
      cases deed with
      | record scope incident root =>
          cases hroot
          have hlog := s.log?_record scope incident r r
          rw [if_pos rfl, h.capacity_eq, h.log?_getD] at hlog
          rw [Store.act, hlog]
          simp [Deed.toLog, Log.Deed.isRecord, Log.act]
      | delete scope root again =>
          cases hroot
          have hscope : r ≠ scope := fun heq => hkept (by simp [Deed.uproots, heq])
          have hlog := log?_delete (s := s) hscope r again
          rw [if_pos rfl, h.log?_eq r] at hlog
          rw [Store.act, hlog]
          by_cases hany : (concerning r deeds).any Log.Deed.isRecord
          · simp [hany, Deed.toLog, Log.act]
          · simp [hany, Deed.toLog, Log.Deed.isRecord]
  · rw [log?_act_other h.distinct hroot, concerning_other deeds hroot]
    exact h.log?_eq r

theorem divided_after (capacity : Nat) (deeds : List (Deed α)) :
    Divided capacity deeds ((fresh capacity).after deeds) := by
  induction deeds using List.reverseRecOn with
  | nil => exact ⟨List.nodup_nil, rfl, fun _ => rfl⟩
  | append_singleton deeds deed ih => exact after_concat _ deeds deed ▸ ih.act deed

/-- After any deeds and under any answers of the resolver, a root has a log exactly if an
incident was recorded for it since it last went away. Its log then is a new log that did
the deeds found to belong to the root since then, and nothing else. A deed leaves the logs
of all other roots as they are, and one for an unknown scope leaves the whole store. -/
theorem logs_follow_roots (capacity : Nat) (deeds : List (Deed α)) :
    let s := (fresh capacity).after deeds
    (∀ r, (s.log? r).isSome ↔ ∃ deed ∈ concerning r deeds, deed.isRecord) ∧
      (∀ r log, s.log? r = some log → log = (Log.fresh capacity).after (concerning r deeds)) ∧
      (∀ deed r, deed.root ≠ some r → (s.act deed).log? r = s.log? r) ∧
      ∀ deed : Deed α, deed.root = none → s.act deed = s := by
  intro s
  have h := divided_after capacity deeds
  refine ⟨fun r => ?_, fun r log hlog => ?_, fun deed r => log?_act_other h.distinct, ?_⟩
  · rw [h.log?_eq r, ← List.any_eq_true]
    split <;> simp_all
  · have hsome := h.log?_eq r
    rw [hlog] at hsome
    split at hsome
    next => exact Option.some.inj hsome
    next => cases hsome
  · exact fun deed => s.act_of_unknown

end Cadence.Incident.Store

import Cadence.Proofs.Incident.Roots

/-! # Nothing is left of a scope that went away

Scopes belong to their trees for good, while a resolver may know a scope at one moment
and not at the next. The log of a root then holds incidents of its own tree only. So a
scope that goes away is filed nowhere but in the log of its root, and there its incidents
are filed under the root.
-/

namespace Cadence.Incident

/-- The tree that a scope belongs to, by its root, if it belongs to one. The root of a tree
belongs to it. -/
structure Lineage where
  root? : ScopeId → Option ScopeId
  root?_root : ∀ {scope root : ScopeId}, root? scope = some root → root? root = some root

/-- What a resolver may answer for a scope: nothing while it does not know the scope, and
else the root of its tree. -/
def Lineage.Allows (lineage : Lineage) (scope : ScopeId) (answer : Option ScopeId) : Prop :=
  answer = none ∨ answer = lineage.root? scope

theorem Lineage.Allows.root?_eq {lineage : Lineage} {scope root : ScopeId}
    (h : lineage.Allows scope (some root)) : lineage.root? scope = some root :=
  (h.resolve_left nofun).symm

namespace Log

variable {α : Type}

theorem mem_record {log : Log α} {scope : ScopeId} {incident : α} {e : Filed α}
    (h : e ∈ (log.record scope incident).entries) : e ∈ log.entries ∨ e = ⟨scope, incident⟩ := by
  unfold record at h
  dsimp only at h
  split at h
  next => exact .inl h
  next =>
    split at h
    next =>
      rcases List.mem_append.mp h with hold | hnew
      · exact .inl (List.mem_of_mem_drop hold)
      · exact .inr (List.mem_singleton.mp hnew)
    next =>
      rcases List.mem_append.mp h with hold | hnew
      · exact .inl hold
      · exact .inr (List.mem_singleton.mp hnew)

/-- In `log'` the incidents of a scope stand where they stood in `log`, but filed under the
heir, and nothing else is different. -/
structure Bequeaths (log log' : Log α) (scope heir : ScopeId) : Prop where
  counters : log' = { log with entries := log'.entries }
  length : log'.entries.length = log.entries.length
  entry : ∀ (i : Nat) (e : Filed α), log.entries[i]? = some e →
    log'.entries[i]? = some (if e.scope = scope then ⟨heir, e.incident⟩ else e)

theorem bequeaths_map (log : Log α) (scope heir : ScopeId) :
    log.Bequeaths { log with entries := log.entries.map (Filed.inherit scope heir) }
      scope heir where
  counters := rfl
  length := List.length_map _
  entry i e he := by
    rw [List.getElem?_map, he]
    rfl

/-- Whoever asks for a scope and its heir does not notice that the one took over from the
other. -/
theorem query_map_inherit (log : Log α) {scope heir : ScopeId} {scopes : List ScopeId}
    (hscope : scope ∈ scopes) (hheir : heir ∈ scopes) :
    ({ log with entries := log.entries.map (Filed.inherit scope heir) } : Log α).query scopes =
      log.query scopes := by
  have hselect : ∀ e : Filed α, (e.inherit scope heir).scope ∈ scopes ↔ e.scope ∈ scopes := by
    intro e
    unfold Filed.inherit
    split
    next heq => exact ⟨fun _ => heq ▸ hscope, fun _ => hheir⟩
    next => exact Iff.rfl
  have hincident : ∀ e : Filed α, (e.inherit scope heir).incident = e.incident := by
    intro e
    unfold Filed.inherit
    split <;> rfl
  unfold query
  dsimp only
  rw [List.filter_map, List.map_map]
  simp only [Function.comp_def, hselect, hincident]

end Log

theorem Filed.scope_inherit_ne {α : Type} {scope heir : ScopeId} (h : heir ≠ scope)
    (e : Filed α) : (e.inherit scope heir).scope ≠ scope := by
  unfold Filed.inherit
  split
  next => exact h
  next hother => exact hother

namespace Store

variable {α : Type} {lineage : Lineage}

/-- The resolver's answers that come with a deed agree with the lineage of the scope. -/
def Deed.Allowed (lineage : Lineage) : Deed α → Prop
  | .record scope _ root => lineage.Allows scope root
  | .delete scope root again => lineage.Allows scope root ∧ lineage.Allows scope again

/-- The log of a root holds incidents of its own tree only. -/
structure AtHome (lineage : Lineage) (s : Store α) : Prop where
  distinct : s.Distinct
  home : ∀ root log, s.log? root = some log → ∀ e ∈ log.entries, lineage.root? e.scope = some root

theorem AtHome.record {s : Store α} (h : s.AtHome lineage) {scope root : ScopeId}
    (hroot : lineage.root? scope = some root) (incident : α) :
    (s.act (.record scope incident (some root))).AtHome lineage := by
  refine ⟨h.distinct.act _, fun r log hlog e he => ?_⟩
  rw [act, log?_record] at hlog
  split at hlog
  next heq =>
    subst heq
    cases hlog
    rcases Log.mem_record he with hold | rfl
    · -- a log that is made for the record had no entries
      cases hbefore : s.log? r with
      | none => simp [hbefore, Log.fresh] at hold
      | some before => exact h.home r before hbefore e (by simpa [hbefore] using hold)
    · exact hroot
  next => exact h.home r log hlog e he

theorem AtHome.delete {s : Store α} (h : s.AtHome lineage) {scope root : ScopeId}
    {again : Option ScopeId} (hroot : lineage.root? scope = some root)
    (hagain : lineage.Allows scope again) :
    (s.act (.delete scope (some root) again)).AtHome lineage := by
  refine ⟨h.distinct.act _, fun r log hlog e he => ?_⟩
  by_cases hscope : root = scope
  · subst hscope
    rw [act, log?_delete_root h.distinct] at hlog
    split at hlog
    next => cases hlog
    next => exact h.home r log hlog e he
  · rw [act, log?_delete hscope] at hlog
    split at hlog
    next heq =>
      subst heq
      obtain ⟨before, hbefore, rfl⟩ := Option.map_eq_some_iff.mp hlog
      rw [Log.onScopeDeleted_eq] at he
      obtain ⟨x, hx, rfl⟩ := List.mem_map.mp he
      unfold Filed.inherit
      split
      next =>
        -- the heir is the scope itself or its root, and both belong to the tree
        rcases hagain with rfl | rfl
        · exact hroot
        · rw [hroot]
          exact lineage.root?_root hroot
      next => exact h.home r before hbefore x hx
    next => exact h.home r log hlog e he

/-- No deed files an incident in the log of another tree. -/
theorem AtHome.act {s : Store α} (h : s.AtHome lineage) {deed : Deed α}
    (hdeed : deed.Allowed lineage) : (s.act deed).AtHome lineage := by
  cases hroot : deed.root with
  | none => rwa [s.act_of_unknown hroot]
  | some root =>
      cases deed with
      | record scope incident found =>
          cases hroot
          exact h.record (Lineage.Allows.root?_eq hdeed) incident
      | delete scope found again =>
          cases hroot
          exact h.delete (Lineage.Allows.root?_eq hdeed.1) hdeed.2

theorem atHome_after (capacity : Nat) (deeds : List (Deed α))
    (h : ∀ deed ∈ deeds, deed.Allowed lineage) :
    ((fresh capacity).after deeds).AtHome lineage := by
  induction deeds using List.reverseRecOn with
  | nil => exact ⟨List.nodup_nil, fun _ _ => nofun⟩
  | append_singleton deeds deed ih =>
      rw [after_concat]
      exact (ih fun d hd => h d (List.mem_append_left _ hd)).act (h deed (by simp))

/-- What the deletion of a scope does to the log of its root. -/
theorem log?_delete_known (s : Store α) {scope root : ScopeId} (h : root ≠ scope) (r : ScopeId) :
    (s.act (.delete scope (some root) (some root))).log? r =
      if r = root then
        (s.log? r).map fun log =>
          { log with entries := log.entries.map (Filed.inherit scope root) }
      else s.log? r := by
  rw [act, log?_delete h]
  simp only [Log.onScopeDeleted_eq, Option.getD_some]

/-- A deletion of a scope that is not known, be it to the store or to the log, is passed
over. -/
theorem log?_delete_unknown (s : Store α) {scope : ScopeId} {root again : Option ScopeId}
    (hroot : root ≠ some scope) (hnone : root = none ∨ again = none) (r : ScopeId) :
    (s.act (.delete scope root again)).log? r = s.log? r := by
  cases root with
  | none => rw [s.act_of_unknown rfl]
  | some root =>
      obtain rfl : again = none := hnone.resolve_left nofun
      rw [act, log?_delete fun heq => hroot (congrArg some heq)]
      split
      next => exact Option.map_id_fun' ▸ rfl
      next => rfl

/-- As long as every answer of the resolver is the root of the scope or nothing, the log of a
root holds incidents of its own tree only. After the deletion of a scope that is known and no
root, no log holds an incident filed under it. In the log of its root each of its incidents
stands at its place under the root, every other one stands as it was, and whoever asks for
the scope and the root together gets the same incidents; all other logs are as they were. A
deletion that finds the scope unknown changes no log. -/
theorem deleted_scopes_leave_nothing (lineage : Lineage) (capacity : Nat) (deeds : List (Deed α))
    (h : ∀ deed ∈ deeds, deed.Allowed lineage) :
    let s := (fresh capacity).after deeds
    (∀ r log, s.log? r = some log → ∀ e ∈ log.entries, lineage.root? e.scope = some r) ∧
      (∀ scope root, lineage.root? scope = some root → root ≠ scope →
        let t := s.act (.delete scope (some root) (some root))
        (∀ r log, t.log? r = some log → ∀ e ∈ log.entries, e.scope ≠ scope) ∧
        (∀ log, s.log? root = some log →
          ∃ log', t.log? root = some log' ∧ log.Bequeaths log' scope root) ∧
        (∀ scopes, scope ∈ scopes → root ∈ scopes → t.query root scopes = s.query root scopes) ∧
        (s.log? root = none → t.log? root = none) ∧
        ∀ r, r ≠ root → t.log? r = s.log? r) ∧
      ∀ scope root again, root ≠ some scope → root = none ∨ again = none →
        ∀ r, (s.act (.delete scope root again)).log? r = s.log? r := by
  intro s
  have hhome : s.AtHome lineage := atHome_after capacity deeds h
  refine ⟨hhome.home, fun scope root hroot hne => ?_, fun scope root again => ?_⟩
  · intro t
    have hlog : ∀ r, t.log? r = _ := s.log?_delete_known hne
    have hother : ∀ r, r ≠ root → t.log? r = s.log? r := fun r hr =>
      (hlog r).trans (if_neg hr)
    have hown := (hlog root).trans (if_pos rfl)
    refine ⟨fun r log hr e he => ?_, fun log hbefore => ?_, fun scopes hscope hheir => ?_,
      fun hnone => by rw [hown, hnone]; rfl, hother⟩
    · by_cases heq : r = root
      · subst heq
        obtain ⟨before, _, rfl⟩ := Option.map_eq_some_iff.mp (hown.symm.trans hr)
        obtain ⟨x, _, rfl⟩ := List.mem_map.mp he
        exact x.scope_inherit_ne hne
      · -- the scope is of another tree than the incidents of this log
        rintro rfl
        have hhere := hhome.home r log (hother r heq ▸ hr) e he
        exact heq (Option.some.inj (hhere.symm.trans hroot))
    · rw [hbefore] at hown
      exact ⟨_, hown, log.bequeaths_map scope root⟩
    · unfold query
      rw [hown]
      cases s.log? root with
      | none => rfl
      | some log => exact log.query_map_inherit hscope hheir
  · exact fun hroot hnone r => s.log?_delete_unknown hroot hnone r

/-- A page of scope 1 with a frame of scope 5; scope 2 is a page of its own. -/
def pages : Lineage where
  root? scope := if scope = 1 ∨ scope = 5 then some 1 else if scope = 2 then some 2 else none
  root?_root {scope root} h := by
    split at h
    next => cases h; rfl
    next =>
      split at h
      next => cases h; rfl
      next => cases h

/-- Incidents of both pages and the frame, one of them while the frame is not known. -/
def pageDeeds : List (Deed String) :=
  [.record 5 "a" (some 1), .record 1 "b" (some 1), .record 2 "c" (some 2), .record 5 "d" none]

/-- The incident of the frame stays in place when the frame goes away. -/
theorem deleted_scopes_leave_nothing_frame :
    (∀ deed ∈ pageDeeds, deed.Allowed pages) ∧
      pages.root? 5 = some 1 ∧
      (((fresh 2).after pageDeeds).act (.delete 5 (some 1) (some 1))).query 1 [1, 5] =
        ((fresh 2).after pageDeeds).query 1 [1, 5] ∧
      ((fresh 2).after pageDeeds).query 1 [1, 5] = ["a", "b"] := by
  have hallowed : ∀ deed ∈ pageDeeds, deed.Allowed pages := by
    simp [pageDeeds, Deed.Allowed, Lineage.Allows, pages]
  have hquery := ((deleted_scopes_leave_nothing pages 2 pageDeeds hallowed).2.1 5 1 rfl
    (by decide)).2.2.1 [1, 5] (by decide) (by decide)
  exact ⟨hallowed, rfl, hquery, by decide⟩

end Store

end Cadence.Incident

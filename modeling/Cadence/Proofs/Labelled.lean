import Mathlib.Data.List.Nodup

/-! # Lists of labelled entries

Several components keep their entries in a list and find them by a label: the
queue by its keys, an index by its numbers, a registry by its origins. Where no
label occurs twice, looking up is membership and erasing is filtering.
-/

namespace Cadence.Labelled

variable {α β : Type}

theorem eraseP_eq_filter [DecidableEq β] {f : α → β} {entries : List α}
    (h : (entries.map f).Nodup) (label : β) :
    entries.eraseP (fun x => f x = label) = entries.filter (fun x => f x ≠ label) := by
  induction entries with
  | nil => rfl
  | cons x rest ih =>
      obtain ⟨hx, hrest⟩ := List.nodup_cons.mp h
      by_cases hlabel : f x = label
      · subst hlabel
        have hkeep : rest.filter (fun y => f y ≠ f x) = rest := by
          apply List.filter_eq_self.mpr
          intro y hy
          have hne : f y ≠ f x := fun heq => hx (heq ▸ List.mem_map_of_mem hy)
          simpa using hne
        rw [List.filter_cons_of_neg (by simp), hkeep]
        simp
      · rw [List.filter_cons_of_pos (by simpa using hlabel), ← ih hrest]
        simp [hlabel]

/-- An entry and what is left once its label is erased are the entries. -/
theorem perm_cons_eraseP [DecidableEq β] {f : α → β} {entries : List α}
    (h : (entries.map f).Nodup) {x : α} (hx : x ∈ entries) :
    (x :: entries.eraseP (fun y => f y = f x)).Perm entries := by
  obtain ⟨found, before, rest, _, hfound, heq, herase⟩ :=
    List.exists_of_eraseP (p := fun y => decide (f y = f x)) hx (by simp)
  have hmem : found ∈ entries := by simp [heq]
  obtain rfl : found = x := List.inj_on_of_nodup_map h hmem hx (of_decide_eq_true hfound)
  rw [herase, heq]
  exact List.perm_middle.symm

/-- What is found by a label is the entry of that label. -/
theorem find?_eq_some_iff [DecidableEq β] {f : α → β} {entries : List α}
    (h : (entries.map f).Nodup) {label : β} {x : α} :
    entries.find? (fun y => f y = label) = some x ↔ x ∈ entries ∧ f x = label := by
  constructor
  · intro hfind
    exact ⟨List.mem_of_find?_eq_some hfind, by simpa using List.find?_some hfind⟩
  · rintro ⟨hmem, rfl⟩
    cases hfind : entries.find? (fun y => f y = f x) with
    | none =>
        have hnone := List.find?_eq_none.mp hfind x hmem
        simp at hnone
    | some y =>
        have hlabel : f y = f x := by simpa using List.find?_some hfind
        rw [List.inj_on_of_nodup_map h (List.mem_of_find?_eq_some hfind) hmem hlabel]

theorem lookup_eq_some_iff [BEq α] [LawfulBEq α] {entries : List (α × β)}
    (h : (entries.map Prod.fst).Nodup) {label : α} {value : β} :
    entries.lookup label = some value ↔ (label, value) ∈ entries := by
  rw [List.lookup_eq_some_iff]
  constructor
  · rintro ⟨before, after, heq, _⟩
    simp [heq]
  · intro hin
    obtain ⟨before, after, heq⟩ := List.append_of_mem hin
    refine ⟨before, after, heq, ?_⟩
    intro p hp
    rw [heq, List.map_append, List.nodup_append] at h
    have hne := h.2.2 p.1 (List.mem_map_of_mem hp) label (by simp)
    simpa using hne.symm

theorem lookup_eq_none_iff [BEq α] [LawfulBEq α] {entries : List (α × β)} {label : α} :
    entries.lookup label = none ↔ ∀ value, (label, value) ∉ entries := by
  rw [List.lookup_eq_none_iff]
  constructor
  · intro h value hmem
    simpa using h _ hmem
  · rintro h ⟨found, value⟩ hmem
    simpa using fun heq : label = found => h value (heq ▸ hmem)

theorem lookup_isSome_iff [BEq α] [LawfulBEq α] {entries : List (α × β)} {label : α} :
    (entries.lookup label).isSome ↔ label ∈ entries.map Prod.fst := by
  rw [Option.isSome_iff_ne_none, Ne, lookup_eq_none_iff, List.mem_map]
  constructor
  · intro h
    obtain ⟨value, hvalue⟩ := not_forall.mp h
    exact ⟨(label, value), not_not.mp hvalue, rfl⟩
  · rintro ⟨⟨found, value⟩, hmem, rfl⟩ h
    exact h value hmem

/-- Changing values by their labels changes what is looked up in the same way. -/
theorem lookup_map [BEq α] [LawfulBEq α] (entries : List (α × β)) (f : α → β → β) (label : α) :
    (entries.map fun p => (p.1, f p.1 p.2)).lookup label =
      (entries.lookup label).map (f label) := by
  induction entries with
  | nil => rfl
  | cons p rest ih =>
      rw [List.map_cons, List.lookup_cons, List.lookup_cons, ih]
      by_cases hlabel : label = p.1
      · simp [hlabel]
      · have hne : (label == p.1) = false := by simpa using hlabel
        simp [hne]

/-- Erasing the entry of a label leaves the others to be found. -/
theorem lookup_eraseP [BEq α] [LawfulBEq α] [DecidableEq α] {entries : List (α × β)}
    (h : (entries.map Prod.fst).Nodup) (erased label : α) :
    (entries.eraseP (fun p => p.1 = erased)).lookup label =
      if label = erased then none else entries.lookup label := by
  rw [eraseP_eq_filter h]
  split
  next heq =>
    rw [lookup_eq_none_iff]
    intro value hmem
    simpa [heq] using (List.mem_filter.mp hmem).2
  next hne =>
    apply Option.ext
    intro value
    have hfilter : ((entries.filter fun p => p.1 ≠ erased).map Prod.fst).Nodup :=
      h.sublist (List.filter_sublist.map Prod.fst)
    rw [lookup_eq_some_iff hfilter, lookup_eq_some_iff h, List.mem_filter]
    simp [hne]

end Cadence.Labelled

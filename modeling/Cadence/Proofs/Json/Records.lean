import Cadence.Json.Document
import Cadence.Proofs.Json.Grammar
import Mathlib.Data.List.Nodup
import Mathlib.Data.List.Perm.Basic

/-! # Records of JSON

The members of a record count by their names: the known ones have to be there once each, in
any order, and the others are passed over.
-/

namespace Cadence.Json

open Document

/-- A value without parts that is no number. -/
inductive Scalar : Json → Prop
  | null : Scalar .null
  | bool (b : Bool) : Scalar (.bool b)
  | string (s : String) : Scalar (.string s)

theorem Scalar.spells {x : Json} (h : x.Scalar) : Spells x x.render.toList := by
  cases h with
  | null => exact .null
  | bool b => exact spells_bool b
  | string s => exact spells_string s

/-- Members that hold the known ones once each, in any order, among unknown ones. -/
def Carries (known members : List (String × Json)) : Prop :=
  ∃ extra, members.Perm (known ++ extra) ∧
    ∀ m ∈ extra, m.1 ∉ known.map Prod.fst ∧ m.2.Scalar

theorem occurrences_eq_count (name : String) (members : List (String × Json)) :
    occurrences name members = (members.map Prod.fst).count name := by
  rw [occurrences, List.count, List.countP_map, List.countP_eq_length_filter]
  rfl

theorem lookup_of_occurrences {name : String} {x : Json} {members : List (String × Json)}
    (honce : occurrences name members = 1) (hmem : (name, x) ∈ members) :
    members.lookup name = some x := by
  induction members with
  | nil => exact absurd hmem List.not_mem_nil
  | cons m rest ih =>
      rw [occurrences_eq_count, List.map_cons, List.count_cons] at honce
      rw [List.lookup_cons]
      rcases List.mem_cons.mp hmem with rfl | hrest
      · simp
      · have hcount : 0 < (rest.map Prod.fst).count name :=
          List.count_pos_iff.mpr (List.mem_map.mpr ⟨_, hrest, rfl⟩)
        have hother : m.1 ≠ name := by
          intro heq
          rw [heq] at honce
          simp at honce
          omega
        have hless : occurrences name rest = 1 := by
          rw [occurrences_eq_count]
          simpa [hother] using honce
        have hbeq : (name == m.1) = false := by simpa using hother.symm
        simp [hbeq, ih hless hrest]

theorem occurrences_pos_of_lookup {name : String} {x : Json} {members : List (String × Json)}
    (h : members.lookup name = some x) : 0 < occurrences name members := by
  obtain ⟨front, back, rfl, _⟩ := List.lookup_eq_some_iff.mp h
  rw [occurrences_eq_count, List.count_pos_iff]
  simp

theorem Carries.occurrences {known members : List (String × Json)} (h : Carries known members)
    (hknown : (known.map Prod.fst).Nodup) {name : String} (hname : name ∈ known.map Prod.fst) :
    occurrences name members = 1 := by
  obtain ⟨extra, hperm, hextra⟩ := h
  have hnone : (extra.map Prod.fst).count name = 0 := by
    rw [List.count_eq_zero, List.mem_map]
    rintro ⟨m, hm, rfl⟩
    exact (hextra m hm).1 hname
  rw [occurrences_eq_count, (hperm.map Prod.fst).count_eq, List.map_append, List.count_append,
    hnone, List.count_eq_one_of_mem hknown hname]

theorem fields?_eq_some_iff {names : List String} {lenient : Bool}
    {members : List (String × Json)} {f : String → Option Json} :
    Document.fields? names lenient (.object members) = some f ↔
      (∀ name ∈ names, Document.occurrences name members ≤ 1) ∧ (members.lookup ·) = f := by
  have hunfold : Document.fields? names lenient (.object members) =
      if names.any (1 < Document.occurrences · members) then none
      else some fun name => members.lookup name := rfl
  simp [hunfold]

theorem Carries.fields? {known members : List (String × Json)} (h : Carries known members)
    (hknown : (known.map Prod.fst).Nodup) :
    ∃ f, fields? (known.map Prod.fst) false (.object members) = some f ∧
      ∀ m ∈ known, f m.1 = some m.2 := by
  have honce {name : String} (hname : name ∈ known.map Prod.fst) :
      Document.occurrences name members = 1 := h.occurrences hknown hname
  obtain ⟨extra, hperm, _⟩ := h
  refine ⟨_, fields?_eq_some_iff.mpr ⟨fun name hname => (honce hname).le, rfl⟩, fun m hm => ?_⟩
  exact lookup_of_occurrences (honce (List.mem_map_of_mem hm))
    (hperm.mem_iff.mpr (List.mem_append_left _ hm))

/-- A field that was read stands in the record once. -/
theorem occurrences_of_required {α : Type} {names : List String} {lenient : Bool}
    {members : List (String × Json)} {f : String → Option Json}
    (hfields : Document.fields? names lenient (.object members) = some f) {name : String}
    (hname : name ∈ names) {read : Json → Option α} {v : α}
    (hread : required (f name) read = some v) : Document.occurrences name members = 1 := by
  obtain ⟨hmost, rfl⟩ := fields?_eq_some_iff.mp hfields
  obtain ⟨x, hx, _⟩ := Option.bind_eq_some_iff.mp hread
  exact Nat.le_antisymm (hmost name hname) (occurrences_pos_of_lookup hx)

/-! ## Keeping a value for later -/

theorem keepableMembers_iff {depth : Nat} {members : List (String × Json)} :
    keepableMembers depth members ↔ ∀ m ∈ members, m.2.keepable depth := by
  induction members with
  | nil => simp [keepableMembers]
  | cons m rest ih =>
      obtain ⟨name, x⟩ := m
      simp [keepableMembers, ih]

theorem Scalar.keepable {x : Json} (h : x.Scalar) (depth : Nat) : x.keepable depth := by
  cases h <;> rfl

theorem Carries.keepable {known members : List (String × Json)} (h : Carries known members)
    (hknown : ∀ m ∈ known, m.2.Scalar) (depth : Nat) :
    (Json.object members).keepable (depth + 1) := by
  obtain ⟨extra, hperm, hextra⟩ := h
  have hmembers : keepableMembers depth members := by
    rw [keepableMembers_iff]
    intro m hm
    rcases List.mem_append.mp (hperm.mem_iff.mp hm) with hm | hm
    · exact (hknown m hm).keepable depth
    · exact (hextra m hm).2.keepable depth
  simpa [Json.keepable] using hmembers

end Cadence.Json

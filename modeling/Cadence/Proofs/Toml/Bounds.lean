import Cadence.Toml.Reader

/-! # Numbers in a document that was read

A reader refuses numbers of more than 64 bits, and tables are only put together from what was
read, so every number in a document is in range, however deep it stands.
-/

namespace Cadence.Toml

/-- Every number within a value is a signed number of 64 bits. -/
inductive Bounded : Toml → Prop
  | string (s : String) : Bounded (.string s)
  | integer {n : Int} (hn : inRange n) : Bounded (.integer n)
  | float (spelling : String) : Bounded (.float spelling)
  | boolean (b : Bool) : Bounded (.boolean b)
  | moment (spelling : String) : Bounded (.moment spelling)
  | array {items : List Toml} (h : ∀ x ∈ items, Bounded x) : Bounded (.array items)
  | table {form : Form} {members : Members} (h : ∀ m ∈ members, Bounded m.2) :
      Bounded (.table form members)
  | tables {items : List Members} (h : ∀ t ∈ items, ∀ m ∈ t, Bounded m.2) :
      Bounded (.tables items)

/-- All values of a table are bounded. -/
def Members.Bounded (members : Members) : Prop := ∀ m ∈ members, Toml.Bounded m.2

/-! ## Tables -/

section Tables

variable {members out : Members} {key : String} {x : Toml}

theorem Members.Bounded.nil : Members.Bounded [] := nofun

theorem Members.Bounded.concat (h : members.Bounded) (hx : Toml.Bounded x) :
    Members.Bounded (members ++ [(key, x)]) := by
  intro m hm
  rcases List.mem_append.mp hm with hm | hm
  · exact h m hm
  · rw [List.mem_singleton.mp hm]
    exact hx

theorem Members.Bounded.lookup (h : members.Bounded) (hx : members.lookup key = some x) :
    Toml.Bounded x := by
  obtain ⟨front, back, rfl, _⟩ := List.lookup_eq_some_iff.mp hx
  exact h (key, x) (by simp)

theorem Members.Bounded.setMember (h : members.Bounded) (hx : Toml.Bounded x) :
    (setMember members key x).Bounded := by
  unfold Toml.setMember
  split
  next =>
    intro m hm
    obtain ⟨⟨k, old⟩, hmem, rfl⟩ := List.mem_map.mp hm
    dsimp only
    split
    next => exact hx
    next => exact h _ hmem
  next => exact h.concat hx

/-- A change at the end of a path keeps what is on the way. -/
theorem Members.Bounded.changeAt {fresh : Form} {change : Form → Members → Option Members}
    (hchange : ∀ {form members out}, members.Bounded → change form members = some out →
      out.Bounded) {form : Form} (path : List String) (h : members.Bounded)
    (hout : changeAt fresh change form members path = some out) : out.Bounded := by
  induction path generalizing form members out with
  | nil => exact hchange h hout
  | cons key rest ih =>
      unfold Toml.changeAt at hout
      split at hout
      next =>
        obtain ⟨inner, hinner, rfl⟩ := Option.map_eq_some_iff.mp hout
        exact h.setMember (.table (ih .nil hinner))
      next => cases hout
      next form' inner hlookup =>
        split at hout
        next => cases hout
        next =>
          obtain ⟨inner', hinner, rfl⟩ := Option.map_eq_some_iff.mp hout
          cases h.lookup hlookup with
          | table hmembers => exact h.setMember (.table (ih hmembers hinner))
      next items hlookup =>
        split at hout
        next last hlast =>
          obtain ⟨inner, hinner, rfl⟩ := Option.map_eq_some_iff.mp hout
          cases h.lookup hlookup with
          | tables hitems =>
              refine h.setMember (.tables fun t ht => ?_)
              rcases List.mem_append.mp ht with ht | ht
              · exact hitems t (List.dropLast_subset _ ht)
              · rw [List.mem_singleton.mp ht]
                exact ih (hitems last (List.mem_of_getLast? hlast)) hinner
        next => cases hout
      next => cases hout

theorem Members.Bounded.putDotted {path : List String} {form : Form} (h : members.Bounded)
    (hx : Toml.Bounded x) (hout : putDotted path key x form members = some out) : out.Bounded := by
  refine h.changeAt (fun hinner hresult => ?_) path hout
  split at hresult
  next => cases hresult
  next =>
    split at hresult
    next => cases hresult
    next =>
      cases hresult
      exact hinner.concat hx

theorem Members.Bounded.putUnder {header path : List String} (h : members.Bounded)
    (hx : Toml.Bounded x) (hout : putUnder members header path key x = some out) : out.Bounded :=
  h.changeAt (fun hinner hresult => hinner.putDotted hx hresult) header hout

theorem Members.Bounded.beginTable {path : List String} (h : members.Bounded)
    (hout : beginTable members path key = some out) : out.Bounded := by
  refine h.changeAt (fun hinner hresult => ?_) path hout
  split at hresult
  next =>
    cases hresult
    exact hinner.concat (.table nofun)
  next hlookup =>
    cases hresult
    cases hinner.lookup hlookup with
    | table hmembers => exact hinner.setMember (.table hmembers)
  next => cases hresult

theorem Members.Bounded.beginItem {path : List String} (h : members.Bounded)
    (hout : beginItem members path key = some out) : out.Bounded := by
  refine h.changeAt (fun hinner hresult => ?_) path hout
  split at hresult
  next =>
    cases hresult
    exact hinner.concat (.tables (by simp))
  next items hlookup =>
    cases hresult
    cases hinner.lookup hlookup with
    | tables hitems =>
        refine hinner.setMember (.tables fun t ht => ?_)
        rcases List.mem_append.mp ht with ht | ht
        · exact hitems t ht
        · rw [List.mem_singleton.mp ht]
          exact nofun
  next => cases hresult

end Tables

/-! ## Values -/

section Values

variable {text rest : List Char} {x : Toml}

theorem based?_bounded {base : Nat} (h : based? base text = some (x, rest)) : Bounded x := by
  simp only [based?, Option.bind_eq_bind, Option.bind_eq_some_iff] at h
  obtain ⟨⟨digits, more⟩, _, n, _, h⟩ := h
  split at h
  next hrange =>
    cases h
    exact .integer hrange
  next => cases h

theorem integer?_bounded (h : integer? text = some (x, rest)) : Bounded x := by
  unfold integer? at h
  split at h
  next => exact based?_bounded h
  next => exact based?_bounded h
  next => exact based?_bounded h
  next =>
    simp only [Option.bind_eq_bind, Option.bind_eq_some_iff] at h
    obtain ⟨⟨digits, more⟩, _, n, _, h⟩ := h
    dsimp only at h
    generalize (if (sign text).1 = ['-'] then -(n : Int) else n) = value at h
    split at h
    next hrange =>
      cases h
      exact .integer hrange
    next => cases h

/-- What a step yields holds of all that follows from it. -/
theorem forall_mem_bind {α β : Type} {o : Option α} {f : α → Option β} {P : β → Prop}
    (h : ∀ a, ∀ b ∈ f a, P b) : ∀ b ∈ o.bind f, P b := by
  intro b hb
  obtain ⟨a, _, hb⟩ := Option.bind_eq_some_iff.mp hb
  exact h a b hb

theorem float?_bounded : ∀ r ∈ float? text, Bounded r.1 := by
  unfold float?
  -- every way through the reader ends in nothing or in a number with its spelling
  repeat' first | refine forall_mem_bind fun _ => ?_ | split | dsimp only
  all_goals rintro r ⟨⟩
  all_goals exact .float _

theorem moment?_bounded : ∀ r ∈ moment? text, Bounded r.1 := by
  unfold moment?
  repeat' first | refine forall_mem_bind fun _ => ?_ | split
  all_goals rintro r ⟨⟩
  all_goals exact .moment _

theorem number?_bounded (h : number? text = some (x, rest)) : Bounded x := by
  unfold number? at h
  split at h
  next => exact moment?_bounded _ h
  next =>
    split at h
    next hfloat =>
      cases h
      exact float?_bounded _ hfloat
    next => exact integer?_bounded h

end Values

/-- What is read with so much fuel is bounded: a value, the items of an array, and the members
of a table in addition to those there are. -/
structure ReadsBounded (fuel : Nat) : Prop where
  value : ∀ {depth text x rest}, value fuel depth text = some (x, rest) → Bounded x
  items : ∀ {depth text xs rest}, items fuel depth text = some (xs, rest) → ∀ x ∈ xs, Bounded x
  pairs : ∀ {depth members text out rest}, Members.Bounded members →
    pairs fuel depth members text = some (out, rest) → Members.Bounded out

namespace ReadsBounded

variable {fuel depth : Nat} {text rest : List Char}

theorem zero : ReadsBounded 0 where
  value h := by cases h
  items h := by cases h
  pairs _ h := by cases h

theorem value_succ (h : ReadsBounded fuel) {x : Toml}
    (hread : Toml.value (fuel + 1) depth text = some (x, rest)) : Bounded x := by
  unfold Toml.value at hread
  split at hread
  next =>
    obtain ⟨⟨s, more⟩, _, heq⟩ := Option.map_eq_some_iff.mp hread
    cases heq
    exact .string s
  next =>
    obtain ⟨⟨s, more⟩, _, heq⟩ := Option.map_eq_some_iff.mp hread
    cases heq
    exact .string s
  next =>
    split at hread
    next => cases hread
    next =>
      obtain ⟨⟨xs, more⟩, hitems, heq⟩ := Option.map_eq_some_iff.mp hread
      cases heq
      exact .array (h.items hitems)
  next =>
    by_cases hdepth : depth = 0
    · rw [if_pos hdepth] at hread
      cases hread
    · rw [if_neg hdepth] at hread
      dsimp only at hread
      split at hread
      next =>
        cases hread
        exact .table nofun
      next =>
        obtain ⟨⟨members, more⟩, hpairs, heq⟩ := Option.map_eq_some_iff.mp hread
        cases heq
        exact .table (h.pairs .nil hpairs)
  next =>
    cases hread
    exact .boolean true
  next =>
    cases hread
    exact .boolean false
  next => exact number?_bounded hread

theorem items_succ (h : ReadsBounded fuel) {xs : List Toml}
    (hread : Toml.items (fuel + 1) depth text = some (xs, rest)) : ∀ x ∈ xs, Bounded x := by
  unfold Toml.items at hread
  simp only [Option.bind_eq_bind, Option.bind_eq_some_iff] at hread
  obtain ⟨more, _, hread⟩ := hread
  split at hread
  next =>
    cases hread
    exact nofun
  next =>
    simp only [Option.bind_eq_some_iff] at hread
    obtain ⟨⟨x, after⟩, hx, back, _, hread⟩ := hread
    have hfirst := h.value hx
    split at hread
    next =>
      simp only [Option.bind_eq_some_iff] at hread
      obtain ⟨⟨ys, last⟩, hys, hread⟩ := hread
      cases hread
      exact List.forall_mem_cons.mpr ⟨hfirst, h.items hys⟩
    next =>
      cases hread
      exact List.forall_mem_cons.mpr ⟨hfirst, nofun⟩
    next => cases hread

theorem pairs_succ (h : ReadsBounded fuel) {members out : Members} (hmembers : members.Bounded)
    (hread : Toml.pairs (fuel + 1) depth members text = some (out, rest)) : out.Bounded := by
  unfold Toml.pairs at hread
  simp only [Option.bind_eq_bind, Option.bind_eq_some_iff] at hread
  obtain ⟨⟨path, key, more⟩, _, after, _, ⟨x, back⟩, hx, inner, hput, hread⟩ := hread
  have hinner := hmembers.putDotted (h.value hx) hput
  split at hread
  next => exact h.pairs hinner hread
  next =>
    cases hread
    exact hinner
  next => cases hread

theorem all (fuel : Nat) : ReadsBounded fuel := by
  induction fuel with
  | zero => exact zero
  | succ fuel ih => exact ⟨ih.value_succ, ih.items_succ, ih.pairs_succ⟩

end ReadsBounded

/-! ## Documents -/

section Documents

variable {r next : Reading} {text rest : List Char}

theorem header?_bounded {brackets : Nat} {enter : Members → List String → String → Option Members}
    (henter : ∀ {members path key out}, Members.Bounded members →
      enter members path key = some out → Members.Bounded out) (h : r.root.Bounded)
    (hread : header? r brackets enter text = some (next, rest)) : next.root.Bounded := by
  simp only [header?, Option.bind_eq_bind, Option.bind_eq_some_iff] at hread
  obtain ⟨⟨path, key, more⟩, _, after, _, root, hroot, hread⟩ := hread
  cases hread
  exact henter h hroot

theorem pair?_bounded (h : r.root.Bounded) (hread : pair? r text = some (next, rest)) :
    next.root.Bounded := by
  simp only [pair?, Option.bind_eq_bind, Option.bind_eq_some_iff] at hread
  obtain ⟨⟨path, key, more⟩, _, after, _, ⟨x, back⟩, hx, root, hroot, hread⟩ := hread
  cases hread
  exact h.putUnder ((ReadsBounded.all _).value hx) hroot

theorem line?_bounded (h : r.root.Bounded) (hread : line? r text = some (next, rest)) :
    next.root.Bounded := by
  unfold line? at hread
  split at hread
  next => exact header?_bounded (fun hm ho => hm.beginItem ho) h hread
  next => exact header?_bounded (fun hm ho => hm.beginTable ho) h hread
  next =>
    split at hread
    next =>
      cases hread
      exact h
    next => exact pair?_bounded h hread

theorem lines_bounded {fuel : Nat} {root : Members} (h : r.root.Bounded)
    (hread : lines fuel r text = some root) : root.Bounded := by
  induction fuel generalizing r text with
  | zero => cases hread
  | succ fuel ih =>
      simp only [lines, Option.bind_eq_bind, Option.bind_eq_some_iff] at hread
      obtain ⟨⟨next, more⟩, hline, after, _, hread⟩ := hread
      have hnext := line?_bounded h hline
      split at hread
      next =>
        cases hread
        exact hnext
      next =>
        obtain ⟨back, _, hread⟩ := Option.bind_eq_some_iff.mp hread
        exact ih hnext hread

end Documents

/-- Every number in a document that was read is a signed number of 64 bits. -/
theorem read?_bounded {text : String} {x : Toml} (h : read? text = some x) : Bounded x := by
  obtain ⟨root, hlines, rfl⟩ := Option.map_eq_some_iff.mp h
  exact .table (lines_bounded .nil hlines)

end Cadence.Toml

import Cadence.Proofs.Json.Grammar
import Mathlib.Data.List.DropRight
import Mathlib.Data.List.TakeDrop

/-! # Every text of a value is read

The readers take a text of the grammar off the front of what they are given and stop where it
ends. Only a number needs to know what comes after it: every other value ends by itself.
-/

namespace Cadence.Json

/-! ## Blanks -/

theorem skipBlanks_append {gap : List Char} (h : Blank gap) (rest : List Char) :
    skipBlanks (gap ++ rest) = skipBlanks rest :=
  List.dropWhile_append_of_pos h

theorem skipBlanks_cons {c : Char} (h : isBlank c = false) (rest : List Char) :
    skipBlanks (c :: rest) = c :: rest :=
  List.dropWhile_cons_of_neg (by simp [h])

theorem skipBlanks_skipBlanks (text : List Char) : skipBlanks (skipBlanks text) = skipBlanks text :=
  List.dropWhile_idempotent _ text

theorem isEmpty_skipBlanks {text : List Char} : (skipBlanks text).isEmpty ↔ Blank text := by
  rw [List.isEmpty_iff]
  exact List.dropWhile_eq_nil_iff

/-! ## Strings -/

theorem pieces_plain {c : Char} (hcontrol : 32 ≤ c.toNat) (hquote : c ≠ '"') (hslash : c ≠ '\\')
    (text : List Char) :
    pieces (c :: text) = (pieces text).map fun found => (.char c :: found.1, found.2) := by
  rw [pieces, if_neg (by omega)]
  case x_1 => exact hquote
  case x_2 => exact fun _ _ _ _ _ heq _ => hslash heq
  case x_3 => exact fun _ _ heq _ => hslash heq
  cases pieces text <;> rfl

theorem escapedChar?_of_mem {letter c : Char} (h : (letter, c) ∈ shortEscapes) :
    escapedChar? letter = some c ∧ letter ≠ 'u' := by
  simp only [shortEscapes, List.mem_cons, Prod.mk.injEq, List.not_mem_nil, or_false] at h
  rcases h with h | h | h | h | h | h | h | h <;> (rw [h.1, h.2]; exact ⟨rfl, by decide⟩)

theorem pieces_letter {letter c : Char} (h : (letter, c) ∈ shortEscapes) (text : List Char) :
    pieces ('\\' :: letter :: text) =
      (pieces text).map fun found => (.char c :: found.1, found.2) := by
  obtain ⟨hescape, hletter⟩ := escapedChar?_of_mem h
  rw [pieces, hescape]
  case x_1 => exact fun _ _ _ _ _ heq _ => hletter heq
  cases pieces text <;> rfl

theorem CodeUnit.eq_four {n : Nat} {digits : List Char} (h : CodeUnit n digits) :
    ∃ a b c d, digits = [a, b, c, d] := by
  rcases digits with _ | ⟨a, _ | ⟨b, _ | ⟨c, _ | ⟨d, _ | ⟨_, _⟩⟩⟩⟩⟩
  case cons.cons.cons.cons.nil => exact ⟨a, b, c, d, rfl⟩
  all_goals exact absurd h.1 (by simp)

theorem pieces_unit {n : Nat} {digits : List Char} (h : CodeUnit n digits) (text : List Char) :
    pieces ('\\' :: 'u' :: (digits ++ text)) =
      (pieces text).map fun found => (.unit n :: found.1, found.2) := by
  obtain ⟨a, b, c, d, rfl⟩ := h.eq_four
  simp only [List.cons_append, List.nil_append]
  rw [pieces, h.2]
  cases pieces text <;> rfl

/-- A character is no surrogate. -/
theorem join_unit (c : Char) (ps : List Piece) :
    join (.unit c.toNat :: ps) = (join ps).map (c :: ·) := by
  have hvalid : c.toNat < 0xD800 ∨ 0xE000 ≤ c.toNat := c.valid.imp_right fun h => h.1
  rw [join.eq_def]
  dsimp only
  rw [if_pos hvalid, Char.ofNat_toNat]

theorem join_pair {c : Char} (hwide : 0x10000 ≤ c.toNat) (ps : List Piece) :
    join (.unit (0xD800 + (c.toNat - 0x10000) / 0x400) ::
      .unit (0xDC00 + (c.toNat - 0x10000) % 0x400) :: ps) = (join ps).map (c :: ·) := by
  have hsmall : c.toNat < 0x110000 := Or.elim c.valid (Nat.lt_trans · (by decide)) And.right
  have hvalue : 0x10000 + (0xD800 + (c.toNat - 0x10000) / 0x400 - 0xD800) * 0x400 +
      (0xDC00 + (c.toNat - 0x10000) % 0x400 - 0xDC00) = c.toNat := by omega
  rw [join, if_neg (by omega), if_pos (by omega), hvalue, Char.ofNat_toNat]

theorem Spelled.read {cs text : List Char} (h : Spelled cs text) (rest : List Char) :
    ∃ ps, pieces (text ++ '"' :: rest) = some (ps, rest) ∧ join ps = some cs := by
  induction h with
  | nil => exact ⟨[], rfl, rfl⟩
  | @plain c cs text hcontrol hquote hslash h ih =>
      obtain ⟨ps, hpieces, hjoin⟩ := ih
      refine ⟨.char c :: ps, ?_, ?_⟩
      · rw [List.cons_append, pieces_plain hcontrol hquote hslash, hpieces]
        rfl
      · rw [join, hjoin]
        rfl
  | @letter letter c cs text hletter h ih =>
      obtain ⟨ps, hpieces, hjoin⟩ := ih
      refine ⟨.char c :: ps, ?_, ?_⟩
      · rw [List.cons_append, List.cons_append, pieces_letter hletter, hpieces]
        rfl
      · rw [join, hjoin]
        rfl
  | @unit c digits cs text hdigits h ih =>
      obtain ⟨ps, hpieces, hjoin⟩ := ih
      refine ⟨.unit c.toNat :: ps, ?_, ?_⟩
      · simp only [List.cons_append, List.append_assoc]
        rw [pieces_unit hdigits, hpieces]
        rfl
      · rw [join_unit, hjoin]
        rfl
  | @pair c high low cs text hwide hhigh hlow h ih =>
      obtain ⟨ps, hpieces, hjoin⟩ := ih
      refine ⟨.unit _ :: .unit _ :: ps, ?_, (join_pair hwide ps).trans (by rw [hjoin]; rfl)⟩
      simp only [List.cons_append, List.append_assoc]
      rw [pieces_unit hhigh, pieces_unit hlow, hpieces]
      rfl

theorem stringBody_spelled {s : String} {spelled : List Char} (h : Spelled s.toList spelled)
    (rest : List Char) : stringBody (spelled ++ '"' :: rest) = some (some s, rest) := by
  obtain ⟨ps, hpieces, hjoin⟩ := h.read rest
  rw [stringBody, hpieces]
  simp [hjoin]

/-! ## Numbers -/

/-- A text with which no number goes on. -/
def Free (rest : List Char) : Prop :=
  ∀ c ∈ rest.head?, c.isDigit = false ∧ c ≠ '.' ∧ c ≠ 'e' ∧ c ≠ 'E'

theorem free_cons {c : Char} (h : c.isDigit = false ∧ c ≠ '.' ∧ c ≠ 'e' ∧ c ≠ 'E')
    (rest : List Char) : Free (c :: rest) := by
  intro x hx
  rw [List.head?_cons, Option.mem_some] at hx
  exact hx ▸ h

theorem Free.append {gap rest : List Char} (h : Free rest) (hgap : Blank gap) :
    Free (gap ++ rest) := by
  cases gap with
  | nil => exact h
  | cons c gap =>
      have hc := hgap c List.mem_cons_self
      simp only [isBlank, Bool.or_eq_true, beq_iff_eq] at hc
      refine free_cons ?_ _
      rcases hc with ((rfl | rfl) | rfl) | rfl <;> decide

theorem digits?_digits {ds : List Char} (h : Digits ds) {rest : List Char}
    (hrest : ∀ c ∈ rest.head?, c.isDigit = false) : digits? (ds ++ rest) = some (ds, rest) := by
  have hscan := Text.scan_front h.2 hrest
  simp [digits?, List.span_eq_takeWhile_dropWhile, hscan.1, hscan.2, h.1]

theorem whole?_whole {ds : List Char} (h : Whole ds) {rest : List Char}
    (hrest : ∀ c ∈ rest.head?, c.isDigit = false) : whole? (ds ++ rest) = some (ds, rest) := by
  cases h with
  | zero => rfl
  | digits h hlead =>
      rw [whole?]
      case x_1 =>
        intro tail heq
        cases ds with
        | nil => exact h.1 rfl
        | cons c ds => exact hlead (congrArg some (List.cons.inj heq).1)
      exact digits?_digits h hrest

theorem fraction?_fraction {ds : List Char} (h : Fraction ds) {rest : List Char}
    (hrest : ∀ c ∈ rest.head?, c.isDigit = false ∧ c ≠ '.') :
    fraction? (ds ++ rest) = some (ds, rest) := by
  cases h with
  | absent =>
      rw [List.nil_append, fraction?]
      exact fun tail heq => (hrest '.' (by rw [heq]; rfl)).2 rfl
  | point h =>
      rw [List.cons_append, fraction?, digits?_digits h fun c hc => (hrest c hc).1]
      rfl

/-- What follows the digits before the point is no digit. -/
theorem Fraction.stops {ds : List Char} (h : Fraction ds) {rest : List Char}
    (hrest : ∀ c ∈ rest.head?, c.isDigit = false) :
    ∀ c ∈ (ds ++ rest).head?, c.isDigit = false := by
  cases h with
  | absent => exact hrest
  | point h =>
      intro c hc
      rw [List.cons_append, List.head?_cons, Option.mem_some] at hc
      exact hc ▸ rfl

theorem Exponent.stops {ds : List Char} (h : Exponent ds) {rest : List Char} (hrest : Free rest) :
    ∀ c ∈ (ds ++ rest).head?, c.isDigit = false ∧ c ≠ '.' := by
  cases h with
  | absent => exact fun c hc => ⟨(hrest c hc).1, (hrest c hc).2.1⟩
  | power he hsign h =>
      intro c hc
      rw [List.cons_append, List.head?_cons, Option.mem_some] at hc
      rcases he with he | he <;> (rw [← hc, he]; decide)

theorem Digits.exists_cons {ds : List Char} (h : Digits ds) :
    ∃ c tail, ds = c :: tail ∧ c.isDigit := by
  cases ds with
  | nil => exact absurd rfl h.1
  | cons c tail => exact ⟨c, tail, rfl, h.2 c List.mem_cons_self⟩

theorem Whole.exists_cons {ds : List Char} (h : Whole ds) :
    ∃ c tail, ds = c :: tail ∧ c.isDigit := by
  cases h with
  | zero => exact ⟨'0', [], rfl, rfl⟩
  | digits h => exact h.exists_cons

theorem exponent?_exponent {ds : List Char} (h : Exponent ds) {rest : List Char}
    (hrest : Free rest) : exponent? (ds ++ rest) = some (ds, rest) := by
  cases h with
  | absent =>
      cases rest with
      | nil => rfl
      | cons c rest =>
          have hc := hrest c rfl
          simp [exponent?, hc.2.2]
  | @power e sign ds he hsign h =>
      have hread := digits?_digits h fun c hc => (hrest c hc).1
      rcases hsign with rfl | rfl | rfl
      case inl =>
        obtain ⟨c, tail, rfl, hc⟩ := h.exists_cons
        have hplus : c ≠ '+' := fun heq => absurd hc (by rw [heq]; decide)
        have hminus : c ≠ '-' := fun heq => absurd hc (by rw [heq]; decide)
        simp only [List.nil_append, List.cons_append] at hread ⊢
        simp [exponent?, he, hplus, hminus, hread]
      all_goals simp [exponent?, he, hread]

theorem number?_numeral {n : List Char} (h : Numeral n) {rest : List Char} (hrest : Free rest) :
    number? (n ++ rest) = some (n, rest) := by
  cases h with
  | @mk sign whole fraction exponent hsign hwhole hfraction hexponent =>
      have hpower := exponent?_exponent hexponent hrest
      have hpoint := fraction?_fraction hfraction (hexponent.stops hrest)
      have hfront := whole?_whole hwhole
        (hfraction.stops fun c hc => (hexponent.stops hrest c hc).1)
      rcases hsign with rfl | rfl
      case inl =>
        obtain ⟨c, tail, rfl, hc⟩ := hwhole.exists_cons
        have hminus : c ≠ '-' := fun heq => absurd hc (by rw [heq]; decide)
        simp only [List.nil_append, List.cons_append, List.append_assoc] at hfront ⊢
        simp [number?, hminus, hfront, hpoint, hpower]
      case inr => simp [number?, hfront, hpoint, hpower]

/-! ## Values -/

theorem value_of_skipBlanks {text other : List Char} (h : skipBlanks text = skipBlanks other)
    (fuel : Nat) : value fuel text = value fuel other := by
  cases fuel with
  | zero => rfl
  | succ fuel => rw [value, value, h]

theorem items_of_skipBlanks {text other : List Char} (h : skipBlanks text = skipBlanks other)
    (fuel : Nat) : items fuel text = items fuel other := by
  cases fuel with
  | zero => rfl
  | succ fuel => rw [items, items, value_of_skipBlanks h]

theorem members_of_skipBlanks {text other : List Char} (h : skipBlanks text = skipBlanks other)
    (fuel : Nat) : members fuel text = members fuel other := by
  cases fuel with
  | zero => rfl
  | succ fuel => rw [members, members, h]

/-- No value begins with a closing bracket. -/
theorem value_closing {text rest : List Char} (h : skipBlanks text = ']' :: rest) (fuel : Nat) :
    value fuel text = none := by
  cases fuel with
  | zero => rfl
  | succ fuel =>
      rw [value, h]
      rfl

theorem items_closing {text rest : List Char} (h : skipBlanks text = ']' :: rest) (fuel : Nat) :
    items fuel text = none := by
  cases fuel with
  | zero => rfl
  | succ fuel =>
      rw [items, value_closing h]
      rfl

theorem members_closing {text rest : List Char} (h : skipBlanks text = '\x7d' :: rest)
    (fuel : Nat) : members fuel text = none := by
  cases fuel with
  | zero => rfl
  | succ fuel =>
      rw [members, h]
      rfl

/-- The text is read off the front as the value, and only blanks after it may go with it. -/
def Reads (x : Json) (text : List Char) : Prop :=
  ∀ fuel rest, 2 * text.length ≤ fuel → ((∃ n, x = .number n) → Free rest) →
    ∃ left, value fuel (text ++ rest) = some (x, left) ∧ skipBlanks left = skipBlanks rest

theorem commas_singleton (text : List Char) : commas [text] = text := List.intercalate_singleton

theorem commas_cons_cons (text next : List Char) (texts : List (List Char)) :
    commas (text :: next :: texts) = text ++ ',' :: commas (next :: texts) := by
  simp [commas, List.intercalate_cons_cons]

theorem items_commas {parts : List (Json × List Char)} (hne : parts ≠ [])
    (hparts : ∀ part ∈ parts, Reads part.1 part.2) {fuel : Nat}
    (hfuel : 2 * (commas (parts.map Prod.snd)).length < fuel) (rest : List Char) :
    items fuel (commas (parts.map Prod.snd) ++ ']' :: rest) =
      some (parts.map Prod.fst, rest) := by
  induction parts generalizing fuel with
  | nil => exact absurd rfl hne
  | cons part parts ih =>
      obtain ⟨fuel, rfl⟩ := Nat.exists_eq_add_one.mpr (Nat.zero_lt_of_lt hfuel)
      have hfirst := hparts part List.mem_cons_self
      cases parts with
      | nil =>
          simp only [List.map_cons, List.map_nil, commas_singleton] at hfuel ⊢
          obtain ⟨left, hvalue, hleft⟩ := hfirst fuel (']' :: rest) (by omega)
            fun _ => free_cons (by decide) rest
          rw [skipBlanks_cons rfl] at hleft
          rw [items, hvalue]
          simp [hleft]
      | cons next parts =>
          simp only [List.map_cons, commas_cons_cons, List.length_append, List.length_cons]
            at hfuel ⊢
          rw [List.append_assoc, List.cons_append]
          obtain ⟨left, hvalue, hleft⟩ := hfirst fuel
            (',' :: (commas (next.2 :: parts.map Prod.snd) ++ ']' :: rest)) (by omega)
            fun _ => free_cons (by decide) _
          have hless : 2 * (commas ((next :: parts).map Prod.snd)).length < fuel := by
            simp only [List.map_cons]
            omega
          have hrest := ih (List.cons_ne_nil next parts)
            (fun part hpart => hparts part (List.mem_cons_of_mem _ hpart)) hless
          rw [skipBlanks_cons rfl] at hleft
          simp only [List.map_cons] at hrest
          rw [items, hvalue]
          simp [hleft, hrest]

theorem Part.Formed.skipBlanks_written {part : Part} (h : part.Formed) (tail : List Char) :
    skipBlanks (part.written ++ tail) =
      '"' :: (part.spelled ++ '"' :: (part.between ++ ':' :: (part.text ++ tail))) := by
  rw [Part.written, List.append_assoc, skipBlanks_append h.before, List.cons_append,
    skipBlanks_cons rfl]
  simp only [List.append_assoc, List.cons_append]

theorem Part.Formed.skipBlanks_between {part : Part} (h : part.Formed) (tail : List Char) :
    skipBlanks (part.between ++ ':' :: tail) = ':' :: tail := by
  rw [skipBlanks_append h.between, skipBlanks_cons rfl]

theorem members_commas {parts : List Part} (hne : parts ≠ [])
    (hnames : ∀ part ∈ parts, part.Formed)
    (hparts : ∀ part ∈ parts, Reads part.value part.text) {fuel : Nat}
    (hfuel : 2 * (commas (parts.map Part.written)).length < fuel) (rest : List Char) :
    members fuel (commas (parts.map Part.written) ++ '\x7d' :: rest) =
      some (parts.map fun part => (some part.name, part.value), rest) := by
  induction parts generalizing fuel with
  | nil => exact absurd rfl hne
  | cons part parts ih =>
      obtain ⟨fuel, rfl⟩ := Nat.exists_eq_add_one.mpr (Nat.zero_lt_of_lt hfuel)
      have hformed := hnames part List.mem_cons_self
      have hfirst := hparts part List.mem_cons_self
      have hshort : part.text.length ≤ part.written.length := by
        simp only [Part.written, List.length_append, List.length_cons]
        omega
      cases parts with
      | nil =>
          simp only [List.map_cons, List.map_nil, commas_singleton] at hfuel ⊢
          obtain ⟨left, hvalue, hleft⟩ := hfirst fuel ('\x7d' :: rest) (by omega)
            fun _ => free_cons (by decide) rest
          rw [skipBlanks_cons rfl] at hleft
          rw [members, hformed.skipBlanks_written]
          simp [stringBody_spelled hformed.spelled, hformed.skipBlanks_between, hvalue, hleft]
      | cons next parts =>
          simp only [List.map_cons, commas_cons_cons, List.length_append, List.length_cons]
            at hfuel ⊢
          rw [List.append_assoc, List.cons_append]
          obtain ⟨left, hvalue, hleft⟩ := hfirst fuel
            (',' :: (commas (next.written :: parts.map Part.written) ++ '\x7d' :: rest)) (by omega)
            fun _ => free_cons (by decide) _
          have hless : 2 * (commas ((next :: parts).map Part.written)).length < fuel := by
            simp only [List.map_cons]
            omega
          have hrest := ih (List.cons_ne_nil next parts)
            (fun part hpart => hnames part (List.mem_cons_of_mem _ hpart))
            (fun part hpart => hparts part (List.mem_cons_of_mem _ hpart)) hless
          rw [skipBlanks_cons rfl] at hleft
          simp only [List.map_cons] at hrest
          rw [members, hformed.skipBlanks_written]
          simp [stringBody_spelled hformed.spelled, hformed.skipBlanks_between, hvalue, hleft,
            hrest]

theorem named_parts (parts : List Part) :
    named (parts.map fun part => (some part.name, part.value)) =
      some (parts.map Part.member) := by
  induction parts with
  | nil => rfl
  | cons part parts ih =>
      rw [List.map_cons, named, ih]
      rfl

theorem reads_string {s : String} {spelled : List Char} (h : Spelled s.toList spelled) :
    Reads (.string s) ('"' :: (spelled ++ ['"'])) := by
  intro fuel rest hfuel _
  obtain ⟨fuel, rfl⟩ := Nat.exists_eq_add_one.mpr (Nat.zero_lt_of_lt hfuel)
  refine ⟨rest, ?_, rfl⟩
  rw [value, List.cons_append, skipBlanks_cons rfl]
  simp [stringBody_spelled h]

/-- A number begins with none of the marks of the other values. -/
theorem Numeral.exists_cons {n : List Char} (h : Numeral n) :
    ∃ c tail, n = c :: tail ∧ (c.isDigit ∨ c = '-') := by
  cases h with
  | @mk sign whole fraction exponent hsign hwhole hfraction hexponent =>
      obtain ⟨c, tail, rfl, hc⟩ := hwhole.exists_cons
      rcases hsign with rfl | rfl
      · exact ⟨c, tail ++ (fraction ++ exponent), rfl, .inl hc⟩
      · exact ⟨'-', c :: tail ++ (fraction ++ exponent), rfl, .inr rfl⟩

theorem reads_number {n : List Char} (h : Numeral n) : Reads (.number (String.ofList n)) n := by
  intro fuel rest hfuel hrest
  have hread := number?_numeral h (hrest ⟨_, rfl⟩)
  obtain ⟨c, tail, rfl, hc⟩ := h.exists_cons
  obtain ⟨fuel, rfl⟩ := Nat.exists_eq_add_one.mpr (Nat.zero_lt_of_lt hfuel)
  refine ⟨rest, ?_, rfl⟩
  have hother : ∀ mark ∈ [' ', '\n', '\t', '\r', '"', '[', '\x7b', 'n', 't', 'f'], c ≠ mark := by
    rintro mark hmark rfl
    simp only [List.mem_cons, List.not_mem_nil, or_false] at hmark
    rcases hmark with rfl | rfl | rfl | rfl | rfl | rfl | rfl | rfl | rfl | rfl
    all_goals exact absurd hc (by decide)
  simp only [List.forall_mem_cons, ne_eq] at hother
  have hblank : isBlank c = false := by simp [isBlank, hother]
  rw [List.cons_append] at hread ⊢
  rw [value, skipBlanks_cons hblank]
  simp [hother, hread]

theorem reads_array {gap : List Char} (hgap : Blank gap) {parts : List (Json × List Char)}
    (hparts : ∀ part ∈ parts, Reads part.1 part.2) :
    Reads (.array (parts.map Prod.fst))
      ('[' :: (gap ++ (commas (parts.map Prod.snd) ++ [']']))) := by
  intro fuel rest hfuel _
  obtain ⟨fuel, rfl⟩ := Nat.exists_eq_add_one.mpr (Nat.zero_lt_of_lt hfuel)
  refine ⟨rest, ?_, rfl⟩
  simp only [List.length_cons, List.length_append, List.length_nil] at hfuel
  have htext : '[' :: (gap ++ (commas (parts.map Prod.snd) ++ [']'])) ++ rest =
      '[' :: (gap ++ (commas (parts.map Prod.snd) ++ ']' :: rest)) := by simp
  rw [htext, value, skipBlanks_cons rfl]
  simp only [skipBlanks_append hgap]
  by_cases hne : parts = []
  · subst hne
    rfl
  · have hless : 2 * (commas (parts.map Prod.snd)).length < fuel := by omega
    have hitems := items_commas hne hparts hless rest
    split
    next heq => exact absurd (hitems.symm.trans (items_closing heq fuel)) (by simp)
    next =>
      rw [items_of_skipBlanks (skipBlanks_skipBlanks _), hitems]
      rfl

theorem reads_object {gap : List Char} (hgap : Blank gap) {parts : List Part}
    (hnames : ∀ part ∈ parts, part.Formed)
    (hparts : ∀ part ∈ parts, Reads part.value part.text) :
    Reads (.object (parts.map Part.member))
      ('\x7b' :: (gap ++ (commas (parts.map Part.written) ++ ['\x7d']))) := by
  intro fuel rest hfuel _
  obtain ⟨fuel, rfl⟩ := Nat.exists_eq_add_one.mpr (Nat.zero_lt_of_lt hfuel)
  refine ⟨rest, ?_, rfl⟩
  simp only [List.length_cons, List.length_append, List.length_nil] at hfuel
  have htext : '\x7b' :: (gap ++ (commas (parts.map Part.written) ++ ['\x7d'])) ++ rest =
      '\x7b' :: (gap ++ (commas (parts.map Part.written) ++ '\x7d' :: rest)) := by simp
  rw [htext, value, skipBlanks_cons rfl]
  simp only [skipBlanks_append hgap]
  by_cases hne : parts = []
  · subst hne
    rfl
  · have hless : 2 * (commas (parts.map Part.written)).length < fuel := by omega
    have hmembers := members_commas hne hnames hparts hless rest
    split
    next heq => exact absurd (hmembers.symm.trans (members_closing heq fuel)) (by simp)
    next =>
      rw [members_of_skipBlanks (skipBlanks_skipBlanks _), hmembers]
      simp [named_parts]

theorem Spells.reads {x : Json} {text : List Char} (h : Spells x text) : Reads x text := by
  induction h with
  | null =>
    intro fuel rest hfuel _
    obtain ⟨fuel, rfl⟩ := Nat.exists_eq_add_one.mpr (Nat.zero_lt_of_lt hfuel)
    exact ⟨rest, rfl, rfl⟩
  | true =>
    intro fuel rest hfuel _
    obtain ⟨fuel, rfl⟩ := Nat.exists_eq_add_one.mpr (Nat.zero_lt_of_lt hfuel)
    exact ⟨rest, rfl, rfl⟩
  | false =>
    intro fuel rest hfuel _
    obtain ⟨fuel, rfl⟩ := Nat.exists_eq_add_one.mpr (Nat.zero_lt_of_lt hfuel)
    exact ⟨rest, rfl, rfl⟩
  | number h => exact reads_number h
  | string h => exact reads_string h
  | array hgap parts hparts ih => exact reads_array hgap ih
  | object hgap parts hnames hparts ih => exact reads_object hgap hnames ih
  | @padded x front text back hfront h hback ih =>
      intro fuel rest hfuel hrest
      simp only [List.length_append] at hfuel
      have hskip : skipBlanks (front ++ (text ++ back) ++ rest) =
          skipBlanks (text ++ (back ++ rest)) := by
        rw [List.append_assoc, skipBlanks_append hfront, List.append_assoc]
      obtain ⟨left, hvalue, hleft⟩ := ih fuel (back ++ rest) (by omega)
        fun hnumber => (hrest hnumber).append hback
      exact ⟨left, (value_of_skipBlanks hskip fuel).trans hvalue,
        hleft.trans (skipBlanks_append hback rest)⟩

/-- Every text of a value is read as that value. -/
theorem read?_of_spells {x : Json} {text : String} (h : Spells x text.toList) :
    read? text = some x := by
  obtain ⟨left, hvalue, hleft⟩ := h.reads (2 * text.toList.length + 2) [] (Nat.le_add_right _ _)
    fun _ _ hc => absurd hc (by simp)
  rw [List.append_nil] at hvalue
  have hend : skipBlanks left = [] := hleft
  simp [read?, hvalue, hend]

/-- A text spells at most one value. -/
theorem Spells.unique {x y : Json} {text : List Char} (hx : Spells x text) (hy : Spells y text) :
    x = y := by
  have hread : read? (String.ofList text) = some x :=
    read?_of_spells (by rwa [String.toList_ofList])
  rw [read?_of_spells (by rwa [String.toList_ofList])] at hread
  exact (Option.some.inj hread).symm

/-- After an object there may be nothing but blanks. -/
theorem read?_trailing {ms : List (String × Json)} {text rest : String}
    (h : Spells (.object ms) text.toList) (hrest : ¬ Blank rest.toList) :
    read? (text ++ rest) = none := by
  have hlength : 2 * text.toList.length ≤ 2 * (text ++ rest).toList.length + 2 := by
    rw [String.toList_append, List.length_append]
    omega
  obtain ⟨left, hvalue, hleft⟩ := h.reads _ rest.toList hlength fun ⟨_, heq⟩ => by cases heq
  rw [← String.toList_append] at hvalue
  have hend : ¬ (skipBlanks left).isEmpty := by rwa [hleft, isEmpty_skipBlanks]
  unfold read?
  dsimp only
  rw [hvalue]
  exact if_neg hend

end Cadence.Json

import Cadence.Proofs.Text.Numerals
import Cadence.Toml.Quoted
import Cadence.Toml.Scalar

/-! # Strings of TOML read back

Writer and reader meet at a relation between a text and its spelling inside the quotes.
A string of several lines ends at the third quote in a row, so a spelling never has three of
them; the ones at its end run into the closing quotes, of which the reader takes up to five.
-/

namespace Cadence.Toml

open Quoted

/-- A character in a string with escapes stands for itself or is escaped. -/
inductive Spells (c : Char) : List Char → Prop
  | plain (hplain : isPlain c) (hquote : c ≠ '"') (hslash : c ≠ '\\') : Spells c [c]
  | escaped {escape : List Char} (hescape : ∀ rest, escape? (escape ++ rest) = some (c, rest))
      (hline : ∀ rest, continued? (escape ++ rest) = none) : Spells c ('\\' :: escape)

theorem isPlain_of_not_isControl {c : Char} (h : isControl c = false) (hline : c ≠ '\n') :
    isPlain c := by
  simp only [isControl, Bool.or_eq_false_iff, Bool.and_eq_false_iff, decide_eq_false_iff_not,
    bne_eq_false_iff_eq, beq_eq_false_iff_ne] at h
  simp only [isPlain, Bool.or_eq_true, beq_iff_eq, Bool.and_eq_true, decide_eq_true_eq,
    bne_iff_ne]
  rcases h with ⟨(hbig | htab) | hnewline, hdelete⟩
  · exact .inr ⟨by omega, hdelete⟩
  · exact .inl htab
  · exact absurd hnewline hline

/-- A plain character ends no line. -/
theorem ne_lineEnd_of_isPlain {c : Char} (h : isPlain c) : c ≠ '\n' ∧ c ≠ '\r' := by
  constructor <;> (rintro rfl; exact absurd h (by decide))

theorem lineEnd?_eq_none {c : Char} (h : c ≠ '\n' ∧ c ≠ '\r') (rest : List Char) :
    lineEnd? (c :: rest) = none := by
  unfold lineEnd?
  split
  next heq => exact absurd (List.cons.inj heq).1 h.1
  next heq => exact absurd (List.cons.inj heq).1 h.2
  next => rfl

/-- Only a blank or a line end after a backslash goes on in the next line. -/
theorem continued?_eq_none {c : Char} (hblank : isBlank c = false) (hline : c ≠ '\n' ∧ c ≠ '\r')
    (rest : List Char) : continued? (c :: rest) = none := by
  unfold continued? skipBlanks
  rw [List.dropWhile_cons_of_neg (by simp [hblank]), lineEnd?_eq_none hline]
  rfl

/-- An escape by a letter. -/
theorem Spells.letter {c letter : Char}
    (hescape : ∀ rest, escape? (letter :: rest) = some (c, rest))
    (hblank : isBlank letter = false) (hline : letter ≠ '\n' ∧ letter ≠ '\r') :
    Spells c ['\\', letter] :=
  @Spells.escaped c [letter] hescape fun rest => continued?_eq_none hblank hline rest

theorem unicode?_hexPadded (c : Char) (hc : c.toNat < 65536) (rest : List Char) :
    unicode? 4 ((Text.hexPadded 4 c.toNat).map Char.toUpper ++ rest) = some (c, rest) := by
  have hlength : ((Text.hexPadded 4 c.toNat).map Char.toUpper).length = 4 := by
    rw [List.length_map, Text.hexPadded_length]
  have hvalue : Text.readDigits? 16 ((Text.hexPadded 4 c.toNat).map Char.toUpper) =
      some c.toNat := Text.readDigits?_hexPadded Text.hexValue?_digitChar_toUpper hc
  have hvalid : c.toNat.isValidChar := c.valid
  unfold unicode?
  rw [List.take_left' hlength, List.drop_left' hlength]
  simp [hlength, hvalue, hvalid]

/-- Every character but a quote and a line end is spelled as the basic styles write it. -/
theorem spells_escape {c : Char} (hquote : c ≠ '"') (hline : c ≠ '\n') : Spells c (escape c) := by
  unfold escape
  split
  next => exact .letter (fun _ => rfl) rfl (by decide)
  next => exact .letter (fun _ => rfl) rfl (by decide)
  next => exact .letter (fun _ => rfl) rfl (by decide)
  next => exact .letter (fun _ => rfl) rfl (by decide)
  next => exact .letter (fun _ => rfl) rfl (by decide)
  next hslash =>
    split
    next hcontrol =>
      have hsmall : c.toNat < 65536 := by
        simp only [isControl, Bool.or_eq_true, Bool.and_eq_true, decide_eq_true_eq,
          beq_iff_eq] at hcontrol
        omega
      exact .escaped (unicode?_hexPadded c hsmall)
        fun rest => continued?_eq_none rfl (by decide) _
    next hcontrol =>
      exact .plain (isPlain_of_not_isControl (by simpa using hcontrol) hline) hquote hslash

/-! ## Strings of one line -/

theorem basic_of_spells {spell : Char → List Char} {text : List Char}
    (h : ∀ c ∈ text, Spells c (spell c)) {fuel : Nat} (hfuel : (text.flatMap spell).length < fuel)
    (rest : List Char) : basic fuel (text.flatMap spell ++ '"' :: rest) = some (text, rest) := by
  induction text generalizing fuel with
  | nil =>
      obtain ⟨fuel, rfl⟩ := Nat.exists_eq_add_one.mpr hfuel
      rfl
  | cons c text ih =>
      obtain ⟨fuel, rfl⟩ := Nat.exists_eq_add_one.mpr (Nat.zero_lt_of_lt hfuel)
      have hspells := h c List.mem_cons_self
      rw [List.flatMap_cons] at hfuel ⊢
      rw [List.length_append] at hfuel
      rw [List.append_assoc]
      generalize spell c = spelled at hspells hfuel
      have hnext : spelled.length ≠ 0 →
          basic fuel (text.flatMap spell ++ '"' :: rest) = some (text, rest) :=
        fun hlength => ih (fun x hx => h x (List.mem_cons_of_mem c hx)) (by omega)
      cases hspells with
      | plain hplain hquote hslash => simp [basic, hplain, hnext]
      | escaped hescape hline => simp [basic, hescape, hnext]

theorem spells_escapeLine (c : Char) :
    Spells c (if c = '"' then ['\\', '"'] else if c = '\n' then ['\\', 'n'] else escape c) := by
  split
  next hquote =>
    subst hquote
    exact .letter (fun _ => rfl) rfl (by decide)
  next hquote =>
    split
    next hline =>
      subst hline
      exact .letter (fun _ => rfl) rfl (by decide)
    next hline => exact spells_escape hquote hline

theorem basic_escapeLine {text : List Char} {fuel : Nat} (hfuel : (escapeLine text).length < fuel)
    (rest : List Char) : basic fuel (escapeLine text ++ '"' :: rest) = some (text, rest) :=
  basic_of_spells (fun c _ => spells_escapeLine c) hfuel rest

theorem literal_of_plain {text : List Char} (h : ∀ c ∈ text, isPlain c ∧ c ≠ '\'')
    (rest : List Char) : literal (text ++ '\'' :: rest) = some (text, rest) := by
  induction text with
  | nil => rfl
  | cons c text ih =>
      obtain ⟨hplain, hquote⟩ := h c List.mem_cons_self
      simp [literal, hplain, ih fun x hx => h x (List.mem_cons_of_mem c hx)]

/-! ## Strings of several lines -/

/-- The spelling of a text between three quotes each, after so many quotes in a row. A literal
string has no escapes. -/
inductive Spelled (quote : Char) (literal : Bool) : Nat → List Char → List Char → Prop
  | nil {run : Nat} : Spelled quote literal run [] []
  | inRow {run : Nat} {text spelled : List Char} (hrun : run < 2)
      (h : Spelled quote literal (run + 1) text spelled) :
      Spelled quote literal run (quote :: text) (quote :: spelled)
  | lineEnd {run : Nat} {text spelled : List Char} (h : Spelled quote literal 0 text spelled) :
      Spelled quote literal run ('\n' :: text) ('\n' :: spelled)
  | plain {run : Nat} {c : Char} {text spelled : List Char} (hplain : isPlain c)
      (hquote : c ≠ quote) (hslash : c = '\\' → literal)
      (h : Spelled quote literal 0 text spelled) :
      Spelled quote literal run (c :: text) (c :: spelled)
  | escaped {run : Nat} {c : Char} {escape text spelled : List Char} (hbasic : literal = false)
      (hescape : ∀ rest, escape? (escape ++ rest) = some (c, rest))
      (hline : ∀ rest, continued? (escape ++ rest) = none)
      (h : Spelled quote literal 0 text spelled) :
      Spelled quote literal run (c :: text) ('\\' :: (escape ++ spelled))

namespace Spelled

variable {quote : Char} {literal : Bool} {run : Nat} {text spelled : List Char}

/-- A spelling that is all quotes stands for them. -/
theorem eq_of_all (h : Spelled quote literal run text spelled) (hslash : quote ≠ '\\')
    (hall : ∀ c ∈ spelled, c = quote) : text = spelled := by
  induction h with
  | nil => rfl
  | inRow hrun h ih => exact congrArg _ (ih fun x hx => hall x (List.mem_cons_of_mem _ hx))
  | lineEnd h ih => exact congrArg _ (ih fun x hx => hall x (List.mem_cons_of_mem _ hx))
  | plain hplain hquote hliteral h ih =>
      exact congrArg _ (ih fun x hx => hall x (List.mem_cons_of_mem _ hx))
  | escaped hbasic hescape hline h ih => exact absurd (hall _ List.mem_cons_self).symm hslash

/-- At most two quotes stand in a row. -/
theorem lead_le (h : Spelled quote literal run text spelled) (hplain : isPlain quote)
    (hslash : quote ≠ '\\') (hrun : run ≤ 2) :
    (spelled.takeWhile (· = quote)).length + run ≤ 2 := by
  induction h with
  | nil => simpa using hrun
  | inRow hless h ih =>
      have hnext := ih hless
      rw [List.takeWhile_cons_of_pos (by simp), List.length_cons]
      omega
  | lineEnd h ih => simpa [(ne_lineEnd_of_isPlain hplain).1.symm] using hrun
  | plain hplain hquote hliteral h ih => simpa [hquote] using hrun
  | escaped hbasic hescape hline h ih => simpa [hslash.symm] using hrun

/-- Two quotes and three more are three quotes and two more. -/
theorem quotes_swap (hall : ∀ c ∈ spelled, c = quote) :
    spelled ++ [quote, quote, quote] = [quote, quote, quote] ++ spelled := by
  have hspelled := List.eq_replicate_of_mem hall
  generalize spelled.length = count at hspelled
  subst hspelled
  exact (List.replicate_append_replicate (m := 3)).trans
    ((congrArg (List.replicate · quote) (Nat.add_comm count 3)).trans
      List.replicate_append_replicate.symm)

/-- The string ends here, or it goes on. -/
theorem closing?_or (h : Spelled quote literal run text spelled) (hplain : isPlain quote)
    (hslash : quote ≠ '\\') (hrun : run ≤ 2) {rest : List Char} (hrest : quote ∉ rest.head?) :
    closing? quote (spelled ++ [quote, quote, quote] ++ rest) = some (text, rest) ∨
      spelled ≠ [] ∧ closing? quote (spelled ++ [quote, quote, quote] ++ rest) = none := by
  have hlead := h.lead_le hplain hslash hrun
  unfold closing?
  by_cases hall : ∀ c ∈ spelled, c = quote
  · left
    have hfront : ∀ c ∈ spelled ++ [quote, quote, quote], decide (c = quote) = true := by
      intro c hc
      rcases List.mem_append.mp hc with hc | hc
      · simpa using hall c hc
      · simpa using hc
    have hstop : ∀ c ∈ rest.head?, decide (c = quote) = false :=
      fun c hc => decide_eq_false fun heq => hrest (heq ▸ hc)
    have hlength : (spelled ++ [quote, quote, quote]).length = spelled.length + 3 :=
      List.length_append
    rw [List.takeWhile_eq_self_iff.mpr (by simpa using hall)] at hlead
    rw [(Text.scan_front hfront hstop).1, List.take_of_length_le (by omega), if_neg (by omega),
      List.drop_left, quotes_swap hall, h.eq_of_all hslash hall]
    rfl
  · right
    have hstop : (spelled ++ [quote, quote, quote] ++ rest).takeWhile (· = quote) =
        spelled.takeWhile (· = quote) := by
      rw [List.append_assoc, List.takeWhile_append, if_neg]
      intro hlength
      have hself := (List.takeWhile_prefix (· = quote) (l := spelled)).eq_of_length hlength
      exact hall (by simpa using List.takeWhile_eq_self_iff.mp hself)
    refine ⟨fun hnil => hall (hnil ▸ nofun), ?_⟩
    rw [hstop, if_pos]
    rw [List.length_take]
    omega

/-- A string that goes on may be read as one that has not ended. -/
theorem multiline_of_closing? {fuel : Nat} {back : List Char} {found : List Char × List Char}
    {going : Prop} (hclosing : closing? quote back = some found ∨
      going ∧ closing? quote back = none)
    (hopen : closing? quote back = none → multiline quote literal (fuel + 1) back = some found) :
    multiline quote literal (fuel + 1) back = some found := by
  rcases hclosing with hclosed | ⟨_, hnone⟩
  · unfold multiline
    rw [hclosed]
  · exact hopen hnone

theorem read (h : Spelled quote literal run text spelled) (hplain : isPlain quote)
    (hslash : quote ≠ '\\') (hrun : run ≤ 2) {rest : List Char} (hrest : quote ∉ rest.head?)
    {fuel : Nat} (hfuel : spelled.length < fuel) :
    multiline quote literal fuel (spelled ++ [quote, quote, quote] ++ rest) =
      some (text, rest) := by
  have hline := ne_lineEnd_of_isPlain hplain
  induction h generalizing fuel with
  | @nil run =>
      obtain ⟨fuel, rfl⟩ := Nat.exists_eq_add_one.mpr hfuel
      have hnil : Spelled quote literal run [] [] := .nil
      unfold multiline
      rw [(hnil.closing?_or hplain hslash hrun hrest).resolve_right fun h => h.1 rfl]
  | inRow hless h ih =>
      obtain ⟨fuel, rfl⟩ := Nat.exists_eq_add_one.mpr (Nat.zero_lt_of_lt hfuel)
      refine multiline_of_closing? ((inRow hless h).closing?_or hplain hslash hrun hrest) ?_
      intro hnone
      have hnext := ih hless (Nat.succ_lt_succ_iff.mp hfuel)
      unfold multiline
      rw [hnone]
      simp_all [lineEnd?_eq_none hline]
  | lineEnd h ih =>
      obtain ⟨fuel, rfl⟩ := Nat.exists_eq_add_one.mpr (Nat.zero_lt_of_lt hfuel)
      refine multiline_of_closing? (h.lineEnd.closing?_or hplain hslash hrun hrest) ?_
      intro hnone
      have hnext := ih (Nat.zero_le 2) (Nat.succ_lt_succ_iff.mp hfuel)
      unfold multiline
      rw [hnone]
      simp_all [lineEnd?]
  | plain hkept hquote hliteral h ih =>
      obtain ⟨fuel, rfl⟩ := Nat.exists_eq_add_one.mpr (Nat.zero_lt_of_lt hfuel)
      refine multiline_of_closing?
        ((plain hkept hquote hliteral h).closing?_or hplain hslash hrun hrest) ?_
      intro hnone
      have hnext := ih (Nat.zero_le 2) (Nat.succ_lt_succ_iff.mp hfuel)
      unfold multiline
      rw [hnone]
      simp_all [lineEnd?_eq_none (ne_lineEnd_of_isPlain hkept)]
  | escaped hbasic hescape hcontinued h ih =>
      obtain ⟨fuel, rfl⟩ := Nat.exists_eq_add_one.mpr (Nat.zero_lt_of_lt hfuel)
      refine multiline_of_closing?
        ((escaped hbasic hescape hcontinued h).closing?_or hplain hslash hrun hrest) ?_
      intro hnone
      have hless := Nat.succ_lt_succ_iff.mp hfuel
      rw [List.length_append] at hless
      have hshort := Nat.lt_of_le_of_lt (Nat.le_add_left _ _) hless
      have hnext := ih (Nat.zero_le 2) hshort
      unfold multiline
      rw [hnone]
      simp_all

/-- A text of one line does not begin with a line end. -/
theorem lineEnd?_eq_none (h : Spelled quote literal run text spelled) (hplain : isPlain quote)
    (hline : '\n' ∉ text) (rest : List Char) :
    lineEnd? (spelled ++ [quote, quote, quote] ++ rest) = none := by
  have hquote := ne_lineEnd_of_isPlain hplain
  cases h with
  | nil => exact Toml.lineEnd?_eq_none hquote _
  | inRow hless h => exact Toml.lineEnd?_eq_none hquote _
  | lineEnd h => exact absurd List.mem_cons_self hline
  | plain hkept => exact Toml.lineEnd?_eq_none (ne_lineEnd_of_isPlain hkept) _
  | escaped => exact Toml.lineEnd?_eq_none (by decide) _

end Spelled

theorem spelled_escapeLines {run : Nat} (text : List Char) (hrun : run ≤ 2) :
    Spelled '"' false run text (escapeLines run text) := by
  induction text generalizing run with
  | nil => exact .nil
  | cons c text ih =>
      unfold escapeLines
      split
      next hquote =>
        subst hquote
        split
        next =>
          exact @Spelled.escaped _ _ _ '"' ['"'] _ _ rfl (fun _ => rfl)
            (fun rest => continued?_eq_none rfl (by decide) rest) (ih (Nat.zero_le 2))
        next hless => exact .inRow (by omega) (ih (by omega))
      next hquote =>
        have hnext := ih (Nat.zero_le 2)
        split
        next hline =>
          subst hline
          exact .lineEnd hnext
        next hline =>
          have hspells := spells_escape hquote hline
          generalize escape c = spelled at hspells
          cases hspells with
          | plain hplain _ hslash => exact .plain hplain hquote (absurd · hslash) hnext
          | escaped hescape hcontinued => exact .escaped rfl hescape hcontinued hnext

theorem spelled_literal {run : Nat} {text : List Char} (hrun : longestRun '\'' run text < 3)
    (hcontrol : ∀ c ∈ text, isControl c = false) : Spelled '\'' true run text text := by
  induction text generalizing run with
  | nil => exact .nil
  | cons c text ih =>
      have hrest : ∀ x ∈ text, isControl x = false :=
        fun x hx => hcontrol x (List.mem_cons_of_mem c hx)
      unfold longestRun at hrun
      split at hrun
      next hquote =>
        subst hquote
        exact .inRow (by omega) (ih (by omega) hrest)
      next hquote =>
        have hnext : Spelled '\'' true 0 text text := ih (by omega) hrest
        by_cases hline : c = '\n'
        · subst hline
          exact .lineEnd hnext
        · have hplain := isPlain_of_not_isControl (hcontrol c List.mem_cons_self) hline
          exact .plain hplain hquote (fun _ => rfl) hnext

/-! ## All styles -/

/-- The literal styles hold a text as it is. -/
theorem styleOf_literal {text : List Char} (h : styleOf text = .literal) :
    ∀ c ∈ text, isPlain c ∧ c ≠ '\'' := by
  have hlast : (if text.contains '\n' then Style.basicLines else .basic) ≠ .literal := by
    split <;> decide
  unfold styleOf at h
  dsimp only at h
  split at h
  · exact absurd h hlast
  next hcontrol =>
    split at h
    · cases h
    · split at h
      next hfits =>
        intro c hc
        simp only [Bool.and_eq_true, Bool.not_eq_true', List.contains_eq_mem,
          decide_eq_false_iff_not] at hfits
        have hnot : isControl c = false :=
          Bool.eq_false_iff.mpr fun h => hcontrol (List.any_eq_true.mpr ⟨c, hc, h⟩)
        refine ⟨isPlain_of_not_isControl hnot fun hline => hfits.1 (hline ▸ hc), ?_⟩
        exact fun hquote => hfits.2 (hquote ▸ hc)
      · split at h
        · cases h
        · split at h
          · cases h
          · exact absurd h hlast

theorem styleOf_literalLines {text : List Char} (h : styleOf text = .literalLines) :
    (∀ c ∈ text, isControl c = false) ∧ longestRun '\'' 0 text < 3 := by
  have hlast : (if text.contains '\n' then Style.basicLines else .basic) ≠ .literalLines := by
    split <;> decide
  unfold styleOf at h
  dsimp only at h
  split at h
  · exact absurd h hlast
  next hcontrol =>
    split at h
    · cases h
    · split at h
      · cases h
      · split at h
        · cases h
        · split at h
          next hfits => exact ⟨by simpa using hcontrol, hfits⟩
          · exact absurd h hlast

theorem string?_tripled {quote : Char} {literal : Bool} {text spelled rest : List Char}
    (hquote : (quote, literal) = ('"', false) ∨ (quote, literal) = ('\'', true))
    (h : Spelled quote literal 0 text spelled) (hrest : quote ∉ rest.head?) :
    string? (tripled quote (text.contains '\n') spelled ++ rest) =
      some (String.ofList text, rest) := by
  have hplain : isPlain quote ∧ quote ≠ '\\' := by
    rcases hquote with heq | heq <;> (cases heq; decide)
  generalize hinner : (if text.contains '\n' then ['\n'] else []) ++
    (spelled ++ [quote, quote, quote] ++ rest) = inner
  have htripled : tripled quote (text.contains '\n') spelled ++ rest =
      quote :: quote :: quote :: inner := by
    rw [← hinner]
    simp [tripled]
  have hdrop : dropLineEnd inner = spelled ++ [quote, quote, quote] ++ rest := by
    rw [← hinner]
    unfold dropLineEnd
    split
    next => rfl
    next hline =>
      rw [List.nil_append, h.lineEnd?_eq_none hplain.1 (by simpa using hline)]
      rfl
  have hfuel : spelled.length < inner.length + 1 := by
    rw [← hinner]
    simp only [List.length_append]
    omega
  have hread := h.read hplain.1 hplain.2 (Nat.zero_le 2) hrest hfuel
  rw [← hdrop] at hread
  rw [htripled]
  rcases hquote with heq | heq
  · cases heq
    show (multiline '"' false (inner.length + 1) (dropLineEnd inner)).map _ = _
    rw [hread]
    rfl
  · cases heq
    show (multiline '\'' true (inner.length + 1) (dropLineEnd inner)).map _ = _
    rw [hread]
    rfl

theorem string?_basic {inner : List Char} (h : ∀ more, inner ≠ '"' :: '"' :: more) :
    string? ('"' :: inner) =
      (basic (inner.length + 1) inner).map fun (s, rest) => (String.ofList s, rest) := by
  unfold string?
  dsimp only
  congr 1
  split
  next heq => exact absurd (List.cons.inj heq).2 (h _)
  next heq => cases heq
  next heq => cases heq; rfl
  next heq => cases heq
  next hbasic _ => exact absurd rfl (hbasic _)

theorem string?_literal {inner : List Char} (h : ∀ more, inner ≠ '\'' :: '\'' :: more) :
    string? ('\'' :: inner) =
      (literal inner).map fun (s, rest) => (String.ofList s, rest) := by
  unfold string?
  dsimp only
  congr 1
  split
  next heq => cases heq
  next heq => exact absurd (List.cons.inj heq).2 (h _)
  next heq => cases heq
  next heq => cases heq; rfl
  next hliteral => exact absurd rfl (hliteral _)

/-- A string of one line does not begin like one of several. -/
theorem opening_ne {quote : Char} {spelled rest : List Char} (hspelled : quote ∉ spelled.head?)
    (hrest : quote ∉ rest.head?) (more : List Char) :
    spelled ++ quote :: rest ≠ quote :: quote :: more := by
  intro heq
  cases spelled with
  | nil =>
      obtain ⟨_, rfl⟩ := List.cons.inj heq
      exact hrest rfl
  | cons c spelled =>
      obtain ⟨rfl, _⟩ := List.cons.inj heq
      exact hspelled rfl

theorem head?_escapeLine (text : List Char) : '"' ∉ (escapeLine text).head? := by
  cases text with
  | nil => exact nofun
  | cons c text =>
      have hspells := spells_escapeLine c
      unfold escapeLine
      rw [List.flatMap_cons]
      generalize (if c = '"' then ['\\', '"'] else if c = '\n' then ['\\', 'n'] else escape c) =
        spelled at hspells
      cases hspells with
      | plain _ hquote => simpa using hquote
      | escaped => simp

/-- A string that was written is read back, and what follows is left. -/
theorem string?_encode (s : String) {rest : List Char}
    (hrest : '"' ∉ rest.head? ∧ '\'' ∉ rest.head?) :
    string? ((encode s).toList ++ rest) = some (s, rest) := by
  unfold encode
  dsimp only
  rw [String.toList_ofList]
  cases hstyle : styleOf s.toList with
  | basic =>
      have hopening := opening_ne (head?_escapeLine s.toList) hrest.1
      have hshort : (escapeLine s.toList).length <
          (escapeLine s.toList ++ '"' :: rest).length + 1 := by
        rw [List.length_append]
        omega
      dsimp only
      rw [List.cons_append, List.cons_append, List.append_assoc, List.singleton_append,
        string?_basic hopening, basic_escapeLine hshort, Option.map_some]
      dsimp only
      rw [String.ofList_toList]
  | literal =>
      have hkept := styleOf_literal hstyle
      have hhead : '\'' ∉ s.toList.head? := fun h => (hkept _ (List.mem_of_mem_head? h)).2 rfl
      dsimp only
      rw [List.cons_append, List.cons_append, List.append_assoc, List.singleton_append,
        string?_literal (opening_ne hhead hrest.2), literal_of_plain hkept, Option.map_some]
      dsimp only
      rw [String.ofList_toList]
  | basicLines =>
      have hspelled := spelled_escapeLines s.toList (Nat.zero_le 2)
      dsimp only
      rw [string?_tripled (.inl rfl) hspelled hrest.1, String.ofList_toList]
  | literalLines =>
      obtain ⟨hcontrol, hrun⟩ := styleOf_literalLines hstyle
      dsimp only
      rw [string?_tripled (.inr rfl) (spelled_literal hrun hcontrol) hrest.2, String.ofList_toList]

/-- A written string begins with a quote. -/
theorem encode_eq_cons (s : String) :
    ∃ quote text, (encode s).toList = quote :: text ∧ (quote = '"' ∨ quote = '\'') := by
  unfold encode
  dsimp only
  rw [String.toList_ofList]
  cases styleOf s.toList with
  | basic => exact ⟨_, _, rfl, .inl rfl⟩
  | literal => exact ⟨_, _, rfl, .inr rfl⟩
  | basicLines => exact ⟨_, _, rfl, .inl rfl⟩
  | literalLines => exact ⟨_, _, rfl, .inr rfl⟩

end Cadence.Toml

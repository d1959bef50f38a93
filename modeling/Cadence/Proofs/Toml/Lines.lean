import Cadence.Proofs.Toml.Strings
import Cadence.Toml.Reader

/-! # Documents of plain lines

Most documents are lines of three kinds: headers, names with values, and blank ones, where
names need no quotes and a value ends with its line. Such a document is read line by line,
so what it means is a fold over its lines.
-/

namespace Cadence.Toml

/-! ## Values -/

/-- The spelling of a value that ends with its line. -/
structure Written (spelling : List Char) (x : Toml) : Prop where
  head : ∃ c rest, spelling = c :: rest ∧ isBlank c = false
  read : ∀ fuel depth rest,
    value (fuel + 1) depth (spelling ++ '\n' :: rest) = some (x, '\n' :: rest)

theorem written_string (s : String) : Written (Quoted.encode s).toList (.string s) := by
  obtain ⟨quote, text, hencode, hquote⟩ := encode_eq_cons s
  have hblank : isBlank quote = false := by rcases hquote with rfl | rfl <;> rfl
  refine ⟨⟨quote, text, hencode, hblank⟩, fun fuel depth rest => ?_⟩
  have hread : string? ((Quoted.encode s).toList ++ '\n' :: rest) = some (s, '\n' :: rest) :=
    string?_encode s (by simp)
  rw [hencode] at hread ⊢
  have hvalue : value (fuel + 1) depth (quote :: text ++ '\n' :: rest) =
      (string? (quote :: text ++ '\n' :: rest)).map fun r => (.string r.1, r.2) := by
    rcases hquote with rfl | rfl <;> rfl
  rw [hvalue, hread]
  rfl

/-- A decimal numeral has no zero in front, but it may be one. -/
theorem toDigits_cases (n : Nat) :
    Nat.toDigits 10 n = ['0'] ∨ ∃ c rest, Nat.toDigits 10 n = c :: rest ∧ c ≠ '0' := by
  induction n using Nat.strong_induction_on with
  | _ n ih =>
      rw [Nat.toDigits_eq_if (by decide)]
      split
      next hsmall =>
        have hdigit : ∀ d < 10, Nat.digitChar d = '0' ∨ Nat.digitChar d ≠ '0' := by decide
        rcases hdigit n hsmall with hzero | hother
        · exact .inl (congrArg (fun c => [c]) hzero)
        · exact .inr ⟨_, [], rfl, hother⟩
      next hlarge =>
        right
        rcases ih (n / 10) (by omega) with hzero | ⟨c, rest, hdigits, hother⟩
        · have hn : n / 10 = 0 := by
            have hvalue := congrArg (Nat.ofDigitChars 10 · 0) hzero
            exact Nat.ofDigitChars_ten_toDigits.symm.trans hvalue
          omega
        · exact ⟨c, _, by rw [hdigits]; rfl, hother⟩

section Decimal

variable {n : Nat} {rest : List Char}

/-- The digits of a numeral end with the line. -/
theorem scan_decimal {p : Char → Bool} (hdigit : ∀ c : Char, c.isDigit → p c)
    (hline : p '\n' = false) :
    (Nat.toDigits 10 n ++ '\n' :: rest).takeWhile p = Nat.toDigits 10 n := by
  refine (Text.scan_front (fun c hc => hdigit c (Text.isDigit_of_mem_decimal hc)) ?_).1
  rintro c ⟨⟩
  exact hline

theorem digits?_decimal : digits? Char.isDigit (Nat.toDigits 10 n ++ '\n' :: rest) =
    some (Nat.toDigits 10 n, '\n' :: rest) := by
  have hscan := @scan_decimal n rest (fun c => c.isDigit || c == '_')
    (fun c hc => by simp [hc]) rfl
  have hunderscore : '_' ∉ Nat.toDigits 10 n := Nat.underscore_not_in_toDigits
  have hfilter : (Nat.toDigits 10 n).filter (· ≠ '_') = Nat.toDigits 10 n := by
    rw [List.filter_eq_self]
    intro c hc
    have hother : c ≠ '_' := fun heq => hunderscore (heq ▸ hc)
    simpa using hother
  unfold digits?
  rw [hscan]
  dsimp only
  rw [List.splitOn_eq_singleton hunderscore, hfilter, List.drop_left]
  simp [Nat.toDigits_ne_nil]

theorem whole?_decimal :
    whole? (Nat.toDigits 10 n ++ '\n' :: rest) = some (Nat.toDigits 10 n, '\n' :: rest) := by
  have hdigits : digits? Char.isDigit (Nat.toDigits 10 n ++ '\n' :: rest) = _ := digits?_decimal
  rcases toDigits_cases n with hzero | ⟨c, more, hmore, hother⟩
  · rw [hzero]
    rfl
  · rw [hmore] at hdigits ⊢
    unfold whole?
    split
    next heq => exact absurd (List.cons.inj heq).1 hother
    next => exact hdigits

/-- A numeral begins with a digit. -/
theorem toDigits_eq_cons : ∃ c more, Nat.toDigits 10 n = c :: more ∧ c.isDigit := by
  cases hdigits : Nat.toDigits 10 n with
  | nil => exact absurd hdigits Nat.toDigits_ne_nil
  | cons c more =>
      exact ⟨c, more, rfl, Text.isDigit_of_mem_decimal (hdigits ▸ List.mem_cons_self)⟩

theorem sign_decimal : sign (Nat.toDigits 10 n ++ '\n' :: rest) =
    ([], Nat.toDigits 10 n ++ '\n' :: rest) := by
  obtain ⟨c, more, hmore, hdigit⟩ := toDigits_eq_cons (n := n)
  rw [hmore]
  unfold sign
  split
  next heq => exact absurd ((List.cons.inj heq).1 ▸ hdigit) (by decide)
  next heq => exact absurd ((List.cons.inj heq).1 ▸ hdigit) (by decide)
  next => rfl

theorem float?_decimal : float? (Nat.toDigits 10 n ++ '\n' :: rest) = none := by
  obtain ⟨c, more, hmore, hdigit⟩ := toDigits_eq_cons (n := n)
  have hwhole : whole? (Nat.toDigits 10 n ++ '\n' :: rest) = _ := whole?_decimal
  unfold float?
  rw [sign_decimal]
  dsimp only
  rw [hmore] at hwhole ⊢
  split
  next heq => exact absurd ((List.cons.inj heq).1 ▸ hdigit) (by decide)
  next heq => exact absurd ((List.cons.inj heq).1 ▸ hdigit) (by decide)
  next =>
    rw [hwhole]
    simp [exponent?]

theorem integer?_decimal (hn : n ≤ 9223372036854775807) :
    integer? (Nat.toDigits 10 n ++ '\n' :: rest) = some (.integer n, '\n' :: rest) := by
  have hbase : ∀ mark more, mark ≠ '\n' →
      Nat.toDigits 10 n ++ '\n' :: rest ≠ '0' :: mark :: more := by
    intro mark more hmark heq
    rcases toDigits_cases n with hzero | ⟨c, digits, hdigits, hother⟩
    · rw [hzero] at heq
      exact hmark (List.cons.inj (List.cons.inj heq).2).1.symm
    · rw [hdigits] at heq
      exact hother (List.cons.inj heq).1
  unfold integer?
  split
  next heq => exact absurd heq (hbase _ _ (by decide))
  next heq => exact absurd heq (hbase _ _ (by decide))
  next heq => exact absurd heq (hbase _ _ (by decide))
  next =>
    have hrange : inRange n := by
      simp [inRange]
      omega
    simp [sign_decimal, whole?_decimal, Text.readDigits?_toDigits, hrange]

theorem looksLikeMoment_decimal :
    looksLikeMoment (Nat.toDigits 10 n ++ '\n' :: rest) = false := by
  have hscan : (Nat.toDigits 10 n ++ '\n' :: rest).takeWhile Char.isDigit = Nat.toDigits 10 n :=
    scan_decimal (fun _ hc => hc) rfl
  unfold looksLikeMoment
  rw [hscan]
  dsimp only
  rw [Bool.or_eq_false_iff]
  constructor
  · by_cases hlength : (Nat.toDigits 10 n).length = 4
    · rw [List.drop_left' hlength]
      simp
    · simp [hlength]
  · by_cases hlength : (Nat.toDigits 10 n).length = 2
    · rw [List.drop_left' hlength]
      simp
    · simp [hlength]

end Decimal

theorem written_decimal {n : Nat} (hn : n ≤ 9223372036854775807) :
    Written (Nat.toDigits 10 n) (.integer n) := by
  obtain ⟨c, more, hmore, hdigit⟩ := toDigits_eq_cons (n := n)
  refine ⟨⟨c, more, hmore, ?_⟩, fun fuel depth rest => ?_⟩
  · cases hblank : isBlank c with
    | false => rfl
    | true =>
        simp only [isBlank, Bool.or_eq_true, beq_iff_eq] at hblank
        rcases hblank with rfl | rfl <;> cases hdigit
  · have hnumber : number? (Nat.toDigits 10 n ++ '\n' :: rest) =
        some (.integer n, '\n' :: rest) := by
      unfold number?
      rw [looksLikeMoment_decimal, float?_decimal, integer?_decimal hn]
      rfl
    rw [hmore] at hnumber ⊢
    unfold value
    split
    next heq => exact absurd ((List.cons.inj heq).1 ▸ hdigit) (by decide)
    next heq => exact absurd ((List.cons.inj heq).1 ▸ hdigit) (by decide)
    next heq => exact absurd ((List.cons.inj heq).1 ▸ hdigit) (by decide)
    next heq => exact absurd ((List.cons.inj heq).1 ▸ hdigit) (by decide)
    next heq => exact absurd ((List.cons.inj heq).1 ▸ hdigit) (by decide)
    next heq => exact absurd ((List.cons.inj heq).1 ▸ hdigit) (by decide)
    next => exact hnumber

/-! ## Names -/

/-- A name that needs no quotes. -/
def Bare (name : String) : Prop := name.toList ≠ [] ∧ ∀ c ∈ name.toList, isKeyChar c

instance (name : String) : Decidable (Bare name) :=
  decidable_of_iff (name.toList ≠ [] ∧ name.toList.all isKeyChar) (by simp [Bare])

theorem isKeyChar_cases {c : Char} (h : isKeyChar c) :
    isBlank c = false ∧ c ≠ '"' ∧ c ≠ '\'' ∧ c ≠ '[' ∧ c ≠ '#' ∧ c ≠ '\n' ∧ c ≠ '\r' := by
  refine ⟨?_, ?_⟩
  · cases hblank : isBlank c with
    | false => rfl
    | true =>
        simp only [isBlank, Bool.or_eq_true, beq_iff_eq] at hblank
        rcases hblank with rfl | rfl <;> exact absurd h (by decide)
  · refine ⟨?_, ?_, ?_, ?_, ?_, ?_⟩ <;> (rintro rfl; exact absurd h (by decide))

section Names

variable {name : String} {rest : List Char}

theorem skipBlanks_of_not {c : Char} (h : isBlank c = false) (rest : List Char) :
    skipBlanks (c :: rest) = c :: rest :=
  List.dropWhile_cons_of_neg (by simp [h])

theorem keyPart?_bare (hname : Bare name) (hend : ∀ c ∈ rest.head?, isKeyChar c = false) :
    keyPart? (name.toList ++ rest) = some (name, rest) := by
  have hscan := (Text.scan_front hname.2 hend).1
  have hnonempty : name.toList.isEmpty = false := by simpa using hname.1
  obtain ⟨c, more, hmore⟩ := List.exists_cons_of_ne_nil hname.1
  obtain ⟨_, hquote, hliteral, _⟩ := isKeyChar_cases (hname.2 c (hmore ▸ List.mem_cons_self))
  unfold keyPart?
  split
  next heq => exact absurd (List.cons.inj (hmore ▸ heq)).1 hquote
  next heq => exact absurd (List.cons.inj (hmore ▸ heq)).1 hliteral
  next =>
    rw [hscan]
    dsimp only
    rw [hnonempty, List.drop_left, String.ofList_toList]
    rfl

theorem key?_bare (hname : Bare name) (hend : ∀ c ∈ rest.head?, isKeyChar c = false)
    (hdot : ∀ more, skipBlanks rest ≠ '.' :: more) :
    key? (name.toList ++ rest) = some ([], name, skipBlanks rest) := by
  obtain ⟨c, more, hmore⟩ := List.exists_cons_of_ne_nil hname.1
  have hblank := (isKeyChar_cases (hname.2 c (hmore ▸ List.mem_cons_self))).1
  have hskip : skipBlanks (name.toList ++ rest) = name.toList ++ rest := by
    rw [hmore]
    exact skipBlanks_of_not hblank _
  have hparts : keyParts (78 + 1) (name.toList ++ rest) = some ([name], skipBlanks rest) := by
    unfold keyParts
    rw [hskip, keyPart?_bare hname hend]
    dsimp only [Option.bind_eq_bind, Option.bind_some]
    split
    next heq => exact absurd heq (hdot _)
    next => rfl
  unfold key?
  rw [show depthLimit - 1 = 78 + 1 from rfl, hparts]
  rfl

end Names

/-! ## Lines -/

inductive Line
  | blank
  | header (name : String)
  | pair (name : String) (spelling : List Char) (x : Toml)

namespace Line

def text : Line → List Char
  | blank => []
  | header name => '[' :: name.toList ++ [']']
  | pair name spelling _ => name.toList ++ ' ' :: '=' :: ' ' :: spelling

/-- What a line does to the document so far. -/
def enter (r : Reading) : Line → Option Reading
  | blank => some r
  | header name =>
      (beginTable r.root [] name).map fun root => { root, header := [name] }
  | pair name _ x => (putUnder r.root r.header [] name x).map fun root => { r with root }

/-- Names need no quotes, and values end with the line. -/
def Plain : Line → Prop
  | blank => True
  | header name => Bare name
  | pair name spelling x => Bare name ∧ Written spelling x

theorem line?_header {name : String} (hname : Bare name) (r : Reading) (rest : List Char) :
    line? r ('[' :: (name.toList ++ ']' :: '\n' :: rest)) =
      ((header name).enter r).map fun r => (r, '\n' :: rest) := by
  have hkey : key? (name.toList ++ ']' :: '\n' :: rest) = some ([], name, ']' :: '\n' :: rest) :=
    key?_bare hname (by simp; decide) (by simp [skipBlanks, isBlank])
  obtain ⟨c, more, hmore⟩ := List.exists_cons_of_ne_nil hname.1
  have hbracket := (isKeyChar_cases (hname.2 c (hmore ▸ List.mem_cons_self))).2.2.2.1
  have hline : line? r ('[' :: (name.toList ++ ']' :: '\n' :: rest)) =
      header? r 1 beginTable (name.toList ++ ']' :: '\n' :: rest) := by
    rw [hmore]
    unfold line?
    split
    next heq => exact absurd (List.cons.inj (List.cons.inj heq).2).1 hbracket
    next heq => rw [(List.cons.inj heq).2]
    next hnot => exact absurd rfl (hnot _)
  rw [hline, header?, hkey]
  cases hroot : beginTable r.root [] name <;> simp [closeHeader?, enter, hroot]

theorem line?_pair {name : String} {spelling : List Char} {x : Toml} (hname : Bare name)
    (hwritten : Written spelling x) (r : Reading) (rest : List Char) :
    line? r (name.toList ++ ' ' :: '=' :: ' ' :: (spelling ++ '\n' :: rest)) =
      ((pair name spelling x).enter r).map fun r => (r, '\n' :: rest) := by
  have hkey : key? (name.toList ++ ' ' :: '=' :: ' ' :: (spelling ++ '\n' :: rest)) =
      some ([], name, '=' :: ' ' :: (spelling ++ '\n' :: rest)) :=
    key?_bare hname (by simp; decide) (by simp [skipBlanks, isBlank])
  obtain ⟨first, spelled, hfirst, hblank⟩ := hwritten.head
  have hskip : skipBlanks (' ' :: (spelling ++ '\n' :: rest)) = spelling ++ '\n' :: rest := by
    rw [hfirst]
    exact skipBlanks_of_not hblank _
  obtain ⟨c, more, hmore⟩ := List.exists_cons_of_ne_nil hname.1
  obtain ⟨_, _, _, hbracket, hcomment, hend⟩ :=
    isKeyChar_cases (hname.2 c (hmore ▸ List.mem_cons_self))
  have hline : line? r (name.toList ++ ' ' :: '=' :: ' ' :: (spelling ++ '\n' :: rest)) =
      pair? r (name.toList ++ ' ' :: '=' :: ' ' :: (spelling ++ '\n' :: rest)) := by
    rw [hmore]
    unfold line?
    split
    next heq => exact absurd (List.cons.inj heq).1 hbracket
    next heq => exact absurd (List.cons.inj heq).1 hbracket
    next =>
      rw [if_neg]
      simp [hcomment, lineEnd?_eq_none hend]
  rw [hline, pair?, hkey]
  cases hroot : putUnder r.root r.header [] name x <;>
    simp [expect?, hskip, hwritten.read, enter, hroot]

theorem line?_text {l : Line} (h : l.Plain) (r : Reading) (rest : List Char) :
    line? r (skipBlanks (l.text ++ '\n' :: rest)) =
      (l.enter r).map fun r => (r, '\n' :: rest) := by
  cases l with
  | blank => rfl
  | header name =>
      have htext : (header name).text ++ '\n' :: rest =
          '[' :: (name.toList ++ ']' :: '\n' :: rest) := by simp [text]
      rw [htext, skipBlanks_of_not rfl, line?_header h]
  | pair name spelling x =>
      have htext : (pair name spelling x).text ++ '\n' :: rest =
          name.toList ++ ' ' :: '=' :: ' ' :: (spelling ++ '\n' :: rest) := by simp [text]
      obtain ⟨c, more, hmore⟩ := List.exists_cons_of_ne_nil h.1.1
      have hblank := (isKeyChar_cases (h.1.2 c (hmore ▸ List.mem_cons_self))).1
      have hskip : skipBlanks (name.toList ++ ' ' :: '=' :: ' ' :: (spelling ++ '\n' :: rest)) =
          name.toList ++ ' ' :: '=' :: ' ' :: (spelling ++ '\n' :: rest) := by
        rw [hmore]
        exact skipBlanks_of_not hblank _
      rw [htext, hskip, line?_pair h.1 h.2]

end Line

/-- The text of a document, each line with its end. -/
def pageText (page : List Line) : List Char := page.flatMap fun l => l.text ++ ['\n']

theorem pageText_cons (l : Line) (page : List Line) :
    pageText (l :: page) = l.text ++ '\n' :: pageText page := by
  simp [pageText]

theorem length_le_pageText (page : List Line) : page.length ≤ (pageText page).length := by
  induction page with
  | nil => exact Nat.le_refl 0
  | cons l page ih =>
      rw [pageText_cons, List.length_append, List.length_cons, List.length_cons]
      omega

theorem lines_pageText {page : List Line} (hplain : ∀ l ∈ page, l.Plain) (r : Reading)
    {fuel : Nat} (hfuel : page.length < fuel) :
    lines fuel r (pageText page) = (page.foldlM Line.enter r).map Reading.root := by
  induction page generalizing r fuel with
  | nil =>
      obtain ⟨fuel, rfl⟩ := Nat.exists_eq_add_one.mpr hfuel
      rfl
  | cons l page ih =>
      obtain ⟨fuel, rfl⟩ := Nat.exists_eq_add_one.mpr (Nat.zero_lt_of_lt hfuel)
      have hnext := fun r => ih (fun x hx => hplain x (List.mem_cons_of_mem l hx)) r
        (Nat.succ_lt_succ_iff.mp hfuel)
      rw [pageText_cons, lines, Line.line?_text (hplain l List.mem_cons_self), List.foldlM_cons]
      cases l.enter r with
      | none => rfl
      | some r => exact hnext r

/-- A document means what its lines do, one after the other. -/
theorem read?_pageText {page : List Line} (hplain : ∀ l ∈ page, l.Plain)
    (hmark : (pageText page).head? ≠ some '\ufeff') :
    read? (String.ofList (pageText page)) =
      (page.foldlM Line.enter {}).map fun r => .table .headed r.root := by
  have hfuel := Nat.lt_succ_of_le (length_le_pageText page)
  have hdrop : dropMark (pageText page) = pageText page := by
    unfold dropMark
    split
    next heq => exact absurd (by rw [heq]; rfl) hmark
    next => rfl
  rw [read?, String.toList_ofList, hdrop, lines_pageText hplain {} hfuel, Option.map_map]
  rfl

end Cadence.Toml

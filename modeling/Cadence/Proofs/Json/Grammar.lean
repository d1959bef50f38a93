import Cadence.Json.Reader
import Cadence.Proofs.Text.Numerals

/-! # The texts of JSON

A value has many texts: blanks may stand between the parts, and a character of a string may
be spelled as itself, by a letter or by one or two code units. The grammar relates a value to
its texts without saying how they are read.
-/

namespace Cadence.Json

/-- The blanks between two parts of a text. -/
def Blank (gap : List Char) : Prop := ∀ c ∈ gap, isBlank c

/-! ## Strings -/

/-- Four hexadecimal digits in either case. -/
def CodeUnit (n : Nat) (digits : List Char) : Prop :=
  digits.length = 4 ∧ Text.readDigits? 16 digits = some n

/-- The letters that stand for a character after a backslash. -/
def shortEscapes : List (Char × Char) :=
  [('"', '"'), ('\\', '\\'), ('/', '/'), ('b', '\x08'), ('f', '\x0c'), ('n', '\n'), ('r', '\r'),
    ('t', '\t')]

/-- The texts between the quotes of a string. A character outside the basic plane takes two
code units, a high one and a low one. -/
inductive Spelled : List Char → List Char → Prop
  | nil : Spelled [] []
  | plain {c : Char} {cs text : List Char} (hcontrol : 32 ≤ c.toNat) (hquote : c ≠ '"')
      (hslash : c ≠ '\\') (h : Spelled cs text) : Spelled (c :: cs) (c :: text)
  | letter {letter c : Char} {cs text : List Char} (hletter : (letter, c) ∈ shortEscapes)
      (h : Spelled cs text) : Spelled (c :: cs) ('\\' :: letter :: text)
  | unit {c : Char} {digits cs text : List Char} (hdigits : CodeUnit c.toNat digits)
      (h : Spelled cs text) : Spelled (c :: cs) ('\\' :: 'u' :: (digits ++ text))
  | pair {c : Char} {high low cs text : List Char} (hwide : 0x10000 ≤ c.toNat)
      (hhigh : CodeUnit (0xD800 + (c.toNat - 0x10000) / 0x400) high)
      (hlow : CodeUnit (0xDC00 + (c.toNat - 0x10000) % 0x400) low) (h : Spelled cs text) :
      Spelled (c :: cs) ('\\' :: 'u' :: (high ++ '\\' :: 'u' :: (low ++ text)))

/-! ## Numbers -/

def Digits (ds : List Char) : Prop := ds ≠ [] ∧ ∀ c ∈ ds, c.isDigit

/-- The digits before the point. -/
inductive Whole : List Char → Prop
  | zero : Whole ['0']
  | digits {ds : List Char} (h : Digits ds) (hlead : ds.head? ≠ some '0') : Whole ds

inductive Fraction : List Char → Prop
  | absent : Fraction []
  | point {ds : List Char} (h : Digits ds) : Fraction ('.' :: ds)

inductive Exponent : List Char → Prop
  | absent : Exponent []
  | power {e : Char} {sign ds : List Char} (he : e = 'e' ∨ e = 'E')
      (hsign : sign = [] ∨ sign = ['+'] ∨ sign = ['-']) (h : Digits ds) :
      Exponent (e :: (sign ++ ds))

inductive Numeral : List Char → Prop
  | mk {sign whole fraction exponent : List Char} (hsign : sign = [] ∨ sign = ['-'])
      (hwhole : Whole whole) (hfraction : Fraction fraction) (hexponent : Exponent exponent) :
      Numeral (sign ++ (whole ++ (fraction ++ exponent)))

/-! ## Values -/

/-- A member of an object and how it is written. -/
structure Part where
  before : List Char
  name : String
  spelled : List Char
  between : List Char
  value : Json
  text : List Char

namespace Part

def member (part : Part) : String × Json := (part.name, part.value)

def written (part : Part) : List Char :=
  part.before ++ '"' :: (part.spelled ++ '"' :: (part.between ++ ':' :: part.text))

/-- The name and the blanks around it are as the grammar has them. -/
structure Formed (part : Part) : Prop where
  before : Blank part.before
  spelled : Spelled part.name.toList part.spelled
  between : Blank part.between

end Part

/-- Texts with a comma between them. -/
def commas (texts : List (List Char)) : List Char := [','].intercalate texts

/-- The texts of a value, with blanks around it. -/
inductive Spells : Json → List Char → Prop
  | null : Spells .null ['n', 'u', 'l', 'l']
  | true : Spells (.bool true) ['t', 'r', 'u', 'e']
  | false : Spells (.bool false) ['f', 'a', 'l', 's', 'e']
  | number {n : List Char} (h : Numeral n) : Spells (.number (String.ofList n)) n
  | string {s : String} {spelled : List Char} (h : Spelled s.toList spelled) :
      Spells (.string s) ('"' :: (spelled ++ ['"']))
  | array {gap : List Char} (hgap : Blank gap) (parts : List (Json × List Char))
      (hparts : ∀ part ∈ parts, Spells part.1 part.2) :
      Spells (.array (parts.map Prod.fst)) ('[' :: (gap ++ (commas (parts.map Prod.snd) ++ [']'])))
  | object {gap : List Char} (hgap : Blank gap) (parts : List Part)
      (hnames : ∀ part ∈ parts, part.Formed)
      (hparts : ∀ part ∈ parts, Spells part.value part.text) :
      Spells (.object (parts.map Part.member))
        ('\x7b' :: (gap ++ (commas (parts.map Part.written) ++ ['\x7d'])))
  | padded {x : Json} {front text back : List Char} (hfront : Blank front) (h : Spells x text)
      (hback : Blank back) : Spells x (front ++ (text ++ back))

/-! ## The compact text -/

theorem codeUnit_hexPadded {n : Nat} (hn : n < 0x10000) : CodeUnit n (Text.hexPadded 4 n) := by
  have hdigits : (Text.hexPadded 4 n).map id = Text.hexPadded 4 n := List.map_id _
  exact ⟨Text.hexPadded_length 4 n,
    hdigits ▸ Text.readDigits?_hexPadded Text.hexValue?_digitChar hn⟩

theorem Spelled.escape (c : Char) {cs text : List Char} (h : Spelled cs text) :
    Spelled (c :: cs) (escape c ++ text) := by
  unfold Json.escape
  split
  next => exact h.letter (by decide)
  next => exact h.letter (by decide)
  next => exact h.letter (by decide)
  next => exact h.letter (by decide)
  next => exact h.letter (by decide)
  next => exact h.letter (by decide)
  next => exact h.letter (by decide)
  next hquote hslash _ _ _ _ _ =>
    split
    next hcontrol => exact h.unit (codeUnit_hexPadded (by omega))
    next hcontrol => exact h.plain (by omega) hquote hslash

theorem spelled_escape (cs : List Char) : Spelled cs (cs.flatMap escape) := by
  induction cs with
  | nil => exact .nil
  | cons c cs ih => exact ih.escape c

theorem toList_quote (s : String) :
    (quote s).toList = '"' :: (s.toList.flatMap escape ++ ['"']) := by
  simp [quote, String.toList_append]

theorem spells_string (s : String) : Spells (.string s) (render (.string s)).toList := by
  unfold render
  rw [toList_quote]
  exact .string (spelled_escape s.toList)

theorem spells_bool (b : Bool) : Spells (.bool b) (render (.bool b)).toList := by
  cases b with
  | false => exact .false
  | true => exact .true

/-- A name and a value with its text, and no blanks around the name. -/
def Part.tight (p : String × Json × List Char) : Part where
  before := []
  name := p.1
  spelled := p.1.toList.flatMap escape
  between := []
  value := p.2.1
  text := p.2.2

theorem Part.tight_formed (p : String × Json × List Char) : (Part.tight p).Formed :=
  ⟨List.forall_mem_nil _, spelled_escape p.1.toList, List.forall_mem_nil _⟩

theorem spells_tight (parts : List (String × Json × List Char))
    (h : ∀ p ∈ parts, Spells p.2.1 p.2.2) :
    Spells (.object (parts.map fun p => (p.1, p.2.1)))
      ('\x7b' :: (commas (parts.map fun p => (Part.tight p).written) ++ ['\x7d'])) := by
  have hspells := Spells.object (List.forall_mem_nil _) (parts.map Part.tight)
    (List.forall_mem_map.mpr fun p _ => Part.tight_formed p) (List.forall_mem_map.mpr h)
  rwa [List.map_map, List.map_map, List.nil_append] at hspells

theorem renderMembers_eq (members : List (String × Json)) :
    (renderMembers members).map String.toList =
      members.map fun m => (Part.tight (m.1, m.2, m.2.render.toList)).written := by
  induction members with
  | nil => rfl
  | cons m rest ih =>
      have hfirst : (quote m.1 ++ ":" ++ m.2.render).toList =
          (Part.tight (m.1, m.2, m.2.render.toList)).written := by
        simp [Part.tight, Part.written, toList_quote]
      simp only [renderMembers, List.map_cons, hfirst, ih]

theorem spells_object {members : List (String × Json)}
    (h : ∀ m ∈ members, Spells m.2 m.2.render.toList) :
    Spells (.object members) (render (.object members)).toList := by
  have hspells := spells_tight (members.map fun m => (m.1, m.2, m.2.render.toList))
    (List.forall_mem_map.mpr h)
  simpa [render, commas, String.toList_intercalate, renderMembers_eq, Function.comp_def]
    using hspells

end Cadence.Json

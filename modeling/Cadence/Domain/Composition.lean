import Cadence.Domain.ClassTables
import Cadence.Domain.CompositionTable
import Cadence.Text.Rows

/-!
# Composed form

The composed form of a text: every character is taken apart, the marks after a
base are ordered by their classes, and what can be put together again is. Two
texts that differ only in how their marks are written have one composed form.
-/

namespace Cadence.Domain

open Text (Row unpack hexField packedRows rowOf? labelOf)

/-- A character that stands for a pair of others. -/
structure Composition where
  whole : Nat
  first : Nat
  second : Nat

/-- Unpacks compositions that start at `start` or later. -/
def unpackCompositions (start : Nat) : List String → List Composition
  | [] => []
  | row :: rest =>
      match row.splitOn "," with
      | [gap, first, second] =>
          let whole := start + hexField 0 gap
          ⟨whole, hexField 0 first, hexField 0 second⟩ :: unpackCompositions (whole + 1) rest
      | _ => unpackCompositions start rest

def compositions : List Composition := unpackCompositions 0 (packedRows compositionRows)

def combiningTable : List Row := unpack combiningRows

/-- The combining class of a character; zero marks a base. -/
def combiningClass (c : Nat) : Nat :=
  (Text.readDigits? 10 (labelOf combiningTable (Char.ofNat c)).toList).getD 0

/-- The first syllable block, and how many vowels, endings and syllables there are. -/
def syllableBase : Nat := 0xAC00
@[inherit_doc syllableBase] def vowelCount : Nat := 21
@[inherit_doc syllableBase] def endingCount : Nat := 28
@[inherit_doc syllableBase] def syllableCount : Nat := 11172

/-- The letters of a syllable block. -/
def lettersOf? (c : Nat) : Option (List Nat) :=
  if syllableBase ≤ c ∧ c < syllableBase + syllableCount then
    let k := c - syllableBase
    let ending := k % endingCount
    some ([0x1100 + k / (vowelCount * endingCount),
      0x1161 + k % (vowelCount * endingCount) / endingCount]
      ++ if ending = 0 then [] else [0x11A7 + ending])
  else none

/-- The syllable block of two letters, or of a block without ending and an ending. -/
def syllable? (a b : Nat) : Option Nat :=
  if 0x1100 ≤ a ∧ a < 0x1113 ∧ 0x1161 ≤ b ∧ b < 0x1161 + vowelCount then
    some (syllableBase + ((a - 0x1100) * vowelCount + (b - 0x1161)) * endingCount)
  else if syllableBase ≤ a ∧ a < syllableBase + syllableCount ∧
      (a - syllableBase) % endingCount = 0 ∧ 0x11A7 < b ∧ b < 0x11A7 + endingCount then
    some (a + (b - 0x11A7))
  else none

/-- How often a composition may be taken apart again. -/
def compositionDepth : Nat := 4

def decompose : Nat → Nat → List Nat
  | 0, c => [c]
  | depth + 1, c =>
      match lettersOf? c with
      | some letters => letters
      | none =>
          match compositions.find? (·.whole = c) with
          | some p => decompose depth p.first ++ [p.second]
          | none => [c]

/-- Puts a mark in front of the marks of higher classes that end the text. -/
def insertMark (c k : Nat) : List Nat → List Nat
  | [] => [c]
  | x :: before =>
      if k < combiningClass x then x :: insertMark c k before else c :: x :: before

/-- Orders marks; `done` is the text before them, last character first. -/
def orderMarks (done : List Nat) : List Nat → List Nat
  | [] => done.reverse
  | c :: rest =>
      let k := combiningClass c
      orderMarks (if k = 0 then c :: done else insertMark c k done) rest

/-- The character that two make together. -/
def composite? (a b : Nat) : Option Nat :=
  match syllable? a b with
  | some c => some c
  | none => (compositions.find? fun p => p.first = a ∧ p.second = b).map (·.whole)

/-- A text that is put together: what is finished, the last base, and the marks
after it that stayed, both last character first. -/
structure Composing where
  finished : List Nat := []
  base : Option Nat := none
  marks : List Nat := []

/-- Takes in one more character. It joins the base unless a mark that stayed
stands in between with the same class or a higher one. -/
def Composing.take (s : Composing) (c : Nat) : Composing :=
  let k := combiningClass c
  let blocked := match s.marks with
    | [] => false
    | m :: _ => k ≤ combiningClass m
  let joined := if blocked then none else s.base.bind (composite? · c)
  match joined with
  | some whole => { s with base := some whole }
  | none =>
      if k = 0 then
        { finished := s.marks ++ s.base.toList ++ s.finished, base := some c, marks := [] }
      else { s with marks := c :: s.marks }

def compose (text : List Char) : List Char :=
  let ordered := orderMarks [] (text.flatMap fun c => decompose compositionDepth c.toNat)
  let s := ordered.foldl Composing.take {}
  (s.marks ++ s.base.toList ++ s.finished).reverse.map Char.ofNat

end Cadence.Domain

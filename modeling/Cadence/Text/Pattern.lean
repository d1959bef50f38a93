import Cadence.Text.Blank
import Cadence.Text.Letters

/-!
# Patterns

Regular expressions over characters. A text is matched from the first place at
which anything matches, and from there to its end.
-/

namespace Cadence.Text

/-- A set of characters: some ranges and classes, or all but those. -/
structure CharSet where
  negated : Bool := false
  ranges : List (Char × Char) := []
  classes : List (Char → Bool) := []

def CharSet.contains (s : CharSet) (c : Char) : Bool :=
  let listed := s.ranges.any (fun (low, high) => low ≤ c && c ≤ high) || s.classes.any (· c)
  listed != s.negated

inductive Pattern
  | never
  | nothing
  | one (set : CharSet)
  | either (a b : Pattern)
  | followedBy (a b : Pattern)
  | repeated (a : Pattern)

namespace Pattern

/-- Whether the empty text matches. -/
def takesNothing : Pattern → Bool
  | never | one _ => false
  | nothing | repeated _ => true
  | either a b => a.takesNothing || b.takesNothing
  | followedBy a b => a.takesNothing && b.takesNothing

/-- What the text after `c` has to match for the whole to match. -/
def after (c : Char) : Pattern → Pattern
  | never | nothing => never
  | one set => if set.contains c then nothing else never
  | either a b => .either (a.after c) (b.after c)
  | followedBy a b =>
      let first := Pattern.followedBy (a.after c) b
      if a.takesNothing then .either first (b.after c) else first
  | repeated a => .followedBy (a.after c) (.repeated a)

/-- Whether a text matches as a whole. -/
def takes (p : Pattern) : List Char → Bool
  | [] => p.takesNothing
  | c :: rest => (p.after c).takes rest

/-- Whether some beginning of a text matches. -/
def takesPart (p : Pattern) : List Char → Bool
  | [] => p.takesNothing
  | c :: rest => p.takesNothing || (p.after c).takesPart rest

/-- Whether a text matches from the first place at which anything does to its end. -/
def finds (p : Pattern) : List Char → Bool
  | [] => p.takesNothing
  | c :: rest => if p.takesPart (c :: rest) then p.takes (c :: rest) else p.finds rest

/-- The class of an escape. -/
def classOf? : Char → Option CharSet
  | 'd' => some { ranges := [('0', '9')] }
  | 'D' => some { negated := true, ranges := [('0', '9')] }
  | 's' => some { classes := [isBlank] }
  | 'S' => some { negated := true, classes := [isBlank] }
  | 'w' => some { ranges := [('_', '_')], classes := [isLetterOrNumber] }
  | 'W' => some { negated := true, ranges := [('_', '_')], classes := [isLetterOrNumber] }
  | 'n' => some { ranges := [('\n', '\n')] }
  | 't' => some { ranges := [('\t', '\t')] }
  | 'r' => some { ranges := [('\r', '\r')] }
  | c => if c.isAlphanum then none else some { ranges := [(c, c)] }

/-- Reads a set up to its closing bracket. -/
def readSet (set : CharSet) : List Char → Option (CharSet × List Char)
  | [] => none
  | ']' :: rest => some (set, rest)
  | '\\' :: c :: rest => do
      let s ← classOf? c
      if s.negated then none
      readSet
        { set with ranges := set.ranges ++ s.ranges, classes := set.classes ++ s.classes } rest
  | a :: '-' :: ']' :: rest =>
      some ({ set with ranges := set.ranges ++ [(a, a), ('-', '-')] }, rest)
  | a :: '-' :: b :: rest =>
      if a ≤ b then readSet { set with ranges := set.ranges ++ [(a, b)] } rest else none
  | a :: rest => readSet { set with ranges := set.ranges ++ [(a, a)] } rest

/-- Puts a repetition mark onto a pattern; a lazy one takes the same texts. -/
def withMark (p : Pattern) : List Char → Pattern × List Char
  | '*' :: '?' :: rest | '*' :: rest => (.repeated p, rest)
  | '+' :: '?' :: rest | '+' :: rest => (.followedBy p (.repeated p), rest)
  | '?' :: '?' :: rest | '?' :: rest => (.either p .nothing, rest)
  | rest => (p, rest)

mutual

/-- Reads alternatives up to the end or a closing parenthesis. -/
def alternatives : Nat → List Char → Option (Pattern × List Char)
  | 0, _ => none
  | fuel + 1, text => do
      let (p, rest) ← sequence fuel text
      match rest with
      | '|' :: rest => do
          let (q, rest) ← alternatives fuel rest
          return (.either p q, rest)
      | _ => return (p, rest)

/-- Reads what stands side by side. -/
def sequence : Nat → List Char → Option (Pattern × List Char)
  | 0, _ => none
  | fuel + 1, text =>
      match text with
      | [] => some (.nothing, [])
      | '|' :: _ | ')' :: _ => some (.nothing, text)
      | _ => do
          let (p, rest) ← single fuel text
          let (p, rest) := withMark p rest
          let (q, rest) ← sequence fuel rest
          return (.followedBy p q, rest)

/-- Reads one character, set or group. -/
def single : Nat → List Char → Option (Pattern × List Char)
  | 0, _ => none
  | fuel + 1, text =>
      match text with
      | '(' :: rest => do
          let rest := match rest with
            | '?' :: ':' :: rest => rest
            | _ => rest
          let (p, rest) ← alternatives fuel rest
          match rest with
          | ')' :: rest => return (p, rest)
          | _ => none
      | '[' :: '^' :: rest =>
          (readSet { negated := true } rest).map fun (s, rest) => (.one s, rest)
      | '[' :: rest => (readSet {} rest).map fun (s, rest) => (.one s, rest)
      | '.' :: rest => some (.one { negated := true, ranges := [('\n', '\n')] }, rest)
      | '\\' :: c :: rest => (classOf? c).map fun s => (.one s, rest)
      | c :: rest =>
          if "*+?\x7b\\^$".toList.contains c then none
          else some (.one { ranges := [(c, c)] }, rest)
      | [] => none

end

/-- Reads a pattern. -/
def read? (text : List Char) : Option Pattern :=
  match alternatives (3 * text.length + 3) text with
  | some (p, []) => some p
  | _ => none

end Pattern

end Cadence.Text

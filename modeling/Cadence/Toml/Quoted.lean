import Cadence.Text.Decimal

/-!
# Strings of TOML

How a string is written: in the first of four styles that can hold it as it is, or
else in a basic style with escapes. The basic styles always write tabs as escapes.
-/

namespace Cadence.Toml.Quoted

/-- Whether a character can stand in no plain style. -/
def isControl (c : Char) : Bool := (c.toNat < 32 && c != '\t' && c != '\n') || c.toNat == 127

/-- The longest run of a character. -/
def longestRun (quote : Char) (run : Nat) : List Char → Nat
  | [] => run
  | c :: rest => if c = quote then max (run + 1) (longestRun quote (run + 1) rest)
      else max run (longestRun quote 0 rest)

/-- One character inside a string with escapes; line ends and quotes aside. -/
def escape (c : Char) : List Char :=
  match c with
  | '\x08' => ['\\', 'b']
  | '\t' => ['\\', 't']
  | '\x0c' => ['\\', 'f']
  | '\r' => ['\\', 'r']
  | '\\' => ['\\', '\\']
  | c =>
      if isControl c then ['\\', 'u'] ++ (Text.hexPadded 4 c.toNat).map Char.toUpper else [c]

def escapeLine (text : List Char) : List Char :=
  text.flatMap fun c =>
    if c = '"' then ['\\', '"'] else if c = '\n' then ['\\', 'n'] else escape c

/-- The inside of a string of several lines: every third quote of a run is escaped. -/
def escapeLines (run : Nat) : List Char → List Char
  | [] => []
  | c :: rest =>
      if c = '"' then
        if run = 2 then '\\' :: '"' :: escapeLines 0 rest else '"' :: escapeLines (run + 1) rest
      else (if c = '\n' then [c] else escape c) ++ escapeLines 0 rest

/-- The text between three quotes each; a text of several lines begins on a line of
its own. -/
def tripled (quote : Char) (multiline : Bool) (text : List Char) : List Char :=
  let quotes := [quote, quote, quote]
  quotes ++ (if multiline then ['\n'] else []) ++ text ++ quotes

/-- The styles of a string: basic ones have escapes, and two may have several lines. -/
inductive Style
  | basic | literal | basicLines | literalLines
deriving DecidableEq

/-- The first style that fits a text. A basic style that needs escapes for more than
tabs comes last. -/
def styleOf (text : List Char) : Style :=
  let multiline := text.contains '\n'
  let last : Style := if multiline then .basicLines else .basic
  if text.any isControl then last
  else if !multiline && !text.contains '\\' && !text.contains '"' then .basic
  else if !multiline && !text.contains '\'' then .literal
  else if !text.contains '\\' && longestRun '"' 0 text < 3 then .basicLines
  else if longestRun '\'' 0 text < 3 then .literalLines
  else last

/-- The written form of a string. -/
def encode (s : String) : String :=
  let text := s.toList
  let multiline := text.contains '\n'
  String.ofList <| match styleOf text with
    | .basic => '"' :: escapeLine text ++ ['"']
    | .literal => '\'' :: text ++ ['\'']
    | .basicLines => tripled '"' multiline (escapeLines 0 text)
    | .literalLines => tripled '\'' multiline text

end Cadence.Toml.Quoted

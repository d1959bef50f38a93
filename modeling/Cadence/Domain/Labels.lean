import Cadence.Domain.Composition
import Cadence.Domain.Mapping
import Cadence.Domain.Punycode

/-!
# Domain names

A name in any script becomes a name in ASCII. The name is mapped and composed;
then each label that is not ASCII, or stands for one that is not, has to be
sound: made of plain characters, not beginning with a mark, with joiners only
where they join, and with letters of one direction in order. A label that is not
ASCII is written in Punycode.
-/

namespace Cadence.Domain

open Text (Row unpack hexField packedRows rowOf? labelOf)

def markTable : List Row := unpack markRows

def directionTable : List Row := unpack directionRows

def joiningTable : List Row := unpack joiningRows

/-- The ways in which a character is written into a line. -/
inductive Direction
  | left | right | arabicNumber | number | neutral | mark | other
deriving DecidableEq

def direction (c : Char) : Direction :=
  match labelOf directionTable c with
  | "r" => .right
  | "a" => .arabicNumber
  | "e" => .number
  | "n" => .neutral
  | "m" => .mark
  | "x" => .other
  | _ => .left

/-- Whether a name with these characters has to keep the order of directions. -/
def hasDirection (name : List Char) : Bool :=
  name.any fun c => direction c = .right ∨ direction c = .arabicNumber

/-- Whether the characters of a label keep the order of directions: a label runs
one way, begins with a letter and ends with a letter or a number, marks aside. -/
def inOrder (label : List Char) : Bool :=
  let ds := label.map direction
  let last := (ds.reverse.dropWhile (· = .mark)).head?
  match ds with
  | [] => true
  | .right :: _ =>
      ds.all (fun d => d ≠ .left ∧ d ≠ .other)
        && (last = some .right || last = some .number || last = some .arabicNumber)
        && !(ds.contains .number && ds.contains .arabicNumber)
  | .left :: _ =>
      ds.all (fun d => d = .left ∨ d = .number ∨ d = .neutral ∨ d = .mark)
        && (last = some .left || last = some .number)
  | _ => false

/-- Whether marks of a cursive letter stand before a joiner, nearest first. -/
def joinsAfter (before : List Char) : Bool :=
  match (before.map (labelOf joiningTable)).dropWhile (· = "T") with
  | joining :: _ => joining = "L" ∨ joining = "D"
  | [] => false

/-- Whether a cursive letter follows a joiner, marks aside. -/
def joinsBefore (after : List Char) : Bool :=
  match (after.map (labelOf joiningTable)).dropWhile (· = "T") with
  | joining :: _ => joining = "R" ∨ joining = "D"
  | [] => false

/-- Whether a character silences the vowel of the letter before it. -/
def isVirama (c : Char) : Bool := combiningClass c.toNat = 9

/-- Whether each joiner joins; `before` is what stands before, nearest first. -/
def joinersJoin (before : List Char) : List Char → Bool
  | [] => true
  | c :: rest =>
      let joins :=
        if c = '\u200d' then (before.head?.map isVirama).getD false
        else if c = '\u200c' then
          (before.head?.map isVirama).getD false || (joinsAfter before && joinsBefore rest)
        else true
      joins && joinersJoin (c :: before) rest

def isAscii (text : List Char) : Bool := text.all (·.toNat < 128)

/-- The mark of a label that stands for another. -/
def aceMark : List Char := ['x', 'n', '-', '-']

/-- Whether a label that is not ASCII is sound. -/
def isSound (label : List Char) : Bool :=
  label.all isPlain
    && compose label == label
    && !((label.head?.map fun c => (rowOf? markTable c).isSome).getD false)
    && !aceMark.isPrefixOf label
    && joinersJoin [] label

/-- The longest label that is written in Punycode, and the longest that is read. -/
def longestWritten : Nat := 1000
@[inherit_doc longestWritten] def longestRead : Nat := 2000

/-- The label that a label in ASCII stands for; any other label stands for itself. -/
def resolveLabel? (label : List Char) : Option (List Char) :=
  if aceMark.isPrefixOf label ∧ isAscii label then
    let written := label.drop 4
    if longestRead < written.length then none
    else (Punycode.decode? written).filter fun l => !isAscii l
  else some label

/-- The characters that no host holds. -/
def isForbidden (c : Char) : Bool :=
  c.toNat ≤ 32 || c.toNat == 127 || "#%/:<>?@[\\]^|".toList.contains c

/-- The ASCII form of a sound label. -/
def writeLabel? (label : List Char) : Option (List Char) :=
  if isAscii label then some label
  else if longestWritten < label.length then none
  else some (aceMark ++ Punycode.encode label)

/-- The ASCII form of a name. -/
def toAscii? (name : List Char) : Option (List Char) := do
  let labels := (compose (← mapName? name)).splitOn '.'
  let resolved ← labels.mapM resolveLabel?
  let directed := hasDirection resolved.flatten
  if resolved.any (fun l => !isAscii l && !isSound l) then none
  else if directed && resolved.any (fun l => !inOrder l) then none
  else
    let written ← resolved.mapM writeLabel?
    let text := List.intercalate ['.'] written
    if text.any isForbidden then none else some text

end Cadence.Domain

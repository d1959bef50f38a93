import Cadence.Domain.Labels
import Cadence.Origin
import Cadence.Url.Basic
import Cadence.Url.Percent

/-!
# Reading URLs

A URL is read from the left: scheme, authority, path, query and fragment. URLs of
network schemes and files have a host of their own kind, take a backslash for a
slash, and always have a path; those of other schemes are taken as they are.
-/

namespace Cadence.Url

/-- Why a text is no URL. -/
inductive Error
  | noScheme
  | emptyHost
  | badPort
  | badIpv4
  | badIpv6
  | badName
  | badHostCharacter
deriving DecidableEq

def Error.message : Error → String
  | noScheme => "relative URL without a base"
  | emptyHost => "empty host"
  | badPort => "invalid port number"
  | badIpv4 => "invalid IPv4 address"
  | badIpv6 => "invalid IPv6 address"
  | badName => "invalid international domain name"
  | badHostCharacter => "invalid domain character"

/-- The kinds of schemes. -/
inductive Kind
  | network | file | other
deriving DecidableEq

def kindOf (scheme : String) : Kind :=
  if scheme = "file" then .file
  else if (defaultPort? scheme).isSome then .network
  else .other

/-- Whether a backslash counts as a slash. -/
def Kind.isSpecial (k : Kind) : Bool := k ≠ .other

/-- Whether a character divides the names of a path. -/
def isSlash (special : Bool) (c : Char) : Bool := c == '/' || (special && c == '\\')

def endsPath (c : Char) : Bool := c == '?' || c == '#'

/-- Whether a character ends the authority. -/
def endsAuthority (special : Bool) (c : Char) : Bool := isSlash special c || endsPath c

/-- Whether a letter begins a scheme. -/
def isLetter (c : Char) : Bool := c.isAlpha

/-- Reads the scheme up to its colon. -/
def readScheme? (text : List Char) : Option (String × List Char) :=
  let name := text.takeWhile fun c => c.isAlphanum || c == '+' || c == '-' || c == '.'
  match name, text.drop name.length with
  | first :: _, ':' :: rest =>
      if isLetter first then some (String.ofList (name.map Char.toLower), rest) else none
  | _, _ => none

def readBracketed (text : List Char) : Except Error Host :=
  let inner := text.drop 1
  if inner.getLast? = some ']' then
    match Ipv6.read? inner.dropLast with
    | some pieces => .ok (.ipv6 pieces)
    | none => .error .badIpv6
  else .error .badIpv6

def readHost (text : List Char) : Except Error Host :=
  if text.head? = some '[' then readBracketed text
  else
    match (Percent.decode? text).bind Domain.toAscii? with
    | none => .error .badName
    | some name =>
        if name.isEmpty then .error .emptyHost
        else if Ipv4.endsInNumber name then
          match Ipv4.read? name with
          | some address => .ok (.ipv4 address)
          | none => .error .badIpv4
        else .ok (.domain (String.ofList name))

/-- The characters that a host of another scheme must not hold. -/
def refusedInHost (c : Char) : Bool := "\x00\t\n\r #/:<>?@[\\]^|".toList.contains c

/-- Reads the host of a URL of another scheme, which may be empty. -/
def readOtherHost (text : List Char) : Except Error (Option Host) :=
  if text.head? = some '[' then (readBracketed text).map some
  else if text.any refusedInHost then .error .badHostCharacter
  else if text.isEmpty then .ok none
  else .ok (some (.domain (Percent.encode Percent.controls text)))

/-- Takes the host off the text, up to a colon outside of brackets. -/
def splitHost (special bracketed : Bool) : List Char → List Char × List Char
  | [] => ([], [])
  | c :: rest =>
      if (c == ':' && !bracketed) || endsAuthority special c then ([], c :: rest)
      else
        let bracketed := if c == '[' then true else if c == ']' then false else bracketed
        let (host, rest) := splitHost special bracketed rest
        (c :: host, rest)

/-- Reads the port after its colon; the port that the scheme implies is left out. -/
def readPort (scheme : String) (text : List Char) : Except Error (Option Nat × List Char) :=
  let (digits, rest) := text.span Char.isDigit
  if rest.head?.any fun c => !endsAuthority true c then .error .badPort
  else
    match Text.readDigits? 10 digits with
    | none => .ok (none, rest)
    | some port =>
        if 65535 < port then .error .badPort
        else .ok (if defaultPort? scheme = some port then none else some port, rest)

/-- Takes the user's name and password off the text, up to the last at sign of
the authority. -/
def readCredentials (special : Bool) (text : List Char) :
    Except Error (String × String × List Char) :=
  let authority := text.takeWhile (!endsAuthority special ·)
  if '@' ∈ authority then
    let host := (authority.reverse.takeWhile (· ≠ '@')).reverse
    let credentials := authority.take (authority.length - host.length - 1)
    let rest := text.drop (authority.length - host.length)
    if credentials.isEmpty then
      if rest.head?.any (endsAuthority special) then .error .emptyHost else .ok ("", "", rest)
    else
      let name := credentials.takeWhile (· ≠ ':')
      let password := credentials.drop (name.length + 1)
      .ok (Percent.encode Percent.credentialSet name,
        Percent.encode Percent.credentialSet password, rest)
  else .ok ("", "", text)

/-- Reads the authority after its two slashes. -/
def readAuthority (scheme : String) (kind : Kind) (text : List Char) :
    Except Error (Authority × List Char) := do
  let (username, password, text) ← readCredentials kind.isSpecial text
  let (name, text) := splitHost kind.isSpecial false text
  let host ←
    if kind = .other then readOtherHost name
    else if name.isEmpty then .error .emptyHost
    else (readHost name).map some
  if host.isNone ∧ text.head? = some ':' then .error .emptyHost
  let (port, text) ← match text with
    | ':' :: rest => readPort scheme rest
    | _ => .ok (none, text)
  let authority : Authority := { username, password, host, port }
  if host.isNone ∧ authority.credentials ≠ "" then .error .emptyHost
  return (authority, text)

/-- Whether a name is a drive letter: a letter and a colon or a bar. -/
def isDrive : List Char → Bool
  | [letter, mark] => isLetter letter && (mark == ':' || mark == '|')
  | _ => false

/-- A name with its encoded dots taken back. -/
def plainDots : List Char → List Char
  | '%' :: '2' :: 'e' :: rest | '%' :: '2' :: 'E' :: rest => '.' :: plainDots rest
  | c :: rest => c :: plainDots rest
  | [] => []

/-- Goes up one name; a drive letter stays. -/
def goUp (names : List (List Char)) : List (List Char) :=
  match names.getLast? with
  | some last => if isDrive last then names else names.dropLast
  | none => []

/-- The names of a path and whether one of them was a drive letter of a file. -/
structure Climb where
  names : List (List Char) := []
  drive : Bool := false

/-- Takes in one name of a path. One dot stays where it is and two dots go up; a
drive letter at the start of a file's path is a name of its own. -/
def Climb.take (file last : Bool) (p : Climb) (name : List Char) : Climb :=
  let closed (names : List (List Char)) : List (List Char) :=
    if last then names ++ [[]] else names
  if plainDots name = ['.', '.'] then { p with names := closed (goUp p.names) }
  else if plainDots name = ['.'] then { p with names := closed p.names }
  else if file && isDrive name then { names := p.names ++ [name.take 1 ++ [':']], drive := true }
  else
    match file && p.names.isEmpty, name with
    | true, letter :: ':' :: rest =>
        if isLetter letter then { p with names := [[letter, ':'], rest] }
        else { p with names := p.names ++ [name] }
    | _, _ => { p with names := p.names ++ [name] }

/-- Takes in all names of a path. -/
def Climb.takeAll (file : Bool) (p : Climb) : List (List Char) → Climb
  | [] => p
  | [name] => p.take file true name
  | name :: rest => (p.take file false name).takeAll file rest

def splitNames (special : Bool) (text : List Char) : List (List Char) :=
  (text.map fun c => if isSlash special c then '/' else c).splitOn '/'

/-- Reads a path after its first slash. -/
def readNames (kind : Kind) (text : List Char) : Climb × List Char :=
  let (path, rest) := text.span (!endsPath ·)
  let encoded := (splitNames kind.isSpecial path).map fun name =>
    (Percent.encode Percent.pathSet name).toList
  (({} : Climb).takeAll (kind = .file) encoded, rest)

def Climb.path (p : Climb) : Path := .names (p.names.map String.ofList)

/-- The path of a file: empty names in front are left out. -/
def Climb.filePath (p : Climb) : Path :=
  let names := p.names.dropWhile List.isEmpty
  .names ((if names.isEmpty then [[]] else names).map String.ofList)

def readTail (kind : Kind) (text : List Char) : Option String × Option String :=
  let fragmentOf (text : List Char) : Option String := match text with
    | '#' :: rest => some (Percent.encode Percent.fragmentSet rest)
    | _ => none
  match text with
  | '?' :: rest =>
      let (query, rest) := rest.span (· ≠ '#')
      (some (Percent.encode (Percent.querySet kind.isSpecial) query), fragmentOf rest)
  | _ => (none, fragmentOf text)

def dropSlash (special : Bool) : List Char → List Char
  | c :: rest => if isSlash special c then rest else c :: rest
  | [] => []

/-- Reads the rest of a file's URL with an authority given. -/
def finishFile (host : Option Host) (text : List Char) : Url :=
  let (climb, rest) := readNames .file text
  let (query, fragment) := readTail .file rest
  { scheme := "file"
    authority := some { host := if climb.drive then none else host }
    path := climb.filePath
    query
    fragment }

def readFile (text : List Char) : Except Error Url :=
  match text with
  | a :: b :: rest =>
      if isSlash true a && isSlash true b then
        let name := rest.takeWhile (!endsAuthority true ·)
        if isDrive name then .ok (finishFile none rest)
        else if name.isEmpty then .ok (finishFile none (dropSlash true rest))
        else do
          let host ← readHost name
          let path := dropSlash true (rest.drop name.length)
          return finishFile (if host = .domain "localhost" then none else some host) path
      else .ok (finishFile none (dropSlash true text))
  | _ => .ok (finishFile none (dropSlash true text))

/-- Reads a URL with an authority after the two slashes. -/
def readWithAuthority (scheme : String) (kind : Kind) (text : List Char) :
    Except Error Url := do
  let (authority, text) ← readAuthority scheme kind text
  if kind = .other ∧ !(text.head?.any (!endsPath ·)) then
    let (query, fragment) := readTail kind text
    return { scheme, authority := some authority, path := .names [], query, fragment }
  let (climb, rest) := readNames kind (dropSlash kind.isSpecial text)
  let (query, fragment) := readTail kind rest
  return { scheme, authority := some authority, path := climb.path, query, fragment }

def readOther (scheme : String) (text : List Char) : Except Error Url :=
  match text with
  | '/' :: '/' :: rest => readWithAuthority scheme .other rest
  | '/' :: rest =>
      let (climb, rest) := readNames .other rest
      let (query, fragment) := readTail .other rest
      .ok { scheme, path := climb.path, query, fragment }
  | _ =>
      let (path, rest) := text.span (!endsPath ·)
      let (query, fragment) := readTail .other rest
      .ok { scheme, path := .plain (Percent.encode Percent.controls path), query, fragment }

/-- The text without control characters and blanks around it and without tabs and
line ends inside. -/
def cleaned (text : String) : List Char :=
  let blank (c : Char) : Bool := c.toNat ≤ 32
  let trimmed := ((text.toList.dropWhile blank).reverse.dropWhile blank).reverse
  trimmed.filter fun c => !(c == '\t' || c == '\n' || c == '\r')

def read (text : String) : Except Error Url :=
  match readScheme? (cleaned text) with
  | none => .error .noScheme
  | some (scheme, rest) =>
      match kindOf scheme with
      | .file => readFile rest
      | .network => readWithAuthority scheme .network (rest.dropWhile (isSlash true))
      | .other => readOther scheme rest

end Cadence.Url

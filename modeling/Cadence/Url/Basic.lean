import Cadence.Url.Host

/-!
# URLs

A URL in its normal form: a scheme, perhaps an authority, a path, and perhaps a
query and a fragment. Its parts are kept as they are written.
-/

namespace Cadence

/-- Who is asked for a resource. -/
structure Url.Authority where
  username : String := ""
  password : String := ""
  host : Option Url.Host := none
  port : Option Nat := none
deriving DecidableEq

/-- A path: a text of its own, or names that each follow a slash. -/
inductive Url.Path
  | plain (text : String)
  | names (list : List String)
deriving DecidableEq

structure Url where
  scheme : String
  authority : Option Url.Authority := none
  path : Url.Path
  query : Option String := none
  fragment : Option String := none
deriving DecidableEq

namespace Url

def Path.text : Path → String
  | .plain text => text
  | .names list => String.join (list.map ("/" ++ ·))

/-- The user's name and password with what divides them. -/
def Authority.credentials (a : Authority) : String :=
  if a.username = "" ∧ a.password = "" then ""
  else a.username ++ (if a.password = "" then "" else ":" ++ a.password) ++ "@"

def Authority.text (a : Authority) : String :=
  a.credentials ++ (a.host.map Host.text).getD ""
    ++ (a.port.map fun port => ":" ++ Text.decimal port).getD ""

/-- The text of a URL. Without an authority a path must not look like one. -/
def text (u : Url) : String :=
  let path := u.path.text
  let authority := match u.authority with
    | some a => "//" ++ a.text
    | none => if "//".toList.isPrefixOf path.toList then "/." else ""
  u.scheme ++ ":" ++ authority ++ path
    ++ (u.query.map ("?" ++ ·)).getD "" ++ (u.fragment.map ("#" ++ ·)).getD ""

end Url

end Cadence

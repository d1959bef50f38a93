import Cadence.Url.Host

/-!
# Origins

The origin of a URL is its scheme, host and port. Only such triples can own
listeners: an opaque origin equals nothing, not even itself.
-/

namespace Cadence

structure Origin where
  scheme : String
  host : Url.Host
  port : Nat
deriving DecidableEq, Inhabited

/-- The port that a scheme implies. -/
def defaultPort? (scheme : String) : Option Nat :=
  match scheme with
  | "http" | "ws" => some 80
  | "https" | "wss" => some 443
  | "ftp" => some 21
  | _ => none

namespace Origin

/-- The serialisation: the port is left out where the scheme implies it. -/
def text (o : Origin) : String :=
  let host := o.scheme ++ "://" ++ o.host.text
  if defaultPort? o.scheme = some o.port then host
  else host ++ ":" ++ Text.decimal o.port

def describe (o : Origin) : String :=
  "Origin(Tuple(" ++ Text.quoted o.scheme ++ ", " ++ o.host.describe ++ ", "
    ++ Text.decimal o.port ++ "))"

end Origin

end Cadence

import Cadence.Text.Quoted
import Cadence.Url.Ipv6

/-!
# Hosts

A host is a domain name in ASCII or a numeric address. Addresses are compared
and written by their value, names by their text.
-/

namespace Cadence.Url

inductive Host
  | domain (name : String)
  | ipv4 (address : Nat)
  | ipv6 (pieces : List Nat)
deriving DecidableEq, Inhabited

namespace Host

def text : Host → String
  | domain name => name
  | ipv4 address => Ipv4.text address
  | ipv6 pieces => "[" ++ Ipv6.text pieces ++ "]"

def describe : Host → String
  | domain name => "Domain(" ++ Text.quoted name ++ ")"
  | ipv4 address => "Ipv4(" ++ Ipv4.text address ++ ")"
  | ipv6 pieces => "Ipv6(" ++ Ipv6.mixedText pieces ++ ")"

end Host

end Cadence.Url

import Cadence.Json.Document

/-!
# Incidents

The closed set of incidents that a log carries. An incident is written as an
object with a `code`, which names its kind, and `details`.
-/

namespace Cadence

/-- Something that a page was blocked from or warned about. -/
inductive Incident
  /-- A cookie rejected or warned about. -/
  | sameSiteCookie (url cookieName reason : String)
  /-- An insecure resource loaded by a secure document. -/
  | mixedContent (url insecureUrl : String) (blocked : Bool)
  /-- A response blocked by an embedder or resource policy. -/
  | blockedByResponse (url reason : String)
  /-- An advertisement unloaded for the resources it used. -/
  | heavyAd (url resolution reason : String)
  /-- A violation of the content security policy. -/
  | contentSecurityPolicy (url violatedDirective : String) (reportOnly : Bool)
deriving DecidableEq, Inhabited

namespace Incident

/-- The kinds of incidents. -/
inductive Kind
  | sameSiteCookie
  | mixedContent
  | blockedByResponse
  | heavyAd
  | contentSecurityPolicy
deriving DecidableEq

namespace Kind

/-- The name by which a kind is declared. -/
def declared : Kind → String
  | sameSiteCookie => "SameSiteCookie"
  | mixedContent => "MixedContent"
  | blockedByResponse => "BlockedByResponse"
  | heavyAd => "HeavyAd"
  | contentSecurityPolicy => "ContentSecurityPolicy"

/-- The name of a kind in a text: the declared one with a small letter at its front. -/
def tag (kind : Kind) : String :=
  match kind.declared.toList with
  | c :: rest => String.ofList (c.toLower :: rest)
  | [] => ""

def all : List Kind :=
  [sameSiteCookie, mixedContent, blockedByResponse, heavyAd, contentSecurityPolicy]

end Kind

def kind : Incident → Kind
  | sameSiteCookie .. => .sameSiteCookie
  | mixedContent .. => .mixedContent
  | blockedByResponse .. => .blockedByResponse
  | heavyAd .. => .heavyAd
  | contentSecurityPolicy .. => .contentSecurityPolicy

/-- The name of the kind of an incident, as a log shows it. -/
def code : Incident → String
  | sameSiteCookie .. => "sameSiteCookie"
  | mixedContent .. => "mixedContent"
  | blockedByResponse .. => "blockedByResponse"
  | heavyAd .. => "heavyAd"
  | contentSecurityPolicy .. => "contentSecurityPolicy"

def url : Incident → String
  | sameSiteCookie url .. => url
  | mixedContent url .. => url
  | blockedByResponse url .. => url
  | heavyAd url .. => url
  | contentSecurityPolicy url .. => url

def details : Incident → Json
  | sameSiteCookie url cookieName reason =>
      .object [("url", .string url), ("cookieName", .string cookieName), ("reason", .string reason)]
  | mixedContent url insecureUrl blocked =>
      .object [("url", .string url), ("insecureUrl", .string insecureUrl),
        ("blocked", .bool blocked)]
  | blockedByResponse url reason => .object [("url", .string url), ("reason", .string reason)]
  | heavyAd url resolution reason =>
      .object [("url", .string url), ("resolution", .string resolution), ("reason", .string reason)]
  | contentSecurityPolicy url violatedDirective reportOnly =>
      .object [("url", .string url), ("violatedDirective", .string violatedDirective),
        ("reportOnly", .bool reportOnly)]

def toJson (i : Incident) : Json :=
  .object [("code", .string i.kind.tag), ("details", i.details)]

open Document

/-- Reads the details of an incident of a kind. -/
def ofDetails? (kind : Kind) (x : Json) : Option Incident :=
  match kind with
  | .sameSiteCookie => do
      let f ← fields? ["url", "cookieName", "reason"] false x
      return .sameSiteCookie (← required (f "url") string?) (← required (f "cookieName") string?)
        (← required (f "reason") string?)
  | .mixedContent => do
      let f ← fields? ["url", "insecureUrl", "blocked"] false x
      return .mixedContent (← required (f "url") string?) (← required (f "insecureUrl") string?)
        (← required (f "blocked") flag?)
  | .blockedByResponse => do
      let f ← fields? ["url", "reason"] false x
      return .blockedByResponse (← required (f "url") string?) (← required (f "reason") string?)
  | .heavyAd => do
      let f ← fields? ["url", "resolution", "reason"] false x
      return .heavyAd (← required (f "url") string?) (← required (f "resolution") string?)
        (← required (f "reason") string?)
  | .contentSecurityPolicy => do
      let f ← fields? ["url", "violatedDirective", "reportOnly"] false x
      return .contentSecurityPolicy (← required (f "url") string?)
        (← required (f "violatedDirective") string?) (← required (f "reportOnly") flag?)

/-- The levels of nesting that details may have where they are kept until their
code is known. -/
def keptDepth : Nat := 126

/-- Whether the details can be read in their place: details that come before the
code have to be kept. -/
def placed (x : Json) (details : Json) : Bool :=
  match x with
  | .object members =>
      let order := (members.map Prod.fst).filter fun name => name = "code" ∨ name = "details"
      order.head? != some "details" || details.keepable keptDepth
  | _ => true

def ofJson? (x : Json) : Option Incident := do
  let f ← fields? ["code", "details"] false x
  let kind ← required (f "code") (choice? (Kind.all.map fun kind => (kind.tag, kind)))
  let details ← f "details"
  if placed x details then ofDetails? kind details else none

end Incident

end Cadence

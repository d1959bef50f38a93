import Cadence.Failure
import Cadence.Url.Reader

/-!
# Reading origins

The origin of a text is that of the URL it holds. URLs of network schemes have
an origin, and a `blob` URL has that of the URL in its path; all others are
opaque and cannot be used.
-/

namespace Cadence.Origin

/-- The origin of a URL; `depth` bounds how often one stands inside another. -/
def ofUrl? : Nat → Url → Option Origin
  | 0, _ => none
  | depth + 1, url =>
      if url.scheme = "blob" then
        match Url.read url.path.text with
        | .ok inner => ofUrl? depth inner
        | .error _ => none
      else do
        let standard ← defaultPort? url.scheme
        let authority ← url.authority
        let host ← authority.host
        return { scheme := url.scheme, host, port := authority.port.getD standard }

def ofUrl (url : Url) : Except Failure Origin :=
  let text := url.text
  match ofUrl? (text.length + 1) url with
  | some origin => .ok origin
  | none => .error (.badOrigin (text ++ ": opaque origin"))

def read (text : String) : Except Failure Origin :=
  match Url.read text with
  | .ok url => ofUrl url
  | .error cause => .error (.badOrigin (text ++ ": " ++ cause.message))

end Cadence.Origin

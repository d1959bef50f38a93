import Cadence.Text.Decimal

/-!
# Percent encoding

A byte is written as a percent sign and two hexadecimal digits. Which bytes are
written so depends on the place in a URL; bytes above ASCII always are.
-/

namespace Cadence.Url.Percent

/-- A byte in its written form. -/
def escape (byte : UInt8) : List Char :=
  '%' :: (Text.hexPadded 2 byte.toNat).map Char.toUpper

/-- Encodes the characters of a set and all characters above ASCII. -/
def encode (inSet : Char → Bool) (text : List Char) : String :=
  String.ofList <| text.flatMap fun c =>
    if 128 ≤ c.toNat ∨ inSet c then (String.utf8EncodeChar c).flatMap escape else [c]

/-- The bytes of a text whose written bytes are taken back. -/
def bytes : List Char → List UInt8
  | [] => []
  | '%' :: a :: b :: rest =>
      match Text.hexValue? a, Text.hexValue? b with
      | some x, some y => UInt8.ofNat (x * 16 + y) :: bytes rest
      | _, _ => String.utf8EncodeChar '%' ++ bytes (a :: b :: rest)
  | c :: rest => String.utf8EncodeChar c ++ bytes rest

/-- The text of the bytes, if they are one. -/
def decode? (text : List Char) : Option (List Char) :=
  (String.fromUTF8? ⟨(bytes text).toArray⟩).map String.toList

def controls (c : Char) : Bool := c.toNat < 32 || c.toNat == 127

def fragmentSet (c : Char) : Bool := controls c || " \"<>`".toList.contains c

/-- What is encoded in a query; URLs of well-known schemes add the apostrophe. -/
def querySet (special : Bool) (c : Char) : Bool :=
  controls c || " \"#<>".toList.contains c || (special && c == '\'')

def pathSet (c : Char) : Bool := fragmentSet c || "#?\x7b\x7d".toList.contains c

/-- What is encoded in a user's name and password. -/
def credentialSet (c : Char) : Bool := pathSet c || "/:;=@[\\]^|".toList.contains c

end Cadence.Url.Percent

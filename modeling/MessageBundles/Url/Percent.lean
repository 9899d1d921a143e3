import MessageBundles.Text.Digits
import MessageBundles.Text.Utf8

/-
  Percent-encoding — a byte as a percent sign and two hexadecimal digits

  Control characters and all characters past U+007E are encoded everywhere; which others are depends
  on the part of the URL they stand in. Decoding takes every percent sign that two digits follow and
  leaves all else as it is.
-/

namespace MessageBundles.Url

open Text

def percentByte (b : UInt8) : List Char :=
  '%' :: (padded 16 2 b.toNat).map Char.toUpper

/-- A character, encoded if it is a control character, past U+007E, or in the set. -/
def percentChar (inSet : Char → Bool) (c : Char) : List Char :=
  if 0x20 ≤ c.toNat ∧ c.toNat < 0x7F ∧ inSet c = false then [c]
  else (String.utf8EncodeChar c).flatMap percentByte

def percentEncode (inSet : Char → Bool) (cs : List Char) : List Char :=
  cs.flatMap (percentChar inSet)

/-- Encoded in a host or a path that is kept as it is: nothing beyond the common characters. -/
def controlSet (_ : Char) : Bool := false

def fragmentSet (c : Char) : Bool := c ∈ [' ', '\x22', '<', '>', '\x60']

def pathSet (c : Char) : Bool := fragmentSet c || c ∈ ['#', '?', '\x7b', '\x7d']

def userSet (c : Char) : Bool :=
  pathSet c || c ∈ ['/', ':', ';', '=', '@', '[', '\\', ']', '^', '|']

def querySet (c : Char) : Bool := c ∈ [' ', '\x22', '#', '<', '>']

def specialQuerySet (c : Char) : Bool := querySet c || c == '\x27'

def hexByte? (high low : UInt8) : Option UInt8 := do
  let h ← digitValue (Char.ofNat high.toNat)
  let l ← digitValue (Char.ofNat low.toNat)
  some (UInt8.ofNat (h * 16 + l))

/-- Bytes with every percent sign and the two digits behind it replaced by the byte they stand for. -/
def percentDecode : List UInt8 → List UInt8
  | 0x25 :: high :: low :: rest =>
    match hexByte? high low with
    | some b => b :: percentDecode rest
    | none => 0x25 :: percentDecode (high :: low :: rest)
  | b :: rest => b :: percentDecode rest
  | [] => []

end MessageBundles.Url

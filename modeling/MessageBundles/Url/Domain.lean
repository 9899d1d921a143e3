import MessageBundles.Text.Blank
import MessageBundles.Text.Lowercase
import MessageBundles.Text.Pieces
import MessageBundles.Url.Punycode

/-
  Domain names — the form a domain is looked up by

  A domain is a run of labels between dots. Its characters are first mapped: capital letters become
  small, wide forms of ASCII characters become those characters, three other full stops become dots,
  and characters without a width of their own are left out. Some characters have a meaning in a URL or
  none in a domain, and are refused. A label that is not ASCII is then written with Punycode behind
  `xn--`, and a label that is written so already has to stand for one that needs it.

  Correspondence:
    the mapping of a domain in the library `url` (UTS 46) ↔ `mapped`, `domainToAscii?`
  Reduced: no text is brought into a normal form (NFC), of the compatibility mappings there are only
  those above, and the rules for joiners, for marks in front and for texts in both directions are left
  out. A domain past ASCII for which one of these matters has another form in the library, or none.
-/

namespace MessageBundles.Url

open Text

def isRefusedInDomain (c : Char) : Bool :=
  c.toNat ≤ 0x20 || c.toNat == 0x7F ||
    c ∈ ['%', '#', '/', ':', '<', '>', '?', '@', '[', '\\', ']', '^', '|']

/-- Whether a character past ASCII may not stand in a domain: it is a control character, a blank, a
mark of direction or of joining, private, or no character at all. -/
def isUnfitForDomain (c : Char) : Bool :=
  let n := c.toNat
  n < 0xA0 || isBlank c || (0x200B ≤ n && n ≤ 0x200F) || (0x202A ≤ n && n ≤ 0x202E) ||
    (0x2060 ≤ n && n ≤ 0x206F) || (0xE000 ≤ n && n ≤ 0xF8FF) || (0xFDD0 ≤ n && n ≤ 0xFDEF) ||
    (0xFFF9 ≤ n && n ≤ 0xFFFD) || 0xFFFE ≤ n % 0x10000 || 0xE0000 ≤ n

def isLeftOut (c : Char) : Bool :=
  let n := c.toNat
  n == 0xAD || n == 0x34F || (0x180B ≤ n && n ≤ 0x180F) || n == 0x200B || n == 0x2060 ||
    n == 0x2064 || (0xFE00 ≤ n && n ≤ 0xFE0F) || n == 0xFEFF || (0xE0100 ≤ n && n ≤ 0xE01EF)

def mapped (c : Char) : List Char :=
  if c.toNat < 0x80 then [c.toLower]
  else if isLeftOut c then []
  else if c ∈ ['\u3002', '\uFF61'] then ['.']
  else if 0xFF01 ≤ c.toNat ∧ c.toNat ≤ 0xFF5E then [(Char.ofNat (c.toNat - 0xFEE0)).toLower]
  else if c = '\u0130' then ['i', '\u0307']
  else [smallLetter c]

def isLabelPart (c : Char) : Bool :=
  if c.toNat < 0x80 then !isRefusedInDomain c else !isUnfitForDomain c

/-- The start of a label that is written with Punycode. -/
def encodedStart : List Char := ['x', 'n', '-', '-']

/-- Whether a label stands for itself after mapping and may be written with Punycode. -/
def isEncodable (label : List Char) : Bool :=
  label.any (0x80 ≤ ·.toNat) && label.all fun c => isLabelPart c && mapped c == [c]

def labelToAscii? (label : List Char) : Option (List Char) :=
  if !label.all isLabelPart then none
  else if label.any (0x80 ≤ ·.toNat) then some (encodedStart ++ Punycode.encode label)
  else if encodedStart.isPrefixOf label then
    match Punycode.decode? (label.drop encodedStart.length) with
    | none => none
    | some decoded => if isEncodable decoded then some label else none
  else some label

/-- The form of a domain it is looked up by, if there is one. -/
def domainToAscii? (domain : List Char) : Option (List Char) :=
  ((split '.' (domain.flatMap mapped)).mapM labelToAscii?).map (join '.')

end MessageBundles.Url

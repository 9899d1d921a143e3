/-
  White space — the property the lines of a bundle are trimmed by

  A character is blank when it has the Unicode property White_Space: 25 code points, seven of them
  line breaks of some kind. U+FEFF (the byte order mark), U+200B (zero width space) and U+180E are
  not among them.

  Correspondence:
    `\s` in `COMMENT` and `ENTRY`, built-in trimming ↔ `isBlank`
    `LINE_BREAKS`                                    ↔ `isLineBreak`
-/

namespace MessageBundles.Text

/-- Whether a character has the property White_Space. -/
def isBlank (c : Char) : Bool :=
  let n := c.toNat
  (0x9 ≤ n && n ≤ 0xD) || n == 0x20 || n == 0x85 || n == 0xA0 || n == 0x1680 ||
    (0x2000 ≤ n && n ≤ 0x200A) || n == 0x2028 || n == 0x2029 || n == 0x202F || n == 0x205F ||
    n == 0x3000

/-- A line of a bundle ends at a line feed or a carriage return, and at no other character. -/
def isLineBreak (c : Char) : Bool := c == '\n' || c == '\r'

end MessageBundles.Text

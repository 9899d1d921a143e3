import MessageBundles.Json.Basic
import MessageBundles.Text.Digits

/-
  Writing JSON

  In a text a quote, a backslash and the characters below the space are escaped, with the short
  escapes where there are any; everything else stands as it is. An indented value has one member or
  item a line, two spaces deeper than what holds it; an empty array or object stays on one line.

  Stands for the writer of the library `serde_json`. `indentedTexts` is its `to_string_pretty` of a
  table of texts, with the entries in the order in which they come.
-/

namespace MessageBundles.Json

open Text

/-- A character of a text, escaped where it has to be. -/
def escape (c : Char) : List Char :=
  if c = '\x22' then ['\\', '\x22']
  else if c = '\\' then ['\\', '\\']
  else if c = '\x08' then ['\\', 'b']
  else if c = '\x0c' then ['\\', 'f']
  else if c = '\n' then ['\\', 'n']
  else if c = '\x0d' then ['\\', 'r']
  else if c = '\t' then ['\\', 't']
  else if c.toNat < 0x20 then '\\' :: 'u' :: padded 16 4 c.toNat
  else [c]

def quote (s : String) : List Char :=
  '\x22' :: (s.toList.flatMap escape ++ ['\x22'])

def integerText (i : Int) : List Char :=
  match i with
  | .ofNat n => Nat.toDigits 10 n
  | .negSucc n => '-' :: Nat.toDigits 10 (n + 1)

mutual

/-- A value on one line. -/
def compact : Json → List Char
  | .null => "null".toList
  | .boolean b => (if b then "true" else "false").toList
  | .integer i => integerText i
  | .real x => x.toText.toList
  | .string s => quote s
  | .array items => '[' :: (compactItems items ++ [']'])
  | .object members => '\x7b' :: (compactMembers members ++ ['\x7d'])

def compactItems : List Json → List Char
  | [] => []
  | [v] => compact v
  | v :: w :: rest => compact v ++ ',' :: compactItems (w :: rest)

def compactMembers : List (String × Json) → List Char
  | [] => []
  | [(n, v)] => quote n ++ ':' :: compact v
  | (n, v) :: m :: rest => quote n ++ ':' :: (compact v ++ ',' :: compactMembers (m :: rest))

end

def toText (v : Json) : String := String.ofList (compact v)

/-- An object of texts over several lines, two spaces deep. -/
def indentedTexts : List (String × String) → List Char
  | [] => "\x7b\x7d".toList
  | e :: rest =>
    let line (e : String × String) : List Char := ' ' :: ' ' :: (quote e.1 ++ ':' :: ' ' :: quote e.2)
    '\x7b' :: '\n' :: (rest.foldl (fun out e => out ++ ',' :: '\n' :: line e) (line e) ++ ['\n', '\x7d'])

end MessageBundles.Json

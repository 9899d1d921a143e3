import MessageBundles.Text.Digits

/-
  The tokens of a TOML text

  Characters are taken one at a time, and a scan remembers what it is in the middle of. Blanks are
  tokens of their own, because brackets and numbers depend on what touches them; comments leave no
  token behind. A text between single quotes says what it shows, a text between double quotes has
  escapes, and either may run over several lines between three quotes. A carriage return stands only
  in front of a line feed.
    1. `Scan.next?` — one more character.
    2. `tokens?` — the tokens of a text, or nothing if the text ends inside of one or holds a
       character that may not stand where it does.
-/

namespace MessageBundles.Toml

open Text

inductive Token where
  -- One of the marks between keys and values.
  | mark (c : Char)
  | blank (cs : List Char)
  | newline
  -- A text between quotes; a long one stands between three.
  | text (cs : List Char) (long : Bool)
  -- Characters that are none of the others, up to the next that is.
  | word (cs : List Char)
  deriving DecidableEq, Repr

inductive Quotes where
  | double
  | single
  deriving DecidableEq, Repr

def Quotes.char : Quotes → Char
  | .double => '\x22'
  | .single => '\x27'

/-- What a scan is in the middle of, with the characters found so far in reverse. -/
inductive Scan where
  | between
  | blanks (acc : List Char)
  | word (acc : List Char)
  | comment
  | carriage
  | one (q : Quotes)
  | two (q : Quotes)
  -- Behind three quotes: a line break here is no part of the text.
  | three (q : Quotes)
  | threeCarriage (q : Quotes)
  | short (q : Quotes) (acc : List Char)
  -- In a long text, behind so many quotes that may end it.
  | long (q : Quotes) (acc : List Char) (ending : Nat)
  | longCarriage (q : Quotes) (acc : List Char)
  | escape (isLong : Bool) (acc : List Char)
  | digits (isLong : Bool) (acc : List Char) (missing value : Nat)
  -- Behind a backslash and blanks, which a line break has to follow.
  | escapedBlanks (acc : List Char)
  -- Behind a backslash and a line break: blanks and line breaks are no part of the text.
  | skipping (acc : List Char)
  | skippingCarriage (acc : List Char)
  deriving DecidableEq, Repr

def isLineBlank (c : Char) : Bool := c == ' ' || c == '\t'

def isMark (c : Char) : Bool := c ∈ ['[', ']', '\x7b', '\x7d', ',', '=', '.']

/-- Whether a character may stand in a comment or text. -/
def isShown (c : Char) : Bool := c == '\t' || (0x20 ≤ c.toNat && c.toNat != 0x7F)

/-- The scan that starts with a character, and the token the character is. -/
def Scan.start (c : Char) : Scan × List Token :=
  if isLineBlank c then (.blanks [c], [])
  else if c = '\n' then (.between, [.newline])
  else if c = '\x0d' then (.carriage, [])
  else if c = '#' then (.comment, [])
  else if c = '\x22' then (.one .double, [])
  else if c = '\x27' then (.one .single, [])
  else if isMark c then (.between, [.mark c])
  else (.word [c], [])

def Scan.startAfter (t : Token) (c : Char) : Scan × List Token :=
  let (s, ts) := Scan.start c
  (s, t :: ts)

def escaped? (c : Char) : Option Char :=
  if c = '\x22' ∨ c = '\\' then some c
  else if c = 'b' then some '\x08'
  else if c = 't' then some '\t'
  else if c = 'n' then some '\n'
  else if c = 'f' then some '\x0c'
  else if c = 'r' then some '\x0d'
  else none

def textOf (acc : List Char) (isLong : Bool) : Token := .text acc.reverse isLong

def Scan.nextShort? (q : Quotes) (acc : List Char) (c : Char) : Option (Scan × List Token) :=
  if c = q.char then some (.between, [textOf acc false])
  else if c = '\\' ∧ q = .double then some (.escape false acc, [])
  else if isShown c then some (.short q (c :: acc), [])
  else none

/-- One more character of a long text. Three quotes end it, and up to two more in front of them
belong to it. -/
def Scan.nextLong? (q : Quotes) (acc : List Char) (ending : Nat) (c : Char) :
    Option (Scan × List Token) :=
  if c = q.char then
    if ending = 4 then some (.between, [textOf (q.char :: q.char :: acc) true])
    else some (.long q acc (ending + 1), [])
  else if 3 ≤ ending then
    some (Scan.startAfter (textOf (List.replicate (ending - 3) q.char ++ acc) true) c)
  else
    let acc := List.replicate ending q.char ++ acc
    if c = '\\' ∧ q = .double then some (.escape true acc, [])
    else if c = '\x0d' then some (.longCarriage q acc, [])
    else if c = '\n' ∨ isShown c = true then some (.long q (c :: acc) 0, [])
    else none

def Scan.resume (isLong : Bool) (acc : List Char) : Scan :=
  if isLong then .long .double acc 0 else .short .double acc

/-- The scan behind the digits of an escape, which have to denote a character. -/
def Scan.ofPoint? (isLong : Bool) (acc : List Char) (point : Nat) : Option Scan :=
  if point < 0xD800 ∨ (0xE000 ≤ point ∧ point < 0x110000) then
    some (Scan.resume isLong (Char.ofNat point :: acc))
  else none

/-- The scan after one more character, and the tokens it finished. -/
def Scan.next? (s : Scan) (c : Char) : Option (Scan × List Token) :=
  match s with
  | .between => some (Scan.start c)
  | .blanks acc =>
    if isLineBlank c then some (.blanks (c :: acc), [])
    else some (Scan.startAfter (.blank acc.reverse) c)
  | .word acc =>
    if isLineBlank c || isMark c || c ∈ ['\n', '\x0d', '#', '\x22', '\x27'] then
      some (Scan.startAfter (.word acc.reverse) c)
    else some (.word (c :: acc), [])
  | .comment =>
    if c = '\n' ∨ c = '\x0d' then some (Scan.start c)
    else if isShown c then some (.comment, [])
    else none
  | .carriage => if c = '\n' then some (.between, [.newline]) else none
  | .one q => if c = q.char then some (.two q, []) else Scan.nextShort? q [] c
  | .two q =>
    if c = q.char then some (.three q, []) else some (Scan.startAfter (.text [] false) c)
  | .three q =>
    if c = '\n' then some (.long q [] 0, [])
    else if c = '\x0d' then some (.threeCarriage q, [])
    else Scan.nextLong? q [] 0 c
  | .threeCarriage q => if c = '\n' then some (.long q [] 0, []) else none
  | .short q acc => Scan.nextShort? q acc c
  | .long q acc ending => Scan.nextLong? q acc ending c
  | .longCarriage q acc => if c = '\n' then some (.long q ('\n' :: acc) 0, []) else none
  | .escape isLong acc =>
    if c = 'u' then some (.digits isLong acc 4 0, [])
    else if c = 'U' then some (.digits isLong acc 8 0, [])
    else if isLong && isLineBlank c then some (.escapedBlanks acc, [])
    else if isLong && c == '\n' then some (.skipping acc, [])
    else if isLong && c == '\x0d' then some (.skippingCarriage acc, [])
    else (escaped? c).map fun e => (Scan.resume isLong (e :: acc), [])
  | .digits isLong acc missing value =>
    (digitValue c).bind fun d =>
      let value := value * 16 + d
      if missing ≤ 1 then (Scan.ofPoint? isLong acc value).map (·, [])
      else some (.digits isLong acc (missing - 1) value, [])
  | .escapedBlanks acc =>
    if isLineBlank c then some (.escapedBlanks acc, [])
    else if c = '\n' then some (.skipping acc, [])
    else if c = '\x0d' then some (.skippingCarriage acc, [])
    else none
  | .skipping acc =>
    if isLineBlank c || c == '\n' then some (.skipping acc, [])
    else if c = '\x0d' then some (.skippingCarriage acc, [])
    else Scan.nextLong? .double acc 0 c
  | .skippingCarriage acc => if c = '\n' then some (.skipping acc, []) else none

/-- The token a text ends in, if it may end here. -/
def Scan.finish? : Scan → Option (List Token)
  | .between => some []
  | .comment => some []
  | .blanks acc => some [.blank acc.reverse]
  | .word acc => some [.word acc.reverse]
  | .two _ => some [.text [] false]
  | .long q acc ending =>
    if 3 ≤ ending then some [textOf (List.replicate (ending - 3) q.char ++ acc) true] else none
  | _ => none

def tokensFrom? : Scan → List Char → Option (List Token)
  | s, [] => s.finish?
  | s, c :: rest =>
    match s.next? c with
    | none => none
    | some (t, found) => (tokensFrom? t rest).map (found ++ ·)

def tokens? (cs : List Char) : Option (List Token) := tokensFrom? .between cs

end MessageBundles.Toml

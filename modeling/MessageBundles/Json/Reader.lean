import MessageBundles.Dict
import MessageBundles.Json.Basic
import MessageBundles.Number.Word64
import MessageBundles.Text.Digits

/-
  Reading JSON

  A text is read in two passes, each of which takes one item at a time and remembers only where it
  is: characters become marks, texts and words, and these become a value with the help of a stack of
  the arrays and objects that are still open. At most 127 of them may be open at once. Of several
  members of an object with one name the last one counts.

  Stands for the reader of the library `serde_json`.
-/

namespace MessageBundles.Json

open Text

/-! ## Numbers -/

/-- A number from its parts. A whole number of 64 bits is kept exactly, except for minus zero; all
else is the nearest floating-point number, if there is one. -/
def ofNumber? (negative : Bool) (whole part : List Char) (power : Option Int) : Option Json :=
  let digits := digitsValue 10 (whole ++ part)
  match part, power with
  | [], none =>
    if negative then
      if digits = 0 then some (.real (.ofDecimal true 0 0))
      else if digits ≤ Word64.signedBound then some (.integer (-digits)) else some (.real (.ofDecimal true digits 0))
    else if digits < Word64.bound then some (.integer digits) else some (.real (.ofDecimal false digits 0))
  | _, _ =>
    match Binary64.ofDecimal negative digits (power.getD 0 - part.length) with
    | .finite n m e => some (.real (.finite n m e))
    | _ => none

/-- The power of ten behind a number: the letter, a sign, digits. Nothing at all is no power. -/
def power? : List Char → Option (Option Int)
  | [] => some none
  | c :: rest =>
    if c = 'e' ∨ c = 'E' then
      match rest with
      | '+' :: ds => (natural? 10 ds).map fun n => some (n : Int)
      | '-' :: ds => (natural? 10 ds).map fun n => some (-(n : Int))
      | ds => (natural? 10 ds).map fun n => some (n : Int)
    else none

/-- A number: a sign, a whole number without superfluous zeros, a decimal part, a power of ten. -/
def number? (word : List Char) : Option Json :=
  let (negative, body) := match word with
    | '-' :: rest => (true, rest)
    | rest => (false, rest)
  let whole := body.takeWhile isDigit
  let behind := body.dropWhile isDigit
  if whole.isEmpty || (whole.length ≠ 1 && ['0'].isPrefixOf whole) then none
  else match behind with
    | '.' :: rest =>
      let part := rest.takeWhile isDigit
      if part.isEmpty then none
      else (power? (rest.dropWhile isDigit)).bind (ofNumber? negative whole part)
    | rest => (power? rest).bind (ofNumber? negative whole [])

/-- What a word means that is neither a mark nor a text. -/
def ofWord? (word : List Char) : Option Json :=
  if word = "null".toList then some .null
  else if word = "true".toList then some (.boolean true)
  else if word = "false".toList then some (.boolean false)
  else number? word

/-! ## From characters to tokens -/

inductive Token where
  | mark (c : Char)
  | text (s : String)
  | word (w : List Char)
  deriving DecidableEq, Repr

/-- Where a scan is: between tokens, or inside one, with the characters of a text or word so far in
reverse. -/
inductive Scan where
  | between
  | word (acc : List Char)
  | text (acc : List Char)
  -- Behind the backslash of an escape.
  | escape (acc : List Char)
  -- Inside the four digits of an escape, behind the first half of a surrogate pair or not.
  | digits (acc : List Char) (high : Option Nat) (missing value : Nat)
  -- Behind the first half of a surrogate pair, where an escape has to follow.
  | pair (acc : List Char) (high : Nat)
  -- Behind the backslash of the second half of a surrogate pair.
  | pairEscape (acc : List Char) (high : Nat)
  deriving DecidableEq, Repr

def Scan.open? (c : Char) : Option (Scan × List Token) :=
  if c = ' ' ∨ c = '\t' ∨ c = '\n' ∨ c = '\x0d' then some (.between, [])
  else if c ∈ ['\x7b', '\x7d', '[', ']', ',', ':'] then some (.between, [.mark c])
  else if c = '\x22' then some (.text [], [])
  else if isLetter c ∨ isDigit c ∨ c = '-' then some (.word [c], [])
  else none

def isWordPart (c : Char) : Bool :=
  isLetter c || isDigit c || c == '-' || c == '+' || c == '.'

/-- What a one-letter escape stands for. -/
def escaped? (c : Char) : Option Char :=
  if c = '\x22' ∨ c = '\\' ∨ c = '/' then some c
  else if c = 'b' then some '\x08'
  else if c = 'f' then some '\x0c'
  else if c = 'n' then some '\n'
  else if c = 'r' then some '\x0d'
  else if c = 't' then some '\t'
  else none

/-- The scan behind the four digits of an escape: a character, the first half of a pair, or the
second half, which makes one character with the first. -/
def Scan.ofUnit? (acc : List Char) (high : Option Nat) (unit : Nat) : Option Scan :=
  match high with
  | none =>
    if 0xD800 ≤ unit ∧ unit < 0xDC00 then some (.pair acc unit)
    else if 0xDC00 ≤ unit ∧ unit < 0xE000 then none
    else some (.text (Char.ofNat unit :: acc))
  | some first =>
    if 0xDC00 ≤ unit ∧ unit < 0xE000 then
      some (.text (Char.ofNat (0x10000 + (first - 0xD800) * 0x400 + (unit - 0xDC00)) :: acc))
    else none

/-- The scan after one more character, and the tokens it finished. -/
def Scan.next? (s : Scan) (c : Char) : Option (Scan × List Token) :=
  match s with
  | .between => Scan.open? c
  | .word acc =>
    if isWordPart c then some (.word (c :: acc), [])
    else (Scan.open? c).map fun (s, ts) => (s, .word acc.reverse :: ts)
  | .text acc =>
    if c = '\x22' then some (.between, [.text (String.ofList acc.reverse)])
    else if c = '\\' then some (.escape acc, [])
    else if c.toNat < 0x20 then none
    else some (.text (c :: acc), [])
  | .escape acc =>
    if c = 'u' then some (.digits acc none 4 0, [])
    else (escaped? c).map fun e => (.text (e :: acc), [])
  | .digits acc high missing value =>
    (digitValue c).bind fun d =>
      let value := value * 16 + d
      if missing ≤ 1 then (Scan.ofUnit? acc high value).map (·, [])
      else some (.digits acc high (missing - 1) value, [])
  | .pair acc high => if c = '\\' then some (.pairEscape acc high, []) else none
  | .pairEscape acc high => if c = 'u' then some (.digits acc (some high) 4 0, []) else none

def tokensFrom : Scan → List Char → Option (List Token)
  | .between, [] => some []
  | .word acc, [] => some [.word acc.reverse]
  | _, [] => none
  | s, c :: rest =>
    match s.next? c with
    | none => none
    | some (t, found) => (tokensFrom t rest).map (found ++ ·)

/-! ## From tokens to a value -/

/-- An array or object that is still open, with what it holds so far in reverse. -/
inductive Frame where
  | item (before : List Json)
  | member (before : List (String × Json)) (name : String)

inductive State where
  -- A value has to follow.
  | value (stack : List Frame)
  -- An array was opened: its first item or its end.
  | firstItem (stack : List Frame)
  -- An object was opened: its first name or its end.
  | firstName (stack : List Frame)
  | name (stack : List Frame) (before : List (String × Json))
  | colon (stack : List Frame) (before : List (String × Json)) (name : String)
  -- Behind an item of an array.
  | afterItem (stack : List Frame) (items : List Json)
  -- Behind a member of an object.
  | afterMember (stack : List Frame) (members : List (String × Json))
  | finished (v : Json)

/-- How many arrays and objects may be open at once. -/
def maxDepth : Nat := 127

/-- Put a value where the innermost open array or object waits for it. -/
def State.place (v : Json) : List Frame → State
  | [] => .finished v
  | .item before :: stack => .afterItem stack (v :: before)
  | .member before n :: stack => .afterMember stack ((n, v) :: before)

/-- The object of its members in reverse order of their appearance. -/
def ofMembers (members : List (String × Json)) : Json :=
  .object (Dict.ofList members.reverse).entries

def State.begin? (stack : List Frame) : Token → Option State
  | .mark '[' => if stack.length < maxDepth then some (.firstItem stack) else none
  | .mark '\x7b' => if stack.length < maxDepth then some (.firstName stack) else none
  | .text s => some (.place (.string s) stack)
  | .word w => (ofWord? w).map (State.place · stack)
  | _ => none

def State.next? (s : State) (t : Token) : Option State :=
  match s, t with
  | .value stack, t => State.begin? stack t
  | .firstItem stack, t =>
    if t = .mark ']' then some (.place (.array []) stack) else State.begin? (.item [] :: stack) t
  | .firstName stack, .text n => some (.colon stack [] n)
  | .firstName stack, t => if t = .mark '\x7d' then some (.place (.object []) stack) else none
  | .name stack before, .text n => some (.colon stack before n)
  | .colon stack before n, t =>
    if t = .mark ':' then some (.value (.member before n :: stack)) else none
  | .afterItem stack items, t =>
    if t = .mark ',' then some (.value (.item items :: stack))
    else if t = .mark ']' then some (.place (.array items.reverse) stack)
    else none
  | .afterMember stack members, t =>
    if t = .mark ',' then some (.name stack members)
    else if t = .mark '\x7d' then some (.place (ofMembers members) stack)
    else none
  | _, _ => none

def read? (text : String) : Option Json := do
  let tokens ← tokensFrom .between text.toList
  match ← tokens.foldlM State.next? (.value []) with
  | .finished v => some v
  | _ => none

end MessageBundles.Json

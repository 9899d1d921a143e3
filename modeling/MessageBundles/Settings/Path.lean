import MessageBundles.Number.Word64
import MessageBundles.Text.Digits
import MessageBundles.Text.Pieces

/-
  Setting paths — which setting a name stands for

  A name is a path through tables and lists: names of letters, digits, spaces, underscores and
  hyphens with dots between them, and whole numbers between brackets for the places of a list. What
  has another form is no path.

  Stands for the path expressions of the library `config`.
-/

namespace MessageBundles

open Text

inductive PathStep where
  | name (s : String)
  -- A place of a list, counted from its end where negative.
  | place (i : Int)
  deriving DecidableEq, Repr

namespace PathStep

def isNamePart (c : Char) : Bool := isLetter c || isDigit c || c ∈ [' ', '_', '-']

/-- A whole number with a sign or without, and blanks around it. -/
def place? (cs : List Char) : Option Int :=
  let isSpace (c : Char) : Bool := c == ' ' || c == '\t'
  let signed : Int → Option Int := fun i =>
    if Word64.isSigned i then some i else none
  match trim isSpace cs with
  | '-' :: ds => (natural? 10 ds).bind fun n => signed (-(n : Int))
  | '+' :: ds => (natural? 10 ds).bind fun n => signed n
  | ds => (natural? 10 ds).bind fun n => signed n

/-- What is being read of a path, with the characters found so far in reverse. -/
inductive Scan where
  | name (acc : List Char)
  | place (acc : List Char)
  | closed

def named? (acc : List Char) : Option (List PathStep) :=
  if acc.isEmpty then none else some [.name (String.ofList acc.reverse)]

/-- The scan after one more character, and the steps it finished. -/
def Scan.next? (s : Scan) (c : Char) : Option (Scan × List PathStep) :=
  match s with
  | .name acc =>
    if isNamePart c then some (.name (c :: acc), [])
    else if c = '.' then (named? acc).map (.name [], ·)
    else if c = '[' then (named? acc).map (.place [], ·)
    else none
  | .place acc =>
    if c = ']' then (place? acc.reverse).map fun i => (.closed, [.place i])
    else some (.place (c :: acc), [])
  | .closed =>
    if c = '.' then some (.name [], [])
    else if c = '[' then some (.place [], [])
    else none

def stepsFrom? : Scan → List Char → Option (List PathStep)
  | .name acc, [] => named? acc
  | .closed, [] => some []
  | .place _, [] => none
  | s, c :: rest =>
    match s.next? c with
    | none => none
    | some (t, found) => (stepsFrom? t rest).map (found ++ ·)

def steps? (name : String) : Option (List PathStep) := stepsFrom? (.name []) name.toList

end PathStep

end MessageBundles

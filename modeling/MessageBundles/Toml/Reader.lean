import MessageBundles.Toml.Scalar
import MessageBundles.Toml.Table
import MessageBundles.Toml.Token

/-
  Reading TOML

  A text is a list of lines, each of which is a header or binds a key to a value. The tokens are
  taken one at a time, with a stack of the arrays and tables between braces that are still open. An
  array may run over several lines and have a comma at its end; a table between braces may not.

  Stands, with the tokens, scalars and tables, for the reader of the library `toml`.
-/

namespace MessageBundles.Toml

/-- What waits for a value. -/
inductive Frame where
  | line (key : List String)
  -- An array, with the items before in reverse.
  | array (before : List Json)
  -- A key of a table between braces, with the members bound before.
  | inline (before : Members) (key : List String)

inductive Purpose where
  | line
  | header
  | elementHeader
  | inline (before : Members) (stack : List Frame)

inductive State where
  | start
  | bracket
  | keyPart (p : Purpose) (before : List String)
  | afterPart (p : Purpose) (parts : List String)
  -- Behind the first bracket that ends a header between double brackets.
  | closing (key : List String)
  | value (stack : List Frame)
  | word (stack : List Frame) (cs : List Char)
  -- Behind a date and a space, where a time may follow.
  | gap (stack : List Frame) (cs : List Char)
  | item (stack : List Frame) (before : List Json)
  | afterItem (stack : List Frame) (items : List Json)
  | opened (stack : List Frame)
  | afterMember (stack : List Frame) (members : Members)
  | finished

/-- The tables read so far, and the way to the one that the lines at hand belong to. -/
structure Document where
  root : Members
  way : List String

def Document.empty : Document := ⟨[], []⟩

structure Reader where
  document : Document
  state : State

/-- How many arrays and tables may be open at once, or parts be in a key. -/
def maxDepth : Nat := 79

def Document.bind? (d : Document) (key : List String) (v : Json) : Option Document :=
  (modifyAt d.way (bindKey key v) d.root).map fun root => ⟨root, d.way⟩

def Document.open? (d : Document) (key : List String) (isElement : Bool) : Option Document :=
  match key.getLast? with
  | none => none
  | some name =>
    (modifyAt key.dropLast (if isElement then openElement name else openTable name) d.root).map
      fun root => ⟨root, key⟩

/-- Put a value where it is waited for. -/
def Reader.place? (d : Document) (v : Json) : List Frame → Option Reader
  | [] => none
  | .line key :: _ => (d.bind? key v).map fun d => ⟨d, .finished⟩
  | .array before :: stack => some ⟨d, .afterItem stack (v :: before)⟩
  | .inline before key :: stack =>
    (bindKey key v before).map fun members => ⟨d, .afterMember stack members⟩

/-- Whether the characters of a part of a key without quotes are the right ones. -/
def isBareKey (cs : List Char) : Bool :=
  !cs.isEmpty && cs.all fun c => Text.isLetter c || Text.isDigit c || c == '_' || c == '-'

def keyPart? (p : Purpose) (before : List String) : Token → Option State
  | .blank _ => some (.keyPart p before)
  | .word cs => if isBareKey cs then some (.afterPart p (before ++ [String.ofList cs])) else none
  | .text cs false => some (.afterPart p (before ++ [String.ofList cs]))
  | _ => none

def State.begin? (d : Document) (stack : List Frame) : Token → Option Reader
  | .text cs _ => Reader.place? d (.string (String.ofList cs)) stack
  | .word cs => some ⟨d, .word stack cs⟩
  | .mark '[' => if stack.length ≤ maxDepth then some ⟨d, .item stack []⟩ else none
  | .mark '\x7b' => if stack.length ≤ maxDepth then some ⟨d, .opened stack⟩ else none
  | _ => none

/-- Whether a time may follow behind a space. -/
def isDate (cs : List Char) : Bool := (date? cs).isSome

def afterPart? (d : Document) (p : Purpose) (parts : List String) (t : Token) : Option Reader :=
  match t with
  | .blank _ => some ⟨d, .afterPart p parts⟩
  | .mark '.' => if parts.length < maxDepth then some ⟨d, .keyPart p parts⟩ else none
  | .mark '=' =>
    match p with
    | .line => some ⟨d, .value [.line parts]⟩
    | .inline before stack => some ⟨d, .value (.inline before parts :: stack)⟩
    | _ => none
  | .mark ']' =>
    match p with
    | .header => (d.open? parts false).map fun d => ⟨d, .finished⟩
    | .elementHeader => some ⟨d, .closing parts⟩
    | _ => none
  | _ => none

/-- Read a token behind a value, which stands in a line, an array or a table between braces. -/
def afterValue? (d : Document) (s : State) (t : Token) : Option Reader :=
  match s, t with
  | .finished, .blank _ => some ⟨d, .finished⟩
  | .finished, .newline => some ⟨d, .start⟩
  | .afterItem stack items, .blank _ => some ⟨d, .afterItem stack items⟩
  | .afterItem stack items, .newline => some ⟨d, .afterItem stack items⟩
  | .afterItem stack items, .mark ',' => some ⟨d, .item stack items⟩
  | .afterItem stack items, .mark ']' => Reader.place? d (.array items.reverse) stack
  | .afterMember stack members, .blank _ => some ⟨d, .afterMember stack members⟩
  | .afterMember stack members, .mark ',' => some ⟨d, .keyPart (.inline members stack) []⟩
  | .afterMember stack members, .mark '\x7d' =>
    Reader.place? d (.object (membersJson members)) stack
  | _, _ => none

def endWord? (d : Document) (stack : List Frame) (cs : List Char) (t : Token) : Option Reader :=
  (scalar? cs).bind fun v =>
    (Reader.place? d v stack).bind fun r => afterValue? r.document r.state t

def Reader.next? (r : Reader) (t : Token) : Option Reader :=
  let d := r.document
  match r.state with
  | .start =>
    match t with
    | .blank _ => some ⟨d, .start⟩
    | .newline => some ⟨d, .start⟩
    | .mark '[' => some ⟨d, .bracket⟩
    | t => (keyPart? .line [] t).map fun s => ⟨d, s⟩
  | .bracket =>
    match t with
    | .mark '[' => some ⟨d, .keyPart .elementHeader []⟩
    | t => (keyPart? .header [] t).map fun s => ⟨d, s⟩
  | .keyPart p before => (keyPart? p before t).map fun s => ⟨d, s⟩
  | .afterPart p parts => afterPart? d p parts t
  | .closing key =>
    match t with
    | .mark ']' => (d.open? key true).map fun d => ⟨d, .finished⟩
    | _ => none
  | .value stack =>
    match t with
    | .blank _ => some ⟨d, .value stack⟩
    | t => State.begin? d stack t
  | .word stack cs =>
    match t with
    | .mark '.' => some ⟨d, .word stack (cs ++ ['.'])⟩
    | .word more => some ⟨d, .word stack (cs ++ more)⟩
    | .blank [' '] => if isDate cs then some ⟨d, .gap stack cs⟩ else endWord? d stack cs t
    | t => endWord? d stack cs t
  | .gap stack cs =>
    match t with
    | .word more => some ⟨d, .word stack (cs ++ ' ' :: more)⟩
    | t => endWord? d stack cs t
  | .item stack before =>
    match t with
    | .blank _ => some ⟨d, .item stack before⟩
    | .newline => some ⟨d, .item stack before⟩
    | .mark ']' => Reader.place? d (.array before.reverse) stack
    | t => State.begin? d (.array before :: stack) t
  | .opened stack =>
    match t with
    | .blank _ => some ⟨d, .opened stack⟩
    | .mark '\x7d' => Reader.place? d (.object []) stack
    | t => (keyPart? (.inline [] stack) [] t).map fun s => ⟨d, s⟩
  | .afterItem stack items => afterValue? d (.afterItem stack items) t
  | .afterMember stack members => afterValue? d (.afterMember stack members) t
  | .finished => afterValue? d .finished t

def dropMark (cs : List Char) : List Char :=
  match cs with
  | '\uFEFF' :: rest => rest
  | cs => cs

def read? (text : String) : Option Json := do
  let tokens ← tokens? (dropMark text.toList)
  let r ← (tokens ++ [Token.newline]).foldlM Reader.next? ⟨Document.empty, .start⟩
  match r.state with
  | .start => some (.object (membersJson r.document.root))
  | _ => none

end MessageBundles.Toml

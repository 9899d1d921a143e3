import MessageBundles.Dict
import MessageBundles.Files.Tree
import MessageBundles.Text.Alphanumeric
import MessageBundles.Text.Blank

/-
  Environment files — variables that are set before a run

  A file named `.env`, in the current directory or one above it, has a line `name=value` for each
  variable. A variable that is set already stays as it is. Between single quotes a value stands as it
  is; elsewhere a backslash escapes a character and a dollar sign in front of a name stands for the
  value of that variable. Behind a blank outside of quotes only a comment may follow. The first line
  that cannot be read ends the file, and the lines before it count.

  Correspondence:
    `dotenv`, of the library `dotenv` ↔ `complete`
    its look-up of the file           ↔ `places`, `content?`
    its reading of a line             ↔ `Line.read`
-/

namespace MessageBundles.Environment

open Text

inductive Reading where
  | plain
  | single
  | double
  -- Behind a backslash.
  | escaped (isDouble : Bool)
  -- In a name behind a dollar sign, in reverse.
  | name (isDouble : Bool) (acc : List Char)
  -- In a name between braces behind a dollar sign, in reverse.
  | braced (isDouble : Bool) (acc : List Char)
  -- Behind a blank.
  | ending
  | comment

def Reading.outside (isDouble : Bool) : Reading := if isDouble then .double else .plain

/-- The value of a variable, in reverse; nothing for a variable that is not set. -/
def valueOf (env : Dict String) (acc : List Char) : List Char :=
  (((env.find? (String.ofList acc.reverse)).getD "").toList).reverse

/-- One more character of a value that is kept in reverse. -/
def Reading.next? (env : Dict String) (r : Reading) (out : List Char) (c : Char) :
    Option (Reading × List Char) :=
  match r with
  | .ending =>
    if c = ' ' ∨ c = '\t' then some (.ending, out)
    else if c = '#' then some (.comment, out)
    else none
  | .comment => some (.comment, out)
  | .escaped isDouble =>
    if c ∈ ['\\', '\x27', '\x22', '$', ' '] then some (.outside isDouble, c :: out)
    else if c = 'n' then some (.outside isDouble, '\n' :: out)
    else none
  | .single => if c = '\x27' then some (.plain, out) else some (.single, c :: out)
  | .name isDouble acc =>
    if isAlphanumeric c then some (.name isDouble (c :: acc), out)
    else if c = '\x7b' ∧ acc = [] then some (.braced isDouble [], out)
    else if c = '$' then some (.name isDouble [], valueOf env acc ++ out)
    else some (.outside isDouble, c :: (valueOf env acc ++ out))
  | .braced isDouble acc =>
    if c = '\x7d' then some (.outside isDouble, valueOf env acc ++ out)
    else some (.braced isDouble (c :: acc), out)
  | .double =>
    if c = '$' then some (.name true [], out)
    else if c = '\x22' then some (.plain, out)
    else if c = '\\' then some (.escaped true, out)
    else some (.double, c :: out)
  | .plain =>
    if c = '$' then some (.name false [], out)
    else if c = '\x27' then some (.single, out)
    else if c = '\x22' then some (.double, out)
    else if c = '\\' then some (.escaped false, out)
    else if c = ' ' ∨ c = '\t' then some (.ending, out)
    else some (.plain, c :: out)

/-- The value at the end of a line; quotes and braces have to be closed. -/
def Reading.finish? (env : Dict String) (r : Reading) (out : List Char) : Option (List Char) :=
  match r with
  | .plain | .ending | .comment | .escaped false => some out.reverse
  | .name false acc => some (valueOf env acc ++ out).reverse
  | .single | .double | .escaped true | .name true _ | .braced _ _ => none

def readFrom? (env : Dict String) : Reading → List Char → List Char → Option (List Char)
  | r, out, [] => r.finish? env out
  | r, out, c :: rest =>
    match r.next? env out c with
    | none => none
    | some (s, out) => readFrom? env s out rest

/-- The value a line gives. -/
def value? (env : Dict String) (cs : List Char) : Option (List Char) := readFrom? env .plain [] cs

def isNamePart (c : Char) : Bool := isLetter c || isDigit c || c == '_' || c == '.'

/-- The name a text starts with, and what follows it and blanks. -/
def name? (cs : List Char) : Option (List Char × List Char) :=
  if (cs.head?.any fun c => isLetter c || c == '_') = true then
    some (cs.takeWhile isNamePart, (cs.dropWhile isNamePart).dropWhile isBlank)
  else none

def behindEquals? : List Char → Option (List Char)
  | '=' :: rest => some (rest.dropWhile isBlank)
  | _ => none

/-- The word that may stand in front of a name. -/
def exportWord : List Char := "export".toList

/-- The name a line sets, and the text of its value. -/
def split? (cs : List Char) : Option (List Char × List Char) := do
  let (name, rest) ← name? cs
  match behindEquals? rest with
  | some value => some (name, value)
  | none =>
    if name = exportWord then
      let (name, rest) ← name? rest
      (behindEquals? rest).map (name, ·)
    else none

inductive Line where
  | nothing
  | binding (name value : String)
  | malformed

def Line.read (env : Dict String) (cs : List Char) : Line :=
  let cs := trim isBlank cs
  if cs.isEmpty || cs.head? == some '#' then .nothing
  else match split? cs with
    | none => .malformed
    | some (name, text) =>
      if text.isEmpty || text.head? == some '#' then .binding (String.ofList name) ""
      else match value? env text with
        | none => .malformed
        | some value => .binding (String.ofList name) (String.ofList value)

def afterLines : Dict String → List (List UInt8) → Dict String
  | env, [] => env
  | env, line :: rest =>
    match Utf8.decode? line with
    | none => env
    | some cs =>
      match Line.read env cs with
      | .nothing => afterLines env rest
      | .binding name value =>
        afterLines (if env.contains name then env else env.insert name value) rest
      | .malformed => env

def fileName : Files.Name := Utf8.encode ".env".toList

/-- The places an environment file may be at: the current one, and those above it. -/
def places (current : Files.Place) : List Files.Place :=
  ((List.range (current.length + 1)).map fun n => current.take n ++ [fileName]).reverse

/-- The content of the environment file that counts. -/
def content? (files : Files.Tree) : Option (List UInt8) :=
  (places files.current).findSome? fun place =>
    match files.node? place with
    | some (.file content) => some content
    | _ => none

/-- The environment of a run: the variables that are set, and those of the environment file. -/
def complete (files : Files.Tree) (env : Dict String) : Dict String :=
  match content? files with
  | none => env
  | some content => afterLines env (split 0x0A content)

end MessageBundles.Environment

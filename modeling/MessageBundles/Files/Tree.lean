import MessageBundles.Fetch.Error
import MessageBundles.Text.Pieces
import MessageBundles.Text.Utf8

/-
  File trees — directories, files, and what a path leads to

  A place is the list of names that lead to it from the top. A path is walked name by name: every
  step starts in a directory, an empty name and `.` stay, `..` goes to the directory above, and the
  directory above the top is the top. There are no links, so a step up undoes the step down before
  it. Names and paths have a greatest length.
    1. `walk_append` — a path of two parts is the walk of one part after the other.
    2. `walk_here` — an empty name or `.` needs a directory and stays in it.

  Correspondence:
    the files of the system          ↔ `Tree`
    looking up and reading a path    ↔ `look`, `read`, `readText`
    making the directories on a path ↔ `makeDirectories`
-/

namespace MessageBundles.Files

open Text

/-- The name of an entry of a directory. -/
abbrev Name : Type := List UInt8

/-- The names that lead from the top to an entry. -/
abbrev Place : Type := List Name

inductive Node where
  | file (content : List UInt8)
  | directory
  deriving DecidableEq, Repr

/-- The files there are, and the place that relative paths start from. -/
structure Tree where
  node? : Place → Option Node
  current : Place

def slash : UInt8 := 0x2F

/-- The name of the place itself. -/
def here : Name := [0x2E]

/-- The name of the place above. -/
def up : Name := [0x2E, 0x2E]

def maxName : Nat := 255

def maxPath : Nat := 4095

namespace Tree

def step (t : Tree) (place : Place) (name : Name) : Except FetchCause Place :=
  match t.node? place with
  | none => .error .notFound
  | some (.file _) => .error (.unreadable .notDirectory)
  | some .directory =>
    if name = [] ∨ name = here then .ok place
    else if name = up then .ok place.dropLast
    else if maxName < name.length then .error (.unreadable .nameTooLong)
    else if (t.node? (place ++ [name])).isSome then .ok (place ++ [name])
    else .error .notFound

def walk (t : Tree) : Place → List Name → Except FetchCause Place
  | place, [] => .ok place
  | place, name :: rest =>
    match t.step place name with
    | .error e => .error e
    | .ok next => t.walk next rest

/-- What a path leads to. A path with a slash in front starts at the top. -/
def look (t : Tree) (path : List UInt8) : Except FetchCause Node :=
  if 0 ∈ path then .error (.unreadable .containsNul)
  else if path = [] then .error .notFound
  else if maxPath < path.length then .error (.unreadable .nameTooLong)
  else
    let start := if [slash].isPrefixOf path then [] else t.current
    match t.walk start (split slash path) with
    | .error e => .error e
    | .ok place => (t.node? place).elim (.error .notFound) .ok

def read (t : Tree) (path : List UInt8) : Except FetchCause (List UInt8) :=
  match t.look path with
  | .error e => .error e
  | .ok .directory => .error (.unreadable .isDirectory)
  | .ok (.file content) => .ok content

def readText (t : Tree) (path : List UInt8) : Except FetchCause String :=
  match t.read path with
  | .error e => .error e
  | .ok content =>
    match Utf8.decode? content with
    | none => .error (.unreadable .notUtf8)
    | some text => .ok (String.ofList text)

/-! ## Building trees -/

/-- The tree of a list of entries. Every place above an entry or above the current place is a
directory, and of several entries at one place the first counts. -/
def ofEntries (current : Place) (entries : List (Place × Node)) : Tree where
  node? place := (entries.lookup place).or
    (if place.isPrefixOf current || entries.any (place.isPrefixOf ·.1) then some .directory
     else none)
  current := current

def addDirectory (t : Tree) (place : Place) : Tree where
  node? p := if p = place then some .directory else t.node? p
  current := t.current

/-- The tree in which a list of names leads to a directory; directories that are missing on the way
are made. -/
def makeDirectories (t : Tree) : Place → List Name → Except FetchCause Tree
  | place, [] =>
    match t.node? place with
    | some .directory => .ok t
    | _ => .error (.unreadable .notDirectory)
  | place, name :: rest =>
    match t.step place name with
    | .ok next => t.makeDirectories next rest
    | .error .notFound => (t.addDirectory (place ++ [name])).makeDirectories (place ++ [name]) rest
    | .error e => .error e

/-! ## Walks -/

theorem walk_append (t : Tree) (place : Place) (a b : List Name) :
    t.walk place (a ++ b) =
      match t.walk place a with
      | .error e => .error e
      | .ok next => t.walk next b := by
  induction a generalizing place with
  | nil => rfl
  | cons name rest ih =>
    simp only [List.cons_append, walk]
    cases t.step place name with
    | error e => rfl
    | ok next => exact ih next

theorem walk_here {t : Tree} {place : Place} (h : t.node? place = some .directory) :
    t.step place [] = .ok place ∧ t.step place here = .ok place := by
  simp [step, h]

end Tree

end MessageBundles.Files

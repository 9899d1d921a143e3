import MessageBundles.Dict
import MessageBundles.Json.Basic
import MessageBundles.Settings.Path
import MessageBundles.Text.Lowercase

/-
  Setting trees — layers of settings, one laid over the other

  A layer is a list of names and values. A name that is a path sets what the path leads to, and any
  other name a setting at the top. Names are compared in small letters. A table laid over a table
  keeps what it does not set itself; any other value takes the place of what was there, and what a
  path leads through becomes a table or list where it is none.

  The members of a table are laid in the order in which they are listed, so of names that are equal in
  small letters the later one counts. A table that keeps no order may hand them out in any, so what is
  proved of such a table has to say that its names differ in small letters.

  Correspondence, all in the library `config`:
    the tree of a source, merged into the one so far ↔ `overlay`
    setting one path of it                           ↔ `overlayOne`, `assign`
    setting a value at a name, in small letters      ↔ `place`, `placeAll`
-/

namespace MessageBundles.SettingTree

/-- The members of a table; what is no table has none. -/
def membersOf : Json → List (String × Json)
  | .object members => members
  | _ => []

def itemsOf : Json → List Json
  | .array items => items
  | _ => []

def child? (root : Json) (name : String) : Option Json :=
  Dict.findEntry (Text.lowercased name) (membersOf root)

def withChild (root : Json) (name : String) (v : Json) : Json :=
  .object (Dict.insertEntry (Text.lowercased name) v (membersOf root))

mutual

/-- Lay a value over what is at a name, a table member by member. -/
def place (root : Json) (name : String) : Json → Json
  | .object members => withChild root name (placeAll ((child? root name).getD (.object [])) members)
  | .null => withChild root name .null
  | .boolean b => withChild root name (.boolean b)
  | .integer i => withChild root name (.integer i)
  | .real x => withChild root name (.real x)
  | .string s => withChild root name (.string s)
  | .array items => withChild root name (.array items)

def placeAll (root : Json) : List (String × Json) → Json
  | [] => root
  | (name, v) :: rest => placeAll (place root name v) rest

end

/-- The place of a list a number stands for. A place before the start is none. -/
def placeOf? (length : Nat) (i : Int) : Option Nat :=
  if 0 ≤ i then some i.toNat
  else if (-i).toNat ≤ length then some (length - (-i).toNat)
  else none

/-- A list with a value at a place; places missing before it hold nothing. -/
def withItem (items : List Json) (i : Int) (f : Json → Json) : List Json :=
  match placeOf? items.length i with
  | none => items
  | some n =>
    let longer := items ++ List.replicate (n + 1 - items.length) Json.null
    longer.take n ++ f ((longer[n]?).getD .null) :: longer.drop (n + 1)

/-- Lay a value over what a path leads to. -/
def assign : List PathStep → Json → Json → Json
  | [], _, root => root
  | [.name s], v, root => place root s v
  | [.place i], v, root => .array (withItem (itemsOf root) i fun _ => v)
  | .name s :: next :: rest, v, root =>
    withChild root s (assign (next :: rest) v ((child? root s).getD .null))
  | .place i :: next :: rest, v, root =>
    .array (withItem (itemsOf root) i (assign (next :: rest) v))

def overlayOne (root : Json) (e : String × Json) : Json :=
  match PathStep.steps? e.1 with
  | some steps => assign steps e.2 root
  | none => place root e.1 e.2

def overlay (root : Json) (layer : List (String × Json)) : Json := layer.foldl overlayOne root

def bare : Json := .object []

end MessageBundles.SettingTree

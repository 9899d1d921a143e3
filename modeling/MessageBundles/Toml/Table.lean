import MessageBundles.Dict
import MessageBundles.Json.Basic

/-
  The tables of a TOML text

  A table is made in one of three ways: by a header, by the way to a header below it, or by the way
  of dots in a key. What was made in one way is not added to in another: a header may give a table
  that only lies on the way to other headers, a dotted key may add to a table of dotted keys, and a
  value, a table between braces included, is never added to. Headers between double brackets add one
  element to an array of tables, and the way of a header leads through the last element.
-/

namespace MessageBundles.Toml

inductive Item where
  | value (v : Json)
  /-- A table; whether only the way to others has made it, and whether dotted keys have. -/
  | table (isWay isDotted : Bool) (members : List (String × Item))
  -- An array of tables, one for each header.
  | tables (elements : List (List (String × Item)))

abbrev Members : Type := List (String × Item)

def Members.find? (ms : Members) (key : String) : Option Item := Dict.findEntry key ms

def Members.set (ms : Members) (key : String) (item : Item) : Members :=
  Dict.insertEntry key item ms

/-- Change the members of the table a way of headers leads to. Tables that are missing on the way
are made. -/
def modifyAt : List String → (Members → Option Members) → Members → Option Members
  | [], f, ms => f ms
  | key :: rest, f, ms =>
    match ms.find? key with
    | none => (modifyAt rest f []).map fun c => ms.set key (.table true false c)
    | some (.value _) => none
    | some (.table isWay isDotted c) =>
      (modifyAt rest f c).map fun c => ms.set key (.table isWay isDotted c)
    | some (.tables elements) =>
      match elements.getLast? with
      | none => none
      | some last =>
        (modifyAt rest f last).map fun c => ms.set key (.tables (elements.dropLast ++ [c]))

/-- Bind a key that no dots lead to. -/
def bindHere (key : String) (v : Json) (ms : Members) : Option Members :=
  match ms.find? key with
  | some _ => none
  | none => some (ms.set key (.value v))

/-- Bind a key that dots lead to, in the table behind the way. Only a table of dotted keys takes the
key; `isDotted` tells whether the table at hand is one. -/
def bindBehind (isDotted : Bool) : List String → String → Json → Members → Option Members
  | [], key, v, ms => if isDotted then bindHere key v ms else none
  | step :: rest, key, v, ms =>
    match ms.find? step with
    | none => (bindBehind true rest key v []).map fun c => ms.set step (.table true true c)
    | some (.value _) => none
    | some (.table isWay dotted c) =>
      if isWay then (bindBehind dotted rest key v c).map fun c => ms.set step (.table true dotted c)
      else none
    | some (.tables elements) =>
      match elements.getLast? with
      | none => none
      | some last =>
        (bindBehind false rest key v last).map fun c =>
          ms.set step (.tables (elements.dropLast ++ [c]))

def bindKey (key : List String) (v : Json) (ms : Members) : Option Members :=
  match key.reverse with
  | [] => none
  | [name] => bindHere name v ms
  | name :: way => bindBehind false way.reverse name v ms

def openTable (name : String) (ms : Members) : Option Members :=
  match ms.find? name with
  | none => some (ms.set name (.table false false []))
  | some (.table true false c) => some (ms.set name (.table false false c))
  | some _ => none

def openElement (name : String) (ms : Members) : Option Members :=
  match ms.find? name with
  | none => some (ms.set name (.tables [[]]))
  | some (.tables elements) => some (ms.set name (.tables (elements ++ [[]])))
  | some _ => none

mutual

def Item.toJson : Item → Json
  | .value v => v
  | .table _ _ members => .object (membersJson members)
  | .tables elements => .array (elementsJson elements)

def membersJson : List (String × Item) → List (String × Json)
  | [] => []
  | (k, item) :: rest => (k, item.toJson) :: membersJson rest

def elementsJson : List (List (String × Item)) → List Json
  | [] => []
  | members :: rest => .object (membersJson members) :: elementsJson rest

end

end MessageBundles.Toml

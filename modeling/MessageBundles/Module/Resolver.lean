import MessageBundles.Dict
import MessageBundles.Locator
import MessageBundles.Text.Pieces

/-
  Resolvers — from a module identifier to a location

  An identifier that starts with `./` or `../` is first resolved against the parent module, if there
  is one: its segments move a stack that starts as the parent's folder, and a climb past the top of
  the stack is kept. What then starts with a dot, or is an absolute location, is the location itself.
  All else is mapped by the longest override that owns it, where a module prefix owns itself and what
  continues it behind a slash, and put behind the base unless the mapped location is absolute.
    1. `locate_of_standalone` — a resolved identifier that starts with a dot or is absolute stays.
    2. `locate_eq_locateResolved` — a location depends on the identifier through its resolved form
       alone.

  Correspondence:
    `ModulePaths`, `ModulePaths::new` ↔ `Resolver`, `Resolver.ofBase`
    `with_path`, `with_parent`        ↔ `override`, `withParent`
    `mapped_path`                     ↔ `owner?`, `locateResolved`
    `ModuleUrlResolver::normalize`    ↔ `resolve`, `resolveAgainst`
    `ModuleUrlResolver::to_url`       ↔ `locate`
-/

namespace MessageBundles.Module

open Text

/-- A piece of an identifier between slashes. -/
abbrev Segment : Type := List Char

/-- The segment that stays where it is. -/
def here : Segment := ['.']

/-- The segment that climbs to the folder above. -/
def up : Segment := ['.', '.']

/-- Move a stack of segments, innermost first, by one segment. A climb takes away the innermost
segment unless there is none or it is a climb itself; then the climb is kept. -/
def move (stack : List Segment) (s : Segment) : List Segment :=
  if s = here then stack
  else if s = up then
    match stack with
    | [] => [up]
    | top :: below => if top = up then up :: stack else below
  else s :: stack

/-- Whether an identifier is to be resolved against the parent module. -/
def isDotted (id : List Char) : Bool :=
  ['.', '/'].isPrefixOf id || ['.', '.', '/'].isPrefixOf id

def resolveAgainst (parent id : List Char) : List Char :=
  join '/' ((split '/' id).foldl move (split '/' parent).reverse.tail).reverse

/-- Whether a module prefix owns an identifier: it is the identifier, or a slash follows it. -/
def owns (pre id : List Char) : Bool :=
  pre.isPrefixOf id && ((id.drop pre.length).isEmpty || ['/'].isPrefixOf (id.drop pre.length))

/-- What an identifier's location is computed from. -/
structure Resolver where
  -- Stands before every location that is not absolute; empty or with a slash at its end.
  base : String
  -- Module prefixes and the paths they are mapped to, both without slashes at their ends.
  overrides : Dict String
  -- The module that dotted identifiers are relative to.
  parent : Option String
  deriving DecidableEq

namespace Resolver

/-- A base with a slash at its end, unless it is empty. -/
def closeBase (base : List Char) : List Char :=
  if base = [] ∨ base.getLast? = some '/' then base else base ++ ['/']

def ofBase (base : String) : Resolver :=
  ⟨String.ofList (closeBase base.toList), Dict.empty, none⟩

def dropSlashes (s : String) : String :=
  String.ofList (dropEndWhile (· == '/') s.toList)

/-- Map every module under a prefix to a path. The slashes at the end of both are dropped, and the
last registration of a prefix counts. -/
def override (r : Resolver) (pre path : String) : Resolver :=
  { r with overrides := r.overrides.insert (dropSlashes pre) (dropSlashes path) }

def overrideMany (r : Resolver) (l : List (String × String)) : Resolver :=
  l.foldl (fun r e => r.override e.1 e.2) r

def withParent (r : Resolver) (parent : String) : Resolver := { r with parent := some parent }

/-- An identifier in the form overrides and base apply to. -/
def resolve (r : Resolver) (id : List Char) : List Char :=
  match r.parent with
  | none => id
  | some parent => if isDotted id then resolveAgainst parent.toList id else id

/-- The longer of two overrides, the second where they are equally long. -/
def longer (a b : String × String) : String × String :=
  if b.1.toList.length < a.1.toList.length then a else b

def owner? (r : Resolver) (id : List Char) : Option (String × String) :=
  match r.overrides.entries.filter (fun e => owns e.1.toList id) with
  | [] => none
  | e :: rest => some (rest.foldl longer e)

def locateResolved (r : Resolver) (id : List Char) : List Char :=
  if ['.'].isPrefixOf id || Locator.isAbsolute id then id
  else match r.owner? id with
    | none => r.base.toList ++ id
    | some (pre, path) =>
      let mapped := path.toList ++ id.drop pre.toList.length
      if Locator.isAbsolute mapped then mapped else r.base.toList ++ mapped

/-- The location of a module identifier, without any extension. -/
def locate (r : Resolver) (id : List Char) : List Char := r.locateResolved (r.resolve id)

/-! ## Locations -/

/-- A location depends on the identifier through its resolved form alone. -/
theorem locate_eq_locateResolved (r : Resolver) (id : List Char) :
    r.locate id = r.locateResolved (r.resolve id) := rfl

/-- A resolved identifier that starts with a dot, or is absolute, is its own location. -/
theorem locate_of_standalone {r : Resolver} {id : List Char}
    (h : (['.'].isPrefixOf (r.resolve id) || Locator.isAbsolute (r.resolve id)) = true) :
    r.locate id = r.resolve id := by
  rw [locate, locateResolved, if_pos h]

theorem resolve_of_no_parent {r : Resolver} (h : r.parent = none) (id : List Char) :
    r.resolve id = id := by
  simp [resolve, h]

end Resolver

end MessageBundles.Module

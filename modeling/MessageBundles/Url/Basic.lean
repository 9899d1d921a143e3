import MessageBundles.Url.Host

/-
  URLs

  A URL is a scheme and what the scheme gives a meaning to: an authority (a user, a host and a port),
  a path, a query and a fragment. The path is a list of segments, or one text where the scheme is not
  well known and no slash follows it. Every part is held in its encoded form.

  Stands for `Url` of the library `url`.
-/

namespace MessageBundles

open Text

namespace Url

inductive Path where
  -- A text without segments.
  | plain (text : List Char)
  -- The texts behind the slashes.
  | segments (segments : List (List Char))
  deriving DecidableEq, Repr

def Path.text : Path → List Char
  | .plain t => t
  | .segments l => l.flatMap ('/' :: ·)

/-- What is known of a scheme: files have hosts and paths of their own kind, the other well-known
schemes always have a host, and nothing is known of the rest. -/
inductive SchemeKind where
  | file
  | hosted
  | other
  deriving DecidableEq, Repr

def SchemeKind.of (scheme : List Char) : SchemeKind :=
  if scheme = "file".toList then .file
  else if scheme ∈ ["http".toList, "https".toList, "ws".toList, "wss".toList, "ftp".toList] then
    .hosted
  else .other

/-- Whether a scheme is well known, so that a backslash counts as a slash. -/
def SchemeKind.isKnown (k : SchemeKind) : Bool := k != .other

/-- The port a scheme is served at, which is left out of the text. -/
def defaultPort? (scheme : List Char) : Option Nat :=
  if scheme = "http".toList ∨ scheme = "ws".toList then some 80
  else if scheme = "https".toList ∨ scheme = "wss".toList then some 443
  else if scheme = "ftp".toList then some 21
  else none

end Url

structure Url where
  scheme : List Char
  username : List Char
  password : List Char
  -- No host at all, where no two slashes follow the scheme, is not the same as the empty host.
  host : Option Url.Host
  port : Option Nat
  path : Url.Path
  query : Option (List Char)
  fragment : Option (List Char)
  deriving DecidableEq, Repr

namespace Url

/-- The user and password in front of a host. -/
def credentials (u : Url) : List Char :=
  if u.username.isEmpty && u.password.isEmpty then []
  else u.username ++ (if u.password.isEmpty then [] else ':' :: u.password) ++ ['@']

/-- Everything between the two slashes and the path; nothing where there is no host. A path that
starts with two slashes is then kept apart from them by a dot. -/
def authorityText (u : Url) : List Char :=
  match u.host with
  | none => if ['/', '/'].isPrefixOf u.path.text then ['/', '.'] else []
  | some host =>
    '/' :: '/' :: (u.credentials ++ host.text ++
      match u.port with
      | none => []
      | some port => ':' :: Nat.toDigits 10 port)

def marked (mark : Char) : Option (List Char) → List Char
  | none => []
  | some part => mark :: part

def text (u : Url) : List Char :=
  u.scheme ++ ':' :: (u.authorityText ++ u.path.text ++ marked '?' u.query ++ marked '#' u.fragment)

def toText (u : Url) : String := String.ofList u.text

def kind (u : Url) : SchemeKind := SchemeKind.of u.scheme

def hasHost (u : Url) : Bool := u.host.any (· != Host.empty)

def withoutCredentials (u : Url) : Url := { u with username := [], password := [] }

def withoutFragment (u : Url) : Url := { u with fragment := none }

/-- The segments of a path; a path without segments has none. -/
def segments (u : Url) : List (List Char) :=
  match u.path with
  | .plain _ => []
  | .segments l => l

end Url

end MessageBundles

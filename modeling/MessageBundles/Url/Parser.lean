import MessageBundles.Url.Basic

/-
  Reading URLs

  A text is freed from blanks at its ends and from tabs and line breaks anywhere; then come a scheme
  and a colon, or else the text is relative to a base. Behind two slashes follows an authority up to
  the next slash, then a path up to a question mark or a number sign, a query up to a number sign,
  and a fragment. In a path the segments `.` and `..` are carried out at once, also where the dots
  are percent-encoded, so that no path climbs past its top.

  Correspondence:
    `Url::parse`, of the library `url`                  ↔ `parse`
    `Url::join`                                         ↔ `join`
    what it reads after a scheme, by the kind of scheme ↔ `absolute`, `file`, `hostless`
    what it reads without one                           ↔ `relative`, `schemeless`
  The modules on hosts, addresses and encodings stand for the parts of that library.
-/

namespace MessageBundles.Url

open Text

/-! ## Cutting a text into its parts -/

/-- A text without blanks at its ends and without tabs and line breaks. -/
def clean (cs : List Char) : List Char :=
  (trim (·.toNat ≤ 0x20) cs).filter (fun c => c != '\t' && c != '\n' && c != '\x0d')

def isSchemePart (c : Char) : Bool := isLetter c || isDigit c || c ∈ ['+', '-', '.']

/-- The scheme of a text, in small letters, and what follows its colon. -/
def splitScheme? (cs : List Char) : Option (List Char × List Char) :=
  if (cs.head?.any isLetter) = true then
    match cs.dropWhile isSchemePart with
    | ':' :: rest => some ((cs.takeWhile isSchemePart).map Char.toLower, rest)
    | _ => none
  else none

structure Tail where
  query : Option (List Char)
  fragment : Option (List Char)
  deriving DecidableEq, Repr

def behind? (mark : Char) (cs : List Char) : Option (List Char) :=
  match cs.dropWhile (· != mark) with
  | [] => none
  | _ :: rest => some rest

def endsPath (c : Char) : Bool := c == '?' || c == '#'

def tailOf (kind : SchemeKind) (cs : List Char) : Tail where
  query := (behind? '?' (cs.takeWhile (· != '#'))).map
    (percentEncode (if kind.isKnown then specialQuerySet else querySet))
  fragment := (behind? '#' cs).map (percentEncode fragmentSet)

def isSlash (kind : SchemeKind) (c : Char) : Bool := c == '/' || (kind.isKnown && c == '\\')

def pathPieces (kind : SchemeKind) (cs : List Char) : List (List Char) :=
  runs (isSlash kind) (cs.takeWhile (!endsPath ·))

/-! ## Paths -/

/-- A piece of a path with its encoded dots decoded. -/
def decodeDots : List Char → List Char
  | '%' :: '2' :: e :: rest =>
    if e = 'e' ∨ e = 'E' then '.' :: decodeDots rest else '%' :: '2' :: e :: rest
  | '.' :: rest => '.' :: decodeDots rest
  | cs => cs

def isHere (piece : List Char) : Bool := decodeDots piece == ['.']

def isUp (piece : List Char) : Bool := decodeDots piece == ['.', '.']

/-- Whether a text is a drive: a letter and a colon or bar. -/
def isDrive (cs : List Char) : Bool :=
  match cs with
  | [l, m] => isLetter l && (m == ':' || m == '|')
  | _ => false

def isColonDrive (cs : List Char) : Bool := isDrive cs && cs.getLast? == some ':'

def startsWithDrive (cs : List Char) : Bool :=
  isDrive (cs.take 2) && (cs.drop 2).head?.all (fun c => c ∈ ['/', '\\', '?', '#'])

/-- A path without its last segment, which a drive is not taken for. -/
def climb (path : List (List Char)) : List (List Char) :=
  if path.getLast?.any isDrive then path else path.dropLast

/-- The segments of the first piece of a file's path: a drive is written with a colon, and ends its
segment. -/
def firstOfFile (piece : List Char) : List (List Char) :=
  match piece with
  | [] => [[]]
  | l :: rest =>
    if isDrive piece then [[l, ':']]
    else if isLetter l && [':'].isPrefixOf rest then [[l, ':'], percentEncode pathSet rest.tail]
    else [percentEncode pathSet piece]

/-- A path with one more piece carried out. Where the last piece is one of dots, an empty segment
stands for it. -/
def addPiece (kind : SchemeKind) (path : List (List Char)) (piece : List Char) (last : Bool) :
    List (List Char) :=
  let ending := if last then [[]] else []
  if isUp piece then climb path ++ ending
  else if isHere piece then path ++ ending
  else if kind = .file ∧ path = [] then firstOfFile piece
  else path ++ [percentEncode pathSet piece]

def addPieces (kind : SchemeKind) : List (List Char) → List (List Char) → List (List Char)
  | path, [] => path
  | path, [piece] => addPiece kind path piece true
  | path, piece :: next :: rest => addPieces kind (addPiece kind path piece false) (next :: rest)

/-- A path without empty segments at its start, unless nothing else is in it. -/
def collapse (path : List (List Char)) : List (List Char) :=
  match path.dropWhile List.isEmpty with
  | [] => [[]]
  | rest => rest

def pathFrom (kind : SchemeKind) (start : List (List Char)) (cs : List Char) : Path :=
  let path := addPieces kind start (pathPieces kind cs)
  .segments (if kind = .file then collapse path else path)

def dropSlash (kind : SchemeKind) (cs : List Char) : List Char :=
  match cs with
  | [] => []
  | c :: rest => if isSlash kind c then rest else cs

/-- The path behind an authority; only where the scheme is not well known it may be empty. -/
def pathBehindHost (kind : SchemeKind) (cs : List Char) : Path :=
  if kind = .other ∧ cs.head?.all endsPath then .segments []
  else pathFrom kind [] (dropSlash kind cs)

/-! ## Authorities -/

structure Authority where
  username : List Char
  password : List Char
  host : Host
  port : Option Nat
  rest : List Char

def endsAuthority (kind : SchemeKind) (c : Char) : Bool := isSlash kind c || endsPath c

/-- The text in front of the last at-sign of an authority, and what follows the sign. -/
def splitUser? (kind : SchemeKind) (cs : List Char) : Option (List Char × List Char) :=
  let region := cs.takeWhile (!endsAuthority kind ·)
  if '@' ∈ region then
    let user := (region.reverse.dropWhile (· != '@')).tail.reverse
    some (user, cs.drop (user.length + 1))
  else none

/-- The host and what follows it: a colon between brackets belongs to the host. -/
def splitHost (kind : SchemeKind) : Bool → List Char → List Char × List Char
  | _, [] => ([], [])
  | inside, c :: rest =>
    if (c == ':' && !inside) || endsAuthority kind c then ([], c :: rest)
    else
      let (host, behind) := splitHost kind (c == '[' || (inside && c != ']')) rest
      (c :: host, behind)

/-- The port at the start of a text, and what follows it. A port without digits, or the scheme's
own, is none. -/
def splitPort (scheme : List Char) (cs : List Char) :
    Except ParseError (Option Nat × List Char) :=
  let digits := cs.takeWhile isDigit
  let rest := cs.dropWhile isDigit
  let port := digitsValue 10 digits
  if 65535 < port then .error .invalidPort
  else if rest.head?.all (fun c => c ∈ ['/', '\\', '?', '#']) then
    .ok (if digits.isEmpty || defaultPort? scheme == some port then none else some port, rest)
  else .error .invalidPort

def hostAndPort (scheme : List Char) (cs : List Char) :
    Except ParseError (Host × Option Nat × List Char) := do
  let kind := SchemeKind.of scheme
  let (name, rest) := splitHost kind false cs
  if kind.isKnown && name.isEmpty then throw .emptyHost
  let host ← if kind.isKnown then Host.parse name else Host.parsePlain name
  match rest with
  | ':' :: rest =>
    if host = Host.empty then throw .emptyHost
    let (port, rest) ← splitPort scheme rest
    return (host, port, rest)
  | _ => return (host, none, rest)

/-- The authority at the start of a text. A user without a host is refused. -/
def authority (scheme : List Char) (cs : List Char) : Except ParseError Authority := do
  let kind := SchemeKind.of scheme
  match splitUser? kind cs with
  | none =>
    let (host, port, rest) ← hostAndPort scheme cs
    return ⟨[], [], host, port, rest⟩
  | some (user, behind) =>
    if user.isEmpty && behind.head?.any (endsAuthority kind) then throw .emptyHost
    let (host, port, rest) ← hostAndPort scheme behind
    let username := percentEncode userSet (user.takeWhile (· != ':'))
    let password := percentEncode userSet ((behind? ':' user).getD [])
    if host = Host.empty ∧ ¬(username = [] ∧ password = []) then throw .emptyHost
    return ⟨username, password, host, port, rest⟩

def behindSlashes (scheme : List Char) (cs : List Char) : Except ParseError Url := do
  let kind := SchemeKind.of scheme
  let a ← authority scheme cs
  let tail := tailOf kind a.rest
  return {
    scheme := scheme
    username := a.username
    password := a.password
    host := some a.host
    port := a.port
    path := pathBehindHost kind a.rest
    query := tail.query
    fragment := tail.fragment }

/-! ## Relative texts -/

def withTail (u : Url) (cs : List Char) : Url :=
  let tail := tailOf u.kind cs
  { u with query := tail.query, fragment := tail.fragment }

def withPath (u : Url) (path : Path) (cs : List Char) : Url :=
  withTail { u with path := path } cs

def withFragment (u : Url) (cs : List Char) : Url :=
  { u with fragment := (behind? '#' cs).map (percentEncode fragmentSet) }

/-- A path without its last segment, for a text to take its place. -/
def dropLastSegment (kind : SchemeKind) (path : List (List Char)) : List (List Char) :=
  if kind = .file ∧ path.getLast?.any isColonDrive then path else path.dropLast

def relative (base : Url) (cs : List Char) : Except ParseError Url :=
  let kind := base.kind
  let isEither (c : Char) : Bool := c == '/' || c == '\\'
  match cs with
  | [] => .ok base.withoutFragment
  | c :: rest =>
    if c = '?' then .ok (withTail base cs)
    else if c = '#' then .ok (withFragment base cs)
    else if isEither c then
      if rest.head?.any isEither then
        behindSlashes base.scheme
          (if ['/', '/'].isPrefixOf cs then rest.tail else cs.dropWhile isEither)
      else .ok (withPath base (pathFrom kind [] rest) rest)
    else .ok (withPath base (pathFrom kind (dropLastSegment kind base.segments) cs) cs)

/-! ## Files -/

def emptyFile : Url where
  scheme := "file".toList
  username := []
  password := []
  host := some Host.empty
  port := none
  path := .segments [[]]
  query := none
  fragment := none

/-- Whether a drive is the first segment at some point while the pieces of a path are carried out;
such a path has no host. -/
def meetsDrive : List (List Char) → List (List Char) → Bool
  | _, [] => false
  | path, piece :: rest =>
    (path.isEmpty && isDrive piece) || meetsDrive (addPiece .file path piece false) rest

def endsFileHost (c : Char) : Bool := endsAuthority .file c

/-- A file and the text behind its two slashes: a host, unless it is a drive, and a path. The local
host is the empty one. -/
def fileBehindSlashes (cs : List Char) : Except ParseError Url := do
  let name := cs.takeWhile (!endsFileHost ·)
  if isDrive name then return withPath emptyFile (pathFrom .file [] cs) cs
  let host ← if name.isEmpty then pure Host.empty else Host.parse name
  let host := if host = .domain "localhost".toList then Host.empty else host
  let rest := dropSlash .file (cs.dropWhile (!endsFileHost ·))
  let host := if meetsDrive [] (pathPieces .file rest) then Host.empty else host
  return withPath { emptyFile with host := some host } (pathFrom .file [] rest) rest

/-- A file and a text behind one slash; the base gives the drive or the host. -/
def fileBehindSlash (base : Option Url) (cs : List Char) : Url :=
  match base with
  | none => withPath emptyFile (pathFrom .file [] cs) cs
  | some b =>
    if startsWithDrive cs then withPath emptyFile (pathFrom .file [] cs) cs
    else match b.segments.head? with
      | some first =>
        if isColonDrive first then withPath emptyFile (pathFrom .file [first] cs) cs
        else withPath { emptyFile with host := b.host } (pathFrom .file [] cs) cs
      | none => withPath { emptyFile with host := b.host } (pathFrom .file [] cs) cs

def file (base : Option Url) (cs : List Char) : Except ParseError Url :=
  match cs with
  | [] => .ok ((base.map withoutFragment).getD emptyFile)
  | c :: rest =>
    if isSlash .file c then
      if rest.head?.any (isSlash .file) then fileBehindSlashes rest.tail
      else .ok (fileBehindSlash base rest)
    else match base with
      | none => .ok (withPath emptyFile (pathFrom .file [] cs) cs)
      | some b =>
        if c = '?' then .ok (withTail b cs)
        else if c = '#' then .ok (withFragment b cs)
        else if startsWithDrive cs then .ok (withPath emptyFile (pathFrom .file [] cs) cs)
        else .ok (withPath b (pathFrom .file (dropLastSegment .file b.segments) cs) cs)

/-! ## All texts -/

/-- A URL that has no host and is not a file: its path may be one text. -/
def hostless (scheme : List Char) (cs : List Char) : Url :=
  let path := match cs with
    | '/' :: rest => pathFrom .other [] rest
    | _ => .plain (percentEncode controlSet (cs.takeWhile (!endsPath ·)))
  withTail ⟨scheme, [], [], none, none, path, none, none⟩ cs

def absolute (base : Option Url) (scheme : List Char) (cs : List Char) : Except ParseError Url :=
  match SchemeKind.of scheme with
  | .file => file (base.filter (·.kind == .file)) cs
  | .hosted =>
    let isEither (c : Char) : Bool := c == '/' || c == '\\'
    match base with
    | some b =>
      if (cs.takeWhile isEither).length < 2 ∧ b.scheme = scheme then relative b cs
      else behindSlashes scheme (cs.dropWhile isEither)
    | none => behindSlashes scheme (cs.dropWhile isEither)
  | .other =>
    if ['/', '/'].isPrefixOf cs then behindSlashes scheme (cs.drop 2) else .ok (hostless scheme cs)

def schemeless (base : Option Url) (cs : List Char) : Except ParseError Url :=
  match base with
  | none => .error .relativeWithoutBase
  | some b =>
    if ['#'].isPrefixOf cs then .ok (withFragment b cs)
    else match b.path with
      | .plain _ => .error .relativeWithOpaqueBase
      | .segments _ => if b.kind = .file then file (some b) cs else relative b cs

/-- The URL a text denotes, relative to a base if there is one. -/
def parseFrom (base : Option Url) (text : List Char) : Except ParseError Url :=
  let cs := clean text
  match splitScheme? cs with
  | some (scheme, rest) => absolute base scheme rest
  | none => schemeless base cs

def parse (text : String) : Except ParseError Url := parseFrom none text.toList

def join (base : Url) (text : String) : Except ParseError Url := parseFrom (some base) text.toList

end MessageBundles.Url

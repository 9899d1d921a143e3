import MessageBundles.Files.Tree
import MessageBundles.Locator
import MessageBundles.Url.FilePath
import MessageBundles.Url.Parser

/-
  Fetching from a directory

  A locator names a file below a root directory: slashes in front of it say nothing, and it may climb
  only as far as it has gone down before. The URL of a local file is taken as it is, and no other
  locator with a scheme leads to a file.

  Correspondence:
    `FileFetcher::path_for` ↔ `pathOf`, `depth?`, `under`
    `FileFetcher::read`     ↔ `fromDirectory`
-/

namespace MessageBundles.Fetch

open Text

def fileStart : List Char := "file://".toList

/-- How deep a run of names leads, from a depth on; none where it climbs above the start. -/
def depth? : Nat → List (List Char) → Option Nat
  | depth, [] => some depth
  | depth, name :: rest =>
    if name = [] ∨ name = ['.'] then depth? depth rest
    else if name = ['.', '.'] then
      match depth with
      | 0 => none
      | above + 1 => depth? above rest
    else depth? (depth + 1) rest

/-- A root and a path behind it, with one slash between them where there is none. An empty root
leaves the path as it is. -/
def under (root path : List Char) : List Char :=
  if root = [] ∨ root.getLast? = some '/' then root ++ path else root ++ '/' :: path

def pathOf (root locator : String) : Except LocatorFault (List UInt8) :=
  if fileStart.isPrefixOf locator.toList then
    match Url.parse locator with
    | .error e => .error (.malformed e)
    | .ok u =>
      match u.filePath? with
      | none => .error .notLocal
      | some path => .ok path
  else if occursIn [':', '/', '/'] locator.toList then .error .unsupportedScheme
  else
    let relative := locator.toList.dropWhile (· == '/')
    match depth? 0 (split '/' relative) with
    | none => .error .escapesRoot
    | some _ => .ok (Utf8.encode (under root.toList relative))

def fromDirectory (files : Files.Tree) (root locator : String) : Except FetchError String :=
  match pathOf root locator with
  | .error fault => .error ⟨locator, .invalidLocator fault⟩
  | .ok path =>
    match files.readText path with
    | .error cause => .error ⟨locator, cause⟩
    | .ok text => .ok text

/-! ## Depths -/

end MessageBundles.Fetch

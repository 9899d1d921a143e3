import MessageBundles.Json.Writer
import MessageBundles.Number.Word64
import MessageBundles.Settings.Document
import MessageBundles.Text.Lowercase

/-
  Settings from a tree that was written by hand

  Values are taken for what they stand for: a text for a number or a truth value, a number or a truth
  value for a text, a number for a truth value and the other way round. A value that stands for
  nothing of the kind has the wrong type; where a section, a table or one of some choices is wanted,
  what is none is the wrong value.

  Correspondence:
    `try_deserialize`, of the library `config` ↔ `Settings.ofTree`
    `ConfigError`                              ↔ `SourceError`
-/

namespace MessageBundles

/-- Why settings cannot be read. -/
inductive SourceError where
  -- There is no file, or it is of no known format.
  | unreadable
  | malformed
  | wrongType
  -- A value is none of some choices, or no section or table.
  | wrongValue
  deriving DecidableEq, Repr

namespace Loose

open Text

/-- A truth value: a number counts as its being other than zero. -/
def boolean : Json → Except SourceError Bool
  | .boolean b => .ok b
  | .integer i => .ok (i != 0)
  | .real x => .ok (!x.isZero)
  | .string s =>
    let small := lowercased s
    if small ∈ ["1", "true", "on", "yes"] then .ok true
    else if small ∈ ["0", "false", "off", "no"] then .ok false
    else .error .wrongType
  | .null | .array _ | .object _ => .error .wrongType

/-- The number a text of digits stands for, with a plus sign or without, in the range of 64 bits. -/
def digitsNatural (cs : List Char) : Except SourceError Nat :=
  let ds := match cs with
    | '+' :: rest => rest
    | cs => cs
  match natural? 10 ds with
  | none => .error .wrongType
  | some n => if n < Word64.bound then .ok n else .error .wrongType

/-- A number that is not negative: a fraction goes to the nearest whole number. -/
def natural : Json → Except SourceError Nat
  | .boolean b => .ok (if b then 1 else 0)
  | .integer (.ofNat n) => .ok n
  | .integer (.negSucc _) => .error .wrongType
  | .real x => .ok x.toUnsigned64
  | .string s =>
    let small := lowercased s
    if small ∈ ["true", "on", "yes"] then .ok 1
    else if small ∈ ["false", "off", "no"] then .ok 0
    else digitsNatural s.toList
  | .null | .array _ | .object _ => .error .wrongType

def text : Json → Except SourceError String
  | .string s => .ok s
  | .boolean b => .ok (if b then "true" else "false")
  | .integer i => .ok (String.ofList (Json.integerText i))
  | .real x => .ok x.toText
  | .null | .array _ | .object _ => .error .wrongType

def optionalText : Json → Except SourceError (Option String)
  | .null => .ok none
  | v => (text v).map some

/-- The choice of a name, in letters of either case. -/
def choiceOf {α : Type} (choices : List α) (name : α → String) (s : String) :
    Except SourceError α :=
  match choices.find? (fun a => name a == lowercased s) with
  | some a => .ok a
  | none => .error .wrongValue

/-- One of some choices, by its name or by a table with the name as its only key. -/
def choice {α : Type} (choices : List α) (name : α → String) : Json → Except SourceError α
  | .string s => choiceOf choices name s
  | .object [(s, _)] => choiceOf choices name s
  | _ => .error .wrongValue

def textMembers : List (String × Json) → Except SourceError (List (String × String))
  | [] => .ok []
  | (k, v) :: rest => do
    let s ← text v
    let others ← textMembers rest
    return (k, s) :: others

def texts : Json → Except SourceError (Dict String)
  | .object members => (textMembers members).map Dict.ofList
  | _ => .error .wrongValue

/-- The fields of a section: a table, or a list of the fields in order. -/
def fields : Json → Except SourceError Json.Fields
  | .object members => .ok (.named members)
  | .array items => .ok (.ordered items)
  | _ => .error .wrongValue

/-- A field read, or its default where it is missing. -/
def read {α : Type} (f : Json.Fields) (place : Nat) (name : String)
    (convert : Json → Except SourceError α) (default : α) : Except SourceError α :=
  match f.find? place name with
  | none => .ok default
  | some v => convert v

def loader (v : Json) : Except SourceError LoaderSettings := do
  let f ← fields v
  let d := LoaderSettings.default
  let mode ← read f 0 "mode" (choice Mode.all Mode.name) d.mode
  let baseUrl ← read f 1 "base_url" text d.baseUrl
  let paths ← read f 2 "paths" texts d.paths
  let parentModule ← read f 3 "parent_module" optionalText d.parentModule
  let documentUrl ← read f 4 "document_url" optionalText d.documentUrl
  return ⟨mode, baseUrl, paths, parentModule, documentUrl⟩

def fetch (v : Json) : Except SourceError FetchSettings := do
  let f ← fields v
  let d := FetchSettings.default
  let backend ← read f 0 "backend" (choice Backend.all Backend.name) d.backend
  let root ← read f 1 "root" text d.root
  let httpBaseUrl ← read f 2 "http_base_url" optionalText d.httpBaseUrl
  let timeoutSeconds ← read f 3 "timeout_seconds" natural d.timeoutSeconds
  let userAgent ← read f 4 "user_agent" text d.userAgent
  return ⟨backend, root, httpBaseUrl, timeoutSeconds, userAgent⟩

def logging (v : Json) : Except SourceError LoggingSettings := do
  let f ← fields v
  let d := LoggingSettings.default
  let level ← read f 0 "level" text d.level
  let filePath ← read f 1 "file_path" optionalText d.filePath
  let json ← read f 2 "json" boolean d.json
  return ⟨level, filePath, json⟩

end Loose

/-- The settings a tree stands for. -/
def Settings.ofTree (v : Json) : Except SourceError Settings := do
  let f ← Loose.fields v
  let d := Settings.default
  let loader ← Loose.read f 0 "loader" Loose.loader d.loader
  let fetch ← Loose.read f 1 "fetch" Loose.fetch d.fetch
  let logging ← Loose.read f 2 "logging" Loose.logging d.logging
  return ⟨loader, fetch, logging⟩

end MessageBundles

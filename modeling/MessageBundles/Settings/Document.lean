import MessageBundles.Json.Basic
import MessageBundles.Settings.Basic

/-
  The JSON form of settings

  Settings are an object of three sections, and a section is an object of fields. A section or field
  that is missing has its default, and a name that is no field says nothing. A section may also be
  the array of its fields in order, with fields at the end left out. Types are strict: a number is
  no text, and null stands only for a text that need not be there.

  Correspondence:
    `Deserialize` of `Settings` and its sections ↔ `Settings.ofJson?` and those of the sections
    `Serialize` of them                          ↔ `Settings.toJson`
-/

namespace MessageBundles

namespace Json

/-- The fields of a section, by name or by place. -/
inductive Fields where
  | named (members : List (String × Json))
  | ordered (items : List Json)

/-- A value as the fields of a section, of which there are `count` at most. -/
def fields? (count : Nat) : Json → Option Fields
  | .object members => some (.named members)
  | .array items => if count < items.length then none else some (.ordered items)
  | _ => none

def Fields.find? (f : Fields) (place : Nat) (name : String) : Option Json :=
  match f with
  | .named members => member? members name
  | .ordered items => items[place]?

/-- A field read, or its default where it is missing. -/
def Fields.read {α : Type} (f : Fields) (place : Nat) (name : String) (read? : Json → Option α)
    (default : α) : Option α :=
  match f.find? place name with
  | none => some default
  | some v => read? v

def text? : Json → Option String
  | .string s => some s
  | _ => none

/-- A text, or nothing for null. -/
def optionalText? : Json → Option (Option String)
  | .null => some none
  | .string s => some (some s)
  | _ => none

def boolean? : Json → Option Bool
  | .boolean b => some b
  | _ => none

def unsigned? : Json → Option Nat
  | .integer (.ofNat n) => some n
  | _ => none

def texts? : Json → Option (Dict String)
  | .object members =>
    (members.mapM fun e => (text? e.2).map fun s => (e.1, s)).map Dict.ofList
  | _ => none

/-- One of some choices by its name, or by an object that has the name as its only member, with
nothing as its value. -/
def choice? {α : Type} (choices : List α) (name : α → String) : Json → Option α
  | .string s => choices.find? (name · == s)
  | .object [(s, .null)] => choices.find? (name · == s)
  | _ => none

end Json

open Json

def LoaderSettings.ofJson? (v : Json) : Option LoaderSettings := do
  let f ← fields? 5 v
  let d := LoaderSettings.default
  some {
    mode := ← f.read 0 "mode" (choice? Mode.all Mode.name) d.mode
    baseUrl := ← f.read 1 "base_url" text? d.baseUrl
    paths := ← f.read 2 "paths" texts? d.paths
    parentModule := ← f.read 3 "parent_module" optionalText? d.parentModule
    documentUrl := ← f.read 4 "document_url" optionalText? d.documentUrl }

def FetchSettings.ofJson? (v : Json) : Option FetchSettings := do
  let f ← fields? 5 v
  let d := FetchSettings.default
  some {
    backend := ← f.read 0 "backend" (choice? Backend.all Backend.name) d.backend
    root := ← f.read 1 "root" text? d.root
    httpBaseUrl := ← f.read 2 "http_base_url" optionalText? d.httpBaseUrl
    timeoutSeconds := ← f.read 3 "timeout_seconds" unsigned? d.timeoutSeconds
    userAgent := ← f.read 4 "user_agent" text? d.userAgent }

def LoggingSettings.ofJson? (v : Json) : Option LoggingSettings := do
  let f ← fields? 3 v
  let d := LoggingSettings.default
  some {
    level := ← f.read 0 "level" text? d.level
    filePath := ← f.read 1 "file_path" optionalText? d.filePath
    json := ← f.read 2 "json" boolean? d.json }

def Settings.ofJson? (v : Json) : Option Settings := do
  let f ← fields? 3 v
  let d := Settings.default
  some {
    loader := ← f.read 0 "loader" LoaderSettings.ofJson? d.loader
    fetch := ← f.read 1 "fetch" FetchSettings.ofJson? d.fetch
    logging := ← f.read 2 "logging" LoggingSettings.ofJson? d.logging }

/-! ## Writing -/

/-- The section on locating, with its fields in the order of their names. -/
def LoaderSettings.toJson (s : LoaderSettings) : Json :=
  .object [
    ("base_url", .string s.baseUrl),
    ("document_url", .ofOption s.documentUrl),
    ("mode", .string s.mode.name),
    ("parent_module", .ofOption s.parentModule),
    ("paths", .object (s.paths.entries.map fun e => (e.1, .string e.2)))]

def FetchSettings.toJson (s : FetchSettings) : Json :=
  .object [
    ("backend", .string s.backend.name),
    ("http_base_url", .ofOption s.httpBaseUrl),
    ("root", .string s.root),
    ("timeout_seconds", .integer s.timeoutSeconds),
    ("user_agent", .string s.userAgent)]

def LoggingSettings.toJson (s : LoggingSettings) : Json :=
  .object [
    ("file_path", .ofOption s.filePath),
    ("json", .boolean s.json),
    ("level", .string s.level)]

def Settings.toJson (s : Settings) : Json :=
  .object [
    ("fetch", s.fetch.toJson),
    ("loader", s.loader.toJson),
    ("logging", s.logging.toJson)]

end MessageBundles

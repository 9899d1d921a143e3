import MessageBundles.About
import MessageBundles.Files.Tree
import MessageBundles.Json.Reader
import MessageBundles.Number.Word64
import MessageBundles.Settings.Loose
import MessageBundles.Settings.Tree
import MessageBundles.Toml.Reader

/-
  Where settings come from

  Settings are read from a file and from the variables of the environment, in this order, so that a
  variable counts over the file field by field. The format of a file is told by its extension; where
  there is no file of the name that is asked for, the extensions are tried behind it. A variable
  stands for a setting if its name, in small letters, starts with the name of the program and two
  underscores; two underscores then separate the section and the field.

  Two things are left open, as `Formats`. The formats are tried in an order that nothing fixes, since
  the table of extensions keeps none; and only TOML and JSON are read here, so what a reader of one of
  the others makes of a text is arbitrary.

  Correspondence:
    `Settings::from_file`, `Settings::new`          ↔ `Settings.fromFile`, `Settings.discover`
    `Settings::environment`                         ↔ `Variables.setting?`, `Variables.layer`
    the look-up of a file in the library `config`   ↔ `SettingsFile.find?`, `Formats.candidates`
    its table of extensions, and their order        ↔ `Format.names`, `Formats.order`
    its readers of YAML, INI, RON and JSON5         ↔ `Formats.readForeign?`
-/

namespace MessageBundles

open Text

abbrev Variables : Type := Dict String

namespace Variables

/-- What a name starts with that stands for a setting. -/
def start : List Char := "bundle_loader__".toList

/-- A name with a dot for every two underscores. -/
def dotted : List Char → List Char
  | '_' :: '_' :: rest => '.' :: dotted rest
  | c :: rest => c :: dotted rest
  | [] => []

def setting? (e : String × String) : Option (String × Json) :=
  let small := lowercase e.1.toList
  if start.isPrefixOf small then
    some (String.ofList (dotted (small.drop start.length)), .string e.2)
  else none

def layer (env : Variables) : List (String × Json) := env.entries.filterMap setting?

end Variables

namespace SettingsFile

/-- The formats that are not read here. -/
inductive Foreign where
  | yaml
  | ini
  | ron
  | json5
  deriving DecidableEq, Repr

inductive Format where
  | toml
  | json
  | foreign (f : Foreign)
  deriving DecidableEq, Repr

/-- What a format is called in the name of a file, in the order in which this is tried. -/
def Format.names : Format → List String
  | .toml => ["toml"]
  | .json => ["json"]
  | .foreign .yaml => ["yaml", "yml"]
  | .foreign .ini => ["ini"]
  | .foreign .ron => ["ron"]
  | .foreign .json5 => ["json5"]

def Format.extensions (f : Format) : List (List UInt8) :=
  f.names.map fun name => Utf8.encode name.toList

def Format.all : List Format :=
  [.toml, .json, .foreign .yaml, .foreign .ini, .foreign .ron, .foreign .json5]

/-- What is left open about the formats. -/
structure Formats where
  -- The order in which they are tried, each of them once.
  order : List Format
  order_perm : order.Perm Format.all
  -- What the reader of another format makes of a text, if it can read it.
  readForeign? : Foreign → String → Option (List (String × Json))

/-- The formats that are read here come first, and no other format can be read. -/
def Formats.native : Formats := ⟨Format.all, .refl _, fun _ _ => none⟩

def dot : UInt8 := 0x2E

def fullPath (files : Files.Tree) (name : String) : List UInt8 :=
  let path := Utf8.encode name.toList
  if [Files.slash].isPrefixOf path then path
  else files.current.flatMap (Files.slash :: ·) ++ Files.slash :: path

def isFile (files : Files.Tree) (path : List UInt8) : Bool :=
  match files.look path with
  | .ok (.file _) => true
  | _ => false

def lastName (path : List UInt8) : Files.Name := ((split Files.slash path).getLast?).getD []

/-- The format of a file by the extension of its name; a dot in front of a name starts none. -/
def formatOf? (name : Files.Name) : Option Format :=
  let extension := (name.reverse.takeWhile (· != dot)).reverse
  if extension.length + 1 < name.length then Format.all.find? (·.extensions.contains extension)
  else none

/-- A path without the names at its end that stay where they are. -/
def dropStays (names : List Files.Name) : List Files.Name :=
  dropEndWhile (fun n => n == [] || n == Files.here) names

/-- The path with an extension behind its last name, if it has one. -/
def withExtension? (path : List UInt8) (extension : List UInt8) : Option (List UInt8) :=
  let names := dropStays (split Files.slash path)
  match names.getLast? with
  | none => none
  | some last => if last = Files.up then none else some (join Files.slash names ++ dot :: extension)

/-- The paths that are tried where there is no file at a path, each with its format. -/
def Formats.candidates (fs : Formats) (path : List UInt8) : List (List UInt8 × Format) :=
  fs.order.flatMap fun f =>
    f.extensions.filterMap fun extension => (withExtension? path extension).map (·, f)

/-- The paths a name may stand for, whatever order the formats are tried in. -/
def paths (files : Files.Tree) (name : String) : List (List UInt8) :=
  let path := fullPath files name
  path :: (Format.all.flatMap Format.extensions).filterMap (withExtension? path)

/-- The file a name stands for, and its format. A file of that very name is not passed over, even if
its format is unknown. -/
def find? (fs : Formats) (files : Files.Tree) (name : String) : Option (List UInt8 × Format) :=
  let path := fullPath files name
  if isFile files path then (formatOf? (lastName path)).map (path, ·)
  else (fs.candidates path).find? fun c => isFile files c.1

def dropMark : List UInt8 → List UInt8
  | 0xEF :: 0xBB :: 0xBF :: rest => rest
  | bytes => bytes

/-- The text of the file a name stands for; malformed bytes become U+FFFD. -/
def text? (fs : Formats) (files : Files.Tree) (name : String) : Option (String × Format) := do
  let (path, f) ← find? fs files name
  match files.read path with
  | .ok bytes => some (String.ofList (Utf8.decodeLossy (dropMark bytes)), f)
  | .error _ => none

mutual

/-- A value with every whole number outside the range of 64 bits with a sign as a floating-point
number. -/
def narrowed : Json → Json
  | .integer i =>
    if i < Word64.signedBound then .integer i else .real (Binary64.ofDecimal false i.toNat 0)
  | .array items => .array (narrowedItems items)
  | .object members => .object (narrowedMembers members)
  | .null => .null
  | .boolean b => .boolean b
  | .real x => .real x
  | .string s => .string s

def narrowedItems : List Json → List Json
  | [] => []
  | v :: rest => narrowed v :: narrowedItems rest

def narrowedMembers : List (String × Json) → List (String × Json)
  | [] => []
  | (k, v) :: rest => (k, narrowed v) :: narrowedMembers rest

end

/-- The table a text holds in some format. -/
def table? (fs : Formats) (text : String) : Format → Option (List (String × Json))
  | .toml => (Toml.read? text).bind members?
  | .json => (Json.read? text).bind fun v => members? (narrowed v)
  | .foreign f => fs.readForeign? f text
where
  members? : Json → Option (List (String × Json))
    | .object members => some members
    | _ => none

def layerOf (fs : Formats) (text : String) (f : Format) :
    Except SourceError (List (String × Json)) :=
  match table? fs text f with
  | some members => .ok members
  | none => .error .malformed

def layer (fs : Formats) (files : Files.Tree) (name : String) :
    Except SourceError (List (String × Json)) :=
  match text? fs files name with
  | none => .error .unreadable
  | some (text, f) => layerOf fs text f

def layerIfAny (fs : Formats) (files : Files.Tree) (name : String) :
    Except SourceError (List (String × Json)) :=
  match text? fs files name with
  | none => .ok []
  | some (text, f) => layerOf fs text f

end SettingsFile

namespace Settings

/-- The settings of two layers, the second over the first. -/
def ofLayers (file environment : List (String × Json)) : Except SourceError Settings :=
  ofTree (SettingTree.overlay (SettingTree.overlay SettingTree.bare file) environment)

def fromFile (fs : SettingsFile.Formats) (files : Files.Tree) (env : Variables) (name : String) :
    Except SourceError Settings := do
  let file ← SettingsFile.layer fs files name
  ofLayers file env.layer

/-- The settings of the file that is named for the program, if there is one, and the environment. -/
def discover (fs : SettingsFile.Formats) (files : Files.Tree) (env : Variables) :
    Except SourceError Settings := do
  let file ← SettingsFile.layerIfAny fs files About.name
  ofLayers file env.layer

end Settings

end MessageBundles

import MessageBundles.CommandLine.Run

/-
  Reach — the paths a run looks at

  Which files a run reads follows from what it has read before: the environment file, then the file of
  settings, then the file of the bundle. From the files that are known so far the paths that are
  looked at next can be told, so that three rounds are enough to know all of them.

  Nothing in the program corresponds to this; it tells the outer layer which files to look at, and no
  run reads it.
-/

namespace MessageBundles.CommandLine

def pathOfPlace (place : Files.Place) : List UInt8 := place.flatMap (Files.slash :: ·)

/-- The paths a file of settings may be at. -/
def settingsPaths (files : Files.Tree) (config : Option String) : List (List UInt8) :=
  SettingsFile.paths files (config.getD About.name)

/-- The path of the bundle a command asks for, if it is in a directory. -/
def bundlePath? (s : Settings) (c : Command) : Option (List UInt8) :=
  match c, s.fetch.backend with
  | .load reference _ _ _, .file =>
    match (Reference.classify reference).identifier? with
    | none => none
    | some id =>
      (Fetch.pathOf s.fetch.root ((Loader.ofSettings s.loader).locatorFor id)).toOption
  | _, _ => none

/-- The paths a run looks at, as far as the files known so far can tell. -/
def reach (fs : SettingsFile.Formats) (files : Files.Tree) (env : Variables)
    (arguments : List String) : List (List UInt8) :=
  let before := (Environment.places files.current).map pathOfPlace
  match read arguments with
  | .error _ => before
  | .ok i =>
    let behind := match settingsOf fs files (Environment.complete files env) i.config with
      | .error _ => []
      | .ok s => (s.logging.filePath.map fun p => Text.Utf8.encode p.toList).toList ++
          (bundlePath? s i.command).toList
    before ++ settingsPaths files i.config ++ behind

/-- The places a list of names passes, whether there is anything at them or not. -/
def passed : Files.Place → List Files.Name → List Files.Place
  | place, [] => [place]
  | place, name :: rest =>
    place :: passed
      (if name = [] ∨ name = Files.here then place
       else if name = Files.up then place.dropLast
       else place ++ [name]) rest

/-- The places a path passes. -/
def placesOn (current : Files.Place) (path : List UInt8) : List Files.Place :=
  passed (if [Files.slash].isPrefixOf path then [] else current) (Text.split Files.slash path)

end MessageBundles.CommandLine

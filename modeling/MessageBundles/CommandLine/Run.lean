import MessageBundles.About
import MessageBundles.CommandLine.Arguments
import MessageBundles.Environment.DotEnv
import MessageBundles.Json.Writer
import MessageBundles.Loader
import MessageBundles.Settings.Source
import MessageBundles.Settings.Validation

/-
  Runs — from a command line to what is printed

  A run reads the environment file, the command line and the settings, in this order, and makes the
  directory of the log where one is wanted. Then it prints an identifier or a bundle, or it ends with
  an error. The first thing that goes wrong is what is told.

  A run takes place on a platform, which settles what is left open otherwise: how files of settings are
  found and read, and in which order the table of a bundle hands out its entries.

  Correspondence:
    `main`                             ↔ `course`, `run`
    its reading of settings            ↔ `settingsOf`
    `init_logging`, its directory      ↔ `withLog?`
    the arms of `main` by `Command`    ↔ `perform`, `loadAndPrint`
    `print_bundle`                     ↔ `printed`
    the order of `MessageBundle::iter` ↔ `Platform.entries`
  What is written to a log and the text of the help are left out.
-/

namespace MessageBundles.CommandLine

/-- Why a run ends without what it was asked for. -/
inductive RunError where
  | settingsFile (path : String) (e : SourceError)
  | settings (e : SourceError)
  | load (e : LoadError)
  | noMessage (key : String)
  deriving DecidableEq, Repr

def RunError.message : RunError → String
  | .settingsFile path _ => "failed to read config " ++ path
  | .settings _ => "failed to load configuration"
  | .load e => e.message
  | .noMessage key => "no message for key '" ++ key ++ "'"

/-- How a run ends. -/
inductive Ending where
  | done (output : String)
  | help
  | version
  | misuse
  | failed (e : RunError)
  | noLog
  deriving DecidableEq, Repr

namespace Ending

def code : Ending → Nat
  | .done _ | .help | .version => 0
  | .failed _ => 1
  | .misuse => 2
  | .noLog => 101

/-- What a run prints; the text of the help is left to the program. -/
def output : Ending → String
  | .done output => output
  | .version => About.name ++ " " ++ About.version ++ "\n"
  | .help | .misuse | .failed _ | .noLog => ""

def error? : Ending → Option String
  | .failed e => some e.message
  | .done _ | .help | .version | .misuse | .noLog => none

end Ending

/-- What differs between the places a program runs at, and from run to run. -/
structure Platform where
  formats : SettingsFile.Formats
  -- The entries of a bundle in the order in which they are handed out.
  entries : Bundle → List (String × String)
  entries_enumerates : ∀ b, Bundle.Enumerates (entries b) b

/-- Only the formats that are read here, and entries in the order of their keys. -/
def Platform.plain : Platform := ⟨.native, Bundle.entries, Bundle.enumerates_entries⟩

def printed (p : Platform) (b : Bundle) (key : Option String) (format : OutputFormat) :
    Except RunError String :=
  match key with
  | some key =>
    match b.find? key with
    | some message => .ok (message ++ "\n")
    | none => .error (.noMessage key)
  | none =>
    match format with
    | .properties => .ok (Bundle.sortedLines (p.entries b))
    | .json => .ok (String.ofList (Json.indentedTexts (p.entries b) ++ ['\n']))

def settingsOf (fs : SettingsFile.Formats) (files : Files.Tree) (env : Variables)
    (config : Option String) : Except RunError Settings :=
  let read := match config with
    | some path => (Settings.fromFile fs files env path).mapError (RunError.settingsFile path)
    | none => (Settings.discover fs files env).mapError RunError.settings
  match read with
  | .error e => .error e
  | .ok s =>
    match s.validate with
    | .error e => .error (.load e)
    | .ok () => .ok s

/-- The files of a run once there is a directory for the log; none where it cannot be made. -/
def withLog? (files : Files.Tree) (s : LoggingSettings) : Option Files.Tree :=
  match s.filePath with
  | none => some files
  | some path =>
    let bytes := Text.Utf8.encode path.toList
    if 0 ∈ bytes then none
    else
      let start := if [Files.slash].isPrefixOf bytes then [] else files.current
      (files.makeDirectories start (Text.split Files.slash bytes)).toOption

/-- What a command asked the network for, in order, and what it prints. -/
structure Performance where
  requests : List String
  result : Except RunError String

/-- Load a bundle and print it. In build mode nothing is printed. -/
def loadAndPrint (p : Platform) (s : Settings) (w : World) (reference : Option String)
    (isBuild : Bool) (key : Option String) (format : OutputFormat) : Performance :=
  match Fetcher.ofSettings s.fetch with
  | .error e => ⟨[], .error (.load e)⟩
  | .ok f =>
    let mode := if isBuild then .build else s.loader.mode
    let attempt := (Loader.ofSettings s.loader).load f w mode reference
    ⟨attempt.requests, match attempt.result with
      | .error e => .error (.load e)
      | .ok .deferred => .ok ""
      | .ok (.loaded b) => printed p b key format⟩

def perform (p : Platform) (s : Settings) (w : World) : Command → Performance
  | .normalize reference =>
    ⟨[], match (Loader.ofSettings s.loader).cacheKey reference with
      | .error e => .error (.load e)
      | .ok id => .ok (id.text ++ "\n")⟩
  | .load reference isBuild key format =>
    loadAndPrint p s w reference isBuild key (format.getD .properties)

/-- What a run asked the network for, in order, and how it ends. -/
structure Course where
  requests : List String
  ending : Ending

def Course.ofPerformance (p : Performance) : Course :=
  ⟨p.requests, match p.result with
    | .error e => .failed e
    | .ok output => .done output⟩

def courseOf (p : Platform) (w : World) (env : Variables) (i : Invocation) : Course :=
  match settingsOf p.formats w.files env i.config with
  | .error e => ⟨[], .failed e⟩
  | .ok s =>
    match withLog? w.files s.logging with
    | none => ⟨[], .noLog⟩
    | some files => .ofPerformance (perform p s { w with files := files } i.command)

/-- The course of a run. -/
def course (p : Platform) (w : World) (env : Variables) (arguments : List String) : Course :=
  match read arguments with
  | .error .help => ⟨[], .help⟩
  | .error .version => ⟨[], .version⟩
  | .error .misuse => ⟨[], .misuse⟩
  | .ok i => courseOf p w (Environment.complete w.files env) i

/-- How a run ends. -/
def run (p : Platform) (w : World) (env : Variables) (arguments : List String) : Ending :=
  (course p w env arguments).ending

end MessageBundles.CommandLine

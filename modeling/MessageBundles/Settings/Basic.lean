import MessageBundles.About
import MessageBundles.Dict

/-
  Settings — how bundles are located and fetched, and what is logged

  Settings have three sections. Every field has a default, so settings can be given by what differs
  from the default.

  Correspondence:
    `Settings`, `LoaderConfig`, `FetchConfig` ↔ `Settings`, `LoaderSettings`, `FetchSettings`
    `LoggingConfig`                           ↔ `LoggingSettings`
    `ResolutionMode`, `FetchBackend`          ↔ `Mode`, `Backend`
    their `Default`                           ↔ `Settings.default` and those of the sections
-/

namespace MessageBundles

/-- When a bundle is wanted: now, or later than the run that asks for it. -/
inductive Mode where
  | runtime
  | build
  deriving DecidableEq, Repr

def Mode.name : Mode → String
  | .runtime => "runtime"
  | .build => "build"

def Mode.all : List Mode := [.runtime, .build]

inductive Backend where
  | http
  | file
  deriving DecidableEq, Repr

def Backend.name : Backend → String
  | .http => "http"
  | .file => "file"

def Backend.all : List Backend := [.http, .file]

structure LoaderSettings where
  mode : Mode
  baseUrl : String
  -- Module prefixes and the paths they are mapped to.
  paths : Dict String
  parentModule : Option String
  -- The document that relative locators are anchored to.
  documentUrl : Option String
  deriving DecidableEq

structure FetchSettings where
  backend : Backend
  root : String
  -- What the web backend joins relative locators onto.
  httpBaseUrl : Option String
  timeoutSeconds : Nat
  userAgent : String
  deriving DecidableEq

structure LoggingSettings where
  level : String
  filePath : Option String
  json : Bool
  deriving DecidableEq

structure Settings where
  loader : LoaderSettings
  fetch : FetchSettings
  logging : LoggingSettings
  deriving DecidableEq

/-- The settings of a loader that says nothing. -/
def LoaderSettings.default : LoaderSettings where
  mode := .runtime
  baseUrl := "./"
  paths := Dict.empty
  parentModule := none
  documentUrl := none

def FetchSettings.default : FetchSettings where
  backend := .file
  root := "."
  httpBaseUrl := none
  timeoutSeconds := 10
  userAgent := About.agent

def LoggingSettings.default : LoggingSettings where
  level := "info"
  filePath := none
  json := false

def Settings.default : Settings :=
  ⟨LoaderSettings.default, FetchSettings.default, LoggingSettings.default⟩

end MessageBundles

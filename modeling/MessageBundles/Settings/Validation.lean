import MessageBundles.LoadError
import MessageBundles.Settings.Basic
import MessageBundles.Url.Parser

/-
  Which settings can be used

  The sections are looked at in order, and the first fault found is the answer.

  Correspondence:
    `validate_settings`       ↔ `Settings.validate`
    `validate_loader_config`  ↔ `LoaderSettings.validate`
    `validate_fetch_config`   ↔ `FetchSettings.validate`
    `validate_logging_config` ↔ `LoggingSettings.validate`
-/

namespace MessageBundles

/-- A document is not empty where there is one, and no module prefix is empty. -/
def LoaderSettings.validate (s : LoaderSettings) : Except LoadError Unit :=
  if s.documentUrl = some "" then .error (.settings .emptyDocumentUrl)
  else if s.paths.contains "" then .error (.settings .emptyPathPrefix)
  else .ok ()

/-- There is time for a fetch; the file backend has a directory, and the base of the web backend is
a URL where there is one. -/
def FetchSettings.validate (s : FetchSettings) : Except LoadError Unit :=
  if s.timeoutSeconds = 0 then .error (.settings .noTimeout)
  else match s.backend with
    | .file => if s.root = "" then .error (.settings .emptyRoot) else .ok ()
    | .http =>
      match s.httpBaseUrl with
      | none => .ok ()
      | some base =>
        match Url.parse base with
        | .ok _ => .ok ()
        | .error e => .error (.url e)

def LoggingSettings.validate (s : LoggingSettings) : Except LoadError Unit :=
  if s.level = "" then .error (.settings .emptyLevel)
  else if s.level ∈ logLevels then .ok ()
  else .error (.settings (.unknownLevel s.level))

/-- The first fault of the sections in order. -/
def Settings.validate (s : Settings) : Except LoadError Unit := do
  s.loader.validate
  s.fetch.validate
  s.logging.validate

end MessageBundles

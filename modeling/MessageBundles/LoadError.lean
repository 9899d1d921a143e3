import MessageBundles.Fetch.Error

/-
  What can go wrong with a load, from the reference to the settings it is made with

  Correspondence:
    `BundleError`                                    ↔ `LoadError`
    `is_recoverable`, `severity`                     ↔ `LoadError.isRecoverable`, `LoadError.severity`
    `ErrorSeverity`                                  ↔ `Severity`
    the texts of `validate_settings` and `normalize` ↔ `SettingsFault.message` and so on
-/

namespace MessageBundles

/-- Why a reference stands for no bundle. -/
inductive ReferenceFault where
  | loneSlash
  | other (reason : String)
  deriving DecidableEq, Repr

def ReferenceFault.message : ReferenceFault → String
  | .loneSlash => "bundle path cannot be a single '/'"
  | .other reason => reason

/-- Why settings cannot be used. -/
inductive SettingsFault where
  | emptyDocumentUrl
  | emptyPathPrefix
  | noTimeout
  | emptyRoot
  | emptyLevel
  | unknownLevel (level : String)
  | other (reason : String)
  deriving DecidableEq, Repr

def logLevels : List String := ["trace", "debug", "info", "warn", "error"]

def SettingsFault.message : SettingsFault → String
  | .emptyDocumentUrl => "Document URL cannot be empty when set"
  | .emptyPathPrefix => "Path overrides cannot use an empty module prefix"
  | .noTimeout => "Fetch timeout must be greater than 0"
  | .emptyRoot => "File root is required for the file backend"
  | .emptyLevel => "Log level is required"
  | .unknownLevel level => "Invalid log level: " ++ level ++ ". Valid levels: [" ++
      ", ".intercalate (logLevels.map fun l => "\x22" ++ l ++ "\x22") ++ "]"
  | .other reason => reason

inductive LoadError where
  | invalidReference (fault : ReferenceFault)
  | fetch (e : FetchError)
  | settings (fault : SettingsFault)
  | client (reason : String)
  | url (e : Url.ParseError)
  deriving DecidableEq, Repr

namespace LoadError

def message : LoadError → String
  | .invalidReference fault => "Invalid bundle reference: " ++ fault.message
  | .fetch e => "Resource load error: " ++ e.message
  | .settings fault => "Configuration error: " ++ fault.message
  | .client reason => "HTTP client error: " ++ reason
  | .url e => "URL parsing error: " ++ e.message

/-- Whether the same load may succeed another time. -/
def isRecoverable : LoadError → Bool
  | .fetch e => e.isRecoverable
  | .client _ => true
  | .invalidReference _ | .settings _ | .url _ => false

inductive Severity where
  | warning
  | error
  | critical
  deriving DecidableEq, Repr

def Severity.name : Severity → String
  | .warning => "WARN"
  | .error => "ERROR"
  | .critical => "CRITICAL"

/-- How bad an error is: settings that cannot be used stop everything, and a bundle that is not there
may be meant. -/
def severity : LoadError → Severity
  | .settings _ => .critical
  | .invalidReference _ => .warning
  | .fetch e => if e.cause = .notFound then .warning else .error
  | .client _ | .url _ => .error

end LoadError

end MessageBundles

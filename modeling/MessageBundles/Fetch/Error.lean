import MessageBundles.Url.Error
import MessageBundles.Web.Status

/-
  What can go wrong with a fetch

  An error names the locator that was asked for, whatever the locator was turned into on the way, and
  one cause. The causes fall into five kinds; a kind decides whether asking again may help.

  Correspondence:
    `ResourceLoadError`                       ↔ `FetchError`, `FetchCause`
    `ResourceLoadError::locator`              ↔ `FetchError.locator`
    its part of `BundleError::is_recoverable` ↔ `FetchError.isRecoverable`
-/

namespace MessageBundles

/-- Why a request was not answered with a text. -/
inductive RequestFault where
  | status (code : Nat)
  | unsupportedScheme (url : String)
  | unreachable (url : String)
  | unresolved (url : String)
  -- The connection ended before there was an answer.
  | dropped (url : String)
  | tooManyRedirects (url : String)
  -- The body ended before its length.
  | truncated
  | other (reason : String)
  deriving DecidableEq, Repr

def RequestFault.message : RequestFault → String
  | .status code => "HTTP " ++ Web.statusText code
  | .unsupportedScheme url => "builder error for url (" ++ url ++ "): URL scheme is not allowed"
  | .unreachable url => "error sending request for url (" ++ url ++
      "): error trying to connect: tcp connect error: Network is unreachable (os error 101)"
  | .unresolved url => "error sending request for url (" ++ url ++
      "): error trying to connect: dns error: failed to lookup address information: " ++
      "Temporary failure in name resolution"
  | .dropped url => "error sending request for url (" ++ url ++
      "): connection closed before message completed"
  | .tooManyRedirects url => "error following redirect for url (" ++ url ++ "): too many redirects"
  | .truncated => "request or response body error: error reading a body from connection: " ++
      "end of file before message length reached"
  | .other reason => reason

/-- Why a locator leads nowhere. -/
inductive LocatorFault where
  | malformed (e : Url.ParseError)
  -- A relative locator has nothing to be relative to.
  | noBase
  -- The URL of a file names a host.
  | notLocal
  | unsupportedScheme
  | escapesRoot
  | other (reason : String)
  deriving DecidableEq, Repr

def LocatorFault.message : LocatorFault → String
  | .malformed e => e.message
  | .noBase => "relative locator and no base URL configured"
  | .notLocal => "not a local file URL"
  | .unsupportedScheme => "unsupported scheme for file fetcher"
  | .escapesRoot => "path escapes the fetcher root"
  | .other reason => reason

/-- Why a file that is there cannot be read as a text. -/
inductive ReadFault where
  | isDirectory
  | notDirectory
  | nameTooLong
  | notUtf8
  | containsNul
  | other (reason : String)
  deriving DecidableEq, Repr

def ReadFault.message : ReadFault → String
  | .isDirectory => "Is a directory (os error 21)"
  | .notDirectory => "Not a directory (os error 20)"
  | .nameTooLong => "File name too long (os error 36)"
  | .notUtf8 => "stream did not contain valid UTF-8"
  | .containsNul => "file name contained an unexpected NUL byte"
  | .other reason => reason

inductive FetchCause where
  | notFound
  | timedOut
  | requestFailed (fault : RequestFault)
  | invalidLocator (fault : LocatorFault)
  | unreadable (fault : ReadFault)
  deriving DecidableEq, Repr

structure FetchError where
  locator : String
  cause : FetchCause
  deriving DecidableEq, Repr

def FetchError.message (e : FetchError) : String :=
  match e.cause with
  | .notFound => "Resource not found: " ++ e.locator
  | .timedOut => "Timed out fetching " ++ e.locator
  | .requestFailed fault => "Request for " ++ e.locator ++ " failed: " ++ fault.message
  | .invalidLocator fault => "Invalid resource locator " ++ e.locator ++ ": " ++ fault.message
  | .unreadable fault => "I/O error reading " ++ e.locator ++ ": " ++ fault.message

/-- Whether the same fetch may bring a text another time. -/
def FetchError.isRecoverable (e : FetchError) : Bool :=
  match e.cause with
  | .timedOut | .requestFailed _ | .unreadable _ => true
  | .notFound | .invalidLocator _ => false

end MessageBundles

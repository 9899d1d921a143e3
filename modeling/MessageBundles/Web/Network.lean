import MessageBundles.Fetch.Error
import MessageBundles.Url.Parser
import MessageBundles.Web.Charset

/-
  Networks — which requests are answered, and how

  A network answers the plain requests from a table of resources, or it leads nowhere. A resource may
  send the request elsewhere; at most ten times this is followed. The last answer is a text, or else
  one of the causes a fetch fails for.
    1. `final_eq_notFound` — an answer is "not found" for one status code only.

  Correspondence:
    `HttpFetcher::get`, the status of the answer     ↔ `Resource.final`
    sending a request in the library `reqwest`       ↔ `Network.get`
    its following of redirects, ten at most          ↔ `follow`, `Resource.next?`, `maxRedirects`
    the network itself                               ↔ `Network`
  No secure connection comes about in such a network.
-/

namespace MessageBundles.Web

/-- What keeps an answer from being complete. -/
inductive Fault where
  -- The connection ends without an answer.
  | dropped
  -- There is an answer, but its body breaks off, or does not come in time.
  | truncated
  -- No answer comes in time.
  | stalled
  deriving DecidableEq, Repr

structure Resource where
  status : Nat
  body : List UInt8
  contentType : Option String
  location : Option String
  fault : Option Fault
  deriving DecidableEq, Repr

inductive Network where
  | unreachable
  -- A plain request is answered with the resource at its URL, if there is one.
  | answering (resource? : String → Option Resource)

/-- The requests that were sent, in order, answered or not, and what came of them. -/
structure Exchange where
  requests : List String
  result : Except FetchCause String

def maxRedirects : Nat := 10

def requestUrl (u : Url) : String := u.withoutCredentials.withoutFragment.toText

def shownUrl (u : Url) : String := u.withoutCredentials.toText

def Resource.final (r : Resource) : Except FetchCause String :=
  if r.status = notFoundCode then .error .notFound
  else if !isSuccess r.status then .error (.requestFailed (.status r.status))
  else if isBodiless r.status then .ok ""
  else if r.fault = some .truncated then .error (.requestFailed .truncated)
  else .ok (bodyText r.contentType r.body)

def Resource.next? (r : Resource) (u : Url) : Option Url :=
  if isRedirect r.status then r.location.bind fun l => (u.join l).toOption else none

/-- Ask for a URL, and be sent elsewhere so many times at most. -/
def follow (resource? : String → Option Resource) : Nat → Url → Exchange
  | limit, u =>
    if u.scheme = "https".toList then ⟨[], .error (.requestFailed (.unreachable (shownUrl u)))⟩
    else if u.scheme ≠ "http".toList then
      ⟨[], .error (.requestFailed (.unsupportedScheme (shownUrl u)))⟩
    else match resource? (requestUrl u) with
      | none => ⟨[requestUrl u], .error .notFound⟩
      | some r =>
        if r.fault = some .stalled then ⟨[requestUrl u], .error .timedOut⟩
        else if r.fault = some .dropped then
          ⟨[requestUrl u], .error (.requestFailed (.dropped (shownUrl u)))⟩
        else match r.next? u with
          | none => ⟨[requestUrl u], r.final⟩
          | some next =>
            match limit with
            | 0 => ⟨[requestUrl u], .error (.requestFailed (.tooManyRedirects (shownUrl u)))⟩
            | limit + 1 =>
              let rest := follow resource? limit next
              ⟨requestUrl u :: rest.requests, rest.result⟩

def Network.get (n : Network) (u : Url) : Exchange :=
  if !u.hasHost || (u.scheme ≠ "http".toList && u.scheme ≠ "https".toList) then
    ⟨[], .error (.requestFailed (.unsupportedScheme (shownUrl u)))⟩
  else match n with
    | .answering resource? => follow resource? maxRedirects u
    | .unreachable =>
      let isNamed := match u.host with
        | some (.domain _) => u.scheme == "https".toList
        | _ => false
      ⟨[], .error (.requestFailed
        (if isNamed then .unresolved (shownUrl u) else .unreachable (shownUrl u)))⟩

/-! ## Answers -/

/-- Only one status code tells that there is nothing at a URL. -/
theorem final_eq_notFound {r : Resource} : r.final = .error .notFound ↔ r.status = notFoundCode := by
  simp only [Resource.final]
  split
  · simp_all
  · split
    · simp_all
    · split
      · simp_all
      · split <;> simp_all

end MessageBundles.Web

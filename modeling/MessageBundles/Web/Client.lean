import MessageBundles.LoadError
import MessageBundles.Settings.Basic
import MessageBundles.Web.Network

/-
  Fetching from the web

  A locator is a URL of its own, or else relative to the base of the client.

  Correspondence:
    `HttpFetcher::new`     ↔ `Client.ofSettings`
    `HttpFetcher::resolve` ↔ `Client.resolve`
    `HttpFetcher::get`     ↔ `Client.get`
-/

namespace MessageBundles.Web

/-- What locators are asked for with. -/
structure Client where
  -- What relative locators are joined onto.
  base : Option Url
  -- What a request says of who sends it.
  agent : String

/-- Whether a character may not stand in the agent of a request. -/
def isControl (c : Char) : Bool := (c.toNat < 0x20 && c != '\t') || c.toNat == 0x7F

/-- The client of settings. A fault of the agent counts before one of the base. -/
def Client.ofSettings (s : FetchSettings) : Except LoadError Client :=
  if s.userAgent.toList.any isControl then
    .error (.client "builder error: failed to parse header value")
  else match s.httpBaseUrl with
    | none => .ok ⟨none, s.userAgent⟩
    | some base =>
      match Url.parse base with
      | .ok u => .ok ⟨some u, s.userAgent⟩
      | .error e => .error (.url e)

def Client.resolve (c : Client) (locator : String) : Except LocatorFault Url :=
  match Url.parse locator with
  | .ok u => .ok u
  | .error .relativeWithoutBase =>
    match c.base with
    | none => .error .noBase
    | some base =>
      match base.join locator with
      | .ok u => .ok u
      | .error e => .error (.malformed e)
  | .error e => .error (.malformed e)

def Client.get (c : Client) (n : Network) (locator : String) : Exchange :=
  match c.resolve locator with
  | .error fault => ⟨[], .error (.invalidLocator fault)⟩
  | .ok u => n.get u

theorem Client.resolve_of_no_base {c : Client} {locator : String} (hbase : c.base = none)
    (h : Url.parse locator = .error .relativeWithoutBase) :
    c.resolve locator = .error .noBase := by
  simp [Client.resolve, h, hbase]

end MessageBundles.Web

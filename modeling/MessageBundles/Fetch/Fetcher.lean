import MessageBundles.Fetch.Directory
import MessageBundles.Web.Client

/-
  Fetchers — memory, a directory, or the web

  A fetcher turns a locator into a text. Whatever it does on the way, its errors name the locator it
  was given.
    1. `fetch_error_locator` — the error of a fetch names the locator that was asked for.
    2. `fetch_memory` — a table in memory has a text for a locator exactly if it holds one.

  Correspondence:
    `ResourceFetcher::fetch`                      ↔ `Fetcher.fetch`
    `MemoryFetcher`, `FileFetcher`, `HttpFetcher` ↔ the constructors of `Fetcher`
    `create_fetcher`                              ↔ `Fetcher.ofSettings`
    what is there to be read                      ↔ `World`
-/

namespace MessageBundles

/-- What fetchers read. -/
structure World where
  files : Files.Tree
  network : Web.Network

inductive Fetcher where
  | memory (texts : Dict String)
  | directory (root : String)
  | web (client : Web.Client)

/-- What a fetch asked the network for, and what it brought. -/
structure Fetched where
  requests : List String
  result : Except FetchError String

namespace Fetcher

def ofSettings (s : FetchSettings) : Except LoadError Fetcher :=
  match s.backend with
  | .file => .ok (.directory s.root)
  | .http =>
    match Web.Client.ofSettings s with
    | .ok c => .ok (.web c)
    | .error e => .error e

def fetch (f : Fetcher) (w : World) (locator : String) : Fetched :=
  match f with
  | .memory texts =>
    ⟨[], match texts.find? locator with
      | some text => .ok text
      | none => .error ⟨locator, .notFound⟩⟩
  | .directory root => ⟨[], Fetch.fromDirectory w.files root locator⟩
  | .web client =>
    let exchange := client.get w.network locator
    ⟨exchange.requests, match exchange.result with
      | .ok text => .ok text
      | .error cause => .error ⟨locator, cause⟩⟩

theorem fetch_error_locator {f : Fetcher} {w : World} {locator : String} {e : FetchError}
    (h : (f.fetch w locator).result = .error e) : e.locator = locator := by
  cases f with
  | memory texts =>
    simp only [fetch] at h
    split at h
    · cases h
    · cases h; rfl
  | directory root =>
    simp only [fetch, Fetch.fromDirectory] at h
    split at h
    · cases h; rfl
    · split at h
      · cases h; rfl
      · cases h
  | web client =>
    simp only [fetch] at h
    split at h
    · cases h
    · cases h; rfl

/-- A table in memory has a text for a locator exactly if it holds one. -/
theorem fetch_memory (texts : Dict String) (w : World) (locator text : String) :
    ((memory texts).fetch w locator).result = .ok text ↔ texts.find? locator = some text := by
  simp only [fetch]
  split <;> simp_all

end Fetcher

end MessageBundles

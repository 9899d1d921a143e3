import MessageBundles.Loader

/-
  Sessions — one loader and one fetcher, asked time and again

  A session keeps the fetcher, whose table in memory may grow, and the number of fetches tried so
  far. An answer is never kept.

  Correspondence:
    `MemoryFetcher::insert`, `MemoryFetcher::calls` ↔ `Step.insert`, `Session.calls`
    a `BundleLoader` and a `ResourceFetcher` in use ↔ `Session`, `Session.run`
-/

namespace MessageBundles

structure Session where
  loader : Loader
  mode : Mode
  fetcher : Fetcher
  calls : Nat

namespace Session

inductive Step where
  | load (reference : Option String) (mode : Option Mode)
  | fetch (locator : String)
  | cacheKey (reference : Option String)
  | locate (reference : Option String)
  | insert (locator text : String)
  deriving DecidableEq, Repr

inductive Answer where
  | load (result : Except LoadError Outcome)
  | fetch (result : Except FetchError String)
  | cacheKey (result : Except LoadError Identifier)
  | locate (result : Except LoadError String)
  | insert

/-- What one step comes to: the answer, what was asked of the network, and the session behind it. -/
structure Turn where
  answer : Answer
  requests : List String
  session : Session

/-- A session with a text put into the table in memory; other fetchers hold no table. -/
def store (s : Session) (locator text : String) : Session :=
  match s.fetcher with
  | .memory texts => { s with fetcher := .memory (texts.insert locator text) }
  | _ => s

def run (s : Session) (w : World) : Step → Turn
  | .load reference mode =>
    let attempt := s.loader.load s.fetcher w (mode.getD s.mode) reference
    ⟨.load attempt.result, attempt.requests, { s with calls := s.calls + attempt.fetched.length }⟩
  | .fetch locator =>
    let fetched := s.fetcher.fetch w locator
    ⟨.fetch fetched.result, fetched.requests, { s with calls := s.calls + 1 }⟩
  | .cacheKey reference => ⟨.cacheKey (s.loader.cacheKey reference), [], s⟩
  | .locate reference =>
    ⟨.locate ((Reference.classify reference).identify.map s.loader.locatorFor), [], s⟩
  | .insert locator text => ⟨.insert, [], s.store locator text⟩

def runAll (w : World) : Session → List Step → List Turn
  | _, [] => []
  | s, step :: rest =>
    let turn := s.run w step
    turn :: runAll w turn.session rest

theorem length_runAll (w : World) (s : Session) (steps : List Step) :
    (runAll w s steps).length = steps.length := by
  induction steps generalizing s with
  | nil => rfl
  | cons step rest ih => simp [runAll, ih]

end Session

end MessageBundles

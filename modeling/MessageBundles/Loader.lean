import MessageBundles.Bundle.Properties
import MessageBundles.Fetch.Fetcher
import MessageBundles.Module.Resolver
import MessageBundles.Reference

/-
  Loaders — from a reference to a bundle

  A reference stands for an identifier, an identifier has a locator, and the text behind the locator
  is a bundle. In build mode the identifier is all that is asked for. Nothing is kept between two
  loads.
    1. `load_of_identify_error` — a reference without an identifier fetches nothing, in either mode.
    2. `load_build` — in build mode nothing is fetched and no text is read.
    3. `loadBy_runtime` and `load_runtime` — in runtime mode the locator of the identifier is fetched,
       once, and a load does nothing beside that.

  Correspondence:
    `normalize`                          ↔ `Reference.identify`
    `BundleLoader`, `create_loader`      ↔ `Loader`, `Loader.ofSettings`
    `ModulePaths::from_config`           ↔ `Loader.resolverOf`
    `normalize_for_cache`, `locator_for` ↔ `cacheKey`, `locatorFor`
    `BundleLoader::load`, `LoadOutcome`  ↔ `load`, `Outcome`
  `loadBy` is the load for any way to fetch; `load` is the case of a fetcher.
-/

namespace MessageBundles

/-- The identifier a reference stands for, or why there is none. -/
def Reference.identify (r : Reference) : Except LoadError Identifier :=
  match r.identifier? with
  | some id => .ok id
  | none => .error (.invalidReference .loneSlash)

inductive Outcome where
  | loaded (b : Bundle)
  -- The bundle is left to a later run.
  | deferred
  deriving DecidableEq

/-- What a load fetched, in order, what it asked the network for, and what it came to. -/
structure Attempt where
  fetched : List String
  requests : List String
  result : Except LoadError Outcome

/-- What locators are computed from. -/
structure Loader where
  resolver : Module.Resolver
  -- The document that locators with a dot in front are anchored to.
  document : Option String
  deriving DecidableEq

namespace Loader

def resolverOf (s : LoaderSettings) : Module.Resolver :=
  let r := (Module.Resolver.ofBase s.baseUrl).overrideMany s.paths.entries
  match s.parentModule with
  | none => r
  | some parent => r.withParent parent

def ofSettings (s : LoaderSettings) : Loader := ⟨resolverOf s, s.documentUrl⟩

/-- The identifier that requests for one bundle are known by. -/
def cacheKey (l : Loader) (reference : Option String) : Except LoadError Identifier := do
  let id ← (Reference.classify reference).identify
  return ⟨String.ofList (l.resolver.resolve id.text.toList)⟩

def locatorFor (l : Loader) (id : Identifier) : String :=
  let locator := String.ofList (l.resolver.locate id.text.toList) ++ Locator.extension
  match l.document with
  | none => locator
  | some document =>
    if ['.'].isPrefixOf locator.toList then Locator.anchor document locator else locator

def outcomeOf : Except FetchError String → Except LoadError Outcome
  | .ok text => .ok (.loaded (Bundle.fromProperties text))
  | .error e => .error (.fetch e)

/-- What has been fetched so far, in order, and what was asked of the network for it. -/
structure Log where
  fetched : List String
  requests : List String

/-- A fetch that leaves its locator and its requests in a log. -/
def fetchLogged (f : Fetcher) (w : World) (locator : String) :
    StateM Log (Except FetchError String) := fun log =>
  let fetched := f.fetch w locator
  (fetched.result, ⟨log.fetched ++ [locator], log.requests ++ fetched.requests⟩)

/-- Load the bundle a reference stands for, by whatever fetch there is. -/
def loadBy {m : Type → Type} [Monad m] (l : Loader)
    (fetch : String → m (Except FetchError String)) (mode : Mode) (reference : Option String) :
    m (Except LoadError Outcome) :=
  match (Reference.classify reference).identify with
  | .error e => return .error e
  | .ok id =>
    match mode with
    | .build => return .ok .deferred
    | .runtime => do
      let result ← fetch (l.locatorFor id)
      return outcomeOf result

/-- Load the bundle a reference stands for, with a log of the fetches from the start. -/
def load (l : Loader) (f : Fetcher) (w : World) (mode : Mode) (reference : Option String) :
    Attempt :=
  let (result, log) := (l.loadBy (fetchLogged f w) mode reference).run ⟨[], []⟩
  ⟨log.fetched, log.requests, result⟩

/-! ## Loads -/

section LoadBy
variable {m : Type → Type} [Monad m] {l : Loader} {fetch : String → m (Except FetchError String)}
  {reference : Option String}

theorem loadBy_of_identify_error {e : LoadError} {mode : Mode}
    (h : (Reference.classify reference).identify = .error e) :
    l.loadBy fetch mode reference = pure (.error e) := by
  simp only [loadBy, h]

theorem loadBy_build {id : Identifier} (h : (Reference.classify reference).identify = .ok id) :
    l.loadBy fetch .build reference = pure (.ok .deferred) := by
  simp only [loadBy, h]

/-- Whatever a fetch does, a load at runtime does it once, for the locator of the identifier, and
nothing beside it. -/
theorem loadBy_runtime {id : Identifier} (h : (Reference.classify reference).identify = .ok id) :
    l.loadBy fetch .runtime reference =
      (fetch (l.locatorFor id) >>= fun result => pure (outcomeOf result)) := by
  simp only [loadBy, h]

end LoadBy

/-- A reference without an identifier fetches nothing, in either mode. -/
theorem load_of_identify_error {reference : Option String} {e : LoadError}
    (h : (Reference.classify reference).identify = .error e) (l : Loader) (f : Fetcher) (w : World)
    (mode : Mode) : l.load f w mode reference = ⟨[], [], .error e⟩ := by
  rw [load, loadBy_of_identify_error h]
  rfl

theorem load_build {reference : Option String} {id : Identifier}
    (h : (Reference.classify reference).identify = .ok id) (l : Loader) (f : Fetcher) (w : World) :
    l.load f w .build reference = ⟨[], [], .ok .deferred⟩ := by
  rw [load, loadBy_build h]
  rfl

theorem load_runtime {reference : Option String} {id : Identifier}
    (h : (Reference.classify reference).identify = .ok id) (l : Loader) (f : Fetcher) (w : World) :
    l.load f w .runtime reference =
      ⟨[l.locatorFor id], (f.fetch w (l.locatorFor id)).requests,
        outcomeOf (f.fetch w (l.locatorFor id)).result⟩ := by
  rw [load, loadBy_runtime h]
  rfl

end Loader

end MessageBundles

import MessageBundles.Proofs.Reference.Spellings

/-
  One fetch — a load is the locator of a reference, one fetch of it, and the text that brings, read

  `loadBy` works with any fetch in any monad, and `load` is that with a fetch that keeps a log. So the
  log tells what was really fetched. What is proved is `load_eq_one_fetch`: a lone slash fails in either
  mode and fetches nothing; every other reference fetches nothing in build mode, and its locator, once,
  at runtime, with the outcome or the error of that fetch alone; and an error of any fetcher names the
  locator it was given.
-/

namespace MessageBundles.Loader

/-- A load is the locator of the reference's identifier, one fetch of it, and the text that brings,
read; a lone slash has no identifier, and build mode asks for none of this. Whatever goes wrong with a
fetch is told of the locator it was given. -/
theorem load_eq_one_fetch (s : Settings) (f : Fetcher) (w : World) (reference : Option String) :
    (reference = some "/" → ∀ mode, (ofSettings s.loader).load f w mode reference =
      ⟨[], [], .error (.invalidReference .loneSlash)⟩) ∧
    (reference ≠ some "/" → ∃ id, (Reference.classify reference).identify = .ok id ∧
      (ofSettings s.loader).load f w .build reference = ⟨[], [], .ok .deferred⟩ ∧
      ((ofSettings s.loader).load f w .runtime reference).fetched =
        [(ofSettings s.loader).locatorFor id] ∧
      ((ofSettings s.loader).load f w .runtime reference).requests =
        (f.fetch w ((ofSettings s.loader).locatorFor id)).requests ∧
      (∀ text, (f.fetch w ((ofSettings s.loader).locatorFor id)).result = .ok text →
        ((ofSettings s.loader).load f w .runtime reference).result =
          .ok (.loaded (Bundle.fromProperties text))) ∧
      (∀ e, (f.fetch w ((ofSettings s.loader).locatorFor id)).result = .error e →
        ((ofSettings s.loader).load f w .runtime reference).result = .error (.fetch e))) ∧
    (∀ locator e, (f.fetch w locator).result = .error e → e.locator = locator) := by
  refine ⟨?_, ?_, fun locator e he => Fetcher.fetch_error_locator he⟩
  · rintro rfl mode
    exact load_of_identify_error (Reference.identify_eq_error_iff.mpr ⟨rfl, rfl⟩) _ f w mode
  · intro hslash
    cases hid : (Reference.classify reference).identify with
    | error e => exact absurd (Reference.identify_eq_error_iff.mp hid).1 hslash
    | ok id =>
      have hrun := load_runtime hid (ofSettings s.loader) f w
      refine ⟨id, rfl, load_build hid _ f w, ?_, ?_, ?_, ?_⟩
      · rw [hrun]
      · rw [hrun]
      · intro text htext
        rw [hrun, htext]
        rfl
      · intro e he
        rw [hrun, he]
        rfl

/-- A locator that climbs out of the directory is fetched, and the error names it as it was. -/
theorem load_eq_one_fetch_climbing :
    (ofSettings LoaderSettings.default).load (.directory "srv") ⟨⟨fun _ => none, []⟩, .unreachable⟩
        .build (some "/") = ⟨[], [], .error (.invalidReference .loneSlash)⟩ ∧
      ((ofSettings LoaderSettings.default).load (.directory "srv")
        ⟨⟨fun _ => none, []⟩, .unreachable⟩ .runtime (some "../x")).fetched = ["../x.properties"] ∧
      ((ofSettings LoaderSettings.default).load (.directory "srv")
        ⟨⟨fun _ => none, []⟩, .unreachable⟩ .runtime (some "../x")).result =
          .error (.fetch ⟨"../x.properties", .invalidLocator .escapesRoot⟩) := by
  obtain ⟨hslash, -, -⟩ := load_eq_one_fetch Settings.default (.directory "srv")
    ⟨⟨fun _ => none, []⟩, .unreachable⟩ (some "/")
  obtain ⟨-, hother, -⟩ := load_eq_one_fetch Settings.default (.directory "srv")
    ⟨⟨fun _ => none, []⟩, .unreachable⟩ (some "../x")
  obtain ⟨id, ⟨⟩, -, hfetched, -, -, herror⟩ := hother (by decide)
  exact ⟨hslash rfl .build, hfetched, herror _ rfl⟩

end MessageBundles.Loader

import MessageBundles.Proofs.Module.Climbs
import MessageBundles.Proofs.Reference.Spellings

/-
  Cache keys — what two references with one key have in common, and which keys are their own keys

  The key of a reference is its identifier, resolved; the locator of a reference is computed from the
  identifier by another path, with overrides, a base and a document. What is proved:
    1. `cacheKey_eq_ok_iff` — the key is the identifier in its resolved form.
    2. `locatorFor_congr` — a locator depends on the identifier through its resolved form alone.
    3. `load_eq_of_cacheKey_eq` — references with one key have one locator, and are loaded alike from
       every fetcher, in every world and in both modes.
    4. `cacheKey_self_iff` and `cacheKey_ne_self` — a key that is taken for an identifier is its own
       key if resolving leaves it alone, and no other key is.
    5. `cacheKey_stable_iff` — the keys that are their own keys, exactly.
-/

namespace MessageBundles.Loader

open Text MessageBundles.Module

/-! ## Keys and loads -/

/-- The key of a reference is its identifier in its resolved form. -/
theorem cacheKey_eq_ok_iff {l : Loader} {reference : Option String} {k : Identifier} :
    l.cacheKey reference = .ok k ↔
      ∃ id, (Reference.classify reference).identify = .ok id ∧
        k.text.toList = l.resolver.resolve id.text.toList := by
  unfold cacheKey
  cases (Reference.classify reference).identify with
  | error e =>
    constructor
    · intro h
      cases h
    · rintro ⟨id, hid, -⟩
      cases hid
  | ok id =>
    constructor
    · intro h
      cases h
      exact ⟨id, rfl, String.toList_ofList⟩
    · rintro ⟨id', hid, hk⟩
      cases hid
      show Except.ok _ = Except.ok k
      rw [← hk, String.ofList_toList]

/-- A locator depends on the identifier through its resolved form alone. -/
theorem locatorFor_congr {l : Loader} {a b : Identifier}
    (h : l.resolver.resolve a.text.toList = l.resolver.resolve b.text.toList) :
    l.locatorFor a = l.locatorFor b := by
  have hlocate : l.resolver.locate a.text.toList = l.resolver.locate b.text.toList := by
    rw [Resolver.locate_eq_locateResolved, Resolver.locate_eq_locateResolved, h]
  unfold locatorFor
  rw [hlocate]

theorem load_congr {l : Loader} {r₁ r₂ : Option String} {a b : Identifier}
    (h₁ : (Reference.classify r₁).identify = .ok a) (h₂ : (Reference.classify r₂).identify = .ok b)
    (hlocator : l.locatorFor a = l.locatorFor b) (f : Fetcher) (w : World) (mode : Mode) :
    l.load f w mode r₁ = l.load f w mode r₂ := by
  cases mode with
  | build => rw [load_build h₁, load_build h₂]
  | runtime => rw [load_runtime h₁, load_runtime h₂, hlocator]

/-- References with one key stand for identifiers with one locator, and are loaded alike: the same is
fetched, and the outcome or the error is the same. -/
theorem load_eq_of_cacheKey_eq (s : Settings) (r₁ r₂ : Option String) (k : Identifier)
    (h₁ : (ofSettings s.loader).cacheKey r₁ = .ok k)
    (h₂ : (ofSettings s.loader).cacheKey r₂ = .ok k) :
    ∃ id₁ id₂, (Reference.classify r₁).identify = .ok id₁ ∧
      (Reference.classify r₂).identify = .ok id₂ ∧
      (ofSettings s.loader).locatorFor id₁ = (ofSettings s.loader).locatorFor id₂ ∧
      ∀ (f : Fetcher) (w : World) (mode : Mode),
        (ofSettings s.loader).load f w mode r₁ = (ofSettings s.loader).load f w mode r₂ := by
  obtain ⟨id₁, hid₁, hk₁⟩ := cacheKey_eq_ok_iff.mp h₁
  obtain ⟨id₂, hid₂, hk₂⟩ := cacheKey_eq_ok_iff.mp h₂
  have hlocator := locatorFor_congr (hk₁.symm.trans hk₂)
  exact ⟨id₁, id₂, hid₁, hid₂, hlocator, load_congr hid₁ hid₂ hlocator⟩

def settingsWithParent : Settings :=
  { Settings.default with loader := { LoaderSettings.default with parentModule := some "a/b" } }

theorem load_eq_of_cacheKey_eq_climbing :
    (ofSettings settingsWithParent.loader).cacheKey (some "./x/../m") = .ok ⟨"a/m"⟩ ∧
      (ofSettings settingsWithParent.loader).cacheKey (some "/a/m") = .ok ⟨"a/m"⟩ ∧
      (ofSettings settingsWithParent.loader).load
          (.memory (Dict.ofList [("./a/m.properties", "k=v")])) ⟨⟨fun _ => none, []⟩, .unreachable⟩
          .runtime (some "./x/../m") =
        (ofSettings settingsWithParent.loader).load
          (.memory (Dict.ofList [("./a/m.properties", "k=v")])) ⟨⟨fun _ => none, []⟩, .unreachable⟩
          .runtime (some "/a/m") := by
  have h₁ : (ofSettings settingsWithParent.loader).cacheKey (some "./x/../m") = .ok ⟨"a/m"⟩ := by rfl
  have h₂ : (ofSettings settingsWithParent.loader).cacheKey (some "/a/m") = .ok ⟨"a/m"⟩ := by rfl
  obtain ⟨-, -, -, -, -, hload⟩ := load_eq_of_cacheKey_eq settingsWithParent _ _ _ h₁ h₂
  exact ⟨h₁, h₂, hload _ _ _⟩

/-! ## Keys as references -/

/-- A text without a slash, and without a dot in front, stands for a name in the default folder. -/
theorem identify_of_bare {text : String} (hslash : '/' ∉ text.toList)
    (hdot : ['.'].isPrefixOf text.toList = false) :
    ∃ name : String, (Reference.classify (some text)).identify =
        .ok ⟨Identifier.defaultFolder ++ name⟩ ∧
      '/' ∉ name.toList ∧ IsName name.toList := by
  by_cases hne : text = ""
  · rw [hne]
    exact ⟨"messages", rfl, by decide, by decide, by decide⟩
  · have hhead : text.toList.head? ≠ some '.' := by
      intro h
      obtain ⟨rest, hrest⟩ := List.head?_eq_some_iff.mp h
      rw [hrest] at hdot
      cases hdot
    have hname : IsName text.toList := ⟨fun h => hhead (h ▸ rfl), fun h => hhead (h ▸ rfl)⟩
    exact ⟨text, Reference.identify_named ⟨hne, hslash, hhead⟩, hslash, hname⟩

theorem identify_of_slash {text : String} {rest : List Char} (h : text.toList = '/' :: rest)
    {id : Identifier} (hid : (Reference.classify (some text)).identify = .ok id) :
    id.text.toList = rest := by
  rw [Reference.classify_of_slash h, Reference.identify, Reference.identifier?] at hid
  split at hid
  · rename_i id' hsome
    cases hid
    split at hsome
    · cases hsome
    · cases hsome
      exact String.toList_ofList
  · cases hid

theorem slash_mem_join (pieces : List Segment) (a b : Segment) :
    '/' ∈ join '/' (pieces ++ [a, b]) := by
  cases pieces with
  | nil => simp [join]
  | cons piece pieces =>
    rw [List.cons_append, join_cons_of_ne_nil '/' piece (by simp)]
    simp

/-- The resolved form of a name in the default folder is still in a folder. -/
theorem slash_mem_resolve_defaultFolder (r : Resolver) {name : String} (hslash : '/' ∉ name.toList)
    (hname : IsName name.toList) :
    '/' ∈ r.resolve (Identifier.defaultFolder ++ name).toList := by
  have hid : (Identifier.defaultFolder ++ name).toList =
      here ++ '/' :: ("i18n".toList ++ '/' :: name.toList) := by
    rw [String.toList_append]
    rfl
  rw [hid]
  unfold Resolver.resolve
  cases r.parent with
  | none => simp
  | some p =>
    have hsplit : split '/' (here ++ '/' :: ("i18n".toList ++ '/' :: name.toList)) =
        here :: ["i18n".toList, name.toList] := by
      rw [split_append_cons, split_append_cons, split_of_not_mem hslash,
        split_of_not_mem (show '/' ∉ here from by decide),
        split_of_not_mem (show '/' ∉ "i18n".toList from by decide)]
      rfl
    have hnames : ∀ s ∈ ["i18n".toList, name.toList], IsName s := by
      intro s hs
      rcases List.mem_cons.mp hs with rfl | hs
      · exact ⟨by decide, by decide⟩
      · rw [List.mem_singleton.mp hs]
        exact hname
    show '/' ∈ resolveAgainst p.toList (here ++ '/' :: ("i18n".toList ++ '/' :: name.toList))
    rw [resolveAgainst_eq, hsplit, List.foldl_cons, move_here, foldl_move_names hnames,
      List.reverse_append, List.reverse_reverse]
    exact slash_mem_join _ _ _

section Stable
variable {l : Loader}

theorem cacheKey_self_iff {k : Identifier} (h : IsIdentifier k.text.toList) :
    l.cacheKey (some k.text) = .ok k ↔
      l.resolver.resolve k.text.toList = k.text.toList := by
  rw [cacheKey_eq_ok_iff, identify_of_isIdentifier h]
  constructor
  · rintro ⟨id, hid, hk⟩
    cases hid
    exact hk.symm
  · exact fun hk => ⟨k, rfl, hk.symm⟩

/-- A key that is not taken for an identifier is not its own key: a bare name gets a folder, and a
slash in front is lost. -/
theorem cacheKey_ne_self
    (hparent : ∀ p, l.resolver.parent = some p → ∀ s ∈ split '/' p.toList, IsName s)
    {k : Identifier} (h : ¬ IsIdentifier k.text.toList) : l.cacheKey (some k.text) ≠ .ok k := by
  intro hk
  obtain ⟨id, hid, hkey⟩ := cacheKey_eq_ok_iff.mp hk
  rw [IsIdentifier, not_or, not_and, Bool.not_eq_true, Bool.not_eq_false] at h
  obtain ⟨hdot, hslash⟩ := h
  by_cases hmem : '/' ∈ k.text.toList
  · obtain ⟨rest, hrest⟩ := List.isPrefixOf_iff_prefix.mp (hslash hmem)
    have hrest : k.text.toList = '/' :: rest := hrest.symm
    rw [identify_of_slash hrest hid, hrest] at hkey
    exact Resolver.resolve_ne_slash_cons hparent rest hkey.symm
  · obtain ⟨name, hname, hnoslash, hisname⟩ := identify_of_bare hmem hdot
    rw [hid] at hname
    cases hname
    rw [hkey] at hmem
    exact hmem (slash_mem_resolve_defaultFolder l.resolver hnoslash hisname)

end Stable

theorem parent_overrideMany (r : Resolver) (overrides : List (String × String)) :
    (r.overrideMany overrides).parent = r.parent := by
  induction overrides generalizing r with
  | nil => rfl
  | cons e rest ih => exact ih (r.override e.1 e.2)

theorem parent_ofSettings (s : LoaderSettings) :
    (ofSettings s).resolver.parent = s.parentModule := by
  unfold ofSettings resolverOf
  cases s.parentModule with
  | none => exact parent_overrideMany _ _
  | some p => rfl

/-- The keys that are their own keys, for a parent none of whose segments stays or climbs: those that
are taken for identifiers, unless they climb out of a parent that has a folder. -/
theorem cacheKey_stable_iff (s : Settings)
    (hparent : ∀ p, s.loader.parentModule = some p →
      ∀ segment ∈ split '/' p.toList, segment ≠ [] ∧ segment ≠ ['.'] ∧ segment ≠ ['.', '.'])
    (reference : Option String) (k : Identifier)
    (hk : (ofSettings s.loader).cacheKey reference = .ok k) :
    (ofSettings s.loader).cacheKey (some k.text) = .ok k ↔
      (['.'].isPrefixOf k.text.toList = true ∨
        ('/' ∈ k.text.toList ∧ ['/'].isPrefixOf k.text.toList = false)) ∧
      (['.', '.', '/'].isPrefixOf k.text.toList = false ∨ s.loader.parentModule = none ∨
        ∃ p, s.loader.parentModule = some p ∧ '/' ∉ p.toList) := by
  have hnames : ∀ p, (ofSettings s.loader).resolver.parent = some p →
      ∀ segment ∈ split '/' p.toList, IsName segment := by
    intro p hp segment hsegment
    rw [parent_ofSettings] at hp
    exact (hparent p hp segment hsegment).2
  obtain ⟨id, -, hkey⟩ := cacheKey_eq_ok_iff.mp hk
  have htwice := Resolver.resolve_twice_iff hnames id.text.toList
  rw [← hkey, parent_ofSettings] at htwice
  by_cases h : IsIdentifier k.text.toList
  · rw [cacheKey_self_iff h, htwice]
    exact ⟨fun hrest => ⟨h, hrest⟩, fun hboth => hboth.2⟩
  · exact ⟨fun hself => absurd hself (cacheKey_ne_self hnames h), fun hboth => absurd hboth.1 h⟩

/-- A key that climbs out of a folder is another reference's key the second time. -/
theorem cacheKey_stable_iff_climbing :
    (ofSettings settingsWithParent.loader).cacheKey (some "../../x") = .ok ⟨"../x"⟩ ∧
      (ofSettings settingsWithParent.loader).cacheKey (some "../x") ≠ .ok ⟨"../x"⟩ := by
  have hk : (ofSettings settingsWithParent.loader).cacheKey (some "../../x") = .ok ⟨"../x"⟩ := by rfl
  have hparent : ∀ p, settingsWithParent.loader.parentModule = some p →
      ∀ segment ∈ split '/' p.toList, segment ≠ [] ∧ segment ≠ ['.'] ∧ segment ≠ ['.', '.'] := by
    rintro p ⟨⟩
    decide
  refine ⟨hk, fun hself => ?_⟩
  obtain ⟨-, hclimbs | hnone | ⟨p, ⟨⟩, hslash⟩⟩ :=
    (cacheKey_stable_iff settingsWithParent hparent _ _ hk).mp hself
  · exact absurd hclimbs (by decide)
  · cases hnone
  · exact absurd hslash (by decide)

end MessageBundles.Loader

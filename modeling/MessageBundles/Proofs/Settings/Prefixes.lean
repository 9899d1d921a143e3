import MessageBundles.Loader
import MessageBundles.Proofs.Loader.CacheKey
import MessageBundles.Proofs.Module.Ancestors
import MessageBundles.Proofs.Settings.Layers
import MessageBundles.Proofs.Text.Lowercase
import MessageBundles.Proofs.Text.Pieces

/-
  Prefixes — the overrides of a settings file as they take effect

  The keys of a file are settings names, and those are told apart in small letters. So are the module
  prefixes of its overrides, which stand among the keys. What is proved:
    1. `placeAll_texts` — a table of texts laid over texts becomes a dictionary by small letters.
    2. `fromFile_prefixes` — the overrides of a file are read with their prefixes in small letters, so
       they are the ones that were written exactly if no prefix has a capital letter, and no module
       whose first segment has one is overridden.
  Of prefixes that are the same in small letters one is kept, and nothing is said of which.
-/

namespace MessageBundles

open Text SettingTree

/-! ## Tables of texts -/

/-- A list of texts by name, as the members of a table. -/
def textsOf (l : List (String × String)) : List (String × Json) := l.map fun e => (e.1, .string e.2)

/-- The entries of a list under their keys in small letters. -/
def smallKeys (l : List (String × String)) : List (String × String) :=
  l.map fun e => (lowercased e.1, e.2)

theorem insertEntry_textsOf (key s : String) (l : List (String × String)) :
    Dict.insertEntry key (.string s) (textsOf l) = textsOf (Dict.insertEntry key s l) := by
  induction l with
  | nil => rfl
  | cons e rest ih =>
    obtain ⟨k, v⟩ := e
    unfold textsOf at ih ⊢
    rw [List.map_cons, Dict.insertEntry, Dict.insertEntry, ih]
    split
    · rfl
    · split
      · rfl
      · rfl

theorem placeAll_texts (l : List (String × String)) (d : Dict String) :
    placeAll (.object (textsOf d.entries)) (textsOf l) =
      .object (textsOf (d.insertMany (smallKeys l)).entries) := by
  induction l generalizing d with
  | nil => rfl
  | cons e rest ih =>
    have hplace : place (.object (textsOf d.entries)) e.1 (.string e.2) =
        .object (textsOf (d.insert (lowercased e.1) e.2).entries) := by
      rw [place, withChild, membersOf_object, insertEntry_textsOf]
      rfl
    show placeAll (place (.object (textsOf d.entries)) e.1 (.string e.2)) (textsOf rest) = _
    rw [hplace, ih]
    rfl

theorem textMembers_textsOf (l : List (String × String)) : Loose.textMembers (textsOf l) = .ok l := by
  induction l with
  | nil => rfl
  | cons e rest ih =>
    have hcons : textsOf (e :: rest) = (e.1, .string e.2) :: textsOf rest := rfl
    rw [hcons, Loose.textMembers, ih]
    rfl

theorem texts_textsOf (d : Dict String) : Loose.texts (.object (textsOf d.entries)) = .ok d := by
  rw [Loose.texts, textMembers_textsOf]
  exact congrArg Except.ok (Dict.ofList_entries d)

/-- A dictionary by small letters holds what was listed exactly if every key was small. -/
theorem ofList_smallKeys_eq_iff (l : List (String × String)) :
    Dict.ofList (smallKeys l) = Dict.ofList l ↔ ∀ e ∈ l, lowercased e.1 = e.1 := by
  constructor
  · intro heq e he
    -- What is found under the key as it was written is found under the small letters of some key.
    have hfound : Dict.findEntry e.1 (smallKeys l).reverse ≠ none := by
      rw [← Dict.find?_ofList, heq, Dict.find?_ofList, Ne, Dict.findEntry_eq_none_iff]
      exact fun h => h e (List.mem_reverse.mpr he) rfl
    obtain ⟨v, hv⟩ := Option.ne_none_iff_exists'.mp hfound
    have hx := Dict.mem_of_findEntry hv
    obtain ⟨y, -, heq⟩ := List.mem_map.mp (List.mem_reverse.mp hx)
    have hkey : lowercased y.1 = e.1 := congrArg Prod.fst heq
    rw [← hkey, lowercased_lowercased]
  · intro h
    have hself : smallKeys l = l := by
      refine (List.map_congr_left fun e he => ?_).trans (List.map_id l)
      rw [h e he]
      rfl
    rw [hself]

/-! ## Overrides -/

namespace Module.Resolver

/-- The first segment of an identifier stands in front of whatever owns it. -/
theorem takeWhile_subset_of_owns {pre id : List Char} (h : owns pre id = true) :
    ∀ c ∈ id.takeWhile (· != '/'), c ∈ pre := by
  intro c hc
  rcases owns_iff.mp h with rfl | ⟨rest, rfl⟩
  · exact (List.takeWhile_prefix _).subset hc
  · rw [List.takeWhile_append] at hc
    split at hc
    · rwa [List.takeWhile_cons_of_neg (by simp), List.append_nil] at hc
    · exact (List.takeWhile_prefix _).subset hc

/-- The owner of an identifier was registered, with or without slashes at its end. -/
theorem registered_of_owner? {base : String} {l : List (String × String)} {parent : Option String}
    {id : List Char} {e : String × String} (h : (ofRegistrations base l parent).owner? id = some e) :
    ∃ x ∈ l, e.1 = dropSlashes x.1 := by
  have hmem := (owner?_longest h).1.1
  have hoverrides : (ofRegistrations base l parent).overrides =
      Dict.ofList (l.map fun e => (dropSlashes e.1, dropSlashes e.2)) :=
    overrides_overrideMany (ofBase base) l
  rw [hoverrides] at hmem
  obtain ⟨x, hx, rfl⟩ := List.mem_map.mp (Dict.mem_of_mem_ofList hmem)
  exact ⟨x, hx, rfl⟩

end Module.Resolver

theorem resolverOf_eq_ofRegistrations (s : LoaderSettings) :
    Loader.resolverOf s =
      Module.Resolver.ofRegistrations s.baseUrl s.paths.entries s.parentModule := by
  have hparent : ((Module.Resolver.ofBase s.baseUrl).overrideMany s.paths.entries).parent = none :=
    Loader.parent_overrideMany _ _
  unfold Loader.resolverOf Module.Resolver.ofRegistrations
  cases s.parentModule with
  | none =>
    show (Module.Resolver.ofBase s.baseUrl).overrideMany s.paths.entries =
      { (Module.Resolver.ofBase s.baseUrl).overrideMany s.paths.entries with parent := none }
    rw [← hparent]
  | some parent => rfl

/-! ## Files -/

namespace Settings

variable {fs : SettingsFile.Formats} {files : Files.Tree} {env : Variables} {name : String}
  {file : List (String × Json)} {overrides : List (String × String)}

theorem ofScalars_of_none
    (henv : ∀ e ∈ env.entries, Variables.start.isPrefixOf (lowercase e.1.toList) = false) :
    env.OfScalars ∧ ∀ f, env.value? f = none := by
  refine ⟨⟨?_, ?_⟩, ?_⟩
  · intro e he hstart
    rw [henv e he] at hstart
    cases hstart
  · refine env.sorted.imp_of_mem ?_
    intro a b ha hb hlt hstart
    rw [henv a ha] at hstart
    cases hstart
  · intro f
    have hnone : env.entries.find? (fun e => lowercase e.1.toList == Variables.nameOf f) = none := by
      rw [List.find?_eq_none]
      intro e he
      rw [beq_iff_eq]
      intro heq
      have hstart := henv e he
      rw [heq, Variables.isPrefixOf_nameOf] at hstart
      cases hstart
    rw [Variables.value?, hnone]
    rfl

theorem eq_paths_of_key : ∀ f ∈ Field.all, f.key = Field.paths.key → f = Field.paths := by
  simp only [Field.all, Field.loader, Field.fetch, Field.logging, List.cons_append, List.nil_append,
    List.forall_mem_cons]
  refine ⟨?_, ?_, fun _ => trivial, ?_, ?_, ?_, ?_, ?_, ?_, ?_, ?_, ?_, ?_, by simp⟩ <;>
    exact fun h => absurd h (by decide)

/-- The overrides of a settings file, where no variable stands for a setting. If all else in the file
is valid, it is read. Where no two prefixes are the same in small letters, it holds the overrides by
their prefixes in small letters, in whatever order these are taken from the file. The overrides are the
ones that were written exactly if every prefix is in small letters, and then modules are located by
them. A module with a capital letter in its first segment has no override, whatever the file says. -/
theorem fromFile_prefixes (hfile : SettingsFile.layer fs files name = .ok file)
    (henv : ∀ e ∈ env.entries, Variables.start.isPrefixOf (lowercase e.1.toList) = false)
    (hsections : ∀ part ∈ Field.parts, Sectioned part file)
    (hpaths : (fieldsOf "loader" file).lookup "paths" = some (.object (textsOf overrides)))
    (hothers : ∀ f ∈ Field.all, f.key ≠ Field.paths.key →
      ∃ x, f.settle (fileValue? file f) = .ok x) :
    ∃ s, fromFile fs files env name = .ok s ∧
      ((smallKeys overrides).Pairwise (fun a b => a.1 ≠ b.1) → ∀ l, l.Perm overrides →
        s.loader.paths = Dict.ofList (smallKeys l)) ∧
      (s.loader.paths = Dict.ofList overrides ↔ ∀ e ∈ overrides, lowercased e.1 = e.1) ∧
      ((∀ e ∈ overrides, lowercased e.1 = e.1) → ∀ id,
        (Loader.resolverOf s.loader).locate id =
          (Module.Resolver.ofRegistrations s.loader.baseUrl (Dict.ofList overrides).entries
            s.loader.parentModule).locate id) ∧
      ∀ id e, (Loader.resolverOf s.loader).owner? id = some e →
        ∀ c ∈ id.takeWhile (· != '/'), IsSmall c := by
  obtain ⟨hscalars, hvars⟩ := ofScalars_of_none henv
  have htabled := tabled_of_sectioned hsections
  have heffective : ∀ f, effective? file env f = fileValue? file f := by
    intro f
    rw [effective?, hvars f]
  have hvalue : Field.paths.settle (fileValue? file Field.paths) =
      .ok (Dict.ofList (smallKeys overrides)) := by
    have hsection := hsections "loader" (by decide)
    rw [fileValue?_of_sectioned (by simp [Field.all, Field.loader]) hsection]
    show Field.paths.settle (((fieldsOf "loader" file).lookup "paths").map _) = _
    rw [hpaths]
    show Loose.texts (placeAll (.object (textsOf Dict.empty.entries)) (textsOf overrides)) = _
    rw [placeAll_texts, texts_textsOf]
    rfl
  obtain ⟨s, hs⟩ : ∃ s, fromFile fs files env name = .ok s := by
    rw [exists_fromFile_iff hfile htabled hscalars]
    intro f hf
    rw [heffective]
    by_cases hkey : f.key = Field.paths.key
    · rw [eq_paths_of_key f hf hkey]
      exact ⟨_, hvalue⟩
    · exact hothers f hf hkey
  have hread : s.loader.paths = Dict.ofList (smallKeys overrides) := by
    have h := (fromFile_eq_ok_iff hfile htabled hscalars).mp hs Field.paths
      (by simp [Field.all, Field.loader])
    rw [heffective, hvalue] at h
    exact (Except.ok.inj h).symm
  refine ⟨s, hs, ?_, ?_, ?_, ?_⟩
  · intro hdifferent l hperm
    have hsmall : (smallKeys overrides).Perm (smallKeys l) := hperm.symm.map _
    rw [hread, Dict.ofList_of_perm hsmall hdifferent]
  · rw [hread]
    exact ofList_smallKeys_eq_iff overrides
  · intro hsmall id
    rw [resolverOf_eq_ofRegistrations, hread, (ofList_smallKeys_eq_iff overrides).mpr hsmall]
  · intro id e howner c hc
    have hpre := Module.Resolver.takeWhile_subset_of_owns
      (Module.Resolver.owner?_longest howner).1.2 c hc
    rw [resolverOf_eq_ofRegistrations, hread] at howner
    obtain ⟨x, hx, heq⟩ := Module.Resolver.registered_of_owner? howner
    obtain ⟨y, -, rfl⟩ := List.mem_map.mp (Dict.mem_of_mem_ofList hx)
    -- The slashes at the end are dropped; what is left is a part of the small letters.
    rw [heq, Module.Resolver.dropSlashes, String.toList_ofList] at hpre
    have hsub : c ∈ (lowercased y.1).toList := mem_of_mem_dropEndWhile hpre
    rw [lowercased, String.toList_ofList] at hsub
    exact isSmall_of_mem_lowercaseFrom c hsub

def mixedOverrides : List (String × String) := [("Pentaho", "ui"), ("common", "shared")]

def mixedFile : List (String × Json) :=
  [("loader", .object [("paths", .object (textsOf mixedOverrides))])]

/-- One prefix with a capital letter and one without: the module of the first is not overridden. -/
theorem fromFile_prefixes_mixed :
    ∃ s, fromFile .native
        (filesWith "[loader.paths]\nPentaho = \x22ui\x22\ncommon = \x22shared\x22\n") Dict.empty
        "conf.toml" = .ok s ∧
      s.loader.paths = Dict.ofList [("pentaho", "ui"), ("common", "shared")] ∧
      s.loader.paths ≠ Dict.ofList mixedOverrides ∧
      (Loader.resolverOf s.loader).owner? "Pentaho/m".toList = none := by
  have hfile : SettingsFile.layer .native
      (filesWith "[loader.paths]\nPentaho = \x22ui\x22\ncommon = \x22shared\x22\n") "conf.toml" =
        .ok mixedFile :=
    eq_ok_of_toOption (by decide +kernel)
  have henv : ∀ e ∈ (Dict.empty : Variables).entries,
      Variables.start.isPrefixOf (lowercase e.1.toList) = false := by
    intro e he
    cases he
  have hsections : ∀ part ∈ Field.parts, Sectioned part mixedFile := by
    intro part hpart
    simp only [Field.parts, List.mem_cons, List.not_mem_nil, or_false] at hpart
    rcases hpart with rfl | rfl | rfl <;> exact ⟨by decide +kernel, by decide +kernel⟩
  have hpaths : (fieldsOf "loader" mixedFile).lookup "paths" =
      some (.object (textsOf mixedOverrides)) := by
    decide +kernel
  have hothers : ∀ f ∈ Field.all, f.key ≠ Field.paths.key →
      ∃ x, f.settle (fileValue? mixedFile f) = .ok x := by
    have hnone : ∀ f ∈ Field.all, f.key ≠ Field.paths.key → fileValue? mixedFile f = none := by
      decide +kernel
    intro f hf hkey
    exact ⟨f.default, by rw [hnone f hf hkey]; rfl⟩
  obtain ⟨s, hs, hread, hiff, -, howner⟩ := fromFile_prefixes hfile henv hsections hpaths hothers
  refine ⟨s, hs, ?_, ?_, ?_⟩
  · rw [hread (by decide +kernel) _ (List.Perm.refl mixedOverrides)]
    decide +kernel
  · rw [Ne, hiff]
    decide +kernel
  · cases hfound : (Loader.resolverOf s.loader).owner? "Pentaho/m".toList with
    | none => rfl
    | some e =>
      have hsmall := howner _ e hfound 'P' (by decide)
      exact absurd (hsmall (0x41, 0x5A, 1, 32) (by decide +kernel)) (by decide)

/-- The override of a prefix with capital letters is read under another prefix, and the modules under
the prefix that was written are located as if there were none. -/
theorem fromFile_capitals_lost :
    ∃ s, fromFile .native
        (filesWith "[loader.paths]\n\x22Pentaho/Common\x22 = \x22common-ui\x22\n") Dict.empty
        "conf.toml" = .ok s ∧
      s.loader.paths ≠ Dict.ofList [("Pentaho/Common", "common-ui")] ∧
      (Loader.resolverOf s.loader).locate "Pentaho/Common/m".toList = "./Pentaho/Common/m".toList ∧
      ((Module.Resolver.ofBase s.loader.baseUrl).override "Pentaho/Common" "common-ui").locate
        "Pentaho/Common/m".toList = "./common-ui/m".toList := by
  refine ⟨{ Settings.default with loader := { LoaderSettings.default with
    paths := Dict.ofList [("pentaho/common", "common-ui")] } }, ?_, ?_, ?_, ?_⟩
  · exact eq_ok_of_toOption (by decide +kernel)
  · decide +kernel
  · decide +kernel
  · decide +kernel

end Settings

end MessageBundles

import MessageBundles.Proofs.Fetch.Outcomes
import MessageBundles.Proofs.Loader.CacheKey
import MessageBundles.Proofs.Url.Files

/-
  Bare names — where a bundle with a bare name is asked for on the web

  A bare name is put into the default folder, and the extension behind it; what comes of that is read as
  a relative URL, in which a backslash is a slash, a question mark or number sign ends the path, and
  tabs and line breaks are nothing. So most names are files of the default folder below the base of the
  client, but not all. What is proved:
    1. `locatorFor_named` — a bare name has a locator in the default folder, whatever it consists of.
    2. `join_named` — the URL it is joined to keeps the authority of the base, and is read off the base,
       the folder and the name.
    3. `load_named` — this is what a load asks for first, and exactly which names are files of the
       folder; those without backslashes, question marks and number signs are.
    4. `load_named_climbing` — a name with backslashes leads out of the folder.
-/

namespace MessageBundles

open Text Url Web

/-! ## Locators -/

namespace Loader

/-- The locator of a bundle in the default folder. -/
def namedLocator (name : String) : String :=
  Identifier.defaultFolder ++ name ++ Locator.extension

/-- A name in the default folder has a locator there, whatever it consists of, where neither a parent
nor a document moves the folder. -/
theorem locatorFor_named {s : LoaderSettings} (hparent : s.parentModule = none)
    (hdocument : s.documentUrl = none) (name : String) :
    (ofSettings s).locatorFor ⟨Identifier.defaultFolder ++ name⟩ = namedLocator name := by
  have hresolver : (ofSettings s).resolver.parent = none := by rw [parent_ofSettings, hparent]
  have hresolve := Module.Resolver.resolve_of_no_parent hresolver
  have hdot : ['.'].isPrefixOf (Identifier.defaultFolder ++ name).toList = true := by
    rw [String.toList_append]
    rfl
  have hlocate : (ofSettings s).resolver.locate (Identifier.defaultFolder ++ name).toList =
      (Identifier.defaultFolder ++ name).toList := by
    rw [Module.Resolver.locate_of_standalone, hresolve]
    rw [hresolve, hdot]
    rfl
  have hnone : (ofSettings s).document = none := hdocument
  rw [locatorFor, hlocate, hnone, String.ofList_toList, namedLocator]

/-! ## URLs -/

/-- What is read of a name with the extension behind it. -/
def namedText (name : String) : List Char := cleanEnd (name.toList ++ Locator.extension.toList)

def defaultSegment : List Char := "i18n".toList

theorem cleanEnd_namedLocator (name : String) :
    cleanEnd (namedLocator name).toList = Identifier.defaultFolder.toList ++ namedText name := by
  have hends : EndsInSlash Identifier.defaultFolder.toList := rfl
  have hfolder : clean Identifier.defaultFolder.toList = Identifier.defaultFolder.toList := by decide
  have hlist : (namedLocator name).toList =
      Identifier.defaultFolder.toList ++ (name.toList ++ Locator.extension.toList) := by
    rw [namedLocator, String.toList_append, String.toList_append, List.append_assoc]
  rw [hlist, ← clean_of_dot (by rfl), clean_append hends, hfolder]
  rfl

theorem addFolders_default (folder : List (List Char)) :
    addFolders .hosted folder (runs (isSlash .hosted) Identifier.defaultFolder.toList).dropLast =
      folder ++ [defaultSegment] := by
  have hpieces : (runs (isSlash .hosted) Identifier.defaultFolder.toList).dropLast =
      [['.'], defaultSegment] := by decide
  have hencoded : percentEncode pathSet defaultSegment = defaultSegment := by decide
  rw [hpieces]
  show folder ++ [] ++ [percentEncode pathSet defaultSegment] = _
  rw [List.append_nil, hencoded]

theorem head?_namedLocator (name : String) : (namedLocator name).toList.head? = some '.' := by
  rw [namedLocator, String.toList_append, String.toList_append]
  rfl

/-- A locator that starts with a dot is no URL of its own. -/
theorem parse_of_dot {text : String} (h : text.toList.head? = some '.') :
    Url.parse text = .error .relativeWithoutBase := by
  rw [Url.parse, parseFrom, clean_of_dot h]
  simp only [splitScheme?_of_dot (cleanEnd_of_dot h)]
  rfl

section Joining
variable {base : Url} {folder : List (List Char)}

/-- A name in the default folder keeps the authority of the URL it is joined onto; its path goes on in
the default folder below that of the URL. -/
theorem join_named (hkind : base.kind = .hosted) (hpath : base.path = .segments (folder ++ [[]]))
    (name : String) :
    ∃ u, base.join (namedLocator name) = .ok u ∧ u.scheme = base.scheme ∧ u.host = base.host ∧
      u.port = base.port ∧
      u.path = pathFrom .hosted (folder ++ [defaultSegment]) (namedText name) ∧
      u.query = (tailOf .hosted (namedText name)).query := by
  have hsegments : base.segments = folder ++ [[]] := by rw [segments, hpath]
  have hends : EndsInSlash Identifier.defaultFolder.toList := rfl
  have huntailed : Untailed Identifier.defaultFolder.toList :=
    untailed_iff_not_mem.mpr ⟨by decide, by decide⟩
  have hjoin := join_of_dot hkind (by rw [hsegments, hpath]) (head?_namedLocator name)
  refine ⟨_, hjoin, rfl, rfl, rfl, ?_, ?_⟩
  · rw [cleanEnd_namedLocator, path_inFolder, hkind, hsegments, List.dropLast_concat,
      pathFrom_append (.inr hends) huntailed, addFolders_default]
  · rw [cleanEnd_namedLocator, query_inFolder, hkind, tailOf_append huntailed]

end Joining

/-! ## Files of the default folder -/

/-- Whether a URL is a file of a folder, with no query behind it and the ending of bundles. -/
def IsBundleIn (folder : List (List Char)) (u : Url) : Prop :=
  u.query = none ∧ ∃ file, u.path = .segments (folder ++ [file]) ∧ fileEnding <:+ file

/-- Whether a name, with the extension behind it, is read as a file of the folder it is put into. -/
structure StaysIn (folder : List (List Char)) (name : String) : Prop where
  no_query : '?' ∉ (namedText name).takeWhile (· != '#')
  -- The path still ends in the extension where a number sign cuts it off.
  ends : fileEnding <:+ (namedText name).takeWhile (!endsPath ·)
  -- What stands in front of the last backslash leads back to the folder.
  returns : addFolders .hosted folder (pathPieces .hosted (namedText name)).dropLast = folder

theorem query_eq_none_iff {cs : List Char} :
    (tailOf .hosted cs).query = none ↔ '?' ∉ cs.takeWhile (· != '#') := by
  rw [tailOf, Option.map_eq_none_iff, behind?_eq_none_iff]

theorem isBundleIn_iff {u : Url} {folder : List (List Char)} {name : String}
    (hpath : u.path = pathFrom .hosted folder (namedText name))
    (hquery : u.query = (tailOf .hosted (namedText name)).query) :
    IsBundleIn folder u ↔ StaysIn folder name := by
  rw [IsBundleIn, hpath, hquery, query_eq_none_iff, pathFrom_file_iff]
  constructor
  · rintro ⟨hno, hreturns, hends⟩
    exact ⟨hno, hends, hreturns⟩
  · rintro ⟨hno, hends, hreturns⟩
    exact ⟨hno, hreturns, hends⟩

/-- Reading drops tabs and line breaks of a name, and nothing else. -/
theorem namedText_eq (name : String) :
    namedText name = name.toList.filter (fun c => c != '\t' && c != '\n' && c != '\x0d') ++
      fileEnding := by
  have hlast : (name.toList ++ Locator.extension.toList).getLast? = some 's' := by
    rw [List.getLast?_append]
    rfl
  have hblanks : dropEndWhile (·.toNat ≤ 0x20) (name.toList ++ Locator.extension.toList) =
      name.toList ++ Locator.extension.toList := by
    apply dropEndWhile_of_getLast?
    intro c hc
    rw [hlast] at hc
    rw [← Option.some.inj hc]
    decide
  have hending : Locator.extension.toList.filter (fun c => c != '\t' && c != '\n' && c != '\x0d') =
      fileEnding := by decide
  rw [namedText, cleanEnd, hblanks, List.filter_append, hending]

/-- The characters that have a meaning where a name is read as a part of a URL. -/
def hasMeaning (c : Char) : Bool := isSlash .hosted c || endsPath c

theorem staysIn_of_plain {name : String} (h : ∀ c ∈ name.toList, hasMeaning c = false)
    (folder : List (List Char)) : StaysIn folder name := by
  have hplain : ∀ c ∈ namedText name, isSlash .hosted c = false ∧ endsPath c = false := by
    intro c hc
    rw [namedText_eq, List.mem_append] at hc
    rcases hc with hname | hending
    · exact Bool.or_eq_false_iff.mp (h c (List.mem_filter.mp hname).1)
    · exact (fileEnding_plain hending).2
  have hvisible : (namedText name).takeWhile (!endsPath ·) = namedText name :=
    List.takeWhile_eq_self_iff.mpr fun c hc => by rw [(hplain c hc).2]; rfl
  have hpieces : pathPieces .hosted (namedText name) = [namedText name] := by
    rw [pathPieces, hvisible, runs_of_forall fun c hc => (hplain c hc).1]
  refine ⟨?_, ?_, ?_⟩
  · intro hmem
    exact absurd (hplain _ ((List.takeWhile_prefix _).subset hmem)).2 (by decide)
  · rw [hvisible, namedText_eq]
    exact List.suffix_append _ _
  · rw [hpieces]
    rfl

/-! ## Loads -/

variable {s : LoaderSettings} {c : Client} {base : Url} {folder : List (List Char)} {name : String}

/-- A load of a bare name asks first for the URL that the name in the default folder is joined to. Its
authority is that of the base, and it is a file of the default folder exactly if the name stays in it,
as every name does in which no character has a meaning for a URL. -/
theorem load_named (hparent : s.parentModule = none) (hdocument : s.documentUrl = none)
    (hname : IsBareName name) (hbase : c.base = some base) (hkind : base.kind = .hosted)
    (hpath : base.path = .segments (folder ++ [[]])) :
    ∃ u, base.join (namedLocator name) = .ok u ∧
      (∀ w : World, ((ofSettings s).load (.web c) w .runtime (some name)).requests.head? =
        if u.hasHost && (w.network.reply u).isSent then some (requestUrl u) else none) ∧
      u.scheme = base.scheme ∧ u.host = base.host ∧ u.port = base.port ∧
      (IsBundleIn (folder ++ [defaultSegment]) u ↔ StaysIn (folder ++ [defaultSegment]) name) ∧
      ((∀ c ∈ name.toList, hasMeaning c = false) → IsBundleIn (folder ++ [defaultSegment]) u) := by
  obtain ⟨u, hjoin, hscheme, hhost, hport, hpath, hquery⟩ := join_named hkind hpath name
  have hiff := isBundleIn_iff hpath hquery
  refine ⟨u, hjoin, ?_, hscheme, hhost, hport, hiff, fun h => hiff.mpr (staysIn_of_plain h _)⟩
  intro w
  have hmeans : c.Means (namedLocator name) u :=
    .inr ⟨parse_of_dot (head?_namedLocator name), base, hbase, hjoin⟩
  rw [load_runtime (Reference.identify_named hname), locatorFor_named hparent hdocument]
  show (c.get w.network (namedLocator name)).requests.head? = _
  rw [get_of_means hmeans, get_head?]

def appUrl (path : List String) : Url where
  scheme := "http".toList
  username := []
  password := []
  host := some (.domain "host".toList)
  port := none
  path := .segments ("app".toList :: path.map String.toList)
  query := none
  fragment := none

/-- A name that leads through another folder and back. -/
theorem load_named_returning :
    IsBareName "a\\..\\b" ∧ StaysIn ["app".toList, defaultSegment] "a\\..\\b" ∧
      ∃ u, (appUrl [""]).join (namedLocator "a\\..\\b") = .ok u ∧ u.host = (appUrl [""]).host ∧
        IsBundleIn ["app".toList, defaultSegment] u := by
  have hname : IsBareName "a\\..\\b" := by decide
  have hstays : StaysIn ["app".toList, defaultSegment] "a\\..\\b" :=
    ⟨by decide +kernel, by decide +kernel, by decide +kernel⟩
  have hpath : (appUrl [""]).path = .segments (["app".toList] ++ [[]]) := rfl
  obtain ⟨u, hjoin, -, -, hhost, -, hiff, -⟩ := load_named (s := LoaderSettings.default)
    (c := ⟨some (appUrl [""]), About.agent⟩) rfl rfl hname rfl rfl hpath
  exact ⟨hname, hstays, u, hjoin, hhost, hiff.mpr hstays⟩

/-- A bare name with backslashes, which lead out of the default folder. -/
theorem load_named_climbing :
    IsBareName "a\\..\\..\\x" ∧ Url.parse "http://host/app/" = .ok (appUrl [""]) ∧
      ((ofSettings LoaderSettings.default).load (.web ⟨some (appUrl [""]), About.agent⟩)
        ⟨.ofEntries [] [], .answering fun _ => none⟩ .runtime (some "a\\..\\..\\x")).requests =
          ["http://host/app/x.properties"] ∧
      Url.parse "http://host/app/x.properties" = .ok (appUrl ["x.properties"]) ∧
      ¬ IsBundleIn ["app".toList, defaultSegment] (appUrl ["x.properties"]) := by
  refine ⟨by decide, eq_ok_of_toOption (by decide +kernel), by decide +kernel,
    eq_ok_of_toOption (by decide +kernel), ?_⟩
  rintro ⟨-, file, hpath, -⟩
  cases hpath

end Loader

end MessageBundles

import MessageBundles.Fetch.Fetcher
import MessageBundles.Proofs.Fetch.Collapse

/-
  Confinement — a directory's fetches depend on what is below its root, and on nothing else

  The root is a path of its own, which may be relative, end with a slash, lead nowhere, or be empty;
  what is behind it is walked from wherever it resolves. What is proved:
    1. `resolve_under` — a path behind a root resolves from where the root resolves.
    2. `pathOf_eq` — a locator that is not the URL of a file leads to a path behind the root, if it
       has no scheme and collapses.
    3. `fromDirectory_congr` — two file systems that agree on how the root resolves and on what is
       there give the same answer.
    4. `read_collapsed` — a text is the content of the file that the collapsed locator leads to from
       the root.
    5. `fetch_directory_confined` — both together.
-/

namespace MessageBundles.Fetch

open Text Files

/-! ## Paths behind a root -/

theorem slash_isPrefixOf_encode (cs : List Char) :
    [slash].isPrefixOf (Utf8.encode cs) = ['/'].isPrefixOf cs := by
  cases cs with
  | nil => rfl
  | cons c rest =>
    obtain ⟨b, bytes, hbytes⟩ :=
      List.exists_cons_of_ne_nil (String.utf8EncodeChar_ne_nil (c := c))
    rw [Utf8.encode_cons, hbytes]
    by_cases hc : c = '/'
    · subst hc
      obtain ⟨rfl, -⟩ : b = slash ∧ bytes = [] := by
        simpa using hbytes.symm.trans (show String.utf8EncodeChar '/' = [slash] from by decide)
      rfl
    · have hb : b ≠ slash := by
        rintro rfl
        have hmem : slash ∈ String.utf8EncodeChar c := hbytes ▸ List.mem_cons_self
        exact hc (Char.toNat_inj.mp (Utf8.eq_of_mem_utf8EncodeChar (by decide) hmem))
      simp only [List.cons_append, List.isPrefixOf, beq_eq_false_iff_ne.mpr (Ne.symm hb),
        beq_eq_false_iff_ne.mpr (Ne.symm hc), Bool.false_and]

def front (root : List Char) : List Char :=
  if root = [] ∨ root.getLast? = some '/' then root else root ++ ['/']

theorem under_eq_front_append (root path : List Char) : under root path = front root ++ path := by
  unfold under front
  split <;> simp

theorem isPrefixOf_under {root path : List Char} (hpath : ['/'].isPrefixOf path = false) :
    ['/'].isPrefixOf (under root path) = ['/'].isPrefixOf root := by
  rw [under_eq_front_append, front]
  cases root with
  | nil => exact hpath
  | cons c rest => split <;> simp [List.isPrefixOf]

theorem walk_split_under (t : Tree) (place : Place) (root path : List Char) :
    t.walk place ((split '/' (under root path)).map Utf8.encode) =
      t.walk place ((split '/' root ++ split '/' path).map Utf8.encode) := by
  have hne : (split '/' path).map Utf8.encode ≠ [] := by
    simpa using split_ne_nil '/' path
  rw [List.map_append]
  rcases List.eq_nil_or_concat root with rfl | ⟨before, last, rfl⟩
  · exact (Tree.walk_nil_cons t place hne).symm
  · rw [List.concat_eq_append]
    by_cases hlast : last = '/'
    · -- The slash at the end of the root is an empty name behind the names of the root.
      subst hlast
      have hroot : split '/' (before ++ ['/']) = split '/' before ++ [[]] :=
        split_append_cons before []
      have hunder : under (before ++ ['/']) path = before ++ '/' :: path := by
        simp [under]
      rw [hunder, split_append_cons, hroot, List.map_append, List.map_append, List.append_assoc,
        Tree.walk_append_bind, Tree.walk_append_bind]
      congr 1
      funext mid
      exact (Tree.walk_nil_cons t mid hne).symm
    · have hunder : under (before ++ [last]) path = (before ++ [last]) ++ '/' :: path := by
        simp [under, hlast]
      rw [hunder, split_append_cons, List.map_append]

/-- A path behind a root resolves from where the root resolves. -/
theorem resolve_under (t : Tree) {root path : List Char} (hpath : ['/'].isPrefixOf path = false) :
    t.resolve (Utf8.encode (under root path)) =
      (t.resolve (Utf8.encode root)).bind fun place =>
        t.walk place ((split '/' path).map Utf8.encode) := by
  simp only [Tree.resolve, slash_isPrefixOf_encode, isPrefixOf_under hpath]
  rw [slash, Utf8.split_encode, Utf8.split_encode, walk_split_under, List.map_append,
    Tree.walk_append_bind]

/-! ## Locators -/

theorem isPrefixOf_relative (locator : String) : ['/'].isPrefixOf (relative locator) = false := by
  unfold relative
  cases h : locator.toList.dropWhile (· == '/') with
  | nil => rfl
  | cons c rest =>
    have hc : c ≠ '/' := by
      have := head?_dropWhile (· == '/') locator.toList c (by rw [h]; rfl)
      simpa using this
    simp [List.isPrefixOf, Ne.symm hc]

/-- A locator that is not the URL of a file leads to a path behind the root, if it has no scheme and
does not climb out of the root. -/
theorem pathOf_eq (root : String) {locator : String}
    (h : fileStart.isPrefixOf locator.toList = false) :
    pathOf root locator =
      if occursIn [':', '/', '/'] locator.toList then .error .unsupportedScheme
      else (collapsed? locator).elim (.error .escapesRoot) fun _ =>
        .ok (Utf8.encode (under root.toList (relative locator))) := by
  have hdepth : depth? 0 (split '/' (relative locator)) = (collapsed? locator).map List.length :=
    depth?_eq_collapse? [] _
  unfold relative at hdepth ⊢
  simp only [pathOf, h, hdepth, Bool.false_eq_true, if_false]
  congr 1
  cases collapsed? locator <;> rfl

theorem pathOf_eq_ok {root locator : String} {path : List UInt8}
    (hlocator : fileStart.isPrefixOf locator.toList = false) (h : pathOf root locator = .ok path) :
    path = Utf8.encode (under root.toList (relative locator)) ∧
      ∃ names, collapsed? locator = some names := by
  rw [pathOf_eq root hlocator] at h
  split at h
  · cases h
  · cases hnames : collapsed? locator with
    | none =>
      rw [hnames] at h
      cases h
    | some names =>
      rw [hnames] at h
      cases h
      exact ⟨rfl, names, rfl⟩

theorem resolve_congr {root : List Char} {locator : String} {t u : Tree} {names : List (List Char)}
    (hagree : t.AgreeUnder (Utf8.encode root) u) (hnames : collapsed? locator = some names) :
    t.resolve (Utf8.encode (under root (relative locator))) =
      u.resolve (Utf8.encode (under root (relative locator))) := by
  rw [resolve_under t (isPrefixOf_relative locator), resolve_under u (isPrefixOf_relative locator),
    ← hagree.resolve_eq]
  cases hroot : t.resolve (Utf8.encode root) with
  | error e => rfl
  | ok start =>
    have hwalk := walk_congr (hagree.node_eq start hroot) hnames
    rw [placeUnder_nil] at hwalk
    exact hwalk

/-- Where the path of a locator resolves, the root resolves to a directory, and the collapsed names
lead from there to the same place. -/
theorem resolve_relative {root : List Char} {locator : String} {t : Tree} {place : Place}
    {names : List (List Char)} (hnames : collapsed? locator = some names)
    (h : t.resolve (Utf8.encode (under root (relative locator))) = .ok place) :
    ∃ start, t.resolve (Utf8.encode root) = .ok start ∧ t.node? start = some .directory ∧
      place = placeUnder start names ∧ Reached t start names := by
  rw [resolve_under t (isPrefixOf_relative locator)] at h
  cases hroot : t.resolve (Utf8.encode root) with
  | error e =>
    rw [hroot] at h
    cases h
  | ok start =>
    rw [hroot] at h
    have hwalk : t.walk start ((split '/' (relative locator)).map Utf8.encode) = .ok place := h
    have hdir : t.node? start = some .directory :=
      Tree.directory_of_walk (by simpa using split_ne_nil '/' (relative locator)) hwalk
    rw [← placeUnder_nil start] at hwalk
    obtain ⟨hplace, hreached⟩ := walk_collapse? (reached_nil t start) hnames hwalk
    exact ⟨start, rfl, hdir, hplace, hreached⟩

/-- Two file systems that agree on how the root resolves, and on what is at and below the place it
resolves to, give the same answer. -/
theorem fromDirectory_congr {root locator : String} {t u : Tree}
    (hlocator : fileStart.isPrefixOf locator.toList = false)
    (hagree : t.AgreeUnder (Utf8.encode root.toList) u) :
    fromDirectory t root locator = fromDirectory u root locator := by
  unfold fromDirectory
  cases hpath : pathOf root locator with
  | error fault => rfl
  | ok path =>
    obtain ⟨rfl, names, hnames⟩ := pathOf_eq_ok hlocator hpath
    have hread : t.readText (Utf8.encode (under root.toList (relative locator))) =
        u.readText (Utf8.encode (under root.toList (relative locator))) := by
      apply Tree.readText_congr (resolve_congr hagree hnames)
      intro place hplace
      -- Where the path resolves, it resolves to a place below the root, and the trees agree there.
      obtain ⟨start, hroot, -, rfl, -⟩ := resolve_relative hnames hplace
      exact hagree.node_eq start hroot _
    simp only [hread]

/-! ## The file behind a text -/

theorem join_ordinary {names : List (List Char)} (hne : names ≠ [])
    (h : ∀ name ∈ names, IsOrdinary name) :
    split '/' (join '/' names) = names ∧ ∃ c rest, join '/' names = c :: rest ∧ c ≠ '/' := by
  have hsplit : split '/' (join '/' names) = names :=
    split_join hne fun name hname => (h name hname).no_slash
  refine ⟨hsplit, ?_⟩
  -- An empty text, or a slash in front, would be an empty name.
  cases hjoin : join '/' names with
  | nil =>
    rw [hjoin] at hsplit
    exact absurd rfl (h [] (hsplit ▸ List.mem_cons_self)).ne_nil
  | cons c rest =>
    refine ⟨c, rest, rfl, ?_⟩
    rintro rfl
    rw [hjoin, split, if_pos rfl] at hsplit
    exact (h [] (hsplit ▸ List.mem_cons_self)).ne_nil rfl

theorem resolve_join {root : List Char} {t : Tree} {start : Place} {names : List (List Char)}
    (hroot : t.resolve (Utf8.encode root) = .ok start) (hne : names ≠ [])
    (hordinary : ∀ name ∈ names, IsOrdinary name) (hreached : Reached t start names) :
    t.resolve (Utf8.encode (under root (join '/' names))) = .ok (placeUnder start names) := by
  obtain ⟨hsplit, c, rest, hjoin, hc⟩ := join_ordinary hne hordinary
  have hslash : ['/'].isPrefixOf (join '/' names) = false := by
    rw [hjoin]
    simp [List.isPrefixOf, Ne.symm hc]
  rw [resolve_under t hslash, hroot, hsplit]
  exact hreached names (List.prefix_refl names)

theorem length_collapsed_le (root : List Char) {locator : String} {names : List (List Char)}
    (hnames : collapsed? locator = some names) (hne : names ≠ []) :
    (Utf8.encode (under root (join '/' names))).length ≤
      (Utf8.encode (under root (relative locator))).length := by
  have hjoin := length_encode_join hne
  have hrelative := length_encode_join (split_ne_nil '/' (relative locator))
  rw [join_split] at hrelative
  have hweight : weight names ≤ weight [] + weight (split '/' (relative locator)) :=
    weight_collapse?_le hnames
  have hnil : weight [] = 0 := rfl
  rw [under_eq_front_append, under_eq_front_append, Utf8.encode_append, Utf8.encode_append,
    List.length_append, List.length_append]
  omega

/-- The path of the collapsed locator has no byte that the path of the locator has not, except for
slashes. -/
theorem mem_of_mem_collapsed {root : List Char} {locator : String} {names : List (List Char)}
    (hnames : collapsed? locator = some names) {b : UInt8} (hb : b ≠ slash)
    (h : b ∈ Utf8.encode (under root (join '/' names))) :
    b ∈ Utf8.encode (under root (relative locator)) := by
  rw [under_eq_front_append, Utf8.encode_append, List.mem_append] at h ⊢
  refine h.imp_right fun h => ?_
  obtain ⟨c, hc, hbytes⟩ := List.mem_flatMap.mp h
  rcases mem_join hc with rfl | ⟨name, hname, hc⟩
  · rw [show String.utf8EncodeChar '/' = [slash] from by decide, List.mem_singleton] at hbytes
    exact absurd hbytes hb
  · have hmem := (mem_of_mem_split (mem_collapsed? hnames name hname).2 c hc).1
    exact List.mem_flatMap.mpr ⟨c, hmem, hbytes⟩

/-- A text is the content of the file that the collapsed locator leads to from the root, a file
below the root. -/
theorem read_collapsed {root : List Char} {locator : String} {t : Tree} {names : List (List Char)}
    {content : List UInt8} (hnames : collapsed? locator = some names)
    (h : t.read (Utf8.encode (under root (relative locator))) = .ok content) :
    names ≠ [] ∧ (∀ name ∈ names, IsOrdinary name) ∧
      t.read (Utf8.encode (under root (join '/' names))) = .ok content ∧
      ∃ start, t.resolve (Utf8.encode root) = .ok start ∧
        t.node? (placeUnder start names) = some (.file content) := by
  obtain ⟨⟨hzero, -, hlength⟩, place, hplace, hnode⟩ := Tree.read_eq_ok_iff.mp h
  obtain ⟨start, hroot, hdir, rfl, hreached⟩ := resolve_relative hnames hplace
  have hordinary : ∀ name ∈ names, IsOrdinary name :=
    fun name hname => (mem_collapsed? hnames name hname).1
  have hne : names ≠ [] := by
    rintro rfl
    rw [placeUnder_nil, hdir] at hnode
    cases hnode
  refine ⟨hne, hordinary, ?_, start, hroot, hnode⟩
  refine Tree.read_eq_ok_iff.mpr ⟨⟨?_, ?_, ?_⟩, _, resolve_join hroot hne hordinary hreached, hnode⟩
  · exact fun hmem => hzero (mem_of_mem_collapsed hnames (by decide) hmem)
  · obtain ⟨-, c, rest, hjoin, -⟩ := join_ordinary hne hordinary
    rw [hjoin, under_eq_front_append, Utf8.encode_append]
    intro hnil
    have hnil := encode_eq_nil_iff.mp (List.append_eq_nil_iff.mp hnil).2
    cases hnil
  · exact Nat.le_trans (length_collapsed_le root hnames hne) hlength

theorem fromDirectory_eq_ok {root locator text : String} {t : Tree}
    (hlocator : fileStart.isPrefixOf locator.toList = false)
    (h : fromDirectory t root locator = .ok text) :
    ∃ names content, collapsed? locator = some names ∧
      t.read (Utf8.encode (under root.toList (relative locator))) = .ok content ∧
      Utf8.decode? content = some text.toList := by
  unfold fromDirectory at h
  cases hpath : pathOf root locator with
  | error fault => simp only [hpath, reduceCtorEq] at h
  | ok path =>
    obtain ⟨rfl, names, hnames⟩ := pathOf_eq_ok hlocator hpath
    simp only [hpath] at h
    split at h
    · cases h
    · rename_i read hread
      cases h
      obtain ⟨content, hcontent, hdecode⟩ := Tree.readText_eq_ok hread
      exact ⟨names, content, hnames, hcontent, hdecode⟩

/-! ## Confinement -/

/-- A locator that is not the URL of a file is answered alike by any two file systems that agree on
how the root resolves and on what is at and below the place it resolves to; and a text it brings is
the content of the file at the root followed by the names the locator collapses to. -/
theorem fetch_directory_confined (root locator : String) (v w : World)
    (hlocator : fileStart.isPrefixOf locator.toList = false)
    (hagree : v.files.AgreeUnder (Utf8.encode root.toList) w.files) :
    (Fetcher.directory root).fetch v locator = (Fetcher.directory root).fetch w locator ∧
      ∀ text, ((Fetcher.directory root).fetch v locator).result = .ok text →
        ∃ names content, collapsed? locator = some names ∧ names ≠ [] ∧
          (∀ name ∈ names, IsOrdinary name) ∧ Utf8.decode? content = some text.toList ∧
          v.files.read (Utf8.encode (under root.toList (join '/' names))) = .ok content ∧
          ∃ start, v.files.resolve (Utf8.encode root.toList) = .ok start ∧
            v.files.node? (placeUnder start names) = some (.file content) := by
  refine ⟨congrArg (Fetched.mk []) (fromDirectory_congr hlocator hagree), ?_⟩
  intro text htext
  obtain ⟨names, content, hnames, hread, hdecode⟩ := fromDirectory_eq_ok hlocator htext
  obtain ⟨hne, hordinary, hcollapsed, hfile⟩ := read_collapsed hnames hread
  exact ⟨names, content, hnames, hne, hordinary, hdecode, hcollapsed, hfile⟩

/-- A root with a folder and a bundle in it, beside other entries. -/
def treeBeside (others : List (Place × Node)) : Tree :=
  Tree.ofEntries [] (([Utf8.encode "srv".toList, Utf8.encode "nls".toList], .directory) ::
    ([Utf8.encode "srv".toList, Utf8.encode "a".toList], .file (Utf8.encode "k=v".toList)) :: others)

/-- A file beside the root says nothing to a locator that goes down and up again. -/
theorem fetch_directory_confined_beside :
    (Fetcher.directory "/srv").fetch ⟨treeBeside [], .unreachable⟩ "/nls/.././a" =
        (Fetcher.directory "/srv").fetch
          ⟨treeBeside [([Utf8.encode "etc".toList], .file [0x78])], .unreachable⟩ "/nls/.././a" ∧
      ∃ content, Utf8.decode? content = some "k=v".toList ∧
        (treeBeside []).read (Utf8.encode "/srv/a".toList) = .ok content := by
  have hroot : (treeBeside []).resolve (Utf8.encode "/srv".toList) =
      .ok [Utf8.encode "srv".toList] := by rfl
  have hagree : (treeBeside []).AgreeUnder (Utf8.encode "/srv".toList)
      (treeBeside [([Utf8.encode "etc".toList], .file [0x78])]) := by
    refine ⟨by rfl, ?_⟩
    intro place hplace below
    rw [hroot] at hplace
    cases hplace
    have hne : Utf8.encode ['s', 'r', 'v'] ≠ Utf8.encode ['e', 't', 'c'] := by decide
    simp [treeBeside, Tree.ofEntries, List.lookup_cons, hne, beq_eq_false_iff_ne.mpr hne]
  obtain ⟨hsame, htext⟩ := fetch_directory_confined "/srv" "/nls/.././a"
    ⟨treeBeside [], .unreachable⟩
    ⟨treeBeside [([Utf8.encode "etc".toList], .file [0x78])], .unreachable⟩ (by decide) hagree
  obtain ⟨names, content, hnames, -, -, hdecode, hread, -⟩ := htext "k=v" (by rfl)
  have hcollapsed : collapsed? "/nls/.././a" = some ["a".toList] := by rfl
  rw [hcollapsed] at hnames
  cases hnames
  exact ⟨hsame, content, hdecode, hread⟩

end MessageBundles.Fetch

import MessageBundles.Proofs.Url.Append

/-
  Joining — what a locator that starts with a dot is joined to

  Such a locator goes on in the folder of the URL it is joined onto. Written behind a text that ends in
  a slash, it goes on where the text ends. What is proved:
    1. `join_of_dot` — what a locator that starts with a dot is joined to.
    2. `parse_append_cases` — what it is behind a text that ends in a slash.
    3. `parse_folder_iff` — the two are the same for every locator exactly if the text is the URL of
       the folder.
    4. `parse_folder_of_isName` — it is if it has no query and no fragment, and a name is behind it.
-/

namespace MessageBundles

open Text

namespace Url

variable {a b scheme : List Char} {u : Url}

/-! ## Joining -/

theorem cleanEnd_of_dot (h : b.head? = some '.') : (cleanEnd b).head? = some '.' := by
  cases b with
  | nil => cases h
  | cons c rest =>
    cases h
    rw [cleanEnd, dropEndWhile_cons_of_neg (by decide), List.filter_cons_of_pos (by decide)]
    rfl

theorem splitScheme?_of_dot (h : b.head? = some '.') : splitScheme? b = none := by
  rw [splitScheme?, h, if_neg (by decide)]

/-- The URL with a path that goes on in the folder of its own, and what follows that path. -/
def inFolder (u : Url) (b : List Char) : Url :=
  withPath u (pathFrom u.kind u.segments.dropLast b) b

theorem relative_of_dot (hkind : u.kind = .hosted) (h : b.head? = some '.') :
    relative u b = .ok (inFolder u b) := by
  cases b with
  | nil => cases h
  | cons c rest =>
    cases h
    simp [relative, inFolder, dropLastSegment, hkind]

/-- A locator that starts with a dot goes on in the folder of the URL it is joined onto. -/
theorem join_of_dot (hkind : u.kind = .hosted) (hpath : u.path = .segments u.segments) {text : String}
    (h : text.toList.head? = some '.') :
    u.join text = .ok (inFolder u (cleanEnd text.toList)) := by
  have hclean := cleanEnd_of_dot h
  have hnumber : ['#'].isPrefixOf (cleanEnd text.toList) = false := by
    cases hcs : cleanEnd text.toList with
    | nil => rfl
    | cons c rest =>
      rw [hcs] at hclean
      cases hclean
      rfl
  rw [join, parseFrom, clean_of_dot h]
  simp only [splitScheme?_of_dot hclean, schemeless, hnumber, hpath, hkind]
  exact relative_of_dot hkind hclean

/-! ## Reading behind a slash -/

theorem behindSlashes_eq_ok_iff :
    behindSlashes scheme b = .ok u ↔ ∃ found, authority scheme b = .ok found ∧
      found.url scheme (pathBehindHost (SchemeKind.of scheme) found.rest)
        (tailOf (SchemeKind.of scheme) found.rest) = u := by
  rw [behindSlashes_eq]
  exact map_eq_ok_iff

theorem scheme_of_behindSlashes (h : behindSlashes scheme b = .ok u) : u.scheme = scheme := by
  obtain ⟨found, -, rfl⟩ := behindSlashes_eq_ok_iff.mp h
  rfl

theorem scheme_of_fileBehindSlashes (h : fileBehindSlashes b = .ok u) : u.scheme = "file".toList := by
  simp only [fileBehindSlashes] at h
  split at h
  · cases h
    rfl
  · split at h
    · cases h
      rfl
    · obtain ⟨host, -, h⟩ := bind_eq_ok_iff.mp h
      cases h
      rfl

theorem scheme_of_file (h : file none b = .ok u) : u.scheme = "file".toList := by
  unfold file at h
  split at h
  · cases h
    rfl
  · split at h
    · split at h
      · exact scheme_of_fileBehindSlashes h
      · cases h
        rfl
    · cases h
      rfl

theorem kind_of_absolute (h : absolute none scheme b = .ok u) : u.kind = SchemeKind.of scheme := by
  have hfile : SchemeKind.of "file".toList = .file := rfl
  unfold absolute at h
  split at h
  · rename_i heq
    rw [kind, scheme_of_file h, hfile, heq]
  · rw [kind, scheme_of_behindSlashes h]
  · split at h
    · rw [kind, scheme_of_behindSlashes h]
    · cases h
      rfl

def isEitherSlash (c : Char) : Bool := c == '/' || c == '\\'

theorem absolute_hosted (hkind : SchemeKind.of scheme = .hosted) (cs : List Char) :
    absolute none scheme cs = behindSlashes scheme (cs.dropWhile isEitherSlash) := by
  unfold absolute
  rw [hkind]
  rfl

theorem exists_scheme (h : parseFrom none b = .ok u) :
    ∃ scheme rest, splitScheme? (clean b) = some (scheme, rest) ∧ absolute none scheme rest = .ok u := by
  simp only [parseFrom] at h
  cases hscheme : splitScheme? (clean b) with
  | none =>
    rw [hscheme] at h
    cases h
  | some found =>
    rw [hscheme] at h
    exact ⟨found.1, found.2, rfl, h⟩

theorem path_of_hosted (h : parseFrom none b = .ok u) (hkind : u.kind = .hosted) :
    u.path = .segments u.segments := by
  obtain ⟨scheme, rest, -, habsolute⟩ := exists_scheme h
  have hhosted : SchemeKind.of scheme = .hosted := by rw [← kind_of_absolute habsolute, hkind]
  rw [absolute_hosted hhosted, behindSlashes_eq_ok_iff, hhosted] at habsolute
  obtain ⟨found, -, rfl⟩ := habsolute
  have hsegments : ∃ l, pathBehindHost .hosted found.rest = .segments l := by
    rw [pathBehindHost, if_neg (by simp)]
    exact ⟨_, rfl⟩
  obtain ⟨l, hl⟩ := hsegments
  simp only [segments, Authority.url, hl]

/-- The URL that is read off what follows an authority, with more behind it. -/
def Authority.urlBehind (found : Authority) (scheme b : List Char) : Url :=
  found.url scheme (pathBehindHost .hosted (found.rest ++ b)) (tailOf .hosted (found.rest ++ b))

/-- What is read behind a text that ends in a slash, if anything on the web is. Either the text ends
in front of the host, or it gives the authority, and the path and what follows it are read off the
rest of the text and what is behind. -/
theorem parse_append_cases (h : EndsInSlash a) (hkind : u.kind = .hosted)
    (hparse : parseFrom none (a ++ b) = .ok u) :
    ∃ scheme, SchemeKind.of scheme = .hosted ∧
      ((∀ cs, parseFrom none (a ++ cs) =
          behindSlashes scheme ((cleanEnd cs).dropWhile isEitherSlash)) ∨
        ∃ found : Authority, EndsInSlash found.rest ∧ found.urlBehind scheme (cleanEnd b) = u ∧
          ∀ cs, parseFrom none (a ++ cs) = .ok (found.urlBehind scheme (cleanEnd cs))) := by
  obtain ⟨scheme, rest, hscheme, habsolute⟩ := exists_scheme hparse
  rw [clean_append h, splitScheme?_append (endsInSlash_clean h)] at hscheme
  obtain ⟨inner, hscheme, hinner, rfl⟩ := hscheme
  have hhosted : SchemeKind.of scheme = .hosted := by rw [← kind_of_absolute habsolute, hkind]
  have hread : ∀ cs, parseFrom none (a ++ cs) =
      behindSlashes scheme ((inner ++ cleanEnd cs).dropWhile isEitherSlash) := by
    intro cs
    have hbehind := (splitScheme?_append (endsInSlash_clean h) (cleanEnd cs) _).mpr
      ⟨inner, hscheme, hinner, rfl⟩
    simp only [parseFrom, clean_append h, hbehind]
    exact absolute_hosted hhosted _
  refine ⟨scheme, hhosted, ?_⟩
  by_cases hnone : inner.dropWhile isEitherSlash = []
  · left
    intro cs
    rw [hread, List.dropWhile_append, hnone]
    rfl
  · right
    have hdrop : ∀ cs, (inner ++ cs).dropWhile isEitherSlash = inner.dropWhile isEitherSlash ++ cs := by
      intro cs
      rw [List.dropWhile_append, if_neg (by rwa [List.isEmpty_iff])]
    have hends : EndsInSlash (inner.dropWhile isEitherSlash) := by
      apply EndsInSlash.of_append (a := inner.takeWhile isEitherSlash) _ hnone
      rwa [List.takeWhile_append_dropWhile]
    have hfound := hread b
    rw [hparse, hdrop] at hfound
    obtain ⟨_, hauthority, -⟩ := behindSlashes_eq_ok_iff.mp hfound.symm
    rw [authority_append hends] at hauthority
    obtain ⟨found, hauthority, -⟩ := map_eq_ok_iff.mp hauthority
    have hurl : ∀ cs, parseFrom none (a ++ cs) = .ok (found.urlBehind scheme (cleanEnd cs)) := by
      intro cs
      rw [hread, hdrop, behindSlashes_eq, authority_append hends, hauthority, hhosted]
      rfl
    refine ⟨found, endsInSlash_authority hends hauthority, ?_, hurl⟩
    exact Except.ok.inj ((hurl b).symm.trans hparse)

/-! ## Folders -/

/-- Whether a locator starts in the folder it is in, or in the one above. -/
def IsRelative (cs : List Char) : Prop := ['.', '/'] <+: cs ∨ ['.', '.', '/'] <+: cs

theorem IsRelative.head? (h : IsRelative b) : b.head? = some '.' := by
  rcases h with ⟨rest, rfl⟩ | ⟨rest, rfl⟩
  · rfl
  · rfl

theorem pathFrom_here (start : List (List Char)) :
    pathFrom .hosted start ['.'] = .segments (start ++ [[]]) := rfl

theorem pathFrom_name (start : List (List Char)) :
    pathFrom .hosted start ['.', '/', 'x'] = .segments (start ++ [['x']]) := by
  have hplain : percentEncode pathSet ['x'] = ['x'] := by decide
  show Path.segments (start ++ [] ++ [percentEncode pathSet ['x']]) = _
  rw [List.append_nil, hplain]

theorem url_inj {found : Authority} {path path' : Path} {tail tail' : Tail}
    (h : found.url scheme path tail = found.url scheme path' tail') : path = path' ∧ tail = tail' := by
  simp only [Authority.url, Url.mk.injEq] at h
  obtain ⟨-, -, -, -, -, hpath, hquery, hfragment⟩ := h
  obtain ⟨query, fragment⟩ := tail
  obtain ⟨query', fragment'⟩ := tail'
  simp only at hquery hfragment
  rw [hquery, hfragment]
  exact ⟨hpath, rfl⟩

theorem inFolder_url {found : Authority} (hhosted : SchemeKind.of scheme = .hosted) (path : Path)
    (tail : Tail) (b : List Char) :
    inFolder (found.url scheme path tail) b =
      found.url scheme (pathFrom .hosted (found.url scheme path tail).segments.dropLast b)
        (tailOf .hosted b) := by
  have hkind : (found.url scheme path tail).kind = .hosted := hhosted
  rw [inFolder, withPath, withTail, hkind]
  show found.url scheme _ (tailOf (SchemeKind.of scheme) b) = _
  rw [hhosted]

theorem authority_nil (hhosted : SchemeKind.of scheme = .hosted) :
    authority scheme [] = .error .emptyHost := by
  rw [authority_eq, hhosted]
  show (hostAndPort scheme []).map _ = _
  rw [hostAndPort_eq, hhosted]
  rfl

/-- Where a text ends in front of the host, the dots of what is written behind it are the host. -/
theorem host_of_dots (hhosted : SchemeKind.of scheme = .hosted) {dots : List Char}
    (hdots : dots = ['.'] ∨ dots = ['.', '.']) {v : Url}
    (h : behindSlashes scheme (dots ++ ['/', 'x']) = .ok v) : v.host = some (.domain dots) := by
  have huser : splitUser? .hosted (dots ++ ['/', 'x']) = none := by
    rcases hdots with rfl | rfl <;> rfl
  have hsplit : splitHost .hosted false (dots ++ ['/', 'x']) = (dots, ['/', 'x']) := by
    rcases hdots with rfl | rfl <;> rfl
  have hhost : Host.parse dots = .ok (.domain dots) := by
    rcases hdots with rfl | rfl <;> exact eq_ok_of_toOption (by decide +kernel)
  have hname : dots.isEmpty = false := by
    rcases hdots with rfl | rfl <;> rfl
  have hread : hostAndPort scheme (dots ++ ['/', 'x']) = .ok (.domain dots, none, ['/', 'x']) := by
    rw [hostAndPort_eq, hhosted, hsplit]
    simp only [hname, hhost]
    rfl
  obtain ⟨found, hfound, rfl⟩ := behindSlashes_eq_ok_iff.mp h
  rw [authority_eq, hhosted, huser] at hfound
  simp only [hread] at hfound
  cases hfound
  rfl

/-- In front of the host, relative locators are not joined to what was read behind the text: nothing
is read, or the dots of two of them are one host. -/
theorem not_relative_of_no_host (hhosted : SchemeKind.of scheme = .hosted)
    (hread : ∀ cs, parseFrom none (a ++ cs) =
      behindSlashes scheme ((cleanEnd cs).dropWhile isEitherSlash)) :
    ¬ ∀ cs, IsRelative cs → parseFrom none (a ++ cs) = .ok (inFolder u (cleanEnd cs)) := by
  intro hall
  have hhere := hall ['.', '/', 'x'] (.inl ⟨['x'], rfl⟩)
  have hup := hall ['.', '.', '/', 'x'] (.inr ⟨['x'], rfl⟩)
  rw [hread] at hhere hup
  have hhost := host_of_dots hhosted (.inl rfl) hhere
  have hother := host_of_dots hhosted (.inr rfl) hup
  have hsame : some (Host.domain ['.']) = some (.domain ['.', '.']) := hhost.symm.trans hother
  cases hsame

theorem not_folder_of_no_host (hhosted : SchemeKind.of scheme = .hosted)
    (hread : ∀ cs, parseFrom none (a ++ cs) =
      behindSlashes scheme ((cleanEnd cs).dropWhile isEitherSlash)) :
    parseFrom none a ≠ .ok u := by
  intro hfolder
  have hself := hread []
  rw [List.append_nil, hfolder] at hself
  obtain ⟨found, hauthority, -⟩ := behindSlashes_eq_ok_iff.mp hself.symm
  rw [show (cleanEnd []).dropWhile isEitherSlash = [] from rfl, authority_nil hhosted] at hauthority
  cases hauthority

/-- Whether what follows an authority is the folders of a URL and nothing else. -/
def Authority.IsFolderOf (found : Authority) (u : Url) : Prop :=
  Untailed found.rest ∧ foldersIn .hosted found.rest = u.segments.dropLast

variable {found : Authority} {path : Path} {tail : Tail}

theorem urlBehind_of_isFolderOf (hhosted : SchemeKind.of scheme = .hosted)
    (hrest : EndsInSlash found.rest) (h : found.IsFolderOf (found.url scheme path tail))
    (b : List Char) : found.urlBehind scheme b = inFolder (found.url scheme path tail) b := by
  obtain ⟨huntailed, hfolders⟩ := h
  rw [inFolder_url hhosted, ← hfolders, Authority.urlBehind, pathBehindHost_append hrest huntailed,
    tailOf_append huntailed]

theorem urlBehind_nil_iff (hhosted : SchemeKind.of scheme = .hosted) (hrest : EndsInSlash found.rest) :
    found.urlBehind scheme [] = inFolder (found.url scheme path tail) ['.'] ↔
      found.IsFolderOf (found.url scheme path tail) := by
  have hnone : tailOf .hosted ['.'] = ⟨none, none⟩ := rfl
  have hpath : ∀ start, pathFrom .hosted start [] = pathFrom .hosted start ['.'] := by
    intro start
    rw [pathFrom_nil (by decide), pathFrom_here]
  constructor
  · intro heq
    rw [inFolder_url hhosted, hnone, ← hpath] at heq
    obtain ⟨hsegments, htail⟩ := url_inj heq
    rw [List.append_nil] at htail
    have huntailed : Untailed found.rest := tailOf_eq_none_iff.mp htail
    rw [pathBehindHost_append hrest huntailed, pathFrom_nil (by decide), pathFrom_nil (by decide)]
      at hsegments
    exact ⟨huntailed, List.append_cancel_right (Path.segments.inj hsegments)⟩
  · intro h
    rw [urlBehind_of_isFolderOf hhosted hrest h, inFolder_url hhosted, inFolder_url hhosted, hpath]
    rfl

/-- One name behind what follows an authority tells that it is folders. -/
theorem isFolderOf_of_name (hhosted : SchemeKind.of scheme = .hosted) (hrest : EndsInSlash found.rest)
    (h : found.urlBehind scheme ['.', '/', 'x'] =
      inFolder (found.url scheme path tail) ['.', '/', 'x']) :
    found.IsFolderOf (found.url scheme path tail) := by
  rw [inFolder_url hhosted] at h
  obtain ⟨hsegments, htail⟩ := url_inj h
  have huntailed : Untailed found.rest := fun c hc =>
    tailOf_eq_none_iff.mp htail c (List.mem_append_left _ hc)
  rw [pathBehindHost_append hrest huntailed, pathFrom_name, pathFrom_name] at hsegments
  exact ⟨huntailed, List.append_cancel_right (Path.segments.inj hsegments)⟩

/-- Relative locators behind a text that ends in a slash are joined to what was read behind it, all
of them, exactly if the text is the URL of its folder. -/
theorem parse_folder_iff (h : EndsInSlash a) (hkind : u.kind = .hosted)
    (hparse : parseFrom none (a ++ b) = .ok u) :
    (∀ cs, IsRelative cs → parseFrom none (a ++ cs) = .ok (inFolder u (cleanEnd cs))) ↔
      parseFrom none a = .ok (inFolder u ['.']) := by
  obtain ⟨scheme, hhosted, hread | ⟨found, hrest, rfl, hread⟩⟩ := parse_append_cases h hkind hparse
  · exact iff_of_false (not_relative_of_no_host hhosted hread) (not_folder_of_no_host hhosted hread)
  · have hself := hread []
    rw [List.append_nil] at hself
    rw [hself, Except.ok.injEq]
    -- Both say of what follows the authority that it is the folders and nothing else.
    refine Iff.trans ⟨?_, ?_⟩ (urlBehind_nil_iff hhosted hrest).symm
    · intro hall
      have hname := hall ['.', '/', 'x'] (.inl ⟨['x'], rfl⟩)
      rw [hread] at hname
      exact isFolderOf_of_name hhosted hrest (Except.ok.inj hname)
    · intro hfolder cs _
      rw [hread]
      exact congrArg Except.ok (urlBehind_of_isFolderOf hhosted hrest hfolder (cleanEnd cs))

/-- Whether a text is the name of a file: one piece of a path, which does not lead up, in front of what
else there is. -/
def IsName (cs : List Char) : Prop := ∃ piece, pathPieces .hosted cs = [piece] ∧ isUp piece = false

theorem IsName.pathFrom (h : IsName b) (start : List (List Char)) :
    ∃ name, pathFrom .hosted start b = .segments (start ++ [name]) := by
  obtain ⟨piece, hpiece, hup⟩ := h
  simp only [Url.pathFrom, hpiece, addPieces, addPiece, hup]
  cases isHere piece with
  | true => exact ⟨[], by simp⟩
  | false => exact ⟨percentEncode pathSet piece, by simp⟩

/-- If a text that ends in a slash is a URL without a query and a fragment, it is the URL of the folder
of every name behind it. -/
theorem parse_folder_of_isName (h : EndsInSlash a) (hkind : u.kind = .hosted)
    (hparse : parseFrom none (a ++ b) = .ok u) {v : Url} (hself : parseFrom none a = .ok v)
    (hquery : v.query = none) (hfragment : v.fragment = none) (hname : IsName (cleanEnd b)) :
    parseFrom none a = .ok (inFolder u ['.']) := by
  obtain ⟨scheme, hhosted, hread | ⟨found, hrest, rfl, hread⟩⟩ := parse_append_cases h hkind hparse
  · exact absurd hself (not_folder_of_no_host hhosted hread)
  · have hempty := hread []
    rw [List.append_nil] at hempty
    rw [hself] at hempty
    obtain rfl := Except.ok.inj hempty
    rw [hself, Except.ok.injEq]
    apply (urlBehind_nil_iff hhosted hrest).mpr
    have huntailed : Untailed found.rest := by
      have htail : tailOf .hosted (found.rest ++ []) = ⟨none, none⟩ := by
        rw [Tail.mk.injEq]
        exact ⟨hquery, hfragment⟩
      rwa [List.append_nil, tailOf_eq_none_iff] at htail
    obtain ⟨name, hpath⟩ := hname.pathFrom (foldersIn .hosted found.rest)
    refine ⟨huntailed, ?_⟩
    rw [pathBehindHost_append hrest huntailed, hpath]
    exact List.dropLast_concat.symm

end Url

end MessageBundles

import MessageBundles.About
import MessageBundles.Fetch.Fetcher
import MessageBundles.Proofs.Bundle.RoundTrip
import MessageBundles.Proofs.Results
import MessageBundles.Proofs.Text.Utf8

/-
  Interchange — the same bytes from a directory, from the web and from memory

  A file is read as the text its bytes are, and memory holds that text. The web takes a byte order
  mark in front of it away. The mark is no blank, so a bundle has it in front of the first key, where
  it is left: the mark makes a line that starts with it bind another key, or bind one at all. What is
  proved:
    1. `bodyText_of_decode?` — a body that is a text is the text without a mark in front.
    2. `fromProperties_mark_iff` — the mark does not matter to a bundle exactly if later lines bind
       again what the first line binds, with the mark and without it.
    3. `fetch_agrees_iff` — so the three agree on a text exactly if it has no mark in front or the mark
       does not matter.
-/

namespace MessageBundles

open Text

/-! ## Bodies -/

/-- A text without a byte order mark in front. -/
def withoutMark : List Char → List Char
  | [] => []
  | c :: rest => if c = Utf8.mark then rest else c :: rest

theorem withoutMark_mark (cs : List Char) : withoutMark (Utf8.mark :: cs) = cs := by
  rw [withoutMark, if_pos rfl]

theorem withoutMark_of_ne {cs : List Char} (h : ∀ rest, cs ≠ Utf8.mark :: rest) :
    withoutMark cs = cs := by
  cases cs with
  | nil => rfl
  | cons c rest =>
    apply if_neg
    intro hc
    exact h rest (by rw [hc])

namespace Web

variable {contentType : Option String} {body : List UInt8} {cs : List Char}

/-- Bytes that are a text tell of no other charset by a mark than the one they are in. -/
theorem ofMark?_of_decode? (h : Utf8.decode? body = some cs) :
    (∃ rest bytes, cs = Utf8.mark :: rest ∧ Charset.ofMark? body = some (.utf8, bytes) ∧
        Utf8.decode? bytes = some rest) ∨
      (∀ rest, cs ≠ Utf8.mark :: rest) ∧ Charset.ofMark? body = none := by
  rw [Utf8.decode?_eq_some_iff] at h
  by_cases hmark : ∃ rest, cs = Utf8.mark :: rest
  · obtain ⟨rest, rfl⟩ := hmark
    obtain ⟨bytes, rfl⟩ := Utf8.eq_mark_of_items h
    refine .inl ⟨rest, bytes, rfl, rfl, ?_⟩
    rw [Utf8.items_mark] at h
    exact Utf8.decode?_eq_some_iff.mpr (List.cons.inj h).2
  · refine .inr ⟨fun rest heq => hmark ⟨rest, heq⟩, ?_⟩
    -- The other two marks are no text, and the one of the bytes would be in it.
    have hfirst : ∀ l, cs.map some ≠ none :: l := by
      intro l hl
      cases cs <;> cases hl
    unfold Charset.ofMark?
    split
    · rename_i bytes
      rw [Utf8.items_mark] at h
      obtain ⟨c, rest, rfl, hc, -⟩ := List.map_eq_cons_iff.mp h.symm
      exact absurd ⟨rest, by rw [Option.some.inj hc]⟩ hmark
    · exact absurd h.symm (hfirst _)
    · exact absurd h.symm (hfirst _)
    · rfl

/-- A body that is a text, in a content type without a charset, is the text without a mark in
front. -/
theorem bodyText_of_decode? (hcharset : contentType.bind Charset.ofContentType? = none)
    (h : Utf8.decode? body = some cs) :
    bodyText contentType body = String.ofList (withoutMark cs) := by
  rcases ofMark?_of_decode? h with ⟨rest, bytes, rfl, hmark, hrest⟩ | ⟨hne, hmark⟩
  · rw [bodyText, hmark, withoutMark_mark]
    exact congrArg String.ofList (Utf8.decodeLossy_of_decode? hrest)
  · rw [bodyText, hmark, hcharset, withoutMark_of_ne hne]
    exact congrArg String.ofList (Utf8.decodeLossy_of_decode? h)

/-- A client whose request for a locator is answered at once, with a whole body in a content type
without a charset. -/
def Answers (c : Client) (n : Network) (locator : String) (body : List UInt8) : Prop :=
  ∃ u resource? r, c.resolve locator = .ok u ∧ u.scheme = "http".toList ∧ u.hasHost = true ∧
    n = .answering resource? ∧ resource? (requestUrl u) = some r ∧ r.status = 200 ∧
    r.body = body ∧ r.fault = none ∧ r.contentType.bind Charset.ofContentType? = none

theorem get_of_answers {c : Client} {n : Network} {locator : String} (h : Answers c n locator body)
    (hbody : Utf8.decode? body = some cs) :
    (c.get n locator).result = .ok (String.ofList (withoutMark cs)) := by
  obtain ⟨u, resource?, r, hresolve, hscheme, hhost, rfl, hresource, hstatus, rfl, hfault, hcharset⟩ := h
  have hnext : r.next? u = none := by
    rw [Resource.next?, hstatus]
    rfl
  have hfinal : r.final = .ok (String.ofList (withoutMark cs)) := by
    rw [Resource.final, hstatus, hfault, bodyText_of_decode? hcharset hbody]
    rfl
  have hget : (Network.answering resource?).get u = ⟨[requestUrl u], r.final⟩ := by
    simp [Network.get, hhost, hscheme, follow, hresource, hfault, hnext]
  simp only [Client.get, hresolve, hget, hfinal]

end Web

/-! ## Bundles -/

namespace Dict

variable {α : Type}

theorem findEntry_reverse_eq_none_iff {key : String} {l : List (String × α)} :
    findEntry key l.reverse = none ↔ ∀ e ∈ l, e.1 ≠ key := by
  rw [findEntry_eq_none_iff]
  simp only [List.mem_reverse]

/-- Where no key is listed both here and there, two lists with the same ending make one dictionary
exactly if the ending lists their keys again. -/
theorem ofList_append_eq_iff {l m ending : List (String × α)}
    (hapart : ∀ e ∈ l, ∀ f ∈ m, e.1 ≠ f.1) :
    ofList (l ++ ending) = ofList (m ++ ending) ↔
      ∀ e ∈ l ++ m, ∃ f ∈ ending, f.1 = e.1 := by
  have hfind : ∀ (start : List (String × α)) key, (ofList (start ++ ending)).find? key =
      (findEntry key ending.reverse).or (findEntry key start.reverse) := by
    intro start key
    rw [find?_ofList, List.reverse_append, findEntry_append]
  constructor
  · intro heq e he
    by_cases hlisted : ∃ f ∈ ending, f.1 = e.1
    · exact hlisted
    · have hending : findEntry e.1 ending.reverse = none :=
        findEntry_reverse_eq_none_iff.mpr fun f hf hkey => hlisted ⟨f, hf, hkey⟩
      have hsame : findEntry e.1 l.reverse = findEntry e.1 m.reverse := by
        have := congrArg (find? · e.1) heq
        simpa only [hfind, hending, Option.none_or] using this
      rcases List.mem_append.mp he with hmem | hmem
      · rw [findEntry_reverse_eq_none_iff.mpr fun f hf => (hapart e hmem f hf).symm,
          findEntry_reverse_eq_none_iff] at hsame
        exact absurd rfl (hsame e hmem)
      · rw [findEntry_reverse_eq_none_iff.mpr fun f hf => hapart f hf e hmem, eq_comm,
          findEntry_reverse_eq_none_iff] at hsame
        exact absurd rfl (hsame e hmem)
  · intro h
    refine ext_find? fun key => ?_
    rw [hfind, hfind]
    cases hending : findEntry key ending.reverse with
    | some value => rfl
    | none =>
      rw [findEntry_reverse_eq_none_iff] at hending
      have hnone : ∀ e ∈ l ++ m, e.1 ≠ key := by
        intro e he hkey
        obtain ⟨f, hf, heq⟩ := h e he
        exact hending f hf (heq.trans hkey)
      rw [findEntry_reverse_eq_none_iff.mpr fun e he => hnone e (List.mem_append_left m he),
        findEntry_reverse_eq_none_iff.mpr fun e he => hnone e (List.mem_append_right l he)]

end Dict

namespace Bundle

/-- What stands in front of the first line break. -/
def firstLine (cs : List Char) : List Char := (runs isLineBreak cs).headD []

/-- What the lines behind the first one bind. -/
def laterBindings (cs : List Char) : List (String × String) :=
  (runs isLineBreak cs).tail.filterMap entry?

theorem bindings_eq (cs : List Char) :
    bindings cs = (Bundle.entry? (firstLine cs)).toList ++ laterBindings cs := by
  unfold bindings firstLine laterBindings
  cases hruns : runs isLineBreak cs with
  | nil => exact absurd hruns (runs_ne_nil isLineBreak cs)
  | cons line lines =>
    rw [List.filterMap_cons, List.headD_cons, List.tail_cons]
    cases entry? line <;> rfl

/-- A mark in front of a text is a mark in front of its first line. -/
theorem bindings_mark (cs : List Char) :
    bindings (Utf8.mark :: cs) = (Bundle.entry? (Utf8.mark :: firstLine cs)).toList ++ laterBindings cs := by
  have hmark : isLineBreak Utf8.mark = false := by decide
  unfold bindings firstLine laterBindings
  cases hruns : runs isLineBreak cs with
  | nil => exact absurd hruns (runs_ne_nil isLineBreak cs)
  | cons line lines =>
    rw [runs, hmark, hruns, List.headD_cons, List.tail_cons]
    show ((Utf8.mark :: line) :: lines).filterMap entry? = _
    rw [List.filterMap_cons]
    cases entry? (Utf8.mark :: line) <;> rfl

/-- A mark in front of a line makes another key of its key. -/
theorem entry?_mark_ne {line : List Char} {e f : String × String}
    (he : entry? (Utf8.mark :: line) = some e) (hf : entry? line = some f) : e.1 ≠ f.1 := by
  have hmark : isBlank Utf8.mark = false := by decide
  obtain ⟨_, _, _, hmarked, -, -, hlong, -⟩ := entry?_eq_some he
  obtain ⟨c, rest, _, hline, -, -, hshort, -⟩ := entry?_eq_some hf
  rw [List.dropWhile_cons_of_neg (by simp [hmark])] at hmarked
  cases hmarked
  have hc : isBlank c = false := head?_dropWhile isBlank line c (by rw [hline]; rfl)
  rw [dropEndWhile_cons_of_neg hmark] at hlong
  rw [dropEndWhile_cons_of_neg hc] at hshort
  intro heq
  rw [heq, hshort] at hlong
  obtain ⟨rfl, hbehind⟩ := List.cons.inj hlong
  -- Then the line has the mark behind its blanks, and its key would hold itself and more.
  have hwhole : line = line.takeWhile isBlank ++ Utf8.mark :: rest := by
    rw [← hline, List.takeWhile_append_dropWhile]
  have htake : line.takeWhile (· != '=') =
      line.takeWhile isBlank ++ Utf8.mark :: rest.takeWhile (· != '=') := by
    conv => lhs; rw [hwhole]
    rw [List.takeWhile_append_of_pos, List.takeWhile_cons_of_pos (by decide)]
    intro x hx
    have hblank : isBlank x = true := List.all_eq_true.mp List.all_takeWhile x hx
    rw [bne_iff_ne]
    rintro rfl
    exact absurd hblank (by decide)
  rw [htake, dropEndWhile_append_cons hmark] at hbehind
  have hlength := congrArg List.length hbehind
  rw [List.length_append, List.length_cons] at hlength
  omega

/-- A mark in front of a text does not matter to its bundle exactly if later lines bind again what the
first line binds, with the mark and without it. -/
theorem fromProperties_mark_iff (cs : List Char) :
    fromProperties (String.ofList (Utf8.mark :: cs)) = fromProperties (String.ofList cs) ↔
      ∀ e, entry? (Utf8.mark :: firstLine cs) = some e ∨ entry? (firstLine cs) = some e →
        ∃ f ∈ laterBindings cs, f.1 = e.1 := by
  have hapart : ∀ e ∈ (Bundle.entry? (Utf8.mark :: firstLine cs)).toList,
      ∀ f ∈ (Bundle.entry? (firstLine cs)).toList, e.1 ≠ f.1 := by
    intro e he f hf
    exact entry?_mark_ne (Option.mem_toList.mp he) (Option.mem_toList.mp hf)
  rw [fromProperties, fromProperties, String.toList_ofList, String.toList_ofList, bindings_mark,
    bindings_eq cs, ofEntries, ofEntries, Bundle.mk.injEq, Dict.ofList_append_eq_iff hapart]
  simp only [List.mem_append, Option.mem_toList]

end Bundle

/-! ## Fetchers -/

namespace Fetcher

/-- Bytes that are a text, as a file, as a text in memory, and as the body of an answer from the web.
All three are fetched. The file and memory always describe one bundle, and the web describes the same
exactly if there is no mark in front of the text or the mark does not matter. -/
theorem fetch_agrees_iff {w : World} {bytes : List UInt8} {cs : List Char}
    (htext : Utf8.decode? bytes = some cs) {root inDirectory : String} {path : List UInt8}
    (hpath : Fetch.pathOf root inDirectory = .ok path) (hfile : w.files.read path = .ok bytes)
    {texts : Dict String} {inMemory : String}
    (hmemory : texts.find? inMemory = some (String.ofList cs)) {client : Web.Client} {onWeb : String}
    (hweb : Web.Answers client w.network onWeb bytes) :
    ∃ ofFile ofMemory ofWeb,
      ((directory root).fetch w inDirectory).result = .ok ofFile ∧
      ((memory texts).fetch w inMemory).result = .ok ofMemory ∧
      ((web client).fetch w onWeb).result = .ok ofWeb ∧
      Bundle.fromProperties ofFile = Bundle.fromProperties ofMemory ∧
      (Bundle.fromProperties ofWeb = Bundle.fromProperties ofMemory ↔
        ∀ rest, cs = Utf8.mark :: rest →
          ∀ e, Bundle.entry? (Utf8.mark :: Bundle.firstLine rest) = some e ∨
              Bundle.entry? (Bundle.firstLine rest) = some e →
            ∃ f ∈ Bundle.laterBindings rest, f.1 = e.1) := by
  refine ⟨String.ofList cs, String.ofList cs, String.ofList (withoutMark cs), ?_, ?_, ?_, rfl, ?_⟩
  · simp only [fetch, Fetch.fromDirectory, hpath, Files.Tree.readText, hfile, htext]
  · exact (fetch_memory texts w inMemory _).mpr hmemory
  · simp only [fetch, Web.get_of_answers hweb htext]
  · by_cases hmark : ∃ rest, cs = Utf8.mark :: rest
    · obtain ⟨rest, rfl⟩ := hmark
      rw [withoutMark_mark, eq_comm, Bundle.fromProperties_mark_iff]
      constructor
      · rintro h _ ⟨⟩
        exact h
      · intro h
        exact h rest rfl
    · rw [withoutMark_of_ne fun rest heq => hmark ⟨rest, heq⟩]
      exact iff_of_true rfl fun rest heq => absurd ⟨rest, heq⟩ hmark

/-- A world with some bytes as a file and behind every URL. -/
def worldOf (bytes : List UInt8) : World where
  files := .ofEntries [] [([Utf8.encode "m.properties".toList], .file bytes)]
  network := .answering fun _ => some ⟨200, bytes, some "text/plain", none, none⟩

def hostUrl : Url where
  scheme := "http".toList
  username := []
  password := []
  host := some (.domain "host".toList)
  port := none
  path := .segments ["m.properties".toList]
  query := none
  fragment := none

theorem answers_worldOf (bytes : List UInt8) :
    Web.Answers ⟨none, About.agent⟩ (worldOf bytes).network "http://host/m.properties" bytes := by
  have hparse : Url.parse "http://host/m.properties" = .ok hostUrl :=
    eq_ok_of_toOption (by decide +kernel)
  have hcharset : (some "text/plain").bind Web.Charset.ofContentType? = none := by decide +kernel
  refine ⟨hostUrl, _, _, ?_, rfl, rfl, rfl, rfl, rfl, rfl, rfl, hcharset⟩
  rw [Web.Client.resolve, hparse]

def blankFirst : List Char := Utf8.mark :: "\na=b".toList

/-- A mark on a line of its own does not matter. -/
theorem fetch_agrees_iff_blank_first :
    ∃ ofFile ofMemory ofWeb,
      ((directory ".").fetch (worldOf (Utf8.encode blankFirst)) "m.properties").result = .ok ofFile ∧
      ((memory (Dict.ofList [("m", String.ofList blankFirst)])).fetch
        (worldOf (Utf8.encode blankFirst)) "m").result = .ok ofMemory ∧
      ((web ⟨none, About.agent⟩).fetch (worldOf (Utf8.encode blankFirst))
        "http://host/m.properties").result = .ok ofWeb ∧
      Bundle.fromProperties ofFile = Bundle.fromProperties ofMemory ∧
      Bundle.fromProperties ofWeb = Bundle.fromProperties ofMemory := by
  have htext : Utf8.decode? (Utf8.encode blankFirst) = some blankFirst := by decide +kernel
  have hpath : Fetch.pathOf "." "m.properties" = .ok (Utf8.encode "./m.properties".toList) :=
    eq_ok_of_toOption (by decide +kernel)
  have hfile : (worldOf (Utf8.encode blankFirst)).files.read (Utf8.encode "./m.properties".toList) =
      .ok (Utf8.encode blankFirst) :=
    eq_ok_of_toOption (by decide +kernel)
  have hmemory : (Dict.ofList [("m", String.ofList blankFirst)]).find? "m" =
      some (String.ofList blankFirst) := by
    decide +kernel
  obtain ⟨ofFile, ofMemory, ofWeb, hf, hm, hw, hsame, hiff⟩ :=
    fetch_agrees_iff htext hpath hfile hmemory (answers_worldOf (Utf8.encode blankFirst))
  refine ⟨ofFile, ofMemory, ofWeb, hf, hm, hw, hsame, hiff.mpr ?_⟩
  rintro rest hrest e he
  obtain rfl : rest = "\na=b".toList := (List.cons.inj hrest).2.symm
  have hmarked : Bundle.entry? (Utf8.mark :: Bundle.firstLine "\na=b".toList) = none := by
    decide +kernel
  have hblank : Bundle.entry? (Bundle.firstLine "\na=b".toList) = none := by decide +kernel
  rw [hmarked, hblank] at he
  rcases he with he | he
  · cases he
  · cases he

def markedLine : List UInt8 := [0xEF, 0xBB, 0xBF, 0x61, 0x3D, 0x62]

/-- A mark in front of a key: it is in the bundle of the file and of the memory, and not in that of
the web. -/
theorem fetch_disagrees_on_marked_key :
    ∃ text ofWeb, Utf8.decode? markedLine = some text ∧
      ((directory ".").fetch (worldOf markedLine) "m.properties").result =
        .ok (String.ofList text) ∧
      ((web ⟨none, About.agent⟩).fetch (worldOf markedLine) "http://host/m.properties").result =
        .ok ofWeb ∧
      Bundle.fromProperties (String.ofList text) = Bundle.ofEntries [("\uFEFFa", "b")] ∧
      Bundle.fromProperties ofWeb = Bundle.ofEntries [("a", "b")] ∧
      Bundle.fromProperties ofWeb ≠ Bundle.fromProperties (String.ofList text) := by
  refine ⟨Utf8.mark :: "a=b".toList, "a=b", ?_, ?_, ?_, ?_, ?_, ?_⟩
  · decide +kernel
  · exact eq_ok_of_toOption (by decide +kernel)
  · exact eq_ok_of_toOption (by decide +kernel)
  · decide +kernel
  · decide +kernel
  · decide +kernel

end Fetcher

end MessageBundles

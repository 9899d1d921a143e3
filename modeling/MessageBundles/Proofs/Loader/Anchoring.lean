import MessageBundles.About
import MessageBundles.Proofs.Locator.Chains
import MessageBundles.Proofs.Url.Join
import MessageBundles.Web.Client

/-
  Anchoring — a locator behind the folder of a document, and joined onto the document's URL

  A locator that starts with a dot is written behind everything up to the last slash of the document's
  location. That is a cut in a text, and says the same as joining exactly if the text up to the slash
  is the URL of the document's folder. It is not where the slash stands in the query, in the fragment
  or in front of the host, or where there is none, and behind the slash a backslash or a segment that
  climbs can lead to another folder. What is proved:
    1. `anchorsAsJoined_iff_parse` — the client plays no part in it.
    2. `resolve_anchor_eq_join_iff` — for every document on the web, anchoring is joining, for every
       client and locator, exactly if the text up to the last slash of the document is the URL of its
       folder. It is if that text has neither a query nor a fragment and a name is behind it.
-/

namespace MessageBundles.Web

open Text

theorem folder_cases (cs : List Char) :
    Locator.folder cs = [] ∨ Url.EndsInSlash (Locator.folder cs) :=
  (Locator.isFolder_folder cs).ends

theorem parse_ofList (cs : List Char) : Url.parse (String.ofList cs) = Url.parseFrom none cs := by
  rw [Url.parse, String.toList_ofList]

namespace Client

variable {locator : String} {v : Url}

theorem resolve_of_parse (c : Client) (h : Url.parse locator = .ok v) : c.resolve locator = .ok v := by
  rw [resolve, h]

theorem parse_of_resolve {agent : String} (h : (⟨none, agent⟩ : Client).resolve locator = .ok v) :
    Url.parse locator = .ok v := by
  unfold resolve at h
  split at h
  · rename_i hparse
    cases h
    exact hparse
  · cases h
  · cases h

end Client

/-- Whether relative locators that are anchored to a document are resolved to what they are joined to
the URL of the document, whatever the locator and the client. -/
def AnchorsAsJoined (document : String) (u : Url) : Prop :=
  ∀ (c : Client) (locator : String), Url.IsRelative locator.toList →
    ∃ v, u.join locator = .ok v ∧ c.resolve (Locator.anchor document locator) = .ok v

section Documents
variable {document : String} {u : Url}

theorem join_of_parse (hparse : Url.parse document = .ok u) (hkind : u.kind = .hosted)
    {text : String} (h : text.toList.head? = some '.') :
    u.join text = .ok (Url.inFolder u (Url.cleanEnd text.toList)) :=
  Url.join_of_dot hkind (Url.path_of_hosted hparse hkind) h

/-- A client resolves what a locator is read as behind the folder, if it is read as a URL. -/
theorem anchorsAsJoined_iff_parse (hparse : Url.parse document = .ok u) (hkind : u.kind = .hosted) :
    AnchorsAsJoined document u ↔ ∀ cs, Url.IsRelative cs →
      Url.parseFrom none (Locator.folder document.toList ++ cs) =
        .ok (Url.inFolder u (Url.cleanEnd cs)) := by
  constructor
  · intro h cs hcs
    have hrelative : Url.IsRelative (String.ofList cs).toList := by rwa [String.toList_ofList]
    obtain ⟨v, hv, hresolve⟩ := h ⟨none, ""⟩ (String.ofList cs) hrelative
    rw [join_of_parse hparse hkind hrelative.head?, String.toList_ofList] at hv
    rw [Except.ok.inj hv]
    have hread := Client.parse_of_resolve hresolve
    rwa [Locator.anchor, String.toList_ofList, parse_ofList] at hread
  · intro h c locator hlocator
    refine ⟨_, join_of_parse hparse hkind hlocator.head?, c.resolve_of_parse ?_⟩
    rw [Locator.anchor, parse_ofList]
    exact h _ hlocator

/-- Anchoring to a document on the web is joining exactly if the text up to the last slash of the
document is the URL of its folder, which is what a single dot is joined to. It is if that text is a URL
without a query and a fragment, and what follows the slash is a name. -/
theorem resolve_anchor_eq_join_iff (hparse : Url.parse document = .ok u) (hkind : u.kind = .hosted) :
    (AnchorsAsJoined document u ↔
      Url.parse (String.ofList (Locator.folder document.toList)) = u.join ".") ∧
    ∀ v file, Url.parse (String.ofList (Locator.folder document.toList)) = .ok v →
      v.query = none → v.fragment = none →
      document.toList = Locator.folder document.toList ++ file → Url.IsName (Url.cleanEnd file) →
      AnchorsAsJoined document u := by
  have hjoin : u.join "." = .ok (Url.inFolder u ['.']) := join_of_parse hparse hkind rfl
  have hbase : ∀ file, document.toList = Locator.folder document.toList ++ file →
      Url.parseFrom none (Locator.folder document.toList ++ file) = .ok u := by
    intro file hfile
    rw [← hfile]
    exact hparse
  obtain ⟨last, hlast, -⟩ := dropEndWhile_append (· != '/') document.toList
  have hiff : AnchorsAsJoined document u ↔
      Url.parseFrom none (Locator.folder document.toList) = .ok (Url.inFolder u ['.']) := by
    rw [anchorsAsJoined_iff_parse hparse hkind]
    rcases folder_cases document.toList with hnone | hends
    · -- Without a slash in the document the locator stands alone, and is no URL.
      rw [hnone]
      refine iff_of_false ?_ nofun
      intro h
      have hread := h ['.', '/'] (.inl ⟨[], rfl⟩)
      cases hread
    · exact Url.parse_folder_iff hends hkind (hbase last hlast)
  rw [parse_ofList, hjoin]
  refine ⟨hiff, ?_⟩
  intro v file hself hquery hfragment hfile hname
  rcases folder_cases document.toList with hnone | hends
  · rw [hnone] at hself
    cases hself
  · apply hiff.mpr
    exact Url.parse_folder_of_isName hends hkind (hbase file hfile) hself hquery hfragment hname

end Documents

def pageUrl : Url where
  scheme := "http".toList
  username := []
  password := []
  host := some (.domain "host".toList)
  port := none
  path := .segments ["app".toList, "page.html".toList]
  query := some "q=1".toList
  fragment := some "top".toList

def pageFolder : Url :=
  { pageUrl with path := .segments ["app".toList, []], query := none, fragment := none }

/-- A page with a query and a fragment, in which there is no slash. -/
theorem resolve_anchor_eq_join_page :
    Url.parse "http://host/app/page.html?q=1#top" = .ok pageUrl ∧
      AnchorsAsJoined "http://host/app/page.html?q=1#top" pageUrl ∧
      Url.parse (String.ofList (Locator.folder "http://host/app/page.html?q=1#top".toList)) =
        pageUrl.join "." := by
  have hparse : Url.parse "http://host/app/page.html?q=1#top" = .ok pageUrl :=
    eq_ok_of_toOption (by decide +kernel)
  have hcut : Url.parse (String.ofList
      (Locator.folder "http://host/app/page.html?q=1#top".toList)) = .ok pageFolder :=
    eq_ok_of_toOption (by decide +kernel)
  have hsplit : "http://host/app/page.html?q=1#top".toList =
      Locator.folder "http://host/app/page.html?q=1#top".toList ++ "page.html?q=1#top".toList := by
    decide +kernel
  have hname : Url.IsName (Url.cleanEnd "page.html?q=1#top".toList) :=
    ⟨"page.html".toList, by decide +kernel, by decide +kernel⟩
  obtain ⟨hiff, hplain⟩ := resolve_anchor_eq_join_iff hparse rfl
  have hagree := hplain pageFolder _ hcut rfl rfl hsplit hname
  exact ⟨hparse, hagree, hiff.mp hagree⟩

/-- Behind a host without a slash in front of it there is no folder in the text, but there is one in
the URL. -/
theorem resolve_anchor_ne_join_of_no_slash :
    ∃ u v, Url.parse "http:host" = .ok u ∧ u.scheme = "http".toList ∧
      Url.IsRelative "./x.properties".toList ∧ u.join "./x.properties" = .ok v ∧
      v.toText = "http://host/x.properties" ∧
      (⟨none, About.agent⟩ : Client).resolve (Locator.anchor "http:host" "./x.properties") =
        .error .noBase := by
  refine ⟨⟨"http".toList, [], [], some (.domain "host".toList), none, .segments [[]], none, none⟩,
    ⟨"http".toList, [], [], some (.domain "host".toList), none, .segments ["x.properties".toList],
      none, none⟩, ?_, rfl, .inl ⟨_, rfl⟩, ?_, ?_, ?_⟩
  · exact eq_ok_of_toOption (by decide +kernel)
  · exact eq_ok_of_toOption (by decide +kernel)
  · decide +kernel
  · rw [Locator.anchor_of_not_mem (by decide)]
    exact Client.resolve_of_no_base rfl rfl

end MessageBundles.Web

import MessageBundles.Proofs.Module.Overrides
import MessageBundles.Proofs.Settings.Prefixes
import MessageBundles.Settings.Validation

/-
  Validated settings — what is made of settings in which no fault was found

  Settings are looked through for faults before a fetcher and a resolver are made of them, and both of
  these read the same fields once more in their own way. A fetcher is particular about the agent, which
  is not looked at before. A resolver takes module prefixes without the slashes at their ends, and they
  are looked at as they are written. What is proved:
    1. `ofSettings_error_cases` — only a fetcher for the web is refused, by its agent first and then by
       its base.
    2. `ofSettings_validated` — settings without a fault make a fetcher, unless it is one for the web
       and its agent has a control character; a base that is no URL is the same fault to both.
    3. `locate_of_resolve_nil` — where an identifier is that resolves to nothing.
    4. `overrides_validated` — a resolver of settings without a fault has an empty prefix exactly if
       one of slashes alone is configured, and the path of the longest of these moves it off the base.
    5. `overrides_slash_prefix` — a prefix that is a slash passes, and becomes the empty one.
-/

namespace MessageBundles

open Text

/-! ## Settings without a fault -/

theorem Settings.validate_eq_ok_iff {s : Settings} :
    s.validate = .ok () ↔
      s.loader.validate = .ok () ∧ s.fetch.validate = .ok () ∧ s.logging.validate = .ok () := by
  unfold Settings.validate
  simp only [bind_eq_ok_iff]
  constructor
  · rintro ⟨⟨⟩, hloader, ⟨⟩, hfetch, hlogging⟩
    exact ⟨hloader, hfetch, hlogging⟩
  · rintro ⟨hloader, hfetch, hlogging⟩
    exact ⟨(), hloader, (), hfetch, hlogging⟩

theorem LoaderSettings.find?_of_validate {s : LoaderSettings} (h : s.validate = .ok ()) :
    s.paths.find? "" = none := by
  unfold LoaderSettings.validate at h
  split at h
  · cases h
  · split at h
    · cases h
    · rename_i hprefix
      simpa [Dict.contains] using hprefix

section FetchSettings
variable {s : FetchSettings} {base : String}

theorem FetchSettings.parse_of_validate (h : s.validate = .ok ()) (hbackend : s.backend = .http)
    (hbase : s.httpBaseUrl = some base) : ∃ u, Url.parse base = .ok u := by
  simp only [FetchSettings.validate, hbackend, hbase] at h
  split at h
  · cases h
  · split at h
    · rename_i u hparse
      exact ⟨u, hparse⟩
    · cases h

theorem FetchSettings.validate_of_parse_error (htimeout : s.timeoutSeconds ≠ 0)
    (hbackend : s.backend = .http) (hbase : s.httpBaseUrl = some base) {fault : Url.ParseError}
    (hparse : Url.parse base = .error fault) : s.validate = .error (.url fault) := by
  simp only [FetchSettings.validate, htimeout, hbackend, hbase, hparse, if_false]

end FetchSettings

/-! ## Fetchers -/

/-- Whether an agent has a control character of ASCII in it that is no tab. -/
def HasControl (agent : String) : Prop :=
  ∃ c ∈ agent.toList, (c.toNat < 0x20 ∨ c.toNat = 0x7F) ∧ c ≠ '\t'

theorem any_isControl_iff (agent : String) :
    agent.toList.any Web.isControl = true ↔ HasControl agent := by
  rw [List.any_eq_true]
  refine exists_congr fun c => and_congr_right fun _ => ?_
  simp only [Web.isControl, Bool.or_eq_true, Bool.and_eq_true, decide_eq_true_eq, bne_iff_ne,
    beq_iff_eq]
  constructor
  · rintro (⟨hlow, htab⟩ | hdelete)
    · exact ⟨.inl hlow, htab⟩
    · refine ⟨.inr hdelete, ?_⟩
      rintro rfl
      cases hdelete
  · rintro ⟨hlow | hdelete, htab⟩
    · exact .inl ⟨hlow, htab⟩
    · exact .inr hdelete

namespace Fetcher

variable {s : FetchSettings} {base : String}

theorem ofSettings_of_control (hbackend : s.backend = .http) (h : HasControl s.userAgent) :
    ∃ reason, ofSettings s = .error (.client reason) := by
  simp only [ofSettings, hbackend, Web.Client.ofSettings, (any_isControl_iff _).mpr h, if_true]
  exact ⟨_, rfl⟩

theorem ofSettings_of_parse_error (hbackend : s.backend = .http) (h : ¬ HasControl s.userAgent)
    (hbase : s.httpBaseUrl = some base) {fault : Url.ParseError}
    (hparse : Url.parse base = .error fault) : ofSettings s = .error (.url fault) := by
  rw [← any_isControl_iff] at h
  simp only [ofSettings, hbackend, Web.Client.ofSettings, h, hbase, hparse, Bool.false_eq_true,
    if_false]

/-- Only a fetcher for the web is refused, by its agent first and then by its base. -/
theorem ofSettings_error_cases {e : LoadError} (h : ofSettings s = .error e) :
    s.backend = .http ∧ ((HasControl s.userAgent ∧ ∃ reason, e = .client reason) ∨
      ∃ base fault, s.httpBaseUrl = some base ∧ Url.parse base = .error fault ∧ e = .url fault) := by
  cases hbackend : s.backend with
  | file =>
    rw [ofSettings, hbackend] at h
    cases h
  | http =>
    refine ⟨rfl, ?_⟩
    by_cases hcontrol : HasControl s.userAgent
    · obtain ⟨reason, herror⟩ := ofSettings_of_control hbackend hcontrol
      rw [h] at herror
      exact .inl ⟨hcontrol, reason, Except.error.inj herror⟩
    · right
      cases hbase : s.httpBaseUrl with
      | none =>
        rw [← any_isControl_iff] at hcontrol
        simp only [ofSettings, hbackend, Web.Client.ofSettings, hcontrol, hbase] at h
        cases h
      | some base =>
        cases hparse : Url.parse base with
        | ok u =>
          rw [← any_isControl_iff] at hcontrol
          simp only [ofSettings, hbackend, Web.Client.ofSettings, hcontrol, hbase, hparse] at h
          cases h
        | error fault =>
          rw [ofSettings_of_parse_error hbackend hcontrol hbase hparse] at h
          exact ⟨base, fault, rfl, hparse, (Except.error.inj h).symm⟩

end Fetcher

/-- In settings without a fault only the agent can be refused. -/
theorem Fetcher.control_of_validate {s : Settings} (hvalid : s.validate = .ok ()) {e : LoadError}
    (h : Fetcher.ofSettings s.fetch = .error e) :
    s.fetch.backend = .http ∧ HasControl s.fetch.userAgent ∧ ∃ reason, e = .client reason := by
  obtain ⟨hbackend, ⟨hcontrol, hreason⟩ | ⟨base, fault, hbase, hparse, -⟩⟩ :=
    ofSettings_error_cases h
  · exact ⟨hbackend, hcontrol, hreason⟩
  · have hfetch := (Settings.validate_eq_ok_iff.mp hvalid).2.1
    obtain ⟨u, hu⟩ := FetchSettings.parse_of_validate hfetch hbackend hbase
    rw [hparse] at hu
    cases hu

/-- Settings without a fault make a fetcher, unless it is one for the web and its agent has a control
character, which is then the error. Settings for the web whose base is no URL make none; the error is
the fault that is found in them, if the agent is in order and nothing comes before the base. -/
theorem Fetcher.ofSettings_validated (s : Settings) :
    (s.validate = .ok () →
      ((∃ e, Fetcher.ofSettings s.fetch = .error e) ↔
        s.fetch.backend = .http ∧ HasControl s.fetch.userAgent) ∧
      ∀ e, Fetcher.ofSettings s.fetch = .error e →
        (∃ reason, e = .client reason) ∧ ∀ fault, e ≠ .url fault) ∧
    ∀ base fault, s.fetch.backend = .http → s.fetch.httpBaseUrl = some base →
      Url.parse base = .error fault →
      (∃ e, Fetcher.ofSettings s.fetch = .error e) ∧
      (¬ HasControl s.fetch.userAgent → s.loader.validate = .ok () → s.fetch.timeoutSeconds ≠ 0 →
        Fetcher.ofSettings s.fetch = .error (.url fault) ∧ s.validate = .error (.url fault)) := by
  refine ⟨fun hvalid => ⟨⟨?_, ?_⟩, fun e h => ?_⟩, fun base fault hbackend hbase hparse => ⟨?_, ?_⟩⟩
  · rintro ⟨e, h⟩
    obtain ⟨hbackend, hcontrol, -⟩ := control_of_validate hvalid h
    exact ⟨hbackend, hcontrol⟩
  · rintro ⟨hbackend, hcontrol⟩
    obtain ⟨reason, h⟩ := ofSettings_of_control hbackend hcontrol
    exact ⟨_, h⟩
  · obtain ⟨-, -, reason, rfl⟩ := control_of_validate hvalid h
    exact ⟨⟨reason, rfl⟩, fun fault heq => by cases heq⟩
  · by_cases hcontrol : HasControl s.fetch.userAgent
    · obtain ⟨reason, h⟩ := ofSettings_of_control hbackend hcontrol
      exact ⟨_, h⟩
    · exact ⟨_, ofSettings_of_parse_error hbackend hcontrol hbase hparse⟩
  · intro hcontrol hloader htimeout
    refine ⟨ofSettings_of_parse_error hbackend hcontrol hbase hparse, ?_⟩
    rw [Settings.validate, hloader]
    show s.fetch.validate >>= _ = _
    rw [FetchSettings.validate_of_parse_error htimeout hbackend hbase hparse]
    rfl

def webSettings (base : Option String) (agent : String) : Settings :=
  { Settings.default with fetch := { FetchSettings.default with
    backend := .http, httpBaseUrl := base, userAgent := agent } }

/-- An agent with a line break in it passes, and is refused then; a base without a scheme is refused
both times. -/
theorem Fetcher.ofSettings_validated_agent :
    (webSettings none "a\n").validate = .ok () ∧
      (∃ e, Fetcher.ofSettings (webSettings none "a\n").fetch = .error e) ∧
      Fetcher.ofSettings (webSettings (some "./") "a\t").fetch = .error (.url .relativeWithoutBase) ∧
      (webSettings (some "./") "a\t").validate = .error (.url .relativeWithoutBase) := by
  have hvalid : (webSettings none "a\n").validate = .ok () := by rfl
  have hcontrol : HasControl "a\n" := ⟨'\n', by decide, by decide⟩
  have hlegal : ¬ HasControl "a\t" := by
    rw [← any_isControl_iff]
    decide
  have hparse : Url.parse "./" = .error .relativeWithoutBase := by rfl
  obtain ⟨hfault, -⟩ := (ofSettings_validated (webSettings none "a\n")).1 hvalid
  obtain ⟨-, hbase⟩ := (ofSettings_validated (webSettings (some "./") "a\t")).2 "./" _ rfl rfl hparse
  obtain ⟨hfetcher, hsettings⟩ := hbase hlegal rfl (by decide)
  exact ⟨hvalid, hfault.mpr ⟨rfl, hcontrol⟩, hfetcher, hsettings⟩

/-! ## Empty prefixes -/

namespace Module.Resolver

/-- Whether nothing is left of a text without the slashes at its end. -/
def onlySlashes (s : String) : Bool := s.toList.all (· == '/')

theorem dropSlashes_eq_empty_iff {s : String} : dropSlashes s = "" ↔ onlySlashes s = true := by
  rw [← String.toList_eq_nil_iff, dropSlashes, String.toList_ofList, onlySlashes, List.all_eq_true]
  constructor
  · intro hnil
    obtain ⟨ending, heq, hending⟩ := dropEndWhile_append (· == '/') s.toList
    rw [hnil, List.nil_append] at heq
    rwa [heq]
  · intro h
    rw [dropEndWhile_eq_nil_of_forall h]

/-- Of two texts of slashes the longer one comes later. -/
theorem not_lt_of_onlySlashes {s t : String} (hs : onlySlashes s = true) (ht : onlySlashes t = true)
    (hlength : t.toList.length ≤ s.toList.length) : ¬ s < t := by
  have hreplicate : ∀ {u : String}, onlySlashes u = true →
      u.toList = List.replicate u.toList.length '/' :=
    fun hu => List.eq_replicate_of_mem fun c hc => beq_iff_eq.mp (List.all_eq_true.mp hu c hc)
  have hprefix : t.toList <+: s.toList := by
    refine ⟨List.replicate (s.toList.length - t.toList.length) '/', ?_⟩
    rw [hreplicate hs, hreplicate ht, List.length_replicate, List.length_replicate,
      List.replicate_append_replicate, Nat.add_sub_of_le hlength]
  exact hprefix.le

section Registrations
variable {base : String} {parent : Option String} {id : List Char}

theorem registered?_nil_eq_none_iff {l : List (String × String)} :
    registered? l [] = none ↔ ∀ e ∈ l, onlySlashes e.1 = false := by
  rw [registered?, Option.map_eq_none_iff, List.find?_eq_none]
  simp only [List.mem_reverse, decide_eq_true_eq, String.toList_eq_nil_iff, dropSlashes_eq_empty_iff,
    Bool.not_eq_true]

/-- Of the prefixes of slashes alone the longest one is registered last. -/
theorem registered?_nil_of_longest {d : Dict String} {e : String × String} (he : e ∈ d.entries)
    (hslashes : onlySlashes e.1 = true)
    (hlongest : ∀ f ∈ d.entries, onlySlashes f.1 = true → f.1.toList.length ≤ e.1.toList.length) :
    registered? d.entries [] = some (dropSlashes e.2).toList := by
  obtain ⟨before, after, hentries⟩ := List.append_of_mem he
  have hempty : dropSlashes e.1 = "" := dropSlashes_eq_empty_iff.mpr hslashes
  have hlast : ∀ f ∈ after, dropSlashes f.1 ≠ dropSlashes e.1 := by
    intro f hf heq
    have hsorted := d.sorted
    rw [hentries] at hsorted
    have hlt : e.1 < f.1 := (List.pairwise_cons.mp (List.pairwise_append.mp hsorted).2.1).1 f hf
    rw [hempty, dropSlashes_eq_empty_iff] at heq
    refine not_lt_of_onlySlashes hslashes heq (hlongest f ?_ heq) hlt
    rw [hentries]
    exact List.mem_append_right before (List.mem_cons_of_mem e hf)
  have hregistered := registered?_of_last ⟨before, after, hentries, hlast⟩
  rwa [hempty] at hregistered

/-- An identifier that resolves to nothing is at the base, unless the empty prefix is registered: then
it is where the path of that leads to. -/
theorem locate_of_resolve_nil {l : List (String × String)}
    (h : (ofRegistrations base l parent).resolve id = []) :
    (ofRegistrations base l parent).locate id =
      match registered? l [] with
      | none => closeBase base.toList
      | some path =>
        if Locator.isAbsolute path then path else closeBase base.toList ++ path := by
  have hnearest : nearest? l [] = (registered? l []).map fun path => ([], path) := by
    rw [nearest?, show ancestors [] = [[]] from rfl, List.findSome?_singleton]
  rw [locate, h, locateResolved_eq_locateFrom, if_neg (by decide), locateFrom, hnearest]
  cases registered? l [] with
  | none => exact List.append_nil _
  | some path => simp only [Option.map_some, List.drop_nil, List.append_nil]

theorem getLast?_closeBase {cs : List Char} (h : closeBase cs ≠ []) :
    (closeBase cs).getLast? = some '/' := by
  unfold closeBase at h ⊢
  split
  · rename_i hclosed
    rw [if_pos hclosed] at h
    exact hclosed.resolve_left h
  · exact List.getLast?_concat

/-- A path without slashes at its end leads to the base only if there is nothing of it. -/
theorem located_eq_base_iff (base path : String) :
    (if Locator.isAbsolute (dropSlashes path).toList then (dropSlashes path).toList
      else closeBase base.toList ++ (dropSlashes path).toList) = closeBase base.toList ↔
      onlySlashes path = true := by
  rw [← dropSlashes_eq_empty_iff, ← String.toList_eq_nil_iff]
  split
  · rename_i habsolute
    have hne : (dropSlashes path).toList ≠ [] := by
      intro hnil
      rw [hnil] at habsolute
      cases habsolute
    refine ⟨fun heq => ?_, fun hnil => absurd hnil hne⟩
    -- A base has a slash at its end, and a path has none.
    exact absurd (getLast?_closeBase (heq ▸ hne)) (heq ▸ getLast?_dropSlashes path)
  · rw [List.append_right_eq_self]

end Registrations

end Module.Resolver

namespace Loader

open Module.Resolver

variable {s : Settings}

theorem contains_empty_iff (l : LoaderSettings) :
    (resolverOf l).overrides.contains "" = true ↔
      ∃ e ∈ l.paths.entries, onlySlashes e.1 = true := by
  have hfind : (resolverOf l).overrides.find? "" =
      (registered? l.paths.entries []).map String.ofList := by
    rw [resolverOf_eq_ofRegistrations]
    exact find?_overrides l.baseUrl l.paths.entries ""
  rw [Dict.contains, hfind, Option.isSome_map, Option.isSome_iff_ne_none, Ne,
    registered?_nil_eq_none_iff]
  simp

/-- A resolver of settings without a fault has an override with the empty prefix exactly if one of
slashes alone is configured, as the empty one itself is not. Where there is none, an identifier that
resolves to nothing is at the base; where there are some, the path of the longest of them says where it
is, and it is at the base only if that path, too, is nothing but slashes. -/
theorem overrides_validated (hvalid : s.validate = .ok ()) :
    ((resolverOf s.loader).overrides.contains "" = true ↔
      ∃ e ∈ s.loader.paths.entries, e.1 ≠ "" ∧ onlySlashes e.1 = true) ∧
    ((∀ e ∈ s.loader.paths.entries, onlySlashes e.1 = false) →
      ∀ id, (resolverOf s.loader).resolve id = [] →
        (resolverOf s.loader).locate id = (resolverOf s.loader).base.toList) ∧
    ∀ e ∈ s.loader.paths.entries, onlySlashes e.1 = true →
      (∀ f ∈ s.loader.paths.entries, onlySlashes f.1 = true →
        f.1.toList.length ≤ e.1.toList.length) →
      ∀ id, (resolverOf s.loader).resolve id = [] →
        (resolverOf s.loader).locate id =
          (if Locator.isAbsolute (dropSlashes e.2).toList then (dropSlashes e.2).toList
            else (resolverOf s.loader).base.toList ++ (dropSlashes e.2).toList) ∧
        ((resolverOf s.loader).locate id = (resolverOf s.loader).base.toList ↔
          onlySlashes e.2 = true) := by
  have hne : ∀ e ∈ s.loader.paths.entries, e.1 ≠ "" := Dict.findEntry_eq_none_iff.mp
    (LoaderSettings.find?_of_validate (Settings.validate_eq_ok_iff.mp hvalid).1)
  refine ⟨?_, ?_, ?_⟩
  · rw [contains_empty_iff]
    exact exists_congr fun e => and_congr_right fun he => (and_iff_right (hne e he)).symm
  · intro hnone id hid
    rw [resolverOf_eq_ofRegistrations] at hid ⊢
    rw [locate_of_resolve_nil hid, registered?_nil_eq_none_iff.mpr hnone, base_ofRegistrations]
  · intro e he hslashes hlongest id hid
    rw [resolverOf_eq_ofRegistrations] at hid ⊢
    rw [locate_of_resolve_nil hid, registered?_nil_of_longest he hslashes hlongest,
      base_ofRegistrations]
    exact ⟨rfl, located_eq_base_iff _ _⟩

def prefixSettings (paths : List (String × String)) : Settings :=
  { Settings.default with loader := { LoaderSettings.default with
    paths := Dict.ofList paths, parentModule := some "a/b" } }

/-- Two prefixes of slashes; the path of the longer one counts, wherever it was written. -/
theorem overrides_validated_longest :
    (prefixSettings [("//", "y/"), ("/", "x"), ("lib", "ui")]).validate = .ok () ∧
      (resolverOf (prefixSettings [("//", "y/"), ("/", "x"), ("lib", "ui")]).loader).resolve
        "./..".toList = [] ∧
      (resolverOf (prefixSettings [("//", "y/"), ("/", "x"), ("lib", "ui")]).loader).locate
        "./..".toList = "./y".toList := by
  have hvalid : (prefixSettings [("//", "y/"), ("/", "x"), ("lib", "ui")]).validate = .ok () := by rfl
  have hid : (resolverOf (prefixSettings [("//", "y/"), ("/", "x"), ("lib", "ui")]).loader).resolve
      "./..".toList = [] := by decide
  obtain ⟨-, -, hlocate⟩ := overrides_validated hvalid
  have hplace := (hlocate ("//", "y/") (by decide) (by decide) (by decide) _ hid).1
  exact ⟨hvalid, hid, hplace.trans (by decide)⟩

/-- A prefix that is a slash passes, and is registered as the empty one: an identifier that resolves to
nothing is not at the base. -/
theorem overrides_slash_prefix :
    (prefixSettings [("/", "x")]).validate = .ok () ∧
      (resolverOf (prefixSettings [("/", "x")]).loader).overrides.find? "" = some "x" ∧
      (resolverOf (prefixSettings [("/", "x")]).loader).resolve "./..".toList = [] ∧
      (resolverOf (prefixSettings [("/", "x")]).loader).base = "./" ∧
      (resolverOf (prefixSettings [("/", "x")]).loader).locate "./..".toList = "./x".toList :=
  ⟨by rfl, by decide, by decide, by decide, by decide⟩

end Loader

end MessageBundles

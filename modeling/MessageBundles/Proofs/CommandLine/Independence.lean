import Mathlib.Data.List.Find
import MessageBundles.CommandLine.Reach
import MessageBundles.Proofs.Results

/-
  Independence — what a run that fetches nothing depends on

  A run looks for its environment file at several places, and the first file found counts. A file of
  settings is looked for under the extensions of all formats, in an order that differs from run to run,
  so two file systems agree on the settings only if they cannot be told apart at any of these paths. A
  run that normalizes a reference, or loads one in build mode, takes the same course in two worlds that
  agree on its settings, whatever else there is in them. The load still makes a fetcher and looks at the
  reference, so it fails in both worlds where one of the two is at fault. What is proved, for every
  platform:
    1. `complete_congr` — the variables of a run depend on its environment file alone.
    2. `text?_congr` — the text of the settings depends on the files at the paths of the formats.
    3. `settingsOf_congr` — so two file systems that agree on the settings have the same.
    4. `loadAndPrint_build` — what a load in build mode comes to, whatever the world, the key and the
       format are.
    5. `course_congr` — the same for a whole run.
  Where a directory for the log is wanted, a run does depend on what is there already.
-/

namespace MessageBundles

open Files

/-! ## Looking up -/

/-- Two look-ups agree on a list, up to the first entry where there is something. -/
def AgreeUpTo {α β : Type} (f g : α → Option β) (l : List α) : Prop :=
  ∀ before a after, l = before ++ a :: after → (∀ b ∈ before, f b = none) → f a = g a

section Lookups
variable {α β : Type} {f g : α → Option β} {l : List α}

theorem agreeUpTo_of_forall (h : ∀ a ∈ l, f a = g a) : AgreeUpTo f g l := by
  rintro before a after rfl -
  exact h a (List.mem_append_right before List.mem_cons_self)

theorem AgreeUpTo.findSome?_eq (h : AgreeUpTo f g l) : l.findSome? f = l.findSome? g := by
  induction l with
  | nil => rfl
  | cons a l ih =>
    have hfirst : f a = g a := h [] a l rfl (by simp)
    rw [List.findSome?_cons, List.findSome?_cons, ← hfirst]
    cases hfound : f a with
    | some b => rfl
    | none =>
      refine ih fun before b after heq hnone => h (a :: before) b after (by rw [heq]; rfl) ?_
      intro c hc
      rcases List.mem_cons.mp hc with rfl | hc
      · exact hfound
      · exact hnone c hc

end Lookups

/-! ## Environment files -/

namespace Environment

/-- The content of the file at a place. -/
def contentAt? (files : Tree) (place : Place) : Option (List UInt8) :=
  match files.node? place with
  | some (.file content) => some content
  | _ => none

theorem complete_congr {v w : Tree} (hcurrent : v.current = w.current)
    (h : AgreeUpTo (contentAt? v) (contentAt? w) (places v.current)) (env : Variables) :
    complete v env = complete w env := by
  have hcontent : content? v = content? w := by
    unfold content?
    rw [← hcurrent]
    exact h.findSome?_eq
  rw [complete, complete, hcontent]

end Environment

/-! ## Files of settings -/

namespace SettingsFile

/-- The content of the file a path leads to. -/
def contentOf? (files : Tree) (path : List UInt8) : Option (List UInt8) :=
  (files.read path).toOption

theorem isFile_eq_isSome (files : Tree) (path : List UInt8) :
    isFile files path = (contentOf? files path).isSome := by
  unfold isFile contentOf? Tree.read
  cases files.look path with
  | error e => rfl
  | ok node => cases node <;> rfl

def textOf (bytes : List UInt8) : String := String.ofList (Text.Utf8.decodeLossy (dropMark bytes))

theorem text?_eq_bind (fs : Formats) (files : Tree) (name : String) :
    text? fs files name = (find? fs files name).bind fun found =>
      (contentOf? files found.1).map fun bytes => (textOf bytes, found.2) := by
  unfold text? contentOf?
  cases find? fs files name with
  | none => rfl
  | some found =>
    obtain ⟨path, f⟩ := found
    cases hread : files.read path <;> simp [hread, Except.toOption, textOf]

section Paths
variable {fs : Formats} {files v w : Tree} {name : String} {c : List UInt8 × Format}

/-- Whatever order the formats are tried in, nothing is tried but the paths of the formats. -/
theorem mem_paths_of_mem_candidates (h : c ∈ fs.candidates (fullPath files name)) :
    c.1 ∈ paths files name := by
  obtain ⟨f, hf, hc⟩ := List.mem_flatMap.mp h
  obtain ⟨extension, hextension, htried⟩ := List.mem_filterMap.mp hc
  obtain ⟨path, hpath, rfl⟩ := Option.map_eq_some_iff.mp htried
  refine List.mem_cons_of_mem _ (List.mem_filterMap.mpr ⟨extension, ?_, hpath⟩)
  exact List.mem_flatMap.mpr ⟨f, fs.order_perm.mem_iff.mp hf, hextension⟩

theorem mem_paths_of_find? (h : find? fs files name = some c) : c.1 ∈ paths files name := by
  unfold find? at h
  dsimp only at h
  split at h
  · obtain ⟨f, -, rfl⟩ := Option.map_eq_some_iff.mp h
    exact List.mem_cons_self
  · exact mem_paths_of_mem_candidates (List.mem_of_find?_eq_some h)

theorem find?_congr (hcurrent : v.current = w.current)
    (h : ∀ path ∈ paths v name, contentOf? v path = contentOf? w path) :
    find? fs v name = find? fs w name := by
  have hfull : fullPath w name = fullPath v name := by
    unfold fullPath
    rw [hcurrent]
  have hfile : ∀ path ∈ paths v name, isFile w path = isFile v path := fun path hpath => by
    rw [isFile_eq_isSome, isFile_eq_isSome, h path hpath]
  have hcandidates : (fs.candidates (fullPath v name)).find? (fun c => isFile w c.1) =
      (fs.candidates (fullPath v name)).find? (fun c => isFile v c.1) :=
    List.find?_congr fun c hc => hfile c.1 (mem_paths_of_mem_candidates hc)
  unfold find?
  dsimp only
  rw [hfull, hfile (fullPath v name) List.mem_cons_self, hcandidates]

/-- The text of the settings depends on the files at the paths of the formats. -/
theorem text?_congr (hcurrent : v.current = w.current)
    (h : ∀ path ∈ paths v name, contentOf? v path = contentOf? w path) :
    text? fs v name = text? fs w name := by
  rw [text?_eq_bind, text?_eq_bind, ← find?_congr hcurrent h]
  cases hfound : find? fs v name with
  | none => rfl
  | some found => rw [Option.bind_some, Option.bind_some, h found.1 (mem_paths_of_find? hfound)]

end Paths

end SettingsFile

namespace CommandLine

/-! ## Settings -/

/-- Two file systems that have the same environment file where a run looks for it, and the same files
of settings wherever a run may look for one. -/
structure AgreeOnSettings (config : Option String) (v w : Tree) : Prop where
  current : v.current = w.current
  environment : AgreeUpTo (Environment.contentAt? v) (Environment.contentAt? w)
    (Environment.places v.current)
  settings : ∀ path ∈ settingsPaths v config,
    SettingsFile.contentOf? v path = SettingsFile.contentOf? w path

section Settings
variable {fs : SettingsFile.Formats} {config : Option String} {v w : Tree} {env : Variables}

theorem settingsOf_congr (h : AgreeOnSettings config v w) :
    settingsOf fs v env config = settingsOf fs w env config := by
  have htext : SettingsFile.text? fs v (config.getD About.name) =
      SettingsFile.text? fs w (config.getD About.name) :=
    SettingsFile.text?_congr h.current h.settings
  cases config with
  | none =>
    have hread : Settings.discover fs v env = Settings.discover fs w env := by
      rw [Option.getD_none] at htext
      rw [Settings.discover, Settings.discover, SettingsFile.layerIfAny, SettingsFile.layerIfAny,
        htext]
    unfold settingsOf
    dsimp only
    rw [hread]
  | some path =>
    have hread : Settings.fromFile fs v env path = Settings.fromFile fs w env path := by
      rw [Option.getD_some] at htext
      rw [Settings.fromFile, Settings.fromFile, SettingsFile.layer, SettingsFile.layer, htext]
    unfold settingsOf
    dsimp only
    rw [hread]

end Settings

/-! ## Commands that fetch nothing -/

/-- Whether a command fetches nothing under some settings: it normalizes a reference, or loads one in
build mode. -/
def Command.FetchesNothing (s : Settings) : Command → Prop
  | .normalize _ => True
  | .load _ isBuild _ _ => isBuild = true ∨ s.loader.mode = .build

/-- What a load in build mode comes to. A fetcher that cannot be made counts before a reference
without an identifier, as at runtime. -/
def deferral (s : Settings) (reference : Option String) : Except RunError String :=
  match Fetcher.ofSettings s.fetch, (Reference.classify reference).identify with
  | .error e, _ => .error (.load e)
  | .ok _, .error e => .error (.load e)
  | .ok _, .ok _ => .ok ""

section Commands
variable {p : Platform} {s : Settings} {reference : Option String} {isBuild : Bool}

/-- In build mode nothing is asked for, and what comes of it has nothing to do with the world, the key
and the format. -/
theorem loadAndPrint_build (h : isBuild = true ∨ s.loader.mode = .build) (w : World)
    (key : Option String) (format : OutputFormat) :
    loadAndPrint p s w reference isBuild key format = ⟨[], deferral s reference⟩ := by
  have hmode : (if isBuild = true then Mode.build else s.loader.mode) = .build := by
    split
    · rfl
    · exact h.resolve_left ‹_›
  unfold loadAndPrint deferral
  rw [hmode]
  cases Fetcher.ofSettings s.fetch with
  | error e => rfl
  | ok f =>
    cases hid : (Reference.classify reference).identify with
    | error e => simp only [Loader.load_of_identify_error hid]
    | ok id => simp only [Loader.load_build hid]

/-- There is nothing to print. -/
theorem output_deferral (s : Settings) (reference : Option String) :
    (Course.ofPerformance ⟨[], deferral s reference⟩).ending.output = "" := by
  unfold deferral
  cases Fetcher.ofSettings s.fetch with
  | error e => rfl
  | ok f => cases (Reference.classify reference).identify <;> rfl

theorem perform_congr {command : Command} (h : command.FetchesNothing s) (v w : World) :
    perform p s v command = perform p s w command ∧ (perform p s v command).requests = [] ∧
      ((∀ reference, command ≠ .normalize reference) →
        (Course.ofPerformance (perform p s v command)).ending.output = "") := by
  cases command with
  | normalize reference => exact ⟨rfl, rfl, fun hload => absurd rfl (hload reference)⟩
  | load reference isBuild key format =>
    rw [perform, perform, loadAndPrint_build h, loadAndPrint_build h]
    exact ⟨rfl, rfl, fun _ => output_deferral s reference⟩

end Commands

/-! ## Runs -/

section Runs
variable {p : Platform} {v w : World} {env : Variables} {i : Invocation}

theorem courseOf_congr
    (hsettings : settingsOf p.formats v.files env i.config = settingsOf p.formats w.files env i.config)
    (hquiet : ∀ s, settingsOf p.formats v.files env i.config = .ok s →
      s.logging.filePath = none ∧ i.command.FetchesNothing s) :
    courseOf p v env i = courseOf p w env i ∧ (courseOf p v env i).requests = [] ∧
      ((∀ reference, i.command ≠ .normalize reference) →
        (courseOf p v env i).ending.output = "") := by
  unfold courseOf
  rw [← hsettings]
  cases hs : settingsOf p.formats v.files env i.config with
  | error e => exact ⟨rfl, rfl, fun _ => rfl⟩
  | ok s =>
    obtain ⟨hlog, hnothing⟩ := hquiet s hs
    obtain ⟨hsame, hrequests, houtput⟩ := perform_congr (p := p) hnothing v w
    have hfiles : ∀ files, withLog? files s.logging = some files := fun files => by
      rw [withLog?, hlog]
    simp only [hfiles]
    exact ⟨congrArg Course.ofPerformance hsame, hrequests, houtput⟩

/-- A run that fetches nothing takes the same course in two worlds that agree on its settings,
whatever other files there are and whatever the network answers. It sends no request, and prints
nothing but an identifier. This holds on every platform: in whatever order the formats are tried, and
whatever is made of those that are not read here. -/
theorem course_congr {arguments : List String} (hread : read arguments = .ok i)
    (hagree : AgreeOnSettings i.config v.files w.files)
    (hquiet : ∀ s, settingsOf p.formats v.files (Environment.complete v.files env) i.config = .ok s →
      s.logging.filePath = none ∧ i.command.FetchesNothing s) :
    course p v env arguments = course p w env arguments ∧ (course p v env arguments).requests = [] ∧
      ((∀ reference, i.command ≠ .normalize reference) → (run p v env arguments).output = "") := by
  have hcomplete : Environment.complete v.files env = Environment.complete w.files env :=
    Environment.complete_congr hagree.current hagree.environment env
  unfold run course
  rw [hread]
  dsimp only
  rw [← hcomplete]
  exact courseOf_congr (settingsOf_congr hagree) hquiet

end Runs

def buildYaml : String := "loader:\n  mode: build\n"

/-- A platform that tries the formats in another order, so that YAML comes before TOML, and that can
read one text. -/
def yamlPlatform : Platform where
  formats := ⟨SettingsFile.Format.all.reverse, List.reverse_perm _, fun f text =>
    if f = .yaml ∧ text = buildYaml then some [("loader", .object [("mode", .string "build")])]
    else none⟩
  entries := Bundle.entries
  entries_enumerates := Bundle.enumerates_entries

/-- Two files of settings, of which the first one tried counts. -/
def settingsFiles : List (Place × Node) :=
  [([Text.Utf8.encode "bundle-loader.toml".toList],
      .file (Text.Utf8.encode "[loader]\nmode = \x22runtime\x22\n".toList)),
    ([Text.Utf8.encode "bundle-loader.yaml".toList], .file (Text.Utf8.encode buildYaml.toList))]

/-- A world with these files only, where the network cannot be reached. -/
def quietWorld : World := ⟨.ofEntries [] settingsFiles, .unreachable⟩

/-- A world with a bundle besides, as a file and behind every URL. -/
def fullWorld : World where
  files := .ofEntries [] (settingsFiles ++ [([Text.Utf8.encode "i18n".toList,
    Text.Utf8.encode "messages.properties".toList], .file (Text.Utf8.encode "a=b".toList))])
  network := .answering fun _ => some ⟨200, Text.Utf8.encode "a=b".toList, none, none, none⟩

/-- The settings ask for build mode. A key is not looked up, whether there is a bundle or not. -/
theorem course_congr_build_key :
    course yamlPlatform quietWorld Dict.empty ["load", "--key", "a"] =
        course yamlPlatform fullWorld Dict.empty ["load", "--key", "a"] ∧
      (course yamlPlatform quietWorld Dict.empty ["load", "--key", "a"]).requests = [] ∧
      (run yamlPlatform quietWorld Dict.empty ["load", "--key", "a"]).output = "" := by
  have hread : read ["load", "--key", "a"] = .ok ⟨none, .load none false (some "a") none⟩ := by rfl
  have hagree : AgreeOnSettings none quietWorld.files fullWorld.files :=
    ⟨rfl, agreeUpTo_of_forall (by decide +kernel), by decide +kernel⟩
  have hsettings : settingsOf yamlPlatform.formats quietWorld.files
      (Environment.complete quietWorld.files Dict.empty) none =
        .ok { Settings.default with loader := { LoaderSettings.default with mode := .build } } :=
    eq_ok_of_toOption (by decide +kernel)
  have hquiet : ∀ s, settingsOf yamlPlatform.formats quietWorld.files
      (Environment.complete quietWorld.files Dict.empty) none = .ok s →
      s.logging.filePath = none ∧ Command.FetchesNothing s (.load none false (some "a") none) := by
    intro s hs
    cases hsettings.symm.trans hs
    exact ⟨rfl, .inr rfl⟩
  obtain ⟨hsame, hrequests, houtput⟩ := course_congr hread hagree hquiet
  exact ⟨hsame, hrequests, houtput (by simp)⟩

end CommandLine

end MessageBundles

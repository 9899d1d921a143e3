import MessageBundles.CommandLine.Run
import MessageBundles.Proofs.Bundle.Enumeration
import MessageBundles.Proofs.Bundle.RoundTrip
import MessageBundles.Proofs.Json.Texts
import MessageBundles.Proofs.Results

/-
  Outputs — the three ways to print a bundle

  A load that finds a bundle prints it as property lines or as an object, or prints one message of it.
  The entries of the bundle come in an order that differs from run to run. The property lines are
  sorted, but the members of the object stand in that order, so the object is not one text; it is read
  back as one value. What is proved, for every platform:
    1. `wellFormed_of_loads` — a bundle that was loaded came from a text.
    2. `course_of_loads` — a run prints it, and does nothing else with it.
    3. `read_loadLine` — the command lines that ask for it, with a key that does not look like an
       option.
    4. `outputs_agree` — the property lines and the object are read back as the bundle, and with a key
       there is its message, or an error that names it.
-/

namespace MessageBundles.CommandLine

/-! ## Command lines -/

def OutputFormat.name : OutputFormat → String
  | .properties => "properties"
  | .json => "json"

def keyOption (key : Option String) : List String := key.elim [] fun key => ["--key", key]

def formatOption (format : Option OutputFormat) : List String :=
  format.elim [] fun format => ["--format", format.name]

/-- A command line for a load, with the reference behind two hyphens. -/
def loadLine (config reference key : Option String) (format : Option OutputFormat) : List String :=
  (config.map ("--config=" ++ ·)).toList ++ "load" :: (keyOption key ++ (formatOption format ++
    reference.elim [] fun reference => ["--", reference]))

section Lines
variable {config reference key : Option String} {format : Option OutputFormat}

theorem foldlM_keyOption (hkey : ∀ k, key = some k → Shape.of k = .value) :
    (keyOption key).foldlM (readArgument .load) Progress.start =
      .ok ⟨Given.nothing, key.map (.key, some ·), false⟩ := by
  cases key with
  | none => rfl
  | some k =>
    have hread : readArgument .load ⟨Given.nothing, some (.key, none), false⟩ k =
        .ok ⟨Given.nothing, some (.key, some k), false⟩ := by
      rw [readArgument, hkey k rfl]
      rfl
    show readArgument .load ⟨Given.nothing, some (.key, none), false⟩ k >>= pure = _
    rw [hread]
    rfl

/-- What stands behind the key settles it. -/
theorem foldlM_behind_key : (formatOption format ++
      reference.elim [] fun reference => ["--", reference]).foldlM (readArgument .load)
        ⟨Given.nothing, key.map (.key, some ·), false⟩ >>= Progress.settle =
      .ok ⟨none, key, format, false, reference⟩ := by
  cases key <;> rcases format with _ | _ | _ <;> cases reference <;> rfl

theorem shape_config (path : String) :
    Shape.of ("--config=" ++ path) = .long "config" (some path) := by
  have hname : "--config=".toList = ['-', '-', 'c', 'o', 'n', 'f', 'i', 'g', '='] := rfl
  unfold Shape.of
  rw [String.toList_append, hname]
  simp

theorem read_loadLine (hconfig : config ≠ some "")
    (hkey : ∀ k, key = some k → Shape.of k = .value) :
    read (loadLine config reference key format) =
      .ok ⟨config, .load reference false key format⟩ := by
  have hlevel : readLevel .load (keyOption key ++ (formatOption format ++
      reference.elim [] fun reference => ["--", reference])) =
      .ok ⟨none, key, format, false, reference⟩ := by
    rw [readLevel, List.foldlM_append, foldlM_keyOption hkey]
    exact foldlM_behind_key
  cases config with
  | none =>
    show readCommand Progress.start .load _ = _
    rw [readCommand, hlevel]
    rfl
  | some path =>
    have hgiven : Given.nothing.give .config path = .ok { Given.nothing with config := some path } := by
      have hpath : path ≠ "" := fun h => hconfig (congrArg some h)
      simp [Given.give, Given.nothing, hpath]
    have hoption : longOption .top Progress.start "config" (some path) =
        .ok ⟨{ Given.nothing with config := some path }, none, false⟩ := by
      show Given.nothing.give .config path >>= _ = _
      rw [hgiven]
      rfl
    show readFrom Progress.start (("--config=" ++ path) :: "load" :: _) = _
    rw [readFrom, shape_config]
    show longOption .top Progress.start "config" (some path) >>= _ = _
    rw [hoption]
    show readCommand ⟨{ Given.nothing with config := some path }, none, false⟩ .load _ = _
    rw [readCommand, hlevel]
    rfl

end Lines

/-! ## Loads -/

/-- A load in runtime mode, under the settings of a configuration, finds a bundle. -/
def Loads (p : Platform) (w : World) (env : Variables) (config reference : Option String)
    (b : Bundle) : Prop :=
  ∃ s files f, settingsOf p.formats w.files (Environment.complete w.files env) config = .ok s ∧
    s.loader.mode = .runtime ∧ withLog? w.files s.logging = some files ∧
    Fetcher.ofSettings s.fetch = .ok f ∧
    ((Loader.ofSettings s.loader).load f { w with files := files } .runtime reference).result =
      .ok (.loaded b)

section Loads
variable {p : Platform} {w : World} {env : Variables} {config reference : Option String} {b : Bundle}

theorem exists_text_of_loaded {l : Loader} {f : Fetcher}
    (h : (l.load f w .runtime reference).result = .ok (.loaded b)) :
    ∃ text, b = Bundle.fromProperties text := by
  cases hid : (Reference.classify reference).identify with
  | error e =>
    rw [Loader.load_of_identify_error hid] at h
    cases h
  | ok id =>
    rw [Loader.load_runtime hid] at h
    cases htext : (f.fetch w (l.locatorFor id)).result with
    | error e =>
      rw [htext] at h
      cases h
    | ok text =>
      rw [htext] at h
      cases h
      exact ⟨text, rfl⟩

theorem wellFormed_of_loads (h : Loads p w env config reference b) : b.WellFormed := by
  obtain ⟨s, files, f, -, -, -, -, hload⟩ := h
  obtain ⟨text, rfl⟩ := exists_text_of_loaded hload
  exact Bundle.wellFormed_fromProperties text

/-- A run prints the bundle that was loaded, and does nothing else with it. -/
theorem course_of_loads (h : Loads p w env config reference b) {arguments : List String}
    {key : Option String} {format : Option OutputFormat}
    (hread : read arguments = .ok ⟨config, .load reference false key format⟩) :
    ∃ requests, course p w env arguments =
      .ofPerformance ⟨requests, printed p b key (format.getD .properties)⟩ := by
  obtain ⟨s, files, f, hsettings, hmode, hlog, hfetcher, hload⟩ := h
  refine ⟨((Loader.ofSettings s.loader).load f { w with files := files } .runtime
    reference).requests, ?_⟩
  simp only [course, hread, courseOf, hsettings, hlog, perform, loadAndPrint, hfetcher, hmode,
    Bool.false_eq_true, if_false, hload]

end Loads

/-! ## Outputs -/

/-- The outputs of a bundle that was loaded. Its property lines and its object are read back as the
bundle, in whatever order the entries come. With a key there is its message on a line, whatever the
format is, or an error that names the key. A key can be asked for in an argument of its own unless it
looks like an option. -/
theorem outputs_agree {p : Platform} {w : World} {env : Variables} {config reference : Option String}
    {b : Bundle} (h : Loads p w env config reference b) :
    (∀ arguments format, read arguments = .ok ⟨config, .load reference false none format⟩ →
      ∃ output, run p w env arguments = .done output ∧
        match format.getD .properties with
        | .properties => Bundle.fromProperties output = b
        | .json => Json.read? output =
            some (.object (b.entries.map fun e => (e.1, .string e.2)))) ∧
      (∀ arguments key format,
        read arguments = .ok ⟨config, .load reference false (some key) format⟩ →
          (∀ message, b.find? key = some message →
            (run p w env arguments).code = 0 ∧ (run p w env arguments).output = message ++ "\n" ∧
              (run p w env arguments).error? = none) ∧
          (b.find? key = none →
            (run p w env arguments).code = 1 ∧ (run p w env arguments).output = "" ∧
              (run p w env arguments).error? = some ("no message for key '" ++ key ++ "'"))) ∧
      (config ≠ some "" → ∀ key format, (∀ k, key = some k → Shape.of k = .value) →
        read (loadLine config reference key format) =
          .ok ⟨config, .load reference false key format⟩) := by
  refine ⟨fun arguments format hread => ?_, fun arguments key format hread => ?_,
    fun hconfig key format hkey => read_loadLine hconfig hkey⟩
  · obtain ⟨requests, hcourse⟩ := course_of_loads h hread
    have hentries := p.entries_enumerates b
    rw [run, hcourse]
    cases format.getD .properties with
    | properties =>
      refine ⟨Bundle.sortedLines (p.entries b), rfl, ?_⟩
      rw [Bundle.sortedLines_of_enumerates hentries]
      exact Bundle.fromProperties_toProperties (wellFormed_of_loads h)
    | json => exact ⟨_, rfl, Json.read?_indentedTexts_of_enumerates hentries⟩
  · obtain ⟨requests, hcourse⟩ := course_of_loads h hread
    rw [run, hcourse, printed]
    constructor
    · intro message hmessage
      rw [hmessage]
      exact ⟨rfl, rfl, rfl⟩
    · intro hnone
      rw [hnone]
      exact ⟨rfl, rfl, rfl⟩

/-- A platform that hands out the entries of a bundle from the last one to the first. -/
def reversing : Platform where
  formats := .native
  entries b := b.entries.reverse
  entries_enumerates b := Bundle.enumerates_iff_perm.mpr (List.reverse_perm b.entries)

/-- A world with a bundle of two messages, of which one has a quote and a separator in it. -/
def quoteWorld : World where
  files := .ofEntries [] [([Text.Utf8.encode "i18n".toList,
    Text.Utf8.encode "messages.properties".toList],
      .file (Text.Utf8.encode "a = \x22=\nb = c".toList))]
  network := .unreachable

/-- The last key is printed first. -/
theorem outputs_agree_quote :
    (run reversing quoteWorld Dict.empty (loadLine none none none (some .json))).output =
        "\x7b\n  \x22b\x22: \x22c\x22,\n  \x22a\x22: \x22\\\x22=\x22\n\x7d\n" ∧
      Json.read? (run reversing quoteWorld Dict.empty (loadLine none none none (some .json))).output =
        some (.object [("a", .string "\x22="), ("b", .string "c")]) ∧
      (∃ output, run reversing quoteWorld Dict.empty (loadLine none none none none) = .done output ∧
        Bundle.fromProperties output = .ofEntries [("a", "\x22="), ("b", "c")]) ∧
      (run reversing quoteWorld Dict.empty (loadLine none none (some "a") (some .json))).output =
        "\x22=\n" ∧
      (run reversing quoteWorld Dict.empty (loadLine none none (some "c") none)).error? =
        some "no message for key 'c'" := by
  have hsettings : settingsOf reversing.formats quoteWorld.files
      (Environment.complete quoteWorld.files Dict.empty) none = .ok Settings.default :=
    eq_ok_of_toOption (by decide +kernel)
  have hload : ((Loader.ofSettings LoaderSettings.default).load (.directory ".") quoteWorld .runtime
      none).result = .ok (.loaded (.ofEntries [("a", "\x22="), ("b", "c")])) :=
    eq_ok_of_toOption (by decide +kernel)
  obtain ⟨hbundle, hmessage, hline⟩ := outputs_agree (p := reversing) (w := quoteWorld)
    ⟨Settings.default, quoteWorld.files, .directory ".", hsettings, rfl, rfl, rfl, hload⟩
  have hread := hline (by simp)
  have hasked : ∀ key format, Shape.of key = .value → read (loadLine none none (some key) format) =
      .ok ⟨none, .load none false (some key) format⟩ := by
    intro key format hkey
    refine hread (some key) format ?_
    rintro _ ⟨⟩
    exact hkey
  refine ⟨by decide +kernel, ?_, hbundle _ none (hread none none (by simp)), ?_, ?_⟩
  · obtain ⟨output, hrun, hvalue⟩ := hbundle _ (some .json) (hread none (some .json) (by simp))
    rw [hrun]
    exact hvalue
  · have hgiven := hasked "a" (some .json) rfl
    exact ((hmessage _ "a" (some .json) hgiven).1 "\x22=" rfl).2.1
  · have hgiven := hasked "c" none rfl
    exact ((hmessage _ "c" none hgiven).2 rfl).2.2

end MessageBundles.CommandLine

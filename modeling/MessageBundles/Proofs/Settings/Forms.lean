import MessageBundles.Settings.Document
import MessageBundles.Settings.Validation

/-
  Forms — the JSON values that stand for the same settings

  Settings are written as an object of three objects with all their fields. They are read back from
  that, and from every value that gives the same fields in another form. What is proved:
    1. `Gives.fields?` — whichever form a section has, each of its fields is found, or it is missing
       and has its default.
    2. `read_field` and `read_part` — so every field is read, and every section.
    3. `ofJson?_of_isForm` — all forms of settings are read as these settings.
    4. `ofJson?_forms` — what is written of settings is one of them, and they are all valid, or all
       invalid for the same reason.
-/

namespace MessageBundles

namespace Json

/-! ## Forms of a section -/

/-- Whether a value gives the fields of a section, each with a name and a value. It is an object that
has every field, or leaves it out where it has its default, whatever else there is in it; or it is the
array of the values in order, without some at the end that are defaults. -/
inductive Gives (fields defaults : List (String × Json)) : Json → Prop where
  | named {members : List (String × Json)}
      (h : ∀ f ∈ fields, member? members f.1 = some f.2 ∨
        (member? members f.1 = none ∧ f ∈ defaults)) :
      Gives fields defaults (.object members)
  | ordered {items dropped : List (String × Json)} (h : fields = items ++ dropped)
      (hdropped : ∀ f ∈ dropped, f ∈ defaults) :
      Gives fields defaults (.array (items.map (·.2)))

/-- Whether the members of an object give a section, or leave it out where all of it is default. -/
def GivesPart (members : List (String × Json)) (name : String)
    (fields defaults : List (String × Json)) : Prop :=
  match member? members name with
  | some v => Gives fields defaults v
  | none => fields = defaults

section Reading
variable {fields defaults members : List (String × Json)} {name : String} {place : Nat}

/-- Whichever form a section has, each of its fields is found, or it is missing and has its default. -/
theorem Gives.fields? {v : Json} (h : Gives fields defaults v) :
    ∃ f, Json.fields? fields.length v = some f ∧
      ∀ place field, fields[place]? = some field →
        f.find? place field.1 = some field.2 ∨
          (f.find? place field.1 = none ∧ field ∈ defaults) := by
  cases h with
  | @named members h =>
    exact ⟨.named members, rfl, fun place field hfield => h field (List.mem_of_getElem? hfield)⟩
  | @ordered items dropped h hdropped =>
    have hlength : ¬ fields.length < (items.map (·.2)).length := by
      rw [h, List.length_append, List.length_map]
      omega
    refine ⟨.ordered (items.map (·.2)), by rw [Json.fields?, if_neg hlength], ?_⟩
    intro place field hfield
    show (items.map (·.2))[place]? = some field.2 ∨ ((items.map (·.2))[place]? = none ∧ _)
    rw [List.getElem?_map]
    rw [h, List.getElem?_append] at hfield
    split at hfield
    · rw [hfield]
      exact .inl rfl
    · rename_i hplace
      rw [List.getElem?_eq_none (Nat.not_lt.mp hplace)]
      exact .inr ⟨rfl, hdropped field (List.mem_of_getElem? hfield)⟩

/-- A field is read, where reading undoes writing: a value that is missing is the default. -/
theorem read_field {α : Type} {read? : Json → Option α} (write : α → Json)
    (hlaw : ∀ x, read? (write x) = some x) {f : Fields} {x default : α}
    (hdefault : ∀ v, (name, v) ∈ defaults → v = write default)
    (h : f.find? place name = some (write x) ∨
      (f.find? place name = none ∧ (name, write x) ∈ defaults)) :
    f.read place name read? default = some x := by
  rcases h with hfound | ⟨hnone, hmem⟩
  · rw [Fields.read, hfound]
    exact hlaw x
  · have hsame : some default = some x := by
      rw [← hlaw default, ← hdefault _ hmem, hlaw]
    rw [Fields.read, hnone]
    exact hsame

/-- A section is read, where all its forms are. -/
theorem read_part {α : Type} {fieldsOf : α → List (String × Json)} {read? : Json → Option α}
    {default : α} (hlaw : ∀ x v, Gives (fieldsOf x) (fieldsOf default) v → read? v = some x)
    (place : Nat) {x : α} (h : GivesPart members name (fieldsOf x) (fieldsOf default)) :
    (Fields.named members).read place name read? default = some x := by
  have hfind : (Fields.named members).find? place name = member? members name := rfl
  rw [Fields.read, hfind]
  rw [GivesPart] at h
  cases hmember : member? members name with
  | some v =>
    rw [hmember] at h
    exact hlaw x v h
  | none =>
    rw [hmember] at h
    -- An object without members gives both the section and its default.
    have hempty : ∀ y, fieldsOf y = fieldsOf default → read? (.object []) = some y :=
      fun y hy => hlaw y _ (.named fun f hf => .inr ⟨rfl, hy ▸ hf⟩)
    show some default = some x
    rw [← hempty default rfl]
    exact hempty x h

end Reading

/-! ## What is read undoes what is written -/

theorem choice?_name {α : Type} {choices : List α} {name : α → String}
    (h : ∀ x, choices.find? (name · == name x) = some x) (x : α) :
    choice? choices name (.string (name x)) = some x := h x

theorem optionalText?_ofOption (o : Option String) : optionalText? (.ofOption o) = some o := by
  cases o with
  | none => rfl
  | some s => rfl

def ofTexts (d : Dict String) : Json := .object (d.entries.map fun e => (e.1, .string e.2))

theorem texts?_ofTexts (d : Dict String) : texts? (ofTexts d) = some d := by
  have hread : ∀ l : List (String × String),
      (l.map fun e => (e.1, Json.string e.2)).mapM (fun e => (text? e.2).map fun s => (e.1, s)) =
        some l := by
    intro l
    induction l with
    | nil => rfl
    | cons e rest ih =>
      rw [List.map_cons, List.mapM_cons, ih]
      rfl
  rw [ofTexts, texts?, hread, Option.map_some, Dict.ofList_entries]

end Json

open Json

/-! ## The sections -/

/-- The fields in their order, by name. -/
def LoaderSettings.fields (s : LoaderSettings) : List (String × Json) := [
  ("mode", .string s.mode.name),
  ("base_url", .string s.baseUrl),
  ("paths", ofTexts s.paths),
  ("parent_module", .ofOption s.parentModule),
  ("document_url", .ofOption s.documentUrl)]

def FetchSettings.fields (s : FetchSettings) : List (String × Json) := [
  ("backend", .string s.backend.name),
  ("root", .string s.root),
  ("http_base_url", .ofOption s.httpBaseUrl),
  ("timeout_seconds", .integer s.timeoutSeconds),
  ("user_agent", .string s.userAgent)]

def LoggingSettings.fields (s : LoggingSettings) : List (String × Json) := [
  ("level", .string s.level),
  ("file_path", .ofOption s.filePath),
  ("json", .boolean s.json)]

theorem LoaderSettings.ofJson?_of_gives (s : LoaderSettings) (v : Json)
    (h : Gives s.fields LoaderSettings.default.fields v) : LoaderSettings.ofJson? v = some s := by
  obtain ⟨f, hf, hfind⟩ := h.fields?
  have hmode : f.read 0 "mode" (choice? Mode.all Mode.name) LoaderSettings.default.mode =
      some s.mode :=
    read_field (fun m : Mode => .string m.name)
      (choice?_name fun m => by cases m <;> rfl) (by simp [fields]) (hfind 0 _ rfl)
  have hbaseUrl : f.read 1 "base_url" text? LoaderSettings.default.baseUrl = some s.baseUrl :=
    read_field .string (fun _ => rfl) (by simp [fields]) (hfind 1 _ rfl)
  have hpaths : f.read 2 "paths" texts? LoaderSettings.default.paths = some s.paths :=
    read_field ofTexts texts?_ofTexts (by simp [fields]) (hfind 2 _ rfl)
  have hparent : f.read 3 "parent_module" optionalText? LoaderSettings.default.parentModule =
      some s.parentModule :=
    read_field .ofOption optionalText?_ofOption (by simp [fields]) (hfind 3 _ rfl)
  have hdocument : f.read 4 "document_url" optionalText? LoaderSettings.default.documentUrl =
      some s.documentUrl :=
    read_field .ofOption optionalText?_ofOption (by simp [fields]) (hfind 4 _ rfl)
  have hcount : Json.fields? 5 v = some f := hf
  simp only [ofJson?, hcount, hmode, hbaseUrl, hpaths, hparent, hdocument, Option.bind_eq_bind,
    Option.bind_some]

theorem FetchSettings.ofJson?_of_gives (s : FetchSettings) (v : Json)
    (h : Gives s.fields FetchSettings.default.fields v) : FetchSettings.ofJson? v = some s := by
  obtain ⟨f, hf, hfind⟩ := h.fields?
  have hbackend : f.read 0 "backend" (choice? Backend.all Backend.name)
      FetchSettings.default.backend = some s.backend :=
    read_field (fun b : Backend => .string b.name)
      (choice?_name fun b => by cases b <;> rfl) (by simp [fields]) (hfind 0 _ rfl)
  have hroot : f.read 1 "root" text? FetchSettings.default.root = some s.root :=
    read_field .string (fun _ => rfl) (by simp [fields]) (hfind 1 _ rfl)
  have hbase : f.read 2 "http_base_url" optionalText? FetchSettings.default.httpBaseUrl =
      some s.httpBaseUrl :=
    read_field .ofOption optionalText?_ofOption (by simp [fields]) (hfind 2 _ rfl)
  have htimeout : f.read 3 "timeout_seconds" unsigned? FetchSettings.default.timeoutSeconds =
      some s.timeoutSeconds :=
    read_field (fun n : Nat => .integer n) (fun _ => rfl) (by simp [fields]) (hfind 3 _ rfl)
  have hagent : f.read 4 "user_agent" text? FetchSettings.default.userAgent = some s.userAgent :=
    read_field .string (fun _ => rfl) (by simp [fields]) (hfind 4 _ rfl)
  have hcount : Json.fields? 5 v = some f := hf
  simp only [ofJson?, hcount, hbackend, hroot, hbase, htimeout, hagent, Option.bind_eq_bind,
    Option.bind_some]

theorem LoggingSettings.ofJson?_of_gives (s : LoggingSettings) (v : Json)
    (h : Gives s.fields LoggingSettings.default.fields v) : LoggingSettings.ofJson? v = some s := by
  obtain ⟨f, hf, hfind⟩ := h.fields?
  have hlevel : f.read 0 "level" text? LoggingSettings.default.level = some s.level :=
    read_field .string (fun _ => rfl) (by simp [fields]) (hfind 0 _ rfl)
  have hfile : f.read 1 "file_path" optionalText? LoggingSettings.default.filePath =
      some s.filePath :=
    read_field .ofOption optionalText?_ofOption (by simp [fields]) (hfind 1 _ rfl)
  have hjson : f.read 2 "json" boolean? LoggingSettings.default.json = some s.json :=
    read_field .boolean (fun _ => rfl) (by simp [fields]) (hfind 2 _ rfl)
  have hcount : Json.fields? 3 v = some f := hf
  simp only [ofJson?, hcount, hlevel, hfile, hjson, Option.bind_eq_bind, Option.bind_some]

/-! ## Settings -/

namespace Settings

/-- Whether an object with these members stands for settings. Each section is given in one of its
forms, or left out where it is the default; members with other names are not looked at. -/
structure IsForm (s : Settings) (members : List (String × Json)) : Prop where
  loader : GivesPart members "loader" s.loader.fields LoaderSettings.default.fields
  fetch : GivesPart members "fetch" s.fetch.fields FetchSettings.default.fields
  logging : GivesPart members "logging" s.logging.fields LoggingSettings.default.fields

theorem ofJson?_of_isForm {s : Settings} {members : List (String × Json)} (h : s.IsForm members) :
    ofJson? (.object members) = some s := by
  have hloader := read_part LoaderSettings.ofJson?_of_gives 0 h.loader
  have hfetch := read_part FetchSettings.ofJson?_of_gives 1 h.fetch
  have hlogging := read_part LoggingSettings.ofJson?_of_gives 2 h.logging
  have hmembers : Json.fields? 3 (.object members) = some (.named members) := rfl
  have hdefault : Settings.default =
    ⟨LoaderSettings.default, FetchSettings.default, LoggingSettings.default⟩ := rfl
  simp only [ofJson?, hmembers, hdefault, hloader, hfetch, hlogging, Option.bind_eq_bind,
    Option.bind_some]

/-- The members that are written of settings, each section with all its fields. -/
theorem isForm_toJson (s : Settings) :
    s.IsForm [("fetch", s.fetch.toJson), ("loader", s.loader.toJson),
      ("logging", s.logging.toJson)] where
  loader := by
    refine .named fun f hf => .inl ?_
    simp only [LoaderSettings.fields, List.mem_cons, List.not_mem_nil, or_false] at hf
    rcases hf with rfl | rfl | rfl | rfl | rfl <;> rfl
  fetch := by
    refine .named fun f hf => .inl ?_
    simp only [FetchSettings.fields, List.mem_cons, List.not_mem_nil, or_false] at hf
    rcases hf with rfl | rfl | rfl | rfl | rfl <;> rfl
  logging := by
    refine .named fun f hf => .inl ?_
    simp only [LoggingSettings.fields, List.mem_cons, List.not_mem_nil, or_false] at hf
    rcases hf with rfl | rfl | rfl <;> rfl

/-- What is written of settings is read as these settings, and so is every other form of them; they are
valid in all forms, or have the same fault in all. -/
theorem ofJson?_forms (s : Settings) :
    ofJson? s.toJson = some s ∧
    ∀ members, s.IsForm members →
      ofJson? (.object members) = some s ∧
      (ofJson? (.object members)).map validate = (ofJson? s.toJson).map validate := by
  have hwritten : ofJson? s.toJson = some s := ofJson?_of_isForm s.isForm_toJson
  refine ⟨hwritten, fun members h => ⟨ofJson?_of_isForm h, ?_⟩⟩
  rw [ofJson?_of_isForm h, hwritten]

/-- One section as an object without its default fields but with one that is unknown, one as an array
without its last two items, and one left out. -/
theorem ofJson?_forms_sparse :
    let s : Settings := {
      loader := { LoaderSettings.default with mode := .build, paths := .ofList [("a/b", "/c")] }
      fetch := { FetchSettings.default with backend := .http, httpBaseUrl := some "http://host/" }
      logging := LoggingSettings.default }
    let members := [
      ("fetch", Json.array [.string "http", .string ".", .string "http://host/"]),
      ("loader", .object [("mode", .string "build"), ("paths", .object [("a/b", .string "/c")]),
        ("theme", .null)]),
      ("version", .integer 1)]
    s.IsForm members ∧ ofJson? (.object members) = some s ∧
      (ofJson? (.object members)).map validate = (ofJson? s.toJson).map validate := by
  intro s members
  have hfetch : Gives s.fetch.fields FetchSettings.default.fields
      (.array ((s.fetch.fields.take 3).map (·.2))) :=
    .ordered (List.take_append_drop 3 s.fetch.fields).symm (by decide)
  have hform : s.IsForm members := { loader := .named (by decide), fetch := hfetch, logging := rfl }
  exact ⟨hform, (ofJson?_forms s).2 members hform⟩

end Settings

end MessageBundles

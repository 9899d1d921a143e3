import MessageBundles.Proofs.Results
import MessageBundles.Proofs.Settings.Overlay
import MessageBundles.Settings.Loose

/-
  Fields — settings as what is read of each field by itself

  A field is a name in a section, with the conversion of the values it may be given, its default, and
  its place in the settings. What is proved:
    1. `ofTree_eq_ok_iff` — a tree stands for settings if every field that it holds converts, and then
       every field of the settings is what its value converts to, or its default.
    2. `exists_ofTree_iff` — whether there are such settings is decided field by field.
    3. `ofTree_congr` — nothing of a tree counts but the values of the fields.
-/

namespace MessageBundles

open SettingTree

/-- One field of settings: where its value is looked for, what a value is taken for, what it is where
there is none, and where it is kept. -/
structure Field where
  type : Type
  part : String
  name : String
  convert : Json → Except SourceError type
  default : type
  get : Settings → type

namespace Field

def ofLoader {α : Type} (name : String) (convert : Json → Except SourceError α)
    (get : LoaderSettings → α) : Field :=
  ⟨α, "loader", name, convert, get LoaderSettings.default, fun s => get s.loader⟩

def ofFetch {α : Type} (name : String) (convert : Json → Except SourceError α)
    (get : FetchSettings → α) : Field :=
  ⟨α, "fetch", name, convert, get FetchSettings.default, fun s => get s.fetch⟩

def ofLogging {α : Type} (name : String) (convert : Json → Except SourceError α)
    (get : LoggingSettings → α) : Field :=
  ⟨α, "logging", name, convert, get LoggingSettings.default, fun s => get s.logging⟩

/-- The one field that is a table. -/
def paths : Field := .ofLoader "paths" Loose.texts (·.paths)

def loader : List Field := [
  .ofLoader "mode" (Loose.choice Mode.all Mode.name) (·.mode),
  .ofLoader "base_url" Loose.text (·.baseUrl),
  paths,
  .ofLoader "parent_module" Loose.optionalText (·.parentModule),
  .ofLoader "document_url" Loose.optionalText (·.documentUrl)]

def fetch : List Field := [
  .ofFetch "backend" (Loose.choice Backend.all Backend.name) (·.backend),
  .ofFetch "root" Loose.text (·.root),
  .ofFetch "http_base_url" Loose.optionalText (·.httpBaseUrl),
  .ofFetch "timeout_seconds" Loose.natural (·.timeoutSeconds),
  .ofFetch "user_agent" Loose.text (·.userAgent)]

def logging : List Field := [
  .ofLogging "level" Loose.text (·.level),
  .ofLogging "file_path" Loose.optionalText (·.filePath),
  .ofLogging "json" Loose.boolean (·.json)]

def all : List Field := loader ++ fetch ++ logging

/-- The names of the sections. -/
def parts : List String := ["loader", "fetch", "logging"]

def key (f : Field) : String × String := (f.part, f.name)

/-- The fields that hold one value each. -/
def scalars : List Field := all.filter (·.key != paths.key)

/-- What a field comes to: what its value converts to, or its default. -/
def settle (f : Field) (v : Option Json) : Except SourceError f.type :=
  match v with
  | none => .ok f.default
  | some v => f.convert v

/-- The value of a field in a tree. -/
def valueIn? (f : Field) (root : Json) : Option Json := at? root f.part f.name

theorem part_mem : ∀ f ∈ all, f.part ∈ parts := by decide

theorem lowercased_part : ∀ part ∈ parts, Text.lowercased part = part := by decide

theorem lowercased_name : ∀ f ∈ all, Text.lowercased f.name = f.name := by decide +kernel

end Field

/-! ## Sections -/

theorem findEntry_eq_lookup {α : Type} (key : String) (l : List (String × α)) :
    Dict.findEntry key l = l.lookup key := by
  induction l with
  | nil => rfl
  | cons e rest ih =>
    obtain ⟨k, v⟩ := e
    rw [Dict.findEntry, List.lookup_cons, ih]
    by_cases h : key = k
    · simp [h]
    · have hne : (key == k) = false := by simpa using h
      rw [if_neg h, hne]

/-! ## Reading a section -/

section Sections
variable {members : List (String × Json)} {s : Settings}

theorem loader_eq_ok_iff :
    Loose.loader (.object members) = .ok s.loader ↔
      ∀ f ∈ Field.loader, f.settle (members.lookup f.name) = .ok (f.get s) := by
  simp only [Field.loader, List.forall_mem_cons, List.not_mem_nil, false_implies, implies_true,
    and_true]
  obtain ⟨loader, fetch, logging⟩ := s
  constructor
  · intro h
    obtain ⟨_, ⟨⟩, h⟩ := bind_eq_ok_iff.mp h
    obtain ⟨mode, hmode, h⟩ := bind_eq_ok_iff.mp h
    obtain ⟨baseUrl, hbase, h⟩ := bind_eq_ok_iff.mp h
    obtain ⟨paths, hpaths, h⟩ := bind_eq_ok_iff.mp h
    obtain ⟨parent, hparent, h⟩ := bind_eq_ok_iff.mp h
    obtain ⟨document, hdocument, h⟩ := bind_eq_ok_iff.mp h
    cases h
    exact ⟨hmode, hbase, hpaths, hparent, hdocument⟩
  · rintro ⟨hmode, hbase, hpaths, hparent, hdocument⟩
    simp only [Loose.loader, bind_eq_ok_iff]
    exact ⟨_, rfl, _, hmode, _, hbase, _, hpaths, _, hparent, _, hdocument, rfl⟩

theorem fetch_eq_ok_iff :
    Loose.fetch (.object members) = .ok s.fetch ↔
      ∀ f ∈ Field.fetch, f.settle (members.lookup f.name) = .ok (f.get s) := by
  simp only [Field.fetch, List.forall_mem_cons, List.not_mem_nil, false_implies, implies_true,
    and_true]
  obtain ⟨loader, fetch, logging⟩ := s
  constructor
  · intro h
    obtain ⟨_, ⟨⟩, h⟩ := bind_eq_ok_iff.mp h
    obtain ⟨backend, hbackend, h⟩ := bind_eq_ok_iff.mp h
    obtain ⟨root, hroot, h⟩ := bind_eq_ok_iff.mp h
    obtain ⟨base, hbase, h⟩ := bind_eq_ok_iff.mp h
    obtain ⟨timeout, htimeout, h⟩ := bind_eq_ok_iff.mp h
    obtain ⟨agent, hagent, h⟩ := bind_eq_ok_iff.mp h
    cases h
    exact ⟨hbackend, hroot, hbase, htimeout, hagent⟩
  · rintro ⟨hbackend, hroot, hbase, htimeout, hagent⟩
    simp only [Loose.fetch, bind_eq_ok_iff]
    exact ⟨_, rfl, _, hbackend, _, hroot, _, hbase, _, htimeout, _, hagent, rfl⟩

theorem logging_eq_ok_iff :
    Loose.logging (.object members) = .ok s.logging ↔
      ∀ f ∈ Field.logging, f.settle (members.lookup f.name) = .ok (f.get s) := by
  simp only [Field.logging, List.forall_mem_cons, List.not_mem_nil, false_implies, implies_true,
    and_true]
  obtain ⟨loader, fetch, logging⟩ := s
  constructor
  · intro h
    obtain ⟨_, ⟨⟩, h⟩ := bind_eq_ok_iff.mp h
    obtain ⟨level, hlevel, h⟩ := bind_eq_ok_iff.mp h
    obtain ⟨file, hfile, h⟩ := bind_eq_ok_iff.mp h
    obtain ⟨json, hjson, h⟩ := bind_eq_ok_iff.mp h
    cases h
    exact ⟨hlevel, hfile, hjson⟩
  · rintro ⟨hlevel, hfile, hjson⟩
    simp only [Loose.logging, bind_eq_ok_iff]
    exact ⟨_, rfl, _, hlevel, _, hfile, _, hjson, rfl⟩

theorem loader_congr {others : List (String × Json)}
    (h : ∀ f ∈ Field.loader, members.lookup f.name = others.lookup f.name) :
    Loose.loader (.object members) = Loose.loader (.object others) := by
  simp only [Field.loader, List.forall_mem_cons] at h
  obtain ⟨hmode, hbase, hpaths, hparent, hdocument, -⟩ := h
  simp only [Field.ofLoader, Field.paths] at hmode hbase hpaths hparent hdocument
  simp only [Loose.loader, Loose.fields, bind, Except.bind, Loose.read, Json.Fields.find?, Json.member?,
    hmode, hbase,
    hpaths, hparent, hdocument]

theorem fetch_congr {others : List (String × Json)}
    (h : ∀ f ∈ Field.fetch, members.lookup f.name = others.lookup f.name) :
    Loose.fetch (.object members) = Loose.fetch (.object others) := by
  simp only [Field.fetch, List.forall_mem_cons] at h
  obtain ⟨hbackend, hroot, hbase, htimeout, hagent, -⟩ := h
  simp only [Field.ofFetch] at hbackend hroot hbase htimeout hagent
  simp only [Loose.fetch, Loose.fields, bind, Except.bind, Loose.read, Json.Fields.find?, Json.member?,
    hbackend, hroot,
    hbase, htimeout, hagent]

theorem logging_congr {others : List (String × Json)}
    (h : ∀ f ∈ Field.logging, members.lookup f.name = others.lookup f.name) :
    Loose.logging (.object members) = Loose.logging (.object others) := by
  simp only [Field.logging, List.forall_mem_cons] at h
  obtain ⟨hlevel, hfile, hjson, -⟩ := h
  simp only [Field.ofLogging] at hlevel hfile hjson
  simp only [Loose.logging, Loose.fields, bind, Except.bind, Loose.read, Json.Fields.find?, Json.member?,
    hlevel, hfile,
    hjson]

end Sections

/-! ## Reading a tree -/

/-- A tree in which everything that is read as a section is a table. -/
structure Tabled (root : Json) : Prop where
  isTable : ∃ members, root = .object members
  sections : ∀ part ∈ Field.parts, IsTableOrNone (child? root part)

/-- The members of a section; a section that is missing has none. -/
def sectionIn (root : Json) (part : String) : List (String × Json) :=
  membersOf ((child? root part).getD (.object []))

section Trees
variable {root : Json} {f : Field}

theorem valueIn?_eq_lookup (hf : f ∈ Field.all) :
    f.valueIn? root = (sectionIn root f.part).lookup f.name := by
  unfold Field.valueIn? at? sectionIn
  cases child? root f.part with
  | none => rfl
  | some v => rw [Option.bind_some, child?, Field.lowercased_name f hf, findEntry_eq_lookup]; rfl

/-- A section is read as its table; that of a missing section is empty, and stands for defaults. -/
theorem read_section {α : Type} {convert : Json → Except SourceError α} {default : α} {part : String}
    {place : Nat} {members : List (String × Json)} (hroot : root = .object members)
    (hpart : Text.lowercased part = part) (hempty : convert (.object []) = .ok default)
    (h : IsTableOrNone (child? root part)) :
    Loose.read (.named members) place part convert default =
      convert (.object (sectionIn root part)) := by
  have hchild : child? root part = members.lookup part := by
    rw [child?, hpart, findEntry_eq_lookup, hroot]
    rfl
  unfold sectionIn
  rw [hchild] at h ⊢
  simp only [Loose.read, Json.Fields.find?, Json.member?]
  cases hfound : members.lookup part with
  | none => exact hempty.symm
  | some v =>
    obtain ⟨inner, rfl⟩ := h v hfound
    rfl

theorem ofTree_eq (h : Tabled root) :
    Settings.ofTree root = (do
      let loader ← Loose.loader (.object (sectionIn root "loader"))
      let fetch ← Loose.fetch (.object (sectionIn root "fetch"))
      let logging ← Loose.logging (.object (sectionIn root "logging"))
      return ⟨loader, fetch, logging⟩) := by
  obtain ⟨members, hroot⟩ := h.isTable
  have hfields : Loose.fields root = .ok (.named members) := by
    rw [hroot]
    rfl
  have hloader : Loose.read (.named members) 0 "loader" Loose.loader LoaderSettings.default =
      Loose.loader (.object (sectionIn root "loader")) :=
    read_section hroot (by decide) rfl (h.sections "loader" (by decide))
  have hfetch : Loose.read (.named members) 1 "fetch" Loose.fetch FetchSettings.default =
      Loose.fetch (.object (sectionIn root "fetch")) :=
    read_section hroot (by decide) rfl (h.sections "fetch" (by decide))
  have hlogging : Loose.read (.named members) 2 "logging" Loose.logging LoggingSettings.default =
      Loose.logging (.object (sectionIn root "logging")) :=
    read_section hroot (by decide) rfl (h.sections "logging" (by decide))
  rw [Settings.ofTree, hfields, ← hloader, ← hfetch, ← hlogging]
  rfl

theorem mem_all_and_part :
    (∀ f ∈ Field.loader, f ∈ Field.all ∧ f.part = "loader") ∧
      (∀ f ∈ Field.fetch, f ∈ Field.all ∧ f.part = "fetch") ∧
      (∀ f ∈ Field.logging, f ∈ Field.all ∧ f.part = "logging") := by
  refine ⟨fun f hf => ⟨?_, ?_⟩, fun f hf => ⟨?_, ?_⟩, fun f hf => ⟨?_, ?_⟩⟩
  · simp [Field.all, hf]
  · exact (by decide : ∀ f ∈ Field.loader, f.part = "loader") f hf
  · simp [Field.all, hf]
  · exact (by decide : ∀ f ∈ Field.fetch, f.part = "fetch") f hf
  · simp [Field.all, hf]
  · exact (by decide : ∀ f ∈ Field.logging, f.part = "logging") f hf

theorem lookup_section {fields : List Field} {part : String}
    (hfields : ∀ f ∈ fields, f ∈ Field.all ∧ f.part = part) :
    ∀ f ∈ fields, f.valueIn? root = (sectionIn root part).lookup f.name := by
  intro f hf
  obtain ⟨hall, rfl⟩ := hfields f hf
  exact valueIn?_eq_lookup hall

theorem settle_section {fields : List Field} {part : String} {s : Settings}
    (hfields : ∀ f ∈ fields, f ∈ Field.all ∧ f.part = part) :
    (∀ f ∈ fields, f.settle (f.valueIn? root) = .ok (f.get s)) ↔
      ∀ f ∈ fields, f.settle ((sectionIn root part).lookup f.name) = .ok (f.get s) := by
  have hvalue : ∀ f ∈ fields, f.valueIn? root = (sectionIn root part).lookup f.name :=
    lookup_section hfields
  constructor
  · intro h f hf
    rw [← hvalue f hf]
    exact h f hf
  · intro h f hf
    rw [hvalue f hf]
    exact h f hf

/-- A tree stands for settings exactly if every field of them is what its value in the tree converts
to, or its default. -/
theorem ofTree_eq_ok_iff (h : Tabled root) {s : Settings} :
    Settings.ofTree root = .ok s ↔
      ∀ f ∈ Field.all, f.settle (f.valueIn? root) = .ok (f.get s) := by
  obtain ⟨hloader, hfetch, hlogging⟩ := mem_all_and_part
  rw [ofTree_eq h, Field.all, List.forall_mem_append, List.forall_mem_append,
    settle_section hloader, settle_section hfetch, settle_section hlogging,
    ← loader_eq_ok_iff, ← fetch_eq_ok_iff, ← logging_eq_ok_iff]
  simp only [bind_eq_ok_iff]
  constructor
  · rintro ⟨loader, hloader, fetch, hfetch, logging, hlogging, ⟨⟩⟩
    exact ⟨⟨hloader, hfetch⟩, hlogging⟩
  · rintro ⟨⟨hloader, hfetch⟩, hlogging⟩
    exact ⟨_, hloader, _, hfetch, _, hlogging, rfl⟩

/-- Whether a tree stands for settings is decided field by field. -/
theorem exists_ofTree_iff (h : Tabled root) :
    (∃ s, Settings.ofTree root = .ok s) ↔
      ∀ f ∈ Field.all, ∃ x, f.settle (f.valueIn? root) = .ok x := by
  constructor
  · rintro ⟨s, hs⟩ f hf
    exact ⟨f.get s, (ofTree_eq_ok_iff h).mp hs f hf⟩
  · intro hfields
    simp only [Field.all, Field.loader, Field.fetch, Field.logging, List.cons_append, List.nil_append,
      List.forall_mem_cons] at hfields
    obtain ⟨⟨mode, hmode⟩, ⟨baseUrl, hbase⟩, ⟨paths, hpaths⟩, ⟨parent, hparent⟩,
      ⟨document, hdocument⟩, ⟨backend, hbackend⟩, ⟨dir, hdir⟩, ⟨webBase, hwebBase⟩,
      ⟨timeout, htimeout⟩, ⟨agent, hagent⟩, ⟨level, hlevel⟩, ⟨file, hfile⟩, ⟨json, hjson⟩, -⟩ := hfields
    refine ⟨⟨⟨mode, baseUrl, paths, parent, document⟩, ⟨backend, dir, webBase, timeout, agent⟩,
      ⟨level, file, json⟩⟩, (ofTree_eq_ok_iff h).mpr ?_⟩
    simp only [Field.all, Field.loader, Field.fetch, Field.logging, List.cons_append, List.nil_append,
      List.forall_mem_cons]
    exact ⟨hmode, hbase, hpaths, hparent, hdocument, hbackend, hdir, hwebBase, htimeout, hagent, hlevel,
      hfile, hjson, by simp⟩

/-- Nothing of a tree counts but the values of the fields. -/
theorem ofTree_congr {other : Json} (h : Tabled root) (hother : Tabled other)
    (heq : ∀ f ∈ Field.all, f.valueIn? root = f.valueIn? other) :
    Settings.ofTree root = Settings.ofTree other := by
  obtain ⟨hloader, hfetch, hlogging⟩ := mem_all_and_part
  have hlookup : ∀ {fields : List Field} {part : String},
      (∀ f ∈ fields, f ∈ Field.all ∧ f.part = part) →
      ∀ f ∈ fields, (sectionIn root part).lookup f.name = (sectionIn other part).lookup f.name := by
    intro fields part hfields f hf
    rw [← lookup_section hfields f hf, ← lookup_section hfields f hf, heq f (hfields f hf).1]
  rw [ofTree_eq h, ofTree_eq hother, loader_congr (hlookup hloader), fetch_congr (hlookup hfetch),
    logging_congr (hlookup hlogging)]

end Trees

end MessageBundles

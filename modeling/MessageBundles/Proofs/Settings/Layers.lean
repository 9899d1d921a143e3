import MessageBundles.Proofs.Settings.Fields
import MessageBundles.Settings.Source

/-
  Layers — settings field by field, the environment over a file over the defaults

  A file says what fields are in the tables of its sections, or under dotted names; a variable names
  one field. What is proved:
    1. `lookup_layer` — the environment, as a layer, says of a field what its variable says.
    2. `valueIn?_layers` — a field of the two layers has the value of its variable if there is one, and
       else that of the file.
    3. `fromFile_layered` — settings are read exactly if every field's value converts, and then every
       field is what its value converts to.
-/

namespace MessageBundles

open Text SettingTree

/-! ## The environment as a layer -/

namespace Variables

/-- The name of the variable that stands for a field, in small letters. -/
def nameOf (f : Field) : List Char := start ++ (f.part.toList ++ '_' :: '_' :: f.name.toList)

/-- What the variable of a field says, if it is set. -/
def value? (env : Variables) (f : Field) : Option String :=
  (env.entries.find? fun e => lowercase e.1.toList == nameOf f).map (·.2)

/-- Variables of which those that stand for settings name fields of one value, each at most once; the
letters of a name may be small or capital. -/
structure OfScalars (env : Variables) : Prop where
  names : ∀ e ∈ env.entries, start.isPrefixOf (lowercase e.1.toList) = true →
    ∃ f ∈ Field.scalars, lowercase e.1.toList = nameOf f
  once : env.entries.Pairwise fun a b =>
    start.isPrefixOf (lowercase a.1.toList) = true → lowercase a.1.toList ≠ lowercase b.1.toList

theorem mem_all_of_mem_scalars {f : Field} (hf : f ∈ Field.scalars) : f ∈ Field.all :=
  (List.mem_filter.mp hf).1

theorem isPrefixOf_nameOf (f : Field) : start.isPrefixOf (nameOf f) = true :=
  List.isPrefixOf_iff_prefix.mpr (List.prefix_append _ _)

theorem ofName_dotted_nameOf : ∀ f ∈ Field.all,
    PathStep.ofName (String.ofList (dotted ((nameOf f).drop start.length))) =
      [.name f.part, .name f.name] := by
  decide +kernel

theorem nameOf_inj {f g : Field} (hf : f ∈ Field.all) (hg : g ∈ Field.all)
    (h : nameOf f = nameOf g) : f.part = g.part ∧ f.name = g.name := by
  have hpath := ofName_dotted_nameOf f hf
  rw [h, ofName_dotted_nameOf g hg] at hpath
  injection hpath with hpart hname
  injection hpart with hpart
  injection hname with hname
  injection hname with hname
  exact ⟨hpart.symm, hname.symm⟩

/-- The variable of a field is read as a name that sets this field and nothing else. -/
theorem setting?_of_nameOf {f : Field} (hf : f ∈ Field.all) {e : String × String}
    (he : lowercase e.1.toList = nameOf f) :
    ∃ x, setting? e = some x ∧ (∀ part, setsFields part x = true) ∧
      ∀ part, fieldsSet part x = if f.part = part then [(f.name, .string e.2)] else [] := by
  have hpart := Field.lowercased_part f.part (Field.part_mem f hf)
  refine ⟨_, by rw [setting?, he, if_pos (isPrefixOf_nameOf f)], ?_, ?_⟩
  · intro part
    simp [setsFields, ofName_dotted_nameOf f hf, fieldsBehind?]
  · intro part
    simp [fieldsSet, ofName_dotted_nameOf f hf, fieldsBehind?, hpart, Field.lowercased_name f hf]

/-- One entry of the environment: it stands for no setting, or for one field. -/
theorem setting?_cases {e : String × String}
    (he : start.isPrefixOf (lowercase e.1.toList) = true →
      ∃ f ∈ Field.scalars, lowercase e.1.toList = nameOf f) :
    (setting? e = none ∧ start.isPrefixOf (lowercase e.1.toList) = false) ∨
      ∃ f ∈ Field.all, lowercase e.1.toList = nameOf f ∧ ∃ x, setting? e = some x ∧
        (∀ part, setsFields part x = true) ∧
        ∀ part, fieldsSet part x = if f.part = part then [(f.name, .string e.2)] else [] := by
  cases hstart : start.isPrefixOf (lowercase e.1.toList) with
  | false => exact .inl ⟨by simp [setting?, hstart], rfl⟩
  | true =>
    obtain ⟨f, hf, hname⟩ := he hstart
    have hall := mem_all_of_mem_scalars hf
    exact .inr ⟨f, hall, hname, setting?_of_nameOf hall hname⟩

theorem setsFields_layer {l : List (String × String)}
    (hl : ∀ e ∈ l, start.isPrefixOf (lowercase e.1.toList) = true →
      ∃ f ∈ Field.scalars, lowercase e.1.toList = nameOf f) (part : String) :
    ∀ x ∈ l.filterMap setting?, setsFields part x = true := by
  intro x hx
  obtain ⟨e, he, hset⟩ := List.mem_filterMap.mp hx
  rcases setting?_cases (hl e he) with ⟨hnone, -⟩ | ⟨f, -, -, y, hy, hfields, -⟩
  · rw [hnone] at hset
    cases hset
  · rw [hy] at hset
    cases hset
    exact hfields part

theorem fieldsOf_layer_cons {e : String × String} {l : List (String × String)} (part : String) :
    fieldsOf part ((e :: l).filterMap setting?) =
      ((setting? e).elim [] (fieldsSet part)) ++ fieldsOf part (l.filterMap setting?) := by
  rw [List.filterMap_cons]
  cases setting? e <;> rfl

/-- The environment, as a layer, sets a field to what its variable holds. -/
theorem lookup_layer {l : List (String × String)}
    (hl : ∀ e ∈ l, start.isPrefixOf (lowercase e.1.toList) = true →
      ∃ f ∈ Field.scalars, lowercase e.1.toList = nameOf f) {f : Field} (hf : f ∈ Field.all) :
    (fieldsOf f.part (l.filterMap setting?)).lookup f.name =
      (l.find? fun e => lowercase e.1.toList == nameOf f).map fun e => .string e.2 := by
  induction l with
  | nil => rfl
  | cons e rest ih =>
    have hrest := ih fun x hx => hl x (List.mem_cons_of_mem e hx)
    rw [fieldsOf_layer_cons, List.lookup_append, hrest, List.find?_cons]
    rcases setting?_cases (hl e List.mem_cons_self) with
      ⟨hnone, hstart⟩ | ⟨g, hg, hname, x, hx, -, hset⟩
    · have hne : (lowercase e.1.toList == nameOf f) = false := by
        rw [beq_eq_false_iff_ne]
        intro heq
        rw [heq, isPrefixOf_nameOf] at hstart
        cases hstart
      rw [hnone, hne]
      rfl
    · rw [hx, Option.elim_some, hset, hname]
      by_cases hsame : nameOf g = nameOf f
      · obtain ⟨hpart, hfield⟩ := nameOf_inj hg hf hsame
        simp [hpart, hfield, hsame]
      · have hne : (nameOf g == nameOf f) = false := by simpa using hsame
        have hapart : ¬ (g.part = f.part ∧ f.name = g.name) := by
          rintro ⟨hpart, hfield⟩
          exact hsame (by rw [nameOf, nameOf, hpart, hfield])
        rw [hne]
        by_cases hpart : g.part = f.part
        · have hfield : (f.name == g.name) = false := by
            simpa using fun h => hapart ⟨hpart, h⟩
          rw [if_pos hpart, List.lookup_cons, hfield]
          rfl
        · rw [if_neg hpart]
          rfl

theorem nodup_layer {l : List (String × String)}
    (hl : ∀ e ∈ l, start.isPrefixOf (lowercase e.1.toList) = true →
      ∃ f ∈ Field.scalars, lowercase e.1.toList = nameOf f)
    (honce : l.Pairwise fun a b =>
      start.isPrefixOf (lowercase a.1.toList) = true → lowercase a.1.toList ≠ lowercase b.1.toList)
    (part : String) : ((fieldsOf part (l.filterMap setting?)).map (·.1)).Nodup := by
  induction l with
  | nil => exact List.nodup_nil
  | cons e rest ih =>
    rw [List.pairwise_cons] at honce
    have hrest := ih (fun x hx => hl x (List.mem_cons_of_mem e hx)) honce.2
    rw [fieldsOf_layer_cons]
    rcases setting?_cases (hl e List.mem_cons_self) with
      ⟨hnone, -⟩ | ⟨g, hg, hname, x, hx, -, hset⟩
    · rw [hnone]
      exact hrest
    · rw [hx, Option.elim_some, hset]
      by_cases hpart : g.part = part
      · rw [if_pos hpart, List.map_append, List.map_singleton, List.singleton_append,
          List.nodup_cons]
        refine ⟨?_, hrest⟩
        -- A second entry that sets the field would have the name of the first.
        intro hmem
        subst hpart
        have hfound := lookup_layer (fun x hx => hl x (List.mem_cons_of_mem e hx)) hg
        cases hlater : rest.find? (fun e => lowercase e.1.toList == nameOf g) with
        | none =>
          rw [hlater, Option.map_none, List.lookup_eq_none_iff] at hfound
          obtain ⟨m, hm, heq⟩ := List.mem_map.mp hmem
          exact absurd heq.symm (by simpa using hfound m hm)
        | some y =>
          have hy : lowercase y.1.toList = nameOf g := by simpa using List.find?_some hlater
          refine honce.1 y (List.mem_of_find?_eq_some hlater) ?_ (hname.trans hy.symm)
          rw [hname, isPrefixOf_nameOf]
      · rw [if_neg hpart]
        exact hrest

theorem sectioned_layer {env : Variables} (henv : env.OfScalars) (part : String) :
    Sectioned part env.layer :=
  ⟨setsFields_layer henv.names part, nodup_layer henv.names henv.once part⟩

end Variables

/-! ## Both layers -/

namespace Settings

/-- The value a file has for a field, which is what it holds laid over nothing. -/
def fileValue? (file : List (String × Json)) (f : Field) : Option Json :=
  f.valueIn? (overlay bare file)

/-- The value that counts for a field: that of its variable, or else that of the file. -/
def effective? (file : List (String × Json)) (env : Variables) (f : Field) : Option Json :=
  match env.value? f with
  | some s => some (.string s)
  | none => fileValue? file f

section Layers
variable {fs : SettingsFile.Formats} {files : Files.Tree} {name : String}
  {file : List (String × Json)} {env : Variables}

/-- In a file that says no field of a section twice, a field has the value it is given, with the keys
of a table in small letters. -/
theorem fileValue?_of_sectioned {f : Field} (hf : f ∈ Field.all) (hfile : Sectioned f.part file) :
    fileValue? file f =
      ((fieldsOf f.part file).lookup f.name).map fun v => laidOver v none := by
  have hpart := Field.lowercased_part f.part (Field.part_mem f hf)
  rw [fileValue?, Field.valueIn?, at?_overlay hpart (Field.lowercased_name f hf) hfile]
  cases (fieldsOf f.part file).lookup f.name <;> rfl

theorem tabled_of_sectioned (hfile : ∀ part ∈ Field.parts, Sectioned part file) :
    Tabled (overlay bare file) := by
  refine ⟨isTable_overlay file [], ?_⟩
  intro part hpart
  apply isTableOrNone_overlay (Field.lowercased_part part hpart) (hfile part hpart).fieldsOnly
  intro x hx
  cases hx

theorem valueIn?_layers (henv : env.OfScalars) {f : Field} (hf : f ∈ Field.all) :
    f.valueIn? (overlay (overlay bare file) env.layer) = effective? file env f := by
  have hpart := Field.lowercased_part f.part (Field.part_mem f hf)
  rw [Field.valueIn?, at?_overlay hpart (Field.lowercased_name f hf) (env.sectioned_layer henv f.part),
    Variables.layer, Variables.lookup_layer henv.names hf, effective?, Variables.value?]
  cases env.entries.find? fun e => lowercase e.1.toList == Variables.nameOf f <;> rfl

/-- What is said of the fields of both layers is said of the values that count. -/
theorem forall_layers_iff (henv : env.OfScalars) {P : Field → Option Json → Prop} :
    (∀ f ∈ Field.all, P f (f.valueIn? (overlay (overlay bare file) env.layer))) ↔
      ∀ f ∈ Field.all, P f (effective? file env f) := by
  constructor
  · intro h f hf
    rw [← valueIn?_layers henv hf]
    exact h f hf
  · intro h f hf
    rw [valueIn?_layers henv hf]
    exact h f hf

theorem tabled_layers (hfile : Tabled (overlay bare file)) (henv : env.OfScalars) :
    Tabled (overlay (overlay bare file) env.layer) := by
  obtain ⟨members, hmembers⟩ := hfile.isTable
  refine ⟨?_, ?_⟩
  · rw [hmembers]
    exact isTable_overlay env.layer members
  · intro part hpart
    apply isTableOrNone_overlay (Field.lowercased_part part hpart)
      (env.sectioned_layer henv part).fieldsOnly
    exact hfile.sections part hpart

theorem fromFile_eq (hfile : SettingsFile.layer fs files name = .ok file) :
    fromFile fs files env name = ofTree (overlay (overlay bare file) env.layer) := by
  rw [fromFile, hfile]
  rfl

theorem fromFile_eq_ok_iff (hfile : SettingsFile.layer fs files name = .ok file)
    (hsections : Tabled (overlay bare file)) (henv : env.OfScalars) {s : Settings} :
    fromFile fs files env name = .ok s ↔
      ∀ f ∈ Field.all, f.settle (effective? file env f) = .ok (f.get s) := by
  rw [fromFile_eq hfile, ofTree_eq_ok_iff (tabled_layers hsections henv)]
  exact forall_layers_iff henv (P := fun f v => f.settle v = .ok (f.get s))

theorem exists_fromFile_iff (hfile : SettingsFile.layer fs files name = .ok file)
    (hsections : Tabled (overlay bare file)) (henv : env.OfScalars) :
    (∃ s, fromFile fs files env name = .ok s) ↔
      ∀ f ∈ Field.all, ∃ x, f.settle (effective? file env f) = .ok x := by
  rw [fromFile_eq hfile, exists_ofTree_iff (tabled_layers hsections henv)]
  exact forall_layers_iff henv (P := fun f v => ∃ x, f.settle v = .ok x)

end Layers

/-- Settings are read field by field, the environment over a file over the defaults: they are read
exactly if the value that counts for each field converts, and each field is what its value converts
to. So a value of the file behind a variable does not matter, and a variable changes its own field
only. In a file that says no field twice, the value of a field is the one it is given. -/
theorem fromFile_layered {fs : SettingsFile.Formats} {files : Files.Tree} {env : Variables}
    {name : String} {file : List (String × Json)} (hfile : SettingsFile.layer fs files name = .ok file)
    (hsections : Tabled (overlay bare file)) (henv : env.OfScalars) :
    (∀ s, fromFile fs files env name = .ok s ↔
      ∀ f ∈ Field.all, f.settle (effective? file env f) = .ok (f.get s)) ∧
    ((∃ s, fromFile fs files env name = .ok s) ↔
      ∀ f ∈ Field.all, ∃ x, f.settle (effective? file env f) = .ok x) ∧
    (∀ fs' files' name' file', SettingsFile.layer fs' files' name' = .ok file' →
      Tabled (overlay bare file') →
      (∀ f ∈ Field.all, env.value? f = none → fileValue? file' f = fileValue? file f) →
      fromFile fs' files' env name' = fromFile fs files env name) ∧
    (∀ (env' : Variables) (key : String × String), env'.OfScalars →
      (∀ f ∈ Field.all, f.key ≠ key → env'.value? f = env.value? f) →
      ∀ s s', fromFile fs files env name = .ok s → fromFile fs files env' name = .ok s' →
        ∀ f ∈ Field.all, f.key ≠ key → f.get s' = f.get s) ∧
    (∀ f ∈ Field.all, Sectioned f.part file → fileValue? file f =
      ((fieldsOf f.part file).lookup f.name).map fun v => laidOver v none) := by
  refine ⟨?_, ?_, ?_, ?_, ?_⟩
  · exact fun s => fromFile_eq_ok_iff hfile hsections henv
  · exact exists_fromFile_iff hfile hsections henv
  · intro fs' files' name' file' hfile' hsections' hagree
    rw [fromFile_eq hfile, fromFile_eq hfile']
    apply ofTree_congr (tabled_layers hsections' henv) (tabled_layers hsections henv)
    intro f hf
    rw [valueIn?_layers henv hf, valueIn?_layers henv hf, effective?, effective?]
    cases hvar : env.value? f with
    | some s => rfl
    | none => exact hagree f hf hvar
  · intro env' key henv' hagree s s' hs hs' f hf hkey
    have hvalue : effective? file env' f = effective? file env f := by
      rw [effective?, effective?, hagree f hf hkey]
    have hfield := (fromFile_eq_ok_iff hfile hsections henv').mp hs' f hf
    rw [hvalue, (fromFile_eq_ok_iff hfile hsections henv).mp hs f hf] at hfield
    exact (Except.ok.inj hfield).symm
  · exact fun f hf hfile => fileValue?_of_sectioned hf hfile

/-- A tree with one file in it, beside which relative paths start. -/
def filesWith (text : String) : Files.Tree :=
  .ofEntries [] [([Utf8.encode "conf.toml".toList], .file (Utf8.encode text.toList))]

def shadowedFile : List (String × Json) :=
  [("Fetch", .object [("ROOT", .string "srv"), ("timeout_seconds", .array [])])]

def shadowing : Variables := Dict.ofList [("Bundle_Loader__FETCH__timeout_seconds", "7")]

/-- A list where a number belongs does not matter behind a variable, and the rest of the file counts. -/
theorem fromFile_layered_shadowed :
    fromFile .native (filesWith "[Fetch]\ntimeout_seconds = []\nROOT = \x22srv\x22\n") shadowing
        "conf.toml" = .ok { Settings.default with
        fetch := { FetchSettings.default with root := "srv", timeoutSeconds := 7 } } := by
  have hfile : SettingsFile.layer .native
      (filesWith "[Fetch]\ntimeout_seconds = []\nROOT = \x22srv\x22\n") "conf.toml" =
        .ok shadowedFile :=
    eq_ok_of_toOption (by decide +kernel)
  have hsections : Tabled (overlay bare shadowedFile) := by
    apply tabled_of_sectioned
    intro part hpart
    simp only [Field.parts, List.mem_cons, List.not_mem_nil, or_false] at hpart
    rcases hpart with rfl | rfl | rfl <;> exact ⟨by decide +kernel, by decide +kernel⟩
  have henv : shadowing.OfScalars := ⟨by decide +kernel, by decide +kernel⟩
  have hvalue : ∀ f ∈ Field.all, effective? shadowedFile shadowing f =
      [(("fetch", "root"), Json.string "srv"), (("fetch", "timeout_seconds"), .string "7")].lookup
        f.key := by
    decide +kernel
  obtain ⟨hread, -⟩ := fromFile_layered hfile hsections henv
  rw [hread]
  intro f hf
  rw [hvalue f hf]
  revert f hf
  simp only [Field.all, Field.loader, Field.fetch, Field.logging, List.cons_append, List.nil_append,
    List.forall_mem_cons]
  refine ⟨rfl, rfl, rfl, rfl, rfl, rfl, rfl, rfl, rfl, rfl, rfl, rfl, rfl, by simp⟩

end Settings

end MessageBundles

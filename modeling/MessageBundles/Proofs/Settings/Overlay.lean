import MessageBundles.Settings.Tree

/-
  Overlays — what a setting holds after a layer was laid over a tree

  A layer says something about a field of a section in one of two ways: in the table of the section,
  or under a name with one dot, the section in front of it and the field behind. What is proved:
    1. `ofName_eq_name_cons` — every path starts with a name, so a tree stays a table.
    2. `child?_placeAll` — a table laid over a table sets its own keys and keeps all others.
    3. `at?_overlay` — a layer that says no field twice sets the fields it names and keeps all others.
    4. `isTableOrNone_overlay` — under such a layer a section stays a table, if there is one.
-/

namespace MessageBundles

/-! ## Paths -/

namespace PathStep

/-- The path a name stands for; a name that is no path is one step. -/
def ofName (name : String) : List PathStep := (steps? name).getD [.name name]

theorem named?_eq_some {acc : List Char} {steps : List PathStep} (h : named? acc = some steps) :
    ∃ s, steps = [.name s] := by
  unfold named? at h
  split at h
  · cases h
  · cases h
    exact ⟨_, rfl⟩

/-- A character behind a name goes on with the name or finishes it. -/
theorem next?_name {acc : List Char} {c : Char} {t : Scan} {found : List PathStep}
    (h : Scan.next? (.name acc) c = some (t, found)) :
    (t = .name (c :: acc) ∧ found = []) ∨ named? acc = some found := by
  simp only [Scan.next?] at h
  split at h
  · cases h
    exact .inl ⟨rfl, rfl⟩
  · right
    split at h
    · obtain ⟨_, hnamed, ⟨⟩⟩ := Option.map_eq_some_iff.mp h
      exact hnamed
    · split at h
      · obtain ⟨_, hnamed, ⟨⟩⟩ := Option.map_eq_some_iff.mp h
        exact hnamed
      · cases h

theorem stepsFrom?_name {cs acc : List Char} {steps : List PathStep}
    (h : stepsFrom? (.name acc) cs = some steps) : ∃ s rest, steps = .name s :: rest := by
  induction cs generalizing acc with
  | nil =>
    obtain ⟨s, rfl⟩ := named?_eq_some h
    exact ⟨s, [], rfl⟩
  | cons c rest ih =>
    rw [stepsFrom?.eq_4 (.name acc) c rest] at h
    cases hnext : Scan.next? (.name acc) c with
    | none =>
      rw [hnext] at h
      cases h
    | some next =>
      obtain ⟨t, found⟩ := next
      rw [hnext] at h
      obtain ⟨later, hlater, rfl⟩ := Option.map_eq_some_iff.mp h
      rcases next?_name hnext with ⟨rfl, rfl⟩ | hnamed
      · exact ih hlater
      · obtain ⟨s, rfl⟩ := named?_eq_some hnamed
        exact ⟨s, later, rfl⟩

theorem ofName_eq_name_cons (name : String) : ∃ s rest, ofName name = .name s :: rest := by
  unfold ofName
  cases h : steps? name with
  | none => exact ⟨name, [], rfl⟩
  | some steps => exact stepsFrom?_name h

end PathStep

namespace SettingTree

open PathStep

/-! ## Look-ups -/

@[simp] theorem membersOf_object (members : List (String × Json)) :
    membersOf (.object members) = members := rfl

theorem child?_withChild (root : Json) (name other : String) (v : Json) :
    child? (withChild root name v) other =
      if Text.lowercased other = Text.lowercased name then some v else child? root other :=
  Dict.findEntry_insertEntry _ _ _ _

/-- What a value becomes where something may have been before it: a table is laid over the table that
was there, and anything else takes its place. -/
def laidOver (v : Json) (before : Option Json) : Json :=
  match v with
  | .object members => placeAll (before.getD (.object [])) members
  | v => v

theorem place_eq (root : Json) (name : String) (v : Json) :
    place root name v = withChild root name (laidOver v (child? root name)) := by
  cases v <;> rfl

theorem overlayOne_eq (root : Json) (e : String × Json) :
    overlayOne root e = assign (ofName e.1) e.2 root := by
  unfold overlayOne ofName
  cases steps? e.1 <;> rfl

/-- What is found at a key that is looked up in a list of keys and values, where a value is laid over
what was there before. -/
def foundOr (found : Option Json) (before : Option Json) : Option Json :=
  match found with
  | some v => some (laidOver v before)
  | none => before

theorem child?_placeAll {members : List (String × Json)}
    (honce : (members.map (Text.lowercased ·.1)).Nodup) (root : Json) (key : String) :
    child? (placeAll root members) key =
      foundOr ((members.map fun m => (Text.lowercased m.1, m.2)).lookup (Text.lowercased key))
        (child? root key) := by
  induction members generalizing root with
  | nil => rfl
  | cons m rest ih =>
    obtain ⟨name, v⟩ := m
    rw [List.map_cons, List.nodup_cons] at honce
    rw [placeAll, ih honce.2, place_eq, child?_withChild, List.map_cons, List.lookup_cons]
    by_cases hkey : Text.lowercased key = Text.lowercased name
    · have hlater : (rest.map fun m => (Text.lowercased m.1, m.2)).lookup (Text.lowercased key) =
          none := by
        rw [List.lookup_eq_none_iff]
        intro e he
        obtain ⟨m, hm, rfl⟩ := List.mem_map.mp he
        have hne : Text.lowercased key ≠ Text.lowercased m.1 := by
          intro heq
          exact honce.1 (List.mem_map.mpr ⟨m, hm, heq.symm.trans hkey⟩)
        simpa using hne
      have hbefore : child? root key = child? root name := by
        simp only [child?, hkey]
      rw [hlater, if_pos hkey, hbefore]
      simp [foundOr, hkey]
    · rw [if_neg hkey]
      have : (Text.lowercased key == Text.lowercased name) = false := by simpa using hkey
      simp only [this]

/-! ## Fields of sections -/

/-- The value of a field of a section. -/
def at? (root : Json) (part field : String) : Option Json :=
  (child? root part).bind (child? · field)

/-- The fields that a value behind the name of a section speaks of: those of a table, or the one
behind a dot. Anything else is said of the section as a whole, or of a part of a field. -/
def fieldsBehind? : List PathStep → Json → Option (List (String × Json))
  | [], .object members => some members
  | [.name field], v => some [(field, v)]
  | _, _ => none

/-- The fields of a section that a named value sets, by their names in small letters. -/
def fieldsSet (part : String) (e : String × Json) : List (String × Json) :=
  match ofName e.1 with
  | .name first :: rest =>
    if Text.lowercased first = part then
      ((fieldsBehind? rest e.2).getD []).map fun m => (Text.lowercased m.1, m.2)
    else []
  | _ => []

/-- The fields of a section that a layer sets. -/
def fieldsOf (part : String) (layer : List (String × Json)) : List (String × Json) :=
  layer.flatMap (fieldsSet part)

/-- Whether a named value says nothing of a section but what fields of it are. -/
def setsFields (part : String) (e : String × Json) : Bool :=
  match ofName e.1 with
  | .name first :: rest => Text.lowercased first != part || (fieldsBehind? rest e.2).isSome
  | _ => true

/-- A layer that says of a section what fields of it are, each field at most once, and nothing
else. -/
structure Sectioned (part : String) (layer : List (String × Json)) : Prop where
  fieldsOnly : ∀ e ∈ layer, setsFields part e = true
  once : ((fieldsOf part layer).map (·.1)).Nodup

/-- Whether what is found, if anything, is a table. -/
def IsTableOrNone (v : Option Json) : Prop := ∀ x, v = some x → ∃ members, x = .object members

theorem placeAll_object (members before : List (String × Json)) :
    ∃ after, placeAll (.object before) members = .object after := by
  induction members generalizing before with
  | nil => exact ⟨before, rfl⟩
  | cons m rest ih =>
    rw [placeAll, place_eq]
    exact ih _

/-- What is said of fields behind the name of a section is laid into the section's table. -/
theorem assign_of_fieldsBehind? {rest : List PathStep} {v : Json} {members : List (String × Json)}
    (h : fieldsBehind? rest v = some members) (root : Json) (first : String) :
    assign (.name first :: rest) v root =
      withChild root first (placeAll ((child? root first).getD (.object [])) members) := by
  unfold fieldsBehind? at h
  split at h
  · cases h
    rfl
  · rename_i field
    cases h
    show withChild root first (place ((child? root first).getD .null) field v) =
      withChild root first (place ((child? root first).getD (.object [])) field v)
    cases child? root first with
    | some table => rfl
    | none => cases v <;> rfl
  · cases h

/-- What one named value does to a section: nothing, or it sets fields in the section's table. -/
theorem child?_overlayOne {part : String} (hpart : Text.lowercased part = part)
    {e : String × Json} (he : setsFields part e = true) (root : Json) :
    (fieldsSet part e = [] ∧ child? (overlayOne root e) part = child? root part) ∨
      ∃ members : List (String × Json),
        fieldsSet part e = members.map (fun m => (Text.lowercased m.1, m.2)) ∧
        child? (overlayOne root e) part =
          some (placeAll ((child? root part).getD (.object [])) members) := by
  obtain ⟨first, rest, hpath⟩ := ofName_eq_name_cons e.1
  rw [overlayOne_eq, hpath]
  simp only [setsFields, hpath, Bool.or_eq_true, bne_iff_ne, Option.isSome_iff_exists] at he
  simp only [fieldsSet, hpath]
  by_cases hfirst : Text.lowercased first = part
  · obtain ⟨members, hmembers⟩ := he.resolve_left (not_not_intro hfirst)
    have hsame : child? root first = child? root part := by
      simp only [child?, hfirst, hpart]
    refine .inr ⟨members, ?_, ?_⟩
    · rw [if_pos hfirst, hmembers]
      rfl
    · rw [assign_of_fieldsBehind? hmembers, child?_withChild, hpart, if_pos hfirst.symm, hsame]
  · have hother : ∀ v, child? (withChild root first v) part = child? root part := by
      intro v
      rw [child?_withChild, hpart, if_neg (Ne.symm hfirst)]
    refine .inl ⟨if_neg hfirst, ?_⟩
    cases rest with
    | nil => rw [assign, place_eq, hother]
    | cons next rest => rw [assign, hother]

theorem isTableOrNone_overlayOne {part : String} (hpart : Text.lowercased part = part)
    {e : String × Json} (he : setsFields part e = true) {root : Json}
    (h : IsTableOrNone (child? root part)) : IsTableOrNone (child? (overlayOne root e) part) := by
  rcases child?_overlayOne hpart he root with ⟨-, hsame⟩ | ⟨members, -, hset⟩
  · rwa [hsame]
  · intro x hx
    rw [hset] at hx
    cases hx
    cases hbefore : child? root part with
    | none => exact placeAll_object members []
    | some y =>
      obtain ⟨before, rfl⟩ := h y hbefore
      exact placeAll_object members before

/-- Under a layer that says what fields are, a section stays a table, if there is one. -/
theorem isTableOrNone_overlay {part : String} (hpart : Text.lowercased part = part)
    {layer : List (String × Json)} (hlayer : ∀ e ∈ layer, setsFields part e = true) {root : Json}
    (h : IsTableOrNone (child? root part)) : IsTableOrNone (child? (overlay root layer) part) := by
  induction layer generalizing root with
  | nil => exact h
  | cons e rest ih =>
    apply ih (fun x hx => hlayer x (List.mem_cons_of_mem e hx))
    exact isTableOrNone_overlayOne hpart (hlayer e List.mem_cons_self) h

theorem at?_overlayOne {part field : String} (hpart : Text.lowercased part = part)
    (hfield : Text.lowercased field = field) {e : String × Json} (he : setsFields part e = true)
    (honce : ((fieldsSet part e).map (·.1)).Nodup) (root : Json) :
    at? (overlayOne root e) part field =
      foundOr ((fieldsSet part e).lookup field) (at? root part field) := by
  unfold at?
  rcases child?_overlayOne hpart he root with ⟨hnone, hsame⟩ | ⟨members, hmembers, hset⟩
  · rw [hnone, hsame]
    rfl
  · rw [hmembers, List.map_map] at honce
    have hbefore : child? ((child? root part).getD (.object [])) field =
        (child? root part).bind (child? · field) := by
      cases child? root part <;> rfl
    rw [hset, hmembers, Option.bind_some, child?_placeAll honce, hfield, hbefore]

/-- Whatever is laid over a table, it stays a table, as every path starts with a name. -/
theorem isTable_overlay (layer members : List (String × Json)) :
    ∃ after, overlay (.object members) layer = .object after := by
  induction layer generalizing members with
  | nil => exact ⟨members, rfl⟩
  | cons e rest ih =>
    have hstep : overlay (.object members) (e :: rest) =
        overlay (overlayOne (.object members) e) rest := rfl
    obtain ⟨first, path, hpath⟩ := ofName_eq_name_cons e.1
    rw [hstep, overlayOne_eq, hpath]
    cases path with
    | nil =>
      rw [assign, place_eq]
      exact ih _
    | cons next path => exact ih _

/-- A layer that says no field of a section twice sets the fields it names, and every other field of
the section is what it was. -/
theorem at?_overlay {part field : String} (hpart : Text.lowercased part = part)
    (hfield : Text.lowercased field = field) {layer : List (String × Json)}
    (hlayer : Sectioned part layer) (root : Json) :
    at? (overlay root layer) part field =
      foundOr ((fieldsOf part layer).lookup field) (at? root part field) := by
  obtain ⟨hsets, honce⟩ := hlayer
  induction layer generalizing root with
  | nil => rfl
  | cons e rest ih =>
    have hcons : fieldsOf part (e :: rest) = fieldsSet part e ++ fieldsOf part rest := rfl
    rw [hcons, List.map_append, List.nodup_append] at honce
    obtain ⟨hfirst, hrest, hapart⟩ := honce
    have hstep : overlay root (e :: rest) = overlay (overlayOne root e) rest := rfl
    rw [hstep, ih _ (fun x hx => hsets x (List.mem_cons_of_mem e hx)) hrest,
      at?_overlayOne hpart hfield (hsets e List.mem_cons_self) hfirst, hcons, List.lookup_append]
    cases hfound : (fieldsSet part e).lookup field with
    | none => rfl
    | some v =>
      -- The field is said here, so it is not said again.
      have hlater : (fieldsOf part rest).lookup field = none := by
        rw [List.lookup_eq_none_iff]
        intro m hm
        obtain ⟨l₁, l₂, heq, -⟩ := List.lookup_eq_some_iff.mp hfound
        have hmem : field ∈ (fieldsSet part e).map (·.1) := by
          rw [heq]
          simp
        simpa using hapart field hmem m.1 (List.mem_map_of_mem hm)
      rw [hlater]
      rfl

end SettingTree

end MessageBundles

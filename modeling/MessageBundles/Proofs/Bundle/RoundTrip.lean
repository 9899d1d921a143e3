import MessageBundles.Bundle.Properties
import MessageBundles.Proofs.Bundle.Enumeration
import MessageBundles.Proofs.Text.Pieces

/-
  The round trip of property lines — which bundles come back from their own text

  A key and a message can be written on a line and read back exactly if they have the form that a
  line can bind at all. The form is stated without the reader: `IsKey`, `IsMessage`, and `WellFormed`
  for a whole bundle. What is proved:
    1. `isEntry_of_entry?` — whatever a line binds has the form.
    2. `entry?_append` — a key and a message of the form are read back from their line.
    3. `bindings_flatMap_line` — the lines of entries of the form neither merge, nor turn into
       comments, nor take over each other's keys.
    4. `wellFormed_fromProperties` — every text describes a well-formed bundle.
    5. `fromProperties_toProperties_iff` — a bundle comes back from its own text exactly if it is
       well formed, and the well-formed bundles are those that some text describes.
-/

namespace MessageBundles.Bundle

open Text

/-! ## The form of an entry -/

/-- The form of a key: not empty, no blank at either end, no number sign in front, on one line, and
no separator behind the first character. -/
structure IsKey (key : List Char) : Prop where
  ne_nil : key ≠ []
  trimmed : Trimmed key
  no_comment : key.head? ≠ some '#'
  one_line : ∀ c ∈ key, isLineBreak c = false
  no_separator : '=' ∉ key.tail

/-- The form of a message: no blank at either end, on one line. -/
structure IsMessage (message : List Char) : Prop where
  trimmed : Trimmed message
  one_line : ∀ c ∈ message, isLineBreak c = false

def IsEntry (e : String × String) : Prop := IsKey e.1.toList ∧ IsMessage e.2.toList

def WellFormed (b : Bundle) : Prop := ∀ e ∈ b.entries, IsEntry e

-- Every character of a text is tried, not every character there is.
instance (key : List Char) : Decidable (IsKey key) :=
  decidable_of_iff (key ≠ [] ∧ Trimmed key ∧ key.head? ≠ some '#' ∧
      key.all (!isLineBreak ·) ∧ '=' ∉ key.tail)
    ⟨fun ⟨h₁, h₂, h₃, h₄, h₅⟩ => ⟨h₁, h₂, h₃, by simpa using h₄, h₅⟩,
      fun h => ⟨h.ne_nil, h.trimmed, h.no_comment, by simpa using h.one_line, h.no_separator⟩⟩

instance (message : List Char) : Decidable (IsMessage message) :=
  decidable_of_iff (Trimmed message ∧ message.all (!isLineBreak ·))
    ⟨fun ⟨h₁, h₂⟩ => ⟨h₁, by simpa using h₂⟩, fun h => ⟨h.trimmed, by simpa using h.one_line⟩⟩

instance (e : String × String) : Decidable (IsEntry e) := inferInstanceAs (Decidable (_ ∧ _))

instance (b : Bundle) : Decidable b.WellFormed :=
  inferInstanceAs (Decidable (∀ e ∈ b.entries, IsEntry e))

/-! ## What a line binds has the form -/

/-- What a line that binds something looks like behind its blank start. -/
theorem entry?_eq_some {line : List Char} {e : String × String} (h : entry? line = some e) :
    ∃ c rest value, line.dropWhile isBlank = c :: rest ∧ c ≠ '#' ∧
      rest.dropWhile (· != '=') = '=' :: value ∧
      e.1.toList = dropEndWhile isBlank (c :: rest.takeWhile (· != '=')) ∧
      e.2.toList = trim isBlank value := by
  unfold entry? at h
  split at h
  · cases h
  · rename_i c rest hline
    split at h
    · cases h
    · rename_i hc
      split at h
      · cases h
      · rename_i sep value hrest
        -- What ends the text before the separator can only be the separator.
        have hsep : sep = '=' := by
          have := head?_dropWhile (· != '=') rest sep (by rw [hrest]; rfl)
          simpa using this
        subst hsep
        cases h
        exact ⟨c, rest, value, hline, hc, hrest, String.toList_ofList, String.toList_ofList⟩

/-- What stands on one line up to a separator, without its blank end, has the form of a key. -/
theorem isKey_dropEndWhile {c : Char} {rest : List Char} (hblank : isBlank c = false) (hc : c ≠ '#')
    (hline : ∀ x ∈ c :: rest, isLineBreak x = false) :
    IsKey (dropEndWhile isBlank (c :: rest.takeWhile (· != '='))) := by
  have hlast := getLast?_dropEndWhile isBlank (c :: rest.takeWhile (· != '='))
  rw [dropEndWhile_cons_of_neg hblank] at hlast ⊢
  have hmem : ∀ x ∈ dropEndWhile isBlank (rest.takeWhile (· != '=')), x ∈ rest ∧ x ≠ '=' := by
    intro x hx
    have hx := mem_of_mem_dropEndWhile hx
    constructor
    · exact List.takeWhile_subset _ hx
    · simpa using List.all_eq_true.mp List.all_takeWhile x hx
  refine ⟨List.cons_ne_nil c _, ⟨?_, hlast⟩, ?_, ?_, ?_⟩
  · rintro x ⟨⟩
    exact hblank
  · intro h
    exact hc (Option.some.inj h)
  · intro x hx
    apply hline
    rcases List.mem_cons.mp hx with rfl | hx
    · exact List.mem_cons_self
    · exact List.mem_cons_of_mem c (hmem x hx).1
  · intro hx
    exact (hmem '=' hx).2 rfl

theorem isMessage_trim {value : List Char} (h : ∀ c ∈ value, isLineBreak c = false) :
    IsMessage (trim isBlank value) :=
  ⟨trimmed_trim value, fun c hc => h c (mem_of_mem_trim hc)⟩

/-- Whatever a line binds has the form of an entry. -/
theorem isEntry_of_entry? {line : List Char} {e : String × String}
    (hline : ∀ c ∈ line, isLineBreak c = false) (h : entry? line = some e) : IsEntry e := by
  obtain ⟨c, rest, value, hdrop, hc, hrest, hkey, hvalue⟩ := entry?_eq_some h
  have hsub : ∀ x ∈ c :: rest, isLineBreak x = false :=
    fun x hx => hline x (List.dropWhile_subset isBlank (hdrop ▸ hx))
  have hblank : isBlank c = false := by
    apply head?_dropWhile isBlank line
    rw [hdrop]
    rfl
  constructor
  · rw [hkey]
    exact isKey_dropEndWhile hblank hc hsub
  · rw [hvalue]
    apply isMessage_trim
    intro x hx
    apply hsub
    have hx : x ∈ rest.dropWhile (· != '=') := hrest ▸ List.mem_cons_of_mem '=' hx
    exact List.mem_cons_of_mem c (List.dropWhile_subset _ hx)

theorem wellFormed_fromProperties (text : String) : (fromProperties text).WellFormed := by
  intro e he
  have hbound : e ∈ bindings text.toList := Dict.mem_of_mem_ofList he
  obtain ⟨line, hline, hentry⟩ := List.mem_filterMap.mp hbound
  exact isEntry_of_entry? (fun c hc => (mem_of_mem_runs hline c hc).2) hentry

/-! ## The form is enough to be read back -/

/-- A key and a message of the form are read back from the line that binds them. -/
theorem entry?_append {e : String × String} (h : IsEntry e) :
    entry? (e.1.toList ++ '=' :: e.2.toList) = some e := by
  obtain ⟨hkey, hmessage⟩ := h
  obtain ⟨c, tail, hc⟩ := List.exists_cons_of_ne_nil hkey.ne_nil
  have hblank : isBlank c = false := hkey.trimmed.1 c (by rw [hc]; rfl)
  have hcomment : c ≠ '#' := fun hx => hkey.no_comment (by rw [hc, hx]; rfl)
  have hsep : ∀ x ∈ tail, (x != '=') = true := by
    intro x hx
    refine bne_iff_ne.mpr fun heq => hkey.no_separator ?_
    rw [hc]
    exact heq ▸ hx
  have htake : (tail ++ '=' :: e.2.toList).takeWhile (· != '=') = tail := by
    rw [List.takeWhile_append_of_pos hsep]
    simp
  have hdrop : (tail ++ '=' :: e.2.toList).dropWhile (· != '=') = '=' :: e.2.toList := by
    rw [List.dropWhile_append_of_pos hsep]
    simp
  rw [hc, List.cons_append, entry?, List.dropWhile_cons_of_neg (by simp [hblank])]
  simp only [hcomment, if_false, htake, hdrop]
  rw [← hc, dropEndWhile_of_getLast? hkey.trimmed.2, trim_of_trimmed hmessage.trimmed,
    String.ofList_toList, String.ofList_toList]

/-- The lines of entries of the form bind these entries, in their order, and nothing else. -/
theorem bindings_flatMap_line {es : List (String × String)} (h : ∀ e ∈ es, IsEntry e) :
    bindings (es.flatMap line) = es := by
  induction es with
  | nil => rfl
  | cons e rest ih =>
    obtain ⟨hkey, hmessage⟩ := h e List.mem_cons_self
    have hbreak : ∀ c ∈ e.1.toList ++ '=' :: e.2.toList, isLineBreak c = false := by
      intro c hc
      rcases List.mem_append.mp hc with hc | hc
      · exact hkey.one_line c hc
      · rcases List.mem_cons.mp hc with rfl | hc
        · decide
        · exact hmessage.one_line c hc
    have hline : (e :: rest).flatMap line =
        (e.1.toList ++ '=' :: e.2.toList) ++ '\n' :: rest.flatMap line := by
      simp [line]
    rw [bindings, hline, runs_append_cons hbreak (by decide), List.filterMap_cons,
      entry?_append ⟨hkey, hmessage⟩]
    exact congrArg (e :: ·) (ih fun x hx => h x (List.mem_cons_of_mem e hx))

theorem fromProperties_toProperties {b : Bundle} (h : b.WellFormed) :
    fromProperties b.toProperties = b := by
  rw [fromProperties, toProperties_eq, String.toList_ofList, bindings_flatMap_line h]
  exact congrArg Bundle.mk (Dict.ofList_entries b.messages)

/-- A bundle comes back from its own text exactly if it is well formed; what a text describes always
comes back, and the well-formed bundles are those that some text describes. -/
theorem fromProperties_toProperties_iff :
    (∀ b : Bundle, fromProperties b.toProperties = b ↔ b.WellFormed) ∧
      (∀ text, (fromProperties text).WellFormed) ∧
      (∀ text, fromProperties (fromProperties text).toProperties = fromProperties text) ∧
      (∀ b : Bundle, (∃ text, fromProperties text = b) ↔ b.WellFormed) := by
  refine ⟨fun b => ⟨?_, fromProperties_toProperties⟩, wellFormed_fromProperties,
    fun text => fromProperties_toProperties (wellFormed_fromProperties text), fun b => ⟨?_, ?_⟩⟩
  · intro h
    rw [← h]
    exact wellFormed_fromProperties b.toProperties
  · rintro ⟨text, rfl⟩
    exact wellFormed_fromProperties text
  · exact fun h => ⟨b.toProperties, fromProperties_toProperties h⟩

/-- A key may start with the separator, but not hold it further on. -/
example : (ofEntries [("=a", "b = c"), ("k", "")]).WellFormed ∧
    ¬ (ofEntries [("a=b", "c")]).WellFormed := by decide

end MessageBundles.Bundle

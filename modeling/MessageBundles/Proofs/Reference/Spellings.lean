import MessageBundles.Loader

/-
  Spellings — what can be written for one identifier

  References are sorted by four rules in order, and each rule has its own way to an identifier. Read
  backwards they say what a caller may write for an identifier, and so which references share one. What is
  proved:
    1. `identify_eq_error_iff` — the lone slash is the only reference without an identifier.
    2. `text_cases` — every text has the form that one of the rules looks for.
    3. `identify_of_spells`, `spells_of_identify` — a spelling of an identifier stands for it, and all
       that stands for it is one.
    4. `identify_spellings` — the references that stand for an identifier are its spellings, and no
       reference stands for the empty one.
-/

namespace MessageBundles

/-! ## The rules -/

/-- Whether a reference is one name: no path from the top, and none from where it is. -/
def IsBareName (name : String) : Prop :=
  name ≠ "" ∧ '/' ∉ name.toList ∧ name.toList.head? ≠ some '.'

instance (name : String) : Decidable (IsBareName name) :=
  inferInstanceAs (Decidable (_ ∧ _ ∧ _))

/-- Whether a text, as a reference, is taken for an identifier as it is. -/
def Loader.IsIdentifier (text : List Char) : Prop :=
  ['.'].isPrefixOf text = true ∨ ('/' ∈ text ∧ ['/'].isPrefixOf text = false)

theorem Loader.identify_of_isIdentifier {text : String} (h : Loader.IsIdentifier text.toList) :
    (Reference.classify (some text)).identify = .ok ⟨text⟩ := by
  have hclass : Reference.classify (some text) = .relative text := by
    unfold Reference.classify
    cases htext : text.toList with
    | nil =>
      rw [htext] at h
      rcases h with h | ⟨h, -⟩ <;> cases h
    | cons c rest =>
      rw [htext] at h
      have hc : c ≠ '/' := by
        rintro rfl
        rcases h with h | ⟨-, h⟩ <;> cases h
      have hbare : ¬ (c ≠ '.' ∧ '/' ∉ rest) := by
        rintro ⟨hdot, hslash⟩
        rcases h with h | ⟨h, -⟩
        · simp [List.isPrefixOf, Ne.symm hdot] at h
        · simp [Ne.symm hc, hslash] at h
      simp only [htext, hc, hbare, if_false]
  rw [hclass]
  rfl

namespace Reference

theorem identify_named {name : String} (h : IsBareName name) :
    (Reference.classify (some name)).identify = .ok ⟨Identifier.defaultFolder ++ name⟩ := by
  obtain ⟨hne, hslash, hdot⟩ := h
  have hclass : Reference.classify (some name) = .named name := by
    cases hname : name.toList with
    | nil => exact absurd (String.toList_eq_nil_iff.mp hname) hne
    | cons c rest =>
      rw [hname] at hslash hdot
      have hc : c ≠ '/' := fun heq => hslash (heq ▸ List.mem_cons_self)
      have hrest : c ≠ '.' ∧ '/' ∉ rest :=
        ⟨fun heq => hdot (heq ▸ rfl), fun hmem => hslash (List.mem_cons_of_mem c hmem)⟩
      simp only [Reference.classify, hname, if_neg hc, if_pos hrest]
  rw [hclass]
  rfl

theorem classify_of_slash {text : String} {rest : List Char} (h : text.toList = '/' :: rest) :
    classify (some text) = .absolute (String.ofList rest) := by
  simp only [classify, h, if_true]

theorem classify_eq_absolute_iff {reference : Option String} {path : String} :
    classify reference = .absolute path ↔
      ∃ r, reference = some r ∧ r.toList = '/' :: path.toList := by
  constructor
  · intro h
    cases reference with
    | none => simp [classify] at h
    | some r =>
      cases hr : r.toList with
      | nil => simp [classify, hr] at h
      | cons c rest =>
        by_cases hc : c = '/'
        · rw [hc] at hr
          rw [classify_of_slash hr] at h
          cases h
          exact ⟨r, rfl, by rw [hr, String.toList_ofList]⟩
        · simp only [classify, hr, hc, if_false] at h
          split at h <;> cases h
  · rintro ⟨r, rfl, hr⟩
    rw [classify_of_slash hr, String.ofList_toList]

/-- The lone slash is the only reference without an identifier. -/
theorem identify_eq_error_iff {reference : Option String} {e : LoadError} :
    (classify reference).identify = .error e ↔
      reference = some "/" ∧ e = .invalidReference .loneSlash := by
  have hslash : classify reference = .absolute "" ↔ reference = some "/" := by
    rw [classify_eq_absolute_iff]
    constructor
    · rintro ⟨r, rfl, hr⟩
      exact congrArg some (String.toList_inj.mp hr)
    · rintro rfl
      exact ⟨"/", rfl, rfl⟩
  rw [← hslash, ← identifier?_eq_none_iff, identify]
  cases (classify reference).identifier? with
  | none => simp [eq_comm]
  | some id => simp

theorem identify_slash {path : String} (h : path ≠ "") :
    (classify (some ("/" ++ path))).identify = .ok ⟨path⟩ := by
  have hlist : ("/" ++ path).toList = '/' :: path.toList := by
    rw [String.toList_append]
    rfl
  rw [classify_of_slash hlist, String.ofList_toList, identify, identifier?, if_neg h]

/-- Every text has the form that one of the rules looks for. -/
theorem text_cases (text : String) :
    text = "" ∨ (∃ path, text = "/" ++ path) ∨ IsBareName text ∨ Loader.IsIdentifier text.toList := by
  cases htext : text.toList with
  | nil => exact .inl (String.toList_eq_nil_iff.mp htext)
  | cons c rest =>
    right
    by_cases hslash : c = '/'
    · left
      refine ⟨String.ofList rest, String.toList_inj.mp ?_⟩
      rw [htext, hslash, String.toList_append, @String.toList_ofList rest]
      rfl
    · right
      by_cases hbare : c ≠ '.' ∧ '/' ∉ rest
      · left
        refine ⟨fun h => ?_, ?_, ?_⟩
        · rw [h] at htext
          cases htext
        · rw [htext, List.mem_cons, not_or]
          exact ⟨Ne.symm hslash, hbare.2⟩
        · rw [htext]
          exact fun h => hbare.1 (Option.some.inj h)
      · right
        by_cases hdot : c = '.'
        · rw [hdot]
          exact .inl rfl
        · refine .inr ⟨List.mem_cons_of_mem c ?_, ?_⟩
          · exact Decidable.byContradiction fun hmem => hbare ⟨hdot, hmem⟩
          · simp [List.isPrefixOf, Ne.symm hslash]

/-! ## Spellings -/

/-- What can be written for an identifier. -/
inductive Spells (id : String) : Option String → Prop where
  | fromTop : Spells id (some ("/" ++ id))
  -- As it is, if it starts with a dot, or holds a slash that is not in front.
  | itself (h : Loader.IsIdentifier id.toList) : Spells id (some id)
  -- By its name, if it stands in the default folder.
  | named {name : String} (h : IsBareName name) (hid : id = "./i18n/" ++ name) :
      Spells id (some name)
  -- Not at all, or as nothing, if it is the default one.
  | absent (hid : id = "./i18n/messages") : Spells id none
  | empty (hid : id = "./i18n/messages") : Spells id (some "")

theorem identify_of_spells {id : String} (hne : id ≠ "") {reference : Option String}
    (h : Spells id reference) : (classify reference).identify = .ok ⟨id⟩ := by
  cases h with
  | fromTop => exact identify_slash hne
  | itself h => exact Loader.identify_of_isIdentifier h
  | named h hid =>
    rw [hid]
    exact identify_named h
  | absent hid => rw [hid]; rfl
  | empty hid => rw [hid]; rfl

/-- A reference is a spelling of the identifier it stands for. -/
theorem spells_of_identify {reference : Option String} {id : String}
    (h : (classify reference).identify = .ok ⟨id⟩) : id ≠ "" ∧ Spells id reference := by
  cases reference with
  | none =>
    cases h
    exact ⟨by decide, .absent rfl⟩
  | some text =>
    rcases text_cases text with rfl | ⟨path, rfl⟩ | hbare | hid
    · cases h
      exact ⟨by decide, .empty rfl⟩
    · by_cases hpath : path = ""
      · rw [hpath] at h
        cases h
      · rw [identify_slash hpath] at h
        cases h
        exact ⟨hpath, .fromTop⟩
    · rw [identify_named hbare] at h
      cases h
      refine ⟨fun hempty => ?_, .named hbare rfl⟩
      exact absurd (congrArg String.toList hempty) (by simp [Identifier.defaultFolder])
    · rw [Loader.identify_of_isIdentifier hid] at h
      cases h
      refine ⟨?_, .itself hid⟩
      rintro rfl
      rcases hid with h | ⟨h, -⟩ <;> cases h

/-- The lone slash is the only reference without an identifier. The references that stand for an
identifier are its spellings, and none stands for the empty one. -/
theorem identify_spellings :
    (∀ reference e, (classify reference).identify = .error e ↔
        reference = some "/" ∧ e = .invalidReference .loneSlash) ∧
      (∀ id, id ≠ "" → ∀ reference,
        (classify reference).identify = .ok ⟨id⟩ ↔ Spells id reference) ∧
      ∀ reference, (classify reference).identify ≠ .ok ⟨""⟩ := by
  refine ⟨fun reference e => identify_eq_error_iff, fun id hne reference => ⟨fun h => ?_, ?_⟩,
    fun reference h => ?_⟩
  · exact (spells_of_identify h).2
  · exact identify_of_spells hne
  · exact (spells_of_identify h).1 rfl

/-- The default identifier has a spelling of each kind; without the dot in front it is another one. -/
theorem identify_spellings_default :
    Identifier.default.text ≠ "" ∧
      (∀ reference ∈ [none, some "", some "messages", some "./i18n/messages",
        some "/./i18n/messages"],
        (classify reference).identify = .ok ⟨Identifier.default.text⟩) ∧
      ¬ Spells Identifier.default.text (some "i18n/messages") := by
  have hne : Identifier.default.text ≠ "" := by decide
  have hiff := identify_spellings.2.1 Identifier.default.text hne
  refine ⟨hne, ?_, fun h => ?_⟩
  · simp only [List.forall_mem_cons]
    refine ⟨?_, ?_, ?_, ?_, ?_, by simp⟩
    · exact (hiff _).mpr (.absent rfl)
    · exact (hiff _).mpr (.empty rfl)
    · exact (hiff _).mpr (.named (by decide) (by decide))
    · exact (hiff _).mpr (.itself (.inl rfl))
    · exact (hiff _).mpr .fromTop
  · have hother : (classify (some "i18n/messages")).identify = .ok ⟨"i18n/messages"⟩ := rfl
    rw [(hiff _).mpr h] at hother
    exact absurd (congrArg Identifier.text (Except.ok.inj hother)) (by decide)

end Reference

end MessageBundles

import MessageBundles.Proofs.Module.Ancestors

/-
  Overrides — whether the base stands before a location that an override maps to

  A path is registered without the slashes at its end, and what is left of it is put before the rest of
  an identifier. Whether a location is absolute is asked of that whole, so the slashes of the path do
  not count, and those of the rest do. What is proved:
    1. `isAbsolute_append` — what is written behind a path makes it absolute by its slashes alone, and
       only where the path is empty or ends in a colon.
    2. `owner?_of_maps` — the last registration for the longest prefix is the one that maps.
    3. `locate_override_iff` — exactly when the registered path decides about the base; it does unless
       it is slashes alone, or ends in a colon and slashes.
    4. `locate_of_scheme` — a path that is a scheme and slashes is put behind the base.
-/

namespace MessageBundles.Module

open Text

/-! ## Absolute locations -/

/-- What an absolute location has between its scheme and its host. -/
def schemeMark : List Char := [':', '/', '/']

/-- A mark is in either of two texts, or it starts with the colon at the end of the first one. -/
theorem occursIn_append {path : List Char} (hend : path.getLast? ≠ some '/') (rest : List Char) :
    occursIn schemeMark (path ++ rest) =
      (occursIn schemeMark path || (path.getLast? == some ':' && ['/', '/'].isPrefixOf rest) ||
        occursIn schemeMark rest) := by
  induction path with
  | nil => rfl
  | cons c others ih =>
    cases others with
    | nil =>
      have hcolon : (':' == c) = (some c == some ':') := Bool.beq_comm
      rw [List.singleton_append, occursIn, occursIn, List.getLast?_singleton, ← hcolon]
      simp [schemeMark, List.isPrefixOf, occursIn]
    | cons d others =>
      rw [List.cons_append, occursIn, occursIn, ih (by simpa using hend), List.getLast?_cons_cons]
      have hstart : schemeMark.isPrefixOf (c :: (d :: others ++ rest)) =
          schemeMark.isPrefixOf (c :: d :: others) := by
        cases others with
        | nil =>
          have hd : ('/' == d) = false := beq_eq_false_iff_ne.mpr fun heq => hend (heq ▸ rfl)
          simp [schemeMark, List.isPrefixOf, hd]
        | cons e others => simp [schemeMark, List.isPrefixOf]
      rw [hstart, Bool.or_assoc, Bool.or_assoc, Bool.or_assoc]

theorem occursIn_of_not_mem {cs : List Char} (h : ':' ∉ cs) : occursIn schemeMark cs = false := by
  induction cs with
  | nil => rfl
  | cons c rest ih =>
    rw [List.mem_cons, not_or] at h
    have hc : (':' == c) = false := beq_eq_false_iff_ne.mpr h.1
    rw [occursIn, ih h.2]
    simp [schemeMark, List.isPrefixOf, hc]

/-- Whether what is written behind a path starts with the slashes that the path needs to be absolute. -/
def opens (path rest : List Char) : Bool :=
  (path.isEmpty && ['/'].isPrefixOf rest) ||
    (path.getLast? == some ':' && ['/', '/'].isPrefixOf rest)

/-- What is written behind a path makes it absolute by its slashes alone. -/
theorem isAbsolute_append {path rest : List Char} (hend : path.getLast? ≠ some '/')
    (hrest : occursIn schemeMark rest = false) :
    Locator.isAbsolute (path ++ rest) = (Locator.isAbsolute path || opens path rest) := by
  have hmark := occursIn_append hend rest
  rw [hrest, Bool.or_false] at hmark
  unfold Locator.isAbsolute opens
  rw [show [':', '/', '/'] = schemeMark from rfl, hmark]
  cases path with
  | nil => simp [occursIn, schemeMark, List.isPrefixOf]
  | cons c others => simp [List.isPrefixOf, Bool.or_assoc]

/-! ## The registration that maps -/

namespace Resolver

/-- Whether the registration of a path for a prefix is the one that maps an identifier: the last one for
this prefix, which owns the identifier, as no longer registered prefix does. -/
structure Maps (l : List (String × String)) (pre path : String) (id : List Char) : Prop where
  last : ∃ before after, l = before ++ (pre, path) :: after ∧
    ∀ e ∈ after, dropSlashes e.1 ≠ dropSlashes pre
  owns : owns (dropSlashes pre).toList id = true
  longest : ∀ e ∈ l, Module.owns (dropSlashes e.1).toList id = true →
    (dropSlashes e.1).toList.length ≤ (dropSlashes pre).toList.length

section Registrations
variable {base : String} {l : List (String × String)} {parent : Option String} {pre path : String}
  {id : List Char}

theorem registered?_of_last (h : ∃ before after, l = before ++ (pre, path) :: after ∧
    ∀ e ∈ after, dropSlashes e.1 ≠ dropSlashes pre) :
    registered? l (dropSlashes pre).toList = some (dropSlashes path).toList := by
  obtain ⟨before, after, rfl, hafter⟩ := h
  have hnone : after.reverse.find? (fun e => (dropSlashes e.1).toList = (dropSlashes pre).toList) =
      none := by
    rw [List.find?_eq_none]
    intro e he
    rw [decide_eq_true_iff, String.toList_inj]
    exact hafter e (List.mem_reverse.mp he)
  rw [registered?, List.reverse_append, List.reverse_cons, List.append_assoc, List.find?_append, hnone,
    Option.none_or, List.singleton_append, List.find?_cons_of_pos (by simp)]
  rfl

theorem exists_of_registered? {a b : List Char} (h : registered? l a = some b) :
    ∃ e ∈ l, (dropSlashes e.1).toList = a := by
  obtain ⟨e, he, -⟩ := Option.map_eq_some_iff.mp h
  have hstart := List.find?_some he
  exact ⟨e, List.mem_reverse.mp (List.mem_of_find?_eq_some he), of_decide_eq_true hstart⟩

theorem eq_of_owns {a b : List Char} (ha : Module.owns a id = true) (hb : Module.owns b id = true)
    (hlength : a.length = b.length) : a = b := by
  have hstart : ∀ {c}, Module.owns c id = true → c <+: id := by
    intro c hc
    rcases owns_iff.mp hc with rfl | ⟨rest, rfl⟩
    · exact List.prefix_rfl
    · exact List.prefix_append c _
  exact (List.prefix_of_prefix_length_le (hstart ha) (hstart hb) (Nat.le_of_eq hlength)).eq_of_length
    hlength

/-- A resolver takes the registration that maps an identifier. -/
theorem owner?_of_maps (h : Maps l pre path id) :
    (ofRegistrations base l parent).owner? id = some (dropSlashes pre, dropSlashes path) := by
  have hregistered := registered?_of_last h.last
  have hmem : (dropSlashes pre, dropSlashes path) ∈
      (ofRegistrations base l parent).overrides.entries := mem_overrides_iff.mpr hregistered
  cases howner : (ofRegistrations base l parent).owner? id with
  | none =>
    have hnot := owner?_eq_none_iff.mp howner _ hmem
    rw [h.owns] at hnot
    cases hnot
  | some e =>
    obtain ⟨⟨he, howns⟩, hlongest⟩ := owner?_longest howner
    have hother := mem_overrides_iff.mp he
    obtain ⟨f, hf, hstart⟩ := exists_of_registered? hother
    have hle := h.longest f hf (by rw [hstart]; exact howns)
    rw [hstart] at hle
    have hge : (dropSlashes pre).toList.length ≤ e.1.toList.length :=
      hlongest (dropSlashes pre, dropSlashes path) hmem h.owns
    have hpre : e.1 = dropSlashes pre :=
      String.toList_inj.mp (eq_of_owns howns h.owns (Nat.le_antisymm hle hge))
    rw [hpre, hregistered, Option.some.injEq, String.toList_inj] at hother
    rw [hother, ← hpre]

theorem base_ofRegistrations :
    (ofRegistrations base l parent).base.toList = closeBase base.toList := by
  rw [show (ofRegistrations base l parent).base = _ from base_overrideMany (ofBase base) l]
  exact String.toList_ofList

/-! ## Locations -/

/-- What stands in an identifier behind a prefix. -/
def restBehind (pre : String) (id : List Char) : List Char := id.drop (dropSlashes pre).toList.length

/-- What stands at the end of a path and is not registered with it. -/
def slashesOf (path : String) : List Char := path.toList.drop (dropSlashes path).toList.length

def mappedTo (pre path : String) (id : List Char) : List Char :=
  (dropSlashes path).toList ++ restBehind pre id

/-- The location an override maps to, with the base before it unless the path is absolute as it was
registered. -/
def locatedBy (base pre path : String) (id : List Char) : List Char :=
  if Locator.isAbsolute path.toList then mappedTo pre path id
  else closeBase base.toList ++ mappedTo pre path id

theorem locateResolved_of_maps
    (hplain : (['.'].isPrefixOf id || Locator.isAbsolute id) = false) (h : Maps l pre path id) :
    (ofRegistrations base l parent).locateResolved id =
      if Locator.isAbsolute (mappedTo pre path id) then mappedTo pre path id
      else closeBase base.toList ++ mappedTo pre path id := by
  rw [locateResolved, hplain, if_neg Bool.false_ne_true, owner?_of_maps h, base_ofRegistrations]
  rfl

theorem getLast?_dropSlashes (s : String) : (dropSlashes s).toList.getLast? ≠ some '/' := by
  intro hlast
  rw [dropSlashes, String.toList_ofList] at hlast
  exact absurd (getLast?_dropEndWhile _ _ '/' hlast) (by decide)

theorem append_slashesOf (path : String) :
    (dropSlashes path).toList ++ slashesOf path = path.toList ∧ ':' ∉ slashesOf path := by
  obtain ⟨ending, heq, hending⟩ := dropEndWhile_append (· == '/') path.toList
  have hpath : path.toList = (dropSlashes path).toList ++ ending := by
    rw [dropSlashes, String.toList_ofList]
    exact heq
  have hslashes : slashesOf path = ending := by rw [slashesOf, hpath, List.drop_left]
  rw [hslashes]
  exact ⟨hpath.symm, fun hcolon => absurd (hending ':' hcolon) (by decide)⟩

/-- A registered path is absolute by what is kept of it, or by its slashes. -/
theorem isAbsolute_path (path : String) : Locator.isAbsolute path.toList =
    (Locator.isAbsolute (dropSlashes path).toList ||
      opens (dropSlashes path).toList (slashesOf path)) := by
  obtain ⟨hpath, hcolon⟩ := append_slashesOf path
  rw [← isAbsolute_append (getLast?_dropSlashes path) (occursIn_of_not_mem hcolon), hpath]

/-- A location is absolute by what is kept of the path, or by the slashes of the rest. -/
theorem isAbsolute_mappedTo (hplain : (['.'].isPrefixOf id || Locator.isAbsolute id) = false)
    (howns : Module.owns (dropSlashes pre).toList id = true) :
    Locator.isAbsolute (mappedTo pre path id) =
      (Locator.isAbsolute (dropSlashes path).toList ||
        opens (dropSlashes path).toList (restBehind pre id)) := by
  have hid : id = (dropSlashes pre).toList ++ restBehind pre id := by
    rcases owns_iff.mp howns with heq | ⟨rest, hrest⟩
    · rw [restBehind, heq, List.drop_length, List.append_nil]
    · rw [restBehind, hrest, List.drop_left]
  have hmark : occursIn schemeMark id = false :=
    (Bool.or_eq_false_iff.mp (Bool.or_eq_false_iff.mp hplain).2).2
  rw [hid, occursIn_append (getLast?_dropSlashes pre), Bool.or_eq_false_iff] at hmark
  exact isAbsolute_append (getLast?_dropSlashes path) hmark.2

/-- A choice between a text and the text behind a base falls the same way for two conditions exactly if
these are equal, or there is no base. -/
theorem ite_append_eq_iff {a b : Bool} {start cs : List Char} :
    (if a then cs else start ++ cs) = (if b then cs else start ++ cs) ↔ start = [] ∨ a = b := by
  have hself : cs = start ++ cs ↔ start = [] := List.self_eq_append_left
  have hother : start ++ cs = cs ↔ start = [] := List.append_left_eq_self
  cases a <;> cases b <;> simp [hself, hother]

theorem closeBase_eq_nil_iff {cs : List Char} : closeBase cs = [] ↔ cs = [] := by
  unfold closeBase
  split
  · rfl
  · rename_i h
    simp [not_or.mp h]

/-- An override decides about the base by the path it was registered with, exactly if there is no base,
or the path is absolute without the slashes at its end, or these slashes and those of the rest make of
it the same. So it does for every path that has more in it than slashes, and no colon in front of
them. -/
theorem locate_override_iff {resolved : List Char}
    (hresolve : (ofRegistrations base l parent).resolve id = resolved)
    (hplain : (['.'].isPrefixOf resolved || Locator.isAbsolute resolved) = false)
    (h : Maps l pre path resolved) :
    ((ofRegistrations base l parent).locate id = locatedBy base pre path resolved ↔
      base = "" ∨ Locator.isAbsolute (dropSlashes path).toList = true ∨
        opens (dropSlashes path).toList (restBehind pre resolved) =
          opens (dropSlashes path).toList (slashesOf path)) ∧
    ((dropSlashes path).toList ≠ [] → (dropSlashes path).toList.getLast? ≠ some ':' →
      (ofRegistrations base l parent).locate id = locatedBy base pre path resolved) := by
  have hlocate : (ofRegistrations base l parent).locate id = locatedBy base pre path resolved ↔
      base = "" ∨ Locator.isAbsolute (dropSlashes path).toList = true ∨
        opens (dropSlashes path).toList (restBehind pre resolved) =
          opens (dropSlashes path).toList (slashesOf path) := by
    rw [locate, hresolve, locateResolved_of_maps hplain h, locatedBy, ite_append_eq_iff,
      closeBase_eq_nil_iff, String.toList_eq_nil_iff, isAbsolute_mappedTo hplain h.owns,
      isAbsolute_path path]
    apply or_congr_right
    cases Locator.isAbsolute (dropSlashes path).toList <;> simp
  refine ⟨hlocate, fun hne hcolon => hlocate.mpr (.inr (.inr ?_))⟩
  have hclosed : ∀ rest, opens (dropSlashes path).toList rest = false := by
    intro rest
    rw [opens, List.isEmpty_eq_false_iff.mpr hne, beq_eq_false_iff_ne.mpr hcolon]
    rfl
  rw [hclosed, hclosed]

end Registrations

/-- A longer prefix has a path of its own, which ends in a colon and one slash. -/
theorem locate_override_iff_colon :
    Maps [("a/", "x"), ("a/b", "c:/"), ("d", "/")] "a/b" "c:/" "a/b/m".toList ∧
      (ofRegistrations "lib" [("a/", "x"), ("a/b", "c:/"), ("d", "/")] (some "a/p/q")).locate
          "../b/m".toList =
        locatedBy "lib" "a/b" "c:/" "a/b/m".toList ∧
      locatedBy "lib" "a/b" "c:/" "a/b/m".toList = "lib/c:/m".toList := by
  have hmaps : Maps [("a/", "x"), ("a/b", "c:/"), ("d", "/")] "a/b" "c:/" "a/b/m".toList :=
    ⟨⟨[("a/", "x")], [("d", "/")], rfl, by decide⟩, by decide, by decide⟩
  have hresolve : (ofRegistrations "lib" [("a/", "x"), ("a/b", "c:/"), ("d", "/")]
      (some "a/p/q")).resolve "../b/m".toList = "a/b/m".toList := by decide
  obtain ⟨hiff, -⟩ := locate_override_iff hresolve (by decide) hmaps
  exact ⟨hmaps, hiff.mpr (.inr (.inr (by decide))), by decide⟩

/-- A path that is a scheme with its slashes is absolute as it was registered, but is put behind the
base. -/
theorem locate_of_scheme :
    Maps [("a", "file:///")] "a" "file:///" "a/x".toList ∧
      Locator.isAbsolute "file:///".toList = true ∧
      locatedBy "./" "a" "file:///" "a/x".toList = "file:/x".toList ∧
      (ofRegistrations "./" [("a", "file:///")] none).locate "a/x".toList = "./file:/x".toList :=
  ⟨⟨⟨[], [], rfl, by decide⟩, by decide, by decide⟩, by decide, by decide, by decide⟩

end Resolver

end MessageBundles.Module

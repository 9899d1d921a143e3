import MessageBundles.Module.Resolver
import MessageBundles.Proofs.Text.Pieces

/-
  Ancestors — the override of a module, looked up from the module itself upwards

  The ancestors of an identifier are the identifier and what of it stands before each of its slashes.
  A resolver takes the longest of the prefixes that own an identifier; the same override is met first on
  the way through the ancestors, the longest first. What is proved:
    1. `mem_ancestors_iff` — the ancestors of an identifier are the prefixes that own it.
    2. `owner?_longest` — the owner a resolver takes is registered, and no registered owner is longer.
    3. `owner?_eq_nearest?` — it is the first ancestor with a registration, with the path that was
       registered for it last.
    4. `locate_eq_walk` — the location of an identifier by that walk, and that the order of
       registrations for different prefixes does not matter to it.
-/

namespace MessageBundles.Module

open Text

/-- An identifier and what of it stands before each of its slashes, the longest first. -/
def ancestors (id : List Char) : List (List Char) :=
  id :: ((List.range id.length).reverse.filter fun n => id[n]? = some '/').map id.take

theorem owns_iff {pre id : List Char} :
    owns pre id = true ↔ pre = id ∨ ∃ rest, id = pre ++ '/' :: rest := by
  simp only [owns, Bool.and_eq_true, Bool.or_eq_true, List.isEmpty_iff, List.isPrefixOf_iff_prefix]
  constructor
  · rintro ⟨⟨rest, rfl⟩, h⟩
    rw [List.drop_left] at h
    rcases h with rfl | ⟨tail, htail⟩
    · exact .inl (List.append_nil pre).symm
    · exact .inr ⟨tail, by rw [← htail]; rfl⟩
  · rintro (rfl | ⟨rest, rfl⟩)
    · exact ⟨List.prefix_refl pre, .inl List.drop_length⟩
    · refine ⟨List.prefix_append pre _, .inr ?_⟩
      rw [List.drop_left]
      exact ⟨rest, rfl⟩

/-- The ancestors of an identifier are the prefixes that own it. -/
theorem mem_ancestors_iff {pre id : List Char} : pre ∈ ancestors id ↔ owns pre id = true := by
  rw [owns_iff, ancestors, List.mem_cons]
  apply or_congr_right
  simp only [List.mem_map, List.mem_filter, List.mem_reverse, List.mem_range, decide_eq_true_eq]
  constructor
  · rintro ⟨n, ⟨hn, hslash⟩, rfl⟩
    refine ⟨id.drop (n + 1), ?_⟩
    rw [List.getElem?_eq_getElem hn, Option.some.injEq] at hslash
    rw [← hslash, ← List.drop_eq_getElem_cons hn, List.take_append_drop]
  · rintro ⟨rest, rfl⟩
    refine ⟨pre.length, ⟨by simp, by simp⟩, List.take_left⟩

theorem pairwise_ancestors (id : List Char) :
    (ancestors id).Pairwise fun a b => b.length < a.length := by
  have hshorter : ∀ n < id.length, (id.take n).length = n := by
    intro n hn
    rw [List.length_take, Nat.min_eq_left (Nat.le_of_lt hn)]
  have hlt : ∀ n ∈ (List.range id.length).reverse.filter (fun n => id[n]? = some '/'),
      n < id.length :=
    fun n hn => List.mem_range.mp (List.mem_reverse.mp (List.mem_filter.mp hn).1)
  refine List.pairwise_cons.mpr ⟨?_, List.pairwise_map.mpr ?_⟩
  · rintro _ hmem
    obtain ⟨n, hn, rfl⟩ := List.mem_map.mp hmem
    rw [hshorter n (hlt n hn)]
    exact hlt n hn
  · refine List.Pairwise.imp_of_mem ?_ (List.Pairwise.filter _
      (List.pairwise_reverse.mpr List.pairwise_lt_range))
    intro a b ha hb hab
    rw [hshorter a (hlt a ha), hshorter b (hlt b hb)]
    exact hab

/-- An empty segment makes an ancestor that no registered prefix can be. -/
example : ancestors "a//b".toList = ["a//b".toList, "a/".toList, "a".toList] := by decide

namespace Resolver

/-! ## The owner a resolver takes -/

theorem foldl_longer_mem (e : String × String) (l : List (String × String)) :
    l.foldl longer e ∈ e :: l := by
  induction l generalizing e with
  | nil => exact List.mem_singleton_self e
  | cons f rest ih =>
    rw [List.foldl_cons]
    rcases List.mem_cons.mp (ih (longer e f)) with h | h
    · rw [h, longer]
      split <;> simp
    · exact List.mem_cons_of_mem e (List.mem_cons_of_mem f h)

theorem length_le_foldl_longer (e : String × String) (l : List (String × String)) :
    ∀ f ∈ e :: l, f.1.toList.length ≤ (l.foldl longer e).1.toList.length := by
  induction l generalizing e with
  | nil => simp
  | cons g rest ih =>
    have hfirst := ih (longer e g) (longer e g) List.mem_cons_self
    have hlonger : e.1.toList.length ≤ (longer e g).1.toList.length ∧
        g.1.toList.length ≤ (longer e g).1.toList.length := by
      unfold longer
      split <;> omega
    intro f hf
    rw [List.foldl_cons]
    rcases List.mem_cons.mp hf with rfl | hf
    · exact Nat.le_trans hlonger.1 hfirst
    · rcases List.mem_cons.mp hf with rfl | hf
      · exact Nat.le_trans hlonger.2 hfirst
      · exact ih (longer e g) f (List.mem_cons_of_mem _ hf)

theorem owner?_eq_none_iff {r : Resolver} {id : List Char} :
    r.owner? id = none ↔ ∀ e ∈ r.overrides.entries, owns e.1.toList id = false := by
  unfold owner?
  cases hfilter : r.overrides.entries.filter (fun e => owns e.1.toList id) with
  | nil =>
    have hnone := List.filter_eq_nil_iff.mp hfilter
    exact ⟨fun _ e he => Bool.eq_false_iff.mpr (hnone e he), fun _ => rfl⟩
  | cons e rest =>
    have he : e ∈ r.overrides.entries.filter (fun e => owns e.1.toList id) := by
      rw [hfilter]
      exact List.mem_cons_self
    constructor
    · rintro ⟨⟩
    · intro h
      have howns := (List.mem_filter.mp he).2
      rw [h e (List.mem_filter.mp he).1] at howns
      cases howns

/-- The owner a resolver takes is registered, and no registered owner is longer. -/
theorem owner?_longest {r : Resolver} {id : List Char} {e : String × String}
    (h : r.owner? id = some e) :
    (e ∈ r.overrides.entries ∧ owns e.1.toList id = true) ∧
      ∀ f ∈ r.overrides.entries, owns f.1.toList id = true →
        f.1.toList.length ≤ e.1.toList.length := by
  unfold owner? at h
  split at h
  · cases h
  · rename_i first rest hfilter
    cases h
    have hmem := foldl_longer_mem first rest
    have hlongest := length_le_foldl_longer first rest
    rw [← hfilter] at hmem hlongest
    exact ⟨List.mem_filter.mp hmem, fun f hf howns => hlongest f (List.mem_filter.mpr ⟨hf, howns⟩)⟩

/-! ## The nearest registration -/

/-- The path of the last registration for a prefix, both without slashes at their ends. -/
def registered? (l : List (String × String)) (pre : List Char) : Option (List Char) :=
  (l.reverse.find? fun e => (dropSlashes e.1).toList = pre).map fun e => (dropSlashes e.2).toList

/-- The first ancestor of an identifier that paths are registered for, with the last one of these. -/
def nearest? (l : List (String × String)) (id : List Char) : Option (List Char × List Char) :=
  (ancestors id).findSome? fun pre => (registered? l pre).map fun path => (pre, path)

theorem overrides_overrideMany (r : Resolver) (l : List (String × String)) :
    (r.overrideMany l).overrides =
      r.overrides.insertMany (l.map fun e => (dropSlashes e.1, dropSlashes e.2)) := by
  induction l generalizing r with
  | nil => rfl
  | cons e rest ih => exact ih (r.override e.1 e.2)

theorem find?_overrides (base : String) (l : List (String × String)) (pre : String) :
    ((ofBase base).overrideMany l).overrides.find? pre =
      (registered? l pre.toList).map String.ofList := by
  have hfind : ∀ l : List (String × String),
      Dict.findEntry pre (l.map fun e => (dropSlashes e.1, dropSlashes e.2)) =
        (l.find? fun e => (dropSlashes e.1).toList = pre.toList).map fun e => dropSlashes e.2 := by
    intro l
    induction l with
    | nil => rfl
    | cons e rest ih =>
      by_cases h : pre = dropSlashes e.1
      · simp [Dict.findEntry, h]
      · simp [Dict.findEntry, h, ih, String.toList_inj, Ne.symm h]
  have hempty : (ofBase base).overrides.find? pre = none := rfl
  have hpath : (String.ofList ∘ fun e : String × String => (dropSlashes e.2).toList) =
      fun e => dropSlashes e.2 := funext fun e => String.ofList_toList
  rw [overrides_overrideMany, Dict.find?_insertMany, hempty, Option.or_none, ← List.map_reverse, hfind,
    registered?, Option.map_map, hpath]

/-- What paths are registered for a prefix depends on its own registrations alone. -/
theorem registered?_congr {l other : List (String × String)}
    (h : ∀ pre, l.filter (fun e => dropSlashes e.1 = pre) = other.filter (fun e => dropSlashes e.1 = pre))
    (pre : List Char) : registered? l pre = registered? other pre := by
  have hpre : (fun e : String × String => decide ((dropSlashes e.1).toList = pre)) =
      fun e => decide (dropSlashes e.1 = String.ofList pre) := by
    funext e
    rw [decide_eq_decide, ← String.toList_inj, String.toList_ofList]
  have hlast : ∀ l : List (String × String), registered? l pre =
      (l.filter fun e => dropSlashes e.1 = String.ofList pre).reverse.head?.map
        fun e => (dropSlashes e.2).toList := by
    intro l
    rw [registered?, hpre, ← List.head?_filter, List.filter_reverse]
  rw [hlast, hlast, h]

section Registrations
variable {base : String} {l : List (String × String)} {parent : Option String} {id : List Char}

/-- A resolver with a base, registrations one after the other, and perhaps a parent. -/
def ofRegistrations (base : String) (l : List (String × String)) (parent : Option String) : Resolver :=
  { (ofBase base).overrideMany l with parent := parent }

theorem mem_overrides_iff {pre path : String} :
    (pre, path) ∈ (ofRegistrations base l parent).overrides.entries ↔
      registered? l pre.toList = some path.toList := by
  rw [← Dict.findEntry_eq_some_iff (Dict.pairwise_ne _)]
  have h := find?_overrides base l pre
  rw [show Dict.findEntry pre (ofRegistrations base l parent).overrides.entries = _ from h]
  cases registered? l pre.toList with
  | none => simp
  | some q =>
    rw [Option.map_some, Option.some.injEq, Option.some.injEq, ← String.toList_inj,
      String.toList_ofList]

theorem mem_overrides_of_registered? {pre path : List Char} (h : registered? l pre = some path) :
    (String.ofList pre, String.ofList path) ∈ (ofRegistrations base l parent).overrides.entries := by
  rw [mem_overrides_iff, String.toList_ofList, String.toList_ofList, h]

theorem registered?_of_owner?_none (h : (ofRegistrations base l parent).owner? id = none)
    {pre : List Char} (hpre : pre ∈ ancestors id) : registered? l pre = none := by
  cases hreg : registered? l pre with
  | none => rfl
  | some path =>
    have howns := owner?_eq_none_iff.mp h _ (mem_overrides_of_registered? hreg)
    rw [String.toList_ofList, mem_ancestors_iff.mp hpre] at howns
    cases howns

/-- An ancestor longer than the owner is not registered, or the resolver would have taken it. -/
theorem registered?_of_longer {e : String × String}
    (h : (ofRegistrations base l parent).owner? id = some e) {pre : List Char}
    (hpre : pre ∈ ancestors id) (hlonger : e.1.toList.length < pre.length) :
    registered? l pre = none := by
  cases hreg : registered? l pre with
  | none => rfl
  | some path =>
    have hle := (owner?_longest h).2 _ (mem_overrides_of_registered? hreg)
    rw [String.toList_ofList] at hle
    exact absurd hlonger (Nat.not_lt.mpr (hle (mem_ancestors_iff.mp hpre)))

/-- The owner a resolver takes is the nearest ancestor with a registration. -/
theorem owner?_eq_nearest? :
    ((ofRegistrations base l parent).owner? id).map (fun e => (e.1.toList, e.2.toList)) =
      nearest? l id := by
  cases howner : (ofRegistrations base l parent).owner? id with
  | none =>
    refine (List.findSome?_eq_none_iff.mpr fun pre hpre => ?_).symm
    rw [registered?_of_owner?_none howner hpre]
    rfl
  | some e =>
    obtain ⟨hmem, howns⟩ := (owner?_longest howner).1
    obtain ⟨before, after, hsplit⟩ := List.append_of_mem (mem_ancestors_iff.mpr howns)
    have hpairs := pairwise_ancestors id
    rw [hsplit] at hpairs
    have hnone : before.findSome? (fun pre => (registered? l pre).map fun path => (pre, path)) =
        none := by
      refine List.findSome?_eq_none_iff.mpr fun pre hpre => ?_
      have hlonger : e.1.toList.length < pre.length :=
        (List.pairwise_append.mp hpairs).2.2 pre hpre _ List.mem_cons_self
      have hancestor : pre ∈ ancestors id := by
        rw [hsplit]
        exact List.mem_append_left _ hpre
      rw [registered?_of_longer howner hancestor hlonger]
      rfl
    rw [nearest?, hsplit, List.findSome?_append, hnone, Option.none_or, List.findSome?_cons,
      mem_overrides_iff.mp hmem]
    rfl

/-- The location of an identifier without a dot in front that is not absolute, by a walk through its
ancestors. -/
def locateFrom (base : List Char) (l : List (String × String)) (id : List Char) : List Char :=
  match nearest? l id with
  | none => base ++ id
  | some (pre, path) =>
    let mapped := path ++ id.drop pre.length
    if Locator.isAbsolute mapped then mapped else base ++ mapped

theorem base_overrideMany (r : Resolver) (l : List (String × String)) :
    (r.overrideMany l).base = r.base := by
  induction l generalizing r with
  | nil => rfl
  | cons e rest ih => exact ih (r.override e.1 e.2)

theorem locateResolved_eq_locateFrom (base : String) (l : List (String × String))
    (parent : Option String) (id : List Char) :
    (ofRegistrations base l parent).locateResolved id =
      if ['.'].isPrefixOf id || Locator.isAbsolute id then id
      else locateFrom (closeBase base.toList) l id := by
  have hbase : (ofRegistrations base l parent).base.toList = closeBase base.toList := by
    rw [show (ofRegistrations base l parent).base = _ from base_overrideMany (ofBase base) l]
    exact String.toList_ofList
  rw [locateResolved, locateFrom, ← @owner?_eq_nearest? base l parent id, hbase]
  cases (ofRegistrations base l parent).owner? id <;> rfl

end Registrations

/-- A location is found by a walk through the ancestors of the resolved identifier, the longest first:
the first one with a registration is replaced by the path registered for it last. So the order of
registrations for different prefixes does not matter. -/
theorem locate_eq_walk (base : String) (l : List (String × String)) (parent : Option String)
    (id : List Char) :
    ((ofRegistrations base l parent).locate id =
      let resolved := (ofRegistrations base l parent).resolve id
      if ['.'].isPrefixOf resolved || Locator.isAbsolute resolved then resolved
      else locateFrom (closeBase base.toList) l resolved) ∧
    ∀ other : List (String × String),
      (∀ pre, l.filter (fun e => dropSlashes e.1 = pre) =
        other.filter (fun e => dropSlashes e.1 = pre)) →
      (ofRegistrations base other parent).locate id = (ofRegistrations base l parent).locate id := by
  refine ⟨locateResolved_eq_locateFrom base l parent _, fun other hother => ?_⟩
  have hfrom : ∀ id, locateFrom (closeBase base.toList) other id =
      locateFrom (closeBase base.toList) l id := by
    intro id
    simp only [locateFrom, nearest?, registered?_congr hother]
  have hresolve : (ofRegistrations base other parent).resolve id =
      (ofRegistrations base l parent).resolve id := rfl
  rw [locate_eq_locateResolved, locate_eq_locateResolved, locateResolved_eq_locateFrom,
    locateResolved_eq_locateFrom, hresolve, hfrom]

/-- Registrations for a longer prefix may come before or after those for a shorter one. -/
theorem locate_eq_walk_reordered :
    (∀ pre, [("a/b", "x"), ("a/", "y"), ("a", "z/")].filter (fun e => dropSlashes e.1 = pre) =
      [("a/", "y"), ("a", "z/"), ("a/b", "x")].filter (fun e => dropSlashes e.1 = pre)) ∧
    (ofRegistrations "lib" [("a/b", "x"), ("a/", "y"), ("a", "z/")] none).locate "a/bc/d".toList =
      "lib/z/bc/d".toList ∧
    (ofRegistrations "lib" [("a/", "y"), ("a", "z/"), ("a/b", "x")] none).locate "a/bc/d".toList =
      "lib/z/bc/d".toList := by
  have hfilter : ∀ pre, [("a/b", "x"), ("a/", "y"), ("a", "z/")].filter
        (fun e => dropSlashes e.1 = pre) =
      [("a/", "y"), ("a", "z/"), ("a/b", "x")].filter (fun e => dropSlashes e.1 = pre) := by
    intro pre
    have hlong : dropSlashes "a/b" = "a/b" := by decide
    have hshort : dropSlashes "a/" = "a" ∧ dropSlashes "a" = "a" := by decide
    by_cases h : "a" = pre
    · subst h
      simp [List.filter, hlong, hshort]
    · simp [List.filter, hlong, hshort, h]
  obtain ⟨hlocate, horder⟩ := locate_eq_walk "lib" [("a/b", "x"), ("a/", "y"), ("a", "z/")] none
    "a/bc/d".toList
  have hwalk := hlocate.trans (show _ = "lib/z/bc/d".toList from by decide)
  exact ⟨hfilter, hwalk, (horder _ hfilter).trans hwalk⟩

end Resolver

end MessageBundles.Module

/-
  Dictionaries — finite maps from strings, kept in the order of their keys

  The entries of a dictionary stand in strictly increasing order of their keys, by code point, so a
  dictionary is determined by what it holds and its entries have one order, whatever the order they
  were written in. The main statements:
    1. `find?_insert` — after a write the key holds the value and every other key what it held.
    2. `find?_ofList` — a dictionary made from a list holds, for each key, the last value listed.
    3. `ext_find?` — two dictionaries with the same look-ups are equal.
    4. `ofList_entries` — a dictionary is made again from its entries.
    5. `ofList_of_perm` — entries of different keys make one dictionary in whatever order they come.

  Correspondence:
    the maps of `MessageBundle` and `MemoryFetcher` ↔ `Dict String`
    `LoaderConfig::paths`, the variables            ↔ `Dict String`
-/

namespace MessageBundles

/-- A finite map from strings, its entries in increasing order of their keys. -/
structure Dict (α : Type) where
  entries : List (String × α)
  sorted : entries.Pairwise (fun a b => a.1 < b.1)

namespace Dict

variable {α β : Type}

/-- Write a value into an ordered list of entries; a value already there is replaced. -/
def insertEntry (key : String) (value : α) : List (String × α) → List (String × α)
  | [] => [(key, value)]
  | (k, v) :: rest =>
    if key < k then (key, value) :: (k, v) :: rest
    else if key = k then (key, value) :: rest
    else (k, v) :: insertEntry key value rest

def findEntry (key : String) : List (String × α) → Option α
  | [] => none
  | (k, v) :: rest => if key = k then some v else findEntry key rest

/-! ## The order of the entries -/

theorem mem_insertEntry {key : String} {value : α} {e : String × α} {l : List (String × α)}
    (h : e ∈ insertEntry key value l) : e = (key, value) ∨ e ∈ l := by
  induction l with
  | nil => simpa [insertEntry] using h
  | cons head rest ih =>
    obtain ⟨k, v⟩ := head
    simp only [insertEntry] at h
    split at h
    · simpa using h
    · split at h
      · simp only [List.mem_cons] at h ⊢
        rcases h with h | h
        · exact .inl h
        · exact .inr (.inr h)
      · simp only [List.mem_cons] at h ⊢
        rcases h with h | h
        · exact .inr (.inl h)
        · rcases ih h with h | h
          · exact .inl h
          · exact .inr (.inr h)

theorem sorted_insertEntry {key : String} {value : α} {l : List (String × α)}
    (h : l.Pairwise (fun a b => a.1 < b.1)) :
    (insertEntry key value l).Pairwise (fun a b => a.1 < b.1) := by
  induction l with
  | nil => simp [insertEntry]
  | cons head rest ih =>
    obtain ⟨k, v⟩ := head
    rw [List.pairwise_cons] at h
    simp only [insertEntry]
    split
    · rename_i hlt
      refine List.pairwise_cons.mpr ⟨?_, List.pairwise_cons.mpr h⟩
      intro e he
      rcases List.mem_cons.mp he with rfl | he
      · exact hlt
      · exact String.lt_trans hlt (h.1 e he)
    · split
      · rename_i hk
        subst hk
        exact List.pairwise_cons.mpr h
      · rename_i hnlt hne
        refine List.pairwise_cons.mpr ⟨?_, ih h.2⟩
        intro e he
        rcases mem_insertEntry he with rfl | he
        · have hle : k ≤ key := String.not_lt.mp hnlt
          refine Decidable.byContradiction fun hn => hne ?_
          exact String.le_antisymm (String.not_lt.mp hn) hle
        · exact h.1 e he

/-! ## Operations -/

def empty : Dict α := ⟨[], .nil⟩

instance : Inhabited (Dict α) := ⟨empty⟩

def insert (d : Dict α) (key : String) (value : α) : Dict α :=
  ⟨insertEntry key value d.entries, sorted_insertEntry d.sorted⟩

def find? (d : Dict α) (key : String) : Option α := findEntry key d.entries

def contains (d : Dict α) (key : String) : Bool := (d.find? key).isSome

/-- Write the entries of a list one after the other, so that the last value listed for a key wins. -/
def insertMany (d : Dict α) (l : List (String × α)) : Dict α :=
  l.foldl (fun d e => d.insert e.1 e.2) d

/-- The dictionary of a list of entries; of several values for one key the last one counts. -/
def ofList (l : List (String × α)) : Dict α := empty.insertMany l

def keys (d : Dict α) : List String := d.entries.map (·.1)

def size (d : Dict α) : Nat := d.entries.length

def isEmpty (d : Dict α) : Bool := d.entries.isEmpty

instance [DecidableEq α] : DecidableEq (Dict α) := fun a b =>
  if h : a.entries = b.entries then
    isTrue (by cases a; cases b; cases h; rfl)
  else isFalse (fun hab => h (hab ▸ rfl))

/-! ## Looking up -/

theorem findEntry_insertEntry (key other : String) (value : α) (l : List (String × α)) :
    findEntry other (insertEntry key value l) =
      if other = key then some value else findEntry other l := by
  induction l with
  | nil => simp [insertEntry, findEntry]
  | cons head rest ih =>
    obtain ⟨k, v⟩ := head
    simp only [insertEntry]
    split
    · simp [findEntry]
    · split
      · rename_i hk
        subst hk
        by_cases h : other = key <;> simp [findEntry, h]
      · rename_i hne
        simp only [findEntry, ih]
        by_cases h : other = k
        · subst h
          simp [Ne.symm hne]
        · simp [h]

/-- After a write the key holds the value, and every other key what it held. -/
theorem find?_insert (d : Dict α) (key other : String) (value : α) :
    (d.insert key value).find? other = if other = key then some value else d.find? other :=
  findEntry_insertEntry key other value d.entries

theorem insertMany_append (d : Dict α) (l m : List (String × α)) :
    d.insertMany (l ++ m) = (d.insertMany l).insertMany m := by
  simp [insertMany, List.foldl_append]

theorem insertMany_filterMap_cons (d : Dict α) (f : β → Option (String × α)) (x : β) (l : List β) :
    d.insertMany ((x :: l).filterMap f) = (d.insertMany (f x).toList).insertMany (l.filterMap f) := by
  rw [← insertMany_append]
  cases h : f x <;> simp [h]

theorem findEntry_append (key : String) (l m : List (String × α)) :
    findEntry key (l ++ m) = (findEntry key l).or (findEntry key m) := by
  induction l with
  | nil => simp [findEntry]
  | cons e rest ih =>
    obtain ⟨k, v⟩ := e
    simp only [List.cons_append, findEntry, ih]
    by_cases h : key = k <;> simp [h]

/-- A key holds the last value written for it, or what it held before. -/
theorem find?_insertMany (d : Dict α) (l : List (String × α)) (key : String) :
    (d.insertMany l).find? key = (findEntry key l.reverse).or (d.find? key) := by
  induction l generalizing d with
  | nil => simp [insertMany, findEntry]
  | cons e rest ih =>
    have step : d.insertMany (e :: rest) = (d.insert e.1 e.2).insertMany rest := rfl
    rw [step, ih, List.reverse_cons, findEntry_append, find?_insert]
    by_cases h : key = e.1 <;> simp [findEntry, h]

theorem find?_ofList (l : List (String × α)) (key : String) :
    (ofList l).find? key = findEntry key l.reverse :=
  (find?_insertMany empty l key).trans Option.or_none

theorem findEntry_eq_none_of_lt {key : String} {l : List (String × α)}
    (h : ∀ e ∈ l, key < e.1) : findEntry key l = none := by
  induction l with
  | nil => rfl
  | cons e rest ih =>
    have hne : key ≠ e.1 := fun hk => String.lt_irrefl e.1 (hk ▸ h e List.mem_cons_self)
    rw [findEntry, if_neg hne]
    exact ih (fun x hx => h x (List.mem_cons_of_mem e hx))

/-- Two ordered lists with the same look-ups are equal. -/
theorem entries_ext {l m : List (String × α)} (hl : l.Pairwise (fun a b => a.1 < b.1))
    (hm : m.Pairwise (fun a b => a.1 < b.1)) (h : ∀ k, findEntry k l = findEntry k m) :
    l = m := by
  induction l generalizing m with
  | nil =>
    cases m with
    | nil => rfl
    | cons e rest => have := h e.1; simp [findEntry] at this
  | cons e rest ih =>
    rw [List.pairwise_cons] at hl
    cases m with
    | nil => have := h e.1; simp [findEntry] at this
    | cons f others =>
      rw [List.pairwise_cons] at hm
      have no_less : ∀ {a b : String × α} {r s : List (String × α)},
          (∀ x ∈ s, b.1 < x.1) → findEntry a.1 (a :: r) = findEntry a.1 (b :: s) →
          ¬ a.1 < b.1 := by
        intro a b r s hs hab hlt
        rw [findEntry_eq_none_of_lt (l := b :: s)] at hab
        · simp [findEntry] at hab
        · intro x hx
          rcases List.mem_cons.mp hx with rfl | hx
          · exact hlt
          · exact String.lt_trans hlt (hs x hx)
      have hkey : e.1 = f.1 :=
        String.le_antisymm (String.not_lt.mp (no_less hl.1 (h f.1).symm))
          (String.not_lt.mp (no_less hm.1 (h e.1)))
      have hval : e.2 = f.2 := by
        have := h e.1
        simp only [findEntry, if_true, hkey] at this
        simpa using this
      have hef : e = f := Prod.ext hkey hval
      subst hef
      refine congrArg (e :: ·) (ih hl.2 hm.2 ?_)
      intro k
      have := h k
      simp only [findEntry] at this
      by_cases hk : k = e.1
      · subst hk
        rw [findEntry_eq_none_of_lt hl.1, findEntry_eq_none_of_lt hm.1]
      · simpa [hk] using this

theorem ext_find? {a b : Dict α} (h : ∀ k, a.find? k = b.find? k) : a = b := by
  have := entries_ext a.sorted b.sorted h
  cases a
  cases b
  cases this
  rfl

/-! ## Entries and look-ups -/

theorem mem_of_findEntry {key : String} {value : α} {l : List (String × α)}
    (h : findEntry key l = some value) : (key, value) ∈ l := by
  induction l with
  | nil => cases h
  | cons e rest ih =>
    obtain ⟨k, v⟩ := e
    rw [findEntry] at h
    split at h
    · rename_i hk
      cases h
      rw [hk]
      exact List.mem_cons_self
    · exact List.mem_cons_of_mem _ (ih h)

theorem findEntry_eq_none_iff {key : String} {l : List (String × α)} :
    findEntry key l = none ↔ ∀ e ∈ l, e.1 ≠ key := by
  induction l with
  | nil => simp [findEntry]
  | cons e rest ih =>
    obtain ⟨k, v⟩ := e
    by_cases h : key = k
    · simp [findEntry, h]
    · simp [findEntry, h, ih, Ne.symm h]

/-- The last value listed for a key, where the list is read off another one. -/
theorem findEntry_reverse_filterMap {f : β → Option (String × α)} {l : List β} {key : String}
    {value : α} :
    findEntry key (l.filterMap f).reverse = some value ↔
      ∃ before x after, l = before ++ x :: after ∧ f x = some (key, value) ∧
        ∀ y ∈ after, ∀ other, f y ≠ some (key, other) := by
  induction l generalizing value with
  | nil => simp [findEntry]
  | cons x rest ih =>
    have hcons : ((x :: rest).filterMap f).reverse = (rest.filterMap f).reverse ++ (f x).toList := by
      cases h : f x <;> simp [h]
    rw [hcons, findEntry_append]
    cases hrest : findEntry key (rest.filterMap f).reverse with
    | some later =>
      obtain ⟨before, y, after, hl, hy, hafter⟩ := ih.mp hrest
      constructor
      · rintro ⟨⟩
        exact ⟨x :: before, y, after, by rw [hl]; rfl, hy, hafter⟩
      · rintro ⟨_ | ⟨first, others⟩, z, tail, hz, hfz, htail⟩
        · obtain ⟨rfl, rfl⟩ := List.cons.inj hz
          exact absurd hy (htail y (by rw [hl]; simp) later)
        · rw [← ih.mpr ⟨others, z, tail, (List.cons.inj hz).2, hfz, htail⟩, hrest]
          rfl
    | none =>
      have hlater : ∀ y ∈ rest, ∀ other, f y ≠ some (key, other) := by
        intro y hy other hfy
        refine findEntry_eq_none_iff.mp hrest (key, other) (List.mem_reverse.mpr ?_) rfl
        exact List.mem_filterMap.mpr ⟨y, hy, hfy⟩
      have hfirst : findEntry key (f x).toList = some value ↔ f x = some (key, value) := by
        cases h : f x with
        | none => simp [findEntry]
        | some e =>
          obtain ⟨k, v⟩ := e
          by_cases hk : key = k <;> simp [findEntry, hk, eq_comm]
      rw [Option.none_or, hfirst]
      constructor
      · exact fun h => ⟨[], x, rest, rfl, h, hlater⟩
      · rintro ⟨_ | ⟨first, others⟩, z, tail, hz, hfz, -⟩
        · rwa [(List.cons.inj hz).1]
        · refine absurd hfz (hlater z ?_ value)
          rw [(List.cons.inj hz).2]
          simp

/-- Where no key is listed twice, look-ups find exactly the entries. -/
theorem findEntry_eq_some_iff {key : String} {value : α} {l : List (String × α)}
    (hl : l.Pairwise (fun a b => a.1 ≠ b.1)) :
    findEntry key l = some value ↔ (key, value) ∈ l := by
  refine ⟨mem_of_findEntry, ?_⟩
  induction l with
  | nil => simp
  | cons e rest ih =>
    rw [List.pairwise_cons] at hl
    intro h
    rw [findEntry]
    rcases List.mem_cons.mp h with rfl | h
    · rw [if_pos rfl]
    · rw [if_neg (hl.1 _ h).symm]
      exact ih hl.2 h

/-- Where no key is listed twice, the order of the entries does not matter to a look-up. -/
theorem findEntry_reverse {l : List (String × α)} (hl : l.Pairwise (fun a b => a.1 ≠ b.1))
    (key : String) : findEntry key l.reverse = findEntry key l := by
  have hr : l.reverse.Pairwise (fun a b => a.1 ≠ b.1) :=
    List.pairwise_reverse.mpr (hl.imp Ne.symm)
  refine Option.ext fun value => ?_
  rw [findEntry_eq_some_iff hl, findEntry_eq_some_iff hr, List.mem_reverse]

theorem pairwise_ne (d : Dict α) : d.entries.Pairwise (fun a b => a.1 ≠ b.1) := by
  refine d.sorted.imp ?_
  intro a b hlt heq
  rw [heq] at hlt
  exact String.lt_irrefl b.1 hlt

/-- The entries of a dictionary, written one after the other, are the dictionary. -/
theorem ofList_entries (d : Dict α) : ofList d.entries = d := by
  refine ext_find? fun key => ?_
  rw [find?_ofList, findEntry_reverse d.pairwise_ne]
  rfl

/-- Where no key is listed twice, the order of the entries does not matter to the dictionary. -/
theorem ofList_of_perm {l m : List (String × α)} (h : l.Perm m)
    (hl : l.Pairwise (fun a b => a.1 ≠ b.1)) : ofList l = ofList m := by
  have hm : m.Pairwise (fun a b => a.1 ≠ b.1) := h.pairwise hl Ne.symm
  refine ext_find? fun key => Option.ext fun value => ?_
  rw [find?_ofList, find?_ofList, findEntry_reverse hl, findEntry_reverse hm,
    findEntry_eq_some_iff hl, findEntry_eq_some_iff hm, h.mem_iff]

theorem mem_of_mem_ofList {l : List (String × α)} {e : String × α}
    (h : e ∈ (ofList l).entries) : e ∈ l := by
  have hfind : (ofList l).find? e.1 = some e.2 := (findEntry_eq_some_iff (pairwise_ne _)).mpr h
  rw [find?_ofList] at hfind
  exact List.mem_reverse.mp (mem_of_findEntry hfind)

end Dict

end MessageBundles

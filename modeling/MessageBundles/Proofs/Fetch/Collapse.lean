import MessageBundles.Fetch.Directory
import MessageBundles.Proofs.Files.Walk
import MessageBundles.Proofs.Text.Utf8

/-
  Collapsed names — what is left when every `..` has taken away the name before it

  A locator is checked by counting how deep its names lead. `collapse?` is the list of names behind
  that count, and none where a `..` has no name to take away. The files are reached by a walk that
  knows no such list. What is proved:
    1. `depth?_eq_collapse?` — the count is the length of the list.
    2. `walk_congr` — where names collapse, the walk stays at or below the place it starts from, so
       that two trees that agree there are walked alike.
    3. `walk_collapse?` — where such a walk succeeds, it ends at the place the collapsed names lead
       to, and these can be walked as well.
    4. `weight_collapse?_le` and `mem_collapsed?` — the collapsed names are no longer than the names
       they come from, and are some of them.
-/

namespace MessageBundles.Fetch

open Text Files

/-! ## Collapsing names -/

/-- A name that leads down: not empty, neither `.` nor `..`, and without a slash. -/
structure IsOrdinary (name : List Char) : Prop where
  ne_nil : name ≠ []
  ne_here : name ≠ ['.']
  ne_up : name ≠ ['.', '.']
  no_slash : '/' ∉ name

/-- One more name behind others. An empty name and `.` say nothing, and `..` takes away the name
before it, if there is one. -/
def collapseStep? (below : List (List Char)) (name : List Char) : Option (List (List Char)) :=
  if name = [] ∨ name = ['.'] then some below
  else if name = ['.', '.'] then if below = [] then none else some below.dropLast
  else some (below ++ [name])

/-- More names behind others, one after the other. -/
def collapse? : List (List Char) → List (List Char) → Option (List (List Char))
  | below, [] => some below
  | below, name :: rest => (collapseStep? below name).bind (collapse? · rest)

/-- A locator without the slashes in front of it. -/
def relative (locator : String) : List Char := locator.toList.dropWhile (· == '/')

/-- The names a locator collapses to, from the root on; none where it climbs out of the root. -/
def collapsed? (locator : String) : Option (List (List Char)) :=
  collapse? [] (split '/' (relative locator))

theorem collapseStep?_eq_some {below next : List (List Char)} {name : List Char}
    (h : collapseStep? below name = some next) :
    ((name = [] ∨ name = ['.']) ∧ next = below) ∨
      (name = ['.', '.'] ∧ below ≠ [] ∧ next = below.dropLast) ∨
      ((name ≠ [] ∧ name ≠ ['.'] ∧ name ≠ ['.', '.']) ∧ next = below ++ [name]) := by
  unfold collapseStep? at h
  split at h
  · rename_i hstay
    cases h
    exact .inl ⟨hstay, rfl⟩
  · rename_i hstay
    rw [not_or] at hstay
    split at h
    · rename_i hup
      split at h
      · cases h
      · rename_i hbelow
        cases h
        exact .inr (.inl ⟨hup, hbelow, rfl⟩)
    · rename_i hup
      cases h
      exact .inr (.inr ⟨⟨hstay.1, hstay.2, hup⟩, rfl⟩)

/-- The depth of a run of names is the number of names it collapses to. -/
theorem depth?_eq_collapse? (below names : List (List Char)) :
    depth? below.length names = (collapse? below names).map List.length := by
  induction names generalizing below with
  | nil => rfl
  | cons name rest ih =>
    simp only [depth?, collapse?, collapseStep?]
    split
    · exact ih below
    · split
      · rcases List.eq_nil_or_concat below with rfl | ⟨front, last, rfl⟩
        · rfl
        · rw [List.concat_eq_append, if_neg (by simp), List.length_append, List.dropLast_concat]
          exact ih front
      · rw [Option.bind_some, ← ih (below ++ [name]), List.length_append]
        rfl

theorem forall_mem_collapse? {P : List Char → Prop} {below names left : List (List Char)}
    (h : collapse? below names = some left) (hbelow : ∀ name ∈ below, P name)
    (hnames : ∀ name ∈ names, name ≠ [] → name ≠ ['.'] → name ≠ ['.', '.'] → P name) :
    ∀ name ∈ left, P name := by
  induction names generalizing below with
  | nil =>
    cases h
    exact hbelow
  | cons first rest ih =>
    obtain ⟨next, hstep, hrest⟩ := Option.bind_eq_some_iff.mp h
    refine ih hrest ?_ fun name hname => hnames name (List.mem_cons_of_mem first hname)
    rcases collapseStep?_eq_some hstep with ⟨-, rfl⟩ | ⟨-, -, rfl⟩ | ⟨⟨h₁, h₂, h₃⟩, rfl⟩
    · exact hbelow
    · exact fun name hname => hbelow name (List.dropLast_subset below hname)
    · intro name hname
      rcases List.mem_append.mp hname with hname | hname
      · exact hbelow name hname
      · rw [List.mem_singleton.mp hname]
        exact hnames first List.mem_cons_self h₁ h₂ h₃

/-- The collapsed names of a locator are ordinary, and are names of the locator. -/
theorem mem_collapsed? {locator : String} {names : List (List Char)}
    (h : collapsed? locator = some names) :
    ∀ name ∈ names, IsOrdinary name ∧ name ∈ split '/' (relative locator) := by
  refine forall_mem_collapse? h (by simp) ?_
  intro name hname h₁ h₂ h₃
  exact ⟨⟨h₁, h₂, h₃, fun hslash => (mem_of_mem_split hname '/' hslash).2 rfl⟩, hname⟩

/-- How many bytes names take with a slash behind each. -/
def weight : List (List Char) → Nat
  | [] => 0
  | name :: rest => (Utf8.encode name).length + 1 + weight rest

theorem weight_append (a b : List (List Char)) : weight (a ++ b) = weight a + weight b := by
  induction a with
  | nil => simp [weight]
  | cons name rest ih =>
    simp only [List.cons_append, weight, ih]
    omega

theorem weight_dropLast_le (names : List (List Char)) : weight names.dropLast ≤ weight names := by
  rcases List.eq_nil_or_concat names with rfl | ⟨front, last, rfl⟩
  · exact Nat.le_refl 0
  · rw [List.concat_eq_append, List.dropLast_concat, weight_append]
    omega

theorem weight_collapse?_le {below names left : List (List Char)}
    (h : collapse? below names = some left) : weight left ≤ weight below + weight names := by
  induction names generalizing below with
  | nil =>
    cases h
    omega
  | cons name rest ih =>
    obtain ⟨next, hstep, hrest⟩ := Option.bind_eq_some_iff.mp h
    have hweight : weight (name :: rest) = weight [name] + weight rest := weight_append [name] rest
    have hnext : weight next ≤ weight below + weight [name] := by
      rcases collapseStep?_eq_some hstep with ⟨-, rfl⟩ | ⟨-, -, rfl⟩ | ⟨-, rfl⟩
      · omega
      · have := weight_dropLast_le below
        omega
      · exact Nat.le_of_eq (weight_append below [name])
    have := ih hrest
    omega

theorem length_encode_join {names : List (List Char)} (h : names ≠ []) :
    (Utf8.encode (join '/' names)).length + 1 = weight names := by
  induction names with
  | nil => exact absurd rfl h
  | cons name rest ih =>
    cases rest with
    | nil => rfl
    | cons next rest =>
      have hslash : (String.utf8EncodeChar '/').length = 1 := by decide
      rw [join, Utf8.encode_append, Utf8.encode_cons, List.length_append, List.length_append, hslash,
        weight, ← ih (List.cons_ne_nil next rest)]
      omega

/-! ## Walking names that collapse -/

def placeUnder (root : Place) (names : List (List Char)) : Place := root ++ names.map Utf8.encode

@[simp] theorem placeUnder_nil (root : Place) : placeUnder root [] = root := List.append_nil root

theorem placeUnder_concat (root : Place) (names : List (List Char)) (name : List Char) :
    placeUnder root (names ++ [name]) = placeUnder root names ++ [Utf8.encode name] := by
  simp [placeUnder]

theorem dropLast_placeUnder (root : Place) {names : List (List Char)} (h : names ≠ []) :
    (placeUnder root names).dropLast = placeUnder root names.dropLast := by
  rw [placeUnder, List.dropLast_append_of_ne_nil (by simpa using h), placeUnder, List.map_dropLast]

theorem encode_eq_nil_iff {name : List Char} : Utf8.encode name = [] ↔ name = [] :=
  ⟨fun h => Utf8.encode_injective h, fun h => h ▸ rfl⟩

theorem encode_eq_here_iff {name : List Char} : Utf8.encode name = Files.here ↔ name = ['.'] :=
  ⟨fun h => Utf8.encode_injective h, fun h => h ▸ rfl⟩

theorem encode_eq_up_iff {name : List Char} : Utf8.encode name = Files.up ↔ name = ['.', '.'] :=
  ⟨fun h => Utf8.encode_injective h, fun h => h ▸ rfl⟩

section Walks
variable {t u : Tree} {root place : Place} {below names left : List (List Char)}

theorem target_placeUnder {name : List Char} {next : List (List Char)}
    (h : collapseStep? below name = some next) :
    Tree.target (placeUnder root below) (Utf8.encode name) = placeUnder root next := by
  unfold Tree.target
  simp only [encode_eq_nil_iff, encode_eq_here_iff, encode_eq_up_iff]
  rcases collapseStep?_eq_some h with ⟨hstay, rfl⟩ | ⟨rfl, hbelow, rfl⟩ | ⟨⟨h₁, h₂, h₃⟩, rfl⟩
  · rw [if_pos hstay]
  · rw [if_neg (by decide), if_pos rfl, dropLast_placeUnder root hbelow]
  · rw [if_neg (not_or.mpr ⟨h₁, h₂⟩), if_neg h₃, placeUnder_concat]

theorem step_placeUnder {name : List Char} {next : List (List Char)}
    (hstep : collapseStep? below name = some next)
    (h : t.step (placeUnder root below) (Utf8.encode name) = .ok place) :
    place = placeUnder root next := by
  rw [(Tree.step_eq_ok h).2, target_placeUnder hstep]

/-- Two trees that agree at and below a place are walked alike from there, as long as the names do
not climb above it. -/
theorem walk_congr (hagree : ∀ below, t.node? (root ++ below) = u.node? (root ++ below))
    (h : collapse? below names = some left) :
    t.walk (placeUnder root below) (names.map Utf8.encode) =
      u.walk (placeUnder root below) (names.map Utf8.encode) := by
  induction names generalizing below with
  | nil => rfl
  | cons name rest ih =>
    obtain ⟨next, hstep, hrest⟩ := Option.bind_eq_some_iff.mp h
    have hsame : t.step (placeUnder root below) (Utf8.encode name) =
        u.step (placeUnder root below) (Utf8.encode name) := by
      refine Tree.step_congr (hagree (below.map Utf8.encode)) ?_
      rw [← placeUnder_concat]
      exact hagree ((below ++ [name]).map Utf8.encode)
    rw [List.map_cons, Tree.walk_cons, Tree.walk_cons, ← hsame]
    cases hnext : t.step (placeUnder root below) (Utf8.encode name) with
    | error e => rfl
    | ok place =>
      rw [step_placeUnder hstep hnext]
      exact ih hrest

/-- Every start of a list of names leads from a place to where it should. -/
def Reached (t : Tree) (root : Place) (names : List (List Char)) : Prop :=
  ∀ front, front <+: names → t.walk root (front.map Utf8.encode) = .ok (placeUnder root front)

theorem reached_nil (t : Tree) (root : Place) : Reached t root [] := by
  intro front h
  rw [List.prefix_nil.mp h]
  exact congrArg Except.ok (placeUnder_nil root).symm

/-- A step that succeeds keeps the names it has collapsed to reachable. -/
theorem Reached.step {name : List Char} {next : List (List Char)} (hreached : Reached t root below)
    (hstep : collapseStep? below name = some next)
    (h : t.step (placeUnder root below) (Utf8.encode name) = .ok place) : Reached t root next := by
  have hplace := step_placeUnder hstep h
  rcases collapseStep?_eq_some hstep with ⟨-, rfl⟩ | ⟨-, -, rfl⟩ | ⟨-, rfl⟩
  · exact hreached
  · have hdrop : below.dropLast <+: below := List.dropLast_prefix below
    exact fun front hfront => hreached front (hfront.trans hdrop)
  · intro front hfront
    rcases List.prefix_concat_iff.mp hfront with rfl | hfront
    · rw [List.map_append, Tree.walk_append_bind, hreached below (List.prefix_refl below),
        ← hplace, ← h]
      exact Tree.walk_singleton t (placeUnder root below) (Utf8.encode name)
    · exact hreached front hfront

/-- A walk that succeeds over names that collapse ends where the collapsed names lead, and these can
be walked as well. -/
theorem walk_collapse? (hreached : Reached t root below) (h : collapse? below names = some left)
    (hwalk : t.walk (placeUnder root below) (names.map Utf8.encode) = .ok place) :
    place = placeUnder root left ∧ Reached t root left := by
  induction names generalizing below with
  | nil =>
    cases h
    cases hwalk
    exact ⟨rfl, hreached⟩
  | cons name rest ih =>
    obtain ⟨next, hstep, hrest⟩ := Option.bind_eq_some_iff.mp h
    rw [List.map_cons, Tree.walk_cons] at hwalk
    cases hnext : t.step (placeUnder root below) (Utf8.encode name) with
    | error e =>
      rw [hnext] at hwalk
      cases hwalk
    | ok mid =>
      rw [hnext, step_placeUnder hstep hnext] at hwalk
      exact ih (hreached.step hstep hnext) hrest hwalk

end Walks

end MessageBundles.Fetch

import MessageBundles.Files.Tree
import MessageBundles.Proofs.Text.Pieces

/-
  Walks — what a path reads on its way, and when two trees cannot be told apart

  A walk looks at the place it is at and at the entry it goes to, and at nothing else. The main
  statements:
    1. `step_eq_ok` — what a step that succeeds did.
    2. `step_congr` — two trees that agree at a place and at an entry of it take the same step.
    3. `walk_nil_cons` — an empty name in front of other names changes nothing.
    4. `look_eq` — what a path leads to is decided by its length, its bytes and where it resolves.
-/

namespace MessageBundles.Files.Tree

open Text

/-- The place a path resolves to. The empty path stays at the place relative paths start from. -/
def resolve (t : Tree) (path : List UInt8) : Except FetchCause Place :=
  t.walk (if [slash].isPrefixOf path then [] else t.current) (split slash path)

/-- Two trees that agree on how a path resolves, and on every place at or below the place it
resolves to. -/
structure AgreeUnder (path : List UInt8) (t u : Tree) : Prop where
  resolve_eq : t.resolve path = u.resolve path
  node_eq : ∀ place, t.resolve path = .ok place →
    ∀ below, t.node? (place ++ below) = u.node? (place ++ below)

/-! ## Steps -/

/-- Where a name leads from a place, whether or not anything is there. -/
def target (place : Place) (name : Name) : Place :=
  if name = [] ∨ name = here then place
  else if name = up then place.dropLast
  else place ++ [name]

/-- A step that succeeds started in a directory, and went where the name leads. -/
theorem step_eq_ok {t : Tree} {place next : Place} {name : Name} (h : t.step place name = .ok next) :
    t.node? place = some .directory ∧ next = target place name := by
  unfold step at h
  split at h
  · cases h
  · cases h
  · rename_i hdir
    refine ⟨hdir, ?_⟩
    unfold target
    by_cases hstay : name = [] ∨ name = here
    · rw [if_pos hstay] at h ⊢
      cases h
      rfl
    by_cases hup : name = up
    · rw [if_neg hstay, if_pos hup] at h ⊢
      cases h
      rfl
    rw [if_neg hstay, if_neg hup] at h ⊢
    -- What is left are the two ways in which an entry is not found, and the way in which it is.
    split at h
    · cases h
    · split at h
      · cases h
        rfl
      · cases h

theorem step_congr {t u : Tree} {place : Place} {name : Name}
    (hplace : t.node? place = u.node? place)
    (hentry : t.node? (place ++ [name]) = u.node? (place ++ [name])) :
    t.step place name = u.step place name := by
  simp only [step, hplace, hentry]

/-! ## Walks -/

theorem walk_append_bind (t : Tree) (place : Place) (a b : List Name) :
    t.walk place (a ++ b) = (t.walk place a).bind (t.walk · b) := by
  rw [walk_append]
  cases t.walk place a <;> rfl

theorem walk_cons (t : Tree) (place : Place) (name : Name) (rest : List Name) :
    t.walk place (name :: rest) = (t.step place name).bind (t.walk · rest) := by
  rw [walk]
  cases t.step place name <;> rfl

theorem walk_singleton (t : Tree) (place : Place) (name : Name) :
    t.walk place [name] = t.step place name := by
  rw [walk_cons]
  cases t.step place name <;> rfl

/-- An empty name in front of other names changes nothing: the step behind it fails at a place that
is no directory in the same way. -/
theorem walk_nil_cons (t : Tree) (place : Place) {names : List Name} (h : names ≠ []) :
    t.walk place ([] :: names) = t.walk place names := by
  obtain ⟨name, rest, rfl⟩ := List.exists_cons_of_ne_nil h
  rw [walk_cons, walk_cons]
  cases hnode : t.node? place with
  | none => simp only [step, hnode]; rfl
  | some node =>
    cases node with
    | file content => simp only [step, hnode]; rfl
    | directory =>
      rw [(walk_here hnode).1]
      exact walk_cons t place name rest

theorem directory_of_walk {t : Tree} {place next : Place} {names : List Name} (hne : names ≠ [])
    (h : t.walk place names = .ok next) : t.node? place = some .directory := by
  obtain ⟨name, rest, rfl⟩ := List.exists_cons_of_ne_nil hne
  rw [walk_cons] at h
  cases hstep : t.step place name with
  | error e => rw [hstep] at h; cases h
  | ok mid => exact (step_eq_ok hstep).1

/-! ## Looking -/

theorem look_eq (t : Tree) (path : List UInt8) :
    t.look path =
      if 0 ∈ path then .error (.unreadable .containsNul)
      else if path = [] then .error .notFound
      else if maxPath < path.length then .error (.unreadable .nameTooLong)
      else (t.resolve path).bind fun place => (t.node? place).elim (.error .notFound) .ok := by
  simp only [look, resolve]
  congr 3
  cases t.walk (if [slash].isPrefixOf path then [] else t.current) (split slash path) <;> rfl

/-- A path that resolves to a place can be read there, if it is not empty, not too long, and free of
the byte zero. -/
theorem read_eq_ok_iff {t : Tree} {path content : List UInt8} :
    t.read path = .ok content ↔
      (0 ∉ path ∧ path ≠ [] ∧ path.length ≤ maxPath) ∧
        ∃ place, t.resolve path = .ok place ∧ t.node? place = some (.file content) := by
  have hread : t.read path = .ok content ↔ t.look path = .ok (.file content) := by
    unfold read
    cases t.look path with
    | error e => simp
    | ok node => cases node <;> simp
  rw [hread, look_eq]
  by_cases hzero : 0 ∈ path
  · simp [hzero]
  by_cases hne : path = []
  · simp [hne]
  by_cases hlength : maxPath < path.length
  · simp [hzero, hne, hlength, Nat.not_le.mpr hlength]
  rw [if_neg hzero, if_neg hne, if_neg hlength]
  have hlimits : 0 ∉ path ∧ path ≠ [] ∧ path.length ≤ maxPath := ⟨hzero, hne, by omega⟩
  simp only [hlimits, true_and, ne_eq, not_false_eq_true]
  cases t.resolve path with
  | error e => simp [Except.bind]
  | ok place =>
    cases hnode : t.node? place with
    | none => simp [Except.bind, hnode]
    | some node => simp [Except.bind, hnode]

theorem readText_eq_ok {t : Tree} {path : List UInt8} {text : String}
    (h : t.readText path = .ok text) :
    ∃ content, t.read path = .ok content ∧ Utf8.decode? content = some text.toList := by
  unfold readText at h
  split at h
  · cases h
  · rename_i content hcontent
    split at h
    · cases h
    · rename_i cs hdecode
      cases h
      refine ⟨content, hcontent, ?_⟩
      rw [hdecode, String.toList_ofList]

/-- Two trees in which a path resolves alike, to places that hold the same, read it alike. -/
theorem readText_congr {t u : Tree} {path : List UInt8} (hresolve : t.resolve path = u.resolve path)
    (hnode : ∀ place, t.resolve path = .ok place → t.node? place = u.node? place) :
    t.readText path = u.readText path := by
  have hlook : t.look path = u.look path := by
    rw [look_eq, look_eq, ← hresolve]
    cases hplace : t.resolve path with
    | error e => rfl
    | ok place => simp only [Except.bind, hnode place hplace]
  simp only [readText, read, hlook]

end MessageBundles.Files.Tree

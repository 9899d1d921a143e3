/-
  Pieces of a text — cutting at a separator, trimming, searching

  Every function here works on a list of characters by recursion on it. The main statements:
    1. `join_split` — the pieces of a text, joined again, are the text.
    2. `split_ne_nil` — there is always at least one piece.
    3. `dropEndWhile_append` — a text is what trimming leaves followed by what it took away, all of
       which has the property trimmed by.

  Stands for the built-in cutting, trimming and searching of texts.
-/

namespace MessageBundles.Text

/-- The pieces of a text between the occurrences of a separator; the empty text is one piece. -/
def split {α : Type} [DecidableEq α] (sep : α) : List α → List (List α)
  | [] => [[]]
  | c :: rest =>
    if c = sep then [] :: split sep rest
    else match split sep rest with
      | [] => [[c]]
      | piece :: pieces => (c :: piece) :: pieces

def join {α : Type} (sep : α) : List (List α) → List α
  | [] => []
  | [piece] => piece
  | piece :: next :: pieces => piece ++ sep :: join sep (next :: pieces)

/-- A text without its longest ending whose characters all have the property. -/
def dropEndWhile {α : Type} (p : α → Bool) (cs : List α) : List α :=
  (cs.reverse.dropWhile p).reverse

def trim (p : Char → Bool) (cs : List Char) : List Char :=
  dropEndWhile p (cs.dropWhile p)

def occursIn (part : List Char) : List Char → Bool
  | [] => part.isEmpty
  | c :: rest => part.isPrefixOf (c :: rest) || occursIn part rest

/-- The maximal runs of characters without the property, in order; a run may be empty where the
property holds at an end of the text or twice in a row. -/
def runs (p : Char → Bool) : List Char → List (List Char)
  | [] => [[]]
  | c :: rest =>
    if p c then [] :: runs p rest
    else match runs p rest with
      | [] => [[c]]
      | piece :: pieces => (c :: piece) :: pieces

/-! ## Cutting and joining -/

theorem split_ne_nil {α : Type} [DecidableEq α] (sep : α) (cs : List α) : split sep cs ≠ [] := by
  cases cs with
  | nil => simp [split]
  | cons c rest =>
    simp only [split]
    split
    · simp
    · split <;> simp

theorem join_cons_of_ne_nil {α : Type} (sep : α) (piece : List α) {pieces : List (List α)}
    (h : pieces ≠ []) : join sep (piece :: pieces) = piece ++ sep :: join sep pieces := by
  cases pieces with
  | nil => exact absurd rfl h
  | cons next pieces => rfl

theorem join_split {α : Type} [DecidableEq α] (sep : α) (cs : List α) :
    join sep (split sep cs) = cs := by
  induction cs with
  | nil => rfl
  | cons c rest ih =>
    simp only [split]
    split
    · rename_i h
      rw [join_cons_of_ne_nil sep [] (split_ne_nil sep rest), ih, h]
      rfl
    · cases hs : split sep rest with
      | nil => exact absurd hs (split_ne_nil sep rest)
      | cons piece pieces =>
        rw [hs] at ih
        cases pieces with
        | nil => simpa [join] using ih
        | cons next pieces => simpa [join] using ih

/-! ## Trimming -/

/-- What `dropEndWhile` takes away has the property, and nothing else is lost. -/
theorem dropEndWhile_append {α : Type} (p : α → Bool) (cs : List α) :
    ∃ ending, cs = dropEndWhile p cs ++ ending ∧ ∀ c ∈ ending, p c = true := by
  refine ⟨(cs.reverse.takeWhile p).reverse, ?_, ?_⟩
  · rw [dropEndWhile, ← List.reverse_append, List.takeWhile_append_dropWhile, List.reverse_reverse]
  · intro c hc
    exact List.all_eq_true.mp List.all_takeWhile c (List.mem_reverse.mp hc)

theorem dropWhile_eq_nil_of_forall {α : Type} {p : α → Bool} {cs : List α}
    (h : ∀ c ∈ cs, p c = true) : cs.dropWhile p = [] := by
  induction cs with
  | nil => rfl
  | cons c rest ih =>
    have hc : p c = true := h c List.mem_cons_self
    simpa [List.dropWhile, hc] using ih (fun x hx => h x (List.mem_cons_of_mem c hx))

@[simp] theorem dropEndWhile_nil {α : Type} (p : α → Bool) :
    dropEndWhile p ([] : List α) = [] := rfl

theorem dropEndWhile_eq_nil_of_forall {α : Type} {p : α → Bool} {cs : List α}
    (h : ∀ c ∈ cs, p c = true) : dropEndWhile p cs = [] := by
  rw [dropEndWhile, dropWhile_eq_nil_of_forall fun c hc => h c (List.mem_reverse.mp hc)]
  rfl

end MessageBundles.Text

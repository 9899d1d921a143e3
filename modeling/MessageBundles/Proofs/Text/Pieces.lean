import MessageBundles.Text.Blank
import MessageBundles.Text.Pieces

/-
  Pieces of a text, continued — cutting as the library cuts, and texts with nothing to trim

  `split`, `runs` and `join` are the library's `splitOn`, `splitOnP` and `intercalate`, so the laws
  of those hold of them. The main statements:
    1. `split_join` — pieces without the separator, joined, are cut into the same pieces again.
    2. `runs_append_cons` — a text up to its first break is the first run.
    3. `trimmed_trim` and `trim_of_trimmed` — trimming leaves a trimmed text, and leaves a trimmed
       text alone.
-/

namespace MessageBundles.Text

/-! ## Cutting -/

theorem join_eq_intercalate {α : Type} (sep : α) (pieces : List (List α)) :
    join sep pieces = [sep].intercalate pieces := by
  induction pieces with
  | nil => rfl
  | cons piece pieces ih =>
    cases pieces with
    | nil => simp [join]
    | cons next pieces =>
      rw [join, ih, List.intercalate_cons_of_ne_nil (List.cons_ne_nil next pieces)]
      simp

section Cutting
variable {α : Type} [DecidableEq α] {sep : α}

theorem split_eq_splitOn (sep : α) (cs : List α) : split sep cs = cs.splitOn sep := by
  induction cs with
  | nil => rfl
  | cons c rest ih =>
    rw [List.splitOn_cons_eq_if_modifyHead, ← ih, split]
    by_cases h : c = sep
    · simp [h]
    · simp only [h, if_false, beq_eq_false_iff_ne.mpr h, Bool.false_eq_true]
      cases hs : split sep rest with
      | nil => exact absurd hs (split_ne_nil sep rest)
      | cons piece pieces => rfl

theorem split_of_not_mem {cs : List α} (h : sep ∉ cs) : split sep cs = [cs] := by
  rw [split_eq_splitOn, List.splitOn_eq_singleton h]

/-- A separator cuts a text into what stands before it and what stands behind it. -/
theorem split_append_cons (a b : List α) : split sep (a ++ sep :: b) = split sep a ++ split sep b := by
  rw [split_eq_splitOn, split_eq_splitOn, split_eq_splitOn, List.splitOn_append_cons_self]

/-- Cutting undoes joining, where no piece holds the separator. -/
theorem split_join {pieces : List (List α)} (hne : pieces ≠ []) (h : ∀ piece ∈ pieces, sep ∉ piece) :
    split sep (join sep pieces) = pieces := by
  rw [split_eq_splitOn, join_eq_intercalate, List.splitOn_intercalate sep h hne]

theorem split_append_of_not_mem {a : List α} (h : sep ∉ a)
    (b : List α) : split sep (a ++ b) = (split sep b).modifyHead (a ++ ·) := by
  induction a with
  | nil =>
    rw [List.nil_append]
    cases split sep b <;> rfl
  | cons c rest ih =>
    rw [List.mem_cons, not_or] at h
    rw [List.cons_append, split, if_neg (Ne.symm h.1), ih h.2]
    cases hs : split sep b with
    | nil => exact absurd hs (split_ne_nil sep b)
    | cons piece pieces => rfl

end Cutting

theorem runs_eq_splitOnP (p : Char → Bool) (cs : List Char) : runs p cs = cs.splitOnP p := by
  induction cs with
  | nil => rfl
  | cons c rest ih =>
    rw [List.splitOnP_cons_eq_if_modifyHead, ← ih, runs]
    cases hr : runs p rest with
    | nil => rw [ih] at hr; exact absurd hr (List.splitOnP_ne_nil p rest)
    | cons piece pieces => rfl

theorem runs_ne_nil (p : Char → Bool) (cs : List Char) : runs p cs ≠ [] := by
  rw [runs_eq_splitOnP]
  exact List.splitOnP_ne_nil p cs

/-- A text up to its first break is the first run. -/
theorem runs_append_cons {p : Char → Bool} {line : List Char} {b : Char}
    (h : ∀ c ∈ line, p c = false) (hb : p b = true) (rest : List Char) :
    runs p (line ++ b :: rest) = line :: runs p rest := by
  rw [runs_eq_splitOnP, runs_eq_splitOnP, List.splitOnP_append_cons_of_forall_mem h b hb]

theorem runs_of_forall {p : Char → Bool} {line : List Char} (h : ∀ c ∈ line, p c = false) :
    runs p line = [line] := by
  rw [runs_eq_splitOnP, List.splitOnP_eq_singleton h]

theorem mem_of_mem_splitOnP {α : Type} {p : α → Bool} {cs piece : List α}
    (h : piece ∈ cs.splitOnP p) : ∀ c ∈ piece, c ∈ cs ∧ p c = false := by
  induction cs generalizing piece with
  | nil =>
    rw [List.splitOnP_nil, List.mem_singleton] at h
    subst h
    simp
  | cons x rest ih =>
    rw [List.splitOnP_cons_eq_if_modifyHead] at h
    obtain ⟨first, others, hrest⟩ := List.exists_cons_of_ne_nil (List.splitOnP_ne_nil p rest)
    rw [hrest] at h ih
    have weaken : ∀ q ∈ first :: others, ∀ c ∈ q, c ∈ x :: rest ∧ p c = false :=
      fun q hq c hc => ⟨List.mem_cons_of_mem x (ih hq c hc).1, (ih hq c hc).2⟩
    split at h
    · rcases List.mem_cons.mp h with rfl | h
      · simp
      · exact weaken piece h
    · rename_i hx
      rcases List.mem_cons.mp h with rfl | h
      · intro c hc
        rcases List.mem_cons.mp hc with rfl | hc
        · exact ⟨List.mem_cons_self, Bool.eq_false_iff.mpr hx⟩
        · exact weaken first List.mem_cons_self c hc
      · exact weaken piece (List.mem_cons_of_mem first h)

theorem mem_of_mem_runs {p : Char → Bool} {cs run : List Char} (h : run ∈ runs p cs) :
    ∀ c ∈ run, c ∈ cs ∧ p c = false :=
  mem_of_mem_splitOnP (runs_eq_splitOnP p cs ▸ h)

theorem mem_of_mem_split {α : Type} [DecidableEq α] {sep : α} {cs piece : List α}
    (h : piece ∈ split sep cs) : ∀ c ∈ piece, c ∈ cs ∧ c ≠ sep := by
  intro c hc
  rw [split_eq_splitOn, List.splitOn_eq_splitOnP] at h
  obtain ⟨hmem, hsep⟩ := mem_of_mem_splitOnP h c hc
  exact ⟨hmem, beq_eq_false_iff_ne.mp hsep⟩

theorem mem_join {α : Type} {sep : α} {pieces : List (List α)} {c : α} (h : c ∈ join sep pieces) :
    c = sep ∨ ∃ piece ∈ pieces, c ∈ piece := by
  induction pieces with
  | nil => cases h
  | cons piece pieces ih =>
    cases pieces with
    | nil => exact .inr ⟨piece, List.mem_cons_self, h⟩
    | cons next pieces =>
      rw [join] at h
      rcases List.mem_append.mp h with h | h
      · exact .inr ⟨piece, List.mem_cons_self, h⟩
      · rcases List.mem_cons.mp h with h | h
        · exact .inl h
        · refine (ih h).imp_right ?_
          rintro ⟨piece, hpiece, hc⟩
          exact ⟨piece, List.mem_cons_of_mem _ hpiece, hc⟩

/-! ## Trimming -/

/-- Whether no blank character stands at either end of a text. -/
def Trimmed (cs : List Char) : Prop :=
  (∀ c ∈ cs.head?, isBlank c = false) ∧ ∀ c ∈ cs.getLast?, isBlank c = false

instance (cs : List Char) : Decidable (Trimmed cs) :=
  decidable_of_iff (cs.head?.all (!isBlank ·) ∧ cs.getLast?.all (!isBlank ·)) (by
    unfold Trimmed
    cases cs.head? <;> cases cs.getLast? <;> simp)

theorem head?_dropWhile {α : Type} (p : α → Bool) (cs : List α) :
    ∀ c ∈ (cs.dropWhile p).head?, p c = false := by
  intro c hc
  have := List.head?_dropWhile_not p cs
  rw [Option.mem_def.mp hc] at this
  simpa using this

theorem mem_of_mem_dropEndWhile {α : Type} {p : α → Bool} {cs : List α} {c : α}
    (h : c ∈ dropEndWhile p cs) : c ∈ cs := by
  obtain ⟨ending, hcs, -⟩ := dropEndWhile_append p cs
  rw [hcs]
  exact List.mem_append_left ending h

theorem getLast?_dropEndWhile {α : Type} (p : α → Bool) (cs : List α) :
    ∀ c ∈ (dropEndWhile p cs).getLast?, p c = false := by
  intro c hc
  rw [dropEndWhile, List.getLast?_reverse] at hc
  exact head?_dropWhile p cs.reverse c hc

theorem dropEndWhile_of_getLast? {α : Type} {p : α → Bool} {cs : List α}
    (h : ∀ c ∈ cs.getLast?, p c = false) : dropEndWhile p cs = cs := by
  rw [dropEndWhile, ← List.head?_reverse] at *
  cases hr : cs.reverse with
  | nil => rw [List.reverse_eq_nil_iff.mp hr]; rfl
  | cons c rest =>
    rw [hr] at h
    rw [List.dropWhile_cons_of_neg (by simp [h c rfl]), ← hr, List.reverse_reverse]

theorem dropEndWhile_append_cons {α : Type} {p : α → Bool} {c : α} (h : p c = false)
    (a b : List α) : dropEndWhile p (a ++ c :: b) = a ++ c :: dropEndWhile p b := by
  have hstop : (c :: a.reverse).dropWhile p = c :: a.reverse :=
    List.dropWhile_cons_of_neg (by simp [h])
  have hreverse : (a ++ c :: b).reverse = b.reverse ++ c :: a.reverse := by simp
  rw [dropEndWhile, hreverse, List.dropWhile_append, hstop, dropEndWhile]
  split
  · rename_i hnil
    rw [List.isEmpty_iff.mp hnil]
    simp
  · simp

theorem dropEndWhile_cons_of_neg {α : Type} {p : α → Bool} {c : α} (h : p c = false) (cs : List α) :
    dropEndWhile p (c :: cs) = c :: dropEndWhile p cs :=
  dropEndWhile_append_cons h [] cs

theorem dropWhile_of_head? {α : Type} {p : α → Bool} {cs : List α}
    (h : ∀ c ∈ cs.head?, p c = false) : cs.dropWhile p = cs := by
  cases cs with
  | nil => rfl
  | cons c rest => exact List.dropWhile_cons_of_neg (by simp [h c rfl])

theorem trimmed_trim (cs : List Char) : Trimmed (trim isBlank cs) := by
  refine ⟨?_, getLast?_dropEndWhile isBlank _⟩
  intro c hc
  -- The first character that is left is the first one of the text without its blank start.
  have hhead : (cs.dropWhile isBlank).head? = some c := by
    obtain ⟨ending, h, -⟩ := dropEndWhile_append isBlank (cs.dropWhile isBlank)
    rw [h, List.head?_append, show (dropEndWhile isBlank _).head? = some c from hc]
    rfl
  exact head?_dropWhile isBlank cs c hhead

theorem trim_of_trimmed {cs : List Char} (h : Trimmed cs) : trim isBlank cs = cs := by
  rw [trim, dropWhile_of_head? h.1, dropEndWhile_of_getLast? h.2]

theorem mem_of_mem_trim {p : Char → Bool} {cs : List Char} {c : Char} (h : c ∈ trim p cs) : c ∈ cs :=
  List.dropWhile_subset p (mem_of_mem_dropEndWhile h)

/-! ## Characters -/

/-- A number that is no character stands for the character 0. -/
theorem toNat_ofNat_cases (n : Nat) : (Char.ofNat n).toNat = n ∨ (Char.ofNat n).toNat = 0 := by
  by_cases hvalid : n.isValidChar
  · left
    rw [Char.ofNat, dif_pos hvalid]
    rfl
  · right
    rw [Char.ofNat, dif_neg hvalid]
    rfl

end MessageBundles.Text

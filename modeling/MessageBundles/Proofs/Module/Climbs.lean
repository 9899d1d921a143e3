import MessageBundles.Module.Resolver
import MessageBundles.Proofs.Text.Pieces

/-
  Climbs — the shape of a resolved identifier, and what resolving it again does

  Resolving moves a stack of segments. Whatever is read, the climbs that are left stand together at
  the bottom of the stack, so a resolved identifier is a run of climbs and then names. What is
  proved, for a parent none of whose segments stays or climbs:
    1. `settled_move` and `settled_foldl_move` — one segment, and so every run of segments, leaves
       the climbs at the bottom.
    2. `split_resolveAgainst` — the segments of a resolved identifier are climbs and then names.
    3. `foldl_move_climbs` — climbs take away names first, and what is too much of them stays.
    4. `resolveAgainst_twice_iff` — a resolved identifier that climbs is resolved to itself exactly
       if the parent has no folder.
    5. `resolve_twice_iff` — when a resolver leaves what it has resolved alone.
-/

namespace MessageBundles.Module

open Text

/-- Whether a segment neither stays nor climbs. -/
def IsName (s : Segment) : Prop := s ≠ here ∧ s ≠ up

/-- A stack, innermost segment first, that has all its climbs at the bottom. -/
def Settled (stack : List Segment) : Prop :=
  ∃ names n, (∀ s ∈ names, IsName s) ∧ stack = names ++ List.replicate n up

/-! ## One segment -/

theorem move_name {s : Segment} (h : IsName s) (stack : List Segment) :
    move stack s = s :: stack := by
  unfold move
  rw [if_neg h.1, if_neg h.2]

theorem move_here (stack : List Segment) : move stack here = stack := by
  unfold move
  rw [if_pos rfl]

theorem move_up_replicate (n : Nat) :
    move (List.replicate n up) up = List.replicate (n + 1) up := by
  cases n <;> rfl

theorem move_up_cons {top : Segment} (h : IsName top) (below : List Segment) :
    move (top :: below) up = below := by
  simp [move, show up ≠ here from by decide, h.2]

theorem settled_move {stack : List Segment} (h : Settled stack) (s : Segment) :
    Settled (move stack s) := by
  obtain ⟨names, n, hnames, rfl⟩ := h
  by_cases hhere : s = here
  · rw [hhere, move_here]
    exact ⟨names, n, hnames, rfl⟩
  by_cases hup : s = up
  · subst hup
    cases names with
    | nil => exact ⟨[], n + 1, by simp, move_up_replicate n⟩
    | cons top below =>
      rw [List.cons_append, move_up_cons (hnames top List.mem_cons_self)]
      exact ⟨below, n, fun x hx => hnames x (List.mem_cons_of_mem top hx), rfl⟩
  · rw [move_name ⟨hhere, hup⟩]
    refine ⟨s :: names, n, ?_, rfl⟩
    intro x hx
    rcases List.mem_cons.mp hx with rfl | hx
    · exact ⟨hhere, hup⟩
    · exact hnames x hx

theorem mem_move {stack : List Segment} {s x : Segment} (h : x ∈ move stack s) :
    x ∈ stack ∨ x = s := by
  by_cases hhere : s = here
  · rw [hhere, move_here] at h
    exact .inl h
  by_cases hup : s = up
  · subst hup
    cases stack with
    | nil => exact .inr (List.mem_singleton.mp h)
    | cons top below =>
      simp only [move, hhere, if_false, if_true] at h
      split at h
      · exact (List.mem_cons.mp h).symm
      · exact .inl (List.mem_cons_of_mem top h)
  · rw [move_name ⟨hhere, hup⟩] at h
    exact (List.mem_cons.mp h).symm

/-! ## A run of segments -/

theorem settled_foldl_move {stack : List Segment} (h : Settled stack) (segments : List Segment) :
    Settled (segments.foldl move stack) := by
  induction segments generalizing stack with
  | nil => exact h
  | cons s rest ih => exact ih (settled_move h s)

theorem mem_foldl_move {stack segments : List Segment} {x : Segment}
    (h : x ∈ segments.foldl move stack) : x ∈ stack ∨ x ∈ segments := by
  induction segments generalizing stack with
  | nil => exact .inl h
  | cons s rest ih =>
    rcases ih h with h | h
    · rcases mem_move h with h | rfl
      · exact .inl h
      · exact .inr List.mem_cons_self
    · exact .inr (List.mem_cons_of_mem s h)

theorem foldl_move_names {names : List Segment} (h : ∀ s ∈ names, IsName s) (stack : List Segment) :
    names.foldl move stack = names.reverse ++ stack := by
  induction names generalizing stack with
  | nil => rfl
  | cons s rest ih =>
    rw [List.foldl_cons, move_name (h s List.mem_cons_self),
      ih fun x hx => h x (List.mem_cons_of_mem s hx)]
    simp

/-- Climbs take away names first; those for which there is no name stay. -/
theorem foldl_move_climbs {names : List Segment} (h : ∀ s ∈ names, IsName s) (n : Nat) :
    (List.replicate n up).foldl move names =
      names.drop n ++ List.replicate (n - names.length) up := by
  induction names generalizing n with
  | nil =>
    rw [List.drop_nil, List.nil_append, List.length_nil, Nat.sub_zero]
    induction n with
    | zero => rfl
    | succ n ih =>
      rw [List.replicate_succ', List.foldl_append, ih, List.foldl_cons, List.foldl_nil,
        move_up_replicate, ← List.replicate_succ']
  | cons top below ih =>
    cases n with
    | zero => simp
    | succ n =>
      rw [List.replicate_succ, List.foldl_cons, move_up_cons (h top List.mem_cons_self),
        ih fun x hx => h x (List.mem_cons_of_mem top hx), List.drop_succ_cons, List.length_cons,
        Nat.add_sub_add_right]

/-! ## Resolved identifiers -/

/-- The folder of a parent module, innermost segment first. -/
def folder (parent : List Char) : List Segment := (split '/' parent).reverse.tail

theorem resolveAgainst_eq (parent id : List Char) :
    resolveAgainst parent id = join '/' ((split '/' id).foldl move (folder parent)).reverse := rfl

/-- A parent has no folder exactly if it has no slash. -/
theorem folder_eq_nil_iff {parent : List Char} : folder parent = [] ↔ '/' ∉ parent := by
  constructor
  · intro h hslash
    obtain ⟨a, b, rfl⟩ := List.append_of_mem hslash
    have hlength := congrArg List.length h
    obtain ⟨x, xs, hx⟩ := List.exists_cons_of_ne_nil (split_ne_nil '/' a)
    obtain ⟨y, ys, hy⟩ := List.exists_cons_of_ne_nil (split_ne_nil '/' b)
    rw [folder, split_append_cons, hx, hy] at hlength
    simp at hlength
  · intro h
    rw [folder, split_of_not_mem h]
    rfl

theorem isName_of_mem_folder {parent : List Char} (h : ∀ s ∈ split '/' parent, IsName s) :
    ∀ s ∈ folder parent, IsName s :=
  fun s hs => h s (List.mem_reverse.mp (List.mem_of_mem_tail hs))

theorem slash_not_mem_foldl_move (parent id : List Char) :
    ∀ s ∈ ((split '/' id).foldl move (folder parent)).reverse, '/' ∉ s := by
  intro s hs hslash
  rcases mem_foldl_move (List.mem_reverse.mp hs) with hs | hs
  · exact (mem_of_mem_split (List.mem_reverse.mp (List.mem_of_mem_tail hs)) '/' hslash).2 rfl
  · exact (mem_of_mem_split hs '/' hslash).2 rfl

theorem split_resolveAgainst_eq {parent id : List Char} (hne : resolveAgainst parent id ≠ []) :
    split '/' (resolveAgainst parent id) = ((split '/' id).foldl move (folder parent)).reverse := by
  rw [resolveAgainst_eq] at hne ⊢
  refine split_join ?_ (slash_not_mem_foldl_move parent id)
  intro hnil
  rw [hnil] at hne
  exact hne rfl

/-- The segments of a resolved identifier are climbs and then names. -/
theorem split_resolveAgainst {parent id : List Char} (hparent : ∀ s ∈ split '/' parent, IsName s)
    (hne : resolveAgainst parent id ≠ []) :
    ∃ n names, (∀ s ∈ names, IsName s) ∧
      split '/' (resolveAgainst parent id) = List.replicate n up ++ names := by
  have hsettled : Settled (folder parent) :=
    ⟨folder parent, 0, isName_of_mem_folder hparent, (List.append_nil _).symm⟩
  obtain ⟨names, n, hnames, hstack⟩ := settled_foldl_move hsettled (split '/' id)
  refine ⟨n, names.reverse, fun s hs => hnames s (List.mem_reverse.mp hs), ?_⟩
  rw [split_resolveAgainst_eq hne, hstack, List.reverse_append, List.reverse_replicate]

theorem split_of_isPrefixOf {s text : List Char} (hs : '/' ∉ s)
    (h : (s ++ ['/']).isPrefixOf text = true) :
    text ≠ [] ∧ ∃ rest, split '/' text = s :: split '/' rest := by
  obtain ⟨rest, rfl⟩ := List.isPrefixOf_iff_prefix.mp h
  refine ⟨by simp, rest, ?_⟩
  rw [List.append_assoc, List.singleton_append, split_append_cons, split_of_not_mem hs]
  rfl

/-- Climbs and then names start with a climb, or are names throughout. -/
theorem climbs_names_eq_cons {n : Nat} {names rest : List Segment} {s : Segment}
    (h : s :: rest = List.replicate n up ++ names) : (n ≠ 0 ∧ s = up) ∨ (n = 0 ∧ names = s :: rest) := by
  cases n with
  | zero => exact .inr ⟨rfl, h.symm⟩
  | succ n =>
    rw [List.replicate_succ, List.cons_append, List.cons.injEq] at h
    exact .inl ⟨Nat.succ_ne_zero n, h.1⟩

section Twice
variable {parent id : List Char}

/-- No resolved identifier starts with the segment that stays. -/
theorem not_here_resolveAgainst (hparent : ∀ s ∈ split '/' parent, IsName s) :
    ['.', '/'].isPrefixOf (resolveAgainst parent id) = false := by
  apply Bool.eq_false_iff.mpr
  intro h
  obtain ⟨hne, rest, hhere⟩ := split_of_isPrefixOf (s := here) (by decide) h
  obtain ⟨n, names, hnames, hsplit⟩ := split_resolveAgainst hparent hne
  rw [hhere] at hsplit
  rcases climbs_names_eq_cons hsplit with ⟨-, hup⟩ | ⟨-, rfl⟩
  · exact absurd hup (by decide)
  · exact (hnames here List.mem_cons_self).1 rfl

/-- A resolved identifier is never its own start behind a slash: behind an empty segment there is no
room for a segment that stays or climbs. -/
theorem resolveAgainst_ne_slash_cons (hparent : ∀ s ∈ split '/' parent, IsName s)
    (hid : isDotted id = true) : resolveAgainst parent id ≠ '/' :: id := by
  intro h
  have hne : resolveAgainst parent id ≠ [] := by
    rw [h]
    exact List.cons_ne_nil '/' id
  obtain ⟨n, names, hnames, hsplit⟩ := split_resolveAgainst hparent hne
  obtain ⟨s, rest, hs, hfirst⟩ : ∃ s rest, ¬ IsName s ∧ split '/' id = s :: split '/' rest := by
    rcases Bool.or_eq_true_iff.mp hid with hid | hid
    · obtain ⟨-, rest, h⟩ := split_of_isPrefixOf (s := here) (by decide) hid
      exact ⟨here, rest, fun hname => hname.1 rfl, h⟩
    · obtain ⟨-, rest, h⟩ := split_of_isPrefixOf (s := up) (by decide) hid
      exact ⟨up, rest, fun hname => hname.2 rfl, h⟩
  rw [h, split, if_pos rfl, hfirst] at hsplit
  rcases climbs_names_eq_cons hsplit with ⟨-, hup⟩ | ⟨-, rfl⟩
  · cases hup
  · apply hs
    apply hnames
    exact List.mem_cons_of_mem [] List.mem_cons_self

theorem foldl_move_climbs_names (hparent : ∀ s ∈ split '/' parent, IsName s) {names : List Segment}
    (hnames : ∀ s ∈ names, IsName s) (n : Nat) :
    ((List.replicate n up ++ names).foldl move (folder parent)).reverse =
      List.replicate (n - (folder parent).length) up ++ ((folder parent).drop n).reverse ++ names := by
  rw [List.foldl_append, foldl_move_climbs (isName_of_mem_folder hparent), foldl_move_names hnames]
  simp

theorem count_up_names {names : List Segment} (h : ∀ s ∈ names, IsName s) : names.count up = 0 :=
  List.count_eq_zero.mpr fun hmem => (h up hmem).2 rfl

/-- A resolved identifier that climbs is resolved to itself exactly if the parent has no folder. A
folder would lose its innermost segment to each climb, and one climb at least would be used up. -/
theorem resolveAgainst_twice_iff (hparent : ∀ s ∈ split '/' parent, IsName s)
    (hclimbs : ['.', '.', '/'].isPrefixOf (resolveAgainst parent id) = true) :
    resolveAgainst parent (resolveAgainst parent id) = resolveAgainst parent id ↔
      '/' ∉ parent := by
  obtain ⟨hne, rest, hup⟩ := split_of_isPrefixOf (s := up) (by decide) hclimbs
  obtain ⟨n, names, hnames, hsplit⟩ := split_resolveAgainst hparent hne
  rw [← folder_eq_nil_iff]
  constructor
  · intro h
    have hsame : split '/' (resolveAgainst parent id) =
        List.replicate (n - (folder parent).length) up ++
          ((folder parent).drop n).reverse ++ names := by
      have htwice : resolveAgainst parent (resolveAgainst parent id) ≠ [] := by
        rw [h]
        exact hne
      calc split '/' (resolveAgainst parent id)
          = split '/' (resolveAgainst parent (resolveAgainst parent id)) := by rw [h]
        _ = ((split '/' (resolveAgainst parent id)).foldl move (folder parent)).reverse :=
            split_resolveAgainst_eq htwice
        _ = _ := by rw [hsplit, foldl_move_climbs_names hparent hnames]
    -- The climbs before and after are counted; nothing else in the two lists is a climb.
    have hn : n = n - (folder parent).length := by
      have hdrop : ((folder parent).drop n).reverse.count up = 0 := by
        apply count_up_names
        intro s hs
        exact isName_of_mem_folder hparent s (List.mem_of_mem_drop (List.mem_reverse.mp hs))
      have := congrArg (List.count up) (hsplit.symm.trans hsame)
      simpa [List.count_append, List.count_replicate_self, count_up_names hnames, hdrop] using this
    have hpos : n ≠ 0 := by
      rw [hup] at hsplit
      rcases climbs_names_eq_cons hsplit with ⟨hn, -⟩ | ⟨-, rfl⟩
      · exact hn
      · exact absurd rfl (hnames up List.mem_cons_self).2
    apply List.eq_nil_of_length_eq_zero
    omega
  · intro h
    rw [resolveAgainst_eq parent (resolveAgainst parent id), hsplit,
      foldl_move_climbs_names hparent hnames, h, List.length_nil, Nat.sub_zero, List.drop_nil,
      List.reverse_nil, List.append_nil, ← hsplit, join_split]

end Twice

/-! ## Resolvers -/

theorem Resolver.resolve_of_parent {r : Resolver} {p : String} (h : r.parent = some p)
    (id : List Char) :
    r.resolve id = if isDotted id then resolveAgainst p.toList id else id := by
  rw [resolve, h]

theorem Resolver.resolve_ne_slash_cons {r : Resolver}
    (hparent : ∀ p, r.parent = some p → ∀ s ∈ split '/' p.toList, IsName s) (id : List Char) :
    r.resolve id ≠ '/' :: id := by
  cases hp : r.parent with
  | none =>
    rw [resolve_of_no_parent hp]
    exact (List.cons_ne_self '/' id).symm
  | some p =>
    rw [resolve_of_parent hp]
    split
    · rename_i hdotted
      exact resolveAgainst_ne_slash_cons (hparent p hp) hdotted
    · exact (List.cons_ne_self '/' id).symm

/-- A resolver leaves what it has resolved alone, unless that climbs and the parent has a folder. -/
theorem Resolver.resolve_twice_iff {r : Resolver}
    (hparent : ∀ p, r.parent = some p → ∀ s ∈ split '/' p.toList, IsName s) (id : List Char) :
    r.resolve (r.resolve id) = r.resolve id ↔
      ['.', '.', '/'].isPrefixOf (r.resolve id) = false ∨ r.parent = none ∨
        ∃ p, r.parent = some p ∧ '/' ∉ p.toList := by
  cases hp : r.parent with
  | none => simp [resolve, hp]
  | some p =>
    have hname := hparent p hp
    have hresolve := resolve_of_parent hp
    by_cases hclimbs : ['.', '.', '/'].isPrefixOf (r.resolve id) = true
    · -- What climbs was dotted before it was resolved, and still is.
      have hdotted : isDotted (r.resolve id) = true := Bool.or_eq_true_iff.mpr (.inr hclimbs)
      have hid : isDotted id = true := by
        by_cases h : isDotted id = true
        · exact h
        · rw [hresolve, if_neg h] at hdotted
          exact absurd hdotted h
      have hagainst : r.resolve id = resolveAgainst p.toList id := by
        rw [hresolve, if_pos hid]
      rw [hresolve (r.resolve id), if_pos hdotted, hagainst]
      rw [hagainst] at hclimbs
      rw [resolveAgainst_twice_iff hname hclimbs]
      simp [hclimbs]
    · have hclimbs := Bool.eq_false_iff.mpr hclimbs
      have hdotted : isDotted (r.resolve id) = false := by
        rw [isDotted, hclimbs, Bool.or_false]
        by_cases h : isDotted id = true
        · rw [hresolve, if_pos h]
          exact not_here_resolveAgainst hname
        · rw [hresolve, if_neg h]
          exact (Bool.or_eq_false_iff.mp (Bool.eq_false_iff.mpr h)).1
      rw [hresolve (r.resolve id), hdotted, if_neg Bool.false_ne_true]
      simp [hclimbs]

end MessageBundles.Module

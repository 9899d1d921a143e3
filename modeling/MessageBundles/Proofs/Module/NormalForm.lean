import Mathlib.Data.List.Infix
import Mathlib.Logic.Relation
import MessageBundles.Proofs.Module.Climbs

/-
  Normal forms — what a dotted identifier and its parent's folder come to

  A segment that stays can be left out of a run of segments, and so can a name with a climb behind it.
  Climbs and then names are what is left when nothing more can be left out. Resolving computes that,
  and it does not matter in which order segments are left out. What is proved:
    1. `foldl_move_eq_of_cancels` — leaving out does not change what a run does to a stack.
    2. `eq_of_reaches_of_isNormal` — so a run has one normal form at most.
    3. `cancels_foldl_move` — what a run does to a settled stack can be reached by leaving out.
    4. `lands_foldl_move` — as many climbs are left as the run is above its start at its highest.
    5. `resolve_normal_form` — the three together for a resolver, and what may be inserted into an
       identifier without a change.
-/

namespace MessageBundles.Module

open Text

instance : DecidablePred IsName := fun s => inferInstanceAs (Decidable (s ≠ here ∧ s ≠ up))

/-- One segment that stays, or a name and the climb behind it, is left out. -/
inductive Cancels : List Segment → List Segment → Prop where
  | stay (before after : List Segment) : Cancels (before ++ here :: after) (before ++ after)
  | climb {s : Segment} (h : IsName s) (before after : List Segment) :
      Cancels (before ++ s :: up :: after) (before ++ after)

/-- Whether a run of segments is climbs and then names, so that nothing can be left out. -/
def IsNormal (segments : List Segment) : Prop :=
  ∃ n names, (∀ s ∈ names, IsName s) ∧ segments = List.replicate n up ++ names

/-- How many segments of a run are names. -/
def nameCount (run : List Segment) : Nat := run.countP (decide <| IsName ·)

/-- How far a run of segments leads above its start, where the start is at some depth. -/
def overshoot (depth : Nat) (run : List Segment) : Nat :=
  run.count up - (depth + nameCount run)

/-- How far a run of segments leads above its start at its highest. -/
def highest (depth : Nat) (segments : List Segment) : Nat :=
  (segments.inits.map (overshoot depth)).foldl max 0

/-! ## Leaving out -/

theorem foldl_move_eq_of_cancels {a b : List Segment} (h : Cancels a b) (stack : List Segment) :
    a.foldl move stack = b.foldl move stack := by
  cases h with
  | stay before after => rw [List.foldl_append, List.foldl_append, List.foldl_cons, move_here]
  | climb hname before after =>
    rw [List.foldl_append, List.foldl_append, List.foldl_cons, List.foldl_cons, move_name hname,
      move_up_cons hname]

theorem foldl_move_eq_of_reaches {a b : List Segment} (h : Relation.ReflTransGen Cancels a b)
    (stack : List Segment) : a.foldl move stack = b.foldl move stack := by
  induction h with
  | refl => rfl
  | tail _ hstep ih => rw [ih, foldl_move_eq_of_cancels hstep]

/-- Climbs and then names put themselves on the empty stack. -/
theorem foldl_move_of_isNormal {form : List Segment} (h : IsNormal form) :
    form.foldl move [] = form.reverse := by
  obtain ⟨n, names, hnames, rfl⟩ := h
  have hclimbs := @foldl_move_climbs [] (by simp) n
  rw [List.drop_nil, List.nil_append, List.length_nil, Nat.sub_zero] at hclimbs
  rw [List.foldl_append, hclimbs, foldl_move_names hnames, List.reverse_append,
    List.reverse_replicate]

/-- In whatever order segments are left out, the same climbs and names remain. -/
theorem eq_of_reaches_of_isNormal {segments a b : List Segment}
    (ha : Relation.ReflTransGen Cancels segments a) (hb : Relation.ReflTransGen Cancels segments b)
    (hna : IsNormal a) (hnb : IsNormal b) : a = b := by
  apply List.reverse_inj.mp
  calc a.reverse = a.foldl move [] := (foldl_move_of_isNormal hna).symm
    _ = segments.foldl move [] := (foldl_move_eq_of_reaches ha []).symm
    _ = b.foldl move [] := foldl_move_eq_of_reaches hb []
    _ = b.reverse := foldl_move_of_isNormal hnb

/-- A move of a settled stack leaves out what it takes from the segments. -/
theorem cancels_move {stack : List Segment} (h : Settled stack) (s : Segment)
    (rest : List Segment) :
    Relation.ReflTransGen Cancels (stack.reverse ++ s :: rest) ((move stack s).reverse ++ rest) := by
  by_cases hhere : s = here
  · rw [hhere, move_here]
    exact .single (.stay stack.reverse rest)
  by_cases hup : s = up
  · obtain ⟨names, n, hnames, rfl⟩ := h
    subst hup
    cases names with
    | nil =>
      -- Above the top the climb is kept, at the other end of the stack of climbs.
      rw [List.nil_append, move_up_replicate, List.reverse_replicate, List.reverse_replicate,
        List.replicate_succ', List.append_assoc, List.singleton_append]
    | cons top below =>
      have htop := hnames top List.mem_cons_self
      rw [List.cons_append, move_up_cons htop, List.reverse_cons, List.append_assoc,
        List.singleton_append]
      exact .single (.climb htop _ rest)
  · rw [move_name ⟨hhere, hup⟩, List.reverse_cons, List.append_assoc, List.singleton_append]

/-- What a run of segments does to a settled stack is reached by leaving out. -/
theorem cancels_foldl_move {stack : List Segment} (h : Settled stack) (segments : List Segment) :
    Relation.ReflTransGen Cancels (stack.reverse ++ segments) (segments.foldl move stack).reverse := by
  induction segments generalizing stack with
  | nil => rw [List.append_nil, List.foldl_nil]
  | cons s rest ih => exact (cancels_move h s rest).trans (ih (settled_move h s))

/-! ## Counting climbs -/

theorem nameCount_concat (run : List Segment) (s : Segment) :
    nameCount (run ++ [s]) = nameCount run + if IsName s then 1 else 0 := by
  simp [nameCount, List.countP_append, List.countP_singleton]

theorem count_up_concat (run : List Segment) (s : Segment) :
    (run ++ [s]).count up = run.count up + if s = up then 1 else 0 := by
  simp [List.count_append, List.count_singleton]

/-- A run is at its highest behind its last segment, or it was before. -/
theorem highest_concat (depth : Nat) (run : List Segment) (s : Segment) :
    highest depth (run ++ [s]) = max (highest depth run) (overshoot depth (run ++ [s])) := by
  simp [highest, List.inits_append]

theorem overshoot_le_highest (depth : Nat) (run : List Segment) :
    overshoot depth run ≤ highest depth run := by
  induction run using List.reverseRecOn with
  | nil => simp [overshoot]
  | append_singleton run s => exact highest_concat depth run s ▸ Nat.le_max_right _ _

/-- Whether a stack is names over as many climbs as a run is above its start at its highest, where
every climb that is not on the stack has taken a name away. -/
def Lands (depth : Nat) (run stack : List Segment) : Prop :=
  ∃ names, (∀ s ∈ names, IsName s) ∧ stack = names ++ List.replicate (highest depth run) up ∧
    names.length + run.count up = depth + nameCount run + highest depth run

theorem lands_nil {stack : List Segment} (h : ∀ s ∈ stack, IsName s) :
    Lands stack.length [] stack :=
  ⟨stack, h, by simp [highest, overshoot], by simp [highest, overshoot, nameCount]⟩

/-- One more segment: a climb takes a name away, and where there is none it is left and leads one
higher than ever before. -/
theorem lands_move {depth : Nat} {run stack : List Segment} (h : Lands depth run stack)
    (s : Segment) : Lands depth (run ++ [s]) (move stack s) := by
  obtain ⟨names, hnames, rfl, hcount⟩ := h
  have hle := overshoot_le_highest depth run
  unfold overshoot at hle
  unfold Lands
  rw [highest_concat, overshoot, nameCount_concat, count_up_concat]
  by_cases hhere : s = here
  · subst hhere
    rw [move_here, if_neg (by decide), if_neg (by decide), Nat.add_zero, Nat.add_zero,
      Nat.max_eq_left hle]
    exact ⟨names, hnames, rfl, hcount⟩
  by_cases hup : s = up
  · subst hup
    rw [if_pos rfl, if_neg (by decide), Nat.add_zero (nameCount run)]
    cases names with
    | nil =>
      rw [List.length_nil] at hcount
      have hmax : max (highest depth run) (run.count up + 1 - (depth + nameCount run)) =
          highest depth run + 1 := by omega
      rw [hmax, List.nil_append, move_up_replicate]
      exact ⟨[], by simp, rfl, by rw [List.length_nil]; omega⟩
    | cons top below =>
      rw [List.length_cons] at hcount
      have hmax : max (highest depth run) (run.count up + 1 - (depth + nameCount run)) =
          highest depth run := by omega
      rw [hmax, List.cons_append, move_up_cons (hnames top List.mem_cons_self)]
      exact ⟨below, fun x hx => hnames x (List.mem_cons_of_mem top hx), rfl, by omega⟩
  · have hname : IsName s := ⟨hhere, hup⟩
    have hmax : max (highest depth run) (run.count up - (depth + (nameCount run + 1))) =
        highest depth run := by omega
    rw [move_name hname, if_neg hup, if_pos hname, Nat.add_zero, hmax]
    refine ⟨s :: names, ?_, rfl, by rw [List.length_cons]; omega⟩
    intro x hx
    rcases List.mem_cons.mp hx with rfl | hx
    · exact hname
    · exact hnames x hx

theorem lands_foldl_move {stack : List Segment} (h : ∀ s ∈ stack, IsName s)
    (segments : List Segment) : Lands stack.length segments (segments.foldl move stack) := by
  induction segments using List.reverseRecOn with
  | nil => exact lands_nil h
  | append_singleton run s ih =>
    rw [List.foldl_append, List.foldl_cons, List.foldl_nil]
    exact lands_move ih s

/-! ## Dotted identifiers -/

/-- The parent's folder, outermost segment first. -/
theorem reverse_folder (parent : List Char) :
    (folder parent).reverse = (split '/' parent).dropLast := by
  rw [folder, List.tail_reverse, List.reverse_reverse]

theorem isDotted_join {first : Segment} (hfirst : first = here ∨ first = up)
    {segments : List Segment} (hne : segments ≠ []) :
    isDotted (join '/' (first :: segments)) = true := by
  rw [join_cons_of_ne_nil '/' first hne, isDotted]
  rcases hfirst with rfl | rfl
  · exact Bool.or_eq_true_iff.mpr (.inl (by simp [here, List.isPrefixOf]))
  · exact Bool.or_eq_true_iff.mpr (.inr (by simp [up, List.isPrefixOf]))

theorem join_up_cons_ne_nil (segments : List Segment) : join '/' (up :: segments) ≠ [] := by
  cases segments <;> simp [join, up]

theorem split_of_isDotted {id : List Char} (h : isDotted id = true) :
    ∃ first rest, (first = here ∨ first = up) ∧ split '/' id = first :: split '/' rest := by
  rcases Bool.or_eq_true_iff.mp h with h | h
  · obtain ⟨-, rest, hsplit⟩ := split_of_isPrefixOf (s := here) (by decide) h
    exact ⟨here, rest, .inl rfl, hsplit⟩
  · obtain ⟨-, rest, hsplit⟩ := split_of_isPrefixOf (s := up) (by decide) h
    exact ⟨up, rest, .inr rfl, hsplit⟩

/-- Where one run of segments is another with something left out, they are as good in an
identifier. -/
theorem resolveAgainst_join_of_cancels (parent : List Char) {a b : List Segment}
    (ha : ∀ s ∈ a, '/' ∉ s) (hane : a ≠ []) (hb : ∀ s ∈ b, '/' ∉ s) (hbne : b ≠ [])
    (h : Cancels a b) : resolveAgainst parent (join '/' a) = resolveAgainst parent (join '/' b) := by
  rw [resolveAgainst_eq, resolveAgainst_eq, split_join hane ha, split_join hbne hb,
    foldl_move_eq_of_cancels h]

section Resolved
variable {parent : List Char} (hparent : ∀ s ∈ split '/' parent, IsName s) (id : List Char)
include hparent

/-- Resolving leaves as many climbs as the identifier leads above its parent's folder at its highest,
and then names. -/
theorem foldl_move_folder :
    ∃ names, (∀ s ∈ names, IsName s) ∧ ((split '/' id).foldl move (folder parent)).reverse =
      List.replicate (highest (split '/' parent).dropLast.length (split '/' id)) up ++ names := by
  obtain ⟨names, hnames, hstack, -⟩ :=
    lands_foldl_move (isName_of_mem_folder hparent) (split '/' id)
  have hlength : (folder parent).length = (split '/' parent).dropLast.length := by
    rw [← reverse_folder, List.length_reverse]
  refine ⟨names.reverse, fun s hs => hnames s (List.mem_reverse.mp hs), ?_⟩
  rw [hstack, hlength, List.reverse_append, List.reverse_replicate]

theorem reaches_foldl_move_folder :
    Relation.ReflTransGen Cancels ((split '/' parent).dropLast ++ split '/' id)
      ((split '/' id).foldl move (folder parent)).reverse := by
  rw [← reverse_folder]
  exact cancels_foldl_move
    ⟨folder parent, 0, isName_of_mem_folder hparent, (List.append_nil _).symm⟩ (split '/' id)

theorem split_resolveAgainst_highest :
    ∃ names, (∀ s ∈ names, IsName s) ∧ split '/' (resolveAgainst parent id) =
      List.replicate (highest (split '/' parent).dropLast.length (split '/' id)) up ++ names := by
  obtain ⟨names, hnames, hstack⟩ := foldl_move_folder hparent id
  by_cases hne : resolveAgainst parent id = []
  · -- The empty text is one empty segment, which is a name; a climb would not be empty.
    rw [resolveAgainst_eq, hstack] at hne
    cases hclimbs : highest (split '/' parent).dropLast.length (split '/' id) with
    | zero => exact ⟨[[]], by decide, by rw [resolveAgainst_eq, hstack, hne]; rfl⟩
    | succ n =>
      rw [hclimbs, List.replicate_succ, List.cons_append] at hne
      exact absurd hne (join_up_cons_ne_nil _)
  · exact ⟨names, hnames, by rw [split_resolveAgainst_eq hne, hstack]⟩

end Resolved

/-- Behind the first segment of a dotted identifier segments may be inserted that can be left out. -/
theorem Resolver.resolve_insert {r : Resolver} {p : String} (hp : r.parent = some p)
    {id : List Char} (hid : isDotted id = true) {first : Segment} {before after : List Segment}
    (hsplit : split '/' id = first :: (before ++ after)) (inserted : List Segment)
    (hslash : ∀ s ∈ inserted, '/' ∉ s)
    (hcancels : Cancels (first :: (before ++ (inserted ++ after))) (first :: (before ++ after))) :
    r.resolve (join '/' (first :: (before ++ (inserted ++ after)))) = r.resolve id := by
  obtain ⟨start, rest, hstart, hrest⟩ := split_of_isDotted hid
  obtain ⟨rfl, hbehind⟩ := List.cons.inj (hsplit.symm.trans hrest)
  have hne : before ++ after ≠ [] := hbehind ▸ split_ne_nil '/' rest
  have hnew : before ++ (inserted ++ after) ≠ [] := by
    simp only [ne_eq, List.append_eq_nil_iff, not_and] at hne ⊢
    exact fun hbefore _ => hne hbefore
  have hold : ∀ s ∈ first :: (before ++ after), '/' ∉ s := by
    intro s hs hmem
    exact (mem_of_mem_split (hsplit ▸ hs) '/' hmem).2 rfl
  have hall : ∀ s ∈ first :: (before ++ (inserted ++ after)), '/' ∉ s := by
    intro s hs
    by_cases hins : s ∈ inserted
    · exact hslash s hins
    · refine hold s ?_
      simp only [List.mem_cons, List.mem_append] at hs ⊢
      tauto
  have hjoin : id = join '/' (first :: (before ++ after)) := by rw [← hsplit, join_split]
  rw [resolve_of_parent hp, resolve_of_parent hp, if_pos hid, if_pos (isDotted_join hstart hnew),
    resolveAgainst_join_of_cancels p.toList hall (List.cons_ne_nil _ _) hold
      (List.cons_ne_nil _ _) hcancels, ← hjoin]

/-- A dotted identifier is resolved to climbs and then names: the one such run of segments that the
parent's folder and the identifier come to when segments are left out. The climbs are as many as the
identifier leads above the folder at its highest. A segment that stays, or a name and the climb behind
it, may be inserted anywhere behind the first segment. -/
theorem Resolver.resolve_normal_form {r : Resolver} {p : String} (hp : r.parent = some p)
    (hparent : ∀ s ∈ split '/' p.toList, s ≠ [] ∧ s ≠ here ∧ s ≠ up) {id : List Char}
    (hid : isDotted id = true) :
    (∃ names, (∀ s ∈ names, s ≠ here ∧ s ≠ up) ∧ split '/' (r.resolve id) =
      List.replicate (highest (split '/' p.toList).dropLast.length (split '/' id)) up ++ names) ∧
    (∃! form, IsNormal form ∧
      Relation.ReflTransGen Cancels ((split '/' p.toList).dropLast ++ split '/' id) form) ∧
    (∀ form, IsNormal form →
      Relation.ReflTransGen Cancels ((split '/' p.toList).dropLast ++ split '/' id) form →
      r.resolve id = join '/' form) ∧
    ∀ first before after, split '/' id = first :: (before ++ after) →
      r.resolve (join '/' (first :: (before ++ here :: after))) = r.resolve id ∧
      ∀ name, name ≠ here ∧ name ≠ up → '/' ∉ name →
        r.resolve (join '/' (first :: (before ++ name :: up :: after))) = r.resolve id := by
  have hnames : ∀ s ∈ split '/' p.toList, IsName s := fun s hs => (hparent s hs).2
  have hresolve : r.resolve id = resolveAgainst p.toList id := by
    rw [resolve_of_parent hp, if_pos hid]
  have hreach := reaches_foldl_move_folder hnames id
  have hnormal : IsNormal ((split '/' id).foldl move (folder p.toList)).reverse := by
    obtain ⟨names, hnames, hstack⟩ := foldl_move_folder hnames id
    exact ⟨_, names, hnames, hstack⟩
  have hunique : ∀ form, IsNormal form →
      Relation.ReflTransGen Cancels ((split '/' p.toList).dropLast ++ split '/' id) form →
      form = ((split '/' id).foldl move (folder p.toList)).reverse :=
    fun form hform hreaches => eq_of_reaches_of_isNormal hreaches hreach hform hnormal
  refine ⟨?_, ⟨_, ⟨hnormal, hreach⟩, fun form hform => hunique form hform.1 hform.2⟩, ?_, ?_⟩
  · rw [hresolve]
    exact split_resolveAgainst_highest hnames id
  · intro form hform hreaches
    rw [hresolve, resolveAgainst_eq, hunique form hform hreaches]
  · intro first before after hsplit
    constructor
    · exact resolve_insert hp hid hsplit [here] (by decide) (.stay (first :: before) after)
    · intro name hname hslash
      refine resolve_insert hp hid hsplit [name, up] ?_ (.climb hname (first :: before) after)
      intro s hs
      rcases List.mem_cons.mp hs with rfl | hs
      · exact hslash
      · rw [List.mem_singleton.mp hs]
        decide

/-- An identifier that climbs out of the parent's folder and goes down again, with an empty segment. -/
theorem Resolver.resolve_normal_form_climbing :
    ((ofBase "").withParent "a/b/c").resolve "./x/../../../../y//z/..".toList = "../y/".toList ∧
      highest 2 (split '/' "./x/../../../../y//z/..".toList) = 1 ∧
      ((ofBase "").withParent "a/b/c").resolve
          (join '/' (here :: ([] ++ "w".toList :: up ::
            split '/' "x/../../../../y//z/..".toList))) = "../y/".toList := by
  have hid : ((ofBase "").withParent "a/b/c").resolve "./x/../../../../y//z/..".toList =
      "../y/".toList := by decide
  have hdotted : isDotted "./x/../../../../y//z/..".toList = true := by decide
  obtain ⟨-, -, -, hinsert⟩ := resolve_normal_form (r := (ofBase "").withParent "a/b/c")
    (p := "a/b/c") rfl (by decide) hdotted
  obtain ⟨-, hclimb⟩ := hinsert here [] (split '/' "x/../../../../y//z/..".toList) (by decide)
  exact ⟨hid, by decide, (hclimb "w".toList (by decide) (by decide)).trans hid⟩

end MessageBundles.Module

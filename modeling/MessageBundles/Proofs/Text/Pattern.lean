import Mathlib.Data.List.TakeWhile
import MessageBundles.Proofs.Text.Pieces

/-
  Patterns — matching a text in the first way that works out

  A pattern may match a text in many ways. The ways are tried in order: a greedy repetition tries
  another round before it goes on, a lazy one goes on before it tries another round, and the first way
  that leads to the end of the whole pattern counts. A search takes the leftmost place from which
  there is a way at all. What is proved:
    1. `run_greedy_of_longest` and `run_greedy_of_refused` — a greedy repetition of a class takes all
       the characters it can, where what follows agrees to that, or takes nothing of the class.
    2. `run_lazy` — a lazy repetition of a class ends where what follows first works out.
    3. `find?_both_start` — a pattern tied to the start of a text is found there or nowhere.
    4. `filter_cut_stretch` — a text cut at every stretch of breaks is cut into its runs, apart from
       empty ones.
-/

namespace MessageBundles.Text

/-- A place in a text, and what groups have matched on the way to it, the last one first. -/
structure Pattern.Place where
  -- How many characters stand before the place.
  passed : Nat
  rest : List Char
  groups : List (Nat × List Char)

inductive Pattern where
  -- One character of a class.
  | one (p : Char → Bool)
  | both (a b : Pattern)
  -- Any number of rounds; the most are tried first if it is greedy, else the fewest.
  | many (greedy : Bool) (a : Pattern)
  | group (number : Nat) (a : Pattern)
  -- The start and the end of the whole text.
  | start
  | finish

namespace Pattern

/-- Up to so many rounds, each of which takes some of the text. -/
def rounds (greedy : Bool) (round : (Place → Option Place) → Place → Option Place)
    (next : Place → Option Place) : Nat → Place → Option Place
  | 0, s => next s
  | more + 1, s =>
    let again := round
      (fun t => if t.rest.length < s.rest.length then rounds greedy round next more t else none) s
    if greedy then again.or (next s) else (next s).or again

/-- The place that the first way to match a pattern leads to, among the ways from which what follows
works out. -/
def run : Pattern → (Place → Option Place) → Place → Option Place
  | one p, next, s =>
    match s.rest with
    | [] => none
    | c :: rest => if p c then next ⟨s.passed + 1, rest, s.groups⟩ else none
  | both a b, next, s => a.run (b.run next) s
  -- A text leaves room for no more rounds than it has characters.
  | many greedy a, next, s => rounds greedy a.run next s.rest.length s
  | group number a, next, s =>
    a.run (fun t =>
      next ⟨t.passed, t.rest, (number, s.rest.take (t.passed - s.passed)) :: t.groups⟩) s
  | start, next, s => if s.passed = 0 then next s else none
  | finish, next, s => if s.rest = [] then next s else none

def literal (x : Char) : Pattern := one (· == x)

/-- What a search skips before the leftmost match, and where the match ends. -/
def find? (p : Pattern) : Nat → List Char → Option (List Char × Place)
  | i, [] => (p.run some ⟨i, [], []⟩).map ([], ·)
  | i, c :: rest =>
    ((p.run some ⟨i, c :: rest, []⟩).map ([], ·)).or
      ((p.find? (i + 1) rest).map fun found => (c :: found.1, found.2))

/-- What stands between the matches of a pattern, one after the other from the left. A match of no
characters is no cut. -/
def cut (p : Pattern) (i : Nat) (cs : List Char) : List (List Char) :=
  match p.find? i cs with
  | none => [cs]
  | some (piece, t) => if t.rest.length < cs.length then piece :: p.cut t.passed t.rest else [cs]
termination_by cs.length

/-! ## Repetitions of a class -/

section Many
variable {p : Char → Bool} {greedy : Bool} {next : Place → Option Place} {i : Nat}
  {gs : List (Nat × List Char)}

theorem run_many_cons (c : Char) (cs : List Char) :
    (many greedy (one p)).run next ⟨i, c :: cs, gs⟩ =
      if p c then
        if greedy then ((many greedy (one p)).run next ⟨i + 1, cs, gs⟩).or (next ⟨i, c :: cs, gs⟩)
        else (next ⟨i, c :: cs, gs⟩).or ((many greedy (one p)).run next ⟨i + 1, cs, gs⟩)
      else next ⟨i, c :: cs, gs⟩ := by
  by_cases hc : p c = true <;> cases greedy <;> simp [run, rounds, hc]

/-- If what follows works out behind all the characters of a class, these are what is taken. -/
theorem run_greedy_of_longest {cs : List Char} {t : Place}
    (h : next ⟨i + (cs.takeWhile p).length, cs.dropWhile p, gs⟩ = some t) :
    (many true (one p)).run next ⟨i, cs, gs⟩ = some t := by
  induction cs generalizing i with
  | nil => exact h
  | cons c rest ih =>
    rw [run_many_cons]
    by_cases hc : p c = true
    · rw [List.takeWhile_cons_of_pos hc, List.dropWhile_cons_of_pos hc, List.length_cons,
        ← Nat.add_assoc, Nat.add_right_comm] at h
      rw [if_pos hc, if_pos rfl, ih h, Option.some_or]
    · rw [List.takeWhile_cons_of_neg hc, List.dropWhile_cons_of_neg hc] at h
      rw [if_neg hc]
      exact h

/-- If what follows cannot start with a character of the class, all of them are taken. -/
theorem run_greedy_of_refused
    (h : ∀ i c cs gs, p c = true → next ⟨i, c :: cs, gs⟩ = none) (cs : List Char) :
    (many true (one p)).run next ⟨i, cs, gs⟩ =
      next ⟨i + (cs.takeWhile p).length, cs.dropWhile p, gs⟩ := by
  induction cs generalizing i with
  | nil => rfl
  | cons c rest ih =>
    rw [run_many_cons]
    by_cases hc : p c = true
    · rw [if_pos hc, if_pos rfl, h i c rest gs hc, Option.or_none, ih,
        List.takeWhile_cons_of_pos hc, List.dropWhile_cons_of_pos hc, List.length_cons,
        ← Nat.add_assoc, Nat.add_right_comm]
    · rw [if_neg hc, List.takeWhile_cons_of_neg hc, List.dropWhile_cons_of_neg hc]
      rfl

/-- A lazy repetition ends where what follows first works out. -/
theorem run_lazy {a b : List Char} {t : Place} (ha : ∀ c ∈ a, p c = true)
    (hbefore : ∀ x y, a = x ++ y → y ≠ [] → next ⟨i + x.length, y ++ b, gs⟩ = none)
    (h : next ⟨i + a.length, b, gs⟩ = some t) :
    (many false (one p)).run next ⟨i, a ++ b, gs⟩ = some t := by
  induction a generalizing i with
  | nil =>
    cases b with
    | nil => exact h
    | cons c rest =>
      rw [List.nil_append, run_many_cons, show next ⟨i, c :: rest, gs⟩ = some t from h]
      simp
  | cons c rest ih =>
    have hfirst : next ⟨i, c :: (rest ++ b), gs⟩ = none := hbefore [] (c :: rest) rfl (by simp)
    rw [List.cons_append, run_many_cons, if_pos (ha c List.mem_cons_self), if_neg (by simp), hfirst,
      Option.none_or]
    refine ih (fun x hx => ha x (List.mem_cons_of_mem c hx)) ?_ ?_
    · intro x y hxy hy
      have := hbefore (c :: x) y (by rw [hxy]; rfl) hy
      rwa [List.length_cons, ← Nat.add_assoc, Nat.add_right_comm] at this
    · rwa [List.length_cons, ← Nat.add_assoc, Nat.add_right_comm] at h

theorem run_lazy_eq_none {cs : List Char}
    (h : ∀ x y, cs = x ++ y → next ⟨i + x.length, y, gs⟩ = none) :
    (many false (one p)).run next ⟨i, cs, gs⟩ = none := by
  induction cs generalizing i with
  | nil => exact h [] [] rfl
  | cons c rest ih =>
    have hfirst : next ⟨i, c :: rest, gs⟩ = none := h [] (c :: rest) rfl
    have hrest : (many false (one p)).run next ⟨i + 1, rest, gs⟩ = none := by
      refine ih fun x y hxy => ?_
      have := h (c :: x) y (by rw [hxy]; rfl)
      rwa [List.length_cons, ← Nat.add_assoc, Nat.add_right_comm] at this
    rw [run_many_cons, hfirst, hrest]
    simp

end Many

/-! ## A single character -/

section Literal
variable {x : Char} {next : Place → Option Place} {i : Nat} {cs : List Char}
  {gs : List (Nat × List Char)}

theorem run_literal_cons : (literal x).run next ⟨i, x :: cs, gs⟩ = next ⟨i + 1, cs, gs⟩ := by
  simp [literal, run]

theorem run_literal_eq_none (h : cs.head? ≠ some x) : (literal x).run next ⟨i, cs, gs⟩ = none := by
  cases cs with
  | nil => rfl
  | cons c rest =>
    have hc : c ≠ x := fun heq => h (congrArg some heq)
    simp [literal, run, hc]

end Literal

/-! ## Searches -/

theorem find?_of_run {q : Pattern} {i : Nat} {cs : List Char} {t : Place}
    (h : q.run some ⟨i, cs, []⟩ = some t) : q.find? i cs = some ([], t) := by
  cases cs <;> simp [find?, h]

/-- A pattern that is tied to the start of a text is found there or nowhere. -/
theorem find?_both_start {a : Pattern} {cs : List Char}
    (h : (both start a).run some ⟨0, cs, []⟩ = none) : (both start a).find? 0 cs = none := by
  have hlater : ∀ (i : Nat) (cs : List Char), (both start a).find? (i + 1) cs = none := by
    intro i cs
    induction cs generalizing i with
    | nil => simp [find?, run]
    | cons c rest ih => simp [find?, run, ih]
  cases cs with
  | nil => simp [find?, h]
  | cons c rest => simp [find?, h, hlater]

theorem cut_of_find? {q : Pattern} {i : Nat} {cs piece : List Char} {t : Place}
    (h : q.find? i cs = some (piece, t)) (hshorter : t.rest.length < cs.length) :
    q.cut i cs = piece :: q.cut t.passed t.rest := by
  rw [cut, h]
  exact if_pos hshorter

/-! ## Cutting at stretches of breaks -/

/-- Every stretch of characters of a class, as long as it goes. -/
def stretch (p : Char → Bool) : Pattern := both (one p) (many true (one p))

section Stretch
variable {p : Char → Bool}

theorem run_stretch (i : Nat) (b : Char) (rest : List Char) (hb : p b = true) :
    ∃ j, (stretch p).run some ⟨i, b :: rest, []⟩ = some ⟨j, rest.dropWhile p, []⟩ := by
  refine ⟨i + 1 + (rest.takeWhile p).length, ?_⟩
  simp only [stretch, run, hb, if_true]
  exact run_greedy_of_longest rfl

theorem find?_stretch_cons (i : Nat) {c : Char} (hc : p c = false) (rest : List Char) :
    (stretch p).find? i (c :: rest) =
      ((stretch p).find? (i + 1) rest).map fun found => (c :: found.1, found.2) := by
  have hrun : (stretch p).run some ⟨i, c :: rest, []⟩ = none := by simp [stretch, run, hc]
  rw [find?, hrun, Option.map_none, Option.none_or]

theorem find?_stretch (i : Nat) {line : List Char} (hline : ∀ c ∈ line, p c = false) {b : Char}
    (hb : p b = true) (rest : List Char) :
    ∃ j, (stretch p).find? i (line ++ b :: rest) = some (line, ⟨j, rest.dropWhile p, []⟩) := by
  induction line generalizing i with
  | nil =>
    obtain ⟨j, hj⟩ := run_stretch i b rest hb
    exact ⟨j, find?_of_run hj⟩
  | cons c line ih =>
    obtain ⟨j, hj⟩ := ih (i + 1) fun x hx => hline x (List.mem_cons_of_mem c hx)
    refine ⟨j, ?_⟩
    rw [List.cons_append, find?_stretch_cons i (hline c List.mem_cons_self), hj, Option.map_some]

theorem find?_stretch_eq_none (i : Nat) {line : List Char} (hline : ∀ c ∈ line, p c = false) :
    (stretch p).find? i line = none := by
  induction line generalizing i with
  | nil => rfl
  | cons c line ih =>
    rw [find?_stretch_cons i (hline c List.mem_cons_self),
      ih (i + 1) fun x hx => hline x (List.mem_cons_of_mem c hx), Option.map_none]

theorem filter_runs_dropWhile (cs : List Char) :
    (runs p (cs.dropWhile p)).filter (!·.isEmpty) = (runs p cs).filter (!·.isEmpty) := by
  induction cs with
  | nil => rfl
  | cons c rest ih =>
    by_cases hc : p c = true
    · rw [List.dropWhile_cons_of_pos hc, ih, runs, if_pos hc, List.filter_cons_of_neg (by simp)]
    · rw [List.dropWhile_cons_of_neg hc]

/-- A text that is cut at every stretch of a class is cut into the runs between, but for empty ones. -/
theorem filter_cut_stretch (i : Nat) (cs : List Char) :
    ((stretch p).cut i cs).filter (!·.isEmpty) = (runs p cs).filter (!·.isEmpty) := by
  have hline : ∀ c ∈ cs.takeWhile (!p ·), p c = false := by
    intro c hc
    simpa using List.mem_takeWhile_imp hc
  have hcs := List.takeWhile_append_dropWhile (p := (!p ·)) (l := cs)
  cases hdrop : cs.dropWhile (!p ·) with
  | nil =>
    rw [hdrop, List.append_nil] at hcs
    rw [hcs] at hline
    rw [cut, find?_stretch_eq_none i hline, runs_of_forall hline]
  | cons b rest =>
    have hb : p b = true := by simpa using head?_dropWhile (!p ·) cs b (by rw [hdrop]; rfl)
    rw [hdrop] at hcs
    obtain ⟨j, hfound⟩ := find?_stretch i hline hb rest
    rw [hcs] at hfound
    have hshorter : (rest.dropWhile p).length < cs.length := by
      have hle := (List.dropWhile_suffix p (l := rest)).length_le
      have hlen := congrArg List.length hcs
      rw [List.length_append, List.length_cons] at hlen
      omega
    have hruns : runs p cs = cs.takeWhile (!p ·) :: runs p rest := by
      rw [← runs_append_cons hline hb rest, hcs]
    rw [cut_of_find? hfound hshorter, hruns, List.filter_cons, List.filter_cons,
      filter_cut_stretch j (rest.dropWhile p), filter_runs_dropWhile]
termination_by cs.length

end Stretch

end Pattern

end MessageBundles.Text

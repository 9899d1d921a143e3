import MessageBundles.Proofs.Loader.OneFetch
import MessageBundles.Session

/-
  Histories — what the steps of a session leave behind for those after them

  A session over a table in memory counts the fetches it tries, and its table grows by what is put
  there. Nothing else of a step is left. What is proved:
    1. `run_session_memory` — what one step of any kind leaves behind, by `after_memory` what a run of
       steps does.
    2. `run_calls` — no answer depends on the count.
    3. `insertMany_congr` — the table depends on the last insert for each locator alone.
    4. `runAll_overMemory` — the count behind every step of a run, and the answer of every step from
       the last inserts before it alone.
-/

namespace MessageBundles

/-- A load tries one fetch, or none where it is left to a later run or has no identifier. -/
theorem Loader.length_fetched_load (l : Loader) (f : Fetcher) (w : World) (mode : Mode)
    (reference : Option String) :
    (l.load f w mode reference).fetched.length =
      if mode = .runtime ∧ reference ≠ some "/" then 1 else 0 := by
  cases hid : (Reference.classify reference).identify with
  | error e =>
    have hslash := (Reference.identify_eq_error_iff.mp hid).1
    rw [load_of_identify_error hid, if_neg (fun h => h.2 hslash)]
    rfl
  | ok id =>
    have hslash : reference ≠ some "/" := by
      intro h
      rw [Reference.identify_eq_error_iff.mpr ⟨h, rfl⟩] at hid
      cases hid
    cases mode with
    | build => simp [load_build hid]
    | runtime => simp [load_runtime hid, hslash]

namespace Session

/-! ## What a step leaves behind -/

/-- Whether a step tries a fetch, for the mode of loads that name none. -/
def Step.fetches (mode : Mode) : Step → Bool
  | .load reference own => decide (own.getD mode = .runtime ∧ reference ≠ some "/")
  | .fetch _ => true
  | .cacheKey _ | .locate _ | .insert _ _ => false

def Step.inserted? : Step → Option (String × String)
  | .insert locator text => some (locator, text)
  | .load _ _ | .fetch _ | .cacheKey _ | .locate _ => none

def Step.isInsert (step : Step) : Bool := step.inserted?.isSome

/-- The text that the last insert for a locator puts there. -/
def lastInsert? (locator : String) : List Step → Option String
  | [] => none
  | step :: rest =>
    (lastInsert? locator rest).or
      (step.inserted?.bind fun e => if locator = e.1 then some e.2 else none)

/-- The session behind a run of steps. -/
def after (w : World) (s : Session) (steps : List Step) : Session :=
  steps.foldl (fun s step => (s.run w step).session) s

/-- The session of settings with a table in memory, before its first step. -/
def overMemory (s : Settings) (texts : Dict String) : Session :=
  ⟨Loader.ofSettings s.loader, s.loader.mode, .memory texts, 0⟩

section Memory
variable (w : World) (l : Loader) (mode : Mode)

/-- A step counts the fetch it tries, if it tries one, and leaves in the table what it puts there. -/
theorem run_session_memory (texts : Dict String) (n : Nat) (step : Step) :
    (run ⟨l, mode, .memory texts, n⟩ w step).session =
      ⟨l, mode, .memory (texts.insertMany step.inserted?.toList),
        n + if step.fetches mode then 1 else 0⟩ := by
  cases step with
  | load reference own =>
    simp only [run, Loader.length_fetched_load, Step.fetches, decide_eq_true_eq]
    rfl
  | fetch locator => rfl
  | cacheKey reference => rfl
  | locate reference => rfl
  | insert locator text => rfl

theorem after_memory (texts : Dict String) (n : Nat) (steps : List Step) :
    after w ⟨l, mode, .memory texts, n⟩ steps =
      ⟨l, mode, .memory (texts.insertMany (steps.filterMap Step.inserted?)),
        n + steps.countP (Step.fetches mode)⟩ := by
  induction steps generalizing texts n with
  | nil => rfl
  | cons step rest ih =>
    have hcount : n + (if step.fetches mode then 1 else 0) + rest.countP (Step.fetches mode) =
        n + (step :: rest).countP (Step.fetches mode) := by
      rw [List.countP_cons]
      omega
    rw [after, List.foldl_cons, run_session_memory, Dict.insertMany_filterMap_cons, ← hcount]
    exact ih _ _

end Memory

/-! ## Runs -/

theorem runAll_append (w : World) (s : Session) (before rest : List Step) :
    runAll w s (before ++ rest) = runAll w s before ++ runAll w (after w s before) rest := by
  induction before generalizing s with
  | nil => rfl
  | cons step before ih => simp only [List.cons_append, runAll, ih, after, List.foldl_cons]

/-- The turn of a step is that of the session its history leaves behind. -/
theorem getElem?_runAll (w : World) (s : Session) (before : List Step) (step : Step)
    (rest : List Step) :
    (runAll w s (before ++ step :: rest))[before.length]? =
      some ((after w s before).run w step) := by
  rw [runAll_append, ← length_runAll w s before, List.getElem?_append_right (Nat.le_refl _),
    Nat.sub_self]
  rfl

/-- A step never asks how many fetches were tried before it. -/
theorem run_calls (l : Loader) (mode : Mode) (f : Fetcher) (n k : Nat) (w : World) (step : Step) :
    (run ⟨l, mode, f, n⟩ w step).answer = (run ⟨l, mode, f, k⟩ w step).answer ∧
      (run ⟨l, mode, f, n⟩ w step).requests = (run ⟨l, mode, f, k⟩ w step).requests := by
  cases step <;> exact ⟨rfl, rfl⟩

/-! ## The last inserts -/

theorem findEntry_inserted (locator : String) (steps : List Step) :
    Dict.findEntry locator (steps.filterMap Step.inserted?).reverse = lastInsert? locator steps := by
  induction steps with
  | nil => rfl
  | cons step rest ih =>
    rw [lastInsert?, ← ih]
    cases h : step.inserted? with
    | none => simp [h]
    | some e => simp [h, Dict.findEntry_append, Dict.findEntry]

theorem insertMany_congr {a b : List Step}
    (h : ∀ locator, lastInsert? locator a = lastInsert? locator b) (texts : Dict String) :
    texts.insertMany (a.filterMap Step.inserted?) = texts.insertMany (b.filterMap Step.inserted?) := by
  refine Dict.ext_find? fun locator => ?_
  rw [Dict.find?_insertMany, Dict.find?_insertMany, findEntry_inserted, findEntry_inserted, h]

theorem lastInsert?_filter (locator : String) (steps : List Step) :
    lastInsert? locator (steps.filter Step.isInsert) = lastInsert? locator steps := by
  induction steps with
  | nil => rfl
  | cons step rest ih =>
    cases h : step.inserted? with
    | none => rw [List.filter_cons_of_neg (by simp [Step.isInsert, h]), ih]; simp [lastInsert?, h]
    | some e => rw [List.filter_cons_of_pos (by simp [Step.isInsert, h]), lastInsert?, lastInsert?, ih]

/-- A step is answered alike after two histories with the same last inserts. -/
theorem run_after_congr (w : World) (s : Settings) (texts : Dict String) {a b : List Step}
    (h : ∀ locator, lastInsert? locator a = lastInsert? locator b) (step : Step) :
    ((after w (overMemory s texts) a).run w step).answer =
        ((after w (overMemory s texts) b).run w step).answer ∧
      ((after w (overMemory s texts) a).run w step).requests =
        ((after w (overMemory s texts) b).run w step).requests := by
  rw [overMemory, after_memory, after_memory, insertMany_congr h]
  exact run_calls _ _ _ _ _ w step

/-- Behind every step the session has counted the fetches tried so far, the step itself included. The
step is answered as in a fresh session in which only the inserts before it were run, and as after any
other history with the same last insert for each locator. -/
theorem runAll_overMemory (s : Settings) (texts : Dict String) (w : World) (before : List Step)
    (step : Step) (rest : List Step) :
    ∃ turn, (runAll w (overMemory s texts) (before ++ step :: rest))[before.length]? = some turn ∧
      turn.session.calls = (before ++ [step]).countP (Step.fetches s.loader.mode) ∧
      (∃ fresh, (runAll w (overMemory s texts)
            (before.filter Step.isInsert ++ [step])).getLast? = some fresh ∧
          turn.answer = fresh.answer ∧ turn.requests = fresh.requests) ∧
      ∀ other : List Step, (∀ locator, lastInsert? locator before = lastInsert? locator other) →
        ∃ fresh, (runAll w (overMemory s texts) (other ++ [step])).getLast? = some fresh ∧
          turn.answer = fresh.answer ∧ turn.requests = fresh.requests := by
  have hlast (other : List Step) : (runAll w (overMemory s texts) (other ++ [step])).getLast? =
      some ((after w (overMemory s texts) other).run w step) := by
    rw [runAll_append]
    exact List.getLast?_concat
  refine ⟨_, getElem?_runAll w (overMemory s texts) before step rest, ?_, ?_, ?_⟩
  · rw [overMemory, after_memory, run_session_memory, List.countP_append, List.countP_singleton]
    exact congrArg (· + _) (Nat.zero_add _)
  · refine ⟨_, hlast _, run_after_congr w s texts (fun locator => ?_) step⟩
    exact (lastInsert?_filter locator before).symm
  · exact fun other hother => ⟨_, hlast other, run_after_congr w s texts hother step⟩

/-- A load sees the text put there last, and a fetch of nothing counts as well. -/
theorem runAll_overMemory_overwritten :
    ∃ turn, (runAll ⟨⟨fun _ => none, []⟩, .unreachable⟩ (overMemory Settings.default Dict.empty)
        [.insert "./a/b.properties" "k=1", .fetch "nowhere", .load (some "/") none,
          .insert "./a/b.properties" "k=2", .load (some "a/b") none])[4]? = some turn ∧
      turn.session.calls = 2 ∧
      ∃ fresh, (runAll ⟨⟨fun _ => none, []⟩, .unreachable⟩ (overMemory Settings.default Dict.empty)
          [.insert "./a/b.properties" "k=2", .load (some "a/b") none]).getLast? = some fresh ∧
        turn.answer = fresh.answer ∧ turn.requests = fresh.requests := by
  obtain ⟨turn, hturn, hcalls, -, hother⟩ := runAll_overMemory Settings.default Dict.empty
    ⟨⟨fun _ => none, []⟩, .unreachable⟩
    [.insert "./a/b.properties" "k=1", .fetch "nowhere", .load (some "/") none,
      .insert "./a/b.properties" "k=2"] (.load (some "a/b") none) []
  refine ⟨turn, hturn, hcalls, hother [.insert "./a/b.properties" "k=2"] fun locator => ?_⟩
  by_cases h : locator = "./a/b.properties" <;> simp [lastInsert?, Step.inserted?, h]

end Session

end MessageBundles

import MessageBundles.Bundle.Properties
import MessageBundles.Proofs.Text.Pattern

/-
  Property lines by patterns — a text read line by line with three patterns

  A text is cut at stretches of line breaks. Of each piece a pattern tells whether it is a comment, and
  another one finds a key and a message in it, with repetitions next to each other that all take
  blanks. What is proved:
    1. `run_value` — behind the separator the message is found, trimmed, whatever stands there.
    2. `run_entry_of_separator` and `run_entry_eq_none_of_cons` — the key ends before the first
       separator behind the first character, trimmed, and a line without one has no entry.
    3. `bindBy_eq` — on one line the patterns bind what the line binds.
    4. `ofPatterns?_eq_fromProperties` — on every text they find a bundle, the one it describes.
-/

namespace MessageBundles.Bundle

open Text Pattern

/-! ## The patterns -/

/-- `[\n\r]+` -/
def lineBreaks : Pattern := stretch isLineBreak

def blanks : Pattern := many true (one isBlank)

/-- As few characters as will do; a line feed is none of them. -/
def few : Pattern := many false (one (· != '\n'))

/-- `^\s*#` -/
def comment : Pattern := both start (both blanks (literal '#'))

/-- `\s*(.*?)\s*$` -/
def value : Pattern := both blanks (both (group 2 few) (both blanks finish))

/-- `\s*=\s*(.*?)\s*$` -/
def separator : Pattern := both blanks (both (literal '=') value)

/-- `(\S.*?)\s*=\s*(.*?)\s*$` -/
def binding : Pattern := both (group 1 (both (one (!isBlank ·)) few)) separator

/-- `^\s*(\S.*?)\s*=\s*(.*?)\s*$` -/
def entry : Pattern := both start (both blanks binding)

/-- Bind what the patterns find on a line. There is no answer where an entry is found without one of
its groups. -/
def bindBy (d : Dict String) (line : List Char) : Option (Dict String) :=
  if (comment.find? 0 line).isSome then some d
  else match entry.find? 0 line with
    | none => some d
    | some (_, found) => do
      let key ← found.groups.lookup 1
      let message ← found.groups.lookup 2
      return d.insert (String.ofList key) (String.ofList message)

/-- The bundle that the patterns find in a text. -/
def ofPatterns? (text : String) : Option Bundle :=
  ((lineBreaks.cut 0 text.toList).foldlM bindBy Dict.empty).map Bundle.mk

/-! ## Few characters in front of blanks -/

/-- A text that starts with something that has no blank end is not all blank. -/
theorem exists_dropWhile_append {y : List Char} (hne : y ≠ [])
    (hlast : ∀ c ∈ y.getLast?, isBlank c = false) (w : List Char) :
    ∃ c tail, (y ++ w).dropWhile isBlank = c :: tail ∧ c ∈ y ∧ isBlank c = false := by
  induction y with
  | nil => exact absurd rfl hne
  | cons x rest ih =>
    by_cases hx : isBlank x = true
    · cases rest with
      | nil =>
        rw [hlast x rfl] at hx
        cases hx
      | cons y rest =>
        obtain ⟨c, tail, hdrop, hc, hblank⟩ := ih (List.cons_ne_nil y rest) hlast
        refine ⟨c, tail, ?_, List.mem_cons_of_mem x hc, hblank⟩
        rw [List.cons_append, List.dropWhile_cons_of_pos hx, hdrop]
    · refine ⟨x, rest ++ w, ?_, List.mem_cons_self, Bool.eq_false_iff.mpr hx⟩
      rw [List.cons_append, List.dropWhile_cons_of_neg hx]

/-- Few characters are all up to the blank end of a text, if what follows refuses every other
character of it behind blanks. -/
theorem run_few {cs w : List Char} {next : Place → Option Place} {i : Nat}
    {gs : List (Nat × List Char)} {t : Place} (hline : ∀ c ∈ cs, c ≠ '\n')
    (hrefused : ∀ j x c tail, x.dropWhile isBlank = c :: tail → c ∈ cs → isBlank c = false →
      next ⟨j, x, gs⟩ = none)
    (h : next ⟨i + (dropEndWhile isBlank cs).length, w, gs⟩ = some t) :
    few.run next ⟨i, dropEndWhile isBlank cs ++ w, gs⟩ = some t := by
  refine run_lazy (fun c hc => bne_iff_ne.mpr (hline c (mem_of_mem_dropEndWhile hc))) ?_ h
  intro x y hxy hy
  -- What is left of the text still has its last character, which is no blank.
  have hlast : ∀ c ∈ y.getLast?, isBlank c = false := by
    intro c hc
    apply getLast?_dropEndWhile isBlank cs
    rw [hxy, List.getLast?_append, Option.mem_def.mp hc]
    rfl
  obtain ⟨c, tail, hdrop, hc, hblank⟩ := exists_dropWhile_append hy hlast w
  have hmem : c ∈ dropEndWhile isBlank cs := by
    rw [hxy]
    exact List.mem_append_right x hc
  exact hrefused _ _ c tail hdrop (mem_of_mem_dropEndWhile hmem) hblank

/-- Blanks in front of a character that is none are passed over, all of them. -/
theorem run_blanks_literal {x : Char} (hx : isBlank x = false) (next : Place → Option Place) (i : Nat)
    (cs : List Char) (gs : List (Nat × List Char)) :
    blanks.run ((literal x).run next) ⟨i, cs, gs⟩ =
      (literal x).run next ⟨i + (cs.takeWhile isBlank).length, cs.dropWhile isBlank, gs⟩ := by
  refine run_greedy_of_refused (fun i c cs gs hc => run_literal_eq_none ?_) cs
  rintro ⟨⟩
  rw [hc] at hx
  cases hx

/-! ## The value -/

theorem run_finish (i : Nat) (cs : List Char) (gs : List (Nat × List Char)) :
    (both blanks finish).run some ⟨i, cs, gs⟩ =
      finish.run some ⟨i + (cs.takeWhile isBlank).length, cs.dropWhile isBlank, gs⟩ :=
  run_greedy_of_refused (fun _ _ _ _ _ => rfl) cs

theorem run_finish_of_blank {cs : List Char} (h : ∀ c ∈ cs, isBlank c = true) (i : Nat)
    (gs : List (Nat × List Char)) :
    ∃ j, (both blanks finish).run some ⟨i, cs, gs⟩ = some ⟨j, [], gs⟩ := by
  rw [run_finish, dropWhile_eq_nil_of_forall h]
  exact ⟨_, rfl⟩

/-- Behind a separator the message is found, trimmed, whatever stands there. -/
theorem run_value (i : Nat) {v : List Char} (hv : ∀ c ∈ v, c ≠ '\n')
    (gs : List (Nat × List Char)) :
    ∃ t, value.run some ⟨i, v, gs⟩ = some t ∧ t.groups = (2, trim isBlank v) :: gs := by
  let j := i + (v.takeWhile isBlank).length
  let next : Place → Option Place := fun t => (both blanks finish).run some
    ⟨t.passed, t.rest, (2, (v.dropWhile isBlank).take (t.passed - j)) :: t.groups⟩
  obtain ⟨ending, hcs, hending⟩ := dropEndWhile_append isBlank (v.dropWhile isBlank)
  have htake : (v.dropWhile isBlank).take (trim isBlank v).length = trim isBlank v := by
    rw [hcs]
    exact List.take_left
  obtain ⟨k, hk⟩ := run_finish_of_blank hending (j + (trim isBlank v).length)
    ((2, trim isBlank v) :: gs)
  have hend : next ⟨j + (trim isBlank v).length, ending, gs⟩ =
      some ⟨k, [], (2, trim isBlank v) :: gs⟩ := by
    simp only [next, Nat.add_sub_cancel_left, htake, hk]
  have hgroup : few.run next ⟨j, v.dropWhile isBlank, gs⟩ =
      some ⟨k, [], (2, trim isBlank v) :: gs⟩ := by
    rw [hcs]
    refine run_few (fun c hc => hv c (List.dropWhile_subset _ hc)) ?_ hend
    intro i x c tail hdrop _ _
    simp only [next]
    rw [run_finish, hdrop]
    rfl
  exact ⟨_, run_greedy_of_longest hgroup, rfl⟩

/-! ## The entry -/

theorem run_separator (i : Nat) (cs : List Char) (gs : List (Nat × List Char)) :
    separator.run some ⟨i, cs, gs⟩ =
      (literal '=').run (value.run some)
        ⟨i + (cs.takeWhile isBlank).length, cs.dropWhile isBlank, gs⟩ :=
  run_blanks_literal (by decide) (value.run some) i cs gs

/-- An entry starts at the first character that is no blank. -/
theorem run_entry (line : List Char) :
    entry.run some ⟨0, line, []⟩ =
      binding.run some ⟨0 + (line.takeWhile isBlank).length, line.dropWhile isBlank, []⟩ := by
  have hrefused : ∀ i c cs gs, isBlank c = true → binding.run some ⟨i, c :: cs, gs⟩ = none := by
    intro i c cs gs hc
    simp [binding, run, hc]
  exact run_greedy_of_refused hrefused line

section Entry
variable {line : List Char} {c : Char} {rest : List Char}

/-- What is tried, place by place, behind the first character of a key. -/
theorem run_entry_cons (hbody : line.dropWhile isBlank = c :: rest) :
    entry.run some ⟨0, line, []⟩ =
      few.run (fun t => separator.run some ⟨t.passed, t.rest,
          (1, (c :: rest).take (t.passed - (line.takeWhile isBlank).length)) :: t.groups⟩)
        ⟨(line.takeWhile isBlank).length + 1, rest, []⟩ := by
  have hc : isBlank c = false := head?_dropWhile isBlank line c (by rw [hbody]; rfl)
  rw [run_entry, hbody, Nat.zero_add]
  simp [binding, run, hc]

/-- Between a text, its blank end apart, and the separator behind it there is nothing but blanks. -/
theorem exists_blanks_before_separator {v : List Char}
    (hrest : rest.dropWhile (· != '=') = '=' :: v) :
    ∃ w, rest = dropEndWhile isBlank (rest.takeWhile (· != '=')) ++ w ∧
      w.dropWhile isBlank = '=' :: v := by
  obtain ⟨ending, hcs, hending⟩ := dropEndWhile_append isBlank (rest.takeWhile (· != '='))
  refine ⟨ending ++ '=' :: v, ?_, ?_⟩
  · rw [← List.append_assoc, ← hcs, ← hrest, List.takeWhile_append_dropWhile]
  · rw [List.dropWhile_append_of_pos hending]
    rfl

/-- The key ends before the first separator behind its first character, and is found trimmed. -/
theorem run_entry_of_separator (hline : ∀ x ∈ line, x ≠ '\n')
    (hbody : line.dropWhile isBlank = c :: rest) {v : List Char}
    (hrest : rest.dropWhile (· != '=') = '=' :: v) :
    ∃ t, entry.run some ⟨0, line, []⟩ = some t ∧
      t.groups = [(2, trim isBlank v),
        (1, dropEndWhile isBlank (c :: rest.takeWhile (· != '=')))] := by
  have hc : isBlank c = false := head?_dropWhile isBlank line c (by rw [hbody]; rfl)
  have hmem : ∀ x ∈ rest, x ≠ '\n' := by
    intro x hx
    apply hline
    apply List.dropWhile_subset isBlank
    rw [hbody]
    exact List.mem_cons_of_mem c hx
  let n := (line.takeWhile isBlank).length
  let key := dropEndWhile isBlank (rest.takeWhile (· != '='))
  let next : Place → Option Place := fun t => separator.run some
    ⟨t.passed, t.rest, (1, (c :: rest).take (t.passed - n)) :: t.groups⟩
  obtain ⟨w, hsplit, hdrop⟩ := exists_blanks_before_separator hrest
  have htake : (c :: rest).take (n + 1 + key.length - n) = c :: key := by
    rw [Nat.add_assoc, Nat.add_sub_cancel_left, Nat.add_comm, List.take_succ_cons, hsplit,
      List.take_left]
  obtain ⟨t, ht, hgroups⟩ := run_value (n + 1 + key.length + (w.takeWhile isBlank).length + 1)
    (fun x hx => hmem x (List.dropWhile_subset _ (hrest ▸ List.mem_cons_of_mem '=' hx)))
    [(1, c :: key)]
  have hend : next ⟨n + 1 + key.length, w, []⟩ = some t := by
    simp only [next, htake]
    rw [run_separator, hdrop, run_literal_cons]
    exact ht
  have hkey : few.run next ⟨n + 1, rest, []⟩ = some t := by
    rw [hsplit]
    refine run_few (fun x hx => hmem x (List.takeWhile_subset _ hx)) ?_ hend
    intro i x d tail hx hd _
    simp only [next]
    rw [run_separator, hx]
    refine run_literal_eq_none fun hsep => ?_
    cases hsep
    simpa using List.mem_takeWhile_imp hd
  refine ⟨t, ?_, ?_⟩
  · rw [run_entry_cons hbody]
    exact hkey
  · rw [hgroups, dropEndWhile_cons_of_neg hc]

theorem run_entry_eq_none_of_cons (hbody : line.dropWhile isBlank = c :: rest)
    (hrest : rest.dropWhile (· != '=') = []) : entry.run some ⟨0, line, []⟩ = none := by
  have hno : ∀ x ∈ rest, x ≠ '=' := by
    intro x hx
    rw [← List.takeWhile_append_dropWhile (p := (· != '=')) (l := rest), hrest, List.append_nil] at hx
    simpa using List.mem_takeWhile_imp hx
  rw [run_entry_cons hbody]
  refine run_lazy_eq_none fun x y hxy => ?_
  rw [run_separator]
  refine run_literal_eq_none fun hsep => hno '=' ?_ rfl
  rw [hxy]
  apply List.mem_append_right x
  apply List.dropWhile_subset isBlank
  exact List.mem_of_mem_head? hsep

theorem run_entry_eq_none_of_nil (hbody : line.dropWhile isBlank = []) :
    entry.run some ⟨0, line, []⟩ = none := by
  rw [run_entry, hbody]
  rfl

end Entry

/-! ## Lines -/

theorem run_comment (line : List Char) :
    comment.run some ⟨0, line, []⟩ =
      (literal '#').run some ⟨0 + (line.takeWhile isBlank).length, line.dropWhile isBlank, []⟩ :=
  run_blanks_literal (by decide) some 0 line []

theorem find?_comment {line rest : List Char} (h : line.dropWhile isBlank = '#' :: rest) :
    (comment.find? 0 line).isSome := by
  have hrun := run_comment line
  rw [h, run_literal_cons] at hrun
  rw [find?_of_run hrun]
  rfl

theorem find?_comment_eq_none {line : List Char} (h : (line.dropWhile isBlank).head? ≠ some '#') :
    comment.find? 0 line = none := by
  apply find?_both_start
  exact (run_comment line).trans (run_literal_eq_none h)

section BindBy
variable {line : List Char} (d : Dict String)

theorem bindBy_of_comment (h : (comment.find? 0 line).isSome) : bindBy d line = some d := by
  rw [bindBy, if_pos h]

theorem bindBy_of_no_entry (hcomment : comment.find? 0 line = none)
    (hentry : entry.run some ⟨0, line, []⟩ = none) : bindBy d line = some d := by
  have hfind : entry.find? 0 line = none := find?_both_start hentry
  simp [bindBy, hcomment, hfind]

theorem bindBy_of_entry {t : Place} {key message : List Char} (hcomment : comment.find? 0 line = none)
    (hentry : entry.run some ⟨0, line, []⟩ = some t) (hgroups : t.groups = [(2, message), (1, key)]) :
    bindBy d line = some (d.insert (String.ofList key) (String.ofList message)) := by
  rw [bindBy, hcomment, find?_of_run hentry]
  simp only [hgroups]
  rfl

end BindBy

/-- On one line the patterns bind what the line binds, and nothing stops them. -/
theorem bindBy_eq (d : Dict String) {line : List Char} (hline : ∀ c ∈ line, isLineBreak c = false) :
    bindBy d line = some (d.insertMany (Bundle.entry? line).toList) := by
  have hfeed : ∀ c ∈ line, c ≠ '\n' := by
    rintro c hc rfl
    exact absurd (hline _ hc) (by decide)
  cases hbody : line.dropWhile isBlank with
  | nil =>
    have hentry : entry? line = none := by simp [Bundle.entry?, hbody]
    rw [hentry]
    exact bindBy_of_no_entry d (find?_comment_eq_none (by simp [hbody])) (run_entry_eq_none_of_nil hbody)
  | cons c rest =>
    by_cases hc : c = '#'
    · subst hc
      rw [entry?_comment hbody]
      exact bindBy_of_comment d (find?_comment hbody)
    · have hcomment : comment.find? 0 line = none := find?_comment_eq_none (by simp [hbody, hc])
      cases hrest : rest.dropWhile (· != '=') with
      | nil =>
        have hentry : entry? line = none := by simp [Bundle.entry?, hbody, hc, hrest]
        rw [hentry]
        exact bindBy_of_no_entry d hcomment (run_entry_eq_none_of_cons hbody hrest)
      | cons sep v =>
        have hsep : sep = '=' := by
          simpa using head?_dropWhile (· != '=') rest sep (by rw [hrest]; rfl)
        subst hsep
        obtain ⟨t, ht, hgroups⟩ := run_entry_of_separator hfeed hbody hrest
        have hentry : entry? line =
            some (String.ofList (dropEndWhile isBlank (c :: rest.takeWhile (· != '='))),
              String.ofList (trim isBlank v)) := by
          simp [Bundle.entry?, hbody, hc, hrest]
        rw [hentry]
        exact bindBy_of_entry d hcomment ht hgroups

/-! ## Texts -/

theorem foldlM_bindBy (d : Dict String) {lines : List (List Char)}
    (h : ∀ line ∈ lines, ∀ c ∈ line, isLineBreak c = false) :
    lines.foldlM bindBy d = some (d.insertMany (lines.filterMap entry?)) := by
  induction lines generalizing d with
  | nil => rfl
  | cons line rest ih =>
    rw [List.foldlM_cons, bindBy_eq d (h line List.mem_cons_self), Dict.insertMany_filterMap_cons]
    exact ih _ fun other hother => h other (List.mem_cons_of_mem line hother)

/-- What a text binds is bound in its lines that are not empty. -/
theorem filterMap_entry?_filter (lines : List (List Char)) :
    (lines.filter (!·.isEmpty)).filterMap entry? = lines.filterMap entry? := by
  induction lines with
  | nil => rfl
  | cons line rest ih =>
    cases line with
    | nil => exact ih
    | cons c cs => rw [List.filter_cons_of_pos rfl, List.filterMap_cons, List.filterMap_cons, ih]

theorem ofPatterns?_eq_some (text : String) : ofPatterns? text = some (fromProperties text) := by
  have hcut := filter_cut_stretch (p := isLineBreak) 0 text.toList
  have hlines : ∀ line ∈ lineBreaks.cut 0 text.toList, ∀ c ∈ line, isLineBreak c = false := by
    intro line hline c hc
    have hmem : line ∈ (lineBreaks.cut 0 text.toList).filter (!·.isEmpty) := by
      refine List.mem_filter.mpr ⟨hline, ?_⟩
      cases line with
      | nil => cases hc
      | cons _ _ => rfl
    rw [lineBreaks, hcut] at hmem
    exact (mem_of_mem_runs (List.mem_filter.mp hmem).1 c hc).2
  have hbindings : (lineBreaks.cut 0 text.toList).filterMap entry? = bindings text.toList := by
    rw [bindings, ← filterMap_entry?_filter, lineBreaks, hcut, filterMap_entry?_filter]
  rw [ofPatterns?, foldlM_bindBy _ hlines, hbindings]
  rfl

/-- The patterns find a bundle in every text: the one read from its lines, in which a key has the
message of the last line that binds it, and no other key has any. -/
theorem ofPatterns?_eq_fromProperties (text : String) :
    ofPatterns? text = some (fromProperties text) ∧
      ∀ key message, (fromProperties text).find? key = some message ↔
        ∃ before line after, runs isLineBreak text.toList = before ++ line :: after ∧
          entry? line = some (key, message) ∧
          ∀ later ∈ after, ∀ other, entry? later ≠ some (key, other) := by
  refine ⟨ofPatterns?_eq_some text, fun key message => ?_⟩
  rw [fromProperties_find?, bindings]
  exact Dict.findEntry_reverse_filterMap

/-- The first character is never the separator, and of the blanks around the separator none is
found. -/
example : (entry.find? 0 " = =\t=v\u00a0".toList).map (fun found => found.2.groups) =
    some [(2, "=v".toList), (1, "=".toList)] := by decide

end MessageBundles.Bundle

import MessageBundles.Bundle.Properties
import MessageBundles.Proofs.Text.Pieces

/-
  Composition — the bundle of a text from the bundles of its blocks

  A text made of blocks with a run of line breaks between each two describes the bundles of the blocks,
  each one laid over those before it. What is proved:
    1. `find?_laidOver` — what is laid over another bundle comes first in every look-up.
    2. `bindings_append_break` — a line break cuts what a text binds in two.
    3. `fromProperties_append` — a text behind a run of line breaks is laid over the one in front.
    4. `fromProperties_joined` — so it is with any number of blocks.
    5. `fromProperties_blocks` — the runs of line breaks between blocks do not matter, nor does the
       order of two neighbouring blocks that bind no key in common.
-/

namespace MessageBundles

open Text

/-! ## One bundle over another -/

namespace Bundle

def empty : Bundle := ⟨Dict.empty⟩

/-- A bundle laid over another one, which keeps the keys that are not bound anew. -/
def laidOver (b a : Bundle) : Bundle := ⟨a.messages.insertMany b.entries⟩

/-- Whether no key of one bundle is bound in another. -/
def Apart (a b : Bundle) : Prop := ∀ key ∈ a.keys, b.contains key = false

instance (a b : Bundle) : Decidable (Apart a b) :=
  inferInstanceAs (Decidable (∀ key ∈ a.keys, b.contains key = false))

/-- What is laid over another bundle comes first in every look-up. -/
theorem find?_laidOver (b a : Bundle) (key : String) :
    (b.laidOver a).find? key = (b.find? key).or (a.find? key) := by
  have hentries : Dict.findEntry key b.entries.reverse = b.find? key :=
    Dict.findEntry_reverse b.messages.pairwise_ne key
  rw [laidOver, find?, Dict.find?_insertMany, hentries]
  rfl

theorem empty_laidOver (a : Bundle) : empty.laidOver a = a := rfl

theorem laidOver_assoc (c b a : Bundle) : (c.laidOver b).laidOver a = c.laidOver (b.laidOver a) := by
  refine ext_find? fun key => ?_
  simp only [find?_laidOver, Option.or_assoc]

theorem Apart.find?_eq_none {a b : Bundle} (h : Apart a b) {key message : String}
    (hkey : a.find? key = some message) : b.find? key = none := by
  have hmem : key ∈ a.keys := List.mem_map.mpr ⟨(key, message), Dict.mem_of_findEntry hkey, rfl⟩
  have hnone : (b.find? key).isSome = false := h key hmem
  simpa using hnone

theorem laidOver_comm {a b : Bundle} (h : Apart a b) : a.laidOver b = b.laidOver a := by
  refine ext_find? fun key => ?_
  rw [find?_laidOver, find?_laidOver]
  cases ha : a.find? key with
  | none => rw [Option.none_or, Option.or_none]
  | some message =>
    rw [h.find?_eq_none ha]
    rfl

/-- Two bundles with no key in common change places under a third one. -/
theorem laidOver_left_comm {a b : Bundle} (h : Apart a b) (c : Bundle) :
    (c.laidOver a).laidOver b = (c.laidOver b).laidOver a := by
  rw [laidOver_assoc, laidOver_assoc, laidOver_comm h]

end Bundle

/-! ## Line breaks -/

/-- A run of line breaks, of one kind or of both, with or without empty lines in it. -/
structure LineBreaks where
  text : String
  ne_empty : text ≠ ""
  all_breaks : text.toList.all isLineBreak = true

namespace Bundle

/-- A line break cuts what a text binds in two. -/
theorem bindings_append_break {c : Char} (hc : isLineBreak c = true) (a b : List Char) :
    bindings (a ++ c :: b) = bindings a ++ bindings b := by
  unfold bindings
  rw [runs_eq_splitOnP, runs_eq_splitOnP, runs_eq_splitOnP, List.splitOnP_append_cons a b hc,
    List.filterMap_append]

theorem bindings_breaks_append {s : List Char} (h : ∀ c ∈ s, isLineBreak c = true) (b : List Char) :
    bindings (s ++ b) = bindings b := by
  induction s with
  | nil => rfl
  | cons c rest ih =>
    have hcut := bindings_append_break (h c List.mem_cons_self) [] (rest ++ b)
    rw [List.nil_append, ih fun x hx => h x (List.mem_cons_of_mem c hx)] at hcut
    exact hcut

/-- Breaks in front of the second text, at the end of the first and between them are one run, and
bind nothing. -/
theorem bindings_append {s : List Char} (hne : s ≠ []) (h : ∀ c ∈ s, isLineBreak c = true)
    (a b : List Char) : bindings (a ++ s ++ b) = bindings a ++ bindings b := by
  obtain ⟨c, rest, rfl⟩ := List.exists_cons_of_ne_nil hne
  rw [List.append_assoc, List.cons_append, bindings_append_break (h c List.mem_cons_self),
    bindings_breaks_append fun x hx => h x (List.mem_cons_of_mem c hx)]

theorem ofEntries_append (l m : List (String × String)) :
    ofEntries (l ++ m) = (ofEntries m).laidOver (ofEntries l) := by
  refine ext_find? fun key => ?_
  rw [find?_laidOver]
  show (Dict.ofList (l ++ m)).find? key =
    ((Dict.ofList m).find? key).or ((Dict.ofList l).find? key)
  rw [Dict.find?_ofList, Dict.find?_ofList, Dict.find?_ofList, List.reverse_append,
    Dict.findEntry_append]

theorem fromProperties_append (a : String) (s : LineBreaks) (b : String) :
    fromProperties (a ++ s.text ++ b) = (fromProperties b).laidOver (fromProperties a) := by
  have hne : s.text.toList ≠ [] := fun h => s.ne_empty (String.toList_eq_nil_iff.mp h)
  have hbreaks := List.all_eq_true.mp s.all_breaks
  rw [fromProperties, String.toList_append, String.toList_append, bindings_append hne hbreaks,
    ofEntries_append]
  rfl

/-! ## Blocks -/

/-- A text is made of blocks, one after the other, with a run of line breaks between each two. -/
inductive Joined : List String → String → Prop where
  | last (block : String) : Joined [block] block
  | cons (block : String) (s : LineBreaks) {blocks : List String} {text : String}
      (h : Joined blocks text) : Joined (block :: blocks) (block ++ s.text ++ text)

/-- The bundles of blocks, each one laid over those before it. -/
def ofBlocks (blocks : List String) : Bundle :=
  blocks.foldr (fun block later => later.laidOver (fromProperties block)) empty

/-- A text made of blocks describes the bundles of the blocks, whatever breaks stand between them. -/
theorem fromProperties_joined {blocks : List String} {text : String} (h : Joined blocks text) :
    fromProperties text = ofBlocks blocks := by
  induction h with
  | last block => exact (empty_laidOver (fromProperties block)).symm
  | cons block s h ih =>
    rw [fromProperties_append, ih]
    rfl

theorem ofBlocks_swap (before : List String) {a b : String} (after : List String)
    (h : Apart (fromProperties a) (fromProperties b)) :
    ofBlocks (before ++ a :: b :: after) = ofBlocks (before ++ b :: a :: after) := by
  induction before with
  | nil => exact (laidOver_left_comm h (ofBlocks after)).symm
  | cons block rest ih => exact congrArg (·.laidOver (fromProperties block)) ih

/-- In front of and behind a run of line breaks, a text is read as two, and the second one counts where
both bind a key. So the runs between the blocks of a text do not matter, and neighbouring blocks that
bind no key in common can be exchanged. -/
theorem fromProperties_blocks :
    (∀ (a : String) (s : LineBreaks) (b key : String),
      (fromProperties (a ++ s.text ++ b)).find? key =
        ((fromProperties b).find? key).or ((fromProperties a).find? key)) ∧
    (∀ (blocks : List String) (text other : String), Joined blocks text → Joined blocks other →
      fromProperties text = fromProperties other) ∧
    ∀ (before : List String) (a b : String) (after : List String) (text other : String),
      Joined (before ++ a :: b :: after) text → Joined (before ++ b :: a :: after) other →
      Apart (fromProperties a) (fromProperties b) → fromProperties text = fromProperties other := by
  refine ⟨?_, ?_, ?_⟩
  · intro a s b key
    rw [fromProperties_append, find?_laidOver]
  · intro blocks text other htext hother
    rw [fromProperties_joined htext, fromProperties_joined hother]
  · intro before a b after text other htext hother hapart
    rw [fromProperties_joined htext, fromProperties_joined hother, ofBlocks_swap before after hapart]

/-- The last line binds a key of the first one anew, and the two blocks between them change places; one
of these has a comment and an empty line in it. -/
theorem fromProperties_blocks_exchanged :
    Joined ["k=1", "a=2\n\n#", "b=3", "k=4"] "k=1\r\na=2\n\n#\n\nb=3\rk=4" ∧
      Joined ["k=1", "b=3", "a=2\n\n#", "k=4"] "k=1\nb=3\n\ra=2\n\n#\nk=4" ∧
      Apart (fromProperties "a=2\n\n#") (fromProperties "b=3") ∧
      fromProperties "k=1\r\na=2\n\n#\n\nb=3\rk=4" =
        fromProperties "k=1\nb=3\n\ra=2\n\n#\nk=4" := by
  have htext : Joined ["k=1", "a=2\n\n#", "b=3", "k=4"] "k=1\r\na=2\n\n#\n\nb=3\rk=4" :=
    .cons "k=1" ⟨"\r\n", by decide, by decide⟩ (.cons "a=2\n\n#" ⟨"\n\n", by decide, by decide⟩
      (.cons "b=3" ⟨"\r", by decide, by decide⟩ (.last "k=4")))
  have hother : Joined ["k=1", "b=3", "a=2\n\n#", "k=4"] "k=1\nb=3\n\ra=2\n\n#\nk=4" :=
    .cons "k=1" ⟨"\n", by decide, by decide⟩ (.cons "b=3" ⟨"\n\r", by decide, by decide⟩
      (.cons "a=2\n\n#" ⟨"\n", by decide, by decide⟩ (.last "k=4")))
  have hapart : Apart (fromProperties "a=2\n\n#") (fromProperties "b=3") := by decide
  exact ⟨htext, hother, hapart,
    fromProperties_blocks.2.2 ["k=1"] "a=2\n\n#" "b=3" ["k=4"] _ _ htext hother hapart⟩

end Bundle

end MessageBundles

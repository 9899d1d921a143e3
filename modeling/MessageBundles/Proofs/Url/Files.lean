import Mathlib.Data.List.Induction
import MessageBundles.Locator
import MessageBundles.Proofs.Url.Join

/-
  Files of a folder — which texts are joined to a file of the folder they are joined onto

  A text that is joined onto a folder is cut into pieces at slashes and backslashes, and all pieces but
  the last one lead from folder to folder. The last one names the file, in its encoded form. What is
  proved:
    1. `suffix_percentEncode_iff` — encoding adds no ending of letters, and takes none away.
    2. `pathPieces_last` — a text and its last piece have the same endings.
    3. `pathFrom_file_iff` — the path is a file of the folder, with the extension of bundles, exactly
       if the pieces in front lead back to the folder and the text ends in the extension.
-/

namespace MessageBundles.Url

open Text

/-! ## Endings -/

/-- Whether a character is a digit that bytes are encoded with. -/
def isCodeDigit (c : Char) : Bool := c ∈ "0123456789ABCDEF".toList

theorem isCodeDigit_digitChar : ∀ n < 16, isCodeDigit (Nat.digitChar n).toUpper = true := by decide

theorem percentByte_last (b : UInt8) :
    ∃ start d, percentByte b = start ++ [d] ∧ isCodeDigit d = true := by
  have hdigits : ∃ front n, n < 16 ∧ Nat.toDigits 16 b.toNat = front ++ [Nat.digitChar n] := by
    rw [Nat.toDigits_eq_if (by decide)]
    split
    · rename_i hlt
      exact ⟨[], b.toNat, hlt, rfl⟩
    · exact ⟨_, b.toNat % 16, Nat.mod_lt _ (by decide), rfl⟩
  obtain ⟨front, n, hn, hdigits⟩ := hdigits
  refine ⟨'%' :: (List.replicate (2 - (front ++ [Nat.digitChar n]).length) '0' ++ front).map
    Char.toUpper, _, ?_, isCodeDigit_digitChar n hn⟩
  simp [percentByte, padded, hdigits]

/-- A character stands for itself, or what stands for it ends in a digit. -/
theorem percentChar_cases (inSet : Char → Bool) (c : Char) :
    percentChar inSet c = [c] ∨
      ∃ start d, percentChar inSet c = start ++ [d] ∧ isCodeDigit d = true := by
  unfold percentChar
  split
  · exact .inl rfl
  · right
    rcases List.eq_nil_or_concat (String.utf8EncodeChar c) with hnil | ⟨bytes, b, hbytes⟩
    · exact absurd hnil String.utf8EncodeChar_ne_nil
    · obtain ⟨start, d, hbyte, hd⟩ := percentByte_last b
      refine ⟨bytes.flatMap percentByte ++ start, d, ?_, hd⟩
      simp [hbytes, hbyte]

section Endings
variable {inSet : Char → Bool} {ending : List Char}

theorem percentEncode_append (a b : List Char) :
    percentEncode inSet (a ++ b) = percentEncode inSet a ++ percentEncode inSet b :=
  List.flatMap_append

theorem suffix_of_suffix_percentEncode (hdigit : ∀ c ∈ ending, isCodeDigit c = false)
    {cs : List Char} (h : ending <:+ percentEncode inSet cs) : ending <:+ cs := by
  -- From the end of both: what stands for the last character ends as the ending does.
  induction cs using List.reverseRecOn generalizing ending with
  | nil => exact h
  | append_singleton front c ih =>
    have hlast : percentEncode inSet [c] = percentChar inSet c := List.flatMap_singleton ..
    rw [percentEncode_append, hlast] at h
    rcases percentChar_cases inSet c with hself | ⟨start, d, hcode, hd⟩
    · rw [hself, List.suffix_concat_iff] at h
      rw [List.suffix_concat_iff]
      refine h.imp_right ?_
      rintro ⟨others, rfl, hothers⟩
      exact ⟨others, rfl, ih (fun x hx => hdigit x (List.mem_append_left _ hx)) hothers⟩
    · rw [hcode, ← List.append_assoc, List.suffix_concat_iff] at h
      rcases h with rfl | ⟨others, rfl, -⟩
      · exact List.nil_suffix
      · rw [hdigit d (List.mem_append_right _ List.mem_cons_self)] at hd
        cases hd

/-- Encoding adds no ending that it leaves as it is and that has no digit in it, and takes none
away. -/
theorem suffix_percentEncode_iff (hplain : percentEncode inSet ending = ending)
    (hdigit : ∀ c ∈ ending, isCodeDigit c = false) {cs : List Char} :
    ending <:+ percentEncode inSet cs ↔ ending <:+ cs := by
  refine ⟨suffix_of_suffix_percentEncode hdigit, ?_⟩
  rintro ⟨start, rfl⟩
  rw [percentEncode_append, hplain]
  exact List.suffix_append _ _

theorem suffix_append_iff_of_not_mem {d : Char} (hd : d ∉ ending) (a b : List Char) :
    ending <:+ a ++ d :: b ↔ ending <:+ b := by
  constructor
  · intro h
    rcases List.suffix_or_suffix_of_suffix h (List.suffix_append a (d :: b)) with hshort | hlong
    · rcases List.suffix_cons_iff.mp hshort with rfl | hrest
      · exact absurd List.mem_cons_self hd
      · exact hrest
    · exact absurd (hlong.subset List.mem_cons_self) hd
  · exact fun h => (h.trans (List.suffix_cons d b)).trans (List.suffix_append a (d :: b))

end Endings

/-! ## The last piece -/

/-- A text has no break in it, or it ends in a run behind its last break. -/
theorem runs_cases (p : Char → Bool) (cs : List Char) :
    runs p cs = [cs] ∨ ∃ a d b, cs = a ++ d :: b ∧ p d = true ∧ runs p cs = runs p a ++ [b] := by
  have hbreak : (∀ c ∈ cs, p c = false) ∨
      ∃ a d b, cs = a ++ d :: b ∧ p d = true ∧ ∀ c ∈ b, p c = false := by
    induction cs with
    | nil => exact .inl nofun
    | cons c rest ih =>
      rcases ih with hnone | ⟨a, d, b, rfl, hd, hb⟩
      · cases hc : p c with
        | true => exact .inr ⟨[], c, rest, rfl, hc, hnone⟩
        | false => exact .inl (List.forall_mem_cons.mpr ⟨hc, hnone⟩)
      · exact .inr ⟨c :: a, d, b, rfl, hd, hb⟩
  refine hbreak.imp runs_of_forall ?_
  rintro ⟨a, d, b, rfl, hd, hb⟩
  refine ⟨a, d, b, rfl, hd, ?_⟩
  rw [← runs_of_forall hb, runs_eq_splitOnP, runs_eq_splitOnP, runs_eq_splitOnP,
    List.splitOnP_append_cons a b hd]

/-- The text of a path and its last piece have the same endings without slashes. -/
theorem pathPieces_last (kind : SchemeKind) (cs : List Char) :
    ∃ folders last, pathPieces kind cs = folders ++ [last] ∧
      ∀ ending : List Char, (∀ c ∈ ending, isSlash kind c = false) →
        (ending <:+ cs.takeWhile (!endsPath ·) ↔ ending <:+ last) := by
  rcases runs_cases (isSlash kind) (cs.takeWhile (!endsPath ·)) with hone | ⟨a, d, b, heq, hd, hruns⟩
  · exact ⟨[], _, hone, fun _ _ => Iff.rfl⟩
  · refine ⟨runs (isSlash kind) a, b, hruns, fun ending hending => ?_⟩
    rw [heq]
    apply suffix_append_iff_of_not_mem
    intro hmem
    rw [hending d hmem] at hd
    cases hd

/-! ## Files -/

theorem path_inFolder (u : Url) (cs : List Char) :
    (inFolder u cs).path = pathFrom u.kind u.segments.dropLast cs := rfl

theorem query_inFolder (u : Url) (cs : List Char) :
    (inFolder u cs).query = (tailOf u.kind cs).query := rfl

/-- No character is lost where dots are decoded, but those that dots are written with. -/
theorem mem_decodeDots {c : Char} (hc : c ∉ ['%', '2', 'e', 'E']) {cs : List Char} (h : c ∈ cs) :
    c ∈ decodeDots cs := by
  induction cs using decodeDots.induct with
  | case1 e rest he ih =>
    rw [decodeDots, if_pos he]
    have hrest : c ∈ rest := by
      rcases he with rfl | rfl <;> simp_all
    exact List.mem_cons_of_mem _ (ih hrest)
  | case2 e rest he =>
    rw [decodeDots, if_neg he]
    exact h
  | case3 rest ih =>
    rcases List.mem_cons.mp h with rfl | hrest
    · exact List.mem_cons_self
    · exact List.mem_cons_of_mem _ (ih hrest)
  | case4 cs hcode hdot =>
    rw [decodeDots]
    · exact h
    · exact hcode
    · exact hdot

/-- What the name of a file with a bundle ends in. -/
def fileEnding : List Char := Locator.extension.toList

theorem fileEnding_plain {c : Char} (h : c ∈ fileEnding) :
    isCodeDigit c = false ∧ isSlash .hosted c = false ∧ endsPath c = false := by
  have hall : fileEnding.all (fun c => !isCodeDigit c && !isSlash .hosted c && !endsPath c) = true := by
    decide
  simpa [and_assoc] using List.all_eq_true.mp hall c h

theorem not_dots_of_ending {piece : List Char} (h : fileEnding <:+ piece) :
    isUp piece = false ∧ isHere piece = false := by
  have hletter : 's' ∈ decodeDots piece := mem_decodeDots (by decide) (h.subset (by decide))
  constructor
  · rw [isUp, beq_eq_false_iff_ne]
    intro heq
    rw [heq] at hletter
    exact absurd hletter (by decide)
  · rw [isHere, beq_eq_false_iff_ne]
    intro heq
    rw [heq] at hletter
    exact absurd hletter (by decide)

theorem fileEnding_suffix_percentEncode_iff {cs : List Char} :
    fileEnding <:+ percentEncode pathSet cs ↔ fileEnding <:+ cs :=
  suffix_percentEncode_iff (by decide) fun _ hc => (fileEnding_plain hc).1

/-- The last piece of a path names a file with the ending exactly if the piece has it. -/
theorem addPiece_last_iff {path folder : List (List Char)} {piece : List Char} :
    (∃ file, addPiece .hosted path piece true = folder ++ [file] ∧ fileEnding <:+ file) ↔
      path = folder ∧ fileEnding <:+ piece := by
  have hempty : ¬ fileEnding <:+ [] := by decide
  constructor
  · rintro ⟨file, heq, hfile⟩
    simp only [addPiece, if_true] at heq
    split at heq
    · obtain ⟨-, hlast⟩ := List.append_inj' heq rfl
      cases hlast
      exact absurd hfile hempty
    · split at heq
      · obtain ⟨-, hlast⟩ := List.append_inj' heq rfl
        cases hlast
        exact absurd hfile hempty
      · rw [if_neg (by simp)] at heq
        obtain ⟨hpath, hlast⟩ := List.append_inj' heq rfl
        cases hlast
        exact ⟨hpath, fileEnding_suffix_percentEncode_iff.mp hfile⟩
  · rintro ⟨rfl, hpiece⟩
    obtain ⟨hup, hhere⟩ := not_dots_of_ending hpiece
    refine ⟨percentEncode pathSet piece, ?_, fileEnding_suffix_percentEncode_iff.mpr hpiece⟩
    simp [addPiece, hup, hhere]

/-- A text leads to a file of the folder it is joined onto exactly if its pieces in front of the last
one lead back to the folder, and it has the ending where its path ends. -/
theorem pathFrom_file_iff {folder : List (List Char)} {cs : List Char} :
    (∃ file, pathFrom .hosted folder cs = .segments (folder ++ [file]) ∧ fileEnding <:+ file) ↔
      addFolders .hosted folder (pathPieces .hosted cs).dropLast = folder ∧
        fileEnding <:+ cs.takeWhile (!endsPath ·) := by
  obtain ⟨folders, last, hpieces, hending⟩ := pathPieces_last .hosted cs
  have hpath : pathFrom .hosted folder cs =
      .segments (addPiece .hosted (addFolders .hosted folder folders) last true) := by
    have hrest := addPieces_append .hosted folder folders [last] (List.cons_ne_nil last [])
    simp only [pathFrom, hpieces, hrest]
    rfl
  simp only [hpath, Path.segments.injEq, addPiece_last_iff, hpieces, List.dropLast_concat,
    hending fileEnding fun _ hc => (fileEnding_plain hc).2.1]

end MessageBundles.Url

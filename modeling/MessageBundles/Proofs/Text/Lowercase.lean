import MessageBundles.Proofs.Text.Pieces
import MessageBundles.Text.Lowercase

/-
  Small letters, continued — the small letters of a text are their own small letters

  A character is small if it stands in no run of capital letters and is not the capital I with a dot.
  That no small letter is a capital letter again is a fact about the table of the runs, and is read off
  the set of all capital letters, kept as the bits of one number. What is proved:
    1. `isSmall_of_mem_lowercaseFrom` — every character of a text in small letters is small.
    2. `lowercaseFrom_eq_self` — a text of small characters is its own lower case.
    3. `lowercased_lowercased` — taking the small letters twice is taking them once.
-/

namespace MessageBundles.Text

/-- A run of capital letters with the step and the distance of the run. -/
abbrev CapitalRun : Type := Nat × Nat × Nat × Int

/-- The runs, and the capital letter that becomes two characters. -/
def capitals : List CapitalRun := (0x130, 0x130, 1, 0) :: capitalRuns

def standsIn (n : Nat) (run : CapitalRun) : Bool :=
  run.1 ≤ n && n ≤ run.2.1 && (n - run.1) % run.2.2.1 == 0

def IsSmall (c : Char) : Prop := ∀ run ∈ capitals, standsIn c.toNat run = false

/-- The numbers of the capital letters of a run. -/
def places (run : CapitalRun) : List Nat :=
  (List.range ((run.2.1 - run.1) / run.2.2.1 + 1)).map fun i => run.1 + i * run.2.2.1

/-- The union of sets, each kept as the bits of one number. -/
def union {α : Type} (bits : α → Nat) (l : List α) : Nat := l.foldr (fun x set => bits x ||| set) 0

-- The union is taken run by run, so that no evaluation of it is as deep as there are letters.
def capitalBits : Nat := union (fun run => union (1 <<< ·) (places run)) capitals

/-! ## The table -/

theorem mem_places_of_standsIn {n : Nat} {run : CapitalRun} (h : standsIn n run = true) :
    n ∈ places run := by
  simp only [standsIn, Bool.and_eq_true, decide_eq_true_eq, beq_iff_eq] at h
  obtain ⟨⟨hlow, hhigh⟩, hstep⟩ := h
  refine List.mem_map.mpr ⟨(n - run.1) / run.2.2.1, ?_, ?_⟩
  · have hle := Nat.div_le_div_right (c := run.2.2.1) (Nat.sub_le_sub_right hhigh run.1)
    exact List.mem_range.mpr (Nat.lt_succ_of_le hle)
  · rw [Nat.div_mul_cancel (Nat.dvd_of_mod_eq_zero hstep)]
    omega

theorem testBit_union {α : Type} (bits : α → Nat) (l : List α) (n : Nat) :
    (union bits l).testBit n = true ↔ ∃ x ∈ l, (bits x).testBit n = true := by
  induction l with
  | nil => simp [union]
  | cons x rest ih =>
    have hcons : union bits (x :: rest) = bits x ||| union bits rest := rfl
    rw [hcons, Nat.testBit_or, Bool.or_eq_true, ih]
    simp

theorem testBit_capitalBits {n : Nat} {run : CapitalRun} (hrun : run ∈ capitals)
    (hn : standsIn n run = true) : capitalBits.testBit n = true := by
  refine (testBit_union _ _ _).mpr ⟨run, hrun, ?_⟩
  refine (testBit_union _ _ _).mpr ⟨n, mem_places_of_standsIn hn, ?_⟩
  rw [Nat.one_shiftLeft, Nat.testBit_two_pow_self]

/-- No small letter of a run is a capital letter; nor is the character that stands for a number that
is none. -/
theorem capitalBits_testBit_small : (capitalRuns.all fun run => (places run).all fun n =>
    !capitalBits.testBit ((n : Int) + run.2.2.2).toNat) = true ∧ capitalBits.testBit 0 = false := by
  decide +kernel

theorem standsIn_eq_false_of_testBit {n : Nat} (h : capitalBits.testBit n = false) :
    ∀ run ∈ capitals, standsIn n run = false := by
  intro run hrun
  rw [← Bool.not_eq_true]
  intro hn
  rw [testBit_capitalBits hrun hn] at h
  cases h

theorem isSmall_ofNat {m : Nat} (h : capitalBits.testBit m = false) : IsSmall (Char.ofNat m) := by
  apply standsIn_eq_false_of_testBit
  rcases toNat_ofNat_cases m with hplace | hplace
  · rw [hplace, h]
  · rw [hplace, capitalBits_testBit_small.2]

theorem isSmall_of_standsIn {run : CapitalRun} (hrun : run ∈ capitalRuns) {n : Nat}
    (hn : standsIn n run = true) : IsSmall (Char.ofNat ((n : Int) + run.2.2.2).toNat) := by
  have hplaces := List.all_eq_true.mp capitalBits_testBit_small.1 run hrun
  have hbit := List.all_eq_true.mp hplaces n (mem_places_of_standsIn hn)
  exact isSmall_ofNat (by simpa using hbit)

/-! ## Texts -/

theorem toLower_of_isSmall {c : Char} (hc : IsSmall c) (hascii : c.toNat < 0x80) : c.toLower = c := by
  have hall : ∀ n < 0x80, standsIn n (0x41, 0x5A, 1, 32) = false →
      (Char.ofNat n).toLower = Char.ofNat n := by
    decide +kernel
  have hrun := hc (0x41, 0x5A, 1, 32) (by decide +kernel)
  simpa using hall c.toNat hascii hrun

theorem isSmall_toLower {c : Char} (hascii : c.toNat < 0x80) : IsSmall c.toLower := by
  have hall : ∀ n < 0x80, capitalBits.testBit (Char.ofNat n).toLower.toNat = false := by
    decide +kernel
  have hc := hall c.toNat hascii
  rw [Char.ofNat_toNat] at hc
  exact standsIn_eq_false_of_testBit hc

theorem isSmall_smallLetter {c : Char} (hdot : c ≠ '\u0130') : IsSmall (smallLetter c) := by
  simp only [smallLetter]
  split
  · rename_i hnone
    rw [List.find?_eq_none] at hnone
    intro run hrun
    rcases List.mem_cons.mp hrun with rfl | hrun
    · have : c.toNat ≠ 0x130 := by
        intro h
        exact hdot (by rw [← Char.ofNat_toNat c, h])
      simp only [standsIn, Bool.and_eq_false_iff, decide_eq_false_iff_not]
      left
      omega
    · simpa [standsIn] using hnone run hrun
  · rename_i low high step distance hsome
    exact isSmall_of_standsIn (List.mem_of_find?_eq_some hsome) (List.find?_some hsome)

theorem smallLetter_of_isSmall {c : Char} (hc : IsSmall c) : smallLetter c = c := by
  simp only [smallLetter]
  split
  · rfl
  · rename_i low high step distance hsome
    have hmem := List.mem_cons_of_mem (0x130, 0x130, 1, 0) (List.mem_of_find?_eq_some hsome)
    have hin : standsIn c.toNat (low, high, step, distance) = true := List.find?_some hsome
    rw [hc _ hmem] at hin
    cases hin

/-- The characters that stand for capital letters in no run, or not always. -/
theorem isSmall_of_mem_irregular {c : Char} (hc : c ∈ ['i', '\u0307'] ++ ['\u03C2', '\u03C3']) :
    IsSmall c := by
  have hall : ((['i', '\u0307'] ++ ['\u03C2', '\u03C3']).all fun c =>
      !capitalBits.testBit c.toNat) = true := by
    decide +kernel
  exact standsIn_eq_false_of_testBit (by simpa using List.all_eq_true.mp hall c hc)

/-- Every character of a text in small letters is small. -/
theorem isSmall_of_mem_lowercaseFrom {cs before : List Char} :
    ∀ c ∈ lowercaseFrom before cs, IsSmall c := by
  induction cs generalizing before with
  | nil => simp [lowercaseFrom]
  | cons c rest ih =>
    intro x hx
    rw [lowercaseFrom, List.mem_append] at hx
    rcases hx with hx | hx
    · split at hx
      · rename_i hascii
        rw [List.mem_singleton.mp hx]
        exact isSmall_toLower hascii
      · split at hx
        · exact isSmall_of_mem_irregular (List.mem_append_left _ hx)
        · rename_i hdot
          split at hx
          · split at hx
            · exact isSmall_of_mem_irregular (by simp [List.mem_singleton.mp hx])
            · exact isSmall_of_mem_irregular (by simp [List.mem_singleton.mp hx])
          · rw [List.mem_singleton.mp hx]
            exact isSmall_smallLetter hdot
    · exact ih x hx

theorem lowercaseFrom_eq_self {cs before : List Char} (h : ∀ c ∈ cs, IsSmall c) :
    lowercaseFrom before cs = cs := by
  induction cs generalizing before with
  | nil => rfl
  | cons c rest ih =>
    have hc := h c List.mem_cons_self
    have hdot : c ≠ '\u0130' := by
      rintro rfl
      exact absurd (hc (0x130, 0x130, 1, 0) List.mem_cons_self) (by decide)
    have hsigma : c ≠ '\u03A3' := by
      rintro rfl
      exact absurd (hc (0x3A3, 0x3AB, 1, 32) (by decide +kernel)) (by decide)
    rw [lowercaseFrom, ih fun x hx => h x (List.mem_cons_of_mem c hx), if_neg hdot, if_neg hsigma,
      smallLetter_of_isSmall hc]
    by_cases hascii : c.toNat < 0x80
    · rw [if_pos hascii, toLower_of_isSmall hc hascii]
      rfl
    · rw [if_neg hascii]
      rfl

/-- Taking the small letters of a text twice is taking them once. -/
theorem lowercased_lowercased (s : String) : lowercased (lowercased s) = lowercased s := by
  have hself : lowercase (lowercase s.toList) = lowercase s.toList :=
    lowercaseFrom_eq_self isSmall_of_mem_lowercaseFrom
  simp only [lowercased, String.toList_ofList, hself]

end MessageBundles.Text

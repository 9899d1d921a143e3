import MessageBundles.Bundle.Properties
import MessageBundles.Proofs.Text.Utf8

/-
  Enumerations — one text of a bundle, in whatever order its entries come

  A table that keeps no order hands out its entries in any. They are sorted by the bytes of their keys
  before they are written, and no key is bound twice, so nothing of that order is left in the text. What
  is proved:
    1. `keyLe_iff` — the order of the bytes is the order of the keys, by code point.
    2. `mergeSort_of_enumerates` — sorting brings every enumeration into the one order.
    3. `sortedLines_enumeration` — all enumerations of a bundle have one text: a line for each entry,
       in strictly increasing order of the keys.
-/

namespace MessageBundles.Bundle

open Text

/-! ## The order of the keys -/

/-- Bytes order keys as code points do. -/
theorem keyLe_iff {e f : String × String} : keyLe e f = true ↔ e.1 ≤ f.1 := by
  rw [keyLe, Bool.not_eq_true', decide_eq_false_iff_not, Utf8.encode_lt_iff]
  exact String.not_lt

theorem keyLe_trans (e f g : String × String) (hef : keyLe e f = true) (hfg : keyLe f g = true) :
    keyLe e g = true :=
  keyLe_iff.mpr (String.le_trans (keyLe_iff.mp hef) (keyLe_iff.mp hfg))

theorem keyLe_total (e f : String × String) : (keyLe e f || keyLe f e) = true := by
  rw [Bool.or_eq_true, keyLe_iff, keyLe_iff]
  exact String.le_total e.1 f.1

theorem pairwise_keyLe (b : Bundle) : b.entries.Pairwise fun e f => keyLe e f = true :=
  b.messages.sorted.imp fun h => keyLe_iff.mpr (String.not_lt.mp (String.lt_asymm h))

theorem toProperties_eq (b : Bundle) : b.toProperties = String.ofList (b.entries.flatMap line) := by
  rw [toProperties, sortedLines, List.mergeSort_of_pairwise b.pairwise_keyLe]

/-! ## Enumerations -/

section Enumerations
variable {b : Bundle} {l other : List (String × String)}

/-- Sorting brings every enumeration of a bundle into the order of its keys. -/
theorem mergeSort_of_enumerates (h : Enumerates l b) : l.mergeSort keyLe = b.entries := by
  have hperm : (l.mergeSort keyLe).Perm b.entries :=
    (List.mergeSort_perm l keyLe).trans (enumerates_iff_perm.mp h)
  refine List.Perm.eq_of_pairwise ?_ (List.pairwise_mergeSort keyLe_trans keyLe_total l)
    b.pairwise_keyLe hperm
  -- Entries that come neither before nor behind each other have one key, which holds one message.
  rintro ⟨key, message⟩ ⟨key', message'⟩ hmem hmem' hle hge
  have hkey : key = key' := String.le_antisymm (keyLe_iff.mp hle) (keyLe_iff.mp hge)
  subst hkey
  have hfind := mem_entries_iff.mp (hperm.mem_iff.mp hmem)
  rw [mem_entries_iff.mp hmem'] at hfind
  rw [Option.some.inj hfind]

theorem sortedLines_of_enumerates (h : Enumerates l b) : sortedLines l = b.toProperties := by
  rw [sortedLines, mergeSort_of_enumerates h, toProperties_eq]

/-- All enumerations of a bundle have one text. It has one line for each entry, with the key, a
separator and the message, and the lines stand in strictly increasing order of the keys. -/
theorem sortedLines_enumeration (h : Enumerates l b) (hother : Enumerates other b) :
    sortedLines l = sortedLines other ∧ b.toProperties = sortedLines l ∧
      ∃ es : List (String × String), es.Perm l ∧ es.Pairwise (fun e f => e.1 < f.1) ∧
        (sortedLines l).toList = es.flatMap fun e => e.1.toList ++ '=' :: (e.2.toList ++ ['\n']) := by
  refine ⟨?_, (sortedLines_of_enumerates h).symm, b.entries, ?_, b.messages.sorted, ?_⟩
  · rw [sortedLines_of_enumerates h, sortedLines_of_enumerates hother]
  · exact (enumerates_iff_perm.mp h).symm
  · rw [sortedLines_of_enumerates h, toProperties_eq, String.toList_ofList]
    rfl

end Enumerations

def wideBundle : Bundle := ofEntries [("a", "1"), ("\uff5e", "2"), ("😀", "3")]

/-- Keys of one, three and four bytes. By units of 16 bits the last two would change places. -/
theorem sortedLines_enumeration_wide :
    Enumerates [("😀", "3"), ("a", "1"), ("\uff5e", "2")] wideBundle ∧
      Enumerates [("\uff5e", "2"), ("😀", "3"), ("a", "1")] wideBundle ∧
      sortedLines [("😀", "3"), ("a", "1"), ("\uff5e", "2")] =
        sortedLines [("\uff5e", "2"), ("😀", "3"), ("a", "1")] ∧
      sortedLines [("😀", "3"), ("a", "1"), ("\uff5e", "2")] = "a=1\n\uff5e=2\n😀=3\n" := by
  have h : Enumerates [("😀", "3"), ("a", "1"), ("\uff5e", "2")] wideBundle :=
    enumerates_iff_perm.mpr (by decide)
  have hother : Enumerates [("\uff5e", "2"), ("😀", "3"), ("a", "1")] wideBundle :=
    enumerates_iff_perm.mpr (by decide)
  have htext : wideBundle.toProperties = "a=1\n\uff5e=2\n😀=3\n" := by
    rw [toProperties_eq]
    decide
  obtain ⟨hsame, hbundle, -⟩ := sortedLines_enumeration h hother
  exact ⟨h, hother, hsame, hbundle.symm.trans htext⟩

end MessageBundles.Bundle

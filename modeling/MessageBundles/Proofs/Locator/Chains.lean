import Mathlib.Data.List.Forall2
import MessageBundles.Locator
import MessageBundles.Proofs.Text.Pieces

/-
  Chains of documents — anchoring step by step and anchoring once

  A document may itself be located relative to another one, that one relative to a third, and so on.
  An anchored text has its last slash in the locator, or in the document if the locator has none, or
  nowhere. Wherever it is, the folder of the text is made of the two folders, one behind the other,
  so it does not matter which step of a chain is taken first. What is proved:
    1. `isFolder_folder` and `IsFolder.folder_eq` — a location has one folder, which is empty or
       ends in a slash, with no slash behind it.
    2. `folder_anchor` — the folder of an anchored locator is that of the document and then that of
       the locator.
    3. `folder_anchorAlong` — the folder of a chain is made of the folders of all its locations.
    4. `anchor_chain` — anchoring is associative, so a chain can be cut anywhere and anchored once;
       it leads to the folders of its documents and then its last location.
-/

namespace MessageBundles.Locator

open Text

/-! ## Folders -/

/-- Whether a text is all of a location up to its last slash, or nothing if there is none. -/
structure IsFolder (dir location : List Char) : Prop where
  ends : dir = [] ∨ dir.getLast? = some '/'
  behind : ∃ file, location = dir ++ file ∧ '/' ∉ file

theorem isFolder_folder (location : List Char) : IsFolder (folder location) location where
  ends := by
    have hlast := getLast?_dropEndWhile (· != '/') location
    unfold folder
    cases hc : (dropEndWhile (· != '/') location).getLast? with
    | none => exact .inl (List.getLast?_eq_none_iff.mp hc)
    | some c =>
      right
      have : c = '/' := by simpa using hlast c hc
      rw [this]
  behind := by
    obtain ⟨file, hfile, hnone⟩ := dropEndWhile_append (· != '/') location
    refine ⟨file, hfile, fun hmem => ?_⟩
    simpa using hnone '/' hmem

namespace IsFolder

variable {dir other location locator : List Char}

theorem folder_eq (h : IsFolder dir location) : folder location = dir := by
  obtain ⟨file, rfl, hfile⟩ := h.behind
  have hnone : folder file = [] := folder_of_not_mem hfile
  rcases h.ends with rfl | hends
  · exact hnone
  · obtain ⟨start, rfl⟩ := List.getLast?_eq_some_iff.mp hends
    rw [folder, List.append_assoc, List.singleton_append, dropEndWhile_append_cons (by decide),
      ← folder, hnone]

/-- What stands behind a folder has its own folder there. -/
theorem append (h : IsFolder dir location) (hother : IsFolder other locator) :
    IsFolder (dir ++ other) (dir ++ locator) where
  ends := by
    rcases hother.ends with rfl | hends
    · -- The last slash, if there is one, is that of the first location.
      rw [List.append_nil]
      exact h.ends
    · right
      rw [List.getLast?_append, hends, Option.some_or]
  behind := by
    obtain ⟨file, rfl, hfile⟩ := hother.behind
    exact ⟨file, (List.append_assoc dir other file).symm, hfile⟩

end IsFolder

/-! ## One step -/

theorem toList_anchor (document locator : String) :
    (anchor document locator).toList = folder document.toList ++ locator.toList :=
  String.toList_ofList

theorem folder_anchor (document locator : String) :
    folder (anchor document locator).toList = folder document.toList ++ folder locator.toList := by
  rw [toList_anchor]
  exact ((isFolder_folder document.toList).append (isFolder_folder locator.toList)).folder_eq

theorem anchor_assoc (base document locator : String) :
    anchor (anchor base document) locator = anchor base (anchor document locator) := by
  rw [← String.toList_inj]
  calc (anchor (anchor base document) locator).toList
      = folder (anchor base document).toList ++ locator.toList := toList_anchor _ _
    _ = folder base.toList ++ (folder document.toList ++ locator.toList) := by
        rw [folder_anchor, List.append_assoc]
    _ = (anchor base (anchor document locator)).toList := by
        rw [toList_anchor, toList_anchor]

instance : Std.Associative anchor := ⟨anchor_assoc⟩

/-! ## Chains -/

/-- Where a chain of locations leads, each anchored to where those in front of it lead. -/
def anchorAlong (base : String) (chain : List String) : String := chain.foldl anchor base

theorem anchorAlong_append_cons (base : String) (front : List String) (location : String)
    (rest : List String) :
    anchorAlong base (front ++ location :: rest) =
      anchor (anchorAlong base front) (anchorAlong location rest) := by
  rw [anchorAlong, List.foldl_append, List.foldl_cons, List.foldl_assoc]
  rfl

theorem folder_anchorAlong (base : String) (chain : List String) :
    folder (anchorAlong base chain).toList =
      ((base :: chain).map fun location => folder location.toList).flatten := by
  -- A chain goes on from where its first step leads, so the base is not fixed.
  induction chain generalizing base with
  | nil => exact (List.append_nil _).symm
  | cons location rest ih =>
    calc folder (anchorAlong (anchor base location) rest).toList
        = folder (anchor base location).toList ++
            (rest.map fun location => folder location.toList).flatten := ih (anchor base location)
      _ = folder base.toList ++ (folder location.toList ++
            (rest.map fun location => folder location.toList).flatten) := by
          rw [folder_anchor, List.append_assoc]

/-- Anchoring is associative. So a chain of any length can be cut at each of its locations: what the
rest leads to by itself is anchored once, to what the front leads to. The chain leads to the text of
each document up to its last slash, one behind the other, and then the last location as it is. -/
theorem anchor_chain :
    (∀ base document locator : String,
      anchor (anchor base document) locator = anchor base (anchor document locator)) ∧
    (∀ (base : String) (front : List String) (location : String) (rest : List String),
      anchorAlong base (front ++ location :: rest) =
        anchor (anchorAlong base front) (anchorAlong location rest)) ∧
    ∀ (base : String) (documents : List String) (locator : String),
      ∃ folders, List.Forall₂ IsFolder folders ((base :: documents).map String.toList) ∧
        anchorAlong base (documents ++ [locator]) =
          String.ofList (folders.flatten ++ locator.toList) := by
  refine ⟨anchor_assoc, anchorAlong_append_cons, ?_⟩
  intro base documents locator
  refine ⟨(base :: documents).map fun location => folder location.toList, ?_, ?_⟩
  · rw [List.forall₂_map_left_iff, List.forall₂_map_right_iff, List.forall₂_same]
    exact fun location _ => isFolder_folder location.toList
  · rw [anchorAlong_append_cons, ← folder_anchorAlong]
    rfl

/-- A document without a slash adds nothing to the folders in front of it. -/
example : anchorAlong "http://host/app/page.html" ["./a/b.html", "c.html", "./x.properties"] =
    "http://host/app/./a/./x.properties" := by decide

end MessageBundles.Locator

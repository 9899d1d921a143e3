import MessageBundles.Text.Pieces

/-
  Locators — where the text of a bundle is to be found

  A locator is absolute when it starts with a slash or holds `://`. A locator that is still relative
  is anchored to the location of a document: it follows everything up to the last slash of that
  location, with no further meaning given to either.

  Correspondence:
    `BUNDLE_EXTENSION`     ↔ `extension`
    `is_absolute_location` ↔ `isAbsolute`
    `anchor_to_base`       ↔ `anchor`
-/

namespace MessageBundles.Locator

open Text

def extension : String := ".properties"

/-- Whether a location stands on its own. -/
def isAbsolute (location : List Char) : Bool :=
  ['/'].isPrefixOf location || occursIn [':', '/', '/'] location

/-- A text up to its last slash, that slash included; nothing if there is none. -/
def folder (location : List Char) : List Char :=
  dropEndWhile (· != '/') location

def anchor (document locator : String) : String :=
  String.ofList (folder document.toList ++ locator.toList)

theorem folder_of_not_mem {location : List Char} (h : '/' ∉ location) : folder location = [] := by
  apply dropEndWhile_eq_nil_of_forall
  intro c hc
  have : c ≠ '/' := fun e => h (e ▸ hc)
  simpa using this

theorem anchor_of_not_mem {document locator : String} (h : '/' ∉ document.toList) :
    anchor document locator = locator := by
  rw [anchor, folder_of_not_mem h, List.nil_append, String.ofList_toList]

end MessageBundles.Locator

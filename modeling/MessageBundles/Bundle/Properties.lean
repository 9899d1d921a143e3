import MessageBundles.Bundle.Basic
import MessageBundles.Text.Blank
import MessageBundles.Text.Pieces
import MessageBundles.Text.Utf8

/-
  Property lines — the text a bundle is read from and written to

  A text is cut into lines at line feeds and carriage returns. A line that is blank, that starts
  with `#`, or that has no `=` behind its first character says nothing; every other line binds the
  text before the first such `=`, trimmed, to the text behind it, trimmed. The first character is
  never the separator, so a key may start with `=`. A key bound twice keeps the later message.
  A bundle is written with one line per entry, sorted by the bytes of the keys, so that the order in
  which the entries come does not show.
    1. `fromProperties_find?` — a key holds what the last line that binds it says.
    2. `sortedLines` writes entries that come in any order, and `toProperties` those of a bundle.

  Correspondence:
    `LINE_BREAKS`, `COMMENT`, `ENTRY`         ↔ `bindings`, `entry?`
    `parse`, `MessageBundle::from_properties` ↔ `fromProperties`
    `to_properties`                           ↔ `sortedLines`, `toProperties`
-/

namespace MessageBundles

open Text

/-- What one line binds, if anything. -/
def Bundle.entry? (line : List Char) : Option (String × String) :=
  match line.dropWhile isBlank with
  | [] => none
  | c :: rest =>
    if c = '#' then none
    else match rest.dropWhile (· != '=') with
      | [] => none
      | _ :: value =>
        some (String.ofList (dropEndWhile isBlank (c :: rest.takeWhile (· != '='))),
          String.ofList (trim isBlank value))

def Bundle.bindings (text : List Char) : List (String × String) :=
  (runs isLineBreak text).filterMap Bundle.entry?

def Bundle.fromProperties (text : String) : Bundle :=
  Bundle.ofEntries (Bundle.bindings text.toList)

def Bundle.line (e : String × String) : List Char :=
  e.1.toList ++ '=' :: (e.2.toList ++ ['\n'])

/-- Whether the key of an entry, by its bytes, does not come behind that of another one. -/
def Bundle.keyLe (e f : String × String) : Bool :=
  !decide (Utf8.encode f.1.toList < Utf8.encode e.1.toList)

/-- The lines of entries that come in any order, sorted by their keys. -/
def Bundle.sortedLines (l : List (String × String)) : String :=
  String.ofList ((l.mergeSort Bundle.keyLe).flatMap Bundle.line)

/-- The text of a bundle. -/
def Bundle.toProperties (b : Bundle) : String := Bundle.sortedLines b.entries

/-! ## What the lines bind -/

/-- A key holds what the last line that binds it says. -/
theorem Bundle.fromProperties_find? (text key : String) :
    (Bundle.fromProperties text).find? key =
      Dict.findEntry key (Bundle.bindings text.toList).reverse :=
  Dict.find?_ofList _ _

theorem Bundle.entry?_comment {line rest : List Char} (h : line.dropWhile isBlank = '#' :: rest) :
    Bundle.entry? line = none := by
  simp [Bundle.entry?, h]

end MessageBundles

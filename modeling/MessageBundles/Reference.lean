import MessageBundles.Text.Pieces

/-
  References — what a caller writes for a bundle, and the identifier it stands for

  A reference is sorted into exactly one of four kinds, by these rules in order: nothing or the
  empty text is the default bundle; what starts with a slash names a module from the top; what
  neither starts with a dot nor holds a slash is a bare name in the default folder; all else is an
  identifier already. The single slash names nothing, and is the only reference without an
  identifier (`identifier?_eq_none_iff`).

  Correspondence:
    `DEFAULT_BUNDLE_ID`, `DEFAULT_BUNDLE_DIR` ↔ `Identifier.default`, `Identifier.defaultFolder`
    `CanonicalIdentifier`                     ↔ `Identifier`
    `BundleReferenceKind`, `classify`         ↔ `Reference`, `Reference.classify`
-/

namespace MessageBundles

structure Identifier where
  text : String
  deriving DecidableEq, Repr

def Identifier.default : Identifier := ⟨"./i18n/messages"⟩

/-- The folder bare names live in. -/
def Identifier.defaultFolder : String := "./i18n/"

/-- Whether an identifier is relative to the module that asks for it. -/
def Identifier.isRelative (id : Identifier) : Bool := ['.'].isPrefixOf id.text.toList

/-- A reference, sorted by the way it is resolved. -/
inductive Reference where
  -- No reference, or an empty one.
  | default
  -- A module named from the top; holds the text behind the slash.
  | absolute (path : String)
  | named (name : String)
  | relative (id : String)
  deriving DecidableEq, Repr

namespace Reference

def classify : Option String → Reference
  | none => .default
  | some r =>
    match r.toList with
    | [] => .default
    | c :: rest =>
      if c = '/' then .absolute (String.ofList rest)
      else if c ≠ '.' ∧ '/' ∉ rest then .named r
      else .relative r

def value? : Reference → Option String
  | .default => none
  | .absolute path => some path
  | .named name => some name
  | .relative id => some id

/-- The identifier a reference stands for; a lone slash stands for none. -/
def identifier? : Reference → Option Identifier
  | .default => some Identifier.default
  | .absolute path => if path = "" then none else some ⟨path⟩
  | .named name => some ⟨Identifier.defaultFolder ++ name⟩
  | .relative id => some ⟨id⟩

theorem identifier?_eq_none_iff {r : Reference} : r.identifier? = none ↔ r = .absolute "" := by
  cases r <;> simp [identifier?]

end Reference

end MessageBundles

import MessageBundles.Number.Binary64

/-
  JSON values

  A number keeps whether it was written as a whole number: `1` and `1.0` are different values, and a
  whole number outside the range of 64 bits is a floating-point number.

  Stands for `Value` of the library `serde_json`.
-/

namespace MessageBundles

/-- A JSON value. The members of an object stand in the order of their names, each name once, when
the value was read from a text. -/
inductive Json where
  | null
  | boolean (b : Bool)
  | integer (i : Int)
  | real (x : Binary64)
  | string (s : String)
  | array (items : List Json)
  | object (members : List (String × Json))
  deriving Inhabited, Repr

namespace Json

def member? (members : List (String × Json)) (name : String) : Option Json :=
  members.lookup name

/-- A text where there is one, and null where there is none. -/
def ofOption : Option String → Json
  | none => .null
  | some s => .string s

/-! ## Equality -/

mutual

/-- Whether two values are the same, so that equality is decided part by part. -/
def same : Json → Json → Bool
  | .null, .null => true
  | .boolean a, .boolean b => a == b
  | .integer i, .integer j => i == j
  | .real x, .real y => x == y
  | .string s, .string t => s == t
  | .array a, .array b => sameItems a b
  | .object a, .object b => sameMembers a b
  | _, _ => false

def sameItems : List Json → List Json → Bool
  | [], [] => true
  | v :: rest, w :: others => same v w && sameItems rest others
  | _, _ => false

def sameMembers : List (String × Json) → List (String × Json) → Bool
  | [], [] => true
  | (k, v) :: rest, (l, w) :: others => k == l && same v w && sameMembers rest others
  | _, _ => false

end

mutual

theorem same_iff (v w : Json) : same v w = true ↔ v = w := by
  cases v <;> cases w <;> simp [same, sameItems_iff, sameMembers_iff]

theorem sameItems_iff (a b : List Json) : sameItems a b = true ↔ a = b := by
  cases a <;> cases b <;> simp [sameItems, same_iff, sameItems_iff]

theorem sameMembers_iff (a b : List (String × Json)) : sameMembers a b = true ↔ a = b := by
  rcases a with _ | ⟨⟨k, v⟩, rest⟩ <;> rcases b with _ | ⟨⟨l, w⟩, others⟩ <;>
    simp [sameMembers, same_iff, sameMembers_iff, Prod.ext_iff]
end

instance : DecidableEq Json := fun v w => decidable_of_iff _ (same_iff v w)

end Json

end MessageBundles

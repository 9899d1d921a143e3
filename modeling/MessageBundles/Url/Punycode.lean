/-
  Punycode — a label of any characters as a label of ASCII characters

  The ASCII characters of a label come first, then a hyphen if there are any, then one number in
  base 36 for each other character, in increasing order of their code points: how far a counter of
  code points and positions moves before the character is put in. The digits of a number have
  thresholds that follow the size of the numbers before it.
-/

namespace MessageBundles.Url.Punycode

/-- The digits `a` to `z` and `0` to `9`. -/
def digitChar (d : Nat) : Char :=
  if d < 26 then Char.ofNat (0x61 + d) else Char.ofNat (0x30 + (d - 26))

def digitOf? (c : Char) : Option Nat :=
  let n := c.toNat
  if 0x61 ≤ n ∧ n ≤ 0x7A then some (n - 0x61)
  else if 0x41 ≤ n ∧ n ≤ 0x5A then some (n - 0x41)
  else if 0x30 ≤ n ∧ n ≤ 0x39 then some (n - 0x30 + 26)
  else none

/-- The threshold of a digit: between 1 and 26. -/
def threshold (position bias : Nat) : Nat :=
  if position ≤ bias then 1 else if bias + 26 ≤ position then 26 else position - bias

theorem one_le_threshold (position bias : Nat) : 1 ≤ threshold position bias := by
  simp only [threshold]
  split
  · exact Nat.le_refl 1
  · split <;> omega

/-- Divide by 35 until at most 455 is left, counting 36 for each division. -/
def shrink (delta count : Nat) : Nat × Nat :=
  if 455 < delta then shrink (delta / 35) (count + 36) else (delta, count)
termination_by delta
decreasing_by exact Nat.div_lt_self (by omega) (by omega)

/-- The bias behind a number: it grows with the number's share of the label so far. -/
def adapt (delta points : Nat) (first : Bool) : Nat :=
  let delta := if first then delta / 700 else delta / 2
  let (rest, count) := shrink (delta + delta / points) 0
  count + 36 * rest / (rest + 38)

/-! ## Writing -/

def numberDigits (bias position q : Nat) : List Char :=
  let t := threshold position bias
  if q < t then [digitChar q]
  else digitChar (t + (q - t) % (36 - t)) :: numberDigits bias (position + 36) ((q - t) / (36 - t))
termination_by q
decreasing_by
  have h1 := one_le_threshold position bias
  calc (q - threshold position bias) / (36 - threshold position bias)
      ≤ q - threshold position bias := Nat.div_le_self _ _
    _ < q := by omega

/-- What has been written, and the numbers the next one depends on. -/
structure Progress where
  out : List Char
  delta : Nat
  bias : Nat
  written : Nat

/-- Go over one character while the characters with a code point are written. -/
def passOver (ascii point : Nat) (p : Progress) (c : Char) : Progress :=
  if c.toNat < point then { p with delta := p.delta + 1 }
  else if c.toNat = point then
    { out := p.out ++ numberDigits p.bias 36 p.delta
      delta := 0
      bias := adapt p.delta (p.written + 1) (p.written == ascii)
      written := p.written + 1 }
  else p

/-- Write the characters of each code point in turn; `next` is the first code point not done. -/
def writePoints (label : List Char) (ascii : Nat) : List Nat → Nat → Progress → Progress
  | [], _, p => p
  | point :: points, next, p =>
    let p := { p with delta := p.delta + (point - next) * (p.written + 1) }
    let p := label.foldl (passOver ascii point) p
    writePoints label ascii points (point + 1) { p with delta := p.delta + 1 }

def insertPoint (n : Nat) : List Nat → List Nat
  | [] => [n]
  | m :: rest => if n < m then n :: m :: rest else if n = m then m :: rest else m :: insertPoint n rest

def encode (label : List Char) : List Char :=
  let ascii := label.filter (·.toNat < 0x80)
  let points := (label.filter (0x80 ≤ ·.toNat)).foldl (fun l c => insertPoint c.toNat l) []
  let written := writePoints label ascii.length points 0x80 ⟨[], 0, 72, ascii.length⟩
  ascii ++ (if ascii.isEmpty then [] else ['-']) ++ written.out

/-! ## Reading -/

/-- Read one number, least digit first: its value added to a sum, and what follows it. -/
def readNumber (bias : Nat) : List Char → Nat → Nat → Nat → Option (Nat × List Char)
  | [], _, _, _ => none
  | c :: rest, position, weight, sum =>
    match digitOf? c with
    | none => none
    | some d =>
      let sum := sum + d * weight
      let t := threshold position bias
      if d < t then some (sum, rest) else readNumber bias rest (position + 36) (weight * (36 - t)) sum

theorem readNumber_length {bias : Nat} {cs : List Char} {position weight sum : Nat}
    {r : Nat × List Char} (h : readNumber bias cs position weight sum = some r) :
    r.2.length < cs.length := by
  induction cs generalizing position weight sum with
  | nil => simp [readNumber] at h
  | cons c rest ih =>
    simp only [readNumber] at h
    split at h
    · simp at h
    · split at h
      · obtain rfl := Option.some.inj h
        simp
      · have := ih h
        simp only [List.length_cons]
        omega

/-- Put the characters in that the numbers tell of; `point` and `place` are where the counter
stands. Code points outside the range of characters are refused. -/
def readPoints (cs out : List Char) (point place bias : Nat) : Option (List Char) :=
  if cs.isEmpty then some out
  else match h : readNumber bias cs 36 1 place with
    | none => none
    | some (sum, rest) =>
      let length := out.length + 1
      let next := point + sum / length
      if 0x110000 ≤ next ∨ (0xD800 ≤ next ∧ next < 0xE000) then none
      else
        have : rest.length < cs.length := readNumber_length h
        readPoints rest (out.take (sum % length) ++ Char.ofNat next :: out.drop (sum % length)) next
          (sum % length + 1) (adapt (sum - place) length (place == 0))
termination_by cs.length

/-- The text before the last hyphen and the text behind it, if a hyphen stands behind the first
character; otherwise nothing and the whole text. -/
def splitBasic (cs : List Char) : List Char × List Char :=
  let behind := (cs.reverse.takeWhile (· != '-')).reverse
  let before := cs.take (cs.length - behind.length - 1)
  if before.isEmpty then ([], cs) else (before, behind)

def decode? (cs : List Char) : Option (List Char) :=
  let (basic, numbers) := splitBasic cs
  if basic.any (0x80 ≤ ·.toNat) then none else readPoints numbers basic 0x80 0 72

end MessageBundles.Url.Punycode

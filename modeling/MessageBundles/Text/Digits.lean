/-
  Digits — natural numbers as text, in a base of at most sixteen
-/

namespace MessageBundles.Text

/-- The value of a digit, letters of either case standing for ten to fifteen. -/
def digitValue (c : Char) : Option Nat :=
  let n := c.toNat
  if 0x30 ≤ n ∧ n ≤ 0x39 then some (n - 0x30)
  else if 0x41 ≤ n ∧ n ≤ 0x46 then some (n - 0x41 + 10)
  else if 0x61 ≤ n ∧ n ≤ 0x66 then some (n - 0x61 + 10)
  else none

def isDigitOf (base : Nat) (c : Char) : Bool :=
  match digitValue c with
  | some v => decide (v < base)
  | none => false

def isDigit (c : Char) : Bool := isDigitOf 10 c

/-- Whether a character is one of the 52 letters of the basic Latin alphabet. -/
def isLetter (c : Char) : Bool :=
  let n := c.toNat
  (0x41 ≤ n && n ≤ 0x5A) || (0x61 ≤ n && n ≤ 0x7A)

/-- The number a run of digits denotes; characters that are no digits count as zero. -/
def digitsValue (base : Nat) (cs : List Char) : Nat :=
  cs.foldl (fun acc c => acc * base + (digitValue c).getD 0) 0

/-- The number a text denotes, if it is one or more digits and nothing else. -/
def natural? (base : Nat) (cs : List Char) : Option Nat :=
  if cs.isEmpty || !cs.all (isDigitOf base) then none else some (digitsValue base cs)

def padded (base width n : Nat) : List Char :=
  let ds := Nat.toDigits base n
  List.replicate (width - ds.length) '0' ++ ds

end MessageBundles.Text

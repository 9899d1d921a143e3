import MessageBundles.Number.Word64

/-
  Binary64 — floating-point numbers of 53 significant bits, in exact arithmetic

  A finite number is a sign, a natural number below 2^53 and a power of two. Reading a decimal
  rounds to the nearest such number, a tie going to the even significand. Writing finds the fewest
  digits that read back: for one digit, two, three and so on it tries the two decimals of that many
  digits around the number, and takes the nearer one of those that round to it.

  Stands for the built-in numbers of this kind and for how the libraries read and write them.
-/

namespace MessageBundles

inductive Binary64 where
  /-- The number significand · 2^exponent, or its opposite. -/
  | finite (negative : Bool) (significand : Nat) (exponent : Int)
  | infinite (negative : Bool)
  | notANumber
  deriving DecidableEq, Repr

namespace Binary64

def pow2 (n : Nat) : Nat := Nat.pow 2 n

def pow10 (n : Nat) : Nat := Nat.pow 10 n

def minExponent : Int := -1074

def maxExponent : Int := 971

/-- The quotient of two natural numbers rounded to the nearest one, a tie going to the even one. -/
def roundDiv (num den : Nat) : Nat :=
  let q := num / den
  let r := num % den
  if 2 * r < den then q
  else if den < 2 * r then q + 1
  else if q % 2 = 0 then q else q + 1

/-- A fraction divided by a power of two, again as a fraction. -/
def scaled (num den : Nat) (e : Int) : Nat × Nat :=
  if 0 ≤ e then (num, den * pow2 e.toNat) else (num * pow2 (-e).toNat, den)

/-- The exponent at which a positive fraction has 53 significant bits, or the least one. -/
def exponentOf (num den : Nat) : Int :=
  let guess : Int := (num.log2 : Int) - (den.log2 : Int) - 52
  let (n, d) := scaled num den guess
  let e := if n / d < pow2 52 then guess - 1 else if pow2 53 ≤ n / d then guess + 1 else guess
  max e minExponent

def ofFraction (negative : Bool) (num den : Nat) : Binary64 :=
  if num = 0 then .finite negative 0 minExponent
  else
    let e := exponentOf num den
    let (n, d) := scaled num den e
    let q := roundDiv n d
    let (q, e) := if q = pow2 53 then (pow2 52, e + 1) else (q, e)
    if maxExponent < e then .infinite negative else .finite negative q e

/-- The number nearest to digits · 10^exponent. Exponents far outside the format are not computed
with: they give infinity or zero. -/
def ofDecimal (negative : Bool) (digits : Nat) (exponent : Int) : Binary64 :=
  if digits = 0 then .finite negative 0 minExponent
  else if 400 < exponent then .infinite negative
  else if exponent < -400 - (digits.log2 : Int) then .finite negative 0 minExponent
  else if 0 ≤ exponent then ofFraction negative (digits * pow10 exponent.toNat) 1
  else ofFraction negative digits (pow10 (-exponent).toNat)

def isZero : Binary64 → Bool
  | .finite _ m _ => m == 0
  | _ => false

/-! ## Writing -/

/-- A positive number of the format as a fraction. -/
def fraction (significand : Nat) (exponent : Int) : Nat × Nat :=
  if 0 ≤ exponent then (significand * pow2 exponent.toNat, 1)
  else (significand, pow2 (-exponent).toNat)

/-- The least power of ten above a positive fraction. -/
def decimalLength (num den : Nat) : Int :=
  let guess : Int := ((num.log2 : Int) - (den.log2 : Int)) * 30103 / 100000
  let below (k : Int) : Bool :=
    if 0 ≤ k then num < den * pow10 k.toNat else num * pow10 (-k).toNat < den
  if below (guess - 1) then guess - 1
  else if below guess then guess
  else if below (guess + 1) then guess + 1
  else guess + 2

/-- How far digits · 10^power lies from a fraction, over a denominator that depends only on the
fraction and the power. -/
def distance (num den digits : Nat) (power : Int) : Nat :=
  let (a, b) := if 0 ≤ power then (digits * pow10 power.toNat, 1) else (digits, pow10 (-power).toNat)
  if a * den ≤ num * b then num * b - a * den else a * den - num * b

/-- The digits on the grid of a power of ten that read back as a number: of its two neighbours the
one that does, and the nearer one if both do. -/
def onGrid (significand : Nat) (exponent power : Int) : Option Nat :=
  let (num, den) := fraction significand exponent
  let below := if 0 ≤ power then num / (den * pow10 power.toNat) else num * pow10 (-power).toNat / den
  let readsBack (digits : Nat) : Bool :=
    digits != 0 && ofDecimal false digits power == .finite false significand exponent
  match readsBack below, readsBack (below + 1) with
  | true, true =>
    if distance num den (below + 1) power < distance num den below power then some (below + 1)
    else some below
  | true, false => some below
  | false, true => some (below + 1)
  | false, false => none

/-- The fewest digits that read back, with their power of ten, for a positive number. Seventeen
digits always do. -/
def shortest (significand : Nat) (exponent : Int) : Nat × Int :=
  let (num, den) := fraction significand exponent
  let length := decimalLength num den
  let tries := (List.range 17).filterMap fun n =>
    let power := length - (n + 1 : Nat)
    (onGrid significand exponent power).map (·, power)
  tries.head?.getD (0, 0)

/-- Digits · 10^power in positional notation, with no point behind a whole number. -/
def positional (digits : Nat) (power : Int) : List Char :=
  let ds := Nat.toDigits 10 digits
  if 0 ≤ power then ds ++ List.replicate power.toNat '0'
  else
    let places := (-power).toNat
    let padded := List.replicate (places + 1 - ds.length) '0' ++ ds
    let (whole, part) := padded.splitAt (padded.length - places)
    let part := (part.reverse.dropWhile (· == '0')).reverse
    if part.isEmpty then whole else whole ++ '.' :: part

/-- A number in positional notation with the fewest digits that read back. -/
def toText : Binary64 → String
  | .notANumber => "NaN"
  | .infinite negative => if negative then "-inf" else "inf"
  | .finite negative m e =>
    let (digits, power) := if m = 0 then (0, 0) else shortest m e
    String.ofList ((if negative then ['-'] else []) ++ positional digits power)

/-! ## Rounding to a natural number -/

/-- The nearest whole number below 2^64, a half going away from zero; what lies outside the range
goes to its nearer end, and what is no number to zero. -/
def toUnsigned64 : Binary64 → Nat
  | .notANumber => 0
  | .infinite negative => if negative then 0 else Word64.bound - 1
  | .finite true _ _ => 0
  | .finite false m e =>
    if 64 ≤ e then (if m = 0 then 0 else Word64.bound - 1)
    else if 0 ≤ e then min (m * pow2 e.toNat) (Word64.bound - 1)
    else min ((m + pow2 ((-e).toNat - 1)) / pow2 (-e).toNat) (Word64.bound - 1)

end Binary64

end MessageBundles

import MessageBundles.Json.Basic
import MessageBundles.Number.Word64
import MessageBundles.Text.Digits
import MessageBundles.Text.Pieces

/-
  Numbers, dates and truth values of a TOML text

  Whole numbers have 64 bits and may be written in four bases; an underscore may stand between two
  digits; a decimal number has no needless zero in front. A date, a time, or both with an offset or
  without, is a value of its own and is kept as a text of one form: a `T` in the middle, a capital
  `Z`, and a fraction of at most nine digits without zeros at its end.
-/

namespace MessageBundles.Toml

open Text

/-- The digits of a number without the underscores between them. -/
def digits? (base : Nat) (cs : List Char) : Option (List Char) :=
  let groups := split '_' cs
  if groups.all (fun g => !g.isEmpty && g.all (isDigitOf base)) then some groups.flatten else none

def splitSign (cs : List Char) : Bool × List Char :=
  match cs with
  | '-' :: rest => (true, rest)
  | '+' :: rest => (false, rest)
  | cs => (false, cs)

/-- The digits of a decimal number: a zero only stands in front if it is all there is. -/
def decimal? (cs : List Char) : Option (List Char) :=
  (digits? 10 cs).bind fun ds =>
    if 1 < ds.length ∧ ds.head? = some '0' then none else some ds

/-- A whole number in the range of 64 bits with a sign. -/
def inRange? (i : Int) : Option Json :=
  if Word64.isSigned i then some (.integer i) else none

def basedInteger? (base : Nat) (cs : List Char) : Option Json :=
  (digits? base cs).bind fun ds => inRange? (digitsValue base ds)

def integer? (cs : List Char) : Option Json :=
  match cs with
  | '0' :: 'x' :: rest => basedInteger? 16 rest
  | '0' :: 'o' :: rest => basedInteger? 8 rest
  | '0' :: 'b' :: rest => basedInteger? 2 rest
  | cs =>
    let (negative, cs) := splitSign cs
    (decimal? cs).bind fun ds =>
      let n : Int := digitsValue 10 ds
      inRange? (if negative then -n else n)

def isExponentMark (c : Char) : Bool := c == 'e' || c == 'E'

/-- The exponent of a number, zero where there is none. -/
def exponent? (cs : List Char) : Option Int :=
  match cs with
  | [] => some 0
  | _ :: rest =>
    let (negative, rest) := splitSign rest
    (digits? 10 rest).map fun ds =>
      let n : Int := digitsValue 10 ds
      if negative then -n else n

/-- The digits of the fraction of a number, none where there is no point. -/
def fraction? (cs : List Char) : Option (List Char) :=
  match cs with
  | [] => some []
  | _ :: rest => digits? 10 rest

/-- A number with a fraction or an exponent. One that is too great for the format is none. -/
def decimalReal? (cs : List Char) : Option Json := do
  let (negative, cs) := splitSign cs
  let mantissa := cs.takeWhile (!isExponentMark ·)
  let exponentPart := cs.dropWhile (!isExponentMark ·)
  let whole := mantissa.takeWhile (· != '.')
  let fractionPart := mantissa.dropWhile (· != '.')
  if exponentPart.isEmpty && fractionPart.isEmpty then none
  else
    let w ← decimal? whole
    let f ← fraction? fractionPart
    let e ← exponent? exponentPart
    let x := Binary64.ofDecimal negative (digitsValue 10 (w ++ f)) (e - f.length)
    if x = .infinite false then none else some (.real x)

def namedReal? (cs : List Char) : Option Json :=
  let (negative, cs) := splitSign cs
  if cs = "inf".toList then some (.real (.infinite negative))
  else if cs = "nan".toList then some (.real .notANumber)
  else none

/-! ## Dates -/

/-- A number of exactly so many digits, at most some bound. -/
def field? (width least most : Nat) (cs : List Char) : Option Nat :=
  if cs.length = width then
    (natural? 10 cs).bind fun n => if least ≤ n ∧ n ≤ most then some n else none
  else none

def daysIn (year month : Nat) : Nat :=
  if month = 2 then
    (if year % 4 = 0 ∧ (year % 100 ≠ 0 ∨ year % 400 = 0) then 29 else 28)
  else if month ∈ [4, 6, 9, 11] then 30
  else 31

def date? (cs : List Char) : Option (List Char) :=
  match split '-' cs with
  | [y, m, d] => do
    let year ← field? 4 0 9999 y
    let month ← field? 2 1 12 m
    let _ ← field? 2 1 (daysIn year month) d
    some cs
  | _ => none

/-- The fraction of a second, as it is kept. -/
def secondFraction? (cs : List Char) : Option (List Char) :=
  match cs with
  | [] => some []
  | _ :: ds =>
    if ds.isEmpty || !ds.all isDigit then none
    else
      let kept := dropEndWhile (· == '0') (ds.take 9)
      some (if kept.isEmpty then [] else '.' :: kept)

def time? (cs : List Char) : Option (List Char) :=
  let whole := cs.takeWhile (· != '.')
  match split ':' whole with
  | [h, m, s] => do
    let _ ← field? 2 0 23 h
    let _ ← field? 2 0 59 m
    let _ ← field? 2 0 60 s
    let f ← secondFraction? (cs.dropWhile (· != '.'))
    some (whole ++ f)
  | _ => none

/-- The distance of a time from that of the zero meridian. -/
def offset? (cs : List Char) : Option (List Char) :=
  match cs with
  | [] => some []
  | sign :: rest =>
    if (sign = 'Z' ∨ sign = 'z') ∧ rest = [] then some ['Z']
    else if sign = '+' ∨ sign = '-' then
      match split ':' rest with
      | [h, m] => do
        let hours ← field? 2 0 23 h
        let minutes ← field? 2 0 59 m
        some ((if hours = 0 ∧ minutes = 0 then '+' else sign) :: rest)
      | _ => none
    else none

def isOffsetMark (c : Char) : Bool := c ∈ ['Z', 'z', '+', '-']

/-- A date, a time, or a date and a time, in the one form they are kept in. -/
def moment? (cs : List Char) : Option (List Char) :=
  match time? cs with
  | some t => some t
  | none => do
    let d ← date? (cs.take 10)
    match cs.drop 10 with
    | [] => some d
    | delimiter :: rest =>
      if delimiter ∈ ['T', 't', ' '] then
        let t ← time? (rest.takeWhile (!isOffsetMark ·))
        let o ← offset? (rest.dropWhile (!isOffsetMark ·))
        some (d ++ 'T' :: (t ++ o))
      else none

/-! ## Scalars -/

def scalar? (cs : List Char) : Option Json :=
  if cs = "true".toList then some (.boolean true)
  else if cs = "false".toList then some (.boolean false)
  else match moment? cs with
    | some t => some (.string (String.ofList t))
    | none =>
      match integer? cs with
      | some v => some v
      | none =>
        match decimalReal? cs with
        | some v => some v
        | none => namedReal? cs

end MessageBundles.Toml

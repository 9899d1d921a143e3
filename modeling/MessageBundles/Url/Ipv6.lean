import MessageBundles.Text.Digits
import MessageBundles.Text.Pieces

/-
  IPv6 addresses in hosts

  An address is eight pieces of up to four hexadecimal digits between colons. One run of zero pieces
  may be left out between two colons, and the last two pieces may be written as an IPv4 address. In
  writing, the first of the longest runs of two or more zero pieces is left out.
-/

namespace MessageBundles.Url

open Text

/-- A byte of an IPv4 address inside an IPv6 address: decimal, without a leading zero. -/
def strictByte? (cs : List Char) : Option Nat :=
  if cs.isEmpty || !cs.all isDigit || (cs.length ≠ 1 && ['0'].isPrefixOf cs) then none
  else if 255 < digitsValue 10 cs then none
  else some (digitsValue 10 cs)

def piece? (cs : List Char) : Option Nat :=
  if 4 < cs.length then none else natural? 16 cs

/-- The pieces of a part of an address; the last one may be an IPv4 address and counts for two. -/
def pieces? : List (List Char) → Option (List Nat)
  | [] => some []
  | [last] =>
    if '.' ∈ last then
      match (split '.' last).mapM strictByte? with
      | some [a, b, c, d] => some [a * 256 + b, c * 256 + d]
      | _ => none
    else (piece? last).map ([·])
  | piece :: rest => do
    let p ← piece? piece
    let ps ← pieces? rest
    some (p :: ps)

/-- The text before and behind the first two neighbouring colons. -/
def splitAtGap : List Char → Option (List Char × List Char)
  | ':' :: ':' :: rest => some ([], rest)
  | c :: rest => (splitAtGap rest).map fun (before, behind) => (c :: before, behind)
  | [] => none

def part? (cs : List Char) : Option (List Nat) :=
  if cs.isEmpty then some [] else pieces? (split ':' cs)

def parseIpv6? (cs : List Char) : Option (List Nat) :=
  match splitAtGap cs with
  | none => (part? cs).bind fun pieces => if pieces.length = 8 then some pieces else none
  | some (before, behind) => do
    if '.' ∈ before then none
    else
      let front ← part? before
      let back ← part? behind
      if 8 ≤ front.length + back.length then none
      else some (front ++ List.replicate (8 - front.length - back.length) 0 ++ back)

/-- The start and length of the first of the longest runs of zeros. -/
def longestZeros (pieces : List Nat) : Nat × Nat :=
  let runAt (i : Nat) : Nat := ((pieces.drop i).takeWhile (· == 0)).length
  (List.range pieces.length).foldl
    (fun best i => if best.2 < runAt i then (i, runAt i) else best) (0, 0)

def piecesText (pieces : List Nat) : List Char :=
  join ':' (pieces.map (Nat.toDigits 16))

def ipv6Text (pieces : List Nat) : List Char :=
  let (start, length) := longestZeros pieces
  let body :=
    if length < 2 then piecesText pieces
    else piecesText (pieces.take start) ++ ':' :: ':' :: piecesText (pieces.drop (start + length))
  '[' :: (body ++ [']'])

end MessageBundles.Url

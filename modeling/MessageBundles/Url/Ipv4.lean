import MessageBundles.Text.Digits
import MessageBundles.Text.Pieces

/-
  IPv4 addresses in hosts

  A host whose last label is a number, in decimal, octal (a leading zero) or hexadecimal (a leading
  `0x`), is meant as an address: up to four numbers between dots, the last of which fills all the
  bytes that are left.
-/

namespace MessageBundles.Url

open Text

/-- A number of an address, or nothing where the text is none. The empty text behind `0x` is zero. -/
def ipv4Number? (cs : List Char) : Option Nat :=
  match cs with
  | [] => none
  | '0' :: x :: rest =>
    if x = 'x' ∨ x = 'X' then (if rest.isEmpty then some 0 else natural? 16 rest)
    else natural? 8 (x :: rest)
  | cs => natural? 10 cs

/-- The labels of a host without an empty one at its end. -/
def labels (host : List Char) : List (List Char) :=
  let pieces := split '.' host
  if pieces.getLast? = some [] then pieces.dropLast else pieces

/-- Whether the last label of a host is a number, so that the host has to be an address. -/
def endsInNumber (host : List Char) : Bool :=
  match (labels host).getLast? with
  | none => false
  | some last => (!last.isEmpty && last.all isDigit) || (ipv4Number? last).isSome

/-- The number of an address from its parts in order: each but the last is a byte, the last one
fills the rest. -/
def ofParts? (parts : List Nat) : Option Nat :=
  match parts.reverse with
  | [] => none
  | last :: before =>
    let bytes := before.reverse
    if 4 < parts.length || bytes.any (255 < ·) || Nat.pow 256 (4 - bytes.length) ≤ last then none
    else some ((bytes.zipIdx).foldl (fun sum (b, i) => sum + b * Nat.pow 256 (3 - i)) last)

def parseIpv4? (host : List Char) : Option Nat :=
  ((labels host).mapM ipv4Number?).bind ofParts?

def ipv4Text (address : Nat) : List Char :=
  join '.' ([address / 16777216, address / 65536 % 256, address / 256 % 256, address % 256].map
    (Nat.toDigits 10))

end MessageBundles.Url

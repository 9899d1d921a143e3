/-
  UTF-8 — bytes to characters and back

  A reader takes the bytes one at a time and remembers the sequence it is in the middle of. What it
  yields for each sequence is a character, or nothing where the bytes are malformed; malformed bytes
  are taken in maximal parts, so that a byte which cannot continue a sequence starts a new one.
    1. `decode?` reads a text only if no part is malformed.
    2. `decodeLossy` puts U+FFFD where a malformed part stood.

  Stands for the built-in reading of bytes as a text, which fails or puts U+FFFD.
-/

namespace MessageBundles.Text.Utf8

/-- A sequence of bytes that is not finished: how many bytes are missing, between which bounds the
next one has to lie, and the bits read so far. -/
structure Pending where
  missing : Nat
  low : UInt8
  high : UInt8
  bits : Nat
  deriving DecidableEq, Repr

/-- What a byte means at the start of a sequence: a whole character, the start of a longer
sequence, or nothing. -/
inductive Start where
  | single (c : Char)
  | longer (p : Pending)
  | malformed
  deriving DecidableEq, Repr

/-- The meaning of a first byte. The bounds on the second byte keep out over-long forms, surrogates
and numbers past U+10FFFF. -/
def start (b : UInt8) : Start :=
  if b < 0x80 then .single (Char.ofNat b.toNat)
  else if b < 0xC2 then .malformed
  else if b < 0xE0 then .longer ⟨1, 0x80, 0xBF, b.toNat - 0xC0⟩
  else if b < 0xF0 then
    .longer ⟨2, if b = 0xE0 then 0xA0 else 0x80, if b = 0xED then 0x9F else 0xBF, b.toNat - 0xE0⟩
  else if b < 0xF5 then
    .longer ⟨3, if b = 0xF0 then 0x90 else 0x80, if b = 0xF4 then 0x8F else 0xBF, b.toNat - 0xF0⟩
  else .malformed

def Pending.next (p : Pending) (b : UInt8) : Pending :=
  ⟨p.missing - 1, 0x80, 0xBF, p.bits * 64 + (b.toNat - 0x80)⟩

/-- What the bytes hold, one item per character and per malformed part. -/
def items : Option Pending → List UInt8 → List (Option Char)
  | none, [] => []
  | some _, [] => [none]
  | none, b :: rest =>
    match start b with
    | .single c => some c :: items none rest
    | .longer p => items (some p) rest
    | .malformed => none :: items none rest
  | some p, b :: rest =>
    if p.low ≤ b && b ≤ p.high then
      if p.missing ≤ 1 then some (Char.ofNat (p.next b).bits) :: items none rest
      else items (some (p.next b)) rest
    else
      none ::
        match start b with
        | .single c => some c :: items none rest
        | .longer q => items (some q) rest
        | .malformed => none :: items none rest

def decode? (bytes : List UInt8) : Option (List Char) :=
  (items none bytes).mapM id

/-- The text of any bytes, with U+FFFD for each malformed part. -/
def decodeLossy (bytes : List UInt8) : List Char :=
  (items none bytes).map (·.getD '\uFFFD')

def encode (cs : List Char) : List UInt8 := cs.flatMap String.utf8EncodeChar

theorem encode_append (a b : List Char) : encode (a ++ b) = encode a ++ encode b := by
  simp [encode]

end MessageBundles.Text.Utf8

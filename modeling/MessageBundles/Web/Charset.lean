import MessageBundles.Text.Blank
import MessageBundles.Text.Pieces
import MessageBundles.Text.Utf8

/-
  Charsets — the text of a body

  A body is text in the charset that its content type names, or in UTF-8 where it names none that is
  known. A byte order mark in front of the body decides over the content type, and is no part of the
  text. What is malformed becomes U+FFFD.

  Correspondence:
    `Response::text`, of the library `reqwest` ↔ `bodyText`
    the labels of the library `encoding_rs`    ↔ `labels`
  Reduced: only UTF-8, UTF-16 and windows-1252 are known. The library knows some thirty charsets more,
  and a body in one of these is read as UTF-8 here.
-/

namespace MessageBundles.Web

open Text

inductive Charset where
  | utf8
  -- Two bytes a unit, the high byte first or last.
  | utf16 (highFirst : Bool)
  -- One byte a character.
  | western
  deriving DecidableEq, Repr

namespace Charset

/-- The characters of the bytes from 0x80 to 0x9F in the western charset. -/
def westernHigh : List Nat := [
  0x20AC, 0x81, 0x201A, 0x192, 0x201E, 0x2026, 0x2020, 0x2021, 0x2C6, 0x2030, 0x160, 0x2039, 0x152,
  0x8D, 0x17D, 0x8F, 0x90, 0x2018, 0x2019, 0x201C, 0x201D, 0x2022, 0x2013, 0x2014, 0x2DC, 0x2122,
  0x161, 0x203A, 0x153, 0x9D, 0x17E, 0x178]

def westernChar (b : UInt8) : Char :=
  let n := b.toNat
  if 0x80 ≤ n ∧ n < 0xA0 then Char.ofNat ((westernHigh[n - 0x80]?).getD n) else Char.ofNat n

def labels : List (Charset × List String) := [
  (.utf8, ["unicode-1-1-utf-8", "unicode11utf8", "unicode20utf8", "utf-8", "utf8",
    "x-unicode20utf8"]),
  (.western, ["ansi_x3.4-1968", "ascii", "cp1252", "cp819", "csisolatin1", "ibm819", "iso-8859-1",
    "iso-ir-100", "iso8859-1", "iso88591", "iso_8859-1", "iso_8859-1:1987", "l1", "latin1",
    "us-ascii", "windows-1252", "x-cp1252"]),
  (.utf16 true, ["unicodefffe", "utf-16be"]),
  (.utf16 false, ["csunicode", "iso-10646-ucs-2", "ucs-2", "unicode", "unicodefeff", "utf-16",
    "utf-16le"])]

def ofLabel? (label : List Char) : Option Charset :=
  let small := String.ofList ((trim isBlank label).map Char.toLower)
  (labels.find? fun e => e.2.contains small).map (·.1)

def unquoted (value : List Char) : List Char :=
  if ['\x22'].isPrefixOf value then (value.drop 1).takeWhile (· != '\x22') else value

def ofContentType? (contentType : String) : Option Charset :=
  let fields := (split ';' contentType.toList).tail.map (trim isBlank)
  let isCharset (field : List Char) : Bool :=
    (field.takeWhile (· != '=')).map Char.toLower == "charset".toList
  (fields.find? isCharset).bind fun field =>
    ofLabel? (unquoted ((field.dropWhile (· != '=')).drop 1))

/-- The units of a body in UTF-16, with nothing for a byte that is left over. -/
def units (highFirst : Bool) : List UInt8 → List (Option Nat)
  | [] => []
  | [_] => [none]
  | a :: b :: rest =>
    some (if highFirst then a.toNat * 256 + b.toNat else b.toNat * 256 + a.toNat) ::
      units highFirst rest

/-- The characters of units; a half of a pair without the other half is malformed. -/
def ofUnits : Option Nat → List (Option Nat) → List Char
  | none, [] => []
  | some _, [] => ['\uFFFD']
  | none, none :: rest => '\uFFFD' :: ofUnits none rest
  | some _, none :: rest => '\uFFFD' :: '\uFFFD' :: ofUnits none rest
  | none, some u :: rest =>
    if 0xD800 ≤ u ∧ u < 0xDC00 then ofUnits (some u) rest
    else if 0xDC00 ≤ u ∧ u < 0xE000 then '\uFFFD' :: ofUnits none rest
    else Char.ofNat u :: ofUnits none rest
  | some first, some u :: rest =>
    if 0xDC00 ≤ u ∧ u < 0xE000 then
      Char.ofNat (0x10000 + (first - 0xD800) * 0x400 + (u - 0xDC00)) :: ofUnits none rest
    else if 0xD800 ≤ u ∧ u < 0xDC00 then '\uFFFD' :: ofUnits (some u) rest
    else '\uFFFD' :: Char.ofNat u :: ofUnits none rest

def decode (charset : Charset) (bytes : List UInt8) : List Char :=
  match charset with
  | .utf8 => Utf8.decodeLossy bytes
  | .utf16 highFirst => ofUnits none (units highFirst bytes)
  | .western => bytes.map westernChar

/-- The charset a byte order mark tells of, and the bytes behind the mark. -/
def ofMark? : List UInt8 → Option (Charset × List UInt8)
  | 0xEF :: 0xBB :: 0xBF :: rest => some (.utf8, rest)
  | 0xFE :: 0xFF :: rest => some (.utf16 true, rest)
  | 0xFF :: 0xFE :: rest => some (.utf16 false, rest)
  | _ => none

end Charset

def bodyText (contentType : Option String) (body : List UInt8) : String :=
  let (charset, bytes) := (Charset.ofMark? body).getD
    (((contentType.bind Charset.ofContentType?).getD .utf8), body)
  String.ofList (charset.decode bytes)

end MessageBundles.Web

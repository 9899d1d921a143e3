import MessageBundles.Text.Digits
import MessageBundles.Text.Utf8
import MessageBundles.Url.Basic

/-
  The path of a local file that a URL denotes

  Stands for `Url::to_file_path` of the library `url`.
-/

namespace MessageBundles.Url

open Text

/-- Bytes that end in a drive get a slash behind it. -/
def closeDrive (bytes : List UInt8) : List UInt8 :=
  match bytes.reverse with
  | mark :: letter :: _ :: _ =>
    if (mark = 0x3A ∨ mark = 0x7C) ∧ isLetter (Char.ofNat letter.toNat) = true then bytes ++ [0x2F]
    else bytes
  | _ => bytes

/-- The path of the file, as bytes; none where the URL names a host. The segments are decoded one
by one, so a segment may bring in slashes and dots of its own. -/
def filePath? (u : Url) : Option (List UInt8) :=
  match u.path with
  | .plain _ => none
  | .segments l =>
    if u.hasHost then none
    else some (closeDrive (l.flatMap (fun s => 0x2F :: percentDecode (Utf8.encode s))))

end MessageBundles.Url

/-!
Reading bytes as text when they need not be valid UTF-8: each longest piece that begins a character
and does not complete it becomes one replacement character U+FFFD.
-/

namespace Scaffold.Text

/-- What a leading byte calls for: the bounds of the second byte, the number of bytes after the
first, and the value bits of the first. -/
def utf8Lead (b : Nat) : Option (Nat × Nat × Nat × Nat) :=
  if 0xC2 ≤ b && b ≤ 0xDF then some (0x80, 0xBF, 1, b - 0xC0)
  else if b == 0xE0 then some (0xA0, 0xBF, 2, 0)
  else if b == 0xED then some (0x80, 0x9F, 2, 0xD)
  else if 0xE1 ≤ b && b ≤ 0xEF then some (0x80, 0xBF, 2, b - 0xE0)
  else if b == 0xF0 then some (0x90, 0xBF, 3, 0)
  else if 0xF1 ≤ b && b ≤ 0xF3 then some (0x80, 0xBF, 3, b - 0xF0)
  else if b == 0xF4 then some (0x80, 0x8F, 3, 4)
  else none

/-- The character that starts with `b`, and how many of the following bytes it takes. -/
def utf8Char (b : Nat) (following : List Nat) : Char × Nat :=
  if b < 0x80 then (Char.ofNat b, 0)
  else match utf8Lead b, following with
    | some (lo, hi, more, bits), second :: rest =>
      if lo ≤ second && second ≤ hi then
        let tail := second :: (rest.take (more - 1)).takeWhile fun n => 0x80 ≤ n && n ≤ 0xBF
        if tail.length = more then
          (Char.ofNat (tail.foldl (fun n t => 64 * n + (t - 0x80)) bits), more)
        else ('\uFFFD', tail.length)
      else ('\uFFFD', 0)
    | _, _ => ('\uFFFD', 0)

/-- The text of the bytes after the first `skip`. -/
def decodeFrom : (skip : Nat) → List Nat → List Char
  | _, [] => []
  | skip + 1, _ :: bs => decodeFrom skip bs
  | 0, b :: bs => let (c, used) := utf8Char b bs; c :: decodeFrom used bs

def decodeLossy (bytes : ByteArray) : String :=
  String.ofList (decodeFrom 0 (bytes.toList.map UInt8.toNat))

end Scaffold.Text

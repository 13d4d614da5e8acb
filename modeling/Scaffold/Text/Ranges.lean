/-!
Sets of code points written as the sorted list of the points where membership changes: the first
entry is the first member, the second the first point after it that is no member, and so on.
-/

namespace Scaffold.Text

/-- Whether `n` lies in the set: an odd number of changes stands at or before it. -/
def inRanges (changes : List Nat) (n : Nat) : Bool :=
  (changes.takeWhile (· ≤ n)).length % 2 == 1

end Scaffold.Text

/-!
Spans of time in nanoseconds, and their text: the largest of the units s, ms, µs, ns that is not
larger than the span, and the exact decimal fraction.
-/

namespace Scaffold

structure Duration where
  nanos : Nat
deriving DecidableEq, Repr

namespace Duration

def ofMillis (ms : Nat) : Duration := ⟨ms * 1000000⟩

/-- `amount` units, each of `10 ^ places` nanoseconds, without zeros at the end. -/
def decimal (amount places : Nat) : String :=
  let whole := amount / Nat.pow 10 places
  let fraction := amount % Nat.pow 10 places
  if fraction = 0 then Nat.repr whole
  else
    let digits := (Nat.toDigits 10 fraction)
    let padded := List.replicate (places - digits.length) '0' ++ digits
    Nat.repr whole ++ "." ++ String.ofList (padded.reverse.dropWhile (· == '0')).reverse

def text (d : Duration) : String :=
  if 1000000000 ≤ d.nanos then decimal d.nanos 9 ++ "s"
  else if 1000000 ≤ d.nanos then decimal d.nanos 6 ++ "ms"
  else if 1000 ≤ d.nanos then decimal d.nanos 3 ++ "µs"
  else decimal d.nanos 0 ++ "ns"

end Duration

end Scaffold

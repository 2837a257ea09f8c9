import CsgScript.Number.Binary
import CsgScript.Number.Grid
/-!
# Digits at a fixed precision

A positive binary value rounded to `p` significant decimal digits, exactly: the value is divided
by the grid spacing `10^(X-p+1)` and rounded to the nearest whole number, a tie going to the even
one.  When rounding carries into a new digit, the exponent moves up by one.
-/

namespace CsgScript

/-- The `p` significant digits `d` (with `10^(p-1) ≤ d < 10^p`) and the exponent `k` of
`x · 2^Q`, for `x > 0` and `p > 0`: `d · 10^k` is the nearest such number, ties to even. -/
def significantDigits (p : Nat) (x : Nat) (Q : Int) : Nat × Int :=
  let X := Grid.decimalExponent x Q
  let k := X - p + 1
  let (a, b) := Grid.quotient x Q k
  let d := Binary64.roundHalfEven a b
  if d = Nat.pow 10 p then (Nat.pow 10 (p - 1), k + 1) else (d, k)

end CsgScript

/-!
# Binary values on decimal grids

A binary value `x · 2^Q` is placed on the decimal grid of spacing `10^k` with exact `Nat`
arithmetic: it is compared with a grid point `t · 10^k`, divided by the spacing, and its decimal
exponent, the `X` with `10^X ≤ x · 2^Q < 10^(X+1)`, is found.  Both the shortest digits and the
digits at a fixed precision are searches over such grids.
-/

namespace CsgScript

namespace Grid

/-- The numerators of `x · 2^Q` and `t · 10^k` brought to one denominator. -/
def numerators (x : Nat) (Q : Int) (t : Nat) (k : Int) : Nat × Nat :=
  (x * Nat.pow 2 Q.toNat * Nat.pow 10 (-k).toNat, t * Nat.pow 10 k.toNat * Nat.pow 2 (-Q).toNat)

/-- How `x · 2^Q` compares with the grid point `t · 10^k`. -/
def compareAt (x : Nat) (Q : Int) (t : Nat) (k : Int) : Ordering :=
  let (a, b) := numerators x Q t k
  compare a b

/-- The quotient `x · 2^Q / 10^k` as a fraction of naturals. -/
def quotient (x : Nat) (Q : Int) (k : Int) : Nat × Nat :=
  numerators x Q 1 k

/-- The grid point of spacing `10^k` at or below `x · 2^Q`, counted in grid steps. -/
def floorAt (x : Nat) (Q : Int) (k : Int) : Nat :=
  let (a, b) := quotient x Q k
  a / b

/-- The decimal exponent of `x · 2^Q` for `x > 0`: the `X` with `10^X ≤ x · 2^Q < 10^(X+1)`.
The estimate `⌊e · log₁₀ 2⌋` from the binary exponent `e` is off by at most one, and two
comparisons settle it. -/
def decimalExponent (x : Nat) (Q : Int) : Int :=
  let e : Int := (Nat.log2 x : Int) + Q
  let est := e * 78913 / 262144
  if compareAt x Q 1 est = .lt then est - 1
  else if compareAt x Q 1 (est + 1) = .lt then est
  else est + 1

/-- A natural without its trailing decimal zeros, and how many were removed. -/
def stripZeros (fuel d : Nat) (k : Int) : Nat × Int :=
  match fuel with
  | 0 => (d, k)
  | fuel + 1 => if d ≠ 0 ∧ d % 10 = 0 then stripZeros fuel (d / 10) (k + 1) else (d, k)

/-- The number `d · 10^k` with the trailing zeros of `d` moved into the exponent. -/
def normalize (d : Nat) (k : Int) : Nat × Int := stripZeros (toString d).length d k

end Grid

end CsgScript

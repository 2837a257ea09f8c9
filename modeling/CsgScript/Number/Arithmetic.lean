import CsgScript.Number.Binary
/-!
# Arithmetic on doubles

The operations of IEEE 754 binary64 that the library needs, each computed exactly on
`±m · 2^q` and rounded once by `Binary64.nearest`, to nearest with ties to even:

* a sum that is exactly zero is `-0` only when both operands are negative;
* a NaN operand gives that NaN, made quiet, the first operand's when both are NaNs;
* an invalid operation (`∞ - ∞`, `0 · ∞`, `0 / 0`, `∞ / ∞`) gives the default NaN, the quiet
  NaN with its sign bit set;
* a nonzero number divided by zero is an infinity;
* negation and absolute value change the sign bit only, also of a NaN;
* `round` goes to the nearest whole number, halves away from zero;
* comparisons treat the two zeros as equal and a NaN as unordered, so that a NaN equals nothing.
-/

namespace CsgScript

namespace Binary64

/-- The NaN of an invalid operation. -/
def defaultNaN : Binary64 := quietNaN true

/-- The same NaN with its quiet bit set. -/
def quiet (x : Binary64) : Binary64 := ⟨x.bits ||| UInt64.ofNat (Nat.pow 2 51)⟩

/-- The double with the sign bit flipped. -/
def neg (x : Binary64) : Binary64 := ⟨x.bits ^^^ UInt64.ofNat signBit⟩

/-- The double with the sign bit cleared. -/
def abs (x : Binary64) : Binary64 := ⟨x.bits &&& UInt64.ofNat (signBit - 1)⟩

/-- The double nearest to `± n · 2^q`. -/
def ofScaled (negative : Bool) (n : Nat) (q : Int) : Binary64 :=
  if 0 ≤ q then nearest negative (n * Nat.pow 2 q.toNat) 1 else nearest negative n (Nat.pow 2 (-q).toNat)

/-- The finite `±m · 2^q` as an integer multiple of `2^r`, for `r ≤ q`. -/
def scaledTo (negative : Bool) (m : Nat) (q r : Int) : Int :=
  let n : Int := (m * Nat.pow 2 (q - r).toNat : Nat)
  if negative then -n else n

/-- The sum of two finite doubles, rounded. -/
def addFinite (sx : Bool) (mx : Nat) (qx : Int) (sy : Bool) (my : Nat) (qy : Int) : Binary64 :=
  let r := min qx qy
  let sum := scaledTo sx mx qx r + scaledTo sy my qy r
  if sum = 0 then zero (sx && sy) else ofScaled (decide (sum < 0)) sum.natAbs r

/-- The sum of two doubles. -/
def add (x y : Binary64) : Binary64 :=
  match x.unpack, y.unpack with
  | .nan _, _ => x.quiet
  | _, .nan _ => y.quiet
  | .infinite a, .infinite b => if a = b then x else defaultNaN
  | .infinite _, _ => x
  | _, .infinite _ => y
  | .finite sx mx qx, .finite sy my qy => addFinite sx mx qx sy my qy

/-- The difference of two doubles: the sum with the second negated, where a NaN operand stays as
it is. -/
def sub (x y : Binary64) : Binary64 :=
  match x.unpack, y.unpack with
  | .nan _, _ => x.quiet
  | _, .nan _ => y.quiet
  | _, _ => add x y.neg

/-- The product of two doubles. -/
def mul (x y : Binary64) : Binary64 :=
  match x.unpack, y.unpack with
  | .nan _, _ => x.quiet
  | _, .nan _ => y.quiet
  | .infinite _, .finite _ 0 _ => defaultNaN
  | .finite _ 0 _, .infinite _ => defaultNaN
  | .infinite a, .infinite b => infinity (a != b)
  | .infinite a, .finite b _ _ => infinity (a != b)
  | .finite a _ _, .infinite b => infinity (a != b)
  | .finite a mx qx, .finite b my qy => ofScaled (a != b) (mx * my) (qx + qy)

/-- The quotient of two doubles. -/
def div (x y : Binary64) : Binary64 :=
  match x.unpack, y.unpack with
  | .nan _, _ => x.quiet
  | _, .nan _ => y.quiet
  | .infinite _, .infinite _ => defaultNaN
  | .infinite a, .finite b _ _ => infinity (a != b)
  | .finite a _ _, .infinite b => zero (a != b)
  | .finite _ 0 _, .finite _ 0 _ => defaultNaN
  | .finite a _ _, .finite b 0 _ => infinity (a != b)
  | .finite a mx qx, .finite b my qy =>
    let d := qx - qy
    if 0 ≤ d then nearest (a != b) (mx * Nat.pow 2 d.toNat) my
    else nearest (a != b) mx (my * Nat.pow 2 (-d).toNat)

/-- The nearest whole number, halves away from zero; a zero keeps its sign. -/
def round (x : Binary64) : Binary64 :=
  match x.unpack with
  | .nan _ => x.quiet
  | .infinite _ => x
  | .finite negative m q =>
    if 0 ≤ q then x
    else
      let unit := Nat.pow 2 (-q).toNat
      nearest negative (m / unit + if 2 * (m % unit) ≥ unit then 1 else 0) 1

/-- Whether the first double is less than the second; false when either is a NaN. -/
def lt (x y : Binary64) : Bool :=
  match x.unpack, y.unpack with
  | .nan _, _ => false
  | _, .nan _ => false
  | .infinite a, .infinite b => a && !b
  | .infinite a, _ => a
  | _, .infinite b => !b
  | .finite sx mx qx, .finite sy my qy =>
    let r := min qx qy
    decide (scaledTo sx mx qx r < scaledTo sy my qy r)

/-- Whether two doubles are equal as numbers: a NaN equals nothing, and the zeros are equal. -/
def equals (x y : Binary64) : Bool :=
  match x.unpack, y.unpack with
  | .nan _, _ => false
  | _, .nan _ => false
  | .finite _ 0 _, .finite _ 0 _ => true
  | _, _ => x.bits == y.bits

instance : BEq Binary64 := ⟨equals⟩
instance : Add Binary64 := ⟨add⟩
instance : Sub Binary64 := ⟨sub⟩
instance : Mul Binary64 := ⟨mul⟩
instance : Div Binary64 := ⟨div⟩
instance : Neg Binary64 := ⟨neg⟩

end Binary64

end CsgScript

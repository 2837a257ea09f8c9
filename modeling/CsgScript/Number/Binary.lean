/-!
# Doubles as exact binary fractions

A double is its 64 bits: a sign bit, 11 exponent bits and 52 fraction bits.  Read off them, it
is a finite `±m · 2^q`, an infinity or a NaN, each with its sign; the sign of a NaN is kept like
any other, since its text shows it.  Everything that prints, reads or computes with doubles works
on these numbers with exact `Nat` arithmetic.  The one rounding step is `Binary64.nearest`: the
double nearest to a ratio of naturals, a tie going to the even significand.  Decimal text, 64-bit
integers and the results of arithmetic become doubles through it.
-/

namespace CsgScript

/-- A double, as its 64 bits.  Two doubles are compared as numbers (see `Binary64.equals`), so
the type has no equality of bits as its `==`. -/
structure Binary64 where
  bits : UInt64
  deriving Inhabited, Repr

namespace Binary64

/-- What the bits of a double stand for: a finite `±m · 2^q` (zero has `m = 0`), an infinity, or
a NaN, each with its sign. -/
inductive Unpacked where
  | finite (negative : Bool) (significand : Nat) (exponent : Int)
  | infinite (negative : Bool)
  | nan (negative : Bool)
  deriving Repr, DecidableEq

/-- The exponent of the least subnormal double, `2^-1074`. -/
def leastExponent : Int := -1074

/-- The exponent of the unit in the last place of the largest finite doubles. -/
def greatestExponent : Int := 971

/-- The sign bit, the 11 exponent bits and the 52 fraction bits, read. -/
def unpackBits (bits : Nat) : Unpacked :=
  let negative := decide (bits / Nat.pow 2 63 % 2 = 1)
  let biased : Nat := bits / Nat.pow 2 52 % Nat.pow 2 11
  let fraction : Nat := bits % Nat.pow 2 52
  if biased = 2047 then
    if fraction = 0 then .infinite negative else .nan negative
  else if biased = 0 then .finite negative fraction leastExponent
  else .finite negative (fraction + Nat.pow 2 52) ((biased : Int) - 1075)

/-- What a double stands for. -/
def unpack (x : Binary64) : Unpacked := unpackBits x.bits.toNat

/-- The quotient `a / b` rounded to the nearest natural, a tie going to the even one. -/
def roundHalfEven (a b : Nat) : Nat :=
  let d := a / b
  let r := a % b
  if 2 * r > b ∨ (2 * r = b ∧ d % 2 = 1) then d + 1 else d

/-- The ratio `num / den · 2^-q` as a fraction of naturals, for rounding at the unit `2^q`. -/
def scaleBinary (num den : Nat) (q : Int) : Nat × Nat :=
  (num * Nat.pow 2 (-q).toNat, den * Nat.pow 2 q.toNat)

/-- The `e` with `2^e ≤ num / den < 2^(e+1)`, for positive `num` and `den`. -/
def floorLog2 (num den : Nat) : Int :=
  let e : Int := (Nat.log2 num : Int) - Nat.log2 den
  let (a, b) := scaleBinary num den e
  if a < b then e - 1 else e

/-- The bits of the double nearest to `num / den` with the given sign: a tie goes to the even
significand, and a ratio beyond the largest finite double, by half a unit or more, is an
infinity.  A zero numerator (or denominator) gives a signed zero. -/
def nearestBits (negative : Bool) (num den : Nat) : Nat :=
  let sign := if negative then Nat.pow 2 63 else 0
  if num = 0 ∨ den = 0 then sign
  else
    let q := max (floorLog2 num den - 52) leastExponent
    let (a, b) := scaleBinary num den q
    let m := roundHalfEven a b
    let (m, q) := if m = Nat.pow 2 53 then (Nat.pow 2 52, q + 1) else (m, q)
    if q > greatestExponent then sign + 2047 * Nat.pow 2 52
    else if m < Nat.pow 2 52 then sign + m
    else sign + (q + 1075).toNat * Nat.pow 2 52 + (m - Nat.pow 2 52)

/-- The double nearest to `± num / den`. -/
def nearest (negative : Bool) (num den : Nat) : Binary64 :=
  ⟨UInt64.ofNat (nearestBits negative num den)⟩

/-- The bit of the sign. -/
def signBit : Nat := Nat.pow 2 63

/-- The infinity with the given sign. -/
def infinity (negative : Bool) : Binary64 :=
  ⟨UInt64.ofNat ((if negative then signBit else 0) + 2047 * Nat.pow 2 52)⟩

/-- The quiet NaN with the given sign and no payload. -/
def quietNaN (negative : Bool) : Binary64 :=
  ⟨UInt64.ofNat ((if negative then signBit else 0) + 2047 * Nat.pow 2 52 + Nat.pow 2 51)⟩

/-- The zero with the given sign. -/
def zero (negative : Bool) : Binary64 := ⟨UInt64.ofNat (if negative then signBit else 0)⟩

/-- The double nearest to an integer, as a conversion from a 64-bit integer rounds it. -/
def ofInt (n : Int) : Binary64 := nearest (decide (n < 0)) n.natAbs 1

instance {n : Nat} : OfNat Binary64 n := ⟨nearest false n 1⟩

/-- Whether a double is a NaN. -/
def isNaN (x : Binary64) : Bool :=
  match x.unpack with
  | .nan _ => true
  | _ => false

end Binary64

end CsgScript

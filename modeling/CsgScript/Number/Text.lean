import CsgScript.Number.Shortest
import CsgScript.Number.Significant
/-!
# Decimal text of numbers

Two texts of a double, both built from exact digits:

* `Binary64.shortestText` — the shortest digits that read back.  They are written positionally
  when that is no longer than scientific notation, and in scientific notation otherwise; a whole
  number written positionally shows the double's exact integer value.
* `Binary64.generalText` — six significant digits, rounded to nearest with ties to even, written
  in scientific notation when the decimal exponent is below `-4` or at least `6`, and
  positionally otherwise, with trailing zeros dropped.

Scientific notation is `d.ddde±XX`, with at least two exponent digits.  Infinities are `inf`,
NaNs `nan`, each with a minus sign when the sign bit is set.
-/

namespace CsgScript

namespace DecimalText

/-- The decimal digits of a natural, most significant first. -/
def digits (n : Nat) : List Char := (toString n).toList

/-- Decimal text of an integer, with a minus sign when negative. -/
def ofInt (n : Int) : String :=
  if n < 0 then "-" ++ toString n.natAbs else toString n.natAbs

/-- The number `ds · 10^k` written positionally. -/
def positional (ds : List Char) (k : Int) : String :=
  if 0 ≤ k then String.ofList (ds ++ List.replicate k.toNat '0')
  else
    let f := (-k).toNat
    if f < ds.length then
      String.ofList (ds.take (ds.length - f) ++ '.' :: ds.drop (ds.length - f))
    else String.ofList ('0' :: '.' :: List.replicate (f - ds.length) '0' ++ ds)

/-- At least two digits of an exponent. -/
def exponentDigits (e : Nat) : List Char :=
  if e < 10 then '0' :: digits e else digits e

/-- The number `d.ddd` times `10^X`, written `d.ddde±XX`. -/
def scientific (ds : List Char) (X : Int) : String :=
  let mantissa := match ds with
    | [] => ['0']
    | [d] => [d]
    | d :: rest => d :: '.' :: rest
  String.ofList (mantissa ++ 'e' :: (if X < 0 then '-' else '+') :: exponentDigits X.natAbs)

/-- The sign prefix. -/
def sign (negative : Bool) : String := if negative then "-" else ""

/-- The text of a double that is not finite, or of a zero. -/
def special (b : Binary64.Unpacked) : Option String :=
  match b with
  | .nan negative => some (sign negative ++ "nan")
  | .infinite negative => some (sign negative ++ "inf")
  | .finite negative 0 _ => some (sign negative ++ "0")
  | .finite _ _ _ => none

/-- Whether the shortest digits `ds · 10^k` are written positionally: a single digit for
exponents `-3` to `4`, more digits for exponents `-(n+3)` to `5`, where positional text is no
longer than scientific. -/
def positionalShortest (n : Nat) (k : Int) : Bool :=
  if n = 1 then -3 ≤ k ∧ k ≤ 4 else -((n : Int) + 3) ≤ k ∧ k ≤ 5

/-- The whole number `m · 2^q`, for a double that is one. -/
def wholeValue (m : Nat) (q : Int) : Nat :=
  if 0 ≤ q then m * Nat.pow 2 q.toNat else m / Nat.pow 2 (-q).toNat

end DecimalText

open DecimalText in
/-- The shortest text of a double that reads back as it. -/
def Binary64.shortestText (x : Binary64) : String :=
  let b := x.unpack
  match special b, b with
  | some s, _ => s
  | none, .finite negative m q =>
    let (d, k) := shortestDigits m q
    let ds := digits d
    if positionalShortest ds.length k then
      if 0 ≤ k then sign negative ++ toString (wholeValue m q)
      else sign negative ++ positional ds k
    else sign negative ++ scientific ds (k + ds.length - 1)
  | none, _ => ""

open DecimalText in
/-- Six significant digits of a double, positional for decimal exponents `-4` to `5`. -/
def Binary64.generalText (x : Binary64) : String :=
  let b := x.unpack
  match special b, b with
  | some s, _ => s
  | none, .finite negative m q =>
    let (d, k) := significantDigits 6 m q
    let X := k + 5
    let (d, k) := Grid.normalize d k
    if X < -4 ∨ 6 ≤ X then sign negative ++ scientific (digits d) X
    else sign negative ++ positional (digits d) k
  | none, _ => ""

end CsgScript

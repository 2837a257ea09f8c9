import CsgScript.Number.Binary
import CsgScript.Number.Grid
/-!
# Shortest round-trip digits

The shortest decimal that reads back as a given double.  The reals that round to the double
`m · 2^q` form an interval around it whose ends lie half-way to its neighbours (a quarter of the
way below when `m` is the least significand of its binade); the ends belong to it exactly when
`m` is even, since a tie reads back to the even significand.  For `n = 1, 2, …` digits the search
looks at the two grid points of spacing `10^(X-n+1)` around the value, where `X` is its decimal
exponent: the first `n` with a grid point inside the interval gives the digits, the nearer of two
such points wins, and an exact tie goes to the even one.
-/

namespace CsgScript

namespace Shortest

/-- The interval of a positive finite double `m · 2^q`, scaled by four so that its ends are whole:
the value is `4m · 2^(q-2)`, and the ends are `lo · 2^(q-2)` and `hi · 2^(q-2)`. -/
structure Interval where
  value : Nat
  lo : Nat
  hi : Nat
  scale : Int
  inclusive : Bool

/-- The interval of reals that read back as `m · 2^q`. -/
def interval (m : Nat) (q : Int) : Interval :=
  let closerBelow := m = Nat.pow 2 52 ∧ q > Binary64.leastExponent
  { value := 4 * m
    lo := if closerBelow then 4 * m - 1 else 4 * m - 2
    hi := 4 * m + 2
    scale := q - 2
    inclusive := m % 2 == 0 }

/-- Whether the grid point `t · 10^k` reads back as the double of the interval. -/
def Interval.contains (i : Interval) (t : Nat) (k : Int) : Bool :=
  let below := Grid.compareAt i.lo i.scale t k
  let above := Grid.compareAt i.hi i.scale t k
  (below == .lt || (i.inclusive && below == .eq)) && (above == .gt || (i.inclusive && above == .eq))

/-- The grid point chosen at spacing `10^k`, if either neighbour of the value reads back. -/
def Interval.pick (i : Interval) (k : Int) : Option Nat :=
  let t := Grid.floorAt i.value i.scale k
  let down := i.contains t k
  let up := i.contains (t + 1) k
  if down && up then
    match Grid.compareAt (2 * i.value) i.scale (2 * t + 1) k with
    | .lt => some t
    | .gt => some (t + 1)
    | .eq => some (if t % 2 = 0 then t else t + 1)
  else if down then some t
  else if up then some (t + 1)
  else none

/-- The first of `fuel` grids, from `n` digits on, on which a point reads back. -/
def search (i : Interval) (X : Int) : Nat → Nat → Option (Nat × Int)
  | 0, _ => none
  | fuel + 1, n =>
    let k := X - n + 1
    match i.pick k with
    | some t => some (t, k)
    | none => search i X fuel (n + 1)

end Shortest

/-- The shortest digits `d` and exponent `k` of the positive double `m · 2^q`: `d · 10^k` reads
back as it, `d` has no trailing zero, and no decimal with fewer digits reads back.  Seventeen
digits always suffice; the last branch, the value's own 17 leading digits, is never taken. -/
def shortestDigits (m : Nat) (q : Int) : Nat × Int :=
  let i := Shortest.interval m q
  let X := Grid.decimalExponent i.value i.scale
  match Shortest.search i X 17 1 with
  | some (t, k) => Grid.normalize t k
  | none => Grid.normalize (Grid.floorAt i.value i.scale (X - 16)) (X - 16)

end CsgScript

import CsgScript.Build.Nodes
/-!
# Variadic arithmetic

`add`, `sub`, `mul` and `div` take any number of operands, values or expressions:

* on numbers they fold left to right; integers stay integers while every partial result fits
  in 64 bits, and continue as reals from the first that does not;
* `add` and `sub` on numeric lists of one length work member by member;
* `sub` of expressions is their difference, and `mul` of one expression disables it;
* with no operands, `add` is `0` and `mul` is `1`, while `sub` and `div` refuse;
* `div` works in reals only and refuses a zero divisor.
-/

namespace CsgScript

namespace Arith

/-- The three folding operations. -/
inductive Op where
  | add
  | sub
  | mul
  deriving DecidableEq, Repr

/-- The operation on exact integers. -/
def Op.onInt : Op → Int → Int → Int
  | .add => (· + ·)
  | .sub => (· - ·)
  | .mul => (· * ·)

/-- The operation on doubles. -/
def Op.onReal : Op → Binary64 → Binary64 → Binary64
  | .add => (· + ·)
  | .sub => (· - ·)
  | .mul => (· * ·)

/-- Whether an integer fits in 64 bits. -/
def fits (n : Int) : Bool := decide (-Int.pow 2 63 ≤ n ∧ n < Int.pow 2 63)

/-- One step of a fold: exact on two integers whose result fits in 64 bits, in doubles
otherwise. -/
def step (op : Op) : Value → Value → Value
  | .int x, .int y =>
    let r := op.onInt x.toInt y.toInt
    if fits r then .int r.toInt64 else .real (op.onReal (Value.int x).asNumber (Value.int y).asNumber)
  | a, b => .real (op.onReal a.asNumber b.asNumber)

/-- The left fold of an operation over a non-empty list of numbers. -/
def fold (op : Op) : List Value → Value
  | [] => .int 0
  | v :: vs => vs.foldl (step op) v

/-- The negation of a number; the least 64-bit integer has none, and becomes a real. -/
def negate : Value → Value
  | .int x => if x.toInt = -Int.pow 2 63 then .real (-(Value.int x).asNumber) else .int (-x)
  | v => .real (-v.asNumber)

/-- The values among operands, if all are values. -/
def values : List Operand → Option (List Value)
  | [] => some []
  | .value v :: rest => (values rest).map (v :: ·)
  | .expr _ :: _ => none

/-- The operands as numbers, if all are numbers. -/
def numbers (args : List Operand) : Option (List Value) :=
  match values args with
  | some vs => if vs.all Value.isNumber then some vs else none
  | none => none

/-- The operands as numeric lists of one length, if there is at least one and all are. -/
def vectors (args : List Operand) : Option (List (List Value)) :=
  match values args with
  | some (v :: vs) =>
    if (v :: vs).all Value.isNumericList && vs.all (·.items.length == v.items.length) then
      some ((v :: vs).map Value.items)
    else none
  | _ => none

/-- The members in place `i` of each list. -/
def column (i : Nat) (vs : List (List Value)) : List Value := vs.map (·.getD i (.int 0))

/-- An operation member by member across lists of one length. -/
def columns (op : Op) (vs : List (List Value)) : Value :=
  let length := (vs.headD []).length
  .list ((List.range length).map fun i => fold op (column i vs))

/-- The sum: `0` for nothing, the fold of numbers, or member by member for vectors. -/
def add (args : List Operand) : Except Fault Operand :=
  if args.isEmpty then .ok (.value (.int 0))
  else match vectors args with
    | some [v] => .ok (.value (.list v))
    | some vs => .ok (.value (columns .add vs))
    | none => match numbers args with
      | some ns => .ok (.value (fold .add ns))
      | none => .error .sumOfShapes

/-- The difference: negation of one number or vector, the fold of several, or the difference of
expressions. -/
def sub (args : List Operand) : Except Fault Operand :=
  if args.isEmpty then .error .emptyDifference
  else match numbers args with
    | some [n] => .ok (.value (negate n))
    | some ns => .ok (.value (fold .sub ns))
    | none => match vectors args with
      | some [v] => .ok (.value (.list (v.map negate)))
      | some vs => .ok (.value (columns .sub vs))
      | none => do
        let es ← Build.expectExpressions ⟨"contain", "subtract from", "subtract"⟩ args
        .expr <$> Build.difference es

/-- The product: `1` for nothing, the fold of numbers, or one expression disabled. -/
def mul (args : List Operand) : Except Fault Operand :=
  if args.isEmpty then .ok (.value (.int 1))
  else match numbers args with
    | some ns => .ok (.value (fold .mul ns))
    | none =>
      if args.length != 1 then .error .productArity
      else do
        let es ← Build.expectExpressions ⟨"disable", "", ""⟩ args
        .expr <$> Build.modify .disable es

/-- Divides by each divisor in turn, refusing a zero. -/
def divideBy (acc : Binary64) : List Value → Except Fault Binary64
  | [] => .ok acc
  | d :: rest => if d.asNumber == 0 then .error .divisionByZero else divideBy (acc / d.asNumber) rest

/-- The quotient, in reals: the reciprocal of one number, or the first divided by the others. -/
def div (args : List Operand) : Except Fault Operand :=
  if args.isEmpty then .error .emptyQuotient
  else match numbers args with
    | none => .error .quotientOfShapes
    | some [n] =>
      if n.asNumber == 0 then .error .divisionByZero else .ok (.value (.real (1 / n.asNumber)))
    | some ns => do
      let q ← divideBy (ns.headD (.int 0)).asNumber ns.tail
      .ok (.value (.real q))

end Arith

end CsgScript

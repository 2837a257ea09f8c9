import CsgScript.Expr.Basic
import CsgScript.Fault
/-!
# Inferring the dimension of an operation

An operation on children is planar or solid according to its children.  `classify` takes the
dimension the children agree on: planar if some child is planar and none solid, solid otherwise —
also when no child has a fixed dimension — and refuses planar and solid children together.
`matchArgument` also asks that an argument vector of length 2 or 3 imply the same dimension,
`reject` refuses children of one dimensionality, and `expectExpressions` refuses operands that
are values instead of expressions.
-/

namespace CsgScript

/-- An operand of the variadic operators: an expression or a value. -/
inductive Operand where
  | expr (e : Expr)
  | value (v : Value)
  deriving Inhabited

/-- How operands are called in messages: the first may be called differently from the rest
(`subtract from` and `subtract`); an empty word falls back to the base. -/
structure Verbs where
  base : String
  first : String := ""
  rest : String := ""

/-- The verb for the operand in place `i` (from 0). -/
def Verbs.pick (v : Verbs) (i : Nat) : String :=
  if i = 0 && v.first != "" then v.first
  else if i > 0 && v.rest != "" then v.rest
  else v.base

namespace Build

/-- The places (from 0) of the expressions with a given dimensionality. -/
def positions (d : Dimensionality) : Nat → List Expr → List Nat
  | _, [] => []
  | i, e :: es => if e.dimensionality = d then i :: positions d (i + 1) es else positions d (i + 1) es

/-- The member that alone has its dimension, when one dimension has exactly one member and the
other not. -/
def loneMember (count : Nat) (two three : List Nat) : Option (Nat × Nat × Dim) :=
  match two, three with
  | [_], [_] => none
  | [i], _ => some (i + 1, count, .two)
  | _, [j] => some (j + 1, count, .three)
  | _, _ => none

/-- The dimension a list of expressions agrees on: planar if some member is planar and none
solid, solid if none is planar; members free of dimension do not count. -/
def classify (verb : String) (es : List Expr) : Except Fault Dim :=
  let two := positions (.fixed .two) 0 es
  let three := positions (.fixed .three) 0 es
  if !two.isEmpty && !three.isEmpty then .error (.mixedDimensions verb (loneMember es.length two three))
  else if !two.isEmpty then .ok .two
  else .ok .three

/-- The dimension implied by an argument vector of length 2 or 3, which the expressions must
share. -/
def matchArgument (verb : String) (argument : List Binary64) (es : List Expr) : Except Fault Dim := do
  let several := es.length != 1
  let implied ← match argument.length with
    | 2 => pure Dim.two
    | 3 => pure Dim.three
    | _ => throw (Fault.argumentLength verb several argument)
  let d ← classify verb es
  if d = implied then pure d else throw (Fault.argumentMismatch verb several argument)

/-- Whether some expression has a fixed dimension. -/
def hasDimensioned (es : List Expr) : Bool := es.any (·.dimensionality != .free)

/-- Some expression has a fixed dimension exactly when one is not free of dimension. -/
theorem hasDimensioned_iff (es : List Expr) :
    hasDimensioned es = true ↔ ∃ e ∈ es, e.dimensionality ≠ .free := by
  simp [hasDimensioned]

/-- Refuses the first expression of the given dimensionality. -/
def reject (verb : String) (d : Dimensionality) (es : List Expr) : Except Fault Unit :=
  match positions d 0 es with
  | i :: _ => .error (.forbiddenDimension verb d (i + 1) es.length)
  | [] => .ok ()

/-- The operands from place `i` on, all of which must be expressions. -/
def expectFrom (verbs : Verbs) : Nat → List Operand → Except Fault (List Expr)
  | _, [] => .ok []
  | i, .expr e :: rest => do .ok (e :: (← expectFrom verbs (i + 1) rest))
  | i, .value v :: _ => .error (.notExpression (verbs.pick i) v)

/-- The operands as expressions, refusing the first value among them. -/
def expectExpressions (verbs : Verbs) (operands : List Operand) : Except Fault (List Expr) :=
  expectFrom verbs 0 operands

end Build

end CsgScript

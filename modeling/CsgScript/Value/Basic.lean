import CsgScript.Number.Arithmetic
/-!
# Parameter values

A `Value` is a literal as it appears in a parameter list: a boolean, a 64-bit integer, a real, a
string, or a list of values.  Integers and reals are different values even when they are equal
as numbers, and reals compare as doubles do: a NaN equals nothing and `0` equals `-0`.
-/

namespace CsgScript

/-- A literal of a parameter list. -/
inductive Value where
  | bool (b : Bool)
  | int (n : Int64)
  | real (x : Binary64)
  | str (s : String)
  | list (items : List Value)
  deriving Inhabited

namespace Value

/-- The name of a value's kind, as messages show it. -/
def typeName : Value → String
  | .bool _ => "boolean"
  | .int _ => "integer"
  | .real _ => "real"
  | .str _ => "string"
  | .list _ => "list"

/-- Integers and reals are numbers. -/
def isNumber : Value → Bool
  | .int _ | .real _ => true
  | _ => false

/-- A list whose every member is a number; the empty list is one. -/
def isNumericList : Value → Bool
  | .list items => items.all isNumber
  | _ => false

/-- A number as a double: an integer is rounded to the nearest double.  Other values are not
numbers, and read as `0`. -/
def asNumber : Value → Binary64
  | .int n => Binary64.ofInt n.toInt
  | .real x => x
  | _ => 0

/-- The members of a list; other values have none. -/
def items : Value → List Value
  | .list items => items
  | _ => []

mutual

/-- Equality of values: the same kind and equal contents, reals compared as doubles. -/
def beq : Value → Value → Bool
  | .bool a, .bool b => a == b
  | .int a, .int b => a == b
  | .real a, .real b => a.equals b
  | .str a, .str b => a == b
  | .list as, .list bs => beqList as bs
  | _, _ => false

/-- Equality of lists of values, member by member. -/
def beqList : List Value → List Value → Bool
  | [], [] => true
  | a :: as, b :: bs => beq a b && beqList as bs
  | _, _ => false

end

instance : BEq Value := ⟨beq⟩

/-- A list of reals. -/
def ofReals (xs : List Binary64) : Value := .list (xs.map .real)

end Value

end CsgScript

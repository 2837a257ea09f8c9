import CsgScript.Script.ShellWords
import CsgScript.Fault
/-!
# Literals of OpenSCAD text

How a value is written in an OpenSCAD parameter list, always on one line:

* an integer in decimal;
* a real that is a whole number of magnitude below `9.2e18` as that integer (so `-0` is `0`),
  any other real by its shortest text;
* a string in double quotes, refused when it would not read back as itself — OpenSCAD strings
  here carry no escape codes, and the test is that the quoted text splits into exactly one
  closed shell word equal to the string;
* a list as `[a, b, c]`.
-/

namespace CsgScript

namespace Literal

/-- The decimal text of an integer. -/
def integer (n : Int64) : String := DecimalText.ofInt n.toInt

/-- Reals of smaller magnitude that are whole numbers are written as integers. -/
def wholeLimit : Nat := 9200000000000000000

/-- The integer a finite double equals, when it is a whole number below `wholeLimit` in
magnitude. -/
def wholeNumber? (x : Binary64) : Option Int :=
  match x.unpack with
  | .finite negative m q =>
    let (magnitude, whole) :=
      if 0 ≤ q then (m * Nat.pow 2 q.toNat, true)
      else (m / Nat.pow 2 (-q).toNat, m % Nat.pow 2 (-q).toNat = 0)
    if whole ∧ magnitude < wholeLimit then
      some (if negative then -(magnitude : Int) else magnitude)
    else none
  | _ => none

/-- A real: as an integer when it is a whole number below `9.2e18` in magnitude, else by its
shortest text. -/
def number (x : Binary64) : String :=
  match wholeNumber? x with
  | some n => DecimalText.ofInt n
  | none => x.shortestText

/-- A string in double quotes, if it reads back as itself. -/
def string (s : String) : Except Fault String :=
  let candidate := "\"" ++ s ++ "\""
  let split := ShellWords.split candidate
  if !split.closed then .error (.unclosedString s)
  else match split.words with
    | [w] => if w = s then .ok candidate else .error (.escapesNeeded s)
    | _ => .error (.severalStrings s)

mutual

/-- A value as OpenSCAD text. -/
def value : Value → Except Fault String
  | .bool b => .ok (if b then "true" else "false")
  | .int n => .ok (integer n)
  | .real x => .ok (number x)
  | .str s => string s
  | .list items => do
    let inner ← values items
    .ok ("[" ++ inner ++ "]")

/-- List members as OpenSCAD text, separated by a comma and a space. -/
def values : List Value → Except Fault String
  | [] => .ok ""
  | [v] => value v
  | v :: rest => do
    let head ← value v
    let tail ← values rest
    .ok (head ++ ", " ++ tail)

end

end Literal

end CsgScript

import CsgScript.Expr.Param
import CsgScript.Expr.Indices
import CsgScript.Script.Literal
import CsgScript.Number.Angle
/-!
# Expressions as OpenSCAD statements

`Expr.lines` writes a tree as lines of OpenSCAD text:

* a shape or operation is its keyword with its parameters, `name=value` separated by `, `,
  leaving out parameters equal to their fallback and writing angles in degrees;
* a leaf ends with `;`; a node with children opens a block `{`, writes each child's lines
  indented by four spaces, and closes it with `};` — or writes `{};` when it has no children;
* a modifier puts its symbol in front of the first line of its child;
* module definitions are `module name() { … };`, calls `name() { … };` or `name();`;
* comment lines start with `// `, and a commented expression is its comment lines followed by
  its subject;
* a special variable is `$name;`, `$name = v;` or `$name = $preview ? p : r;`, and `echo`
  writes its values in `echo(…);`.

Writing fails on a polygon or polyhedron with bad indices and on a string that OpenSCAD cannot
hold without escape codes.  Faults are found in the order the text is written: a node's indices,
then its parameters, then its children.
-/

namespace CsgScript

namespace Angle

mutual

/-- An angle value in radians, in degrees: numbers are converted, lists member by member. -/
def valueToDegrees : Value → Value
  | .list items => .list (valueListToDegrees items)
  | v => .real (toDegrees v.asNumber)

/-- The members of a list of angles, in degrees. -/
def valueListToDegrees : List Value → List Value
  | [] => []
  | v :: rest => valueToDegrees v :: valueListToDegrees rest

end

end Angle

namespace Param

/-- Whether a parameter is left out: it has a fallback and equals it. -/
def elided (p : Param) : Bool :=
  match p.fallback with
  | some f => p.value == f
  | none => false

/-- The text `name=value` of a parameter. -/
def text (p : Param) : Except Fault String := do
  let v ← Literal.value (if p.angle then Angle.valueToDegrees p.value else p.value)
  .ok (p.parameter ++ "=" ++ v)

end Param

/-- The parameter list of a node, without the parentheses. -/
def paramsText (ps : List Param) : Except Fault String := do
  let texts ← (ps.filter (fun p => !p.elided)).mapM Param.text
  .ok (", ".intercalate texts)

/-- The four spaces of one level of nesting. -/
def indentation : String := "    "

/-- A block: `lead{};` without children, else `lead{`, the children's lines indented, `};`. -/
def block (lead : String) (empty : Bool) (body : List String) : List String :=
  if empty then [lead ++ "\x7b\x7d;"]
  else (lead ++ "\x7b") :: body.map (indentation ++ ·) ++ ["\x7d;"]

/-- A symbol in front of the first line. -/
def prefixFirst (symbol : String) : List String → List String
  | [] => []
  | l :: rest => (symbol ++ l) :: rest

/-- Comment lines. -/
def commentLines (lines : List String) : List String := lines.map ("// " ++ ·)

/-- A special variable: read, assigned, or assigned by `$preview`.  Of two values the render
value is written first, so a fault in it is the one reported. -/
def specialLine (name : String) : Option Value → Option Value → Except Fault String
  | none, _ => .ok (name ++ ";")
  | some p, none => do .ok (name ++ " = " ++ (← Literal.value p) ++ ";")
  | some p, some r => do
    let r ← Literal.value r
    let p ← Literal.value p
    .ok (name ++ " = $preview ? " ++ p ++ " : " ++ r ++ ";")

namespace Expr

mutual

/-- The OpenSCAD lines of an expression. -/
def lines : Expr → Except Fault (List String)
  | .shape s => do
    s.check
    let ps ← paramsText s.params
    .ok [s.keyword ++ "(" ++ ps ++ ");"]
  | .projection c cut => do
    let ps ← paramsText [.flag "cut" cut]
    let body ← lines c
    .ok (block ("projection(" ++ ps ++ ") ") false body)
  | .apply op cs => do
    let ps ← paramsText op.params
    let body ← linesList cs
    .ok (block (op.keyword ++ "(" ++ ps ++ ") ") cs.isEmpty body)
  | .modify m _ c => do
    let body ← lines c
    .ok (prefixFirst m.symbol body)
  | .define _ name cs => do
    let body ← linesList cs
    .ok (block ("module " ++ name ++ "() ") cs.isEmpty body)
  | .call _ name cs => do
    let body ← linesList cs
    .ok (block (name ++ "() ") cs.isEmpty body)
  | .callFree name => .ok [name ++ "();"]
  | .callerChildren => .ok ["children();"]
  | .comment ls => .ok (commentLines ls)
  | .commented _ ls subject => do
    let body ← lines subject
    .ok (commentLines ls ++ body)
  | .special name preview render => do
    .ok [← specialLine name preview render]
  | .echo content => do
    .ok ["echo(" ++ (← Literal.values content) ++ ");"]

/-- The lines of a list of expressions, one after another. -/
def linesList : List Expr → Except Fault (List String)
  | [] => .ok []
  | e :: rest => do
    let first ← lines e
    let others ← linesList rest
    .ok (first ++ others)

end

end Expr

/-- The text of one expression in a file: its lines, each ending in a line break, and a blank
line. -/
def Expr.fileText (e : Expr) : Except Fault String := do
  let ls ← e.lines
  .ok (String.join (ls.map (· ++ "\n")) ++ "\n")

/-- The text of a file of OpenSCAD statements: the expressions one after another. -/
def scadText (content : List Expr) : Except Fault String := do
  let parts ← content.mapM Expr.fileText
  .ok (String.join parts)

/-- The text of the expressions written before the first that fails, and its fault. -/
def scadTextUntilFault : List Expr → String × Option Fault
  | [] => ("", none)
  | e :: rest =>
    match e.fileText with
    | .error f => ("", some f)
    | .ok t =>
      let (more, fault) := scadTextUntilFault rest
      (t ++ more, fault)

end CsgScript

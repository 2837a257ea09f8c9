import CsgScript.Expr.Basic
/-!
# Parameters of nodes

The parameters of a shape or operation, in their order: each has its name in the tree, the name
OpenSCAD knows it by (`radius` is `r`, the `vector` of `translate` is `v`, …), its value, the value
it takes when left out (if it may be left out), and whether it is an angle, stored in radians.
A parameter whose value equals its fallback is not written.
-/

namespace CsgScript

/-- One parameter of a node. -/
structure Param where
  name : String
  parameter : String
  value : Value
  fallback : Option Value
  angle : Bool
  deriving Inhabited

namespace Param

/-- A parameter that is always written, under its own name. -/
def required (name : String) (value : Value) : Param := ⟨name, name, value, none, false⟩

/-- A parameter that is always written, under another name in OpenSCAD. -/
def renamed (name parameter : String) (value : Value) : Param := ⟨name, parameter, value, none, false⟩

/-- A parameter left out when it equals its fallback. -/
def optional (name : String) (value fallback : Value) : Param := ⟨name, name, value, some fallback, false⟩

/-- A boolean parameter that is false unless told otherwise. -/
def flag (name : String) (b : Bool) : Param := optional name (.bool b) (.bool false)

/-- The convexity parameter, `1` unless told otherwise. -/
def convexity (c : Int32) : Param := optional "convexity" (.int c.toInt64) (.int defaultConvexity.toInt64)

end Param

namespace Value

/-- A list of points. -/
def ofPoints {α} (coordinates : α → List Binary64) (points : List α) : Value :=
  .list (points.map fun p => ofReals (coordinates p))

/-- Lists of point indices. -/
def ofIndices (lists : List (List Int32)) : Value :=
  .list (lists.map fun l => .list (l.map fun i => .int i.toInt64))

/-- Integer axes. -/
def ofAxes (a : Axes) : Value := .list [.int a.x.toInt64, .int a.y.toInt64, .int a.z.toInt64]

/-- A colour, as a list of four reals or a name. -/
def ofColor : Color → Value
  | .rgba c => ofReals c.toList
  | .named name => .str name

end Value

namespace Shape

/-- The parameters of a shape. -/
def params : Shape → List Param
  | .circle r => [.renamed "radius" "r" (.real r)]
  | .square size center => [.required "size" (.real size), .flag "center" center]
  | .rectangle size center => [.required "size" (Value.ofReals size.toList), .flag "center" center]
  | .polygon points paths convexity =>
    [.required "points" (Value.ofPoints Vec2.toList points),
     .optional "paths" (Value.ofIndices paths) (.list []), .convexity convexity]
  | .text t =>
    let d : TextLayout := {}
    [.required "text" (.str t.text), .optional "size" (.real t.size) (.real d.size),
     .optional "font" (.str t.font) (.str d.font), .optional "halign" (.str t.halign) (.str d.halign),
     .optional "valign" (.str t.valign) (.str d.valign),
     .optional "spacing" (.real t.spacing) (.real d.spacing),
     .optional "direction" (.str t.direction) (.str d.direction),
     .optional "language" (.str t.language) (.str d.language),
     .optional "script" (.str t.script) (.str d.script)]
  | .importPlanar file layer convexity =>
    [.required "file" (.str file.text), .optional "layer" (.str layer) (.str ""), .convexity convexity]
  | .sphere r => [.renamed "radius" "r" (.real r)]
  | .cube size center => [.required "size" (Value.ofReals size.toList), .flag "center" center]
  | .cylinder r h center => [.renamed "radius" "r" (.real r), .renamed "height" "h" (.real h), .flag "center" center]
  | .frustum r1 r2 h center =>
    [.renamed "radius_bottom" "r1" (.real r1), .renamed "radius_top" "r2" (.real r2),
     .renamed "height" "h" (.real h), .flag "center" center]
  | .polyhedron points faces convexity =>
    [.required "points" (Value.ofPoints Vec3.toList points), .required "faces" (Value.ofIndices faces),
     .convexity convexity]
  | .importSolid file convexity => [.required "file" (.str file.text), .convexity convexity]
  | .surface file center invert convexity =>
    [.required "file" (.str file.text), .flag "center" center, .flag "invert" invert, .convexity convexity]

end Shape

namespace Operation

/-- The parameters of an operation. -/
def params : Operation → List Param
  | .combine .. => []
  | .translate2 v => [.renamed "vector" "v" (Value.ofReals v.toList)]
  | .translate3 v => [.renamed "vector" "v" (Value.ofReals v.toList)]
  | .rotate2 a => [⟨"angle", "a", .real a, none, true⟩]
  | .rotate3 a => [⟨"angle", "a", Value.ofReals a.toList, none, true⟩]
  | .scale2 v => [.renamed "vector" "v" (Value.ofReals v.toList)]
  | .scale3 v => [.renamed "vector" "v" (Value.ofReals v.toList)]
  | .resize2 v => [.renamed "size" "newsize" (Value.ofReals v.toList)]
  | .resize3 v => [.renamed "size" "newsize" (Value.ofReals v.toList)]
  | .mirror _ axes => [.renamed "vector" "v" (Value.ofAxes axes)]
  | .multmatrix _ rows => [.renamed "matrix" "m" (Value.ofPoints Vec4.toList rows)]
  | .color _ c => [.renamed "color" "c" (Value.ofColor c)]
  | .roundedOffset r => [.renamed "distance" "r" (.real r)]
  | .angledOffset delta chamfer => [.renamed "distance" "delta" (.real delta), .flag "chamfer" chamfer]
  | .minkowski _ convexity | .render convexity => [.convexity convexity]
  | .linearExtrude e =>
    let d : LinearExtrusion := {}
    [.required "height" (.real e.height), .flag "center" e.center, .convexity e.convexity,
     ⟨"twist", "twist", .real e.twist, some (.real d.twist), true⟩] ++
    (match e.slices with
     | some n => [.required "slices" (.int n.toInt64)]
     | none => []) ++
    [.optional "scale" (.real e.scale) (.real d.scale)]
  | .rotateExtrude angle convexity =>
    [⟨"angle", "angle", .real angle, some (.real fullTurn), true⟩, .convexity convexity]

end Operation

namespace Expr

/-- The parameters of a node, for the kinds that have a parameter list. -/
def params? : Expr → Option (List Param)
  | .shape s => some s.params
  | .projection _ cut => some [.flag "cut" cut]
  | .apply op _ => some op.params
  | _ => none

end Expr

end CsgScript

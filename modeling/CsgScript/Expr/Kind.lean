import CsgScript.Expr.Basic
/-!
# Names of node kinds

Each node kind has a name, with `2D` or `3D` at the end for kinds that exist in both
dimensions.  Dumps of trees show these names.
-/

namespace CsgScript

/-- The end of a kind's name: `2D` or `3D`. -/
def Dim.suffix : Dim → String
  | .two => "2D"
  | .three => "3D"

/-- The name of a shape's kind. -/
def Shape.kindName : Shape → String
  | .circle _ => "Circle"
  | .square .. => "Square"
  | .rectangle .. => "Rectangle"
  | .polygon .. => "Polygon"
  | .text _ => "Text"
  | .importPlanar .. => "Import2D"
  | .sphere _ => "Sphere"
  | .cube .. => "Cube"
  | .cylinder .. => "Cylinder"
  | .frustum .. => "Frustum"
  | .polyhedron .. => "Polyhedron"
  | .importSolid .. => "Import3D"
  | .surface .. => "Surface"

/-- The name of an operation's kind. -/
def Operation.kindName : Operation → String
  | .combine .union d => "Union" ++ d.suffix
  | .combine .difference d => "Difference" ++ d.suffix
  | .combine .intersection d => "Intersection" ++ d.suffix
  | .combine .hull d => "Hull" ++ d.suffix
  | .translate2 _ => "Translation2D"
  | .translate3 _ => "Translation3D"
  | .rotate2 _ => "Rotation2D"
  | .rotate3 _ => "Rotation3D"
  | .scale2 _ => "Scaling2D"
  | .scale3 _ => "Scaling3D"
  | .resize2 _ => "Resize2D"
  | .resize3 _ => "Resize3D"
  | .mirror d _ => "Mirror" ++ d.suffix
  | .multmatrix d _ => "Affine" ++ d.suffix
  | .color d _ => "Color" ++ d.suffix
  | .roundedOffset _ => "RoundedOffset"
  | .angledOffset .. => "AngledOffset"
  | .minkowski d _ => "Minkowski" ++ d.suffix
  | .render _ => "Render3D"
  | .linearExtrude _ => "LinearExtrusion"
  | .rotateExtrude .. => "RotationalExtrusion"

/-- The name of a modifier's kind. -/
def Modifier.kindName : Modifier → String
  | .background => "Background"
  | .debug => "Debug"
  | .root => "Root"
  | .disable => "Disable"

/-- The name of a node's kind. -/
def Expr.kindName : Expr → String
  | .shape s => s.kindName
  | .projection .. => "Projection"
  | .apply op _ => op.kindName
  | .modify m d _ => m.kindName ++ d.suffix
  | .define d .. => "ModuleDefinition" ++ d.suffix
  | .call d .. => "ModuleCall" ++ d.suffix
  | .callFree _ => "ModuleCallND"
  | .callerChildren => "ModuleChildren"
  | .comment _ => "Comment"
  | .commented d .. => "Commented" ++ d.suffix
  | .special .. => "SpecialVariable"
  | .echo _ => "Echo"

end CsgScript

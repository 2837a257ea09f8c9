import CsgScript.Value.Basic
import CsgScript.Dimension
import CsgScript.Number.Angle
import CsgScript.Path
/-!
# Expression trees

An `Expr` is a tree of constructive solid geometry as OpenSCAD knows it:

* primitive shapes (`Shape`), planar or solid, with their parameters;
* operations (`Operation`) that combine or transform a list of children — the booleans and
  hulls, the affine transformations, colours, offsets, Minkowski sums, rendering and the two
  extrusions;
* a projection of one solid child onto the plane;
* modifiers (`%`, `#`, `!`, `*`) in front of one child;
* module definitions, module calls with or without children, and the place where a module body
  puts the children of its call;
* comments, commented expressions, special variables (`$fn` and the like) and `echo`.

Each node has a keyword, a dimensionality and a container kind.  The node kinds that exist in a
planar and a solid variant carry their `Dim`; the others have theirs fixed.  Angles are stored
in radians, and the files of imports and surfaces are paths, equal when they name the same path.
-/

namespace CsgScript

/-- A pair of reals. -/
structure Vec2 where
  x : Binary64
  y : Binary64
  deriving BEq, Inhabited, Repr

/-- A triple of reals. -/
structure Vec3 where
  x : Binary64
  y : Binary64
  z : Binary64
  deriving BEq, Inhabited, Repr

/-- A quadruple of reals: a colour with alpha, or a row of a transformation matrix. -/
structure Vec4 where
  x : Binary64
  y : Binary64
  z : Binary64
  w : Binary64
  deriving BEq, Inhabited, Repr

/-- The coordinates of a pair. -/
def Vec2.toList (v : Vec2) : List Binary64 := [v.x, v.y]

/-- The coordinates of a triple. -/
def Vec3.toList (v : Vec3) : List Binary64 := [v.x, v.y, v.z]

/-- The coordinates of a quadruple. -/
def Vec4.toList (v : Vec4) : List Binary64 := [v.x, v.y, v.z, v.w]

/-- The normal of a mirror plane, as integer axes; the same for planar and solid children. -/
structure Axes where
  x : Int32
  y : Int32
  z : Int32
  deriving BEq, Inhabited, Repr

/-- A colour: red, green, blue and alpha, or a name. -/
inductive Color where
  | rgba (c : Vec4)
  | named (name : String)
  deriving BEq, Inhabited, Repr

/-- The text of a `text` shape and how it is laid out. -/
structure TextLayout where
  text : String := ""
  size : Binary64 := 10
  font : String := ""
  halign : String := "left"
  valign : String := "baseline"
  spacing : Binary64 := 1
  direction : String := "ltr"
  language : String := "en"
  script : String := "latin"
  deriving BEq, Inhabited, Repr

/-- The parameters of a linear extrusion; the twist is in radians, and without a slice count
the renderer picks one. -/
structure LinearExtrusion where
  height : Binary64 := 0
  center : Bool := false
  convexity : Int32 := 1
  twist : Binary64 := 0
  slices : Option Int32 := none
  scale : Binary64 := 1
  deriving BEq, Inhabited, Repr

/-- The convexity a shape or operation has unless told otherwise. -/
def defaultConvexity : Int32 := 1

/-- A full turn, in radians: the default angle of a rotational extrusion. -/
def fullTurn : Binary64 := 2 * Angle.pi

/-- A primitive shape. -/
inductive Shape where
  | circle (radius : Binary64)
  | square (size : Binary64) (center : Bool)
  | rectangle (size : Vec2) (center : Bool)
  | polygon (points : List Vec2) (paths : List (List Int32)) (convexity : Int32)
  | text (layout : TextLayout)
  | importPlanar (file : PathName) (layer : String) (convexity : Int32)
  | sphere (radius : Binary64)
  | cube (size : Vec3) (center : Bool)
  | cylinder (radius height : Binary64) (center : Bool)
  | frustum (radiusBottom radiusTop height : Binary64) (center : Bool)
  | polyhedron (points : List Vec3) (faces : List (List Int32)) (convexity : Int32)
  | importSolid (file : PathName) (convexity : Int32)
  | surface (file : PathName) (center invert : Bool) (convexity : Int32)
  deriving BEq, Inhabited, Repr

/-- The operations without parameters: the three booleans and the convex hull. -/
inductive Combination where
  | union
  | difference
  | intersection
  | hull
  deriving DecidableEq, Repr, Inhabited

/-- An operation on a list of children. -/
inductive Operation where
  | combine (c : Combination) (d : Dim)
  | translate2 (v : Vec2)
  | translate3 (v : Vec3)
  | rotate2 (angle : Binary64)
  | rotate3 (angles : Vec3)
  | scale2 (factors : Vec2)
  | scale3 (factors : Vec3)
  | resize2 (size : Vec2)
  | resize3 (size : Vec3)
  | mirror (d : Dim) (axes : Axes)
  | multmatrix (d : Dim) (rows : List Vec4)
  | color (d : Dim) (c : Color)
  | roundedOffset (distance : Binary64)
  | angledOffset (distance : Binary64) (chamfer : Bool)
  | minkowski (d : Dim) (convexity : Int32)
  | render (convexity : Int32)
  | linearExtrude (e : LinearExtrusion)
  | rotateExtrude (angle : Binary64) (convexity : Int32)
  deriving BEq, Inhabited, Repr

/-- The four modifiers of a statement. -/
inductive Modifier where
  | background
  | debug
  | root
  | disable
  deriving DecidableEq, Repr, Inhabited

/-- A tree of constructive solid geometry. -/
inductive Expr where
  | shape (s : Shape)
  | projection (child : Expr) (cut : Bool)
  | apply (op : Operation) (children : List Expr)
  | modify (m : Modifier) (d : Dim) (child : Expr)
  | define (d : Dim) (name : String) (body : List Expr)
  | call (d : Dim) (name : String) (children : List Expr)
  | callFree (name : String)
  | callerChildren
  | comment (lines : List String)
  | commented (d : Dim) (lines : List String) (subject : Expr)
  | special (name : String) (preview render : Option Value)
  | echo (content : List Value)
  deriving Inhabited

/-- How a node holds the nodes below it. -/
inductive Container where
  | leaf
  | child
  | children
  | subject
  deriving DecidableEq, Repr

/-- The name of a container kind; a leaf has the empty name. -/
def Container.name : Container → String
  | .leaf => ""
  | .child => "child"
  | .children => "children"
  | .subject => "subject"

namespace Shape

/-- Circles, squares, rectangles, polygons, texts and planar imports are planar. -/
def dim : Shape → Dim
  | .circle .. | .square .. | .rectangle .. | .polygon .. | .text _ | .importPlanar .. => .two
  | _ => .three

/-- The OpenSCAD module that makes the shape. -/
def keyword : Shape → String
  | .circle _ => "circle"
  | .square .. | .rectangle .. => "square"
  | .polygon .. => "polygon"
  | .text _ => "text"
  | .importPlanar .. | .importSolid .. => "import"
  | .sphere _ => "sphere"
  | .cube .. => "cube"
  | .cylinder .. | .frustum .. => "cylinder"
  | .polyhedron .. => "polyhedron"
  | .surface .. => "surface"

end Shape

namespace Operation

/-- The dimension of an operation's result. -/
def dim : Operation → Dim
  | .combine _ d | .mirror d _ | .multmatrix d _ | .color d _ | .minkowski d _ => d
  | .translate2 _ | .rotate2 _ | .scale2 _ | .resize2 _ | .roundedOffset _
  | .angledOffset .. => .two
  | _ => .three

/-- The OpenSCAD module of the operation. -/
def keyword : Operation → String
  | .combine .union _ => "union"
  | .combine .difference _ => "difference"
  | .combine .intersection _ => "intersection"
  | .combine .hull _ => "hull"
  | .translate2 _ | .translate3 _ => "translate"
  | .rotate2 _ | .rotate3 _ => "rotate"
  | .scale2 _ | .scale3 _ => "scale"
  | .resize2 _ | .resize3 _ => "resize"
  | .mirror .. => "mirror"
  | .multmatrix .. => "multmatrix"
  | .color .. => "color"
  | .roundedOffset _ | .angledOffset .. => "offset"
  | .minkowski .. => "minkowski"
  | .render _ => "render"
  | .linearExtrude _ => "linear_extrude"
  | .rotateExtrude .. => "rotate_extrude"

end Operation

/-- The symbol a modifier puts in front of a statement. -/
def Modifier.symbol : Modifier → String
  | .background => "%"
  | .debug => "#"
  | .root => "!"
  | .disable => "*"

namespace Expr

/-- The dimensionality of a node: that of its kind, not computed from its children. -/
def dimensionality : Expr → Dimensionality
  | .shape s => s.dim
  | .projection .. => .fixed .two
  | .apply op _ => op.dim
  | .modify _ d _ | .define d .. | .call d .. | .commented d .. => d
  | .callFree _ | .callerChildren | .comment _ | .special .. | .echo _ => .free

/-- The keyword of a node. -/
def keyword : Expr → String
  | .shape s => s.keyword
  | .projection .. => "projection"
  | .apply op _ => op.keyword
  | .modify m .. => m.symbol
  | .define .. => "module"
  | .call .. | .callFree _ => ""
  | .callerChildren => "children"
  | .comment _ | .commented .. => "//"
  | .special .. => "$"
  | .echo _ => "echo"

/-- How a node holds the nodes below it. -/
def container : Expr → Container
  | .projection .. | .modify .. => .child
  | .apply .. | .define .. | .call .. => .children
  | .commented .. => .subject
  | _ => .leaf

/-- The children of a node, a single child counting as one; a commented subject is not a
child. -/
def children : Expr → List Expr
  | .projection c _ | .modify _ _ c => [c]
  | .apply _ cs | .define _ _ cs | .call _ _ cs => cs
  | _ => []

end Expr

end CsgScript

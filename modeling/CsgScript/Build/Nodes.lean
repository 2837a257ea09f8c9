import CsgScript.Build.Dimension
import CsgScript.Expr.Indices
/-!
# Checked construction of expressions

Each constructor here picks the planar or solid variant of its node from the children it is
given, and refuses what OpenSCAD would treat badly: planar and solid children together, a solid
offset or extrusion, a planar projection or render, a module without a body, a modifier on other
than one expression, bad polygon or polyhedron indices.  The verb of each refusal names the
operation in the message.

Shapes made here are centred unless told otherwise, where the tree's own default is uncentred.
-/

namespace CsgScript

namespace Build

/-! ## Annotations -/

/-- A comment on its own. -/
def comment (lines : List String) : Expr := .comment lines

/-- A comment attached to an expression, of the expression's dimension. -/
def commentOn (lines : List String) (subject : Expr) : Except Fault Expr := do
  let d ← classify "comment" [subject]
  .ok (.commented d lines subject)

/-- A special variable, read, assigned, or assigned differently in preview and render. -/
def special (name : String) (preview render : Option Value) : Expr := .special name preview render

/-- An echo of values. -/
def echo (content : List Value) : Expr := .echo content

/-! ## Modifiers -/

/-- A modifier on one expression. -/
def modifier (m : Modifier) (child : Expr) : Except Fault Expr := do
  let d ← classify "modify" [child]
  .ok (.modify m d child)

/-- A modifier on a list that must hold exactly one expression. -/
def modify (m : Modifier) : List Expr → Except Fault Expr
  | [child] => modifier m child
  | children => .error (.modifierArity children.length)

/-! ## Booleans and hulls -/

/-- A combination of children, of their common dimension. -/
def combine (c : Combination) (verb : String) (children : List Expr) : Except Fault Expr := do
  let d ← classify verb children
  .ok (.apply (.combine c d) children)

/-- The union of the children. -/
def union (children : List Expr) : Except Fault Expr := combine .union "contain" children

/-- The first child less the others. -/
def difference (children : List Expr) : Except Fault Expr := combine .difference "contain" children

/-- The common part of the children. -/
def intersection (children : List Expr) : Except Fault Expr :=
  combine .intersection "contain" children

/-- The convex hull of the children. -/
def hull (children : List Expr) : Except Fault Expr := combine .hull "form a hull around" children

/-! ## Shapes -/

/-- A circle. -/
def circle (radius : Binary64) : Expr := .shape (.circle radius)

/-- A square with sides of one length. -/
def square (size : Binary64) (center : Bool) : Expr := .shape (.square size center)

/-- A rectangle. -/
def rectangle (size : Vec2) (center : Bool) : Expr := .shape (.rectangle size center)

/-- A polygon, its paths checked against its points. -/
def polygon (points : List Vec2) (paths : List (List Int32)) (convexity : Int32) :
    Except Fault Expr := do
  let s := Shape.polygon points paths convexity
  s.check
  .ok (.shape s)

/-- A text. -/
def text (layout : TextLayout) : Expr := .shape (.text layout)

/-- The extension of the last component of a path: from its last dot on, unless that dot is the
component's first character or the component is `.` or `..`. -/
def extension (path : String) : String :=
  let name := (path.splitOn "/").getLast?.getD ""
  if name = "." ∨ name = ".." then ""
  else match (name.splitOn ".").reverse with
    | [] | [_] => ""
    | [_, ""] => ""
    | last :: _ => "." ++ last

/-- ASCII letters in lower case; other characters unchanged. -/
def lowerAscii (s : String) : String := String.ofList (s.toList.map Char.toLower)

/-- An imported file: planar for `.dxf` and `.svg`, solid for `.3mf`, `.amf`, `.off` and
`.stl`, in any case; a layer belongs to planar imports only. -/
def importFile (file : PathName) (convexity : Int32) (layer : String) : Except Fault Expr :=
  let suffix := lowerAscii (extension file.text)
  if suffix = ".dxf" ∨ suffix = ".svg" then .ok (.shape (.importPlanar file layer convexity))
  else if suffix = ".3mf" ∨ suffix = ".amf" ∨ suffix = ".off" ∨ suffix = ".stl" then
    .ok (.shape (.importSolid file convexity))
  else .error (.unknownSuffix file.text)

/-- The projection of a child that must not be planar. -/
def projection (child : Expr) (cut : Bool) : Except Fault Expr := do
  reject "project" (.fixed .two) [child]
  .ok (.projection child cut)

/-- A sphere. -/
def sphere (radius : Binary64) : Expr := .shape (.sphere radius)

/-- A cuboid. -/
def cube (size : Vec3) (center : Bool) : Expr := .shape (.cube size center)

/-- A cylinder of one radius. -/
def cylinder (radius height : Binary64) (center : Bool) : Expr := .shape (.cylinder radius height center)

/-- A cylinder with a bottom and a top radius. -/
def frustum (radii : Vec2) (height : Binary64) (center : Bool) : Expr :=
  .shape (.frustum radii.x radii.y height center)

/-- A polyhedron, its faces checked against its points. -/
def polyhedron (points : List Vec3) (faces : List (List Int32)) (convexity : Int32) :
    Except Fault Expr := do
  let s := Shape.polyhedron points faces convexity
  s.check
  .ok (.shape s)

/-- A height field read from a file. -/
def surface (file : PathName) (center invert : Bool) (convexity : Int32) : Expr :=
  .shape (.surface file center invert convexity)

/-! ## Extrusions -/

/-- How to extrude: rotationally when `rotate` says so, or, when it says nothing, when an angle
is given; linearly otherwise, which needs a height. -/
structure ExtrudeOptions where
  rotate : Option Bool := none
  height : Option Binary64 := none
  angle : Option Binary64 := none
  center : Bool := false
  convexity : Int32 := 1
  twist : Binary64 := 0
  slices : Option Int32 := none
  scale : Binary64 := 1

/-- A rotational extrusion of children that must not be solid. -/
def rotateExtrude (children : List Expr) (angle : Binary64) (convexity : Int32) :
    Except Fault Expr := do
  reject "extrude" (.fixed .three) children
  .ok (.apply (.rotateExtrude angle convexity) children)

/-- An extrusion of children that must not be solid. -/
def extrude (children : List Expr) (o : ExtrudeOptions) : Except Fault Expr :=
  if o.rotate.getD o.angle.isSome then rotateExtrude children (o.angle.getD fullTurn) o.convexity
  else match o.height with
    | none => .error .missingHeight
    | some height => do
      reject "extrude" (.fixed .three) children
      .ok (.apply (.linearExtrude ⟨height, o.center, o.convexity, o.twist, o.slices, o.scale⟩)
        children)

/-- A linear extrusion to a height. -/
def linearExtrude (height : Binary64) (children : List Expr) : Except Fault Expr :=
  extrude children { rotate := some false, height := some height }

/-! ## Transformations -/

/-- The first two members of a vector. -/
def vec2 (v : List Binary64) : Vec2 := ⟨v.getD 0 0, v.getD 1 0⟩

/-- The first three members of a vector. -/
def vec3 (v : List Binary64) : Vec3 := ⟨v.getD 0 0, v.getD 1 0, v.getD 2 0⟩

/-- The node of a transformation chosen by its argument, for children of dimension `d`: the planar
operation on the argument's first two members, or the solid one on its first three. -/
def argumentNode (planar : Vec2 → Operation) (solid : Vec3 → Operation) (a : List Binary64)
    (children : List Expr) : Dim → Expr
  | .two => .apply (planar (vec2 a)) children
  | .three => .apply (solid (vec3 a)) children

/-- A transformation whose argument, of length 2 or 3, must match the children: its planar or its
solid node, as the argument and the children decide together. -/
def byArgument (verb : String) (planar : Vec2 → Operation) (solid : Vec3 → Operation)
    (a : List Binary64) (children : List Expr) : Except Fault Expr := do
  let d ← matchArgument verb a children
  .ok (argumentNode planar solid a children d)

/-- A move by a vector of length 2 or 3, matching the children. -/
def translate (v : List Binary64) (children : List Expr) : Except Fault Expr :=
  byArgument "translate" .translate2 .translate3 v children

/-- A rotation by an angle: in the plane, or about the z axis for solid children. -/
def rotate (angle : Binary64) (children : List Expr) : Except Fault Expr := do
  if !hasDimensioned children then .ok (.apply (.rotate2 angle) children)
  else match ← classify "rotate" children with
    | .two => .ok (.apply (.rotate2 angle) children)
    | .three => .ok (.apply (.rotate3 ⟨0, 0, angle⟩) children)

/-- A rotation by angles about the three axes, for children that are not planar. -/
def rotateAxes (angles : Vec3) (children : List Expr) : Except Fault Expr := do
  let _ ← matchArgument "rotate" angles.toList children
  .ok (.apply (.rotate3 angles) children)

/-- A scaling by factors of length 2 or 3, matching the children. -/
def scale (factors : List Binary64) (children : List Expr) : Except Fault Expr :=
  byArgument "scale" .scale2 .scale3 factors children

/-- A resizing to a size of length 2 or 3, matching the children. -/
def resize (size : List Binary64) (children : List Expr) : Except Fault Expr :=
  byArgument "resize" .resize2 .resize3 size children

/-- A mirror image in the plane with the given normal. -/
def mirror (axes : Axes) (children : List Expr) : Except Fault Expr := do
  let d ← classify "mirror" children
  .ok (.apply (.mirror d axes) children)

/-- An affine transformation by matrix rows. -/
def multmatrix (rows : List Vec4) (children : List Expr) : Except Fault Expr := do
  let d ← classify "transform" children
  .ok (.apply (.multmatrix d rows) children)

/-- A colour. -/
def color (c : Color) (children : List Expr) : Except Fault Expr := do
  let d ← classify "color" children
  .ok (.apply (.color d c) children)

/-- An offset of children that must not be solid: rounded, or angled and possibly chamfered. -/
def offset (distance : Binary64) (children : List Expr) (round chamfer : Bool) :
    Except Fault Expr := do
  reject "offset" (.fixed .three) children
  if round then
    if chamfer then .error .chamferedRounding else .ok (.apply (.roundedOffset distance) children)
  else .ok (.apply (.angledOffset distance chamfer) children)

/-- A Minkowski sum. -/
def minkowski (children : List Expr) (convexity : Int32) : Except Fault Expr := do
  let d ← classify "minkowski-add" children
  .ok (.apply (.minkowski d convexity) children)

/-- A full render of children that must not be planar. -/
def render (children : List Expr) (convexity : Int32) : Except Fault Expr := do
  reject "render" (.fixed .two) children
  .ok (.apply (.render convexity) children)

/-! ## Modules -/

/-- A module definition, which needs a body. -/
def defineModule (name : String) (children : List Expr) : Except Fault Expr :=
  if children.isEmpty then .error (.emptyModule name)
  else do
    let d ← classify "define module of" children
    .ok (.define d name children)

/-- A module call; without children its dimension is unknown. -/
def callModule (name : String) (children : List Expr) : Except Fault Expr :=
  if children.isEmpty then .ok (.callFree name)
  else do
    let d ← classify "call module using" children
    .ok (.call d name children)

/-- Where a module body puts the children of its call. -/
def callerChildren : Expr := .callerChildren

/-! ## Compositions -/

/-- Consecutive pairs of a list. -/
def consecutive : List Expr → List (Expr × Expr)
  | a :: b :: rest => (a, b) :: consecutive (b :: rest)
  | _ => []

/-- The union of the hulls of each consecutive pair of shapes. -/
def pairwiseHull (shapes : List Expr) : Except Fault Expr := do
  let hulls ← (consecutive shapes).mapM fun (a, b) => hull [a, b]
  union hulls

/-- Corners rounded off by an inset followed by an equal outset. -/
def roundCorners (radius : Binary64) (shapes : List Expr) (round chamfer : Bool) :
    Except Fault Expr := do
  let inner ← offset (-radius) shapes round chamfer
  offset radius [inner] round chamfer

/-- The first expression less the second. -/
def minus (a b : Expr) : Except Fault Expr := difference [a, b]

/-- The union of two expressions. -/
def pipe (a b : Expr) : Except Fault Expr := union [a, b]

end Build

end CsgScript

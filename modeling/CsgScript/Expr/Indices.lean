import CsgScript.Expr.Basic
import CsgScript.Fault
/-!
# Point indices of polygons and polyhedra

A polygon's paths and a polyhedron's faces are lists of indices into its points.  A path needs at
least one index and a face at least three, and every index must name a point.  The lists are
checked in order, each first for its length and then index by index, and the first fault found is
the one reported.
-/

namespace CsgScript

namespace Indices

/-- Checks one index list, in place `place` (from 1), against `count` points. -/
def checkList (part : IndexedPart) (count place : Nat) (list : List Int32) : Except Fault Unit :=
  if list.length < part.minimum then .error (.tooFewIndices part place list.length)
  else match list.find? (fun i => decide (i.toInt < 0) || decide (i.toInt ≥ (count : Int))) with
    | some i => .error (.indexOutOfRange part i.toInt place count)
    | none => .ok ()

/-- Checks index lists from place `place` on. -/
def checkFrom (part : IndexedPart) (count : Nat) : Nat → List (List Int32) → Except Fault Unit
  | _, [] => .ok ()
  | place, l :: rest => do
    checkList part count place l
    checkFrom part count (place + 1) rest

/-- Checks all index lists of a shape with `count` points. -/
def check (part : IndexedPart) (count : Nat) (lists : List (List Int32)) : Except Fault Unit :=
  checkFrom part count 1 lists

end Indices

/-- Checks the index lists of a polygon or polyhedron; other shapes have none. -/
def Shape.check : Shape → Except Fault Unit
  | .polygon points paths _ => Indices.check .path points.length paths
  | .polyhedron points faces _ => Indices.check .face points.length faces
  | _ => .ok ()

end CsgScript

import CsgScript.Expr.Basic
import CsgScript.Number.Text
/-!
# Assets

An asset is a named deliverable: top-level expressions, the modules they use (assets in their
own right, nested to any depth), the suffixes of the files it is rendered to, pictures of it,
and two marks: whether it is chiral — it has a handedness, so its mirror image is a different
part — and whether it already is the mirrored one.

An anonymous asset is named after the batch it was written in and its place in that batch.
-/

namespace CsgScript

/-- A camera: placed by a shift, a rotation (in radians) and a distance from its target, or by
the eye's position and the point it looks at. -/
inductive Camera where
  | gimbal (shift rotation : Vec3) (distance : Binary64)
  | vector (eye center : Vec3)
  deriving Inhabited, Repr

/-- A picture of an asset: its path below the render directory, an optional camera and size, and
a colour scheme (empty for the renderer's own). -/
structure Image where
  path : String
  camera : Option Camera := none
  size : Option (Int32 × Int32) := none
  colorscheme : String := ""
  deriving Inhabited, Repr

/-- A named deliverable with its modules. -/
structure Asset where
  content : List Expr := []
  name : String := "untitled"
  modules : List Asset := []
  suffixes : List String := [".stl"]
  images : List Image := []
  chiral : Bool := false
  mirrored : Bool := false
  deriving Inhabited

/-- The name of an anonymous asset: `untitled_<batch>_<ordinal>`. -/
def untitledName (batch ordinal : Int) : String :=
  "untitled_" ++ DecimalText.ofInt batch ++ "_" ++ DecimalText.ofInt ordinal

/-- An anonymous asset of given content, named after its batch and place. -/
def packageAsset (content : List Expr) (batch ordinal : Int) : Asset :=
  { content := content, name := untitledName batch ordinal }

end CsgScript

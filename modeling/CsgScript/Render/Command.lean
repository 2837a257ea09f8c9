import CsgScript.Asset.Basic
import CsgScript.Script.Literal
import CsgScript.Path
import CsgScript.Number.Angle
/-!
# Render commands

How a written asset is rendered by an external OpenSCAD: one job per output suffix, writing
`<name><suffix>`, and one per picture, writing the picture's path, each below the render
directory.  A command is `renderer [-o output] [--camera c] [--imgsize w,h] [--colorscheme s]
input`.  A camera is written as comma-separated numbers: a gimbal camera's shift, its
rotation in degrees and its distance; a vector camera's eye and centre.
-/

namespace CsgScript

namespace Render

/-- Numbers joined by commas, each written as in OpenSCAD text. -/
def numbers (xs : List Binary64) : String := ",".intercalate (xs.map Literal.number)

/-- A camera as the renderer's `--camera` argument. -/
def cameraText : Camera → String
  | .gimbal shift rotation distance =>
    numbers (shift.toList ++ rotation.toList.map Angle.toDegrees ++ [distance])
  | .vector eye center => numbers (eye.toList ++ center.toList)

/-- The renderer's command line for an input, an optional output and an optional picture. -/
def command (renderer input : String) (output : Option String) (image : Option Image) :
    List String :=
  let out := match output with
    | some o => ["-o", o]
    | none => []
  let pictured := match image with
    | some i =>
      (match i.camera with
        | some c => ["--camera", cameraText c]
        | none => []) ++
      (match i.size with
        | some (w, h) => ["--imgsize", DecimalText.ofInt w.toInt ++ "," ++ DecimalText.ofInt h.toInt]
        | none => []) ++
      (if i.colorscheme.isEmpty then [] else ["--colorscheme", i.colorscheme])
    | none => []
  renderer :: out ++ pictured ++ [input]

/-- One run of the renderer. -/
structure Job where
  asset : String
  input : String
  output : String
  command : List String
  deriving Inhabited, Repr

end Render

/-- Where an asset's OpenSCAD file goes in a directory. -/
def scadPath (directory name : String) : String := Path.join directory (name ++ ".scad")

/-- The render jobs of an asset written to `scadDir`: its suffixes, then its pictures. -/
def Asset.renderJobs (a : Asset) (scadDir renderDir renderer : String) : List Render.Job :=
  let input := scadPath scadDir a.name
  (a.suffixes.map fun suffix =>
    let output := Path.join renderDir (a.name ++ suffix)
    ⟨a.name, input, output, Render.command renderer input (some output) none⟩) ++
  (a.images.map fun image =>
    let output := Path.join renderDir image.path
    ⟨a.name, input, output, Render.command renderer input (some output) (some image)⟩)

end CsgScript

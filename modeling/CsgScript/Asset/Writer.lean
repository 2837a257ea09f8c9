import CsgScript.Asset.Assembly
import CsgScript.Script.Lines
import CsgScript.Render.Command
import CsgScript.Disk
/-!
# Writing assets as OpenSCAD files

A writer refines assets and writes each result as `<name>.scad` in its directory, making the
directories the name asks for.  Every call to `write` is one batch: the batch counter advances
before anything is refined, so a batch that fails still uses up its number.  Anonymous content is
named `untitled_<batch>_<ordinal>` after the batch about to be written, so no name repeats.

A file is opened before its text is written: when an expression cannot be written, the file
holds the text of the expressions before it, and the fault ends the batch.  Files written
earlier in the batch stay, and so do the directories made for a file that then failed.
-/

namespace CsgScript

/-- A writer of OpenSCAD files into one directory. -/
structure Writer where
  directory : String
  options : AssemblyOptions := {}
  batch : Nat := 0
  deriving Inhabited

namespace Writer

/-- Writes one refined asset into the directory. -/
def writeOne (directory : String) (disk : Disk) (a : Asset) : Disk × Except Fault Unit :=
  let path := scadPath directory a.name
  let parent := Path.parent path
  match (if parent.isEmpty then (disk, .ok ()) else disk.makeDirectories parent) with
  | (disk, .error f) => (disk, .error f)
  | (disk, .ok ()) =>
    let (text, fault) := scadTextUntilFault a.content
    match disk.writeFile path text with
    | .error f => (disk, .error f)
    | .ok disk =>
      match fault with
      | some f => (disk, .error f)
      | none => (disk, .ok ())

/-- Writes refined assets one after another, up to the first fault. -/
def writeEach (directory : String) (disk : Disk) : List Asset → Disk × Except Fault (List Asset)
  | [] => (disk, .ok [])
  | a :: rest =>
    match writeOne directory disk a with
    | (disk, .error f) => (disk, .error f)
    | (disk, .ok ()) =>
      let (disk, r) := writeEach directory disk rest
      (disk, r.map (a :: ·))

/-- Refines and writes assets one after another, up to the first fault. -/
def refineEach (directory : String) (options : AssemblyOptions) (disk : Disk) :
    List Asset → Disk × Except Fault (List Asset)
  | [] => (disk, .ok [])
  | a :: rest =>
    match a.refine options with
    | .error f => (disk, .error f)
    | .ok outputs =>
      match writeEach directory disk outputs with
      | (disk, .error f) => (disk, .error f)
      | (disk, .ok written) =>
        let (disk, r) := refineEach directory options disk rest
        (disk, r.map (written ++ ·))

/-- Writes a batch of assets: the counter advances, then each asset is refined and its results
written.  Gives the writer after the batch, the disk, and the assets written or the fault. -/
def write (w : Writer) (disk : Disk) (assets : List Asset) : Writer × Disk × Except Fault (List Asset) :=
  let w := { w with batch := w.batch + 1 }
  let (disk, r) := refineEach w.directory w.options disk assets
  (w, disk, r)

/-- Anonymous contents as assets named after the coming batch and their places in it. -/
def package (batch : Nat) (contents : List (List Expr)) : List Asset :=
  (contents.zipIdx).map fun (c, i) => packageAsset c batch i

/-- Each batch advances the counter by one, whatever it writes. -/
theorem batch_write (w : Writer) (disk : Disk) (assets : List Asset) :
    (w.write disk assets).1.batch = w.batch + 1 := rfl

/-- Anonymous contents are named `untitled_<batch>_<i>` for their places `i` in the batch. -/
theorem names_package (batch : Nat) (contents : List (List Expr)) :
    (package batch contents).map Asset.name =
      (List.range contents.length).map fun i : Nat => untitledName batch i := by
  have split : ∀ l : List (List Expr × Nat), l.map (fun x => untitledName batch x.2) =
      (l.map Prod.snd).map fun i : Nat => untitledName batch i := fun l => by
    simp [Function.comp_def]
  have h : (package batch contents).map Asset.name =
      contents.zipIdx.map fun x => untitledName batch x.2 := by
    simp [package, packageAsset, Function.comp_def]
  rw [h, split, List.zipIdx_map_snd, List.range_eq_range']

/-- Writes anonymous contents as one batch. -/
def writeContents (w : Writer) (disk : Disk) (contents : List (List Expr)) :
    Writer × Disk × Except Fault (List Asset) :=
  w.write disk (package w.batch contents)

/-- Writing anonymous contents is one batch. -/
theorem batch_writeContents (w : Writer) (disk : Disk) (contents : List (List Expr)) :
    (w.writeContents disk contents).1.batch = w.batch + 1 := rfl

/-- A call of a writer: named assets to write, or anonymous contents. -/
inductive Call where
  | assets (assets : List Asset)
  | contents (contents : List (List Expr))

/-- Serves one call. -/
def call (w : Writer) (disk : Disk) : Call → Writer × Disk × Except Fault (List Asset)
  | .assets assets => w.write disk assets
  | .contents contents => w.writeContents disk contents

/-- Serves calls one after another on one writer and its disk, a failed call included: the writer
and the disk at the end, and the answer of each call in order. -/
def serve (w : Writer) (disk : Disk) : List Call → Writer × Disk × List (Except Fault (List Asset))
  | [] => (w, disk, [])
  | c :: rest =>
    let (w, disk, r) := w.call disk c
    let (w, disk, rs) := serve w disk rest
    (w, disk, r :: rs)

end Writer

end CsgScript

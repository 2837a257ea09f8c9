import CsgScript.Asset.Writer
/-!
# The command line

The program writes its demonstration assets as OpenSCAD files below `output/scad`.  Its options
are `-v`/`--verbose`, `-h`/`--help`, `-c`/`--config <file>` and `--manifest <file>`; an option
that takes a file takes the next argument whatever it looks like, and the last one given counts.
All arguments are read before anything is done, so `-h` shows the usage only when every argument
is valid; an argument ends at its first NUL.  A configuration file must exist; one that does is
not read by this library, whose settings are the defaults.  An asset that fails does not stop the
others, but makes the exit code 1, as any other fault does, printed as `Error: <message>`.

A run is a function from arguments, the files that exist and a disk to an outcome: the exit code,
what is printed on standard output and standard error, and the disk after the run.
-/

namespace CsgScript

namespace Cli

/-- An argument as the program receives it: arguments are NUL-terminated strings, so each ends
before its first NUL. -/
def received (arg : String) : String := String.ofList (arg.toList.takeWhile (· ≠ '\x00'))

/-- What the arguments ask for. -/
structure Options where
  config : Option String := none
  manifest : Option String := none
  verbose : Bool := false
  help : Bool := false
  deriving Inhabited, Repr

/-- Reads the arguments from left to right. -/
def parseFrom (o : Options) : List String → Except Fault Options
  | [] => .ok o
  | arg :: rest =>
    if arg = "-v" ∨ arg = "--verbose" then parseFrom { o with verbose := true } rest
    else if arg = "-h" ∨ arg = "--help" then parseFrom { o with help := true } rest
    else if arg = "-c" ∨ arg = "--config" then
      match rest with
      | file :: more => parseFrom { o with config := some file } more
      | [] => .error (.missingOperand "-c/--config")
    else if arg = "--manifest" then
      match rest with
      | file :: more => parseFrom { o with manifest := some file } more
      | [] => .error (.missingOperand "--manifest")
    else .error (.unknownOption arg)

/-- The options the arguments ask for, or the first argument that is wrong. -/
def parseArgs (args : List String) : Except Fault Options := parseFrom {} args

/-- The usage text. -/
def usage (program : String) : String :=
  "Usage: " ++ program ++ " [options]\n" ++
  "\n" ++
  "Writes the demonstration assets as OpenSCAD files.\n" ++
  "\n" ++
  "Options:\n" ++
  "  -c, --config <file>    JSON configuration\n" ++
  "  -v, --verbose          Log at debug level\n" ++
  "  --manifest <file>      Write written assets and render jobs as JSON\n" ++
  "  -h, --help             Show this help message\n" ++
  "\n" ++
  "Environment:\n" ++
  "  CSGIR_LOG_LEVEL - Set log level (trace, debug, info, warn, error)\n"

/-- The directory the demonstration assets are written to. -/
def scadDirectory : String := Path.join "output" "scad"

/-- A bracket with a chiral arm, and a plate with a hole. -/
def demonstrationAssets : Except Fault (List Asset) := do
  let arm ← Build.hull [Build.sphere 2, ← Build.translate [20, 5, 0] [Build.sphere 2]]
  let armAsset : Asset := { content := [arm], name := "arm", chiral := true }
  let body ← Build.union [Build.cube ⟨30, 10, 4⟩ true, ← Build.callModule "arm" []]
  let bracket : Asset :=
    { content := [Build.special "$fn" (some (.int 32)) (some (.int 128)), body]
      name := "bracket", chiral := true, modules := [armAsset]
      images := [{ path := "bracket.png"
                   camera := some (.gimbal ⟨0, 0, 0⟩ ⟨Angle.pi / 3, 0, Angle.pi / 6⟩ 120)
                   size := some (800, 600), colorscheme := "Tomorrow" }] }
  let corners ← Build.roundCorners 3 [Build.rectangle ⟨40, 40⟩ true] true false
  let slab ← Build.linearExtrude 3 [corners]
  let hole ← Build.translate [0, 0, -1] [Build.cylinder 4 5 false]
  let plate : Asset :=
    { content := [← Build.difference [slab, hole]], name := "plate", suffixes := [".stl", ".3mf"] }
  pure [bracket, plate]

/-- What a run gives back. -/
structure Outcome where
  exitCode : Nat
  stdout : String
  stderr : String
  disk : Disk
  deriving Inhabited

/-- A fault that ends the run. -/
def failed (f : Fault) (disk : Disk) : Outcome := ⟨1, "", "Error: " ++ f.text ++ "\n", disk⟩

/-- Writes assets one batch each; the number that failed, and the disk after. -/
def writeAll (w : Writer) (disk : Disk) : List Asset → Nat × Disk
  | [] => (0, disk)
  | a :: rest =>
    let (w, disk, r) := w.write disk [a]
    let (failures, disk) := writeAll w disk rest
    (failures + (match r with | .ok _ => 0 | .error _ => 1), disk)

/-- The program run with arguments, given which files exist, on a disk. -/
def run (program : String) (args : List String) (exists? : String → Bool) (disk : Disk) :
    Outcome :=
  match parseArgs (args.map received) with
  | .error f => failed f disk
  | .ok o =>
    if o.help then ⟨0, "", usage program, disk⟩
    else match o.config with
      | some path =>
        if exists? path then failed (.unreadableConfiguration path) disk
        else failed (.cannotOpen path) disk
      | none =>
        match demonstrationAssets with
        | .error f => failed f disk
        | .ok assets =>
          let writer : Writer := { directory := scadDirectory }
          let (failures, disk) := writeAll writer disk assets
          ⟨if failures = 0 then 0 else 1, "", "", disk⟩

end Cli

end CsgScript

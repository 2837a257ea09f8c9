import CsgScript.Cli
/-!
# The program

Runs the command line on the arguments: the run itself is `Cli.run`, a function on an empty disk;
this layer only asks whether a configuration file exists, prints what the run printed, and
writes the files it made below the working directory.
-/

open CsgScript

/-- Whether a file can be opened for reading. -/
def readable (path : String) : IO Bool := do
  try
    let _ ← IO.FS.Handle.mk path .read
    pure true
  catch _ =>
    pure false

/-- Writes files below the working directory, making their directories. -/
def writeFiles (files : List (String × String)) : IO Unit := do
  for (path, text) in files do
    let parent := Path.parent path
    if !parent.isEmpty then IO.FS.createDirAll parent
    IO.FS.writeFile path text

def main (args : List String) : IO UInt32 := do
  let config := match Cli.parseArgs (args.map Cli.received) with
    | .ok o => o.config
    | .error _ => none
  let present ← match config with
    | some path => readable path
    | none => pure false
  let program := (← IO.appPath).toString
  let outcome := Cli.run program args (fun p => present && config == some p) {}
  writeFiles outcome.disk.files
  IO.print outcome.stdout
  IO.eprint outcome.stderr
  pure outcome.exitCode.toUInt32

import KotlinMocks.Cli.Program

/-!
# The generator's command

Runs the generator on this machine. The run itself works on a tree of files in memory; the
command fills that tree with what the paths the run uses hold here (the model, the
configuration files, and every directory and file the run makes, found by a first run), runs
again on it, then makes the directories and files the run made and prints what it printed.
-/

open KotlinMocks
open KotlinMocks.Cli

/-- The environment variables the generator reads. -/
def readVariables : List String := ["KMOCK_LOG", "KMOCK_LOG_FORMAT", "RUST_LOG"]

/-- What a path holds on this machine: a file with its text, a directory, or nothing. -/
def probe (path : String) : IO (Option Entry) := do
  try
    let text ← IO.FS.readFile path
    pure (some (.file text))
  catch e =>
    match e with
    | .inappropriateType _ 21 _ => pure (some .dir)
    | _ => pure none

/-- The tree with what the paths hold on this machine. -/
def look (d : Disk) (paths : List String) : IO Disk :=
  paths.foldlM (fun d p => do
    match ← probe p with
    | some e => pure (d.place p e)
    | none => pure d) d

def main (words : List String) : IO UInt32 := do
  let environment ← readVariables.filterMapM fun name => do
    pure ((← IO.getEnv name).map (name, ·))
  let cwd := (← IO.currentDir).toString
  let root : Disk := { outside := true }
  let base := ({ root with cwd := root.keyOf cwd } : Disk).place cwd .dir
  let reads := match Arguments.read words with
    | .ok a => a.readPaths
    | .error _ => []
  let before ← look base reads
  let first := ({ environment, words, disk := before } : Invocation).run
  let disk ← look before ((Disk.changesFrom before first.disk).map fun (key, _) => Disk.pathOf key)
  let invocation : Invocation := { environment, words, disk }
  let ending := invocation.run
  for (key, entry) in Disk.changesFrom disk ending.disk do
    match entry with
    | .dir => IO.FS.createDirAll (Disk.pathOf key)
    | .file text => IO.FS.writeFile (Disk.pathOf key) text
  IO.print ending.stdout
  IO.eprint (invocation.errorStream ending)
  pure ending.status.toUInt32

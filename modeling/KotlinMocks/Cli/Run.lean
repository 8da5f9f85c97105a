import KotlinMocks.Cli.Rounds
import KotlinMocks.Cli.OutputDirectory
import KotlinMocks.Cli.Arguments
import KotlinMocks.Model.Decode

/-!
# A run of the generator

A run settles its options, lowest first: the defaults, then a configuration file, then the
command line. The configuration file is the one the command line names, or else a
`kmock.json` beside the model if there is one. The run then reads the model and generates
every round: into memory for a dry run, which lists the units it would write, or into the
output directory, which then also gets the manifest. Every step that fails says what it was
doing: reading or parsing the configuration, loading the model, a round, or the manifest.
-/

namespace KotlinMocks.Cli

open Trace

/-- The name of the configuration file looked for beside the model. -/
def configName : String := "kmock.json"

/-- The origin of the configuration's events. -/
def configOrigin : String := "kmock_cli::config"

/-- The `kmock.json` in the model's directory. -/
def Arguments.configCandidate (a : Arguments) : String :=
  Disk.join ((Disk.parent? a.model).getD ".") configName

/-- The configuration file a run reads: the one named, or a `kmock.json` in the model's
directory if that is a file. -/
def Arguments.configPath? (a : Arguments) (disk : Disk) : Option String :=
  match a.config with
  | some path => some path
  | none => if disk.isFile a.configCandidate then some a.configCandidate else none

/-- The paths a run reads: the model, and the configuration files it names or looks for. -/
def Arguments.readPaths (a : Arguments) : List String :=
  a.model :: a.config.toList ++ [a.configCandidate]

/-- Reads options from a configuration file. -/
def loadOptions (disk : Disk) (path : String) : Except Failure GeneratorOptions :=
  match disk.read path with
  | .error e => .error ⟨["failed to read config file: " ++ path, e.message]⟩
  | .ok text =>
    match GeneratorOptions.ofText text with
    | .error e => .error ⟨["failed to parse config file: " ++ path, e.message]⟩
    | .ok o => .ok o

/-- Reads a model file. -/
def loadModel (disk : Disk) (path : String) : Except Failure ModelFile :=
  let within := Failure.within ("failed to load model: " ++ path)
  match disk.read path with
  | .error e => .error (within ⟨["failed to read model file " ++ path, e.message]⟩)
  | .ok text =>
    match ModelFile.ofText text with
    | .error e => .error (within ⟨["malformed model file " ++ path, e.message]⟩)
    | .ok m => .ok m

/-- What a run works on and leaves behind: the files, and the events so far. -/
structure World where
  disk : Disk
  events : List Event := []

/-- A run: it changes the world and may fail with a report. -/
abbrev Run := EStateM Failure World

namespace Run

/-- Records an event outside every span. -/
def note (origin : String) (level : Level) (message : String) (fields : List (String × FieldValue)) :
    Run Unit :=
  modify fun w => { w with events := w.events ++ [{ origin, level, message, fields }] }

/-- Fails unless a step succeeded. -/
def ofExcept (r : Except Failure α) : Run α :=
  match r with
  | .ok a => pure a
  | .error f => throw f

/-- Runs generation over a sink, keeping its events, and what `keep` takes from the sink it
leaves, whether generation succeeds or not. -/
def generating [Sink σ] (model : ModelFile) (options : GeneratorOptions) (sink : σ)
    (keep : σ → World → World) : Run (Summary × σ) := fun w =>
  match generate model options sink with
  | .ok s p => .ok (s, p.sink) (keep p.sink { w with events := w.events ++ p.events })
  | .error f p => .error f (keep p.sink { w with events := w.events ++ p.events })

end Run

/-- The options of a run: the configuration's, or the defaults, under the command line's. -/
def resolveOptions (a : Arguments) : Run GeneratorOptions := do
  let disk := (← get).disk
  match a.configPath? disk with
  | some path =>
    Run.note configOrigin .debug "loading configuration" [("config", .shown path)]
    let o ← Run.ofExcept (loadOptions disk path)
    pure (a.override o)
  | none => pure (a.override {})

/-- Runs the generator as the command line asks. -/
def Arguments.execute (a : Arguments) : Run Summary := do
  let options ← resolveOptions a
  let model ← Run.ofExcept (loadModel (← get).disk a.model)
  Run.note runOrigin .info "loaded model"
    [("rounds", .count model.rounds.length), ("targets", .count model.targetCount)]
  if a.dryRun then
    let (summary, sink) ← Run.generating model options ({} : MemorySink) fun _ w => w
    pure { summary with units := sink.names }
  else
    let start : OutputDirectory := { root := a.outDir, disk := (← get).disk }
    let (summary, out) ← Run.generating model options start fun out w => { w with disk := out.disk }
    match out.finish with
    | .error e => throw ⟨["failed to write manifest in " ++ a.outDir, e.message]⟩
    | .ok (disk, path) =>
      modify fun w => { w with disk }
      Run.note runOrigin .debug "wrote dependency manifest" [("manifest", .shown path)]
      pure { summary with units := out.entries.map (·.unit) }

end KotlinMocks.Cli

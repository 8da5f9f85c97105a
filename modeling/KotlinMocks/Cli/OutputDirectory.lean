import KotlinMocks.Disk.Basic
import KotlinMocks.Json.Write

/-!
# Units written to a directory

A unit of package `a.b` and name `N` is written to `a/b/N.kt` under the output root (to `N.kt`
in the root package), making the directories on the way. Beside the units the directory
keeps a manifest, `kmock-deps.json`, that says for every unit where it was written and which
source file it was generated from, so that a build tool regenerates only what a change
invalidates. The manifest lists units by qualified name in the order they were first written;
writing a unit again updates its entry in place.
-/

namespace KotlinMocks

/-- The path of a unit's file under the output root: the package with dots turned into
slashes, then the name with the `.kt` extension. -/
def GeneratedUnit.relativePath (u : GeneratedUnit) : String :=
  let file := u.name ++ ".kt"
  if u.package.isEmpty then file else u.package.map (fun c => if c = '.' then '/' else c) ++ "/" ++ file

/-- A unit of the root package is written at the root, under its name. -/
theorem GeneratedUnit.relativePath_of_root (u : GeneratedUnit) (h : u.package = "") :
    u.relativePath = u.name ++ ".kt" := by
  simp [GeneratedUnit.relativePath, h]

namespace Cli

/-- The file name of the manifest. -/
def manifestName : String := "kmock-deps.json"

/-- The origin of the output directory's events. -/
def outputOrigin : String := "kmock_cli::directory_sink"

/-- What the manifest says about one unit. -/
structure ManifestEntry where
  /-- The qualified name. -/
  unit : String
  /-- Where it was written, relative to the output root, with `/` between components. -/
  path : String
  /-- The source file it was generated from; none for shared units. -/
  origin : Option String
  deriving DecidableEq, Inhabited

/-- The entry's object in the manifest. -/
def ManifestEntry.toJson (e : ManifestEntry) : Json :=
  .object [("unit", .string e.unit), ("path", .string e.path),
    ("origin", match e.origin with | some o => .string o | none => .null)]

/-- Records an entry: one of the same unit keeps its place and takes the new entry. -/
def recordEntry (entries : List ManifestEntry) (e : ManifestEntry) : List ManifestEntry :=
  if entries.any (·.unit == e.unit) then entries.map fun old => if old.unit == e.unit then e else old
  else entries ++ [e]

/-- The manifest of a list of entries. -/
def manifestJson (entries : List ManifestEntry) : Json :=
  .object [("units", .array (entries.map ManifestEntry.toJson))]

/-- The manifest's text: pretty JSON and a final line break. -/
def manifestText (entries : List ManifestEntry) : String :=
  Json.pretty 0 (manifestJson entries) ++ "\n"

/-- An output directory being written: its root, the tree of files it is in, and the
manifest entries so far. -/
structure OutputDirectory where
  root : String
  disk : Disk
  entries : List ManifestEntry := []

namespace OutputDirectory

/-- Writes a unit's file, making the directories above it, and records its entry. -/
def write (s : OutputDirectory) (u : GeneratedUnit) : Delivery OutputDirectory :=
  let relative := u.relativePath
  let path := Disk.join s.root relative
  let withDirs : Except IoFailure Disk :=
    match Disk.parent? path with
    | some dir => s.disk.createDirAll dir
    | none => .ok s.disk
  match withDirs with
  | .error e => { sink := s, outcome := .error e }
  | .ok disk =>
    match disk.write path u.text with
    | .error e => { sink := { s with disk }, outcome := .error e }
    | .ok disk =>
      let origin := match u.dependency with
        | .origin file => some file
        | .session => none
      let wrote : Trace.Event :=
        { origin := outputOrigin, level := .trace, message := "wrote unit", fields := [("path", .shown path)] }
      { sink := { s with disk, entries := recordEntry s.entries ⟨u.qualifiedName, relative, origin⟩ },
        outcome := .ok (), events := [wrote] }

instance : Sink OutputDirectory := ⟨write⟩

/-- Writes the manifest into the root, making the root if needed; gives the tree after it
and the manifest's path. -/
def finish (s : OutputDirectory) : Except IoFailure (Disk × String) := do
  let disk ← s.disk.createDirAll s.root
  let path := Disk.join s.root manifestName
  let disk ← disk.write path (manifestText s.entries)
  pure (disk, path)

end OutputDirectory

end Cli

end KotlinMocks

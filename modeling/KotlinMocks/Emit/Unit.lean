import KotlinMocks.Trace.Event

/-!
# Generated units and where they go

A generation run produces units: named source texts in a package, each recording what it
was generated from, so that a build tool knows what to regenerate when a file changes. A
`Sink` receives the units one at a time and may refuse one. `MemorySink` keeps them by
qualified name in the order they arrived and refuses a second unit of the same name.
-/

namespace KotlinMocks

/-- What a unit must be regenerated for. -/
inductive Dependency where
  /-- A change of this source file. -/
  | origin (file : String)
  /-- Nothing in particular: shared code written once per session. -/
  | session
  deriving DecidableEq, Inhabited

/-- A generated source text. -/
structure GeneratedUnit where
  package : String
  /-- The unit's name, without extension. -/
  name : String
  dependency : Dependency
  text : String
  deriving DecidableEq, Inhabited

/-- `package.Name`, or just `Name` in the root package. -/
def GeneratedUnit.qualifiedName (u : GeneratedUnit) : String :=
  if u.package.isEmpty then u.name else u.package ++ "." ++ u.name

/-- The kinds of failure of a store of files. -/
inductive IoKind where
  | notFound
  | alreadyExists
  | notADirectory
  | isADirectory
  | permissionDenied
  | invalidInput
  | invalidFilename
  | other
  deriving DecidableEq, Inhabited

/-- The name of a kind of failure. -/
def IoKind.name : IoKind → String
  | .notFound => "NotFound"
  | .alreadyExists => "AlreadyExists"
  | .notADirectory => "NotADirectory"
  | .isADirectory => "IsADirectory"
  | .permissionDenied => "PermissionDenied"
  | .invalidInput => "InvalidInput"
  | .invalidFilename => "InvalidFilename"
  | .other => "Other"

/-- A failure to store something: its kind and the sentence that describes it. -/
structure IoFailure where
  kind : IoKind
  message : String
  deriving Inhabited

/-- What handing a unit to a sink did: the sink's new state, whether it took the unit, and
the events it reported meanwhile. -/
structure Delivery (σ : Type) where
  sink : σ
  outcome : Except IoFailure Unit
  events : List Trace.Event := []

/-- Where generated units go. -/
class Sink (σ : Type) where
  write : σ → GeneratedUnit → Delivery σ

/-- Units kept in memory by qualified name, in the order they were written. -/
structure MemorySink where
  units : List (String × GeneratedUnit) := []

namespace MemorySink

/-- The unit of a qualified name. -/
def get? (s : MemorySink) (qualified : String) : Option GeneratedUnit := s.units.lookup qualified

/-- The text of the unit of a qualified name. -/
def text? (s : MemorySink) (qualified : String) : Option String := (s.get? qualified).map (·.text)

/-- The qualified names, in the order they were written. -/
def names (s : MemorySink) : List String := s.units.map (·.1)

/-- How many units were written. -/
def size (s : MemorySink) : Nat := s.units.length

/-- Whether no unit was written. -/
def isEmpty (s : MemorySink) : Bool := s.units.isEmpty

/-- Keeps a unit, unless one of the same qualified name was written before. -/
def write (s : MemorySink) (u : GeneratedUnit) : Delivery MemorySink :=
  let key := u.qualifiedName
  if (s.get? key).isSome then
    { sink := s, outcome := .error ⟨.alreadyExists, "unit `" ++ key ++ "` was already written"⟩ }
  else { sink := { units := s.units ++ [(key, u)] }, outcome := .ok () }

instance : Sink MemorySink := ⟨write⟩

end MemorySink

/-- A memory sink that refuses one write attempt, counting from zero over every attempt, so
that what follows a refused unit can be watched. -/
structure FailingSink where
  memory : MemorySink := {}
  /-- Write attempts made so far. -/
  attempts : Nat := 0
  /-- The attempt that is refused. -/
  failAt : Nat

/-- Refuses the chosen attempt and hands every other one to the memory sink. -/
def FailingSink.write (s : FailingSink) (u : GeneratedUnit) : Delivery FailingSink :=
  if s.attempts = s.failAt then
    { sink := { s with attempts := s.attempts + 1 },
      outcome := .error ⟨.other, "write attempt refused"⟩ }
  else
    let d := s.memory.write u
    { sink := { s with memory := d.sink, attempts := s.attempts + 1 }, outcome := d.outcome }

instance : Sink FailingSink := ⟨FailingSink.write⟩

end KotlinMocks

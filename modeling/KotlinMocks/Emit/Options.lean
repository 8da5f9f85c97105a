import KotlinMocks.Model.Decode

/-!
# Generator options

What a generation run can be told: the package that receives the shared stub classes, the
annotation that selects targets, the suffix that names a mock, the indentation width, and the
inspections silenced on every mock. Every option has a default, so an empty object is a
complete configuration.
-/

namespace KotlinMocks

open Json

/-- The package of the shared stub classes unless configured otherwise. -/
def defaultRuntimePackage : String := "dev.kmock.runtime"

/-- The marker annotation unless configured otherwise. -/
def defaultMarker : String := "dev.kmock.runtime.Mocked"

/-- Inspections silenced on every generated mock: the generated code casts through erased
stub types and forwards deprecated members as they are. -/
def defaultSuppressions : List String :=
  ["USELESS_CAST", "RemoveRedundantQualifierName", "OVERRIDE_DEPRECATION", "UNCHECKED_CAST",
    "RemoveEmptyPrimaryConstructor", "unused", "PropertyName", "RedundantSuppression"]

/-- The settings of one generation run. -/
structure GeneratorOptions where
  /-- The package of the shared stub classes and support units. -/
  runtimePackage : String := defaultRuntimePackage
  /-- The qualified name of the annotation that selects targets. -/
  marker : String := defaultMarker
  /-- Appended to a target's simple name to name its mock. -/
  mockSuffix : String := "Mock"
  /-- Spaces per indentation level. -/
  indentWidth : Nat := 4
  /-- Inspections silenced on every mock. -/
  suppressions : List String := defaultSuppressions
  deriving DecidableEq, Inhabited

namespace GeneratorOptions

/-- The simple name of the mock generated for a target. -/
def mockClassName (o : GeneratorOptions) (targetName : String) : String :=
  targetName ++ o.mockSuffix

/-- Reads options; a missing field keeps its default. -/
def reader [Source m] : m GeneratorOptions :=
  readRecord "struct GeneratorOptions" {} [
    draftField "runtimePackage" false Source.string fun o v => { o with runtimePackage := v },
    draftField "markerAnnotation" false Source.string fun o v => { o with marker := v },
    draftField "mockSuffix" false Source.string fun o v => { o with mockSuffix := v },
    draftField "indentWidth" false Source.count fun o v => { o with indentWidth := v },
    draftField "suppressions" false (Source.list Source.string)
      fun o v => { o with suppressions := v }]

/-- Reads options from a JSON text. -/
def ofText (text : String) : Except Json.Error GeneratorOptions := readText reader text

/-- The options as JSON. -/
def toJson (o : GeneratorOptions) : Json :=
  .object [("runtimePackage", .string o.runtimePackage),
    ("markerAnnotation", .string o.marker), ("mockSuffix", .string o.mockSuffix),
    ("indentWidth", .ofNat o.indentWidth),
    ("suppressions", .array (o.suppressions.map Json.string))]

end GeneratorOptions

end KotlinMocks

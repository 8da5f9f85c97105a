import KotlinMocks.Model.Members

/-!
# Targets

A target is a type to generate a mock subtype for, with every function and property it
inherits. It is eligible when it carries the marker annotation, can be overridden, and is not
declared in a local scope. It is ready when nothing that generation would write mentions an
unresolved symbol.
-/

namespace KotlinMocks

/-- A type to mock. -/
structure TargetType where
  /-- The package; empty for the root package. -/
  package : String := ""
  simpleName : String
  qualifiedName : Option String := none
  typeParameters : List TypeParameter := []
  /-- Present for class-shaped targets, absent for interfaces. -/
  primaryConstructor : Option (List Parameter) := none
  modality : Modality := .final
  /-- Declared inside a function or another local scope. -/
  «local» : Bool := false
  /-- Qualified names of the annotations on the declaration. -/
  annotations : List String := []
  /-- The source file that defines the target, which generated code depends on. -/
  containingFile : Option String := none
  functions : List Function := []
  properties : List Property := []
  deriving DecidableEq, Inhabited

namespace TargetType

/-- An interface: abstract, named `package.simpleName` (or just `simpleName` in the root
package). -/
def «interface» (package simpleName : String) : TargetType :=
  { package, simpleName, modality := .«abstract»,
    qualifiedName := some (if package.isEmpty then simpleName else package ++ "." ++ simpleName) }

/-- An open class with a primary constructor. -/
def openClass (package simpleName : String) (constructor : List Parameter) : TargetType :=
  { TargetType.«interface» package simpleName with
    primaryConstructor := some constructor, modality := .«open» }

/-- The same target with one more annotation, after the others. -/
def annotated (t : TargetType) (name : String) : TargetType :=
  { t with annotations := t.annotations ++ [name] }

/-- The same target, defined in `file`. -/
def inFile (t : TargetType) (file : String) : TargetType := { t with containingFile := some file }

/-- The same target with other type parameters. -/
def withTypeParameters (t : TargetType) (ps : List TypeParameter) : TargetType :=
  { t with typeParameters := ps }

/-- The same target with one more function, after the others. -/
def withFunction (t : TargetType) (f : Function) : TargetType :=
  { t with functions := t.functions ++ [f] }

/-- The same target with one more property, after the others. -/
def withProperty (t : TargetType) (p : Property) : TargetType :=
  { t with properties := t.properties ++ [p] }

/-- The name used for the target in reports: its qualified name, else its simple name. -/
def displayName (t : TargetType) : String := t.qualifiedName.getD t.simpleName

/-- Class-shaped targets have a primary constructor the mock must call. -/
def isClassShaped (t : TargetType) : Bool := t.primaryConstructor.isSome

/-- Whether the target carries the annotation with this qualified name. -/
def carries (t : TargetType) (name : String) : Bool := t.annotations.contains name

/-- Selected for generation: marked, overridable and not locally scoped. -/
def isEligible (t : TargetType) (marker : String) : Bool :=
  t.carries marker && t.modality.isOverridable && !t.«local»

/-- The functions a mock overrides, in host order. -/
def overridableFunctions (t : TargetType) : List Function :=
  t.functions.filter (·.modality.isOverridable)

/-- The properties a mock overrides, in host order. -/
def overridableProperties (t : TargetType) : List Property :=
  t.properties.filter (·.modality.isOverridable)

/-- The unresolved names in what generation writes for one function: parameter types, the
return type, then the bounds of its own type parameters. -/
def functionUnresolved (f : Function) : List String :=
  unresolvedIn (f.parameters.map (·.type)) ++
    (match f.returnType with | some r => r.unresolvedNames | none => []) ++
    unresolvedIn (f.typeParameters.flatMap (·.bounds))

/-- The simple names of every unresolved symbol that generation would write, in the order it
meets them: type-parameter bounds, constructor parameters, then each overridable function,
then each overridable property. Empty means the target is ready. -/
def unresolvedReferences (t : TargetType) : List String :=
  unresolvedIn (t.typeParameters.flatMap (·.bounds)) ++
    unresolvedIn ((t.primaryConstructor.getD []).map (·.type)) ++
    t.overridableFunctions.flatMap functionUnresolved ++
    unresolvedIn (t.overridableProperties.map (·.type))

end TargetType

/-- The symbol model a host adapter writes: the targets resolved in each processing round. -/
structure ModelFile where
  rounds : List (List TargetType) := []
  deriving DecidableEq, Inhabited

/-- The number of targets over all rounds. -/
def ModelFile.targetCount (m : ModelFile) : Nat := (m.rounds.map List.length).foldl (· + ·) 0

end KotlinMocks

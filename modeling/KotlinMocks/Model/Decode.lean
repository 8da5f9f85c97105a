import KotlinMocks.Model.Target
import KotlinMocks.Json.TextSource
import KotlinMocks.Json.TreeSource

/-!
# Reading the symbol model

Decoders for every model type, written once against `Json.Source` and so usable on a JSON
text and on a tree. Keys are camel case, unknown keys are skipped, and a field with a default
may be left out. A generic argument names its kind in the member `kind` (`type` or `star`).

A record is read into a draft: the value built so far and the keys already seen. A key seen
twice is refused, and a required key never seen is reported, in declaration order, once the
record ends.
-/

namespace KotlinMocks

open Json

/-- A record being read: the value so far and the keys already read. -/
abbrev Draft (α : Type) := α × List String

/-- A field of a record draft: reading it stores the value with `store` and marks the key. -/
def draftField [Source m] (name : String) (required : Bool) (read : m γ) (store : α → γ → α) :
    Field m (Draft α) :=
  { name, required,
    present := fun d => d.2.contains name,
    read := fun d => (fun v => (store d.1 v, name :: d.2)) <$> read }

/-- Ends a draft: the first required key never read, in declaration order, is missing. -/
def finishDraft (required : List String) (d : Draft α) : Except Problem α :=
  match required.find? (fun n => !d.2.contains n) with
  | some n => .error (.missingField n)
  | none => .ok d.1

/-- Reads a record from a table of fields over a starting value. -/
def readRecord [Source m] (expecting : String) (start : α) (fields : List (Field m (Draft α))) : m α :=
  Source.record expecting fields (start, []) (finishDraft ((fields.filter (·.required)).map (·.name)))

/-- Reads a variance. -/
def Variance.reader [Source m] : m Variance :=
  Source.variant [("invariant", .invariant), ("covariant", .covariant), ("contravariant", .contravariant)]

/-- Reads a declaration kind. -/
def DeclarationKind.reader [Source m] : m DeclarationKind :=
  Source.variant [("class", .«class»), ("interface", .«interface»), ("object", .object),
    ("typeAlias", .typeAlias), ("typeParameter", .typeParameter), ("unresolved", .unresolved)]

/-- Reads a modality. -/
def Modality.reader [Source m] : m Modality :=
  Source.variant [("final", .final), ("open", .«open»), ("abstract", .«abstract»), ("sealed", .sealed)]

/-- Reads a declaration. -/
def Declaration.reader [Source m] : m Declaration :=
  readRecord "struct Declaration" { simpleName := "", kind := .«class» } [
    draftField "simpleName" true Source.string fun d v => { d with simpleName := v },
    draftField "qualifiedName" false (Source.optional Source.string)
      fun d v => { d with qualifiedName := v },
    draftField "kind" true DeclarationKind.reader fun d v => { d with kind := v }]

/-- The body of a `star` argument: an object with any members, or an empty array. -/
def starBody (content : Json) : Except Problem TypeArgument :=
  match content with
  | .array [] => .ok .star
  | .array items => .error (.invalidLength items.length "0 elements in sequence")
  | _ => .ok .star

/-- The body of a `type` argument, its type read by `inner`. -/
def typeBody (inner : TreeReader TypeReference) : TreeReader TypeArgument :=
  readRecord "struct variant TypeArgument::Type" (Projection.type .invariant default) [
    draftField "variance" false Variance.reader fun a v =>
      match a with
      | .type _ t => .type v t
      | .star => .type v default,
    draftField "type" true inner fun a t =>
      match a with
      | .type v _ => .type v t
      | .star => .type .invariant t]

/-- Reads a generic argument, whose type is read with `inner` from what follows the kind. -/
def TypeArgument.readerWith [Source m] (inner : TreeReader TypeReference) : m TypeArgument :=
  Source.tagged "kind" "internally tagged enum TypeArgument" ["type", "star"] fun index content =>
    match index with
    | 0 => readKept (typeBody inner) content
    | _ => starBody content

/-- A reader for type references nested deeper than any text may nest them. -/
def tooDeep : TreeReader TypeReference := fun _ _ => .error (.malformed .recursionLimitExceeded)

/-- Reads a type reference whose arguments' types are read by `inner`. -/
def referenceRecord [Source m] (inner : TreeReader TypeReference) : m TypeReference :=
  readRecord "struct TypeReference" (.mk { simpleName := "", kind := .«class» } false []) [
    draftField "declaration" true Declaration.reader fun t d => .mk d t.nullable t.arguments,
    draftField "nullable" false Source.bool fun t n => .mk t.declaration n t.arguments,
    draftField "arguments" false (Source.list (TypeArgument.readerWith inner))
      fun t args => .mk t.declaration t.nullable args]

/-- Reads a type reference whose arguments may nest `levels` deep. -/
def TypeReference.readerUpTo [Source m] : Nat → m TypeReference
  | 0 => referenceRecord tooDeep
  | n + 1 => referenceRecord (TypeReference.readerUpTo n)
  termination_by n => n

/-- Reads a type reference. -/
def TypeReference.reader [Source m] : m TypeReference := TypeReference.readerUpTo (nestingLimit + 1)

/-- Reads a type parameter. -/
def TypeParameter.reader [Source m] : m TypeParameter :=
  readRecord "struct TypeParameter" { name := "" } [
    draftField "name" true Source.string fun p v => { p with name := v },
    draftField "variance" false Variance.reader fun p v => { p with variance := v },
    draftField "bounds" false (Source.list TypeReference.reader) fun p v => { p with bounds := v }]

/-- Reads a parameter. -/
def Parameter.reader [Source m] : m Parameter :=
  readRecord "struct Parameter" { type := default } [
    draftField "name" false (Source.optional Source.string) fun p v => { p with name := v },
    draftField "type" true TypeReference.reader fun p v => { p with type := v }]

/-- Reads a function. -/
def Function.reader [Source m] : m Function :=
  readRecord "struct Function" { name := "" } [
    draftField "name" true Source.string fun f v => { f with name := v },
    draftField "parameters" false (Source.list Parameter.reader) fun f v => { f with parameters := v },
    draftField "returnType" false (Source.optional TypeReference.reader)
      fun f v => { f with returnType := v },
    draftField "typeParameters" false (Source.list TypeParameter.reader)
      fun f v => { f with typeParameters := v },
    draftField "modality" false Modality.reader fun f v => { f with modality := v },
    draftField "suspend" false Source.bool fun f v => { f with suspend := v }]

/-- Reads a property. -/
def Property.reader [Source m] : m Property :=
  readRecord "struct Property" { name := "", type := default } [
    draftField "name" true Source.string fun p v => { p with name := v },
    draftField "type" true TypeReference.reader fun p v => { p with type := v },
    draftField "mutable" false Source.bool fun p v => { p with mutable := v },
    draftField "modality" false Modality.reader fun p v => { p with modality := v }]

/-- Reads a target. -/
def TargetType.reader [Source m] : m TargetType :=
  readRecord "struct TargetType" { simpleName := "" } [
    draftField "package" false Source.string fun t v => { t with package := v },
    draftField "simpleName" true Source.string fun t v => { t with simpleName := v },
    draftField "qualifiedName" false (Source.optional Source.string)
      fun t v => { t with qualifiedName := v },
    draftField "typeParameters" false (Source.list TypeParameter.reader)
      fun t v => { t with typeParameters := v },
    draftField "primaryConstructor" false (Source.optional (Source.list Parameter.reader))
      fun t v => { t with primaryConstructor := v },
    draftField "modality" false Modality.reader fun t v => { t with modality := v },
    draftField "local" false Source.bool fun t v => { t with «local» := v },
    draftField "annotations" false (Source.list Source.string) fun t v => { t with annotations := v },
    draftField "containingFile" false (Source.optional Source.string)
      fun t v => { t with containingFile := v },
    draftField "functions" false (Source.list Function.reader) fun t v => { t with functions := v },
    draftField "properties" false (Source.list Property.reader) fun t v => { t with properties := v }]

/-- Reads a model file. -/
def ModelFile.reader [Source m] : m ModelFile :=
  readRecord "struct ModelFile" {} [
    draftField "rounds" false (Source.list (Source.list TargetType.reader))
      fun f v => { f with rounds := v }]

/-- Reads a model file from its JSON text. -/
def ModelFile.ofText (text : String) : Except Json.Error ModelFile := readText ModelFile.reader text

end KotlinMocks

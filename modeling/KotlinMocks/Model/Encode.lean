import KotlinMocks.Model.Target
import KotlinMocks.Json.Value

/-!
# Writing the symbol model

Every model value as a JSON tree, in the shape the decoders read back: keys are camel case
and come in declaration order, an absent optional value is `null`, and the words of an
enumeration are written as they are read.
-/

namespace KotlinMocks

open Json

/-- A string, or `null`. -/
def optionalString : Option String → Json
  | some s => .string s
  | none => .null

/-- The word for a variance. -/
def Variance.word : Variance → String
  | .invariant => "invariant"
  | .covariant => "covariant"
  | .contravariant => "contravariant"

/-- The word for a declaration kind. -/
def DeclarationKind.word : DeclarationKind → String
  | .«class» => "class"
  | .«interface» => "interface"
  | .object => "object"
  | .typeAlias => "typeAlias"
  | .typeParameter => "typeParameter"
  | .unresolved => "unresolved"

/-- The word for a modality. -/
def Modality.word : Modality → String
  | .final => "final"
  | .«open» => "open"
  | .«abstract» => "abstract"
  | .sealed => "sealed"

/-- A declaration as JSON. -/
def Declaration.toJson (d : Declaration) : Json :=
  .object [("simpleName", .string d.simpleName), ("qualifiedName", optionalString d.qualifiedName),
    ("kind", .string d.kind.word)]

mutual
/-- A type reference as JSON. -/
def TypeReference.toJson : TypeReference → Json
  | .mk d n args =>
    .object [("declaration", d.toJson), ("nullable", .bool n),
      ("arguments", .array (TypeReference.argumentsJson args))]

/-- Generic arguments as JSON, in order. -/
def TypeReference.argumentsJson : List TypeArgument → List Json
  | [] => []
  | a :: rest => TypeReference.argumentJson a :: TypeReference.argumentsJson rest

/-- A generic argument as JSON, its kind named by the member `kind`. -/
def TypeReference.argumentJson : TypeArgument → Json
  | .type v t =>
    .object [("kind", .string "type"), ("variance", .string v.word), ("type", t.toJson)]
  | .star => .object [("kind", .string "star")]
end

/-- A type parameter as JSON. -/
def TypeParameter.toJson (p : TypeParameter) : Json :=
  .object [("name", .string p.name), ("variance", .string p.variance.word),
    ("bounds", .array (p.bounds.map TypeReference.toJson))]

/-- A parameter as JSON. -/
def Parameter.toJson (p : Parameter) : Json :=
  .object [("name", optionalString p.name), ("type", p.type.toJson)]

/-- A function as JSON. -/
def Function.toJson (f : Function) : Json :=
  .object [("name", .string f.name), ("parameters", .array (f.parameters.map Parameter.toJson)),
    ("returnType", match f.returnType with
      | some t => t.toJson
      | none => .null),
    ("typeParameters", .array (f.typeParameters.map TypeParameter.toJson)),
    ("modality", .string f.modality.word), ("suspend", .bool f.suspend)]

/-- A property as JSON. -/
def Property.toJson (p : Property) : Json :=
  .object [("name", .string p.name), ("type", p.type.toJson), ("mutable", .bool p.mutable),
    ("modality", .string p.modality.word)]

/-- A target as JSON. -/
def TargetType.toJson (t : TargetType) : Json :=
  .object [("package", .string t.package), ("simpleName", .string t.simpleName),
    ("qualifiedName", optionalString t.qualifiedName),
    ("typeParameters", .array (t.typeParameters.map TypeParameter.toJson)),
    ("primaryConstructor", match t.primaryConstructor with
      | some ps => .array (ps.map Parameter.toJson)
      | none => .null),
    ("modality", .string t.modality.word), ("local", .bool t.«local»),
    ("annotations", .array (t.annotations.map Json.string)),
    ("containingFile", optionalString t.containingFile),
    ("functions", .array (t.functions.map Function.toJson)),
    ("properties", .array (t.properties.map Property.toJson))]

/-- A model file as JSON. -/
def ModelFile.toJson (m : ModelFile) : Json :=
  .object [("rounds", .array (m.rounds.map fun round => .array (round.map TargetType.toJson)))]

end KotlinMocks

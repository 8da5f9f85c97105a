/-!
# Type occurrences

What the host's symbol resolution reports for each place a type is written: a parameter type,
a return type, a bound, a generic argument. A `TypeReference` names its declaration, may be
nullable, and carries generic arguments, each a type with a variance or a star projection.
A declaration the host could not resolve yet has kind `unresolved`; a target that mentions
one is held back until a later round resolves it.
-/

namespace KotlinMocks

/-- Declaration-site or use-site variance. -/
inductive Variance where
  | invariant
  /-- Written `out`. -/
  | covariant
  /-- Written `in`. -/
  | contravariant
  deriving DecidableEq, Repr, Inhabited

/-- The keyword written before a type parameter or argument of this variance. -/
def Variance.keyword? : Variance → Option String
  | .invariant => none
  | .covariant => some "out"
  | .contravariant => some "in"

/-- What a type reference points at. -/
inductive DeclarationKind where
  | «class»
  | «interface»
  | object
  | typeAlias
  | typeParameter
  /-- A symbol the host could not resolve in the current round. -/
  | unresolved
  deriving DecidableEq, Repr, Inhabited

/-- Classes, interfaces, objects and type aliases are referred to by their qualified name. -/
def DeclarationKind.isNamed : DeclarationKind → Bool
  | .«class» | .«interface» | .object | .typeAlias => true
  | .typeParameter | .unresolved => false

/-- The declaration a type reference points at. -/
structure Declaration where
  simpleName : String
  qualifiedName : Option String := none
  kind : DeclarationKind
  deriving DecidableEq, Repr, Inhabited

/-- The name written for a declaration: its qualified name when it is a named declaration
that has one, its simple name otherwise. -/
def Declaration.displayName (d : Declaration) : String :=
  match d.kind.isNamed, d.qualifiedName with
  | true, some q => q
  | _, _ => d.simpleName

/-- One generic argument of a type occurrence, over the type of occurrences `α`. -/
inductive Projection (α : Type) where
  /-- A type, with the variance written before it. -/
  | type (variance : Variance) (reference : α)
  /-- A star projection, as in `List<*>`. -/
  | star
  deriving DecidableEq, Repr

/-- A written occurrence of a type. -/
inductive TypeReference where
  | mk (declaration : Declaration) (nullable : Bool) (arguments : List (Projection TypeReference))

mutual
/-- Equality of type references is decidable, field by field. -/
def TypeReference.decEq : (a b : TypeReference) → Decidable (a = b)
  | .mk d₁ n₁ a₁, .mk d₂ n₂ a₂ =>
    if hd : d₁ = d₂ then
      if hn : n₁ = n₂ then
        match TypeReference.decEqArguments a₁ a₂ with
        | isTrue ha => isTrue (by subst hd hn ha; rfl)
        | isFalse ha => isFalse (by intro h; injection h; contradiction)
      else isFalse (by intro h; injection h; contradiction)
    else isFalse (by intro h; injection h; contradiction)

/-- Equality of argument lists is decidable, element by element. -/
def TypeReference.decEqArguments :
    (a b : List (Projection TypeReference)) → Decidable (a = b)
  | [], [] => isTrue rfl
  | [], _ :: _ => isFalse (by intro h; cases h)
  | _ :: _, [] => isFalse (by intro h; cases h)
  | x :: xs, y :: ys =>
    match TypeReference.decEqProjection x y, TypeReference.decEqArguments xs ys with
    | isTrue hx, isTrue hxs => isTrue (by subst hx hxs; rfl)
    | isFalse hx, _ => isFalse (by intro h; injection h; contradiction)
    | _, isFalse hxs => isFalse (by intro h; injection h; contradiction)

/-- Equality of generic arguments is decidable. -/
def TypeReference.decEqProjection : (a b : Projection TypeReference) → Decidable (a = b)
  | .star, .star => isTrue rfl
  | .star, .type _ _ => isFalse (by intro h; cases h)
  | .type _ _, .star => isFalse (by intro h; cases h)
  | .type v₁ r₁, .type v₂ r₂ =>
    if hv : v₁ = v₂ then
      match TypeReference.decEq r₁ r₂ with
      | isTrue hr => isTrue (by subst hv hr; rfl)
      | isFalse hr => isFalse (by intro h; injection h; contradiction)
    else isFalse (by intro h; injection h; contradiction)
end

instance : DecidableEq TypeReference := TypeReference.decEq

/-- One generic argument of a type reference. -/
abbrev TypeArgument := Projection TypeReference

instance : Inhabited TypeReference := ⟨.mk default false []⟩

/-- The qualified name of the canonical empty type; functions returning it are void. -/
def unitQualifiedName : String := "kotlin.Unit"

namespace TypeReference

/-- The declaration referred to. -/
def declaration : TypeReference → Declaration
  | .mk d _ _ => d

/-- Whether the occurrence is nullable. -/
def nullable : TypeReference → Bool
  | .mk _ n _ => n

/-- The generic arguments. -/
def arguments : TypeReference → List TypeArgument
  | .mk _ _ args => args

/-- The simple name of the declaration referred to. -/
def simpleName (t : TypeReference) : String := t.declaration.simpleName

/-- Whether this is the canonical empty type, whatever kind of declaration it claims. -/
def isUnit (t : TypeReference) : Bool := t.declaration.qualifiedName == some unitQualifiedName

/-- The text after the last dot of a qualified name (all of it when there is no dot). -/
def lastSegment (qualified : String) : String :=
  String.ofList (qualified.toList.reverse.takeWhile (· ≠ '.')).reverse

/-- A reference to a class by qualified name; its simple name is the last segment. -/
def ofClass (qualified : String) : TypeReference :=
  .mk { simpleName := lastSegment qualified, qualifiedName := some qualified, kind := .«class» }
    false []

/-- A reference to a generic parameter in scope. -/
def parameter (name : String) : TypeReference :=
  .mk { simpleName := name, kind := .typeParameter } false []

/-- A placeholder for a symbol the host has not resolved yet. -/
def unresolved (name : String) : TypeReference :=
  .mk { simpleName := name, kind := .unresolved } false []

/-- The canonical empty type. -/
def unit : TypeReference := ofClass unitQualifiedName

/-- The same reference, nullable. -/
def asNullable : TypeReference → TypeReference
  | .mk d _ args => .mk d true args

/-- The same reference with other generic arguments. -/
def withArguments (args : List TypeArgument) : TypeReference → TypeReference
  | .mk d n _ => .mk d n args

mutual
/-- The simple names of every unresolved declaration in a reference, outermost first, at any
depth of type arguments (star projections hold none). -/
def unresolvedNames : TypeReference → List String
  | .mk d _ args =>
    (if d.kind = .unresolved then [d.simpleName] else []) ++ argumentsUnresolved args

/-- The unresolved names in a list of generic arguments, in order. -/
def argumentsUnresolved : List TypeArgument → List String
  | [] => []
  | .star :: rest => argumentsUnresolved rest
  | .type _ t :: rest => unresolvedNames t ++ argumentsUnresolved rest
end

end TypeReference

/-- The unresolved names in a list of references, in order. -/
def unresolvedIn (ts : List TypeReference) : List String := ts.flatMap TypeReference.unresolvedNames

/-- A generic parameter introduced by a type or a function. -/
structure TypeParameter where
  name : String
  variance : Variance := .invariant
  bounds : List TypeReference := []
  deriving DecidableEq, Inhabited

/-- A type parameter without variance or bounds. -/
def TypeParameter.named (name : String) : TypeParameter := { name }

/-- The same parameter with another variance. -/
def TypeParameter.withVariance (p : TypeParameter) (v : Variance) : TypeParameter :=
  { p with variance := v }

/-- The same parameter with one more bound, after the others. -/
def TypeParameter.withBound (p : TypeParameter) (b : TypeReference) : TypeParameter :=
  { p with bounds := p.bounds ++ [b] }

end KotlinMocks

import KotlinMocks.Model.Types

/-!
# Members of a target

Functions and properties a mock may override, with the parameters they forward. Only open and
abstract members can be overridden; final and sealed ones are left alone.
-/

namespace KotlinMocks

/-- Whether and how a declaration may be overridden. -/
inductive Modality where
  | final
  | «open»
  | «abstract»
  | sealed
  deriving DecidableEq, Repr, Inhabited

/-- Open and abstract declarations can be overridden by a subtype. -/
def Modality.isOverridable : Modality → Bool
  | .«open» | .«abstract» => true
  | .final | .sealed => false

/-- A value parameter. The name is absent only in malformed input, which generation refuses. -/
structure Parameter where
  name : Option String := none
  type : TypeReference
  deriving DecidableEq, Inhabited

/-- A named parameter. -/
def Parameter.named (name : String) (type : TypeReference) : Parameter := { name := some name, type }

/-- A member function. -/
structure Function where
  name : String
  parameters : List Parameter := []
  /-- Always resolved for real members; a missing one is refused when the function is planned. -/
  returnType : Option TypeReference := none
  /-- Generics introduced by the function itself. -/
  typeParameters : List TypeParameter := []
  modality : Modality := .final
  suspend : Bool := false
  deriving DecidableEq, Inhabited

namespace Function

/-- An open function: the usual shape of a member to mock. -/
def «open» (name : String) (parameters : List Parameter) (returnType : TypeReference) : Function :=
  { name, parameters, returnType := some returnType, modality := .«open» }

/-- The same function with other type parameters. -/
def withTypeParameters (f : Function) (ps : List TypeParameter) : Function :=
  { f with typeParameters := ps }

/-- The same function with another modality. -/
def withModality (f : Function) (m : Modality) : Function := { f with modality := m }

/-- The same function, suspending. -/
def suspending (f : Function) : Function := { f with suspend := true }

/-- The number of value parameters. -/
def arity (f : Function) : Nat := f.parameters.length

end Function

/-- A member property. -/
structure Property where
  name : String
  type : TypeReference
  mutable : Bool := false
  modality : Modality := .final
  deriving DecidableEq, Inhabited

/-- An open property. -/
def Property.«open» (name : String) (type : TypeReference) (mutable : Bool) : Property :=
  { name, type, mutable, modality := .«open» }

end KotlinMocks

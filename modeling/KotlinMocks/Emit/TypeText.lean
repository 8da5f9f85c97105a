import KotlinMocks.Model.Members

/-!
# Type text

How a type occurrence is written in generated source. A function's own generic parameters
cannot be named outside the function, so where they would escape they are erased: the erased
parameter itself is written `Any?`, and a generic argument with an erased parameter anywhere
inside it becomes a star projection `*` as a whole, since a projection cannot be partly
specified.
-/

namespace KotlinMocks

/-- The generic parameters whose names must not be written. -/
structure Erasure where
  names : List String := []

namespace Erasure

/-- Nothing is erased. -/
def none : Erasure := {}

/-- The generic parameters a function introduces are erased. -/
def ofFunction (f : Function) : Erasure := ⟨f.typeParameters.map (·.name)⟩

/-- Whether nothing is erased. -/
def isEmpty (e : Erasure) : Bool := e.names.isEmpty

/-- Whether a reference is an erased generic parameter. -/
def erases (e : Erasure) (t : TypeReference) : Bool :=
  t.declaration.kind == .typeParameter && e.names.contains t.simpleName

end Erasure

/-- Generic arguments between angle brackets, or nothing when there are none. -/
def angled (items : List String) : String :=
  if items.isEmpty then "" else "<" ++ ", ".intercalate items ++ ">"

/-- The text of a reference: its name, its arguments and its nullability mark. -/
def referenceText (d : Declaration) (nullable : Bool) (arguments : List String) : String :=
  d.displayName ++ angled arguments ++ (if nullable then "?" else "")

mutual
/-- The text of a reference inside a generic argument; `none` when something in it is
erased. -/
def TypeReference.nestedText? (e : Erasure) : TypeReference → Option String
  | t@(.mk d n args) =>
    if e.erases t then none
    else (TypeReference.argumentsText? e args).map (referenceText d n)

/-- The texts of generic arguments; `none` when one of them has something erased. -/
def TypeReference.argumentsText? (e : Erasure) : List TypeArgument → Option (List String)
  | [] => some []
  | a :: rest =>
    match TypeReference.argumentText? e a, TypeReference.argumentsText? e rest with
    | some x, some xs => some (x :: xs)
    | _, _ => none

/-- The text of one generic argument, with its variance keyword; `none` when something in
it is erased. -/
def TypeReference.argumentText? (e : Erasure) : TypeArgument → Option String
  | .star => some "*"
  | .type v t =>
    (TypeReference.nestedText? e t).map fun text =>
      match v.keyword? with
      | some k => k ++ " " ++ text
      | none => text
end

/-- The text of a type occurrence: an erased parameter is `Any?`, and each argument that
has something erased is `*`. -/
def TypeReference.render (e : Erasure) (t : TypeReference) : String :=
  if e.erases t then "Any?"
  else referenceText t.declaration t.nullable
    (t.arguments.map fun a => (TypeReference.argumentText? e a).getD "*")

/-- `<A, B>`: the names of generic parameters, or nothing when there are none. -/
def parameterNames (ps : List TypeParameter) : String := angled (ps.map (·.name))

/-- `<out A, in B, C>`: generic parameters with their declared variance. -/
def parametersWithVariance (ps : List TypeParameter) : String :=
  angled (ps.map fun p =>
    match p.variance.keyword? with
    | some k => k ++ " " ++ p.name
    | none => p.name)

/-- `<T : Bound>`: a function's generic parameters; one with a single bound has it inline,
the others are written bare and bounded in the `where` clause. -/
def functionParameters (ps : List TypeParameter) : String :=
  angled (ps.map fun p =>
    match p.bounds with
    | [b] => p.name ++ " : " ++ b.render .none
    | _ => p.name)

/-- The body of a `where` clause, one entry per bound; `none` when nothing is bounded. -/
def whereClause (ps : List TypeParameter) : Option String :=
  match ps.flatMap fun p => p.bounds.map fun b => p.name ++ " : " ++ b.render .none with
  | [] => none
  | entries => some (", ".intercalate entries)

/-- The `where` clause of a function: only the parameters with more than one bound. -/
def functionWhereClause (ps : List TypeParameter) : Option String :=
  whereClause (ps.filter fun p => p.bounds.length > 1)

end KotlinMocks

import KotlinMocks.Model.Target
import KotlinMocks.Emit.Failure
import KotlinMocks.Text.Case
import KotlinMocks.Decimal.Shortest

/-!
# Member plans

Which stub field each overridable member of a target gets. A function gets one field, named
after it; overloads are told apart by the simple type names of their parameters
(`save_User_Boolean`). A property gets a getter field `getName` and, when it is mutable, a
setter field `setName`. Field names are unique within a mock: a name already taken gets the
first free ordinal, `_2`, `_3` and so on.

Every field is a stub of some shape, its number of arguments and whether it answers a value.
-/

namespace KotlinMocks

/-- The shape of a stub: how many arguments it takes and whether it answers a value. -/
structure StubKind where
  arity : Nat
  returnsValue : Bool
  deriving DecidableEq, Inhabited

namespace StubKind

/-- The shape of a property getter. -/
def getter : StubKind := ⟨0, true⟩

/-- The shape of a property setter. -/
def setter : StubKind := ⟨1, false⟩

/-- `Mock<arity><0|1>`, such as `Mock21` for two arguments and a value. -/
def className (k : StubKind) : String :=
  "Mock" ++ Decimal.digitsOf k.arity ++ (if k.returnsValue then "1" else "0")

/-- Shapes are ordered by arity, then with the void shape first; this key numbers them in
that order. -/
def key (k : StubKind) : Nat := 2 * k.arity + (if k.returnsValue then 1 else 0)

end StubKind

/-- What one overridable member becomes. -/
inductive MemberPlan where
  | function (f : Function) (field : String) (kind : StubKind)
  | property (p : Property) (getter : String) (setter : Option String)

namespace MemberPlan

/-- The shapes of the member's stubs, in field order. -/
def stubKinds : MemberPlan → List StubKind
  | .function _ _ kind => [kind]
  | .property _ _ none => [StubKind.getter]
  | .property _ _ (some _) => [StubKind.getter, StubKind.setter]

/-- The member's field names, in order. -/
def fieldNames : MemberPlan → List String
  | .function _ field _ => [field]
  | .property _ getter none => [getter]
  | .property _ getter (some setter) => [getter, setter]

end MemberPlan

/-- A function's name followed by `_Type` for each parameter's simple type name. -/
def Function.overloadName (f : Function) : String :=
  f.name ++ String.join (f.parameters.map fun p => "_" ++ p.type.simpleName)

/-- Field names for functions, before uniqueness is enforced: a name that more than one of
them shares gets its parameters' type names; the others keep their own. -/
def disambiguate (fs : List Function) : List String :=
  fs.map fun f => if fs.countP (·.name == f.name) > 1 then f.overloadName else f.name

/-- The first of `candidate_<ordinal>`, `candidate_<ordinal+1>`, … not in `taken`, looking at
most `fuel` names ahead. -/
def firstFreeOrdinal (taken : List String) (candidate : String) : Nat → Nat → String
  | 0, ordinal => candidate ++ "_" ++ Decimal.digitsOf ordinal
  | fuel + 1, ordinal =>
    let next := candidate ++ "_" ++ Decimal.digitsOf ordinal
    if taken.contains next then firstFreeOrdinal taken candidate fuel (ordinal + 1) else next

/-- `candidate` when it is free, else its first free ordinal from `_2`; among
`taken.length + 1` names one is free, so that many tries always find it. -/
def claim (taken : List String) (candidate : String) : String :=
  if taken.contains candidate then firstFreeOrdinal taken candidate (taken.length + 1) 2
  else candidate

/-- Plans for functions with their field names, claiming each name in turn. A function
without a return type cannot be planned. -/
def planFunctions (target : String) :
    List (Function × String) → List String → Except GenerateError (List MemberPlan × List String)
  | [], taken => .ok ([], taken)
  | (f, field) :: rest, taken =>
    match f.returnType with
    | none => .error (.missingReturnType target f.name)
    | some r =>
      let claimed := claim taken field
      match planFunctions target rest (claimed :: taken) with
      | .error e => .error e
      | .ok (plans, taken') =>
        .ok (.function f claimed ⟨f.arity, !r.isUnit⟩ :: plans, taken')

/-- Plans for properties, claiming a getter and, for a mutable one, a setter. -/
def planProperties : List Property → List String → List MemberPlan
  | [], _ => []
  | p :: rest, taken =>
    let name := Text.capitalize p.name
    let getter := claim taken ("get" ++ name)
    let taken := getter :: taken
    if p.mutable then
      let setter := claim taken ("set" ++ name)
      .property p getter (some setter) :: planProperties rest (setter :: taken)
    else .property p getter none :: planProperties rest taken

/-- The plans of a target's overridable members: functions first, then properties, each in
declaration order. -/
def planMembers (t : TargetType) : Except GenerateError (List MemberPlan) :=
  let functions := t.overridableFunctions
  match planFunctions t.displayName (functions.zip (disambiguate functions)) [] with
  | .error e => .error e
  | .ok (plans, taken) => .ok (plans ++ planProperties t.overridableProperties taken)

end KotlinMocks

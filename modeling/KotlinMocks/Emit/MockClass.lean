import KotlinMocks.Emit.Primitive
import KotlinMocks.Emit.Options

/-!
# The mock class

The subtype generated for a target. It holds a nested interface `Mock` with one stub field
per planned member (the control surface), an object `mock` implementing it, an override of
every planned member that forwards to its stub, and the helpers `resetMocks`, `relaxMocks`
and `setMocks`. Writing cannot fail: everything that could is checked when the mock class is
made.
-/

namespace KotlinMocks

/-- A target checked for writing, with its member plans. -/
structure MockClass where
  target : TargetType
  qualifiedName : String
  plans : List MemberPlan
  options : GeneratorOptions
  className : String

/-- The name of a parameter, empty when it has none. -/
def Parameter.nameText (p : Parameter) : String := p.name.getD ""

/-- Refuses a list of parameters of `member` when one of them has no name. -/
def checkNamed (target : TargetType) (member : String) (ps : List Parameter) :
    Except GenerateError Unit :=
  if ps.any (·.name.isNone) then .error (.unnamedParameter target.displayName member) else .ok ()

/-- The return type text of a function; a function without one returns the empty type. -/
def Function.returnText (f : Function) (e : Erasure) : String :=
  match f.returnType with
  | some t => t.render e
  | none => unitQualifiedName

/-- The stub type of a planned function, such as `Mock21<A, B, R>`, with the function's own
generic parameters erased. -/
def functionStubType (f : Function) (kind : StubKind) : String :=
  let e := Erasure.ofFunction f
  let arguments := f.parameters.map (·.type.render e) ++
    (if kind.returnsValue then [f.returnText e] else [])
  kind.className ++ angled arguments

namespace MockClass

/-- Checks a target for writing: it needs a qualified name, and every parameter that is
forwarded (of the constructor and of the planned functions) needs a name. -/
def make (target : TargetType) (plans : List MemberPlan) (options : GeneratorOptions) :
    Except GenerateError MockClass := do
  let some qualifiedName := target.qualifiedName
    | .error (.missingQualifiedName target.simpleName)
  if let some ctor := target.primaryConstructor then
    checkNamed target "constructor" ctor
  for plan in plans do
    if let .function f _ _ := plan then
      checkNamed target f.name f.parameters
  pure { target, qualifiedName, plans, options, className := options.mockClassName target.simpleName }

/-- The package line, the import of the runtime package and the suppressions. -/
def writePreamble (m : MockClass) (w : Layout) : Layout :=
  let runtime := m.options.runtimePackage
  let w := if m.target.package.isEmpty then w else (w.line ("package " ++ m.target.package)).blankLine
  let w := if runtime.isEmpty || runtime == m.target.package then w
    else (w.line ("import " ++ runtime ++ ".*")).blankLine
  if m.options.suppressions.isEmpty then w
  else w.line ("@Suppress(" ++ ", ".intercalate (m.options.suppressions.map fun s => "\"" ++ s ++ "\"") ++ ")")

/-- `class FooMock<out T>(a: A) : pkg.Foo<T>(a) where T : B`, without the brace. -/
def classHeader (m : MockClass) : String :=
  let params := m.target.typeParameters
  let supertype := m.qualifiedName ++ parameterNames params
  let head := "class " ++ m.className ++ parametersWithVariance params
  let head := match m.target.primaryConstructor with
    | some ctor =>
      let declared := ctor.map fun p => p.nameText ++ ": " ++ p.type.render .none
      head ++ "(" ++ ", ".intercalate declared ++ ") : " ++ supertype ++ "(" ++
        ", ".intercalate (ctor.map (·.nameText)) ++ ")"
    | none => head ++ " : " ++ supertype
  match whereClause params with
  | some clause => head ++ " where " ++ clause
  | none => head

/-- The stub fields with their types, in field order. -/
def stubFields (m : MockClass) : List (String × String) :=
  m.plans.flatMap fun
    | .function f field kind => [(field, functionStubType f kind)]
    | .property p getter setter =>
      let ty := p.type.render .none
      (getter, StubKind.getter.className ++ "<" ++ ty ++ ">") ::
        match setter with
        | some s => [(s, StubKind.setter.className ++ "<" ++ ty ++ ">")]
        | none => []

/-- The fields that relaxing gives a do-nothing behaviour: void functions and setters. -/
def relaxedFields (m : MockClass) : List String :=
  m.plans.flatMap fun
    | .function _ field kind => if kind.returnsValue then [] else [field]
    | .property _ _ setter => setter.toList

/-- `Mock<T>`: the control surface type. -/
def controlSurfaceType (m : MockClass) : String := "Mock" ++ parameterNames m.target.typeParameters

/-- The nested interface with one stub field per planned member. -/
def writeControlSurface (m : MockClass) (w : Layout) : Layout :=
  let params := m.target.typeParameters
  let header := "interface Mock" ++ parametersWithVariance params
  let header := match whereClause params with
    | some clause => header ++ " where " ++ clause
    | none => header
  w.block header fun w => w.lines (m.stubFields.map fun (field, ty) => "val " ++ field ++ ": " ++ ty)

/-- The override of a planned function, forwarding to its stub. -/
def functionOverride (f : Function) (field : String) (kind : StubKind) : String :=
  let returnType := f.returnText .none
  let generics := functionParameters f.typeParameters
  let declared := f.parameters.map fun p => p.nameText ++ ": " ++ p.type.render .none
  let text := "override " ++ (if f.suspend then "suspend " else "") ++ "fun " ++
    (if generics.isEmpty then "" else generics ++ " ") ++
    f.name ++ "(" ++ ", ".intercalate declared ++ "): " ++ returnType
  let text := match functionWhereClause f.typeParameters with
    | some clause => text ++ " where " ++ clause
    | none => text
  let text := text ++ " = mock." ++ field ++ ".call(" ++
    ", ".intercalate (f.parameters.map (·.nameText)) ++ ")"
  if kind.returnsValue then text ++ " as " ++ returnType else text

/-- The override of a planned property, forwarding its accessors to their stubs. -/
def writePropertyOverride (p : Property) (getter : String) (setter : Option String) (w : Layout) :
    Layout :=
  let keyword := if setter.isSome then "var" else "val"
  let w := w.line ("override " ++ keyword ++ " " ++ p.name ++ ": " ++ p.type.render .none)
  w.indented fun w =>
    let w := w.line ("get() = mock." ++ getter ++ ".call()")
    match setter with
    | some s => w.line ("set(value) = mock." ++ s ++ ".call(value)")
    | none => w

/-- The object holding the live stubs, then every member's override. -/
def writeOverrides (m : MockClass) (w : Layout) : Layout :=
  let w := w.block ("val mock = object : " ++ m.controlSurfaceType) fun w =>
    w.lines (m.stubFields.map fun (field, ty) => "override val " ++ field ++ " = " ++ ty ++ "()")
  m.plans.foldl (fun w plan =>
    let w := w.blankLine
    match plan with
    | .function f field kind => w.line (functionOverride f field kind)
    | .property p getter setter => writePropertyOverride p getter setter w) w

/-- `resetMocks`, `relaxMocks` and `setMocks`. -/
def writeLifecycleHelpers (m : MockClass) (w : Layout) : Layout :=
  let w := w.block "fun resetMocks()" fun w =>
    w.lines (m.plans.flatMap fun plan => plan.fieldNames.map fun f => "mock." ++ f ++ ".reset()")
  let w := w.blankLine.block "fun relaxMocks()" fun w =>
    w.lines (m.relaxedFields.map fun f => "mock." ++ f ++ ".doesNothing()")
  w.blankLine.block ("infix fun setMocks(block: " ++ m.controlSurfaceType ++ ".() -> Unit)") fun w =>
    w.line "mock.apply(block)"

/-- The whole class body: control surface, overrides and helpers, a blank line apart. -/
def writeBody (m : MockClass) (w : Layout) : Layout :=
  m.writeLifecycleHelpers (m.writeOverrides (m.writeControlSurface w).blankLine).blankLine

/-- The full source of the mock class. -/
def render (m : MockClass) : String :=
  ((m.writePreamble (Layout.new m.options.indentWidth)).block m.classHeader m.writeBody).finish

end MockClass

end KotlinMocks

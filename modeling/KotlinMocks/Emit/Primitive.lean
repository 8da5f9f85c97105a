import KotlinMocks.Emit.MemberPlan
import KotlinMocks.Emit.Layout
import KotlinMocks.Emit.Support
import KotlinMocks.Emit.TypeText

/-!
# Stub classes

Every stub shape becomes one generic class, `Mock<arity><0|1>`, in the runtime package. Its
type parameters are `P0`, `P1`, … for the arguments and `R` for the answer. A stub keeps its
calls (or, without arguments, only their count), answers through a replaceable function, and
offers the configuration calls (`throwsOnCall`, `delegatesTo`, `producesValue`, …) and the
`callCount` queries.

A `Registry` is the set of shapes already written in a session, kept in shape order.
-/

namespace KotlinMocks

/-- The names one stub class uses throughout. -/
structure StubShape where
  kind : StubKind

namespace StubShape

/-- `P0`, `P1`, …: the argument type parameters. -/
def typeParams (s : StubShape) : List String :=
  (List.range s.kind.arity).map fun i => "P" ++ Decimal.digitsOf i

/-- `p0`, `p1`, …: the argument names. -/
def args (s : StubShape) : List String :=
  (List.range s.kind.arity).map fun i => "p" ++ Decimal.digitsOf i

/-- The answer type: `R`, or `Unit` for a void stub. -/
def result (s : StubShape) : String := if s.kind.returnsValue then "R" else "Unit"

/-- `<P0, P1, R>`, `<R>`, or nothing for a stub with neither. -/
def classTypeParams (s : StubShape) : String :=
  angled (s.typeParams ++ if s.kind.returnsValue then ["R"] else [])

/-- `(P0, P1) -> R`. -/
def functionType (s : StubShape) : String :=
  "(" ++ ", ".intercalate s.typeParams ++ ") -> " ++ s.result

/-- A lambda that ignores its arguments: `\x7b _, _ -> body \x7d`, or `\x7b body \x7d` with no
arguments. -/
def ignoringLambda (s : StubShape) (body : String) : String :=
  let underscores := ", ".intercalate (List.replicate s.kind.arity "_")
  match s.kind.arity == 0, body.isEmpty with
  | true, true => "\x7b\x7d"
  | true, false => "\x7b " ++ body ++ " \x7d"
  | false, true => "\x7b " ++ underscores ++ " -> \x7d"
  | false, false => "\x7b " ++ underscores ++ " -> " ++ body ++ " \x7d"

/-- `p0: P0, p1: P1`. -/
def typedArgs (s : StubShape) : String :=
  ", ".intercalate ((s.args.zip s.typeParams).map fun (a, t) => a ++ ": " ++ t)

/-- `p0, p1`. -/
def argList (s : StubShape) : String := ", ".intercalate s.args

end StubShape

/-- Writes the answer configuration of a stub that answers a value: a fixed value, a
sequence of values, and a sequence of functions. -/
def writeValueConfiguration (s : StubShape) (w : Layout) : Layout :=
  let exhausted := "throw " ++ sequenceExhaustedException ++ "(answered)"
  let noArgs := s.kind.arity == 0
  let valuesHead :=
    if noArgs then "answer = \x7b"
    else "answer = \x7b " ++ ", ".intercalate (List.replicate s.kind.arity "_") ++ " ->"
  let functionsHead := if noArgs then "answer = \x7b" else "answer = \x7b " ++ s.argList ++ " ->"
  let w := w.blankLine.block "infix fun producesValue(value: R)" fun w =>
    w.line ("answer = " ++ s.ignoringLambda "value")
  let w := w.blankLine.block "infix fun producesFromSequence(values: Iterable<R>)" fun w =>
    let w := w.lines ["val iterator = values.iterator()", "var answered = 0", valuesHead]
    let w := w.indented fun w =>
      w.lines ["if (!iterator.hasNext()) " ++ exhausted, "answered++", "iterator.next()"]
    w.line "\x7d"
  let w := w.blankLine.block "fun producesFromSequence(vararg values: R)" fun w =>
    w.line "producesFromSequence(values.asIterable())"
  let sequenceHeader := "infix fun delegatesToSequence(functions: Iterable<" ++ s.functionType ++ ">)"
  let w := w.blankLine.block sequenceHeader fun w =>
    let w := w.lines ["val iterator = functions.iterator()", "var answered = 0", functionsHead]
    let w := w.indented fun w =>
      w.lines ["if (!iterator.hasNext()) " ++ exhausted, "answered++",
        "iterator.next()(" ++ s.argList ++ ")"]
    w.line "\x7d"
  w.blankLine.block ("fun delegatesToSequence(vararg functions: " ++ s.functionType ++ ")") fun w =>
    w.line "delegatesToSequence(functions.asIterable())"

/-- Writes the `callCount` queries and the record of one call. -/
def writeHistoryQueries (s : StubShape) (w : Layout) : Layout :=
  let w := w.blankLine
  if s.kind.arity == 0 then w.line "fun callCount(): Int = calls"
  else
    let fromHolder := s.args.map ("it." ++ ·)
    let w := w.line "fun callCount(): Int = history.size"
    let w := w.blankLine.line ("fun callCount(predicate: (" ++ ", ".intercalate s.typeParams ++
      ") -> Boolean): Int = history.count \x7b predicate(" ++ ", ".intercalate fromHolder ++ ") \x7d")
    let w :=
      if s.kind.arity > 1 then
        let predicates := s.typeParams.map fun t => "predicate" ++ t ++ ": Predicate<" ++ t ++ ">"
        let conjunction := (s.typeParams.zip fromHolder).map fun (t, f) =>
          "predicate" ++ t ++ "(" ++ f ++ ")"
        let w := w.blankLine.line ("fun callCount(" ++ ", ".intercalate predicates ++ "): Int =")
        w.indented fun w => w.line ("history.count \x7b " ++ " && ".intercalate conjunction ++ " \x7d")
      else w
    let fields := (s.args.zip s.typeParams).map fun (a, t) => "val " ++ a ++ ": " ++ t
    w.blankLine.line ("private data class CallHolder<" ++ ", ".intercalate s.typeParams ++ ">(" ++
      ", ".intercalate fields ++ ")")

/-- The full source of the stub class of a shape. -/
def renderPrimitive (kind : StubKind) (runtimePackage : String) (indentWidth : Nat) : String :=
  let s : StubShape := ⟨kind⟩
  let notConfigured := "throw " ++ notConfiguredException ++ "()"
  let noArgs := kind.arity == 0
  let w := Layout.new indentWidth
  let w := if runtimePackage.isEmpty then w else (w.line ("package " ++ runtimePackage)).blankLine
  let w := w.line "@Suppress(\"MemberVisibilityCanBePrivate\", \"unused\")"
  let body (w : Layout) : Layout :=
    let w := w.line ("private var answer: " ++ s.functionType ++ " = " ++ s.ignoringLambda notConfigured)
    let w :=
      if noArgs then w.line "private var calls: Int = 0"
      else w.line ("private val history = mutableListOf<CallHolder<" ++ ", ".intercalate s.typeParams ++ ">>()")
    let w := w.blankLine.block "fun reset()" fun w =>
      (w.line (if noArgs then "calls = 0" else "history.clear()")).line
        ("answer = " ++ s.ignoringLambda notConfigured)
    let callHeader :=
      if kind.returnsValue then "fun call(" ++ s.typedArgs ++ "): R" else "fun call(" ++ s.typedArgs ++ ")"
    let w := w.blankLine.block callHeader fun w =>
      let w := w.line (if noArgs then "calls++" else "history.add(CallHolder(" ++ s.argList ++ "))")
      let invoke := "answer(" ++ s.argList ++ ")"
      w.line (if kind.returnsValue then "return " ++ invoke else invoke)
    let w := w.blankLine.block "infix fun throwsOnCall(error: Throwable)" fun w =>
      w.line ("answer = " ++ s.ignoringLambda "throw error")
    let w := w.blankLine.block ("infix fun delegatesTo(function: " ++ s.functionType ++ ")") fun w =>
      w.line "answer = function"
    let w :=
      if kind.returnsValue then writeValueConfiguration s w
      else w.blankLine.block "fun doesNothing()" fun w => w.line ("answer = " ++ s.ignoringLambda "")
    writeHistoryQueries s w
  (w.block ("class " ++ kind.className ++ s.classTypeParams) body).finish

/-- Adds a shape to a list in shape order, unless it is there already. -/
def insertKind (k : StubKind) : List StubKind → List StubKind
  | [] => [k]
  | x :: rest =>
    if k.key < x.key then k :: x :: rest
    else if k.key = x.key then x :: rest
    else x :: insertKind k rest

/-- The shapes in shape order, each once. -/
def sortKinds (ks : List StubKind) : List StubKind := ks.foldl (fun acc k => insertKind k acc) []

/-- The shapes already written in a session. -/
structure Registry where
  /-- The shapes, in shape order, each once. -/
  emitted : List StubKind := []

namespace Registry

/-- Whether a shape was written. -/
def contains (r : Registry) (k : StubKind) : Bool := r.emitted.contains k

/-- Records a shape; the flag says whether it was new. -/
def insert (r : Registry) (k : StubKind) : Registry × Bool :=
  if r.contains k then (r, false) else (⟨insertKind k r.emitted⟩, true)

/-- The shapes among `ks` not written yet, in shape order, each once. -/
def missing (r : Registry) (ks : List StubKind) : List StubKind :=
  (sortKinds ks).filter fun k => !r.contains k

/-- How many shapes were written. -/
def size (r : Registry) : Nat := r.emitted.length

/-- Whether no shape was written. -/
def isEmpty (r : Registry) : Bool := r.emitted.isEmpty

end Registry

end KotlinMocks

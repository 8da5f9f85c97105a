import KotlinMocks.Emit.MockClass
import KotlinMocks.Text.Quoted

/-!
# Sessions

A session lives for one processing run, which may span several rounds. It remembers which
stub shapes it has written, so each shape is written exactly once however many targets need
it, and which targets it has generated, so a target offered again is ignored.

In a round, an ineligible target is skipped, a target that mentions an unresolved symbol is
handed back to be offered again later, and every other target is generated. All text for a
target (its mock and any stub classes it introduces) is built before anything is written, so
a target that cannot be built writes nothing. Writing is not undone: the stub classes of a
target are written and recorded one by one before its mock, so when the sink refuses the mock,
those stub classes stay written and recorded. The first failure ends the round, and what was
written before it stays written.

Every step reports diagnostic events: phase transitions, skipped and deferred targets, and
each unit written.
-/

namespace KotlinMocks

open Trace

/-- How far the writing of one target has come. -/
inductive Phase where
  | idle
  | planningMembers
  | emittingControlSurface
  | emittingOverrides
  | emittingLifecycleHelpers
  | done
  deriving DecidableEq, Inhabited

/-- The name of a phase in diagnostics. -/
def Phase.name : Phase → String
  | .idle => "Idle"
  | .planningMembers => "PlanningMembers"
  | .emittingControlSurface => "EmittingControlSurface"
  | .emittingOverrides => "EmittingOverrides"
  | .emittingLifecycleHelpers => "EmittingLifecycleHelpers"
  | .done => "Done"

/-- What a session has done so far. -/
structure Session where
  options : GeneratorOptions
  registry : Registry := {}
  /-- Display names of the targets generated. -/
  generated : List String := []
  supportEmitted : Bool := false

/-- The outcome of one round. -/
structure RoundReport where
  /-- Qualified names of the mock units, in input order. -/
  generated : List String := []
  /-- Stub shapes first written in this round. -/
  primitives : List StubKind := []
  /-- Targets that still mention unresolved symbols, to be offered again. -/
  deferred : List TargetType := []
  /-- Display names of the targets that are not eligible. -/
  skipped : List String := []

/-- Whether a round wrote neither a mock nor a stub class. -/
def RoundReport.isEmpty (r : RoundReport) : Bool := r.generated.isEmpty && r.primitives.isEmpty

/-- A session at work: the session, its sink, the events so far and the spans now open. -/
structure Progress (σ : Type) where
  session : Session
  sink : σ
  /-- Events in the order they happened. -/
  events : List Event := []
  /-- Open spans, outermost first. -/
  spans : List Span := []

/-- Work of a session over a sink of type `σ`; a failure keeps what was done before it. -/
abbrev Generation (σ : Type) := EStateM GenerateError (Progress σ)

/-- The origin of the session's events. -/
def sessionOrigin : String := "kmock_emitter::session"

namespace Generation

/-- Records an event inside the open spans. -/
def emit (e : Event) : Generation σ Unit :=
  modify fun p => { p with events := p.events ++ [{ e with spans := p.spans }] }

/-- Records a session event. -/
def note (level : Level) (message : String) (fields : List (String × FieldValue) := []) :
    Generation σ Unit :=
  emit { origin := sessionOrigin, level, message, fields }

/-- Runs `body` inside a span, closing it whatever happens. -/
def inSpan (s : Span) (body : Generation σ α) : Generation σ α := fun p =>
  let close := fun (q : Progress σ) => { q with spans := p.spans }
  match body { p with spans := p.spans ++ [s] } with
  | .ok a q => .ok a (close q)
  | .error e q => .error e (close q)

/-- Hands a unit to the sink; a refusal stops with a sink failure. -/
def write [Sink σ] (u : GeneratedUnit) : Generation σ Unit := do
  let p ← get
  let d := Sink.write p.sink u
  set { p with sink := d.sink }
  for e in d.events do emit e
  match d.outcome with
  | .ok () => pure ()
  | .error cause => throw (.sink u.qualifiedName cause)

/-- Changes the session. -/
def updateSession (f : Session → Session) : Generation σ Unit :=
  modify fun p => { p with session := f p.session }

end Generation

open Generation

/-- Records the move of a target's writing from one phase to the next. -/
def notePhase (target : String) (before after : Phase) : Generation σ Unit :=
  note .debug "phase transition"
    [("target_type", .text target), ("from", .shown before.name), ("to", .shown after.name)]

/-- Everything a target produces, not yet written: stub classes first, then the mock. -/
structure PendingTarget where
  subtype : GeneratedUnit
  primitives : List (StubKind × GeneratedUnit)

/-- The unit of a stub class. -/
def Session.primitiveUnit (s : Session) (k : StubKind) : GeneratedUnit where
  package := s.options.runtimePackage
  name := k.className
  dependency := .session
  text := renderPrimitive k s.options.runtimePackage s.options.indentWidth

/-- Builds every unit a target needs, without writing anything. -/
def generateTarget (t : TargetType) : Generation σ PendingTarget :=
  let name := t.displayName
  inSpan ⟨"generate_mock", sessionOrigin, .debug, [("target_type", .text name)]⟩ do
    let session := (← get).session
    let some origin := t.containingFile | throw (.missingContainingFile name)
    notePhase name .idle .planningMembers
    let plans ← MonadExcept.ofExcept (planMembers t)
    let missing := session.registry.missing (plans.flatMap MemberPlan.stubKinds)
    let m ← MonadExcept.ofExcept (MockClass.make t plans session.options)
    notePhase name .planningMembers .emittingControlSurface
    notePhase name .emittingControlSurface .emittingOverrides
    notePhase name .emittingOverrides .emittingLifecycleHelpers
    notePhase name .emittingLifecycleHelpers .done
    pure {
      subtype := { package := t.package, name := m.className, dependency := .origin origin,
                   text := m.render }
      primitives := missing.map fun k => (k, session.primitiveUnit k) }

/-- Writes stub classes in order, recording each shape as soon as its class is written;
gives the shapes written. -/
def writePrimitives [Sink σ] : List (StubKind × GeneratedUnit) → Generation σ (List StubKind)
  | [] => pure []
  | (k, u) :: rest => do
    write u
    note .trace "emitted stub primitive" [("primitive", .shown k.className)]
    updateSession fun s => { s with registry := (s.registry.insert k).1 }
    let later ← writePrimitives rest
    pure (k :: later)

/-- Writes a pending target: its stub classes, then its mock. -/
def commit [Sink σ] (pending : PendingTarget) : Generation σ (List StubKind) := do
  let introduced ← writePrimitives pending.primitives
  write pending.subtype
  note .info "generated mock" [("unit", .shown pending.subtype.qualifiedName)]
  pure introduced

/-- Writes the support units, once per session. -/
def emitSupport [Sink σ] : Generation σ Unit := do
  if (← get).session.supportEmitted then return
  for u in supportUnits (← get).session.options.runtimePackage do
    write u
    note .trace "emitted support unit" [("unit", .shown u.qualifiedName)]
  updateSession fun s => { s with supportEmitted := true }

/-- Processes one target of a round, adding to the report: skips it, defers it, ignores it as
already generated, or generates it. -/
def processTarget [Sink σ] (t : TargetType) (report : RoundReport) : Generation σ RoundReport := do
  let name := t.displayName
  let session := (← get).session
  if !t.isEligible session.options.marker then
    note .debug "skipping ineligible target" [("target_type", .text name)]
    pure { report with skipped := report.skipped ++ [name] }
  else if !t.unresolvedReferences.isEmpty then
    note .debug "deferring target with unresolved references"
      [("target_type", .text name),
       ("unresolved", .shown ("[" ++ ", ".intercalate (t.unresolvedReferences.map Text.quoted) ++ "]"))]
    pure { report with deferred := report.deferred ++ [t] }
  else if session.generated.contains name then
    note .debug "ignoring target already generated in this session" [("target_type", .text name)]
    pure report
  else
    let pending ← generateTarget t
    let introduced ← commit pending
    updateSession fun s => { s with generated := s.generated ++ [name] }
    pure { report with
      primitives := report.primitives ++ introduced,
      generated := report.generated ++ [pending.subtype.qualifiedName] }

/-- Processes the targets of a round in order, adding to the report; the first failure ends
the round. -/
def processTargets [Sink σ] : List TargetType → RoundReport → Generation σ RoundReport
  | [], report => pure report
  | t :: rest, report => do processTargets rest (← processTarget t report)

/-- Processes one round: the support units first (once per session), then every target. -/
def processRound [Sink σ] (targets : List TargetType) : Generation σ RoundReport :=
  inSpan ⟨"process_round", sessionOrigin, .debug, [("targets", .count targets.length)]⟩ do
    emitSupport
    processTargets targets {}

end KotlinMocks

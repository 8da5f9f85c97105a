import KotlinMocks.Emit.Session
import KotlinMocks.Cli.Failure

/-!
# Generating over every round of a model

A model lists its targets round by round, as the host resolved them. One session runs over all
rounds. A target deferred in one round, because it still mentions unresolved symbols, is
offered again at the front of the next round, unless that round supplies a fresh target of the
same display name, which then replaces it. A target still deferred after the last round makes
the run fail, naming every such target with its unresolved symbols.
-/

namespace KotlinMocks.Cli

open Trace

/-- The origin of the run's own events. -/
def runOrigin : String := "kmock_cli::driver"

/-- What a run produced. -/
structure Summary where
  /-- Qualified names of the mocks, in the order they were generated. -/
  generated : List String := []
  /-- How many stub classes were written. -/
  primitives : Nat := 0
  /-- Display names of the targets that were not eligible. -/
  skipped : List String := []
  /-- Qualified names of every unit written. -/
  units : List String := []
  deriving DecidableEq, Inhabited

/-- The summary after one more round. -/
def Summary.add (s : Summary) (r : RoundReport) : Summary :=
  { s with
    generated := s.generated ++ r.generated
    primitives := s.primitives + r.primitives.length
    skipped := s.skipped ++ r.skipped }

/-- A round adds its stub classes to the count. -/
theorem Summary.primitives_add (s : Summary) (r : RoundReport) :
    (s.add r).primitives = s.primitives + r.primitives.length := rfl

/-- The targets a round works on: the ones carried over that the round does not supply
afresh, then the round's own. -/
def offered (carried round : List TargetType) : List TargetType :=
  carried.filter (fun old => !round.any (·.displayName == old.displayName)) ++ round

/-- The failure for targets still deferred after the last round. -/
def unresolvedFailure (carried : List TargetType) : Failure :=
  let details := carried.map fun t =>
    t.displayName ++ " (unresolved: " ++ ", ".intercalate t.unresolvedReferences ++ ")"
  .single (Decimal.digitsOf carried.length ++
    " target(s) still reference unresolved symbols after the final round: " ++
    "; ".intercalate details)

/-- A run of a session that may fail with a report. -/
abbrev Rounds (σ : Type) := EStateM Failure (Progress σ)

/-- A session step inside a run; its failure is seen from the task `context`. -/
def Rounds.within (context : String) (g : Generation σ α) : Rounds σ α := fun p =>
  match g p with
  | .ok a p => .ok a p
  | .error e p => .error ((⟨e.causes⟩ : Failure).within context) p

/-- Records an event of the run. -/
def Rounds.note (e : Event) : Rounds σ Unit :=
  modify fun p => { p with events := p.events ++ [{ e with spans := p.spans }] }

/-- Runs the rounds numbered from `index + 1` on, offering `carried` again. -/
def runRounds [Sink σ] : List (List TargetType) → Nat → List TargetType → Summary → Rounds σ Summary
  | [], _, carried, summary =>
    if carried.isEmpty then pure summary else throw (unresolvedFailure carried)
  | round :: rest, index, carried, summary => do
    let targets := offered carried round
    let number := Decimal.digitsOf (index + 1)
    Rounds.note
      { origin := runOrigin, level := .debug, message := "starting round"
        fields := [("round", .count (index + 1)), ("targets", .count targets.length)] }
    let report ← Rounds.within ("generation failed in round " ++ number) (processRound targets)
    runRounds rest (index + 1) report.deferred (summary.add report)

/-- Generates every round of a model into a sink, with a fresh session. -/
def generate [Sink σ] (model : ModelFile) (options : GeneratorOptions) (sink : σ) :
    EStateM.Result Failure (Progress σ) Summary :=
  runRounds model.rounds 0 [] {} { session := { options }, sink }

end KotlinMocks.Cli

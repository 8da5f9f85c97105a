import KotlinMocks.Cli.Run
import KotlinMocks.Cli.Arguments.Reading
import KotlinMocks.Trace.Config
import KotlinMocks.Trace.Filter
import KotlinMocks.Trace.Render

/-!
# The generator as a program

The program reads its command line and runs. It prints the help text or the version line when
asked (status 0), an error about the command line (status 2), the report of a failed run
(status 1), or what the run did: the units a dry run would write, one per line, or how many
mocks and stub classes were generated and where, and how many targets were skipped.

When the logging variable `KMOCK_LOG` (or else `RUST_LOG`) is set, the run's events that pass
its filter are written to the error stream too, as are warnings about directives that do not
read.
-/

namespace KotlinMocks.Cli

open Trace

/-- What the program is started with. -/
structure Invocation where
  /-- The environment variables. -/
  environment : List (String × String) := []
  /-- The words after the program's name. -/
  words : List String
  /-- The files under the working directory. -/
  disk : Disk

/-- The logging of a run: the filter events are shown through, the warnings reading it gave,
and the message the program stopped with, if reading one of its directives stopped it. -/
structure Logging where
  filter : EventFilter
  warnings : List String := []
  aborted : Option String := none

/-- The logging the environment asks for: the generator's own variable, in which a bare level
is short for that level on its own components, comes before the general one. A general
variable with no directive that reads shows errors. -/
def logging? (environment : List (String × String)) : Option Logging :=
  match environment.lookup "KMOCK_LOG" with
  | some value =>
    let r := readDirectives (directivesFor value)
    some { filter := EventFilter.ofDirectives r.directives, warnings := r.warnings, aborted := r.aborted }
  | none =>
    match environment.lookup "RUST_LOG" with
    | some value =>
      let r := readDirectives value
      let filter := (EventFilter.ofDirectives r.directives).withFallback { limit := 1 }
      some { filter, warnings := r.warnings, aborted := r.aborted }
    | none => none

/-- The report of a program stopped while it set up its logging. -/
def abortReport (message : String) : String :=
  "\nthread 'main' panicked:\n" ++ message ++
    "\nnote: run with `RUST_BACKTRACE=1` environment variable to display a backtrace\n"

/-- What the program leaves behind. -/
structure Ending where
  status : Nat
  stdout : String
  /-- The error stream, events and warnings apart. -/
  stderr : String
  disk : Disk
  /-- The events of the run. -/
  events : List Event := []

/-- What the program prints for a run that succeeded. -/
def summaryText (a : Arguments) (s : Summary) : String :=
  if a.dryRun then String.join (s.units.map (· ++ "\n"))
  else
    "generated " ++ Decimal.digitsOf s.generated.length ++ " mock(s) and " ++
      Decimal.digitsOf s.primitives ++ " stub primitive(s) into " ++ a.outDir ++ "\n" ++
      (if s.skipped.isEmpty then ""
       else "skipped " ++ Decimal.digitsOf s.skipped.length ++ " ineligible target(s)\n")

/-- Runs the program: logging is set up first, then the command line is read. -/
def Invocation.run (i : Invocation) : Ending :=
  match (logging? i.environment).bind (·.aborted) with
  | some message => { status := 101, stdout := "", stderr := abortReport message, disk := i.disk }
  | none =>
  match Arguments.read i.words with
  | .error e =>
    if e.isAnswer then { status := e.exitCode, stdout := e.text, stderr := "", disk := i.disk }
    else { status := e.exitCode, stdout := "", stderr := e.text, disk := i.disk }
  | .ok a =>
    match a.execute { disk := i.disk } with
    | .ok s w => { status := 0, stdout := summaryText a s, stderr := "", disk := w.disk, events := w.events }
    | .error f w => { status := 1, stdout := "", stderr := f.report, disk := w.disk, events := w.events }

/-- The lines logging writes to the error stream: the warnings about the filter, then the
events that pass it, in the format the format variable names. -/
def Invocation.logLines (i : Invocation) (e : Ending) : List String :=
  match logging? i.environment with
  | some l =>
    let format := LogFormat.parse ((i.environment.lookup "KMOCK_LOG_FORMAT").getD "")
    l.warnings ++ (e.events.filter l.filter.enabled).map fun ev =>
      Event.line format { ev with spans := l.filter.shownSpans ev }
  | none => []

/-- Everything the program writes to the error stream. -/
def Invocation.errorStream (i : Invocation) (e : Ending) : String :=
  String.join ((i.logLines e).map (· ++ "\n")) ++ e.stderr

/-- Whether the program wrote nothing to the error stream. -/
def Invocation.quiet (i : Invocation) (e : Ending) : Bool := (i.errorStream e).isEmpty

end KotlinMocks.Cli

import KotlinMocks.Cli.Arguments
import KotlinMocks.Cli.Arguments.Reading
import KotlinMocks.Cli.Failure
import KotlinMocks.Cli.OutputDirectory
import KotlinMocks.Cli.Program
import KotlinMocks.Cli.Rounds
import KotlinMocks.Cli.Run
import KotlinMocks.Cli.Similarity
import KotlinMocks.Decimal.Shortest
import KotlinMocks.Disk.Basic
import KotlinMocks.Disk.Path
import KotlinMocks.Double.Predicate
import KotlinMocks.Double.Stub
import KotlinMocks.Emit.Failure
import KotlinMocks.Emit.Layout
import KotlinMocks.Emit.MemberPlan
import KotlinMocks.Emit.MockClass
import KotlinMocks.Emit.Options
import KotlinMocks.Emit.Primitive
import KotlinMocks.Emit.Session
import KotlinMocks.Emit.Support
import KotlinMocks.Emit.TypeText
import KotlinMocks.Emit.Unit
import KotlinMocks.Json.Cursor
import KotlinMocks.Json.Parse
import KotlinMocks.Json.Problem
import KotlinMocks.Json.Scan
import KotlinMocks.Json.Source
import KotlinMocks.Json.TextSource
import KotlinMocks.Json.TreeSource
import KotlinMocks.Json.Value
import KotlinMocks.Json.Write
import KotlinMocks.Main
import KotlinMocks.Model.Decode
import KotlinMocks.Model.Encode
import KotlinMocks.Model.Members
import KotlinMocks.Model.Target
import KotlinMocks.Model.Types
import KotlinMocks.Proofs.Registry
import KotlinMocks.Proofs.Settle
import KotlinMocks.Text.Blank
import KotlinMocks.Text.Case
import KotlinMocks.Text.CharSet
import KotlinMocks.Text.Classes
import KotlinMocks.Text.Invisible
import KotlinMocks.Text.Pattern
import KotlinMocks.Text.Pattern.Bracket
import KotlinMocks.Text.Pattern.CharClass
import KotlinMocks.Text.Pattern.Escape
import KotlinMocks.Text.Pattern.Read
import KotlinMocks.Text.Pattern.Search
import KotlinMocks.Text.Quoted
import KotlinMocks.Text.Utf8Ranges
import KotlinMocks.Trace.Config
import KotlinMocks.Trace.Directive
import KotlinMocks.Trace.Event
import KotlinMocks.Trace.Filter
import KotlinMocks.Trace.Render
import KotlinMocks.Proofs.Names
import KotlinMocks.Proofs.PrimitivesOnce
import KotlinMocks.Proofs.UnitNames
import KotlinMocks.Proofs.FailedRound
import KotlinMocks.Proofs.CarriedTargets
import KotlinMocks.Proofs.StubRuns
import KotlinMocks.Proofs.MockText
import KotlinMocks.Proofs.DeferCheck
import KotlinMocks.Proofs.SinkAgreement
import KotlinMocks.Proofs.DryRun
import KotlinMocks.Proofs.Regrouping
import KotlinMocks.Proofs.ErasedText
import KotlinMocks.Proofs.FieldNames
import KotlinMocks.Proofs.RoundOrder
import KotlinMocks.Proofs.TokenReading
import KotlinMocks.Proofs.ValueReading
import KotlinMocks.Proofs.TaggedReading
import KotlinMocks.Proofs.ModelRoundTrip
import KotlinMocks.Proofs.Quantifiers
import KotlinMocks.Proofs.IgnoringCase
import KotlinMocks.Proofs.LayoutLines
import KotlinMocks.Proofs.ControlSurface
import KotlinMocks.Proofs.Overloads
import KotlinMocks.Proofs.BoundConstraints
import KotlinMocks.Proofs.LineStart
import KotlinMocks.Proofs.BraceDepth
import KotlinMocks.Proofs.StubClassBraces
import KotlinMocks.Proofs.MockClassBraces
import KotlinMocks.Proofs.RegistryBookkeeping
import KotlinMocks.Proofs.RenderedDeclarations

/-!
# Diagnostic events

What a run reports about itself while it works: events, each from a named origin (a path of
`::`-separated module names), at a level of detail, with named fields, inside the spans that
were open when it happened. Whether an event is shown is decided by a filter; the run itself
only records them.
-/

namespace KotlinMocks.Trace

/-- How detailed an event is, from the least detailed to the most. -/
inductive Level where
  | error
  | warn
  | info
  | debug
  | trace
  deriving DecidableEq, Inhabited

/-- Levels numbered from 1 (errors) to 5 (the most detailed). -/
def Level.rank : Level → Nat
  | .error => 1
  | .warn => 2
  | .info => 3
  | .debug => 4
  | .trace => 5

/-- A recorded value: a count, a text, or the shown form of some other value. Filters match
counts by number and the other two by their text. -/
inductive FieldValue where
  | count (n : Nat)
  | text (s : String)
  | shown (s : String)
  deriving DecidableEq

/-- A stretch of work that events happen inside. -/
structure Span where
  name : String
  origin : String
  level : Level
  fields : List (String × FieldValue) := []

/-- One reported happening. -/
structure Event where
  origin : String
  level : Level
  message : String
  fields : List (String × FieldValue) := []
  /-- The spans open at the time, outermost first. -/
  spans : List Span := []

end KotlinMocks.Trace

import KotlinMocks.Text.Blank

/-!
# Choosing what a run reports

The value of the logging variable is a list of filter directives. A bare level such as
`debug` is short for that level on the generator's own components (`kmock_cli`,
`kmock_emitter`, `kmock_model`) and `warn` for everything else; any other value is used as it
is. The format variable picks plain text, an indented tree, or JSON lines.
-/

namespace KotlinMocks.Trace

/-- The components a bare level applies to. -/
def ownComponents : List String := ["kmock_cli", "kmock_emitter", "kmock_model"]

/-- The words that name a level. -/
def levelWords : List String := ["trace", "debug", "info", "warn", "error", "off"]

/-- The filter directives for a value of the logging variable: a bare level (in any case,
with white space around it) becomes that level for the generator's own components and `warn`
for the rest; anything else is kept as it is. -/
def directivesFor (value : String) : String :=
  let level := Text.lowercase (Text.trimWhiteSpace value)
  if levelWords.contains level then
    ",".intercalate ("warn" :: ownComponents.map (· ++ "=" ++ level))
  else value

/-- How reported events are written. -/
inductive LogFormat where
  | text
  | tree
  | json
  deriving DecidableEq, Inhabited

/-- The format a value of the format variable names; anything unknown means text. -/
def LogFormat.parse (value : String) : LogFormat :=
  match Text.lowercase value with
  | "tree" => .tree
  | "json" => .json
  | _ => .text

/-- The name of a format. -/
def LogFormat.name : LogFormat → String
  | .text => "text"
  | .tree => "tree"
  | .json => "json"

end KotlinMocks.Trace

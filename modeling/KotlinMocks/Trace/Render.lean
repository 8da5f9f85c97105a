import KotlinMocks.Trace.Event
import KotlinMocks.Trace.Config
import KotlinMocks.Json.Write
import KotlinMocks.Text.Quoted

/-!
# Writing events

An event shown on the error stream takes one line in the chosen format: as text, the level,
the spans it happened in with their fields, its origin, its message and its fields; as a tree,
the level, origin and message indented by two spaces for each span it is in, with its fields
after a comma; as JSON, an object with the level, the message among the fields, the origin
and the spans.
-/

namespace KotlinMocks.Trace

/-- The level's label, right-aligned in five columns. -/
def Level.label : Level → String
  | .error => "ERROR"
  | .warn => " WARN"
  | .info => " INFO"
  | .debug => "DEBUG"
  | .trace => "TRACE"

/-- A value as the text layout writes it: texts quoted, other values as they are shown. -/
def FieldValue.logText : FieldValue → String
  | .count n => Decimal.digitsOf n
  | .text s => Text.quoted s
  | .shown s => s

/-- A value as it is shown plainly. -/
def FieldValue.plain : FieldValue → String
  | .count n => Decimal.digitsOf n
  | .text s => s
  | .shown s => s

/-- A value as JSON: counts as numbers, everything else as strings. -/
def FieldValue.json : FieldValue → Json
  | .count n => Json.ofNat n
  | .text s => .string s
  | .shown s => .string s

/-- Fields as `name=value`, separated by spaces. -/
def fieldsText (fields : List (String × FieldValue)) : String :=
  " ".intercalate (fields.map fun (k, v) => k ++ "=" ++ v.logText)

/-- A span's name, and its fields in braces if it has any. -/
def Span.text (s : Span) : String :=
  s.name ++ (if s.fields.isEmpty then "" else "\x7b" ++ fieldsText s.fields ++ "\x7d")

/-- Fields as a JSON object. -/
def fieldsJson (fields : List (String × FieldValue)) : Json :=
  .object (fields.map fun (k, v) => (k, v.json))

/-- The line of an event in a format. -/
def Event.line (format : LogFormat) (e : Event) : String :=
  match format with
  | .text =>
    let spans := String.join (e.spans.map fun s => s.text ++ ":")
    e.level.label ++ " " ++ (if spans.isEmpty then "" else spans ++ " ") ++ e.origin ++ ": " ++
      e.message ++ (if e.fields.isEmpty then "" else " " ++ fieldsText e.fields)
  | .tree =>
    "".pushn ' ' (2 * e.spans.length) ++ e.level.label ++ " " ++ e.origin ++ " " ++ e.message ++
      String.join (e.fields.map fun (k, v) => ", " ++ k ++ ": " ++ v.plain)
  | .json =>
    Json.compact (.object
      [("level", .string (e.level.label.trimAsciiStart.toString)),
       ("fields", fieldsJson (("message", .shown e.message) :: e.fields)),
       ("target", .string e.origin),
       ("spans", .array (e.spans.map fun s => fieldsJson (("name", .shown s.name) :: s.fields)))])

end KotlinMocks.Trace

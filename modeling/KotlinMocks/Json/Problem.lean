import KotlinMocks.Decimal.Shortest
import KotlinMocks.Text.Quoted

/-!
# Why reading JSON fails

A reader stops at the first problem. Syntax faults are found by the scanner and always know
where they happened; the other problems are found while fitting a value to a type and get
their place from the reader that was reading the enclosing value, or keep none when the
value came from a tree rather than from text.
-/

namespace KotlinMocks.Json

/-- A malformed piece of text. -/
inductive Fault where
  | eofWhileParsingList
  | eofWhileParsingObject
  | eofWhileParsingString
  | eofWhileParsingValue
  | expectedColon
  | expectedListCommaOrEnd
  | expectedObjectCommaOrEnd
  | expectedSomeIdent
  | expectedSomeValue
  | invalidEscape
  | invalidNumber
  | numberOutOfRange
  | controlCharacterWhileParsingString
  | keyMustBeAString
  | loneLeadingSurrogateInHexEscape
  | trailingComma
  | trailingCharacters
  | unexpectedEndOfHexEscape
  | recursionLimitExceeded
  deriving DecidableEq, Repr

/-- The sentence that describes a fault. -/
def Fault.message : Fault → String
  | .eofWhileParsingList => "EOF while parsing a list"
  | .eofWhileParsingObject => "EOF while parsing an object"
  | .eofWhileParsingString => "EOF while parsing a string"
  | .eofWhileParsingValue => "EOF while parsing a value"
  | .expectedColon => "expected `:`"
  | .expectedListCommaOrEnd => "expected `,` or `]`"
  | .expectedObjectCommaOrEnd => "expected `,` or `\x7d`"
  | .expectedSomeIdent => "expected ident"
  | .expectedSomeValue => "expected value"
  | .invalidEscape => "invalid escape"
  | .invalidNumber => "invalid number"
  | .numberOutOfRange => "number out of range"
  | .controlCharacterWhileParsingString =>
    "control character (\\u0000-\\u001F) found while parsing a string"
  | .keyMustBeAString => "key must be a string"
  | .loneLeadingSurrogateInHexEscape => "lone leading surrogate in hex escape"
  | .trailingComma => "trailing comma"
  | .trailingCharacters => "trailing characters"
  | .unexpectedEndOfHexEscape => "unexpected end of hex escape"
  | .recursionLimitExceeded => "recursion limit exceeded"

/-- What a value turned out to be, when it is not what was wanted. -/
inductive Unexpected where
  | null
  | bool (value : Bool)
  | unsigned (value : Nat)
  | signed (value : Int)
  | float (value : Float)
  | string (value : String)
  | sequence
  | map

/-- The decimal text of an integer. -/
def intText (i : Int) : String :=
  (if i < 0 then "-" else "") ++ Decimal.digitsOf i.natAbs

/-- The phrase naming an unexpected value. -/
def Unexpected.describe : Unexpected → String
  | .null => "null"
  | .bool b => "boolean `" ++ (if b then "true" else "false") ++ "`"
  | .unsigned n => "integer `" ++ Decimal.digitsOf n ++ "`"
  | .signed i => "integer `" ++ intText i ++ "`"
  | .float f => "floating point `" ++ Decimal.layout f ++ "`"
  | .string s => "string " ++ Text.quoted s
  | .sequence => "sequence"
  | .map => "map"

/-- The list of names as a reader offers them: one, two joined by "or", or "one of". -/
def oneOf (names : List String) : String :=
  let tick := fun (n : String) => "`" ++ n ++ "`"
  match names with
  | [n] => tick n
  | [a, b] => tick a ++ " or " ++ tick b
  | _ => "one of " ++ ", ".intercalate (names.map tick)

/-- Why a value could not be read. -/
inductive Problem where
  | malformed (fault : Fault)
  | invalidType (found : Unexpected) (expected : String)
  | invalidValue (found : Unexpected) (expected : String)
  | invalidLength (length : Nat) (expected : String)
  | missingField (name : String)
  | duplicateField (name : String)
  | unknownVariant (name : String) (expected : List String)

/-- The sentence that describes a problem. -/
def Problem.message : Problem → String
  | .malformed fault => fault.message
  | .invalidType found expected =>
    "invalid type: " ++ found.describe ++ ", expected " ++ expected
  | .invalidValue found expected =>
    "invalid value: " ++ found.describe ++ ", expected " ++ expected
  | .invalidLength length expected =>
    "invalid length " ++ Decimal.digitsOf length ++ ", expected " ++ expected
  | .missingField name => "missing field `" ++ name ++ "`"
  | .duplicateField name => "duplicate field `" ++ name ++ "`"
  | .unknownVariant name [] => "unknown variant `" ++ name ++ "`, there are no variants"
  | .unknownVariant name expected =>
    "unknown variant `" ++ name ++ "`, expected " ++ oneOf expected

/-- A place in a text: lines count from one, columns are bytes from the start of the line. -/
structure Position where
  line : Nat
  column : Nat
  deriving DecidableEq, Repr

/-- A problem, with the place in the text where it was noticed when there is one. -/
structure Error where
  problem : Problem
  position : Option Position := none

/-- The full message: the problem, then its place. -/
def Error.message (e : Error) : String :=
  match e.position with
  | none => e.problem.message
  | some p =>
    e.problem.message ++ " at line " ++ Decimal.digitsOf p.line ++ " column " ++
      Decimal.digitsOf p.column

end KotlinMocks.Json

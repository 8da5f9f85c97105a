import KotlinMocks.Json.Scan

/-!
# Reading and skipping whole JSON values

`Reader.anyValue` reads any value into a tree, keeping every object member in order, repeated
keys included. `Reader.skipValue` checks the shape of a value it does not need without
building it; it follows a slightly looser path than `anyValue` and so reports some faults
differently (a comma before a closing bracket is a missing value there, not a trailing comma).
`Json.parse` reads a whole document, where a repeated key keeps its first place and its last
value.
-/

namespace KotlinMocks.Json

namespace Reader

/-- Before the next array element: whether there is one. The first element needs no comma;
a comma followed by the closing bracket is a trailing comma. -/
def hasNextElement (first : Bool) : Reader Bool := do
  match ← peekToken with
  | some ']' => pure false
  | some ',' =>
    if first then pure true
    else
      bump
      match ← peekToken with
      | some ']' => faultAhead .trailingComma
      | some _ => pure true
      | none => faultAhead .eofWhileParsingValue
  | some _ => if first then pure true else faultAhead .expectedListCommaOrEnd
  | none => faultAhead .eofWhileParsingList

/-- Before the next object member: whether there is one, reading its key's opening quote.
Anything but a string where a key belongs is refused. -/
def hasNextKey (first : Bool) : Reader Bool := do
  let next : Option (Option Char) ← do
    match ← peekToken with
    | some '}' => pure none
    | some ',' =>
      if first then pure (some (some ','))
      else
        bump
        pure (some (← peekToken))
    | some c => if first then pure (some (some c)) else faultAhead .expectedObjectCommaOrEnd
    | none => faultAhead .eofWhileParsingObject
  match next with
  | none => pure false
  | some (some '"') => pure true
  | some (some '}') => faultAhead .trailingComma
  | some (some _) => faultAhead .keyMustBeAString
  | some none => faultAhead .eofWhileParsingValue

/-- Reads the colon between a key and its value. -/
def colon : Reader Unit := do
  match ← peekToken with
  | some ':' => bump
  | some _ => faultAhead .expectedColon
  | none => faultAhead .eofWhileParsingObject

/-- Closes an array after its last element. -/
def closeArray : Reader Unit := do
  match ← peekToken with
  | some ']' => bump
  | some ',' =>
    bump
    match ← peekToken with
    | some ']' => faultAhead .trailingComma
    | _ => faultAhead .trailingCharacters
  | some _ => faultAhead .trailingCharacters
  | none => faultAhead .eofWhileParsingList

/-- Closes an object after its last member. -/
def closeObject : Reader Unit := do
  match ← peekToken with
  | some '}' => bump
  | some ',' => faultAhead .trailingComma
  | some _ => faultAhead .trailingCharacters
  | none => faultAhead .eofWhileParsingObject

/-- Reads a key after its opening quote has been seen. -/
def key : Reader String := do
  bump
  stringBody

mutual
/-- Reads any value into a tree; `fuel` bounds the nesting and is never the limit that
applies, since the cursor's own nesting limit is smaller. -/
def anyValue : Nat → Reader Json
  | 0 => faultAhead .recursionLimitExceeded
  | fuel + 1 => do
    match ← peekToken with
    | none => faultAhead .eofWhileParsingValue
    | some c =>
      match c with
      | 'n' => bump; literalTail ['u', 'l', 'l']; pure .null
      | 't' => bump; literalTail ['r', 'u', 'e']; pure (.bool true)
      | 'f' => bump; literalTail ['a', 'l', 's', 'e']; pure (.bool false)
      | '-' => bump; return .number (← number false)
      | '"' => bump; return .string (← stringBody)
      | '[' =>
        nested (thenClose (do bump; anyItems fuel ((← get).rest.length + 1) true) closeArray)
          |>.map .array
      | '{' =>
        nested (thenClose (do bump; anyMembers fuel ((← get).rest.length + 1) true) closeObject)
          |>.map .object
      | _ =>
        if isDigit c then return .number (← number true)
        else faultAhead .expectedSomeValue
  termination_by fuel => (fuel, 0)

/-- Reads the elements of an array after its opening bracket. -/
def anyItems (fuel : Nat) : Nat → Bool → Reader (List Json)
  | 0, _ => faultAhead .eofWhileParsingList
  | steps + 1, first => do
    if ← hasNextElement first then
      let item ← anyValue fuel
      let rest ← anyItems fuel steps false
      pure (item :: rest)
    else pure []
  termination_by steps => (fuel, steps + 1)

/-- Reads the members of an object after its opening brace. -/
def anyMembers (fuel : Nat) : Nat → Bool → Reader (List (String × Json))
  | 0, _ => faultAhead .eofWhileParsingObject
  | steps + 1, first => do
    if ← hasNextKey first then
      let k ← key
      colon
      let v ← anyValue fuel
      let rest ← anyMembers fuel steps false
      pure ((k, v) :: rest)
    else pure []
  termination_by steps => (fuel, steps + 1)
end

/-- The bracket kinds open while skipping a value. -/
inductive Frame where
  | array
  | object
  deriving DecidableEq

/-- The closing bracket of a frame. -/
def Frame.closer : Frame → Char
  | .array => ']'
  | .object => '}'

/-- Where skipping stands: expecting a value inside the open brackets `stack` (innermost
first), or just after a value or an opening bracket of `frame`. -/
inductive SkipState where
  | value (stack : List Frame)
  | after (acceptComma : Bool) (frame : Frame) (stack : List Frame)

/-- One step of skipping; `none` when the outermost value is complete. -/
def skipStep : SkipState → Reader (Option SkipState)
  | .value stack => do
    let finish : Reader (Option SkipState) :=
      match stack with
      | [] => pure none
      | f :: rest => pure (some (.after true f rest))
    match ← peekToken with
    | none => faultAhead .eofWhileParsingValue
    | some c =>
      match c with
      | 'n' => bump; literalTail ['u', 'l', 'l']; finish
      | 't' => bump; literalTail ['r', 'u', 'e']; finish
      | 'f' => bump; literalTail ['a', 'l', 's', 'e']; finish
      | '-' => bump; skipNumber; finish
      | '"' => bump; skipString; finish
      | '[' => bump; pure (some (.after false .array stack))
      | '{' => bump; pure (some (.after false .object stack))
      | _ =>
        if isDigit c then do skipNumber; finish
        else faultAhead .expectedSomeValue
  | .after acceptComma frame stack => do
    let expectKey : Reader (Option SkipState) := do
      if frame = .object then
        match ← peekToken with
        | some '"' => bump
        | some _ => faultAhead .keyMustBeAString
        | none => faultAhead .eofWhileParsingObject
        skipString
        match ← peekToken with
        | some ':' => bump
        | some _ => faultAhead .expectedColon
        | none => faultAhead .eofWhileParsingObject
      pure (some (.value (frame :: stack)))
    match ← peekToken with
    | some ',' =>
      if acceptComma then do bump; expectKey
      else expectKey
    | some c =>
      if c = frame.closer then
        bump
        match stack with
        | [] => pure none
        | f :: rest => pure (some (.after true f rest))
      else if acceptComma then
        faultAhead (if frame = .array then .expectedListCommaOrEnd else .expectedObjectCommaOrEnd)
      else expectKey
    | none =>
      faultAhead (if frame = .array then .eofWhileParsingList else .eofWhileParsingObject)

/-- Runs skipping steps until the value is complete. Of two steps in a row at least one
reads a character, so twice the characters left, and two more, is enough `fuel`. -/
def skipSteps : Nat → SkipState → Reader Unit
  | 0, _ => faultAhead .eofWhileParsingValue
  | fuel + 1, state => do
    match ← skipStep state with
    | none => pure ()
    | some next => skipSteps fuel next

/-- Checks the shape of one value without keeping it. -/
def skipValue : Reader Unit := do
  skipSteps (2 * (← get).rest.length + 2) (.value [])

/-- Checks that only blanks are left. -/
def finishText : Reader Unit := do
  match ← peekToken with
  | none => pure ()
  | some _ => faultAhead .trailingCharacters

end Reader

namespace Json

/-- Reads a whole document; a repeated key in an object keeps its first place and its last
value. -/
def parse (text : String) : Except Error Json :=
  match (do let v ← Reader.anyValue (nestingLimit + 1); Reader.finishText; pure v :
      Reader Json).run (Cursor.start text) with
  | .ok v _ => .ok v.normalize
  | .error e _ => .error e

end Json

end KotlinMocks.Json

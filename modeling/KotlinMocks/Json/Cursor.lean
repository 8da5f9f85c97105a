import KotlinMocks.Json.Problem

/-!
# Reading position in a JSON text

A reader walks a text left to right. The cursor holds what is left to read, the position of
the next character (line and byte column) and how many more levels of nesting the reader may
still open. Problems found in the text are placed either at the cursor or just after the
next byte, as the reading rules say.
-/

namespace KotlinMocks.Json

/-- The position after reading one more character. -/
def Position.advance (p : Position) (c : Char) : Position :=
  if c = '\n' then ⟨p.line + 1, 0⟩ else ⟨p.line, p.column + c.utf8Size⟩

/-- The position after reading all of `cs`. -/
def Position.advanceAll (p : Position) (cs : List Char) : Position := cs.foldl advance p

/-- The position after reading `n` more bytes of `cs`; a character cut in the middle counts
only the bytes read. -/
def Position.advanceBytes (p : Position) : List Char → Nat → Position
  | [], _ => p
  | _, 0 => p
  | c :: rest, n =>
    if c.utf8Size ≤ n then (p.advance c).advanceBytes rest (n - c.utf8Size)
    else ⟨p.line, p.column + n⟩

/-- How many levels of nesting a reader may open before it gives up. -/
def nestingLimit : Nat := 128

/-- Where a reader stands in a text. -/
structure Cursor where
  rest : List Char
  position : Position := ⟨1, 0⟩
  depth : Nat := nestingLimit

namespace Cursor

/-- A cursor at the start of a text. -/
def start (text : String) : Cursor := { rest := text.toList }

/-- The cursor after one more character. -/
def bump (c : Cursor) : Cursor :=
  match c.rest with
  | [] => c
  | ch :: rest => { c with rest, position := c.position.advance ch }

/-- The place just after the next byte, or the cursor itself at the end of the text. -/
def ahead (c : Cursor) : Position :=
  match c.rest with
  | [] => c.position
  | ch :: _ => if ch = '\n' then ⟨c.position.line + 1, 0⟩ else ⟨c.position.line, c.position.column + 1⟩

/-- Whether a character is blank between JSON tokens. -/
def isBlank (ch : Char) : Bool := ch == ' ' || ch == '\n' || ch == '\t' || ch == '\r'

/-- What is left after the blanks at the front of `cs`, with the position after them. -/
def dropBlanks (p : Position) : List Char → List Char × Position
  | [] => ([], p)
  | ch :: rest => if isBlank ch then dropBlanks (p.advance ch) rest else (ch :: rest, p)

/-- The cursor after the blanks in front of it. -/
def skipBlanks (c : Cursor) : Cursor :=
  let (rest, position) := dropBlanks c.position c.rest
  { c with rest, position }

/-- The number of bytes left to read. -/
def bytesLeft (c : Cursor) : Nat := (c.rest.map Char.utf8Size).foldl (· + ·) 0

end Cursor

/-- Reading from a text: a step either yields a value or stops with an error, and in both
cases leaves the cursor where reading stopped. -/
abbrev Reader := EStateM Error Cursor

namespace Reader

/-- The next character, without reading it. -/
def peek : Reader (Option Char) := return (← get).rest.head?

/-- Reads one character. -/
def bump : Reader Unit := modify Cursor.bump

/-- Skips blanks and shows the next character. -/
def peekToken : Reader (Option Char) := do
  modify Cursor.skipBlanks
  peek

/-- Stops with a syntax fault placed at the cursor. -/
def faultHere (f : Fault) : Reader α := do
  throw { problem := .malformed f, position := some (← get).position }

/-- Stops with a syntax fault placed just after the next byte. -/
def faultAhead (f : Fault) : Reader α := do
  throw { problem := .malformed f, position := some (← get).ahead }

/-- Stops with a problem placed at the cursor. -/
def failHere (p : Problem) : Reader α := do
  throw { problem := p, position := some (← get).position }

/-- Stops with a problem that has no place yet. -/
def failUnplaced (p : Problem) : Reader α := throw { problem := p }

/-- Runs `r`; a problem it stops with that has no place yet is placed at the cursor where
it stopped. -/
def placed (r : Reader α) : Reader α := fun s =>
  match r s with
  | .ok a s' => .ok a s'
  | .error e s' =>
    match e.position with
    | some _ => .error e s'
    | none => .error { e with position := some s'.position } s'

/-- Runs `body`, then `close` whatever `body` did; the first problem of the two wins. -/
def thenClose (body : Reader α) (close : Reader Unit) : Reader α := fun s =>
  match body s with
  | .ok a s' =>
    match close s' with
    | .ok _ s'' => .ok a s''
    | .error e s'' => .error e s''
  | .error e s' =>
    match close s' with
    | .ok _ s'' => .error e s''
    | .error _ s'' => .error e s''

/-- Opens one level of nesting around `body`: refused once the limit is reached, with the
fault placed just after the opening bracket. -/
def nested (body : Reader α) : Reader α := fun s =>
  if s.depth ≤ 1 then
    .error { problem := .malformed .recursionLimitExceeded, position := some s.ahead }
      { s with depth := 0 }
  else
    match body { s with depth := s.depth - 1 } with
    | .ok a s' => .ok a { s' with depth := s'.depth + 1 }
    | .error e s' => .error e { s' with depth := s'.depth + 1 }

end Reader

end KotlinMocks.Json

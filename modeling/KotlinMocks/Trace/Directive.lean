import KotlinMocks.Text.Pattern.Read
import KotlinMocks.Text.Quoted
import KotlinMocks.Decimal.Shortest

/-!
# Filter directives

A directive is `origin[span{field=value,...}]=level`, every part optional: events from
origins starting with `origin`, or inside spans named `span` whose fields hold the values
asked for, are shown up to `level`. A lone word that names a level is a directive for every
origin.

A directive is read one character at a time by a small machine. It walks the directive with
its surrounding white space trimmed, but cuts the parts out of the directive as written, at
the byte offsets it counted in the trimmed one. With white space in front, the parts come
out shifted; when a cut falls inside a character, reading stops altogether (`Stop.aborted`),
and so does the program that reads it.
-/

namespace KotlinMocks.Trace

open Text

/-- Limits are numbered like levels, with 0 for `off`: an event passes a limit when its rank
is at most the limit. -/
abbrev Limit := Nat

/-- Reads a decimal number with an optional plus sign. -/
def readUnsigned (s : String) : Option Nat :=
  let digits := match s.toList with
    | '+' :: rest => rest
    | cs => cs
  if digits.isEmpty || !digits.all Char.isDigit then none
  else some (digits.foldl (fun n d => 10 * n + (d.toNat - '0'.toNat)) 0)

/-- The limit a word names: a number from 0 to 5, or a level's name or `off` in any case. -/
def Limit.parse? (s : String) : Option Limit :=
  match readUnsigned s with
  | some n => if n ≤ 5 then some n else wordLimit
  | none => wordLimit
where
  wordLimit : Option Limit :=
    match s.toLower with
    | "" => some 1
    | "error" => some 1
    | "warn" => some 2
    | "info" => some 3
    | "debug" => some 4
    | "trace" => some 5
    | "off" => some 0
    | _ => none

/-- The largest unsigned value a field may be compared with. -/
def unsignedLimit : Nat := Nat.pow 2 64

/-- Whether a text reads as a floating-point number: a sign, then `inf`, `infinity` or `nan`
in any case, or digits with at most one point and at least one digit, and an optional
exponent with digits. -/
def readsAsFloat (s : String) : Bool :=
  let body := match s.toList with
    | '+' :: rest => rest
    | '-' :: rest => rest
    | cs => cs
  let word := (String.ofList body).toLower
  if word == "inf" || word == "infinity" || word == "nan" then true
  else
    let whole := body.takeWhile Char.isDigit
    let afterWhole := body.dropWhile Char.isDigit
    let (fraction, afterFraction) := match afterWhole with
      | '.' :: rest => (rest.takeWhile Char.isDigit, rest.dropWhile Char.isDigit)
      | rest => ([], rest)
    let mantissaOk := !(whole.isEmpty && fraction.isEmpty)
    let exponentOk := match afterFraction with
      | [] => true
      | e :: rest =>
        if e == 'e' || e == 'E' then
          let digits := match rest with
            | '+' :: ds => ds
            | '-' :: ds => ds
            | ds => ds
          !digits.isEmpty && digits.all Char.isDigit
        else false
    mantissaOk && exponentOk

/-- What a directive asks of a recorded value. -/
inductive ValueMatch where
  | flag (b : Bool)
  | unsigned (n : Nat)
  | signed (i : Int)
  /-- A floating-point number, kept as written. -/
  | real (text : String)
  /-- A regular expression, with its source. -/
  | pattern (source : String) (p : Pattern)

/-- The same request: equal numbers or flags, or patterns of the same source. -/
def ValueMatch.same : ValueMatch → ValueMatch → Bool
  | .flag a, .flag b => a == b
  | .unsigned a, .unsigned b => a == b
  | .signed a, .signed b => a == b
  | .real a, .real b => a == b
  | .pattern a _, .pattern b _ => a == b
  | _, _ => false

/-- Reads the value a field must have: a flag, an unsigned or signed number, a
floating-point number, or else a regular expression. -/
def ValueMatch.parse (s : String) : Except String ValueMatch :=
  if s == "true" then .ok (.flag true)
  else if s == "false" then .ok (.flag false)
  else
    match readUnsigned s with
    | some n =>
      if n < unsignedLimit then .ok (.unsigned n)
      else if readsAsFloat s then .ok (.real s) else pattern
    | none =>
      match s.toList with
      | '-' :: rest =>
        match readUnsigned (String.ofList rest) with
        | some n =>
          if decide (n ≤ Nat.pow 2 63) && rest.head? != some '+' then .ok (.signed (-(n : Int)))
          else if readsAsFloat s then .ok (.real s) else pattern
        | none => if readsAsFloat s then .ok (.real s) else pattern
      | _ => if readsAsFloat s then .ok (.real s) else pattern
where
  pattern : Except String ValueMatch := (Pattern.parse s).map (.pattern s)

/-- A field a directive asks for, with the value it must hold if one is given. -/
structure FieldMatch where
  name : String
  value : Option ValueMatch

/-- The same field asked for the same way. -/
def FieldMatch.same (a b : FieldMatch) : Bool :=
  a.name == b.name &&
    match a.value, b.value with
    | none, none => true
    | some x, some y => x.same y
    | _, _ => false

/-- Reads `name` or `name=value`; text after a second `=` is left out. -/
def FieldMatch.parse (s : String) : Except String FieldMatch :=
  match s.splitOn "=" with
  | name :: value :: _ => do pure ⟨name, some (← ValueMatch.parse value)⟩
  | _ => .ok ⟨s, none⟩

/-- One filter directive. -/
structure Directive where
  origin : Option String := none
  span : Option String := none
  fields : List FieldMatch := []
  limit : Limit := 5

/-- Why reading a directive stopped. -/
inductive Stop where
  /-- The directive is malformed; the program goes on without it. -/
  | invalid (reason : String)
  /-- The program stops with this message. -/
  | aborted (message : String)

/-- The reason given for a malformed directive. -/
def malformed : Stop := .invalid "invalid filter directive"

/-- The reason given for a word that names no level. -/
def badLevel : Stop :=
  .invalid ("error parsing level filter: expected one of \"off\", \"error\", \"warn\", " ++
    "\"info\", \"debug\", \"trace\", or a number 0-5")

/-- The characters of a text with the byte offset each starts at. -/
def byteOffsets (s : String) : List (Nat × Char) :=
  (s.toList.foldl (fun (acc : List (Nat × Char) × Nat) c =>
    (acc.1 ++ [(acc.2, c)], acc.2 + c.utf8Size)) ([], 0)).1

/-- Whether a byte offset falls between two characters of the text (or at an end). -/
def isBoundary (s : String) (i : Nat) : Bool :=
  i == s.utf8ByteSize || (byteOffsets s).any (·.1 == i)

/-- The text as shown in a message about it: cut after 256 bytes, at a character boundary,
with `[...]` after a cut. -/
def shownText (s : String) : String :=
  if s.utf8ByteSize ≤ 256 then s
  else String.ofList (((byteOffsets s).filter fun (i, c) => i + c.utf8Size ≤ 256).map (·.2)) ++
    "[...]"

/-- The stop for a cut at a byte offset inside a character. -/
def cutInside (s : String) (i : Nat) : Stop :=
  match (byteOffsets s).find? fun (start, c) => start < i && i < start + c.utf8Size with
  | some (start, c) =>
    .aborted ("byte index " ++ Decimal.digitsOf i ++ " is not a char boundary; it is inside " ++
      quotedChar c ++ " (bytes " ++ Decimal.digitsOf start ++ ".." ++
      Decimal.digitsOf (start + c.utf8Size) ++ ") of `" ++ shownText s ++ "`")
  | none => .aborted ("byte index " ++ Decimal.digitsOf i ++ " is out of bounds of `" ++ shownText s ++ "`")

/-- The part of a text between two byte offsets; a cut inside a character or past the end
stops. -/
def byteSlice (s : String) (a b : Nat) : Except Stop String :=
  if s.utf8ByteSize < a then .error (cutInside s a)
  else if s.utf8ByteSize < b then .error (cutInside s b)
  else if !isBoundary s a then .error (cutInside s a)
  else if !isBoundary s b then .error (cutInside s b)
  else .ok (String.ofList (((byteOffsets s).filter fun (i, _) => a ≤ i && i < b).map (·.2)))

/-- Where the machine reading a directive stands; offsets are where the current part began. -/
inductive ReadState where
  | start
  | levelOrOrigin (begin : Nat)
  | span (begin : Nat)
  | field (begin : Nat)
  | fields
  | origin
  | level (begin : Nat)
  | complete

/-- Whether a character may begin a directive. -/
def opensDirective (c : Char) : Bool := c == '-' || c == ':' || c == '_' || alphanumeric.contains c

/-- A field written between braces. -/
def fieldPart (text : String) (a b : Nat) : Except Stop FieldMatch := do
  let part ← byteSlice text a b
  if part.isEmpty then throw malformed
  match FieldMatch.parse part with
  | .ok f => pure f
  | .error reason => throw (.invalid ("invalid field filter: " ++ reason))

/-- A word read as a limit, or as an origin when it names none. -/
def levelOrOrigin (d : Directive) (word : String) : Directive :=
  match Limit.parse? word with
  | some limit => { d with limit, origin := none }
  | none => { d with limit := 5, origin := some word }

/-- The limit after `=`: every level when it is empty. -/
def levelPart (d : Directive) (word : String) : Except Stop Directive :=
  if word.isEmpty then .ok { d with limit := 5 }
  else
    match Limit.parse? word with
    | some limit => .ok { d with limit }
    | none => .error badLevel

/-- One move of the machine on the character `c` at offset `i`. -/
def readStep (text : String) (d : Directive) (state : ReadState) (i : Nat) (c : Char) :
    Except Stop (Directive × ReadState) :=
  match state, c with
  | .start, '[' => .ok (d, .span (i + 1))
  | .start, c => if opensDirective c then .ok (d, .levelOrOrigin i) else .error malformed
  | .levelOrOrigin b, '=' => do
    let o ← byteSlice text b i
    pure ({ d with origin := some o }, .level (i + 1))
  | .levelOrOrigin b, '[' => do
    let o ← byteSlice text b i
    pure ({ d with origin := some o }, .span (i + 1))
  | .levelOrOrigin b, ',' => do
    let w ← byteSlice text b text.utf8ByteSize
    pure (levelOrOrigin d w, .complete)
  | .levelOrOrigin b, _ => .ok (d, .levelOrOrigin b)
  | .origin, '=' => .ok (d, .level (i + 1))
  | .span b, ']' => do
    let name ← byteSlice text b i
    pure ({ d with span := some name }, .origin)
  | .span b, '\x7b' => do
    let name ← byteSlice text b i
    pure ({ d with span := if name.isEmpty then none else some name }, .field (i + 1))
  | .span b, _ => .ok (d, .span b)
  | .field b, '\x7d' => do
    let f ← fieldPart text b i
    pure ({ d with fields := d.fields ++ [f] }, .fields)
  | .field b, ',' => do
    let f ← fieldPart text b i
    pure ({ d with fields := d.fields ++ [f] }, .field (i + 1))
  | .field b, _ => .ok (d, .field b)
  | .fields, ']' => .ok (d, .origin)
  | .level b, ',' => do
    let w ← byteSlice text b i
    pure (← levelPart d w, .complete)
  | .level b, _ => .ok (d, .level b)
  | _, _ => .error malformed

/-- Runs the machine over the characters with their offsets. -/
def readSteps (text : String) : Directive → ReadState → List (Nat × Char) →
    Except Stop (Directive × ReadState)
  | d, state, [] => .ok (d, state)
  | d, state, (i, c) :: rest => do
    let (d, state) ← readStep text d state i c
    readSteps text d state rest

/-- Reads a directive. -/
def Directive.read (text : String) : Except Stop Directive := do
  let (d, state) ← readSteps text {} .start (byteOffsets (trimWhiteSpace text))
  match state with
  | .levelOrOrigin b =>
    let w ← byteSlice text b text.utf8ByteSize
    pure (levelOrOrigin d w)
  | .level b =>
    let w ← byteSlice text b text.utf8ByteSize
    levelPart d w
  | .origin => pure d
  | .complete => pure d
  | _ => throw malformed

end KotlinMocks.Trace

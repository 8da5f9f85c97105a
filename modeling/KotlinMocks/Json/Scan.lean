import KotlinMocks.Json.Cursor
import KotlinMocks.Json.Value

/-!
# Scanning JSON tokens

The pieces of JSON text below the level of values: literal words, strings with their
escapes, and numbers. Numbers are classified as they are read: an integer without sign that
fits 64 bits, a negative integer that fits 64 bits, and otherwise a double computed from the
decimal digits and exponent by one multiplication or division by a power of ten. Each rule
also says where a fault in the text is placed.
-/

namespace KotlinMocks.Json

namespace Reader

/-- Reads the rest of a literal word (`ull` after `n`, and so on). -/
def literalTail : List Char → Reader Unit
  | [] => pure ()
  | expected :: rest => do
    match ← peek with
    | none => faultHere .eofWhileParsingValue
    | some c =>
      if c = expected then
        bump
        literalTail rest
      else
        faultAhead .expectedSomeIdent

/-- Whether a character is an ASCII digit. -/
def isDigit (c : Char) : Bool := '0' ≤ c && c ≤ '9'

/-- The value of an ASCII digit. -/
def digitValue (c : Char) : Nat := c.toNat - '0'.toNat

/-- The value of four hexadecimal digits, if they are all hexadecimal digits. -/
def hexValue (cs : List Char) : Option Nat :=
  cs.foldlM (fun acc c =>
    if '0' ≤ c && c ≤ '9' then some (acc * 16 + (c.toNat - '0'.toNat))
    else if 'a' ≤ c && c ≤ 'f' then some (acc * 16 + (c.toNat - 'a'.toNat + 10))
    else if 'A' ≤ c && c ≤ 'F' then some (acc * 16 + (c.toNat - 'A'.toNat + 10))
    else none) 0

/-- Reads the four bytes of a `\u` escape. Fewer than four bytes left is the end of the text;
four bytes that are not all hexadecimal digits are an invalid escape placed after them. -/
def hexEscape : Reader Nat := do
  let c ← get
  if c.bytesLeft < 4 then
    set { c with rest := [], position := c.position.advanceAll c.rest }
    faultHere .eofWhileParsingString
  else
    let four := c.rest.take 4
    match hexValue four with
    | some n =>
      if four.all (·.toNat < 128) then
        set { c with rest := c.rest.drop 4, position := c.position.advanceAll four }
        pure n
      else
        throw { problem := .malformed .invalidEscape, position := some (c.position.advanceBytes c.rest 4) }
    | none =>
      throw { problem := .malformed .invalidEscape, position := some (c.position.advanceBytes c.rest 4) }

/-- The character of a code point below `0x110000` that is not a surrogate. -/
def charOf (n : Nat) : Char := Char.ofNat n

/-- Reads the character of a `\u` escape after its `u`: a surrogate pair is joined, a lone
surrogate is refused. -/
def unicodeEscape : Reader Char := do
  let n ← hexEscape
  if 0xDC00 ≤ n && n ≤ 0xDFFF then faultHere .loneLeadingSurrogateInHexEscape
  else if n < 0xD800 || 0xDBFF < n then pure (charOf n)
  else
    match ← peek with
    | none => faultHere .eofWhileParsingString
    | some '\\' =>
      bump
      match ← peek with
      | none => faultHere .eofWhileParsingString
      | some 'u' =>
        bump
        let low ← hexEscape
        if low < 0xDC00 || 0xDFFF < low then faultHere .loneLeadingSurrogateInHexEscape
        else pure (charOf (((n - 0xD800) * 0x400 + (low - 0xDC00)) + 0x10000))
      | some _ => faultAhead .unexpectedEndOfHexEscape
    | some _ => faultAhead .unexpectedEndOfHexEscape

/-- Reads the character of an escape after its backslash. -/
def escape : Reader Char := do
  match ← peek with
  | none => faultHere .eofWhileParsingString
  | some c =>
    match c with
    | '"' => bump; pure '"'
    | '\\' => bump; pure '\\'
    | '/' => bump; pure '/'
    | 'b' => bump; pure '\x08'
    | 'f' => bump; pure '\x0c'
    | 'n' => bump; pure '\n'
    | 'r' => bump; pure '\r'
    | 't' => bump; pure '\t'
    | 'u' => bump; unicodeEscape
    | _ => faultAhead .invalidEscape

/-- Reads string characters after the opening quote, through the closing quote; `fuel`
bounds the number of steps and is at least the number of characters left. -/
def stringChars : Nat → List Char → Reader String
  | 0, _ => faultHere .eofWhileParsingString
  | fuel + 1, acc => do
    match ← peek with
    | none => faultHere .eofWhileParsingString
    | some '"' =>
      bump
      pure (String.ofList acc.reverse)
    | some '\\' =>
      bump
      let c ← escape
      stringChars fuel (c :: acc)
    | some c =>
      if c.toNat < 0x20 then faultAhead .controlCharacterWhileParsingString
      else
        bump
        stringChars fuel (c :: acc)

/-- Reads a string after its opening quote. -/
def stringBody : Reader String := do
  stringChars ((← get).rest.length + 1) []

/-- Skips an escape after its backslash, checking only its shape. -/
def skipEscape : Reader Unit := do
  match ← peek with
  | none => faultHere .eofWhileParsingString
  | some c =>
    match c with
    | '"' | '\\' | '/' | 'b' | 'f' | 'n' | 'r' | 't' => bump
    | 'u' => bump; discard hexEscape
    | _ => faultAhead .invalidEscape

/-- Skips string characters through the closing quote. A control character is placed at
itself here, not after it. -/
def skipStringChars : Nat → Reader Unit
  | 0 => faultHere .eofWhileParsingString
  | fuel + 1 => do
    match ← peek with
    | none => faultHere .eofWhileParsingString
    | some '"' => bump
    | some '\\' =>
      bump
      skipEscape
      skipStringChars fuel
    | some c =>
      if c.toNat < 0x20 then faultHere .controlCharacterWhileParsingString
      else
        bump
        skipStringChars fuel

/-- Skips a string after its opening quote. -/
def skipString : Reader Unit := do
  skipStringChars ((← get).rest.length + 1)

/-- The largest value of a 64-bit word. -/
def wordMax : Nat := Nat.pow 2 64 - 1

/-- The largest 32-bit signed integer. -/
def exponentMax : Int := Int.pow 2 31 - 1

/-- Whether `acc * 10 + digit` would pass `bound`. -/
def overflows (acc digit bound : Nat) : Bool :=
  acc ≥ bound / 10 && (acc > bound / 10 || digit > bound % 10)

/-- Powers of ten as doubles, from `10 ^ 0` to `10 ^ 308`. -/
def powerOfTen (k : Nat) : Float := Float.ofScientific 1 false k

/-- Divides by `10 ^ 308` until the exponent is in range or the value is zero. -/
def scaleDown : Nat → Float → Int → Float × Int
  | 0, f, e => (f, e)
  | fuel + 1, f, e =>
    if e.natAbs ≤ 308 || f == 0 then (f, e) else scaleDown fuel (f / powerOfTen 308) (e + 308)

/-- The double for `significand * 10 ^ exponent`: one rounding to a double, then one
multiplication or division by a power of ten; a result too large is out of range. -/
def fromParts (positive : Bool) (significand : Nat) (exponent : Int) : Reader Float := do
  let start := (UInt64.ofNat significand).toFloat
  if exponent.natAbs > 308 && exponent ≥ 0 && start != 0 then faultHere .numberOutOfRange
  else
    let (f, e) := scaleDown 8 start exponent
    let f :=
      if e.natAbs > 308 then f
      else if e ≥ 0 then f * powerOfTen e.toNat else f / powerOfTen e.natAbs
    if f.isInf then faultHere .numberOutOfRange
    else pure (if positive then f else -f)

/-- Reads digits after an exponent's first digit into `exp`. -/
def exponentDigits (positive zero positiveExp : Bool) : Nat → Int → Reader (Option Int)
  | 0, exp => pure (some exp)
  | fuel + 1, exp => do
    match ← peek with
    | some c =>
      if isDigit c then
        bump
        let d : Int := digitValue c
        if exp ≥ exponentMax / 10 && (exp > exponentMax / 10 || d > exponentMax % 10) then
          -- Too many exponent digits: infinity is refused, zero is kept.
          if !zero && positiveExp then faultHere .numberOutOfRange
          else
            modify fun s => { s with
              rest := s.rest.dropWhile isDigit,
              position := s.position.advanceAll (s.rest.takeWhile isDigit) }
            pure none
        else exponentDigits positive zero positiveExp fuel (exp * 10 + d)
      else pure (some exp)
    | none => pure (some exp)

/-- Reads an exponent from its `e`. -/
def exponentPart (positive : Bool) (significand : Nat) (start : Int) : Reader Float := do
  bump
  let positiveExp ← do
    match ← peek with
    | some '+' => bump; pure true
    | some '-' => bump; pure false
    | _ => pure true
  match ← peek with
  | none => faultHere .eofWhileParsingValue
  | some c =>
    if isDigit c then
      bump
      match ← exponentDigits positive (significand == 0) positiveExp
          ((← get).rest.length + 1) (digitValue c) with
      | none => pure (if positive then 0.0 else -0.0)
      | some exp =>
        let limit : Int := Int.pow 2 31
        let total := if positiveExp then start + exp else start - exp
        let clamped := max (-limit) (min (limit - 1) total)
        fromParts positive significand clamped
    else faultAhead .invalidNumber

/-- Reads fraction digits; once the significand is full, later digits are skipped. -/
def fractionDigits : Nat → Nat → Int → Bool → Reader (Nat × Int × Bool × Bool)
  | 0, s, e, any => pure (s, e, any, false)
  | fuel + 1, s, e, any => do
    match ← peek with
    | some c =>
      if isDigit c then
        if overflows s (digitValue c) wordMax then pure (s, e, any, true)
        else
          bump
          fractionDigits fuel (s * 10 + digitValue c) (e - 1) true
      else pure (s, e, any, false)
    | none => pure (s, e, any, false)

/-- Skips a run of digits. -/
def skipDigits : Reader Unit :=
  modify fun s => { s with
    rest := s.rest.dropWhile isDigit,
    position := s.position.advanceAll (s.rest.takeWhile isDigit) }

/-- Reads a fraction from its point. -/
def fractionPart (positive : Bool) (significand : Nat) (exponent : Int) : Reader Float := do
  bump
  let (s, e, sawDigit, full) ← fractionDigits ((← get).rest.length + 1) significand exponent false
  if full then
    skipDigits
    match ← peek with
    | some 'e' | some 'E' => exponentPart positive s e
    | _ => fromParts positive s e
  else if !sawDigit then
    match ← peek with
    | some _ => faultAhead .invalidNumber
    | none => faultAhead .eofWhileParsingValue
  else
    match ← peek with
    | some 'e' | some 'E' => exponentPart positive s e
    | _ => fromParts positive s e

/-- Reads the rest of an integer too long for 64 bits: each further digit scales it by ten. -/
def longInteger (positive : Bool) (significand : Nat) : Reader Float := do
  let digits := (← get).rest.takeWhile isDigit
  skipDigits
  let exponent : Int := digits.length
  match ← peek with
  | some '.' => fractionPart positive significand exponent
  | some 'e' | some 'E' => exponentPart positive significand exponent
  | _ => fromParts positive significand exponent

/-- Reads what follows an integer part: a fraction, an exponent, or nothing. -/
def afterInteger (positive : Bool) (significand : Nat) : Reader Number := do
  match ← peek with
  | some '.' => return .float (← fractionPart positive significand 0)
  | some 'e' | some 'E' => return .float (← exponentPart positive significand 0)
  | _ =>
    if positive then pure (.nat (UInt64.ofNat significand))
    else if 0 < significand && significand ≤ Nat.pow 2 63 then
      pure (.neg (Int64.ofInt (-(significand : Int))))
    else pure (.float (-(UInt64.ofNat significand).toFloat))

/-- Reads integer digits after the first one. -/
def integerDigits (positive : Bool) : Nat → Nat → Reader Number
  | 0, s => afterInteger positive s
  | fuel + 1, s => do
    match ← peek with
    | some c =>
      if isDigit c then
        if overflows s (digitValue c) wordMax then return .float (← longInteger positive s)
        else
          bump
          integerDigits positive fuel (s * 10 + digitValue c)
      else afterInteger positive s
    | none => afterInteger positive s

/-- Reads a number whose sign, if any, was already read. -/
def number (positive : Bool) : Reader Number := do
  match ← peek with
  | none => faultHere .eofWhileParsingValue
  | some '0' =>
    bump
    match ← peek with
    | some c => if isDigit c then faultAhead .invalidNumber else afterInteger positive 0
    | none => afterInteger positive 0
  | some c =>
    if isDigit c then
      bump
      integerDigits positive ((← get).rest.length + 1) (digitValue c)
    else faultAhead .invalidNumber

/-- Skips an exponent from its `e`. -/
def skipExponent : Reader Unit := do
  bump
  match ← peek with
  | some '+' | some '-' => bump
  | _ => pure ()
  match ← peek with
  | some c => if isDigit c then bump; skipDigits else faultAhead .invalidNumber
  | none => faultHere .invalidNumber

/-- Skips a number whose sign, if any, was already read, checking only its shape. -/
def skipNumber : Reader Unit := do
  match ← peek with
  | some '0' =>
    bump
    match ← peek with
    | some c => if isDigit c then faultAhead .invalidNumber else pure ()
    | none => pure ()
  | some c => if '1' ≤ c && c ≤ '9' then bump; skipDigits else faultAhead .invalidNumber
  | none => faultHere .invalidNumber
  match ← peek with
  | some '.' =>
    bump
    match ← peek with
    | some c =>
      if isDigit c then
        skipDigits
        match ← peek with
        | some 'e' | some 'E' => skipExponent
        | _ => pure ()
      else faultAhead .invalidNumber
    | none => faultAhead .invalidNumber
  | some 'e' | some 'E' => skipExponent
  | _ => pure ()

end Reader

end KotlinMocks.Json

import KotlinMocks.Text.Pattern
import KotlinMocks.Text.Blank

/-!
# The small pieces of a pattern's text

Blanks and comments (skipped when the `x` flag is on), what a backslash stands for, the flags
of a group, and the counts of a repetition in braces. Each reader takes the characters after
what it reads from and gives back the characters after what it has read.
-/

namespace KotlinMocks.Text

/-- White space and `#` comments dropped from the front; `inComment` when the front is inside
a comment, which runs to the end of its line. -/
def dropBlanksFrom (inComment : Bool) : List Char → List Char
  | [] => []
  | c :: rest =>
    if inComment then dropBlanksFrom (c != '\n') rest
    else if isWhiteSpace c then dropBlanksFrom false rest
    else if c == '#' then dropBlanksFrom true rest
    else c :: rest

/-- White space and `#` comments dropped from the front. -/
def dropBlanks (cs : List Char) : List Char := dropBlanksFrom false cs

/-- Blanks and comments dropped when they are to be ignored. -/
def skipBlanks (verbose : Bool) (cs : List Char) : List Char :=
  if verbose then dropBlanks cs else cs

theorem dropBlanksFrom_length_le (inComment : Bool) (cs : List Char) :
    (dropBlanksFrom inComment cs).length ≤ cs.length := by
  induction cs generalizing inComment with
  | nil => simp [dropBlanksFrom]
  | cons c rest ih =>
    simp only [dropBlanksFrom]
    split
    · have := ih (c != '\n'); simp only [List.length_cons]; omega
    · split
      · have := ih false; simp only [List.length_cons]; omega
      · split
        · have := ih true; simp only [List.length_cons]; omega
        · simp

/-- Skipping blanks never makes the text longer. -/
theorem skipBlanks_length_le (verbose : Bool) (cs : List Char) :
    (skipBlanks verbose cs).length ≤ cs.length := by
  unfold skipBlanks dropBlanks
  split
  · exact dropBlanksFrom_length_le false cs
  · exact Nat.le_refl _

/-- The first character that is neither white space nor a `#`, with the first character after
a `#` counting even when it is inside the comment; when there is none, the first character. -/
def peekBlanks (verbose : Bool) (cs : List Char) : Option Char :=
  if verbose then (go false cs).orElse fun _ => cs.head? else cs.head?
where
  go (inComment : Bool) : List Char → Option Char
    | [] => none
    | c :: rest =>
      if isWhiteSpace c then go inComment rest
      else if !inComment && c == '#' then go true rest
      else some c

/-- The characters that have a meaning of their own in a pattern. -/
def isMetaChar (c : Char) : Bool :=
  "\\.+*?()|[]\x7b\x7d^$#&-~".toList.contains c

/-- Whether a character may follow a backslash to stand for itself: a meta character, or any
ASCII character but letters, digits, `<` and `>`. -/
def isEscapable (c : Char) : Bool :=
  isMetaChar c || (c.toNat < 128 && !c.isAlphanum && c != '<' && c != '>')

/-- Whether a character is a hexadecimal digit. -/
def isHexDigit (c : Char) : Bool :=
  c.isDigit || ('a' ≤ c && c ≤ 'f') || ('A' ≤ c && c ≤ 'F')

/-- The value of hexadecimal digits. -/
def hexValue (cs : List Char) : Nat :=
  cs.foldl (fun n c =>
    16 * n + (if c.isDigit then c.toNat - '0'.toNat
      else if 'a' ≤ c && c ≤ 'f' then c.toNat - 'a'.toNat + 10
      else c.toNat - 'A'.toNat + 10)) 0

/-- The character a code point names, if it names one. -/
def charOfCode? (n : Nat) : Option Char :=
  if n < 0xD800 || (0xDFFF < n && n ≤ 0x10FFFF) then some (Char.ofNat n) else none

/-- The conditions written with a backslash. -/
inductive AssertionEscape where
  /-- `\A` -/
  | textStart
  /-- `\z` -/
  | textEnd
  /-- `\b` -/
  | wordBoundary
  /-- `\B` -/
  | notWordBoundary
  /-- `\<` or `\b{start}` -/
  | wordStart
  /-- `\>` or `\b{end}` -/
  | wordEnd
  /-- `\b{start-half}` -/
  | wordStartHalf
  /-- `\b{end-half}` -/
  | wordEndHalf

/-- The condition an escape names. Conditions on words need the Unicode word characters
unless Unicode is off. -/
def AssertionEscape.toAssertion (unicode : Bool) : AssertionEscape → Except String Assertion
  | .textStart => .ok .textStart
  | .textEnd => .ok .textEnd
  | e =>
    if unicode then .error "Unicode word boundaries are not available"
    else .ok (match e with
      | .wordBoundary => .wordBoundary
      | .notWordBoundary => .notWordBoundary
      | .wordStart => .wordStart
      | .wordEnd => .wordEnd
      | .wordStartHalf => .wordStartHalf
      | _ => .wordEndHalf)

/-- What a backslash and the characters after it stand for. -/
inductive Escape where
  /-- A character; `byte` when it is written `\xNN`, which names a byte when Unicode is off. -/
  | literal (c : Char) (byte : Bool)
  /-- `\d`, `\s` or `\w`, negated when written in capitals. -/
  | perl (k : PerlClass) (negated : Bool)
  | assert (a : AssertionEscape)

/-- Reads exactly `count` hexadecimal digits, blanks between them skipped as the flags say. -/
def readFixedHex (verbose : Bool) : Nat → List Char → List Char →
    Except String (List Char × List Char)
  | 0, digits, cs => .ok (digits, cs)
  | count + 1, digits, cs =>
    match cs with
    | c :: rest =>
      if isHexDigit c then readFixedHex verbose count (digits ++ [c]) (skipBlanks verbose rest)
      else .error "invalid hexadecimal digit"
    | [] => .error "incomplete escape sequence"

/-- Reads hexadecimal digits up to a closing brace. -/
def readBracedHex (verbose : Bool) : List Char → List Char →
    Except String (List Char × List Char)
  | _, [] => .error "incomplete escape sequence"
  | digits, c :: rest =>
    if c == '\x7d' then .ok (digits, skipBlanks verbose rest)
    else if isHexDigit c then readBracedHex verbose (digits ++ [c]) (skipBlanks verbose rest)
    else .error "invalid hexadecimal digit"
termination_by _ cs => cs.length
decreasing_by
  have := skipBlanks_length_le verbose rest
  simp only [List.length_cons]
  omega

/-- Reads the code point of `\x`, `\u` or `\U` after the letter: `width` digits, or any number
of digits in braces. -/
def readHex (verbose : Bool) (width : Nat) (byte : Bool) (cs : List Char) :
    Except String (Escape × List Char) :=
  match skipBlanks verbose cs with
  | [] => .error "incomplete escape sequence"
  | '\x7b' :: rest => do
    let (digits, after) ← readBracedHex verbose [] (skipBlanks verbose rest)
    if digits.isEmpty then throw "empty hexadecimal escape"
    match charOfCode? (hexValue digits) with
    | some c => pure (.literal c false, after)
    | none => throw "invalid hexadecimal escape"
  | start => do
    let (digits, after) ← readFixedHex verbose width [] start
    match charOfCode? (hexValue digits) with
    | some c => pure (.literal c byte, after)
    | none => throw "invalid hexadecimal escape"

/-- Whether a character may stand in the name of a special word boundary. -/
def isBoundaryNameChar (c : Char) : Bool := c.isAlpha || c == '-'

/-- Reads the name of a special word boundary, up to its closing brace. -/
def readBoundaryName (verbose : Bool) : List Char → List Char →
    Except String (List Char × List Char)
  | name, c :: rest =>
    if isBoundaryNameChar c then readBoundaryName verbose (name ++ [c]) (skipBlanks verbose rest)
    else if c == '\x7d' then .ok (name, rest)
    else .error "unclosed special word boundary"
  | _, [] => .error "unclosed special word boundary"
termination_by _ cs => cs.length
decreasing_by
  have := skipBlanks_length_le verbose rest
  simp only [List.length_cons]
  omega

/-- After `\b`: a special word boundary such as `\b{start}` when a brace and a name follow;
otherwise a plain word boundary, and a brace is left to be read as a count. -/
def readWordBoundary (verbose : Bool) (cs : List Char) : Except String (Escape × List Char) :=
  match cs with
  | '\x7b' :: rest =>
    match skipBlanks verbose rest with
    | [] => .error "unexpected end after a word boundary"
    | c :: more =>
      if !isBoundaryNameChar c then .ok (.assert .wordBoundary, cs)
      else do
        let (name, after) ← readBoundaryName verbose [] (c :: more)
        match String.ofList name with
        | "start" => pure (.assert .wordStart, after)
        | "end" => pure (.assert .wordEnd, after)
        | "start-half" => pure (.assert .wordStartHalf, after)
        | "end-half" => pure (.assert .wordEndHalf, after)
        | _ => throw "unrecognized special word boundary"
  | _ => .ok (.assert .wordBoundary, cs)

/-- Reads what follows a backslash. -/
def readEscape (verbose : Bool) : List Char → Except String (Escape × List Char)
  | [] => .error "incomplete escape sequence"
  | c :: rest =>
    if c.isDigit then .error "backreferences are not supported"
    else match c with
    | 'x' => readHex verbose 2 true rest
    | 'u' => readHex verbose 4 false rest
    | 'U' => readHex verbose 8 false rest
    | 'p' => .error "Unicode classes are not available"
    | 'P' => .error "Unicode classes are not available"
    | 'd' => .ok (.perl .digit false, rest)
    | 'D' => .ok (.perl .digit true, rest)
    | 's' => .ok (.perl .space false, rest)
    | 'S' => .ok (.perl .space true, rest)
    | 'w' => .ok (.perl .word false, rest)
    | 'W' => .ok (.perl .word true, rest)
    | _ =>
      if isEscapable c then .ok (.literal c false, rest)
      else match c with
      | 'a' => .ok (.literal '\x07' false, rest)
      | 'f' => .ok (.literal '\x0c' false, rest)
      | 't' => .ok (.literal '\t' false, rest)
      | 'n' => .ok (.literal '\n' false, rest)
      | 'r' => .ok (.literal '\r' false, rest)
      | 'v' => .ok (.literal '\x0b' false, rest)
      | 'A' => .ok (.assert .textStart, rest)
      | 'z' => .ok (.assert .textEnd, rest)
      | 'b' => readWordBoundary verbose rest
      | 'B' => .ok (.assert .notWordBoundary, rest)
      | '<' => .ok (.assert .wordStart, rest)
      | '>' => .ok (.assert .wordEnd, rest)
      | _ => .error "unrecognized escape sequence"

/-- Reads the flags of `(?flags)` or `(?flags:` up to the closing bracket or colon. Gives the
new flags, whether a colon ended them, whether any flag was written, and the rest. A flag
after `-` is turned off; a flag may not be written twice, nor `-`, and `-` may not come last. -/
def readFlags (flags : PatternFlags) : List Char → Bool → List Char →
    Except String (PatternFlags × Bool × Bool × List Char)
  | [], _, _ => .error "unexpected end in flags"
  | c :: rest, negate, written =>
    if c == ')' || c == ':' then
      if written.getLast? == some '-' then .error "dangling flag negation"
      else .ok (flags, c == ':', !written.isEmpty, rest)
    else if rest.isEmpty then .error "unexpected end in flags"
    else if c == '-' then
      if negate then .error "repeated flag negation" else readFlags flags rest true (written ++ [c])
    else if written.contains c then .error "duplicate flag"
    else
      let on := !negate
      let next? : Option PatternFlags := match c with
        | 'i' => some { flags with caseless := on }
        | 'm' => some { flags with multiLine := on }
        | 's' => some { flags with dotAll := on }
        | 'U' => some { flags with swapGreed := on }
        | 'x' => some { flags with verbose := on }
        | 'u' => some { flags with unicode := on }
        | 'R' => some { flags with crlf := on }
        | _ => none
      match next? with
      | some f => readFlags f rest negate (written ++ [c])
      | none => .error "unrecognized flag"

/-- Reads the digits of a count; after a digit, blanks are skipped when they are ignored
(`inComment` inside a comment there). -/
def readDigits (verbose : Bool) : Bool → List Char → List Char → List Char × List Char
  | inComment, digits, c :: rest =>
    if inComment then readDigits verbose (c != '\n') digits rest
    else if c.isDigit then readDigits verbose false (digits ++ [c]) rest
    else if verbose && !digits.isEmpty && isWhiteSpace c then readDigits verbose false digits rest
    else if verbose && !digits.isEmpty && c == '#' then readDigits verbose true digits rest
    else (digits, c :: rest)
  | _, digits, [] => (digits, [])

/-- Reads a decimal count inside braces, with white space around it. Gives `none` when there
are no digits. -/
def readDecimal (verbose : Bool) (cs : List Char) : Option Nat × List Char :=
  let (digits, rest) := readDigits verbose false [] (cs.dropWhile isWhiteSpace)
  (if digits.isEmpty then none
    else some (digits.foldl (fun n d => 10 * n + (d.toNat - '0'.toNat)) 0),
    rest.dropWhile isWhiteSpace)

/-- The largest count a repetition may have. -/
def countLimit : Nat := 4294967295

/-- Reads the counts of a repetition after its opening brace, up to and past the closing one:
`n`, `n,` or `n,m` with `n ≤ m`. -/
def readCounts (verbose : Bool) (cs : List Char) : Except String (Nat × Option Nat × List Char) :=
  match skipBlanks verbose cs with
  | [] => .error "unclosed counted repetition"
  | cs => do
    let (least?, rest) := readDecimal verbose cs
    let checked (n? : Option Nat) : Except String Nat :=
      match n? with
      | some n => if n ≤ countLimit then .ok n else .error "invalid decimal"
      | none => .error "empty decimal in a counted repetition"
    let (least, most, rest) ← match rest with
      | ',' :: after =>
        match skipBlanks verbose after with
        | [] => throw "unclosed counted repetition"
        | '\x7d' :: more => do
          let least ← checked least?
          pure (least, none, '\x7d' :: more)
        | more => do
          let least ← checked least?
          let (most?, rest) := readDecimal verbose more
          let most ← checked most?
          pure (least, some most, rest)
      | rest => do
        let least ← checked least?
        pure (least, some least, rest)
    match rest with
    | '\x7d' :: after =>
      match most with
      | some m => if m < least then throw "invalid counted repetition range" else pure (least, most, after)
      | none => pure (least, most, after)
    | _ => throw "unclosed counted repetition"

end KotlinMocks.Text

import KotlinMocks.Text.Pattern.Bracket
import KotlinMocks.Text.Classes

/-!
# Reading a pattern

`Pattern.parse` reads the text of a regular expression: literals, `.`, bracketed classes, the
classes `\d`, `\s` and `\w` with Unicode off, groups (capturing, named, or `(?:…)`, and
`(?flags)` for the rest of a group), alternation, the repetitions `*`, `+`, `?` and `{n,m}`
(each lazy when followed by `?`), the anchors `^`, `$`, `\A` and `\z`, and the word boundaries
with Unicode off. The flags are `i` (ignore case), `m` (anchors at lines), `s` (`.` takes line
feeds), `U` (repetitions lazy unless marked), `x` (blanks and `#` comments ignored), `u`
(Unicode) and `R` (carriage returns end lines too).

The Unicode tables of word characters, digits, white space and case are not available, so a
pattern that needs one of them is refused: `\w`, `\d` and `\s` with Unicode on, word boundaries
with Unicode on, and ignoring case with Unicode on. With Unicode off, a pattern that could match
a byte outside ASCII on its own is refused, since the text matched is always valid UTF-8.
Patterns nested more than `Pattern.nestLimit` levels deep are refused too.
-/

namespace KotlinMocks.Text

/-- A part of a sequence being read: its pattern, how deeply its syntax nests, and whether a
repetition may follow it (flags set for the rest of a group cannot be repeated). -/
structure Piece where
  pattern : Pattern
  depth : Nat
  repeatable : Bool := true

/-- The pattern of a sequence of pieces in order, and how deeply it nests: a sequence of several
pieces is one level deeper than its deepest piece. -/
def sequenceOf (pieces : List Piece) : Pattern × Nat :=
  let depth := (pieces.map (·.depth)).foldl max 0
  (go pieces, if 2 ≤ pieces.length then depth + 1 else depth)
where
  go : List Piece → Pattern
    | [] => .empty
    | [p] => p.pattern
    | p :: ps => .seq p.pattern (go ps)

/-- The pattern of alternatives in order, the left one preferred, and how deeply it nests:
several alternatives are one level deeper than the deepest of them. -/
def alternativesOf (branches : List (Pattern × Nat)) : Pattern × Nat :=
  let depth := (branches.map (·.2)).foldl max 0
  (go branches, if 2 ≤ branches.length then depth + 1 else depth)
where
  go : List (Pattern × Nat) → Pattern
    | [] => .empty
    | [b] => b.1
    | b :: bs => .alt b.1 (go bs)

/-- A character, alone. Ignoring case needs the Unicode case tables unless Unicode is off, and
then only ASCII letters have another case. With Unicode off, `\xNN` past ASCII names a byte
that is not a character. -/
def literalPattern (flags : PatternFlags) (c : Char) (byte : Bool) : Except String Pattern :=
  if !flags.unicode && byte && 0x80 ≤ c.toNat then .error "pattern can match invalid UTF-8"
  else if !flags.caseless then .ok (.char (.single c))
  else if flags.unicode then .error "Unicode-aware case insensitivity matching is not available"
  else .ok (.char (CharClass.ofRanges [(c.toNat, c.toNat)]).foldBytes.toCharSet)

/-- What an escape stands for outside a class. -/
def escapePattern (flags : PatternFlags) : Escape → Except String Pattern
  | .literal c byte => literalPattern flags c byte
  | .perl k negated =>
    if flags.unicode then .error "Unicode-aware Perl classes are not available"
    else do
      let c ← CharClass.close .bytes false negated (CharClass.ofRanges k.asciiRanges)
      pure (.char c.toCharSet)
  | .assert a => do pure (.assert (← a.toAssertion flags.unicode))

/-- What `.` matches: any character but a line feed (and a carriage return when `R` is on),
or any character at all with `s`. With Unicode off it would match any byte. -/
def dotPattern (flags : PatternFlags) : Except String Pattern :=
  if !flags.unicode then .error "pattern can match invalid UTF-8"
  else if flags.dotAll then .ok (.char .everything)
  else if flags.crlf then .ok (.char .notLineBreak)
  else .ok (.char .notNewline)

/-- What `^` matches. -/
def lineStartPattern (flags : PatternFlags) : Pattern :=
  .assert (if !flags.multiLine then .textStart else if flags.crlf then .lineStartCrlf else .lineStart)

/-- What `$` matches. -/
def lineEndPattern (flags : PatternFlags) : Pattern :=
  .assert (if !flags.multiLine then .textEnd else if flags.crlf then .lineEndCrlf else .lineEnd)

/-- Whether a character may stand in a group's name: a letter or `_` first, then also digits,
`.`, `[` and `]`. -/
def isNameChar (first : Bool) (c : Char) : Bool :=
  if first then c == '_' || alphabetic.contains c
  else c == '_' || c == '.' || c == '[' || c == ']' || alphanumeric.contains c

/-- Reads a group's name up to and past its `>`; a name may not be empty, nor used twice. -/
def readGroupName (names : List String) (cs : List Char) :
    Except String (List String × List Char) :=
  let name := cs.takeWhile (· != '>')
  match cs.dropWhile (· != '>') with
  | '>' :: after =>
    if name.isEmpty then .error "empty capture group name"
    else if !(name.head? |>.all (isNameChar true)) || !(name.drop 1).all (isNameChar false) then
      .error "invalid capture group character"
    else if names.contains (String.ofList name) then .error "duplicate capture group name"
    else .ok (names ++ [String.ofList name], after)
  | _ => .error "unclosed capture group name"

/-- The repetition of the last piece read, lazy when `lazy` (greed swapped by `U`). -/
def repeatLast (flags : PatternFlags) (current : List Piece) (least : Nat) (most : Option Nat)
    (lazy : Bool) : Except String (List Piece) :=
  match current with
  | last :: before =>
    if !last.repeatable then .error "repetition operator missing expression"
    else .ok (⟨Pattern.repetition last.pattern least most (lazy == flags.swapGreed),
      last.depth + 1, true⟩ :: before)
  | [] => .error "repetition operator missing expression"

/-- Whether a group opens with a look-around, which is not supported. -/
def opensLookAround : List Char → Bool
  | '?' :: '=' :: _ => true
  | '?' :: '!' :: _ => true
  | '?' :: '<' :: '=' :: _ => true
  | '?' :: '<' :: '!' :: _ => true
  | _ => false

/-- What a group opening reads as. -/
inductive GroupStart where
  /-- A group whose inside is read with these flags. -/
  | group (flags : PatternFlags) (names : List String) (rest : List Char)
  /-- Flags for the rest of the enclosing group. -/
  | setFlags (flags : PatternFlags) (rest : List Char)

/-- Reads what follows an opening bracket. -/
def readGroupStart (flags : PatternFlags) (names : List String) (cs : List Char) :
    Except String GroupStart := do
  let cs := skipBlanks flags.verbose cs
  if opensLookAround cs then throw "look-around is not supported"
  match cs with
  | '?' :: 'P' :: '<' :: rest => do
    let (names, after) ← readGroupName names rest
    pure (.group flags names after)
  | '?' :: '<' :: rest => do
    let (names, after) ← readGroupName names rest
    pure (.group flags names after)
  | '?' :: rest => do
    if rest.isEmpty then throw "unclosed group"
    let (f, colon, written, after) ← readFlags flags rest false []
    if colon then pure (.group f names after)
    else if !written then throw "repetition operator missing expression"
    else pure (.setFlags f after)
  | rest => pure (.group flags names rest)

/-- Reads the alternatives of a group up to its closing bracket (left in the rest) or the end
of the pattern. `branches` holds the finished alternatives with their depths, `current` the
pieces of the one being read, last first, and `names` the group names used so far. -/
def readBranches : Nat → PatternFlags → List String → List (Pattern × Nat) → List Piece →
    List Char → Except String ((Pattern × Nat) × List String × List Char)
  | 0, _, _, _, _, _ => .error "pattern nests too deeply"
  | fuel + 1, flags, names, branches, current, cs =>
    let v := flags.verbose
    match skipBlanks v cs with
    | [] => .ok (alternativesOf (branches ++ [sequenceOf current.reverse]), names, [])
    | ')' :: rest =>
      .ok (alternativesOf (branches ++ [sequenceOf current.reverse]), names, ')' :: rest)
    | '|' :: rest =>
      readBranches fuel flags names (branches ++ [sequenceOf current.reverse]) [] rest
    | '?' :: rest => do
      let (lazy, rest) := match rest with
        | '?' :: after => (true, after)
        | after => (false, after)
      readBranches fuel flags names branches (← repeatLast flags current 0 (some 1) lazy) rest
    | '*' :: rest => do
      let (lazy, rest) := match rest with
        | '?' :: after => (true, after)
        | after => (false, after)
      readBranches fuel flags names branches (← repeatLast flags current 0 none lazy) rest
    | '+' :: rest => do
      let (lazy, rest) := match rest with
        | '?' :: after => (true, after)
        | after => (false, after)
      readBranches fuel flags names branches (← repeatLast flags current 1 none lazy) rest
    | '\x7b' :: rest => do
      match current with
      | last :: _ => if !last.repeatable then throw "repetition operator missing expression"
      | [] => throw "repetition operator missing expression"
      let (least, most, rest) ← readCounts v rest
      let (lazy, rest) := match skipBlanks v rest with
        | '?' :: after => (true, after)
        | after => (false, after)
      readBranches fuel flags names branches (← repeatLast flags current least most lazy) rest
    | '(' :: rest => do
      match ← readGroupStart flags names rest with
      | .setFlags f after =>
        readBranches fuel f names branches (⟨.empty, 0, false⟩ :: current) after
      | .group f names after =>
        let ((inner, depth), names, after) ← readBranches fuel f names [] [] after
        match after with
        | ')' :: more =>
          readBranches fuel flags names branches (⟨inner, depth + 1, true⟩ :: current) more
        | _ => throw "unclosed group"
    | '[' :: rest => do
      let (part, rest) ← readBracket flags rest
      readBranches fuel flags names branches (⟨.char part.value.toCharSet, part.depth, true⟩ :: current) rest
    | '\\' :: rest => do
      let (e, rest) ← readEscape v rest
      readBranches fuel flags names branches (⟨← escapePattern flags e, 0, true⟩ :: current) rest
    | '.' :: rest => do
      readBranches fuel flags names branches (⟨← dotPattern flags, 0, true⟩ :: current) rest
    | '^' :: rest =>
      readBranches fuel flags names branches (⟨lineStartPattern flags, 0, true⟩ :: current) rest
    | '$' :: rest =>
      readBranches fuel flags names branches (⟨lineEndPattern flags, 0, true⟩ :: current) rest
    | c :: rest => do
      readBranches fuel flags names branches (⟨← literalPattern flags c false, 0, true⟩ :: current) rest

namespace Pattern

/-- Reads a pattern, or says why it cannot be read. -/
def parse (text : String) : Except String Pattern := do
  let cs := text.toList
  let ((p, depth), _, rest) ← readBranches (2 * cs.length + 2) {} [] [] [] cs
  if !rest.isEmpty then throw "unopened group"
  if nestLimit < depth then throw "exceeds the nest limit"
  if sizeLimit < p.cost + p.overhead then throw "compiled regex exceeds size limit"
  pure p

end Pattern

end KotlinMocks.Text

import KotlinMocks.Text.Utf8Ranges

/-!
# Regular expressions

The regular expressions that filters match recorded values with, in the form the search runs:
characters from a set, conditions on the position between two characters, sequences,
alternatives (the left one preferred) and repetitions (as often as possible, or as rarely).
`Pattern.parse` reads them from their text.

Words, for the conditions that speak of them, are ASCII words: letters, digits and the
underscore. The reader refuses every pattern whose meaning would need the Unicode tables of
word characters, digits, white space or case, so no condition here needs more.
-/

namespace KotlinMocks.Text

/-- Conditions on the position between two characters. -/
inductive Assertion where
  | textStart
  | textEnd
  /-- At the start of the text or after a line feed. -/
  | lineStart
  /-- At the end of the text or before a line feed. -/
  | lineEnd
  /-- At the start of the text, after a line feed, or after a carriage return that no line
  feed follows. -/
  | lineStartCrlf
  /-- At the end of the text, before a carriage return, or before a line feed that no carriage
  return precedes. -/
  | lineEndCrlf
  | wordBoundary
  | notWordBoundary
  /-- No word character before, one after. -/
  | wordStart
  /-- A word character before, none after. -/
  | wordEnd
  /-- No word character before. -/
  | wordStartHalf
  /-- No word character after. -/
  | wordEndHalf
  deriving DecidableEq

/-- A regular expression. -/
inductive Pattern where
  /-- The empty text. -/
  | empty
  /-- One character of the set. -/
  | char (s : CharSet)
  /-- No text, at a position where a condition holds. -/
  | assert (a : Assertion)
  | seq (a b : Pattern)
  /-- Either side, the left one first. -/
  | alt (a b : Pattern)
  /-- The body at least `least` times and at most `most` times (no bound when `none`), as
  often as possible when `greedy`, else as rarely as possible. -/
  | rep (body : Pattern) (least : Nat) (most : Option Nat) (greedy : Bool)

namespace Pattern

/-- Whether the pattern can match the empty text, conditions aside. -/
def nullable : Pattern → Bool
  | .empty => true
  | .char _ => false
  | .assert _ => true
  | .seq a b => a.nullable && b.nullable
  | .alt a b => a.nullable || b.nullable
  | .rep body least _ _ => least == 0 || body.nullable

/-- Whether the pattern can only match the empty text. -/
def onlyEmpty : Pattern → Bool
  | .empty => true
  | .char _ => false
  | .assert _ => true
  | .seq a b => a.onlyEmpty && b.onlyEmpty
  | .alt a b => a.onlyEmpty && b.onlyEmpty
  | .rep body _ _ _ => body.onlyEmpty

/-- A repetition, simplified: a body that only matches the empty text is taken at most once,
zero times is the empty pattern and exactly once is the body itself. -/
def repetition (body : Pattern) (least : Nat) (most : Option Nat) (greedy : Bool) : Pattern :=
  let (least, most) :=
    if body.onlyEmpty then (min least 1, some ((most.map (min · 1)).getD 1)) else (least, most)
  if least == 0 && most == some 0 then .empty
  else if least == 1 && most == some 1 then body
  else .rep body least most greedy

/-- The bytes one compiled state takes. -/
def stateBytes : Nat := 32

/-- The bytes one transition of a state that branches on byte ranges takes. -/
def transitionBytes : Nat := 8

/-- The bytes one way out of a branching state takes. -/
def branchBytes : Nat := 4

/-- The bytes the states of a set of characters take. A single character is one state per
byte of its encoding; a set of ASCII characters is one state with a transition per range,
and a state after it. Any other set is a trie over the byte sequences of its characters,
equal subtries built once, ending in one shared state. -/
def charSetCost (s : CharSet) : Nat :=
  match s.ranges with
  | [(a, b)] =>
    if a == b then stateBytes * (utf8Bytes a).length else wideCost
  | _ => wideCost
where
  wideCost : Nat :=
    if s.ranges.all (·.2 < 0x80) then 2 * stateBytes + transitionBytes * s.ranges.length
    else
      let nodes := (ByteTrie.ofSequences 4 s.utf8Sequences).subtries.eraseDups
      nodes.foldl (fun total t => total + stateBytes + transitionBytes * t.width) stateBytes

/-- The bytes the compiled states of a pattern take, as the program is built: a sequence of
states per character, a branch with its ways out and a state to join after it for
alternatives, and for repetitions as many copies of the body as the counts need, tied by
branches. A body that can match the empty text is repeated without bound as `(x+)?`. -/
def cost : Pattern → Nat
  | .empty => stateBytes
  | .char s => charSetCost s
  | .assert _ => stateBytes
  | .seq a b => a.cost + b.cost
  | .alt a b =>
    let last := match b with
      | .alt _ _ => 0
      | _ => 2 * stateBytes + branchBytes
    a.cost + b.cost + branchBytes + last
  | .rep body least most _ =>
    let branch := stateBytes + 2 * branchBytes
    match most with
    | none =>
      if least == 0 then
        if body.nullable then body.cost + 2 * branch + stateBytes else body.cost + branch
      else least * body.cost + branch
    | some m =>
      if least == 0 && m == 1 then body.cost + branch + stateBytes
      else if least == m then least * body.cost
      else
        let required := if least == 0 then stateBytes else least * body.cost
        required + stateBytes + (m - least) * (body.cost + branch)

/-- Whether every match of the pattern starts at the start of the text. -/
def anchoredAtStart : Pattern → Bool
  | .assert a => a == .textStart
  | .seq a b => a.anchoredAtStart || (a.onlyEmpty && b.anchoredAtStart)
  | .alt a b => a.anchoredAtStart && b.anchoredAtStart
  | .rep body least _ _ => least != 0 && body.anchoredAtStart
  | _ => false

/-- The bytes taken around a pattern: the final state, and unless every match starts at the
start of the text, the loop that tries every later start. -/
def overhead (p : Pattern) : Nat :=
  if p.anchoredAtStart then 2 * stateBytes
  else 2 * stateBytes + (stateBytes + 2 * branchBytes) + (2 * stateBytes + transitionBytes)

/-- The most bytes the compiled states of a pattern may take. -/
def sizeLimit : Nat := 10 * 1024 * 1024

/-- How deeply the syntax of a pattern may nest: groups, repetitions, sequences, alternatives
and classes each count one level. -/
def nestLimit : Nat := 250

end Pattern

/-- Flags in force while reading a pattern. -/
structure PatternFlags where
  caseless : Bool := false
  multiLine : Bool := false
  dotAll : Bool := false
  swapGreed : Bool := false
  verbose : Bool := false
  unicode : Bool := true
  crlf : Bool := false

/-- The set of one character. -/
def CharSet.single (c : Char) : CharSet := ⟨[(c.toNat, c.toNat)]⟩

/-- Every character. -/
def CharSet.everything : CharSet := ⟨[(0, 0x10FFFF)]⟩

/-- Every character but the line feed. -/
def CharSet.notNewline : CharSet := ⟨[(0, 9), (11, 0x10FFFF)]⟩

/-- Every character but the line feed and the carriage return. -/
def CharSet.notLineBreak : CharSet := ⟨[(0, 9), (11, 12), (14, 0x10FFFF)]⟩

/-- Whether a character is an ASCII word character: a letter, a digit or the underscore. -/
def isAsciiWordChar (c : Char) : Bool := c.isAlphanum || c == '_'

/-- The ASCII classes that brackets name as `[:name:]`. -/
def asciiClass? : String → Option (List (Nat × Nat))
  | "alnum" => some [(0x30, 0x39), (0x41, 0x5A), (0x61, 0x7A)]
  | "alpha" => some [(0x41, 0x5A), (0x61, 0x7A)]
  | "ascii" => some [(0, 0x7F)]
  | "blank" => some [(9, 9), (0x20, 0x20)]
  | "cntrl" => some [(0, 0x1F), (0x7F, 0x7F)]
  | "digit" => some [(0x30, 0x39)]
  | "graph" => some [(0x21, 0x7E)]
  | "lower" => some [(0x61, 0x7A)]
  | "print" => some [(0x20, 0x7E)]
  | "punct" => some [(0x21, 0x2F), (0x3A, 0x40), (0x5B, 0x60), (0x7B, 0x7E)]
  | "space" => some [(9, 13), (0x20, 0x20)]
  | "upper" => some [(0x41, 0x5A)]
  | "word" => some [(0x30, 0x39), (0x41, 0x5A), (0x5F, 0x5F), (0x61, 0x7A)]
  | "xdigit" => some [(0x30, 0x39), (0x41, 0x46), (0x61, 0x66)]
  | _ => none

/-- The classes a letter after a backslash names. -/
inductive PerlClass where
  | digit
  | space
  | word

/-- The ASCII members of a class named by a letter. -/
def PerlClass.asciiRanges : PerlClass → List (Nat × Nat)
  | .digit => [(0x30, 0x39)]
  | .space => [(9, 13), (0x20, 0x20)]
  | .word => [(0x30, 0x39), (0x41, 0x5A), (0x5F, 0x5F), (0x61, 0x7A)]

end KotlinMocks.Text

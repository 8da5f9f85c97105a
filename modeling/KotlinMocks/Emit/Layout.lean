/-!
# Indented source text

A `Layout` is source text being written line by line at an indentation level. Text that
starts a line is indented first; a blank line is never doubled; nesting is only ever opened
around a body (`indented`, `block`), so the level after a body is the level before it.

`Layout.Step` is a small program of writing steps, run by `Layout.Step.runAll`, which also
records the level wherever a step asks for it.
-/

namespace KotlinMocks

/-- Source text being written. -/
structure Layout where
  /-- The text so far. -/
  output : String := ""
  /-- The text written once per level before a line. -/
  indentUnit : String
  /-- The current indentation level. -/
  level : Nat := 0
  /-- Whether the next text starts a line. -/
  atLineStart : Bool := true

namespace Layout

/-- Empty text indented by `width` spaces per level. -/
def new (width : Nat) : Layout := { indentUnit := "".pushn ' ' width }

/-- The indentation of one line at level `n`. -/
def indentation (unit : String) : Nat → String
  | 0 => ""
  | n + 1 => indentation unit n ++ unit

/-- Writes text, indenting it when it starts a line; empty text changes nothing. -/
def write (w : Layout) (text : String) : Layout :=
  if text.isEmpty then w
  else if w.atLineStart then
    { w with output := w.output ++ indentation w.indentUnit w.level ++ text, atLineStart := false }
  else { w with output := w.output ++ text }

/-- Ends the line. -/
def newline (w : Layout) : Layout := { w with output := w.output.push '\n', atLineStart := true }

/-- Writes text and ends the line. -/
def line (w : Layout) (text : String) : Layout := (w.write text).newline

/-- Ends the line if one is open. -/
def closeLine (w : Layout) : Layout := if w.atLineStart then w else w.newline

/-- Leaves one empty line, unless the text is empty or already ends in one. -/
def blankLine (w : Layout) : Layout :=
  let w := w.closeLine
  if !w.output.isEmpty && !w.output.endsWith "\n\n" then w.newline else w

/-- Writes `body` one level deeper, on lines of its own. -/
def indented (w : Layout) (body : Layout → Layout) : Layout :=
  let inner := body { w.closeLine with level := w.level + 1 }
  { inner.closeLine with level := w.level }

/-- Writes `header {`, the body one level deeper, and `}` on a line of its own. -/
def block (w : Layout) (header : String) (body : Layout → Layout) : Layout :=
  (((w.write header).write " \x7b").newline.indented body).line "\x7d"

/-- Writes lines one after another. -/
def lines (w : Layout) (texts : List String) : Layout := texts.foldl line w

/-- The finished text, its last line ended. -/
def finish (w : Layout) : String := w.closeLine.output

/-- One writing step. -/
inductive Step where
  | write (text : String)
  | line (text : String)
  | newline
  | blank
  /-- Records the current level. -/
  | level
  | indented (body : List Step)
  | block (header : String) (body : List Step)

mutual
/-- Runs one step, adding any recorded level to `levels`. -/
def Step.run : Step → Layout × List Nat → Layout × List Nat
  | .write text, (w, levels) => (w.write text, levels)
  | .line text, (w, levels) => (w.line text, levels)
  | .newline, (w, levels) => (w.newline, levels)
  | .blank, (w, levels) => (w.blankLine, levels)
  | .level, (w, levels) => (w, levels ++ [w.level])
  | .indented body, (w, levels) =>
    let inner := Step.runAll body ({ w.closeLine with level := w.level + 1 }, levels)
    ({ inner.1.closeLine with level := w.level }, inner.2)
  | .block header body, (w, levels) =>
    let opened := ((w.write header).write " \x7b").newline
    let inner := Step.runAll body ({ opened with level := opened.level + 1 }, levels)
    ({ inner.1.closeLine with level := opened.level }.line "\x7d", inner.2)

/-- Runs steps in order. -/
def Step.runAll : List Step → Layout × List Nat → Layout × List Nat
  | [], s => s
  | step :: rest, s => Step.runAll rest (Step.run step s)
end

end Layout

end KotlinMocks

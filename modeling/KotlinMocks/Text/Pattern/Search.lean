import KotlinMocks.Text.Pattern

/-!
# Searching text for a pattern

A pattern is compiled to a program of steps: test a character, branch (the first way
preferred), check a condition on the position, or finish. The search runs all ways through the
program at once, in the order of preference, one character of the text at a time; a way that
reaches the finish stops every way less preferred than it. A first way tries the pattern at
the start and prefers that to skipping a character, so the match found is the leftmost one,
and among those the one the preferences choose.

The text is searched as UTF-8 bytes, so the search also tries the pattern between the bytes of
a character. There no character can be taken and only a few conditions hold (no word character
on either side, no line break, not an end of the text); if the pattern can finish there anyway,
that match stops the search from trying any later start.

A repetition `x*` whose body can match the empty text is compiled as `(x+)?`, so that the
preferences among the ways through it are those of taking the body first.

`Pattern.matchesAtEnd` holds when the match found that way ends where the text ends: this is
what it means for a recorded value to match a filter's pattern.
-/

namespace KotlinMocks.Text

/-- One step of a compiled pattern; steps are numbered by their place in the program. -/
inductive Step where
  /-- Take one character of the set, then go on at `next`. -/
  | test (s : CharSet) (next : Nat)
  /-- Go on at both, `first` preferred. -/
  | branch (first second : Nat)
  /-- Go on at `next` where the condition holds. -/
  | check (a : Assertion) (next : Nat)
  | finish
  deriving Inhabited

/-- A compiled pattern: its steps, the one the search starts at, the one the pattern itself
starts at, and the one that passes over a character to try again after it. -/
structure Program where
  steps : Array Step
  start : Nat
  entry : Nat
  skip : Nat

/-- Adds a step to the program being built and gives its number. -/
def addStep (s : Step) : StateM (Array Step) Nat :=
  modifyGet fun steps => (steps.size, steps.push s)

/-- Places a step at a number reserved before. -/
def placeStep (at_ : Nat) (s : Step) : StateM (Array Step) Unit :=
  modify fun steps => steps.set! at_ s

/-- A branch between going on with `body` and leaving to `out`, the greedy choice preferring
the body. -/
def choice (greedy : Bool) (body out : Nat) : Step :=
  if greedy then .branch body out else .branch out body

mutual

/-- Compiles a pattern in front of the step `next`; gives the step it starts at. -/
def compileBefore : Pattern → Nat → StateM (Array Step) Nat
  | .empty, next => pure next
  | .char t, next => addStep (.test t next)
  | .assert a, next => addStep (.check a next)
  | .seq a b, next => do
    let middle ← compileBefore b next
    compileBefore a middle
  | .alt a b, next => do
    let left ← compileBefore a next
    let right ← compileBefore b next
    addStep (.branch left right)
  | .rep body least most greedy, next =>
    match most with
    | some m => do
      let tail ← optionalCopies body greedy (m - least) next
      requiredCopies body least tail
    | none =>
      if least == 0 then
        if body.nullable then do
          let again ← addStep .finish
          let entry ← compileBefore body again
          placeStep again (choice greedy entry next)
          addStep (choice greedy entry next)
        else do
          let loop ← addStep .finish
          let entry ← compileBefore body loop
          placeStep loop (choice greedy entry next)
          pure loop
      else do
        let loop ← addStep .finish
        let last ← compileBefore body loop
        placeStep loop (choice greedy last next)
        requiredCopies body (least - 1) last

/-- `count` optional copies of `body` in front of `next`, each taken only after the one before. -/
def optionalCopies (body : Pattern) (greedy : Bool) : Nat → Nat → StateM (Array Step) Nat
  | 0, next => pure next
  | count + 1, next => do
    let later ← optionalCopies body greedy count next
    let entry ← compileBefore body later
    addStep (choice greedy entry next)

/-- `count` copies of `body` in front of `next`. -/
def requiredCopies (body : Pattern) : Nat → Nat → StateM (Array Step) Nat
  | 0, next => pure next
  | count + 1, next => do
    let later ← requiredCopies body count next
    compileBefore body later

end

/-- The program of a pattern searched for anywhere: first the pattern from here, else skip a
character and try again. -/
def Pattern.compile (p : Pattern) : Program :=
  let build : StateM (Array Step) (Nat × Nat × Nat) := do
    let done ← addStep .finish
    let loop ← addStep .finish
    let entry ← compileBefore p done
    let skip ← addStep (.test .everything loop)
    placeStep loop (.branch entry skip)
    pure (loop, entry, skip)
  let ((start, entry, skip), steps) := build.run #[]
  { steps, start, entry, skip }

/-- Where in the text a condition is checked: between two characters (`none` at the ends of
the text), or between two bytes of one character. -/
inductive Gap where
  | between (before after : Option Char)
  | inside

/-- Whether a condition holds at a place in the text. Inside a character the bytes on either
side are no word characters and no line breaks. -/
def Assertion.holdsAt (a : Assertion) : Gap → Bool
  | .between before after =>
    let wordBefore := (before.map isAsciiWordChar).getD false
    let wordAfter := (after.map isAsciiWordChar).getD false
    match a with
    | .textStart => before.isNone
    | .textEnd => after.isNone
    | .lineStart => before.isNone || before == some '\n'
    | .lineEnd => after.isNone || after == some '\n'
    | .lineStartCrlf =>
      before.isNone || before == some '\n' || (before == some '\r' && after != some '\n')
    | .lineEndCrlf =>
      after.isNone || after == some '\r' || (after == some '\n' && before != some '\r')
    | .wordBoundary => wordBefore != wordAfter
    | .notWordBoundary => wordBefore == wordAfter
    | .wordStart => !wordBefore && wordAfter
    | .wordEnd => wordBefore && !wordAfter
    | .wordStartHalf => !wordBefore
    | .wordEndHalf => !wordAfter
  | .inside =>
    match a with
    | .notWordBoundary => true
    | .wordStartHalf => true
    | .wordEndHalf => true
    | _ => false

namespace Program

/-- The step at a number; a number outside the program finishes. -/
def stepAt (p : Program) (n : Nat) : Step := p.steps.getD n .finish

/-- Follows branches and conditions from the steps on `pending` (the first first), adding
each test or finish step reached to `found` once, in the order reached. -/
def follow (p : Program) (gap : Gap) :
    Nat → List Nat → List Nat → List Nat → List Nat
  | 0, _, _, found => found
  | _, [], _, found => found
  | fuel + 1, n :: pending, seen, found =>
    if seen.contains n then p.follow gap fuel pending seen found
    else
      let seen := n :: seen
      match p.stepAt n with
      | .branch a b => p.follow gap fuel (a :: b :: pending) seen found
      | .check c next =>
        if c.holdsAt gap then p.follow gap fuel (next :: pending) seen found
        else p.follow gap fuel pending seen found
      | _ => p.follow gap fuel pending seen (found ++ [n])

/-- The ways on at a position, from the steps reached, in order of preference. -/
def closure (p : Program) (gap : Gap) (from_ : List Nat) : List Nat :=
  p.follow gap (3 * p.steps.size + from_.length + 3) from_ [] []

/-- Whether the pattern can finish between the bytes of a character. -/
def finishesInside (p : Program) : Bool :=
  (p.closure .inside [p.entry]).any fun n => match p.stepAt n with
    | .finish => true
    | _ => false

/-- The steps the ways go on at after taking `c`; a way that has finished stops the less
preferred ones. When the pattern can finish inside a character, passing over a character of
several bytes ends the tries at later starts (`inside`). -/
def advance (p : Program) (inside : Bool) (c : Char) : List Nat → List Nat
  | [] => []
  | n :: rest =>
    match p.stepAt n with
    | .finish => []
    | .test s next =>
      if !s.contains c then p.advance inside c rest
      else if n == p.skip && inside && 1 < c.utf8Size then p.advance inside c rest
      else next :: p.advance inside c rest
    | _ => p.advance inside c rest

/-- Runs the ways over the rest of the text. -/
def run (p : Program) (inside : Bool) (ways : List Nat) : List Char → List Nat
  | [] => ways
  | c :: rest =>
    let ways := p.closure (.between (some c) rest.head?) (p.advance inside c ways)
    p.run inside ways rest

/-- Whether a way has finished. -/
def finished (p : Program) (ways : List Nat) : Bool :=
  ways.any fun n => match p.stepAt n with
    | .finish => true
    | _ => false

end Program

/-- Whether the leftmost-first match of the pattern in the text ends at the end of the text. -/
def Pattern.matchesAtEnd (pat : Pattern) (text : String) : Bool :=
  let p := pat.compile
  let cs := text.toList
  p.finished (p.run p.finishesInside (p.closure (.between none cs.head?) [p.start]) cs)

end KotlinMocks.Text

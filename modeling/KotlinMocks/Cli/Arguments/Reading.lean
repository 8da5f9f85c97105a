import KotlinMocks.Cli.Arguments
import KotlinMocks.Cli.Similarity

/-!
# Reading a command line

Words are read left to right. `--name` and `--name=value` name an option by a long spelling;
`-x` names one by its letter, and letters may be run together (`-hV`), the rest of the word
being the value of a letter that takes one (`-mmodel.json`, `-m=model.json`). An option that
takes a value and has none in its word takes the next word, unless that word looks like an
option (a lone `-` is a value). After `--` every word is a stray.

An option is settled when the next option comes or the words end: only then are its value
checked and a repeat refused, so a fault in a value yields to an unknown word that follows
it. An unknown long spelling may come with the most similar spelling as a tip (similarity
above 0.7, the later of equals).
-/

namespace KotlinMocks.Cli

/-- The largest count a machine word holds. -/
def countLimit : Nat := Nat.pow 2 64

/-- Reads the digits of a count from the left: a character that is no digit, or a prefix
above the limit, stops the reading with its reason, whichever comes first. -/
def readCountDigits : List Char → Nat → Except String Nat
  | [], n => .ok n
  | c :: cs, n =>
    if !c.isDigit then .error "invalid digit found in string"
    else
      let next := 10 * n + (c.toNat - '0'.toNat)
      if next ≥ countLimit then .error "number too large to fit in target type"
      else readCountDigits cs next

/-- Reads a count: decimal digits after an optional plus sign. -/
def readCount (s : String) : Except String Nat :=
  match s.toList with
  | [] => .error "cannot parse integer from empty string"
  | ['+'] => .error "invalid digit found in string"
  | '+' :: digits => readCountDigits digits 0
  | digits => readCountDigits digits 0

/-- The long spelling most similar to `name`, if any is similar enough. -/
def similarSpelling (name : String) : Option String :=
  let best := longSpellings.foldl (fun (best : Option (Float × String)) s =>
    let score := jaro name s
    if score > 0.7 then
      match best with
      | some (top, _) => if score ≥ top then some (score, s) else best
      | none => some (score, s)
    else best) none
  best.map (·.2)

/-- What an option was given. -/
inductive Given where
  | text (value : String)
  | count (n : Nat)
  | flag
  /-- Given, with a value that was refused. -/
  | refused
  deriving DecidableEq

/-- Where reading stands. -/
structure Reading where
  /-- The options settled, in the order they were first settled. -/
  taken : List (OptionSpec × Given) := []
  /-- The option not yet settled, with its value once it has one. -/
  pending : Option (OptionSpec × Option String) := none
  /-- Whether `--` was read. -/
  afterSeparator : Bool := false

namespace Reading

/-- Whether an option was settled. -/
def has (r : Reading) (long : String) : Bool := r.taken.any (·.1.long == long)

/-- What an option was given, if it was settled. -/
def given? (r : Reading) (long : String) : Option Given :=
  (r.taken.find? (·.1.long == long)).map (·.2)

/-- The displays of the settled options. -/
def takenDisplays (r : Reading) : List String := r.taken.map (·.1.display)

/-- The reading with an option no longer settled. -/
def forget (r : Reading) (o : OptionSpec) : Reading :=
  { r with taken := r.taken.filter (·.1.long != o.long) }

/-- The usage line when an option that takes nothing is given a value: once an option is
settled, the run options show as one group, after the option itself unless it is one of them;
before that, the required options and the option. -/
def valueUsage (r : Reading) (o : OptionSpec) : Usage :=
  if r.taken.isEmpty then .naming [o.display]
  else .grouped (if runOptions.contains o then [] else [o.display])

end Reading

/-- Checks a value against what its option takes. -/
def checkValue (o : OptionSpec) (kind : ValueKind) (v : String) : Except ArgumentError Given :=
  match kind with
  | .path => if v.isEmpty then .error (.missingValue o.display) else .ok (.text v)
  | .text => .ok (.text v)
  | .count =>
    match readCount v with
    | .ok n => .ok (.count n)
    | .error reason => .error (.invalidCount v o.display reason)

namespace Reading

/-- Settles an option with its value: gives the reading after it and the error it stops with,
if any. An option whose value is refused still counts as given; an option given twice no
longer counts as given at all. -/
def react (r : Reading) (o : OptionSpec) (value : Option String) : Reading × Option ArgumentError :=
  match o.takes with
  | .help => (r, some .helpRequested)
  | .version => (r, some .versionRequested)
  | .flag =>
    if r.has o.long then (r.forget o, some (.repeated o.display))
    else ({ r with taken := r.taken ++ [(o, .flag)] }, none)
  | .value _ kind =>
    match value with
    | none => (r, some (.missingValue o.display))
    | some v =>
      if r.has o.long then (r.forget o, some (.repeated o.display))
      else
        match checkValue o kind v with
        | .ok g => ({ r with taken := r.taken ++ [(o, g)] }, none)
        | .error e => ({ r with taken := r.taken ++ [(o, .refused)] }, some e)

/-- Settles the pending option, if there is one. -/
def settle (r : Reading) : Reading × Option ArgumentError :=
  match r.pending with
  | none => (r, none)
  | some (o, value) => { r with pending := none }.react o value

end Reading

/-- The reading, unless an error stopped it. -/
def strictly : Reading × Option ArgumentError → Except ArgumentError Reading
  | (r, none) => .ok r
  | (_, some e) => .error e

namespace Reading

/-- Settles the pending option, then this one. -/
def take (r : Reading) (o : OptionSpec) (value : Option String) : Except ArgumentError Reading := do
  let r ← strictly r.settle
  strictly (r.react o value)

/-- Settles the pending option, then leaves this one pending until its value comes. -/
def expect (r : Reading) (o : OptionSpec) : Except ArgumentError Reading := do
  let r ← strictly r.settle
  pure { r with pending := some (o, none) }

end Reading

/-- The error for an unknown long spelling: the pending option is settled as far as it goes,
and the suggested option counts as given for the usage line. -/
def unknownLong (r : Reading) (name : String) : ArgumentError :=
  let r := r.settle.1
  let similar := similarSpelling name
  let given := r.taken.map (·.1)
  let given := match similar.bind fun s => optionSpecs.find? (·.spelled s) with
    | some o => if given.any (·.long == o.long) then given else given ++ [o]
    | none => given
  let usage := if given.isEmpty then Usage.plain else .naming (given.map (·.display))
  .unknown ("--" ++ name) (similar.map ("--" ++ ·)) usage

/-- Reads a run of letters after a single dash. -/
def readLetters : List Char → Reading → Except ArgumentError Reading
  | [], r => .ok r
  | c :: cs, r =>
    match optionSpecs.find? (·.short == some c) with
    | none => .error (.unknown ("-" ++ c.toString) none .plain)
    | some o =>
      if o.takesValue then
        match cs with
        | [] => r.expect o
        | '=' :: v => r.take o (some (String.ofList v))
        | v => r.take o (some (String.ofList v))
      else do
        let r ← r.take o none
        readLetters cs r

/-- Reads a long option, its spelling and the value written with it. -/
def readLong (r : Reading) (body : List Char) : Except ArgumentError Reading :=
  let (nameChars, tail) := body.span (· != '=')
  let name := String.ofList nameChars
  let attached := match tail with
    | [] => none
    | _ :: v => some (String.ofList v)
  match optionSpecs.find? (·.spelled name) with
  | none => .error (unknownLong r name)
  | some o =>
    if o.takesValue then
      match attached with
      | some v => r.take o (some v)
      | none => r.expect o
    else
      match attached with
      | some v => .error (.unexpectedValue v o.display (r.valueUsage o))
      | none => r.take o none

/-- Reads the words in order; at the end the pending option is settled. -/
def readWords : List String → Reading → Except ArgumentError Reading
  | [], r => strictly r.settle
  | w :: rest, r =>
    if r.afterSeparator then .error (.unknown w none .plain)
    else
      match w.toList with
      | ['-', '-'] => readWords rest { r with afterSeparator := true }
      | '-' :: '-' :: body => do readWords rest (← readLong r body)
      | '-' :: c :: cs => do readWords rest (← readLetters (c :: cs) r)
      | _ =>
        match r.pending with
        | some (o, none) => readWords rest { r with pending := some (o, some w) }
        | _ => .error (.unknown w none .plain)

/-- The text given to an option. -/
def Given.text? : Given → Option String
  | .text v => some v
  | _ => none

/-- The count given to an option. -/
def Given.count? : Given → Option Nat
  | .count n => some n
  | _ => none

/-- Reads a command line (the words after the program's name). -/
def Arguments.read (words : List String) : Except ArgumentError Arguments := do
  let r ← readWords words {}
  let missing := optionSpecs.filter fun o => o.required && !r.has o.long
  if !missing.isEmpty then
    let displays := missing.map (·.display)
    throw (.missingRequired displays (.naming (r.takenDisplays ++ displays)))
  let text := fun long => (r.given? long).bind Given.text?
  pure {
    model := (text "model").getD ""
    outDir := (text "outDir").getD defaultOutDir
    config := text "config"
    dryRun := r.has "dryRun"
    runtimePackage := text "runtimePackage"
    marker := text "markerAnnotation"
    mockSuffix := text "mockSuffix"
    indentWidth := (r.given? "indentWidth").bind Given.count? }

end KotlinMocks.Cli

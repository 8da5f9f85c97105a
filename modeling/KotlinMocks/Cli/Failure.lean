import KotlinMocks.Decimal.Shortest

/-!
# Why a run stops

A run that stops says what it was doing, from the outermost task down to the cause, one
sentence each. The sentences read on one line joined by `": "`, or as a report: the first
sentence after `Error: `, then under `Caused by:` every cause on a line of its own, numbered
from 0 when there are several. The lines of a cause after its first are indented to where its
text starts.
-/

namespace KotlinMocks.Cli

/-- A failure: the sentences from the outermost task down to the cause. -/
structure Failure where
  chain : List String
  deriving Inhabited, DecidableEq

namespace Failure

/-- A failure of one sentence. -/
def single (message : String) : Failure := ⟨[message]⟩

/-- The failure seen from the task that was under way when it happened. -/
def within (context : String) (f : Failure) : Failure := ⟨context :: f.chain⟩

/-- The sentences on one line. -/
def summary (f : Failure) : String := ": ".intercalate f.chain

/-- A failure of one sentence reads as that sentence. -/
theorem summary_single (m : String) : (single m).summary = m := by
  simp [summary, single]

/-- A task around a one-sentence failure reads as the task, a colon, and the sentence. -/
theorem summary_within_single (c m : String) :
    ((single m).within c).summary = c ++ ": " ++ m := rfl

/-- A cause's text after `label`, its later lines after `continuation`. -/
def causeText (label continuation message : String) : String :=
  match message.splitOn "\n" with
  | [] => label
  | first :: rest => label ++ first ++ String.join (rest.map fun l => "\n" ++ continuation ++ l)

/-- The number of a cause, right-aligned in five columns, and a colon. -/
def numberLabel (n : Nat) : String :=
  let digits := Decimal.digitsOf n
  "".pushn ' ' (5 - digits.length) ++ digits ++ ": "

/-- The causes below the first sentence, under their heading. -/
def causesText : List String → String
  | [] => ""
  | [one] => "\n\nCaused by:\n" ++ causeText "    " "    " one
  | many =>
    "\n\nCaused by:" ++
      String.join (many.zipIdx.map fun (c, n) => "\n" ++ causeText (numberLabel n) "       " c)

/-- The report of a failure, ending with a line break. -/
def report (f : Failure) : String :=
  match f.chain with
  | [] => "Error: \n"
  | outer :: causes => "Error: " ++ outer ++ causesText causes ++ "\n"

end Failure

end KotlinMocks.Cli

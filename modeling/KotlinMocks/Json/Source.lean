import KotlinMocks.Json.Value
import KotlinMocks.Json.Problem

/-!
# Sources of typed values

A `Source` is anything a typed value can be read from: a JSON text read left to right, or a
tree already in memory. A decoder for a type is written once against this interface and then
runs on both. Records are read through a table of fields; each field knows its key, whether
it must be present, whether it was already read, and how its value updates a partly read
record. Unknown keys are skipped.
-/

namespace KotlinMocks.Json

/-- One field of a record: its key, whether a record without it is refused, whether a draft
already has it, and how reading its value updates the draft. -/
structure Field (m : Type → Type) (β : Type) where
  name : String
  required : Bool
  present : β → Bool
  read : β → m β

/-- The expectation in a length problem for a record read from an array. -/
def recordLength (expecting : String) (count : Nat) : String :=
  expecting ++ " with " ++ Decimal.digitsOf count ++ (if count == 1 then " element" else " elements")

/-- The expectation for a variant index. -/
def variantIndexRange (count : Nat) : String :=
  "variant index 0 <= i < " ++ Decimal.digitsOf count

/-- A place typed values are read from. -/
class Source (m : Type → Type) extends Functor m where
  /-- A string. -/
  string : m String
  /-- A boolean. -/
  bool : m Bool
  /-- A count that fits in a machine word. -/
  count : m Nat
  /-- A value or `null`. -/
  optional : m α → m (Option α)
  /-- An array of values. -/
  list : m α → m (List α)
  /-- One of several named words, written as the word or as an object with the word as its
  only key and `null` as its value. -/
  variant : List (String × α) → m α
  /-- A record, from an object or from an array of its fields in order; the last step checks
  the draft and builds the value. -/
  record : String → List (Field m β) → β → (β → Except Problem α) → m α
  /-- A value whose kind is named by the member `tag` of an object (or by the first element
  of an array); the rest of the value is read as a tree by the kind's body. -/
  tagged : String → String → List String → (Nat → Json → Except Problem α) → m α

/-- The position of a name in a list of choices. -/
def indexOfName (names : List String) (name : String) : Option Nat := names.idxOf? name

end KotlinMocks.Json

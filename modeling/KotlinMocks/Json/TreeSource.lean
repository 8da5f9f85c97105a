import KotlinMocks.Json.Source

/-!
# Reading typed values from a tree

The tree instance of `Source`. Two kinds of tree are read the same way except at two points:
a finished document (`Flavour.document`) and a part of a document kept aside while its kind
was being found (`Flavour.kept`). A record read from an array that has elements to spare is
refused differently by the two, only a kept tree accepts a kind given by its index, and only a
kept tree takes an empty object for the `null` after a word variant's name.
No problem found here has a place in a text.
-/

namespace KotlinMocks.Json

/-- Which kind of tree is being read. -/
inductive Flavour where
  /-- A whole document read earlier. -/
  | document
  /-- Part of a value kept aside while the value's kind was being found. -/
  | kept
  deriving DecidableEq

/-- Reading a typed value from a tree. -/
def TreeReader (α : Type) : Type := Flavour → Json → Except Problem α

instance : Functor TreeReader where
  map f r := fun flavour v => (r flavour v).map f

namespace TreeReader

/-- How a tree counts as an unexpected value. -/
def unexpectedOf : Json → Unexpected
  | .null => .null
  | .bool b => .bool b
  | .number (.nat n) => .unsigned n.toNat
  | .number (.neg i) => .signed i.toInt
  | .number (.float f) => .float f
  | .string s => .string s
  | .array _ => .sequence
  | .object _ => .map

/-- Refuses a tree as not being `expected`. -/
def refuse (expected : String) (v : Json) : Except Problem α :=
  .error (.invalidType (unexpectedOf v) expected)

/-- Reads a string. -/
def readString : TreeReader String := fun _ v =>
  match v with
  | .string s => .ok s
  | other => refuse "a string" other

/-- Reads a boolean. -/
def readBool : TreeReader Bool := fun _ v =>
  match v with
  | .bool b => .ok b
  | other => refuse "a boolean" other

/-- Reads a count. -/
def readCount : TreeReader Nat := fun _ v =>
  match v with
  | .number (.nat n) => .ok n.toNat
  | .number (.neg i) => .error (.invalidValue (.signed i.toInt) "usize")
  | other => refuse "usize" other

/-- Reads `null` as nothing and anything else with `inner`. -/
def readOptional (inner : TreeReader α) : TreeReader (Option α) := fun flavour v =>
  match v with
  | .null => .ok none
  | other => (inner flavour other).map some

/-- Reads an array. -/
def readList (inner : TreeReader α) : TreeReader (List α) := fun flavour v =>
  match v with
  | .array items => items.mapM (inner flavour)
  | other => refuse "a sequence" other

/-- The choice named `name`, or an unknown-variant problem. -/
def choose (choices : List (String × α)) (name : String) : Except Problem α :=
  match choices.find? (·.1 == name) with
  | some (_, v) => .ok v
  | none => .error (.unknownVariant name (choices.map (·.1)))

/-- Reads a word variant, bare or as a one-member object whose value is `null`; a kept tree
also takes an empty object there. -/
def readVariant (choices : List (String × α)) : TreeReader α := fun flavour v =>
  match v with
  | .string s => choose choices s
  | .object [(k, value)] => do
    let chosen ← choose choices k
    match value, flavour with
    | .null, _ => pure chosen
    | .object [], .kept => pure chosen
    | other, _ => refuse "unit" other
  | .object _ => .error (.invalidValue .map "map with a single key")
  | other => refuse "string or map" other

/-- Reads object members into a draft. -/
def members (fields : List (Field TreeReader β)) (flavour : Flavour) :
    List (String × Json) → β → Except Problem β
  | [], draft => .ok draft
  | (k, value) :: rest, draft =>
    match fields.find? (·.name == k) with
    | some field =>
      if field.present draft then .error (.duplicateField k)
      else do
        let draft ← field.read draft flavour value
        members fields flavour rest draft
    | none => members fields flavour rest draft

/-- Reads record fields in order from array items. -/
def positional (expecting : String) (total : Nat) (flavour : Flavour) :
    List (Field TreeReader β) → Nat → List Json → β → Except Problem β
  | [], _, _, draft => .ok draft
  | field :: rest, index, items, draft =>
    match items with
    | item :: more => do
      let draft ← field.read draft flavour item
      positional expecting total flavour rest (index + 1) more draft
    | [] =>
      if field.required then .error (.invalidLength index (recordLength expecting total))
      else positional expecting total flavour rest (index + 1) [] draft

/-- The problem with an array that has elements left after a record's fields. -/
def spareElements (flavour : Flavour) (length used : Nat) : Problem :=
  match flavour with
  | .document => .invalidLength length "fewer elements in array"
  | .kept =>
    .invalidLength length
      (Decimal.digitsOf used ++ (if used == 1 then " element" else " elements") ++ " in sequence")

/-- Reads a record from an object or an array. -/
def readRecord (expecting : String) (fields : List (Field TreeReader β)) (start : β)
    (finish : β → Except Problem α) : TreeReader α := fun flavour v =>
  match v with
  | .object entries => do
    let draft ← members fields flavour entries start
    finish draft
  | .array items => do
    let draft ← positional expecting fields.length flavour fields 0 items start
    let value ← finish draft
    if items.length > fields.length then
      .error (spareElements flavour items.length fields.length)
    else pure value
  | other => refuse expecting other

/-- Reads the word naming a tagged value's kind; a kept tree also accepts the kind's index. -/
def kindOf (names : List String) (flavour : Flavour) (v : Json) : Except Problem Nat :=
  match v, flavour with
  | .string s, _ =>
    match indexOfName names s with
    | some i => .ok i
    | none => .error (.unknownVariant s names)
  | .number (.nat n), .kept =>
    if n.toNat < names.length then .ok n.toNat
    else .error (.invalidValue (.unsigned n.toNat) (variantIndexRange names.length))
  | other, _ => refuse "variant identifier" other

/-- Reads the members of a tagged object. -/
def taggedMembers (tag : String) (names : List String) (flavour : Flavour) :
    List (String × Json) → Option Nat → List (String × Json) →
      Except Problem (Option Nat × List (String × Json))
  | [], kind, kept => .ok (kind, kept.reverse)
  | (k, value) :: rest, kind, kept =>
    if k = tag then
      match kind with
      | some _ => .error (.duplicateField tag)
      | none => do
        let index ← kindOf names flavour value
        taggedMembers tag names flavour rest (some index) kept
    else taggedMembers tag names flavour rest kind ((k, value) :: kept)

/-- Reads a tagged value. -/
def readTagged (tag expecting : String) (names : List String)
    (body : Nat → Json → Except Problem α) : TreeReader α := fun flavour v =>
  match v with
  | .object entries => do
    let (kind, kept) ← taggedMembers tag names flavour entries none []
    match kind with
    | some index => body index (.object kept)
    | none => .error (.missingField tag)
  | .array (first :: rest) => do
    let index ← kindOf names flavour first
    body index (.array rest)
  | .array [] => .error (.missingField tag)
  | other => refuse expecting other

end TreeReader

instance : Source TreeReader where
  string := TreeReader.readString
  bool := TreeReader.readBool
  count := TreeReader.readCount
  optional := TreeReader.readOptional
  list := TreeReader.readList
  variant := TreeReader.readVariant
  record := TreeReader.readRecord
  tagged := TreeReader.readTagged

/-- Reads a value from a whole document tree. -/
def readTree (r : TreeReader α) (v : Json) : Except Problem α := r .document v

/-- Reads a value from a kept part of a document. -/
def readKept (r : TreeReader α) (v : Json) : Except Problem α := r .kept v

end KotlinMocks.Json

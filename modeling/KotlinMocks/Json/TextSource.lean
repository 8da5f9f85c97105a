import KotlinMocks.Json.Source
import KotlinMocks.Json.Parse

/-!
# Reading typed values from text

The text instance of `Source`. Values are read left to right in one pass, so the first
problem in the text is the one reported, whether it is malformed text or a value of the wrong
kind. A problem found while fitting a value is placed where the reader stood when the value
ended: after a scalar of the wrong kind, at the bracket of an array or object of the wrong
kind, after the closing bracket of a record that misses a field.
-/

namespace KotlinMocks.Json

namespace Reader

/-- How a number read from text counts as an unexpected value. -/
def Number.unexpected : Number → Unexpected
  | .nat n => .unsigned n.toNat
  | .neg i => .signed i.toInt
  | .float f => .float f

/-- Refuses the value at the cursor as not being `expected`: a scalar is read first so that
the problem is placed after it; a bracket is refused where it stands. -/
def unexpected (expected : String) : Reader α := do
  let refuse := fun (u : Unexpected) => failHere (α := α) (.invalidType u expected)
  match ← peek with
  | some 'n' => bump; literalTail ['u', 'l', 'l']; refuse .null
  | some 't' => bump; literalTail ['r', 'u', 'e']; refuse (.bool true)
  | some 'f' => bump; literalTail ['a', 'l', 's', 'e']; refuse (.bool false)
  | some '-' => bump; let n ← number false; refuse (Number.unexpected n)
  | some '"' => bump; let s ← stringBody; refuse (.string s)
  | some '[' => refuse .sequence
  | some '{' => refuse .map
  | some c =>
    if isDigit c then do let n ← number true; refuse (Number.unexpected n)
    else faultAhead .expectedSomeValue
  | none => faultAhead .expectedSomeValue

/-- The next character of a value, which must exist. -/
def valueStart : Reader Char := do
  match ← peekToken with
  | some c => pure c
  | none => faultAhead .eofWhileParsingValue

/-- Reads a string value. -/
def readString : Reader String := placed do
  match ← valueStart with
  | '"' => bump; stringBody
  | _ => unexpected "a string"

/-- Reads a boolean value. -/
def readBool : Reader Bool := placed do
  match ← valueStart with
  | 't' => bump; literalTail ['r', 'u', 'e']; pure true
  | 'f' => bump; literalTail ['a', 'l', 's', 'e']; pure false
  | _ => unexpected "a boolean"

/-- A number as a count, or why it is not one. -/
def countOf : Number → Except Problem Nat
  | .nat n => .ok n.toNat
  | .neg i => .error (.invalidValue (.signed i.toInt) "usize")
  | .float f => .error (.invalidType (.float f) "usize")

/-- Reads a count. -/
def readCount : Reader Nat := placed do
  let c ← valueStart
  let n ← do
    if c = '-' then bump; number false
    else if isDigit c then number true
    else unexpected "usize"
  match countOf n with
  | .ok k => pure k
  | .error p => failUnplaced p

/-- Reads `null` as nothing and anything else with `inner`. -/
def readOptional (inner : Reader α) : Reader (Option α) := do
  match ← peekToken with
  | some 'n' => bump; literalTail ['u', 'l', 'l']; pure none
  | _ => some <$> inner

/-- Reads array elements with `inner` after the opening bracket. -/
def elements (inner : Reader α) : Nat → Bool → Reader (List α)
  | 0, _ => faultAhead .eofWhileParsingList
  | steps + 1, first => do
    if ← hasNextElement first then
      let item ← inner
      let rest ← elements inner steps false
      pure (item :: rest)
    else pure []

/-- Reads an array of values. -/
def readList (inner : Reader α) : Reader (List α) := placed do
  match ← valueStart with
  | '[' =>
    nested (thenClose (do bump; elements inner ((← get).rest.length + 1) true) closeArray)
  | _ => unexpected "a sequence"

/-- The choice named `name`, or an unknown-variant problem. -/
def choose (choices : List (String × α)) (name : String) : Except Problem α :=
  match choices.find? (·.1 == name) with
  | some (_, v) => .ok v
  | none => .error (.unknownVariant name (choices.map (·.1)))

/-- Reads the word naming a variant. -/
def variantName (choices : List (String × α)) : Reader α := placed do
  match ← valueStart with
  | '"' =>
    bump
    let s ← stringBody
    match choose choices s with
    | .ok v => pure v
    | .error p => failUnplaced p
  | _ => unexpected "variant identifier"

/-- Reads `null`, the only value a word variant carries. -/
def unitValue : Reader Unit := placed do
  match ← valueStart with
  | 'n' => bump; literalTail ['u', 'l', 'l']
  | _ => unexpected "unit"

/-- Reads a word variant, bare or as a one-member object. -/
def readVariant (choices : List (String × α)) : Reader α := do
  match ← peekToken with
  | some '{' =>
    let v ← nested (do bump; let v ← variantName choices; colon; unitValue; pure v)
    match ← peekToken with
    | some '}' => bump; pure v
    | some _ => faultHere .expectedSomeValue
    | none => faultHere .eofWhileParsingObject
  | some '"' => variantName choices
  | some _ => faultAhead .expectedSomeValue
  | none => faultAhead .eofWhileParsingValue

/-- Runs the last step of a record. -/
def complete (finish : β → Except Problem α) (draft : β) : Reader α :=
  match finish draft with
  | .ok a => pure a
  | .error p => failUnplaced p

/-- Reads record members after the opening brace into `draft`. -/
def members (fields : List (Field Reader β)) : Nat → Bool → β → Reader β
  | 0, _, _ => faultAhead .eofWhileParsingObject
  | steps + 1, first, draft => do
    if ← hasNextKey first then
      let k ← key
      match fields.find? (·.name == k) with
      | some field =>
        if field.present draft then failUnplaced (.duplicateField k)
        else
          colon
          let draft ← field.read draft
          members fields steps false draft
      | none =>
        colon
        skipValue
        members fields steps false draft
    else pure draft

/-- Reads record fields in order from array elements after the opening bracket; a missing
required field refuses the array's length. -/
def positional (expecting : String) (total : Nat) :
    List (Field Reader β) → Nat → Bool → β → Reader β
  | [], _, _, draft => pure draft
  | field :: rest, index, first, draft => do
    if ← hasNextElement first then
      let draft ← field.read draft
      positional expecting total rest (index + 1) false draft
    else if field.required then
      failUnplaced (.invalidLength index (recordLength expecting total))
    else positional expecting total rest (index + 1) first draft

/-- Reads a record from an object or an array. -/
def readRecord (expecting : String) (fields : List (Field Reader β)) (start : β)
    (finish : β → Except Problem α) : Reader α := placed do
  match ← valueStart with
  | '[' =>
    nested (thenClose
      (do bump
          let draft ← positional expecting fields.length fields 0 true start
          complete finish draft)
      closeArray)
  | '{' =>
    nested (thenClose
      (do bump
          let draft ← members fields ((← get).rest.length + 1) true start
          complete finish draft)
      closeObject)
  | _ => unexpected expecting

/-- Reads the word naming a tagged value's kind. -/
def kindName (names : List String) : Reader Nat :=
  variantName (names.zipIdx.map fun (n, i) => (n, i))

/-- Reads the members of a tagged object: the tag's word is read as a kind, every other
member is kept as a tree. -/
def taggedMembers (tag : String) (names : List String) :
    Nat → Bool → Option Nat → List (String × Json) → Reader (Option Nat × List (String × Json))
  | 0, _, _, _ => faultAhead .eofWhileParsingObject
  | steps + 1, first, kind, kept => do
    if ← hasNextKey first then
      let k ← key
      if k = tag then
        match kind with
        | some _ => failUnplaced (.duplicateField tag)
        | none =>
          colon
          let index ← kindName names
          taggedMembers tag names steps false (some index) kept
      else
        colon
        let v ← anyValue (nestingLimit + 1)
        taggedMembers tag names steps false kind ((k, v) :: kept)
    else pure (kind, kept.reverse)

/-- Reads the rest of a tagged array after its first element. -/
def taggedRest (steps : Nat) : Reader (List Json) :=
  anyItems (nestingLimit + 1) steps false

/-- Reads a tagged value: the kind and the tree of what remains. -/
def readTagged (tag expecting : String) (names : List String)
    (body : Nat → Json → Except Problem α) : Reader α := do
  let (index, content) ← placed do
    match ← valueStart with
    | '[' =>
      nested (thenClose
        (do bump
            if ← hasNextElement true then
              let index ← kindName names
              let rest ← taggedRest ((← get).rest.length + 1)
              pure (index, Json.array rest)
            else failUnplaced (.missingField tag))
        closeArray)
    | '{' =>
      nested (thenClose
        (do bump
            let (kind, kept) ← taggedMembers tag names ((← get).rest.length + 1) true none []
            match kind with
            | some index => pure (index, Json.object kept)
            | none => failUnplaced (.missingField tag))
        closeObject)
    | _ => unexpected expecting
  match body index content with
  | .ok a => pure a
  | .error p => failUnplaced p

end Reader

instance : Source Reader where
  string := Reader.readString
  bool := Reader.readBool
  count := Reader.readCount
  optional := Reader.readOptional
  list := Reader.readList
  variant := Reader.readVariant
  record := Reader.readRecord
  tagged := Reader.readTagged

/-- Reads a whole text as one value with `r`; only blanks may follow it. -/
def readText (r : Reader α) (text : String) : Except Error α :=
  match (do let v ← r; Reader.finishText; pure v : Reader α).run (Cursor.start text) with
  | .ok v _ => .ok v
  | .error e _ => .error e

end KotlinMocks.Json

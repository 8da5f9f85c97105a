/-!
# JSON values

A JSON document as a tree. A number keeps the shape the reader gave it: a non-negative
integer that fits in 64 bits, a negative integer that fits in 64 bits, or a double for
everything else. An object keeps its members in the order they were written; repeated keys
are kept too, and `Json.normalize` folds them the way a map with insertion order does.
-/

namespace KotlinMocks

/-- A JSON number in the shape the reader classified it. -/
inductive Number where
  /-- A non-negative integer below `2 ^ 64`. -/
  | nat (value : UInt64)
  /-- A negative integer not below `-2 ^ 63`. -/
  | neg (value : Int64)
  /-- Any other number, as the nearest double the reader computed. -/
  | float (value : Float)
  deriving Inhabited

/-- A JSON document. -/
inductive Json where
  | null
  | bool (value : Bool)
  | number (value : Number)
  | string (value : String)
  | array (items : List Json)
  | object (members : List (String × Json))
  deriving Inhabited

namespace Json

/-- A whole number as JSON, in the shape a reader gives it. -/
def ofInt (i : Int) : Json :=
  if i < 0 then .number (.neg (Int64.ofInt i)) else .number (.nat (UInt64.ofNat i.toNat))

/-- A natural number as JSON. -/
def ofNat (n : Nat) : Json := .number (.nat (UInt64.ofNat n))

/-- The value stored under `key` in an object: the first member with that key. -/
def member? (value : Json) (key : String) : Option Json :=
  match value with
  | .object members => (members.find? (·.1 == key)).map (·.2)
  | _ => none

/-- Whether `key` names a member of an object. -/
def hasMember (value : Json) (key : String) : Bool := (value.member? key).isSome

/-- Adds a member the way an insertion-ordered map does: a key already present keeps its
place and takes the new value. -/
def insertMember (members : List (String × Json)) (key : String) (value : Json) :
    List (String × Json) :=
  if members.any (·.1 == key) then
    members.map fun entry => if entry.1 == key then (key, value) else entry
  else
    members ++ [(key, value)]

mutual
/-- Folds repeated keys in every object of the tree: each key keeps its first place and
its last value. -/
def normalize : Json → Json
  | .array items => .array (normalizeItems items)
  | .object members => .object (normalizeMembers members [])
  | other => other

/-- `normalize` applied to each item of an array. -/
def normalizeItems : List Json → List Json
  | [] => []
  | item :: rest => normalize item :: normalizeItems rest

/-- Inserts the normalized members one by one into `acc`. -/
def normalizeMembers : List (String × Json) → List (String × Json) → List (String × Json)
  | [], acc => acc
  | (key, item) :: rest, acc => normalizeMembers rest (insertMember acc key (normalize item))
end

mutual
/-- The depth of nesting: scalars have depth zero. -/
def depth : Json → Nat
  | .array items => itemsDepth items + 1
  | .object members => membersDepth members + 1
  | _ => 0

/-- The greatest depth among the items of an array. -/
def itemsDepth : List Json → Nat
  | [] => 0
  | item :: rest => max (depth item) (itemsDepth rest)

/-- The greatest depth among the values of an object. -/
def membersDepth : List (String × Json) → Nat
  | [] => 0
  | (_, item) :: rest => max (depth item) (membersDepth rest)
end

end Json

end KotlinMocks

import KotlinMocks.Text.Case

/-!
# Predicates

The tests a stub's call history is queried with. A predicate is built from primitive tests
and combinators, and testing a value may consult its parts: the plain connectives consult both
operands, the short-circuit ones skip the second when the first already decides, and the
quantifiers over lists `forAll` and `forAny` stop at the first element that decides, while
the counting quantifiers consult every element.

An observed part counts how often it is consulted, which makes the difference between the
connectives visible. `Predicate.run` tests a value and adds to those counts.
-/

namespace KotlinMocks.Double

/-- How many times each observed part was consulted, by name, in order of first use. -/
abbrev Tally := List (String × Nat)

/-- One more consultation of the part called `name`. -/
def Tally.bump : Tally → String → Tally
  | [], name => [(name, 1)]
  | (n, k) :: rest, name => if n = name then (n, k + 1) :: rest else (n, k) :: Tally.bump rest name

/-- How many times the part called `name` was consulted. -/
def Tally.count (t : Tally) (name : String) : Nat := (t.lookup name).getD 0

/-- How many elements a counting quantifier accepts. -/
inductive Quota where
  | exactly (n : Nat)
  | atLeast (n : Nat)
  | atMost (n : Nat)

/-- Whether a number of matching elements meets the quota. -/
def Quota.admits : Quota → Nat → Bool
  | .exactly n, k => k == n
  | .atLeast n, k => k ≥ n
  | .atMost n, k => k ≤ n

/-- A test over values of `α`. -/
inductive Predicate : Type → Type 1 where
  /-- A primitive test. -/
  | holds {α : Type} (test : α → Bool) : Predicate α
  | negate {α : Type} (p : Predicate α) : Predicate α
  /-- Both hold; both are always consulted. -/
  | both {α : Type} (p q : Predicate α) : Predicate α
  /-- Both hold; the second is consulted only when the first holds. -/
  | andThen {α : Type} (p q : Predicate α) : Predicate α
  /-- One holds; both are always consulted. -/
  | either {α : Type} (p q : Predicate α) : Predicate α
  /-- One holds; the second is consulted only when the first fails. -/
  | orElse {α : Type} (p q : Predicate α) : Predicate α
  /-- Exactly one holds; both are consulted. -/
  | differ {α : Type} (p q : Predicate α) : Predicate α
  /-- The same test, counted under a name each time it is consulted. -/
  | observed {α : Type} (name : String) (p : Predicate α) : Predicate α
  /-- A test of a part of the value, such as one argument of a call. -/
  | through {α β : Type} (part : α → β) (p : Predicate β) : Predicate α
  /-- A value is present and passes. -/
  | requireSome {α : Type} (p : Predicate α) : Predicate (Option α)
  /-- A value is absent, or present and passes. -/
  | acceptNone {α : Type} (p : Predicate α) : Predicate (Option α)
  /-- Every element passes; stops at the first that fails. -/
  | forAll {α : Type} (p : Predicate α) : Predicate (List α)
  /-- Some element passes; stops at the first that passes. -/
  | forAny {α : Type} (p : Predicate α) : Predicate (List α)
  /-- The number of elements that pass meets a quota; every element is consulted. -/
  | counted {α : Type} (p : Predicate α) (quota : Quota) : Predicate (List α)

namespace Predicate

/-- Tests a value, adding every consultation of an observed part to the tally. -/
def run : {α : Type} → Predicate α → α → Tally → Bool × Tally
  | _, .holds test, x, t => (test x, t)
  | _, .negate p, x, t =>
    let (a, t) := p.run x t
    (!a, t)
  | _, .both p q, x, t =>
    let (a, t) := p.run x t
    let (b, t) := q.run x t
    (a && b, t)
  | _, .andThen p q, x, t =>
    let (a, t) := p.run x t
    if a then q.run x t else (false, t)
  | _, .either p q, x, t =>
    let (a, t) := p.run x t
    let (b, t) := q.run x t
    (a || b, t)
  | _, .orElse p q, x, t =>
    let (a, t) := p.run x t
    if a then (true, t) else q.run x t
  | _, .differ p q, x, t =>
    let (a, t) := p.run x t
    let (b, t) := q.run x t
    (a != b, t)
  | _, .observed name p, x, t => p.run x (t.bump name)
  | _, .through part p, x, t => p.run (part x) t
  | _, .requireSome _, none, t => (false, t)
  | _, .requireSome p, some x, t => p.run x t
  | _, .acceptNone _, none, t => (true, t)
  | _, .acceptNone p, some x, t => p.run x t
  | _, .forAll p, xs, t =>
    xs.foldl (fun (acc : Bool × Tally) x => if acc.1 then p.run x acc.2 else acc) (true, t)
  | _, .forAny p, xs, t =>
    xs.foldl (fun (acc : Bool × Tally) x => if acc.1 then acc else p.run x acc.2) (false, t)
  | _, .counted p quota, xs, t =>
    let (k, t) := xs.foldl (fun (acc : Nat × Tally) x =>
      let (b, t) := p.run x acc.2
      (if b then acc.1 + 1 else acc.1, t)) (0, t)
    (quota.admits k, t)

/-- Whether a value passes. -/
def test (p : Predicate α) (x : α) : Bool := (p.run x []).1

/-- The names of the observed parts, in the order they appear. -/
def observers : {α : Type} → Predicate α → List String
  | _, .holds _ => []
  | _, .negate p => p.observers
  | _, .both p q | _, .andThen p q | _, .either p q | _, .orElse p q | _, .differ p q =>
    p.observers ++ q.observers
  | _, .observed name p => name :: p.observers
  | _, .through _ p => p.observers
  | _, .requireSome p | _, .acceptNone p => p.observers
  | _, .forAll p | _, .forAny p => p.observers
  | _, .counted p _ => p.observers

/-- Accepts everything. -/
def always : Predicate α := .holds fun _ => true

/-- Accepts nothing. -/
def never : Predicate α := .negate always

/-- Some element fails. -/
def forNotAll (p : Predicate α) : Predicate (List α) := .negate (.forAll p)

/-- No element passes. -/
def forNone (p : Predicate α) : Predicate (List α) := .negate (.forAny p)

/-- Some element passes: another name of `forAny`. -/
def forSome (p : Predicate α) : Predicate (List α) := .forAny p

/-- Exactly `n` elements pass. -/
def forExactlyN (p : Predicate α) (n : Nat) : Predicate (List α) := .counted p (.exactly n)

/-- At least `n` elements pass. -/
def forAtLeastN (p : Predicate α) (n : Nat) : Predicate (List α) := .counted p (.atLeast n)

/-- At most `n` elements pass. -/
def forAtMostN (p : Predicate α) (n : Nat) : Predicate (List α) := .counted p (.atMost n)

/-- Exactly one element passes. -/
def forExactlyOne (p : Predicate α) : Predicate (List α) := forExactlyN p 1

/-- The value equals `v`. -/
def equalTo [BEq α] (v : α) : Predicate α := .holds (· == v)

/-- The value differs from `v`. -/
def notEqualTo [BEq α] (v : α) : Predicate α := .negate (equalTo v)

/-- The value is greater than `v`. -/
def greaterThan [Ord α] (v : α) : Predicate α := .holds fun x => compare x v == .gt

/-- The value is at least `v`. -/
def greaterOrEqual [Ord α] (v : α) : Predicate α := .holds fun x => compare x v != .lt

/-- The value is less than `v`. -/
def lessThan [Ord α] (v : α) : Predicate α := .holds fun x => compare x v == .lt

/-- The value is at most `v`. -/
def lessOrEqual [Ord α] (v : α) : Predicate α := .holds fun x => compare x v != .gt

/-- No value is present. -/
def isNull : Predicate (Option α) := .holds Option.isNone

/-- A value is present. -/
def isNotNull : Predicate (Option α) := .holds Option.isSome

/-- The list holds `v`. -/
def contains [BEq α] (v : α) : Predicate (List α) := .holds fun xs => xs.contains v

/-- The list does not hold `v`. -/
def notContains [BEq α] (v : α) : Predicate (List α) := .negate (contains v)

end Predicate

/-- Two characters are equal ignoring case when they are the same, have the same one-character
uppercase, or their uppercases have the same first lowercase character. -/
def charsEqualIgnoringCase (a b : Char) : Bool :=
  a == b ||
    let ua := Text.upperSimple a
    let ub := Text.upperSimple b
    ua == ub || Text.lowerFirst ua == Text.lowerFirst ub

/-- Whether `text` starts with `pattern`, character by character, ignoring case. -/
def regionMatchesIgnoringCase : List Char → List Char → Bool
  | _, [] => true
  | [], _ :: _ => false
  | t :: ts, p :: ps => charsEqualIgnoringCase t p && regionMatchesIgnoringCase ts ps

namespace Predicate

/-- The text starts with `prefix`. -/
def startsWith (pre : String) : Predicate String := .holds fun s => s.startsWith pre

/-- The text does not start with `prefix`. -/
def notStartsWith (pre : String) : Predicate String := .negate (startsWith pre)

/-- The text starts with `prefix`, ignoring case one character at a time. -/
def startsWithIgnoringCase (pre : String) : Predicate String :=
  .holds fun s => regionMatchesIgnoringCase s.toList pre.toList

/-- The text does not start with `prefix`, ignoring case. -/
def notStartsWithIgnoringCase (pre : String) : Predicate String :=
  .negate (startsWithIgnoringCase pre)

/-- The text ends with `suffix`. -/
def endsWith (suf : String) : Predicate String := .holds fun s => s.endsWith suf

/-- The text does not end with `suffix`. -/
def notEndsWith (suf : String) : Predicate String := .negate (endsWith suf)

/-- The text ends with `suffix`, ignoring case one character at a time: its last characters,
as many as the suffix has, match the suffix. -/
def endsWithIgnoringCase (suf : String) : Predicate String :=
  .holds fun s =>
    let wanted := suf.length
    let size := s.length
    wanted ≤ size && regionMatchesIgnoringCase (s.toList.drop (size - wanted)) suf.toList

/-- The text does not end with `suffix`, ignoring case. -/
def notEndsWithIgnoringCase (suf : String) : Predicate String :=
  .negate (endsWithIgnoringCase suf)

end Predicate

end KotlinMocks.Double

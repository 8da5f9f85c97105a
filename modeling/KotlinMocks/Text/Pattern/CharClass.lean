import KotlinMocks.Text.Pattern

/-!
# Character classes being read

A bracketed class is built from its items one at a time: characters and ranges are added,
nested classes are joined, and the operators `&&`, `--` and `~~` take the intersection, the
difference and the symmetric difference. A class keeps its ranges in increasing order,
disjoint and not touching, so that two classes are equal exactly when their ranges are.

A class also records whether it is known to be closed under case folding. Without the Unicode
case tables, folding a class that is not known to be closed fails; an empty class is closed,
so is everything, and so is what the operators make of closed classes. Classes of ASCII bytes
(read with Unicode off) fold by swapping the case of ASCII letters, which never fails.
-/

namespace KotlinMocks.Text

/-- Ranges sorted by their first code point, then merged where they overlap or touch. -/
def canonicalRanges (rs : List (Nat × Nat)) : List (Nat × Nat) :=
  let sorted := rs.mergeSort fun a b => a.1 ≤ b.1
  (sorted.foldl (fun (acc : List (Nat × Nat)) r =>
    match acc with
    | last :: before =>
      if r.1 ≤ last.2 + 1 then (last.1, max last.2 r.2) :: before else r :: acc
    | [] => [r]) []).reverse

/-- The code points from `low` to `high` that none of the ranges holds; the ranges are in
canonical form. -/
def gapsWithin (low high : Nat) (rs : List (Nat × Nat)) : List (Nat × Nat) :=
  let (gaps, next) := rs.foldl (fun (acc : List (Nat × Nat) × Nat) r =>
    let (gaps, next) := acc
    (if next < r.1 then gaps ++ [(next, r.1 - 1)] else gaps, max next (r.2 + 1))) ([], low)
  if next ≤ high then gaps ++ [(next, high)] else gaps

/-- The code points both lists of ranges hold. -/
def meetRanges (rs ss : List (Nat × Nat)) : List (Nat × Nat) :=
  canonicalRanges (rs.flatMap fun r => ss.filterMap fun s =>
    if max r.1 s.1 ≤ min r.2 s.2 then some (max r.1 s.1, min r.2 s.2) else none)

/-- Which values a class ranges over: characters, or bytes when Unicode is off. -/
inductive ClassUniverse where
  | chars
  | bytes
  deriving DecidableEq

/-- All values of a universe. Characters leave out the surrogate code points. -/
def ClassUniverse.all : ClassUniverse → List (Nat × Nat)
  | .chars => [(0, 0xD7FF), (0xE000, 0x10FFFF)]
  | .bytes => [(0, 0xFF)]

/-- A class being read: its ranges in canonical form, and whether it is known to be closed
under case folding. -/
structure CharClass where
  ranges : List (Nat × Nat)
  folded : Bool

namespace CharClass

/-- The empty class, closed under folding. -/
def empty : CharClass := ⟨[], true⟩

/-- A class of the given ranges; only the empty one is known to be closed. -/
def ofRanges (rs : List (Nat × Nat)) : CharClass :=
  let rs := canonicalRanges rs
  ⟨rs, rs.isEmpty⟩

/-- Adds one range; the class is no longer known to be closed. -/
def push (c : CharClass) (r : Nat × Nat) : CharClass :=
  ⟨canonicalRanges (c.ranges ++ [r]), false⟩

/-- Joins another class. Joining an empty class or an equal one changes nothing. -/
def join (c d : CharClass) : CharClass :=
  if d.ranges.isEmpty || c.ranges == d.ranges then c
  else ⟨canonicalRanges (c.ranges ++ d.ranges), c.folded && d.folded⟩

/-- The values both classes hold. -/
def intersect (c d : CharClass) : CharClass :=
  if c.ranges.isEmpty then c
  else if d.ranges.isEmpty then empty
  else ⟨meetRanges c.ranges d.ranges, c.folded && d.folded⟩

/-- The values of the first class that the second does not hold. -/
def difference (c d : CharClass) : CharClass :=
  if c.ranges.isEmpty || d.ranges.isEmpty then c
  else ⟨meetRanges c.ranges (gapsWithin 0 0x10FFFF d.ranges), c.folded && d.folded⟩

/-- The values exactly one of the classes holds. -/
def symmetricDifference (c d : CharClass) : CharClass :=
  (c.join d).difference (c.intersect d)

/-- The values of the universe the class does not hold. The complement of the empty class is
everything, which is closed under folding. -/
def negate (u : ClassUniverse) (c : CharClass) : CharClass :=
  if c.ranges.isEmpty then ⟨u.all, true⟩
  else ⟨meetRanges u.all (gapsWithin 0 0x10FFFF c.ranges), c.folded⟩

/-- Folds the case of a class of characters. Without case tables this only succeeds for a class
already known to be closed, or an empty one. -/
def foldChars (c : CharClass) : Except String CharClass :=
  if c.folded || c.ranges.isEmpty then .ok { c with folded := true }
  else .error "Unicode-aware case insensitivity matching is not available"

/-- The other case of the ASCII letters among some ranges. -/
def asciiCaseSwap (rs : List (Nat × Nat)) : List (Nat × Nat) :=
  (meetRanges rs [(0x41, 0x5A)]).map (fun r => (r.1 + 0x20, r.2 + 0x20)) ++
    (meetRanges rs [(0x61, 0x7A)]).map (fun r => (r.1 - 0x20, r.2 - 0x20))

/-- Folds the case of a class of bytes: ASCII letters of either case join their other case. -/
def foldBytes (c : CharClass) : CharClass :=
  ⟨canonicalRanges (c.ranges ++ asciiCaseSwap c.ranges), true⟩

/-- Whether every value of the class is ASCII. -/
def isAscii (c : CharClass) : Bool := c.ranges.all (·.2 ≤ 0x7F)

/-- The set of characters of a class. -/
def toCharSet (c : CharClass) : CharSet := ⟨c.ranges⟩

end CharClass

/-- Folds, then negates, a class that a bracket or a name closes, as the universe asks: a class
of characters folds only when it may, and a class of bytes must end up ASCII, since a byte
outside ASCII is not a character of the text. -/
def CharClass.close (u : ClassUniverse) (caseless negated : Bool) (c : CharClass) :
    Except String CharClass :=
  match u with
  | .chars => do
    let c ← if caseless then c.foldChars else pure c
    pure (if negated then c.negate .chars else c)
  | .bytes =>
    let c := if caseless then c.foldBytes else c
    let c := if negated then c.negate .bytes else c
    if c.isAscii then .ok c else .error "pattern can match invalid UTF-8"

end KotlinMocks.Text

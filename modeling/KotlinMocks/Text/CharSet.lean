/-!
# Sets of characters by code point ranges

A set of characters is written as closed ranges of code points, in increasing order and
disjoint; the Unicode properties the library needs come as such tables. Membership is one
pass over the ranges, and `contains_iff` says it means lying in one of them.
-/

namespace KotlinMocks.Text

/-- Characters whose code points lie in one of the closed ranges `(first, last)`. -/
structure CharSet where
  ranges : List (Nat × Nat)

namespace CharSet

/-- Whether a code point lies in one of the ranges. -/
def containsCode (s : CharSet) (n : Nat) : Bool :=
  s.ranges.any fun r => decide (r.1 ≤ n) && decide (n ≤ r.2)

/-- Whether a character belongs to the set. -/
def contains (s : CharSet) (c : Char) : Bool := s.containsCode c.toNat

/-- The union of two sets. -/
def union (s t : CharSet) : CharSet := ⟨s.ranges ++ t.ranges⟩

theorem containsCode_iff {s : CharSet} {n : Nat} :
    s.containsCode n = true ↔ ∃ r ∈ s.ranges, r.1 ≤ n ∧ n ≤ r.2 := by
  simp [containsCode]

theorem contains_iff {s : CharSet} {c : Char} :
    s.contains c = true ↔ ∃ r ∈ s.ranges, r.1 ≤ c.toNat ∧ c.toNat ≤ r.2 :=
  containsCode_iff

theorem contains_union {s t : CharSet} {c : Char} :
    (s.union t).contains c = (s.contains c || t.contains c) := by
  simp [contains, containsCode, union, List.any_append]

end CharSet

end KotlinMocks.Text

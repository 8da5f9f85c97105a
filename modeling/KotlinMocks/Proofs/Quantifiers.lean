import KotlinMocks.Proofs.StubRuns

/-!
# Quantifiers over lists

The scans `forAll` and `forAny` stop consulting their element test at the first element that
decides, and the counting quantifiers consult every element; either way a quantifier decides by
what its element test says of each element. `forAll` is `List.all`, `forAny` is `List.any`, and a
counting quantifier compares the number of passing elements with its quota (`test_forAll`,
`test_forAny`, `test_counted`). The two families therefore agree wherever their meanings do: all
elements pass exactly when all of them are counted, and no element passes exactly when every
element fails (`quantifiers_agree`), on every list, the empty one included.
-/

namespace KotlinMocks.Double

namespace Predicate

variable {α : Type} (p : Predicate α) (xs : List α)

@[simp]
theorem test_negate : (Predicate.negate p).test = fun x => !p.test x := by
  funext x
  show (!(p.run x []).1) = _
  rw [run_fst]

/-- The scan of `forAll` ends with the test of every element it has yet to see, unless it has
already failed. -/
theorem foldl_all_fst :
    ∀ acc : Bool × Tally,
      (xs.foldl (fun (acc : Bool × Tally) x => if acc.1 then p.run x acc.2 else acc) acc).1 =
        (acc.1 && xs.all p.test) := by
  induction xs with
  | nil => intro acc; simp
  | cons x rest restAll =>
      intro acc
      rw [List.foldl_cons, restAll]
      by_cases passing : acc.1 = true <;> simp [passing, run_fst]

/-- The scan of `forAny` ends with the test of every element it has yet to see, unless it has
already passed. -/
theorem foldl_any_fst :
    ∀ acc : Bool × Tally,
      (xs.foldl (fun (acc : Bool × Tally) x => if acc.1 then acc else p.run x acc.2) acc).1 =
        (acc.1 || xs.any p.test) := by
  induction xs with
  | nil => intro acc; simp
  | cons x rest restAny =>
      intro acc
      rw [List.foldl_cons, restAny]
      by_cases passing : acc.1 = true <;> simp [passing, run_fst]

@[simp]
theorem test_forAll : (Predicate.forAll p).test xs = xs.all p.test := by
  simp only [test, run]
  rw [foldl_all_fst]
  simp

@[simp]
theorem test_forAny : (Predicate.forAny p).test xs = xs.any p.test := by
  simp only [test, run]
  rw [foldl_any_fst]
  simp

@[simp]
theorem test_counted (q : Quota) : (Predicate.counted p q).test xs = q.admits (xs.countP p.test) := by
  simp only [test, run]
  rw [Stub.foldl_count_fst _ p.test (fun acc x => ?_) xs (0, [])]
  · simp
  · -- an element is counted when it passes, whatever was consulted before it
    have passes := run_fst p x acc.2
    revert passes
    cases p.run x acc.2 with
    | mk b t' => intro passes; rw [← passes]

/-- Every element passes exactly when every element is counted. -/
theorem all_iff_countP_ge_length :
    xs.all p.test = decide (xs.countP p.test ≥ xs.length) := by
  have atMost := List.countP_le_length (p := p.test) (l := xs)
  rw [Bool.eq_iff_iff, List.all_eq_true, decide_eq_true_iff, ← List.countP_eq_length]
  omega

/-- Some element passes exactly when at least one is counted. -/
theorem any_iff_countP_pos : xs.any p.test = decide (xs.countP p.test ≥ 1) := by
  rw [Bool.eq_iff_iff, List.any_eq_true, decide_eq_true_iff, ge_iff_le, Nat.one_le_iff_ne_zero,
    ← Nat.pos_iff_ne_zero, List.countP_pos_iff]

/-- The list quantifiers of a predicate agree: every element passing is all of them counted and
none failing; some element passing is `forSome` and at least one counted; none passing is
exactly none counted, at most none counted and every element failing; not every element passing
is some element failing; `forExactlyOne` counts exactly one; and exactly `n` counted is at least
`n` and at most `n` counted. -/
theorem quantifiers_agree (n : Nat) :
    ((Predicate.forAll p).test xs = (forAtLeastN p xs.length).test xs ∧
      (Predicate.forAll p).test xs = (forNone (.negate p)).test xs) ∧
    ((Predicate.forAny p).test xs = (forSome p).test xs ∧
      (forSome p).test xs = (forAtLeastN p 1).test xs) ∧
    ((forNone p).test xs = (forExactlyN p 0).test xs ∧
      (forExactlyN p 0).test xs = (forAtMostN p 0).test xs ∧
      (forAtMostN p 0).test xs = (Predicate.forAll (.negate p)).test xs) ∧
    ((forNotAll p).test xs = !(Predicate.forAll p).test xs ∧
      !(Predicate.forAll p).test xs = (Predicate.forAny (.negate p)).test xs) ∧
    (forExactlyOne p).test = (forExactlyN p 1).test ∧
    (forExactlyN p n).test xs = ((forAtLeastN p n).test xs && (forAtMostN p n).test xs) := by
  -- every quantifier is a statement about the passing elements and their number
  have allCounted := all_iff_countP_ge_length p xs
  have anyCounted := any_iff_countP_pos p xs
  have noneCounted : xs.countP p.test = 0 ↔ xs.all (!p.test ·) := by
    simp [List.countP_eq_zero]
  refine ⟨⟨?_, ?_⟩, ⟨rfl, ?_⟩, ⟨?_, ?_, ?_⟩, ⟨rfl, ?_⟩, rfl, ?_⟩
  · simpa [forAtLeastN, Quota.admits] using allCounted
  · simp [forNone, List.all_eq_not_any_not]
  · simpa [forSome, forAtLeastN, Quota.admits] using anyCounted
  · simp only [forNone, forExactlyN, test_negate, test_forAny, test_counted, Quota.admits]
    rw [Bool.eq_iff_iff]
    simp [List.countP_eq_zero]
  · simp only [forExactlyN, forAtMostN, test_counted, Quota.admits]
    rw [Bool.eq_iff_iff]
    simp
  · simp only [forAtMostN, test_counted, test_forAll, test_negate, Quota.admits]
    rw [Bool.eq_iff_iff, ← noneCounted]
    simp
  · simp [List.any_eq_not_all_not]
  · simp only [forExactlyN, forAtLeastN, forAtMostN, test_counted, Quota.admits]
    rw [Bool.eq_iff_iff]
    simp only [beq_iff_eq, Bool.and_eq_true, decide_eq_true_eq]
    omega

end Predicate

end KotlinMocks.Double

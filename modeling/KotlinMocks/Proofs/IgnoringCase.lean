import Mathlib.Data.List.Forall2
import KotlinMocks.Double.Predicate

/-!
# Prefix and suffix tests that ignore case

The prefix test that ignores case walks the pattern and the text together, compares one
character at a time with `charsEqualIgnoringCase`, and fails when the text runs out first. As a
statement about lists: the text's first characters, as many as the pattern has, match the pattern
one by one (`regionMatchesIgnoringCase_iff`). The suffix test first checks that the text has at
least as many characters as the suffix, and only then skips the difference; it is the prefix test
read backwards (`test_endsWithIgnoringCase_reverse`). A text that starts or ends with a pattern
exactly also does so ignoring case.

Nothing here depends on which characters the case mappings relate: the statements hold whatever
the case tables say.
-/

namespace KotlinMocks.Double

@[simp]
theorem Predicate.test_holds {α : Type} (f : α → Bool) (x : α) : (Predicate.holds f).test x = f x := rfl

/-- Two character lists match ignoring case: they have the same length and each character equals
the one at the same position, ignoring case. -/
def MatchIgnoringCase (xs ys : List Char) : Prop :=
  List.Forall₂ (fun a b => charsEqualIgnoringCase a b = true) xs ys

@[simp]
theorem charsEqualIgnoringCase_self (c : Char) : charsEqualIgnoringCase c c = true := by
  simp [charsEqualIgnoringCase]

/-- A list matches itself ignoring case. -/
theorem MatchIgnoringCase.refl (xs : List Char) : MatchIgnoringCase xs xs :=
  List.forall₂_same.mpr fun c _ => charsEqualIgnoringCase_self c

/-- The text starts with the pattern, ignoring case, when its first characters, as many as the
pattern has, match the pattern. -/
theorem regionMatchesIgnoringCase_iff (text pattern : List Char) :
    regionMatchesIgnoringCase text pattern = true ↔
      MatchIgnoringCase (text.take pattern.length) pattern := by
  induction pattern generalizing text with
  | nil => simp [regionMatchesIgnoringCase, MatchIgnoringCase]
  | cons p ps restMatch =>
      cases text with
      | nil => simp [regionMatchesIgnoringCase, MatchIgnoringCase]
      | cons t ts =>
          simp only [MatchIgnoringCase] at restMatch
          simp [regionMatchesIgnoringCase, MatchIgnoringCase, restMatch]

/-- The same, one position at a time: the pattern is no longer than the text, and at each of
its positions the two characters are equal ignoring case. -/
theorem regionMatchesIgnoringCase_iff_getElem (text pattern : List Char) :
    regionMatchesIgnoringCase text pattern = true ↔
      pattern.length ≤ text.length ∧
        ∀ i (inText : i < text.length) (inPattern : i < pattern.length),
          charsEqualIgnoringCase text[i] pattern[i] = true := by
  rw [regionMatchesIgnoringCase_iff, MatchIgnoringCase, List.forall₂_iff_get]
  simp only [List.length_take, List.get_eq_getElem, List.getElem_take]
  constructor
  · rintro ⟨sameLength, positions⟩
    exact ⟨by omega, fun i inText inPattern => positions i (by omega) inPattern⟩
  · rintro ⟨shorter, positions⟩
    exact ⟨by omega, fun i inTaken inPattern => positions i (by omega) inPattern⟩

/-- The suffix test matches the text's last characters, as many as the suffix has; a text with
fewer characters than the suffix keeps all of them and so cannot match. -/
theorem test_endsWithIgnoringCase (suf s : String) :
    (Predicate.endsWithIgnoringCase suf).test s = true ↔
      MatchIgnoringCase (s.toList.drop (s.length - suf.length)) suf.toList := by
  rw [Predicate.endsWithIgnoringCase, Predicate.test_holds]
  dsimp only
  rw [Bool.and_eq_true, decide_eq_true_iff, regionMatchesIgnoringCase_iff]
  by_cases longEnough : suf.length ≤ s.length
  · -- the characters left after the skip are exactly as many as the suffix has
    have kept : (s.toList.drop (s.length - suf.length)).length = suf.toList.length := by
      simp only [List.length_drop, String.length_toList]
      omega
    rw [List.take_of_length_le (Nat.le_of_eq kept)]
    exact ⟨fun ⟨_, matched⟩ => matched, fun matched => ⟨longEnough, matched⟩⟩
  · -- nothing is skipped, and the whole text is too short to match
    have tooShort : ¬ MatchIgnoringCase (s.toList.drop (s.length - suf.length)) suf.toList := by
      intro matched
      have sameLength := matched.length_eq
      simp only [List.length_drop, String.length_toList] at sameLength
      omega
    exact ⟨fun ⟨short, _⟩ => absurd short longEnough, fun matched => absurd matched tooShort⟩

/-- The suffix test is the prefix test on both texts reversed, character by character. -/
theorem test_endsWithIgnoringCase_reverse (suf s : String) :
    (Predicate.endsWithIgnoringCase suf).test s =
      (Predicate.startsWithIgnoringCase (String.ofList suf.toList.reverse)).test
        (String.ofList s.toList.reverse) := by
  rw [Bool.eq_iff_iff, test_endsWithIgnoringCase]
  rw [Predicate.startsWithIgnoringCase, Predicate.test_holds, String.toList_ofList, String.toList_ofList, regionMatchesIgnoringCase_iff, List.length_reverse,
    List.take_reverse, String.length_toList, String.length_toList]
  simp only [MatchIgnoringCase, List.forall₂_reverse_iff]

/-- The suffix test skips a number of characters only when the text has that many beyond the
suffix: it fails outright on a text shorter than the suffix, and it passes exactly when the text's
characters after some `k` of them, with `k` and the suffix's length adding up to the text's,
match the suffix. -/
theorem endsWithIgnoringCase_skips_exactly (suf s : String) :
    (s.length < suf.length → (Predicate.endsWithIgnoringCase suf).test s = false) ∧
    ((Predicate.endsWithIgnoringCase suf).test s = true ↔
      ∃ k, k + suf.length = s.length ∧
        regionMatchesIgnoringCase (s.toList.drop k) suf.toList = true) := by
  refine ⟨fun short => ?_, ?_⟩
  · rw [Predicate.endsWithIgnoringCase, Predicate.test_holds]
    simp only [decide_eq_false (Nat.not_le.mpr short), Bool.false_and]
  · rw [test_endsWithIgnoringCase]
    constructor
    · intro matched
      have sameLength := matched.length_eq
      simp only [List.length_drop, String.length_toList] at sameLength
      refine ⟨s.length - suf.length, by omega, ?_⟩
      have kept : (s.toList.drop (s.length - suf.length)).length ≤ suf.toList.length := by
        simp only [List.length_drop, String.length_toList]
        omega
      rw [regionMatchesIgnoringCase_iff, List.take_of_length_le kept]
      exact matched
    · rintro ⟨k, adds, matched⟩
      have skipped : s.length - suf.length = k := by omega
      have kept : (s.toList.drop k).length = suf.toList.length := by
        simp only [List.length_drop, String.length_toList]
        omega
      rw [skipped]
      rw [regionMatchesIgnoringCase_iff, List.take_of_length_le (Nat.le_of_eq kept)] at matched
      exact matched

/-- A text that starts with a prefix starts with it ignoring case. -/
theorem startsWithIgnoringCase_of_startsWith {pre s : String}
    (starts : (Predicate.startsWith pre).test s = true) :
    (Predicate.startsWithIgnoringCase pre).test s = true := by
  have isPrefix : pre.toList <+: s.toList := String.startsWith_string_iff.mp starts
  rw [Predicate.startsWithIgnoringCase, Predicate.test_holds, regionMatchesIgnoringCase_iff, ← List.prefix_iff_eq_take.mp isPrefix]
  exact MatchIgnoringCase.refl _

/-- A text that ends with a suffix ends with it ignoring case. -/
theorem endsWithIgnoringCase_of_endsWith {suf s : String}
    (ends : (Predicate.endsWith suf).test s = true) :
    (Predicate.endsWithIgnoringCase suf).test s = true := by
  have isSuffix : suf.toList <:+ s.toList := by
    have endsText : s.endsWith suf = true := ends
    rwa [String.endsWith_eq_endsWith_toSlice, String.Slice.endsWith_string_iff,
      String.copy_toSlice] at endsText
  rw [test_endsWithIgnoringCase]
  have dropped := List.suffix_iff_eq_drop.mp isSuffix
  rw [String.length_toList, String.length_toList] at dropped
  rw [← dropped]
  exact MatchIgnoringCase.refl _

/-- The case-ignoring prefix test compares the text's first characters with the prefix one
position at a time and fails on a text shorter than the prefix; the suffix test is the prefix
test on both texts reversed, fails on a text shorter than the suffix without skipping anything,
and otherwise skips exactly the characters the text has beyond the suffix; and the exact tests
imply the case-ignoring ones. -/
theorem affix_tests_ignoring_case (pre s : String) :
    ((Predicate.startsWithIgnoringCase pre).test s = true ↔
      pre.toList.length ≤ s.toList.length ∧
        ∀ i (inText : i < s.toList.length) (inPrefix : i < pre.toList.length),
          charsEqualIgnoringCase s.toList[i] pre.toList[i] = true) ∧
    (Predicate.endsWithIgnoringCase pre).test s =
      (Predicate.startsWithIgnoringCase (String.ofList pre.toList.reverse)).test
        (String.ofList s.toList.reverse) ∧
    (s.length < pre.length → (Predicate.endsWithIgnoringCase pre).test s = false) ∧
    ((Predicate.endsWithIgnoringCase pre).test s = true ↔
      ∃ k, k + pre.length = s.length ∧
        regionMatchesIgnoringCase (s.toList.drop k) pre.toList = true) ∧
    ((Predicate.startsWith pre).test s = true → (Predicate.startsWithIgnoringCase pre).test s = true) ∧
    ((Predicate.endsWith pre).test s = true → (Predicate.endsWithIgnoringCase pre).test s = true) :=
  ⟨regionMatchesIgnoringCase_iff_getElem s.toList pre.toList, test_endsWithIgnoringCase_reverse pre s,
    (endsWithIgnoringCase_skips_exactly pre s).1, (endsWithIgnoringCase_skips_exactly pre s).2,
    startsWithIgnoringCase_of_startsWith, endsWithIgnoringCase_of_endsWith⟩

end KotlinMocks.Double

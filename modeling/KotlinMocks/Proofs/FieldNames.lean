import KotlinMocks.Emit.MemberPlan

/-!
# Field names of a mock

Every overridable member of a target gets stub fields: a function one, named after it (with its
parameters' type names when the name is overloaded), a property a getter `getName` and, when it
is mutable, a setter `setName`. Such candidates can collide: two overloads with parameters of
one simple type name, or a function literally called `getName` next to a property `name`. The
planner claims the names one after another, functions first and then properties, each in the
host's order: a candidate no earlier field took is kept, and a taken one gets the least ordinal
`_2`, `_3`, … whose name no earlier field took (`Claimed`).

Among as many ordinals as names are taken, plus one, some ordinal is free, since the ordinal
names are pairwise distinct; so the search always ends at the least free ordinal
(`claim_claimed`). Hence the field names of a planned target are claimed in turn from their
candidates and are pairwise distinct, and planning fails exactly when an overridable function
has no return type, naming the first such function (`planned_field_names_distinct`).
-/

namespace KotlinMocks

/-! ## Ordinal names -/

/-- `candidate_<n>`: a candidate with an ordinal. -/
def ordinalName (candidate : String) (n : Nat) : String := candidate ++ "_" ++ Decimal.digitsOf n

theorem digitsOf_injective : Function.Injective Decimal.digitsOf := by
  intro m n same
  have sameDigits : Nat.toDigits 10 m = Nat.toDigits 10 n := by
    simpa [Decimal.digitsOf] using congrArg String.toList same
  calc m = Nat.ofDigitChars 10 (Nat.toDigits 10 m) 0 := Nat.ofDigitChars_ten_toDigits.symm
    _ = Nat.ofDigitChars 10 (Nat.toDigits 10 n) 0 := by rw [sameDigits]
    _ = n := Nat.ofDigitChars_ten_toDigits

theorem ordinalName_injective (candidate : String) : Function.Injective (ordinalName candidate) := by
  intro m n same
  have sameChars := congrArg String.toList same
  simp only [ordinalName, String.toList_append, List.append_assoc, List.append_cancel_left_eq]
    at sameChars
  exact digitsOf_injective (String.toList_injective sameChars)

/-- Some ordinal from `2` on, among one more than the names taken, has its name free: the
ordinal names are pairwise distinct, so they cannot all be among the names taken. -/
theorem exists_free_ordinal (taken : List String) (candidate : String) :
    ∃ m, 2 ≤ m ∧ m < 2 + (taken.length + 1) ∧ ordinalName candidate m ∉ taken := by
  refine Classical.byContradiction fun noneFree => ?_
  have allTaken : ∀ m, 2 ≤ m → m < 2 + (taken.length + 1) → ordinalName candidate m ∈ taken :=
    fun m above below => Classical.byContradiction fun free => noneFree ⟨m, above, below, free⟩
  let tried := (List.range' 2 (taken.length + 1)).map (ordinalName candidate)
  have distinct : tried.Nodup :=
    List.Pairwise.map (ordinalName candidate)
      (fun _ _ apart same => apart (ordinalName_injective candidate same)) (List.nodup_range' ..)
  have inTaken : tried ⊆ taken := by
    intro name member
    obtain ⟨m, inRange, rfl⟩ := List.mem_map.mp member
    rw [List.mem_range'_1] at inRange
    exact allTaken m inRange.1 inRange.2
  have tooMany := distinct.length_le_of_subset inTaken
  simp only [tried, List.length_map, List.length_range'] at tooMany
  omega

/-! ## Claiming a name -/

/-- `name` is what claiming `candidate` gives when the names `taken` are taken: the candidate
itself when it is free, and otherwise `candidate_<n>` for the least `n` from `2` on whose name is
free. -/
def Claimed (taken : List String) (candidate name : String) : Prop :=
  (candidate ∉ taken ∧ name = candidate) ∨
    (candidate ∈ taken ∧ ∃ n, 2 ≤ n ∧ name = ordinalName candidate n ∧ name ∉ taken ∧
      ∀ m, 2 ≤ m → m < n → ordinalName candidate m ∈ taken)

/-- A claimed name was free. -/
theorem Claimed.not_mem {taken : List String} {candidate name : String}
    (claimed : Claimed taken candidate name) : name ∉ taken := by
  rcases claimed with ⟨free, rfl⟩ | ⟨-, n, -, -, free, -⟩
  · exact free
  · exact free

theorem firstFreeOrdinal_succ (taken : List String) (candidate : String) (fuel k : Nat) :
    firstFreeOrdinal taken candidate (fuel + 1) k =
      if ordinalName candidate k ∈ taken then firstFreeOrdinal taken candidate fuel (k + 1)
      else ordinalName candidate k := by
  simp only [firstFreeOrdinal, ordinalName, List.contains_iff_mem]
  exact ite_cond_congr rfl

/-- The search from ordinal `k` with `fuel` tries ends at the least free ordinal from `k` on,
provided one lies within reach. -/
theorem firstFreeOrdinal_least (taken : List String) (candidate : String) :
    ∀ (fuel k : Nat), (∃ m, k ≤ m ∧ m < k + fuel ∧ ordinalName candidate m ∉ taken) →
      ∃ n, k ≤ n ∧ firstFreeOrdinal taken candidate fuel k = ordinalName candidate n ∧
        ordinalName candidate n ∉ taken ∧ ∀ m, k ≤ m → m < n → ordinalName candidate m ∈ taken
  | 0, k, ⟨m, above, below, _⟩ => by omega
  | fuel + 1, k, ⟨m, above, below, free⟩ => by
    by_cases taken_k : ordinalName candidate k ∈ taken
    · -- `k` is taken, so the free ordinal in reach lies beyond it
      have beyond : k + 1 ≤ m := by
        rcases Nat.eq_or_lt_of_le above with rfl | later
        · exact absurd taken_k free
        · exact later
      obtain ⟨n, atLeast, found, nFree, least⟩ :=
        firstFreeOrdinal_least taken candidate fuel (k + 1) ⟨m, beyond, by omega, free⟩
      refine ⟨n, by omega, ?_, nFree, fun m' above' below' => ?_⟩
      · rw [firstFreeOrdinal_succ, if_pos taken_k]
        exact found
      · rcases Nat.eq_or_lt_of_le above' with rfl | later
        · exact taken_k
        · exact least m' later below'
    · refine ⟨k, Nat.le_refl k, ?_, taken_k, fun m' above' below' => by omega⟩
      rw [firstFreeOrdinal_succ, if_neg taken_k]

/-- Claiming a candidate gives it back when it is free, and its least free ordinal otherwise:
the search never runs out of tries, whatever names are taken. -/
theorem claim_claimed (taken : List String) (candidate : String) :
    Claimed taken candidate (claim taken candidate) := by
  by_cases taken_c : candidate ∈ taken
  · obtain ⟨m, above, below, free⟩ := exists_free_ordinal taken candidate
    obtain ⟨n, atLeast, found, nFree, least⟩ :=
      firstFreeOrdinal_least taken candidate (taken.length + 1) 2 ⟨m, above, below, free⟩
    have claimed : claim taken candidate = ordinalName candidate n := by
      simpa [claim, taken_c] using found
    exact Or.inr ⟨taken_c, n, atLeast, claimed, claimed ▸ nFree, least⟩
  · exact Or.inl ⟨taken_c, by simp [claim, taken_c]⟩

/-! ## Names claimed in turn -/

/-- `names` are claimed one after another from `candidates`, each when the names in `taken` and
those claimed before it are taken (`taken` lists the names taken, latest first). -/
def ClaimedInTurn : List String → List String → List String → Prop
  | _, [], [] => True
  | taken, candidate :: candidates, name :: names =>
    Claimed taken candidate name ∧ ClaimedInTurn (name :: taken) candidates names
  | _, _, _ => False

namespace ClaimedInTurn

theorem append {taken first first' second second' : List String}
    (firstClaimed : ClaimedInTurn taken first first')
    (secondClaimed : ClaimedInTurn (first'.reverse ++ taken) second second') :
    ClaimedInTurn taken (first ++ second) (first' ++ second') := by
  induction first generalizing taken first' with
  | nil =>
      cases first' with
      | nil => simpa using secondClaimed
      | cons _ _ => cases firstClaimed
  | cons candidate candidates restAppend =>
      cases first' with
      | nil => cases firstClaimed
      | cons name names =>
          obtain ⟨claimed, restClaimed⟩ := firstClaimed
          refine ⟨claimed, restAppend restClaimed ?_⟩
          simpa using secondClaimed

/-- Names claimed in turn are pairwise distinct and apart from those taken before. -/
theorem nodup {taken candidates names : List String}
    (claimed : ClaimedInTurn taken candidates names) :
    names.Nodup ∧ ∀ name ∈ names, name ∉ taken := by
  induction candidates generalizing taken names with
  | nil =>
      cases names with
      | nil => exact ⟨List.nodup_nil, by simp⟩
      | cons _ _ => cases claimed
  | cons candidate candidates restNodup =>
      cases names with
      | nil => cases claimed
      | cons name names =>
          obtain ⟨first, rest⟩ := claimed
          obtain ⟨distinct, apart⟩ := restNodup rest
          refine ⟨List.nodup_cons.mpr ⟨fun member => apart name member (List.mem_cons_self ..),
            distinct⟩, fun n member => ?_⟩
          rcases List.mem_cons.mp member with rfl | later
          · exact first.not_mem
          · exact fun inTaken => apart n later (List.mem_cons_of_mem _ inTaken)

end ClaimedInTurn

/-! ## Planning members -/

/-- A property's accessor candidates: `get` and the capitalised name, then, for a mutable
property, `set` and the capitalised name. -/
def Property.fieldCandidates (p : Property) : List String :=
  ("get" ++ Text.capitalize p.name) ::
    (if p.mutable then ["set" ++ Text.capitalize p.name] else [])

/-- The candidates for a target's stub fields: its overridable functions' names as told apart
among overloads, then its overridable properties' accessor names, each in the host's order. -/
def TargetType.fieldCandidates (t : TargetType) : List String :=
  disambiguate t.overridableFunctions ++ t.overridableProperties.flatMap Property.fieldCandidates

/-- Planned functions claim their fields in turn and hand on the names taken, latest first. -/
theorem planFunctions_claimed {target : String} :
    ∀ {functions : List (Function × String)} {taken : List String} {plans : List MemberPlan}
      {taken' : List String}, planFunctions target functions taken = .ok (plans, taken') →
      ClaimedInTurn taken (functions.map Prod.snd) (plans.flatMap MemberPlan.fieldNames) ∧
        taken' = (plans.flatMap MemberPlan.fieldNames).reverse ++ taken
  | [], _, _, _, planned => by cases planned; exact ⟨trivial, rfl⟩
  | (f, field) :: rest, taken, plans, taken', planned => by
      unfold planFunctions at planned
      split at planned
      · cases planned
      · dsimp only at planned
        split at planned
        · cases planned
        · rename_i later laterPlanned
          cases planned
          obtain ⟨restClaimed, handed⟩ := planFunctions_claimed laterPlanned
          exact ⟨⟨claim_claimed taken field, restClaimed⟩, by simp [MemberPlan.fieldNames, handed]⟩

/-- Planned properties claim their accessor fields in turn. -/
theorem planProperties_claimed (properties : List Property) :
    ∀ taken : List String,
      ClaimedInTurn taken (properties.flatMap Property.fieldCandidates)
        ((planProperties properties taken).flatMap MemberPlan.fieldNames) := by
  induction properties with
  | nil => intro taken; trivial
  | cons p rest restClaimed =>
      intro taken
      unfold planProperties
      cases mutable : p.mutable with
      | false =>
          simp only [mutable, Bool.false_eq_true, if_false, List.flatMap_cons,
            Property.fieldCandidates, MemberPlan.fieldNames, List.singleton_append]
          exact ⟨claim_claimed taken _, restClaimed _⟩
      | true =>
          simp only [mutable, if_true, List.flatMap_cons, Property.fieldCandidates,
            MemberPlan.fieldNames, List.cons_append]
          exact ⟨claim_claimed taken _, claim_claimed _ _, restClaimed _⟩

/-- Planning functions fails at the first function without a return type. -/
theorem planFunctions_missing {target : String} {f : Function} :
    ∀ {functions : List (Function × String)} (taken : List String),
      (functions.map Prod.fst).find? (·.returnType.isNone) = some f →
      planFunctions target functions taken = .error (.missingReturnType target f.name)
  | [], _, found => by cases found
  | (g, field) :: rest, taken, found => by
      cases returns : g.returnType with
      | none =>
          have same : g = f := by simpa [returns] using found
          subst same
          simp [planFunctions, returns]
      | some r =>
          have later : (rest.map Prod.fst).find? (·.returnType.isNone) = some f := by
            simpa [returns] using found
          simp [planFunctions, returns, planFunctions_missing (claim taken field :: taken) later]

/-- Planning functions that all have a return type succeeds. -/
theorem planFunctions_succeeds (target : String) :
    ∀ {functions : List (Function × String)} (taken : List String),
      (functions.map Prod.fst).find? (·.returnType.isNone) = none →
      ∃ plans taken', planFunctions target functions taken = .ok (plans, taken')
  | [], taken, _ => ⟨[], taken, rfl⟩
  | (g, field) :: rest, taken, none_found => by
      cases returns : g.returnType with
      | none => simp [returns] at none_found
      | some r =>
          have later : (rest.map Prod.fst).find? (·.returnType.isNone) = none := by
            simpa [returns] using none_found
          obtain ⟨plans, taken', planned⟩ :=
            planFunctions_succeeds target (claim taken field :: taken) later
          exact ⟨.function g (claim taken field) ⟨g.arity, !r.isUnit⟩ :: plans, taken',
            by simp only [planFunctions, returns, planned]⟩

theorem map_fst_zip_disambiguate (fs : List Function) :
    (fs.zip (disambiguate fs)).map Prod.fst = fs :=
  List.map_fst_zip (by simp [disambiguate])

theorem map_snd_zip_disambiguate (fs : List Function) :
    (fs.zip (disambiguate fs)).map Prod.snd = disambiguate fs :=
  List.map_snd_zip (by simp [disambiguate])

/-- The stub fields of a planned target are claimed in turn from their candidates, functions
first and then properties, and so are pairwise distinct; claiming a candidate gives it back when
it is free and its least free ordinal otherwise, whatever names are taken; and planning fails
exactly when an overridable function has no return type, naming the first such function. -/
theorem planned_field_names_distinct (t : TargetType) :
    (∀ plans, planMembers t = .ok plans →
      (plans.flatMap MemberPlan.fieldNames).Nodup ∧
        ClaimedInTurn [] t.fieldCandidates (plans.flatMap MemberPlan.fieldNames)) ∧
    (∀ taken candidate, Claimed taken candidate (claim taken candidate)) ∧
    (∀ f, t.overridableFunctions.find? (·.returnType.isNone) = some f →
      planMembers t = .error (.missingReturnType t.displayName f.name)) ∧
    (t.overridableFunctions.find? (·.returnType.isNone) = none →
      ∃ plans, planMembers t = .ok plans) := by
  refine ⟨fun plans planned => ?_, claim_claimed, fun f found => ?_, fun none_found => ?_⟩
  · unfold planMembers at planned
    dsimp only at planned
    split at planned
    · cases planned
    · rename_i functionPlans taken functionsPlanned
      cases planned
      obtain ⟨functionsClaimed, handed⟩ := planFunctions_claimed functionsPlanned
      rw [map_snd_zip_disambiguate] at functionsClaimed
      have claimed : ClaimedInTurn [] t.fieldCandidates
          ((functionPlans ++ planProperties t.overridableProperties taken).flatMap
            MemberPlan.fieldNames) := by
        rw [List.flatMap_append, TargetType.fieldCandidates]
        refine functionsClaimed.append ?_
        rw [List.append_nil] at handed
        rw [List.append_nil, ← handed]
        exact planProperties_claimed _ taken
      exact ⟨claimed.nodup.1, claimed⟩
  · rw [← map_fst_zip_disambiguate t.overridableFunctions] at found
    simp [planMembers, planFunctions_missing [] found]
  · rw [← map_fst_zip_disambiguate t.overridableFunctions] at none_found
    obtain ⟨plans, taken', planned⟩ :=
      planFunctions_succeeds t.displayName [] none_found
    exact ⟨plans ++ planProperties t.overridableProperties taken', by simp only [planMembers, planned]⟩

/-- An interface with two `put` overloads taking a `Date` of two packages, a function `getName`
and a read-only property `name`. -/
def datesAndName : TargetType :=
  ((((TargetType.interface "p" "Store").withFunction
      (Function.open "put" [.named "d" (.ofClass "java.util.Date")] .unit)).withFunction
      (Function.open "put" [.named "d" (.ofClass "java.sql.Date")] .unit)).withFunction
      (Function.open "getName" [] (.ofClass "kotlin.String"))).withProperty
    (Property.open "name" (.ofClass "kotlin.String") false)

theorem colliding_fields_get_ordinals :
    datesAndName.overridableFunctions.find? (·.returnType.isNone) = none ∧
      ∃ plans, planMembers datesAndName = .ok plans ∧
        plans.flatMap MemberPlan.fieldNames = ["put_Date", "put_Date_2", "getName", "getName_2"] ∧
        ClaimedInTurn [] datesAndName.fieldCandidates (plans.flatMap MemberPlan.fieldNames) := by
  have allReturn : datesAndName.overridableFunctions.find? (·.returnType.isNone) = none := by
    decide
  obtain ⟨plans, planned⟩ := (planned_field_names_distinct datesAndName).2.2.2 allReturn
  refine ⟨allReturn, plans, planned, ?_,
    ((planned_field_names_distinct datesAndName).1 plans planned).2⟩
  have named : (planMembers datesAndName).map (·.flatMap MemberPlan.fieldNames) =
      .ok ["put_Date", "put_Date_2", "getName", "getName_2"] := by
    rfl
  rw [planned] at named
  injection named

end KotlinMocks

import KotlinMocks.Proofs.MockText

/-!
# What the defer check looks at

A target is held back while `TargetType.unresolvedReferences` names something; the mock class of
the target writes type references in its class header and in its overrides. The two walk the
target apart, so the check is worth something only if it looks at exactly what the mock class
writes. `TargetType.writtenTypes` lists the references the mock class of a target writes in
full, with nothing erased: the bounds of the target's type parameters, the constructor's
parameter types, what each overridable function writes and each overridable property's type.
A mock class made from the target's plans writes the same list (`MockClass.writtenTypes_eq_target`),
each of them stands in its text, and so does the name of every declaration they mention at any
depth (`MockClass.render_writes_declarations`).

The check names, in order and once per occurrence, the unresolved declarations those references
mention (`TargetType.unresolvedReferences_eq_written`), and members that cannot be overridden
never change it. That the mock class reads no other declaration is the subject of
`KotlinMocks.Proofs.RenderedDeclarations`.
-/

namespace KotlinMocks

/-! ## Declarations a reference mentions -/

/-- The simple name of an unresolved declaration; none for any other. -/
def Declaration.unresolvedName? (d : Declaration) : Option String :=
  if d.kind = .unresolved then some d.simpleName else none

namespace TypeReference

mutual
/-- The unresolved names of a reference are those of the unresolved declarations it mentions. -/
theorem unresolvedNames_eq : ∀ t : TypeReference,
    t.unresolvedNames = t.declarations.filterMap Declaration.unresolvedName?
  | .mk d _ args => by
    rw [unresolvedNames, declarations, List.filterMap_cons, argumentsUnresolved_eq args]
    by_cases unresolved : d.kind = .unresolved <;>
      simp [Declaration.unresolvedName?, unresolved]

theorem argumentsUnresolved_eq : ∀ args : List TypeArgument,
    argumentsUnresolved args = (argumentsDeclarations args).filterMap Declaration.unresolvedName?
  | [] => rfl
  | .star :: rest => by
    rw [argumentsUnresolved, argumentsDeclarations, argumentsUnresolved_eq rest]
  | .type _ t :: rest => by
    rw [argumentsUnresolved, argumentsDeclarations, List.filterMap_append, unresolvedNames_eq t,
      argumentsUnresolved_eq rest]
end

end TypeReference

theorem unresolvedIn_eq (ts : List TypeReference) :
    unresolvedIn ts = (ts.flatMap TypeReference.declarations).filterMap Declaration.unresolvedName? := by
  induction ts with
  | nil => rfl
  | cons t rest restNames =>
      rw [unresolvedIn, List.flatMap_cons, List.flatMap_cons, List.filterMap_append,
        TypeReference.unresolvedNames_eq, ← restNames, unresolvedIn]

/-! ## What a mock class writes in full -/

/-- The type references the mock class of a target writes in full, read off the target: the
bounds of its type parameters, its constructor's parameter types, what each overridable function
writes, then the type of each overridable property. -/
def TargetType.writtenTypes (t : TargetType) : List TypeReference :=
  t.typeParameters.flatMap (·.bounds) ++ (t.primaryConstructor.getD []).map (·.type) ++
    t.overridableFunctions.flatMap Function.writtenTypes ++ t.overridableProperties.map (·.type)

theorem Function.unresolvedIn_writtenTypes (f : Function) :
    unresolvedIn f.writtenTypes = TargetType.functionUnresolved f := by
  cases returns : f.returnType <;>
    simp [writtenTypes, TargetType.functionUnresolved, unresolvedIn, returns]

/-! ## Planning keeps the overridable members -/

/-- Planned functions write what the functions they plan write, in order. -/
theorem planFunctions_writtenTypes {target : String} :
    ∀ {functions : List (Function × String)} {taken : List String} {plans : List MemberPlan}
      {taken' : List String}, planFunctions target functions taken = .ok (plans, taken') →
      plans.flatMap MemberPlan.writtenTypes = (functions.map Prod.fst).flatMap Function.writtenTypes
  | [], _, _, _, planned => by cases planned; rfl
  | (f, field) :: rest, taken, plans, taken', planned => by
      unfold planFunctions at planned
      split at planned
      · cases planned
      · dsimp only at planned
        split at planned
        · cases planned
        · rename_i later laterPlanned
          cases planned
          simp [MemberPlan.writtenTypes, planFunctions_writtenTypes laterPlanned]

/-- Planned properties write their types, in order. -/
theorem planProperties_writtenTypes (properties : List Property) :
    ∀ taken : List String,
      (planProperties properties taken).flatMap MemberPlan.writtenTypes = properties.map (·.type) := by
  induction properties with
  | nil => intro taken; rfl
  | cons p rest restTypes =>
      intro taken
      unfold planProperties
      split <;> simp [MemberPlan.writtenTypes, restTypes]

theorem disambiguate_length (fs : List Function) : (disambiguate fs).length = fs.length := by
  simp [disambiguate]

/-- The plans of a target write what its overridable functions write, then the types of its
overridable properties. -/
theorem planMembers_writtenTypes {t : TargetType} {plans : List MemberPlan}
    (planned : planMembers t = .ok plans) :
    plans.flatMap MemberPlan.writtenTypes =
      t.overridableFunctions.flatMap Function.writtenTypes ++
        t.overridableProperties.map (·.type) := by
  unfold planMembers at planned
  dsimp only at planned
  split at planned
  · cases planned
  · rename_i functionPlans taken functionsPlanned
    cases planned
    rw [List.flatMap_append, planFunctions_writtenTypes functionsPlanned,
      List.map_fst_zip (Nat.le_of_eq (disambiguate_length _).symm), planProperties_writtenTypes]

/-- A mock class is made of the target and the plans it was given. -/
theorem MockClass.make_target_plans {t : TargetType} {plans : List MemberPlan}
    {options : GeneratorOptions} {m : MockClass} (made : MockClass.make t plans options = .ok m) :
    m.target = t ∧ m.plans = plans := by
  obtain ⟨q, -, rfl⟩ := MockClass.make_eq made
  exact ⟨rfl, rfl⟩

/-- The check names the unresolved declarations that the references the mock class of a target
writes in full mention, in the order it writes them and once per occurrence. -/
theorem TargetType.unresolvedReferences_eq_written (t : TargetType) :
    t.unresolvedReferences =
      (t.writtenTypes.flatMap TypeReference.declarations).filterMap Declaration.unresolvedName? := by
  have functions : t.overridableFunctions.flatMap TargetType.functionUnresolved =
      unresolvedIn (t.overridableFunctions.flatMap Function.writtenTypes) := by
    rw [unresolvedIn, List.flatMap_assoc]
    congr 1
    funext f
    exact (Function.unresolvedIn_writtenTypes f).symm
  rw [← unresolvedIn_eq, TargetType.writtenTypes, TargetType.unresolvedReferences, functions]
  simp [unresolvedIn, List.flatMap_append]

/-- A mock class made from the plans of its target writes in full what the target says. -/
theorem MockClass.writtenTypes_eq_target {t : TargetType} {plans : List MemberPlan}
    {options : GeneratorOptions} {m : MockClass} (planned : planMembers t = .ok plans)
    (made : MockClass.make t plans options = .ok m) : m.writtenTypes = t.writtenTypes := by
  obtain ⟨target, planIs⟩ := MockClass.make_target_plans made
  rw [MockClass.writtenTypes, target, planIs, planMembers_writtenTypes planned,
    TargetType.writtenTypes, List.append_assoc _ (t.overridableFunctions.flatMap _)]

theorem Declaration.filterMap_unresolvedName_eq_nil {ds : List Declaration} :
    ds.filterMap Declaration.unresolvedName? = [] ↔ ∀ d ∈ ds, d.kind ≠ .unresolved := by
  simp [List.filterMap_eq_nil_iff, Declaration.unresolvedName?]

/-- The check names nothing exactly when no declaration that the references it visits mention is
unresolved. -/
theorem TargetType.unresolvedReferences_eq_nil_iff (t : TargetType) :
    t.unresolvedReferences = [] ↔
      ∀ r ∈ t.writtenTypes, ∀ d ∈ r.declarations, d.kind ≠ .unresolved := by
  rw [t.unresolvedReferences_eq_written, Declaration.filterMap_unresolvedName_eq_nil]
  simp only [List.mem_flatMap]
  constructor
  · intro clear r written d mentioned
    exact clear d ⟨r, written, mentioned⟩
  · rintro clear d ⟨r, written, mentioned⟩
    exact clear r written d mentioned

/-! ## Members that cannot be overridden -/

theorem TargetType.unresolvedReferences_withFunction_fixed (t : TargetType) {f : Function}
    (fixed : f.modality.isOverridable = false) :
    (t.withFunction f).unresolvedReferences = t.unresolvedReferences := by
  simp [unresolvedReferences, withFunction, overridableFunctions, overridableProperties,
    List.filter_append, fixed]

theorem TargetType.unresolvedReferences_withProperty_fixed (t : TargetType) {p : Property}
    (fixed : p.modality.isOverridable = false) :
    (t.withProperty p).unresolvedReferences = t.unresolvedReferences := by
  simp [unresolvedReferences, withProperty, overridableFunctions, overridableProperties,
    List.filter_append, fixed]

end KotlinMocks

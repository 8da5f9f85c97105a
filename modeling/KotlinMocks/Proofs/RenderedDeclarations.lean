import KotlinMocks.Proofs.DeferCheck

/-!
# The mock class reads only what the defer check looks at

The defer check of a target and the mock class of the target walk it apart: the check through
`TargetType.unresolvedReferences`, the mock class through its header, its stub fields (with a
function's own generic parameters erased), its overrides and their `where` clauses. The check is
worth something only if the mock class reads no declaration that the check does not look at.

Renaming says so without a list of what the mock class writes. `TypeReference.rename σ` replaces
every declaration a reference mentions, at any depth, by its image under `σ`, and renaming a
target renames every type reference in it, of every member. Renaming declarations that no
reference of `TargetType.writtenTypes` mentions changes neither the plans of the target nor the
text of its mock class (`render_rename_of_fixes`): nothing the mock class writes comes from
another reference.

A resolution may replace each unresolved declaration by any declaration and keeps every other.
When the mock class of a target is made, its defer check names nothing exactly when the text of
the mock class is the same however the unresolved declarations are resolved
(`unresolvedReferences_eq_nil_iff_resolved_alike`): a declaration the check reports is written,
and one it does not report is never read.
-/

namespace KotlinMocks

/-! ## Renaming declarations -/

namespace TypeReference

mutual
/-- The reference with every declaration it mentions, at any depth, replaced by its image. -/
def rename (σ : Declaration → Declaration) : TypeReference → TypeReference
  | .mk d n args => .mk (σ d) n (renameArguments σ args)

/-- Generic arguments with every declaration they mention replaced by its image. -/
def renameArguments (σ : Declaration → Declaration) : List TypeArgument → List TypeArgument
  | [] => []
  | .star :: rest => .star :: renameArguments σ rest
  | .type v t :: rest => .type v (rename σ t) :: renameArguments σ rest
end

variable {σ : Declaration → Declaration}

mutual
/-- A renamed reference mentions the images of the declarations the reference mentions. -/
theorem declarations_rename : ∀ t : TypeReference,
    (t.rename σ).declarations = t.declarations.map σ
  | .mk d n args => by
    rw [rename, declarations, declarations, argumentsDeclarations_rename args, List.map_cons]

theorem argumentsDeclarations_rename : ∀ args : List TypeArgument,
    argumentsDeclarations (renameArguments σ args) = (argumentsDeclarations args).map σ
  | [] => rfl
  | .star :: rest => by
    rw [renameArguments, argumentsDeclarations, argumentsDeclarations,
      argumentsDeclarations_rename rest]
  | .type v t :: rest => by
    rw [renameArguments, argumentsDeclarations, argumentsDeclarations, declarations_rename t,
      argumentsDeclarations_rename rest, List.map_append]
end

mutual
/-- A renaming that fixes every declaration a reference mentions leaves the reference as it is. -/
theorem rename_eq_self : ∀ t : TypeReference, (∀ d ∈ t.declarations, σ d = d) → t.rename σ = t
  | .mk d n args, fixes => by
    rw [declarations] at fixes
    rw [rename, fixes d (List.mem_cons_self ..),
      renameArguments_eq_self args fun e mentioned => fixes e (List.mem_cons_of_mem _ mentioned)]

theorem renameArguments_eq_self : ∀ args : List TypeArgument,
    (∀ d ∈ argumentsDeclarations args, σ d = d) → renameArguments σ args = args
  | [], _ => rfl
  | .star :: rest, fixes => by
    rw [argumentsDeclarations] at fixes
    rw [renameArguments, renameArguments_eq_self rest fixes]
  | .type v t :: rest, fixes => by
    rw [argumentsDeclarations] at fixes
    rw [renameArguments, rename_eq_self t fun d mentioned => fixes d (List.mem_append_left _ mentioned),
      renameArguments_eq_self rest fun d mentioned => fixes d (List.mem_append_right _ mentioned)]
end

end TypeReference

/-- A generic parameter with its bounds renamed. -/
def TypeParameter.rename (σ : Declaration → Declaration) (p : TypeParameter) : TypeParameter :=
  { p with bounds := p.bounds.map (TypeReference.rename σ) }

/-- A value parameter with its type renamed. -/
def Parameter.rename (σ : Declaration → Declaration) (p : Parameter) : Parameter :=
  { p with type := p.type.rename σ }

/-- A function with every type reference in it renamed: its parameter types, its return type
and the bounds of its own generic parameters. -/
def Function.rename (σ : Declaration → Declaration) (f : Function) : Function :=
  { f with
    parameters := f.parameters.map (Parameter.rename σ)
    returnType := f.returnType.map (TypeReference.rename σ)
    typeParameters := f.typeParameters.map (TypeParameter.rename σ) }

/-- A property with its type renamed. -/
def Property.rename (σ : Declaration → Declaration) (p : Property) : Property :=
  { p with type := p.type.rename σ }

/-- A target with every type reference in it renamed: the bounds of its generic parameters, its
constructor's parameter types and every type reference of every member, overridable or not. -/
def TargetType.rename (σ : Declaration → Declaration) (t : TargetType) : TargetType :=
  { t with
    typeParameters := t.typeParameters.map (TypeParameter.rename σ)
    primaryConstructor := t.primaryConstructor.map (List.map (Parameter.rename σ))
    functions := t.functions.map (Function.rename σ)
    properties := t.properties.map (Property.rename σ) }

/-- `σ` fixes every declaration that some references mention. -/
def FixesDeclarations (σ : Declaration → Declaration) (refs : List TypeReference) : Prop :=
  ∀ r ∈ refs, ∀ d ∈ r.declarations, σ d = d

variable {σ : Declaration → Declaration}

namespace FixesDeclarations

theorem append_iff {first second : List TypeReference} :
    FixesDeclarations σ (first ++ second) ↔
      FixesDeclarations σ first ∧ FixesDeclarations σ second := by
  simp only [FixesDeclarations, List.mem_append, or_imp, forall_and]

theorem flatMap_iff {α : Type} {xs : List α} {refs : α → List TypeReference} :
    FixesDeclarations σ (xs.flatMap refs) ↔ ∀ x ∈ xs, FixesDeclarations σ (refs x) := by
  simp only [FixesDeclarations, List.mem_flatMap]
  constructor
  · intro fixes x member r inner
    exact fixes r ⟨x, member, inner⟩
  · rintro fixes r ⟨x, member, inner⟩
    exact fixes x member r inner

/-- References whose declarations a renaming fixes are renamed to themselves. -/
theorem map_rename {refs : List TypeReference} (fixes : FixesDeclarations σ refs) :
    refs.map (TypeReference.rename σ) = refs :=
  (List.map_congr_left fun r member => TypeReference.rename_eq_self r (fixes r member)).trans
    (List.map_id refs)

end FixesDeclarations

theorem Parameter.map_rename_eq_self {ps : List Parameter}
    (fixes : FixesDeclarations σ (ps.map (·.type))) : ps.map (Parameter.rename σ) = ps := by
  refine (List.map_congr_left fun p member => ?_).trans (List.map_id ps)
  have typeFixed := TypeReference.rename_eq_self p.type (fixes p.type (List.mem_map_of_mem member))
  rw [Parameter.rename, typeFixed]
  rfl

theorem TypeParameter.map_rename_eq_self {ps : List TypeParameter}
    (fixes : FixesDeclarations σ (ps.flatMap (·.bounds))) : ps.map (TypeParameter.rename σ) = ps := by
  refine (List.map_congr_left fun p member => ?_).trans (List.map_id ps)
  have boundsFixed := (FixesDeclarations.flatMap_iff.mp fixes p member).map_rename
  rw [TypeParameter.rename, boundsFixed]
  rfl

theorem Function.writtenTypes_rename (f : Function) :
    (f.rename σ).writtenTypes = f.writtenTypes.map (TypeReference.rename σ) := by
  cases returns : f.returnType <;>
    simp [Function.writtenTypes, Function.rename, Parameter.rename, TypeParameter.rename, returns,
      List.map_flatMap, List.flatMap_map, Function.comp_def]

/-- A function whose written types a renaming fixes is renamed to itself. -/
theorem Function.rename_eq_self {f : Function} (fixes : FixesDeclarations σ f.writtenTypes) :
    f.rename σ = f := by
  obtain ⟨⟨parameters, returns⟩, bounds⟩ := by
    simpa only [Function.writtenTypes, FixesDeclarations.append_iff] using fixes
  have returnFixed : f.returnType.map (TypeReference.rename σ) = f.returnType := by
    cases returnsIs : f.returnType with
    | none => rfl
    | some r =>
        rw [returnsIs] at returns
        rw [Option.map_some, TypeReference.rename_eq_self r (returns r (by simp))]
  rw [Function.rename, Parameter.map_rename_eq_self parameters,
    TypeParameter.map_rename_eq_self bounds, returnFixed]

theorem Property.rename_eq_self {p : Property} (fixes : FixesDeclarations σ [p.type]) :
    p.rename σ = p := by
  have typeFixed := TypeReference.rename_eq_self p.type (fixes p.type (List.mem_singleton_self _))
  rw [Property.rename, typeFixed]

namespace TargetType

theorem overridableFunctions_rename (t : TargetType) :
    (t.rename σ).overridableFunctions = t.overridableFunctions.map (Function.rename σ) := by
  simp [overridableFunctions, TargetType.rename, List.filter_map, Function.comp_def,
    Function.rename]

theorem overridableProperties_rename (t : TargetType) :
    (t.rename σ).overridableProperties = t.overridableProperties.map (Property.rename σ) := by
  simp [overridableProperties, TargetType.rename, List.filter_map, Function.comp_def,
    Property.rename]

/-- A renamed target writes the renamed references, in the same order. -/
theorem writtenTypes_rename (t : TargetType) :
    (t.rename σ).writtenTypes = t.writtenTypes.map (TypeReference.rename σ) := by
  rw [writtenTypes, writtenTypes, overridableFunctions_rename, overridableProperties_rename]
  cases constructor : t.primaryConstructor <;>
    simp [TargetType.rename, TypeParameter.rename, Parameter.rename, Property.rename,
      Function.writtenTypes_rename, constructor, List.map_flatMap, List.flatMap_map, Function.comp_def]

/-- Renaming declarations that no reference the defer check visits mentions leaves as they are
the parts of a target that planning and the mock class read: the generic parameters, the
constructor, and the overridable functions and properties. -/
theorem rename_reads_alike {t : TargetType} (fixes : FixesDeclarations σ t.writtenTypes) :
    (t.rename σ).typeParameters = t.typeParameters ∧
      (t.rename σ).primaryConstructor = t.primaryConstructor ∧
      (t.rename σ).overridableFunctions = t.overridableFunctions ∧
      (t.rename σ).overridableProperties = t.overridableProperties := by
  obtain ⟨⟨⟨bounds, constructor⟩, functions⟩, properties⟩ := by
    simpa only [writtenTypes, FixesDeclarations.append_iff] using fixes
  refine ⟨TypeParameter.map_rename_eq_self bounds, ?_, ?_, ?_⟩
  · cases constructorIs : t.primaryConstructor with
    | none => simp [TargetType.rename, constructorIs]
    | some ps =>
        rw [constructorIs, Option.getD_some] at constructor
        simp [TargetType.rename, constructorIs, Parameter.map_rename_eq_self constructor]
  · rw [overridableFunctions_rename]
    refine (List.map_congr_left fun f member => ?_).trans (List.map_id _)
    exact Function.rename_eq_self (FixesDeclarations.flatMap_iff.mp functions f member)
  · rw [overridableProperties_rename]
    refine (List.map_congr_left fun p member => ?_).trans (List.map_id _)
    refine Property.rename_eq_self fun r inner d mentioned => ?_
    rw [List.mem_singleton] at inner
    subst inner
    exact properties _ (List.mem_map_of_mem member) d mentioned

end TargetType

/-! ## What planning and the mock class read of a target -/

/-- Planning reads a target only through its overridable members and its display name. -/
theorem planMembers_congr {t t' : TargetType}
    (functions : t'.overridableFunctions = t.overridableFunctions)
    (properties : t'.overridableProperties = t.overridableProperties)
    (named : t'.displayName = t.displayName) : planMembers t' = planMembers t := by
  unfold planMembers
  rw [functions, properties, named]

namespace MockClass

/-- Making a mock class reads the target only through its names and its constructor; the mock
class made holds the target it was made of. -/
theorem make_congr {t t' : TargetType} (qualified : t'.qualifiedName = t.qualifiedName)
    (simple : t'.simpleName = t.simpleName) (constructor : t'.primaryConstructor = t.primaryConstructor)
    (named : t'.displayName = t.displayName) (plans : List MemberPlan) (options : GeneratorOptions) :
    make t' plans options = (fun m => { m with target := t' }) <$> make t plans options := by
  have checks : checkNamed t' = checkNamed t := by
    funext member ps
    unfold checkNamed
    rw [named]
  unfold make
  rw [qualified, constructor, checks, simple]
  cases t.qualifiedName with
  | none => rfl
  | some q => cases t.primaryConstructor <;> simp only [map_bind, map_pure]

/-- The text of a mock class reads its target only through the package, the generic parameters
and the constructor. -/
theorem render_congr_target {m : MockClass} {t : TargetType} (package : t.package = m.target.package)
    (params : t.typeParameters = m.target.typeParameters)
    (constructor : t.primaryConstructor = m.target.primaryConstructor) :
    { m with target := t }.render = m.render := by
  unfold render writePreamble classHeader writeBody writeControlSurface writeOverrides
    writeLifecycleHelpers controlSurfaceType
  dsimp only
  rw [package, params, constructor]
  -- the stub fields and the relaxed fields read the plans alone
  rfl

end MockClass

/-! ## Renaming what the check does not look at -/

/-- Renaming declarations that none of the references the defer check visits mentions changes
neither the plans of a target nor the text of its mock class. -/
theorem render_rename_of_fixes {t : TargetType} {plans : List MemberPlan}
    {options : GeneratorOptions} {m : MockClass} (planned : planMembers t = .ok plans)
    (made : MockClass.make t plans options = .ok m) (fixes : FixesDeclarations σ t.writtenTypes) :
    planMembers (t.rename σ) = .ok plans ∧
      ∃ m', MockClass.make (t.rename σ) plans options = .ok m' ∧ m'.render = m.render := by
  obtain ⟨params, constructor, functions, properties⟩ := TargetType.rename_reads_alike fixes
  obtain ⟨target, -⟩ := MockClass.make_target_plans made
  refine ⟨(planMembers_congr functions properties rfl).trans planned,
    { m with target := t.rename σ }, ?_, ?_⟩
  · have remade : MockClass.make (t.rename σ) plans options =
        (fun m => { m with target := t.rename σ }) <$> MockClass.make t plans options :=
      MockClass.make_congr (by rfl) (by rfl) constructor (by rfl) plans options
    rw [remade, made]
    rfl
  · subst target
    exact MockClass.render_congr_target rfl params constructor

/-! ## Resolutions -/

/-- A resolution of unresolved declarations: each may become any declaration, and every other
declaration stays as it is. -/
structure Resolution where
  resolve : Declaration → Declaration
  keeps : ∀ d, d.kind ≠ .unresolved → resolve d = d

/-- Resolves every unresolved declaration to a class of the given qualified name. -/
def Resolution.toClass (name : String) : Resolution where
  resolve d := if d.kind = .unresolved then { d with qualifiedName := some name, kind := .class } else d
  keeps _ resolved := if_neg resolved

theorem Resolution.displayName_toClass {name : String} {d : Declaration}
    (unresolved : d.kind = .unresolved) : ((Resolution.toClass name).resolve d).displayName = name := by
  simp [Resolution.toClass, unresolved, Declaration.displayName, DeclarationKind.isNamed]

/-- For a target whose mock class is made, the defer check names nothing exactly when the text
of the mock class is the same however the unresolved declarations are resolved. -/
theorem unresolvedReferences_eq_nil_iff_resolved_alike {t : TargetType} {plans : List MemberPlan}
    {options : GeneratorOptions} {m : MockClass} (planned : planMembers t = .ok plans)
    (made : MockClass.make t plans options = .ok m) :
    t.unresolvedReferences = [] ↔
      ∀ ρ : Resolution, ∃ plans' m', planMembers (t.rename ρ.resolve) = .ok plans' ∧
        MockClass.make (t.rename ρ.resolve) plans' options = .ok m' ∧ m'.render = m.render := by
  rw [t.unresolvedReferences_eq_nil_iff]
  constructor
  · -- every declaration the check visits is resolved, so a resolution fixes it
    intro resolved ρ
    obtain ⟨samePlans, m', made', sameText⟩ := render_rename_of_fixes planned made
      fun r written d mentioned => ρ.keeps d (resolved r written d mentioned)
    exact ⟨plans, m', samePlans, made', sameText⟩
  · -- an unresolved declaration the check visits is written: resolving it to a class of a name
    -- longer than the whole text writes that name, which the text cannot hold
    intro alike r written d mentioned unresolved
    let name := String.ofList (List.replicate (m.render.toList.length + 1) 'x')
    obtain ⟨plans', m', planned', made', sameText⟩ := alike (Resolution.toClass name)
    have renamedWritten : r.rename (Resolution.toClass name).resolve ∈ m'.writtenTypes := by
      rw [MockClass.writtenTypes_eq_target planned' made', TargetType.writtenTypes_rename]
      exact List.mem_map_of_mem written
    have resolvedMentioned : (Resolution.toClass name).resolve d ∈
        (r.rename (Resolution.toClass name).resolve).declarations := by
      rw [TypeReference.declarations_rename]
      exact List.mem_map_of_mem mentioned
    have nameWritten := m'.render_writes_declarations renamedWritten resolvedMentioned
    rw [Resolution.displayName_toClass unresolved, sameText, String.toList_ofList] at nameWritten
    have tooLong := nameWritten.length_le
    rw [List.length_replicate] at tooLong
    omega

/-! ## The check covers what is rendered -/

/-- The defer check of a target names, in order and once per occurrence, the unresolved
declarations mentioned at any depth by the type references its mock class writes in full: the
bounds of the target's generic parameters, the constructor's parameter types, what each
overridable function writes and each overridable property's type. When the mock class is made, it
writes each of these references and the name of each declaration they mention, and it reads no
other declaration: renaming declarations that none of them mentions changes neither the plans
nor the text. So the check names nothing exactly when the text of the mock class is the same
however the unresolved declarations are resolved, and a final or sealed member added to the
target never changes the check. -/
theorem defer_check_covers_rendered_types (t : TargetType) :
    t.unresolvedReferences =
        (t.writtenTypes.flatMap TypeReference.declarations).filterMap Declaration.unresolvedName? ∧
      (t.unresolvedReferences = [] ↔
        ∀ r ∈ t.writtenTypes, ∀ d ∈ r.declarations, d.kind ≠ .unresolved) ∧
      (∀ (plans : List MemberPlan) (options : GeneratorOptions) (m : MockClass),
        planMembers t = .ok plans → MockClass.make t plans options = .ok m →
          m.writtenTypes = t.writtenTypes ∧
          (∀ r ∈ t.writtenTypes, (r.render .none).toList <:+: m.render.toList ∧
            ∀ d ∈ r.declarations, d.displayName.toList <:+: m.render.toList) ∧
          (∀ σ : Declaration → Declaration, (∀ r ∈ t.writtenTypes, ∀ d ∈ r.declarations, σ d = d) →
            planMembers (t.rename σ) = .ok plans ∧
              ∃ m', MockClass.make (t.rename σ) plans options = .ok m' ∧ m'.render = m.render) ∧
          (t.unresolvedReferences = [] ↔
            ∀ ρ : Resolution, ∃ plans' m', planMembers (t.rename ρ.resolve) = .ok plans' ∧
              MockClass.make (t.rename ρ.resolve) plans' options = .ok m' ∧
                m'.render = m.render)) ∧
      (∀ f : Function, f.modality.isOverridable = false →
        (t.withFunction f).unresolvedReferences = t.unresolvedReferences) ∧
      (∀ p : Property, p.modality.isOverridable = false →
        (t.withProperty p).unresolvedReferences = t.unresolvedReferences) := by
  refine ⟨t.unresolvedReferences_eq_written, t.unresolvedReferences_eq_nil_iff,
    fun plans options m planned made => ?_,
    fun f fixed => t.unresolvedReferences_withFunction_fixed fixed,
    fun p fixed => t.unresolvedReferences_withProperty_fixed fixed⟩
  have same := MockClass.writtenTypes_eq_target planned made
  refine ⟨same, fun r written => ?_, fun σ fixes => render_rename_of_fixes planned made fixes,
    unresolvedReferences_eq_nil_iff_resolved_alike planned made⟩
  rw [← same] at written
  exact ⟨m.render_writes_writtenTypes written,
    fun d mentioned => m.render_writes_declarations written mentioned⟩

/-- An open function taking a parameter of a type not resolved yet. -/
def takeBar : Function :=
  Function.open "take" [Parameter.named "bar" (TypeReference.unresolved "Bar")] TypeReference.unit

/-- The interface `p.Foo` with `take(bar: Bar)`. -/
def waitingForBar : TargetType := (TargetType.interface "p" "Foo").withFunction takeBar

/-- `p.Foo` with `take(bar: Bar)` waits for `Bar`; its mock writes `Bar`, so some resolution of
`Bar` changes the text; and a final `close(): Baz` gives it nothing more to wait for. -/
theorem take_bar_deferred_and_rendered :
    waitingForBar.unresolvedReferences = ["Bar"] ∧
    "Bar".toList <:+: (MockClass.render ⟨waitingForBar, "p.Foo",
      [.function takeBar "take" ⟨1, false⟩], {}, "FooMock"⟩).toList ∧
    (¬ ∀ ρ : Resolution, ∃ plans' m', planMembers (waitingForBar.rename ρ.resolve) = .ok plans' ∧
      MockClass.make (waitingForBar.rename ρ.resolve) plans' {} = .ok m' ∧
        m'.render = MockClass.render ⟨waitingForBar, "p.Foo",
          [.function takeBar "take" ⟨1, false⟩], {}, "FooMock"⟩) ∧
    (waitingForBar.withFunction
      { name := "close", returnType := some (TypeReference.unresolved "Baz") }).unresolvedReferences =
        ["Bar"] := by
  obtain ⟨listed, -, rendered, fixedFunction, -⟩ := defer_check_covers_rendered_types waitingForBar
  have planned : planMembers waitingForBar = .ok [.function takeBar "take" ⟨1, false⟩] := rfl
  have made : MockClass.make waitingForBar [.function takeBar "take" ⟨1, false⟩] {} =
      .ok ⟨waitingForBar, "p.Foo", [.function takeBar "take" ⟨1, false⟩], {}, "FooMock"⟩ := rfl
  obtain ⟨-, written, -, resolvedAlike⟩ := rendered _ {} _ planned made
  have waits : waitingForBar.unresolvedReferences = ["Bar"] := by
    rw [listed]
    decide
  refine ⟨waits, ?_, ?_, ?_⟩
  · exact (written (TypeReference.unresolved "Bar") (by decide)).2 ⟨"Bar", none, .unresolved⟩
      (by decide)
  · rw [← resolvedAlike, waits]
    simp
  · rw [fixedFunction _ rfl, waits]

end KotlinMocks

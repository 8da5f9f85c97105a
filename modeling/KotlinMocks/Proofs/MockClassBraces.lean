import KotlinMocks.Proofs.StubClassBraces
import KotlinMocks.Proofs.ErasedText
import KotlinMocks.Proofs.MockText
import KotlinMocks.Proofs.FieldNames
import KotlinMocks.Proofs.Settle
import KotlinMocks.Proofs.LineStart

/-!
# Braces of a mock class

A mock class writes braces only through its blocks: the class, the control surface, the object of
live stubs and the helpers. Every line it writes is made of names from the model and the
options (packages, the target's names, its generic parameters and their bounds, parameter names
and types, member names, the field names planned from them, the suppressions, the mock suffix)
and of fixed words without braces. When the names hold no brace (`TargetType.NamesFree`,
`GeneratorOptions.NamesFree`), neither does any line, and the text of the mock class reads from
depth zero back to zero and ends with the line closing the class (`MockClass.render_balanced`).

Field names are planned from member names: a function's own name or its overload name, built
from its parameters' simple type names, and `get`/`set` before a property's capitalised name,
each perhaps with an ordinal. Capitalising a name never makes a brace: no character's uppercase
is a brace (`Text.capitalize_braceFree`), as the case table bears out.

The main statement, `generated_units_balance_braces`, puts this together with the stub classes
of `StubClassBraces`: every unit that generation builds has its braces balanced.
-/

namespace KotlinMocks

/-! ## Names in the model -/

/-- The names of a declaration hold no brace. -/
def Declaration.NamesFree (d : Declaration) : Prop :=
  BraceFree d.simpleName ∧ ∀ q ∈ d.qualifiedName, BraceFree q

theorem Declaration.NamesFree.displayName {d : Declaration} (free : d.NamesFree) :
    BraceFree d.displayName := by
  obtain ⟨simple, qualified, kind⟩ := d
  cases qualified with
  | none => cases kind <;> exact free.1
  | some q => cases kind <;> first | exact free.2 q rfl | exact free.1

/-- Every declaration a reference mentions, at any depth of its arguments, has names without
braces. -/
def TypeReference.NamesFree (t : TypeReference) : Prop := ∀ d ∈ t.declarations, d.NamesFree

/-- The names of a generic parameter and of its bounds hold no brace. -/
def TypeParameter.NamesFree (p : TypeParameter) : Prop :=
  BraceFree p.name ∧ ∀ b ∈ p.bounds, b.NamesFree

/-- The name of a value parameter and the names in its type hold no brace. -/
def Parameter.NamesFree (p : Parameter) : Prop := (∀ n ∈ p.name, BraceFree n) ∧ p.type.NamesFree

/-- The names a function holds: its own, its parameters', its return type's and its generic
parameters'. -/
structure Function.NamesFree (f : Function) : Prop where
  name : BraceFree f.name
  parameters : ∀ p ∈ f.parameters, p.NamesFree
  returnType : ∀ r ∈ f.returnType, r.NamesFree
  typeParameters : ∀ p ∈ f.typeParameters, p.NamesFree

/-- The name of a property and the names in its type hold no brace. -/
def Property.NamesFree (p : Property) : Prop := BraceFree p.name ∧ p.type.NamesFree

/-- The names of a target that a mock class may write hold no brace: its package and names, its
generic parameters, its constructor's parameters and its members. Its annotations and its
source file are never written. -/
structure TargetType.NamesFree (t : TargetType) : Prop where
  package : BraceFree t.package
  simpleName : BraceFree t.simpleName
  qualifiedName : ∀ q ∈ t.qualifiedName, BraceFree q
  typeParameters : ∀ p ∈ t.typeParameters, p.NamesFree
  primaryConstructor : ∀ ps ∈ t.primaryConstructor, ∀ p ∈ ps, p.NamesFree
  functions : ∀ f ∈ t.functions, f.NamesFree
  properties : ∀ p ∈ t.properties, p.NamesFree

/-- The options a mock class or a stub class writes hold no brace: the runtime package, the mock
suffix and the suppressions. The marker annotation is never written. -/
structure GeneratorOptions.NamesFree (o : GeneratorOptions) : Prop where
  runtimePackage : BraceFree o.runtimePackage
  mockSuffix : BraceFree o.mockSuffix
  suppressions : ∀ s ∈ o.suppressions, BraceFree s

/-- A planned member's names hold no brace: the member's and its fields'. -/
def MemberPlan.NamesFree : MemberPlan → Prop
  | .function f field _ => f.NamesFree ∧ BraceFree field
  | .property p getter setter => p.NamesFree ∧ BraceFree getter ∧ ∀ s ∈ setter, BraceFree s

/-- Everything a mock class writes from holds names without braces. -/
structure MockClass.NamesFree (m : MockClass) : Prop where
  target : m.target.NamesFree
  qualifiedName : BraceFree m.qualifiedName
  className : BraceFree m.className
  options : m.options.NamesFree
  plans : ∀ plan ∈ m.plans, plan.NamesFree

/-! The names a target and options hold can be checked: -/

instance : DecidablePred Declaration.NamesFree := fun _ => inferInstanceAs (Decidable (_ ∧ _))

instance : DecidablePred TypeReference.NamesFree := fun t =>
  inferInstanceAs (Decidable (∀ d ∈ t.declarations, d.NamesFree))

instance : DecidablePred TypeParameter.NamesFree := fun p =>
  inferInstanceAs (Decidable (_ ∧ ∀ b ∈ p.bounds, b.NamesFree))

instance : DecidablePred Parameter.NamesFree := fun _ => inferInstanceAs (Decidable (_ ∧ _))

instance : DecidablePred Property.NamesFree := fun _ => inferInstanceAs (Decidable (_ ∧ _))

instance : DecidablePred Function.NamesFree := fun f =>
  decidable_of_iff (BraceFree f.name ∧ (∀ p ∈ f.parameters, p.NamesFree) ∧
      (∀ r ∈ f.returnType, r.NamesFree) ∧ ∀ p ∈ f.typeParameters, p.NamesFree)
    ⟨fun h => ⟨h.1, h.2.1, h.2.2.1, h.2.2.2⟩,
      fun h => ⟨h.name, h.parameters, h.returnType, h.typeParameters⟩⟩

instance : DecidablePred TargetType.NamesFree := fun t =>
  decidable_of_iff (BraceFree t.package ∧ BraceFree t.simpleName ∧
      (∀ q ∈ t.qualifiedName, BraceFree q) ∧ (∀ p ∈ t.typeParameters, p.NamesFree) ∧
      (∀ ps ∈ t.primaryConstructor, ∀ p ∈ ps, p.NamesFree) ∧ (∀ f ∈ t.functions, f.NamesFree) ∧
      ∀ p ∈ t.properties, p.NamesFree)
    ⟨fun h => ⟨h.1, h.2.1, h.2.2.1, h.2.2.2.1, h.2.2.2.2.1, h.2.2.2.2.2.1, h.2.2.2.2.2.2⟩,
      fun h => ⟨h.package, h.simpleName, h.qualifiedName, h.typeParameters, h.primaryConstructor,
        h.functions, h.properties⟩⟩

instance : DecidablePred GeneratorOptions.NamesFree := fun o =>
  decidable_of_iff (BraceFree o.runtimePackage ∧ BraceFree o.mockSuffix ∧
      ∀ s ∈ o.suppressions, BraceFree s)
    ⟨fun h => ⟨h.1, h.2.1, h.2.2⟩, fun h => ⟨h.runtimePackage, h.mockSuffix, h.suppressions⟩⟩

/-! ## Type text -/

theorem Variance.braceFree_spelled (v : Variance) : BraceFree v.spelled := by
  cases v <;> decide

theorem braceFree_typeSpelling {name : String} {arguments : List String} (nameFree : BraceFree name)
    (free : ∀ x ∈ arguments, BraceFree x) (nullable : Bool) :
    BraceFree (typeSpelling name arguments nullable) := by
  unfold typeSpelling
  simp only [braceFree_append]
  refine ⟨⟨nameFree, ?_⟩, ?_⟩
  · split
    · exact braceFree_nil
    · simp only [braceFree_append]
      exact ⟨⟨by decide, braceFree_intercalate (by decide) free⟩, by decide⟩
  · split <;> decide

namespace TypeReference

/-- The declarations in a generic argument's type are among those of the arguments. -/
theorem declarations_of_mem {v : Variance} {t : TypeReference} :
    ∀ {args : List TypeArgument}, .type v t ∈ args → ∀ d ∈ t.declarations, d ∈ argumentsDeclarations args
  | [], member => by cases member
  | .star :: rest, member => fun d inType => by
      rw [argumentsDeclarations]
      exact declarations_of_mem (List.mem_of_ne_of_mem (by simp) member) d inType
  | .type v' t' :: rest, member => fun d inType => by
      rw [argumentsDeclarations, List.mem_append]
      rcases List.mem_cons.mp member with same | later
      · cases same
        exact Or.inl inType
      · exact Or.inr (declarations_of_mem later d inType)

mutual
/-- A reference written in full holds no brace when its names hold none. -/
theorem braceFree_plain : ∀ t : TypeReference, t.NamesFree → BraceFree t.plain
  | .mk d n args, free => by
    rw [plain]
    refine braceFree_typeSpelling (free d List.mem_cons_self).displayName
      (braceFree_plainArguments args fun d' inArgs => free d' (List.mem_cons_of_mem _ inArgs)) n

theorem braceFree_plainArguments : ∀ args : List TypeArgument,
    (∀ d ∈ argumentsDeclarations args, d.NamesFree) → ∀ x ∈ plainArguments args, BraceFree x
  | [], _ => by simp [plainArguments]
  | .star :: rest, free => by
    intro x member
    rw [plainArguments, List.mem_cons] at member
    rcases member with rfl | later
    · decide
    · exact braceFree_plainArguments rest free x later
  | .type v t :: rest, free => by
    intro x member
    rw [plainArguments, List.mem_cons] at member
    rw [argumentsDeclarations] at free
    rcases member with rfl | later
    · exact (braceFree_append _ _).mpr ⟨v.braceFree_spelled,
        braceFree_plain t fun d inType => free d (List.mem_append_left _ inType)⟩
    · exact braceFree_plainArguments rest (fun d inRest => free d (List.mem_append_right _ inRest))
        x later
end

/-- A reference, erased or not, holds no brace when its names hold none: erasure only writes
`Any?` and `*`. -/
theorem braceFree_render (e : Erasure) {t : TypeReference} (free : t.NamesFree) :
    BraceFree (t.render e) := by
  obtain ⟨d, n, args⟩ := t
  rw [render]
  split
  · decide
  · rw [referenceText_eq_typeSpelling]
    refine braceFree_typeSpelling (free d List.mem_cons_self).displayName (fun x member => ?_) n
    obtain ⟨a, inArgs, rfl⟩ := List.mem_map.mp member
    rw [argumentText?_getD]
    unfold poisonedArgument
    cases a with
    | star => exact (by decide : BraceFree "*")
    | type v t =>
        dsimp only
        by_cases mentioned : Mentions e t
        · rw [if_pos mentioned]
          decide
        · rw [if_neg mentioned]
          exact (braceFree_append _ _).mpr ⟨v.braceFree_spelled, braceFree_plain t fun d' inType =>
            free d' (List.mem_cons_of_mem _ (declarations_of_mem inArgs d' inType))⟩

end TypeReference

/-! ## Declarations written -/

theorem Variance.braceFree_keyword (v : Variance) : ∀ k ∈ v.keyword?, BraceFree k := by
  cases v <;> simp [Variance.keyword?] <;> decide

theorem Parameter.braceFree_nameText {p : Parameter} (free : p.NamesFree) : BraceFree p.nameText := by
  unfold Parameter.nameText
  cases named : p.name with
  | none => exact braceFree_nil
  | some n => exact free.1 n named

theorem braceFree_parameterNames {ps : List TypeParameter} (free : ∀ p ∈ ps, p.NamesFree) :
    BraceFree (parameterNames ps) := by
  refine braceFree_angled fun x member => ?_
  obtain ⟨p, inParams, rfl⟩ := List.mem_map.mp member
  exact (free p inParams).1

theorem braceFree_parametersWithVariance {ps : List TypeParameter} (free : ∀ p ∈ ps, p.NamesFree) :
    BraceFree (parametersWithVariance ps) := by
  refine braceFree_angled fun x member => ?_
  obtain ⟨p, inParams, rfl⟩ := List.mem_map.mp member
  split
  · rename_i k spelled
    simp +decide [p.variance.braceFree_keyword k spelled, (free p inParams).1]
  · exact (free p inParams).1

/-- A function's generics hold no brace: a bound written inline is written in full. -/
theorem braceFree_functionParameters {ps : List TypeParameter} (free : ∀ p ∈ ps, p.NamesFree) :
    BraceFree (functionParameters ps) := by
  refine braceFree_angled fun x member => ?_
  obtain ⟨p, inParams, rfl⟩ := List.mem_map.mp member
  obtain ⟨nameFree, boundsFree⟩ := free p inParams
  split
  · rename_i b single
    simp +decide [nameFree,
      TypeReference.braceFree_render _ (boundsFree b (by simp [single]))]
  · exact nameFree

/-- A `where` clause holds no brace. -/
theorem braceFree_whereClause {ps : List TypeParameter} (free : ∀ p ∈ ps, p.NamesFree) :
    ∀ clause ∈ whereClause ps, BraceFree clause := by
  intro clause written
  unfold whereClause at written
  split at written
  · cases written
  · cases written
    refine braceFree_intercalate (by decide) fun x member => ?_
    obtain ⟨p, inParams, inBounds⟩ := List.mem_flatMap.mp member
    obtain ⟨b, bound, rfl⟩ := List.mem_map.mp inBounds
    simp +decide [(free p inParams).1,
      TypeReference.braceFree_render _ ((free p inParams).2 b bound)]

theorem braceFree_functionWhereClause {ps : List TypeParameter} (free : ∀ p ∈ ps, p.NamesFree) :
    ∀ clause ∈ functionWhereClause ps, BraceFree clause :=
  braceFree_whereClause fun p kept => free p (List.mem_filter.mp kept).1

theorem Function.braceFree_returnText {f : Function} (free : f.NamesFree) (e : Erasure) :
    BraceFree (f.returnText e) := by
  unfold Function.returnText
  split
  · rename_i r returns
    exact TypeReference.braceFree_render e (free.returnType r returns)
  · decide

/-- The stub type of a planned function holds no brace. -/
theorem braceFree_functionStubType {f : Function} (free : f.NamesFree) (kind : StubKind) :
    BraceFree (functionStubType f kind) := by
  unfold functionStubType
  refine (braceFree_append _ _).mpr ⟨kind.braceFree_className, braceFree_angled fun x member => ?_⟩
  rcases List.mem_append.mp member with parameter | answer
  · obtain ⟨p, inParams, rfl⟩ := List.mem_map.mp parameter
    exact TypeReference.braceFree_render _ (free.parameters p inParams).2
  · split at answer
    · rw [List.mem_singleton.mp answer]
      exact Function.braceFree_returnText free _
    · cases answer

/-- Parameters declared with their types, as an override or a constructor declares them. -/
theorem braceFree_declaredParameters {ps : List Parameter} (free : ∀ p ∈ ps, p.NamesFree) :
    BraceFree (", ".intercalate (ps.map fun p => p.nameText ++ ": " ++ p.type.render .none)) := by
  refine braceFree_intercalate (by decide) fun x member => ?_
  obtain ⟨p, inParams, rfl⟩ := List.mem_map.mp member
  simp +decide [Parameter.braceFree_nameText (free p inParams),
    TypeReference.braceFree_render _ (free p inParams).2]

/-- Parameters forwarded by name, as an override or a constructor forwards them. -/
theorem braceFree_forwardedParameters {ps : List Parameter} (free : ∀ p ∈ ps, p.NamesFree) :
    BraceFree (", ".intercalate (ps.map (·.nameText))) := by
  refine braceFree_intercalate (by decide) fun x member => ?_
  obtain ⟨p, inParams, rfl⟩ := List.mem_map.mp member
  exact Parameter.braceFree_nameText (free p inParams)

namespace MemberPlan

/-- A plan's field names hold no brace. -/
theorem braceFree_fieldNames {plan : MemberPlan} (free : plan.NamesFree) :
    ∀ field ∈ plan.fieldNames, BraceFree field := by
  cases plan with
  | function f field kind => simpa [fieldNames] using free.2
  | property p getter setter =>
      obtain ⟨-, getterFree, setterFree⟩ := free
      cases setter with
      | none => simpa [fieldNames] using getterFree
      | some s => simpa [fieldNames, getterFree] using setterFree s rfl

end MemberPlan

namespace MockClass

open Layout

/-- The override of a planned function holds no brace: it forwards the call to its stub on one
line. -/
theorem braceFree_functionOverride {f : Function} (free : f.NamesFree) {field : String}
    (fieldFree : BraceFree field) (kind : StubKind) :
    BraceFree (functionOverride f field kind) := by
  have generics := braceFree_functionParameters free.typeParameters
  have declared := braceFree_declaredParameters free.parameters
  have forwarded := braceFree_forwardedParameters free.parameters
  have returns := Function.braceFree_returnText free .none
  have clauseFree := braceFree_functionWhereClause free.typeParameters
  unfold functionOverride
  dsimp only
  generalize functionWhereClause f.typeParameters = clause at clauseFree ⊢
  -- the `where` clause, the suspension, the generics and the answer's cast may each be absent
  cases clause <;> cases f.suspend <;> cases kind.returnsValue <;>
    by_cases empty : (functionParameters f.typeParameters).isEmpty <;>
    simp +decide [-String.toList_intercalate, empty, generics, declared, forwarded, returns,
      fieldFree, free.name, clauseFree]

/-- A property's override keeps the depth: its header and accessors are lines without braces. -/
theorem writePropertyOverride_keeps {p : Property} {getter : String} {setter : Option String}
    (free : p.NamesFree) (getterFree : BraceFree getter) (setterFree : ∀ s ∈ setter, BraceFree s) :
    Keeps (writePropertyOverride p getter setter) := by
  intro d w atDepth
  have typeFree := TypeReference.braceFree_render .none free.2
  have getLine : Neutral ("get() = mock." ++ getter ++ ".call()") :=
    BraceFree.neutral (by simp +decide [getterFree])
  unfold writePropertyOverride
  -- a `val` with its getter, or a `var` with its setter too
  cases setter with
  | none =>
      exact Keeps.indented (keeps_line getLine) d _
        (atDepth.line (BraceFree.neutral (by simp +decide [free.1, typeFree])))
  | some s =>
      exact Keeps.indented ((keeps_line getLine).comp
          (keeps_line (BraceFree.neutral (by simp +decide [setterFree s rfl])))) d _
        (atDepth.line (BraceFree.neutral (by simp +decide [free.1, typeFree])))

section Written

variable {m : MockClass} (free : m.NamesFree)
include free

/-- The class header holds no brace: the brace after it is the block's. -/
theorem braceFree_classHeader : BraceFree m.classHeader := by
  have params := free.target.typeParameters
  have supertype : BraceFree (m.qualifiedName ++ parameterNames m.target.typeParameters) :=
    (braceFree_append _ _).mpr ⟨free.qualifiedName, braceFree_parameterNames params⟩
  have head : BraceFree ("class " ++ m.className ++ parametersWithVariance m.target.typeParameters) := by
    simp +decide [free.className, braceFree_parametersWithVariance params]
  have clauseFree := braceFree_whereClause params
  have ctorFree := free.target.primaryConstructor
  unfold classHeader
  dsimp only
  generalize whereClause m.target.typeParameters = clause at clauseFree ⊢
  generalize m.target.primaryConstructor = ctor at ctorFree ⊢
  -- a `where` clause or none, a constructor to forward to or none
  cases clause with
  | none =>
      cases ctor with
      | none => simp +decide [head, supertype]
      | some ps =>
          simp +decide [-String.toList_intercalate, head, supertype,
            braceFree_declaredParameters (ctorFree ps rfl), braceFree_forwardedParameters (ctorFree ps rfl)]
  | some c =>
      cases ctor with
      | none => simp +decide [head, supertype, clauseFree c rfl]
      | some ps =>
          simp +decide [-String.toList_intercalate, head, supertype, clauseFree c rfl,
            braceFree_declaredParameters (ctorFree ps rfl), braceFree_forwardedParameters (ctorFree ps rfl)]

/-- Every stub field and its type hold no brace. -/
theorem braceFree_stubFields : ∀ x ∈ m.stubFields, BraceFree x.1 ∧ BraceFree x.2 := by
  intro x member
  obtain ⟨plan, planned, inFields⟩ := List.mem_flatMap.mp member
  have planFree := free.plans plan planned
  cases plan with
  | function f field kind =>
      obtain ⟨fFree, fieldFree⟩ := planFree
      rw [List.mem_singleton.mp inFields]
      exact ⟨fieldFree, braceFree_functionStubType fFree kind⟩
  | property p getter setter =>
      obtain ⟨pFree, getterFree, setterFree⟩ := planFree
      have typeFree := TypeReference.braceFree_render .none pFree.2
      -- the getter's stub, then the setter's when there is one
      cases setter with
      | none =>
          simp only [List.mem_singleton] at inFields
          subst inFields
          simp +decide [getterFree, typeFree]
      | some s =>
          simp only [List.mem_cons, List.not_mem_nil, or_false] at inFields
          rcases inFields with rfl | rfl <;>
            simp +decide [getterFree, setterFree s rfl, typeFree]

/-- Lines written from each stub field and its type keep the depth when the line adds no brace. -/
theorem stubLines_neutral {line : String × String → String}
    (written : ∀ field ty, BraceFree field → BraceFree ty → BraceFree (line (field, ty))) :
    ∀ text ∈ m.stubFields.map line, Neutral text := by
  intro text member
  obtain ⟨⟨field, ty⟩, inFields, rfl⟩ := List.mem_map.mp member
  obtain ⟨fieldFree, tyFree⟩ := braceFree_stubFields free _ inFields
  exact (written field ty fieldFree tyFree).neutral

/-- Every relaxed field holds no brace. -/
theorem braceFree_relaxedFields : ∀ field ∈ m.relaxedFields, BraceFree field := by
  intro field member
  obtain ⟨plan, planned, inFields⟩ := List.mem_flatMap.mp member
  exact MemberPlan.braceFree_fieldNames (free.plans plan planned) field (by
    cases plan with
    | function f field' kind =>
        by_cases returns : kind.returnsValue <;> simp_all [MemberPlan.fieldNames]
    | property p getter setter => cases setter <;> simp_all [MemberPlan.fieldNames])

theorem braceFree_controlSurfaceType : BraceFree m.controlSurfaceType := by
  unfold controlSurfaceType
  simp +decide [braceFree_parameterNames free.target.typeParameters]

/-- The preamble keeps the depth: the package line, the runtime import and the suppressions are
lines without braces, each perhaps absent. -/
theorem writePreamble_keeps : Keeps m.writePreamble := by
  intro d w atDepth
  unfold writePreamble
  dsimp only
  refine AtDepth.ite_of (AtDepth.ite_of (AtDepth.ite_of atDepth id
    fun packaged => (packaged.line ?_).blankLine) id
    fun imported => (imported.line ?_).blankLine) id fun suppressed => suppressed.line ?_
  · exact BraceFree.neutral (by simp +decide [free.target.package])
  · exact BraceFree.neutral (by simp +decide [free.options.runtimePackage])
  · refine BraceFree.neutral ((braceFree_append _ _).mpr ⟨(braceFree_append _ _).mpr
      ⟨by decide, braceFree_intercalate (by decide) fun x member => ?_⟩, by decide⟩)
    obtain ⟨s, inSuppressions, rfl⟩ := List.mem_map.mp member
    simp +decide [free.options.suppressions s inSuppressions]

/-- The control surface is one block of stub fields. -/
theorem writeControlSurface_keeps : Keeps m.writeControlSurface := by
  have clauseFree := braceFree_whereClause free.target.typeParameters
  have params := braceFree_parametersWithVariance free.target.typeParameters
  intro d w atDepth
  unfold writeControlSurface
  dsimp only
  refine Keeps.block ?_ (keeps_lines (stubLines_neutral free fun field ty fieldFree tyFree => by
    simp +decide [fieldFree, tyFree])) d w atDepth
  generalize whereClause m.target.typeParameters = clause at clauseFree ⊢
  cases clause with
  | none => exact BraceFree.neutral (by simp +decide [params])
  | some c => exact BraceFree.neutral (by simp +decide [params, clauseFree c rfl])

/-- The object of live stubs is one block, and every member's override after it keeps the
depth. -/
theorem writeOverrides_keeps : Keeps m.writeOverrides := by
  intro d w atDepth
  unfold writeOverrides
  dsimp only
  refine keeps_foldl _ (fun plan planned => ?_) d _
    (Keeps.block (BraceFree.neutral ?_) (keeps_lines (stubLines_neutral free
      fun field ty fieldFree tyFree => by simp +decide [fieldFree, tyFree])) d w atDepth)
  · intro d' v atV
    have planFree := free.plans plan planned
    cases plan with
    | function f field kind =>
        exact atV.blankLine.line (BraceFree.neutral (braceFree_functionOverride planFree.1 planFree.2 kind))
    | property p getter setter =>
        exact writePropertyOverride_keeps planFree.1 planFree.2.1 planFree.2.2 d' _ atV.blankLine
  · simp +decide [braceFree_controlSurfaceType free]

/-- The helpers are three blocks of lines without braces. -/
theorem writeLifecycleHelpers_keeps : Keeps m.writeLifecycleHelpers := by
  intro d w atDepth
  unfold writeLifecycleHelpers
  dsimp only
  refine AtDepth.blankLine_block (BraceFree.neutral ?_) (keeps_line (BraceFree.neutral (by decide)))
    (AtDepth.blankLine_block (BraceFree.neutral (by decide)) (keeps_lines fun text member => ?_)
      (Keeps.block (BraceFree.neutral (by decide)) (keeps_lines fun text member => ?_) d w atDepth))
  · simp +decide [braceFree_controlSurfaceType free]
  · obtain ⟨field, relaxed, rfl⟩ := List.mem_map.mp member
    exact BraceFree.neutral (by simp +decide [braceFree_relaxedFields free field relaxed])
  · obtain ⟨plan, planned, inPlan⟩ := List.mem_flatMap.mp member
    obtain ⟨field, named, rfl⟩ := List.mem_map.mp inPlan
    exact BraceFree.neutral (by
      simp +decide [MemberPlan.braceFree_fieldNames (free.plans plan planned) field named])

theorem writeBody_keeps : Keeps m.writeBody := by
  intro d w atDepth
  unfold writeBody
  exact writeLifecycleHelpers_keeps free d _
    (writeOverrides_keeps free d _ (writeControlSurface_keeps free d w atDepth).blankLine).blankLine

/-- A mock class whose names hold no brace reads from depth zero back to zero, never below, and
ends with the line closing the class. -/
theorem render_balanced :
    depthAfter 0 m.render.toList = some 0 ∧ ∃ before, m.render.toList = before ++ ['}', '\n'] := by
  unfold render
  exact ⟨AtDepth.finish (Keeps.block (BraceFree.neutral (braceFree_classHeader free))
    (writeBody_keeps free) 0 _ (writePreamble_keeps free 0 _ (AtDepth.new _))), block_finish _ _ _⟩

end Written

end MockClass

/-! ## Capitalised names -/

namespace Text

/-- No uppercase expansion of the case table holds a brace's code point. -/
theorem upperExpansions_braceFree : ∀ e ∈ upperExpansions, ∀ n ∈ e.2, n ≠ 123 ∧ n ≠ 125 := by
  decide

/-- No run of the case table sends a code point to a brace's: `123` and `125` lie outside every
run's range moved by its distance. -/
theorem upperRuns_miss_braces : ∀ r ∈ upperRuns, ∀ m ∈ [(123 : Int), 125],
    ¬ ((r.first : Int) ≤ m - r.delta ∧ m - r.delta ≤ r.last) := by
  decide +kernel

/-- A code point becomes itself, or the null character when it is not a character. -/
theorem toNat_ofNat_cases (n : Nat) : (Char.ofNat n).toNat = n ∨ (Char.ofNat n).toNat = 0 := by
  unfold Char.ofNat
  by_cases valid : n.isValidChar
  · left
    rw [dif_pos valid]
    rfl
  · right
    rw [dif_neg valid]
    rfl

theorem ofNat_ne_braces {n : Nat} (notOpen : n ≠ 123) (notClose : n ≠ 125) :
    Char.ofNat n ≠ '{' ∧ Char.ofNat n ≠ '}' := by
  have cases := toNat_ofNat_cases n
  constructor <;> intro same <;> rw [same] at cases
  · have code : '{'.toNat = 123 := rfl
    omega
  · have code : '}'.toNat = 125 := rfl
    omega

/-- The uppercase of a character other than a brace holds no brace. -/
theorem upperFull_ne_braces {c : Char} (notOpen : c ≠ '{') (notClose : c ≠ '}') :
    ∀ u ∈ upperFull c, u ≠ '{' ∧ u ≠ '}' := by
  intro u mapped
  unfold upperFull mapThrough at mapped
  split at mapped
  · -- an expansion listed one by one
    rename_i cs listed
    obtain ⟨before, after, split, -⟩ := List.lookup_eq_some_iff.mp listed
    obtain ⟨n, expanded, rfl⟩ := List.mem_map.mp mapped
    have entry : (c.toNat, cs) ∈ upperExpansions := by
      rw [split]
      simp
    obtain ⟨notOpen', notClose'⟩ := upperExpansions_braceFree _ entry n expanded
    exact ofNat_ne_braces notOpen' notClose'
  · split at mapped
    · -- a run at a fixed distance
      rename_i n found
      obtain ⟨r, inRuns, image⟩ := List.exists_of_findSome?_eq_some found
      rw [List.mem_singleton.mp mapped]
      have missed := upperRuns_miss_braces r inRuns
      simp only [List.mem_cons, List.not_mem_nil, or_false, forall_eq_or_imp, forall_eq] at missed
      unfold CaseRun.image? at image
      split at image
      · cases image
        exact ofNat_ne_braces (by omega) (by omega)
      · cases image
    · -- no mapping: the character itself
      rw [List.mem_singleton.mp mapped]
      exact ⟨notOpen, notClose⟩

/-- Capitalising a name without braces gives a name without braces. -/
theorem capitalize_braceFree {s : String} (free : BraceFree s) : BraceFree (capitalize s) := by
  unfold capitalize
  split
  · exact braceFree_nil
  · rename_i c rest spelled
    obtain ⟨noOpen, noClose⟩ := free
    rw [spelled] at noOpen noClose
    simp only [List.mem_cons, not_or] at noOpen noClose
    have upper := upperFull_ne_braces (Ne.symm noOpen.1) (Ne.symm noClose.1)
    refine ⟨?_, ?_⟩ <;> simp only [String.toList_ofList, List.mem_append, not_or]
    · exact ⟨fun inUpper => (upper _ inUpper).1 rfl, noOpen.2⟩
    · exact ⟨fun inUpper => (upper _ inUpper).2 rfl, noClose.2⟩

end Text

/-! ## Planned field names -/

theorem braceFree_join {xs : List String} (free : ∀ x ∈ xs, BraceFree x) :
    BraceFree (String.join xs) := by
  induction xs with
  | nil => exact braceFree_nil
  | cons x rest restFree =>
      rw [String.join_cons]
      exact (braceFree_append _ _).mpr ⟨free x List.mem_cons_self,
        restFree fun y inRest => free y (List.mem_cons_of_mem _ inRest)⟩

theorem TypeReference.NamesFree.simpleName {t : TypeReference} (free : t.NamesFree) :
    BraceFree t.simpleName := by
  cases t with
  | mk d n args => exact (free d List.mem_cons_self).1

theorem Function.braceFree_overloadName {f : Function} (free : f.NamesFree) :
    BraceFree f.overloadName := by
  unfold Function.overloadName
  refine (braceFree_append _ _).mpr ⟨free.name, braceFree_join fun x member => ?_⟩
  obtain ⟨p, inParams, rfl⟩ := List.mem_map.mp member
  simp +decide [(free.parameters p inParams).2.simpleName]

/-- Functions told apart keep names without braces. -/
theorem braceFree_disambiguate {fs : List Function} (free : ∀ f ∈ fs, f.NamesFree) :
    ∀ field ∈ disambiguate fs, BraceFree field := by
  intro field member
  unfold disambiguate at member
  obtain ⟨f, inFunctions, rfl⟩ := List.mem_map.mp member
  split
  · exact Function.braceFree_overloadName (free f inFunctions)
  · exact (free f inFunctions).name

/-- A claimed name is its candidate, perhaps with an ordinal, so it holds a brace only when its
candidate does. -/
theorem braceFree_claim {taken : List String} {candidate : String} (free : BraceFree candidate) :
    BraceFree (claim taken candidate) := by
  rcases claim_claimed taken candidate with ⟨-, named⟩ | ⟨-, n, -, named, -⟩
  · rw [named]
    exact free
  · rw [named]
    simp +decide [ordinalName, free, braceFree_digitsOf]

theorem planFunctions_namesFree {target : String} :
    ∀ {functions : List (Function × String)} {taken : List String} {plans : List MemberPlan}
      {taken' : List String}, planFunctions target functions taken = .ok (plans, taken') →
      (∀ x ∈ functions, x.1.NamesFree ∧ BraceFree x.2) → ∀ plan ∈ plans, plan.NamesFree
  | [], _, _, _, planned, _ => by cases planned; simp
  | (f, field) :: rest, taken, plans, taken', planned, free => by
      unfold planFunctions at planned
      split at planned
      · cases planned
      · dsimp only at planned
        split at planned
        · cases planned
        · rename_i later laterPlanned
          cases planned
          intro plan member
          have named := free (f, field) List.mem_cons_self
          rcases List.mem_cons.mp member with rfl | inLater
          · exact ⟨named.1, braceFree_claim named.2⟩
          · exact planFunctions_namesFree laterPlanned
              (fun x inRest => free x (List.mem_cons_of_mem _ inRest)) plan inLater

theorem planProperties_namesFree (properties : List Property)
    (free : ∀ p ∈ properties, p.NamesFree) :
    ∀ (taken : List String), ∀ plan ∈ planProperties properties taken, plan.NamesFree := by
  induction properties with
  | nil => intro taken plan member; cases member
  | cons p rest restFree =>
      intro taken plan member
      have pFree := free p List.mem_cons_self
      have name := Text.capitalize_braceFree pFree.1
      have accessor : ∀ lead taken', BraceFree lead →
          BraceFree (claim taken' (lead ++ Text.capitalize p.name)) :=
        fun _ _ leadFree => braceFree_claim ((braceFree_append _ _).mpr ⟨leadFree, name⟩)
      have later := restFree fun q inRest => free q (List.mem_cons_of_mem _ inRest)
      unfold planProperties at member
      dsimp only at member
      -- a mutable property claims a setter after its getter
      split at member <;> rcases List.mem_cons.mp member with rfl | inRest
      · refine ⟨pFree, accessor _ _ (by decide), fun s named => ?_⟩
        obtain rfl := Option.mem_some_iff.mp named
        exact accessor _ _ (by decide)
      · exact later _ plan inRest
      · exact ⟨pFree, accessor _ _ (by decide), fun s named => absurd named (Option.not_mem_none s)⟩
      · exact later _ plan inRest

/-- The plans of a target whose names hold no brace hold none either: planned field names are
made of member names, parameter type names and ordinals. -/
theorem planMembers_namesFree {t : TargetType} (free : t.NamesFree) {plans : List MemberPlan}
    (planned : planMembers t = .ok plans) : ∀ plan ∈ plans, plan.NamesFree := by
  have functionsFree : ∀ f ∈ t.overridableFunctions, f.NamesFree :=
    fun f kept => free.functions f (List.mem_filter.mp kept).1
  unfold planMembers at planned
  dsimp only at planned
  split at planned
  · cases planned
  · rename_i functionPlans taken functionsPlanned
    cases planned
    intro plan member
    rcases List.mem_append.mp member with inFunctions | inProperties
    · refine planFunctions_namesFree functionsPlanned (fun x paired => ?_) plan inFunctions
      obtain ⟨f, field⟩ := x
      obtain ⟨inFunctions', named⟩ := List.of_mem_zip paired
      exact ⟨functionsFree f inFunctions', braceFree_disambiguate functionsFree field named⟩
    · exact planProperties_namesFree _ (fun p kept => free.properties p (List.mem_filter.mp kept).1)
        taken plan inProperties

/-! ## Generated units -/

theorem MockClass.namesFree_of_make {t : TargetType} {plans : List MemberPlan}
    {options : GeneratorOptions} {m : MockClass} (made : MockClass.make t plans options = .ok m)
    (targetFree : t.NamesFree) (optionsFree : options.NamesFree)
    (plansFree : ∀ plan ∈ plans, plan.NamesFree) : m.NamesFree := by
  obtain ⟨q, named, rfl⟩ := MockClass.make_eq made
  exact ⟨targetFree, targetFree.qualifiedName q named,
    (braceFree_append _ _).mpr ⟨targetFree.simpleName, optionsFree.mockSuffix⟩, optionsFree, plansFree⟩

/-- The units built for a target: the mock class of its plans, and a stub class for each shape
the session misses. -/
theorem Session.pendingFor_units {s : Session} {t : TargetType} {pending : PendingTarget}
    (built : s.pendingFor t = .ok pending) :
    ∃ plans m, planMembers t = .ok plans ∧ MockClass.make t plans s.options = .ok m ∧
      pending.subtype.text = m.render ∧ ∀ u ∈ pending.primitives, ∃ k, u.2 = s.primitiveUnit k := by
  unfold Session.pendingFor at built
  split at built
  · cases built
  · cases built
  · rename_i origin plans filed planned
    split at built
    · cases built
    · rename_i m made
      cases built
      refine ⟨plans, m, planned, made, rfl, fun u member => ?_⟩
      obtain ⟨k, -, rfl⟩ := List.mem_map.mp member
      exact ⟨k, rfl⟩

/-- A text read from depth zero back to zero and ending with a closing line has its braces
balanced and ends with a closing brace and a line break. -/
theorem closed_of_depthAfter {s : String} (reads : depthAfter 0 s.toList = some 0)
    (ends : ∃ before, s.toList = before ++ ['}', '\n']) :
    BracesBalance s ∧ s.endsWith "\x7d\n" = true := by
  obtain ⟨before, ends⟩ := ends
  refine ⟨.of_depthAfter reads, (Layout.endsWith_iff_suffix _ _).mpr ⟨before, ?_⟩⟩
  rw [ends]
  rfl

theorem renderPrimitive_closed (kind : StubKind) (runtimePackage : String) (width : Nat)
    (free : BraceFree runtimePackage) :
    BracesBalance (renderPrimitive kind runtimePackage width) ∧
      (renderPrimitive kind runtimePackage width).endsWith "\x7d\n" = true :=
  closed_of_depthAfter (renderPrimitive_balanced kind runtimePackage width free).1
    (renderPrimitive_balanced kind runtimePackage width free).2

/-- Every unit generation builds has its braces balanced and ends with the line closing its
class. The text of a stub class, for any shape and indentation, when the runtime package holds
no brace; and, for a target whose names and options hold no brace (those that are written: its
package, names, generic parameters and bounds, constructor, members and their types, and the
runtime package, mock suffix and suppressions), every unit its generation builds, the mock class
and the stub classes it needs: reading the text, no prefix closes more braces than it opens, the
totals are equal, and the text ends with a closing brace and a line break. -/
theorem generated_units_balance_braces {σ : Type} :
    (∀ (kind : StubKind) (runtimePackage : String) (width : Nat), BraceFree runtimePackage →
      BracesBalance (renderPrimitive kind runtimePackage width) ∧
        (renderPrimitive kind runtimePackage width).endsWith "\x7d\n" = true) ∧
    (∀ (t : TargetType) (p p' : Progress σ) (pending : PendingTarget),
      t.NamesFree → p.session.options.NamesFree → (generateTarget t).run p = .ok pending p' →
      ∀ u ∈ pending.units, BracesBalance u.text ∧ u.text.endsWith "\x7d\n" = true) := by
  refine ⟨renderPrimitive_closed, fun t p p' pending targetFree optionsFree generated u written => ?_⟩
  -- building the units leaves the progress alone, so the run built what `pendingFor` builds
  have built : p.session.pendingFor t = .ok pending := by
    have settled := settle_generateTarget t p
    rw [generated, settle_ok] at settled
    exact (Settled.mk.inj settled).1.symm
  obtain ⟨plans, m, planned, made, subtypeText, primitivesAre⟩ := Session.pendingFor_units built
  rcases List.mem_append.mp written with fromPrimitive | isSubtype
  · obtain ⟨primitive, inPrimitives, rfl⟩ := List.mem_map.mp fromPrimitive
    obtain ⟨kind, unitIs⟩ := primitivesAre primitive inPrimitives
    rw [unitIs]
    exact renderPrimitive_closed kind _ _ optionsFree.runtimePackage
  · rw [List.mem_singleton.mp isSubtype, subtypeText]
    have free := MockClass.namesFree_of_make made targetFree optionsFree
      (planMembers_namesFree targetFree planned)
    exact closed_of_depthAfter (MockClass.render_balanced free).1 (MockClass.render_balanced free).2

/-- An open class `Cache<K : Comparable>(name: String)` with a function `get(key: K): Int` and a
mutable property `size`, defined in `Cache.kt`. -/
def keyedCache : TargetType :=
  (((((TargetType.openClass "p" "Cache" [.named "name" (.ofClass "kotlin.String")]).withTypeParameters
    [⟨"K", .invariant, [.ofClass "kotlin.Comparable"]⟩]).withFunction
      (Function.open "get" [.named "key" (.parameter "K")] (.ofClass "kotlin.Int"))).withProperty
        (Property.open "size" (.ofClass "kotlin.Int") true)).inFile "Cache.kt")

/-- A fresh session with the default options. -/
def freshSession : Progress Unit := { session := { options := {} }, sink := () }

theorem cache_units_balance_braces :
    (BracesBalance (renderPrimitive ⟨2, true⟩ defaultRuntimePackage 4) ∧
      (renderPrimitive ⟨2, true⟩ defaultRuntimePackage 4).endsWith "\x7d\n" = true) ∧
    ∃ pending p', (generateTarget keyedCache).run freshSession = .ok pending p' ∧
      ∀ u ∈ pending.units, BracesBalance u.text ∧ u.text.endsWith "\x7d\n" = true := by
  obtain ⟨pending, built⟩ : ∃ pending, freshSession.session.pendingFor keyedCache = .ok pending :=
    ⟨_, rfl⟩
  have settled := settle_generateTarget keyedCache freshSession
  refine ⟨(@generated_units_balance_braces Unit).1 ⟨2, true⟩ defaultRuntimePackage 4 (by decide), ?_⟩
  cases run : (generateTarget keyedCache).run freshSession with
  | ok pending' p' =>
      exact ⟨pending', p', rfl,
        generated_units_balance_braces.2 keyedCache freshSession p' pending' (by decide) (by decide) run⟩
  | error e q =>
      rw [run, settle_error, built] at settled
      cases settled

end KotlinMocks

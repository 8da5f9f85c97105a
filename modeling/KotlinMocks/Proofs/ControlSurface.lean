import Mathlib.Data.List.Forall2
import KotlinMocks.Proofs.LayoutLines
import KotlinMocks.Proofs.DeferCheck

/-!
# The control surface agrees with the plans

A mock class names its stub fields in four places, each with its own split over the planned
members: the control surface declares them with their stub types (`MockClass.stubFields`), the
object `mock` creates them from the same list, `resetMocks` resets the plans' field names and
`relaxMocks` gives the void ones a do-nothing behaviour (`MockClass.relaxedFields`). All four
follow the plans' field names in order (`MockClass.stubFields_map_fst`), and the relaxed fields
are those whose stub shape, taken field by field from the plans' `stubKinds`, answers no value
(`MockClass.relaxedFields_eq`).

Every stub type applies the stub class of its shape to as many type arguments as that class
declares, `P0`, `P1`, … and then `R` for a value (`StubShape.declaredParams`); for a function this
rests on its shape having one argument per parameter, which planning guarantees
(`planMembers_fit`).
-/

namespace KotlinMocks

/-! ## Type parameters of a stub class -/

namespace StubShape

/-- The type parameters the stub class of a shape declares: `P0`, `P1`, … for its arguments,
then `R` when it answers a value. -/
def declaredParams (s : StubShape) : List String :=
  s.typeParams ++ if s.kind.returnsValue then ["R"] else []

/-- The stub class lists the parameters it declares, and lists nothing when there are none. -/
theorem classTypeParams_eq (s : StubShape) : s.classTypeParams = angled s.declaredParams := rfl

@[simp]
theorem length_declaredParams (s : StubShape) :
    s.declaredParams.length = s.kind.arity + if s.kind.returnsValue then 1 else 0 := by
  unfold declaredParams typeParams
  split <;> simp

end StubShape

namespace StubKind

/-- A stub type fits shape `k` when it is the stub class of `k` applied to one type argument for
each type parameter the class declares. -/
def TypeFits (k : StubKind) (type : String) : Prop :=
  ∃ arguments : List String, type = k.className ++ angled arguments ∧
    arguments.length = (StubShape.mk k).declaredParams.length

theorem typeFits_of_length {k : StubKind} {arguments : List String}
    (counted : arguments.length = k.arity + if k.returnsValue then 1 else 0) :
    k.TypeFits (k.className ++ angled arguments) :=
  ⟨arguments, rfl, by simpa using counted⟩

/-- A stub type of a shape whose class declares no type parameters is the class name alone. -/
theorem TypeFits.eq_className {k : StubKind} {type : String} (fits : k.TypeFits type)
    (none : (StubShape.mk k).declaredParams = []) : type = k.className := by
  obtain ⟨arguments, rfl, counted⟩ := fits
  rw [none, List.length_nil, List.length_eq_zero_iff] at counted
  simp [counted, angled]

/-- The type of a property accessor's stub, `Mock01<T>` or `Mock10<T>`, fits its shape. -/
theorem typeFits_accessor (k : StubKind) (counted : k.arity + (if k.returnsValue then 1 else 0) = 1)
    (type : String) : k.TypeFits (k.className ++ "<" ++ type ++ ">") := by
  have single : k.className ++ "<" ++ type ++ ">" = k.className ++ angled [type] := by
    simp [angled, String.append_assoc]
  rw [single]
  exact typeFits_of_length (by simpa using counted.symm)

end StubKind

/-! ## The header of a stub class -/

section StubClass

open Layout

theorem writeValueConfiguration_continues (s : StubShape) (w : Layout) :
    w.Continues (writeValueConfiguration s w) := by
  -- an answer from a sequence: fixed lines, the indented step of the iteration, a closing brace
  have sequence : ∀ (opening looping : List String) (v : Layout),
      v.Continues (((v.lines opening).indented fun u => u.lines looping).line "\x7d") :=
    fun opening looping v =>
      ((continues_lines v opening).trans (continues_indented _ fun u => continues_lines u looping)).trans
        (continues_line _ _)
  unfold writeValueConfiguration
  dsimp only
  exact ((((continues_blankLine_block w _ fun v => continues_line v _).trans
    (continues_blankLine_block _ _ fun v => sequence _ _ v)).trans
    (continues_blankLine_block _ _ fun v => continues_line v _)).trans
    (continues_blankLine_block _ _ fun v => sequence _ _ v)).trans
    (continues_blankLine_block _ _ fun v => continues_line v _)

theorem writeHistoryQueries_continues (s : StubShape) (w : Layout) :
    w.Continues (writeHistoryQueries s w) := by
  have blankThenLine : ∀ (v : Layout) (text : String), v.Continues (v.blankLine.line text) :=
    fun v text => (continues_blankLine v).trans (continues_line _ text)
  unfold writeHistoryQueries
  dsimp only
  split
  · exact blankThenLine w _
  · -- the plain count and the count by one predicate, the count by one predicate per
    -- argument when there are several, then the holder of a call
    exact (Continues.ite_after ((blankThenLine w _).trans (blankThenLine _ _))
      ((blankThenLine _ _).trans (continues_indented _ fun v => continues_line v _))
      (Continues.refl _)).trans (blankThenLine _ _)

/-- The stub class of a shape declares, in its header line, the type parameters that
`declaredParams` lists, and none when it lists none: the brace opening the class follows them
on that line. -/
theorem renderPrimitive_header (kind : StubKind) (runtimePackage : String) (width : Nat) :
    ("class " ++ kind.className ++ angled (StubShape.mk kind).declaredParams ++ " \x7b\n").toList <:+:
      (renderPrimitive kind runtimePackage width).toList := by
  unfold renderPrimitive
  dsimp only
  have written : ("class " ++ kind.className ++ (StubShape.mk kind).classTypeParams).isEmpty = false := by
    simp
  refine holds_finish (holds_block_opening _ written fun w => ?_)
  -- from the last member back: the queries, the answer configuration, delegation, failure, the
  -- call, the reset, and the state
  refine Continues.trans ?_ (writeHistoryQueries_continues _ _)
  refine Continues.ite_after ?_ (writeValueConfiguration_continues _ _)
    (continues_blankLine_block _ _ fun v => continues_line v _)
  refine Continues.trans ?_ (continues_blankLine_block _ _ fun v => continues_line v _)
  refine Continues.trans ?_ (continues_blankLine_block _ _ fun v => continues_line v _)
  refine Continues.trans ?_
    (continues_blankLine_block _ _ fun v => (continues_line v _).trans (continues_line _ _))
  refine Continues.trans ?_
    (continues_blankLine_block _ _ fun v => (continues_line v _).trans (continues_line _ _))
  exact Continues.ite_after (continues_line w _) (continues_line _ _) (continues_line _ _)

end StubClass

/-! ## Plans -/

/-- A plan's stubs fit its member: the stub of a function takes one argument per parameter. -/
def MemberPlan.Fits : MemberPlan → Prop
  | .function f _ kind => kind.arity = f.parameters.length
  | .property _ _ _ => True

theorem MemberPlan.length_fieldNames (plan : MemberPlan) :
    plan.fieldNames.length = plan.stubKinds.length := by
  rcases plan with ⟨f, field, kind⟩ | ⟨p, getter, _ | setter⟩ <;> rfl

theorem planFunctions_fit {target : String} :
    ∀ {functions : List (Function × String)} {taken : List String} {plans : List MemberPlan}
      {taken' : List String}, planFunctions target functions taken = .ok (plans, taken') →
      ∀ plan ∈ plans, plan.Fits
  | [], _, _, _, planned => by cases planned; simp
  | (f, field) :: rest, taken, plans, taken', planned => by
      unfold planFunctions at planned
      split at planned
      · cases planned
      · dsimp only at planned
        split at planned
        · cases planned
        · rename_i later laterPlanned
          cases planned
          intro plan member
          rcases List.mem_cons.mp member with rfl | inLater
          · -- the shape's arity is the function's number of parameters
            rfl
          · exact planFunctions_fit laterPlanned plan inLater

theorem planProperties_fit (properties : List Property) :
    ∀ (taken : List String), ∀ plan ∈ planProperties properties taken, plan.Fits := by
  induction properties with
  | nil => intro taken plan member; cases member
  | cons p rest restFit =>
      intro taken plan member
      unfold planProperties at member
      dsimp only at member
      split at member <;> rcases List.mem_cons.mp member with rfl | inRest
      all_goals first | trivial | exact restFit _ plan inRest

/-- Planning gives every function a shape with one argument per parameter. -/
theorem planMembers_fit {t : TargetType} {plans : List MemberPlan}
    (planned : planMembers t = .ok plans) : ∀ plan ∈ plans, plan.Fits := by
  unfold planMembers at planned
  dsimp only at planned
  split at planned
  · cases planned
  · rename_i functionPlans taken functionsPlanned
    cases planned
    intro plan member
    rcases List.mem_append.mp member with inFunctions | inProperties
    · exact planFunctions_fit functionsPlanned plan inFunctions
    · exact planProperties_fit _ taken plan inProperties

/-! ## Stub fields -/

namespace MockClass

/-- The stub fields are the plans' field names, in order. -/
theorem stubFields_map_fst (m : MockClass) :
    m.stubFields.map Prod.fst = m.plans.flatMap MemberPlan.fieldNames := by
  unfold stubFields
  generalize m.plans = plans
  induction plans with
  | nil => rfl
  | cons plan rest restFields =>
      rw [List.flatMap_cons, List.flatMap_cons, List.map_append, restFields]
      rcases plan with ⟨f, field, kind⟩ | ⟨p, getter, _ | setter⟩ <;> rfl

/-- The relaxed fields are the plans' field names whose shapes answer no value, in order. -/
theorem relaxedFields_eq (m : MockClass) :
    m.relaxedFields =
      (((m.plans.flatMap MemberPlan.fieldNames).zip (m.plans.flatMap MemberPlan.stubKinds)).filter
        fun named => !named.2.returnsValue).map Prod.fst := by
  unfold relaxedFields
  generalize m.plans = plans
  induction plans with
  | nil => rfl
  | cons plan rest restRelaxed =>
      rw [List.flatMap_cons, List.flatMap_cons, List.flatMap_cons,
        List.zip_append plan.length_fieldNames, List.filter_append, List.map_append, restRelaxed]
      rcases plan with ⟨f, field, kind⟩ | ⟨p, getter, _ | setter⟩
      · by_cases value : kind.returnsValue <;> simp [MemberPlan.fieldNames, MemberPlan.stubKinds, value]
      · simp [MemberPlan.fieldNames, MemberPlan.stubKinds, StubKind.getter]
      · simp [MemberPlan.fieldNames, MemberPlan.stubKinds, StubKind.getter, StubKind.setter]

/-- Each stub field's type fits the shape of its stub, for plans whose stubs fit their members. -/
theorem stubTypes_fit (m : MockClass) (fit : ∀ plan ∈ m.plans, plan.Fits) :
    List.Forall₂ (fun (field : String × String) (k : StubKind) => k.TypeFits field.2)
      m.stubFields (m.plans.flatMap MemberPlan.stubKinds) := by
  unfold stubFields
  generalize m.plans = plans at fit
  induction plans with
  | nil => exact List.Forall₂.nil
  | cons plan rest restFit =>
      rw [List.flatMap_cons, List.flatMap_cons]
      refine List.rel_append ?_ (restFit fun later member => fit later (List.mem_cons_of_mem _ member))
      have planFits := fit plan List.mem_cons_self
      rcases plan with ⟨f, field, kind⟩ | ⟨p, getter, _ | setter⟩
      · -- one type argument per parameter, then the return type for a value
        refine List.Forall₂.cons (StubKind.typeFits_of_length ?_) List.Forall₂.nil
        simp only [MemberPlan.Fits] at planFits
        by_cases value : kind.returnsValue <;> simp [planFits, value]
      · exact List.Forall₂.cons (StubKind.typeFits_accessor _ rfl _) List.Forall₂.nil
      · exact List.Forall₂.cons (StubKind.typeFits_accessor _ rfl _)
          (List.Forall₂.cons (StubKind.typeFits_accessor _ rfl _) List.Forall₂.nil)

/-! ## What the four places write -/

/-- The control surface is a block with one line `val field: Type` per stub field, in field
order. -/
theorem writeControlSurface_lines (m : MockClass) : ∃ header : String, ∀ d : Nat,
    Layout.WritesAt m.writeControlSurface d (SourceLine.block d header
      (m.stubFields.map fun field => ⟨d + 1, "val " ++ field.1 ++ ": " ++ field.2⟩)) :=
  ⟨_, fun d => Layout.WritesAt.block
    (Layout.writesAt_map_lines (d + 1) m.stubFields _ fun field _ => by simp) _⟩

/-- From the start of a line, the overrides begin with the object `mock`: a block with one line
`override val field = Type()` per stub field, in field order. -/
theorem writeOverrides_object (m : MockClass) (d : Nat) {v : Layout} (start : v.atLineStart = true)
    (atLevel : v.level = d) :
    (v.output ++ SourceLine.renderAll v.indentUnit
        (SourceLine.block d ("val mock = object : " ++ m.controlSurfaceType)
          (m.stubFields.map fun field =>
            ⟨d + 1, "override val " ++ field.1 ++ " = " ++ field.2 ++ "()"⟩))).toList <+:
      (m.writeOverrides v).output.toList := by
  have object := Layout.WritesAt.block (Layout.writesAt_map_lines (d + 1) m.stubFields
    (fun field => "override val " ++ field.1 ++ " = " ++ field.2 ++ "()") fun field _ => by simp)
    ("val mock = object : " ++ m.controlSurfaceType) v start atLevel
  beta_reduce at object
  unfold writeOverrides
  dsimp only
  rw [object]
  show Layout.Continues { v with output := _ } _
  -- every member's override goes on after the object
  refine Layout.foldl_continues _ (fun w plan => ?_) m.plans _
  cases plan with
  | function f field kind => exact (Layout.continues_blankLine w).trans (Layout.continues_line _ _)
  | property p getter setter =>
      exact (Layout.continues_blankLine w).trans (writePropertyOverride_writes p getter setter _).1

/-- The helpers are three blocks a blank line apart: `resetMocks` with one line
`mock.field.reset()` per field name of the plans, `relaxMocks` with one line
`mock.field.doesNothing()` per relaxed field, and `setMocks`. -/
theorem writeLifecycleHelpers_lines (m : MockClass) : ∃ header : String, ∀ d : Nat,
    Layout.WritesAt m.writeLifecycleHelpers d
      ((SourceLine.block d "fun resetMocks()"
          ((m.plans.flatMap MemberPlan.fieldNames).map fun f => ⟨d + 1, "mock." ++ f ++ ".reset()"⟩) ++
        [.empty]) ++
       (SourceLine.block d "fun relaxMocks()"
          (m.relaxedFields.map fun f => ⟨d + 1, "mock." ++ f ++ ".doesNothing()"⟩) ++
        [.empty]) ++
       SourceLine.block d header [⟨d + 1, "mock.apply(block)"⟩]) := ⟨_, fun d => by
  have resets := Layout.WritesAt.block_blankLine
    (Layout.writesAt_map_lines (d + 1) (m.plans.flatMap MemberPlan.fieldNames)
      (fun f => "mock." ++ f ++ ".reset()") fun f _ => by simp) "fun resetMocks()"
  have relaxes := Layout.WritesAt.block_blankLine
    (Layout.writesAt_map_lines (d + 1) m.relaxedFields
      (fun f => "mock." ++ f ++ ".doesNothing()") fun f _ => by simp) "fun relaxMocks()"
  have applies := Layout.writesAt_line (d + 1) (show "mock.apply(block)" ≠ "" by decide)
  intro v start atLevel
  unfold writeLifecycleHelpers
  dsimp only
  rw [← List.map_flatMap]
  exact ((resets.comp relaxes).comp (applies.block _)) v start atLevel⟩

/-- For a target whose members are planned and whose mock class is made from those plans: the stub
fields are the plans' field names, in order, and the control surface declares them, the object
`mock` creates them and `resetMocks` resets them in that order; `relaxMocks` relaxes exactly the
fields whose shapes, paired field by field with the plans' shapes, answer no value, in order; and
each stub type is the stub class of its shape applied to one type argument for each type
parameter that class declares in its header, with no argument list when it declares none. -/
theorem fields_follow_plans {t : TargetType} {plans : List MemberPlan} {options : GeneratorOptions}
    {m : MockClass} (planned : planMembers t = .ok plans) (made : MockClass.make t plans options = .ok m) :
    m.stubFields.map Prod.fst = plans.flatMap MemberPlan.fieldNames ∧
    (∃ header : String, ∀ d : Nat,
      Layout.WritesAt m.writeControlSurface d (SourceLine.block d header
        (m.stubFields.map fun field => ⟨d + 1, "val " ++ field.1 ++ ": " ++ field.2⟩))) ∧
    (∀ (d : Nat) (v : Layout), v.atLineStart = true → v.level = d →
      (v.output ++ SourceLine.renderAll v.indentUnit
          (SourceLine.block d ("val mock = object : " ++ m.controlSurfaceType)
            (m.stubFields.map fun field =>
              ⟨d + 1, "override val " ++ field.1 ++ " = " ++ field.2 ++ "()"⟩))).toList <+:
        (m.writeOverrides v).output.toList) ∧
    (∃ header : String, ∀ d : Nat,
      Layout.WritesAt m.writeLifecycleHelpers d
        ((SourceLine.block d "fun resetMocks()"
            ((plans.flatMap MemberPlan.fieldNames).map fun f => ⟨d + 1, "mock." ++ f ++ ".reset()"⟩) ++
          [.empty]) ++
         (SourceLine.block d "fun relaxMocks()"
            (m.relaxedFields.map fun f => ⟨d + 1, "mock." ++ f ++ ".doesNothing()"⟩) ++
          [.empty]) ++
         SourceLine.block d header [⟨d + 1, "mock.apply(block)"⟩])) ∧
    m.relaxedFields =
      (((plans.flatMap MemberPlan.fieldNames).zip (plans.flatMap MemberPlan.stubKinds)).filter
        fun named => !named.2.returnsValue).map Prod.fst ∧
    List.Forall₂ (fun (field : String × String) (k : StubKind) => k.TypeFits field.2)
      m.stubFields (plans.flatMap MemberPlan.stubKinds) ∧
    (∀ (k : StubKind) (runtimePackage : String) (width : Nat),
      ("class " ++ k.className ++ angled (StubShape.mk k).declaredParams ++ " \x7b\n").toList <:+:
        (renderPrimitive k runtimePackage width).toList) ∧
    (∀ (k : StubKind) (type : String), k.TypeFits type → (StubShape.mk k).declaredParams = [] →
      type = k.className) := by
  obtain ⟨-, samePlans⟩ := MockClass.make_target_plans made
  have fit := planMembers_fit planned
  rw [← samePlans] at fit ⊢
  exact ⟨m.stubFields_map_fst, m.writeControlSurface_lines,
    fun d v start atLevel => m.writeOverrides_object d start atLevel, m.writeLifecycleHelpers_lines,
    m.relaxedFields_eq, m.stubTypes_fit fit, renderPrimitive_header,
    fun _ _ fits none => fits.eq_className none⟩

/-- `save(user: User)`, answering nothing. -/
def saveUser : Function := Function.open "save" [.named "user" (.ofClass "p.User")] .unit

/-- `count(): Int`. -/
def countUsers : Function := Function.open "count" [] (.ofClass "kotlin.Int")

/-- An interface with a void function of one argument, a function answering a value and a
mutable property. -/
def repository : TargetType :=
  (((TargetType.interface "p" "Repository").withFunction saveUser).withFunction countUsers).withProperty
    (Property.open "name" (.ofClass "kotlin.String") true)

theorem repository_fields_follow_plans :
    ∃ plans m, planMembers repository = .ok plans ∧ MockClass.make repository plans {} = .ok m ∧
      m.stubFields.map Prod.fst = ["save", "count", "getName", "setName"] ∧
      m.relaxedFields = ["save", "setName"] := by
  let plans : List MemberPlan := [.function saveUser "save" ⟨1, false⟩,
    .function countUsers "count" ⟨0, true⟩, .property (Property.open "name" (.ofClass "kotlin.String") true)
      "getName" (some "setName")]
  have planned : planMembers repository = .ok plans := rfl
  have made : MockClass.make repository plans {} =
      .ok ⟨repository, "p.Repository", plans, {}, "RepositoryMock"⟩ := rfl
  obtain ⟨named, -, -, -, relaxed, -⟩ := fields_follow_plans planned made
  refine ⟨plans, _, planned, made, ?_, ?_⟩
  · rw [named]
    rfl
  · rw [relaxed]
    rfl

end MockClass

end KotlinMocks

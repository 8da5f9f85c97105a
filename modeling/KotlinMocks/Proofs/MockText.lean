import KotlinMocks.Emit.MockClass

/-!
# What a mock class writes

Layout only ever appends to its text, so whatever a step of writing puts down stays in the
finished text. Reading the writing of a mock class with this in mind gives the type references it
writes in full, with nothing erased (`MockClass.writtenTypes`): the bounds of the target's type
parameters, in the `where` clause of the class header; the constructor's parameter types, in the
class header; and, in each override, a function's parameter types, return type and the bounds of
its own type parameters, or a property's type. Each of them stands in the finished text
(`MockClass.render_writes_writtenTypes`), and so does the name of every declaration a reference
mentions, at any depth of its type arguments (`TypeReference.displayName_written`).
-/

namespace KotlinMocks

/-! ## Texts standing in texts -/

/-- Each of the lists joined stands in the joined list. -/
theorem List.infix_intercalate_of_mem {α : Type} {sep x : List α} {xs : List (List α)}
    (member : x ∈ xs) : x <:+: sep.intercalate xs := by
  induction xs with
  | nil => cases member
  | cons y rest restInfix =>
      cases rest with
      | nil =>
          obtain rfl := List.mem_singleton.mp member
          simp
      | cons z more =>
          rw [List.intercalate_cons_of_ne_nil (by simp)]
          rcases List.mem_cons.mp member with here | later
          · rw [here]
            exact List.infix_append_of_infix_left (List.infix_append_left)
          · exact List.infix_append_of_infix_right (restInfix later)

/-- Each of the texts joined stands in the joined text. -/
theorem infix_intercalate_of_mem {sep x : String} {xs : List String} (member : x ∈ xs) :
    x.toList <:+: (sep.intercalate xs).toList := by
  rw [String.toList_intercalate]
  exact List.infix_intercalate_of_mem (List.mem_map_of_mem member)

/-- Each item of a non-empty generic list stands in its text. -/
theorem infix_angled {x : String} {items : List String} (member : x ∈ items) :
    x.toList <:+: (angled items).toList := by
  have nonEmpty : items.isEmpty = false := by
    cases items with
    | nil => cases member
    | cons _ _ => rfl
  simp only [angled, nonEmpty, Bool.false_eq_true, if_false, String.toList_append]
  exact List.infix_append_of_infix_left (List.infix_append_of_infix_right
    (infix_intercalate_of_mem member))

/-! ## Layout only appends -/

namespace Layout

/-- `w'` goes on from `w`: its text so far starts with all of `w`'s. -/
def Continues (w w' : Layout) : Prop := w.output.toList <+: w'.output.toList

/-- The text `text` stands in what `w` has written. -/
def Holds (w : Layout) (text : String) : Prop := text.toList <:+: w.output.toList

theorem Continues.refl (w : Layout) : w.Continues w := List.prefix_refl _

theorem Continues.trans {w₁ w₂ w₃ : Layout} (first : w₁.Continues w₂) (second : w₂.Continues w₃) :
    w₁.Continues w₃ := List.IsPrefix.trans first second

theorem Holds.of_continues {w w' : Layout} {text : String} (holds : w.Holds text)
    (continues : w.Continues w') : w'.Holds text :=
  List.IsInfix.trans holds continues.isInfix

variable (w : Layout)

theorem continues_write (text : String) : w.Continues (w.write text) := by
  unfold write
  split
  · exact Continues.refl w
  · split <;> simp [Continues, String.toList_append, List.append_assoc]

theorem holds_write (text : String) : (w.write text).Holds text := by
  unfold write Holds
  split
  · rename_i empty
    simp [String.isEmpty_iff.mp empty]
  · split <;> simp only [String.toList_append] <;> exact List.infix_append_right

theorem continues_newline : w.Continues w.newline := by
  simp [Continues, newline, String.toList_push]

theorem continues_line (text : String) : w.Continues (w.line text) :=
  (continues_write w text).trans (continues_newline _)

theorem holds_line (text : String) : (w.line text).Holds text :=
  (holds_write w text).of_continues (continues_newline _)

theorem continues_closeLine : w.Continues w.closeLine := by
  unfold closeLine
  split
  · exact Continues.refl w
  · exact continues_newline w

theorem continues_blankLine : w.Continues w.blankLine := by
  unfold blankLine
  dsimp only
  split
  · exact (continues_closeLine w).trans (continues_newline _)
  · exact continues_closeLine w

/-- A body that goes on from wherever it starts goes on from `w` when indented. -/
theorem continues_indented {body : Layout → Layout} (bodyContinues : ∀ v : Layout, v.Continues (body v)) :
    w.Continues (w.indented body) := by
  have opened : w.Continues { w.closeLine with level := w.level + 1 } := continues_closeLine w
  have inner := bodyContinues { w.closeLine with level := w.level + 1 }
  exact (opened.trans inner).trans (continues_closeLine _)

theorem continues_block (header : String) {body : Layout → Layout}
    (bodyContinues : ∀ v : Layout, v.Continues (body v)) : w.Continues (w.block header body) := by
  have opened : w.Continues ((w.write header).write " \x7b").newline :=
    ((continues_write w header).trans (continues_write _ _)).trans (continues_newline _)
  exact (opened.trans (continues_indented _ bodyContinues)).trans (continues_line _ _)

/-- What a block's body writes stands in the block. -/
theorem holds_block_body (header : String) {body : Layout → Layout} {text : String}
    (bodyHolds : ∀ v : Layout, (body v).Holds text) : (w.block header body).Holds text := by
  let opened := ((w.write header).write " \x7b").newline
  have inner := bodyHolds { opened.closeLine with level := opened.level + 1 }
  have closed : (body { opened.closeLine with level := opened.level + 1 }).closeLine.Holds text :=
    inner.of_continues (continues_closeLine _)
  have indented : (opened.indented body).Holds text := closed
  exact indented.of_continues (continues_line _ _)

/-- A block's header stands in the block, whatever its body does, when the body goes on from
where it starts. -/
theorem holds_block_header (header : String) {body : Layout → Layout}
    (bodyContinues : ∀ v : Layout, v.Continues (body v)) : (w.block header body).Holds header := by
  have opened : (w.write header).Continues ((w.write header).write " \x7b").newline :=
    (continues_write _ _).trans (continues_newline _)
  exact (holds_write w header).of_continues
    ((opened.trans (continues_indented _ bodyContinues)).trans (continues_line _ _))

/-- Writing leaves what it wrote at the end of the text. -/
theorem write_suffix (text : String) : text.toList <:+ (w.write text).output.toList := by
  unfold write
  split
  · rename_i empty
    simp [String.isEmpty_iff.mp empty]
  · split <;> simp only [String.toList_append] <;> exact List.suffix_append _ _

/-- On an open line, writing appends the text as it is. -/
theorem write_of_open (openLine : w.atLineStart = false) (text : String) :
    (w.write text).output = w.output ++ text := by
  unfold write
  split
  · rename_i empty
    simp [String.isEmpty_iff.mp empty]
  · simp [openLine]

/-- A block opens with its header and the brace, ending the line, whatever its body does, when
the header is not empty and the body goes on from where it starts. -/
theorem holds_block_opening {header : String} (written : header.isEmpty = false)
    {body : Layout → Layout} (bodyContinues : ∀ v : Layout, v.Continues (body v)) :
    (w.block header body).Holds (header ++ " \x7b\n") := by
  -- after a header that is not empty the line is open, so the brace follows it directly
  have openLine : (w.write header).atLineStart = false := by
    unfold write
    simp only [written, Bool.false_eq_true, if_false]
    split
    · rfl
    · rename_i notStart
      simpa using notStart
  have brace := write_of_open _ openLine " \x7b"
  obtain ⟨before, ends⟩ := write_suffix w header
  have opened : ((w.write header).write " \x7b").newline.Holds (header ++ " \x7b\n") := by
    refine ⟨before, [], ?_⟩
    simp [newline, brace, String.toList_push, String.toList_append, ← ends]
  exact opened.of_continues ((continues_indented _ bodyContinues).trans (continues_line _ _))

/-- A block after a blank line goes on from where it starts. -/
theorem continues_blankLine_block (header : String) {body : Layout → Layout}
    (bodyContinues : ∀ v : Layout, v.Continues (body v)) : w.Continues (w.blankLine.block header body) :=
  (continues_blankLine w).trans (continues_block _ header bodyContinues)

/-- A choice between two continuations of `u` goes on from whatever `u` goes on from. -/
theorem Continues.ite_after {v u a b : Layout} (first : v.Continues u) {c : Prop} [Decidable c]
    (ifTrue : u.Continues a) (ifFalse : u.Continues b) : v.Continues (if c then a else b) := by
  split
  · exact first.trans ifTrue
  · exact first.trans ifFalse

theorem continues_lines (texts : List String) : w.Continues (w.lines texts) := by
  unfold lines
  induction texts generalizing w with
  | nil => exact Continues.refl w
  | cons text rest restContinues => exact (continues_line w text).trans (restContinues _)

/-- Steps that each go on from where they start, run over a list, go on from where they
start. -/
theorem foldl_continues {α : Type} (step : Layout → α → Layout)
    (stepContinues : ∀ (v : Layout) x, v.Continues (step v x)) :
    ∀ (xs : List α) (start : Layout), start.Continues (xs.foldl step start)
  | [], start => Continues.refl start
  | x :: rest, start => (stepContinues start x).trans (foldl_continues step stepContinues rest _)

/-- Steps that each go on from where they start, run over a list from a layout that goes on from
`w`, go on from `w`, and what any step writes stands in the end. -/
theorem foldl_writes {α : Type} (step : Layout → α → Layout) (text : α → String)
    (stepContinues : ∀ (v : Layout) x, v.Continues (step v x))
    (stepHolds : ∀ (v : Layout) x, (step v x).Holds (text x)) :
    ∀ (xs : List α) {start : Layout}, w.Continues start →
      w.Continues (xs.foldl step start) ∧ ∀ x ∈ xs, (xs.foldl step start).Holds (text x) := by
  intro xs
  induction xs generalizing w with
  | nil => intro start opened; exact ⟨opened, fun x member => by cases member⟩
  | cons y rest restWrites =>
      intro start opened
      obtain ⟨later, laterHolds⟩ := restWrites (step start y) (Continues.refl _)
      refine ⟨(opened.trans (stepContinues start y)).trans later, fun x member => ?_⟩
      rcases List.mem_cons.mp member with rfl | inRest
      · exact (stepHolds start x).of_continues later
      · exact laterHolds x inRest

end Layout

/-- A finished text holds what was written. -/
theorem Layout.holds_finish {w : Layout} {text : String} (holds : w.Holds text) :
    text.toList <:+: w.finish.toList :=
  holds.of_continues (Layout.continues_closeLine w)

/-! ## Type references written in full -/

namespace TypeReference

mutual
/-- Every declaration a reference mentions, at any depth through its type arguments, outermost
first. -/
def declarations : TypeReference → List Declaration
  | .mk d _ args => d :: argumentsDeclarations args

/-- The declarations generic arguments mention, in order; a star projection mentions none. -/
def argumentsDeclarations : List TypeArgument → List Declaration
  | [] => []
  | .star :: rest => argumentsDeclarations rest
  | .type _ t :: rest => declarations t ++ argumentsDeclarations rest
end

theorem erases_none (t : TypeReference) : Erasure.none.erases t = false := by
  simp [Erasure.erases, Erasure.none]

mutual
/-- With nothing erased, a reference inside a generic argument is written as it is anywhere. -/
theorem nestedText?_none : ∀ t : TypeReference, nestedText? .none t = some (t.render .none)
  | .mk d n args => by
    rw [nestedText?, render, argumentsText?_none args]
    simp [erases_none, declaration, nullable, arguments]

theorem argumentsText?_none : ∀ args : List TypeArgument,
    argumentsText? .none args = some (args.map fun a => (argumentText? .none a).getD "*")
  | [] => rfl
  | a :: rest => by
    obtain ⟨text, written⟩ := argumentText?_none a
    rw [argumentsText?, written, argumentsText?_none rest]
    simp [written]

theorem argumentText?_none : ∀ a : TypeArgument, ∃ text, argumentText? .none a = some text
  | .star => ⟨"*", rfl⟩
  | .type _ t => by
    rw [argumentText?, nestedText?_none t]
    exact ⟨_, rfl⟩
end

theorem render_none_mk (d : Declaration) (n : Bool) (args : List TypeArgument) :
    (TypeReference.mk d n args).render .none =
      referenceText d n (args.map fun a => (argumentText? .none a).getD "*") := by
  simp [render, erases_none, declaration, nullable, arguments]

mutual
/-- With nothing erased, the name of every declaration a reference mentions, at any depth, is
written. -/
theorem displayName_written : ∀ t : TypeReference, ∀ d ∈ t.declarations,
    d.displayName.toList <:+: (t.render .none).toList
  | .mk d n args => by
    intro d' member
    rw [declarations, List.mem_cons] at member
    rw [render_none_mk, referenceText, String.toList_append, String.toList_append]
    rcases member with rfl | inArguments
    · exact List.infix_append_of_infix_left List.infix_append_left
    · obtain ⟨a, inArgs, written⟩ := argumentsDeclarations_written args d' inArguments
      exact List.infix_append_of_infix_left (List.infix_append_of_infix_right
        (written.trans (infix_angled (List.mem_map_of_mem inArgs))))

theorem argumentsDeclarations_written : ∀ args : List TypeArgument, ∀ d ∈ argumentsDeclarations args,
    ∃ a ∈ args, d.displayName.toList <:+: ((argumentText? .none a).getD "*").toList
  | [] => by intro d member; cases member
  | .star :: rest => by
    intro d member
    rw [argumentsDeclarations] at member
    obtain ⟨a, inRest, written⟩ := argumentsDeclarations_written rest d member
    exact ⟨a, List.mem_cons_of_mem _ inRest, written⟩
  | .type v t :: rest => by
    intro d member
    rw [argumentsDeclarations, List.mem_append] at member
    rcases member with inType | inRest
    · refine ⟨.type v t, List.mem_cons_self, ?_⟩
      -- the argument is the reference's text, after its variance keyword if it has one
      have argument : ((argumentText? .none (.type v t)).getD "*").toList =
          (match v.keyword? with
            | some k => k ++ " " ++ t.render .none
            | none => t.render .none).toList := by
        rw [argumentText?, nestedText?_none t]
        rfl
      rw [argument]
      refine (displayName_written t d inType).trans ?_
      split
      · simp only [String.toList_append]
        exact List.infix_append_right
      · exact List.infix_refl _
    · obtain ⟨a, inArgs, written⟩ := argumentsDeclarations_written rest d inRest
      exact ⟨a, List.mem_cons_of_mem _ inArgs, written⟩
end

end TypeReference

/-! ## What a mock class writes in full -/

/-- The type references a function's override writes in full: its parameter types, its return
type, then the bounds of its own type parameters. -/
def Function.writtenTypes (f : Function) : List TypeReference :=
  f.parameters.map (·.type) ++ f.returnType.toList ++ f.typeParameters.flatMap (·.bounds)

/-- The type references the override of a planned member writes in full. -/
def MemberPlan.writtenTypes : MemberPlan → List TypeReference
  | .function f _ _ => f.writtenTypes
  | .property p _ _ => [p.type]

/-- The type references a mock class writes in full, in the order the defer check visits them:
the bounds of the target's type parameters (in the `where` clause of the class header), the
constructor's parameter types (in the class header), then what the override of each planned
member writes. The stub fields write the same references again, with the function's own
generic parameters erased. -/
def MockClass.writtenTypes (m : MockClass) : List TypeReference :=
  m.target.typeParameters.flatMap (·.bounds) ++ (m.target.primaryConstructor.getD []).map (·.type) ++
    m.plans.flatMap MemberPlan.writtenTypes

/-- A mock class is made of the target, its plans and the options, under the target's qualified
name and the name the options give it. -/
theorem MockClass.make_eq {t : TargetType} {plans : List MemberPlan} {options : GeneratorOptions}
    {m : MockClass} (made : MockClass.make t plans options = .ok m) :
    ∃ q, t.qualifiedName = some q ∧
      m = { target := t, qualifiedName := q, plans, options,
            className := options.mockClassName t.simpleName } := by
  unfold MockClass.make at made
  cases named : t.qualifiedName with
  | none => simp [named] at made
  | some qualified =>
      simp only [named, bind, Except.bind] at made
      -- the checks either fail, and so does the whole, or give way to the final value
      repeat' split at made
      all_goals cases made <;> exact ⟨qualified, rfl, rfl⟩

/-- A bound of a generic parameter stands in a `where` clause over the parameters. -/
theorem whereClause_writes {ps : List TypeParameter} {p : TypeParameter} {b : TypeReference}
    (param : p ∈ ps) (bound : b ∈ p.bounds) :
    ∃ clause, whereClause ps = some clause ∧ (b.render .none).toList <:+: clause.toList := by
  have entry : p.name ++ " : " ++ b.render .none ∈
      ps.flatMap fun p => p.bounds.map fun b => p.name ++ " : " ++ b.render .none :=
    List.mem_flatMap.mpr ⟨p, param, List.mem_map_of_mem bound⟩
  unfold whereClause
  split
  · rename_i noEntries
    rw [noEntries] at entry
    cases entry
  · refine ⟨_, rfl, List.IsInfix.trans ?_ (infix_intercalate_of_mem entry)⟩
    simp only [String.toList_append]
    exact List.infix_append_right

/-- Every bound of a function's own generic parameters is written: inline when it is the only
one, else in the `where` clause. -/
theorem functionParameters_or_where_writes {ps : List TypeParameter} {p : TypeParameter}
    {b : TypeReference} (param : p ∈ ps) (bound : b ∈ p.bounds) :
    (b.render .none).toList <:+: (functionParameters ps).toList ∨
      ∃ clause, functionWhereClause ps = some clause ∧
        (b.render .none).toList <:+: clause.toList := by
  cases only : p.bounds with
  | nil => rw [only] at bound; cases bound
  | cons first rest =>
      cases rest with
      | nil =>
          -- a single bound is written inline, after the parameter's name
          left
          rw [only, List.mem_singleton] at bound
          subst bound
          unfold functionParameters
          refine List.IsInfix.trans ?_ (infix_angled (List.mem_map_of_mem param))
          simp only [only, String.toList_append]
          exact List.infix_append_right
      | cons second more =>
          right
          have several : p ∈ ps.filter fun p => p.bounds.length > 1 := by
            simp [param, only]
          exact whereClause_writes several bound

namespace MockClass

/-- The class header writes the bounds of the target's type parameters and its constructor's
parameter types. -/
theorem classHeader_writes (m : MockClass) {r : TypeReference}
    (member : r ∈ m.target.typeParameters.flatMap (·.bounds) ++
      (m.target.primaryConstructor.getD []).map (·.type)) :
    (r.render .none).toList <:+: m.classHeader.toList := by
  rcases List.mem_append.mp member with bound | parameter
  · obtain ⟨p, param, inBounds⟩ := List.mem_flatMap.mp bound
    obtain ⟨clause, clauseIs, written⟩ := whereClause_writes param inBounds
    unfold classHeader
    simp only [clauseIs]
    exact written.trans (by simp only [String.toList_append]; exact List.infix_append_right)
  · cases ctorIs : m.target.primaryConstructor with
    | none => rw [ctorIs] at parameter; cases parameter
    | some ctor =>
        rw [ctorIs, Option.getD_some] at parameter
        obtain ⟨p, inCtor, rfl⟩ := List.mem_map.mp parameter
        have declared : p.nameText ++ ": " ++ p.type.render .none ∈
            ctor.map fun p => p.nameText ++ ": " ++ p.type.render .none := List.mem_map_of_mem inCtor
        have entry : (p.type.render .none).toList <:+:
            (p.nameText ++ ": " ++ p.type.render .none).toList := by
          simp only [String.toList_append]
          exact List.infix_append_right
        have listed : (p.type.render .none).toList <:+:
            (", ".intercalate (ctor.map fun p => p.nameText ++ ": " ++ p.type.render .none)).toList :=
          entry.trans (infix_intercalate_of_mem declared)
        unfold classHeader
        simp only [ctorIs]
        -- the parameter list sits in the header, before the `where` clause if there is one
        split
        · simp only [String.toList_append]
          iterate 7 apply List.infix_append_of_infix_left
          exact listed.trans List.infix_append_right
        · simp only [String.toList_append]
          iterate 5 apply List.infix_append_of_infix_left
          exact listed.trans List.infix_append_right

/-- An override opens with the function's signature, up to its return type. -/
theorem functionOverride_signature (f : Function) (field : String) (kind : StubKind) :
    ("override " ++ (if f.suspend then "suspend " else "") ++ "fun " ++
        (if (functionParameters f.typeParameters).isEmpty then ""
          else functionParameters f.typeParameters ++ " ") ++
        f.name ++ "(" ++
        ", ".intercalate (f.parameters.map fun p => p.nameText ++ ": " ++ p.type.render .none) ++
        "): " ++ f.returnText .none).toList <+: (functionOverride f field kind).toList := by
  unfold functionOverride
  cases functionWhereClause f.typeParameters <;> cases kind.returnsValue <;>
    simp only [String.toList_append, List.append_assoc, List.prefix_append_right_inj,
      List.prefix_append, Bool.false_eq_true, if_false, if_true]

/-- An override writes its function's `where` clause, when there is one. -/
theorem functionOverride_where (f : Function) (field : String) (kind : StubKind) {clause : String}
    (clauseIs : functionWhereClause f.typeParameters = some clause) :
    clause.toList <:+: (functionOverride f field kind).toList := by
  unfold functionOverride
  simp only [clauseIs]
  -- the clause follows the signature; the forwarding call, and a cast for a value, follow it
  cases kind.returnsValue <;> simp only [String.toList_append, Bool.false_eq_true, if_false, if_true]
  · iterate 5 apply List.infix_append_of_infix_left
    exact List.infix_append_right
  · iterate 7 apply List.infix_append_of_infix_left
    exact List.infix_append_right

/-- The override of a planned function writes every type its function writes in full. -/
theorem functionOverride_writes (f : Function) (field : String) (kind : StubKind) {r : TypeReference}
    (member : r ∈ f.writtenTypes) : (r.render .none).toList <:+: (functionOverride f field kind).toList := by
  have opens := functionOverride_signature f field kind
  simp only [String.toList_append] at opens
  simp only [Function.writtenTypes, List.mem_append, List.mem_map, Option.mem_toList,
    List.mem_flatMap] at member
  rcases member with (⟨p, param, rfl⟩ | returns) | ⟨q, typeParam, bound⟩
  · -- a parameter's type, in the parameter list of the signature
    have declared : p.nameText ++ ": " ++ p.type.render .none ∈
        f.parameters.map fun p => p.nameText ++ ": " ++ p.type.render .none :=
      List.mem_map_of_mem param
    have entry : (p.type.render .none).toList <:+:
        (p.nameText ++ ": " ++ p.type.render .none).toList := by
      simp only [String.toList_append]
      exact List.infix_append_right
    have listed : (p.type.render .none).toList <:+:
        (", ".intercalate (f.parameters.map fun p => p.nameText ++ ": " ++ p.type.render .none)).toList :=
      entry.trans (infix_intercalate_of_mem declared)
    refine List.IsInfix.trans ?_ opens.isInfix
    iterate 2 apply List.infix_append_of_infix_left
    exact listed.trans List.infix_append_right
  · -- the return type ends the signature
    have returnText : f.returnText .none = r.render .none := by simp [Function.returnText, returns]
    refine List.IsInfix.trans ?_ opens.isInfix
    rw [returnText]
    exact List.infix_append_right
  · rcases functionParameters_or_where_writes typeParam bound with inline | ⟨clause, clauseIs, written⟩
    · -- a single bound, inline among the signature's generic parameters
      cases empty : (functionParameters f.typeParameters).isEmpty
      · refine List.IsInfix.trans ?_ opens.isInfix
        iterate 5 apply List.infix_append_of_infix_left
        refine List.IsInfix.trans ?_ List.infix_append_right
        rw [empty]
        simp only [Bool.false_eq_true, if_false, String.toList_append]
        exact List.infix_append_of_infix_left inline
      · -- no generic parameters are written, so the bound's text is empty
        rw [String.isEmpty_iff.mp empty, String.toList_empty, List.infix_nil] at inline
        rw [inline]
        exact List.nil_infix
    · exact written.trans (functionOverride_where f field kind clauseIs)

end MockClass

/-! ## The finished text -/

/-- The first line the override of a planned member writes: the whole override of a function, or
the declaration of a property before its accessors. -/
def MemberPlan.overrideLine : MemberPlan → String
  | .function f field kind => MockClass.functionOverride f field kind
  | .property p _ setter =>
    "override " ++ (if setter.isSome then "var" else "val") ++ " " ++ p.name ++ ": " ++
      p.type.render .none

/-- The first line of an override writes every type its member writes in full. -/
theorem MemberPlan.overrideLine_writes (plan : MemberPlan) {r : TypeReference}
    (member : r ∈ plan.writtenTypes) : (r.render .none).toList <:+: plan.overrideLine.toList := by
  cases plan with
  | function f field kind => exact MockClass.functionOverride_writes f field kind member
  | property p getter setter =>
      rw [writtenTypes, List.mem_singleton] at member
      subst member
      simp only [overrideLine, String.toList_append]
      exact List.infix_append_right

namespace MockClass

open Layout

theorem writePropertyOverride_writes (p : Property) (getter : String) (setter : Option String)
    (w : Layout) :
    w.Continues (writePropertyOverride p getter setter w) ∧
      (writePropertyOverride p getter setter w).Holds (MemberPlan.property p getter setter).overrideLine := by
  unfold writePropertyOverride
  simp only
  have accessors : ∀ v : Layout, v.Continues
      (match setter with
        | some s => (v.line ("get() = mock." ++ getter ++ ".call()")).line ("set(value) = mock." ++ s ++ ".call(value)")
        | none => v.line ("get() = mock." ++ getter ++ ".call()")) := by
    intro v
    cases setter with
    | some s => exact (continues_line _ _).trans (continues_line _ _)
    | none => exact continues_line _ _
  exact ⟨(continues_line _ _).trans (continues_indented _ accessors),
    (holds_line _ _).of_continues (continues_indented _ accessors)⟩

/-- Writing the overrides goes on from where it starts and writes the first line of every
planned member's override. -/
theorem writeOverrides_writes (m : MockClass) (w : Layout) :
    w.Continues (m.writeOverrides w) ∧ ∀ plan ∈ m.plans, (m.writeOverrides w).Holds plan.overrideLine := by
  unfold writeOverrides
  simp only
  refine foldl_writes w _ MemberPlan.overrideLine ?_ ?_ m.plans
    (continues_block _ _ fun v => continues_lines v _)
  · intro v plan
    cases plan with
    | function f field kind => exact (continues_blankLine v).trans (continues_line _ _)
    | property p getter setter =>
        exact (continues_blankLine v).trans (writePropertyOverride_writes p getter setter _).1
  · intro v plan
    cases plan with
    | function f field kind => exact holds_line _ _
    | property p getter setter => exact (writePropertyOverride_writes p getter setter _).2

theorem writeControlSurface_continues (m : MockClass) (w : Layout) :
    w.Continues (m.writeControlSurface w) := by
  unfold writeControlSurface
  exact continues_block _ _ fun v => continues_lines v _

theorem writeLifecycleHelpers_continues (m : MockClass) (w : Layout) :
    w.Continues (m.writeLifecycleHelpers w) := by
  unfold writeLifecycleHelpers
  simp only
  exact ((continues_block _ _ fun v => continues_lines v _).trans
    (continues_blankLine_block _ _ fun v => continues_lines v _)).trans
    (continues_blankLine_block _ _ fun v => continues_line v _)

/-- The body of a mock class writes the first line of every planned member's override. -/
theorem writeBody_writes (m : MockClass) (w : Layout) :
    w.Continues (m.writeBody w) ∧ ∀ plan ∈ m.plans, (m.writeBody w).Holds plan.overrideLine := by
  obtain ⟨overrides, written⟩ := m.writeOverrides_writes (m.writeControlSurface w).blankLine
  have after : (m.writeOverrides (m.writeControlSurface w).blankLine).Continues (m.writeBody w) :=
    (continues_blankLine _).trans (m.writeLifecycleHelpers_continues _)
  refine ⟨(((m.writeControlSurface_continues w).trans (continues_blankLine _)).trans overrides).trans
    after, fun plan member => (written plan member).of_continues after⟩

/-- The mock class writes, in full, every type reference it is said to write in full. -/
theorem render_writes_writtenTypes (m : MockClass) {r : TypeReference} (member : r ∈ m.writtenTypes) :
    (r.render .none).toList <:+: m.render.toList := by
  unfold writtenTypes at member
  rcases List.mem_append.mp member with header | inPlans
  · -- in the class header
    exact (m.classHeader_writes header).trans
      (holds_finish (holds_block_header _ _ fun v => (m.writeBody_writes v).1))
  · -- in the override of the member that writes it
    obtain ⟨plan, planned, written⟩ := List.mem_flatMap.mp inPlans
    exact (plan.overrideLine_writes written).trans
      (holds_finish (holds_block_body _ _ fun v => (m.writeBody_writes v).2 plan planned))

/-- The mock class writes the name of every declaration that the type references it writes in
full mention, at any depth of their type arguments. -/
theorem render_writes_declarations (m : MockClass) {r : TypeReference} (member : r ∈ m.writtenTypes)
    {d : Declaration} (mentioned : d ∈ r.declarations) :
    d.displayName.toList <:+: m.render.toList :=
  (r.displayName_written d mentioned).trans (m.render_writes_writtenTypes member)

end MockClass

end KotlinMocks

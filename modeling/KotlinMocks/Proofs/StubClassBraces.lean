import KotlinMocks.Proofs.BraceDepth
import KotlinMocks.Emit.Primitive

/-!
# Braces of a stub class

The class of a stub shape writes braces in three ways. Blocks open a brace after their header and
close it on a line of their own after the body. A lambda that ignores its arguments is written on
one line, `\x7b\x7d`, `\x7b _ -> \x7d` or `\x7b _, _ -> body \x7d`, and so is the counting lambda
of `callCount`; their braces balance within the line (`StubShape.ignoringLambda_neutral`). The
answers from a sequence open a lambda at the end of one line, `answer = \x7b _ ->`, write its
steps one level deeper and close it on a line of its own (`keeps_sequence`). Everything else the
class writes is made of names that hold no brace: `Mock`, the shape's digits, `P0`, `p0` and
fixed words, and the runtime package, which the caller supplies.

So, with a runtime package that holds no brace, the text of every stub class, of any arity, in
any indentation width, reads from depth zero back to zero and ends with the closing line of the
class (`renderPrimitive_balanced`).
-/

namespace KotlinMocks

/-! ## Names without braces -/

theorem braceFree_nil : BraceFree "" := ⟨by simp, by simp⟩

/-- Decimal digits hold no brace. -/
theorem braceFree_digitsOf (n : Nat) : BraceFree (Decimal.digitsOf n) := by
  have notDigit : ∀ c : Char, c ∈ Nat.toDigits 10 n → c ≠ '{' ∧ c ≠ '}' := by
    intro c member
    have digit := Nat.isDigit_of_mem_toDigits (by decide) (by decide) member
    constructor <;> (rintro rfl; simp at digit)
  constructor
  · intro member
    simp only [Decimal.digitsOf, String.toList_ofList] at member
    exact (notDigit _ member).1 rfl
  · intro member
    simp only [Decimal.digitsOf, String.toList_ofList] at member
    exact (notDigit _ member).2 rfl

/-- Texts without braces, joined by a separator without braces, hold none. -/
theorem braceFree_intercalate {sep : String} (sepFree : BraceFree sep) {xs : List String}
    (free : ∀ x ∈ xs, BraceFree x) : BraceFree (sep.intercalate xs) := by
  induction xs with
  | nil => simpa using braceFree_nil
  | cons x rest restFree =>
      cases rest with
      | nil => simpa using free x List.mem_cons_self
      | cons y more =>
          rw [String.intercalate_cons_cons, braceFree_append, braceFree_append]
          exact ⟨⟨free x List.mem_cons_self, sepFree⟩,
            restFree fun z member => free z (List.mem_cons_of_mem _ member)⟩

theorem braceFree_angled {items : List String} (free : ∀ x ∈ items, BraceFree x) :
    BraceFree (angled items) := by
  unfold angled
  split
  · exact braceFree_nil
  · simp only [braceFree_append]
    exact ⟨⟨by decide, braceFree_intercalate (by decide) free⟩, by decide⟩

theorem StubKind.braceFree_className (k : StubKind) : BraceFree k.className := by
  unfold StubKind.className
  simp only [braceFree_append]
  refine ⟨⟨by decide, braceFree_digitsOf _⟩, ?_⟩
  split <;> decide

namespace StubShape

variable (s : StubShape)

theorem braceFree_typeParams : ∀ x ∈ s.typeParams, BraceFree x := by
  intro x member
  obtain ⟨i, -, rfl⟩ := List.mem_map.mp member
  exact (braceFree_append _ _).mpr ⟨by decide, braceFree_digitsOf i⟩

theorem braceFree_args : ∀ x ∈ s.args, BraceFree x := by
  intro x member
  obtain ⟨i, -, rfl⟩ := List.mem_map.mp member
  exact (braceFree_append _ _).mpr ⟨by decide, braceFree_digitsOf i⟩

theorem braceFree_result : BraceFree s.result := by
  unfold result
  split <;> decide

theorem braceFree_classTypeParams : BraceFree s.classTypeParams := by
  refine braceFree_angled fun x member => ?_
  rcases List.mem_append.mp member with param | answer
  · exact s.braceFree_typeParams x param
  · split at answer
    · rw [List.mem_singleton.mp answer]
      decide
    · cases answer

theorem braceFree_functionType : BraceFree s.functionType := by
  simp only [functionType, braceFree_append]
  exact ⟨⟨⟨by decide, braceFree_intercalate (by decide) s.braceFree_typeParams⟩, by decide⟩,
    s.braceFree_result⟩

theorem braceFree_argList : BraceFree s.argList := braceFree_intercalate (by decide) s.braceFree_args

theorem braceFree_typedArgs : BraceFree s.typedArgs := by
  refine braceFree_intercalate (by decide) fun x member => ?_
  obtain ⟨⟨a, t⟩, paired, rfl⟩ := List.mem_map.mp member
  simp only [braceFree_append]
  exact ⟨⟨s.braceFree_args a (List.of_mem_zip paired).1, by decide⟩,
    s.braceFree_typeParams t (List.of_mem_zip paired).2⟩

/-- The underscores of a lambda that ignores its arguments. -/
theorem braceFree_underscores :
    BraceFree (", ".intercalate (List.replicate s.kind.arity "_")) :=
  braceFree_intercalate (by decide) fun x member => by
    rw [List.eq_of_mem_replicate member]
    decide

/-- A lambda ignoring its arguments opens and closes its brace on the same line. -/
theorem ignoringLambda_neutral {body : String} (free : BraceFree body) :
    Neutral (s.ignoringLambda body) := by
  intro d
  unfold ignoringLambda
  dsimp only
  split <;> simp [-String.toList_intercalate, String.toList_append, braceStep, free.depthAfter,
    s.braceFree_underscores.depthAfter]

end StubShape

/-! ## Writing a stub class keeps the depth -/

open Layout

/-- An answer from a sequence: two fixed lines, a line opening a lambda, the lambda's steps one
level deeper, and the line closing it. -/
theorem keeps_sequence {first second head : String} {looping : List String}
    (firstFree : BraceFree first) (secondFree : BraceFree second)
    (headOpens : ∀ d, depthAfter d head.toList = some (d + 1))
    (loopingFree : ∀ text ∈ looping, BraceFree text) :
    Keeps fun w => ((w.lines [first, second, head]).indented fun u => u.lines looping).line "\x7d" := by
  intro d w atDepth
  have opened : (w.lines [first, second, head]).AtDepth (d + 1) :=
    moves_line (headOpens d) _ ((atDepth.line firstFree.neutral).line secondFree.neutral)
  have looped := (keeps_lines fun text member => (loopingFree text member).neutral).indented (d + 1) _ opened
  exact moves_line (by simp [braceStep]) _ looped

/-- The answer configuration of a stub that answers a value keeps the depth. -/
theorem writeValueConfiguration_keeps (s : StubShape) : Keeps (writeValueConfiguration s) := by
  have answer : ∀ body, BraceFree body → Keeps (·.line ("answer = " ++ s.ignoringLambda body)) :=
    fun body free => keeps_line ((BraceFree.neutral (by decide)).append (s.ignoringLambda_neutral free))
  have exhausted : BraceFree ("if (!iterator.hasNext()) " ++
      ("throw " ++ sequenceExhaustedException ++ "(answered)")) := by decide
  intro d w atDepth
  unfold writeValueConfiguration
  dsimp only
  -- from the last block back: delegation to functions by varargs, delegation to a sequence of
  -- functions, values by varargs, a sequence of values, one value
  refine AtDepth.blankLine_block ?_ (keeps_line (BraceFree.neutral (by decide)))
    (AtDepth.blankLine_block ?_ ?_ (AtDepth.blankLine_block (BraceFree.neutral (by decide))
      (keeps_line (BraceFree.neutral (by decide)))
      (AtDepth.blankLine_block (BraceFree.neutral (by decide)) ?_
        (AtDepth.blankLine_block (BraceFree.neutral (by decide)) (answer "value" (by decide)) atDepth))))
  · exact BraceFree.neutral (by simp +decide [s.braceFree_functionType])
  · exact BraceFree.neutral (by simp +decide [s.braceFree_functionType])
  · refine keeps_sequence (by decide) (by decide) (fun e => ?_) ?_
    · split <;> simp [-String.toList_intercalate, String.toList_append, braceStep,
        s.braceFree_argList.depthAfter]
    · simp only [List.mem_cons, List.not_mem_nil, or_false]
      rintro text (rfl | rfl | rfl)
      · exact exhausted
      · decide
      · simp +decide [s.braceFree_argList]
  · refine keeps_sequence (by decide) (by decide) (fun e => ?_) ?_
    · split <;> simp [-String.toList_intercalate, String.toList_append, braceStep,
        s.braceFree_underscores.depthAfter]
    · simp only [List.mem_cons, List.not_mem_nil, or_false]
      rintro text (rfl | rfl | rfl) <;> first | exact exhausted | decide

/-- The `callCount` queries and the record of a call keep the depth: the counting lambdas open and
close their braces on the same line. -/
theorem writeHistoryQueries_keeps (s : StubShape) : Keeps (writeHistoryQueries s) := by
  have holders : ∀ x ∈ s.args.map ("it." ++ ·), BraceFree x := by
    intro x member
    obtain ⟨a, inArgs, rfl⟩ := List.mem_map.mp member
    simp +decide [s.braceFree_args a inArgs]
  have params : BraceFree (", ".intercalate s.typeParams) :=
    braceFree_intercalate (by decide) s.braceFree_typeParams
  have fromHolder : BraceFree (", ".intercalate (s.args.map ("it." ++ ·))) :=
    braceFree_intercalate (by decide) holders
  intro d w atDepth
  unfold writeHistoryQueries
  dsimp only
  split
  · exact atDepth.blankLine.line (BraceFree.neutral (by decide))
  · -- the plain count and the count by one predicate, then, for several arguments, the count by
    -- one predicate per argument, and last the record of a call
    refine AtDepth.line (AtDepth.blankLine (AtDepth.ite_of
      ((atDepth.blankLine.line (BraceFree.neutral (by decide))).blankLine.line ?_)
      (fun counted => (keeps_line ?_).indented d _ (counted.blankLine.line (BraceFree.neutral ?_))) id))
      (BraceFree.neutral ?_)
    · intro e
      simp [-String.toList_intercalate, String.toList_append, braceStep, params.depthAfter,
        fromHolder.depthAfter]
    · -- the predicates of the arguments, joined inside one lambda
      refine neutral_enclosing (fun e => by simp [braceStep])
        (braceFree_intercalate (by decide) fun x member => ?_) (fun e => by simp [braceStep])
      obtain ⟨⟨t, f⟩, paired, rfl⟩ := List.mem_map.mp member
      simp +decide [s.braceFree_typeParams t (List.of_mem_zip paired).1,
        holders f (List.of_mem_zip paired).2]
    · simp +decide [-String.toList_intercalate]
      refine braceFree_intercalate (by decide) fun x member => ?_
      obtain ⟨t, inParams, rfl⟩ := List.mem_map.mp member
      simp +decide [s.braceFree_typeParams t inParams]
    · simp +decide [-String.toList_intercalate, params]
      refine braceFree_intercalate (by decide) fun x member => ?_
      obtain ⟨⟨a, t⟩, paired, rfl⟩ := List.mem_map.mp member
      simp +decide [s.braceFree_args a (List.of_mem_zip paired).1,
        s.braceFree_typeParams t (List.of_mem_zip paired).2]

/-- With a runtime package that holds no brace, the class of a stub shape reads from depth zero
back to zero and ends with the line closing the class. -/
theorem renderPrimitive_balanced (kind : StubKind) (runtimePackage : String) (width : Nat)
    (free : BraceFree runtimePackage) :
    depthAfter 0 (renderPrimitive kind runtimePackage width).toList = some 0 ∧
      ∃ before, (renderPrimitive kind runtimePackage width).toList = before ++ ['}', '\n'] := by
  have answer : ∀ body, BraceFree body →
      Neutral ("answer = " ++ (StubShape.mk kind).ignoringLambda body) :=
    fun body bodyFree => (BraceFree.neutral (by decide)).append
      ((StubShape.mk kind).ignoringLambda_neutral bodyFree)
  have notConfigured : BraceFree ("throw " ++ notConfiguredException ++ "()") := by decide
  have functionType := (StubShape.mk kind).braceFree_functionType
  have params : BraceFree (", ".intercalate (StubShape.mk kind).typeParams) :=
    braceFree_intercalate (by decide) (StubShape.mk kind).braceFree_typeParams
  unfold renderPrimitive
  dsimp only
  refine ⟨AtDepth.finish (Keeps.block ?_ ?_ 0 _ ?_), block_finish _ _ _⟩
  · exact BraceFree.neutral (by
      simp +decide [kind.braceFree_className, StubShape.braceFree_classTypeParams])
  · -- the class body, from its last member back: the queries, the answer configuration (values,
    -- or doing nothing), delegation, failure, the call, the reset and the state
    intro d w atDepth
    refine writeHistoryQueries_keeps _ d _ (AtDepth.ite_of
      (AtDepth.blankLine_block ?_ (keeps_line (BraceFree.neutral (by decide)))
        (AtDepth.blankLine_block (BraceFree.neutral (by decide)) (keeps_line (answer _ (by decide)))
          (AtDepth.blankLine_block ?_ ((keeps_line ?_).comp (keeps_line ?_))
            (AtDepth.blankLine_block (BraceFree.neutral (by decide))
              ((keeps_line ?_).comp (keeps_line (answer _ notConfigured)))
              (AtDepth.ite_of (atDepth.line ?_) (fun declared => declared.line (BraceFree.neutral
                (by decide))) fun declared => declared.line ?_)))))
      (fun delegated => writeValueConfiguration_keeps _ d _ delegated)
      fun delegated => delegated.blankLine_block (BraceFree.neutral (by decide))
        (keeps_line (answer _ (by decide))))
    · exact BraceFree.neutral (by simp +decide [-String.toList_intercalate, functionType])
    · split <;> exact BraceFree.neutral (by
        simp +decide [-String.toList_intercalate, (StubShape.mk kind).braceFree_typedArgs])
    · split <;> exact BraceFree.neutral (by
        simp +decide [-String.toList_intercalate, (StubShape.mk kind).braceFree_argList])
    · split <;> exact BraceFree.neutral (by
        simp +decide [-String.toList_intercalate, (StubShape.mk kind).braceFree_argList])
    · split <;> exact BraceFree.neutral (by decide)
    · exact (BraceFree.neutral (by simp +decide [-String.toList_intercalate, functionType])).append
        ((StubShape.mk kind).ignoringLambda_neutral notConfigured)
    · exact BraceFree.neutral (by simp +decide [-String.toList_intercalate, params])
  · -- the package line and the suppressions
    refine AtDepth.line ?_ (BraceFree.neutral (by decide))
    split
    · exact AtDepth.new width
    · exact ((AtDepth.new width).line (BraceFree.neutral (by simp +decide [free]))).blankLine

end KotlinMocks

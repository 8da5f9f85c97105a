import KotlinMocks.Emit.TypeText

/-!
# Erased type text

Where a function's own generic parameters would escape it, the writer of type text erases them,
and it does so with two walks: one for the reference itself, which falls back to a star for each
argument on its own, and one for the references nested in arguments, which gives up on the whole
argument as soon as anything inside it is erased. This module says what the two come to without
reference to how the writer is organised.

A reference written in full (`TypeReference.plain`) is its declaration's display name, its
generic arguments between angle brackets and a `?` when nullable. A reference mentions an erased
parameter (`TypeReference.Mentions`) when its own declaration is a generic parameter of an erased
name, or when the type of one of its generic arguments mentions one; a star projection mentions
nothing. Erasing writes `Any?` for an erased parameter itself, whatever its nullability and
arguments, and otherwise writes the reference in full but for each top-level argument whose type
mentions an erased parameter, which becomes a bare `*` (`render_erases_whole_arguments`). A
reference that mentions no erased parameter is written in full, as it is with nothing erased.
-/

namespace KotlinMocks

/-- The variance keyword written before a generic argument, with its space: `out `, `in `, or
nothing for an invariant argument. -/
def Variance.spelled : Variance → String
  | .invariant => ""
  | .covariant => "out "
  | .contravariant => "in "

/-- A type's text from its parts: the name, then the generic arguments between angle brackets
and separated by `, ` when there are any, then `?` when it is nullable. -/
def typeSpelling (name : String) (arguments : List String) (nullable : Bool) : String :=
  name ++ (if arguments = [] then "" else "<" ++ ", ".intercalate arguments ++ ">") ++
    (if nullable then "?" else "")

theorem referenceText_eq_typeSpelling (d : Declaration) (nullable : Bool) (arguments : List String) :
    referenceText d nullable arguments = typeSpelling d.displayName arguments nullable := by
  simp [referenceText, angled, typeSpelling]

namespace TypeReference

/-! ## References written in full -/

mutual
/-- A reference written in full, with nothing erased. -/
def plain : TypeReference → String
  | .mk d n args => typeSpelling d.displayName (plainArguments args) n

/-- Generic arguments written in full: a star as `*`, a type after its variance keyword. -/
def plainArguments : List TypeArgument → List String
  | [] => []
  | .star :: rest => "*" :: plainArguments rest
  | .type v t :: rest => (v.spelled ++ plain t) :: plainArguments rest
end

/-- One generic argument written in full. -/
def plainArgument : TypeArgument → String
  | .star => "*"
  | .type v t => v.spelled ++ t.plain

theorem plainArguments_eq_map : ∀ args : List TypeArgument,
    plainArguments args = args.map plainArgument
  | [] => rfl
  | .star :: rest => by rw [plainArguments, plainArguments_eq_map rest]; rfl
  | .type _ _ :: rest => by rw [plainArguments, plainArguments_eq_map rest]; rfl

/-! ## References that mention an erased parameter -/

/-- A reference mentions an erased parameter when its own declaration is a generic parameter
whose name is erased, or when the type of one of its generic arguments mentions one. A star
projection mentions nothing, and a class that happens to bear an erased name is no parameter. -/
inductive Mentions (e : Erasure) : TypeReference → Prop
  | erased {d : Declaration} {n : Bool} {args : List TypeArgument} :
      d.kind = .typeParameter → d.simpleName ∈ e.names → Mentions e (.mk d n args)
  | inside {d : Declaration} {n : Bool} {args : List TypeArgument} {v : Variance}
      {t : TypeReference} :
      .type v t ∈ args → Mentions e t → Mentions e (.mk d n args)

mutual
/-- Whether a reference mentions an erased parameter, decided by walking it. -/
def mentions (e : Erasure) : TypeReference → Bool
  | .mk d _ args =>
    (d.kind == .typeParameter && e.names.contains d.simpleName) || argumentsMention e args

/-- Whether the type of one of the generic arguments mentions an erased parameter. -/
def argumentsMention (e : Erasure) : List TypeArgument → Bool
  | [] => false
  | .star :: rest => argumentsMention e rest
  | .type _ t :: rest => mentions e t || argumentsMention e rest
end

variable {e : Erasure}

mutual
theorem mentions_sound : ∀ t : TypeReference, t.mentions e = true → Mentions e t
  | .mk d n args, walked => by
    rw [mentions, Bool.or_eq_true] at walked
    rcases walked with own | inArguments
    · simp only [Bool.and_eq_true, beq_iff_eq, List.contains_iff_mem] at own
      exact .erased own.1 own.2
    · obtain ⟨v, t, member, inner⟩ := argumentsMention_sound args inArguments
      exact .inside member inner

theorem argumentsMention_sound : ∀ args : List TypeArgument, argumentsMention e args = true →
    ∃ v t, Projection.type v t ∈ args ∧ Mentions e t
  | [], walked => by cases walked
  | .star :: rest, walked => by
    obtain ⟨v, t, member, inner⟩ := argumentsMention_sound rest walked
    exact ⟨v, t, List.mem_cons_of_mem _ member, inner⟩
  | .type v t :: rest, walked => by
    rw [argumentsMention, Bool.or_eq_true] at walked
    rcases walked with here | later
    · exact ⟨v, t, List.mem_cons_self, mentions_sound t here⟩
    · obtain ⟨v', t', member, inner⟩ := argumentsMention_sound rest later
      exact ⟨v', t', List.mem_cons_of_mem _ member, inner⟩
end

theorem argumentsMention_of_mem {v : Variance} {t : TypeReference} :
    ∀ {args : List TypeArgument}, Projection.type v t ∈ args → t.mentions e = true →
      argumentsMention e args = true
  | [], member, _ => by cases member
  | a :: rest, member, inner => by
    rcases List.mem_cons.mp member with rfl | later
    · simp [argumentsMention, inner]
    · have restMentions := argumentsMention_of_mem later inner
      cases a <;> simp [argumentsMention, restMentions]

theorem mentions_complete {t : TypeReference} (mentioned : Mentions e t) : t.mentions e = true := by
  induction mentioned with
  | erased kind named => simp [mentions, kind, named]
  | inside member _ inner => simp [mentions, argumentsMention_of_mem member inner]

/-- The walk decides whether a reference mentions an erased parameter. -/
theorem mentions_iff {t : TypeReference} : t.mentions e = true ↔ Mentions e t :=
  ⟨mentions_sound t, mentions_complete⟩

instance (e : Erasure) (t : TypeReference) : Decidable (Mentions e t) :=
  decidable_of_iff _ mentions_iff

/-- With nothing erased, no reference mentions an erased parameter. -/
theorem not_mentions_none (t : TypeReference) : ¬ Mentions .none t := by
  intro mentioned
  induction mentioned with
  | erased _ named => cases named
  | inside _ _ inner => exact inner

/-! ## What the writer makes of them -/

theorem erases_mk (d : Declaration) (n : Bool) (args : List TypeArgument) :
    e.erases (.mk d n args) = (d.kind == .typeParameter && e.names.contains d.simpleName) := rfl

/-- A type argument is its nested reference's text after the spelling of its variance. -/
theorem argumentText?_type (v : Variance) (t : TypeReference) :
    argumentText? e (.type v t) = (nestedText? e t).map (v.spelled ++ ·) := by
  rw [argumentText?]
  cases v <;> simp [Variance.keyword?, Variance.spelled]

/-- The text of a top-level argument under erasure: a bare `*` when its type mentions an erased
parameter, the argument in full otherwise. -/
def poisonedArgument (e : Erasure) : TypeArgument → String
  | .star => "*"
  | .type v t => if Mentions e t then "*" else v.spelled ++ t.plain

mutual
/-- A reference nested in an argument is written in full unless it mentions an erased
parameter, in which case it gives no text at all. -/
theorem nestedText?_eq : ∀ t : TypeReference,
    nestedText? e t = if t.mentions e then none else some t.plain
  | .mk d n args => by
    rw [nestedText?, argumentsText?_eq args, mentions, plain, erases_mk]
    cases (d.kind == .typeParameter && e.names.contains d.simpleName) <;>
      cases argumentsMention e args <;> simp [referenceText_eq_typeSpelling]

theorem argumentsText?_eq : ∀ args : List TypeArgument,
    argumentsText? e args = if argumentsMention e args then none else some (plainArguments args)
  | [] => rfl
  | .star :: rest => by
    rw [argumentsText?, argumentText?, argumentsText?_eq rest, argumentsMention, plainArguments]
    cases argumentsMention e rest <;> rfl
  | .type v t :: rest => by
    rw [argumentsText?, argumentText?_type, nestedText?_eq t, argumentsText?_eq rest,
      argumentsMention, plainArguments]
    cases t.mentions e <;> cases argumentsMention e rest <;> rfl
end

/-- A top-level argument is written as `poisonedArgument` says. -/
theorem argumentText?_getD (a : TypeArgument) :
    (argumentText? e a).getD "*" = poisonedArgument e a := by
  cases a with
  | star => rfl
  | type v t =>
      rw [argumentText?_type, nestedText?_eq t, poisonedArgument]
      by_cases mentioned : Mentions e t
      · simp [mentions_iff.mpr mentioned, mentioned]
      · have notWalked : t.mentions e = false :=
          Bool.eq_false_iff.mpr fun walked => mentioned (mentions_iff.mp walked)
        simp [notWalked, mentioned]

/-- An argument whose type mentions no erased parameter is written in full. -/
theorem poisonedArgument_of_not_mentions {a : TypeArgument}
    (clean : ∀ v t, a = .type v t → ¬ Mentions e t) : poisonedArgument e a = plainArgument a := by
  cases a with
  | star => rfl
  | type v t => simp [poisonedArgument, plainArgument, clean v t rfl]

/-- Erasure as the writer does it: an erased parameter is `Any?`, whatever its nullability and
arguments; any other reference is written in full but for each top-level argument whose type
mentions an erased parameter, which becomes a bare `*` with no variance keyword. With nothing
erased a reference is written in full, and so it is under any erasure when it mentions no erased
parameter. -/
theorem render_erases_whole_arguments (e : Erasure) (t : TypeReference) :
    t.render e =
        (if t.declaration.kind = .typeParameter ∧ t.simpleName ∈ e.names then "Any?"
          else typeSpelling t.declaration.displayName (t.arguments.map (poisonedArgument e))
            t.nullable) ∧
      t.render .none = t.plain ∧
      (¬ Mentions e t → t.render e = t.plain) := by
  obtain ⟨d, n, args⟩ := t
  -- the reference itself is written from its arguments, each as `poisonedArgument` says
  have written : ∀ e' : Erasure, (TypeReference.mk d n args).render e' =
      if d.kind = .typeParameter ∧ d.simpleName ∈ e'.names then "Any?"
      else typeSpelling d.displayName (args.map (poisonedArgument e')) n := by
    intro e'
    have erasesIff' : e'.erases (.mk d n args) = true ↔
        d.kind = .typeParameter ∧ d.simpleName ∈ e'.names := by
      simp [Erasure.erases, declaration, simpleName]
    simp only [render, declaration, nullable, arguments, argumentText?_getD,
      referenceText_eq_typeSpelling]
    by_cases own : d.kind = .typeParameter ∧ d.simpleName ∈ e'.names
    · simp [erasesIff'.mpr own, own]
    · have notErased : e'.erases (.mk d n args) = false :=
        Bool.eq_false_iff.mpr fun erased => own (erasesIff'.mp erased)
      simp [notErased, own]
  -- a reference that mentions nothing erased is written in full
  have inFull : ∀ e' : Erasure, ¬ Mentions e' (.mk d n args) →
      (TypeReference.mk d n args).render e' = (TypeReference.mk d n args).plain := by
    intro e' clean
    have notOwn : ¬ (d.kind = .typeParameter ∧ d.simpleName ∈ e'.names) :=
      fun own => clean (.erased own.1 own.2)
    have arguments : args.map (poisonedArgument e') = plainArguments args := by
      rw [plainArguments_eq_map]
      refine List.map_congr_left fun a member => poisonedArgument_of_not_mentions ?_
      rintro v t rfl inner
      exact clean (.inside member inner)
    rw [written, if_neg notOwn, arguments, plain]
  refine ⟨written e,
    inFull .none (not_mentions_none _), inFull e⟩

/-- `kotlin.collections.List<out T>`, with `T` a generic parameter. -/
def listOfParameter : TypeReference :=
  (ofClass "kotlin.collections.List").withArguments [.type .covariant (parameter "T")]

/-- `kotlin.collections.Map<kotlin.String, kotlin.collections.List<out T>>`. -/
def mapToListOfParameter : TypeReference :=
  (ofClass "kotlin.collections.Map").withArguments
    [.type .invariant (ofClass "kotlin.String"), .type .invariant listOfParameter]

theorem erased_parameter_poisons_its_argument :
    mapToListOfParameter.render ⟨["T"]⟩ = "kotlin.collections.Map<kotlin.String, *>" ∧
      ¬ Mentions ⟨["U"]⟩ mapToListOfParameter ∧
      mapToListOfParameter.render ⟨["U"]⟩ =
        "kotlin.collections.Map<kotlin.String, kotlin.collections.List<out T>>" := by
  have unmentioned : ¬ Mentions ⟨["U"]⟩ mapToListOfParameter := by decide
  refine ⟨?_, unmentioned, ?_⟩
  · rw [(render_erases_whole_arguments ⟨["T"]⟩ mapToListOfParameter).1]
    decide
  · rw [(render_erases_whole_arguments ⟨["U"]⟩ mapToListOfParameter).2.2 unmentioned]
    decide

end TypeReference

end KotlinMocks

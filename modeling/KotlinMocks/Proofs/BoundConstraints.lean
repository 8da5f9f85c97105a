import KotlinMocks.Emit.TypeText

/-!
# Bound constraints

A bound of a generic parameter is written as the constraint `T : Bound`. The generics of an
overriding function carry a parameter's only bound inline (`<T : Bound>`) and leave a parameter
with several bounds bare, to be constrained in the function's `where` clause; the `where` clause
of a class constrains every bound. The two renderers of a function pick their parameters by two
different tests, one bound exactly against more than one, and the tests split every parameter's
bounds between them: each bound is constrained once, inline or in the clause and never in both,
in declaration order (`bounds_split`, `each_bound_constrained_once`).
-/

namespace KotlinMocks

namespace TypeParameter

/-- The constraint a bound puts on a parameter, `T : Bound`, the bound written in full. -/
def constraint (p : TypeParameter) (b : TypeReference) : String := p.name ++ " : " ++ b.render .none

/-- The bound a function's generics carry inline: the only one, for a parameter with exactly
one. -/
def inlineBound (p : TypeParameter) : Option TypeReference :=
  match p.bounds with
  | [b] => some b
  | _ => none

/-- The bounds a function's `where` clause constrains: all of them, for a parameter with more
than one. -/
def clauseBounds (p : TypeParameter) : List TypeReference :=
  if 1 < p.bounds.length then p.bounds else []

/-- How a parameter stands among a function's generics: with its inline bound, or bare. -/
def genericItem (p : TypeParameter) : String :=
  match p.inlineBound with
  | some b => p.constraint b
  | none => p.name

/-- The inline bound and the clause's bounds are the parameter's bounds, in order, and one of
the two is empty. -/
theorem bounds_split (p : TypeParameter) :
    p.inlineBound.toList ++ p.clauseBounds = p.bounds ∧
      (p.inlineBound = none ∨ p.clauseBounds = []) := by
  unfold inlineBound clauseBounds
  -- no bound, one bound, or several: the code's two tests
  rcases p.bounds with _ | ⟨b, _ | ⟨c, rest⟩⟩ <;> simp

end TypeParameter

/-- A `where` clause of entries, none when there are none. -/
def clauseOf (entries : List String) : Option String :=
  match entries with
  | [] => none
  | entries => some (", ".intercalate entries)

theorem clauseOf_eq_none_iff (entries : List String) : clauseOf entries = none ↔ entries = [] := by
  cases entries <;> simp [clauseOf]

/-- The `where` clause of generic parameters constrains each of their bounds, parameter by
parameter. -/
theorem whereClause_eq (ps : List TypeParameter) :
    whereClause ps = clauseOf (ps.flatMap fun p => p.bounds.map p.constraint) := by
  unfold whereClause
  rfl

/-- A function's generics carry each parameter's inline bound. -/
theorem functionParameters_eq (ps : List TypeParameter) :
    functionParameters ps = angled (ps.map TypeParameter.genericItem) := by
  unfold functionParameters
  congr 1
  refine List.map_congr_left fun p _ => ?_
  unfold TypeParameter.genericItem TypeParameter.inlineBound
  rcases p.bounds with _ | ⟨b, _ | ⟨c, rest⟩⟩ <;> simp [TypeParameter.constraint]

/-- Keeping the parameters with several bounds keeps exactly their clause bounds. -/
theorem flatMap_filter_clauseBounds (ps : List TypeParameter) :
    (ps.filter fun p => p.bounds.length > 1).flatMap (fun p => p.bounds.map p.constraint) =
      ps.flatMap fun p => p.clauseBounds.map p.constraint := by
  induction ps with
  | nil => rfl
  | cons p rest restKept =>
      by_cases several : 1 < p.bounds.length <;>
        simp [several, restKept, TypeParameter.clauseBounds]

/-- A function's `where` clause constrains the clause bounds of its parameters. -/
theorem functionWhereClause_eq (ps : List TypeParameter) :
    functionWhereClause ps = clauseOf (ps.flatMap fun p => p.clauseBounds.map p.constraint) := by
  rw [functionWhereClause, whereClause_eq, flatMap_filter_clauseBounds]

/-- Inline or in the clause, a function constrains each bound of a parameter once, in order. -/
theorem constraints_written_once (ps : List TypeParameter) :
    (ps.flatMap fun p => (p.inlineBound.toList ++ p.clauseBounds).map p.constraint) =
      ps.flatMap fun p => p.bounds.map p.constraint := by
  simp only [fun p : TypeParameter => (p.bounds_split).1]

/-- Each bound is constrained exactly once. A function's generics carry the only bound of a
parameter that has one and leave the others bare, in declaration order; its `where` clause
constrains, in declaration order, every bound of each parameter that has more than one; for
every parameter these are its bounds, in order, with one of the two parts empty, so a bound is
never constrained twice and an unbounded parameter stands bare and outside the clause. The
`where` clause of a class constrains every bound, in order, and is absent exactly when no
parameter has a bound. -/
theorem each_bound_constrained_once (ps : List TypeParameter) :
    functionParameters ps = angled (ps.map TypeParameter.genericItem) ∧
    functionWhereClause ps = clauseOf (ps.flatMap fun p => p.clauseBounds.map p.constraint) ∧
    (∀ p : TypeParameter, p.inlineBound.toList ++ p.clauseBounds = p.bounds ∧
      (p.inlineBound = none ∨ p.clauseBounds = [])) ∧
    (ps.flatMap fun p => (p.inlineBound.toList ++ p.clauseBounds).map p.constraint) =
      ps.flatMap (fun p => p.bounds.map p.constraint) ∧
    whereClause ps = clauseOf (ps.flatMap fun p => p.bounds.map p.constraint) ∧
    (whereClause ps = none ↔ ∀ p ∈ ps, p.bounds = []) := by
  refine ⟨functionParameters_eq ps, functionWhereClause_eq ps, TypeParameter.bounds_split,
    constraints_written_once ps, whereClause_eq ps, ?_⟩
  rw [whereClause_eq, clauseOf_eq_none_iff, List.flatMap_eq_nil_iff]
  simp

example :
    let ps : List TypeParameter := [⟨"T", .invariant, [.ofClass "p.A"]⟩, ⟨"U", .invariant, []⟩,
      ⟨"V", .invariant, [.ofClass "p.B", .ofClass "p.C"]⟩]
    functionParameters ps = "<T : p.A, U, V>" ∧ functionWhereClause ps = some "V : p.B, V : p.C" := by
  decide

end KotlinMocks

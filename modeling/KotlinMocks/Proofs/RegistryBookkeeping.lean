import Mathlib.Data.Finset.Card
import KotlinMocks.Proofs.Registry

/-!
# What the registry reports

A session's registry starts empty and grows by insertions only. Shapes are ordered by arity
and, of two shapes of one arity, the void one first; the shape key numbers them in that order,
so the missing shapes of a request, sorted by key, come once each and in ascending order.

Main statement: over any history of insertions into a fresh registry, the missing shapes of a
request are exactly the requested shapes not recorded, in strictly ascending order; an
insertion reports whether its shape was new; the size counts the distinct shapes inserted;
and recording the missing shapes of a request leaves none of them missing.
-/

namespace KotlinMocks

namespace StubKind

/-- The order of shapes: by arity, then the void shape before the one that answers a value. -/
def Precedes (first second : StubKind) : Prop :=
  first.arity < second.arity ∨
    first.arity = second.arity ∧ first.returnsValue = false ∧ second.returnsValue = true

instance (first second : StubKind) : Decidable (first.Precedes second) :=
  inferInstanceAs (Decidable (_ ∨ _))

/-- The key numbers shapes in their order. -/
theorem key_lt_key_iff {first second : StubKind} :
    first.key < second.key ↔ first.Precedes second := by
  obtain ⟨firstArity, firstAnswers⟩ := first
  obtain ⟨secondArity, secondAnswers⟩ := second
  cases firstAnswers <;> cases secondAnswers <;> simp [key, Precedes] <;> omega

end StubKind

namespace Registry

/-- An insertion reports exactly whether the shape was absent. -/
@[simp] theorem insert_snd (r : Registry) (k : StubKind) : (r.insert k).2 = !r.contains k := by
  unfold insert
  split <;> simp_all

/-- The missing shapes come in strictly ascending shape order. -/
theorem missing_precedes (r : Registry) (kinds : List StubKind) :
    (r.missing kinds).Pairwise StubKind.Precedes :=
  (shapeOrdered_missing r kinds).imp StubKind.key_lt_key_iff.mp

/-- The size of an ordered registry is the number of shapes it records. -/
theorem Ordered.size_eq_card {r : Registry} (ordered : r.Ordered) :
    r.size = r.emitted.toFinset.card :=
  (List.toFinset_card_of_nodup (ShapeOrdered.nodup ordered)).symm

/-- A fresh registry that recorded a history counts the distinct shapes of the history. -/
theorem size_insertAll_empty (history : List StubKind) :
    (({} : Registry).insertAll history).size = history.toFinset.card := by
  have recorded : (({} : Registry).insertAll history).emitted.toFinset = history.toFinset := by
    ext k
    simp
  rw [(ordered_empty.insertAll history).size_eq_card, recorded]

theorem isEmpty_iff_size (r : Registry) : r.isEmpty = true ↔ r.size = 0 := by
  simp [isEmpty, size]

/-- Recording the missing shapes of a request leaves none of them missing. -/
theorem missing_insertAll_missing (r : Registry) (kinds : List StubKind) :
    (r.insertAll (r.missing kinds)).missing kinds = [] := by
  rw [List.eq_nil_iff_forall_not_mem]
  intro k missingAfter
  rw [mem_missing, mem_insertAll, mem_missing] at missingAfter
  obtain ⟨requested, notRecorded⟩ := missingAfter
  have notBefore : k ∉ r.emitted := fun recorded => notRecorded (Or.inl recorded)
  exact notRecorded (Or.inr ⟨requested, notBefore⟩)

/-- The bookkeeping of a registry reached from a fresh one by any history of insertions: the
missing shapes of any request are, in strictly ascending shape order, exactly the requested
shapes not recorded; an insertion reports a new shape exactly when the shape was not recorded;
the size is the number of distinct shapes inserted and the registry is empty exactly when its
size is zero; and once the missing shapes are recorded, none is missing. -/
theorem bookkeeping_after_insertions (history kinds : List StubKind) :
    let r := ({} : Registry).insertAll history
    (r.missing kinds).Pairwise StubKind.Precedes ∧
      (∀ k, k ∈ r.missing kinds ↔ k ∈ kinds ∧ r.contains k = false) ∧
      (∀ k, (r.insert k).2 = true ↔ r.contains k = false) ∧
      r.size = history.toFinset.card ∧
      (r.isEmpty = true ↔ r.size = 0) ∧
      (r.insertAll (r.missing kinds)).missing kinds = [] := by
  intro r
  refine ⟨missing_precedes r kinds, fun k => ?_, fun k => ?_, size_insertAll_empty history,
    isEmpty_iff_size r, missing_insertAll_missing r kinds⟩
  · simp [mem_missing]
  · simp

example :
    let r := ({} : Registry).insertAll [StubKind.getter, StubKind.getter]
    r.missing [StubKind.setter, StubKind.getter, StubKind.setter, ⟨2, false⟩] =
      [StubKind.setter, ⟨2, false⟩] ∧ r.size = 1 := by
  decide

end Registry

end KotlinMocks

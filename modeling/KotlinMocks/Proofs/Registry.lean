import KotlinMocks.Emit.Primitive

/-!
# Shape order and the registry

Stub shapes are ordered by their key, twice the arity plus one for a shape that answers a
value. The key tells shapes apart, so the order is strict, and a list kept in shape order
holds each shape once. Inserting into such a list keeps it in shape order and adds exactly
the inserted shape; sorting keeps every shape of the input and no other. A registry reached by
insertions stays in shape order, so it records each shape once.
-/

namespace KotlinMocks

namespace StubKind

/-- Distinct shapes have distinct keys. -/
theorem key_injective : Function.Injective StubKind.key := by
  intro first second sameKey
  obtain ⟨firstArity, firstAnswers⟩ := first
  obtain ⟨secondArity, secondAnswers⟩ := second
  cases firstAnswers <;> cases secondAnswers <;> simp [key] at sameKey ⊢ <;> omega

end StubKind

/-- A list of shapes in strictly increasing shape order. -/
def ShapeOrdered (kinds : List StubKind) : Prop :=
  kinds.Pairwise fun first second => first.key < second.key

/-- A list in shape order holds each shape once. -/
theorem ShapeOrdered.nodup {kinds : List StubKind} (ordered : ShapeOrdered kinds) :
    kinds.Nodup :=
  ordered.imp fun keyLess equal => by subst equal; omega

@[simp] theorem mem_insertKind {k x : StubKind} {kinds : List StubKind} :
    x ∈ insertKind k kinds ↔ x = k ∨ x ∈ kinds := by
  induction kinds with
  | nil => simp [insertKind]
  | cons head rest restMembers =>
      simp only [insertKind]
      split
      · simp
      · split
        · rename_i keyEqual
          have sameKind : k = head := StubKind.key_injective keyEqual
          subst sameKind
          simp
        · simp only [List.mem_cons, restMembers, or_left_comm]

/-- Insertion keeps a list in shape order. -/
theorem ShapeOrdered.insertKind {kinds : List StubKind} (ordered : ShapeOrdered kinds)
    (k : StubKind) : ShapeOrdered (insertKind k kinds) := by
  induction kinds with
  | nil => simp [KotlinMocks.insertKind, ShapeOrdered]
  | cons head rest restOrdered =>
      have headBelow := (List.pairwise_cons.mp ordered).1
      have restSorted : ShapeOrdered rest := (List.pairwise_cons.mp ordered).2
      simp only [KotlinMocks.insertKind]
      split
      · rename_i keyLess
        refine List.pairwise_cons.mpr ⟨?_, ordered⟩
        intro other otherMember
        rcases List.mem_cons.mp otherMember with rfl | inRest
        · exact keyLess
        · exact Nat.lt_trans keyLess (headBelow other inRest)
      · split
        · exact ordered
        · rename_i keyNotLess keyNotEqual
          refine List.pairwise_cons.mpr ⟨?_, restOrdered restSorted⟩
          intro other otherMember
          rcases mem_insertKind.mp otherMember with rfl | inRest
          · omega
          · exact headBelow other inRest

theorem mem_foldl_insertKind {x : StubKind} (kinds : List StubKind) :
    ∀ acc : List StubKind,
      x ∈ kinds.foldl (fun acc k => insertKind k acc) acc ↔ x ∈ acc ∨ x ∈ kinds := by
  induction kinds with
  | nil => simp
  | cons head rest restMembers =>
      intro acc
      simp only [List.foldl_cons, restMembers, mem_insertKind, List.mem_cons]
      constructor
      · rintro ((rfl | inAcc) | inRest) <;> simp_all
      · rintro (inAcc | rfl | inRest) <;> simp_all

@[simp] theorem mem_sortKinds {x : StubKind} {kinds : List StubKind} :
    x ∈ sortKinds kinds ↔ x ∈ kinds := by
  simp [sortKinds, mem_foldl_insertKind]

/-- Sorting puts shapes in shape order. -/
theorem shapeOrdered_sortKinds (kinds : List StubKind) : ShapeOrdered (sortKinds kinds) := by
  suffices keep : ∀ acc : List StubKind, ShapeOrdered acc →
      ShapeOrdered (kinds.foldl (fun acc k => insertKind k acc) acc) from
    keep [] List.Pairwise.nil
  induction kinds with
  | nil => exact fun acc ordered => ordered
  | cons head rest restKeeps =>
      intro acc ordered
      exact restKeeps _ (ordered.insertKind head)

namespace Registry

/-- Records every shape of a list in turn. -/
def insertAll (r : Registry) (kinds : List StubKind) : Registry :=
  kinds.foldl (fun r k => (r.insert k).1) r

/-- A registry whose shapes are in shape order, as every registry reached by insertions is. -/
def Ordered (r : Registry) : Prop := ShapeOrdered r.emitted

@[simp] theorem contains_eq {r : Registry} {k : StubKind} : r.contains k = decide (k ∈ r.emitted) := by
  simp [contains]

@[simp] theorem mem_insert {r : Registry} {k x : StubKind} :
    x ∈ (r.insert k).1.emitted ↔ x = k ∨ x ∈ r.emitted := by
  unfold insert
  split
  · rename_i present
    have present : k ∈ r.emitted := by simpa using present
    constructor
    · exact Or.inr
    · rintro (rfl | member) <;> assumption
  · simp

@[simp] theorem insertAll_nil (r : Registry) : r.insertAll [] = r := rfl

@[simp] theorem insertAll_cons (r : Registry) (k : StubKind) (kinds : List StubKind) :
    r.insertAll (k :: kinds) = (r.insert k).1.insertAll kinds := rfl

theorem insertAll_append (r : Registry) (first second : List StubKind) :
    r.insertAll (first ++ second) = (r.insertAll first).insertAll second := by
  simp [insertAll, List.foldl_append]

@[simp] theorem mem_insertAll {x : StubKind} (kinds : List StubKind) :
    ∀ r : Registry, x ∈ (r.insertAll kinds).emitted ↔ x ∈ r.emitted ∨ x ∈ kinds := by
  induction kinds with
  | nil => simp
  | cons head rest restMembers =>
      intro r
      simp only [insertAll_cons, restMembers, mem_insert, List.mem_cons]
      constructor
      · rintro ((rfl | recorded) | inRest) <;> simp_all
      · rintro (recorded | rfl | inRest) <;> simp_all

@[simp] theorem mem_missing {r : Registry} {kinds : List StubKind} {k : StubKind} :
    k ∈ r.missing kinds ↔ k ∈ kinds ∧ k ∉ r.emitted := by
  simp [missing]

/-- The missing shapes are in shape order. -/
theorem shapeOrdered_missing (r : Registry) (kinds : List StubKind) :
    ShapeOrdered (r.missing kinds) :=
  (shapeOrdered_sortKinds kinds).filter _

theorem nodup_missing (r : Registry) (kinds : List StubKind) : (r.missing kinds).Nodup :=
  (shapeOrdered_missing r kinds).nodup

theorem Ordered.insert {r : Registry} (ordered : r.Ordered) (k : StubKind) :
    (r.insert k).1.Ordered := by
  unfold Registry.insert
  split
  · exact ordered
  · exact ShapeOrdered.insertKind ordered k

theorem Ordered.insertAll {r : Registry} (ordered : r.Ordered) (kinds : List StubKind) :
    (r.insertAll kinds).Ordered := by
  induction kinds generalizing r with
  | nil => exact ordered
  | cons head rest restOrdered => exact restOrdered (ordered.insert head)

end Registry

/-- The empty registry is ordered. -/
theorem Registry.ordered_empty : ({} : Registry).Ordered := List.Pairwise.nil

end KotlinMocks

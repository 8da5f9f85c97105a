import KotlinMocks.Emit.Session

/-!
# Names of generated units

A stub class is named `Mock<arity><0|1>`: the decimal digits of its arity, then one digit for
whether it answers a value. The name tells shapes apart, and no support unit bears such a name,
since a support name goes on after `Mock`, if it starts so at all, with a letter. Hence a
session's stub-class units are one per shape, and none of them is a support unit or a mock,
which depends on a source file.
-/

namespace KotlinMocks

namespace StubKind

theorem toList_className (k : StubKind) :
    k.className.toList =
      ['M', 'o', 'c', 'k'] ++ Nat.toDigits 10 k.arity ++ [if k.returnsValue then '1' else '0'] := by
  cases answers : k.returnsValue <;>
    simp [className, answers, Decimal.digitsOf, String.toList_append, String.toList_ofList]

/-- The class name of a shape gives the shape back. -/
theorem className_injective : Function.Injective StubKind.className := by
  intro first second sameName
  have sameChars := congrArg String.toList sameName
  simp only [toList_className, List.append_assoc, List.append_right_inj] at sameChars
  obtain ⟨sameDigits, sameLast⟩ := List.append_inj' sameChars rfl
  have sameArity : first.arity = second.arity := by
    rw [← Nat.ofDigitChars_ten_toDigits (n := first.arity), sameDigits, Nat.ofDigitChars_ten_toDigits]
  have sameAnswer : first.returnsValue = second.returnsValue := by
    cases firstAnswers : first.returnsValue <;> cases secondAnswers : second.returnsValue <;>
      simp_all
  cases first
  cases second
  simp_all

/-- A name whose fifth character is no digit is no class name. -/
theorem className_ne_of_not_digit (k : StubKind) {name : String} {c : Char}
    (fifth : (name.toList.drop 4).head? = some c) (notDigit : c.isDigit = false) :
    k.className ≠ name := by
  intro named
  rw [← named, toList_className] at fifth
  obtain ⟨first, others, digits⟩ :=
    List.exists_cons_of_ne_nil (Nat.toDigits_ne_nil (b := 10) (n := k.arity))
  have firstDigit : first.isDigit := Nat.isDigit_of_mem_toDigits (by decide) (by decide)
    (digits ▸ List.mem_cons_self ..)
  simp only [digits, List.cons_append, List.drop_succ_cons, List.drop_zero,
    List.head?_cons, Option.some.injEq, List.nil_append] at fifth
  rw [fifth, notDigit] at firstDigit
  exact Bool.false_ne_true firstDigit

end StubKind

/-- The support units of a runtime package bear none of the stub-class names. -/
theorem className_not_mem_supportNames (k : StubKind) (runtimePackage : String) :
    ∀ u ∈ supportUnits runtimePackage, u.name ≠ k.className := by
  intro u member
  simp only [supportUnits, supportFiles, List.map_cons, List.map_nil, List.mem_cons,
    List.not_mem_nil, or_false] at member
  -- the names are read off without unfolding the texts, which are long
  rcases member with rfl | rfl | rfl
  · have name : (predicatesFile.toUnit runtimePackage).name = "Predicates" := rfl
    rw [name]
    intro named
    have firstChars := congrArg (fun name => name.toList.head?) named
    simp [StubKind.toList_className] at firstChars
  · have name : (notConfiguredFile.toUnit runtimePackage).name = "MockNotConfiguredException" := rfl
    rw [name]
    exact fun named => StubKind.className_ne_of_not_digit k (c := 'N') (by simp) rfl named.symm
  · have name : (sequenceExhaustedFile.toUnit runtimePackage).name =
        "MockSequenceExhaustedException" := rfl
    rw [name]
    exact fun named => StubKind.className_ne_of_not_digit k (c := 'S') (by simp) rfl named.symm

/-- Support units, like stub classes, depend on no source file. -/
theorem dependency_of_mem_supportUnits {runtimePackage : String} {u : GeneratedUnit}
    (member : u ∈ supportUnits runtimePackage) : u.dependency = .session := by
  simp only [supportUnits, List.mem_map] at member
  obtain ⟨file, -, rfl⟩ := member
  rfl

namespace Session

@[simp] theorem primitiveUnit_dependency (s : Session) (k : StubKind) :
    (s.primitiveUnit k).dependency = .session := rfl

/-- Which unit a shape's stub class is depends on the session's options alone. -/
theorem primitiveUnit_eq_of_options {s s' : Session} (sameOptions : s'.options = s.options) :
    s'.primitiveUnit = s.primitiveUnit := by
  funext k
  simp [primitiveUnit, sameOptions]

/-- A unit that depends on a source file is no stub class. -/
theorem primitiveUnit_ne_of_dependency (s : Session) (k : StubKind) {u : GeneratedUnit}
    (fromSource : u.dependency ≠ .session) : s.primitiveUnit k ≠ u :=
  fun same => fromSource (same ▸ s.primitiveUnit_dependency k)

/-- Stub-class units of distinct shapes differ. -/
theorem primitiveUnit_injective (s : Session) : Function.Injective s.primitiveUnit := by
  intro first second sameUnit
  exact StubKind.className_injective (congrArg GeneratedUnit.name sameUnit)

/-- No support unit is a stub-class unit. -/
theorem primitiveUnit_not_mem_supportUnits (s : Session) (k : StubKind) :
    s.primitiveUnit k ∉ supportUnits s.options.runtimePackage := fun member =>
  className_not_mem_supportNames k _ _ member rfl

end Session

end KotlinMocks

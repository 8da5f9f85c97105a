import KotlinMocks.Proofs.PrimitivesOnce
import KotlinMocks.Proofs.MockText

/-!
# Names of the units of a session

A memory sink keeps units by qualified name and refuses a second unit of a name it holds. A
session writes three kinds of unit: the support units, one stub class for each shape, and one
mock for each target. Two mechanisms keep a session from handing over again what it wrote: the
registry for stub classes and the display names of the generated targets for mocks. Neither
looks at names: a mock is named by its target's package, simple name and the mock suffix, so
two nested classes of one simple name in one package get mocks of one name
(`nested_mocks_share_a_name`), and a suffix can give a mock the name of a support unit or a
stub class.

When the mocks' names are apart (`MockNamesApart`), the session never hands the sink a stub
class or a mock under a name the sink took before (`stubs_and_mocks_never_renamed`), over any
rounds, on any sink, whatever writes fail. Support units are left out: the session remembers
them only once all three were taken, so after a sink refuses one of them the next round hands
the ones it took over again (`support_units_handed_over_again`).
-/

namespace KotlinMocks

variable {σ : Type}

/-! ## Names of stub classes, support units and mocks -/

/-- Units of one package share a qualified name only if they share a name. -/
theorem GeneratedUnit.name_eq_of_qualifiedName_eq {u v : GeneratedUnit}
    (samePackage : u.package = v.package) (sameName : u.qualifiedName = v.qualifiedName) :
    u.name = v.name := by
  unfold GeneratedUnit.qualifiedName at sameName
  rw [samePackage] at sameName
  split at sameName
  · exact sameName
  · have chars := congrArg String.toList sameName
    simp only [String.toList_append] at chars
    exact String.toList_inj.mp (List.append_cancel_left chars)

theorem package_of_mem_supportUnits {runtimePackage : String} {u : GeneratedUnit}
    (member : u ∈ supportUnits runtimePackage) : u.package = runtimePackage := by
  simp only [supportUnits, List.mem_map] at member
  obtain ⟨file, -, rfl⟩ := member
  rfl

/-- The class name a mock gets depends on the target's simple name alone. -/
theorem MockClass.className_of_make {t : TargetType} {plans : List MemberPlan}
    {options : GeneratorOptions} {m : MockClass} (made : MockClass.make t plans options = .ok m) :
    m.className = options.mockClassName t.simpleName := by
  obtain ⟨q, -, rfl⟩ := MockClass.make_eq made
  rfl

/-- The qualified name of the mock of a target: its package, then its simple name with the
mock suffix. -/
def TargetType.mockName (t : TargetType) (options : GeneratorOptions) : String :=
  if t.package.isEmpty then options.mockClassName t.simpleName
  else t.package ++ "." ++ options.mockClassName t.simpleName

namespace Session

theorem qualifiedName_pendingFor {s : Session} {t : TargetType} {pending : PendingTarget}
    (built : s.pendingFor t = .ok pending) :
    pending.subtype.qualifiedName = t.mockName s.options := by
  obtain ⟨origin, plans, m, -, -, made, subtypeIs, -⟩ := pendingFor_eq_ok built
  rw [subtypeIs, GeneratedUnit.qualifiedName, TargetType.mockName, MockClass.className_of_make made]

/-- Stub classes of distinct shapes have distinct qualified names. -/
theorem qualifiedName_primitiveUnit_injective (s : Session) :
    Function.Injective fun k => (s.primitiveUnit k).qualifiedName := by
  intro first second sameName
  have sameClass : (s.primitiveUnit first).name = (s.primitiveUnit second).name :=
    GeneratedUnit.name_eq_of_qualifiedName_eq rfl sameName
  exact StubKind.className_injective sameClass

/-- No stub class has the qualified name of a support unit. -/
theorem qualifiedName_primitiveUnit_ne_support (s : Session) (k : StubKind) {u : GeneratedUnit}
    (member : u ∈ supportUnits s.options.runtimePackage) :
    (s.primitiveUnit k).qualifiedName ≠ u.qualifiedName := fun sameName =>
  className_not_mem_supportNames k _ u member
    (GeneratedUnit.name_eq_of_qualifiedName_eq (package_of_mem_supportUnits member).symm
      sameName).symm

end Session

/-- The mocks of some targets are apart under the options: targets of distinct display names get
mocks of distinct qualified names, and no mock has the qualified name of a support unit or a
stub class. -/
structure MockNamesApart (options : GeneratorOptions) (targets : List TargetType) : Prop where
  from_each_other : ∀ t ∈ targets, ∀ t' ∈ targets, t.displayName ≠ t'.displayName →
    t.mockName options ≠ t'.mockName options
  from_support : ∀ t ∈ targets, ∀ u ∈ supportUnits options.runtimePackage,
    t.mockName options ≠ u.qualifiedName
  from_stubs : ∀ t ∈ targets, ∀ k, t.mockName options ≠ (({ options } : Session).primitiveUnit k).qualifiedName

namespace MockNamesApart

variable {targets : List TargetType} {s : Session}

/-- Under apart mock names, a stub class is named apart from the support units, from the stub
classes of other shapes and from the mocks of the targets. -/
theorem stub_apart (apart : MockNamesApart s.options targets) {k : StubKind} {v : GeneratedUnit}
    (role : v ∈ supportUnits s.options.runtimePackage ∨ (∃ k', k' ≠ k ∧ v = s.primitiveUnit k') ∨
      ∃ t ∈ targets, v.qualifiedName = t.mockName s.options) :
    v.qualifiedName ≠ (s.primitiveUnit k).qualifiedName := by
  rcases role with support | ⟨k', other, rfl⟩ | ⟨t, member, named⟩
  · exact fun same => s.qualifiedName_primitiveUnit_ne_support k support same.symm
  · exact fun same => other (s.qualifiedName_primitiveUnit_injective same)
  · rw [named]
    exact apart.from_stubs t member k

/-- Under apart mock names, the mock of a target is named apart from the support units, from
the stub classes and from the mocks of targets of other display names. -/
theorem mock_apart (apart : MockNamesApart s.options targets) {t : TargetType} (member : t ∈ targets)
    {v : GeneratedUnit}
    (role : v ∈ supportUnits s.options.runtimePackage ∨ (∃ k, v = s.primitiveUnit k) ∨
      ∃ t' ∈ targets, t'.displayName ≠ t.displayName ∧ v.qualifiedName = t'.mockName s.options) :
    v.qualifiedName ≠ t.mockName s.options := by
  rcases role with support | ⟨k, rfl⟩ | ⟨t', member', other, named⟩
  · exact fun same => apart.from_support t member v support same.symm
  · exact fun same => apart.from_stubs t member k same.symm
  · rw [named]
    exact apart.from_each_other t' member' t member other

end MockNamesApart

/-! ## The ledger of names -/

/-- What the sink took and what the session remembers agree on names: every unit the sink took
is a support unit, the stub class of a recorded shape, or named as the mock of a generated
target; and no stub class or mock was handed over under a name the sink had taken before. -/
structure NameLedger (targets : List TargetType) (s : Session) (log : List Attempt) : Prop where
  taken_from : ∀ a ∈ log, a.outcome = .ok () →
    a.unit ∈ supportUnits s.options.runtimePackage ∨
      (∃ k ∈ s.registry.emitted, a.unit = s.primitiveUnit k) ∨
      ∃ t ∈ targets, t.displayName ∈ s.generated ∧ a.unit.qualifiedName = t.mockName s.options
  fresh_names : ∀ before attempt after, log = before ++ attempt :: after →
    attempt.unit ∉ supportUnits s.options.runtimePackage →
    ∀ earlier ∈ before, earlier.outcome = .ok () →
      earlier.unit.qualifiedName ≠ attempt.unit.qualifiedName

namespace NameLedger

variable {targets : List TargetType}

theorem fresh (options : GeneratorOptions) : NameLedger targets { options } [] where
  taken_from a member := by simp at member
  fresh_names before attempt after split := by simp at split

/-- The ledger stays true as the session records more shapes and generated targets. -/
theorem grow {s s' : Session} {log : List Attempt} (ledger : NameLedger targets s log)
    (sameOptions : s'.options = s.options) (moreShapes : s.registry.emitted ⊆ s'.registry.emitted)
    (moreTargets : s.generated ⊆ s'.generated) : NameLedger targets s' log := by
  have sameUnits : s'.primitiveUnit = s.primitiveUnit :=
    Session.primitiveUnit_eq_of_options sameOptions
  refine ⟨fun a member taken => ?_, fun before attempt after split => ?_⟩
  · rw [sameOptions, sameUnits]
    rcases ledger.taken_from a member taken with support | ⟨k, recorded, isStub⟩ |
      ⟨t, target, generated, named⟩
    · exact Or.inl support
    · exact Or.inr (Or.inl ⟨k, moreShapes recorded, isStub⟩)
    · exact Or.inr (Or.inr ⟨t, target, moreTargets generated, named⟩)
  · rw [sameOptions]
    exact ledger.fresh_names before attempt after split

/-- Attempts on support units keep the ledger true. -/
theorem append_support {s : Session} {log new : List Attempt} (ledger : NameLedger targets s log)
    (support : ∀ a ∈ new, a.unit ∈ supportUnits s.options.runtimePackage) :
    NameLedger targets s (log ++ new) := by
  refine ⟨fun a member taken => ?_, fun before attempt after split stubOrMock => ?_⟩
  · rcases List.mem_append.mp member with old | new
    · exact ledger.taken_from a old taken
    · exact Or.inl (support a new)
  · rcases split_append split with ⟨rest, inLog⟩ | ⟨middle, rest, rfl, inNew⟩
    · exact ledger.fresh_names before attempt rest inLog stubOrMock
    · exact absurd (support attempt (by rw [inNew]; simp)) stubOrMock

end NameLedger

/-! ## Committing a target -/

/-- The last unit of a hand-over is taken only when the sink refused nothing. -/
theorem refused_none_of_last_taken [Sink σ] {sink : σ} {xs : List GeneratedUnit}
    {y : GeneratedUnit} (absent : y ∉ xs) (taken : y ∈ (handOver sink (xs ++ [y])).taken) :
    (handOver sink (xs ++ [y])).refused = none := by
  cases refusal : (handOver sink (xs ++ [y])).refused with
  | none => rfl
  | some failed =>
      obtain ⟨u, cause⟩ := failed
      obtain ⟨after, split⟩ := handOver_of_refused_some refusal
      obtain ⟨front, rest, takenIs⟩ := List.append_of_mem taken
      rw [takenIs] at split
      have leading : front ++ y :: (rest ++ u :: after) <+: xs ++ [y] := ⟨[], by rw [split]; simp⟩
      have frontIs : front = xs := front_eq_of_leading absent leading
      subst frontIs
      simp at split

section Commit

variable [Sink σ] {targets : List TargetType} {s : Session} {r : Recorded σ} {t : TargetType}
  {pending : PendingTarget}

/-- The units a commit hands over are the stub classes of the missing shapes and the mock. -/
theorem role_of_mem_units {missing : List StubKind}
    (unitsAre : pending.units = missing.map s.primitiveUnit ++ [pending.subtype])
    {u : GeneratedUnit} (member : u ∈ pending.units) :
    (∃ k ∈ missing, u = s.primitiveUnit k) ∨ u = pending.subtype := by
  rw [unitsAre, List.mem_append, List.mem_singleton, List.mem_map] at member
  rcases member with ⟨k, missed, rfl⟩ | isMock
  · exact Or.inl ⟨k, missed, rfl⟩
  · exact Or.inr isMock

/-- A unit the sink took in a commit: the stub class of a shape among the first missing ones,
or the mock. -/
theorem taken_role {missing : List StubKind}
    (unitsAre : pending.units = missing.map s.primitiveUnit ++ [pending.subtype])
    (fromSource : pending.subtype.dependency ≠ .session) {a : Attempt}
    (member : a ∈ (handOver r pending.units).attempts) (taken : a.outcome = .ok ()) :
    (∃ k ∈ missing.take (handOver r pending.units).taken.length, a.unit = s.primitiveUnit k) ∨
      (a.unit = pending.subtype ∧ pending.subtype ∈ (handOver r pending.units).taken) := by
  have tookIt : a.unit ∈ (handOver r pending.units).taken := by
    obtain ⟨u, outcome⟩ := a
    cases taken
    exact Handover.took_mem_attempts.mp member
  rcases role_of_mem_units unitsAre ((handOver_taken_leads r _).subset tookIt) with
    ⟨k, -, isStub⟩ | isMock
  · rw [isStub, taken_stub_iff unitsAre fromSource] at tookIt
    exact Or.inl ⟨k, tookIt, isStub⟩
  · exact Or.inr ⟨isMock, isMock ▸ tookIt⟩

/-- Committing a target not yet generated keeps the ledger of names, for a session that records
the shapes whose stub classes were taken and, once its mock was taken, the target. -/
theorem commit_names (apart : MockNamesApart s.options targets) (target : t ∈ targets)
    (notGenerated : t.displayName ∉ s.generated) (built : s.pendingFor t = .ok pending)
    (ledger : NameLedger targets s r.log) {s' : Session} (sameOptions : s'.options = s.options)
    (recorded : s'.registry = (s.settleCommit r pending).session.registry)
    (moreTargets : s.generated ⊆ s'.generated)
    (mockRecorded : pending.subtype ∈ (handOver r pending.units).taken →
      t.displayName ∈ s'.generated) :
    NameLedger targets s' (s.settleCommit r pending).sink.log := by
  obtain ⟨plans, -, kindsAre, unitsAre, fromSource⟩ := s.units_of_pendingFor built
  set missing := s.registry.missing (plans.flatMap MemberPlan.stubKinds)
  have registryIs : s'.registry =
      s.registry.insertAll (missing.take (handOver r pending.units).taken.length) := by
    rw [recorded]
    simp only [Session.settleCommit]
    rw [List.map_take, kindsAre]
  have sameUnits : s'.primitiveUnit = s.primitiveUnit :=
    Session.primitiveUnit_eq_of_options sameOptions
  have mockNamed := Session.qualifiedName_pendingFor built
  have logIs : (s.settleCommit r pending).sink.log = r.log ++ (handOver r pending.units).attempts :=
    handOver_log r _
  rw [logIs]
  refine ⟨fun a member taken => ?_, fun before attempt after split stubOrMock => ?_⟩
  · rw [sameOptions, sameUnits, registryIs]
    rcases List.mem_append.mp member with old | new
    · rcases ledger.taken_from a old taken with support | ⟨k, present, isStub⟩ |
        ⟨t', target', generated, named⟩
      · exact Or.inl support
      · exact Or.inr (Or.inl ⟨k, (Registry.mem_insertAll _ _).mpr (Or.inl present), isStub⟩)
      · exact Or.inr (Or.inr ⟨t', target', moreTargets generated, named⟩)
    · rcases taken_role unitsAre fromSource new taken with ⟨k, first, isStub⟩ | ⟨isMock, tookMock⟩
      · exact Or.inr (Or.inl ⟨k, (Registry.mem_insertAll _ _).mpr (Or.inr first), isStub⟩)
      · rw [isMock]
        exact Or.inr (Or.inr ⟨t, target, mockRecorded tookMock, mockNamed⟩)
  · rw [sameOptions] at stubOrMock
    rcases split_append split with ⟨rest, inLog⟩ | ⟨middle, rest, rfl, inNew⟩
    · exact ledger.fresh_names before attempt rest inLog stubOrMock
    have handed : (middle ++ attempt :: rest).map Attempt.unit <+: pending.units :=
      inNew ▸ handOver_attempts_lead r pending.units
    -- the units of one commit are distinct, so nothing before the attempt in it is its unit
    have notBefore : ∀ earlier ∈ middle, earlier.unit ≠ attempt.unit := by
      have distinct := (nodup_units unitsAre fromSource (Registry.nodup_missing _ _)).sublist
        handed.sublist
      simp only [List.map_append, List.map_cons] at distinct
      exact fun earlier inMiddle => (List.nodup_append.mp distinct).2.2 _
        (List.mem_map_of_mem inMiddle) _ (List.mem_cons_self ..)
    have inUnits : ∀ x ∈ middle ++ [attempt], x.unit ∈ pending.units := by
      intro x member
      refine handed.subset (List.mem_map_of_mem ?_)
      rcases List.mem_append.mp member with inMiddle | isAttempt
      · exact List.mem_append_left _ inMiddle
      · rw [List.mem_singleton.mp isAttempt]
        exact List.mem_append_right _ (List.mem_cons_self ..)
    intro earlier inBefore taken
    rcases role_of_mem_units unitsAre (inUnits attempt (by simp)) with
      ⟨k, missed, isStub⟩ | isMock
    · -- a stub class of a missing shape: no unit taken before is named like it
      rw [isStub]
      refine apart.stub_apart ?_
      rcases List.mem_append.mp inBefore with old | inMiddle
      · rcases ledger.taken_from earlier old taken with support | ⟨k', present, isStub'⟩ |
          ⟨t', target', -, named⟩
        · exact Or.inl support
        · refine Or.inr (Or.inl ⟨k', fun same => ?_, isStub'⟩)
          exact (Registry.mem_missing.mp missed).2 (same ▸ present)
        · exact Or.inr (Or.inr ⟨t', target', named⟩)
      · rcases role_of_mem_units unitsAre (inUnits earlier (by simp [inMiddle])) with
          ⟨k', -, isStub'⟩ | isMock'
        · refine Or.inr (Or.inl ⟨k', fun same => ?_, isStub'⟩)
          exact notBefore earlier inMiddle (by rw [isStub', isStub, same])
        · exact Or.inr (Or.inr ⟨t, target, isMock' ▸ mockNamed⟩)
    · -- the mock: no unit taken before is named like it
      rw [isMock, mockNamed]
      refine apart.mock_apart target ?_
      rcases List.mem_append.mp inBefore with old | inMiddle
      · rcases ledger.taken_from earlier old taken with support | ⟨k', -, isStub'⟩ |
          ⟨t', target', generated, named⟩
        · exact Or.inl support
        · exact Or.inr (Or.inl ⟨k', isStub'⟩)
        · refine Or.inr (Or.inr ⟨t', target', fun same => ?_, named⟩)
          exact notGenerated (same ▸ generated)
      · rcases role_of_mem_units unitsAre (inUnits earlier (by simp [inMiddle])) with
          ⟨k', -, isStub'⟩ | isMock'
        · exact Or.inr (Or.inl ⟨k', isStub'⟩)
        · exact absurd (isMock'.trans isMock.symm) (notBefore earlier inMiddle)

/-- A commit whose mock was taken met no refusal. -/
theorem refused_none_of_mock_taken (built : s.pendingFor t = .ok pending)
    (tookMock : pending.subtype ∈ (handOver r pending.units).taken) :
    (handOver r pending.units).refused = none := by
  obtain ⟨plans, -, -, unitsAre, fromSource⟩ := s.units_of_pendingFor built
  have absent : pending.subtype ∉
      (s.registry.missing (plans.flatMap MemberPlan.stubKinds)).map s.primitiveUnit := by
    intro stub
    obtain ⟨k, -, isStub⟩ := List.mem_map.mp stub
    exact s.primitiveUnit_ne_of_dependency k fromSource isStub
  rw [unitsAre] at tookMock ⊢
  exact refused_none_of_last_taken absent tookMock

end Commit

/-! ## Rounds -/

section Rounds

variable [Sink σ] {targets : List TargetType} {s : Session} {r : Recorded σ}

theorem settleSupport_names (ledger : NameLedger targets s r.log) :
    NameLedger targets (s.settleSupport r).session (s.settleSupport r).sink.log := by
  have support : ∀ a ∈ (handOver r (supportUnits s.options.runtimePackage)).attempts,
      a.unit ∈ supportUnits s.options.runtimePackage :=
    fun a member => (handOver_attempts_lead r _).subset (List.mem_map_of_mem member)
  have extended := ledger.append_support support
  rw [← handOver_log] at extended
  simp only [Session.settleSupport]
  split
  · exact ledger
  · split
    · exact extended.grow rfl (List.Subset.refl _) (List.Subset.refl _)
    · exact extended

theorem settleTarget_names (apart : MockNamesApart s.options targets) {t : TargetType}
    (target : t ∈ targets) (report : RoundReport) (ledger : NameLedger targets s r.log) :
    NameLedger targets (s.settleTarget r t report).session (s.settleTarget r t report).sink.log := by
  rcases s.settleTarget_cases r t report with ⟨_, passed, -⟩ | ⟨_, -, failed⟩ |
    ⟨pending, built, fresh, committing⟩
  · rw [passed]
    exact ledger
  · rw [failed]
    exact ledger
  rw [committing]
  cases committed : (s.settleCommit r pending).answer with
  | error e =>
      -- the mock was refused or never handed over, so the target stays ungenerated
      rw [Settled.andThen_of_error committed]
      refine commit_names apart target fresh built ledger rfl rfl (List.Subset.refl _)
        fun tookMock => absurd committed ?_
      simp [Session.settleCommit, Handover.answer, refused_none_of_mock_taken built tookMock]
  | ok introduced =>
      rw [Settled.andThen_of_ok committed]
      exact commit_names apart target fresh built ledger rfl rfl
        (fun _ generated => List.mem_append_left _ generated)
        fun _ => List.mem_append_right _ (List.mem_singleton_self _)

theorem settleTargets_names (round : List TargetType) (report : RoundReport)
    (apart : MockNamesApart s.options targets) (included : ∀ t ∈ round, t ∈ targets)
    (ledger : NameLedger targets s r.log) :
    NameLedger targets (settleTargets round report s r).session
      (settleTargets round report s r).sink.log := by
  induction round generalizing report s r with
  | nil => exact ledger
  | cons t rest restKeeps =>
      have target := included t (List.mem_cons_self ..)
      have first := settleTarget_names apart target report ledger
      have apartAfter : MockNamesApart (s.settleTarget r t report).session.options targets := by
        rw [(settleTarget_grows t report).options_eq]
        exact apart
      exact Settled.andThen_keeps (P := fun s (sink : Recorded σ) => NameLedger targets s sink.log)
        first fun next _ => restKeeps next apartAfter
          (fun t' member => included t' (List.mem_cons_of_mem _ member)) first

/-- A round keeps the ledger of names, whether it succeeds or fails. -/
theorem settleRound_names (round : List TargetType) (apart : MockNamesApart s.options targets)
    (included : ∀ t ∈ round, t ∈ targets) (ledger : NameLedger targets s r.log) :
    NameLedger targets (s.settleRound r round).session (s.settleRound r round).sink.log := by
  have supported := settleSupport_names ledger
  have sameOptions : (s.settleSupport r).session.options = s.options :=
    settleSupport_grows.options_eq
  have apartAfter : MockNamesApart (s.settleSupport r).session.options targets := by
    rw [sameOptions]
    exact apart
  exact Settled.andThen_keeps (P := fun s (sink : Recorded σ) => NameLedger targets s sink.log)
    supported fun _ _ => settleTargets_names round {} apartAfter included supported

end Rounds

/-! ## Whole runs -/

section Runs

variable [Sink σ]

/-- Over rounds in a row, every round keeps the options and the ledger of names. -/
theorem settleRounds_names {targets : List TargetType} (rounds : List (List TargetType))
    {s : Session} {r : Recorded σ} (apart : MockNamesApart s.options targets)
    (included : ∀ round ∈ rounds, ∀ t ∈ round, t ∈ targets) (ledger : NameLedger targets s r.log) :
    ∀ round ∈ settleRounds rounds s r,
      round.2.session.options = s.options ∧ NameLedger targets round.2.session round.2.sink.log := by
  induction rounds generalizing s r with
  | nil => simp [settleRounds]
  | cons targetsNow later laterKeep =>
      have sameOptions : (s.settleRound r targetsNow).session.options = s.options :=
        (settleRound_grows targetsNow).options_eq
      have roundNames := settleRound_names targetsNow apart
        (included targetsNow (List.mem_cons_self ..)) ledger
      have apartAfter : MockNamesApart (s.settleRound r targetsNow).session.options targets := by
        rw [sameOptions]
        exact apart
      have laterRounds := laterKeep apartAfter
        (fun round member => included round (List.mem_cons_of_mem _ member)) roundNames
      simp only [settleRounds, List.forall_mem_cons]
      refine ⟨⟨sameOptions, roundNames⟩, fun round member => ?_⟩
      obtain ⟨laterOptions, laterNames⟩ := laterRounds round member
      exact ⟨laterOptions.trans sameOptions, laterNames⟩

/-- Over any rounds of one fresh session, on any sink, whatever writes fail: when the mocks of the
targets are named apart, the session never hands the sink a stub class or a mock under a qualified
name the sink took before, so a memory sink refuses none of them as already written. -/
theorem stubs_and_mocks_never_renamed (options : GeneratorOptions) (inner : σ)
    (rounds : List (List TargetType)) (apart : MockNamesApart options rounds.flatten) :
    ∀ round ∈ processRounds rounds { session := { options }, sink := ({ inner } : Recorded σ) },
      ∀ before attempt after, (settle round.2).sink.log = before ++ attempt :: after →
        attempt.unit ∉ supportUnits options.runtimePackage →
        ∀ earlier ∈ before, earlier.outcome = .ok () →
          earlier.unit.qualifiedName ≠ attempt.unit.qualifiedName := by
  intro round member
  have settled : (processRounds rounds { session := { options }, sink := ({ inner } : Recorded σ) }).map
      (fun round => (round.1.session, settle round.2)) =
      settleRounds rounds { options } ({ inner } : Recorded σ) :=
    settle_processRounds rounds _
  have eachRound := settleRounds_names rounds (s := { options }) (r := { inner }) apart
    (fun round member t inRound => List.mem_flatten.mpr ⟨round, member, inRound⟩)
    (NameLedger.fresh options)
  rw [← settled] at eachRound
  obtain ⟨sameOptions, ledger⟩ := eachRound _ (List.mem_map_of_mem member)
  have endOptions : (settle round.2).session.options = options := sameOptions
  intro before attempt after split stubOrMock
  rw [← endOptions] at stubOrMock
  exact ledger.fresh_names before attempt after split stubOrMock

/-- An abstract class of the package `p` marked for mocking, with its qualified name and the file
that declares it. -/
def markedInP (simpleName qualified file : String) : TargetType :=
  { package := "p", simpleName, qualifiedName := some qualified, modality := .abstract,
    annotations := ["dev.kmock.runtime.Mocked"], containingFile := some file }

theorem foo_then_bar_never_renamed :
    MockNamesApart {} [[markedInP "Foo" "p.Foo" "src/Foo.kt"],
      [markedInP "Bar" "p.Bar" "src/Bar.kt"]].flatten ∧
    ∀ round ∈ processRounds [[markedInP "Foo" "p.Foo" "src/Foo.kt"],
        [markedInP "Bar" "p.Bar" "src/Bar.kt"]]
        { session := { options := {} }, sink := ({ inner := ({} : MemorySink) } : Recorded MemorySink) },
      ∀ before attempt after, (settle round.2).sink.log = before ++ attempt :: after →
        attempt.unit ∉ supportUnits ({} : GeneratorOptions).runtimePackage →
        ∀ earlier ∈ before, earlier.outcome = .ok () →
          earlier.unit.qualifiedName ≠ attempt.unit.qualifiedName := by
  have apart : MockNamesApart {} [[markedInP "Foo" "p.Foo" "src/Foo.kt"],
      [markedInP "Bar" "p.Bar" "src/Bar.kt"]].flatten := by
    refine ⟨by decide +kernel, by decide +kernel, fun t member k same => ?_⟩
    -- a mock of the package `p` starts with `p`, a stub class of the runtime package with `d`
    have heads := congrArg (fun name : String => name.toList.head?) same
    simp only [List.flatten_cons, List.flatten_nil, List.append_nil, List.cons_append,
      List.nil_append, List.mem_cons, List.not_mem_nil, or_false] at member
    rcases member with rfl | rfl <;>
      simp [TargetType.mockName, markedInP, GeneratorOptions.mockClassName, Session.primitiveUnit,
        GeneratedUnit.qualifiedName, defaultRuntimePackage, String.toList_append] at heads
  exact ⟨apart, stubs_and_mocks_never_renamed {} ({} : MemorySink) _ apart⟩

/-- Two nested classes named `Foo`, in `p.A` and in `p.B`, get mocks of one qualified name, and a
memory sink refuses the second as already written. -/
theorem nested_mocks_share_a_name :
    (match (settle ((processRound [markedInP "Foo" "p.A.Foo" "src/A.kt",
        markedInP "Foo" "p.B.Foo" "src/B.kt"]).run
        ({ session := { options := {} }, sink := ({} : MemorySink) } : Progress MemorySink))).answer with
      | .error (.sink name cause) => name == "p.FooMock" && cause.kind == .alreadyExists
      | _ => false) = true := by
  decide +kernel

/-- The support units are remembered only once all three were taken, so they are left out of
`stubs_and_mocks_never_renamed`. On a sink that takes the first support unit and refuses the
second, the next round hands the first over again under the name the sink took, and the memory
behind the sink refuses it as already written. -/
theorem support_units_handed_over_again :
    ((processRounds [[], []]
        { session := { options := {} },
          sink := ({ inner := ({ failAt := 1 } : FailingSink) } : Recorded FailingSink) }).map
      fun round => ((settle round.2).sink.log.map fun a => (a.unit.qualifiedName, a.outcome.isOk),
        match (settle round.2).answer with
        | .error (.sink _ cause) => cause.kind == .alreadyExists
        | _ => false)) =
    [([("dev.kmock.runtime.Predicates", true),
        ("dev.kmock.runtime.MockNotConfiguredException", false)], false),
     ([("dev.kmock.runtime.Predicates", true),
        ("dev.kmock.runtime.MockNotConfiguredException", false),
        ("dev.kmock.runtime.Predicates", false)], true)] := by
  decide +kernel

end Runs

end KotlinMocks

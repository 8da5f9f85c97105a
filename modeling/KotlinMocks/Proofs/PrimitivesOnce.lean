import Mathlib.Data.List.Nodup
import KotlinMocks.Proofs.Settle
import KotlinMocks.Proofs.Names

/-!
# Each stub class is written once

A session records in its registry the stub shapes whose class it has written. Over any rounds of
one session, each succeeding or failing, on a sink that may refuse any write, the registry holds
exactly the shapes whose stub class the sink took; a stub class is handed over only while no
earlier attempt at it was taken, so the sink takes it at most once; every mock the sink took
comes after the stub classes of all the shapes its members need; and the stub classes a
successful round reports are distinct, new to the session, and exactly the shapes that round
recorded.

The attempts are read off a `Recorded` sink, and the rounds are run in their settled form
(`settle_processRounds`).
-/

namespace KotlinMocks

variable {σ α : Type}

/-! ## Records of attempts -/

/-- An attempt in a record extended by `new` is one of the old attempts, or one of the new. -/
theorem split_append {log new before after : List Attempt} {attempt : Attempt}
    (split : log ++ new = before ++ attempt :: after) :
    (∃ rest, log = before ++ attempt :: rest) ∨
      ∃ middle rest, before = log ++ middle ∧ new = middle ++ attempt :: rest := by
  rcases List.append_eq_append_iff.mp split with ⟨middle, inBefore, inNew⟩ | ⟨middle, inLog, rest⟩
  · exact Or.inr ⟨middle, after, inBefore, inNew⟩
  · cases middle with
    | nil =>
        simp only [List.append_nil, List.nil_append] at inLog rest
        exact Or.inr ⟨[], after, by simp [inLog], by simp [rest]⟩
    | cons first others =>
        simp only [List.cons_append, List.cons.injEq] at rest
        obtain ⟨rfl, -⟩ := rest
        exact Or.inl ⟨others, inLog⟩

/-- In a prefix of a list that ends in `y` and holds it nowhere else, what comes before `y` is the
rest of the list. -/
theorem front_eq_of_leading {front rest xs : List α} {y : α} (absent : y ∉ xs)
    (isPrefix : front ++ y :: rest <+: xs ++ [y]) : front = xs := by
  obtain ⟨tail, whole⟩ := isPrefix
  simp only [List.append_assoc, List.cons_append] at whole
  rcases List.append_eq_append_iff.mp whole with ⟨middle, inXs, ends⟩ | ⟨middle, inFront, ends⟩
  · cases middle with
    | nil => simpa using inXs.symm
    | cons first others =>
        simp only [List.cons_append, List.cons.injEq] at ends
        obtain ⟨rfl, -⟩ := ends
        exact absurd (inXs ▸ List.mem_append_right front (List.mem_cons_self ..)) absent
  · cases middle with
    | nil => simpa using inFront
    | cons first others =>
        have lengths := congrArg List.length ends
        simp only [List.cons_append, List.length_cons, List.length_append, List.length_nil]
          at lengths
        omega

/-- In a record of attempts, `u` is never handed over again once it was taken. -/
def NeverRetaken (log : List Attempt) (u : GeneratedUnit) : Prop :=
  ∀ before attempt after, log = before ++ attempt :: after → attempt.unit = u →
    Attempt.took u ∉ before

namespace NeverRetaken

theorem of_nodup {log : List Attempt} (distinct : (log.map Attempt.unit).Nodup)
    (u : GeneratedUnit) : NeverRetaken log u := by
  intro before attempt after split handsU takenBefore
  rw [split, List.map_append, List.map_cons] at distinct
  have apart := (List.nodup_append.mp distinct).2.2
  exact apart u (List.mem_map.mpr ⟨_, takenBefore, rfl⟩) u (by rw [← handsU]; simp) rfl

theorem of_not_mem {log : List Attempt} {u : GeneratedUnit} (absent : u ∉ log.map Attempt.unit) :
    NeverRetaken log u := by
  intro before attempt after split handsU
  exact absurd (by rw [split, ← handsU]; simp) absent

/-- New attempts keep `u` from being retaken when they do not retake it among themselves and
hand it over only if no old attempt took it. -/
theorem append {log new : List Attempt} {u : GeneratedUnit} (old : NeverRetaken log u)
    (fresh : NeverRetaken new u) (notBefore : u ∈ new.map Attempt.unit → Attempt.took u ∉ log) :
    NeverRetaken (log ++ new) u := by
  intro before attempt after split handsU
  rcases split_append split with ⟨rest, inLog⟩ | ⟨middle, rest, rfl, inNew⟩
  · exact old before attempt rest inLog handsU
  · have handed : u ∈ new.map Attempt.unit := by
      rw [inNew, ← handsU]
      simp
    intro takenBefore
    rcases List.mem_append.mp takenBefore with inLog | inMiddle
    · exact notBefore handed inLog
    · exact fresh middle attempt rest inNew handsU inMiddle

/-- A unit never retaken is taken at most once. -/
theorem taken_once {log : List Attempt} {u : GeneratedUnit} (never : NeverRetaken log u)
    (before middle after : List Attempt) :
    log ≠ before ++ Attempt.took u :: (middle ++ Attempt.took u :: after) := by
  intro twice
  exact never (before ++ Attempt.took u :: middle) (Attempt.took u) after (by simp [twice]) rfl
    (by simp)

end NeverRetaken

/-! ## Committing a target -/

/-- The units a target hands over: the stub classes of the shapes it is missing, then its mock,
which depends on its source file. -/
theorem Session.units_of_pendingFor {s : Session} {t : TargetType} {pending : PendingTarget}
    (built : s.pendingFor t = .ok pending) :
    ∃ plans, planMembers t = .ok plans ∧
      pending.primitives.map Prod.fst = s.registry.missing (plans.flatMap MemberPlan.stubKinds) ∧
      pending.units =
        (s.registry.missing (plans.flatMap MemberPlan.stubKinds)).map s.primitiveUnit ++
          [pending.subtype] ∧
      pending.subtype.dependency ≠ .session := by
  obtain ⟨origin, plans, m, -, planned, -, subtypeIs, primitivesAre⟩ := Session.pendingFor_eq_ok built
  refine ⟨plans, planned, by simp [primitivesAre, Function.comp_def], ?_, by simp [subtypeIs]⟩
  simp [PendingTarget.units, primitivesAre, Function.comp_def]

section Commit

variable [Sink σ] {s : Session} {sink : σ} {pending : PendingTarget} {missing : List StubKind}

theorem nodup_units (unitsAre : pending.units = missing.map s.primitiveUnit ++ [pending.subtype])
    (fromSource : pending.subtype.dependency ≠ .session) (distinct : missing.Nodup) :
    pending.units.Nodup := by
  rw [unitsAre]
  refine List.nodup_append.mpr ⟨distinct.map s.primitiveUnit_injective, List.nodup_singleton _, ?_⟩
  intro stub isStub mock isMock
  obtain ⟨k, -, rfl⟩ := List.mem_map.mp isStub
  rw [List.mem_singleton.mp isMock]
  exact s.primitiveUnit_ne_of_dependency k fromSource

/-- A commit takes the stub class of a shape exactly when the shape is among the missing ones
handed over before the first refusal. -/
theorem taken_stub_iff (unitsAre : pending.units = missing.map s.primitiveUnit ++ [pending.subtype])
    (fromSource : pending.subtype.dependency ≠ .session) (k : StubKind) :
    s.primitiveUnit k ∈ (handOver sink pending.units).taken ↔
      k ∈ missing.take (handOver sink pending.units).taken.length := by
  set n := (handOver sink pending.units).taken.length
  have takenIs : (handOver sink pending.units).taken = pending.units.take n :=
    List.prefix_iff_eq_take.mp (handOver_taken_leads sink _)
  rw [takenIs, unitsAre, List.take_append, List.mem_append, ← List.map_take,
    List.mem_map_of_injective s.primitiveUnit_injective]
  constructor
  · rintro (inStubs | inMock)
    · exact inStubs
    · exact absurd (List.mem_singleton.mp (List.mem_of_mem_take inMock))
        (s.primitiveUnit_ne_of_dependency k fromSource)
  · exact Or.inl

/-- In a commit, the mock is handed over only after the stub classes of all the missing shapes
were taken. -/
theorem mock_after_missing (unitsAre : pending.units = missing.map s.primitiveUnit ++ [pending.subtype])
    (fromSource : pending.subtype.dependency ≠ .session) {middle rest : List Attempt}
    {attempt : Attempt} (split : (handOver sink pending.units).attempts = middle ++ attempt :: rest)
    (mock : attempt.unit.dependency ≠ .session) :
    attempt.unit = pending.subtype ∧ ∀ k ∈ missing, Attempt.took (s.primitiveUnit k) ∈ middle := by
  have prefixOf : middle.map Attempt.unit ++ attempt.unit :: rest.map Attempt.unit <+:
      missing.map s.primitiveUnit ++ [pending.subtype] := by
    have handed := handOver_attempts_lead sink pending.units
    rw [split, unitsAre] at handed
    simpa using handed
  have isMock : attempt.unit = pending.subtype := by
    have inUnits : attempt.unit ∈ missing.map s.primitiveUnit ++ [pending.subtype] :=
      prefixOf.subset (List.mem_append_right _ (List.mem_cons_self ..))
    rcases List.mem_append.mp inUnits with stub | isMock
    · obtain ⟨k, -, isStub⟩ := List.mem_map.mp stub
      exact absurd (isStub ▸ s.primitiveUnit_dependency k) mock
    · exact List.mem_singleton.mp isMock
  have mockAbsent : pending.subtype ∉ missing.map s.primitiveUnit := by
    intro stub
    obtain ⟨k, -, isStub⟩ := List.mem_map.mp stub
    exact s.primitiveUnit_ne_of_dependency k fromSource isStub
  rw [isMock] at prefixOf
  have stubsFirst := front_eq_of_leading mockAbsent prefixOf
  refine ⟨isMock, fun k missed => ?_⟩
  have handed : s.primitiveUnit k ∈ middle.map Attempt.unit := by
    rw [stubsFirst]
    exact List.mem_map_of_mem missed
  obtain ⟨earlier, member, isStub⟩ := List.mem_map.mp handed
  rw [← isStub, ← Handover.took_of_mem_before split earlier member]
  exact member

end Commit

/-! ## The ledger of stub classes -/

/-- What a session's registry and the record of its sink's attempts say together: the registry
holds exactly the shapes whose stub class the sink took, no stub class is handed over again once
taken, and every mock the sink took comes after the stub classes of all the shapes its members
need. -/
structure PrimitiveLedger (s : Session) (log : List Attempt) : Prop where
  recorded_iff_taken : ∀ k, k ∈ s.registry.emitted ↔ Attempt.took (s.primitiveUnit k) ∈ log
  never_retaken : ∀ k, NeverRetaken log (s.primitiveUnit k)
  mocks_after_stubs : ∀ before attempt after, log = before ++ attempt :: after →
    attempt.outcome = .ok () → attempt.unit.dependency ≠ .session →
    ∃ t plans, planMembers t = .ok plans ∧
      (s.pendingFor t).map PendingTarget.subtype = .ok attempt.unit ∧
      ∀ k ∈ plans.flatMap MemberPlan.stubKinds, Attempt.took (s.primitiveUnit k) ∈ before

namespace PrimitiveLedger

/-- A fresh session over a sink that nothing was handed to. -/
theorem fresh (options : GeneratorOptions) : PrimitiveLedger { options } [] where
  recorded_iff_taken k := by simp
  never_retaken k before attempt after split := by simp at split
  mocks_after_stubs before attempt after split := by simp at split

/-- The ledger reads only the options and the registry of the session. -/
theorem congr {s s' : Session} {log : List Attempt} (ledger : PrimitiveLedger s log)
    (sameOptions : s'.options = s.options) (sameRegistry : s'.registry = s.registry) :
    PrimitiveLedger s' log := by
  have sameUnits : s'.primitiveUnit = s.primitiveUnit :=
    Session.primitiveUnit_eq_of_options sameOptions
  refine ⟨fun k => ?_, fun k => ?_, fun before attempt after split taken mock => ?_⟩
  · rw [sameRegistry, sameUnits]
    exact ledger.recorded_iff_taken k
  · rw [sameUnits]
    exact ledger.never_retaken k
  · simp only [sameUnits, Session.map_subtype_pendingFor sameOptions]
    exact ledger.mocks_after_stubs before attempt after split taken mock

/-- Attempts on units that are neither stub classes nor mocks leave the ledger true. -/
theorem append_foreign {s : Session} {log new : List Attempt} (ledger : PrimitiveLedger s log)
    (foreign : ∀ a ∈ new, a.unit.dependency = .session ∧ ∀ k, a.unit ≠ s.primitiveUnit k) :
    PrimitiveLedger s (log ++ new) := by
  have noStub : ∀ k, s.primitiveUnit k ∉ new.map Attempt.unit := by
    intro k handed
    obtain ⟨a, member, isStub⟩ := List.mem_map.mp handed
    exact (foreign a member).2 k isStub
  refine ⟨fun k => ?_, fun k => ?_, fun before attempt after split taken mock => ?_⟩
  · have notNew : Attempt.took (s.primitiveUnit k) ∉ new :=
      fun member => noStub k (List.mem_map_of_mem member)
    rw [ledger.recorded_iff_taken k, List.mem_append, or_iff_left notNew]
  · exact (ledger.never_retaken k).append (.of_not_mem (noStub k))
      (fun handed => absurd handed (noStub k))
  · rcases split_append split with ⟨rest, inLog⟩ | ⟨middle, rest, rfl, inNew⟩
    · exact ledger.mocks_after_stubs before attempt rest inLog taken mock
    · exact absurd (foreign attempt (by rw [inNew]; simp)).1 mock

end PrimitiveLedger

section Steps

variable [Sink σ] {s : Session} {r : Recorded σ}

/-- Handing over the support units keeps the ledger: they are neither stub classes nor mocks. -/
theorem settleSupport_ledger (ledger : PrimitiveLedger s r.log) :
    PrimitiveLedger (s.settleSupport r).session (s.settleSupport r).sink.log := by
  have foreign : ∀ a ∈ (handOver r (supportUnits s.options.runtimePackage)).attempts,
      a.unit.dependency = .session ∧ ∀ k, a.unit ≠ s.primitiveUnit k := by
    intro a member
    have supported : a.unit ∈ supportUnits s.options.runtimePackage :=
      (handOver_attempts_lead r _).subset (List.mem_map_of_mem member)
    exact ⟨dependency_of_mem_supportUnits supported,
      fun k isStub => s.primitiveUnit_not_mem_supportUnits k (isStub ▸ supported)⟩
  have extended := ledger.append_foreign foreign
  rw [← handOver_log] at extended
  simp only [Session.settleSupport]
  split
  · exact ledger
  · split
    · exact extended.congr rfl rfl
    · exact extended

/-- Committing a target keeps the ledger: each shape is recorded as its stub class is taken, the
stub classes handed over are of shapes not recorded before, and the mock comes last. -/
theorem settleCommit_ledger {t : TargetType} {pending : PendingTarget}
    (ledger : PrimitiveLedger s r.log) (built : s.pendingFor t = .ok pending) :
    PrimitiveLedger (s.settleCommit r pending).session (s.settleCommit r pending).sink.log := by
  obtain ⟨plans, planned, kindsAre, unitsAre, fromSource⟩ := s.units_of_pendingFor built
  set missing := s.registry.missing (plans.flatMap MemberPlan.stubKinds)
  have logIs : (s.settleCommit r pending).sink.log = r.log ++ (handOver r pending.units).attempts :=
    handOver_log r _
  have registryIs : (s.settleCommit r pending).session.registry =
      s.registry.insertAll (missing.take (handOver r pending.units).taken.length) := by
    simp only [Session.settleCommit]
    rw [List.map_take, kindsAre]
  have sameUnits : (s.settleCommit r pending).session.primitiveUnit = s.primitiveUnit := rfl
  have sameMocks : ∀ t, ((s.settleCommit r pending).session.pendingFor t).map PendingTarget.subtype =
      (s.pendingFor t).map PendingTarget.subtype := Session.map_subtype_pendingFor rfl
  have distinct := nodup_units unitsAre fromSource (Registry.nodup_missing _ _)
  refine ⟨fun k => ?_, fun k => ?_, fun before attempt after split taken mock => ?_⟩
  · rw [logIs, registryIs, sameUnits, Registry.mem_insertAll, ledger.recorded_iff_taken k,
      List.mem_append, Handover.took_mem_attempts, taken_stub_iff unitsAre fromSource]
  · rw [logIs, sameUnits]
    refine (ledger.never_retaken k).append
      (.of_nodup (distinct.sublist (handOver_attempts_lead r _).sublist) _) fun handed => ?_
    -- a stub class is handed over only for a shape not recorded before
    have inUnits := (handOver_attempts_lead r _).subset handed
    rw [unitsAre, List.mem_append, List.mem_map_of_injective s.primitiveUnit_injective] at inUnits
    rcases inUnits with isMissing | isMock
    · rw [← ledger.recorded_iff_taken k]
      exact (Registry.mem_missing.mp isMissing).2
    · exact absurd (List.mem_singleton.mp isMock) (s.primitiveUnit_ne_of_dependency k fromSource)
  · rw [logIs] at split
    simp only [sameUnits, sameMocks]
    rcases split_append split with ⟨rest, inLog⟩ | ⟨middle, rest, rfl, inNew⟩
    · exact ledger.mocks_after_stubs before attempt rest inLog taken mock
    · obtain ⟨isMock, stubsTaken⟩ := mock_after_missing unitsAre fromSource inNew mock
      refine ⟨t, plans, planned, by rw [built, isMock]; rfl, fun k needed => ?_⟩
      by_cases present : k ∈ s.registry.emitted
      · exact List.mem_append_left _ ((ledger.recorded_iff_taken k).mp present)
      · exact List.mem_append_right _ (stubsTaken k (Registry.mem_missing.mpr ⟨needed, present⟩))

theorem settleTarget_ledger (t : TargetType) (report : RoundReport)
    (ledger : PrimitiveLedger s r.log) :
    PrimitiveLedger (s.settleTarget r t report).session (s.settleTarget r t report).sink.log := by
  rcases s.settleTarget_cases r t report with ⟨_, passed, -⟩ | ⟨_, -, failed⟩ |
    ⟨pending, built, -, committed⟩
  · rw [passed]
    exact ledger
  · rw [failed]
    exact ledger
  · rw [committed]
    exact Settled.andThen_keeps (P := fun s (sink : Recorded σ) => PrimitiveLedger s sink.log)
      (settleCommit_ledger ledger built) fun _ _ => (settleCommit_ledger ledger built).congr rfl rfl

theorem settleTargets_ledger (targets : List TargetType) (report : RoundReport)
    (ledger : PrimitiveLedger s r.log) :
    PrimitiveLedger (settleTargets targets report s r).session
      (settleTargets targets report s r).sink.log := by
  induction targets generalizing report s r with
  | nil => exact ledger
  | cons t rest restKeeps =>
      exact Settled.andThen_keeps (P := fun s (sink : Recorded σ) => PrimitiveLedger s sink.log)
        (settleTarget_ledger t report ledger) fun next _ => restKeeps next (settleTarget_ledger t report ledger)

/-- A round keeps the ledger, whether it succeeds or fails. -/
theorem settleRound_ledger (targets : List TargetType) (ledger : PrimitiveLedger s r.log) :
    PrimitiveLedger (s.settleRound r targets).session (s.settleRound r targets).sink.log :=
  Settled.andThen_keeps (P := fun s (sink : Recorded σ) => PrimitiveLedger s sink.log)
    (settleSupport_ledger ledger) fun _ _ => settleTargets_ledger targets {} (settleSupport_ledger ledger)

end Steps

/-! ## Shapes recorded by a round -/

/-- A later state of a session: the same options, and every shape recorded before still
recorded. -/
structure Session.Grows (s s' : Session) : Prop where
  options_eq : s'.options = s.options
  registry_subset : s.registry.emitted ⊆ s'.registry.emitted

namespace Session.Grows

theorem refl (s : Session) : s.Grows s := ⟨rfl, List.Subset.refl _⟩

theorem trans {s₁ s₂ s₃ : Session} (first : s₁.Grows s₂) (second : s₂.Grows s₃) : s₁.Grows s₃ :=
  ⟨second.options_eq.trans first.options_eq,
    fun _ recorded => second.registry_subset (first.registry_subset recorded)⟩

end Session.Grows

/-- `added` lists, each once, exactly the shapes recorded in `after` and not in `before`. -/
structure RecordedAnew (before after : Registry) (added : List StubKind) : Prop where
  nodup : added.Nodup
  mem_iff : ∀ k, k ∈ added ↔ k ∈ after.emitted ∧ k ∉ before.emitted

namespace RecordedAnew

theorem none (r : Registry) : RecordedAnew r r [] := ⟨List.nodup_nil, by simp⟩

/-- Recording the missing shapes of a list adds exactly them. -/
theorem missing (r : Registry) (kinds : List StubKind) :
    RecordedAnew r (r.insertAll (r.missing kinds)) (r.missing kinds) := by
  refine ⟨Registry.nodup_missing r kinds, fun k => ?_⟩
  rw [Registry.mem_insertAll]
  constructor
  · intro missed
    exact ⟨Or.inr missed, (Registry.mem_missing.mp missed).2⟩
  · rintro ⟨recorded | missed, absent⟩
    · exact absurd recorded absent
    · exact missed

theorem append {r₁ r₂ r₃ : Registry} {first second : List StubKind}
    (firstAnew : RecordedAnew r₁ r₂ first) (secondAnew : RecordedAnew r₂ r₃ second)
    (grows₁ : r₁.emitted ⊆ r₂.emitted) (grows₂ : r₂.emitted ⊆ r₃.emitted) :
    RecordedAnew r₁ r₃ (first ++ second) := by
  refine ⟨List.nodup_append.mpr ⟨firstAnew.nodup, secondAnew.nodup, ?_⟩, fun k => ?_⟩
  · rintro x inFirst y inSecond rfl
    exact ((secondAnew.mem_iff x).mp inSecond).2 ((firstAnew.mem_iff x).mp inFirst).1
  · rw [List.mem_append, firstAnew.mem_iff, secondAnew.mem_iff]
    constructor
    · rintro (⟨in₂, out₁⟩ | ⟨in₃, out₂⟩)
      · exact ⟨grows₂ in₂, out₁⟩
      · exact ⟨in₃, fun in₁ => out₂ (grows₁ in₁)⟩
    · rintro ⟨in₃, out₁⟩
      by_cases in₂ : k ∈ r₂.emitted
      · exact Or.inl ⟨in₂, out₁⟩
      · exact Or.inr ⟨in₃, in₂⟩

end RecordedAnew

section Rounds

variable [Sink σ] {s : Session} {sink : σ}

theorem settleSupport_registry : (s.settleSupport sink).session.registry = s.registry := by
  simp only [Session.settleSupport]
  split
  · rfl
  · split <;> rfl

/-- A commit that succeeds records every shape the target was missing. -/
theorem settleCommit_of_ok {pending : PendingTarget} {introduced : List StubKind}
    (succeeded : (s.settleCommit sink pending).answer = .ok introduced) :
    introduced = pending.primitives.map Prod.fst ∧
      (s.settleCommit sink pending).session.registry = s.registry.insertAll introduced := by
  simp only [Session.settleCommit, Handover.answer] at succeeded ⊢
  split at succeeded
  · rename_i refusal
    simp only [Except.ok.injEq] at succeeded
    subst succeeded
    rw [handOver_taken_of_refused_none refusal, List.take_of_length_le (by simp [PendingTarget.units])]
    exact ⟨rfl, rfl⟩
  · cases succeeded

theorem settleSupport_grows : s.Grows (s.settleSupport sink).session := by
  simp only [Session.settleSupport]
  split
  · exact .refl s
  · split
    · exact ⟨rfl, List.Subset.refl _⟩
    · exact .refl s

theorem settleCommit_grows (pending : PendingTarget) : s.Grows (s.settleCommit sink pending).session :=
  ⟨rfl, fun _ recorded => (Registry.mem_insertAll _ _).mpr (Or.inl recorded)⟩

theorem settleTarget_grows (t : TargetType) (report : RoundReport) :
    s.Grows (s.settleTarget sink t report).session := by
  rcases s.settleTarget_cases sink t report with ⟨_, passed, -⟩ | ⟨_, -, failed⟩ |
    ⟨pending, -, -, committed⟩
  · rw [passed]
    exact .refl s
  · rw [failed]
    exact .refl s
  · rw [committed]
    have grown : s.Grows (s.settleCommit sink pending).session := settleCommit_grows pending
    exact Settled.andThen_keeps (P := fun s' (_ : σ) => s.Grows s') grown
      fun _ _ => ⟨grown.options_eq, grown.registry_subset⟩

theorem settleTargets_grows (targets : List TargetType) (report : RoundReport) :
    s.Grows (settleTargets targets report s sink).session := by
  induction targets generalizing report s sink with
  | nil => exact .refl s
  | cons t rest restGrows =>
      exact Settled.andThen_keeps (P := fun s' (_ : σ) => s.Grows s') (settleTarget_grows t report)
        fun next _ => (settleTarget_grows t report).trans (restGrows next)

theorem settleRound_grows (targets : List TargetType) : s.Grows (s.settleRound sink targets).session :=
  Settled.andThen_keeps (P := fun s' (_ : σ) => s.Grows s') settleSupport_grows
    fun _ _ => settleSupport_grows.trans (settleTargets_grows targets {})

/-- A target processed without failure reports the shapes it recorded, each once. -/
theorem settleTarget_recordedAnew {t : TargetType} {report report' : RoundReport}
    (succeeded : (s.settleTarget sink t report).answer = .ok report') :
    ∃ added, report'.primitives = report.primitives ++ added ∧
      RecordedAnew s.registry (s.settleTarget sink t report).session.registry added := by
  rcases s.settleTarget_cases sink t report with ⟨passedReport, passed, samePrimitives⟩ |
    ⟨_, -, failed⟩ | ⟨pending, built, -, committing⟩
  · -- a target passed over reports no shape and records none
    rw [passed] at succeeded ⊢
    cases succeeded
    exact ⟨[], by simp [samePrimitives], .none _⟩
  · rw [failed] at succeeded
    cases succeeded
  · rw [committing] at succeeded ⊢
    obtain ⟨introduced, committed, continued⟩ := Settled.andThen_eq_ok succeeded
    rw [continued] at succeeded ⊢
    cases succeeded
    obtain ⟨rfl, registryIs⟩ := settleCommit_of_ok committed
    obtain ⟨plans, -, kindsAre, -, -⟩ := s.units_of_pendingFor built
    refine ⟨pending.primitives.map Prod.fst, rfl, ?_⟩
    show RecordedAnew s.registry (s.settleCommit sink pending).session.registry _
    rw [registryIs, kindsAre]
    exact RecordedAnew.missing _ _

theorem settleTargets_recordedAnew (targets : List TargetType) {report report' : RoundReport}
    (succeeded : (settleTargets targets report s sink).answer = .ok report') :
    ∃ added, report'.primitives = report.primitives ++ added ∧
      RecordedAnew s.registry (settleTargets targets report s sink).session.registry added := by
  induction targets generalizing report s sink with
  | nil =>
      cases succeeded
      exact ⟨[], by simp, .none _⟩
  | cons t rest restAdds =>
      simp only [settleTargets] at succeeded ⊢
      obtain ⟨next, first, continued⟩ := Settled.andThen_eq_ok succeeded
      rw [continued] at succeeded ⊢
      obtain ⟨added, nextIs, anew⟩ := settleTarget_recordedAnew first
      obtain ⟨later, finalIs, laterAnew⟩ := restAdds succeeded
      exact ⟨added ++ later, by rw [finalIs, nextIs, List.append_assoc],
        anew.append laterAnew (settleTarget_grows t report).registry_subset
          (settleTargets_grows rest next).registry_subset⟩

/-- A round that succeeds reports, each once, exactly the shapes it recorded. -/
theorem settleRound_recordedAnew (targets : List TargetType) {report : RoundReport}
    (succeeded : (s.settleRound sink targets).answer = .ok report) :
    RecordedAnew s.registry (s.settleRound sink targets).session.registry report.primitives := by
  unfold Session.settleRound at succeeded ⊢
  obtain ⟨u, -, continued⟩ := Settled.andThen_eq_ok succeeded
  rw [continued] at succeeded ⊢
  obtain ⟨added, reportIs, anew⟩ := settleTargets_recordedAnew targets succeeded
  rw [settleSupport_registry] at anew
  simpa [reportIs] using anew

end Rounds

/-! ## Whole runs -/

/-- The stub shapes a round reports, none if it failed. -/
def Settled.reportedPrimitives (o : Settled σ RoundReport) : List StubKind :=
  match o.answer with
  | .ok report => report.primitives
  | .error _ => []

section Runs

variable [Sink σ]

/-- The shapes a round reports are distinct, recorded by its end, and not recorded at its
start. -/
theorem settleRound_reported (s : Session) (sink : σ) (targets : List TargetType) :
    (s.settleRound sink targets).reportedPrimitives.Nodup ∧
      ∀ k ∈ (s.settleRound sink targets).reportedPrimitives,
        k ∈ (s.settleRound sink targets).session.registry.emitted ∧ k ∉ s.registry.emitted := by
  unfold Settled.reportedPrimitives
  split
  · rename_i report succeeded
    have anew := settleRound_recordedAnew targets succeeded
    exact ⟨anew.nodup, fun k member => (anew.mem_iff k).mp member⟩
  · simp

/-- Over rounds in a row, every round keeps the ledger and a successful one reports exactly the
shapes it recorded; the shapes all successful rounds report are distinct, and new to the session
the rounds started from. -/
theorem settleRounds_keep (rounds : List (List TargetType)) {s : Session} {r : Recorded σ}
    (ledger : PrimitiveLedger s r.log) :
    (∀ round ∈ settleRounds rounds s r, PrimitiveLedger round.2.session round.2.sink.log ∧
      ∀ report, round.2.answer = .ok report →
        RecordedAnew round.1.registry round.2.session.registry report.primitives) ∧
    ((settleRounds rounds s r).flatMap fun round => round.2.reportedPrimitives).Nodup ∧
    ∀ k ∈ (settleRounds rounds s r).flatMap (fun round => round.2.reportedPrimitives),
      k ∉ s.registry.emitted := by
  induction rounds generalizing s r with
  | nil => simp [settleRounds]
  | cons targets later laterKeep =>
      have roundLedger := settleRound_ledger targets ledger
      obtain ⟨laterRounds, laterDistinct, laterFresh⟩ := laterKeep roundLedger
      obtain ⟨reportedDistinct, reported⟩ := settleRound_reported s r targets
      simp only [settleRounds, List.forall_mem_cons, List.flatMap_cons]
      refine ⟨⟨⟨roundLedger, fun report succeeded => settleRound_recordedAnew targets succeeded⟩,
        laterRounds⟩, List.nodup_append.mpr ⟨reportedDistinct, laterDistinct, ?_⟩, ?_⟩
      · -- what this round reports is recorded by its end, so no later round reports it
        rintro k now k' inLater rfl
        exact laterFresh k inLater (reported k now).1
      · intro k member
        rcases List.mem_append.mp member with now | inLater
        · exact (reported k now).2
        · exact fun recorded =>
            laterFresh k inLater ((settleRound_grows targets).registry_subset recorded)

/-- Over any rounds of one fresh session, each succeeding or failing, on a sink that may refuse
any write: after every round the ledger holds, so the registry is exactly the shapes whose stub
class the sink took, no stub class was handed over again once taken, and every mock taken came
after the stub classes of its members' shapes; each stub class was taken at most once; every
successful round reports, each once, exactly the shapes it recorded; and no shape is reported
by two successful rounds. -/
theorem primitives_recorded_once (options : GeneratorOptions) (inner : σ)
    (rounds : List (List TargetType)) :
    let run := processRounds rounds { session := { options }, sink := ({ inner } : Recorded σ) }
    (∀ round ∈ run,
      PrimitiveLedger (settle round.2).session (settle round.2).sink.log ∧
      (∀ k before middle after, (settle round.2).sink.log ≠
        before ++ Attempt.took ((settle round.2).session.primitiveUnit k) ::
          (middle ++ Attempt.took ((settle round.2).session.primitiveUnit k) :: after)) ∧
      ∀ report, (settle round.2).answer = .ok report →
        RecordedAnew round.1.session.registry (settle round.2).session.registry report.primitives) ∧
    (run.flatMap fun round => (settle round.2).reportedPrimitives).Nodup := by
  intro run
  have settled : run.map (fun round => (round.1.session, settle round.2)) =
      settleRounds rounds { options } ({ inner } : Recorded σ) :=
    settle_processRounds rounds _
  obtain ⟨eachRound, distinct, -⟩ :=
    settleRounds_keep rounds (r := { inner }) (PrimitiveLedger.fresh options)
  rw [← settled] at eachRound distinct
  refine ⟨fun round member => ?_, ?_⟩
  · obtain ⟨ledger, anew⟩ := eachRound _ (List.mem_map_of_mem member)
    exact ⟨ledger, fun k => (ledger.never_retaken k).taken_once, anew⟩
  · rwa [List.flatMap_map] at distinct

end Runs

end KotlinMocks

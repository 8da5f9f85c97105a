import KotlinMocks.Proofs.PrimitivesOnce

/-!
# A failed round

A round stops at its first failure and keeps what was done before it. Three things can fail:
handing over the support units, checking a target (a missing containing file, return type or
qualified name, or an unnamed parameter), and handing over a target's units. A target is
checked in full before any of its units is written, so a failed check writes nothing and
changes nothing; a failed hand-over leaves the stub classes the sink took, recorded, and the
target ungenerated; a failed support hand-over leaves the session as it was. The targets before
the failing one are processed exactly as in a round of their own, and the targets after it are
never looked at (`failed_round_keeps_earlier_work`).
-/

namespace KotlinMocks

variable {σ : Type}

/-! ## Failures of checking -/

/-- A failure found while checking a target, before anything of it is written. -/
def GenerateError.IsValidation : GenerateError → Prop
  | .missingQualifiedName _ | .missingReturnType _ _ | .missingContainingFile _
  | .unnamedParameter _ _ => True
  | .sink _ _ => False

theorem planFunctions_error_isValidation {target : String} {e : GenerateError} :
    ∀ {functions : List (Function × String)} {taken : List String},
      planFunctions target functions taken = .error e → e.IsValidation
  | [], _, planned => by cases planned
  | (f, field) :: rest, taken, planned => by
      unfold planFunctions at planned
      split at planned
      · cases planned
        trivial
      · dsimp only at planned
        split at planned
        · rename_i failed
          cases planned
          exact planFunctions_error_isValidation failed
        · cases planned

theorem planMembers_error_isValidation {t : TargetType} {e : GenerateError}
    (planned : planMembers t = .error e) : e.IsValidation := by
  unfold planMembers at planned
  dsimp only at planned
  split at planned
  · rename_i failed
    cases planned
    exact planFunctions_error_isValidation failed
  · cases planned

theorem checkNamed_error_isValidation {t : TargetType} {member : String} {ps : List Parameter}
    {e : GenerateError} (checked : checkNamed t member ps = .error e) : e.IsValidation := by
  unfold checkNamed at checked
  split at checked
  · cases checked
    trivial
  · cases checked

/-- A loop whose every step fails only in checking fails only in checking. -/
theorem forIn_error_isValidation {α : Type} (body : α → PUnit → Except GenerateError (ForInStep PUnit))
    (stepChecks : ∀ x acc e, body x acc = .error e → e.IsValidation) :
    ∀ (xs : List α) {e : GenerateError}, forIn xs PUnit.unit body = .error e → e.IsValidation
  | [], e, looped => by cases looped
  | x :: rest, e, looped => by
      rw [List.forIn_cons] at looped
      cases step : body x PUnit.unit with
      | error failure =>
          rw [step] at looped
          cases looped
          exact stepChecks x _ _ step
      | ok next =>
          rw [step] at looped
          cases next with
          | done acc => cases looped
          | yield acc => exact forIn_error_isValidation body stepChecks rest looped

theorem MockClass.make_error_isValidation {t : TargetType} {plans : List MemberPlan}
    {options : GeneratorOptions} {e : GenerateError} (made : MockClass.make t plans options = .error e) :
    e.IsValidation := by
  unfold MockClass.make at made
  cases named : t.qualifiedName with
  | none =>
      simp only [named] at made
      cases made
      trivial
  | some qualified =>
      simp only [named, bind, Except.bind] at made
      -- the constructor is checked, then every planned function; then the class is made
      repeat' split at made
      all_goals first
        | (cases made; done)
        | (cases made; rename_i checked; exact checkNamed_error_isValidation checked)
        | (cases made; rename_i looped
           refine forIn_error_isValidation _ (fun plan acc failure step => ?_) plans looped
           split at step
           · split at step
             · rename_i checked
               cases step
               exact checkNamed_error_isValidation checked
             · cases step
           · cases step)

/-- Building a target's units fails only in checking it. -/
theorem Session.pendingFor_error_isValidation {s : Session} {t : TargetType} {e : GenerateError}
    (failed : s.pendingFor t = .error e) : e.IsValidation := by
  unfold pendingFor at failed
  split at failed
  · cases failed
    trivial
  · rename_i planned
    cases failed
    exact planMembers_error_isValidation planned
  · split at failed
    · rename_i made
      cases failed
      exact MockClass.make_error_isValidation made
    · cases failed

/-! ## Where a round can fail -/

section Failures

variable [Sink σ]

/-- A hand-over to a recorded sink that met a refusal recorded the units taken, then the refused
one: the units from the front of the list up to the refused one. -/
theorem handOver_refused_log {r : Recorded σ} {units : List GeneratedUnit} {u : GeneratedUnit}
    {cause : IoFailure} (refusal : (handOver r units).refused = some (u, cause)) :
    (handOver r units).taken ++ [u] <+: units ∧
      (handOver r units).sink.log =
        r.log ++ (handOver r units).taken.map Attempt.took ++ [⟨u, .error cause⟩] := by
  obtain ⟨after, split⟩ := handOver_of_refused_some refusal
  refine ⟨⟨after, by simpa using split.symm⟩, ?_⟩
  rw [handOver_log]
  simp [Handover.attempts, refusal]

theorem settleSupport_of_error {s : Session} {r : Recorded σ} {e : GenerateError}
    (failed : (s.settleSupport r).answer = .error e) :
    s.supportEmitted = false ∧ (s.settleSupport r).session = s ∧
      ∃ taken u cause, e = .sink u.qualifiedName cause ∧
        taken ++ [u] <+: supportUnits s.options.runtimePackage ∧
        (s.settleSupport r).sink.log = r.log ++ taken.map Attempt.took ++ [⟨u, .error cause⟩] := by
  cases written : s.supportEmitted with
  | true => simp [Session.settleSupport, written] at failed
  | false =>
      cases refusal : (handOver r (supportUnits s.options.runtimePackage)).refused with
      | none => simp [Session.settleSupport, written, refusal] at failed
      | some refused =>
          obtain ⟨u, cause⟩ := refused
          have settled : s.settleSupport r = ⟨.error (.sink u.qualifiedName cause), s,
              (handOver r (supportUnits s.options.runtimePackage)).sink⟩ := by
            simp [Session.settleSupport, written, refusal]
          rw [settled] at failed ⊢
          cases failed
          obtain ⟨leading, logged⟩ := handOver_refused_log refusal
          exact ⟨rfl, rfl, _, u, cause, rfl, leading, logged⟩

theorem settleCommit_of_error {s : Session} {sink : σ} {pending : PendingTarget} {e : GenerateError}
    (failed : (s.settleCommit sink pending).answer = .error e) :
    ∃ u cause, (handOver sink pending.units).refused = some (u, cause) ∧
      e = .sink u.qualifiedName cause := by
  simp only [Session.settleCommit, Handover.answer] at failed
  split at failed
  · cases failed
  · rename_i u cause refusal
    cases failed
    exact ⟨u, cause, refusal, rfl⟩

/-- A target fails in checking, with nothing changed, or in writing its units. -/
theorem settleTarget_of_error {s : Session} {sink : σ} {t : TargetType} {report : RoundReport}
    {e : GenerateError} (failed : (s.settleTarget sink t report).answer = .error e) :
    (s.pendingFor t = .error e ∧ s.settleTarget sink t report = ⟨.error e, s, sink⟩) ∨
      ∃ pending, s.pendingFor t = .ok pending ∧ (s.settleCommit sink pending).answer = .error e ∧
        s.settleTarget sink t report =
          ⟨.error e, (s.settleCommit sink pending).session, (s.settleCommit sink pending).sink⟩ := by
  rcases s.settleTarget_cases sink t report with ⟨_, passed, -⟩ | ⟨failure, built, checked⟩ |
    ⟨pending, built, -, committing⟩
  · -- a target passed over does not fail
    rw [passed] at failed
    cases failed
  · rw [checked] at failed ⊢
    cases failed
    exact Or.inl ⟨built, rfl⟩
  · rw [committing] at failed ⊢
    cases committed : (s.settleCommit sink pending).answer with
    | error failure =>
        rw [Settled.andThen_of_error committed] at failed ⊢
        cases failed
        exact Or.inr ⟨pending, built, committed, rfl⟩
    | ok introduced =>
        rw [Settled.andThen_of_ok committed] at failed
        cases failed

/-- A failed run over targets failed at one of them, after all before it succeeded. -/
theorem settleTargets_of_error {report : RoundReport} {e : GenerateError} :
    ∀ {targets : List TargetType} {s : Session} {sink : σ},
      (settleTargets targets report s sink).answer = .error e →
      ∃ pre t post report', targets = pre ++ t :: post ∧
        (settleTargets pre report s sink).answer = .ok report' ∧
        ((settleTargets pre report s sink).session.settleTarget
          (settleTargets pre report s sink).sink t report').answer = .error e
  | [], s, sink, failed => by cases failed
  | t :: rest, s, sink, failed => by
      simp only [settleTargets] at failed
      cases first : (s.settleTarget sink t report).answer with
      | error failure =>
          rw [Settled.andThen_of_error first] at failed
          cases failed
          exact ⟨[], t, rest, report, rfl, rfl, first⟩
      | ok next =>
          rw [Settled.andThen_of_ok first] at failed
          obtain ⟨pre, t', post, report', split, succeeded, fails⟩ := settleTargets_of_error failed
          have throughFirst : settleTargets (t :: pre) report s sink =
              settleTargets pre next (s.settleTarget sink t report).session
                (s.settleTarget sink t report).sink := by
            simp only [settleTargets]
            rw [Settled.andThen_of_ok first]
          exact ⟨t :: pre, t', post, report', by rw [split]; rfl, throughFirst ▸ succeeded,
            throughFirst ▸ fails⟩

/-- After a failing target no later target is looked at. -/
theorem settleTargets_stops {pre : List TargetType} {t : TargetType} {report report' : RoundReport}
    {s : Session} {sink : σ} {e : GenerateError}
    (succeeded : (settleTargets pre report s sink).answer = .ok report')
    (fails : ((settleTargets pre report s sink).session.settleTarget
      (settleTargets pre report s sink).sink t report').answer = .error e)
    (rest : List TargetType) :
    settleTargets (pre ++ t :: rest) report s sink =
      ⟨.error e, ((settleTargets pre report s sink).session.settleTarget
          (settleTargets pre report s sink).sink t report').session,
        ((settleTargets pre report s sink).session.settleTarget
          (settleTargets pre report s sink).sink t report').sink⟩ := by
  rw [settleTargets_append, Settled.andThen_of_ok succeeded]
  simp only [settleTargets]
  rw [Settled.andThen_of_error fails]

end Failures

/-! ## What a failed round leaves -/

/-- The round failed handing over the support units: the session is as it was, its support flag
unset, and the sink recorded the support units it took from the front, then the one it refused. -/
def SupportRefused (p : Progress (Recorded σ)) (e : GenerateError)
    (result : Settled (Recorded σ) RoundReport) : Prop :=
  p.session.supportEmitted = false ∧ result.session = p.session ∧
    ∃ taken u cause, e = .sink u.qualifiedName cause ∧
      taken ++ [u] <+: supportUnits p.session.options.runtimePackage ∧
      result.sink.log = p.sink.log ++ taken.map Attempt.took ++ [⟨u, .error cause⟩]

/-- Checking the target `t` failed: the failure is one of checking, and nothing was written and
nothing changed since `before`. -/
def CheckFailed (before : Settled (Recorded σ) RoundReport) (t : TargetType) (e : GenerateError)
    (result : Settled (Recorded σ) RoundReport) : Prop :=
  e.IsValidation ∧ before.session.pendingFor t = .error e ∧ result.session = before.session ∧
    result.sink = before.sink

/-- Writing the target `t` failed: its units are the stub classes of its missing shapes in shape
order, then its mock; the sink took some of them from the front and refused the next; exactly the
shapes whose stub classes it took were recorded, and `t` is not generated. -/
def WriteFailed (before : Settled (Recorded σ) RoundReport) (t : TargetType) (e : GenerateError)
    (result : Settled (Recorded σ) RoundReport) : Prop :=
  ∃ plans pending taken u cause, planMembers t = .ok plans ∧
    before.session.pendingFor t = .ok pending ∧
    ShapeOrdered (before.session.registry.missing (plans.flatMap MemberPlan.stubKinds)) ∧
    pending.units = (before.session.registry.missing (plans.flatMap MemberPlan.stubKinds)).map
      before.session.primitiveUnit ++ [pending.subtype] ∧
    e = .sink u.qualifiedName cause ∧ taken ++ [u] <+: pending.units ∧
    result.sink.log = before.sink.log ++ taken.map Attempt.took ++ [⟨u, .error cause⟩] ∧
    (∀ k, k ∈ result.session.registry.emitted ↔
      k ∈ before.session.registry.emitted ∨ before.session.primitiveUnit k ∈ taken) ∧
    result.session.generated = before.session.generated

section Round

variable [Sink σ]

/-- The failing target of a round: checking it failed with nothing changed, or writing it failed
after the sink took a leading part of its units. -/
theorem failing_target_leaves {before : Settled (Recorded σ) RoundReport} {t : TargetType}
    {report : RoundReport} {e : GenerateError}
    (fails : (before.session.settleTarget before.sink t report).answer = .error e) :
    let result : Settled (Recorded σ) RoundReport := ⟨.error e,
      (before.session.settleTarget before.sink t report).session,
      (before.session.settleTarget before.sink t report).sink⟩
    CheckFailed before t e result ∨ WriteFailed before t e result := by
  intro result
  rcases settleTarget_of_error fails with ⟨checkFailed, unchanged⟩ |
    ⟨pending, built, committed, written⟩
  · exact Or.inl ⟨Session.pendingFor_error_isValidation checkFailed, checkFailed,
      by simp only [result, unchanged], by simp only [result, unchanged]⟩
  · obtain ⟨u, cause, refusal, named⟩ := settleCommit_of_error committed
    obtain ⟨plans, planned, kindsAre, unitsAre, fromSource⟩ := before.session.units_of_pendingFor built
    obtain ⟨leading, logged⟩ := handOver_refused_log refusal
    refine Or.inr ⟨plans, pending, (handOver before.sink pending.units).taken, u, cause, planned,
      built, Registry.shapeOrdered_missing _ _, unitsAre, named, leading, ?_, fun k => ?_, ?_⟩
    · simp only [result, written]
      exact logged
    · -- the registry records the shapes of the stub classes taken before the refusal
      simp only [result, written, Session.settleCommit]
      rw [List.map_take, kindsAre, Registry.mem_insertAll, taken_stub_iff unitsAre fromSource]
    · simp only [result, written]
      rfl

/-- A round that fails keeps the work before the failure and looks no further. Either handing
over the support units failed, leaving the session as it was, or one target failed: the targets
before it were processed exactly as in a round of their own, the targets after it do not matter,
and the failing target either failed its check, writing nothing and changing nothing, or failed
in writing, after the sink took a leading part of its units, with exactly the stub classes taken
recorded and the target left ungenerated. -/
theorem failed_round_keeps_earlier_work (targets : List TargetType) (p : Progress (Recorded σ))
    {e : GenerateError} (failed : (settle ((processRound targets).run p)).answer = .error e) :
    (SupportRefused p e (settle ((processRound targets).run p)) ∧
      ∀ others, settle ((processRound others).run p) = settle ((processRound targets).run p)) ∨
    ∃ pre t post report, targets = pre ++ t :: post ∧
      (settle ((processRound pre).run p)).answer = .ok report ∧
      (∀ rest, settle ((processRound (pre ++ t :: rest)).run p) =
        settle ((processRound targets).run p)) ∧
      (CheckFailed (settle ((processRound pre).run p)) t e (settle ((processRound targets).run p)) ∨
        WriteFailed (settle ((processRound pre).run p)) t e (settle ((processRound targets).run p))) := by
  simp only [settle_processRound, Session.settleRound] at failed ⊢
  cases supported : (p.session.settleSupport p.sink).answer with
  | error failure =>
      rw [Settled.andThen_of_error supported] at failed
      cases failed
      obtain ⟨unset, same, taken, u, cause, named, leading, logged⟩ := settleSupport_of_error supported
      refine Or.inl ⟨⟨unset, ?_, taken, u, cause, named, leading, ?_⟩, fun others => ?_⟩
      · rw [Settled.andThen_of_error supported]
        exact same
      · rw [Settled.andThen_of_error supported]
        exact logged
      · rw [Settled.andThen_of_error supported, Settled.andThen_of_error supported]
  | ok supportDone =>
      simp only [Settled.andThen_of_ok supported] at failed ⊢
      obtain ⟨pre, t, post, report, split, succeeded, fails⟩ := settleTargets_of_error failed
      have whole := settleTargets_stops succeeded fails post
      rw [← split] at whole
      refine Or.inr ⟨pre, t, post, report, split, succeeded, fun rest => ?_, ?_⟩
      · rw [settleTargets_stops succeeded fails rest, whole]
      · rw [whole]
        exact failing_target_leaves fails

/-- An interface of the package `p` marked for mocking, with no containing file. -/
def unfiledFoo : TargetType :=
  { package := "p", simpleName := "Foo", qualifiedName := some "p.Foo", modality := .abstract,
    annotations := ["dev.kmock.runtime.Mocked"] }

/-- A fresh session with default options over an empty memory sink, recorded. -/
def freshMemory : Progress (Recorded MemorySink) :=
  { session := { options := {} }, sink := { inner := {} } }

theorem unfiled_target_fails_cleanly :
    (settle ((processRound [unfiledFoo]).run freshMemory)).answer =
        .error (.missingContainingFile "p.Foo") ∧
      ((SupportRefused freshMemory (.missingContainingFile "p.Foo")
          (settle ((processRound [unfiledFoo]).run freshMemory)) ∧
        ∀ others, settle ((processRound others).run freshMemory) =
          settle ((processRound [unfiledFoo]).run freshMemory)) ∨
      ∃ pre t post report, [unfiledFoo] = pre ++ t :: post ∧
        (settle ((processRound pre).run freshMemory)).answer = .ok report ∧
        (∀ rest, settle ((processRound (pre ++ t :: rest)).run freshMemory) =
          settle ((processRound [unfiledFoo]).run freshMemory)) ∧
        (CheckFailed (settle ((processRound pre).run freshMemory)) t (.missingContainingFile "p.Foo")
            (settle ((processRound [unfiledFoo]).run freshMemory)) ∨
          WriteFailed (settle ((processRound pre).run freshMemory)) t (.missingContainingFile "p.Foo")
            (settle ((processRound [unfiledFoo]).run freshMemory)))) := by
  have failed : (settle ((processRound [unfiledFoo]).run freshMemory)).answer =
      .error (.missingContainingFile "p.Foo") := by
    rw [settle_processRound]
    rfl
  exact ⟨failed, failed_round_keeps_earlier_work [unfiledFoo] freshMemory failed⟩

end Round

end KotlinMocks

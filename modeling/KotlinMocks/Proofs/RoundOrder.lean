import KotlinMocks.Proofs.Regrouping

/-!
# How a round files its targets, and the order of its writes

A round walks its targets in order and files each of them: an ineligible target is skipped, an
eligible one that mentions an unresolved symbol is deferred, an eligible and resolved one whose
display name the session generated before, or an earlier target of the same round took, is
ignored, and every other one is generated (`Session.generatedIn`). The rule for one target is
`Session.generates`; the walk applies it to a session that grows by each target generated.

The sink takes the support units first, when the session has not written them yet, and then, for
each generated target in turn, the stub classes of the shapes it introduces, in shape order, and
its mock (`Session.targetWrites`). The shapes a target introduces are those its members need that
the registry lacks when its turn comes, after the targets before it recorded theirs
(`introducedShapes`).

A round that succeeds comes to exactly this. The proof follows the walk: one step lemma for a
target that passes by and one for a target that is generated, carried over the targets by
`settleTargets_walked`.
-/

namespace KotlinMocks

variable {σ : Type}

/-! ## A round by the rules -/

/-- The targets of a round the session `s` generates, in order: walking the targets, each is
generated when `s`, grown by the targets generated before it in the round, generates it. -/
def Session.generatedIn (s : Session) : List TargetType → List TargetType
  | [] => []
  | t :: rest =>
    if s.generates t then t :: generatedIn { s with generated := s.generated ++ [t.displayName] } rest
    else generatedIn s rest

@[simp] theorem Session.generatedIn_nil (s : Session) : s.generatedIn [] = [] := rfl

theorem Session.generatedIn_cons_of_generates {s : Session} {t : TargetType}
    (generating : s.generates t = true) (rest : List TargetType) :
    s.generatedIn (t :: rest) =
      t :: generatedIn { s with generated := s.generated ++ [t.displayName] } rest := by
  simp [generatedIn, generating]

theorem Session.generatedIn_cons_of_passes {s : Session} {t : TargetType}
    (passes : s.generates t = false) (rest : List TargetType) :
    s.generatedIn (t :: rest) = s.generatedIn rest := by
  simp [generatedIn, passes]

/-- Which targets a session generates depends on its options and on the display names it
generated, and on nothing else it holds. -/
theorem Session.generatedIn_congr {s s' : Session} (sameOptions : s'.options = s.options)
    (sameGenerated : s'.generated = s.generated) (targets : List TargetType) :
    s'.generatedIn targets = s.generatedIn targets := by
  induction targets generalizing s s' with
  | nil => rfl
  | cons t rest restSame =>
      have sameVerdict : s'.generates t = s.generates t := by
        simp [generates, sameOptions, sameGenerated]
      cases generating : s.generates t with
      | false =>
          rw [generatedIn_cons_of_passes (sameVerdict.trans generating),
            generatedIn_cons_of_passes generating, restSame sameOptions sameGenerated]
      | true =>
          rw [generatedIn_cons_of_generates (sameVerdict.trans generating),
            generatedIn_cons_of_generates generating]
          exact congrArg _ (restSame sameOptions (by simp [sameGenerated]))

/-- The stub shapes each of `made` introduces when they are generated in turn from the registry
`r`: those its members need that neither `r` nor a target before it recorded, in shape order. -/
def introducedShapes (r : Registry) : List TargetType → List (List StubKind)
  | [] => []
  | t :: rest => r.missing t.stubKinds :: introducedShapes (r.insertAll (r.missing t.stubKinds)) rest

/-- The shapes a target introduces come in shape order. -/
theorem introducedShapes_ordered (r : Registry) (made : List TargetType) :
    ∀ ks ∈ introducedShapes r made, ShapeOrdered ks := by
  induction made generalizing r with
  | nil => intro ks member; cases member
  | cons t rest restOrdered =>
      intro ks member
      rcases List.mem_cons.mp member with rfl | later
      · exact Registry.shapeOrdered_missing _ _
      · exact restOrdered _ ks later

/-- The units written for `made`, generated in turn from the registry `r`: for each target, the
stub classes of the shapes it introduces, then its mock, or the failure to build it. -/
def Session.targetWrites (s : Session) :
    Registry → List TargetType → List (Except GenerateError GeneratedUnit)
  | _, [] => []
  | r, t :: rest =>
    (r.missing t.stubKinds).map (fun k => .ok (s.primitiveUnit k)) ++
      [(s.pendingFor t).map PendingTarget.subtype] ++
      targetWrites s (r.insertAll (r.missing t.stubKinds)) rest

/-- What is written for generated targets depends on the session's options alone. -/
theorem Session.targetWrites_congr {s s' : Session} (sameOptions : s'.options = s.options) :
    s'.targetWrites = s.targetWrites := by
  funext r made
  induction made generalizing r with
  | nil => rfl
  | cons t rest restSame =>
      simp only [targetWrites, restSame, primitiveUnit_eq_of_options sameOptions,
        map_subtype_pendingFor sameOptions t]

/-! ## One target -/

/-- A report with a target filed as skipped or deferred, when it is either. -/
def RoundReport.filed (report : RoundReport) (marker : String) (t : TargetType) : RoundReport :=
  { report with
    skipped := report.skipped ++ ([t].filter (!·.isEligible marker)).map (·.displayName)
    deferred := report.deferred ++
      [t].filter fun t => t.isEligible marker && !t.unresolvedReferences.isEmpty }

namespace Session

variable [Sink σ] {s : Session} {t : TargetType}

/-- A target the session does not generate is filed as skipped or deferred, or ignored, and
nothing else changes. -/
theorem settleTarget_of_passes (sink : σ) (report : RoundReport) (passes : s.generates t = false) :
    s.settleTarget sink t report = ⟨.ok (report.filed s.options.marker t), s, sink⟩ := by
  unfold settleTarget
  cases eligible : t.isEligible s.options.marker with
  | false => simp [RoundReport.filed, eligible]
  | true =>
      cases resolved : t.unresolvedReferences.isEmpty with
      | false => simp [RoundReport.filed, eligible, resolved]
      | true =>
          -- an eligible, resolved target passes by only when it was generated before
          have before : t.displayName ∈ s.generated := by
            simpa [generates, eligible, resolved] using passes
          simp [RoundReport.filed, eligible, resolved, before]

/-- A commit that succeeds was refused nothing. -/
theorem settleCommit_unrefused {sink : σ} {pending : PendingTarget} {introduced : List StubKind}
    (committed : (s.settleCommit sink pending).answer = .ok introduced) :
    (handOver sink pending.units).refused = none := by
  change (handOver sink pending.units).answer _ = _ at committed
  exact Handover.refused_none_of_answer fun name cause failed => by
    rw [failed] at committed
    cases committed

/-- A generated target that succeeds records the shapes it introduces, is recorded as generated,
reports its mock and those shapes, and the sink takes its stub classes, then its mock. -/
theorem settleTarget_of_generates {r : Recorded σ} (report : RoundReport)
    (generating : s.generates t = true) {report' : RoundReport}
    (succeeded : (s.settleTarget r t report).answer = .ok report') :
    ∃ pending, s.pendingFor t = .ok pending ∧
      pending.units = (s.registry.missing t.stubKinds).map s.primitiveUnit ++ [pending.subtype] ∧
      report' = { report with
        primitives := report.primitives ++ s.registry.missing t.stubKinds
        generated := report.generated ++ [t.mockName s.options] } ∧
      (s.settleTarget r t report).session = { s with
        registry := s.registry.insertAll (s.registry.missing t.stubKinds)
        generated := s.generated ++ [t.displayName] } ∧
      (s.settleTarget r t report).sink.log = r.log ++ pending.units.map Attempt.took := by
  cases built : s.pendingFor t with
  | error e =>
      rw [settleTarget_unbuilt report generating built] at succeeded
      cases succeeded
  | ok pending =>
      rw [settleTarget_built report generating built] at succeeded ⊢
      obtain ⟨introduced, committed, continued⟩ := Settled.andThen_eq_ok succeeded
      rw [continued] at succeeded ⊢
      cases succeeded
      obtain ⟨introducedIs, registryIs⟩ := settleCommit_of_ok committed
      obtain ⟨plans, planned, kindsAre, unitsAre, -⟩ := s.units_of_pendingFor built
      -- the shapes a target needs are those of its planned members
      have kinds : t.stubKinds = plans.flatMap MemberPlan.stubKinds := by
        simp [TargetType.stubKinds, planned]
      have introducedAre : introduced = s.registry.missing t.stubKinds := by
        rw [introducedIs, kindsAre, kinds]
      have noRefusal := settleCommit_unrefused committed
      have logged : (s.settleCommit r pending).sink.log = r.log ++ pending.units.map Attempt.took := by
        change (handOver r pending.units).sink.log = _
        rw [handOver_log, Handover.attempts, noRefusal, handOver_taken_of_refused_none noRefusal]
        simp
      refine ⟨pending, rfl, by rw [unitsAre, kinds], by rw [introducedAre,
        qualifiedName_pendingFor built], ?_, logged⟩
      show { (s.settleCommit r pending).session with
          generated := (s.settleCommit r pending).session.generated ++ [t.displayName] } = _
      rw [← introducedAre, ← registryIs]
      rfl

end Session

/-! ## The targets of a round -/

/-- What processing `targets` in turn from the session `s` and the report `report` came to, by
the rules, when it led to the report `report'` and the session `s'` after the sink took
`written`. -/
structure Walked (s : Session) (targets : List TargetType) (report report' : RoundReport)
    (s' : Session) (written : List GeneratedUnit) : Prop where
  skipped : report'.skipped =
    report.skipped ++ (targets.filter (!·.isEligible s.options.marker)).map (·.displayName)
  deferred : report'.deferred = report.deferred ++
    targets.filter fun t => t.isEligible s.options.marker && !t.unresolvedReferences.isEmpty
  generated : report'.generated =
    report.generated ++ (s.generatedIn targets).map (·.mockName s.options)
  primitives : report'.primitives =
    report.primitives ++ (introducedShapes s.registry (s.generatedIn targets)).flatten
  generated_names : s'.generated = s.generated ++ (s.generatedIn targets).map (·.displayName)
  registry : s'.registry =
    s.registry.insertAll (introducedShapes s.registry (s.generatedIn targets)).flatten
  options : s'.options = s.options
  supportEmitted : s'.supportEmitted = s.supportEmitted
  writes : written.map .ok = s.targetWrites s.registry (s.generatedIn targets)

namespace Walked

theorem nil (s : Session) (report : RoundReport) : Walked s [] report report s [] where
  skipped := by simp
  deferred := by simp
  generated := by simp
  primitives := by simp [introducedShapes]
  generated_names := by simp
  registry := by simp [introducedShapes, Registry.insertAll]
  options := rfl
  supportEmitted := rfl
  writes := rfl

/-- A target that passes by, then the rest. -/
theorem passes {s s' : Session} {t : TargetType} {rest : List TargetType}
    {report report' : RoundReport} {written : List GeneratedUnit}
    (passing : s.generates t = false)
    (later : Walked s rest (report.filed s.options.marker t) report' s' written) :
    Walked s (t :: rest) report report' s' written where
  skipped := by rw [later.skipped, List.filter_cons]; split <;> simp [RoundReport.filed, *]
  deferred := by rw [later.deferred, List.filter_cons]; split <;> simp [RoundReport.filed, *]
  generated := by rw [later.generated, s.generatedIn_cons_of_passes passing]; rfl
  primitives := by rw [later.primitives, s.generatedIn_cons_of_passes passing]; rfl
  generated_names := by rw [later.generated_names, s.generatedIn_cons_of_passes passing]
  registry := by rw [later.registry, s.generatedIn_cons_of_passes passing]
  options := later.options
  supportEmitted := later.supportEmitted
  writes := by rw [later.writes, s.generatedIn_cons_of_passes passing]

/-- A generated target, then the rest from the session it left. -/
theorem generates {s s' : Session} {t : TargetType} {rest : List TargetType}
    {report report' : RoundReport} {pending : PendingTarget} {written : List GeneratedUnit}
    (generating : s.generates t = true) (built : s.pendingFor t = .ok pending)
    (unitsAre : pending.units =
      (s.registry.missing t.stubKinds).map s.primitiveUnit ++ [pending.subtype])
    (later : Walked { s with
        registry := s.registry.insertAll (s.registry.missing t.stubKinds)
        generated := s.generated ++ [t.displayName] } rest
      { report with
        primitives := report.primitives ++ s.registry.missing t.stubKinds
        generated := report.generated ++ [t.mockName s.options] } report' s' written) :
    Walked s (t :: rest) report report' s' (pending.units ++ written) := by
  -- the walk from `s` generates `t`, then what the grown session generates of the rest
  have made : s.generatedIn (t :: rest) = t :: Session.generatedIn { s with
      registry := s.registry.insertAll (s.registry.missing t.stubKinds)
      generated := s.generated ++ [t.displayName] } rest := by
    rw [s.generatedIn_cons_of_generates generating rest]
    congr 1
    apply Session.generatedIn_congr <;> rfl
  have eligible : t.isEligible s.options.marker = true := by
    simp only [Session.generates, Bool.and_eq_true] at generating
    exact generating.1.1
  have resolved : t.unresolvedReferences.isEmpty = true := by
    simp only [Session.generates, Bool.and_eq_true] at generating
    exact generating.1.2
  refine ⟨?_, ?_, ?_, ?_, ?_, ?_, later.options, later.supportEmitted, ?_⟩
  · rw [later.skipped, List.filter_cons]
    simp [eligible]
  · rw [later.deferred, List.filter_cons]
    simp [eligible, resolved]
  · rw [later.generated, made]
    simp
  · rw [later.primitives, made]
    simp [introducedShapes]
  · rw [later.generated_names, made]
    simp
  · rw [later.registry, made]
    simp [introducedShapes, Registry.insertAll_append]
  · have sameWrites : Session.targetWrites { s with
        registry := s.registry.insertAll (s.registry.missing t.stubKinds)
        generated := s.generated ++ [t.displayName] } = s.targetWrites :=
      Session.targetWrites_congr rfl
    rw [List.map_append, later.writes, made, unitsAre, sameWrites]
    simp [Session.targetWrites, built, Except.map, Function.comp_def]

end Walked

/-- Processing targets without failure walks them by the rules, and the sink takes the units
the walk writes, each successfully. -/
theorem settleTargets_walked (targets : List TargetType) :
    ∀ {report report' : RoundReport} {s : Session} {r : Recorded σ},
      [Sink σ] → (settleTargets targets report s r).answer = .ok report' →
      ∃ written, (settleTargets targets report s r).sink.log = r.log ++ written.map Attempt.took ∧
        Walked s targets report report' (settleTargets targets report s r).session written := by
  induction targets with
  | nil =>
      intro report report' s r _ succeeded
      cases succeeded
      exact ⟨[], by simp [settleTargets], Walked.nil s report⟩
  | cons t rest restWalked =>
      intro report report' s r _ succeeded
      simp only [settleTargets] at succeeded ⊢
      obtain ⟨report₁, first, continued⟩ := Settled.andThen_eq_ok succeeded
      rw [continued] at succeeded ⊢
      cases generating : s.generates t with
      | false =>
          rw [s.settleTarget_of_passes r report generating] at first succeeded ⊢
          cases first
          obtain ⟨written, logged, walked⟩ := restWalked succeeded
          exact ⟨written, logged, walked.passes generating⟩
      | true =>
          obtain ⟨pending, built, unitsAre, reportIs, sessionIs, logged⟩ :=
            s.settleTarget_of_generates report generating first
          rw [sessionIs, reportIs] at succeeded ⊢
          obtain ⟨written, laterLogged, walked⟩ := restWalked succeeded
          refine ⟨pending.units ++ written, ?_, walked.generates generating built unitsAre⟩
          rw [laterLogged, logged]
          simp

/-! ## A round -/

/-- Writing the support units without failure writes them all unless the session wrote them
before, and changes nothing else the walk reads. -/
theorem settleSupport_of_ok [Sink σ] {s : Session} {r : Recorded σ}
    (succeeded : (s.settleSupport r).answer = .ok ()) :
    (s.settleSupport r).sink.log = r.log ++
        (if s.supportEmitted then [] else supportUnits s.options.runtimePackage).map Attempt.took ∧
      (s.settleSupport r).session.options = s.options ∧
      (s.settleSupport r).session.generated = s.generated ∧
      (s.settleSupport r).session.registry = s.registry := by
  unfold Session.settleSupport at succeeded ⊢
  cases emitted : s.supportEmitted with
  | true => simp
  | false =>
      simp only [emitted, Bool.false_eq_true, if_false] at succeeded ⊢
      cases refusal : (handOver r (supportUnits s.options.runtimePackage)).refused with
      | some failed => simp [refusal] at succeeded
      | none =>
          simp only [and_true]
          rw [handOver_log, Handover.attempts, refusal, handOver_taken_of_refused_none refusal]
          simp

/-- A round that succeeds files its targets and writes by the rules. Walking the targets in
order, the ineligible ones are reported skipped, by display name; the eligible ones that mention
an unresolved symbol are reported deferred; of the rest, those whose display name neither the
session generated before nor an earlier target of the round took are generated, their mocks'
qualified names reported and their display names recorded, and the others are ignored. The sink
took, each successfully and in this order, the support units when the session had not written
them, then for each generated target the stub classes of the shapes it introduces, in shape
order, and its mock; the shapes reported are those, in the same order. -/
theorem round_files_targets_and_writes_in_order [Sink σ] (targets : List TargetType)
    (p : Progress (Recorded σ)) {report : RoundReport}
    (succeeded : (settle ((processRound targets).run p)).answer = .ok report) :
    report.skipped =
        (targets.filter (!·.isEligible p.session.options.marker)).map (·.displayName) ∧
      report.deferred = targets.filter (fun t =>
        t.isEligible p.session.options.marker && !t.unresolvedReferences.isEmpty) ∧
      report.generated = (p.session.generatedIn targets).map (·.mockName p.session.options) ∧
      report.primitives = (introducedShapes p.session.registry (p.session.generatedIn targets)).flatten ∧
      (∀ ks ∈ introducedShapes p.session.registry (p.session.generatedIn targets), ShapeOrdered ks) ∧
      (settle ((processRound targets).run p)).session.generated =
        p.session.generated ++ (p.session.generatedIn targets).map (·.displayName) ∧
      ∃ written : List GeneratedUnit, (settle ((processRound targets).run p)).sink.log =
          p.sink.log ++ written.map Attempt.took ∧
        written.map .ok =
          (if p.session.supportEmitted then [] else supportUnits p.session.options.runtimePackage).map
              .ok ++
            p.session.targetWrites p.session.registry (p.session.generatedIn targets) := by
  rw [settle_processRound, Session.settleRound] at succeeded ⊢
  obtain ⟨u, supported, continued⟩ := Settled.andThen_eq_ok succeeded
  rw [continued] at succeeded ⊢
  obtain ⟨supportLogged, sameOptions, sameGenerated, sameRegistry⟩ := settleSupport_of_ok supported
  obtain ⟨written, logged, walked⟩ := settleTargets_walked targets succeeded
  -- the walk starts from the session the support units left, which reads as the round's own
  have made := Session.generatedIn_congr sameOptions sameGenerated targets
  refine ⟨?_, ?_, ?_, ?_, introducedShapes_ordered _ _, ?_,
    (if p.session.supportEmitted then [] else supportUnits p.session.options.runtimePackage) ++
      written, ?_, ?_⟩
  · rw [walked.skipped, sameOptions]
    simp
  · rw [walked.deferred, sameOptions]
    simp
  · rw [walked.generated, made, sameOptions]
    simp
  · rw [walked.primitives, made, sameRegistry]
    simp
  · rw [walked.generated_names, made, sameGenerated]
  · rw [logged, supportLogged]
    simp
  · rw [List.map_append, walked.writes, made, sameRegistry, Session.targetWrites_congr sameOptions]

/-- A round over an unmarked `p.Foo`, a `p.Foo` still waiting for `Bar`, and `p.Foo` with
`run(): Unit` offered twice, from a fresh session with default options over an empty memory
sink that records every write (`freshMemory`). -/
def fooRound : List TargetType := [Cli.unmarkedFoo, Cli.waitingFoo, fooRuns, fooRuns]

theorem foo_filed_and_generated_once :
    (settle ((processRound fooRound).run freshMemory)).answer =
        .ok { skipped := ["p.Foo"], deferred := [Cli.waitingFoo], generated := ["p.FooMock"],
              primitives := [⟨0, false⟩] } ∧
      ({ skipped := ["p.Foo"], deferred := [Cli.waitingFoo], generated := ["p.FooMock"],
          primitives := [⟨0, false⟩] } : RoundReport).skipped =
        (fooRound.filter (!·.isEligible freshMemory.session.options.marker)).map (·.displayName) := by
  have answered : (settle ((processRound fooRound).run freshMemory)).answer =
      .ok { skipped := ["p.Foo"], deferred := [Cli.waitingFoo], generated := ["p.FooMock"],
            primitives := [⟨0, false⟩] } := by
    rw [settle_processRound]
    rfl
  exact ⟨answered, (round_files_targets_and_writes_in_order fooRound freshMemory answered).1⟩

end KotlinMocks

import KotlinMocks.Cli.Rounds
import KotlinMocks.Proofs.PrimitivesOnce

/-!
# Targets carried from round to round

A round defers each eligible target that still mentions unresolved symbols, and the next round
offers the deferred targets again in front of its own, dropping those it supplies afresh under
the same display name. So when every round succeeds, what is still carried after the last round
is each round's deferred targets that no later round supplies, by round and then by position.
The run fails naming exactly those, and when there are none it sums the rounds up: the mocks of
every round in order, and one stub class for each shape the session recorded.

The rounds are run in their settled form, `Cli.settleDrive`, which `Cli.runRounds_settled` ties to
the driver.
-/

namespace KotlinMocks

variable {σ : Type}

/-- Whether a round defers the target: it is eligible and still mentions unresolved symbols. -/
def TargetType.waits (t : TargetType) (marker : String) : Bool :=
  t.isEligible marker && !t.unresolvedReferences.isEmpty

/-- Recording anew grows an ordered registry by the number of shapes it adds. -/
theorem RecordedAnew.size_eq {before after : Registry} {added : List StubKind}
    (anew : RecordedAnew before after added) (orderedBefore : before.Ordered)
    (orderedAfter : after.Ordered) (grows : before.emitted ⊆ after.emitted) :
    after.size = before.size + added.length := by
  have distinct : (before.emitted ++ added).Nodup := by
    refine List.nodup_append.mpr ⟨ShapeOrdered.nodup orderedBefore, anew.nodup, ?_⟩
    rintro x recorded y fresh rfl
    exact ((anew.mem_iff x).mp fresh).2 recorded
  -- both lists are duplicate-free with the same members, so one is a permutation of the other
  have same : after.emitted.Perm (before.emitted ++ added) := by
    refine (List.perm_ext_iff_of_nodup (ShapeOrdered.nodup orderedAfter) distinct).mpr fun k => ?_
    rw [List.mem_append, anew.mem_iff]
    by_cases recorded : k ∈ before.emitted
    · simp [recorded, grows recorded]
    · simp [recorded]
  simp only [Registry.size, same.length_eq, List.length_append]

section Rounds

variable [Sink σ] {s : Session} {sink : σ}

/-- Processing a target records some shapes, whatever its outcome. -/
theorem settleTarget_registry (t : TargetType) (report : RoundReport) :
    ∃ kinds, (s.settleTarget sink t report).session.registry = s.registry.insertAll kinds := by
  rcases s.settleTarget_cases sink t report with ⟨_, passed, -⟩ | ⟨_, -, failed⟩ |
    ⟨pending, -, -, committing⟩
  · rw [passed]
    exact ⟨[], rfl⟩
  · rw [failed]
    exact ⟨[], rfl⟩
  · rw [committing]
    exact Settled.andThen_keeps
      (P := fun s' (_ : σ) => ∃ kinds, s'.registry = s.registry.insertAll kinds)
      ⟨_, rfl⟩ fun _ _ => ⟨_, rfl⟩

theorem settleTargets_registry (targets : List TargetType) (report : RoundReport) :
    ∃ kinds,
      (settleTargets targets report s sink).session.registry = s.registry.insertAll kinds := by
  induction targets generalizing report s sink with
  | nil => exact ⟨[], rfl⟩
  | cons t rest restRecords =>
      have firstRecords : ∃ kinds,
          (s.settleTarget sink t report).session.registry = s.registry.insertAll kinds :=
        settleTarget_registry t report
      obtain ⟨first, firstIs⟩ := firstRecords
      refine Settled.andThen_keeps
        (P := fun s' (_ : σ) => ∃ kinds, s'.registry = s.registry.insertAll kinds)
        ⟨first, firstIs⟩ ?_
      intro next _
      have laterRecords : ∃ kinds,
          (settleTargets rest next (s.settleTarget sink t report).session
            (s.settleTarget sink t report).sink).session.registry =
          (s.settleTarget sink t report).session.registry.insertAll kinds :=
        restRecords next
      obtain ⟨later, laterIs⟩ := laterRecords
      exact ⟨first ++ later, by rw [laterIs, firstIs, Registry.insertAll_append]⟩

/-- A round keeps its session's registry ordered. -/
theorem settleRound_ordered (targets : List TargetType) (ordered : s.registry.Ordered) :
    (s.settleRound sink targets).session.registry.Ordered := by
  refine Settled.andThen_keeps (P := fun s' (_ : σ) => s'.registry.Ordered)
    (by rw [settleSupport_registry]; exact ordered) fun _ _ => ?_
  have recordedKinds : ∃ kinds,
      (settleTargets targets {} (s.settleSupport sink).session
        (s.settleSupport sink).sink).session.registry =
        (s.settleSupport sink).session.registry.insertAll kinds :=
    settleTargets_registry targets {}
  obtain ⟨kinds, recorded⟩ := recordedKinds
  rw [recorded, settleSupport_registry]
  exact ordered.insertAll kinds

/-- A round that succeeds grows an ordered registry by the shapes it reports. -/
theorem settleRound_size (targets : List TargetType) (ordered : s.registry.Ordered)
    {report : RoundReport} (succeeded : (s.settleRound sink targets).answer = .ok report) :
    (s.settleRound sink targets).session.registry.size =
      s.registry.size + report.primitives.length :=
  (settleRound_recordedAnew targets succeeded).size_eq ordered (settleRound_ordered targets ordered)
    (settleRound_grows targets).registry_subset

/-- A target processed without failure joins the deferred targets exactly when it waits. -/
theorem settleTarget_deferred {t : TargetType} {report report' : RoundReport}
    (succeeded : (s.settleTarget sink t report).answer = .ok report') :
    report'.deferred = report.deferred ++ [t].filter (·.waits s.options.marker) := by
  unfold Session.settleTarget at succeeded
  split at succeeded
  · rename_i ineligible
    cases succeeded
    simp_all [TargetType.waits]
  split at succeeded
  · rename_i eligible unresolved
    cases succeeded
    simp_all [TargetType.waits]
  -- from here on the target is eligible and resolved, so it does not wait
  rename_i eligible resolved
  have ready : t.waits s.options.marker = false := by simp_all [TargetType.waits]
  split at succeeded
  · cases succeeded
    simp [ready]
  split at succeeded
  · cases succeeded
  · rename_i pending built
    obtain ⟨introduced, -, continued⟩ := Settled.andThen_eq_ok succeeded
    rw [continued] at succeeded
    cases succeeded
    simp [ready]

theorem settleTargets_deferred (targets : List TargetType) {report report' : RoundReport}
    (succeeded : (settleTargets targets report s sink).answer = .ok report') :
    report'.deferred = report.deferred ++ targets.filter (·.waits s.options.marker) := by
  induction targets generalizing report s sink with
  | nil =>
      cases succeeded
      simp
  | cons t rest restDefers =>
      simp only [settleTargets] at succeeded
      obtain ⟨next, first, continued⟩ := Settled.andThen_eq_ok succeeded
      rw [continued] at succeeded
      have sameOptions : (s.settleTarget sink t report).session.options = s.options :=
        (settleTarget_grows t report).options_eq
      rw [restDefers succeeded, settleTarget_deferred first, sameOptions]
      cases waiting : t.waits s.options.marker <;> simp [waiting]

/-- A round that succeeds defers exactly the targets that wait, in the order it was offered
them. -/
theorem settleRound_deferred (targets : List TargetType) {report : RoundReport}
    (succeeded : (s.settleRound sink targets).answer = .ok report) :
    report.deferred = targets.filter (·.waits s.options.marker) := by
  unfold Session.settleRound at succeeded
  obtain ⟨u, -, continued⟩ := Settled.andThen_eq_ok succeeded
  rw [continued] at succeeded
  have sameOptions : (s.settleSupport sink).session.options = s.options :=
    settleSupport_grows.options_eq
  rw [settleTargets_deferred targets succeeded, sameOptions]
  rfl

end Rounds

namespace Cli

/-! ## The rounds of a run -/

/-- Whether a round supplies a target under the display name of `t`. -/
def supplies (round : List TargetType) (t : TargetType) : Bool :=
  round.any (·.displayName == t.displayName)

/-- The targets of a list of rounds still deferred after the last of them: those of each round
that wait, unless a later round supplies their display name, by round and then by position. -/
def stillDeferred (marker : String) : List (List TargetType) → List TargetType
  | [] => []
  | round :: later =>
    round.filter (fun t => t.waits marker && !later.any (supplies · t)) ++
      stillDeferred marker later

/-- The rounds of a run as the driver works them, diagnostics aside: each round is offered the
targets carried from the one before, and the first round that fails ends the run. Its answer is
the reports of the rounds after those `done` before, and the targets carried after the last. -/
def settleDrive [Sink σ] :
    List (List TargetType) → List TargetType → List RoundReport → Session → σ →
      Settled σ (List RoundReport × List TargetType)
  | [], carried, done, s, sink => ⟨.ok (done, carried), s, sink⟩
  | round :: rest, carried, done, s, sink =>
    (s.settleRound sink (offered carried round)).andThen fun report s sink =>
      settleDrive rest report.deferred (done ++ [report]) s sink

/-- Where every carried target waits, the offered targets that wait are the carried ones the
round does not supply, then the round's own that wait. -/
theorem filter_waits_offered {marker : String} {carried : List TargetType} (round : List TargetType)
    (waiting : ∀ t ∈ carried, t.waits marker) :
    (offered carried round).filter (·.waits marker) =
      carried.filter (fun t => !supplies round t) ++ round.filter (·.waits marker) := by
  rw [offered, List.filter_append, List.filter_eq_self.mpr]
  · rfl
  · intro t kept
    exact waiting t (List.mem_of_mem_filter kept)

theorem Summary.foldl_add_generated (reports : List RoundReport) :
    ∀ summary : Summary,
      (reports.foldl Summary.add summary).generated =
        summary.generated ++ reports.flatMap (·.generated) := by
  induction reports with
  | nil => simp
  | cons report rest restGenerated =>
      intro summary
      simp [restGenerated, Summary.add]

theorem Summary.foldl_add_primitives (reports : List RoundReport) :
    ∀ summary : Summary,
      (reports.foldl Summary.add summary).primitives =
        summary.primitives + (reports.flatMap (·.primitives)).length := by
  induction reports with
  | nil => simp
  | cons report rest restCount =>
      intro summary
      simp only [List.foldl_cons, restCount, Summary.primitives_add, List.flatMap_cons,
        List.length_append]
      omega

@[simp] theorem Rounds.run_note (e : Trace.Event) (p : Progress σ) :
    (Rounds.note e).run p = .ok () { p with events := p.events ++ [{ e with spans := p.spans }] } :=
  rfl

/-- A session step inside a run: its failure, seen from the task, ends the run, and its answer
carries the run on. -/
theorem Rounds.run_within_bind {α β : Type} (context : String) (g : Generation σ α)
    (f : α → Rounds σ β) (p : Progress σ) :
    (Rounds.within context g >>= f).run p =
      match g.run p with
      | .ok a q => (f a).run q
      | .error e q => .error ((⟨e.causes⟩ : Failure).within context) q := by
  simp only [EStateM.run, Rounds.within, bind, EStateM.bind]
  cases g p <;> rfl

section Drive

variable [Sink σ]

/-- A round of the driver: its start is noted, which changes neither the session nor the sink,
then its targets are processed, and the run goes on from the round's report. -/
theorem run_runRounds_cons (round : List TargetType) (rest : List (List TargetType)) (index : Nat)
    (carried : List TargetType) (summary : Summary) (p : Progress σ) :
    ∃ noted : Progress σ, noted.session = p.session ∧ noted.sink = p.sink ∧
      (runRounds (round :: rest) index carried summary).run p =
        (Rounds.within ("generation failed in round " ++ Decimal.digitsOf (index + 1))
            (processRound (offered carried round)) >>= fun report =>
          runRounds rest (index + 1) report.deferred (summary.add report)).run noted := by
  refine ⟨{ p with events := p.events ++ [{
      origin := runOrigin, level := .debug, message := "starting round",
      fields := [("round", .count (index + 1)), ("targets", .count (offered carried round).length)],
      spans := p.spans }] }, rfl, rfl, ?_⟩
  rw [runRounds, EStateM.run_bind, Rounds.run_note]

/-- The first round of a run that fails ends it. -/
theorem settleDrive_of_round {round : List TargetType} {rest : List (List TargetType)}
    {carried : List TargetType} {done reports : List RoundReport} {left : List TargetType}
    {s : Session} {sink : σ}
    (succeeded : (settleDrive (round :: rest) carried done s sink).answer = .ok (reports, left)) :
    ∃ report, (s.settleRound sink (offered carried round)).answer = .ok report ∧
      settleDrive (round :: rest) carried done s sink =
        settleDrive rest report.deferred (done ++ [report])
          (s.settleRound sink (offered carried round)).session
          (s.settleRound sink (offered carried round)).sink := by
  simp only [settleDrive] at succeeded ⊢
  exact Settled.andThen_eq_ok succeeded

/-- When every round succeeds, the targets carried at the end are the carried targets that no
round supplies, then those that wait in each round and that no later round supplies. -/
theorem settleDrive_carried (rounds : List (List TargetType)) :
    ∀ {carried : List TargetType} {done reports : List RoundReport} {left : List TargetType}
      {s : Session} {sink : σ}, (∀ t ∈ carried, t.waits s.options.marker) →
      (settleDrive rounds carried done s sink).answer = .ok (reports, left) →
      left = carried.filter (fun t => !rounds.any (supplies · t)) ++
        stillDeferred s.options.marker rounds := by
  induction rounds with
  | nil =>
      intro carried done reports left s sink _ succeeded
      cases succeeded
      simp [stillDeferred]
  | cons round rest restCarried =>
      intro carried done reports left s sink waiting succeeded
      obtain ⟨report, first, driveIs⟩ := settleDrive_of_round succeeded
      rw [driveIs] at succeeded
      have sameOptions : (s.settleRound sink (offered carried round)).session.options = s.options :=
        (settleRound_grows (offered carried round)).options_eq
      have deferred : report.deferred =
          carried.filter (fun t => !supplies round t) ++ round.filter (·.waits s.options.marker) := by
        rw [settleRound_deferred _ first, filter_waits_offered round waiting]
      -- the targets a round defers wait under the same marker in the next round
      have stillWaiting : ∀ t ∈ report.deferred,
          t.waits (s.settleRound sink (offered carried round)).session.options.marker := by
        intro t member
        rw [sameOptions]
        rw [settleRound_deferred _ first] at member
        exact (List.mem_filter.mp member).2
      rw [restCarried stillWaiting succeeded, sameOptions, deferred]
      simp only [List.filter_append, List.filter_filter, stillDeferred, List.any_cons,
        Bool.not_or, List.append_assoc, Bool.and_comm]

/-- When every round succeeds, the stub classes the rounds report number the shapes the
session recorded over them. -/
theorem settleDrive_size (rounds : List (List TargetType)) :
    ∀ {carried : List TargetType} {done reports : List RoundReport} {left : List TargetType}
      {s : Session} {sink : σ}, s.registry.Ordered →
      (settleDrive rounds carried done s sink).answer = .ok (reports, left) →
      (settleDrive rounds carried done s sink).session.registry.size +
          (done.flatMap (·.primitives)).length =
        s.registry.size + (reports.flatMap (·.primitives)).length := by
  induction rounds with
  | nil =>
      intro carried done reports left s sink _ succeeded
      cases succeeded
      rfl
  | cons round rest restSize =>
      intro carried done reports left s sink ordered succeeded
      obtain ⟨report, first, driveIs⟩ := settleDrive_of_round succeeded
      rw [driveIs] at succeeded ⊢
      have grown := settleRound_size _ ordered first
      have later := restSize (settleRound_ordered _ ordered) succeeded
      simp only [List.flatMap_append, List.length_append, List.flatMap_cons, List.flatMap_nil,
        List.append_nil] at later
      omega

/-- Rounds in a row that all succeed are what the driver runs: it answers with the sum of the
rounds' reports when no target is left over, and otherwise fails naming those left over. -/
theorem runRounds_settled (rounds : List (List TargetType)) :
    ∀ (index : Nat) (carried : List TargetType) (done : List RoundReport) (p : Progress σ)
      {reports : List RoundReport} {left : List TargetType},
      (settleDrive rounds carried done p.session p.sink).answer = .ok (reports, left) →
      ∃ q : Progress σ, q.session = (settleDrive rounds carried done p.session p.sink).session ∧
        (runRounds rounds index carried (done.foldl Summary.add {})).run p =
          if left.isEmpty then .ok (reports.foldl Summary.add {}) q
          else .error (unresolvedFailure left) q := by
  induction rounds with
  | nil =>
      intro index carried done p reports left succeeded
      cases succeeded
      refine ⟨p, rfl, ?_⟩
      rw [runRounds]
      cases carried.isEmpty <;> rfl
  | cons round rest restRuns =>
      intro index carried done p reports left succeeded
      obtain ⟨report, first, driveIs⟩ := settleDrive_of_round succeeded
      rw [driveIs] at succeeded ⊢
      obtain ⟨noted, notedSession, notedSink, stepIs⟩ :=
        run_runRounds_cons round rest index carried (done.foldl Summary.add {}) p
      have settled := settle_processRound (offered carried round) noted
      rw [notedSession, notedSink] at settled
      cases ran : (processRound (offered carried round)).run noted with
      | error e q =>
          rw [ran] at settled
          have failed :
              (p.session.settleRound p.sink (offered carried round)).answer = .error e := by
            rw [← settled]; rfl
          rw [failed] at first
          cases first
      | ok next q =>
          rw [ran] at settled
          rw [← settled] at first succeeded ⊢
          cases first
          obtain ⟨final, finalSession, finalRun⟩ :=
            restRuns (index + 1) report.deferred (done ++ [report]) q succeeded
          refine ⟨final, finalSession, ?_⟩
          rw [stepIs, Rounds.run_within_bind, ran]
          rw [List.foldl_append] at finalRun
          exact finalRun

end Drive

/-- When every round of a model succeeds, the targets left over after the last round are each
round's targets that wait, eligible but still mentioning unresolved symbols, that no later
round supplies under their display name, by round and then by position. The run succeeds
exactly when there are none; it then lists every round's mocks in order and counts one stub
class for each shape the session recorded, and otherwise it fails naming the targets left
over. -/
theorem deferred_targets_left_after_rounds (model : ModelFile) (options : GeneratorOptions)
    (sink : σ) [Sink σ] {reports : List RoundReport} {carried : List TargetType}
    (everyRoundSucceeds :
      (settleDrive model.rounds [] [] { options } sink).answer = .ok (reports, carried)) :
    carried = stillDeferred options.marker model.rounds ∧
      match generate model options sink with
      | .ok summary p => carried = [] ∧ summary.generated = reports.flatMap (·.generated) ∧
          summary.primitives = p.session.registry.size
      | .error failure _ => carried ≠ [] ∧ failure = unresolvedFailure carried := by
  have leftOver := settleDrive_carried model.rounds (by simp) everyRoundSucceeds
  simp only [List.filter_nil, List.nil_append] at leftOver
  refine ⟨leftOver, ?_⟩
  obtain ⟨q, finalSession, ran⟩ :=
    runRounds_settled model.rounds 0 [] [] { session := { options }, sink } everyRoundSucceeds
  have sized := settleDrive_size model.rounds Registry.ordered_empty everyRoundSucceeds
  have generated : generate model options sink =
      if carried.isEmpty then .ok (reports.foldl Summary.add {}) q
      else .error (unresolvedFailure carried) q := ran
  rw [generated]
  cases empty : carried.isEmpty
  · have nonEmpty : carried ≠ [] := by simpa using empty
    simp [nonEmpty]
  · have isNil : carried = [] := by simpa using empty
    refine ⟨isNil, Summary.foldl_add_generated reports {}, ?_⟩
    rw [Summary.foldl_add_primitives, finalSession]
    simp only [List.flatMap_nil, List.length_nil, Nat.add_zero] at sized
    rw [sized]
    rfl

/-- A target of package `p` whose property `bar` has the type `Bar`, which is not resolved yet. -/
def waitingFoo : TargetType :=
  { package := "p", simpleName := "Foo", qualifiedName := some "p.Foo", modality := .abstract,
    annotations := ["dev.kmock.runtime.Mocked"], containingFile := some "src/Foo.kt",
    properties := [.open "bar" (.unresolved "Bar") false] }

/-- The same target once `Bar` is gone from it, and no longer marked. -/
def unmarkedFoo : TargetType := { waitingFoo with annotations := [], properties := [] }

theorem waiting_foo_replaced_next_round :
    (settleDrive [[waitingFoo], [unmarkedFoo]] [] [] { options := {} } ({} : MemorySink)).answer =
        .ok ([{ deferred := [waitingFoo] }, { skipped := ["p.Foo"] }], []) ∧
      [] = stillDeferred ({} : GeneratorOptions).marker [[waitingFoo], [unmarkedFoo]] ∧
      match generate ⟨[[waitingFoo], [unmarkedFoo]]⟩ {} ({} : MemorySink) with
      | .ok summary p => ([] : List TargetType) = [] ∧
          summary.generated = [{ deferred := [waitingFoo] },
            ({ skipped := ["p.Foo"] } : RoundReport)].flatMap (·.generated) ∧
          summary.primitives = p.session.registry.size
      | .error failure _ => ([] : List TargetType) ≠ [] ∧ failure = unresolvedFailure [] :=
  have ran :
      (settleDrive [[waitingFoo], [unmarkedFoo]] [] [] { options := {} } ({} : MemorySink)).answer =
        .ok ([{ deferred := [waitingFoo] }, { skipped := ["p.Foo"] }], []) := by rfl
  ⟨ran, deferred_targets_left_after_rounds ⟨[[waitingFoo], [unmarkedFoo]]⟩ {} ({} : MemorySink)
    ran⟩

end Cli

end KotlinMocks

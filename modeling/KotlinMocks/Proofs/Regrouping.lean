import KotlinMocks.Proofs.DryRun

/-!
# Regrouped rounds

How a session's targets are split into rounds, and in which order they come, changes only the
order of the writes and what each round reports. Whether a session generates a target depends on
the target and on what the session held at the start (`Session.generates`), the text of every
unit on the target and the options alone, and recording shapes in a registry commutes
(`Registry.insertAll_perm`). So a run on a memory sink in which every round succeeds is pinned
down, up to order, by the targets it generated (`Processed`): the sink took the support units if
the session had not written them, the stub class of every shape a generated target needs and the
session lacked, and the mock of every generated target, each once; two such runs over the same
targets stand alike but for order (`Processed.agree`, `regrouped_rounds_write_the_same_units`).
-/

namespace KotlinMocks

variable {σ : Type}

/-! ## Recording shapes in any order -/

/-- Two shapes inserted in either order give one list. -/
theorem insertKind_comm (a b : StubKind) :
    ∀ kinds : List StubKind,
      insertKind a (insertKind b kinds) = insertKind b (insertKind a kinds) := by
  by_cases same : a = b
  · subst same; intro; rfl
  have apart : a.key ≠ b.key := fun sameKey => same (StubKind.key_injective sameKey)
  intro kinds
  induction kinds with
  | nil =>
      simp only [insertKind]
      split_ifs <;> simp_all <;> omega
  | cons x rest restComm =>
      -- each insertion stops before the head, drops a shape already there, or goes past it,
      -- as the keys compare; past the head both orders meet again in `rest`
      simp only [insertKind]
      split_ifs <;> simp only [insertKind] <;> split_ifs <;> simp_all <;> omega

namespace Registry

/-- Recording two shapes in either order gives one registry. -/
theorem insert_comm (r : Registry) (a b : StubKind) :
    ((r.insert a).1.insert b).1 = ((r.insert b).1.insert a).1 := by
  by_cases same : a = b
  · rw [same]
  by_cases hasA : a ∈ r.emitted <;> by_cases hasB : b ∈ r.emitted <;>
    simp [insert, contains, hasA, hasB, same, Ne.symm same, insertKind_comm]

/-- Recording the shapes of a list gives one registry whatever their order. -/
theorem insertAll_perm (r : Registry) {first second : List StubKind}
    (reordered : first.Perm second) :
    r.insertAll first = r.insertAll second :=
  reordered.foldl_eq' (fun a _ b _ r => insert_comm r a b) r

/-- Recording the shapes of a list that a registry lacks records every shape of the list. -/
theorem mem_insertAll_missing (r : Registry) (kinds : List StubKind) (k : StubKind) :
    k ∈ (r.insertAll (r.missing kinds)).emitted ↔ k ∈ r.emitted ∨ k ∈ kinds := by
  rw [mem_insertAll, mem_missing]
  by_cases recorded : k ∈ r.emitted <;> simp [recorded]

end Registry

/-! ## A memory sink that refused nothing -/

namespace MemorySink

/-- A memory sink that refused none of the units handed to it took units of distinct names that
it held no unit of, and holds them after the ones it held. -/
theorem handOver_of_refused_none (units : List GeneratedUnit) :
    ∀ {m : MemorySink}, (handOver m units).refused = none →
      (units.map GeneratedUnit.qualifiedName).Nodup ∧ (∀ u ∈ units, u.qualifiedName ∉ m.names) ∧
        (handOver m units).sink.units = m.units ++ units.map fun u => (u.qualifiedName, u) := by
  induction units with
  | nil => intro m _; simp
  | cons u rest restTaken =>
      intro m noRefusal
      rw [handOver_cons] at noRefusal ⊢
      cases took : (Sink.write m u).outcome with
      | error cause => rw [took] at noRefusal; cases noRefusal
      | ok =>
          simp only [took] at noRefusal ⊢
          change (m.write u).outcome = .ok () at took
          have held := write_units_of_ok took
          obtain ⟨distinct, fresh, unitsAre⟩ := restTaken (m := (m.write u).sink) noRefusal
          -- every later unit is fresh for the sink that took `u`, so named apart from `u`
          have apartFromFirst : u.qualifiedName ∉ rest.map GeneratedUnit.qualifiedName := by
            intro named
            obtain ⟨v, member, sameName⟩ := List.mem_map.mp named
            exact fresh v member (by simp [names, held, sameName])
          refine ⟨List.nodup_cons.mpr ⟨apartFromFirst, distinct⟩, ?_, ?_⟩
          · intro v member
            rcases List.mem_cons.mp member with rfl | later
            · exact (write_ok_iff m v).mp took
            · exact fun named => fresh v later
                (by rw [names, held, List.map_append, List.mem_append]; exact Or.inl named)
          · change (handOver (m.write u).sink rest).sink.units = _
            rw [unitsAre, held]
            simp

end MemorySink

/-- Reordering a list of distinct keys looks up every key alike. -/
theorem lookup_eq_of_perm {α β : Type} [DecidableEq α] {first second : List (α × β)}
    (reordered : first.Perm second) (distinct : (first.map Prod.fst).Nodup) (key : α) :
    first.lookup key = second.lookup key := by
  induction reordered with
  | nil => rfl
  | cons x _ restSame =>
      obtain ⟨k, v⟩ := x
      rw [List.lookup_cons, List.lookup_cons, restSame (List.nodup_cons.mp distinct).2]
  | swap x y rest =>
      obtain ⟨k, v⟩ := x
      obtain ⟨k', v'⟩ := y
      have apart : k' ≠ k := by
        simp only [List.map_cons, List.nodup_cons, List.mem_cons, not_or] at distinct
        exact distinct.1.1
      have unequal : (k' == k) = false := beq_false_of_ne apart
      have unequal' : (k == k') = false := beq_false_of_ne (Ne.symm apart)
      by_cases atFirst : key = k'
      · subst atFirst
        simp only [List.lookup_cons, beq_self_eq_true, unequal]
      by_cases atSecond : key = k
      · subst atSecond
        simp only [List.lookup_cons, beq_self_eq_true, unequal']
      have notFirst : (key == k') = false := beq_false_of_ne atFirst
      have notSecond : (key == k) = false := beq_false_of_ne atSecond
      simp only [List.lookup_cons, notFirst, notSecond]
  | trans first second firstSame secondSame =>
      rw [firstSame distinct, secondSame ((first.map Prod.fst).nodup_iff.mp distinct)]

/-! ## Which targets a session generates -/

/-- Whether a session generates a target offered to it: the target is eligible, mentions nothing
unresolved, and was not generated before. -/
def Session.generates (s : Session) (t : TargetType) : Bool :=
  t.isEligible s.options.marker && t.unresolvedReferences.isEmpty &&
    !s.generated.contains t.displayName

/-- The stub shapes a target's members need. -/
def TargetType.stubKinds (t : TargetType) : List StubKind :=
  match planMembers t with
  | .ok plans => plans.flatMap MemberPlan.stubKinds
  | .error _ => []

namespace Session

variable [Sink σ] {s : Session} {sink : σ} {t : TargetType}

/-- A target the session does not generate passes by, reporting no mock and no shape. -/
theorem settleTarget_passed (sink : σ) (report : RoundReport) (passed : s.generates t = false) :
    ∃ report', s.settleTarget sink t report = ⟨.ok report', s, sink⟩ ∧
      report'.primitives = report.primitives ∧ report'.generated = report.generated := by
  unfold settleTarget
  split
  · exact ⟨_, rfl, rfl, rfl⟩
  split
  · exact ⟨_, rfl, rfl, rfl⟩
  split
  · exact ⟨_, rfl, rfl, rfl⟩
  rename_i eligible resolved fresh
  simp_all [generates]

/-- A target the session generates fails when its units cannot be built. -/
theorem settleTarget_unbuilt (report : RoundReport) (generating : s.generates t = true)
    {e : GenerateError} (failed : s.pendingFor t = .error e) :
    s.settleTarget sink t report = ⟨.error e, s, sink⟩ := by
  simp only [generates, Bool.and_eq_true, Bool.not_eq_eq_eq_not, Bool.not_true] at generating
  obtain ⟨⟨eligible, resolved⟩, fresh⟩ := generating
  have notGenerated : t.displayName ∉ s.generated := by simpa using fresh
  simp [settleTarget, eligible, resolved, notGenerated, failed]

/-- A target the session generates, once built, is committed and recorded as generated. -/
theorem settleTarget_built (report : RoundReport) (generating : s.generates t = true)
    {pending : PendingTarget} (built : s.pendingFor t = .ok pending) :
    s.settleTarget sink t report = (s.settleCommit sink pending).andThen fun introduced s sink =>
      ⟨.ok { report with
          primitives := report.primitives ++ introduced
          generated := report.generated ++ [pending.subtype.qualifiedName] },
        { s with generated := s.generated ++ [t.displayName] }, sink⟩ := by
  simp only [generates, Bool.and_eq_true, Bool.not_eq_eq_eq_not, Bool.not_true] at generating
  obtain ⟨⟨eligible, resolved⟩, fresh⟩ := generating
  have notGenerated : t.displayName ∉ s.generated := by simpa using fresh
  simp [settleTarget, eligible, resolved, notGenerated, built]

/-- The units a built target hands over, told by a session of the same options: the stub
classes of the shapes it introduces, and its mock. -/
theorem mem_units_of_pendingFor {s₀ : Session} (sameOptions : s.options = s₀.options)
    {pending : PendingTarget} (built : s.pendingFor t = .ok pending) (u : GeneratedUnit) :
    u ∈ pending.units ↔ (∃ k ∈ pending.primitives.map Prod.fst, u = s₀.primitiveUnit k) ∨
      (s₀.pendingFor t).map PendingTarget.subtype = .ok u := by
  obtain ⟨plans, -, kindsAre, unitsAre, -⟩ := s.units_of_pendingFor built
  rw [unitsAre, ← kindsAre, primitiveUnit_eq_of_options sameOptions,
    ← map_subtype_pendingFor sameOptions t, built]
  simp [eq_comm, Except.map]

/-- Processing a target leaves the support flag as it was. -/
theorem settleTarget_supportEmitted (t : TargetType) (report : RoundReport) :
    (s.settleTarget sink t report).session.supportEmitted = s.supportEmitted := by
  rcases s.settleTarget_cases sink t report with ⟨_, passed, -⟩ | ⟨_, -, failed⟩ |
    ⟨pending, -, -, committing⟩
  · rw [passed]
  · rw [failed]
  · rw [committing]
    exact Settled.andThen_keeps (P := fun s' (_ : σ) => s'.supportEmitted = s.supportEmitted)
      rfl fun _ _ => rfl

end Session

theorem settleTargets_supportEmitted [Sink σ] (targets : List TargetType) :
    ∀ {report : RoundReport} {s : Session} {sink : σ},
      (settleTargets targets report s sink).session.supportEmitted = s.supportEmitted := by
  induction targets with
  | nil => intro report s sink; rfl
  | cons t rest restKeeps =>
      intro report s sink
      exact Settled.andThen_keeps (P := fun s' (_ : σ) => s'.supportEmitted = s.supportEmitted)
        (s.settleTarget_supportEmitted t report) fun next _ =>
          restKeeps.trans (s.settleTarget_supportEmitted t report)

/-! ## What a run that met no failure did -/

/-- Where a session and a memory sink stand after a run from `s₀` and `m₀` that met no failure:
the run generated the targets `made`, in order, and recorded the shapes `shapes`, each once; the
sink took the units `written` after those it held, each under a name of its own: the support
units if the run wrote them, the stub class of each recorded shape and the mock of each
generated target. -/
structure Processed (s₀ : Session) (m₀ : MemorySink) (made : List TargetType)
    (shapes : List StubKind) (written : List GeneratedUnit) (s : Session) (m : MemorySink) :
    Prop where
  options_eq : s.options = s₀.options
  support_kept : s₀.supportEmitted = true → s.supportEmitted = true
  generated_eq : s.generated = s₀.generated ++ made.map TargetType.displayName
  registry_eq : s.registry = s₀.registry.insertAll shapes
  anew : RecordedAnew s₀.registry s.registry shapes
  recorded_iff : ∀ k, k ∈ s.registry.emitted ↔ k ∈ s₀.registry.emitted ∨ ∃ t ∈ made, k ∈ t.stubKinds
  units_eq : m.units = m₀.units ++ written.map fun u => (u.qualifiedName, u)
  written_nodup : (written.map GeneratedUnit.qualifiedName).Nodup
  written_fresh : ∀ u ∈ written, u.qualifiedName ∉ m₀.names
  mem_written : ∀ u, u ∈ written ↔
    (u ∈ supportUnits s₀.options.runtimePackage ∧ s.supportEmitted = true ∧
        s₀.supportEmitted = false) ∨
      (∃ k ∈ shapes, u = s₀.primitiveUnit k) ∨
      ∃ t ∈ made, (s₀.pendingFor t).map PendingTarget.subtype = .ok u

namespace Processed

variable {s₀ : Session} {m₀ : MemorySink} {made : List TargetType} {shapes : List StubKind}
  {written : List GeneratedUnit} {s : Session} {m : MemorySink}

/-- A run that did nothing yet. -/
theorem start (s₀ : Session) (m₀ : MemorySink) : Processed s₀ m₀ [] [] [] s₀ m₀ where
  options_eq := rfl
  support_kept := id
  generated_eq := by simp
  registry_eq := rfl
  anew := .none _
  recorded_iff := by simp
  units_eq := by simp
  written_nodup := List.nodup_nil
  written_fresh := by simp
  mem_written u := by
    simp only [false_iff, List.mem_nil_iff, false_and, exists_false, or_false]
    rintro ⟨-, emitted, notEmitted⟩
    rw [emitted] at notEmitted
    cases notEmitted

theorem names_eq (run : Processed s₀ m₀ made shapes written s m) :
    m.names = m₀.names ++ written.map GeneratedUnit.qualifiedName := by
  simp [MemorySink.names, run.units_eq, Function.comp_def]

/-- A memory sink that takes more units after the run holds them after the ones it took, and
all of them bear names of their own. -/
theorem took (run : Processed s₀ m₀ made shapes written s m) {units : List GeneratedUnit}
    (noRefusal : (handOver m units).refused = none) :
    (handOver m units).sink.units =
        m₀.units ++ (written ++ units).map (fun u => (u.qualifiedName, u)) ∧
      ((written ++ units).map GeneratedUnit.qualifiedName).Nodup ∧
      ∀ u ∈ written ++ units, u.qualifiedName ∉ m₀.names := by
  obtain ⟨distinct, fresh, unitsAre⟩ := MemorySink.handOver_of_refused_none units noRefusal
  have names := run.names_eq
  refine ⟨by rw [unitsAre, run.units_eq]; simp, ?_, ?_⟩
  · rw [List.map_append, List.nodup_append]
    refine ⟨run.written_nodup, distinct, fun a inWritten b inUnits same => ?_⟩
    obtain ⟨v, member, rfl⟩ := List.mem_map.mp inUnits
    exact fresh v member (by rw [names, ← same]; exact List.mem_append_right _ inWritten)
  · intro u member
    rcases List.mem_append.mp member with old | new
    · exact run.written_fresh u old
    · exact fun held => fresh u new (by rw [names]; exact List.mem_append_left _ held)

/-- Writing the support units, if the session has not, keeps the account and leaves them
written. -/
theorem settleSupport (run : Processed s₀ m₀ made shapes written s m)
    (succeeded : (s.settleSupport m).answer = .ok ()) :
    ∃ written', Processed s₀ m₀ made shapes written' (s.settleSupport m).session
        (s.settleSupport m).sink ∧
      (s.settleSupport m).session.supportEmitted = true := by
  unfold Session.settleSupport at succeeded ⊢
  cases emitted : s.supportEmitted with
  | true =>
      rw [if_pos rfl]
      exact ⟨written, run, emitted⟩
  | false =>
      simp only [Bool.false_eq_true, if_false] at succeeded ⊢
      cases refusal : (handOver m (supportUnits s.options.runtimePackage)).refused with
      | some failed => simp [refusal, emitted] at succeeded
      | none =>
          obtain ⟨unitsAre, distinct, fresh⟩ := run.took refusal
          -- a session that had not written them did not start with them written
          have notBefore : s₀.supportEmitted = false := by
            cases initially : s₀.supportEmitted
            · rfl
            · rw [run.support_kept initially] at emitted
              cases emitted
          refine ⟨written ++ supportUnits s.options.runtimePackage,
            ⟨run.options_eq, fun _ => rfl, run.generated_eq, run.registry_eq, run.anew,
              run.recorded_iff, unitsAre, distinct, fresh, fun u => ?_⟩, rfl⟩
          rw [List.mem_append, run.mem_written u, emitted, notBefore, run.options_eq]
          simp only [Bool.false_eq_true, and_false, false_or, and_true]
          exact or_comm

/-- Committing a target adds it to the generated ones, the shapes it was missing to the
recorded ones, and its units to those the sink took. -/
theorem commit (run : Processed s₀ m₀ made shapes written s m) {t : TargetType}
    {pending : PendingTarget} (built : s.pendingFor t = .ok pending) {introduced : List StubKind}
    (committed : (s.settleCommit m pending).answer = .ok introduced) :
    Processed s₀ m₀ (made ++ [t]) (shapes ++ introduced) (written ++ pending.units)
      { (s.settleCommit m pending).session with
        generated := (s.settleCommit m pending).session.generated ++ [t.displayName] }
      (s.settleCommit m pending).sink := by
  have noRefusal : (handOver m pending.units).refused = none := by
    change (handOver m pending.units).answer _ = _ at committed
    exact Handover.refused_none_of_answer fun name cause failed => by
      rw [failed] at committed
      cases committed
  obtain ⟨rfl, registryIs⟩ := settleCommit_of_ok committed
  obtain ⟨plans, planned, kindsAre, -, -⟩ := s.units_of_pendingFor built
  obtain ⟨sinkUnits, distinct, fresh⟩ := run.took noRefusal
  have kinds : t.stubKinds = plans.flatMap MemberPlan.stubKinds := by
    simp [TargetType.stubKinds, planned]
  have recordedBefore : s₀.registry.emitted ⊆ s.registry.emitted :=
    fun k recorded => (run.recorded_iff k).mpr (Or.inl recorded)
  refine ⟨run.options_eq, run.support_kept, ?_, ?_, ?_, fun k => ?_, sinkUnits, distinct, fresh,
    fun u => ?_⟩
  · show s.generated ++ [t.displayName] = _
    rw [run.generated_eq, List.map_append, List.append_assoc, List.map_singleton]
  · rw [registryIs, run.registry_eq, Registry.insertAll_append]
  · rw [registryIs, kindsAre]
    exact run.anew.append (RecordedAnew.missing _ _) recordedBefore
      (fun k recorded => (Registry.mem_insertAll _ _).mpr (Or.inl recorded))
  · rw [registryIs, kindsAre, Registry.mem_insertAll_missing, ← kinds, run.recorded_iff]
    simp only [List.mem_append, List.mem_singleton, or_and_right, exists_or, exists_eq_left,
      or_assoc]
  · -- the units written before and the target's own, sorted by what they are
    have sameFlag : (s.settleCommit m pending).session.supportEmitted = s.supportEmitted := rfl
    rw [List.mem_append, run.mem_written u, Session.mem_units_of_pendingFor run.options_eq built u,
      sameFlag]
    simp only [List.mem_append, List.mem_singleton, or_and_right, exists_or, exists_eq_left,
      or_assoc, or_left_comm]

/-- A session in the middle of a run decides on a target as it did at the start, when the run has
not generated a target of the same display name. -/
theorem generates_eq (run : Processed s₀ m₀ made shapes written s m) {t : TargetType}
    (unnamed : t.displayName ∉ made.map TargetType.displayName) :
    s.generates t = s₀.generates t := by
  simp [Session.generates, run.options_eq, run.generated_eq, unnamed]

/-- Processing a target without failure adds it to the generated targets exactly when the
session generates it, reporting its mock and the shapes it recorded. -/
theorem settleTarget (run : Processed s₀ m₀ made shapes written s m) (t : TargetType)
    (report : RoundReport) (unnamed : t.displayName ∉ made.map TargetType.displayName)
    {report' : RoundReport} (succeeded : (s.settleTarget m t report).answer = .ok report') :
    ∃ introduced written', report'.primitives = report.primitives ++ introduced ∧
      report'.generated =
        report.generated ++ ([t].filter s₀.generates).map (·.mockName s₀.options) ∧
      Processed s₀ m₀ (made ++ [t].filter s₀.generates) (shapes ++ introduced) written'
        (s.settleTarget m t report).session (s.settleTarget m t report).sink := by
  cases verdict : s₀.generates t with
  | false =>
      obtain ⟨passedReport, passed, samePrimitives, sameGenerated⟩ :=
        s.settleTarget_passed m report ((run.generates_eq unnamed).trans verdict)
      rw [passed] at succeeded ⊢
      cases succeeded
      exact ⟨[], written, by simp [samePrimitives], by simp [verdict, sameGenerated],
        by simpa [verdict] using run⟩
  | true =>
      have generating := (run.generates_eq unnamed).trans verdict
      cases built : s.pendingFor t with
      | error e =>
          rw [s.settleTarget_unbuilt report generating built] at succeeded
          cases succeeded
      | ok pending =>
          rw [s.settleTarget_built report generating built] at succeeded ⊢
          obtain ⟨introduced, committed, continued⟩ := Settled.andThen_eq_ok succeeded
          rw [continued] at succeeded ⊢
          cases succeeded
          refine ⟨introduced, written ++ pending.units, rfl, ?_,
            by simpa [verdict] using run.commit built committed⟩
          simp [verdict, Session.qualifiedName_pendingFor built, run.options_eq]

/-- Processing the targets of a round without failure adds those the session generates, in
order, reporting their mocks and the shapes recorded. -/
theorem settleTargets (targets : List TargetType) :
    ∀ {report report' : RoundReport} {made : List TargetType} {shapes : List StubKind}
      {written : List GeneratedUnit} {s : Session} {m : MemorySink},
      Processed s₀ m₀ made shapes written s m →
      (∀ t ∈ targets, t.displayName ∉ made.map TargetType.displayName) →
      (targets.map TargetType.displayName).Nodup →
      (KotlinMocks.settleTargets targets report s m).answer = .ok report' →
      ∃ introduced written', report'.primitives = report.primitives ++ introduced ∧
        report'.generated =
          report.generated ++ (targets.filter s₀.generates).map (·.mockName s₀.options) ∧
        Processed s₀ m₀ (made ++ targets.filter s₀.generates) (shapes ++ introduced) written'
          (KotlinMocks.settleTargets targets report s m).session
          (KotlinMocks.settleTargets targets report s m).sink := by
  induction targets with
  | nil =>
      intro report report' made shapes written s m run _ _ succeeded
      cases succeeded
      have unchanged : Processed s₀ m₀ (made ++ [].filter s₀.generates) (shapes ++ []) written s m := by
        simpa using run
      exact ⟨[], written, by simp, by simp, unchanged⟩
  | cons t rest restProcessed =>
      intro report report' made shapes written s m run unnamed distinct succeeded
      simp only [KotlinMocks.settleTargets] at succeeded ⊢
      obtain ⟨next, first, continued⟩ := Settled.andThen_eq_ok succeeded
      rw [continued] at succeeded ⊢
      rw [List.map_cons, List.nodup_cons] at distinct
      obtain ⟨introduced, written', primitivesAre, generatedAre, run'⟩ :=
        run.settleTarget t report (unnamed t (List.mem_cons_self ..)) first
      -- the later targets are named apart from the earlier ones and from this one
      have restUnnamed : ∀ t' ∈ rest,
          t'.displayName ∉ (made ++ [t].filter s₀.generates).map TargetType.displayName := by
        intro t' member named
        rw [List.map_append, List.mem_append] at named
        rcases named with old | new
        · exact unnamed t' (List.mem_cons_of_mem _ member) old
        · obtain ⟨u, inFilter, sameName⟩ := List.mem_map.mp new
          rw [List.mem_singleton.mp (List.mem_of_mem_filter inFilter)] at sameName
          exact distinct.1 (sameName ▸ List.mem_map_of_mem member)
      obtain ⟨later, written'', finalPrimitives, finalGenerated, run''⟩ :=
        restProcessed run' restUnnamed distinct.2 succeeded
      have splitFilter : (t :: rest).filter s₀.generates =
          [t].filter s₀.generates ++ rest.filter s₀.generates := List.filter_append [t] rest
      refine ⟨introduced ++ later, written'', ?_, ?_, ?_⟩
      · rw [finalPrimitives, primitivesAre, List.append_assoc]
      · rw [finalGenerated, generatedAre, splitFilter, List.map_append, List.append_assoc]
      · rw [splitFilter, ← List.append_assoc, ← List.append_assoc]
        exact run''

/-- A round without failure writes the support units if the session has not, then adds the
targets the session generates, reporting their mocks and the shapes recorded. -/
theorem settleRound (run : Processed s₀ m₀ made shapes written s m) (targets : List TargetType)
    (unnamed : ∀ t ∈ targets, t.displayName ∉ made.map TargetType.displayName)
    (distinct : (targets.map TargetType.displayName).Nodup) {report : RoundReport}
    (succeeded : (s.settleRound m targets).answer = .ok report) :
    ∃ written', Processed s₀ m₀ (made ++ targets.filter s₀.generates)
        (shapes ++ report.primitives) written' (s.settleRound m targets).session
        (s.settleRound m targets).sink ∧
      report.generated = (targets.filter s₀.generates).map (·.mockName s₀.options) ∧
      (s.settleRound m targets).session.supportEmitted = true := by
  unfold Session.settleRound at succeeded ⊢
  obtain ⟨u, supported, continued⟩ := Settled.andThen_eq_ok succeeded
  rw [continued] at succeeded ⊢
  obtain ⟨written', run', emitted⟩ := run.settleSupport supported
  obtain ⟨introduced, written'', primitivesAre, generatedAre, run''⟩ :=
    run'.settleTargets targets (by simpa using unnamed) distinct succeeded
  refine ⟨written'', ?_, by simpa using generatedAre, ?_⟩
  · simpa [primitivesAre] using run''
  · rw [settleTargets_supportEmitted]
    exact emitted

end Processed

/-! ## Rounds in a row -/

/-- The mock names a round reports, none if it failed. -/
def Settled.reportedGenerated (o : Settled σ RoundReport) : List String :=
  match o.answer with
  | .ok report => report.generated
  | .error _ => []

/-- Where rounds in a row leave a session's progress, each round from where the one before it
left off. -/
def processAll [Sink σ] : List (List TargetType) → Progress σ → Progress σ
  | [], p => p
  | targets :: later, p => processAll later (reached ((processRound targets).run p))

namespace Processed

variable {s₀ : Session} {m₀ : MemorySink}

/-- Rounds in a row without failure add the targets the session generates, in the order they are
offered, reporting their mocks and the shapes recorded. -/
theorem processAll (rounds : List (List TargetType)) :
    ∀ {p : Progress MemorySink} {made : List TargetType} {shapes : List StubKind}
      {written : List GeneratedUnit},
      Processed s₀ m₀ made shapes written p.session p.sink →
      (∀ t ∈ rounds.flatten, t.displayName ∉ made.map TargetType.displayName) →
      (rounds.flatten.map TargetType.displayName).Nodup →
      (∀ round ∈ processRounds rounds p, ∃ report, (settle round.2).answer = .ok report) →
      ∃ written', Processed s₀ m₀ (made ++ rounds.flatten.filter s₀.generates)
          (shapes ++ (processRounds rounds p).flatMap fun round => (settle round.2).reportedPrimitives)
          written' (KotlinMocks.processAll rounds p).session (KotlinMocks.processAll rounds p).sink ∧
        ((processRounds rounds p).flatMap fun round => (settle round.2).reportedGenerated) =
          (rounds.flatten.filter s₀.generates).map (·.mockName s₀.options) ∧
        (rounds ≠ [] → (KotlinMocks.processAll rounds p).session.supportEmitted = true) := by
  induction rounds with
  | nil =>
      intro p made shapes written run _ _ _
      have unchanged : Processed s₀ m₀ (made ++ [].filter s₀.generates) (shapes ++ []) written
          p.session p.sink := by
        simpa using run
      exact ⟨written, unchanged, rfl, fun absent => absurd rfl absent⟩
  | cons targets later laterProcessed =>
      intro p made shapes written run unnamed distinct succeeded
      rw [List.flatten_cons, List.map_append, List.nodup_append] at distinct
      obtain ⟨report, first⟩ := succeeded _ (List.mem_cons_self ..)
      have settled := settle_processRound targets p
      rw [settled] at first
      obtain ⟨written', run', generatedAre, emitted⟩ :=
        run.settleRound targets (fun t member => unnamed t (by simp [member])) distinct.1 first
      -- the progress after the round is where the round settled
      obtain ⟨sameSession, sameSink⟩ := settle_state ((processRound targets).run p)
      rw [settled] at sameSession sameSink
      rw [sameSession, sameSink] at run'
      rw [sameSession] at emitted
      have laterUnnamed : ∀ t ∈ later.flatten,
          t.displayName ∉ (made ++ targets.filter s₀.generates).map TargetType.displayName := by
        intro t member named
        rw [List.map_append, List.mem_append] at named
        rcases named with old | new
        · exact unnamed t (by simp [List.mem_flatten.mp member]) old
        · obtain ⟨u, inFilter, sameName⟩ := List.mem_map.mp new
          exact distinct.2.2 _ (List.mem_map_of_mem (List.mem_of_mem_filter inFilter)) _
            (List.mem_map_of_mem member) sameName
      obtain ⟨written'', run'', laterGenerated, laterEmitted⟩ :=
        laterProcessed run' laterUnnamed distinct.2.1 fun round member =>
          succeeded round (List.mem_cons_of_mem _ member)
      have reported : (settle ((processRound targets).run p)).reportedPrimitives = report.primitives ∧
          (settle ((processRound targets).run p)).reportedGenerated = report.generated := by
        rw [settled]
        simp [Settled.reportedPrimitives, Settled.reportedGenerated, first]
      refine ⟨written'', ?_, ?_, fun _ => ?_⟩
      · simpa [processRounds, KotlinMocks.processAll, reported.1, List.filter_append] using run''
      · simp [processRounds, reported.2, generatedAre, laterGenerated, List.filter_append]
      · by_cases none : later = []
        · subst none
          exact emitted
        · exact laterEmitted none

/-- Two runs from one session and one memory sink that generated the same targets, in any order,
and agree on the support units, stand alike but for order: the sink holds the same units, under
the same names, the registry is the same, and the generated targets and recorded shapes are the
same. -/
theorem agree {made made' : List TargetType} {shapes shapes' : List StubKind}
    {written written' : List GeneratedUnit} {s s' : Session} {m m' : MemorySink}
    (first : Processed s₀ m₀ made shapes written s m)
    (second : Processed s₀ m₀ made' shapes' written' s' m')
    (sameTargets : made.Perm made') (sameSupport : s.supportEmitted = s'.supportEmitted) :
    m.units.Perm m'.units ∧ (∀ key, m.get? key = m'.get? key) ∧ s.registry = s'.registry ∧
      s.generated.Perm s'.generated ∧ shapes.Perm shapes' := by
  -- a shape is recorded anew when a generated target needs it and the session lacked it
  have sameShapes : shapes.Perm shapes' := by
    refine (List.perm_ext_iff_of_nodup first.anew.nodup second.anew.nodup).mpr fun k => ?_
    rw [first.anew.mem_iff, second.anew.mem_iff, first.recorded_iff, second.recorded_iff]
    simp only [sameTargets.mem_iff]
  have sameWritten : written.Perm written' := by
    refine (List.perm_ext_iff_of_nodup (first.written_nodup.of_map _)
      (second.written_nodup.of_map _)).mpr fun u => ?_
    rw [first.mem_written, second.mem_written, sameSupport]
    simp only [sameShapes.mem_iff, sameTargets.mem_iff]
  have sameEntries : (written.map fun u => (u.qualifiedName, u)).Perm
      (written'.map fun u => (u.qualifiedName, u)) := sameWritten.map _
  refine ⟨?_, fun key => ?_, ?_, ?_, sameShapes⟩
  · rw [first.units_eq, second.units_eq]
    exact sameEntries.append_left _
  · have distinct : ((written.map fun u => (u.qualifiedName, u)).map Prod.fst).Nodup := by
      simpa [Function.comp_def] using first.written_nodup
    simp only [MemorySink.get?, first.units_eq, second.units_eq, List.lookup_append,
      lookup_eq_of_perm sameEntries distinct key]
  · rw [first.registry_eq, second.registry_eq]
    exact Registry.insertAll_perm _ sameShapes
  · rw [first.generated_eq, second.generated_eq]
    exact (sameTargets.map _).append_left _

end Processed

/-! ## Regrouped rounds -/

/-- How a session's targets are split into rounds, and in which order they come, changes only the
order of the writes and what each round reports. Offered the same targets, of distinct display
names, in one or more rounds either way, two runs from one session and one memory sink in which
every round succeeds leave the sink holding the same units under the same names, the same
registry, the same generated targets and the same support flag, and report the same mocks and
the same stub shapes over all their rounds. -/
theorem regrouped_rounds_write_the_same_units (p : Progress MemorySink)
    (rounds regrouped : List (List TargetType)) (samePool : rounds.flatten.Perm regrouped.flatten)
    (distinct : (rounds.flatten.map TargetType.displayName).Nodup)
    (someRound : rounds ≠ []) (someRegrouped : regrouped ≠ [])
    (succeeded : ∀ round ∈ processRounds rounds p, ∃ report, (settle round.2).answer = .ok report)
    (regroupedSucceeded :
      ∀ round ∈ processRounds regrouped p, ∃ report, (settle round.2).answer = .ok report) :
    (processAll rounds p).sink.units.Perm (processAll regrouped p).sink.units ∧
      (∀ key, (processAll rounds p).sink.get? key = (processAll regrouped p).sink.get? key) ∧
      (processAll rounds p).session.registry = (processAll regrouped p).session.registry ∧
      (processAll rounds p).session.generated.Perm (processAll regrouped p).session.generated ∧
      (processAll rounds p).session.supportEmitted =
        (processAll regrouped p).session.supportEmitted ∧
      ((processRounds rounds p).flatMap fun round => (settle round.2).reportedGenerated).Perm
        ((processRounds regrouped p).flatMap fun round => (settle round.2).reportedGenerated) ∧
      ((processRounds rounds p).flatMap fun round => (settle round.2).reportedPrimitives).Perm
        ((processRounds regrouped p).flatMap fun round => (settle round.2).reportedPrimitives) := by
  obtain ⟨written, run, generated, emitted⟩ := Processed.processAll rounds
    (Processed.start p.session p.sink) (by simp) distinct succeeded
  obtain ⟨written', run', generated', emitted'⟩ := Processed.processAll regrouped
    (Processed.start p.session p.sink) (by simp) ((samePool.map _).nodup_iff.mp distinct)
    regroupedSucceeded
  have sameTargets := samePool.filter p.session.generates
  have sameSupport : (processAll rounds p).session.supportEmitted =
      (processAll regrouped p).session.supportEmitted := by
    rw [emitted someRound, emitted' someRegrouped]
  obtain ⟨units, lookups, registry, generatedTargets, shapes⟩ :=
    run.agree run' (by simpa using sameTargets) sameSupport
  refine ⟨units, lookups, registry, generatedTargets, sameSupport, ?_, by simpa using shapes⟩
  rw [generated, generated']
  exact sameTargets.map _

/-- An open function `run(): Unit`. -/
def runUnit : Function := Function.«open» "run" [] TypeReference.unit

/-- `p.Foo` with `run(): Unit`. -/
def fooRuns : TargetType := (markedInP "Foo" "p.Foo" "src/Foo.kt").withFunction runUnit

/-- `p.Bar` with `run(): Unit`, needing the same stub shape as `fooRuns`. -/
def barRuns : TargetType := (markedInP "Bar" "p.Bar" "src/Bar.kt").withFunction runUnit

/-- A fresh session with the default options over an empty memory sink. -/
def freshProgress : Progress MemorySink := { session := { options := {} }, sink := {} }

theorem foo_and_bar_regrouped_alike :
    [[fooRuns, barRuns]].flatten.Perm [[barRuns], [fooRuns]].flatten ∧
      ([[fooRuns, barRuns]].flatten.map TargetType.displayName).Nodup ∧
      (∀ round ∈ processRounds [[fooRuns, barRuns]] freshProgress,
        ∃ report, (settle round.2).answer = .ok report) ∧
      (∀ round ∈ processRounds [[barRuns], [fooRuns]] freshProgress,
        ∃ report, (settle round.2).answer = .ok report) ∧
      (processAll [[fooRuns, barRuns]] freshProgress).sink.names ≠
        (processAll [[barRuns], [fooRuns]] freshProgress).sink.names ∧
      (processAll [[fooRuns, barRuns]] freshProgress).sink.units.Perm
        (processAll [[barRuns], [fooRuns]] freshProgress).sink.units ∧
      ((processRounds [[fooRuns, barRuns]] freshProgress).flatMap fun round =>
          (settle round.2).reportedPrimitives).Perm
        ((processRounds [[barRuns], [fooRuns]] freshProgress).flatMap fun round =>
          (settle round.2).reportedPrimitives) := by
  have samePool : [[fooRuns, barRuns]].flatten.Perm [[barRuns], [fooRuns]].flatten := by
    decide +kernel
  have distinct : ([[fooRuns, barRuns]].flatten.map TargetType.displayName).Nodup := by
    decide +kernel
  -- both runs succeed in every round, and write in different orders
  have evaluated :
      (processRounds [[fooRuns, barRuns]] freshProgress).all
          (fun round => (settle round.2).answer.isOk) = true ∧
        (processRounds [[barRuns], [fooRuns]] freshProgress).all
          (fun round => (settle round.2).answer.isOk) = true ∧
        (processAll [[fooRuns, barRuns]] freshProgress).sink.names ≠
          (processAll [[barRuns], [fooRuns]] freshProgress).sink.names := by
    decide +kernel
  have okOf : ∀ {o : Except GenerateError RoundReport}, o.isOk = true → ∃ report, o = .ok report := by
    intro o isOk
    cases o with
    | ok report => exact ⟨report, rfl⟩
    | error e => cases isOk
  have succeeded : ∀ round ∈ processRounds [[fooRuns, barRuns]] freshProgress,
      ∃ report, (settle round.2).answer = .ok report :=
    fun round member => okOf (List.all_eq_true.mp evaluated.1 round member)
  have regroupedSucceeded : ∀ round ∈ processRounds [[barRuns], [fooRuns]] freshProgress,
      ∃ report, (settle round.2).answer = .ok report :=
    fun round member => okOf (List.all_eq_true.mp evaluated.2.1 round member)
  obtain ⟨units, -, -, -, -, -, primitives⟩ := regrouped_rounds_write_the_same_units freshProgress
    [[fooRuns, barRuns]] [[barRuns], [fooRuns]] samePool distinct (by simp) (by simp) succeeded
    regroupedSucceeded
  exact ⟨samePool, distinct, succeeded, regroupedSucceeded, evaluated.2.2, units, primitives⟩

end KotlinMocks

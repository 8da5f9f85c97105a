import KotlinMocks.Proofs.SinkAgreement
import KotlinMocks.Proofs.UnitNames
import KotlinMocks.Proofs.FailedRound
import KotlinMocks.Cli.Run

/-!
# Dry runs and runs into a directory

A dry run generates into a memory sink, which refuses a unit whose qualified name it holds
already; a run into a directory writes every unit to its file, and writing a unit again
overwrites the file and keeps the manifest entry in place. The two agree exactly when the
session never hands a unit over twice under one name. Mock names are built from the simple
name, so two nested classes of one simple name in one package get one mock name: the memory
sink then refuses the second mock while the directory overwrites the first
(`nested_mocks_split_dry_and_directory_runs`).

When the mocks of the model's targets are named apart (`MockNamesApart`), the memory sink refuses
nothing (`settleDrive_memory_unrefused`): it holds only support units once the session wrote
them, stub classes of recorded shapes and mocks of generated targets (`MemoryLedger`), and the
session never hands over one of those again. A memory sink and an output directory then stay in
step, the manifest listing the memory's names in order (`ManifestMatches`), and a run into a
directory that refuses no write answers as the dry run does (`dry_run_answers_as_directory_run`),
down to the units each run reports.
-/

namespace KotlinMocks

/-! ## The memory sink -/

namespace MemorySink

/-- A memory sink holds a unit of a qualified name exactly when the name is among its names. -/
theorem isSome_get?_iff (m : MemorySink) (key : String) : (m.get? key).isSome ↔ key ∈ m.names := by
  rw [get?, List.lookup_isSome_iff, names, List.mem_map]
  simp only [beq_iff_eq]
  constructor <;> rintro ⟨entry, held, same⟩ <;> exact ⟨entry, held, same.symm⟩

theorem write_ok_iff (m : MemorySink) (u : GeneratedUnit) :
    (m.write u).outcome = .ok () ↔ u.qualifiedName ∉ m.names := by
  rw [← isSome_get?_iff]
  by_cases held : (m.get? u.qualifiedName).isSome <;> simp [write, held]

theorem write_units_of_ok {m : MemorySink} {u : GeneratedUnit} (took : (m.write u).outcome = .ok ()) :
    (m.write u).sink.units = m.units ++ [(u.qualifiedName, u)] := by
  have fresh := (write_ok_iff m u).mp took
  rw [← isSome_get?_iff] at fresh
  simp [write, fresh]

/-- A memory sink takes units of distinct names that it holds no unit of, and holds them after
the ones it held, keyed by qualified name. -/
theorem handOver_fresh (units : List GeneratedUnit) :
    ∀ {m : MemorySink}, (units.map GeneratedUnit.qualifiedName).Nodup →
      (∀ u ∈ units, u.qualifiedName ∉ m.names) →
      (handOver m units).refused = none ∧
        (handOver m units).sink.units = m.units ++ units.map fun u => (u.qualifiedName, u) := by
  induction units with
  | nil => intro m _ _; simp
  | cons u rest restFresh =>
      intro m distinct fresh
      rw [List.map_cons, List.nodup_cons] at distinct
      have took : (m.write u).outcome = .ok () := (write_ok_iff m u).mpr (fresh u (by simp))
      have held := write_units_of_ok took
      -- the rest are fresh for the sink that took `u`: their names differ from `u`'s
      have restFresh' : ∀ v ∈ rest, v.qualifiedName ∉ (m.write u).sink.names := by
        intro v member
        rw [names, held, List.map_append, List.mem_append]
        rintro (old | new)
        · exact fresh v (List.mem_cons_of_mem _ member) old
        · rw [List.map_singleton, List.mem_singleton] at new
          have sameName : v.qualifiedName = u.qualifiedName := new
          exact distinct.1 (sameName ▸ List.mem_map_of_mem member)
      obtain ⟨refusal, unitsAre⟩ := restFresh distinct.2 restFresh'
      rw [handOver_cons]
      change (Sink.write m u).outcome = .ok () at took
      simp only [took]
      refine ⟨refusal, ?_⟩
      change (handOver (m.write u).sink rest).sink.units = _
      rw [unitsAre, held]
      simp

end MemorySink

/-- The support units bear distinct names, told apart by their first or fifth character. -/
theorem supportUnits_name_nodup (runtimePackage : String) :
    ((supportUnits runtimePackage).map GeneratedUnit.name).Nodup := by
  have listed : (supportUnits runtimePackage).map GeneratedUnit.name =
      ["Predicates", notConfiguredException, sequenceExhaustedException] := rfl
  have firstApart : ∀ name ∈ [notConfiguredException, sequenceExhaustedException],
      "Predicates" ≠ name := by
    intro name member same
    have heads := congrArg (fun n : String => n.toList.head?) same
    simp only [List.mem_cons, List.not_mem_nil, or_false] at member
    rcases member with rfl | rfl <;>
      simp [notConfiguredException, sequenceExhaustedException] at heads
  have fifthApart : notConfiguredException ≠ sequenceExhaustedException := by
    intro same
    have fifths := congrArg (fun n : String => (n.toList.drop 4).head?) same
    simp [notConfiguredException, sequenceExhaustedException] at fifths
  rw [listed, List.nodup_cons, List.nodup_cons]
  exact ⟨fun member => firstApart _ member rfl,
    by simpa using fifthApart, List.nodup_singleton _⟩

/-- The support units of a runtime package have distinct qualified names. -/
theorem supportUnits_qualifiedName_nodup (runtimePackage : String) :
    ((supportUnits runtimePackage).map GeneratedUnit.qualifiedName).Nodup := by
  have names := supportUnits_name_nodup runtimePackage
  refine List.Nodup.map_on (fun u member v member' sameName => ?_) (List.Nodup.of_map _ names)
  have samePackage : u.package = v.package := by
    rw [package_of_mem_supportUnits member, package_of_mem_supportUnits member']
  exact List.inj_on_of_nodup_map names member member'
    (GeneratedUnit.name_eq_of_qualifiedName_eq samePackage sameName)

/-! ## What a memory sink holds -/

/-- What a memory sink holds, as the session remembers it: each unit under its qualified name,
each a support unit, the stub class of a recorded shape or the mock of a generated target, and
no support unit before the session wrote them. -/
structure MemoryLedger (targets : List TargetType) (s : Session) (m : MemorySink) : Prop where
  keyed : ∀ entry ∈ m.units, entry.1 = entry.2.qualifiedName
  held_from : ∀ entry ∈ m.units, entry.2 ∈ supportUnits s.options.runtimePackage ∨
    (∃ k ∈ s.registry.emitted, entry.2 = s.primitiveUnit k) ∨
    ∃ t ∈ targets, t.displayName ∈ s.generated ∧ entry.2.qualifiedName = t.mockName s.options
  support_first : s.supportEmitted = false →
    ∀ entry ∈ m.units, entry.2 ∉ supportUnits s.options.runtimePackage

namespace MemoryLedger

variable {targets : List TargetType} {s : Session} {m : MemorySink}

theorem empty (options : GeneratorOptions) : MemoryLedger targets { options } {} where
  keyed _ held := by cases held
  held_from _ held := by cases held
  support_first _ _ held := by cases held

/-- A unit named apart from every unit a memory sink holds is not among its names. -/
theorem not_mem_names (ledger : MemoryLedger targets s m) {v : GeneratedUnit}
    (apartFrom : ∀ entry ∈ m.units, entry.2.qualifiedName ≠ v.qualifiedName) :
    v.qualifiedName ∉ m.names := by
  intro named
  obtain ⟨entry, held, sameName⟩ := List.mem_map.mp named
  exact apartFrom entry held ((ledger.keyed entry held).symm.trans sameName)

/-- The ledger stays true when the sink holds more units, each a support unit, a stub class or
a mock that a session remembering at least as much accounts for. -/
theorem extend (ledger : MemoryLedger targets s m) {s' : Session} {m' : MemorySink}
    {new : List GeneratedUnit} (held : m'.units = m.units ++ new.map fun u => (u.qualifiedName, u))
    (sameOptions : s'.options = s.options) (moreShapes : s.registry.emitted ⊆ s'.registry.emitted)
    (moreTargets : s.generated ⊆ s'.generated)
    (supportLater : s'.supportEmitted = false → s.supportEmitted = false)
    (newFrom : ∀ u ∈ new, u ∈ supportUnits s.options.runtimePackage ∨
      (∃ k ∈ s'.registry.emitted, u = s.primitiveUnit k) ∨
      ∃ t ∈ targets, t.displayName ∈ s'.generated ∧ u.qualifiedName = t.mockName s.options)
    (newSupport : s'.supportEmitted = false → ∀ u ∈ new, u ∉ supportUnits s.options.runtimePackage) :
    MemoryLedger targets s' m' := by
  have sameUnits : s'.primitiveUnit = s.primitiveUnit :=
    Session.primitiveUnit_eq_of_options sameOptions
  refine ⟨fun entry member => ?_, fun entry member => ?_, fun later entry member => ?_⟩ <;>
    rw [held, List.mem_append] at member <;> rcases member with old | fresh
  · exact ledger.keyed entry old
  · obtain ⟨u, -, rfl⟩ := List.mem_map.mp fresh
    rfl
  · rw [sameOptions, sameUnits]
    rcases ledger.held_from entry old with support | ⟨k, present, isStub⟩ |
      ⟨t, target, generated, named⟩
    · exact Or.inl support
    · exact Or.inr (Or.inl ⟨k, moreShapes present, isStub⟩)
    · exact Or.inr (Or.inr ⟨t, target, moreTargets generated, named⟩)
  · rw [sameOptions, sameUnits]
    obtain ⟨u, member, rfl⟩ := List.mem_map.mp fresh
    exact newFrom u member
  · rw [sameOptions]
    exact ledger.support_first (supportLater later) entry old
  · rw [sameOptions]
    obtain ⟨u, member, rfl⟩ := List.mem_map.mp fresh
    exact newSupport later u member

end MemoryLedger

/-! ## The memory sink refuses nothing -/

/-- A run that carries on while its first part keeps an invariant and is not refused keeps it and
is not refused. -/
theorem Settled.andThen_unrefused {σ α β : Type} {P : Session → σ → Prop} {o : Settled σ α}
    {next : α → Session → σ → Settled σ β} (first : o.Unrefused) (held : P o.session o.sink)
    (step : ∀ a, o.answer = .ok a →
      (next a o.session o.sink).Unrefused ∧ P (next a o.session o.sink).session (next a o.session o.sink).sink) :
    (o.andThen next).Unrefused ∧ P (o.andThen next).session (o.andThen next).sink := by
  cases answer : o.answer with
  | ok a =>
      rw [Settled.andThen_of_ok answer]
      exact step a answer
  | error e =>
      rw [Settled.andThen_of_error answer]
      refine ⟨fun name cause failed => ?_, held⟩
      have same : e = .sink name cause := by injection failed
      exact first name cause (by rw [answer, same])

section Memory

variable {targets : List TargetType} {s : Session} {m : MemorySink}

/-- The support units are written into a memory sink in one go, once. -/
theorem settleSupport_memory (apart : MockNamesApart s.options targets)
    (ledger : MemoryLedger targets s m) :
    (s.settleSupport m).answer = .ok () ∧
      MemoryLedger targets (s.settleSupport m).session (s.settleSupport m).sink := by
  unfold Session.settleSupport
  cases emitted : s.supportEmitted with
  | true => exact ⟨rfl, ledger⟩
  | false =>
      -- nothing the sink holds is named like a support unit
      have fresh : ∀ u ∈ supportUnits s.options.runtimePackage, u.qualifiedName ∉ m.names := by
        intro u member
        refine ledger.not_mem_names fun entry held same => ?_
        rcases ledger.held_from entry held with support | ⟨k, -, isStub⟩ |
          ⟨t, target, -, named⟩
        · exact ledger.support_first emitted entry held support
        · rw [isStub] at same
          exact s.qualifiedName_primitiveUnit_ne_support k member same
        · exact apart.from_support t target u member (named.symm.trans same)
      obtain ⟨refusal, unitsAre⟩ :=
        MemorySink.handOver_fresh _ (supportUnits_qualifiedName_nodup _) fresh
      rw [if_neg Bool.false_ne_true]
      refine ⟨by simp [refusal], ?_⟩
      simp only [refusal]
      exact ledger.extend unitsAre rfl (List.Subset.refl _) (List.Subset.refl _)
        (fun later => by cases later) (fun u member => Or.inl member) (fun later => by cases later)

/-- The units a memory sink is handed for a target not generated before have distinct names,
none of which it holds. -/
theorem commit_fresh (apart : MockNamesApart s.options targets) {t : TargetType}
    (target : t ∈ targets) (notGenerated : t.displayName ∉ s.generated) {pending : PendingTarget}
    (built : s.pendingFor t = .ok pending) (ledger : MemoryLedger targets s m) :
    (pending.units.map GeneratedUnit.qualifiedName).Nodup ∧
      ∀ v ∈ pending.units, v.qualifiedName ∉ m.names := by
  obtain ⟨plans, -, -, unitsAre, -⟩ := s.units_of_pendingFor built
  have mockNamed := Session.qualifiedName_pendingFor built
  constructor
  · rw [unitsAre, List.map_append, List.map_map, List.nodup_append]
    refine ⟨(Registry.nodup_missing _ _).map s.qualifiedName_primitiveUnit_injective,
      List.nodup_singleton _, fun name stub name' mock => ?_⟩
    obtain ⟨k, -, rfl⟩ := List.mem_map.mp stub
    rw [List.map_singleton, List.mem_singleton] at mock
    rw [mock]
    exact (apart.stub_apart (Or.inr (Or.inr ⟨t, target, mockNamed⟩))).symm
  · intro v member
    refine ledger.not_mem_names fun entry held same => ?_
    rcases role_of_mem_units unitsAre member with ⟨k, missed, rfl⟩ | rfl
    · -- a stub class of a missing shape
      refine apart.stub_apart ?_ same
      rcases ledger.held_from entry held with support | ⟨k', present, isStub⟩ |
        ⟨t', target', -, named⟩
      · exact Or.inl support
      · exact Or.inr (Or.inl ⟨k', fun sameShape => (Registry.mem_missing.mp missed).2
          (sameShape ▸ present), isStub⟩)
      · exact Or.inr (Or.inr ⟨t', target', named⟩)
    · -- the mock
      rw [mockNamed] at same
      refine apart.mock_apart target ?_ same
      rcases ledger.held_from entry held with support | ⟨k', -, isStub⟩ |
        ⟨t', target', generated, named⟩
      · exact Or.inl support
      · exact Or.inr (Or.inl ⟨k', isStub⟩)
      · exact Or.inr (Or.inr ⟨t', target', fun sameName => notGenerated (sameName ▸ generated),
          named⟩)

/-- Processing a target on a memory sink meets no refusal and keeps the ledger. -/
theorem settleTarget_memory (apart : MockNamesApart s.options targets) {t : TargetType}
    (target : t ∈ targets) (report : RoundReport) (ledger : MemoryLedger targets s m) :
    (s.settleTarget m t report).Unrefused ∧
      MemoryLedger targets (s.settleTarget m t report).session (s.settleTarget m t report).sink := by
  rcases s.settleTarget_cases m t report with ⟨_, passed, -⟩ | ⟨e, built, failed⟩ |
    ⟨pending, built, notGenerated, committing⟩
  · rw [passed]
    exact ⟨(fun _ _ answered => by cases answered), ledger⟩
  · -- building the units failed a check, which is no refusal
    rw [failed]
    refine ⟨fun name cause answered => ?_, ledger⟩
    have same : e = .sink name cause := by injection answered
    have checking := Session.pendingFor_error_isValidation built
    rw [same] at checking
    exact checking
  obtain ⟨distinct, fresh⟩ := commit_fresh apart target notGenerated built ledger
  obtain ⟨refusal, unitsAre⟩ := MemorySink.handOver_fresh _ distinct fresh
  have committed : (s.settleCommit m pending).answer = .ok (pending.primitives.map Prod.fst) := by
    simp [Session.settleCommit, Handover.answer, refusal]
  rw [committing, Settled.andThen_of_ok committed]
  refine ⟨(fun _ _ answered => by cases answered), ?_⟩
  obtain ⟨plans, -, kindsAre, unitsAre', -⟩ := s.units_of_pendingFor built
  have mockNamed := Session.qualifiedName_pendingFor built
  -- the commit records every missing shape, since the sink took every unit
  have recorded : ∀ k, k ∈ s.registry.emitted ∨ k ∈ s.registry.missing
      (plans.flatMap MemberPlan.stubKinds) → k ∈ (s.settleCommit m pending).session.registry.emitted := by
    intro k present
    simp only [Session.settleCommit]
    rw [handOver_taken_of_refused_none refusal,
      List.take_of_length_le (by simp [PendingTarget.units]), kindsAre]
    exact (Registry.mem_insertAll _ _).mpr present
  refine ledger.extend unitsAre rfl (fun k present => recorded k (Or.inl present))
    (List.subset_append_left _ _) id (fun u member => ?_) (fun _ u member isSupport => ?_)
  · rcases role_of_mem_units unitsAre' member with ⟨k, missed, rfl⟩ | rfl
    · exact Or.inr (Or.inl ⟨k, recorded k (Or.inr missed), rfl⟩)
    · exact Or.inr (Or.inr ⟨t, target, List.mem_append_right _ (List.mem_singleton_self _),
        mockNamed⟩)
  · rcases role_of_mem_units unitsAre' member with ⟨k, -, rfl⟩ | rfl
    · exact s.qualifiedName_primitiveUnit_ne_support k isSupport rfl
    · exact apart.from_support t target _ isSupport mockNamed.symm

theorem settleTargets_memory (round : List TargetType) (included : ∀ t ∈ round, t ∈ targets) :
    ∀ {report : RoundReport} {s : Session} {m : MemorySink}, MockNamesApart s.options targets →
      MemoryLedger targets s m →
      (settleTargets round report s m).Unrefused ∧
        MemoryLedger targets (settleTargets round report s m).session
          (settleTargets round report s m).sink := by
  induction round with
  | nil => intro report s m _ ledger; exact ⟨(fun _ _ answered => by cases answered), ledger⟩
  | cons t rest restKeeps =>
      intro report s m apart ledger
      obtain ⟨first, firstLedger⟩ :=
        settleTarget_memory apart (included t (List.mem_cons_self ..)) report ledger
      have apartAfter : MockNamesApart (s.settleTarget m t report).session.options targets := by
        rw [(settleTarget_grows t report).options_eq]
        exact apart
      exact Settled.andThen_unrefused (P := fun s (m : MemorySink) => MemoryLedger targets s m)
        first firstLedger fun _ _ => restKeeps
          (fun t' member => included t' (List.mem_cons_of_mem _ member)) apartAfter firstLedger

/-- A round on a memory sink meets no refusal and keeps the ledger, whether it succeeds or not. -/
theorem settleRound_memory (round : List TargetType) (included : ∀ t ∈ round, t ∈ targets)
    (apart : MockNamesApart s.options targets) (ledger : MemoryLedger targets s m) :
    (s.settleRound m round).Unrefused ∧
      MemoryLedger targets (s.settleRound m round).session (s.settleRound m round).sink := by
  obtain ⟨supported, supportLedger⟩ := settleSupport_memory apart ledger
  have apartAfter : MockNamesApart (s.settleSupport m).session.options targets := by
    rw [settleSupport_grows.options_eq]
    exact apart
  exact Settled.andThen_unrefused (P := fun s (m : MemorySink) => MemoryLedger targets s m)
    (fun _ _ failed => by rw [supported] at failed; cases failed) supportLedger
    fun _ _ => settleTargets_memory round included apartAfter supportLedger

end Memory

namespace Cli

/-- On a memory sink, no round of the driver ends in a refusal when the mocks of every target
the rounds offer are named apart. -/
theorem settleDrive_memory_unrefused {targets : List TargetType} (rounds : List (List TargetType))
    (included : ∀ round ∈ rounds, ∀ t ∈ round, t ∈ targets) :
    ∀ {carried : List TargetType} {done : List RoundReport} {s : Session} {m : MemorySink},
      MockNamesApart s.options targets → (∀ t ∈ carried, t ∈ targets) →
      MemoryLedger targets s m → (settleDrive rounds carried done s m).Unrefused := by
  induction rounds with
  | nil => intro carried done s m _ _ _; exact fun _ _ answered => by cases answered
  | cons round rest restUnrefused =>
      intro carried done s m apart carriedIncluded ledger
      have offeredIncluded : ∀ t ∈ offered carried round, t ∈ targets := by
        intro t member
        rcases List.mem_append.mp member with kept | fresh
        · exact carriedIncluded t (List.mem_of_mem_filter kept)
        · exact included round (List.mem_cons_self ..) t fresh
      obtain ⟨first, roundLedger⟩ := settleRound_memory _ offeredIncluded apart ledger
      have apartAfter : MockNamesApart (s.settleRound m (offered carried round)).session.options
          targets := by
        rw [(settleRound_grows _).options_eq]
        exact apart
      -- the targets a round defers are among those it was offered
      refine (Settled.andThen_unrefused (P := fun _ (_ : MemorySink) => True) first trivial
        fun report succeeded => ⟨restUnrefused (fun round member => included round
          (List.mem_cons_of_mem _ member)) apartAfter (fun t member => ?_) roundLedger, trivial⟩).1
      rw [settleRound_deferred _ succeeded] at member
      exact offeredIncluded t (List.mem_of_mem_filter member)

/-! ## The manifest in step with the memory -/

/-- Writing a unit's file records an entry under the unit's qualified name. -/
theorem OutputDirectory.entries_write_of_ok {d : OutputDirectory} {u : GeneratedUnit}
    (took : (d.write u).outcome = .ok ()) :
    ∃ e : ManifestEntry, e.unit = u.qualifiedName ∧
      (d.write u).sink.entries = recordEntry d.entries e := by
  unfold OutputDirectory.write at took ⊢
  -- the entry's origin plays no part; what matters is that both steps on the disk succeeded
  cases u.dependency <;> simp only at took ⊢ <;> split at took <;> try simp at took
  all_goals
    split at took
    · simp at took
    · exact ⟨_, rfl, rfl⟩

/-- An entry for a unit the manifest does not list goes after the others. -/
theorem recordEntry_of_fresh {entries : List ManifestEntry} {e : ManifestEntry}
    (fresh : e.unit ∉ entries.map (·.unit)) : recordEntry entries e = entries ++ [e] := by
  rw [recordEntry, if_neg]
  intro listed
  obtain ⟨old, member, same⟩ := List.any_eq_true.mp listed
  exact fresh (List.mem_map.mpr ⟨old, member, beq_iff_eq.mp same⟩)

/-- A memory sink and an output directory in step: the manifest lists, in order, the names the
memory sink holds. -/
def ManifestMatches (m : MemorySink) (d : OutputDirectory) : Prop :=
  m.names = d.entries.map (·.unit)

/-- A unit that both a memory sink and an output directory take keeps them in step: the memory
sink takes only a name it does not hold, which the manifest then lists last. -/
theorem manifestMatches_keptByWrites : KeptByWrites ManifestMatches := by
  intro m d u inStep took took'
  change (m.write u).outcome = .ok () at took
  change (d.write u).outcome = .ok () at took'
  change (m.write u).sink.names = (d.write u).sink.entries.map (·.unit)
  obtain ⟨e, named, entriesAre⟩ := OutputDirectory.entries_write_of_ok took'
  have fresh : e.unit ∉ d.entries.map (·.unit) := by
    rw [named, ← inStep]
    exact (MemorySink.write_ok_iff m u).mp took
  rw [entriesAre, recordEntry_of_fresh fresh, MemorySink.names, MemorySink.write_units_of_ok took,
    List.map_append, List.map_append]
  rw [ManifestMatches, MemorySink.names] at inStep
  rw [inStep]
  simp [named]

/-! ## Dry runs and runs into a directory -/

/-- A settled run that succeeded was not refused. -/
theorem unrefused_of_isOk {σ α : Type} {o : Settled σ α} (succeeded : o.answer.isOk = true) :
    o.Unrefused := by
  intro name cause failed
  rw [failed] at succeeded
  cases succeeded

/-- A memory sink and a directory that starts with an empty manifest answer alike, the manifest
listing the memory's names in order, when the mocks are named apart and the directory refuses no
write. -/
theorem generate_memory_and_directory_agree (model : ModelFile) (options : GeneratorOptions)
    (dir : OutputDirectory) (apart : MockNamesApart options model.rounds.flatten)
    (emptyManifest : dir.entries = [])
    (writable : (settleDrive model.rounds [] [] { options } dir).Unrefused) :
    answered (generate model options ({} : MemorySink)) = answered (generate model options dir) ∧
      (reached (generate model options ({} : MemorySink))).sink.names =
        (reached (generate model options dir)).sink.entries.map (·.unit) := by
  have unrefused : (settleDrive model.rounds [] [] { options } ({} : MemorySink)).Unrefused :=
    settleDrive_memory_unrefused model.rounds
      (fun round member t inRound => List.mem_flatten.mpr ⟨round, member, inRound⟩) apart
      (fun t member => by cases member) (MemoryLedger.empty options)
  have inStep : ManifestMatches ({} : MemorySink) dir := by
    simp [ManifestMatches, MemorySink.names, emptyManifest]
  -- a run of the driver from a fresh session is what `generate` runs
  exact runRounds_agree manifestMatches_keptByWrites model.rounds 0
    [] {} [] { session := { options }, sink := ({} : MemorySink) } { session := { options }, sink := dir }
    rfl inStep unrefused writable

/-- Reading the world is one step of a run that leaves it as it was. -/
theorem Run.get_apply (w : World) : (EStateM.get : Run World) w = .ok w w := rfl

/-- Changing the world is one step of a run. -/
theorem Run.modifyGet_apply {α : Type} (f : World → α × World) (w : World) :
    (EStateM.modifyGet f : Run α) w = .ok (f w).1 (f w).2 := rfl

/-- Without a configuration file, a run's options are the command line's over the defaults, and
looking for the file leaves the world as it was. -/
theorem resolveOptions_of_configPath_none {a : Arguments} {w : World}
    (unconfigured : a.configPath? w.disk = none) :
    (resolveOptions a).run w = .ok (a.override {}) w := by
  simp [resolveOptions, unconfigured, EStateM.run, bind, EStateM.bind, get, getThe,
    MonadStateOf.get, Run.get_apply, pure, EStateM.pure]

section Execute

variable (a : Arguments) (w w' : World) (options : GeneratorOptions) (model : ModelFile)

/-- A dry run answers with the summary of a run into a memory sink, listing the sink's names. -/
theorem execute_dryRun_answer (resolved : (resolveOptions a).run w = .ok options w')
    (loaded : loadModel w'.disk a.model = .ok model) :
    answered (({ a with dryRun := true }).execute.run w) =
      (answered (generate model options ({} : MemorySink))).map fun summary =>
        { summary with units := (reached (generate model options ({} : MemorySink))).sink.names } := by
  -- the options do not read `dryRun`
  have resolved' : resolveOptions { a with dryRun := true } w = .ok options w' := resolved
  simp only [Arguments.execute, EStateM.run, bind, EStateM.bind, get, getThe, MonadStateOf.get,
    Run.get_apply]
  rw [resolved']
  simp only [Run.ofExcept, loaded, pure, EStateM.pure, Run.note, modify, modifyGet,
    MonadStateOf.modifyGet, Run.modifyGet_apply, if_true, EStateM.bind, Run.generating]
  cases generate model options ({} : MemorySink) <;> rfl

/-- A run into a directory answers with the summary of the run into the directory the world
holds, listing the units of its manifest, once the manifest is written. -/
theorem execute_directory_answer (resolved : (resolveOptions a).run w = .ok options w')
    (loaded : loadModel w'.disk a.model = .ok model)
    (manifest : ((reached (generate model options
      ({ root := a.outDir, disk := w'.disk } : OutputDirectory))).sink.finish).isOk = true) :
    answered (({ a with dryRun := false }).execute.run w) =
      (answered (generate model options ({ root := a.outDir, disk := w'.disk } : OutputDirectory))).map
        fun summary => { summary with units := (reached (generate model options
          ({ root := a.outDir, disk := w'.disk } : OutputDirectory))).sink.entries.map (·.unit) } := by
  have resolved' : resolveOptions { a with dryRun := false } w = .ok options w' := resolved
  simp only [Arguments.execute, EStateM.run, bind, EStateM.bind, get, getThe, MonadStateOf.get,
    Run.get_apply]
  rw [resolved']
  simp only [Run.ofExcept, loaded, pure, EStateM.pure, Run.note, modify, modifyGet,
    MonadStateOf.modifyGet, Run.modifyGet_apply, if_false, Bool.false_eq_true, EStateM.bind,
    Run.get_apply, Run.generating]
  cases ran : generate model options ({ root := a.outDir, disk := w'.disk } : OutputDirectory) with
  | error f p => rfl
  | ok summary p =>
      rw [ran] at manifest
      simp only [reached] at manifest
      cases written : p.sink.finish with
      | error e => rw [written] at manifest; cases manifest
      | ok result =>
          simp [written, answered, reached, EStateM.bind, Run.modifyGet_apply, EStateM.pure, Except.map]

end Execute

/-- A dry run answers as a run into a directory with an empty manifest does, when the mocks are
named apart, the directory refuses no write and the manifest can be written: both generate the
same units, and the dry run's names are the manifest's units in order. -/
theorem dry_run_answers_as_directory_run (model : ModelFile) (options : GeneratorOptions)
    (dir : OutputDirectory) (apart : MockNamesApart options model.rounds.flatten)
    (emptyManifest : dir.entries = [])
    (writable : (settleDrive model.rounds [] [] { options } dir).Unrefused) :
    answered (generate model options ({} : MemorySink)) = answered (generate model options dir) ∧
      (reached (generate model options ({} : MemorySink))).sink.names =
        (reached (generate model options dir)).sink.entries.map (·.unit) ∧
      ∀ (a : Arguments) (w w' : World), (resolveOptions a).run w = .ok options w' →
        loadModel w'.disk a.model = .ok model → dir = { root := a.outDir, disk := w'.disk } →
        ((reached (generate model options dir)).sink.finish).isOk = true →
        answered (({ a with dryRun := true }).execute.run w) =
          answered (({ a with dryRun := false }).execute.run w) := by
  obtain ⟨sameAnswer, sameUnits⟩ :=
    generate_memory_and_directory_agree model options dir apart emptyManifest writable
  refine ⟨sameAnswer, sameUnits, fun a w w' resolved loaded besideWorld manifest => ?_⟩
  subst besideWorld
  rw [execute_dryRun_answer a w w' options model resolved loaded,
    execute_directory_answer a w w' options model resolved loaded manifest, sameAnswer, sameUnits]

/-- A model of two marked classes of the package `p`, `Foo` and `Bar`. -/
def fooAndBar : ModelFile :=
  { rounds := [[markedInP "Foo" "p.Foo" "src/Foo.kt", markedInP "Bar" "p.Bar" "src/Bar.kt"]] }

/-- The model file of `fooAndBar`. -/
def fooAndBarText : String :=
  "\x7b\"rounds\": [[\x7b\"package\": \"p\", \"simpleName\": \"Foo\", \"qualifiedName\": \"p.Foo\", " ++
    "\"modality\": \"abstract\", \"annotations\": [\"dev.kmock.runtime.Mocked\"], " ++
    "\"containingFile\": \"src/Foo.kt\"\x7d, \x7b\"package\": \"p\", \"simpleName\": \"Bar\", " ++
    "\"qualifiedName\": \"p.Bar\", \"modality\": \"abstract\", " ++
    "\"annotations\": [\"dev.kmock.runtime.Mocked\"], \"containingFile\": \"src/Bar.kt\"\x7d]]\x7d"

/-- A world whose tree holds only the model file `model.json`. -/
def modelWorld (text : String) : World := { disk := Disk.ofFiles [("model.json", text)] }

theorem foo_and_bar_dry_run_answers_as_directory_run :
    MockNamesApart {} fooAndBar.rounds.flatten ∧
      (settleDrive fooAndBar.rounds [] [] { options := {} }
        ({ root := "out", disk := (modelWorld fooAndBarText).disk } : OutputDirectory)).Unrefused ∧
      answered (({ model := "model.json", outDir := "out", dryRun := true } : Arguments).execute.run
          (modelWorld fooAndBarText)) =
        answered (({ model := "model.json", outDir := "out" } : Arguments).execute.run
          (modelWorld fooAndBarText)) := by
  have apart : MockNamesApart {} fooAndBar.rounds.flatten := by
    refine ⟨by decide +kernel, by decide +kernel, fun t member k same => ?_⟩
    -- a mock of the package `p` starts with `p`, a stub class of the runtime package with `d`
    have heads := congrArg (fun name : String => name.toList.head?) same
    simp only [fooAndBar, List.flatten_cons, List.flatten_nil, List.append_nil, List.mem_cons,
      List.not_mem_nil, or_false] at member
    rcases member with rfl | rfl <;>
      simp [TargetType.mockName, markedInP, GeneratorOptions.mockClassName, Session.primitiveUnit,
        GeneratedUnit.qualifiedName, defaultRuntimePackage, String.toList_append] at heads
  have writable : (settleDrive fooAndBar.rounds [] [] { options := {} }
      ({ root := "out", disk := (modelWorld fooAndBarText).disk } : OutputDirectory)).Unrefused :=
    unrefused_of_isOk (by decide +kernel)
  have resolved : (resolveOptions { model := "model.json", outDir := "out" }).run
      (modelWorld fooAndBarText) = .ok {} (modelWorld fooAndBarText) :=
    resolveOptions_of_configPath_none (by decide +kernel)
  obtain ⟨-, -, sameRuns⟩ := dry_run_answers_as_directory_run fooAndBar {}
    { root := "out", disk := (modelWorld fooAndBarText).disk } apart rfl writable
  exact ⟨apart, writable, sameRuns { model := "model.json", outDir := "out" } _ _ resolved
    (by decide +kernel) rfl (by decide +kernel)⟩

/-- The model file of two nested classes `Foo`, of `p.A` and of `p.B`. -/
def nestedFooText : String :=
  "\x7b\"rounds\": [[\x7b\"package\": \"p\", \"simpleName\": \"Foo\", \"qualifiedName\": \"p.A.Foo\", " ++
    "\"modality\": \"abstract\", \"annotations\": [\"dev.kmock.runtime.Mocked\"], " ++
    "\"containingFile\": \"src/A.kt\"\x7d, \x7b\"package\": \"p\", \"simpleName\": \"Foo\", " ++
    "\"qualifiedName\": \"p.B.Foo\", \"modality\": \"abstract\", " ++
    "\"annotations\": [\"dev.kmock.runtime.Mocked\"], \"containingFile\": \"src/B.kt\"\x7d]]\x7d"

/-- Two nested classes `Foo`, of `p.A` and of `p.B`, get mocks of one qualified name: the dry run
fails when the memory sink refuses the second, while the run into the directory overwrites the
first, succeeds with the mock generated twice, and lists it once in the manifest. -/
theorem nested_mocks_split_dry_and_directory_runs :
    answered (({ model := "model.json", outDir := "out", dryRun := true } : Arguments).execute.run
        (modelWorld nestedFooText)) =
      .error ⟨["generation failed in round 1", "failed to write generated unit `p.FooMock`",
        "unit `p.FooMock` was already written"]⟩ ∧
    answered (({ model := "model.json", outDir := "out" } : Arguments).execute.run
        (modelWorld nestedFooText)) =
      .ok { generated := ["p.FooMock", "p.FooMock"], units := ["dev.kmock.runtime.Predicates",
        "dev.kmock.runtime.MockNotConfiguredException",
        "dev.kmock.runtime.MockSequenceExhaustedException", "p.FooMock"] } := by
  decide +kernel

end Cli

end KotlinMocks

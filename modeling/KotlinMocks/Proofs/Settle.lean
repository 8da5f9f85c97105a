import KotlinMocks.Emit.Session
import KotlinMocks.Proofs.Registry

/-!
# Sessions without their diagnostics

What a session's work answers, and the session and sink it leaves behind, never depend on
the diagnostic events recorded along the way. This module states that work as plain
functions of the session and the sink, from `handOver` (units handed to a sink one after
another, up to the first refusal) to `Session.settleRound`, and proves each of them equal to
the run of the generation code it describes, with the diagnostics left out
(`settle_processRound` and the lemmas it is built from).

A `Recorded` sink keeps every write attempt with its outcome, so that what a session wrote,
and in which order, can be read off the sink it wrote to.
-/

namespace KotlinMocks

open Generation

variable {σ α β : Type}

/-! ## Handing units to a sink -/

/-- What handing units to a sink one after another came to. -/
structure Handover (σ : Type) where
  sink : σ
  /-- The units the sink took, in the order they were handed over. -/
  taken : List GeneratedUnit
  /-- The unit the sink refused, with the reason; nothing was handed over after it. -/
  refused : Option (GeneratedUnit × IoFailure)

/-- Hands units to a sink in order, stopping at the first one it refuses. -/
def handOver [Sink σ] (sink : σ) : List GeneratedUnit → Handover σ
  | [] => ⟨sink, [], none⟩
  | u :: rest =>
    let delivery := Sink.write sink u
    match delivery.outcome with
    | .ok () =>
      let later := handOver delivery.sink rest
      { later with taken := u :: later.taken }
    | .error cause => ⟨delivery.sink, [], some (u, cause)⟩

/-- The answer of a hand-over: `a` when the sink took every unit, else the failure naming the
unit it refused. -/
def Handover.answer (h : Handover σ) (a : α) : Except GenerateError α :=
  match h.refused with
  | none => .ok a
  | some (u, cause) => .error (.sink u.qualifiedName cause)

section HandOver

variable [Sink σ]

@[simp] theorem handOver_nil (sink : σ) : handOver sink [] = ⟨sink, [], none⟩ := rfl

theorem handOver_cons (sink : σ) (u : GeneratedUnit) (rest : List GeneratedUnit) :
    handOver sink (u :: rest) =
      match (Sink.write sink u).outcome with
      | .ok () =>
        { handOver (Sink.write sink u).sink rest with
          taken := u :: (handOver (Sink.write sink u).sink rest).taken }
      | .error cause => ⟨(Sink.write sink u).sink, [], some (u, cause)⟩ := rfl

/-- A hand-over that met no refusal took every unit. -/
theorem handOver_taken_of_refused_none {sink : σ} {units : List GeneratedUnit}
    (noRefusal : (handOver sink units).refused = none) : (handOver sink units).taken = units := by
  induction units generalizing sink with
  | nil => rfl
  | cons u rest restTaken =>
      rw [handOver_cons] at noRefusal ⊢
      cases outcome : (Sink.write sink u).outcome with
      | ok _ =>
          simp only [outcome] at noRefusal ⊢
          rw [restTaken noRefusal]
      | error cause => simp [outcome] at noRefusal

/-- A hand-over that met a refusal took the units before the refused one. -/
theorem handOver_of_refused_some {sink : σ} {units : List GeneratedUnit}
    {refusedUnit : GeneratedUnit} {cause : IoFailure}
    (refusal : (handOver sink units).refused = some (refusedUnit, cause)) :
    ∃ after, units = (handOver sink units).taken ++ refusedUnit :: after := by
  induction units generalizing sink with
  | nil => simp at refusal
  | cons u rest restSplit =>
      rw [handOver_cons] at refusal ⊢
      cases outcome : (Sink.write sink u).outcome with
      | ok _ =>
          simp only [outcome] at refusal ⊢
          obtain ⟨after, split⟩ := restSplit refusal
          exact ⟨after, by rw [List.cons_append]; exact congrArg (u :: ·) split⟩
      | error _ =>
          simp only [outcome, Option.some.injEq, Prod.mk.injEq] at refusal ⊢
          obtain ⟨rfl, -⟩ := refusal
          exact ⟨rest, rfl⟩

/-- Handing over two lists in a row is handing over the second after the first, unless the
first met a refusal. -/
theorem handOver_append (sink : σ) (first second : List GeneratedUnit) :
    handOver sink (first ++ second) =
      match (handOver sink first).refused with
      | none =>
        { handOver (handOver sink first).sink second with
          taken := (handOver sink first).taken ++ (handOver (handOver sink first).sink second).taken }
      | some _ => handOver sink first := by
  induction first generalizing sink with
  | nil => rfl
  | cons u rest restAppend =>
      rw [List.cons_append, handOver_cons, handOver_cons]
      cases outcome : (Sink.write sink u).outcome with
      | ok _ =>
          simp only [restAppend]
          cases restRefused : (handOver (Sink.write sink u).sink rest).refused <;>
            simp [restRefused]
      | error _ => rfl

/-- A hand-over takes units from the front. -/
theorem handOver_taken_leads (sink : σ) (units : List GeneratedUnit) :
    (handOver sink units).taken <+: units := by
  cases refusal : (handOver sink units).refused with
  | none => exact ⟨[], by simp [handOver_taken_of_refused_none refusal]⟩
  | some failed =>
      obtain ⟨after, split⟩ := handOver_of_refused_some refusal
      exact ⟨failed.1 :: after, split.symm⟩

end HandOver

/-! ## Recorded sinks -/

/-- One unit handed to a sink, and whether the sink took it. -/
structure Attempt where
  unit : GeneratedUnit
  outcome : Except IoFailure Unit

/-- A successful attempt to write `u`. -/
def Attempt.took (u : GeneratedUnit) : Attempt := ⟨u, .ok ()⟩

/-- A sink together with the record of every write attempt made on it, oldest first. -/
structure Recorded (σ : Type) where
  inner : σ
  log : List Attempt := []

instance [Sink σ] : Sink (Recorded σ) where
  write r u :=
    let delivery := Sink.write r.inner u
    { sink := { inner := delivery.sink, log := r.log ++ [⟨u, delivery.outcome⟩] }
      outcome := delivery.outcome
      events := delivery.events }

/-- The attempts a hand-over made: every unit taken, then the refused one. -/
def Handover.attempts (h : Handover σ) : List Attempt :=
  h.taken.map Attempt.took ++ (h.refused.map fun (u, cause) => ⟨u, .error cause⟩).toList

theorem Handover.took_mem_attempts {h : Handover σ} {u : GeneratedUnit} :
    Attempt.took u ∈ h.attempts ↔ u ∈ h.taken := by
  cases refusal : h.refused with
  | none => simp [attempts, refusal, Attempt.took]
  | some failed => simp [attempts, refusal, Attempt.took]

/-- Every attempt of a hand-over but the last was taken. -/
theorem Handover.took_of_mem_before {h : Handover σ} {before after : List Attempt} {attempt : Attempt}
    (split : h.attempts = before ++ attempt :: after) : ∀ x ∈ before, x = Attempt.took x.unit := by
  intro x member
  cases refusal : h.refused with
  | none =>
      simp only [attempts, refusal, Option.map_none, Option.toList_none, List.append_nil] at split
      have taken : x ∈ h.taken.map Attempt.took := split ▸ List.mem_append_left _ member
      obtain ⟨u, -, rfl⟩ := List.mem_map.mp taken
      rfl
  | some failed =>
      simp only [attempts, refusal, Option.map_some, Option.toList_some] at split
      -- the refused attempt is the last one, so everything before `attempt` was taken
      have shorter : before.length < (h.taken.map Attempt.took).length + 1 := by
        have lengths := congrArg List.length split
        simp only [List.length_append, List.length_cons, List.length_nil] at lengths
        omega
      have index := List.getElem_of_mem member
      obtain ⟨i, bound, atIndex⟩ := index
      have inTaken : x ∈ h.taken.map Attempt.took := by
        have lookup := congrArg (·[i]?) split
        simp only [List.getElem?_append_left (by omega : i < before.length)] at lookup
        rw [List.getElem?_eq_getElem bound, atIndex] at lookup
        rw [List.getElem?_append_left (by omega : i < (h.taken.map Attempt.took).length)] at lookup
        exact List.mem_of_getElem? lookup
      obtain ⟨u, -, rfl⟩ := List.mem_map.mp inTaken
      rfl

/-- The attempts of a hand-over are made on units from the front of the list. -/
theorem handOver_attempts_lead [Sink σ] (sink : σ) (units : List GeneratedUnit) :
    (handOver sink units).attempts.map Attempt.unit <+: units := by
  cases refusal : (handOver sink units).refused with
  | none =>
      simp only [Handover.attempts, refusal, Option.map_none, Option.toList_none, List.append_nil,
        List.map_map]
      rw [handOver_taken_of_refused_none refusal]
      exact ⟨[], by simp [Attempt.took, Function.comp_def]⟩
  | some failed =>
      obtain ⟨after, split⟩ := handOver_of_refused_some refusal
      refine ⟨after, ?_⟩
      simp only [Handover.attempts, refusal, Option.map_some, Option.toList_some, List.map_append,
        List.map_map, List.map_cons, List.map_nil]
      generalize (handOver sink units).taken = taken at split ⊢
      subst split
      simp [Attempt.took, Function.comp_def]

/-- A hand-over to a recorded sink records one attempt for each unit it handed over. -/
theorem handOver_log [Sink σ] (r : Recorded σ) (units : List GeneratedUnit) :
    (handOver r units).sink.log = r.log ++ (handOver r units).attempts := by
  induction units generalizing r with
  | nil => simp [Handover.attempts]
  | cons u rest restLog =>
      rw [handOver_cons]
      cases outcome : (Sink.write r u).outcome with
      | ok _ =>
          rw [restLog]
          have taken : (Sink.write r u).sink.log = r.log ++ [Attempt.took u] := by
            change r.log ++ [⟨u, (Sink.write r.inner u).outcome⟩] = _
            change (Sink.write r.inner u).outcome = .ok () at outcome
            rw [outcome]
            rfl
          simp [taken, Handover.attempts]
      | error cause =>
          change (Sink.write r.inner u).outcome = .error cause at outcome
          simp only [Handover.attempts, List.map_nil, Option.map_some, Option.toList_some,
            List.nil_append]
          change r.log ++ [⟨u, (Sink.write r.inner u).outcome⟩] = _
          rw [outcome]

/-! ## Runs without diagnostics -/

/-- Where a run of generation came to, diagnostics aside: its answer or failure, and the
session and the sink it left. -/
structure Settled (σ α : Type) where
  answer : Except GenerateError α
  session : Session
  sink : σ

/-- A run's result without its diagnostics. -/
def settle : EStateM.Result GenerateError (Progress σ) α → Settled σ α
  | .ok a p => ⟨.ok a, p.session, p.sink⟩
  | .error e p => ⟨.error e, p.session, p.sink⟩

/-- Continues a settled run with `next` when it succeeded. -/
def Settled.andThen (o : Settled σ α) (next : α → Session → σ → Settled σ β) : Settled σ β :=
  match o.answer with
  | .ok a => next a o.session o.sink
  | .error e => ⟨.error e, o.session, o.sink⟩

theorem Settled.andThen_of_ok {o : Settled σ α} {next : α → Session → σ → Settled σ β} {a : α}
    (succeeded : o.answer = .ok a) : o.andThen next = next a o.session o.sink := by
  simp [andThen, succeeded]

theorem Settled.andThen_of_error {o : Settled σ α} {next : α → Session → σ → Settled σ β}
    {e : GenerateError} (failed : o.answer = .error e) :
    o.andThen next = ⟨.error e, o.session, o.sink⟩ := by
  simp [andThen, failed]

/-- A continued run that succeeds succeeded in its first part and went on from there. -/
theorem Settled.andThen_eq_ok {o : Settled σ α} {next : α → Session → σ → Settled σ β} {b : β}
    (succeeded : (o.andThen next).answer = .ok b) :
    ∃ a, o.answer = .ok a ∧ o.andThen next = next a o.session o.sink := by
  cases first : o.answer with
  | error e => rw [andThen_of_error first] at succeeded; cases succeeded
  | ok a => exact ⟨a, rfl, andThen_of_ok first⟩

/-- What holds of where a settled run left off, and is kept by its continuation, holds of
where the two left off together. -/
theorem Settled.andThen_keeps {P : Session → σ → Prop} {o : Settled σ α}
    {next : α → Session → σ → Settled σ β} (first : P o.session o.sink)
    (step : ∀ a, o.answer = .ok a → P (next a o.session o.sink).session (next a o.session o.sink).sink) :
    P (o.andThen next).session (o.andThen next).sink := by
  cases answer : o.answer with
  | ok a => rw [andThen_of_ok answer]; exact step a answer
  | error e => rw [andThen_of_error answer]; exact first

theorem Settled.andThen_assoc {γ : Type} (o : Settled σ α) (f : α → Session → σ → Settled σ β)
    (g : β → Session → σ → Settled σ γ) :
    (o.andThen f).andThen g = o.andThen fun a s sink => (f a s sink).andThen g := by
  cases answer : o.answer with
  | ok a => rw [andThen_of_ok answer, andThen_of_ok answer]
  | error e => rw [andThen_of_error answer, andThen_of_error answer, andThen_of_error rfl]

@[simp] theorem settle_ok (a : α) (p : Progress σ) : settle (.ok a p) = ⟨.ok a, p.session, p.sink⟩ := rfl

@[simp] theorem settle_error (e : GenerateError) (p : Progress σ) :
    settle (.error e p : EStateM.Result GenerateError (Progress σ) α) = ⟨.error e, p.session, p.sink⟩ :=
  rfl

/-- A step whose settled outcome depends only on the session and the sink it starts from can be
settled after any run: the diagnostics of the run before it do not matter. -/
theorem settle_bind {x : Generation σ α} {f : α → Generation σ β}
    (next : α → Session → σ → Settled σ β)
    (quiet : ∀ a q, settle ((f a).run q) = next a q.session q.sink) (p : Progress σ) :
    settle ((x >>= f).run p) = (settle (x.run p)).andThen next := by
  rw [EStateM.run_bind]
  cases x.run p with
  | ok a q => exact quiet a q
  | error e q => rfl

theorem settle_pure (a : α) (p : Progress σ) :
    settle ((pure a : Generation σ α).run p) = ⟨.ok a, p.session, p.sink⟩ := rfl

/-- Recording diagnostics leaves the session and the sink as they were. -/
theorem run_emitAll (events : List Trace.Event) (p : Progress σ) :
    ∃ recorded, (forIn events PUnit.unit fun e _ => do emit e; pure (ForInStep.yield PUnit.unit) :
      Generation σ PUnit).run p = .ok PUnit.unit { p with events := recorded } := by
  induction events generalizing p with
  | nil => exact ⟨p.events, rfl⟩
  | cons head rest restEmits =>
      rw [List.forIn_cons]
      obtain ⟨recorded, restRun⟩ := restEmits
        { p with events := p.events ++ [{ head with spans := p.spans }] }
      refine ⟨recorded, ?_⟩
      simp only [EStateM.run_bind]
      exact restRun

/-- One write hands the unit to the sink; a refusal fails with the unit's qualified name. -/
theorem run_write [Sink σ] (u : GeneratedUnit) (p : Progress σ) :
    ∃ recorded, (write u : Generation σ Unit).run p =
      match (Sink.write p.sink u).outcome with
      | .ok () => .ok () { p with sink := (Sink.write p.sink u).sink, events := recorded }
      | .error cause => .error (.sink u.qualifiedName cause)
          { p with sink := (Sink.write p.sink u).sink, events := recorded } := by
  obtain ⟨recorded, emitted⟩ := run_emitAll (σ := σ) (Sink.write p.sink u).events
    { p with sink := (Sink.write p.sink u).sink }
  refine ⟨recorded, ?_⟩
  simp only [write, EStateM.run_bind, EStateM.run_get, EStateM.run_set]
  rw [emitted]
  generalize (Sink.write p.sink u).outcome = outcome
  cases outcome <;> rfl

theorem run_note (level : Trace.Level) (message : String) (fields : List (String × Trace.FieldValue))
    (p : Progress σ) :
    (note level message fields : Generation σ Unit).run p =
      .ok () { p with events := p.events ++
        [{ ({ origin := sessionOrigin, level, message, fields } : Trace.Event) with spans := p.spans }] } :=
  rfl

theorem run_updateSession (f : Session → Session) (p : Progress σ) :
    (updateSession f : Generation σ Unit).run p = .ok () { p with session := f p.session } := rfl

/-- A span around a step leaves what the step settles to unchanged. -/
theorem settle_inSpan (span : Trace.Span) (body : Generation σ α) (p : Progress σ) :
    settle ((inSpan span body).run p) = settle (body.run { p with spans := p.spans ++ [span] }) := by
  simp only [inSpan, EStateM.run]
  split <;> rename_i result <;> simp [result]

@[simp] theorem run_throw (e : GenerateError) (p : Progress σ) :
    (throw e : Generation σ α).run p = .error e p := rfl

theorem settle_map (f : α → β) (x : Generation σ α) (p : Progress σ) :
    settle ((f <$> x).run p) = ⟨(settle (x.run p)).answer.map f, (settle (x.run p)).session,
      (settle (x.run p)).sink⟩ := by
  simp only [Functor.map, EStateM.map, EStateM.run]
  cases x p <;> rfl

/-- A write settles as the hand-over of its one unit. -/
theorem settle_write [Sink σ] (u : GeneratedUnit) (p : Progress σ) :
    settle ((write u).run p) =
      ⟨(handOver p.sink [u]).answer (), p.session, (handOver p.sink [u]).sink⟩ := by
  obtain ⟨recorded, written⟩ := run_write u p
  rw [written, handOver_cons]
  cases (Sink.write p.sink u).outcome <;> rfl

/-- Writing a unit, noting it, then answering `a`. -/
theorem settle_write_then [Sink σ] (u : GeneratedUnit) (level : Trace.Level) (message : String)
    (fields : List (String × Trace.FieldValue)) (a : α) (p : Progress σ) :
    settle ((do write u; note level message fields; pure a : Generation σ α).run p) =
      ⟨(handOver p.sink [u]).answer a, p.session, (handOver p.sink [u]).sink⟩ := by
  rw [settle_bind (fun _ s sink => ⟨.ok a, s, sink⟩)
    (fun _ q => by
      rw [settle_bind (fun _ s sink => ⟨.ok a, s, sink⟩) (fun _ q => settle_pure a q)]
      rfl),
    settle_write]
  cases refusal : (handOver p.sink [u]).refused <;> simp [Settled.andThen, Handover.answer, refusal]

/-! ## A session's work, diagnostics aside -/

/-- The units of a pending target in the order they are written: its stub classes, then its
mock. -/
def PendingTarget.units (pending : PendingTarget) : List GeneratedUnit :=
  pending.primitives.map Prod.snd ++ [pending.subtype]

namespace Session

/-- Every unit a target needs, built from the session as `generateTarget` builds it: the
containing file is checked first, then the members are planned, then the mock class is made. -/
def pendingFor (s : Session) (t : TargetType) : Except GenerateError PendingTarget :=
  match t.containingFile, planMembers t with
  | none, _ => .error (.missingContainingFile t.displayName)
  | some _, .error e => .error e
  | some origin, .ok plans =>
    match MockClass.make t plans s.options with
    | .error e => .error e
    | .ok m => .ok {
        subtype := { package := t.package, name := m.className, dependency := .origin origin,
                     text := m.render }
        primitives := (s.registry.missing (plans.flatMap MemberPlan.stubKinds)).map fun k =>
          (k, s.primitiveUnit k) }

/-- The support units handed to the sink, unless the session wrote them already; the session
remembers them only once all of them were taken. -/
def settleSupport [Sink σ] (s : Session) (sink : σ) : Settled σ Unit :=
  if s.supportEmitted then ⟨.ok (), s, sink⟩
  else
    let h := handOver sink (supportUnits s.options.runtimePackage)
    match h.refused with
    | none => ⟨.ok (), { s with supportEmitted := true }, h.sink⟩
    | some (u, cause) => ⟨.error (.sink u.qualifiedName cause), s, h.sink⟩

/-- A pending target written: its stub classes, each shape recorded as soon as its class was
taken, then its mock. -/
def settleCommit [Sink σ] (s : Session) (sink : σ) (pending : PendingTarget) :
    Settled σ (List StubKind) :=
  let h := handOver sink pending.units
  ⟨h.answer (pending.primitives.map Prod.fst),
    { s with registry := s.registry.insertAll ((pending.primitives.take h.taken.length).map Prod.fst) },
    h.sink⟩

/-- One target of a round processed as `processTarget` processes it: skipped, deferred,
ignored as generated before, or generated and written. -/
def settleTarget [Sink σ] (s : Session) (sink : σ) (t : TargetType) (report : RoundReport) :
    Settled σ RoundReport :=
  if !t.isEligible s.options.marker then
    ⟨.ok { report with skipped := report.skipped ++ [t.displayName] }, s, sink⟩
  else if !t.unresolvedReferences.isEmpty then
    ⟨.ok { report with deferred := report.deferred ++ [t] }, s, sink⟩
  else if s.generated.contains t.displayName then ⟨.ok report, s, sink⟩
  else
    match s.pendingFor t with
    | .error e => ⟨.error e, s, sink⟩
    | .ok pending =>
      (s.settleCommit sink pending).andThen fun introduced s sink =>
        ⟨.ok { report with
            primitives := report.primitives ++ introduced
            generated := report.generated ++ [pending.subtype.qualifiedName] },
          { s with generated := s.generated ++ [t.displayName] }, sink⟩

/-- Everything processing a target can do: pass it over, as ineligible, deferred or generated
before, touching neither the session nor the sink and reporting no shape; fail to build its
units, touching nothing; or, for a target not generated before, commit its units and go on as
the commit allows. -/
theorem settleTarget_cases [Sink σ] (s : Session) (sink : σ) (t : TargetType)
    (report : RoundReport) :
    (∃ report', s.settleTarget sink t report = ⟨.ok report', s, sink⟩ ∧
        report'.primitives = report.primitives) ∨
      (∃ e, s.pendingFor t = .error e ∧ s.settleTarget sink t report = ⟨.error e, s, sink⟩) ∨
      ∃ pending, s.pendingFor t = .ok pending ∧ t.displayName ∉ s.generated ∧
        s.settleTarget sink t report = (s.settleCommit sink pending).andThen fun introduced s sink =>
          ⟨.ok { report with
              primitives := report.primitives ++ introduced
              generated := report.generated ++ [pending.subtype.qualifiedName] },
            { s with generated := s.generated ++ [t.displayName] }, sink⟩ := by
  unfold settleTarget
  split
  · exact Or.inl ⟨_, rfl, rfl⟩
  split
  · exact Or.inl ⟨_, rfl, rfl⟩
  split
  · exact Or.inl ⟨_, rfl, rfl⟩
  rename_i generatedBefore
  cases built : s.pendingFor t with
  | error e => exact Or.inr (Or.inl ⟨e, rfl, rfl⟩)
  | ok pending => exact Or.inr (Or.inr ⟨pending, rfl, by simpa using generatedBefore, rfl⟩)

/-- What a target's units are when they can be built. -/
theorem pendingFor_eq_ok {s : Session} {t : TargetType} {pending : PendingTarget}
    (built : s.pendingFor t = .ok pending) :
    ∃ origin plans m, t.containingFile = some origin ∧ planMembers t = .ok plans ∧
      MockClass.make t plans s.options = .ok m ∧
      pending.subtype = ⟨t.package, m.className, .origin origin, m.render⟩ ∧
      pending.primitives = (s.registry.missing (plans.flatMap MemberPlan.stubKinds)).map fun k =>
        (k, s.primitiveUnit k) := by
  cases origin : t.containingFile with
  | none => simp [pendingFor, origin] at built
  | some file =>
      cases planned : planMembers t with
      | error e => simp [pendingFor, origin, planned] at built
      | ok plans =>
          cases made : MockClass.make t plans s.options with
          | error e => simp [pendingFor, origin, planned, made] at built
          | ok m =>
              simp only [pendingFor, origin, planned, made, Except.ok.injEq] at built
              exact ⟨file, plans, m, rfl, rfl, made, by rw [← built], by rw [← built]⟩

/-- Which mock a target gets, or why it gets none, depends on the session's options alone. -/
theorem map_subtype_pendingFor {s s' : Session} (sameOptions : s'.options = s.options)
    (t : TargetType) :
    (s'.pendingFor t).map PendingTarget.subtype = (s.pendingFor t).map PendingTarget.subtype := by
  cases origin : t.containingFile with
  | none => simp [pendingFor, origin]
  | some file =>
      cases planned : planMembers t with
      | error e => simp [pendingFor, origin, planned]
      | ok plans =>
          cases made : MockClass.make t plans s.options <;>
            simp [pendingFor, origin, planned, made, sameOptions, Except.map]

end Session

/-- The targets of a round processed in order; the first failure ends the round. -/
def settleTargets [Sink σ] : List TargetType → RoundReport → Session → σ → Settled σ RoundReport
  | [], report, s, sink => ⟨.ok report, s, sink⟩
  | t :: rest, report, s, sink => (s.settleTarget sink t report).andThen (settleTargets rest)

/-- A round processed: the support units first, then every target. -/
def Session.settleRound [Sink σ] (s : Session) (sink : σ) (targets : List TargetType) :
    Settled σ RoundReport :=
  (s.settleSupport sink).andThen fun _ s sink => settleTargets targets {} s sink

/-- Processing two lists of targets in a row is processing their concatenation. -/
theorem settleTargets_append [Sink σ] (first second : List TargetType) (report : RoundReport)
    (s : Session) (sink : σ) :
    settleTargets (first ++ second) report s sink =
      (settleTargets first report s sink).andThen (settleTargets second) := by
  induction first generalizing report s sink with
  | nil => rfl
  | cons t rest restAppend =>
      simp only [List.cons_append, settleTargets, Settled.andThen_assoc]
      congr
      funext next s sink
      exact restAppend next s sink

/-- Rounds of one session in a row, each from where the one before it left the session and the
sink, whether it succeeded or failed: each round's session at its start, and where it settled. -/
def settleRounds [Sink σ] :
    List (List TargetType) → Session → σ → List (Session × Settled σ RoundReport)
  | [], _, _ => []
  | targets :: later, s, sink =>
    let round := s.settleRound sink targets
    (s, round) :: settleRounds later round.session round.sink

/-- Where a run came to, whether it succeeded or failed. -/
def reached {ε σ α : Type} : EStateM.Result ε σ α → σ
  | .ok _ p => p
  | .error _ p => p

/-- Rounds of one session in a row, each from where the one before it left off, whether that one
succeeded or failed: each round's starting point and result. -/
def processRounds [Sink σ] :
    List (List TargetType) → Progress σ →
      List (Progress σ × EStateM.Result GenerateError (Progress σ) RoundReport)
  | [], _ => []
  | targets :: later, p =>
    let result := (processRound targets).run p
    (p, result) :: processRounds later (reached result)

/-! ## The code settles as stated -/

/-- Building a target's units leaves the session and the sink as they were. -/
theorem settle_generateTarget (t : TargetType) (p : Progress σ) :
    settle ((generateTarget t).run p) = ⟨p.session.pendingFor t, p.session, p.sink⟩ := by
  simp only [generateTarget, settle_inSpan]
  cases origin : t.containingFile with
  | none => simp [Session.pendingFor, origin]
  | some file =>
      cases planned : planMembers t with
      | error failure =>
          simp [Session.pendingFor, origin, planned, notePhase, note, emit, MonadExcept.ofExcept]
      | ok plans =>
          cases made : MockClass.make t plans p.session.options with
          | error failure =>
              simp [Session.pendingFor, origin, planned, made, notePhase, note, emit,
                MonadExcept.ofExcept]
          | ok m =>
              simp only [Session.pendingFor, origin, planned, made, notePhase, note, emit,
                MonadExcept.ofExcept, bind_pure_comp, pure_bind, EStateM.run_bind, EStateM.run_get,
                EStateM.run_modify, List.append_assoc, List.cons_append, List.nil_append, settle_map,
                Except.map, settle_ok]

theorem settle_state (result : EStateM.Result GenerateError (Progress σ) α) :
    (settle result).session = (reached result).session ∧ (settle result).sink = (reached result).sink := by
  cases result <;> exact ⟨rfl, rfl⟩

section Runs

variable [Sink σ]

/-- Writing stub classes hands them over in order and records each shape the sink took. -/
theorem settle_writePrimitives (primitives : List (StubKind × GeneratedUnit)) (p : Progress σ) :
    settle ((writePrimitives primitives).run p) =
      let h := handOver p.sink (primitives.map Prod.snd)
      let recorded := (primitives.take h.taken.length).map Prod.fst
      ⟨h.answer (primitives.map Prod.fst),
        { p.session with registry := p.session.registry.insertAll recorded }, h.sink⟩ := by
  induction primitives generalizing p with
  | nil => rfl
  | cons primitive rest restSettles =>
      obtain ⟨k, u⟩ := primitive
      obtain ⟨recorded, written⟩ := run_write u p
      simp only [writePrimitives, EStateM.run_bind, written, List.map_cons, handOver_cons]
      cases outcome : (Sink.write p.sink u).outcome with
      | error cause => simp [Handover.answer]
      | ok _ =>
          simp only [run_note, run_updateSession]
          rw [← EStateM.run_bind, settle_bind (fun later s sink => ⟨.ok (k :: later), s, sink⟩)
            (fun later q => settle_pure (k :: later) q), restSettles]
          cases restRefused : (handOver (Sink.write p.sink u).sink (rest.map Prod.snd)).refused <;>
            simp [Settled.andThen, Handover.answer, restRefused]

theorem settle_commit (pending : PendingTarget) (p : Progress σ) :
    settle ((commit pending).run p) = p.session.settleCommit p.sink pending := by
  simp only [commit]
  rw [settle_bind
      (fun introduced s sink => ⟨(handOver sink [pending.subtype]).answer introduced, s,
        (handOver sink [pending.subtype]).sink⟩)
      (fun introduced q => settle_write_then _ _ _ _ introduced q),
    settle_writePrimitives]
  simp only [Session.settleCommit, PendingTarget.units, handOver_append]
  cases refusal : (handOver p.sink (pending.primitives.map Prod.snd)).refused with
  | some failed => simp [Settled.andThen, Handover.answer, refusal]
  | none =>
      -- every stub class was taken, so every shape is recorded whatever befalls the mock
      have allTaken := handOver_taken_of_refused_none refusal
      have takeAll : pending.primitives.take
          (handOver p.sink (pending.primitives.map Prod.snd)).taken.length = pending.primitives := by
        rw [allTaken, List.length_map, List.take_length]
      have takeMore : ∀ extra, (pending.primitives.map Prod.fst).take
          ((handOver p.sink (pending.primitives.map Prod.snd)).taken.length + extra) =
            pending.primitives.map Prod.fst := by
        intro extra
        apply List.take_of_length_le
        simp [allTaken]
      cases subtypeRefusal : (handOver (handOver p.sink (pending.primitives.map Prod.snd)).sink
          [pending.subtype]).refused <;>
        simp [Settled.andThen, Handover.answer, refusal, subtypeRefusal, takeAll, takeMore]

/-- Writing units in turn, each followed by a note, hands them over to the sink. -/
theorem settle_writeSupport (units : List GeneratedUnit) (p : Progress σ) :
    settle ((forIn units PUnit.unit fun u _ => do
        write u
        note .trace "emitted support unit" [("unit", .shown u.qualifiedName)]
        pure (ForInStep.yield PUnit.unit) : Generation σ PUnit).run p) =
      ⟨(handOver p.sink units).answer PUnit.unit, p.session, (handOver p.sink units).sink⟩ := by
  induction units generalizing p with
  | nil => rfl
  | cons u rest restSettles =>
      obtain ⟨recorded, written⟩ := run_write u p
      rw [List.forIn_cons]
      simp only [EStateM.run_bind, written, handOver_cons]
      cases (Sink.write p.sink u).outcome with
      | error cause => rfl
      | ok _ =>
          simp only [run_note, EStateM.run_pure]
          rw [restSettles]
          rfl

theorem settle_emitSupport (p : Progress σ) :
    settle ((emitSupport).run p) = p.session.settleSupport p.sink := by
  simp only [emitSupport, EStateM.run_bind, EStateM.run_get]
  by_cases written : p.session.supportEmitted
  · simp [written, Session.settleSupport]
  · simp only [written, Session.settleSupport, Bool.false_eq_true, if_false, EStateM.run_bind,
      EStateM.run_get]
    rw [← EStateM.run_bind,
      settle_bind (fun _ s sink => ⟨.ok (), { s with supportEmitted := true }, sink⟩)
        (fun _ q => rfl),
      settle_writeSupport]
    cases refusal : (handOver p.sink (supportUnits p.session.options.runtimePackage)).refused <;>
      simp [Settled.andThen, Handover.answer, refusal]

theorem settle_processTarget (t : TargetType) (report : RoundReport) (p : Progress σ) :
    settle ((processTarget t report).run p) = p.session.settleTarget p.sink t report := by
  simp only [processTarget, EStateM.run_bind, EStateM.run_get]
  by_cases eligible : t.isEligible p.session.options.marker
  · by_cases resolved : t.unresolvedReferences.isEmpty
    · by_cases generatedBefore : t.displayName ∈ p.session.generated
      · simp only [Session.settleTarget, eligible, Bool.not_true, Bool.false_eq_true, ↓reduceIte,
          resolved, List.contains_eq_mem, generatedBefore, decide_true, bind_pure_comp, settle_map,
          Except.map, run_note, settle_ok]
      · simp only [Session.settleTarget, eligible, resolved, List.contains_eq_mem, generatedBefore,
          decide_false, Bool.not_true, Bool.false_eq_true, if_false]
        rw [settle_bind
            (fun pending s sink => (s.settleCommit sink pending).andThen fun introduced s sink =>
              ⟨.ok { report with
                  primitives := report.primitives ++ introduced
                  generated := report.generated ++ [pending.subtype.qualifiedName] },
                { s with generated := s.generated ++ [t.displayName] }, sink⟩)
            (fun pending q => by
              rw [settle_bind
                  (fun introduced s sink =>
                    ⟨.ok { report with
                        primitives := report.primitives ++ introduced
                        generated := report.generated ++ [pending.subtype.qualifiedName] },
                      { s with generated := s.generated ++ [t.displayName] }, sink⟩)
                  (fun introduced q => rfl),
                settle_commit]),
          settle_generateTarget]
        cases (p.session.pendingFor t) <;> rfl
    · simp only [Session.settleTarget, eligible, Bool.not_true, Bool.false_eq_true, ↓reduceIte,
        resolved, Bool.not_false, bind_pure_comp, settle_map, Except.map, run_note, settle_ok]
  · simp only [Session.settleTarget, eligible, Bool.not_false, ↓reduceIte, bind_pure_comp,
      settle_map, Except.map, run_note, settle_ok]

theorem settle_processTargets (targets : List TargetType) (report : RoundReport) (p : Progress σ) :
    settle ((processTargets targets report).run p) = settleTargets targets report p.session p.sink := by
  induction targets generalizing report p with
  | nil => rfl
  | cons t rest restSettles =>
      simp only [processTargets, settleTargets]
      rw [settle_bind (settleTargets rest) (fun next q => restSettles next q), settle_processTarget]

/-- A round settles as `Session.settleRound` states, whatever diagnostics it records. -/
theorem settle_processRound (targets : List TargetType) (p : Progress σ) :
    settle ((processRound targets).run p) = p.session.settleRound p.sink targets := by
  simp only [processRound, settle_inSpan]
  rw [settle_bind (fun _ s sink => settleTargets targets {} s sink)
      (fun _ q => settle_processTargets targets {} q),
    settle_emitSupport]
  rfl

/-- Rounds in a row settle as `settleRounds` states. -/
theorem settle_processRounds (rounds : List (List TargetType)) (p : Progress σ) :
    List.map (fun round => (round.1.session, settle round.2)) (processRounds rounds p) =
      settleRounds rounds p.session p.sink := by
  induction rounds generalizing p with
  | nil => rfl
  | cons targets later laterSettle =>
      simp only [processRounds, settleRounds, List.map_cons, settle_processRound, laterSettle]
      rw [← (settle_state _).1, ← (settle_state _).2, settle_processRound]

end Runs

end KotlinMocks

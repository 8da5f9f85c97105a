import KotlinMocks.Proofs.CarriedTargets

/-!
# Runs on sinks that refuse nothing

A session asks of its sink only whether it took each unit. So what a run answers and the
session it leaves depend on the sink only through the units it refused: two runs of the same
rounds from the same session, on two sinks neither of which ends the run by refusing a unit,
answer the same and leave the same session (`Cli.settleDrive_agree`), and the driver answers the
same on both (`Cli.runRounds_agree`). What the two sinks hold at the end is related by any
relation that the writes both of them take keep (`KeptByWrites`).
-/

namespace KotlinMocks

variable {σ τ α β : Type}

/-! ## Settled runs that agree -/

/-- A settled run that did not end because its sink refused a unit. -/
def Settled.Unrefused (o : Settled σ α) : Prop :=
  ∀ name cause, o.answer ≠ .error (.sink name cause)

/-- Two settled runs, on sinks of two kinds, that answered the same and left the same session,
with sinks related by `R`. -/
structure Settled.Agree (R : σ → τ → Prop) (o : Settled σ α) (o' : Settled τ α) : Prop where
  answer : o.answer = o'.answer
  session : o.session = o'.session
  sinks : R o.sink o'.sink

namespace Settled

theorem Unrefused.of_andThen {o : Settled σ α} {next : α → Session → σ → Settled σ β}
    (unrefused : (o.andThen next).Unrefused) : o.Unrefused := by
  intro name cause failed
  exact unrefused name cause (by rw [andThen_of_error failed])

theorem Unrefused.next {o : Settled σ α} {next : α → Session → σ → Settled σ β} {a : α}
    (unrefused : (o.andThen next).Unrefused) (succeeded : o.answer = .ok a) :
    (next a o.session o.sink).Unrefused := by
  rw [andThen_of_ok succeeded] at unrefused
  exact unrefused

/-- Two runs that agree, each continued by a step that agrees on related sinks whenever neither
side is refused, agree when neither continued run is refused. -/
theorem Agree.andThen {R : σ → τ → Prop} {o : Settled σ α} {o' : Settled τ α}
    {next : α → Session → σ → Settled σ β} {next' : α → Session → τ → Settled τ β}
    (first : o.Agree R o') (unrefused : (o.andThen next).Unrefused)
    (unrefused' : (o'.andThen next').Unrefused)
    (step : ∀ a s x y, R x y → (next a s x).Unrefused → (next' a s y).Unrefused →
      (next a s x).Agree R (next' a s y)) :
    (o.andThen next).Agree R (o'.andThen next') := by
  cases answer : o.answer with
  | error e =>
      have answer' : o'.answer = .error e := first.answer ▸ answer
      rw [andThen_of_error answer, andThen_of_error answer']
      exact ⟨rfl, first.session, first.sinks⟩
  | ok a =>
      have answer' : o'.answer = .ok a := first.answer ▸ answer
      have later := unrefused.next answer
      have later' := unrefused'.next answer'
      rw [andThen_of_ok answer, andThen_of_ok answer']
      rw [← first.session] at later' ⊢
      exact step a o.session o.sink o'.sink first.sinks later later'

end Settled

/-- A hand-over whose answer is no refusal refused nothing. -/
theorem Handover.refused_none_of_answer {h : Handover σ} {a : α}
    (unrefused : ∀ name cause, h.answer a ≠ .error (.sink name cause)) : h.refused = none := by
  cases refusal : h.refused with
  | none => rfl
  | some failed =>
      obtain ⟨u, cause⟩ := failed
      exact absurd (by simp [Handover.answer, refusal]) (unrefused u.qualifiedName cause)

/-! ## Sinks in step -/

/-- A relation between the states of two sinks that every unit both of them take keeps. -/
def KeptByWrites [Sink σ] [Sink τ] (R : σ → τ → Prop) : Prop :=
  ∀ a b u, R a b → (Sink.write a u).outcome = .ok () → (Sink.write b u).outcome = .ok () →
    R (Sink.write a u).sink (Sink.write b u).sink

section Lockstep

variable [Sink σ] [Sink τ] {R : σ → τ → Prop}

/-- Two related sinks that take every unit handed over stay related. -/
theorem handOver_related (keeps : KeptByWrites R) (units : List GeneratedUnit) :
    ∀ {a : σ} {b : τ}, R a b → (handOver a units).refused = none →
      (handOver b units).refused = none → R (handOver a units).sink (handOver b units).sink := by
  induction units with
  | nil => intro a b related _ _; exact related
  | cons u rest restRelated =>
      intro a b related taken taken'
      rw [handOver_cons] at taken taken'
      rw [handOver_cons, handOver_cons]
      cases wrote : (Sink.write a u).outcome with
      | error cause => simp [wrote] at taken
      | ok _ =>
          cases wrote' : (Sink.write b u).outcome with
          | error cause => simp [wrote'] at taken'
          | ok _ =>
              simp only [wrote, wrote'] at taken taken' ⊢
              exact restRelated (keeps a b u related wrote wrote') taken taken'

variable {s : Session} {a : σ} {b : τ}

theorem settleSupport_agree (keeps : KeptByWrites R) (related : R a b)
    (unrefused : (s.settleSupport a).Unrefused) (unrefused' : (s.settleSupport b).Unrefused) :
    (s.settleSupport a).Agree R (s.settleSupport b) := by
  unfold Session.settleSupport at unrefused unrefused' ⊢
  cases emitted : s.supportEmitted with
  | true => exact ⟨rfl, rfl, related⟩
  | false =>
      simp only [emitted, Bool.false_eq_true, ite_false] at unrefused unrefused' ⊢
      cases refusal : (handOver a (supportUnits s.options.runtimePackage)).refused with
      | some failed =>
          obtain ⟨u, cause⟩ := failed
          simp only [refusal] at unrefused
          exact absurd rfl (unrefused u.qualifiedName cause)
      | none =>
          cases refusal' : (handOver b (supportUnits s.options.runtimePackage)).refused with
          | some failed =>
              obtain ⟨u, cause⟩ := failed
              simp only [refusal'] at unrefused'
              exact absurd rfl (unrefused' u.qualifiedName cause)
          | none => exact ⟨rfl, rfl, handOver_related keeps _ related refusal refusal'⟩

theorem settleCommit_agree (keeps : KeptByWrites R) (related : R a b) (pending : PendingTarget)
    (unrefused : (s.settleCommit a pending).Unrefused)
    (unrefused' : (s.settleCommit b pending).Unrefused) :
    (s.settleCommit a pending).Agree R (s.settleCommit b pending) := by
  have refusal : (handOver a pending.units).refused = none :=
    Handover.refused_none_of_answer unrefused
  have refusal' : (handOver b pending.units).refused = none :=
    Handover.refused_none_of_answer unrefused'
  refine ⟨?_, ?_, handOver_related keeps _ related refusal refusal'⟩
  · simp [Session.settleCommit, Handover.answer, refusal, refusal']
  · simp [Session.settleCommit, handOver_taken_of_refused_none refusal,
      handOver_taken_of_refused_none refusal']

theorem settleTarget_agree (keeps : KeptByWrites R) (related : R a b) (t : TargetType)
    (report : RoundReport) (unrefused : (s.settleTarget a t report).Unrefused)
    (unrefused' : (s.settleTarget b t report).Unrefused) :
    (s.settleTarget a t report).Agree R (s.settleTarget b t report) := by
  unfold Session.settleTarget at unrefused unrefused' ⊢
  split
  · exact ⟨rfl, rfl, related⟩
  split
  · exact ⟨rfl, rfl, related⟩
  split
  · exact ⟨rfl, rfl, related⟩
  rename_i ineligible waiting generatedBefore
  simp only [ineligible, waiting, generatedBefore] at unrefused unrefused'
  cases built : s.pendingFor t with
  | error e => exact ⟨rfl, rfl, related⟩
  | ok pending =>
      simp only [built] at unrefused unrefused' ⊢
      -- the commit, then the report and the session that do not look at the sink
      exact Settled.Agree.andThen
        (settleCommit_agree keeps related pending unrefused.of_andThen unrefused'.of_andThen)
        unrefused unrefused' fun _ _ _ _ relatedAfter _ _ => ⟨rfl, rfl, relatedAfter⟩

theorem settleTargets_agree (keeps : KeptByWrites R) (targets : List TargetType) :
    ∀ {report : RoundReport} {s : Session} {a : σ} {b : τ}, R a b →
      (settleTargets targets report s a).Unrefused → (settleTargets targets report s b).Unrefused →
      (settleTargets targets report s a).Agree R (settleTargets targets report s b) := by
  induction targets with
  | nil => intro report s a b related _ _; exact ⟨rfl, rfl, related⟩
  | cons t rest restAgree =>
      intro report s a b related unrefused unrefused'
      exact Settled.Agree.andThen
        (settleTarget_agree keeps related t report unrefused.of_andThen unrefused'.of_andThen)
        unrefused unrefused' fun _ _ _ _ relatedAfter => restAgree relatedAfter

theorem settleRound_agree (keeps : KeptByWrites R) (related : R a b) (targets : List TargetType)
    (unrefused : (s.settleRound a targets).Unrefused)
    (unrefused' : (s.settleRound b targets).Unrefused) :
    (s.settleRound a targets).Agree R (s.settleRound b targets) :=
  Settled.Agree.andThen (settleSupport_agree keeps related unrefused.of_andThen unrefused'.of_andThen)
    unrefused unrefused' fun _ _ _ _ relatedAfter => settleTargets_agree keeps targets relatedAfter

end Lockstep

/-- What a run answered, whatever state it left. -/
def answered {ε σ α : Type} : EStateM.Result ε σ α → Except ε α
  | .ok a _ => .ok a
  | .error e _ => .error e

namespace Cli

section Lockstep

variable [Sink σ] [Sink τ] {R : σ → τ → Prop}

theorem settleDrive_agree (keeps : KeptByWrites R) (rounds : List (List TargetType)) :
    ∀ {carried : List TargetType} {done : List RoundReport} {s : Session} {a : σ} {b : τ}, R a b →
      (settleDrive rounds carried done s a).Unrefused → (settleDrive rounds carried done s b).Unrefused →
      (settleDrive rounds carried done s a).Agree R (settleDrive rounds carried done s b) := by
  induction rounds with
  | nil => intro carried done s a b related _ _; exact ⟨rfl, rfl, related⟩
  | cons round rest restAgree =>
      intro carried done s a b related unrefused unrefused'
      exact Settled.Agree.andThen
        (settleRound_agree keeps related _ unrefused.of_andThen unrefused'.of_andThen)
        unrefused unrefused' fun _ _ _ _ relatedAfter => restAgree relatedAfter

/-- The driver, run from the same session on two related sinks whose rounds neither sink ends
by a refusal, answers the same on both and leaves the two sinks related. -/
theorem runRounds_agree (keeps : KeptByWrites R) (rounds : List (List TargetType)) :
    ∀ (index : Nat) (carried : List TargetType) (summary : Summary) (done : List RoundReport)
      (p : Progress σ) (q : Progress τ), p.session = q.session → R p.sink q.sink →
      (settleDrive rounds carried done p.session p.sink).Unrefused →
      (settleDrive rounds carried done q.session q.sink).Unrefused →
      answered ((runRounds rounds index carried summary).run p) =
          answered ((runRounds rounds index carried summary).run q) ∧
        R (reached ((runRounds rounds index carried summary).run p)).sink
          (reached ((runRounds rounds index carried summary).run q)).sink := by
  induction rounds with
  | nil =>
      intro index carried summary done p q _ related _ _
      rw [runRounds, runRounds]
      cases carried.isEmpty <;> exact ⟨rfl, related⟩
  | cons round rest restAgree =>
      intro index carried summary done p q sameSession related unrefused unrefused'
      obtain ⟨noted, notedSession, notedSink, stepIs⟩ :=
        run_runRounds_cons round rest index carried summary p
      obtain ⟨noted', notedSession', notedSink', stepIs'⟩ :=
        run_runRounds_cons round rest index carried summary q
      rw [stepIs, stepIs', Rounds.run_within_bind, Rounds.run_within_bind]
      have settled := settle_processRound (offered carried round) noted
      have settled' := settle_processRound (offered carried round) noted'
      rw [notedSession, notedSink] at settled
      rw [notedSession', notedSink', ← sameSession] at settled'
      rw [← sameSession] at unrefused'
      simp only [settleDrive] at unrefused unrefused'
      -- the first round agrees on both sinks
      have first := settleRound_agree keeps related (offered carried round) unrefused.of_andThen
        unrefused'.of_andThen
      rw [← settled, ← settled'] at first
      rw [← settled] at unrefused
      rw [← settled'] at unrefused'
      cases ran : (processRound (offered carried round)).run noted with
      | error e pe =>
          cases ran' : (processRound (offered carried round)).run noted' with
          | error e' qe =>
              rw [ran, ran'] at first
              have sameError : e = e' := by simpa using first.answer
              subst sameError
              exact ⟨rfl, first.sinks⟩
          | ok report' qe =>
              rw [ran, ran'] at first
              cases first.answer
      | ok report pe =>
          cases ran' : (processRound (offered carried round)).run noted' with
          | error e' qe =>
              rw [ran, ran'] at first
              cases first.answer
          | ok report' qe =>
              rw [ran, ran'] at first
              rw [ran] at unrefused
              rw [ran'] at unrefused'
              have sameReport : report = report' := by simpa using first.answer
              subst sameReport
              exact restAgree (index + 1) report.deferred (summary.add report) (done ++ [report])
                pe qe first.session first.sinks (unrefused.next rfl) (unrefused'.next rfl)

end Lockstep

end Cli

end KotlinMocks

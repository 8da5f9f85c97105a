import KotlinMocks.Double.Stub

/-!
# A stub over any run of operations

A stub is made, then called, reset and configured in any order. After any such run it holds
the arguments of every call since the last reset (or since it was made), in order, whether the
call succeeded or failed, and its queries count exactly those. Each call is answered by the last
configuration made since the last reset and by nothing before it: not configured when there is
none; the value, or the failure, it installed; the responder, after it has answered the calls
made since; or the element of a sequence at the call's position under it, the sequence being
used up after its last element. The failure installed by one configuration is the same for every
call it answers, and it is told apart from those of other configurations by how many were
installed before it.

Whether a recorded call passes a predicate does not depend on the consultations counted so far
(`Predicate.run_fst`), so the counting queries count plain tests.
-/

namespace KotlinMocks.Double

variable {ρ A R : Type}

/-! ## Operations -/

/-- One thing done to a stub: a call with its arguments, a reset, or a configuration; only a
void stub can be told to do nothing. -/
inductive StubOp (ρ A : Type) : Type → Type 1 where
  | call {R : Type} (args : A) : StubOp ρ A R
  | reset {R : Type} : StubOp ρ A R
  | throwsOnCall {R : Type} (message : String) : StubOp ρ A R
  | producesValue {R : Type} (value : R) : StubOp ρ A R
  | producesFromSequence {R : Type} (values : List R) : StubOp ρ A R
  | delegatesTo {R : Type} (responder : ρ) : StubOp ρ A R
  | delegatesToSequence {R : Type} (responders : List ρ) : StubOp ρ A R
  | doesNothing : StubOp ρ A Unit

namespace StubOp

/-- The arguments of a call; none for any other operation. -/
def callArgs? : StubOp ρ A R → Option A
  | .call args => some args
  | _ => none

/-- Whether the operation is a reset. -/
def isReset : StubOp ρ A R → Bool
  | .reset => true
  | _ => false

/-- Whether the operation installs a failure. -/
def installsFailure : StubOp ρ A R → Bool
  | .throwsOnCall _ => true
  | _ => false

theorem eq_reset_of_isReset {op : StubOp ρ A R} (reset : op.isReset = true) : op = .reset := by
  cases op <;> simp_all [isReset]

end StubOp

/-- The arguments of the calls among some operations, in order. -/
def callsIn (ops : List (StubOp ρ A R)) : List A := ops.filterMap StubOp.callArgs?

/-- The operations after the last reset; all of them when there is none. -/
def afterLastReset : List (StubOp ρ A R) → List (StubOp ρ A R)
  | [] => []
  | op :: rest =>
    if rest.any StubOp.isReset then afterLastReset rest
    else if op.isReset then rest else op :: rest

/-- How many failures some operations install. -/
def failuresIn (ops : List (StubOp ρ A R)) : Nat := ops.countP StubOp.installsFailure

/-- A responder after it has answered the given arguments, one after another. -/
def respondAll [Responder ρ A R] (r : ρ) : List A → ρ
  | [] => r
  | args :: rest => respondAll (Responder.respond r args).1 rest

@[simp] theorem callsIn_nil : callsIn ([] : List (StubOp ρ A R)) = [] := rfl

@[simp] theorem callsIn_cons (op : StubOp ρ A R) (ops : List (StubOp ρ A R)) :
    callsIn (op :: ops) = (op.callArgs?).toList ++ callsIn ops := by
  cases h : op.callArgs? <;> simp [callsIn, h]

/-- Without a reset, every operation is after the last one. -/
theorem afterLastReset_of_no_reset {ops : List (StubOp ρ A R)} (noReset : ops.any StubOp.isReset = false) :
    afterLastReset ops = ops := by
  induction ops with
  | nil => rfl
  | cons op rest restKept =>
      simp only [List.any_cons, Bool.or_eq_false_iff] at noReset
      simp [afterLastReset, noReset.1, noReset.2]

/-! ## Doing operations -/

namespace Stub

/-- Does one operation; a call's answer is dropped here, and read off `Stub.call` where it
matters. -/
def apply : [Responder ρ A R] → Stub ρ A R → StubOp ρ A R → Stub ρ A R
  | _, s, .call args => (s.call args).1
  | _, s, .reset => s.reset
  | _, s, .throwsOnCall message => s.throwsOnCall message
  | _, s, .producesValue value => s.producesValue value
  | _, s, .producesFromSequence values => s.producesFromSequence values
  | _, s, .delegatesTo r => s.delegatesTo r
  | _, s, .delegatesToSequence rs => s.delegatesToSequence rs
  | _, s, .doesNothing => s.doesNothing

/-- Does operations in order. -/
def applyAll [Responder ρ A R] (s : Stub ρ A R) (ops : List (StubOp ρ A R)) : Stub ρ A R :=
  ops.foldl (fun s op => s.apply op) s

section Steps

variable [Responder ρ A R] (s : Stub ρ A R)

@[simp] theorem applyAll_nil : s.applyAll [] = s := rfl

@[simp] theorem applyAll_cons (op : StubOp ρ A R) (ops : List (StubOp ρ A R)) :
    s.applyAll (op :: ops) = (s.apply op).applyAll ops := rfl

theorem applyAll_append (first second : List (StubOp ρ A R)) :
    s.applyAll (first ++ second) = (s.applyAll first).applyAll second := by
  simp [applyAll, List.foldl_append]

/-- A call is recorded whatever it answers. -/
@[simp] theorem call_history (args : A) : (s.call args).1.history = s.history ++ [args] := by
  obtain ⟨history, behaviour, installed⟩ := s
  rcases behaviour with _ | _ | _ | ⟨_ | _, _⟩ | _ | ⟨_ | _, _⟩ <;> rfl

@[simp] theorem call_installed (args : A) : (s.call args).1.installed = s.installed := by
  obtain ⟨history, behaviour, installed⟩ := s
  rcases behaviour with _ | _ | _ | ⟨_ | _, _⟩ | _ | ⟨_ | _, _⟩ <;> rfl

theorem history_apply (op : StubOp ρ A R) :
    (s.apply op).history = (if op.isReset then [] else s.history) ++ (op.callArgs?).toList := by
  cases op <;> simp [apply, StubOp.isReset, StubOp.callArgs?, reset, throwsOnCall, producesValue,
    producesFromSequence, delegatesTo, delegatesToSequence, doesNothing]

theorem installed_apply (op : StubOp ρ A R) :
    (s.apply op).installed = s.installed + (if op.installsFailure then 1 else 0) := by
  cases op <;> simp [apply, StubOp.installsFailure, reset, throwsOnCall, producesValue,
    producesFromSequence, delegatesTo, delegatesToSequence, doesNothing]

end Steps

/-! ## What a run keeps -/

section Runs

variable [Responder ρ A R]

/-- After any operations a stub holds the calls made since the last of them that was a reset,
after the calls it held before when there was none. -/
theorem history_applyAll (ops : List (StubOp ρ A R)) (s : Stub ρ A R) :
    (s.applyAll ops).history =
      (if ops.any StubOp.isReset then [] else s.history) ++ callsIn (afterLastReset ops) := by
  induction ops generalizing s with
  | nil => simp [afterLastReset]
  | cons op rest restHistory =>
      rw [applyAll_cons, restHistory]
      cases resetLater : rest.any StubOp.isReset
      · -- no reset after `op`: what `op` leaves is kept, and everything after it
        rw [afterLastReset_of_no_reset resetLater, history_apply]
        cases resetNow : op.isReset
        · simp [afterLastReset, resetLater, resetNow]
        · obtain rfl := StubOp.eq_reset_of_isReset resetNow
          simp [afterLastReset, resetLater, StubOp.callArgs?, StubOp.isReset]
      · simp [afterLastReset, resetLater]

/-- Each installed failure gets the next serial number, resets included. -/
theorem installed_applyAll (ops : List (StubOp ρ A R)) (s : Stub ρ A R) :
    (s.applyAll ops).installed = s.installed + failuresIn ops := by
  induction ops generalizing s with
  | nil => rfl
  | cons op rest restInstalled =>
      rw [applyAll_cons, restInstalled, installed_apply]
      cases installs : op.installsFailure
      · simp [failuresIn, installs]
      · simp [failuresIn, installs]
        omega

end Runs

end Stub

/-! ## Answers -/

/-- The answer of a behaviour that answers every call alike and is not changed by answering:
not configured, a failure, or a value. -/
def Behaviour.steadyAnswer : Behaviour ρ R → Option (Except StubError R)
  | .unconfigured => some (.error .notConfigured)
  | .throws serial message => some (.error (.thrown serial message))
  | .produces value => some (.ok value)
  | _ => none

namespace Stub

section Calls

variable [Responder ρ A R] {s : Stub ρ A R}

theorem call_of_steady {answer : Except StubError R} (steady : s.behaviour.steadyAnswer = some answer)
    (args : A) : (s.call args).1.behaviour = s.behaviour ∧ (s.call args).2 = answer := by
  obtain ⟨history, behaviour, installed⟩ := s
  cases behaviour <;> simp_all [Behaviour.steadyAnswer, call]

theorem call_of_sequence {values : List R} {answered : Nat}
    (current : s.behaviour = .sequence values answered) (args : A) :
    (s.call args).1.behaviour = .sequence (values.drop 1) (answered + min 1 values.length) ∧
      (s.call args).2 = (values.head?.map .ok).getD (.error (.sequenceExhausted answered)) := by
  obtain ⟨history, behaviour, installed⟩ := s
  subst current
  cases values <;> simp [call]

theorem call_of_delegatesSequence {responders : List ρ} {answered : Nat}
    (current : s.behaviour = .delegatesSequence responders answered) (args : A) :
    (s.call args).1.behaviour =
        .delegatesSequence (responders.drop 1) (answered + min 1 responders.length) ∧
      (s.call args).2 = (responders.head?.map fun r => .ok (Responder.respond r args).2).getD
        (.error (.sequenceExhausted answered)) := by
  obtain ⟨history, behaviour, installed⟩ := s
  subst current
  cases responders <;> simp [call]

theorem call_of_delegates {r : ρ} (current : s.behaviour = .delegates r) (args : A) :
    (s.call args).1.behaviour = .delegates (Responder.respond r args).1 ∧
      (s.call args).2 = .ok (Responder.respond r args).2 := by
  obtain ⟨history, behaviour, installed⟩ := s
  subst current
  simp [call]

end Calls

section CallRuns

variable [Responder ρ A R]

/-- A steady behaviour answers a run of calls, and the call after them, alike. -/
theorem calls_of_steady {answer : Except StubError R} (calls : List A) :
    ∀ {s : Stub ρ A R}, s.behaviour.steadyAnswer = some answer →
      (s.applyAll (calls.map .call)).behaviour = s.behaviour := by
  induction calls with
  | nil => intro s _; rfl
  | cons args rest restSteady =>
      intro s steady
      have first := call_of_steady steady args
      simp only [List.map_cons, applyAll_cons, apply]
      rw [restSteady (by rw [first.1]; exact steady), first.1]

/-- After calls, a sequence has given one value per call until it was used up. -/
theorem calls_of_sequence (calls : List A) :
    ∀ {s : Stub ρ A R} {values : List R} {answered : Nat}, s.behaviour = .sequence values answered →
      (s.applyAll (calls.map .call)).behaviour =
        .sequence (values.drop calls.length) (answered + min calls.length values.length) := by
  induction calls with
  | nil => intro s values answered current; simpa using current
  | cons args rest restGiven =>
      intro s values answered current
      simp only [List.map_cons, applyAll_cons, apply]
      rw [restGiven (call_of_sequence current args).1, List.drop_drop, List.length_drop,
        List.length_cons]
      have given : answered + min 1 values.length + min rest.length (values.length - 1) =
          answered + min (rest.length + 1) values.length := by omega
      rw [given, Nat.add_comm 1]

/-- After calls, a sequence of responders has used one per call until it was used up. -/
theorem calls_of_delegatesSequence (calls : List A) :
    ∀ {s : Stub ρ A R} {responders : List ρ} {answered : Nat},
      s.behaviour = .delegatesSequence responders answered →
      (s.applyAll (calls.map .call)).behaviour =
        .delegatesSequence (responders.drop calls.length)
          (answered + min calls.length responders.length) := by
  induction calls with
  | nil => intro s responders answered current; simpa using current
  | cons args rest restUsed =>
      intro s responders answered current
      simp only [List.map_cons, applyAll_cons, apply]
      rw [restUsed (call_of_delegatesSequence current args).1, List.drop_drop, List.length_drop,
        List.length_cons]
      have used : answered + min 1 responders.length + min rest.length (responders.length - 1) =
          answered + min (rest.length + 1) responders.length := by omega
      rw [used, Nat.add_comm 1]

/-- After calls, a responder has answered each of them in turn. -/
theorem calls_of_delegates (calls : List A) :
    ∀ {s : Stub ρ A R} {r : ρ}, s.behaviour = .delegates r →
      (s.applyAll (calls.map .call)).behaviour = .delegates (respondAll r calls) := by
  induction calls with
  | nil => intro s r current; simpa [respondAll] using current
  | cons args rest restAnswered =>
      intro s r current
      simp only [List.map_cons, applyAll_cons, apply, respondAll]
      exact restAnswered (call_of_delegates current args).1

end CallRuns

end Stub

/-- What a fresh stub answers to a call with `args` made after the operations `ops`. -/
def answerAfter [Responder ρ A R] (ops : List (StubOp ρ A R)) (args : A) : Except StubError R :=
  ((({} : Stub ρ A R).applyAll ops).call args).2

/-! ## Answers after a run -/

section Answers

variable [Responder ρ A R]

/-- A call after a run that ends with `setting` and then calls is answered by the stub that
`setting` left, after those calls. -/
theorem answerAfter_setting (pre : List (StubOp ρ A R)) (setting : StubOp ρ A R) (calls : List A)
    (args : A) :
    answerAfter (pre ++ setting :: calls.map .call) args =
      ((((({} : Stub ρ A R).applyAll pre).apply setting).applyAll (calls.map .call)).call args).2 := by
  simp [answerAfter, Stub.applyAll_append]

theorem answer_of_steady {s : Stub ρ A R} {answer : Except StubError R}
    (steady : s.behaviour.steadyAnswer = some answer) (calls : List A) (args : A) :
    ((s.applyAll (calls.map .call)).call args).2 = answer :=
  (Stub.call_of_steady (by rw [Stub.calls_of_steady calls steady]; exact steady) args).2

/-- A fresh stub answers every call as not configured. -/
theorem answerAfter_calls (calls : List A) (args : A) :
    answerAfter (calls.map (StubOp.call (ρ := ρ) (R := R))) args = .error .notConfigured :=
  answer_of_steady rfl calls args

/-- After a reset, every call is answered as not configured until the next configuration. -/
theorem answerAfter_reset (pre : List (StubOp ρ A R)) (calls : List A) (args : A) :
    answerAfter (pre ++ .reset :: calls.map .call) args = .error .notConfigured := by
  rw [answerAfter_setting]
  exact answer_of_steady rfl calls args

/-- A failure installed after `pre` carries the number of failures installed in `pre`, for
every call it answers. -/
theorem answerAfter_throwsOnCall (pre : List (StubOp ρ A R)) (message : String) (calls : List A)
    (args : A) :
    answerAfter (pre ++ .throwsOnCall message :: calls.map .call) args =
      .error (.thrown (failuresIn pre) message) := by
  rw [answerAfter_setting]
  have serial : (({} : Stub ρ A R).applyAll pre).installed = failuresIn pre := by
    rw [Stub.installed_applyAll]
    exact Nat.zero_add _
  apply answer_of_steady
  simp [Stub.apply, Stub.throwsOnCall, Behaviour.steadyAnswer, serial]

theorem answerAfter_producesValue (pre : List (StubOp ρ A R)) (value : R) (calls : List A)
    (args : A) :
    answerAfter (pre ++ .producesValue value :: calls.map .call) args = .ok value := by
  rw [answerAfter_setting]
  exact answer_of_steady rfl calls args

/-- A responder answers each call after it has answered the calls before, under the same
configuration. -/
theorem answerAfter_delegatesTo (pre : List (StubOp ρ A R)) (r : ρ) (calls : List A) (args : A) :
    answerAfter (pre ++ .delegatesTo r :: calls.map .call) args =
      .ok (Responder.respond (respondAll r calls) args).2 := by
  rw [answerAfter_setting]
  exact (Stub.call_of_delegates (Stub.calls_of_delegates calls rfl) args).2

/-- The call after `k` calls under a sequence gets its element at `k`, or, once the sequence is
used up, fails saying how many answers it gave. -/
theorem answerAfter_producesFromSequence (pre : List (StubOp ρ A R)) (values : List R)
    (calls : List A) (args : A) :
    answerAfter (pre ++ .producesFromSequence values :: calls.map .call) args =
      if h : calls.length < values.length then .ok values[calls.length]
      else .error (.sequenceExhausted values.length) := by
  rw [answerAfter_setting, (Stub.call_of_sequence (Stub.calls_of_sequence calls rfl) args).2,
    List.head?_drop]
  split
  · rename_i within
    simp [List.getElem?_eq_getElem within]
  · rename_i usedUp
    simp [List.getElem?_eq_none (Nat.le_of_not_lt usedUp), Nat.min_eq_right (Nat.le_of_not_lt usedUp)]

/-- The call after `k` calls under a sequence of responders is answered by the responder at
`k`, or, once they are used up, fails saying how many answers they gave. -/
theorem answerAfter_delegatesToSequence (pre : List (StubOp ρ A R)) (responders : List ρ)
    (calls : List A) (args : A) :
    answerAfter (pre ++ .delegatesToSequence responders :: calls.map .call) args =
      if h : calls.length < responders.length then .ok (Responder.respond responders[calls.length] args).2
      else .error (.sequenceExhausted responders.length) := by
  rw [answerAfter_setting,
    (Stub.call_of_delegatesSequence (Stub.calls_of_delegatesSequence calls rfl) args).2,
    List.head?_drop]
  split
  · rename_i within
    simp [List.getElem?_eq_getElem within]
  · rename_i usedUp
    simp [List.getElem?_eq_none (Nat.le_of_not_lt usedUp),
      Nat.min_eq_right (Nat.le_of_not_lt usedUp)]

end Answers

/-- A void stub told to do nothing succeeds on every call until it is configured again. -/
theorem answerAfter_doesNothing {ρ A : Type} [Responder ρ A Unit] (pre : List (StubOp ρ A Unit))
    (calls : List A) (args : A) :
    answerAfter (pre ++ .doesNothing :: calls.map .call) args = .ok () := by
  rw [answerAfter_setting]
  exact answer_of_steady rfl calls args

/-! ## Queries -/

/-- A fold whose first component moves alike from accumulators that agree on it ends alike. -/
theorem foldl_fst_congr {α β γ : Type} (f : β × γ → α → β × γ)
    (agree : ∀ acc acc' x, acc.1 = acc'.1 → (f acc x).1 = (f acc' x).1) (xs : List α) :
    ∀ acc acc' : β × γ, acc.1 = acc'.1 → (xs.foldl f acc).1 = (xs.foldl f acc').1 := by
  induction xs with
  | nil => intro acc acc' same; exact same
  | cons x rest restAgree => intro acc acc' same; exact restAgree _ _ (agree acc acc' x same)

namespace Predicate

/-- Whether a value passes does not depend on the consultations counted before; the tally only
counts. -/
theorem run_fst_congr {α : Type} (p : Predicate α) :
    ∀ (x : α) (t t' : Tally), (p.run x t).1 = (p.run x t').1 := by
  induction p with
  | holds test => intro x t t'; rfl
  | negate p ih =>
      intro x t t'
      simp only [run]
      rw [ih x t t']
  | both p q ihp ihq | either p q ihp ihq | differ p q ihp ihq =>
      intro x t t'
      simp only [run]
      rw [ihp x t t', ihq x _ (p.run x t').2]
  | andThen p q ihp ihq | orElse p q ihp ihq =>
      -- the second operand is consulted, or not, alike from both tallies
      intro x t t'
      simp only [run]
      rw [ihp x t t']
      by_cases first : (p.run x t').1 <;> simp [first, ihq x _ (p.run x t').2]
  | observed name p ih => intro x t t'; exact ih x _ _
  | through part p ih => intro x t t'; exact ih (part x) t t'
  | requireSome p ih | acceptNone p ih =>
      intro x t t'
      cases x with
      | none => rfl
      | some x => exact ih x t t'
  | forAll p ih | forAny p ih =>
      intro xs t t'
      apply foldl_fst_congr
      · intro acc acc' x same
        rw [same]
        split <;> simp_all [ih x acc.2 acc'.2]
      · rfl
  | counted p quota ih =>
      intro xs t t'
      simp only [run]
      congr 1
      apply foldl_fst_congr
      · intro acc acc' x same
        simp only
        rw [same, ih x acc.2 acc'.2]
      · rfl

theorem run_fst {α : Type} (p : Predicate α) (x : α) (t : Tally) : (p.run x t).1 = p.test x :=
  run_fst_congr p x t []

end Predicate

/-- Every argument passes the predicate of its position, at the positions both have. -/
theorem allArgumentsPass_fst {α : Type} (ps : List (Predicate α)) (xs : List α) (t : Tally) :
    (allArgumentsPass ps xs t).1 =
      decide (∀ i (hp : i < ps.length) (hx : i < xs.length), ps[i].test xs[i] = true) := by
  induction ps generalizing xs t with
  | nil => simp [allArgumentsPass]
  | cons p rest restPass =>
      cases xs with
      | nil => simp [allArgumentsPass]
      | cons x xs =>
          have positions : (∀ i (hp : i < (p :: rest).length) (hx : i < (x :: xs).length),
              (p :: rest)[i].test (x :: xs)[i] = true) ↔
              p.test x = true ∧ ∀ i (hp : i < rest.length) (hx : i < xs.length),
                rest[i].test xs[i] = true := by
            constructor
            · intro all
              exact ⟨all 0 (by simp) (by simp),
                fun i hp hx => all (i + 1) (by simp [hp]) (by simp [hx])⟩
            · rintro ⟨first, later⟩ i hp hx
              cases i with
              | zero => simpa using first
              | succ i => simpa using later i (by simpa using hp) (by simpa using hx)
          simp only [allArgumentsPass, positions, Predicate.run_fst]
          by_cases first : p.test x = true <;> simp [first, restPass]

namespace Stub

/-- A fold that adds one for each element its step lets through, where what the step lets through
does not depend on the tally carried along, counts the elements that pass the test. -/
theorem foldl_count_fst {β : Type} (step : Nat × Tally → β → Nat × Tally) (test : β → Bool)
    (counts : ∀ acc x, (step acc x).1 = if test x then acc.1 + 1 else acc.1) :
    ∀ (xs : List β) (acc : Nat × Tally), (xs.foldl step acc).1 = acc.1 + xs.countP test := by
  intro xs
  induction xs with
  | nil => intro acc; rfl
  | cons x rest restCounted =>
      intro acc
      rw [List.foldl_cons, restCounted, counts, List.countP_cons]
      cases test x
      · simp
      · simp
        omega

/-- `callCountMatching` counts the recorded calls that pass. -/
theorem callCountMatching_fst (s : Stub ρ A R) (p : Predicate A) (t : Tally) :
    (s.callCountMatching p t).1 = s.history.countP p.test := by
  unfold callCountMatching
  rw [foldl_count_fst _ p.test (fun acc args => ?_) s.history (0, t), Nat.zero_add]
  -- the predicate's answer does not depend on the tally it is run with
  have passes := Predicate.run_fst p args acc.2
  revert passes
  cases p.run args acc.2 with
  | mk b t' =>
      intro passes
      rw [← passes]

/-- `callCountEach` counts the recorded calls whose every argument passes the predicate of its
position. -/
theorem callCountEach_fst {α : Type} (s : Stub ρ (List α) R) (ps : List (Predicate α)) (t : Tally) :
    (s.callCountEach ps t).1 = s.history.countP fun args =>
      decide (∀ i (hp : i < ps.length) (hx : i < args.length), ps[i].test args[i] = true) := by
  unfold callCountEach
  rw [foldl_count_fst _ _ (fun acc args => ?_) s.history (0, t), Nat.zero_add]
  have passes := allArgumentsPass_fst ps args acc.2
  revert passes
  cases allArgumentsPass ps args acc.2 with
  | mk b t' =>
      intro passes
      rw [← passes]

end Stub

/-! ## The stub as a state machine -/

/-- A fresh stub, after any operations, holds the calls made since the last reset. -/
theorem history_fresh [Responder ρ A R] (ops : List (StubOp ρ A R)) :
    (({} : Stub ρ A R).applyAll ops).history = callsIn (afterLastReset ops) := by
  rw [Stub.history_applyAll]
  cases ops.any StubOp.isReset <;> rfl

/-- After any operations on a fresh stub, the stub holds the arguments of every call made since
the last reset, in order, whichever way each call went, and its counts count exactly those: all
of them, those passing a predicate, and those whose every argument passes the predicate of its
position. A call is answered by the last configuration made since the last reset and by nothing
before it: not configured when there is none; the installed value; the installed failure,
numbered by the failures installed before it and so the same for every call it answers; the
responder, after it has answered the calls made since; success, for a void stub told to do
nothing; and the element of a sequence at the call's position under it, or, once the sequence
is used up, a failure saying how many answers it gave. -/
theorem last_configuration_wins_with_full_history [Responder ρ A R] :
    (∀ ops : List (StubOp ρ A R),
      (({} : Stub ρ A R).applyAll ops).history = callsIn (afterLastReset ops) ∧
      (({} : Stub ρ A R).applyAll ops).callCount = (callsIn (afterLastReset ops)).length ∧
      ∀ (p : Predicate A) (t : Tally), ((({} : Stub ρ A R).applyAll ops).callCountMatching p t).1 =
        (callsIn (afterLastReset ops)).countP p.test) ∧
    (∀ (calls : List A) (args : A),
      answerAfter (calls.map (StubOp.call (ρ := ρ) (R := R))) args = .error .notConfigured) ∧
    (∀ (pre : List (StubOp ρ A R)) (calls : List A) (args : A),
      answerAfter (pre ++ .reset :: calls.map .call) args = .error .notConfigured) ∧
    (∀ (pre : List (StubOp ρ A R)) (message : String) (calls : List A) (args : A),
      answerAfter (pre ++ .throwsOnCall message :: calls.map .call) args =
        .error (.thrown (failuresIn pre) message)) ∧
    (∀ (pre : List (StubOp ρ A R)) (value : R) (calls : List A) (args : A),
      answerAfter (pre ++ .producesValue value :: calls.map .call) args = .ok value) ∧
    (∀ (pre : List (StubOp ρ A R)) (r : ρ) (calls : List A) (args : A),
      answerAfter (pre ++ .delegatesTo r :: calls.map .call) args =
        .ok (Responder.respond (respondAll r calls) args).2) ∧
    (∀ (pre : List (StubOp ρ A R)) (values : List R) (calls : List A) (args : A),
      answerAfter (pre ++ .producesFromSequence values :: calls.map .call) args =
        if h : calls.length < values.length then .ok values[calls.length]
        else .error (.sequenceExhausted values.length)) ∧
    (∀ (pre : List (StubOp ρ A R)) (responders : List ρ) (calls : List A) (args : A),
      answerAfter (pre ++ .delegatesToSequence responders :: calls.map .call) args =
        if h : calls.length < responders.length then
          .ok (Responder.respond responders[calls.length] args).2
        else .error (.sequenceExhausted responders.length)) ∧
    (∀ {ρ' A' : Type} [Responder ρ' A' Unit] (pre : List (StubOp ρ' A' Unit)) (calls : List A')
      (args : A'), answerAfter (pre ++ .doesNothing :: calls.map .call) args = .ok ()) ∧
    (∀ {ρ' α R' : Type} [Responder ρ' (List α) R'] (ops : List (StubOp ρ' (List α) R'))
      (ps : List (Predicate α)) (t : Tally),
      ((({} : Stub ρ' (List α) R').applyAll ops).callCountEach ps t).1 =
        (callsIn (afterLastReset ops)).countP fun args =>
          decide (∀ i (hp : i < ps.length) (hx : i < args.length), ps[i].test args[i] = true)) := by
  refine ⟨fun ops => ⟨history_fresh ops, ?_, fun p t => ?_⟩, answerAfter_calls, answerAfter_reset,
    answerAfter_throwsOnCall, answerAfter_producesValue, answerAfter_delegatesTo,
    answerAfter_producesFromSequence, answerAfter_delegatesToSequence,
    fun pre calls args => answerAfter_doesNothing pre calls args, fun ops ps t => ?_⟩
  · rw [Stub.callCount, history_fresh]
  · rw [Stub.callCountMatching_fst, history_fresh]
  · rw [Stub.callCountEach_fst, history_fresh]

end KotlinMocks.Double

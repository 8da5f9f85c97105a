import KotlinMocks.Double.Predicate
import KotlinMocks.Decimal.Shortest

/-!
# Stubs

A stub stands in for one member. It records the arguments of every call, oldest first, and
then answers as configured: by failing, with a fixed value, with successive values of a
sequence, or by handing the arguments to a responder (or to successive responders). The last
configuration wins; a fresh or reset stub fails every call as not configured, and a sequence
that is used up fails every further call, saying how many answers it gave.

Failures thrown by one configuration are the same failure each time; the failures of two
configurations are different even when their messages agree.

The stub is generic in its responders: a responder of type `ρ` answers arguments `A` with a
result `R` and may change as it answers, which is how a responder keeps a count.
-/

namespace KotlinMocks.Double

/-- Things that answer calls: answering gives the responder after the answer, and the
answer. -/
class Responder (ρ : Type) (A R : outParam Type) where
  respond : ρ → A → ρ × R

/-- Why a call to a stub failed. -/
inductive StubError where
  | notConfigured
  | sequenceExhausted (answered : Nat)
  /-- The failure installed by the `serial`-th `throwsOnCall`, with its message. -/
  | thrown (serial : Nat) (message : String)
  deriving DecidableEq

/-- The sentence that describes a failed call. -/
def StubError.message : StubError → String
  | .notConfigured => "mock not configured"
  | .sequenceExhausted n => "mock sequence exhausted after " ++ Decimal.digitsOf n ++ " answers"
  | .thrown _ m => m

/-- What a stub does when called. -/
inductive Behaviour (ρ R : Type) where
  | unconfigured
  | throws (serial : Nat) (message : String)
  | produces (value : R)
  /-- Answers with the values left, having given `answered` already. -/
  | sequence (values : List R) (answered : Nat)
  | delegates (responder : ρ)
  /-- Answers with the responders left, each once, having used `answered` already. -/
  | delegatesSequence (responders : List ρ) (answered : Nat)

/-- A stand-in for one member, taking arguments `A` and answering `R`. -/
structure Stub (ρ A R : Type) where
  /-- The arguments of every call since the last reset, oldest first. -/
  history : List A := []
  behaviour : Behaviour ρ R := .unconfigured
  /-- How many failures were installed so far, to tell them apart. -/
  installed : Nat := 0

namespace Stub

variable {ρ A R : Type}

/-- Forgets the calls and goes back to failing every call. -/
def reset (s : Stub ρ A R) : Stub ρ A R := { s with history := [], behaviour := .unconfigured }

/-- Fails every call with a new failure carrying `message`. -/
def throwsOnCall (s : Stub ρ A R) (message : String) : Stub ρ A R :=
  { s with behaviour := .throws s.installed message, installed := s.installed + 1 }

/-- Answers every call with `value`. -/
def producesValue (s : Stub ρ A R) (value : R) : Stub ρ A R := { s with behaviour := .produces value }

/-- Answers successive calls with successive values. -/
def producesFromSequence (s : Stub ρ A R) (values : List R) : Stub ρ A R :=
  { s with behaviour := .sequence values 0 }

/-- Answers every call through a responder. -/
def delegatesTo (s : Stub ρ A R) (r : ρ) : Stub ρ A R := { s with behaviour := .delegates r }

/-- Answers successive calls through successive responders. -/
def delegatesToSequence (s : Stub ρ A R) (rs : List ρ) : Stub ρ A R :=
  { s with behaviour := .delegatesSequence rs 0 }

/-- A void stub succeeds without doing anything. -/
def doesNothing (s : Stub ρ A Unit) : Stub ρ A Unit := s.producesValue ()

/-- Records a call, then answers it as configured. -/
def call [Responder ρ A R] (s : Stub ρ A R) (args : A) : Stub ρ A R × Except StubError R :=
  let s := { s with history := s.history ++ [args] }
  match s.behaviour with
  | .unconfigured => (s, .error .notConfigured)
  | .throws serial message => (s, .error (.thrown serial message))
  | .produces v => (s, .ok v)
  | .sequence [] answered => (s, .error (.sequenceExhausted answered))
  | .sequence (v :: rest) answered => ({ s with behaviour := .sequence rest (answered + 1) }, .ok v)
  | .delegates r =>
    let (r', v) := Responder.respond r args
    ({ s with behaviour := .delegates r' }, .ok v)
  | .delegatesSequence [] answered => (s, .error (.sequenceExhausted answered))
  | .delegatesSequence (r :: rest) answered =>
    let (_, v) := Responder.respond r args
    ({ s with behaviour := .delegatesSequence rest (answered + 1) }, .ok v)

/-- How many calls were recorded. -/
def callCount (s : Stub ρ A R) : Nat := s.history.length

/-- How many recorded calls pass a predicate, adding its consultations to the tally. -/
def callCountMatching (s : Stub ρ A R) (p : Predicate A) (t : Tally) : Nat × Tally :=
  s.history.foldl (fun (acc : Nat × Tally) args =>
    let (b, t) := p.run args acc.2
    (if b then acc.1 + 1 else acc.1, t)) (0, t)

end Stub

/-- Whether every argument passes the predicate of its position, tested left to right and
stopping at the first that fails. -/
def allArgumentsPass : List (Predicate α) → List α → Tally → Bool × Tally
  | p :: ps, x :: xs, t =>
    let (b, t) := p.run x t
    if b then allArgumentsPass ps xs t else (false, t)
  | _, _, t => (true, t)

/-- How many recorded calls have every argument passing the predicate of its position. -/
def Stub.callCountEach (s : Stub ρ (List α) R) (ps : List (Predicate α)) (t : Tally) :
    Nat × Tally :=
  s.history.foldl (fun (acc : Nat × Tally) args =>
    let (b, t) := allArgumentsPass ps args acc.2
    (if b then acc.1 + 1 else acc.1, t)) (0, t)

end KotlinMocks.Double

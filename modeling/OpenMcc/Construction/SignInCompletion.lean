import OpenMcc.Construction.InstanceLifecycle
import OpenMcc.Construction.Reconcile

/-!
# Completing a sign-in among the other operations (`authenticate.ts`)

`completeAuthentication` reads the bot's row, probes the host and, for a bot that it read as having
to sign in, writes `stopped`.  It takes no claim and its write asks for nothing, so it may follow
any other write to the status: those of starts, restarts and stops, of recorded failures, and of
other sign-ins.

The sign-in calls are those of `InstanceLifecycle` and everything else is that of `Reconcile`,
over one row.
-/

namespace OpenMcc

/-- The events of sign-ins, of their completions and of their cancelling. -/
def LifecycleEvent.signsIn : LifecycleEvent → Bool
  | .authBegins .. | .authChallenges .. | .authFails .. | .authReleases .. => true
  | .cancelReads .. | .cancelEnds .. => true
  | .completeReads .. | .completeProbes .. | .completeWrites .. | .completeReleases .. => true
  | _ => false

/-- The bot with the operations on its unit, and the sign-in calls by their id. -/
structure SignInState where
  accountType : AccountType
  units : ReconcileState
  signIns : Nat → Option SignInCall

/-- What can happen next to one bot. -/
inductive SignInEvent
  | unit (event : ReconcileEvent)
  | signIn (event : LifecycleEvent)
  deriving DecidableEq, Repr

namespace SignInState

/-- The bot as the sign-in calls see it. -/
def lifecycle (s : SignInState) : LifecycleState where
  accountType := s.accountType
  row := s.units.row
  calls := fun _ => none
  signIns := s.signIns

/-- An operation on the unit, or a recorded failure. -/
def unit (s : SignInState) (event : ReconcileEvent) : Option SignInState :=
  (unitReconciliation.step s.units event).map fun units => { s with units := units }

/-- A step of a sign-in call. -/
def signIn (s : SignInState) (event : LifecycleEvent) : Option SignInState :=
  if event.signsIn then
    (instanceLifecycle.step s.lifecycle event).map fun t =>
      { s with units := { s.units with row := t.row }, signIns := t.signIns }
  else none

end SignInState

/-- Any number of operations and sign-in calls over one bot. -/
def signInCompletion : TransitionSystem SignInState SignInEvent where
  init s := unitReconciliation.init s.units ∧ ∀ id, s.signIns id = none
  step s
    | .unit event => s.unit event
    | .signIn event => s.signIn event

/-! ## The statuses that are written -/

/-- The status that an operation or a recorded failure writes. -/
def ReconcileState.statusWritten (s : ReconcileState) : ReconcileEvent → List InstanceStatus
  | .finalizes claimId true =>
    if s.row.configClaimId = some claimId then
      match s.calls claimId with
      | some (.unitStarted _) => [.running]
      | some (.unitStopped .stop) => [.stopped]
      | _ => []
    else []
  | .records _ true =>
    if s.row.status = .running ∧ s.row.configClaimId = none then [.error] else []
  | _ => []

/-- The status that an event writes. -/
def SignInState.statusWritten (s : SignInState) : SignInEvent → List InstanceStatus
  | .unit event => s.units.statusWritten event
  | .signIn (.authChallenges _ true) => [.needsAuth]
  | .signIn (.completeWrites _ true) => [.stopped]
  | .signIn _ => []

/-- A start or a restart has written `running`, and no stop, sign-in or other completion has
written a status after it. -/
def LeftRunning (written : List InstanceStatus) : Prop :=
  ∃ before after, written = before ++ .running :: after ∧ .stopped ∉ after ∧ .needsAuth ∉ after

end OpenMcc

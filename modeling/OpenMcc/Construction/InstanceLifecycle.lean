import OpenMcc.Construction.InstanceConfig
import OpenMcc.Construction.InstanceRepository
import OpenMcc.Framework.Transition

/-!
# Starts and sign-ins of a bot (`instance.controller.ts`, `authenticate.ts`)

A start reads the bot's status, claims the bot in a transaction of its own, works at the host and
writes `running` in a last transaction that asks for its claim.  A restart does the same with one
more step at the host, and is a start here.  A sign-in claims the bot in another pair of columns,
waits at the host for a device code and then writes `needs_auth`; cancelling and completing it
read the row first and act on what they read.

The system follows one bot and any number of clients.  The saves of its settings take part with
the claims they take and end.  Instants are arbitrary, so any claim may be taken over at any time
its lease is over by some clock.
-/

namespace OpenMcc

/-- `needsInteractiveSignIn`. -/
def needsInteractiveSignIn (accountType : AccountType) : Bool := accountType == .microsoft

/-- How far a start has got. -/
inductive StartStage
  /-- It has read a status that is not `needs_auth`. -/
  | checked
  | claimed
  /-- The unit is started at the host. -/
  | started
  /-- It has failed and has yet to give its claim back. -/
  | releasing
  | ended
  deriving DecidableEq, Repr

/-- The start works under its claim. -/
def StartStage.working : StartStage → Bool
  | .claimed | .started => true
  | _ => false

/-- The operation a configuration claim belongs to. -/
inductive LifecycleCall
  | start (stage : StartStage)
  /-- A save, which writes no status. -/
  | save
  deriving DecidableEq, Repr

/-- How far a sign-in, its completion or its cancelling has got, with what it read. -/
inductive SignInCall
  /-- `beginAuthentication` holds its claim and waits for the device code. -/
  | polling
  | releasing
  /-- `cancelAuthentication` has read the row. -/
  | cancelling (authClaimId : Option Nat)
  /-- `completeAuthentication` has read the row. -/
  | completing (status : InstanceStatus) (authClaimId : Option Nat)
  /-- `completeAuthentication` has found the bot signed in. -/
  | signedIn (authClaimId : Option Nat)
  /-- It has written the status and has yet to give back the claim it read. -/
  | completed (authClaimId : Option Nat)
  | ended
  deriving DecidableEq, Repr

/-- The row of the bot, the starts and saves by claim id, and the sign-in calls by their id: a
sign-in's own is its attempt id. -/
structure LifecycleState where
  accountType : AccountType
  row : InstanceRow
  calls : Nat → Option LifecycleCall
  signIns : Nat → Option SignInCall

/-- What can happen next to one bot. -/
inductive LifecycleEvent
  | reads (claimId : Nat)
  /-- The claim transaction; the saved settings may turn out unusable in it. -/
  | claims (claimId : Nat) (managerNow databaseNow : Int) (usable : Bool)
  | writesToken (claimId : Nat) (sealedToken : Text) (databaseNow : Int)
  /-- The host work fails, with or without a command that may still be running. -/
  | hostFails (claimId : Nat) (inFlight : Bool)
  | starts (claimId : Nat)
  | finalizes (claimId : Nat) (storeAnswers : Bool)
  | releases (claimId : Nat) (storeAnswers : Bool)
  | saveClaims (claimId : Nat) (databaseNow : Int)
  | saveEnds (claimId : Nat)
  | authBegins (attemptId : Nat) (managerNow databaseNow : Int)
  | authChallenges (attemptId : Nat) (storeAnswers : Bool)
  | authFails (attemptId : Nat) (inFlight : Bool)
  | authReleases (attemptId : Nat)
  | cancelReads (id : Nat)
  | cancelEnds (id : Nat) (hostAnswers : Bool)
  | completeReads (id : Nat)
  /-- The probe of the session cache: `none` where it fails. -/
  | completeProbes (id : Nat) (authenticated : Option Bool)
  | completeWrites (id : Nat) (storeAnswers : Bool)
  | completeReleases (id : Nat)
  deriving DecidableEq, Repr

namespace LifecycleState

/-- A start moves on to a stage. -/
def moveTo (s : LifecycleState) (claimId : Nat) (stage : StartStage) : LifecycleState :=
  { s with calls := Function.update s.calls claimId (some (.start stage)) }

/-- A sign-in call moves on. -/
def signInTo (s : LifecycleState) (id : Nat) (call : SignInCall) : LifecycleState :=
  { s with signIns := Function.update s.signIns id (some call) }

/-- The release of the sign-in claim that was read, if one was. -/
def releaseRead (row : InstanceRow) : Option Nat → InstanceRow
  | none => row
  | some attemptId => row.orUnchanged fun row => row.releaseAuthClaim attemptId

/-- `startUnderClaim` up to the claim: a bot that has to sign in is refused. -/
def reads (s : LifecycleState) (claimId : Nat) : Option LifecycleState :=
  if (s.calls claimId).isSome then none
  else if s.row.status = .needsAuth then some s
  else some (s.moveTo claimId .checked)

/-- The claim transaction of `startUnderClaim`. -/
def claims (s : LifecycleState) (claimId : Nat) (managerNow databaseNow : Int) (usable : Bool) :
    Option LifecycleState :=
  match s.calls claimId with
  | some (.start .checked) =>
    match s.row.claimForLifecycle claimId managerNow databaseNow with
    | none => some (s.moveTo claimId .releasing)
    | some claimed =>
      if usable then some { s.moveTo claimId .claimed with row := claimed }
      else some (s.moveTo claimId .releasing)
  | _ => none

/-- The token of the new environment is stored under the claim. -/
def writesToken (s : LifecycleState) (claimId : Nat) (sealedToken : Text) (databaseNow : Int) :
    Option LifecycleState :=
  match s.calls claimId with
  | some (.start .claimed) =>
    match s.row.writeTokenUnderClaim claimId sealedToken databaseNow with
    | none => some (s.moveTo claimId .releasing)
    | some written => some { s with row := written }
  | _ => none

/-- A step at the host fails. -/
def hostFails (s : LifecycleState) (claimId : Nat) (inFlight : Bool) : Option LifecycleState :=
  match s.calls claimId with
  | some (.start .claimed) => some (s.moveTo claimId (if inFlight then .ended else .releasing))
  | _ => none

/-- The unit is started. -/
def starts (s : LifecycleState) (claimId : Nat) : Option LifecycleState :=
  match s.calls claimId with
  | some (.start .claimed) => some (s.moveTo claimId .started)
  | _ => none

/-- `finalizeLifecycle`. -/
def finalizes (s : LifecycleState) (claimId : Nat) (storeAnswers : Bool) :
    Option LifecycleState :=
  match s.calls claimId with
  | some (.start .started) =>
    if !storeAnswers then some (s.moveTo claimId .releasing)
    else match s.row.finalizeConfigClaim claimId (some .running) (some none) with
      | none => some (s.moveTo claimId .releasing)
      | some finalized => some { s.moveTo claimId .ended with row := finalized }
  | _ => none

/-- `releasingClaim`. -/
def releases (s : LifecycleState) (claimId : Nat) (storeAnswers : Bool) :
    Option LifecycleState :=
  match s.calls claimId with
  | some (.start .releasing) =>
    if !storeAnswers then some (s.moveTo claimId .ended)
    else some { s.moveTo claimId .ended with
      row := s.row.orUnchanged fun row => row.releaseConfigClaim claimId }
  | _ => none

/-- A save takes the claim. -/
def saveClaims (s : LifecycleState) (claimId : Nat) (databaseNow : Int) :
    Option LifecycleState :=
  if (s.calls claimId).isSome then none
  else match s.row.claimForConfig claimId databaseNow with
    | none => some s
    | some claimed => some { s with
        row := claimed
        calls := Function.update s.calls claimId (some .save) }

/-- A save stores its version, or gives its claim back. -/
def saveEnds (s : LifecycleState) (claimId : Nat) : Option LifecycleState :=
  match s.calls claimId with
  | some .save => some { s with
      row := s.row.orUnchanged fun row => row.finalizeConfigClaim claimId none none }
  | _ => none

/-- `beginAuthentication` up to the device code. -/
def authBegins (s : LifecycleState) (attemptId : Nat) (managerNow databaseNow : Int) :
    Option LifecycleState :=
  if (s.signIns attemptId).isSome ∨ !needsInteractiveSignIn s.accountType then none
  else match s.row.claimForAuth attemptId managerNow databaseNow with
    | none => some s
    | some claimed => some { s.signInTo attemptId .polling with row := claimed }

/-- The device code is there, and the bot is recorded as having to sign in. -/
def authChallenges (s : LifecycleState) (attemptId : Nat) (storeAnswers : Bool) :
    Option LifecycleState :=
  match s.signIns attemptId with
  | some .polling =>
    if !storeAnswers then some (s.signInTo attemptId .releasing)
    else some { s.signInTo attemptId .ended with row := { s.row with status := .needsAuth } }
  | _ => none

/-- The sign-in fails at the host. -/
def authFails (s : LifecycleState) (attemptId : Nat) (inFlight : Bool) : Option LifecycleState :=
  match s.signIns attemptId with
  | some .polling => some (s.signInTo attemptId (if inFlight then .ended else .releasing))
  | _ => none

/-- A failed sign-in gives its claim back. -/
def authReleases (s : LifecycleState) (attemptId : Nat) : Option LifecycleState :=
  match s.signIns attemptId with
  | some .releasing => some { s.signInTo attemptId .ended with
      row := s.row.orUnchanged fun row => row.releaseAuthClaim attemptId }
  | _ => none

/-- `cancelAuthentication` reads the row. -/
def cancelReads (s : LifecycleState) (id : Nat) : Option LifecycleState :=
  if (s.signIns id).isSome ∨ !needsInteractiveSignIn s.accountType then none
  else some (s.signInTo id (.cancelling s.row.authClaimId))

/-- The session at the host is stopped, and the claim that was read is given back. -/
def cancelEnds (s : LifecycleState) (id : Nat) (hostAnswers : Bool) : Option LifecycleState :=
  match s.signIns id with
  | some (.cancelling authClaimId) =>
    if !hostAnswers then some (s.signInTo id .ended)
    else some { s.signInTo id .ended with row := releaseRead s.row authClaimId }
  | _ => none

/-- `completeAuthentication` reads the row. -/
def completeReads (s : LifecycleState) (id : Nat) : Option LifecycleState :=
  if (s.signIns id).isSome ∨ !needsInteractiveSignIn s.accountType then none
  else some (s.signInTo id (.completing s.row.status s.row.authClaimId))

/-- The probe of the session cache: only a bot that was read as having to sign in goes on. -/
def completeProbes (s : LifecycleState) (id : Nat) (authenticated : Option Bool) :
    Option LifecycleState :=
  match s.signIns id with
  | some (.completing status authClaimId) =>
    if authenticated = some true ∧ status = .needsAuth then
      some (s.signInTo id (.signedIn authClaimId))
    else some (s.signInTo id .ended)
  | _ => none

/-- The completed sign-in is recorded. -/
def completeWrites (s : LifecycleState) (id : Nat) (storeAnswers : Bool) :
    Option LifecycleState :=
  match s.signIns id with
  | some (.signedIn authClaimId) =>
    if !storeAnswers then some (s.signInTo id .ended)
    else some { s.signInTo id (.completed authClaimId) with
      row := { s.row with status := .stopped } }
  | _ => none

/-- The claim the completion read is given back. -/
def completeReleases (s : LifecycleState) (id : Nat) : Option LifecycleState :=
  match s.signIns id with
  | some (.completed authClaimId) => some { s.signInTo id .ended with
      row := releaseRead s.row authClaimId }
  | _ => none

end LifecycleState

/-- Any number of clients over one bot that nobody holds a claim on at first. -/
def instanceLifecycle : TransitionSystem LifecycleState LifecycleEvent where
  init s := s.row.configClaimId = none ∧ s.row.authClaimId = none ∧
    (∀ claimId, s.calls claimId = none) ∧ ∀ id, s.signIns id = none
  step s
    | .reads claimId => s.reads claimId
    | .claims claimId managerNow databaseNow usable =>
      s.claims claimId managerNow databaseNow usable
    | .writesToken claimId sealedToken databaseNow => s.writesToken claimId sealedToken databaseNow
    | .hostFails claimId inFlight => s.hostFails claimId inFlight
    | .starts claimId => s.starts claimId
    | .finalizes claimId storeAnswers => s.finalizes claimId storeAnswers
    | .releases claimId storeAnswers => s.releases claimId storeAnswers
    | .saveClaims claimId databaseNow => s.saveClaims claimId databaseNow
    | .saveEnds claimId => s.saveEnds claimId
    | .authBegins attemptId managerNow databaseNow => s.authBegins attemptId managerNow databaseNow
    | .authChallenges attemptId storeAnswers => s.authChallenges attemptId storeAnswers
    | .authFails attemptId inFlight => s.authFails attemptId inFlight
    | .authReleases attemptId => s.authReleases attemptId
    | .cancelReads id => s.cancelReads id
    | .cancelEnds id hostAnswers => s.cancelEnds id hostAnswers
    | .completeReads id => s.completeReads id
    | .completeProbes id authenticated => s.completeProbes id authenticated
    | .completeWrites id storeAnswers => s.completeWrites id storeAnswers
    | .completeReleases id => s.completeReleases id

/-- Whatever happens next, the bot leaves `needs_auth` only as a completed sign-in is recorded. -/
def LeavesOnlySignedIn (s : LifecycleState) : Prop :=
  ∀ e t, instanceLifecycle.step s e = some t → s.row.status = .needsAuth →
    t.row.status ≠ .needsAuth → ∃ id, e = .completeWrites id true

end OpenMcc

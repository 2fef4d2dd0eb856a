import OpenMcc.Construction.HostRepository
import OpenMcc.Framework.Transition

/-!
# The life of a host (`host.controller.ts`, `health-poller.ts`, `host-teardown.job.ts`)

A host is enrolled, provisioned by attempts that may go stale and be taken over, watched by health
checks, and removed: a removal request marks the host, queues a teardown and leaves the deletion
to the job.  Bots are created on it from one transaction of `create`.

The transactions over one host serialise on a lock of its own, so each is one step here; what an
operation reads before its transaction is a step by itself.  The system follows one host, whose id
is given out once.  Enrolment, provisioning attempts, bots and teardown jobs may be any number.
-/

namespace OpenMcc

/-- How far a call of `provision` has got.  The number of the call is the id of its attempt. -/
inductive ProvisionCall
  /-- It has read the host. -/
  | read (expectedStatus : HostStatus) (sshKeyId : Text)
  | claimed
  /-- It has failed and has recorded why. -/
  | failed
  | ended
  deriving DecidableEq, Repr

/-- `TeardownPayload`. -/
structure TeardownPayload where
  hostname : Text
  port : Nat
  username : Text
  sshKeyId : Text
  hostKeyFingerprint : Text
  deriving DecidableEq, Repr

/-- `teardownPayloadFor`: nothing, when nothing was installed. -/
def teardownPayloadFor (row : HostRow) : Option TeardownPayload :=
  match row.sshKeyId, row.hostKeyFingerprint with
  | some sshKeyId, some hostKeyFingerprint =>
    if row.osRelease.isSome then
      some ⟨row.hostname, row.port, row.username, sshKeyId, hostKeyFingerprint⟩
    else none
  | _, _ => none

/-- One host, the bots on it, the calls of `provision` and `create`, and the teardown jobs that
the queue holds. -/
structure HostState where
  enrolled : Bool
  host : Option HostRow
  bots : List Nat
  provisions : Nat → Option ProvisionCall
  creations : List Nat
  teardowns : List TeardownPayload

/-- What can happen next to one host. -/
inductive HostEvent
  | enrolls (row : HostRow)
  | provisionReads (attemptId : Nat) (now : Int)
  /-- The claim transaction; the ssh key may be gone. -/
  | provisionClaims (attemptId : Nat) (keyFound : Bool) (now : Int)
  | provisionProgresses (attemptId : Nat) (progress : ProvisionProgress)
  | provisionFails (attemptId : Nat) (reason : Text) (reached : Option ProvisionProgress)
  | provisionFinalizes (attemptId : Nat) (result : Option ProvisionResult)
  | sees (seenAt : Int) (observed : HostObservation)
  | retrusts (fingerprint algorithm : Text) (now : Int)
  | removes (now : Int) (queueAccepts : Bool)
  | teardownCleans (payload : TeardownPayload)
  /-- A teardown fails; the queue may run the job again. -/
  | teardownFails (payload : TeardownPayload) (reason : Text) (again : Bool)
  | createReads (bot : Nat)
  | createInserts (bot : Nat)
  | botRemoves (bot : Nat)
  deriving DecidableEq, Repr

namespace HostState

/-- The host in its first row. -/
def enrolls (s : HostState) (row : HostRow) : Option HostState :=
  if s.enrolled then none
  else some { s with enrolled := true, host := some { row with status := .pending } }

/-- `provision` up to its transaction. -/
def provisionReads (s : HostState) (attemptId : Nat) (now : Int) : Option HostState :=
  if (s.provisions attemptId).isSome then none
  else match s.host with
    | none => some s
    | some row =>
      if row.status = .provisioning ∧ !isProvisioningClaimStale row.provisioningClaimedAt now then
        some s
      else match row.sshKeyId, row.hostKeyFingerprint with
        | some sshKeyId, some _ => some { s with
            provisions :=
              Function.update s.provisions attemptId (some (.read row.status sshKeyId)) }
        | _, _ => some s

/-- The claim transaction of `provision`. -/
def provisionClaims (s : HostState) (attemptId : Nat) (keyFound : Bool) (now : Int) :
    Option HostState :=
  match s.provisions attemptId with
  | some (.read expectedStatus sshKeyId) =>
    let refused := { s with provisions := Function.update s.provisions attemptId (some .ended) }
    if !keyFound then some refused
    else match s.host with
      | none => some refused
      | some row =>
        if row.hostKeyFingerprint.isNone ∨ row.sshKeyId ≠ some sshKeyId then some refused
        else match row.claimForProvisioning expectedStatus attemptId now with
          | none => some refused
          | some claimed => some { s with
              host := some claimed
              provisions := Function.update s.provisions attemptId (some .claimed) }
  | _ => none

/-- A statement on the row of the host, if it is there. -/
def onHost (s : HostState) (statement : HostRow → HostRow) : HostState :=
  { s with host := s.host.map statement }

/-- A progress write is not waited for, and may come at any time after the claim. -/
def provisionProgresses (s : HostState) (attemptId : Nat) (progress : ProvisionProgress) :
    Option HostState :=
  match s.provisions attemptId with
  | none | some (.read _ _) => none
  | some _ => some (s.onHost fun row =>
      row.orUnchanged fun row => row.recordProvisioningProgress attemptId progress)

/-- The attempt fails, and its reason is recorded. -/
def provisionFails (s : HostState) (attemptId : Nat) (reason : Text)
    (reached : Option ProvisionProgress) : Option HostState :=
  match s.provisions attemptId with
  | some .claimed => some { s.onHost fun row =>
      row.orUnchanged fun row => row.recordProvisioningFailure attemptId reason reached with
        provisions := Function.update s.provisions attemptId (some .failed) }
  | _ => none

/-- The last transaction of an attempt: `ready` of one that did not fail, else `error`. -/
def provisionFinalizes (s : HostState) (attemptId : Nat) (result : Option ProvisionResult) :
    Option HostState :=
  match s.provisions attemptId, result with
  | some .claimed, some _ | some .failed, none =>
    let ended := { s with provisions := Function.update s.provisions attemptId (some .ended) }
    match s.host.bind fun row => row.finalizeProvisioning attemptId result with
    | none => some ended
    | some finalized => some { ended with host := some finalized }
  | _, _ => none

/-- `retrustHostKey`. -/
def retrusts (s : HostState) (fingerprint algorithm : Text) (now : Int) : Option HostState :=
  match s.host with
  | none => some s
  | some row =>
    if row.status = .provisioning ∧ !isProvisioningClaimStale row.provisioningClaimedAt now then
      some s
    else some { s with host := some (row.updateHostKeyTrust fingerprint algorithm) }

/-- The transaction of `remove`: rolled back if the queue does not take the job. -/
def removes (s : HostState) (now : Int) (queueAccepts : Bool) : Option HostState :=
  match s.host with
  | none => some s
  | some row =>
    if s.bots ≠ [] then some s
    else if row.status = .provisioning ∧
        !isProvisioningClaimStale row.provisioningClaimedAt now then some s
    else match teardownPayloadFor row with
      | none => some { s with host := none }
      | some payload =>
        if !queueAccepts then some s
        else some { s with
          host := some (row.beginTeardown now)
          teardowns := payload :: s.teardowns }

/-- A teardown has cleaned the host, and the row is deleted: unless it has left `removing`, or a
bot refers to it. -/
def teardownCleans (s : HostState) (payload : TeardownPayload) : Option HostState :=
  if payload ∉ s.teardowns then none
  else match s.host with
    | none => some { s with teardowns := s.teardowns.erase payload }
    | some row =>
      if row.status = .removing ∧ s.bots = [] then
        some { s with host := none, teardowns := s.teardowns.erase payload }
      else some { s with teardowns := s.teardowns.erase payload }

/-- A teardown has not cleaned the host. -/
def teardownFails (s : HostState) (payload : TeardownPayload) (reason : Text) (again : Bool) :
    Option HostState :=
  if payload ∉ s.teardowns then none
  else some { s.onHost fun row => row.recordTeardownFailure reason with
    teardowns := if again then s.teardowns else s.teardowns.erase payload }

/-- `create` up to its transaction. -/
def createReads (s : HostState) (bot : Nat) : Option HostState :=
  match s.host with
  | none => some s
  | some row =>
    if row.status = .ready ∧ row.runtimeReady then
      some { s with creations := bot :: s.creations }
    else some s

/-- The transaction of `create`. -/
def createInserts (s : HostState) (bot : Nat) : Option HostState :=
  if bot ∉ s.creations then none
  else
    let ended := { s with creations := s.creations.erase bot }
    match s.host with
    | none => some ended
    | some row =>
      if row.status = .ready ∧ row.runtimeReady then
        some { ended with bots := bot :: s.bots }
      else some ended

end HostState

/-- Any number of operations over one host, from before its enrolment on. -/
def hostLifecycle : TransitionSystem HostState HostEvent where
  init s := s.enrolled = false ∧ s.host = none ∧ s.bots = [] ∧
    (∀ attemptId, s.provisions attemptId = none) ∧ s.creations = [] ∧ s.teardowns = []
  step s
    | .enrolls row => s.enrolls row
    | .provisionReads attemptId now => s.provisionReads attemptId now
    | .provisionClaims attemptId keyFound now => s.provisionClaims attemptId keyFound now
    | .provisionProgresses attemptId progress => s.provisionProgresses attemptId progress
    | .provisionFails attemptId reason reached => s.provisionFails attemptId reason reached
    | .provisionFinalizes attemptId result => s.provisionFinalizes attemptId result
    | .sees seenAt observed => some (s.onHost fun row => row.recordSeen seenAt observed)
    | .retrusts fingerprint algorithm now => s.retrusts fingerprint algorithm now
    | .removes now queueAccepts => s.removes now queueAccepts
    | .teardownCleans payload => s.teardownCleans payload
    | .teardownFails payload reason again => s.teardownFails payload reason again
    | .createReads bot => s.createReads bot
    | .createInserts bot => s.createInserts bot
    | .botRemoves bot => some { s with bots := s.bots.erase bot }

/-- The host is being removed. -/
def HostState.Removing (s : HostState) : Prop := ∃ row, s.host = some row ∧ row.status = .removing

/-- **From here on the host is being removed or gone, and has no bot**, over every run that meets
the guard. -/
def StaysRemoving (G : HostState → HostEvent → Prop) (s : HostState) : Prop :=
  ∀ es t, hostLifecycle.Path G s es t → (t.host = none ∨ t.Removing) ∧ t.bots = []

/-! ## Claims on the host -/

namespace HostState

/-- The attempt that holds the host. -/
def claimant (s : HostState) : Option Nat := s.host.bind HostRow.provisioningAttemptId

/-- The attempt has made its claim, or was refused. -/
def Spent (s : HostState) (attemptId : Nat) : Prop :=
  ∃ call, s.provisions attemptId = some call ∧
    ∀ expectedStatus sshKeyId, call ≠ .read expectedStatus sshKeyId

/-- The claim that a step finalises, with the attempt that does. -/
def finalizes (s : HostState) : HostEvent → Option (Nat × Nat)
  | .provisionFinalizes attemptId result =>
    if (s.provisionFinalizes attemptId result).isSome then
      (s.host.bind fun row => row.finalizeProvisioning attemptId result).bind fun _ =>
        s.claimant.map fun claim => (claim, attemptId)
    else none
  | _ => none

/-- The claims that a run finalises, each with the attempt that does. -/
def finalizations : HostState → List HostEvent → List (Nat × Nat)
  | _, [] => []
  | s, e :: es =>
    (s.finalizes e).toList ++ ((hostLifecycle.step s e).map fun t => finalizations t es).getD []

end HostState

/-- The attempt that an event is a step of. -/
def HostEvent.attempt : HostEvent → Option Nat
  | .provisionReads attemptId _ => some attemptId
  | .provisionClaims attemptId _ _ => some attemptId
  | .provisionProgresses attemptId _ => some attemptId
  | .provisionFails attemptId _ _ => some attemptId
  | .provisionFinalizes attemptId _ => some attemptId
  | _ => none

end OpenMcc

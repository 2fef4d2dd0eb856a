import OpenMcc.Framework.Text
import Mathlib.Data.Int.Basic

/-!
# The row of a host (`host.repository.ts`)

Each function is one statement on the row of one host: the row after it, and `none` where its
`where` clause misses.  A statement without a condition on the row gives the row itself.
-/

namespace OpenMcc

/-- `HostStatus`. -/
inductive HostStatus
  | pending | provisioning | ready | error | removing
  deriving DecidableEq, Repr

/-- The columns of `host` that provisioning, health checks and removal read or write.  Attempt ids
are random and are numbered here. -/
structure HostRow where
  hostname : Text
  port : Nat
  username : Text
  sshKeyId : Option Text
  hostKeyFingerprint : Option Text
  hostKeyAlgorithm : Option Text
  status : HostStatus
  osRelease : Option Text
  osId : Option Text
  osName : Option Text
  networkStack : Option Text
  architecture : Option Text
  failedUnits : Option Nat
  lastSeenAt : Option Int
  provisioningAttemptId : Option Nat
  provisioningClaimedAt : Option Int
  provisioningError : Option Text
  provisioningStep : Option Text
  provisioningStepIndex : Option Nat
  provisioningStepTotal : Option Nat
  teardownRequestedAt : Option Int
  teardownError : Option Text
  deriving DecidableEq, Repr

/-- `PROVISIONING_LEASE_MS`. -/
def provisioningLeaseMs : Int := 20 * 60 * 1000

/-- `isProvisioningClaimStale`. -/
def isProvisioningClaimStale (claimedAt : Option Int) (now : Int) : Bool :=
  match claimedAt with
  | none => true
  | some claimed => provisioningLeaseMs < now - claimed

/-- How far a provisioning attempt has got. -/
structure ProvisionProgress where
  step : Text
  index : Nat
  total : Nat
  deriving DecidableEq, Repr

/-- `ProvisionResult`: what a finished attempt learnt of the host. -/
structure ProvisionResult where
  osRelease : Text
  osId : Option Text
  osName : Option Text
  networkStack : Text
  architecture : Text
  deriving DecidableEq, Repr

/-- What a health check saw. -/
structure HostObservation where
  failedUnits : Option Nat
  osId : Option Text
  osName : Option Text
  deriving DecidableEq, Repr

namespace HostRow

/-- `checkHostRuntime` finds nothing missing. -/
def runtimeReady (row : HostRow) : Bool := row.networkStack.isSome && row.architecture.isSome

/-- `beginTeardown`. -/
def beginTeardown (row : HostRow) (requestedAt : Int) : HostRow :=
  { row with
    status := .removing
    teardownRequestedAt := some requestedAt
    teardownError := none }

/-- `recordTeardownFailure`. -/
def recordTeardownFailure (row : HostRow) (reason : Text) : HostRow :=
  { row with teardownError := some (reason.take 2000) }

/-- `recordSeen`. -/
def recordSeen (row : HostRow) (seenAt : Int) (observed : HostObservation) : HostRow :=
  { row with
    lastSeenAt := some seenAt
    failedUnits := observed.failedUnits
    osId := observed.osId.or row.osId
    osName := observed.osName.or row.osName }

/-- `recordProvisioningProgress`. -/
def recordProvisioningProgress (row : HostRow) (attemptId : Nat) (progress : ProvisionProgress) :
    Option HostRow :=
  if row.provisioningAttemptId = some attemptId ∧ row.provisioningError = none then
    some { row with
      provisioningStep := some progress.step
      provisioningStepIndex := some progress.index
      provisioningStepTotal := some progress.total }
  else none

/-- `recordProvisioningFailure`. -/
def recordProvisioningFailure (row : HostRow) (attemptId : Nat) (reason : Text)
    (reached : Option ProvisionProgress) : Option HostRow :=
  if row.provisioningAttemptId = some attemptId then
    some { row with
      provisioningError := some reason
      provisioningStep := (reached.map ProvisionProgress.step).or row.provisioningStep
      provisioningStepIndex := (reached.map ProvisionProgress.index).or row.provisioningStepIndex
      provisioningStepTotal := (reached.map ProvisionProgress.total).or row.provisioningStepTotal }
  else none

/-- An attempt holds the host whose lease is over. -/
def staleClaim (row : HostRow) (now : Int) : Bool :=
  row.status == .provisioning &&
    (row.provisioningClaimedAt.isNone ||
      row.provisioningClaimedAt.any fun claimed => claimed < now - provisioningLeaseMs)

/-- `claimForProvisioning`. -/
def claimForProvisioning (row : HostRow) (expectedStatus : HostStatus) (attemptId : Nat)
    (now : Int) : Option HostRow :=
  if row.staleClaim now ∨ (expectedStatus ≠ .provisioning ∧ row.status = expectedStatus) then
    some { row with
      status := .provisioning
      provisioningAttemptId := some attemptId
      provisioningClaimedAt := some now
      provisioningError := none
      provisioningStep := none
      provisioningStepIndex := none
      provisioningStepTotal := none }
  else none

/-- `finalizeProvisioning`: `ready` with what the attempt learnt, or `error`. -/
def finalizeProvisioning (row : HostRow) (attemptId : Nat) (result : Option ProvisionResult) :
    Option HostRow :=
  if row.status = .provisioning ∧ row.provisioningAttemptId = some attemptId then
    match result with
    | none => some { row with
        status := .error
        provisioningAttemptId := none
        provisioningClaimedAt := none }
    | some found => some { row with
        status := .ready
        osRelease := some found.osRelease
        osId := found.osId
        osName := found.osName
        networkStack := some found.networkStack
        architecture := some found.architecture
        provisioningAttemptId := none
        provisioningClaimedAt := none }
  else none

/-- `updateHostKeyTrust`. -/
def updateHostKeyTrust (row : HostRow) (fingerprint algorithm : Text) : HostRow :=
  { row with hostKeyFingerprint := some fingerprint, hostKeyAlgorithm := some algorithm }

/-- The row after a statement, and the row as it was where the statement found none. -/
def orUnchanged (row : HostRow) (statement : HostRow → Option HostRow) : HostRow :=
  (statement row).getD row

/-! ## What the statements do to the status -/

variable {row row' : HostRow} {attemptId : Nat}

lemma recordProvisioningProgress_status {progress : ProvisionProgress}
    (h : row.recordProvisioningProgress attemptId progress = some row') :
    row'.status = row.status := by
  rw [recordProvisioningProgress, Option.ite_none_right_eq_some, Option.some.injEq] at h
  rw [← h.2]

lemma recordProvisioningFailure_status {reason : Text} {reached : Option ProvisionProgress}
    (h : row.recordProvisioningFailure attemptId reason reached = some row') :
    row'.status = row.status := by
  rw [recordProvisioningFailure, Option.ite_none_right_eq_some, Option.some.injEq] at h
  rw [← h.2]

/-- A host is claimed for provisioning from the status that was expected, or from an attempt whose
lease is over. -/
lemma claimForProvisioning_eq_some {expectedStatus : HostStatus} {now : Int}
    (h : row.claimForProvisioning expectedStatus attemptId now = some row') :
    (row.status = .provisioning ∨ row.status = expectedStatus) ∧
      row'.status = .provisioning := by
  rw [claimForProvisioning, Option.ite_none_right_eq_some, Option.some.injEq] at h
  obtain ⟨hfrom, rfl⟩ := h
  refine ⟨?_, rfl⟩
  rcases hfrom with hstale | ⟨-, hexpected⟩
  · rw [staleClaim, Bool.and_eq_true, beq_iff_eq] at hstale
    exact Or.inl hstale.1
  · exact Or.inr hexpected

lemma finalizeProvisioning_eq_some {result : Option ProvisionResult}
    (h : row.finalizeProvisioning attemptId result = some row') :
    row.status = .provisioning ∧ row'.status ≠ .removing := by
  unfold finalizeProvisioning at h
  rw [Option.ite_none_right_eq_some] at h
  obtain ⟨⟨hstatus, -⟩, h⟩ := h
  refine ⟨hstatus, ?_⟩
  cases result with
  | none =>
      cases h
      exact nofun
  | some found =>
      cases h
      exact nofun

lemma orUnchanged_status {statement : HostRow → Option HostRow}
    (h : ∀ row', statement row = some row' → row'.status = row.status) :
    (row.orUnchanged statement).status = row.status := by
  unfold orUnchanged
  cases hresult : statement row with
  | none => rfl
  | some row' => exact h row' hresult

end HostRow

end OpenMcc

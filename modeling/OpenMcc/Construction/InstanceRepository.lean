import OpenMcc.Framework.Text

/-!
# The row of a bot and the claims on it (`instance.repository.ts`)

Every operation that changes a bot first writes its claim into the bot's row, by one conditional
update, and ends with another update that asks for that same claim.  A configuration claim is
taken by a save, a start, a restart, a stop and a removal, a sign-in claim by a sign-in; both can
be taken over once their lease is over.

Each function here is one statement on one row: the row after it, and `none` where its `where`
clause misses.  The configuration lease is timed by the database's clock and the sign-in lease by
the manager's, so the two instants are separate arguments.
-/

namespace OpenMcc

/-- `InstanceStatus`. -/
inductive InstanceStatus
  | created | needsAuth | stopped | running | error
  deriving DecidableEq, Repr

/-- The columns of `instance` that a claimed operation reads or writes.  Claim ids are random and
are numbered here. -/
structure InstanceRow where
  status : InstanceStatus
  lastExitCode : Option Int
  liveControlPort : Int
  liveControlToken : Option Text
  authClaimId : Option Nat
  authClaimedAt : Option Int
  configClaimId : Option Nat
  configClaimedAt : Option Int
  deriving DecidableEq, Repr

/-- `AUTH_LEASE_MS`. -/
def authLeaseMs : Int := 15 * 60 * 1000

/-- `CONFIG_CLAIM_LEASE_MS`. -/
def configClaimLeaseMs : Int := 180000

/-- A claim that nobody holds, or that was taken before the instant. -/
def claimFree (claimId : Option Nat) (claimedAt : Option Int) (before : Int) : Bool :=
  claimId.isNone || claimedAt.any fun at' => at' < before

namespace InstanceRow

/-- Nobody holds the configuration claim, by the database's clock. -/
def configFree (row : InstanceRow) (databaseNow : Int) : Bool :=
  claimFree row.configClaimId row.configClaimedAt (databaseNow - configClaimLeaseMs)

/-- Nobody holds the sign-in claim, by the manager's clock. -/
def authFree (row : InstanceRow) (managerNow : Int) : Bool :=
  claimFree row.authClaimId row.authClaimedAt (managerNow - authLeaseMs)

/-- `claimForAuth`, which also clears a configuration claim whose lease is over. -/
def claimForAuth (row : InstanceRow) (attemptId : Nat) (managerNow databaseNow : Int) :
    Option InstanceRow :=
  if row.authFree managerNow && row.configFree databaseNow then
    some { row with
      authClaimId := some attemptId
      authClaimedAt := some managerNow
      configClaimId := none
      configClaimedAt := none }
  else none

/-- `releaseAuthClaim`. -/
def releaseAuthClaim (row : InstanceRow) (attemptId : Nat) : Option InstanceRow :=
  if row.authClaimId = some attemptId then
    some { row with authClaimId := none, authClaimedAt := none }
  else none

/-- `claimForConfig`. -/
def claimForConfig (row : InstanceRow) (claimId : Nat) (databaseNow : Int) :
    Option InstanceRow :=
  if row.configFree databaseNow then
    some { row with configClaimId := some claimId, configClaimedAt := some databaseNow }
  else none

/-- `claimForLifecycle`. -/
def claimForLifecycle (row : InstanceRow) (claimId : Nat) (managerNow databaseNow : Int) :
    Option InstanceRow :=
  if row.configFree databaseNow && row.authFree managerNow then
    some { row with configClaimId := some claimId, configClaimedAt := some databaseNow }
  else none

/-- `finalizeConfigClaim`, with the patch of the columns it may write. -/
def finalizeConfigClaim (row : InstanceRow) (claimId : Nat) (status : Option InstanceStatus)
    (lastExitCode : Option (Option Int)) : Option InstanceRow :=
  if row.configClaimId = some claimId then
    some { row with
      status := status.getD row.status
      lastExitCode := lastExitCode.getD row.lastExitCode
      configClaimId := none
      configClaimedAt := none }
  else none

/-- `releaseConfigClaim`. -/
def releaseConfigClaim (row : InstanceRow) (claimId : Nat) : Option InstanceRow :=
  if row.configClaimId = some claimId then
    some { row with configClaimId := none, configClaimedAt := none }
  else none

/-- `writeTokenUnderClaim`, which starts the lease over. -/
def writeTokenUnderClaim (row : InstanceRow) (claimId : Nat) (sealedToken : Text)
    (databaseNow : Int) : Option InstanceRow :=
  if row.configClaimId = some claimId then
    some { row with liveControlToken := some sealedToken, configClaimedAt := some databaseNow }
  else none

/-- The row after a statement, and the row as it was where the statement found none. -/
def orUnchanged (row : InstanceRow) (statement : InstanceRow → Option InstanceRow) :
    InstanceRow :=
  (statement row).getD row

/-! ## What the statements do to the claims -/

variable {row row' : InstanceRow} {claimId : Nat}

lemma orUnchanged_cases (row : InstanceRow) (statement : InstanceRow → Option InstanceRow) :
    row.orUnchanged statement = row ∨
      ∃ row', statement row = some row' ∧ row.orUnchanged statement = row' := by
  unfold orUnchanged
  cases statement row with
  | none => exact Or.inl rfl
  | some row' => exact Or.inr ⟨row', rfl, rfl⟩

lemma claimForAuth_eq_some {attemptId : Nat} {managerNow databaseNow : Int}
    (h : row.claimForAuth attemptId managerNow databaseNow = some row') :
    row'.configClaimId = none ∧ row'.authClaimId = some attemptId ∧ row'.status = row.status ∧
      row'.liveControlPort = row.liveControlPort := by
  rw [claimForAuth, Option.ite_none_right_eq_some, Option.some.injEq] at h
  rw [← h.2]
  exact ⟨rfl, rfl, rfl, rfl⟩

lemma releaseAuthClaim_eq_some {attemptId : Nat}
    (h : row.releaseAuthClaim attemptId = some row') :
    row'.configClaimId = row.configClaimId ∧ row'.status = row.status ∧
      row'.liveControlPort = row.liveControlPort := by
  rw [releaseAuthClaim, Option.ite_none_right_eq_some, Option.some.injEq] at h
  rw [← h.2]
  exact ⟨rfl, rfl, rfl⟩

lemma claimForConfig_eq_some {databaseNow : Int}
    (h : row.claimForConfig claimId databaseNow = some row') :
    row'.configClaimId = some claimId ∧ row'.status = row.status ∧
      row'.liveControlPort = row.liveControlPort := by
  rw [claimForConfig, Option.ite_none_right_eq_some, Option.some.injEq] at h
  rw [← h.2]
  exact ⟨rfl, rfl, rfl⟩

lemma claimForLifecycle_eq_some {managerNow databaseNow : Int}
    (h : row.claimForLifecycle claimId managerNow databaseNow = some row') :
    row'.configClaimId = some claimId ∧ row'.status = row.status ∧
      row'.liveControlPort = row.liveControlPort := by
  rw [claimForLifecycle, Option.ite_none_right_eq_some, Option.some.injEq] at h
  rw [← h.2]
  exact ⟨rfl, rfl, rfl⟩

lemma finalizeConfigClaim_eq_some {status : Option InstanceStatus}
    {lastExitCode : Option (Option Int)}
    (h : row.finalizeConfigClaim claimId status lastExitCode = some row') :
    row.configClaimId = some claimId ∧ row'.configClaimId = none ∧
      row'.status = status.getD row.status ∧ row'.liveControlPort = row.liveControlPort := by
  rw [finalizeConfigClaim, Option.ite_none_right_eq_some, Option.some.injEq] at h
  rw [← h.2]
  exact ⟨h.1, rfl, rfl, rfl⟩

lemma releaseConfigClaim_eq_some (h : row.releaseConfigClaim claimId = some row') :
    row.configClaimId = some claimId ∧ row'.configClaimId = none ∧ row'.status = row.status ∧
      row'.liveControlPort = row.liveControlPort := by
  rw [releaseConfigClaim, Option.ite_none_right_eq_some, Option.some.injEq] at h
  rw [← h.2]
  exact ⟨h.1, rfl, rfl, rfl⟩

lemma writeTokenUnderClaim_eq_some {sealedToken : Text} {databaseNow : Int}
    (h : row.writeTokenUnderClaim claimId sealedToken databaseNow = some row') :
    row'.configClaimId = row.configClaimId ∧ row'.status = row.status ∧
      row'.liveControlPort = row.liveControlPort := by
  rw [writeTokenUnderClaim, Option.ite_none_right_eq_some, Option.some.injEq] at h
  rw [← h.2]
  exact ⟨rfl, rfl, rfl⟩

end InstanceRow

end OpenMcc

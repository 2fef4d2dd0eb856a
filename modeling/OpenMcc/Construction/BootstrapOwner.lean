import Mathlib.Logic.Function.Basic
import OpenMcc.Framework.Transition

/-!
# The first owner of a deployment (`bootstrap-owner.ts`)

Calls of `bootstrapOwner` are serialised by an advisory lock of a session of its own, which the
server of the database gives back when that session ends.  The account and the organization are
created by the auth library, each wholly or not at all; a call whose answer is lost has failed
although it took effect.

An account, and the organization with this account as its owner, are named by the call that
creates them.
-/

namespace OpenMcc

/-- How a call of `bootstrapOwner` ends. -/
inductive BootstrapOutcome
  | created
  /-- `UsersAlreadyExistError`. -/
  | usersAlreadyExist
  /-- Another error. -/
  | failed
  /-- Its process stopped. -/
  | stopped
  deriving DecidableEq, Repr

/-- The last step a call has taken. -/
inductive BootstrapStage
  /-- No user existed before the lock was asked for. -/
  | admitted
  | locked
  /-- No user existed under the lock. -/
  | checked
  | signedUp
  /-- The organization could not be created, and the account is to be removed. -/
  | removing
  /-- The `finally` block. -/
  | releasing (outcome : BootstrapOutcome)
  | ended (outcome : BootstrapOutcome)
  deriving DecidableEq, Repr

/-- The accounts, the organizations with their owners, the lock and the calls. -/
structure BootstrapState where
  users : List Nat
  organizations : List Nat
  lock : Option Nat
  calls : Nat → Option BootstrapStage

/-- What can happen next; `took` tells whether a step whose answer is an error took effect. -/
inductive BootstrapEvent
  | asks (call : Nat)
  | locks (call : Nat)
  | cannotLock (call : Nat)
  | checks (call : Nat)
  | signsUp (call : Nat)
  | signUpFails (call : Nat) (took : Bool)
  | createsOrganization (call : Nat)
  | organizationFails (call : Nat) (took : Bool)
  | removesUser (call : Nat)
  | removalFails (call : Nat) (took : Bool)
  | releases (call : Nat)
  | losesLock (call : Nat)
  | stops (call : Nat)
  deriving DecidableEq, Repr

namespace BootstrapState

variable (s : BootstrapState)

/-- `anyUserExists`. -/
def anyUserExists : Bool := !s.users.isEmpty

def setCall (call : Nat) (stage : BootstrapStage) : BootstrapState :=
  { s with calls := Function.update s.calls call (some stage) }

/-- The lock, once a session is over. -/
def unlocked (call : Nat) : Option Nat := if s.lock = some call then none else s.lock

/-- The first `refuseIfAnyUserExists`. -/
def asks (call : Nat) : Option BootstrapState :=
  if (s.calls call).isSome then none
  else if s.anyUserExists then some (s.setCall call (.ended .usersAlreadyExist))
  else some (s.setCall call .admitted)

/-- `pg_advisory_lock`. -/
def locks (call : Nat) : Option BootstrapState :=
  if s.calls call = some .admitted ∧ s.lock = none then
    some { s.setCall call .locked with lock := some call }
  else none

/-- The session of the lock cannot be opened, or ends while it waits. -/
def cannotLock (call : Nat) : Option BootstrapState :=
  if s.calls call = some .admitted then some (s.setCall call (.ended .failed)) else none

/-- The second `refuseIfAnyUserExists`. -/
def checks (call : Nat) : Option BootstrapState :=
  if s.calls call = some .locked then
    if s.anyUserExists then some (s.setCall call (.releasing .usersAlreadyExist))
    else some (s.setCall call .checked)
  else none

/-- `signUpEmail`. -/
def signsUp (call : Nat) : Option BootstrapState :=
  if s.calls call = some .checked then
    some { s.setCall call .signedUp with users := s.users ++ [call] }
  else none

def signUpFails (call : Nat) (took : Bool) : Option BootstrapState :=
  if s.calls call = some .checked then
    some { s.setCall call (.releasing .failed) with
      users := if took then s.users ++ [call] else s.users }
  else none

/-- `createOrganization`. -/
def createsOrganization (call : Nat) : Option BootstrapState :=
  if s.calls call = some .signedUp then
    some { s.setCall call (.releasing .created) with organizations := s.organizations ++ [call] }
  else none

def organizationFails (call : Nat) (took : Bool) : Option BootstrapState :=
  if s.calls call = some .signedUp then
    some { s.setCall call .removing with
      organizations := if took then s.organizations ++ [call] else s.organizations }
  else none

/-- `removeUser`. -/
def removesUser (call : Nat) : Option BootstrapState :=
  if s.calls call = some .removing then
    some { s.setCall call (.releasing .failed) with users := s.users.filter (· != call) }
  else none

def removalFails (call : Nat) (took : Bool) : Option BootstrapState :=
  if s.calls call = some .removing then
    some { s.setCall call (.releasing .failed) with
      users := if took then s.users.filter (· != call) else s.users }
  else none

/-- The lock is given back by `pg_advisory_unlock`, or with its session. -/
def releases (call : Nat) : Option BootstrapState :=
  match s.calls call with
  | some (.releasing outcome) =>
    some { s.setCall call (.ended outcome) with lock := s.unlocked call }
  | _ => none

/-- The session of the lock ends, and the call goes on. -/
def losesLock (call : Nat) : Option BootstrapState :=
  if s.lock = some call then some { s with lock := none } else none

/-- The process of the call stops, and with it the session of the lock. -/
def stops (call : Nat) : Option BootstrapState :=
  match s.calls call with
  | none => none
  | some (.ended _) => none
  | some _ => some { s.setCall call (.ended .stopped) with lock := s.unlocked call }

end BootstrapState

/-- Any number of calls on an empty deployment. -/
def bootstrapOwner : TransitionSystem BootstrapState BootstrapEvent where
  init s := s.users = [] ∧ s.organizations = [] ∧ s.lock = none ∧ ∀ call, s.calls call = none
  step s
    | .asks call => s.asks call
    | .locks call => s.locks call
    | .cannotLock call => s.cannotLock call
    | .checks call => s.checks call
    | .signsUp call => s.signsUp call
    | .signUpFails call took => s.signUpFails call took
    | .createsOrganization call => s.createsOrganization call
    | .organizationFails call took => s.organizationFails call took
    | .removesUser call => s.removesUser call
    | .removalFails call took => s.removalFails call took
    | .releases call => s.releases call
    | .losesLock call => s.losesLock call
    | .stops call => s.stops call

namespace BootstrapState

variable (s : BootstrapState)

/-- The call has returned what it created. -/
def Succeeded (call : Nat) : Prop := s.calls call = some (.ended .created)

/-- The call has not ended. -/
def Running (call : Nat) : Prop :=
  ∃ stage, s.calls call = some stage ∧ ∀ outcome, stage ≠ .ended outcome

/-- Some organization has an owner: its account is there. -/
def HasOwner : Prop := ∃ call ∈ s.organizations, call ∈ s.users

/-- The call is refused with `UsersAlreadyExistError`. -/
def Refuses (call : Nat) : Prop :=
  s.calls call = some (.releasing .usersAlreadyExist) ∨
    s.calls call = some (.ended .usersAlreadyExist)

/-- One call succeeds, and a call is refused only where another one is running or some organization
has an owner. -/
structure BootstrapsOnce : Prop where
  once : ∀ call other, s.Succeeded call → s.Succeeded other → call = other
  recoverable : ∀ call e t, e = .asks call ∨ e = .checks call → bootstrapOwner.step s e = some t →
    t.Refuses call → s.HasOwner ∨ ∃ other, other ≠ call ∧ s.Running other

/-- The account of a call, if there is one, owns an organization. -/
def accountOwns (call : Nat) : Bool := !s.users.contains call || s.organizations.contains call

/-- No call ends with an account that owns nothing, and the lock is not lost before the account is
there. -/
def leavesNoAccount : BootstrapEvent → Bool
  | .stops call => s.accountOwns call
  | .removalFails call took => took || s.accountOwns call
  | .signUpFails _ took => !took
  | .losesLock call =>
    !(s.calls call == some .locked || s.calls call == some .checked)
  | _ => true

end BootstrapState

end OpenMcc

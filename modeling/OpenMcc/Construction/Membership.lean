import Mathlib.Logic.Function.Basic
import OpenMcc.Construction.Authz
import OpenMcc.Framework.Transition

/-!
# Members and invitations (`member.controller.ts`, `member.repository.ts`, `member.router.ts`)

A removal is one transaction under the lock of its organization.  An invitation is read and its
account is signed up before the transaction that adds the member and consumes it.  Invitations are
sent by the auth library, which checks the sender before it adds the row.

The transactions are read committed, and each of their statements is a step here.  A transaction's
own changes are kept with its call until it commits: others read the rows as they were committed,
and a row of `invitation` that a transaction has updated is held until it ends, so that other
updates of it wait.
-/

namespace OpenMcc

/-- The id of an account: of one that was there, or of the one that a call of `acceptInvitation`
signs up. -/
inductive UserId
  | known (number : Nat)
  | signedUp (call : Nat)
  deriving DecidableEq, Repr

/-- A row of `user`. -/
structure UserRow where
  id : UserId
  email : Text
  deriving DecidableEq, Repr

/-- A row of `member`. -/
structure MemberRow where
  id : Nat
  organizationId : Nat
  userId : UserId
  role : Text
  deriving DecidableEq, Repr

/-- The column `status` of `invitation`. -/
inductive InvitationStatus
  | pending | accepted | canceled | rejected
  deriving DecidableEq, Repr

/-- A row of `invitation`. -/
structure InvitationRow where
  id : Nat
  organizationId : Nat
  email : Text
  role : Option Text
  status : InvitationStatus
  inviterId : UserId
  expiresAt : Int
  deriving DecidableEq, Repr

/-- The transaction that has updated an invitation. -/
inductive InvitationHolder
  | removal (call : Nat)
  | acceptance (call : Nat)
  | cancellation (call : Nat)
  deriving DecidableEq, Repr

/-- `ActorContext`. -/
structure MemberActor where
  organizationId : Nat
  memberId : Nat
  role : Role
  deriving DecidableEq, Repr

/-- How a removal ends. -/
inductive RemovalOutcome
  | removed
  /-- There is no such member. -/
  | nothing
  | forbidden
  | lastOwner
  /-- A statement failed, or the process stopped. -/
  | failed
  deriving DecidableEq, Repr

/-- The last statement a removal has executed. -/
inductive RemovalStage
  | waits
  | locked
  | callerFound
  | targetFound (target : MemberRow)
  | counted (target : MemberRow)
  | deleted (target : MemberRow)
  /-- The update of the target's invitations: those it has found that are left, and those it has
  cancelled. -/
  | cancelling (target : MemberRow) (left cancelled : List Nat)
  | ended (outcome : RemovalOutcome)
  deriving DecidableEq, Repr

/-- A call of `remove` that has passed its first checks. -/
structure RemovalCall where
  caller : MemberActor
  memberId : Nat
  stage : RemovalStage
  deriving DecidableEq, Repr

/-- How a call of `acceptInvitation` ends. -/
inductive AcceptanceOutcome
  | accepted
  /-- `InvitationNotFoundError`. -/
  | notFound
  /-- Another error, or the process stopped. -/
  | failed
  deriving DecidableEq, Repr

/-- The last statement a call of `acceptInvitation` has executed, with the invitation it has
read. -/
inductive AcceptanceStage
  | found (invitation : InvitationRow)
  | signedUp (invitation : InvitationRow)
  | senderFound (invitation : InvitationRow)
  | inserted (invitation : InvitationRow) (memberId : Nat)
  | consumed (invitation : InvitationRow) (memberId : Nat)
  /-- The transaction is rolled back, and the account is to be deleted. -/
  | rejecting
  | ended (outcome : AcceptanceOutcome)
  deriving DecidableEq, Repr

/-- What a transaction has committed. -/
inductive MembershipCommit
  | accepted (invitation : InvitationRow) (member : MemberRow)
  | cancelled (invitationId : Nat)
  | removed (target : MemberRow)
  deriving DecidableEq, Repr

/-- The rows as they are committed, the locks, the calls under way and the commits so far. -/
structure MembershipState where
  users : List UserRow
  members : List MemberRow
  invitations : Nat → Option InvitationRow
  nextInvitation : Nat
  /-- The removal that holds the lock of an organization. -/
  lock : Nat → Option Nat
  held : Nat → Option InvitationHolder
  removals : Nat → Option RemovalCall
  acceptances : Nat → Option AcceptanceStage
  /-- The organization and the sender of an invitation that has been checked. -/
  inviting : Nat → Option (Nat × UserId)
  /-- The invitation that a transaction of `cancelInvitation` has updated. -/
  cancellations : Nat → Option Nat
  history : List MembershipCommit

/-- What can happen next. -/
inductive MembershipEvent
  | removalAsks (call : Nat) (caller : MemberActor) (memberId : Nat)
  | removalLocks (call : Nat)
  | removalReadsCaller (call : Nat)
  | removalReadsTarget (call : Nat)
  | removalCounts (call : Nat)
  | removalDeletes (call : Nat)
  | removalCancels (call : Nat)
  | removalCancelsNext (call : Nat)
  | removalCommits (call : Nat)
  | removalStops (call : Nat)
  | inviteChecks (call : Nat) (organizationId : Nat) (senderId : UserId)
  | inviteInserts (call : Nat) (email : Text) (role : Role) (expiresAt : Int)
  | cancelUpdates (call : Nat) (caller : MemberActor) (invitationId : Nat)
  | cancelCommits (call : Nat)
  | cancelStops (call : Nat)
  | acceptReads (call : Nat) (invitationId : Nat) (now : Int)
  | acceptSignsUp (call : Nat)
  | acceptReadsSender (call : Nat)
  | acceptInserts (call : Nat) (memberId : Nat)
  | acceptConsumes (call : Nat)
  | acceptCommits (call : Nat)
  | acceptDeletesUser (call : Nat)
  | acceptStops (call : Nat)
  deriving DecidableEq, Repr

namespace MembershipState

variable (s : MembershipState)

/-! ## Statements -/

/-- `findById`, which joins the account of the member. -/
def findMember (organizationId memberId : Nat) : Option MemberRow :=
  s.members.find? fun row =>
    row.organizationId == organizationId && row.id == memberId &&
      s.users.any fun user => user.id == row.userId

/-- `countOwners`. -/
def countOwners (organizationId : Nat) : Nat :=
  s.members.countP fun row =>
    row.organizationId == organizationId && row.role == Role.owner.text

/-- An account is a member of an organization. -/
def isMember (organizationId : Nat) (userId : UserId) : Bool :=
  s.members.any fun row => row.organizationId == organizationId && row.userId == userId

/-- The pending invitations that an account has sent. -/
def pendingSentBy (organizationId : Nat) (userId : UserId) : List Nat :=
  (List.range s.nextInvitation).filter fun invitationId =>
    (s.invitations invitationId).any fun row =>
      row.organizationId == organizationId && row.inviterId == userId && row.status == .pending

/-- The invitation is pending, as it is committed. -/
def isPending (invitationId : Nat) : Bool :=
  (s.invitations invitationId).any fun row => row.status == .pending

/-- The rows that a transaction gives back when it ends. -/
def released (holder : InvitationHolder) : Nat → Option InvitationHolder := fun invitationId =>
  if s.held invitationId = some holder then none else s.held invitationId

/-- The invitations, of which some have a new status. -/
def withStatus (invitationIds : List Nat) (status : InvitationStatus) :
    Nat → Option InvitationRow := fun invitationId =>
  if invitationIds.contains invitationId then
    (s.invitations invitationId).map fun row => { row with status := status }
  else s.invitations invitationId

/-- A role that manages members. -/
def managesMembers (role : Text) : Bool := (Role.ofText role).any fun role => can role .memberManage

/-! ## `remove` -/

def setRemoval (call : Nat) (removal : RemovalCall) (stage : RemovalStage) : MembershipState :=
  { s with removals := Function.update s.removals call (some { removal with stage := stage }) }

/-- The transaction of a removal ends. -/
def endRemoval (call : Nat) (removal : RemovalCall) (outcome : RemovalOutcome) : MembershipState :=
  { s.setRemoval call removal (.ended outcome) with
    held := s.released (.removal call)
    lock := Function.update s.lock removal.caller.organizationId none }

def removalAsks (call : Nat) (caller : MemberActor) (memberId : Nat) : Option MembershipState :=
  if (s.removals call).isSome then none
  else if !can caller.role .memberManage || memberId == caller.memberId then
    some (s.setRemoval call ⟨caller, memberId, .waits⟩ (.ended .forbidden))
  else some (s.setRemoval call ⟨caller, memberId, .waits⟩ .waits)

def removalLocks (call : Nat) : Option MembershipState :=
  match s.removals call with
  | some ⟨caller, memberId, .waits⟩ =>
    if (s.lock caller.organizationId).isSome then none
    else some { s.setRemoval call ⟨caller, memberId, .waits⟩ .locked with
      lock := Function.update s.lock caller.organizationId (some call) }
  | _ => none

def removalReadsCaller (call : Nat) : Option MembershipState :=
  match s.removals call with
  | some ⟨caller, memberId, .locked⟩ =>
    if (s.findMember caller.organizationId caller.memberId).any fun row =>
        managesMembers row.role then
      some (s.setRemoval call ⟨caller, memberId, .locked⟩ .callerFound)
    else some (s.endRemoval call ⟨caller, memberId, .locked⟩ .forbidden)
  | _ => none

def removalReadsTarget (call : Nat) : Option MembershipState :=
  match s.removals call with
  | some ⟨caller, memberId, .callerFound⟩ =>
    match s.findMember caller.organizationId memberId with
    | none => some (s.endRemoval call ⟨caller, memberId, .callerFound⟩ .nothing)
    | some target => some (s.setRemoval call ⟨caller, memberId, .callerFound⟩ (.targetFound target))
  | _ => none

def removalCounts (call : Nat) : Option MembershipState :=
  match s.removals call with
  | some ⟨caller, memberId, .targetFound target⟩ =>
    if target.role = Role.owner.text ∧ s.countOwners caller.organizationId ≤ 1 then
      some (s.endRemoval call ⟨caller, memberId, .targetFound target⟩ .lastOwner)
    else some (s.setRemoval call ⟨caller, memberId, .targetFound target⟩ (.counted target))
  | _ => none

def removalDeletes (call : Nat) : Option MembershipState :=
  match s.removals call with
  | some ⟨caller, memberId, .counted target⟩ =>
    some (s.setRemoval call ⟨caller, memberId, .counted target⟩ (.deleted target))
  | _ => none

/-- `cancelInvitationsSentBy` finds its rows. -/
def removalCancels (call : Nat) : Option MembershipState :=
  match s.removals call with
  | some ⟨caller, memberId, .deleted target⟩ =>
    some (s.setRemoval call ⟨caller, memberId, .deleted target⟩
      (.cancelling target (s.pendingSentBy caller.organizationId target.userId) []))
  | _ => none

/-- `cancelInvitationsSentBy` updates its next row, and waits for another transaction that has. -/
def removalCancelsNext (call : Nat) : Option MembershipState :=
  match s.removals call with
  | some ⟨caller, memberId, .cancelling target (invitationId :: left) cancelled⟩ =>
    let removal : RemovalCall :=
      ⟨caller, memberId, .cancelling target (invitationId :: left) cancelled⟩
    if (s.held invitationId).isSome then none
    else if s.isPending invitationId then
      some { s.setRemoval call removal
          (.cancelling target left (cancelled ++ [invitationId])) with
        held := Function.update s.held invitationId (some (.removal call)) }
    else some (s.setRemoval call removal (.cancelling target left cancelled))
  | _ => none

def removalCommits (call : Nat) : Option MembershipState :=
  match s.removals call with
  | some ⟨caller, memberId, .cancelling target [] cancelled⟩ =>
    some { s.endRemoval call ⟨caller, memberId, .cancelling target [] cancelled⟩ .removed with
      members := s.members.filter fun row =>
        !(row.organizationId == caller.organizationId && row.id == memberId)
      invitations := s.withStatus cancelled .canceled
      history := s.history ++ cancelled.map .cancelled ++ [.removed target] }
  | _ => none

def removalStops (call : Nat) : Option MembershipState :=
  match s.removals call with
  | none => none
  | some removal =>
    match removal.stage with
    | .ended _ => none
    | .waits => some (s.setRemoval call removal (.ended .failed))
    | _ => some (s.endRemoval call removal .failed)

/-! ## `invite` and `cancelInvitation` -/

def inviteChecks (call organizationId : Nat) (senderId : UserId) : Option MembershipState :=
  if (s.inviting call).isNone ∧ s.isMember organizationId senderId then
    some { s with inviting := Function.update s.inviting call (some (organizationId, senderId)) }
  else none

def inviteInserts (call : Nat) (email : Text) (role : Role) (expiresAt : Int) :
    Option MembershipState :=
  match s.inviting call with
  | none => none
  | some (organizationId, senderId) => some { s with
      inviting := Function.update s.inviting call none
      nextInvitation := s.nextInvitation + 1
      invitations := Function.update s.invitations s.nextInvitation (some {
        id := s.nextInvitation
        organizationId := organizationId
        email := email
        role := some role.text
        status := .pending
        inviterId := senderId
        expiresAt := expiresAt }) }

def cancelUpdates (call : Nat) (caller : MemberActor) (invitationId : Nat) :
    Option MembershipState :=
  if (s.cancellations call).isSome ∨ (s.held invitationId).isSome then none
  else if can caller.role .memberManage ∧
      ((s.invitations invitationId).any fun row =>
        row.organizationId == caller.organizationId && row.status == .pending) = true then
    some { s with
      cancellations := Function.update s.cancellations call (some invitationId)
      held := Function.update s.held invitationId (some (.cancellation call)) }
  else some s

def cancelCommits (call : Nat) : Option MembershipState :=
  match s.cancellations call with
  | none => none
  | some invitationId => some { s with
      cancellations := Function.update s.cancellations call none
      held := s.released (.cancellation call)
      invitations := s.withStatus [invitationId] .canceled
      history := s.history ++ [.cancelled invitationId] }

def cancelStops (call : Nat) : Option MembershipState :=
  if (s.cancellations call).isNone then none
  else some { s with
    cancellations := Function.update s.cancellations call none
    held := s.released (.cancellation call) }

/-! ## `acceptInvitation` -/

def setAcceptance (call : Nat) (stage : AcceptanceStage) : MembershipState :=
  { s with acceptances := Function.update s.acceptances call (some stage) }

/-- An invitation that may be accepted. -/
def acceptable (row : InvitationRow) (now : Int) : Bool :=
  row.status == .pending && !(row.expiresAt < now) &&
    row.role.any fun role => (Role.ofText role).isSome

def acceptReads (call invitationId : Nat) (now : Int) : Option MembershipState :=
  if (s.acceptances call).isSome then none
  else match s.invitations invitationId with
    | none => some (s.setAcceptance call (.ended .notFound))
    | some row =>
      if acceptable row now then some (s.setAcceptance call (.found row))
      else some (s.setAcceptance call (.ended .notFound))

/-- `signUpEmail`, which fails for an e-mail that has an account. -/
def acceptSignsUp (call : Nat) : Option MembershipState :=
  match s.acceptances call with
  | some (.found invitation) =>
    if s.users.any fun user => user.email == invitation.email then none
    else some { s.setAcceptance call (.signedUp invitation) with
      users := s.users ++ [⟨.signedUp call, invitation.email⟩] }
  | _ => none

def acceptReadsSender (call : Nat) : Option MembershipState :=
  match s.acceptances call with
  | some (.signedUp invitation) =>
    if s.isMember invitation.organizationId invitation.inviterId then
      some (s.setAcceptance call (.senderFound invitation))
    else some (s.setAcceptance call .rejecting)
  | _ => none

def acceptInserts (call memberId : Nat) : Option MembershipState :=
  match s.acceptances call with
  | some (.senderFound invitation) =>
    if s.members.any fun row => row.id == memberId then none
    else some (s.setAcceptance call (.inserted invitation memberId))
  | _ => none

/-- The update of the invitation, which waits for another transaction that has updated it. -/
def acceptConsumes (call : Nat) : Option MembershipState :=
  match s.acceptances call with
  | some (.inserted invitation memberId) =>
    if (s.held invitation.id).isSome then none
    else if s.isPending invitation.id then
      some { s.setAcceptance call (.consumed invitation memberId) with
        held := Function.update s.held invitation.id (some (.acceptance call)) }
    else some (s.setAcceptance call .rejecting)
  | _ => none

/-- The member that an invitation is accepted as. -/
def acceptedMember (call : Nat) (invitation : InvitationRow) (memberId : Nat) : MemberRow where
  id := memberId
  organizationId := invitation.organizationId
  userId := .signedUp call
  role := invitation.role.getD []

def acceptCommits (call : Nat) : Option MembershipState :=
  match s.acceptances call with
  | some (.consumed invitation memberId) =>
    let member := acceptedMember call invitation memberId
    some { s.setAcceptance call (.ended .accepted) with
      held := s.released (.acceptance call)
      members := s.members ++ [member]
      invitations := s.withStatus [invitation.id] .accepted
      history := s.history ++ [.accepted invitation member] }
  | _ => none

/-- `deleteUser`, whose members are deleted with it. -/
def acceptDeletesUser (call : Nat) : Option MembershipState :=
  match s.acceptances call with
  | some .rejecting => some { s.setAcceptance call (.ended .notFound) with
      users := s.users.filter fun user => user.id != .signedUp call
      members := s.members.filter fun row => row.userId != .signedUp call }
  | _ => none

def acceptStops (call : Nat) : Option MembershipState :=
  match s.acceptances call with
  | none => none
  | some (.ended _) => none
  | some _ => some { s.setAcceptance call (.ended .failed) with
      held := s.released (.acceptance call) }

/-! ## What is to hold -/

/-- An organization has an owner. -/
def HasOwner (organizationId : Nat) : Prop :=
  ∃ row ∈ s.members, row.organizationId = organizationId ∧ row.role = Role.owner.text

/-- The actor is a member of the organization, in a role that manages members. -/
def Manages (actor : MemberActor) : Prop :=
  ∃ row ∈ s.members, row.organizationId = actor.organizationId ∧ row.id = actor.memberId ∧
    managesMembers row.role = true

/-- The row of an invitation, whose status may have changed since it was read. -/
def IsRow (invitation : InvitationRow) : Prop :=
  ∃ row, s.invitations invitation.id = some row ∧
    row.organizationId = invitation.organizationId ∧ row.role = invitation.role ∧
      row.inviterId = invitation.inviterId

/-- A removal has ended, and not by removing. -/
def Refused (call : Nat) : Prop :=
  ∃ removal outcome, s.removals call = some removal ∧ removal.stage = .ended outcome ∧
    outcome ≠ .removed

/-- The rows are as they were. -/
def SameRows (t : MembershipState) : Prop :=
  t.users = s.users ∧ t.members = s.members ∧ t.invitations = s.invitations ∧
    t.history = s.history

end MembershipState

/-- The commit `later` must not come after `earlier`. -/
def MembershipCommit.bars (earlier later : MembershipCommit) : Bool :=
  match earlier, later with
  | .accepted invitation _, .accepted other _ => invitation.id == other.id
  | .cancelled invitationId, .accepted invitation _ => invitation.id == invitationId
  | .removed target, .accepted invitation _ =>
    invitation.organizationId == target.organizationId && invitation.inviterId == target.userId
  | _, _ => false

namespace MembershipState

variable (s : MembershipState)

/-- No commit bars a later one: no invitation is accepted twice, or after its cancellation, or
after the removal of the member who sent it. -/
def InOrder : Prop := s.history.Pairwise fun earlier later => earlier.bars later = false

/-- A member that an invitation has made has its organization and its role. -/
def MadeAsInvited : Prop := ∀ invitation member, .accepted invitation member ∈ s.history →
  s.IsRow invitation ∧ member.organizationId = invitation.organizationId ∧
    invitation.role = some member.role

/-- A member with an account that was signed up for an invitation was made from one. -/
def MadeByInvitations : Prop := ∀ row ∈ s.members, ∀ call, row.userId = .signedUp call →
  ∃ invitation, .accepted invitation row ∈ s.history

/-- A call that `InvitationNotFoundError` ends leaves nothing. -/
def NotFoundLeavesNothing : Prop := ∀ call, s.acceptances call = some (.ended .notFound) →
  (∀ user ∈ s.users, user.id ≠ .signedUp call) ∧ ∀ row ∈ s.members, row.userId ≠ .signedUp call

/-- What is promised of invitations. -/
structure InvitationsSound : Prop where
  inOrder : s.InOrder
  madeAsInvited : s.MadeAsInvited
  madeByInvitations : s.MadeByInvitations
  notFoundLeavesNothing : s.NotFoundLeavesNothing

/-- The removal that is cancelling the invitations of its target has found this one, or it is of
another sender or no longer pending. -/
def findsInvitation (invitation : InvitationRow) (removal : RemovalCall) : Bool :=
  match removal.stage with
  | .cancelling target left cancelled =>
    target.userId != invitation.inviterId || left.contains invitation.id ||
      cancelled.contains invitation.id || !s.isPending invitation.id
  | _ => true

/-- The sender of an invitation is not read while a removal of that sender, which has missed the
invitation, is to commit. -/
def sendersSettled : MembershipEvent → Bool
  | .acceptReadsSender call =>
    match s.acceptances call with
    | some (.signedUp invitation) =>
      ((s.lock invitation.organizationId).bind s.removals).all (s.findsInvitation invitation)
    | _ => true
  | _ => true

end MembershipState

/-- The removal that takes a step. -/
def MembershipEvent.removalOf : MembershipEvent → Option Nat
  | .removalAsks call _ _ | .removalLocks call | .removalReadsCaller call
  | .removalReadsTarget call | .removalCounts call | .removalDeletes call | .removalCancels call
  | .removalCancelsNext call | .removalCommits call | .removalStops call => some call
  | _ => none

/-- Any number of removals, invitations, cancellations and acceptances, statement by statement. -/
def membership : TransitionSystem MembershipState MembershipEvent where
  init s := (s.members.map fun row => (row.organizationId, row.userId)).Nodup ∧
    (∀ row ∈ s.members, ∃ number, row.userId = .known number) ∧
    (∀ user ∈ s.users, ∃ number, user.id = .known number) ∧
    (∀ invitationId row, s.invitations invitationId = some row →
      row.id = invitationId ∧ invitationId < s.nextInvitation) ∧
    (∀ organizationId, s.lock organizationId = none) ∧
    (∀ invitationId, s.held invitationId = none) ∧ (∀ call, s.removals call = none) ∧
    (∀ call, s.acceptances call = none) ∧ (∀ call, s.inviting call = none) ∧
    (∀ call, s.cancellations call = none) ∧ s.history = []
  step s
    | .removalAsks call caller memberId => s.removalAsks call caller memberId
    | .removalLocks call => s.removalLocks call
    | .removalReadsCaller call => s.removalReadsCaller call
    | .removalReadsTarget call => s.removalReadsTarget call
    | .removalCounts call => s.removalCounts call
    | .removalDeletes call => s.removalDeletes call
    | .removalCancels call => s.removalCancels call
    | .removalCancelsNext call => s.removalCancelsNext call
    | .removalCommits call => s.removalCommits call
    | .removalStops call => s.removalStops call
    | .inviteChecks call organizationId senderId => s.inviteChecks call organizationId senderId
    | .inviteInserts call email role expiresAt => s.inviteInserts call email role expiresAt
    | .cancelUpdates call caller invitationId => s.cancelUpdates call caller invitationId
    | .cancelCommits call => s.cancelCommits call
    | .cancelStops call => s.cancelStops call
    | .acceptReads call invitationId now => s.acceptReads call invitationId now
    | .acceptSignsUp call => s.acceptSignsUp call
    | .acceptReadsSender call => s.acceptReadsSender call
    | .acceptInserts call memberId => s.acceptInserts call memberId
    | .acceptConsumes call => s.acceptConsumes call
    | .acceptCommits call => s.acceptCommits call
    | .acceptDeletesUser call => s.acceptDeletesUser call
    | .acceptStops call => s.acceptStops call

end OpenMcc

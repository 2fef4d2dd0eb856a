import OpenMcc.Framework.Text

/-!
# Roles and what they may do (`authz.ts`)
-/

namespace OpenMcc

/-- `ROLES`. -/
inductive Role
  | owner | operator | viewer
  deriving DecidableEq, Repr

/-- The text of a role. -/
def Role.text : Role → Text
  | .owner => "owner".toList
  | .operator => "operator".toList
  | .viewer => "viewer".toList

/-- `isRole`, with the role that the text is. -/
def Role.ofText (value : Text) : Option Role :=
  [Role.owner, Role.operator, Role.viewer].find? fun role => role.text == value

/-- `CAPABILITIES`. -/
inductive Capability
  | instanceRead
  | consoleRead
  | consoleWrite
  | instanceStart
  | configEdit
  | instanceCreate
  | instanceAuthenticate
  | hostEnroll
  | sshKeyManage
  | memberManage
  | notificationRead
  | notificationManage
  | auditRead
  deriving DecidableEq, Repr

/-- `CAPABILITIES`, as a list. -/
def capabilities : List Capability :=
  [.instanceRead, .consoleRead, .consoleWrite, .instanceStart, .configEdit, .instanceCreate,
    .instanceAuthenticate, .hostEnroll, .sshKeyManage, .memberManage, .notificationRead,
    .notificationManage, .auditRead]

/-- `VIEWER`. -/
def viewerCapabilities : List Capability := [.instanceRead, .consoleRead]

/-- `OPERATOR`. -/
def operatorCapabilities : List Capability :=
  viewerCapabilities ++ [.consoleWrite, .instanceStart, .configEdit, .notificationRead]

/-- `GRANTS`. -/
def grants : Role → List Capability
  | .viewer => viewerCapabilities
  | .operator => operatorCapabilities
  | .owner => capabilities

/-- `can`. -/
def can (role : Role) (capability : Capability) : Bool := (grants role).contains capability

/-- Only an owner manages members. -/
lemma eq_owner_of_can_memberManage {role : Role} (h : can role .memberManage = true) :
    role = .owner := by
  cases role with
  | owner => rfl
  | operator => exact absurd h (by decide)
  | viewer => exact absurd h (by decide)

end OpenMcc

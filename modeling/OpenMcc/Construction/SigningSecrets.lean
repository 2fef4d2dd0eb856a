import OpenMcc.Construction.Authz
import OpenMcc.Framework.Text
import OpenMcc.Framework.Transition
import Mathlib.Data.Int.Basic

/-!
# The signing secrets of a webhook (`destination.controller.ts`, `notification.ts`)

A webhook is signed with its secret and, for a while after a rotation, with the one before it.  The
settings of a destination are sealed and stored as a whole.  An expiry is stored as the stamp of a
time, which is read back as that time.

Whether a destination may be sent to is decided by `checkUrl`, which is the parameter `accepts`
here.  The system follows one destination from its creation on; each operation is one transaction
on its row.
-/

namespace OpenMcc

/-- `ROTATION_OVERLAP_MS`. -/
def rotationOverlapMs : Int := 24 * 60 * 60 * 1000

/-- `webhookStoredConfig`. -/
structure WebhookStoredConfig where
  url : Text
  signingSecret : Text
  previousSigningSecret : Option Text
  previousSigningSecretExpiresAt : Option Int
  deriving DecidableEq, Repr

/-- `usableSigningSecrets`. -/
def usableSigningSecrets (config : WebhookStoredConfig) (now : Int) : List Text :=
  match config.previousSigningSecret, config.previousSigningSecretExpiresAt with
  | some previous, some expiresAt =>
    if expiresAt ≤ now then [config.signingSecret] else [config.signingSecret, previous]
  | _, _ => [config.signingSecret]

/-- The kinds of destinations without a signing secret. -/
inductive UnsignedKind
  | telegram | discord | slack | teams | gotify | ntfy | resend | email
  deriving DecidableEq, Repr

/-- `DestinationConfig`: of the settings of a kind that is not signed only their text is told. -/
inductive DestinationConfig
  | webhook (url : Text)
  | unsigned (kind : UnsignedKind) (config : Text)
  deriving DecidableEq, Repr

/-- `StoredDestinationConfig`. -/
inductive StoredDestinationConfig
  | webhook (config : WebhookStoredConfig)
  | unsigned (kind : UnsignedKind) (config : Text)
  deriving DecidableEq, Repr

/-- The kind of a destination, where `none` is a webhook. -/
def DestinationConfig.kind : DestinationConfig → Option UnsignedKind
  | .webhook _ => none
  | .unsigned kind _ => some kind

/-- The kind of a stored destination, where `none` is a webhook. -/
def StoredDestinationConfig.kind : StoredDestinationConfig → Option UnsignedKind
  | .webhook _ => none
  | .unsigned kind _ => some kind

/-- The name and the settings of a destination. -/
structure NotificationDestinationRow where
  name : Text
  settings : StoredDestinationConfig
  deriving DecidableEq, Repr

/-- What the operations throw. -/
inductive DestinationError
  | forbidden
  | rejected
  | notFound
  | kindImmutable
  | hasNoSigningKey
  deriving DecidableEq, Repr

/-- `storedFor`, where `newSecret` is the secret that `newSecret()` gives. -/
def storedFor (newSecret : Text) (input : DestinationConfig) (signingSecret : Option Text)
    (previous : Option (Text × Int)) : StoredDestinationConfig :=
  match input with
  | .webhook url => .webhook {
      url := url
      signingSecret := signingSecret.getD newSecret
      previousSigningSecret := previous.map Prod.fst
      previousSigningSecretExpiresAt := previous.map Prod.snd }
  | .unsigned kind config => .unsigned kind config

section

variable (accepts : StoredDestinationConfig → Bool)

/-- `create`. -/
def createDestination (role : Role) (name : Text) (input : DestinationConfig) (newSecret : Text) :
    Except DestinationError NotificationDestinationRow :=
  if !can role .notificationManage then .error .forbidden
  else
    let settings := storedFor newSecret input none none
    if !accepts settings then .error .rejected
    else .ok { name := name, settings := settings }

/-- The previous secret that an edit keeps: one whose overlap has not run out. -/
def keptPrevious (existing : WebhookStoredConfig) (now : Int) : Option (Text × Int) :=
  match existing.previousSigningSecret, existing.previousSigningSecretExpiresAt with
  | some previous, some previousExpiresAt =>
    if now < previousExpiresAt then some (previous, previousExpiresAt) else none
  | _, _ => none

/-- `edit`. -/
def editDestination (role : Role) (found : Option NotificationDestinationRow) (name : Text)
    (input : DestinationConfig) (newSecret : Text) (now : Int) :
    Except DestinationError NotificationDestinationRow :=
  if !can role .notificationManage then .error .forbidden
  else match found with
    | none => .error .notFound
    | some row =>
      if row.settings.kind ≠ input.kind then .error .kindImmutable
      else
        let settings := match row.settings with
          | .webhook existing => storedFor newSecret input (some existing.signingSecret)
              (keptPrevious existing now)
          | .unsigned _ _ => storedFor newSecret input none none
        if !accepts settings then .error .rejected
        else .ok { name := name, settings := settings }

/-- `rotateSecret`, where `replacement` is the new secret. -/
def rotateSecret (role : Role) (found : Option NotificationDestinationRow) (replacement : Text)
    (now : Int) : Except DestinationError NotificationDestinationRow :=
  if !can role .notificationManage then .error .forbidden
  else match found with
    | none => .error .notFound
    | some row =>
      match row.settings with
      | .unsigned _ _ => .error .hasNoSigningKey
      | .webhook current => .ok { row with
          settings := storedFor replacement (.webhook current.url) (some replacement)
            (some (current.signingSecret, now + rotationOverlapMs)) }

/-! ## One destination -/

/-- A destination, the time, and the secrets that rotations have replaced with the expiries they
have announced. -/
structure DestinationState where
  row : Option NotificationDestinationRow
  now : Int
  announced : List (Text × Int)
  deriving DecidableEq, Repr

/-- What can happen next to a destination. -/
inductive DestinationEvent
  | creates (role : Role) (name : Text) (input : DestinationConfig) (newSecret : Text)
  | edits (role : Role) (name : Text) (input : DestinationConfig) (newSecret : Text)
  | rotates (role : Role) (replacement : Text)
  | passes (ms : Nat)
  deriving DecidableEq, Repr

namespace DestinationState

variable (s : DestinationState)

/-- The secret that a rotation replaces. -/
def replaced : Option Text :=
  match s.row with
  | some { settings := .webhook current, .. } => some current.signingSecret
  | _ => none

/-- A transaction that throws changes nothing. -/
def stores (result : Except DestinationError NotificationDestinationRow) : DestinationState :=
  match result with
  | .error _ => s
  | .ok row => { s with row := some row }

/-- A rotation announces when the secret it replaces expires. -/
def rotates (role : Role) (replacement : Text) : DestinationState :=
  match rotateSecret role s.row replacement s.now with
  | .error _ => s
  | .ok row => { s with
      row := some row
      announced := s.announced ++
        s.replaced.toList.map fun secret => (secret, s.now + rotationOverlapMs) }

/-- The secrets a delivery is signed with. -/
def signingSecrets (instant : Int) : List Text :=
  match s.row with
  | some { settings := .webhook config, .. } => usableSigningSecrets config instant
  | _ => []

/-- Every secret that was replaced is used to sign until the expiry announced for it, at every
instant from now on at which the destination is as it is now. -/
def SignsUntilExpiry : Prop :=
  ∀ entry ∈ s.announced, ∀ instant, s.now ≤ instant → instant < entry.2 →
    entry.1 ∈ s.signingSecrets instant

end DestinationState

/-- The operations on one destination, from before its creation on. -/
def destinationSecrets : TransitionSystem DestinationState DestinationEvent where
  init s := s.row = none ∧ s.announced = []
  step s
    | .creates role name input newSecret =>
      if s.row.isSome then none
      else some (s.stores (createDestination accepts role name input newSecret))
    | .edits role name input newSecret =>
      some (s.stores (editDestination accepts role s.row name input newSecret s.now))
    | .rotates role replacement => some (s.rotates role replacement)
    | .passes ms => some { s with now := s.now + ms }

/-- No rotation drops a previous secret that is still in use. -/
def keepsOverlap (s : DestinationState) : DestinationEvent → Bool
  | .rotates role replacement =>
    !can role .notificationManage ||
      (s.signingSecrets s.now).all fun secret =>
        some secret == s.replaced || secret == replacement
  | _ => true

end

end OpenMcc

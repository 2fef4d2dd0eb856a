import Mathlib.Logic.Function.Basic
import OpenMcc.Framework.Text

/-!
# Destinations, notifications and deliveries (`notification.repository.ts`)

The rows behind alerts and the statements that change them.  A delivery is one notification on
its way to one destination.  Ids come from one counter, so a fresh id names no row of any table.
-/

namespace OpenMcc

/-- `SUBSCRIPTION_KINDS`. -/
inductive SubscriptionKind
  | hostUnreachable
  | hostDriftStarted
  | instanceDisconnected
  | instanceFlapping
  | instanceNeverJoined
  | instanceUnexpectedStop
  | instanceNeedsAuth
  | instanceDriftStarted
  deriving DecidableEq, Repr

/-- `DELIVERY_STATES`. -/
inductive DeliveryState
  | queued | delivered | failed | abandoned
  deriving DecidableEq, Repr

/-- The keys a notification is created under: `event:${statusEventId}`, and
`test:${destinationId}:${nanoid()}`. -/
inductive DedupeKey
  | event (statusEventId : Nat)
  | test (destinationId nonce : Nat)
  deriving DecidableEq, Repr

/-- `NotificationRow`. -/
structure NotificationRow where
  dedupeKey : DedupeKey
  createdAt : Int
  deriving DecidableEq, Repr

/-- `NotificationDestinationRow`, with the kinds it is subscribed to. -/
structure DestinationRow where
  enabled : Bool
  subscribedTo : List SubscriptionKind
  lastSucceededAt : Option Int
  lastFailedAt : Option Int
  lastFailureReason : Option Text
  deriving DecidableEq, Repr

/-- `NotificationDeliveryRow`. -/
structure DeliveryRow where
  notificationId : Nat
  destinationId : Nat
  state : DeliveryState
  attempts : Nat
  settledAt : Option Int
  lastError : Option Text
  deriving DecidableEq, Repr

/-- The delivery is queued. -/
def DeliveryRow.isQueued (row : DeliveryRow) : Bool := row.state == .queued

/-- The rows of one organization. -/
structure NotificationRows where
  notifications : Nat → Option NotificationRow
  destinations : Nat → Option DestinationRow
  deliveries : Nat → Option DeliveryRow
  /-- The next id given out, for a row or a job. -/
  nextId : Nat

namespace NotificationRows

/-- An update of one delivery, where it exists. -/
def onDelivery (rows : NotificationRows) (deliveryId : Nat) (f : DeliveryRow → DeliveryRow) :
    NotificationRows :=
  { rows with
    deliveries := Function.update rows.deliveries deliveryId ((rows.deliveries deliveryId).map f) }

/-- An update of one destination, where it exists. -/
def onDestination (rows : NotificationRows) (destinationId : Nat)
    (f : DestinationRow → DestinationRow) : NotificationRows :=
  { rows with
    destinations :=
      Function.update rows.destinations destinationId ((rows.destinations destinationId).map f) }

/-- `destinationsSubscribedTo`: the enabled ones. -/
def destinationsSubscribedTo (rows : NotificationRows) (kind : SubscriptionKind) : List Nat :=
  (List.range rows.nextId).filter fun id =>
    (rows.destinations id).any fun destination =>
      destination.enabled && destination.subscribedTo.contains kind

/-- `notifiedAlready`, which is also the conflict of `createNotification`. -/
def notifiedAlready (rows : NotificationRows) (dedupeKey : DedupeKey) : Bool :=
  (List.range rows.nextId).any fun id =>
    (rows.notifications id).any fun notification => notification.dedupeKey == dedupeKey

/-- `createNotification`: the id it gives, unless the key is used. -/
def createNotification (rows : NotificationRows) (dedupeKey : DedupeKey) (now : Int) :
    Option (Nat × NotificationRows) :=
  if rows.notifiedAlready dedupeKey then none
  else some (rows.nextId, { rows with
    notifications := Function.update rows.notifications rows.nextId (some {
      dedupeKey := dedupeKey
      createdAt := now })
    nextId := rows.nextId + 1 })

/-- `createDelivery`: the id it gives, unless the notification has a delivery to the destination. -/
def createDelivery (rows : NotificationRows) (notificationId destinationId : Nat) :
    Option (Nat × NotificationRows) :=
  if (List.range rows.nextId).any fun id => (rows.deliveries id).any fun row =>
      row.notificationId == notificationId && row.destinationId == destinationId then none
  else some (rows.nextId, { rows with
    deliveries := Function.update rows.deliveries rows.nextId (some {
      notificationId := notificationId
      destinationId := destinationId
      state := .queued
      attempts := 0
      settledAt := none
      lastError := none })
    nextId := rows.nextId + 1 })

/-- `settleDelivery`, whatever state the delivery is in. -/
def settleDelivery (rows : NotificationRows) (deliveryId : Nat) (state : DeliveryState)
    (attempts : Nat) (settledAt : Option Int) (lastError : Option Text) : NotificationRows :=
  rows.onDelivery deliveryId fun row => { row with
    state := state, attempts := attempts, settledAt := settledAt, lastError := lastError }

/-- `abandonQueuedFor`. -/
def abandonQueuedFor (rows : NotificationRows) (destinationId : Nat) (now : Int) (reason : Text) :
    NotificationRows :=
  { rows with
    deliveries := fun id => (rows.deliveries id).map fun row =>
      if row.destinationId = destinationId ∧ row.isQueued then
        { row with state := .abandoned, settledAt := some now, lastError := some reason }
      else row }

/-- `requeueDelivery`. -/
def requeueDelivery (rows : NotificationRows) (deliveryId : Nat) : Option NotificationRows :=
  match rows.deliveries deliveryId with
  | none => none
  | some row =>
    if row.state = .failed ∨ row.state = .abandoned then
      some (rows.onDelivery deliveryId fun row => { row with
        state := .queued, attempts := 0, settledAt := none, lastError := none })
    else none

/-- `dismissDelivery`. -/
def dismissDelivery (rows : NotificationRows) (deliveryId : Nat) (now : Int) : NotificationRows :=
  rows.onDelivery deliveryId fun row =>
    if row.state = .failed then { row with state := .abandoned, settledAt := some now } else row

/-- The later of two instants, either of which may be missing. -/
def laterOf : Option Int → Option Int → Option Int
  | some first, some second => some (max first second)
  | first, second => first <|> second

/-- `markDestinationOutcome`: an outcome no later than the one shown changes nothing. -/
def markDestinationOutcome (rows : NotificationRows) (destinationId : Nat) (succeeded : Bool)
    (observedAt : Int) (reason : Option Text) : NotificationRows :=
  rows.onDestination destinationId fun destination =>
    if (laterOf destination.lastSucceededAt destination.lastFailedAt).all (· < observedAt) then
      if succeeded then
        { destination with lastSucceededAt := some observedAt, lastFailureReason := none }
      else { destination with lastFailedAt := some observedAt, lastFailureReason := reason }
    else destination

/-- `setDestinationEnabled`, and `disableDestination` where it turns the destination off. -/
def setDestinationEnabled (rows : NotificationRows) (destinationId : Nat) (enabled : Bool) :
    NotificationRows :=
  rows.onDestination destinationId fun destination => { destination with enabled := enabled }

/-- `deleteDestination`.  Its deliveries go with it. -/
def deleteDestination (rows : NotificationRows) (destinationId : Nat) : NotificationRows :=
  { rows with
    destinations := Function.update rows.destinations destinationId none
    deliveries := fun id =>
      (rows.deliveries id).filter fun row => row.destinationId != destinationId }

/-- `deleteSettledBefore` removes the notification. -/
def removable (rows : NotificationRows) (createdBefore settledBefore : Int)
    (notificationId : Nat) : Bool :=
  (rows.notifications notificationId).any (fun notification =>
    notification.createdAt < createdBefore) &&
  (List.range rows.nextId).all fun id => (rows.deliveries id).all fun row =>
    row.notificationId != notificationId ||
      (!row.isQueued && row.settledAt.any fun settledAt => settledAt < settledBefore)

/-- `deleteSettledBefore`.  The deliveries of a notification go with it. -/
def deleteSettledBefore (rows : NotificationRows) (createdBefore settledBefore : Int) :
    NotificationRows :=
  let kept := fun id => !rows.removable createdBefore settledBefore id
  { rows with
    notifications := fun id => (rows.notifications id).filter fun _ => kept id
    deliveries := fun id => (rows.deliveries id).filter fun row => kept row.notificationId }

end NotificationRows

end OpenMcc

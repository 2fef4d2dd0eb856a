import OpenMcc.Construction.NotificationRepository

/-!
# What is told of an event (`producer.ts`, `notification-copy.ts`, `contracts/status.ts`)

An event about a host or a bot is planned as a notification if its kind is one that tells of a
problem.  A kind that resolves a problem is planned only if that problem is what was announced
last.
-/

namespace OpenMcc

/-- `STATUS_EVENT_KINDS`. -/
inductive EventKind
  | hostCheckFailed | hostCheckRecovered | hostUnreachable | hostRecovered
  | hostDegraded | hostHealthy | hostDriftStarted | hostDriftResolved
  | instanceJoined | instanceDisconnected | instanceReconnected | instanceKicked
  | instanceConnectionLost | instanceFlapping | instanceNeverJoined | instanceStarted
  | instanceStopped | instanceUnexpectedStop | instanceProcessRecovered | instanceNeedsAuth
  | instanceDriftStarted | instanceDriftResolved
  | monitoringGap
  deriving DecidableEq, Repr

/-- `NOTIFICATION_KINDS`. -/
inductive NotificationKind
  | hostUnreachable | hostDriftStarted | instanceDisconnected | instanceFlapping
  | instanceNeverJoined | instanceUnexpectedStop | instanceNeedsAuth | instanceDriftStarted
  | hostRecovered | hostDriftResolved | instanceReconnected | instanceProcessRecovered
  | instanceDriftResolved
  | test
  deriving DecidableEq, Repr

/-- `asNotificationKind`: the member of `NOTIFICATION_KINDS` of the same name. -/
def asNotificationKind : EventKind → Option NotificationKind
  | .hostUnreachable => some .hostUnreachable
  | .hostDriftStarted => some .hostDriftStarted
  | .instanceDisconnected => some .instanceDisconnected
  | .instanceFlapping => some .instanceFlapping
  | .instanceNeverJoined => some .instanceNeverJoined
  | .instanceUnexpectedStop => some .instanceUnexpectedStop
  | .instanceNeedsAuth => some .instanceNeedsAuth
  | .instanceDriftStarted => some .instanceDriftStarted
  | .hostRecovered => some .hostRecovered
  | .hostDriftResolved => some .hostDriftResolved
  | .instanceReconnected => some .instanceReconnected
  | .instanceProcessRecovered => some .instanceProcessRecovered
  | .instanceDriftResolved => some .instanceDriftResolved
  | _ => none

/-- The member of `SUBSCRIPTION_KINDS` of the same name. -/
def asSubscriptionKind : EventKind → Option SubscriptionKind
  | .hostUnreachable => some .hostUnreachable
  | .hostDriftStarted => some .hostDriftStarted
  | .instanceDisconnected => some .instanceDisconnected
  | .instanceFlapping => some .instanceFlapping
  | .instanceNeverJoined => some .instanceNeverJoined
  | .instanceUnexpectedStop => some .instanceUnexpectedStop
  | .instanceNeedsAuth => some .instanceNeedsAuth
  | .instanceDriftStarted => some .instanceDriftStarted
  | _ => none

/-- `isNotifyingEvent`: `NOTIFYING_EVENT_KINDS` are the `SUBSCRIPTION_KINDS`. -/
def isNotifyingEvent (kind : EventKind) : Bool := (asSubscriptionKind kind).isSome

/-- `problemResolvedBy`, with the pairs of `RESOLVES`. -/
def problemResolvedBy : EventKind → Option EventKind
  | .hostRecovered => some .hostUnreachable
  | .hostDriftResolved => some .hostDriftStarted
  | .instanceReconnected => some .instanceDisconnected
  | .instanceProcessRecovered => some .instanceUnexpectedStop
  | .instanceDriftResolved => some .instanceDriftStarted
  | _ => none

/-- `subscriptionKindFor`. -/
def subscriptionKindFor (kind : EventKind) : EventKind := (problemResolvedBy kind).getD kind

/-- `relevantKinds`. -/
def relevantKinds (kind : EventKind) : List NotificationKind :=
  [(problemResolvedBy kind).bind asNotificationKind, asNotificationKind kind].flatMap Option.toList

/-- `worthAnnouncing`. -/
def worthAnnouncing (kind : EventKind) (lastAnnouncedKind : Option NotificationKind) : Bool :=
  match problemResolvedBy kind with
  | some problem => lastAnnouncedKind.any fun last => asNotificationKind problem == some last
  | none => isNotifyingEvent kind

/-- `NotificationCopy`. -/
structure NotificationCopy where
  title : Text
  body : Text
  deriving DecidableEq, Repr

/-- `notificationCopy`, with the texts of `COPY`. -/
def notificationCopy (kind : NotificationKind) (name : Text) : NotificationCopy :=
  match kind with
  | .hostUnreachable => {
      title := name ++ " is not responding".toList
      body := "OpenMCC cannot reach this machine, so the bots on it are unmanaged.".toList }
  | .hostRecovered => {
      title := name ++ " is back".toList
      body := "OpenMCC can reach this machine again.".toList }
  | .hostDriftStarted => {
      title := name ++ " was changed elsewhere".toList
      body := "Something on this machine no longer matches what OpenMCC set up.".toList }
  | .hostDriftResolved => {
      title := name ++ " matches again".toList
      body := "This machine is back to what OpenMCC set up.".toList }
  | .instanceDisconnected => {
      title := name ++ " left the server".toList
      body := "It has not managed to get back on.".toList }
  | .instanceReconnected => {
      title := name ++ " is back on the server".toList
      body := "It rejoined and is playing again.".toList }
  | .instanceFlapping => {
      title := name ++ " keeps dropping out".toList
      body := "It has left and rejoined repeatedly in the last half hour.".toList }
  | .instanceNeverJoined => {
      title := name ++ " never got on the server".toList
      body := "It started up but never joined.".toList }
  | .instanceUnexpectedStop => {
      title := name ++ " stopped on its own".toList
      body := "Nobody asked it to stop.".toList }
  | .instanceProcessRecovered => {
      title := name ++ " is running again".toList
      body := "It started back up.".toList }
  | .instanceNeedsAuth => {
      title := name ++ " needs you to sign in".toList
      body := "Open OpenMCC and start sign-in again.".toList }
  | .instanceDriftStarted => {
      title := name ++ " was changed elsewhere".toList
      body := "Its settings no longer match what OpenMCC has.".toList }
  | .instanceDriftResolved => {
      title := name ++ " settings match again".toList
      body := "Its settings are back to what OpenMCC has.".toList }
  | .test => {
      title := "Test from OpenMCC".toList
      body := "If you are reading this, ".toList ++ name ++ " is set up correctly.".toList }

/-! ## Planning -/

/-- A `subjectType` and a `subjectId`. -/
inductive Subject
  | host (hostId : Nat)
  | bot (instanceId : Nat)
  deriving DecidableEq, Repr

/-- `EventFact`, of either type of subject. -/
structure AlertFact where
  statusEventId : Nat
  kind : EventKind
  subject : Subject
  subjectName : Text
  incidentId : Option Nat
  deriving DecidableEq, Repr

/-- `PlannedNotification`. -/
structure PlannedNotification where
  kind : NotificationKind
  title : Text
  body : Text
  subject : Subject
  dedupeKey : DedupeKey
  sourceStatusEventId : Nat
  deriving DecidableEq, Repr

/-- `dedupeKeyFor`. -/
def dedupeKeyFor (statusEventId : Nat) : DedupeKey := .event statusEventId

/-- `planNotification`. -/
def planNotification (fact : AlertFact)
    (lastAnnounced : Subject → List NotificationKind → Option Nat → Option NotificationKind) :
    Option PlannedNotification :=
  match asNotificationKind fact.kind with
  | none => none
  | some kind =>
    let previous :=
      if (problemResolvedBy fact.kind).isNone then none
      else lastAnnounced fact.subject (relevantKinds fact.kind) fact.incidentId
    if !worthAnnouncing fact.kind previous then none
    else
      let copy := notificationCopy kind fact.subjectName
      some {
        kind := kind
        title := copy.title
        body := copy.body
        subject := fact.subject
        dedupeKey := dedupeKeyFor fact.statusEventId
        sourceStatusEventId := fact.statusEventId }

end OpenMcc

import OpenMcc.Construction.Reachability
import OpenMcc.Construction.StatusHistory

/-!
# What an organization is told (`announce.ts`, `lastAnnouncedAmong`)

The notifications that the events of an organization's hosts and bots come to, under any order of
probes, hand-overs and checks, while destinations are added, subscribed, turned off and on, and
removed.  Each transaction is one step; the facts it announces are announced in its order, and a
transaction that throws is rolled back with its notifications.

Events are numbered by subject here, so an event is named by its subject and its number.
-/

namespace OpenMcc

/-- `NotificationRow`. -/
structure Notification where
  id : Nat
  kind : NotificationKind
  title : Text
  body : Text
  subject : Subject
  dedupeKey : DedupeKey
  sourceStatusEventId : Nat
  createdAt : Int
  deriving DecidableEq, Repr

/-- A kind that a bot's connection is recorded with, among all kinds. -/
def StatusEventKind.eventKind : StatusEventKind → EventKind
  | .instanceJoined => .instanceJoined
  | .instanceDisconnected => .instanceDisconnected
  | .instanceReconnected => .instanceReconnected
  | .instanceKicked => .instanceKicked
  | .instanceConnectionLost => .instanceConnectionLost
  | .instanceFlapping => .instanceFlapping
  | .instanceStopped => .instanceStopped

/-- What is announced of a bot, with the bot as its subject. -/
def EventFact.about (fact : EventFact) (instanceId : Nat) : AlertFact where
  statusEventId := fact.statusEventId
  kind := fact.kind.eventKind
  subject := .bot instanceId
  subjectName := fact.subjectName
  incidentId := fact.incidentId

/-- The recorders of an organization's hosts and bots, its destinations, and its notifications.
`created` keeps every notification that was ever created. -/
structure AlertState where
  hosts : Nat → HostRecorder
  bots : Nat → RecorderState
  destinations : List DestinationRow
  notifications : List Notification
  created : List Notification

/-- What can happen next in an organization.  `createdAt` is the time of the store. -/
inductive AlertEvent
  /-- `recordHostReachability`, and whether the queue takes its deliveries. -/
  | probes (observation : HostProbe) (now createdAt : Int) (queueTakes : Bool)
  | connects (instanceId : Nat) (event : HistoryEvent) (createdAt : Int)
  | configures (destinations : List DestinationRow)
  /-- `deleteSettledBefore` removes notifications. -/
  | cleansUp (ids : List Nat)
  deriving DecidableEq, Repr

namespace AlertState

/-! ## Announcing -/

/-- The incident of the event with this number. -/
def incidentOf (s : AlertState) (subject : Subject) (statusEventId : Nat) : Option Nat :=
  match subject with
  | .host hostId => (s.hosts hostId).events[statusEventId]?.bind HostEventRow.incidentId
  | .bot instanceId =>
    (s.bots instanceId).rows.events[statusEventId]?.bind fun row => row.incidentId

/-- The first of two notifications by `createdAt` and `id`, both descending. -/
def laterNotification (first second : Notification) : Notification :=
  if first.createdAt < second.createdAt ∨
      (first.createdAt = second.createdAt ∧ first.id < second.id) then second
  else first

/-- `lastAnnouncedAmong`. -/
def lastAnnouncedAmong (s : AlertState) (subject : Subject) (kinds : List NotificationKind)
    (incidentId : Option Nat) : Option Notification :=
  let found := s.notifications.filter fun notification =>
    notification.subject == subject && kinds.contains notification.kind &&
      (incidentId.isNone ||
        s.incidentOf notification.subject notification.sourceStatusEventId == incidentId)
  match found with
  | [] => none
  | first :: rest => some (rest.foldl laterNotification first)

/-- `destinationsSubscribedTo`. -/
def destinationsSubscribedTo (s : AlertState) (kind : SubscriptionKind) : List DestinationRow :=
  s.destinations.filter fun destination =>
    destination.enabled && destination.subscribedTo.contains kind

/-- `createNotification`, unless its key is used. -/
def createNotification (nanoid : Nat → Nat) (createdAt : Int) (s : AlertState)
    (planned : PlannedNotification) : AlertState :=
  if s.notifications.any fun notification =>
      notification.subject == planned.subject && notification.dedupeKey == planned.dedupeKey then s
  else
    let notification : Notification := {
      id := nanoid s.created.length
      kind := planned.kind
      title := planned.title
      body := planned.body
      subject := planned.subject
      dedupeKey := planned.dedupeKey
      sourceStatusEventId := planned.sourceStatusEventId
      createdAt := createdAt }
    { s with
      notifications := s.notifications ++ [notification]
      created := s.created ++ [notification] }

/-- The kind of what was announced last, as `announce` asks for it. -/
def lastAnnounced (s : AlertState) (subject : Subject) (kinds : List NotificationKind)
    (incidentId : Option Nat) : Option NotificationKind :=
  (s.lastAnnouncedAmong subject kinds incidentId).map Notification.kind

/-- `announce`, up to the deliveries of the notification. -/
def announce (nanoid : Nat → Nat) (createdAt : Int) (s : AlertState) (fact : AlertFact) :
    AlertState :=
  match planNotification fact s.lastAnnounced with
  | none => s
  | some planned =>
    match asSubscriptionKind (subscriptionKindFor fact.kind) with
    | none => s
    | some subscribable =>
      if (s.destinationsSubscribedTo subscribable).isEmpty then s
      else s.createNotification nanoid createdAt planned

/-- The facts of one transaction, in its order. -/
def announceAll (nanoid : Nat → Nat) (createdAt : Int) (s : AlertState) (facts : List AlertFact) :
    AlertState :=
  facts.foldl (announce nanoid createdAt) s

/-! ## Steps -/

/-- The rows of one host are replaced. -/
def onHost (s : AlertState) (hostId : Nat) (host : HostRecorder) : AlertState :=
  { s with hosts := Function.update s.hosts hostId host }

/-- The rows of one bot are replaced. -/
def onBot (s : AlertState) (instanceId : Nat) (bot : RecorderState) : AlertState :=
  { s with bots := Function.update s.bots instanceId bot }

/-- The host after a probe. -/
def probed (s : AlertState) (observation : HostProbe) (now : Int) : HostRecorder :=
  (s.hosts observation.hostId).recordHostReachability observation now

/-- The facts that a probe announces. -/
def hostFacts (s : AlertState) (observation : HostProbe) (now : Int) : List AlertFact :=
  (s.probed observation now).announced.drop (s.hosts observation.hostId).announced.length

/-- The bot after a transaction of its history. -/
def connected (s : AlertState) (instanceId : Nat) (event : HistoryEvent) : RecorderState :=
  ((statusHistory.step (s.bots instanceId) event).getD (s.bots instanceId))

/-- The facts that a transaction of a bot's history announces. -/
def botFacts (s : AlertState) (instanceId : Nat) (event : HistoryEvent) : List AlertFact :=
  ((s.connected instanceId event).announced.drop (s.bots instanceId).announced.length).map
    fun fact => fact.about instanceId

/-- A probe is recorded.  Where a notification's delivery is not taken, it is rolled back. -/
def probes (nanoid : Nat → Nat) (s : AlertState) (observation : HostProbe)
    (now createdAt : Int) (queueTakes : Bool) : AlertState :=
  let t := (s.onHost observation.hostId (s.probed observation now)).announceAll nanoid createdAt
    (s.hostFacts observation now)
  if queueTakes || t.created.length == s.created.length then t else s

/-- A transaction of a bot's history, which is rolled back in it where it throws. -/
def connects (nanoid : Nat → Nat) (s : AlertState) (instanceId : Nat) (event : HistoryEvent)
    (createdAt : Int) : AlertState :=
  (s.onBot instanceId (s.connected instanceId event)).announceAll nanoid createdAt
    (s.botFacts instanceId event)

end AlertState

/-- The alerts of one organization, with the ids that `nanoid` gives as the store orders them. -/
def alerts (nanoid : Nat → Nat) : TransitionSystem AlertState AlertEvent where
  init s := s = {
    hosts := fun _ => unprobed
    bots := fun _ => unrecorded
    destinations := []
    notifications := []
    created := [] }
  step s
    | .probes observation now createdAt queueTakes =>
      some (s.probes nanoid observation now createdAt queueTakes)
    | .connects instanceId event createdAt => some (s.connects nanoid instanceId event createdAt)
    | .configures destinations => some { s with destinations := destinations }
    | .cleansUp ids =>
      some { s with notifications := s.notifications.filter fun notification =>
        !ids.contains notification.id }

/-! ## What is asked of the notifications -/

/-- The problem that a notification tells the end of. -/
def Notification.resolves (notification : Notification) : Option NotificationKind :=
  match notification.kind with
  | .hostRecovered => some .hostUnreachable
  | .hostDriftResolved => some .hostDriftStarted
  | .instanceReconnected => some .instanceDisconnected
  | .instanceProcessRecovered => some .instanceUnexpectedStop
  | .instanceDriftResolved => some .instanceDriftStarted
  | _ => none

namespace AlertState

/-- The incident of the event that a notification tells of. -/
def incident (s : AlertState) (notification : Notification) : Option Nat :=
  s.incidentOf notification.subject notification.sourceStatusEventId

/-- A recovery was created after the problem it resolves was, under the incident of both. -/
def RecoveriesFounded (s : AlertState) : Prop :=
  ∀ earlier recovery later problem, s.created = earlier ++ recovery :: later →
    recovery.resolves = some problem →
    ∃ incidentId, s.incident recovery = some incidentId ∧
      ∃ notification ∈ earlier, notification.subject = recovery.subject ∧
        notification.kind = problem ∧ s.incident notification = some incidentId

/-- No two recoveries of a subject were created under one incident. -/
def RecoveriesOnce (s : AlertState) : Prop :=
  s.created.Pairwise fun first second => first.subject = second.subject →
    first.resolves.isSome → second.resolves.isSome → s.incident first = s.incident second →
    s.incident first = none

/-- The fact resolves a problem and belongs to no incident. -/
def unfounded (fact : AlertFact) : Bool :=
  (problemResolvedBy fact.kind).isSome && fact.incidentId.isNone

/-- The problem that the fact resolves is what was announced last of its subject, under whatever
incident, and a destination that is on is subscribed to it. -/
def tellable (s : AlertState) (fact : AlertFact) : Bool :=
  worthAnnouncing fact.kind (s.lastAnnounced fact.subject (relevantKinds fact.kind) none) &&
    (asSubscriptionKind (subscriptionKindFor fact.kind)).any fun kind =>
      !(s.destinationsSubscribedTo kind).isEmpty

/-- No fact that resolves a problem outside any incident meets, in its turn, a subject of which the
problem was announced last and a destination to tell. -/
def silentOutsideIncidents (nanoid : Nat → Nat) (createdAt : Int) :
    AlertState → List AlertFact → Bool
  | _, [] => true
  | s, fact :: facts =>
    !(unfounded fact && s.tellable fact) &&
      silentOutsideIncidents nanoid createdAt (s.announce nanoid createdAt fact) facts

end AlertState

/-- A transaction announces no reconnection outside the incidents of its bot. -/
def announcesUnderIncidents (nanoid : Nat → Nat) (s : AlertState) : AlertEvent → Bool
  | .connects instanceId event createdAt =>
    (s.onBot instanceId (s.connected instanceId event)).silentOutsideIncidents nanoid createdAt
      (s.botFacts instanceId event)
  | _ => true

end OpenMcc

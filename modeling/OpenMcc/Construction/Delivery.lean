import OpenMcc.Construction.NotificationRepository
import OpenMcc.Framework.Transition

/-!
# Delivering alerts (`delivery.job.ts`, `destination.controller.ts`, `announce.ts`)

An announcement creates deliveries and queues a job for each.  A job reads its delivery, sends
and settles the delivery in a transaction of its own; one that is to be tried again settles it as
still queued and queues the next job in that transaction.  Operators turn destinations off and on,
and retry and dismiss deliveries.

The system follows one organization and any number of workers.  Each read of a job is a step, and
each transaction is one.  The queue runs each job it took once and does not retry one that throws,
as its policy has it.  When it runs a job is left open, so the wait a job asks for is kept in it
and not enforced.
-/

namespace OpenMcc

/-! ## One attempt -/

/-- `DELIVERY_RETRY_LIMIT`. -/
def deliveryRetryLimit : Nat := 8

/-- `BASE_RETRY_SECONDS`. -/
def baseRetrySeconds : Nat := 15

/-- `MAX_RETRY_SECONDS`. -/
def maxRetrySeconds : Nat := 60 * 60

/-- `backoffSeconds`. -/
def backoffSeconds (attempt : Nat) : Nat :=
  min maxRetrySeconds (baseRetrySeconds * Nat.pow 2 (attempt - 1))

/-- `nextDelaySeconds`. -/
def nextDelaySeconds (attempt : Nat) (askedFor : Option Nat) : Nat :=
  min maxRetrySeconds (max (askedFor.getD 0) (backoffSeconds attempt))

/-- `DeliveryOutcome`, with its reason as it is stored. -/
inductive DeliveryOutcome
  | delivered
  | retryable (reason : Text) (retryAfterSeconds : Option Nat)
  | terminal (reason : Text) (stopSending : Bool)
  deriving DecidableEq, Repr

/-- The reason recorded of an attempt. -/
def DeliveryOutcome.lastError : DeliveryOutcome → Option Text
  | .delivered => none
  | .retryable reason _ | .terminal reason _ => some reason

/-- The attempt is to be followed by another. -/
def DeliveryOutcome.tryAgain (attempt : Nat) : DeliveryOutcome → Bool
  | .retryable _ _ => attempt < deliveryRetryLimit
  | _ => false

/-- The reason of an abandoned delivery whose destination or notification is gone. -/
def removedReason : Text := "the destination was removed before this could be sent".toList

/-- The reason of a delivery abandoned because its destination is off. -/
def turnedOffReason : Text := "this destination was turned off before it could be sent".toList

/-- `SETTLED`. -/
def settledStates : List DeliveryState := [.delivered, .failed, .abandoned]

/-- How far a job has got. -/
inductive JobStage
  | waiting
  | fetched
  /-- It has read a delivery that was not settled. -/
  | found (delivery : DeliveryRow)
  | foundDestination (delivery : DeliveryRow) (destination : Option DestinationRow)
  | abandoning (reason : Text)
  | sending (destinationId : Nat)
  | sent (destinationId : Nat) (outcome : DeliveryOutcome)
  deriving DecidableEq, Repr

/-- An attempt at the delivery is under way: from the read of its row to its settlement. -/
def JobStage.attempting : JobStage → Bool
  | .waiting | .fetched => false
  | _ => true

/-- The attempt has sent. -/
def JobStage.hasSent : JobStage → Bool
  | .sent _ _ => true
  | _ => false

/-- A delivery job.  `origin` is the id of the job that the announcement or the retry behind it
queued, which the payload does not carry. -/
structure DeliveryJob where
  deliveryId : Nat
  attempt : Nat
  afterSeconds : Nat
  origin : Nat
  stage : JobStage
  deriving DecidableEq, Repr

/-- The rows, the delivery jobs that wait or run, the deliveries set aside, and the origin of the
job behind each send so far. -/
structure DeliverySystem where
  rows : NotificationRows
  jobs : Nat → Option DeliveryJob
  deadLetters : List Nat
  sends : List Nat

/-- What can happen next to the alerts of an organization. -/
inductive DeliveryEvent
  | adds (subscribedTo : List SubscriptionKind)
  | subscribes (destinationId : Nat) (subscribedTo : List SubscriptionKind)
  | announces (statusEventId : Nat) (kind : SubscriptionKind) (now : Int) (queueTakes : Bool)
  /-- A test that its throttle lets through. -/
  | tests (destinationId nonce : Nat) (now : Int) (queueTakes : Bool)
  | fetches (jobId : Nat)
  | readsDelivery (jobId : Nat)
  | readsDestination (jobId : Nat)
  | readsNotification (jobId : Nat)
  | sends (jobId : Nat) (outcome : DeliveryOutcome)
  | settles (jobId : Nat) (now : Int) (queueTakes : Bool)
  /-- A job throws at any point: the store does not answer it. -/
  | throws (jobId : Nat)
  | retries (deliveryId : Nat) (queueTakes : Bool)
  | dismisses (deliveryId : Nat) (now : Int)
  | setsEnabled (destinationId : Nat) (enabled : Bool) (now : Int)
  | removes (destinationId : Nat)
  | cleansUp (createdBefore settledBefore : Int)
  deriving DecidableEq, Repr

namespace DeliverySystem

/-! ## Queueing -/

/-- The queue takes a job. -/
def enqueue (s : DeliverySystem) (job : DeliveryJob) : DeliverySystem :=
  { s with
    rows := { s.rows with nextId := s.rows.nextId + 1 }
    jobs := Function.update s.jobs s.rows.nextId (some job) }

/-- The first job of a delivery, of an announcement or of an operator's retry. -/
def enqueueFirst (s : DeliverySystem) (deliveryId : Nat) : DeliverySystem :=
  s.enqueue {
    deliveryId := deliveryId
    attempt := 1
    afterSeconds := 0
    origin := s.rows.nextId
    stage := .waiting }

/-- The body of the loop of `announce`: a destination that has its delivery is passed over. -/
def deliverTo (notificationId : Nat) (s : DeliverySystem) (destinationId : Nat) :
    DeliverySystem :=
  match s.rows.createDelivery notificationId destinationId with
  | none => s
  | some (deliveryId, rows) => enqueueFirst { s with rows := rows } deliveryId

/-- `announce`, once it has planned the notification.  It throws where the queue does not take a
delivery, and the transaction is rolled back. -/
def announces (s : DeliverySystem) (statusEventId : Nat) (kind : SubscriptionKind) (now : Int)
    (queueTakes : Bool) : DeliverySystem :=
  let destinations := s.rows.destinationsSubscribedTo kind
  if destinations = [] then s
  else match s.rows.createNotification (.event statusEventId) now with
    | none => s
    | some (notificationId, rows) =>
      if queueTakes then destinations.foldl (deliverTo notificationId) { s with rows := rows }
      else s

/-- `test`. -/
def tests (s : DeliverySystem) (destinationId nonce : Nat) (now : Int) (queueTakes : Bool) :
    DeliverySystem :=
  match s.rows.destinations destinationId with
  | none => s
  | some destination =>
    if !destination.enabled then s
    else match s.rows.createNotification (.test destinationId nonce) now with
      | none => s
      | some (notificationId, rows) =>
        if queueTakes then deliverTo notificationId { s with rows := rows } destinationId else s

/-! ## The handler of a job -/

/-- A job moves on to a stage. -/
def moveTo (s : DeliverySystem) (jobId : Nat) (job : DeliveryJob) (stage : JobStage) :
    DeliverySystem :=
  { s with jobs := Function.update s.jobs jobId (some { job with stage := stage }) }

/-- A job is finished, or has thrown and is not run again. -/
def ends (s : DeliverySystem) (jobId : Nat) : DeliverySystem :=
  { s with jobs := Function.update s.jobs jobId none }

/-- A step of the job with this id. -/
def onJob (s : DeliverySystem) (jobId : Nat)
    (step : DeliveryJob → Option DeliverySystem) : Option DeliverySystem :=
  (s.jobs jobId).bind step

/-- A worker takes the job. -/
def fetches (s : DeliverySystem) (jobId : Nat) : Option DeliverySystem :=
  s.onJob jobId fun job =>
    match job.stage with
    | .waiting => some (s.moveTo jobId job .fetched)
    | _ => none

/-- `createDeliveryHandler` from its start: a settled delivery is skipped. -/
def readsDelivery (s : DeliverySystem) (jobId : Nat) : Option DeliverySystem :=
  s.onJob jobId fun job =>
    match job.stage with
    | .fetched =>
      match s.rows.deliveries job.deliveryId with
      | none => some (s.ends jobId)
      | some delivery =>
        if settledStates.contains delivery.state then some (s.ends jobId)
        else some (s.moveTo jobId job (.found delivery))
    | _ => none

def readsDestination (s : DeliverySystem) (jobId : Nat) : Option DeliverySystem :=
  s.onJob jobId fun job =>
    match job.stage with
    | .found delivery =>
      let destination := s.rows.destinations delivery.destinationId
      some (s.moveTo jobId job (.foundDestination delivery destination))
    | _ => none

/-- The last read of the handler, and what it does by it. -/
def readsNotification (s : DeliverySystem) (jobId : Nat) : Option DeliverySystem :=
  s.onJob jobId fun job =>
    match job.stage with
    | .foundDestination delivery destination =>
      match destination, s.rows.notifications delivery.notificationId with
      | some destination, some _ =>
        if destination.enabled then
          some (s.moveTo jobId job (.sending delivery.destinationId))
        else some (s.moveTo jobId job (.abandoning turnedOffReason))
      | _, _ => some (s.moveTo jobId job (.abandoning removedReason))
    | _ => none

def sendsOut (s : DeliverySystem) (jobId : Nat) (outcome : DeliveryOutcome) :
    Option DeliverySystem :=
  s.onJob jobId fun job =>
    match job.stage with
    | .sending destinationId =>
      some { s.moveTo jobId job (.sent destinationId outcome) with
        sends := s.sends ++ [job.origin] }
    | _ => none

/-- The settling transaction of an attempt that sent: `none` where it throws, which the queue
makes it do, or the attempt of a delivery that is gone. -/
def settleSent (s : DeliverySystem) (job : DeliveryJob) (destinationId : Nat)
    (outcome : DeliveryOutcome) (now : Int) (queueTakes : Bool) : Option DeliverySystem :=
  let rows := s.rows.markDestinationOutcome destinationId (outcome == .delivered) now
    outcome.lastError
  if (s.rows.deliveries job.deliveryId).isNone then none
  else match outcome with
    | .delivered =>
      some { s with
        rows := rows.settleDelivery job.deliveryId .delivered job.attempt (some now) none }
    | .retryable reason retryAfterSeconds =>
      if job.attempt < deliveryRetryLimit then
        if queueTakes then
          some (enqueue { s with
            rows := rows.settleDelivery job.deliveryId .queued job.attempt none (some reason) }
            { deliveryId := job.deliveryId
              attempt := job.attempt + 1
              afterSeconds := nextDelaySeconds job.attempt retryAfterSeconds
              origin := job.origin
              stage := .waiting })
        else none
      else if queueTakes then
        some { s with
          rows := rows.settleDelivery job.deliveryId .failed job.attempt (some now) (some reason)
          deadLetters := s.deadLetters ++ [job.deliveryId] }
      else none
    | .terminal reason stopSending =>
      if queueTakes then
        let rows := if stopSending then rows.setDestinationEnabled destinationId false else rows
        some { s with
          rows := rows.settleDelivery job.deliveryId .failed job.attempt (some now) (some reason)
          deadLetters := s.deadLetters ++ [job.deliveryId] }
      else none

/-- The last transaction of a job.  Where it throws, it leaves everything else as it was. -/
def settles (s : DeliverySystem) (jobId : Nat) (now : Int) (queueTakes : Bool) :
    Option DeliverySystem :=
  s.onJob jobId fun job =>
    match job.stage with
    | .abandoning reason =>
      some { s.ends jobId with
        rows := s.rows.settleDelivery job.deliveryId .abandoned job.attempt (some now)
          (some reason) }
    | .sent destinationId outcome =>
      some (((s.ends jobId).settleSent job destinationId outcome now queueTakes).getD
        (s.ends jobId))
    | _ => none

def throwsIn (s : DeliverySystem) (jobId : Nat) : Option DeliverySystem :=
  s.onJob jobId fun job => if job.stage = .waiting then none else some (s.ends jobId)

/-! ## Operators -/

/-- `retry` finds a delivery to queue again, at a destination that is on. -/
def retryTaken (s : DeliverySystem) (deliveryId : Nat) : Bool :=
  (s.rows.deliveries deliveryId).any fun row =>
    (s.rows.destinations row.destinationId).any DestinationRow.enabled &&
      (row.state == .failed || row.state == .abandoned)

/-- `retry`. -/
def retries (s : DeliverySystem) (deliveryId : Nat) (queueTakes : Bool) : DeliverySystem :=
  match s.rows.deliveries deliveryId with
  | none => s
  | some existing =>
    match s.rows.destinations existing.destinationId with
    | none => s
    | some destination =>
      if !destination.enabled then s
      else match s.rows.requeueDelivery deliveryId with
        | none => s
        | some rows => if queueTakes then enqueueFirst { s with rows := rows } deliveryId else s

/-- `setEnabled`: turning a destination off abandons what is queued for it. -/
def setsEnabled (s : DeliverySystem) (destinationId : Nat) (enabled : Bool) (now : Int) :
    DeliverySystem :=
  if (s.rows.destinations destinationId).isNone then s
  else
    let rows := s.rows.setDestinationEnabled destinationId enabled
    { s with rows :=
        if enabled then rows else rows.abandonQueuedFor destinationId now turnedOffReason }

/-- A destination is added. -/
def adds (s : DeliverySystem) (subscribedTo : List SubscriptionKind) : DeliverySystem :=
  { s with rows := { s.rows with
      nextId := s.rows.nextId + 1
      destinations := Function.update s.rows.destinations s.rows.nextId (some {
        enabled := true
        subscribedTo := subscribedTo
        lastSucceededAt := none
        lastFailedAt := none
        lastFailureReason := none }) } }

end DeliverySystem

/-- The alerts of an organization that has no destination yet. -/
def deliverySystem : TransitionSystem DeliverySystem DeliveryEvent where
  init s := s = {
    rows := {
      notifications := fun _ => none
      destinations := fun _ => none
      deliveries := fun _ => none
      nextId := 0 }
    jobs := fun _ => none
    deadLetters := []
    sends := [] }
  step s
    | .adds subscribedTo => some (s.adds subscribedTo)
    | .subscribes destinationId subscribedTo =>
      some { s with rows := s.rows.onDestination destinationId fun destination =>
        { destination with subscribedTo := subscribedTo } }
    | .announces statusEventId kind now queueTakes =>
      some (s.announces statusEventId kind now queueTakes)
    | .tests destinationId nonce now queueTakes => some (s.tests destinationId nonce now queueTakes)
    | .fetches jobId => s.fetches jobId
    | .readsDelivery jobId => s.readsDelivery jobId
    | .readsDestination jobId => s.readsDestination jobId
    | .readsNotification jobId => s.readsNotification jobId
    | .sends jobId outcome => s.sendsOut jobId outcome
    | .settles jobId now queueTakes => s.settles jobId now queueTakes
    | .throws jobId => s.throwsIn jobId
    | .retries deliveryId queueTakes => some (s.retries deliveryId queueTakes)
    | .dismisses deliveryId now => some { s with rows := s.rows.dismissDelivery deliveryId now }
    | .setsEnabled destinationId enabled now => some (s.setsEnabled destinationId enabled now)
    | .removes destinationId => some { s with rows := s.rows.deleteDestination destinationId }
    | .cleansUp createdBefore settledBefore =>
      some { s with rows := s.rows.deleteSettledBefore createdBefore settledBefore }

namespace DeliverySystem

/-- The job is one of this delivery, and waits or runs. -/
def IsJobOf (s : DeliverySystem) (jobId deliveryId : Nat) : Prop :=
  ∃ job, s.jobs jobId = some job ∧ job.deliveryId = deliveryId

/-- The job is attempting this delivery. -/
def Attempts (s : DeliverySystem) (jobId deliveryId : Nat) : Prop :=
  ∃ job, s.jobs jobId = some job ∧ job.deliveryId = deliveryId ∧ job.stage.attempting = true

/-- The delivery's row is queued. -/
def Queued (s : DeliverySystem) (deliveryId : Nat) : Prop :=
  ∃ row, s.rows.deliveries deliveryId = some row ∧ row.isQueued = true

/-- Some job of the delivery waits or runs. -/
def hasJob (s : DeliverySystem) (deliveryId : Nat) : Bool :=
  (List.range s.rows.nextId).any fun jobId =>
    (s.jobs jobId).any fun job => job.deliveryId == deliveryId

/-- The row of the job's delivery is queued. -/
def jobQueued (s : DeliverySystem) (jobId : Nat) : Bool :=
  (s.jobs jobId).any fun job => (s.rows.deliveries job.deliveryId).any DeliveryRow.isQueued

/-- The settling transaction of the job asks the queue to take a job. -/
def asksQueue (s : DeliverySystem) (jobId : Nat) : Bool :=
  (s.jobs jobId).any fun job =>
    match job.stage with
    | .sent _ outcome => outcome != .delivered
    | _ => false

/-- **Every queued delivery has one job**, and no two jobs attempt one delivery. -/
structure OneJob (s : DeliverySystem) : Prop where
  queued : ∀ deliveryId, s.Queued deliveryId → ∃! jobId, s.IsJobOf jobId deliveryId
  attempting : ∀ deliveryId jobId jobId', s.Attempts jobId deliveryId →
    s.Attempts jobId' deliveryId → jobId = jobId'

end DeliverySystem

end OpenMcc

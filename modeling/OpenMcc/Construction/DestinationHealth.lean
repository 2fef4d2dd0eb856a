import OpenMcc.Construction.Delivery

/-!
# What a destination shows of its deliveries (`notification.repository.ts`, `delivery.job.ts`)

Each attempt that sent marks its destination in the transaction that settles it, with the time at
which the job had its answer.  Jobs run beside each other, so the transactions may come in another
order than those times.
-/

namespace OpenMcc

/-- The later of the last success and the last failure of a destination. -/
inductive ShownOutcome
  | succeeded (succeededAt : Int)
  | failed (failedAt : Int) (reason : Option Text)
  deriving DecidableEq, Repr

/-- An attempt at a destination that has sent: when its answer was there, and what it was. -/
structure SentAttempt where
  settledAt : Int
  outcome : DeliveryOutcome
  deriving DecidableEq, Repr

/-- The outcome that an attempt has to show. -/
def SentAttempt.shown (attempt : SentAttempt) : ShownOutcome :=
  match attempt.outcome with
  | .delivered => .succeeded attempt.settledAt
  | outcome => .failed attempt.settledAt outcome.lastError

/-- The columns of a destination that `markDestinationOutcome` writes. -/
structure DestinationHealth where
  lastSucceededAt : Option Int
  lastFailedAt : Option Int
  lastFailureReason : Option Text
  deriving DecidableEq, Repr

/-- The health of a destination's row. -/
def DestinationRow.health (row : DestinationRow) : DestinationHealth where
  lastSucceededAt := row.lastSucceededAt
  lastFailedAt := row.lastFailedAt
  lastFailureReason := row.lastFailureReason

namespace DestinationHealth

/-- The outcome a destination shows, if it has any. -/
def shown (health : DestinationHealth) : Option ShownOutcome :=
  match health.lastSucceededAt, health.lastFailedAt with
  | none, none => none
  | some succeededAt, none => some (.succeeded succeededAt)
  | none, some failedAt => some (.failed failedAt health.lastFailureReason)
  | some succeededAt, some failedAt =>
    if failedAt ≤ succeededAt then some (.succeeded succeededAt)
    else some (.failed failedAt health.lastFailureReason)

/-- The outcome as the list of destinations words it, by the reason alone. -/
def listed (health : DestinationHealth) : Option ShownOutcome :=
  match health.lastFailureReason with
  | none => health.lastSucceededAt.map .succeeded
  | some reason => health.lastFailedAt.map fun failedAt => .failed failedAt (some reason)

/-- `markDestinationOutcome`, on the columns it writes. -/
def mark (health : DestinationHealth) (attempt : SentAttempt) : DestinationHealth :=
  if (NotificationRows.laterOf health.lastSucceededAt health.lastFailedAt).all
      (· < attempt.settledAt) then
    if attempt.outcome = .delivered then
      { health with lastSucceededAt := some attempt.settledAt, lastFailureReason := none }
    else
      { health with
        lastFailedAt := some attempt.settledAt, lastFailureReason := attempt.outcome.lastError }
  else health

/-- A destination that nothing was sent to. -/
def unmarked : DestinationHealth where
  lastSucceededAt := none
  lastFailedAt := none
  lastFailureReason := none

end DestinationHealth

namespace DeliverySystem

/-- The attempt at a destination whose outcome an event commits. -/
def commits (destinationId : Nat) (s : DeliverySystem) : DeliveryEvent → List SentAttempt
  | .settles jobId now queueTakes =>
    match s.jobs jobId with
    | none => []
    | some job =>
      match job.stage with
      | .sent sentTo outcome =>
        if sentTo = destinationId ∧ (s.rows.destinations destinationId).isSome ∧
            ((s.ends jobId).settleSent job sentTo outcome now queueTakes).isSome then
          [{ settledAt := now, outcome := outcome }]
        else []
      | _ => []
  | _ => []

/-- The attempts at a destination whose outcomes a run has committed, in that order. -/
def committed (destinationId : Nat) (s : DeliverySystem) (es : List DeliveryEvent) :
    List SentAttempt :=
  deliverySystem.log (commits destinationId) s es

end DeliverySystem

end OpenMcc

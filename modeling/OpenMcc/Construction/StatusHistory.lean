import OpenMcc.Construction.StatusRecorder

/-!
# The recorded history of one bot's connection

The intervals and the condition that the recorder keeps of one bot, over any order of hand-overs
and checks.  A check may run for any incident at any time: late, twice, or when its incident is
closed.  A transaction that throws is rolled back.
-/

namespace OpenMcc

/-- A transaction on the status of one bot, with what the queue answers in it. -/
inductive HistoryEvent
  /-- `recordInstanceConnection`. -/
  | records (answers : QueueAnswers) (name : Text) (now : Int) (changes : List ConnectionChange)
  /-- `escalateInstance`. -/
  | escalates (answers : QueueAnswers) (name : Text) (now : Int) (incidentId : Nat)
  deriving DecidableEq, Repr

/-- The state that a transaction leaves. -/
def RecorderState.commits (s : RecorderState) : Except Text RecorderState → RecorderState
  | .ok t => t
  | .error _ => s

/-- A bot of which nothing is recorded. -/
def unrecorded : RecorderState where
  rows := { condition := none, events := [], intervals := [] }
  announced := []
  jobs := []
  nextIncidentId := 0
  deleted := false

/-- The recorder of one bot under any order of its transactions. -/
def statusHistory : TransitionSystem RecorderState HistoryEvent where
  init s := s = unrecorded
  step s
    | .records answers name now changes =>
      some (s.commits (s.recordInstanceConnection answers name now changes))
    | .escalates answers name now incidentId =>
      some (s.commits ((s.escalateInstance answers name now incidentId).map Prod.snd))

/-! ## What is asked of the history -/

/-- The interval ends where the next one starts, and not before it started itself. -/
def StatusInterval.Adjoins (first next : StatusInterval) : Prop :=
  first.endedAt = some next.startedAt ∧ first.startedAt ≤ next.startedAt

namespace StatusRows

/-- The intervals, in the order in which they were opened, cover time without gap or overlap, and
one is open once a condition is recorded. -/
structure IntervalsTile (rows : StatusRows) : Prop where
  disjoint : rows.intervals.Pairwise fun first later =>
    ∃ endedAt, first.endedAt = some endedAt ∧ endedAt ≤ later.startedAt
  ordered : ∀ interval ∈ rows.intervals, ∀ endedAt, interval.endedAt = some endedAt →
    interval.startedAt ≤ endedAt
  adjoining : rows.intervals.IsChain fun first next => first.endedAt = some next.startedAt
  oneOpen : rows.condition.isSome →
    (rows.intervals.filter fun interval => interval.endedAt.isNone).length = 1

/-- The condition and the interval that is open tell the same state, and there is one if there is
the other. -/
def ConditionMatches (rows : StatusRows) : Prop :=
  (rows.intervals.filter fun interval => interval.endedAt.isNone).map StatusInterval.state =
    (rows.condition.map StatusCondition.state).toList

end StatusRows

namespace RecorderState

/-- `escalateInstance` would claim the escalation: the bot is interrupted under the incident, and
the grace period is over. -/
def wouldClaim (s : RecorderState) (now : Int) (incidentId : Nat) : Bool :=
  s.rows.condition.any fun condition =>
    condition.activeIncidentId == some incidentId && condition.state == .interrupted &&
      condition.failureStartedAt.any fun since =>
        !decide (now - since < instanceInterruptedToDownMs)

/-- The escalation of the incident is recorded. -/
def escalated (s : RecorderState) (incidentId : Nat) : Bool :=
  s.rows.events.any fun row => row.sourceKey == .escalate incidentId

end RecorderState

/-- An escalation that takes effect is not made before the interval that it ends has started. -/
def escalatesInOrder (s : RecorderState) : HistoryEvent → Bool
  | .records .. => true
  | .escalates answers _ now incidentId =>
    !(s.wouldClaim now incidentId && !s.escalated incidentId && answers.refusedDelivery.isNone) ||
      s.rows.intervals.all fun interval => interval.endedAt.isSome || interval.startedAt ≤ now

/-- An escalation is not claimed under an incident whose escalation is recorded. -/
def escalatesOnce (s : RecorderState) : HistoryEvent → Bool
  | .records .. => true
  | .escalates _ _ now incidentId => !(s.wouldClaim now incidentId && s.escalated incidentId)

/-- An `escalateInstance` that answers `false` has changed nothing. -/
def RefusesQuietly (s : RecorderState) : HistoryEvent → Prop
  | .records .. => True
  | .escalates answers name now incidentId =>
    ∀ t, s.escalateInstance answers name now incidentId = .ok (false, t) → t = s

end OpenMcc

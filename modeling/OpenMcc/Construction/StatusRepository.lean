import OpenMcc.Construction.Connection

/-!
# The recorded status of one bot (`status.repository.ts`)

The rows kept about one bot's connection: its condition, the events and the intervals.  An id is
the number of its kind that was given out before it, so a fresh one is one never given out.

An event's source key is unique in the store and a second event with the key of one already
recorded is not stored.  The keys are built from the bot and a time and kind, or from an incident;
their three shapes are kept apart here as constructors.
-/

namespace OpenMcc

/-- The keys an event of a bot is recorded under. -/
inductive SourceKey
  /-- `${instance.id}:${at}:${event}`. -/
  | journal (time : Int) (event : StatusEventKind)
  /-- `escalationKeyFor`. -/
  | escalate (incidentId : Nat)
  /-- `flap:${instance.id}:${at}`. -/
  | flap (time : Int)
  deriving DecidableEq, Repr

/-- `StatusEventInsert`, as far as a bot's connection fills it. -/
structure StatusEventInsert where
  subjectLabel : Text
  kind : StatusEventKind
  occurredAt : Int
  observedAt : Int
  lastCorroboratedAt : Int
  incidentId : Option Nat
  sourceKey : SourceKey
  deriving DecidableEq, Repr

/-- `StatusEventRow`. -/
structure StatusEventRow extends StatusEventInsert where
  id : Nat
  deriving DecidableEq, Repr

/-- `StatusConditionRow`. -/
structure StatusCondition where
  state : ConnectionState
  startedAt : Int
  lastObservedAt : Int
  failureStartedAt : Option Int
  activeIncidentId : Option Nat
  lastFlappedAt : Option Int
  deriving DecidableEq, Repr

/-- `StatusIntervalRow`. -/
structure StatusInterval where
  state : ConnectionState
  startedAt : Int
  endedAt : Option Int
  startEventId : Option Nat
  endEventId : Option Nat
  deriving DecidableEq, Repr

/-- `ConditionPatch`. -/
structure ConditionPatch where
  state : ConnectionState
  observedAt : Int
  failureStartedAt : Option Int
  activeIncidentId : Option Nat
  deriving DecidableEq, Repr

/-- The rows of one bot. -/
structure StatusRows where
  condition : Option StatusCondition
  events : List StatusEventRow
  intervals : List StatusInterval
  deriving DecidableEq, Repr

namespace StatusRows

/-- `recordEvent`: the row it stores, unless the key is taken. -/
def recordEvent (rows : StatusRows) (insert : StatusEventInsert) :
    Option StatusEventRow × StatusRows :=
  if rows.events.any fun row => row.sourceKey == insert.sourceKey then (none, rows)
  else
    let row : StatusEventRow := { insert with id := rows.events.length }
    (some row, { rows with events := rows.events ++ [row] })

/-- `upsertCondition`.  A condition that exists keeps the time of its last flapping. -/
def upsertCondition (rows : StatusRows) (patch : ConditionPatch) (startedAt : Int) : StatusRows :=
  { rows with condition := some {
      state := patch.state
      startedAt := startedAt
      lastObservedAt := patch.observedAt
      failureStartedAt := patch.failureStartedAt
      activeIncidentId := patch.activeIncidentId
      lastFlappedAt := rows.condition.bind StatusCondition.lastFlappedAt } }

/-- `openInterval`. -/
def openInterval (rows : StatusRows) (state : ConnectionState) (startedAt : Int)
    (startEventId : Option Nat) : StatusRows :=
  { rows with intervals := rows.intervals ++ [{
      state := state
      startedAt := startedAt
      endedAt := none
      startEventId := startEventId
      endEventId := none }] }

/-- An open interval as it is closed: never before it started. -/
def closeInterval (endedAt : Int) (endEventId : Option Nat) (interval : StatusInterval) :
    StatusInterval :=
  { interval with endedAt := some (max endedAt interval.startedAt), endEventId := endEventId }

/-- `closeOpenInterval`: the interval it closed, if one was open. -/
def closeOpenInterval (rows : StatusRows) (endedAt : Int) (endEventId : Option Nat) :
    Option StatusInterval × StatusRows :=
  let isOpen := fun interval : StatusInterval => interval.endedAt.isNone
  ((rows.intervals.find? isOpen).map (closeInterval endedAt endEventId),
    { rows with intervals := rows.intervals.map fun interval =>
        if isOpen interval then closeInterval endedAt endEventId interval else interval })

/-- `recentLossesAt`, in the order recorded: the losses are only counted. -/
def recentLossesAt (rows : StatusRows) (since until' : Int) (kinds : List StatusEventKind) :
    List Int :=
  (rows.events.filter fun row =>
    kinds.contains row.kind && (since ≤ row.occurredAt && row.occurredAt ≤ until')).map
      fun row => row.occurredAt

/-- `claimEscalation`: one update over the condition as it is. -/
def claimEscalation (rows : StatusRows) (incidentId : Nat) (state : ConnectionState)
    (observedAt : Int) : Option StatusRows :=
  match rows.condition with
  | none => none
  | some condition =>
    if condition.activeIncidentId = some incidentId ∧ condition.state = .interrupted then
      some { rows with condition := some { condition with
        state := state, lastObservedAt := observedAt, startedAt := observedAt } }
    else none

/-- `claimFlapping`. -/
def claimFlapping (rows : StatusRows) (now cooldownMs : Int) : Option StatusRows :=
  match rows.condition with
  | none => none
  | some condition =>
    match condition.lastFlappedAt with
    | none => some { rows with condition := some { condition with lastFlappedAt := some now } }
    | some lastFlappedAt =>
      if lastFlappedAt ≤ now - cooldownMs then
        some { rows with condition := some { condition with lastFlappedAt := some now } }
      else none

end StatusRows

end OpenMcc

import Mathlib.Logic.Function.Basic
import OpenMcc.Construction.StatusRecorder

/-!
# Recorders of one bot side by side (`status.controller.ts`, `status.repository.ts`)

Any number of transactions of `recordInstanceConnection` run over one bot's rows, statement by
statement.  A transaction sees the rows that are committed and its own; what it has written to the
condition is locked against the others until it ends, and so is the key of an event it has stored.
A statement that meets such a lock waits, which is a step that cannot be taken yet, and then goes
by the row as it is.

The changes are those of any signals from any current state, with the times the host wrote.  What
the recorder does besides, to the intervals, to the queue and to the destinations, is left out: it
can only hold a transaction up, or make it fail.
-/

namespace OpenMcc

/-- What a recorder does next. -/
inductive FlappingStage
  /-- The event of the next change, or the commit. -/
  | next
  /-- The losses before this change are to be counted. -/
  | recorded (change : ConnectionChange)
  /-- They come often enough for a flapping. -/
  | claiming (change : ConnectionChange)
  | flapping (change : ConnectionChange)
  | upserting (change : ConnectionChange)
  deriving DecidableEq, Repr

/-- A transaction of `recordInstanceConnection`. -/
structure FlappingRecorder where
  name : Text
  /-- The bot had a condition when the transaction began. -/
  opening : Bool
  incidentId : Option Nat
  /-- The condition as this transaction has written it. -/
  condition : Option StatusCondition
  /-- The events this transaction has stored. -/
  events : List StatusEventRow
  changes : List ConnectionChange
  stage : FlappingStage
  deriving DecidableEq, Repr

/-- The committed rows of a bot, the locks on them and the transactions that have not ended. -/
structure FlappingState where
  rows : StatusRows
  conditionLock : Option Nat
  keyLock : SourceKey → Option Nat
  recorders : Nat → Option FlappingRecorder

/-- What can happen next. -/
inductive FlappingEvent
  | begins (recorder : Nat) (name : Text) (state : ConnectionState)
      (signals : List ConnectionSignal)
  | records (recorder id fresh : Nat) (now : Int)
  | counts (recorder : Nat)
  | claims (recorder : Nat)
  | flaps (recorder id : Nat) (now : Int)
  | upserts (recorder : Nat) (now : Int)
  | commits (recorder : Nat)
  | aborts (recorder : Nat)
  deriving DecidableEq, Repr

namespace FlappingState

variable (s : FlappingState)

/-- The rows as a transaction sees them. -/
def view (recorder : FlappingRecorder) : StatusRows :=
  { s.rows with
    condition := recorder.condition <|> s.rows.condition
    events := s.rows.events ++ recorder.events }

/-- The transaction goes on. -/
def moveTo (r : Nat) (recorder : FlappingRecorder) : FlappingState :=
  { s with recorders := Function.update s.recorders r (some recorder) }

/-- The condition that the transaction found. -/
def begins (toLowerCase : Text → Text) (r : Nat) (name : Text) (state : ConnectionState)
    (signals : List ConnectionSignal) : Option FlappingState :=
  if (s.recorders r).isSome then none
  else match changesFromSignals toLowerCase state signals with
    | [] => none
    | changes => some (s.moveTo r {
        name := name
        opening := s.rows.condition.isSome
        incidentId := s.rows.condition.bind StatusCondition.activeIncidentId
        condition := none
        events := []
        changes := changes
        stage := .next })

/-- `recordEvent`, which waits for another transaction that has stored the key. -/
def recordEvent (r : Nat) (recorder : FlappingRecorder) (row : StatusEventRow) :
    Option FlappingState :=
  if (s.keyLock row.sourceKey).any fun holder => holder != r then none
  else if (s.view recorder).events.any fun stored => stored.sourceKey == row.sourceKey then
    some (s.moveTo r recorder)
  else some { s.moveTo r { recorder with events := recorder.events ++ [row] } with
    keyLock := Function.update s.keyLock row.sourceKey (some r) }

/-- The event of the next change, if it has one. -/
def records (r id fresh : Nat) (now : Int) : Option FlappingState :=
  match s.recorders r with
  | some recorder =>
    match recorder.stage, recorder.changes with
    | .next, change :: changes =>
      let decision := nextIncident recorder.incidentId change.state change.event fresh
      let after := { recorder with
        incidentId := decision.incidentId
        changes := changes
        stage := .recorded change }
      match change.event with
      | none => some (s.moveTo r after)
      | some event => s.recordEvent r after {
          id := id
          subjectLabel := recorder.name
          kind := event
          occurredAt := change.time
          observedAt := now
          lastCorroboratedAt := now
          incidentId := decision.incidentOfEvent
          sourceKey := .journal change.time event }
    | _, _ => none
  | none => none

/-- `recentLossesAt` and `worthClaimingFlapping`. -/
def counts (r : Nat) : Option FlappingState :=
  match s.recorders r with
  | some recorder =>
    match recorder.stage with
    | .recorded change =>
      let losses := (s.view recorder).recentLossesAt (change.time - flappingWindowMs) change.time
        flappingLossEvents
      if countsAsLoss change.event && recorder.opening && isFlapping losses change.time then
        some (s.moveTo r { recorder with stage := .claiming change })
      else some (s.moveTo r { recorder with stage := .upserting change })
    | _ => none
  | none => none

/-- The condition is not locked by another transaction. -/
def conditionFree (r : Nat) : Bool := s.conditionLock.all fun holder => holder == r

/-- `claimFlapping`, which waits for another transaction that has written the condition. -/
def claims (r : Nat) : Option FlappingState :=
  match s.recorders r with
  | some recorder =>
    match recorder.stage with
    | .claiming change =>
      if !s.conditionFree r then none
      else match (s.view recorder).claimFlapping change.time flappingWindowMs with
        | none => some (s.moveTo r { recorder with stage := .upserting change })
        | some claimed => some { s.moveTo r { recorder with
            condition := claimed.condition, stage := .flapping change } with
            conditionLock := some r }
    | _ => none
  | none => none

/-- The flapping is recorded. -/
def flaps (r id : Nat) (now : Int) : Option FlappingState :=
  match s.recorders r with
  | some recorder =>
    match recorder.stage with
    | .flapping change => s.recordEvent r { recorder with stage := .upserting change } {
        id := id
        subjectLabel := recorder.name
        kind := .instanceFlapping
        occurredAt := change.time
        observedAt := now
        lastCorroboratedAt := now
        incidentId := recorder.incidentId
        sourceKey := .flap change.time }
    | _ => none
  | none => none

/-- `upsertCondition`, which waits as `claimFlapping` does. -/
def upserts (r : Nat) (now : Int) : Option FlappingState :=
  match s.recorders r with
  | some recorder =>
    match recorder.stage with
    | .upserting change =>
      if !s.conditionFree r then none
      else
        let patch : ConditionPatch := {
          state := change.state
          observedAt := now
          failureStartedAt := if change.state = .joined then none else some change.time
          activeIncidentId := recorder.incidentId }
        some { s.moveTo r { recorder with
          condition := ((s.view recorder).upsertCondition patch change.time).condition
          stage := .next } with
          conditionLock := some r }
    | _ => none
  | none => none

/-- The transaction ends, and gives up its locks. -/
def ends (r : Nat) (rows : StatusRows) : FlappingState where
  rows := rows
  conditionLock := if s.conditionLock = some r then none else s.conditionLock
  keyLock := fun key => if s.keyLock key = some r then none else s.keyLock key
  recorders := Function.update s.recorders r none

def commits (r : Nat) : Option FlappingState :=
  match s.recorders r with
  | some recorder =>
    match recorder.stage, recorder.changes with
    | .next, [] => some (s.ends r (s.view recorder))
    | _, _ => none
  | none => none

/-- A statement fails, the queue does not take a job, or the connection is lost. -/
def aborts (r : Nat) : Option FlappingState :=
  match s.recorders r with
  | some _ => some (s.ends r s.rows)
  | none => none

end FlappingState

/-- Any number of recorders over a bot about which nothing is known at first. -/
def flappingRecorders (toLowerCase : Text → Text) :
    TransitionSystem FlappingState FlappingEvent where
  init s := s.rows = { condition := none, events := [], intervals := [] } ∧
    s.conditionLock = none ∧ (∀ key, s.keyLock key = none) ∧ ∀ r, s.recorders r = none
  step s
    | .begins r name state signals => s.begins toLowerCase r name state signals
    | .records r id fresh now => s.records r id fresh now
    | .counts r => s.counts r
    | .claims r => s.claims r
    | .flaps r id now => s.flaps r id now
    | .upserts r now => s.upserts r now
    | .commits r => s.commits r
    | .aborts r => s.aborts r

/-! ## What is asked of the flappings -/

/-- The times of the flappings among events. -/
def flappingTimes (events : List StatusEventRow) : List Int :=
  (events.filter fun row => row.kind == .instanceFlapping).map fun row => row.occurredAt

/-- The losses in the window that ends at a time. -/
def lossesUntil (events : List StatusEventRow) (time : Int) : List StatusEventRow :=
  events.filter fun row => flappingLossEvents.contains row.kind &&
    (time - flappingWindowMs ≤ row.occurredAt && row.occurredAt ≤ time)

/-- **Flappings are rare and founded**: each is at least `FLAPPING_WINDOW_MS` later than those
recorded before it, and at least `FLAPPING_THRESHOLD` losses are recorded in the window that ends
at its time. -/
structure FlappingsFounded (events : List StatusEventRow) : Prop where
  apart : (flappingTimes events).Pairwise fun earlier later => earlier + flappingWindowMs ≤ later
  losses : ∀ time ∈ flappingTimes events, flappingThreshold ≤ (lossesUntil events time).length

end OpenMcc

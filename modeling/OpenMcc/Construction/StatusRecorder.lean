import OpenMcc.Construction.StatusRepository
import OpenMcc.Framework.Transition

/-!
# Recording a bot's connection and escalating it (`status.controller.ts`, `incident.ts`)

The observer hands the recorder the changes it found in a bot's journal, with the times the host
wrote.  The recorder keeps the condition, the events and the intervals, and where a change opens
an incident it schedules a check of it.  The check is a job of the worker: it escalates a bot that
is still interrupted under that incident.

The system follows one bot.  Each transaction is one step and reads the manager's clock once; one
that throws is rolled back.  The changes handed over are arbitrary, so nothing is assumed of the
host's clock or of what the observer knew when it read the journal.
-/

namespace OpenMcc

/-! ## Incidents -/

/-- `IncidentDecision`. -/
structure IncidentDecision where
  incidentId : Option Nat
  opened : Bool
  closing : Option Nat
  deriving DecidableEq, Repr

/-- `CLOSES`. -/
def closes : List StatusEventKind := [.instanceJoined, .instanceReconnected]

/-- `nextIncident`, with the id that `fresh` would give. -/
def nextIncident (current : Option Nat) (state : ConnectionState) (event : Option StatusEventKind)
    (fresh : Nat) : IncidentDecision :=
  if event.any closes.contains then
    { incidentId := none, opened := false, closing := current }
  else if state = .joined then
    { incidentId := none, opened := false, closing := current }
  else if state = .interrupted then
    match current with
    | some incidentId => { incidentId := some incidentId, opened := false, closing := none }
    | none => { incidentId := some fresh, opened := true, closing := none }
  else { incidentId := current, opened := false, closing := none }

/-- `incidentOfEvent`. -/
def IncidentDecision.incidentOfEvent (decision : IncidentDecision) : Option Nat :=
  decision.incidentId <|> decision.closing

/-- `FLAPPING_LOSS_EVENTS`. -/
def flappingLossEvents : List StatusEventKind := [.instanceConnectionLost, .instanceKicked]

/-- `countsAsLoss`. -/
def countsAsLoss (event : Option StatusEventKind) : Bool := event.any flappingLossEvents.contains

/-- `FLAPPING_WINDOW_MS`. -/
def flappingWindowMs : Int := 30 * 60 * 1000

/-- `FLAPPING_THRESHOLD`. -/
def flappingThreshold : Nat := 5

/-- `isFlapping` at its defaults, which is `worthClaimingFlapping`. -/
def isFlapping (losses : List Int) (now : Int) : Bool :=
  decide (flappingThreshold ≤ (losses.filter fun time => now - time ≤ flappingWindowMs).length)

/-! ## The recorder -/

/-- What `announce` is called with. -/
structure EventFact where
  statusEventId : Nat
  kind : StatusEventKind
  subjectName : Text
  incidentId : Option Nat
  deriving DecidableEq, Repr

/-- A check of an incident that the queue holds, and the time before which it does not run. -/
structure EscalationJob where
  incidentId : Nat
  startAfter : Int
  deriving DecidableEq, Repr

/-- What the queue answers in one transaction: the destination whose delivery it does not take,
if an announcement meets one, and whether it takes the check of an incident. -/
structure QueueAnswers where
  refusedDelivery : Option Text
  takesCheck : Bool
  deriving DecidableEq, Repr

/-- The answers of a queue that takes every job. -/
def QueueAnswers.taken : QueueAnswers := { refusedDelivery := none, takesCheck := true }

/-- The rows of the bot, the facts announced, the checks in the queue and the next fresh incident
id. -/
structure RecorderState where
  rows : StatusRows
  announced : List EventFact
  jobs : List EscalationJob
  nextIncidentId : Nat
  /-- The bot is deleted: its events stay, and nothing more is recorded about it. -/
  deleted : Bool
  deriving DecidableEq, Repr

namespace RecorderState

/-- `announce`, which throws where a delivery could not be queued. -/
def announce (s : RecorderState) (answers : QueueAnswers) (fact : EventFact) :
    Except Text RecorderState :=
  match answers.refusedDelivery with
  | some destination =>
    .error ("the delivery to ".toList ++ destination ++ " could not be queued".toList)
  | none => .ok { s with announced := s.announced ++ [fact] }

/-- An event is recorded and, where it was stored, announced. -/
def recordAnnounced (s : RecorderState) (answers : QueueAnswers) (insert : StatusEventInsert)
    (announcedUnder : Option Nat) : Except Text (Option StatusEventRow × RecorderState) :=
  match s.rows.recordEvent insert with
  | (none, _) => .ok (none, s)
  | (some row, rows) => do
    let t ← { s with rows := rows }.announce answers {
      statusEventId := row.id
      kind := row.kind
      subjectName := insert.subjectLabel
      incidentId := announcedUnder }
    return (some row, t)

/-- The event of a change, if it has one. -/
def recordChangeEvent (s : RecorderState) (answers : QueueAnswers) (name : Text) (now : Int)
    (change : ConnectionChange) (eventIncidentId : Option Nat) :
    Except Text (Option StatusEventRow × RecorderState) :=
  match change.event with
  | none => .ok (none, s)
  | some event =>
    s.recordAnnounced answers {
      subjectLabel := name
      kind := event
      occurredAt := change.time
      observedAt := now
      lastCorroboratedAt := now
      incidentId := eventIncidentId
      sourceKey := .journal change.time event } eventIncidentId

/-- The check of an incident that was opened, put off by whole seconds. -/
def scheduleCheck (s : RecorderState) (answers : QueueAnswers) (name : Text) (now : Int)
    (decision : IncidentDecision) : Except Text RecorderState :=
  match decision.opened, decision.incidentId with
  | true, some incidentId =>
    if answers.takesCheck then
      .ok { s with jobs := s.jobs ++ [{
        incidentId := incidentId
        startAfter := now + (instanceInterruptedToDownMs + 999) / 1000 * 1000 }] }
    else .error ("the check on ".toList ++ name ++ " could not be scheduled".toList)
  | _, _ => .ok s

/-- The flapping of a bot whose losses come too often; `opening` says whether the bot had a
condition when the transaction began. -/
def recordFlapping (s : RecorderState) (answers : QueueAnswers) (name : Text) (now : Int)
    (opening : Bool) (change : ConnectionChange) (incidentId : Option Nat) :
    Except Text RecorderState :=
  let losses :=
    s.rows.recentLossesAt (change.time - flappingWindowMs) change.time flappingLossEvents
  if countsAsLoss change.event && opening && isFlapping losses change.time then
    match s.rows.claimFlapping change.time flappingWindowMs with
    | none => .ok s
    | some rows =>
      ({ s with rows := rows }.recordAnnounced answers {
        subjectLabel := name
        kind := .instanceFlapping
        occurredAt := change.time
        observedAt := now
        lastCorroboratedAt := now
        incidentId := incidentId
        sourceKey := .flap change.time } none).map Prod.snd
  else .ok s

/-- The interval that was open ends with a change, and the next one begins no earlier. -/
def moveInterval (s : RecorderState) (change : ConnectionChange) (eventId : Option Nat) :
    RecorderState :=
  let (closed, rows) := s.rows.closeOpenInterval change.time eventId
  let startAt :=
    match closed.bind StatusInterval.endedAt with
    | some endedAt => if change.time < endedAt then endedAt else change.time
    | none => change.time
  { s with rows := rows.openInterval change.state startAt eventId }

/-- The body of the loop of `recordInstanceConnection`, from the incident the last change left. -/
def recordChange (answers : QueueAnswers) (name : Text) (now : Int) (opening : Bool)
    (incidentId : Option Nat) (s : RecorderState) (change : ConnectionChange) :
    Except Text (Option Nat × RecorderState) := do
  let decision := nextIncident incidentId change.state change.event s.nextIncidentId
  let s₁ := if decision.opened then { s with nextIncidentId := s.nextIncidentId + 1 } else s
  let (event, s₂) ← s₁.recordChangeEvent answers name now change decision.incidentOfEvent
  let s₃ ← s₂.scheduleCheck answers name now decision
  let s₄ ← s₃.recordFlapping answers name now opening change decision.incidentId
  let s₅ := s₄.moveInterval change (event.map StatusEventRow.id)
  let patch : ConditionPatch := {
    state := change.state
    observedAt := now
    failureStartedAt := if change.state = .joined then none else some change.time
    activeIncidentId := decision.incidentId }
  return (decision.incidentId, { s₅ with rows := s₅.rows.upsertCondition patch change.time })

/-- The loop of `recordInstanceConnection`. -/
def recordChanges (answers : QueueAnswers) (name : Text) (now : Int) (opening : Bool) :
    Option Nat → RecorderState → List ConnectionChange → Except Text RecorderState
  | _, s, [] => .ok s
  | incidentId, s, change :: changes =>
    (s.recordChange answers name now opening incidentId change).bind fun (incidentId, s) =>
      recordChanges answers name now opening incidentId s changes

/-- `recordInstanceConnection`. -/
def recordInstanceConnection (s : RecorderState) (answers : QueueAnswers) (name : Text)
    (now : Int) (changes : List ConnectionChange) : Except Text RecorderState :=
  s.recordChanges answers name now s.rows.condition.isSome
    (s.rows.condition.bind StatusCondition.activeIncidentId) changes

/-- `escalateInstance`, with what it answers. -/
def escalateInstance (s : RecorderState) (answers : QueueAnswers) (name : Text) (now : Int)
    (incidentId : Nat) : Except Text (Bool × RecorderState) :=
  match s.rows.condition with
  | none => .ok (false, s)
  | some condition =>
    if condition.activeIncidentId ≠ some incidentId then .ok (false, s)
    else
      let current : ConnectionCurrent := {
        state := condition.state, since := condition.failureStartedAt, pid := none }
      match escalateIfStillDown current now instanceInterruptedToDownMs with
      | none => .ok (false, s)
      | some change =>
        match s.rows.claimEscalation incidentId change.state now with
        | none => .ok (false, s)
        | some rows => do
          let (event, t) ← { s with rows := rows }.recordAnnounced answers {
            subjectLabel := name
            kind := .instanceDisconnected
            occurredAt := change.time
            observedAt := now
            lastCorroboratedAt := now
            incidentId := some incidentId
            sourceKey := .escalate incidentId } (some incidentId)
          match event with
          | none => return (false, t)
          | some row =>
            let (_, closed) := t.rows.closeOpenInterval change.time (some row.id)
            return (true, { t with
              rows := closed.openInterval change.state change.time (some row.id) })

end RecorderState

/-! ## Runs -/

/-- What can happen next to one bot's status. -/
inductive RecorderEvent
  /-- The observer hands over changes, under the name it read the bot with. -/
  | records (name : Text) (now : Int) (changes : List ConnectionChange)
  | recordingThrows (answers : QueueAnswers) (name : Text) (now : Int)
      (changes : List ConnectionChange)
  /-- The worker runs a check to its end, and the job is finished whatever it answers. -/
  | escalates (job : EscalationJob) (name : Text) (now : Int)
  /-- A check throws; the queue may run the job again. -/
  | escalationThrows (job : EscalationJob) (answers : QueueAnswers) (name : Text) (now : Int)
      (again : Bool)
  | deletes
  deriving DecidableEq, Repr

namespace RecorderState

/-- The queue gives a check to the worker. -/
def due (s : RecorderState) (job : EscalationJob) (now : Int) : Bool :=
  s.jobs.contains job && job.startAfter ≤ now

/-- The transaction of a hand-over.  Nothing is recorded about a bot that is deleted. -/
def records (s : RecorderState) (name : Text) (now : Int) (changes : List ConnectionChange) :
    Option RecorderState :=
  if s.deleted && !changes.isEmpty then none
  else (s.recordInstanceConnection .taken name now changes).toOption

/-- A hand-over that throws leaves everything as it was. -/
def recordingThrows (s : RecorderState) (answers : QueueAnswers) (name : Text) (now : Int)
    (changes : List ConnectionChange) : Option RecorderState :=
  if s.deleted && !changes.isEmpty then some s
  else match s.recordInstanceConnection answers name now changes with
    | .ok _ => none
    | .error _ => some s

/-- The handler of the job: a bot that is not found is not escalated. -/
def escalates (s : RecorderState) (job : EscalationJob) (name : Text) (now : Int) :
    Option RecorderState :=
  if s.due job now then
    let finished := { s with jobs := s.jobs.erase job }
    if s.deleted then some finished
    else (finished.escalateInstance .taken name now job.incidentId).toOption.map Prod.snd
  else none

def escalationThrows (s : RecorderState) (job : EscalationJob) (answers : QueueAnswers)
    (name : Text) (now : Int) (again : Bool) : Option RecorderState :=
  if s.due job now && !s.deleted then
    match s.escalateInstance answers name now job.incidentId with
    | .ok _ => none
    | .error _ => some (if again then s else { s with jobs := s.jobs.erase job })
  else none

/-- The condition and the intervals go with the bot. -/
def deletes (s : RecorderState) : RecorderState :=
  { s with deleted := true, rows := { s.rows with condition := none, intervals := [] } }

end RecorderState

/-- The status recorder of one bot about which nothing is known yet. -/
def statusRecorder : TransitionSystem RecorderState RecorderEvent where
  init s := s = {
    rows := { condition := none, events := [], intervals := [] }
    announced := []
    jobs := []
    nextIncidentId := 0
    deleted := false }
  step s
    | .records name now changes => s.records name now changes
    | .recordingThrows answers name now changes => s.recordingThrows answers name now changes
    | .escalates job name now => s.escalates job name now
    | .escalationThrows job answers name now again => s.escalationThrows job answers name now again
    | .deletes => some s.deletes

/-- The changes a run has recorded. -/
def recordedChanges (es : List RecorderEvent) : List ConnectionChange :=
  es.flatMap fun
    | .records _ _ changes => changes
    | _ => []

namespace RecorderState

/-- The bot is interrupted, under this incident. -/
def InterruptedUnder (s : RecorderState) (incidentId : Nat) : Prop :=
  ∃ condition, s.rows.condition = some condition ∧ condition.state = .interrupted ∧
    condition.activeIncidentId = some incidentId

/-- **The incident is escalated** from `s` to `t`: the bot is down, and an
`instance.disconnected` event is recorded and announced. -/
def EscalatedTo (s t : RecorderState) (incidentId : Nat) : Prop :=
  (∃ condition, t.rows.condition = some condition ∧ condition.state = .down) ∧
    ∃ row fact, t.rows.events = s.rows.events ++ [row] ∧ row.kind = .instanceDisconnected ∧
      row.incidentId = some incidentId ∧ t.announced = s.announced ++ [fact] ∧
      fact.kind = .instanceDisconnected ∧ fact.statusEventId = row.id

end RecorderState

end OpenMcc

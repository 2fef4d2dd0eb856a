import OpenMcc.Construction.Due

/-!
# What makes a task run (`task.ts`)

A task runs on logins, on respawns, at daily times and at intervals.  Each of these yields claims,
and a claim's key names the one event it stands for, so that storing a run under its key is what
keeps it from running twice.

A key is kept here as the value its text is written from: `login:{identity}`,
`respawn:{identity}`, `time:{dateKey}:{minuteOfDay}` and `interval:{armed}`.
-/

namespace OpenMcc

/-- `TASK_SIGNAL_CATCH_UP_MS`. -/
def taskSignalCatchUpMs : Int := 10 * 60 * 1000

/-! ## Rows -/

/-- The columns of `instanceTask` that the triggers read. -/
structure InstanceTaskRow where
  timezone : Text
  onFirstLogin : Bool
  onLogin : Bool
  onRespawn : Bool
  intervalMinSeconds : Option Int
  intervalMaxSeconds : Option Int
  intervalNextRunAt : Option Int
  intervalObservedAt : Option Int
  createdAt : Int
  deriving DecidableEq, Repr

/-- `InstanceTaskStepRow`. -/
structure InstanceTaskStepRow where
  position : Int
  command : Text
  deriving DecidableEq, Repr

/-- `InstanceTaskTimeRow`. -/
structure InstanceTaskTimeRow where
  daysOfWeek : Text
  minuteOfDay : Int
  deriving DecidableEq, Repr

/-- The kinds of signal. -/
inductive SignalKind
  | login | respawn
  deriving DecidableEq, Repr

/-- What the identity of a signal is written from: the process and the instant of a login, the
client's own event id of a respawn. -/
inductive SignalIdentity
  | login (process : Text) (occurredAt : Int)
  | respawn (eventId : Int)
  deriving DecidableEq, Repr

/-- `InstanceSignalRow`. -/
structure InstanceSignalRow where
  kind : SignalKind
  identity : SignalIdentity
  process : Option Text
  firstForProcess : Bool
  occurredAt : Int
  observedAt : Int
  deriving DecidableEq, Repr

/-- `TaskDefinition`. -/
structure TaskDefinition where
  row : InstanceTaskRow
  steps : List InstanceTaskStepRow
  times : List InstanceTaskTimeRow
  deriving DecidableEq, Repr

/-- `orderedSteps`: steps of one position keep their order. -/
def orderedSteps (definition : TaskDefinition) : List InstanceTaskStepRow :=
  definition.steps.mergeSort fun left right => left.position ≤ right.position

/-! ## Claims -/

/-- `TaskTrigger`. -/
inductive TaskTrigger
  | firstLogin | login | respawn | time | interval
  deriving DecidableEq, Repr

/-- What the key of a claim is written from. -/
inductive ClaimKey
  | login (identity : SignalIdentity)
  | respawn (identity : SignalIdentity)
  | time (dateKey minuteOfDay : Int)
  | interval (armed : Int)
  deriving DecidableEq, Repr

/-- `TaskClaim`. -/
structure TaskClaim where
  trigger : TaskTrigger
  claimKey : ClaimKey
  deriving DecidableEq, Repr

/-! ## Signals -/

/-- `wantsJoinSignal`. -/
def wantsJoinSignal (row : InstanceTaskRow) : Bool := row.onFirstLogin || row.onLogin

/-- `wantsRespawnSignal`. -/
def wantsRespawnSignal (row : InstanceTaskRow) : Bool := row.onRespawn

/-- The newer of two signals; of two at one instant, the one that came first in the list. -/
def newerSignal (newest : Option InstanceSignalRow) (signal : InstanceSignalRow) :
    Option InstanceSignalRow :=
  match newest with
  | none => some signal
  | some found => if found.occurredAt < signal.occurredAt then some signal else some found

/-- `latestOf`. -/
def latestOf (signals : List InstanceSignalRow) (kind : SignalKind) : Option InstanceSignalRow :=
  (signals.filter fun signal => signal.kind == kind).foldl newerSignal none

/-- `signalClaims`, of the newest login. -/
def loginClaims (row : InstanceTaskRow) (signals : List InstanceSignalRow) : List TaskClaim :=
  match latestOf signals .login with
  | none => []
  | some login =>
    if row.createdAt < login.occurredAt then
      let asFirstLogin := row.onFirstLogin && login.firstForProcess
      if row.onLogin || asFirstLogin then
        [⟨if asFirstLogin then .firstLogin else .login, .login login.identity⟩]
      else []
    else []

/-- `signalClaims`, of the newest respawn. -/
def respawnClaims (row : InstanceTaskRow) (signals : List InstanceSignalRow) : List TaskClaim :=
  if row.onRespawn then
    match latestOf signals .respawn with
    | none => []
    | some respawn =>
      if row.createdAt < respawn.occurredAt then [⟨.respawn, .respawn respawn.identity⟩] else []
  else []

/-- `signalClaims`. -/
def signalClaims (row : InstanceTaskRow) (signals : List InstanceSignalRow) : List TaskClaim :=
  loginClaims row signals ++ respawnClaims row signals

/-! ## Daily times -/

/-- The candidate that a time of a task is. -/
def timeCandidate (timezone : Text) (time : InstanceTaskTimeRow) : DueCandidate where
  daysOfWeek := parseDaysOfWeek time.daysOfWeek
  minuteOfDay := time.minuteOfDay
  timezone := timezone
  enabled := true
  lastRunAt := none

/-- The loop's body in `timeClaims`. -/
def timeClaim (intl : Intl) (timezone : Text) (instant : Int) (time : InstanceTaskTimeRow) :
    Except UnknownTimezoneError (Option TaskClaim) := do
  if !(← isDue intl (timeCandidate timezone time) instant) then return none
  let now ← zonedMoment intl instant timezone
  return some ⟨.time, .time now.dateKey time.minuteOfDay⟩

/-- `timeClaims`. -/
def timeClaims (intl : Intl) (definition : TaskDefinition) (instant : Int) :
    Except UnknownTimezoneError (List TaskClaim) := do
  let claims ← definition.times.mapM (timeClaim intl definition.row.timezone instant)
  return claims.filterMap id

/-! ## Intervals -/

/-- `IntervalArm`. -/
structure IntervalArm where
  nextRunAt : Int
  observedAt : Int
  deriving DecidableEq, Repr

/-- `IntervalPlan`. -/
inductive IntervalPlan
  | unarmed
  | arm (arm : IntervalArm)
  | hold (arm : IntervalArm)
  | wait (arm : IntervalArm)
  | fire (claim : TaskClaim) (arm : IntervalArm)
  deriving DecidableEq, Repr

/-- `IntervalJitter`, in seconds. -/
abbrev IntervalJitter := Int → Int → Int

/-- `intervalPlan`. -/
def intervalPlan (row : InstanceTaskRow) (instant : Int) (running : Bool)
    (jitter : IntervalJitter) : IntervalPlan :=
  match row.intervalMinSeconds, row.intervalMaxSeconds with
  | some minSeconds, some maxSeconds =>
    let rearmed : IntervalArm := ⟨instant + jitter minSeconds maxSeconds * 1000, instant⟩
    match row.intervalNextRunAt, row.intervalObservedAt with
    | some armed, some observed =>
      if !running then .hold ⟨armed + max 0 (instant - observed), instant⟩
      else if instant < armed then .wait ⟨armed, instant⟩
      else .fire ⟨.interval, .interval armed⟩ rearmed
    | _, _ => .arm rearmed
  | _, _ => .unarmed

/-- `intervalClaimOf`. -/
def intervalClaimOf : IntervalPlan → Option TaskClaim
  | .unarmed => none
  | .arm _ => none
  | .hold _ => none
  | .wait _ => none
  | .fire claim _ => some claim

/-- `intervalArmOf`. -/
def intervalArmOf : IntervalPlan → Option IntervalArm
  | .unarmed => none
  | .arm arm => some arm
  | .hold arm => some arm
  | .wait arm => some arm
  | .fire _ arm => some arm

end OpenMcc

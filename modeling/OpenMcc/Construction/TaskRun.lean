import OpenMcc.Construction.InstanceRepository
import OpenMcc.Construction.Task

/-!
# Carrying out a task's run (`task-run.ts`, `runTask`, `carryOut`)

A run that was claimed is carried out by sending the task's steps in order, writing an audit entry,
and recording in the run's row how it went.  Each of these is answered by the host or the store, and
may fail; what fails may have been done all the same, when only the answer is lost.

The answers are the world that a run is carried out in.  The commands that were written to the
client are kept beside what the functions return.
-/

namespace OpenMcc

/-! ## Failures -/

/-- The failures that `scheduledRunFailure` tells apart. -/
inductive RunFailure
  | hostUnreachable (message : Text)
  | instanceNotRunning
  | instanceNotFound
  | hostNotFound
  | hostNotProvisioned
  | other
  deriving DecidableEq, Repr

/-- `scheduledRunFailure`. -/
def scheduledRunFailure : RunFailure → Text
  | .hostUnreachable message => message
  | .instanceNotRunning => "The bot was not running".toList
  | .instanceNotFound => "The bot no longer exists".toList
  | .hostNotFound => "Its host is not set up to run bots".toList
  | .hostNotProvisioned => "Its host is not set up to run bots".toList
  | .other => "The command could not be sent".toList

/-- What `runTask` throws. -/
inductive TaskRunError
  /-- `InstanceTaskStepsFailedError`. -/
  | stepsFailed (message : Text) (stepsSent : Nat)
  | failure (failure : RunFailure)
  deriving DecidableEq, Repr

/-- What comes back of something that is to be written: it was, or it failed, and then it was
written or not. -/
inductive WriteReply
  | written
  | refused (failure : RunFailure)
  | unanswered (failure : RunFailure)
  deriving DecidableEq, Repr

/-- The failure that comes back. -/
def WriteReply.failed : WriteReply → Option RunFailure
  | .written => none
  | .refused failure => some failure
  | .unanswered failure => some failure

/-- It is written, whatever comes back. -/
def WriteReply.lands : WriteReply → Bool
  | .written => true
  | .refused _ => false
  | .unanswered _ => true

/-- What a run is answered: the bot as it is read, the connection to its host, the steps by their
place, the audit entry, and the writes of `finishRun` and `recordTaskOutcome`. -/
structure TaskRunWorld where
  bot : Except RunFailure (Option InstanceStatus)
  connects : Option RunFailure
  sends : Nat → WriteReply
  audits : WriteReply
  finishesSent : WriteReply
  records : WriteReply
  finishesFailed : WriteReply

/-! ## Sending -/

/-- The message of a step that failed. -/
def stepFailedMessage (index total : Nat) (failure : RunFailure) : Text :=
  "Step ".toList ++ Nat.toDigits 10 (index + 1) ++ " of ".toList ++ Nat.toDigits 10 total ++
    " failed and the rest were not sent: ".toList ++ scheduledRunFailure failure

/-- The loop of `sendStepsInOrder`, from a step on: the commands written, and what it returns. -/
def sendSteps (sends : Nat → WriteReply) (total : Nat) :
    Nat → List InstanceTaskStepRow → List Text × Except TaskRunError Nat
  | sent, [] => ([], .ok sent)
  | sent, step :: rest =>
    match sends sent with
    | .written =>
      let later := sendSteps sends total (sent + 1) rest
      (step.command :: later.1, later.2)
    | .refused failure =>
      ([], .error (.stepsFailed (stepFailedMessage sent total failure) sent))
    | .unanswered failure =>
      ([step.command], .error (.stepsFailed (stepFailedMessage sent total failure) sent))

/-- The order of steps. -/
def inOrder (steps : List InstanceTaskStepRow) : List InstanceTaskStepRow :=
  steps.mergeSort fun left right => left.position ≤ right.position

/-- `sendStepsInOrder`, whose waits between steps do not fail. -/
def sendStepsInOrder (sends : Nat → WriteReply) (steps : List InstanceTaskStepRow) :
    List Text × Except TaskRunError Nat :=
  let ordered := inOrder steps
  sendSteps sends ordered.length 0 ordered

/-- The end of `runTask`: the audit entry of a run whose steps were sent. -/
def auditRun (world : TaskRunWorld) (sending : List Text × Except TaskRunError Nat) :
    List Text × Except TaskRunError Nat :=
  match sending.2 with
  | .error error => (sending.1, .error error)
  | .ok sent =>
    match world.audits.failed with
    | some failure => (sending.1, .error (.failure failure))
    | none => (sending.1, .ok sent)

/-- `runTask`. -/
def runTask (world : TaskRunWorld) (definition : TaskDefinition) :
    List Text × Except TaskRunError Nat :=
  match world.bot with
  | .error failure => ([], .error (.failure failure))
  | .ok none => ([], .error (.failure .instanceNotFound))
  | .ok (some status) =>
    if status ≠ .running then ([], .error (.failure .instanceNotRunning))
    else
      match world.connects with
      | some failure => ([], .error (.failure failure))
      | none => auditRun world (sendStepsInOrder world.sends (orderedSteps definition))

/-! ## Recording -/

/-- `TaskRunOutcome`. -/
inductive TaskRunOutcome
  | running | sent | failed | abandoned
  deriving DecidableEq, Repr

/-- The columns of `instanceTaskRun` that a run is recorded in. -/
structure TaskRunRow where
  outcome : TaskRunOutcome
  stepsSent : Nat
  error : Option Text
  deriving DecidableEq, Repr

/-- The row as `claimRun` inserts it. -/
def claimedRun : TaskRunRow where
  outcome := .running
  stepsSent := 0
  error := none

/-- `finishRun`: the row that is stored. -/
def finishRun (row : TaskRunRow) (reply : WriteReply) (outcome : TaskRunOutcome) (stepsSent : Nat)
    (error : Option Text) : TaskRunRow :=
  if reply.lands then ⟨outcome, stepsSent, error⟩ else row

/-- The reason and the count that the catch block of `carryOut` takes from an error. -/
def failureOf : TaskRunError → Text × Nat
  | .stepsFailed message stepsSent => (message, stepsSent)
  | .failure failure => (scheduledRunFailure failure, 0)

/-- The catch block of `carryOut`. -/
def failRun (world : TaskRunWorld) (row : TaskRunRow) (error : TaskRunError) : TaskRunRow :=
  finishRun row world.finishesFailed .failed (failureOf error).2 (some (failureOf error).1)

/-- `carryOut`: the commands written to the client, and the row that is stored in the end. -/
def carryOut (world : TaskRunWorld) (definition : TaskDefinition) : List Text × TaskRunRow :=
  let run := runTask world definition
  match run.2 with
  | .error error => (run.1, failRun world claimedRun error)
  | .ok stepsSent =>
    let row := finishRun claimedRun world.finishesSent .sent stepsSent none
    match world.finishesSent.failed.or world.records.failed with
    | some failure => (run.1, failRun world row (.failure failure))
    | none => (run.1, row)

/-- What is recorded is what happened: the count is that of the commands written, and the outcome is
sent where every step was. -/
structure RecordsWhatHappened (definition : TaskDefinition) (written : List Text)
    (row : TaskRunRow) : Prop where
  count : row.stepsSent = written.length
  outcome : row.outcome = .sent ↔
    written = (orderedSteps definition).map InstanceTaskStepRow.command

end OpenMcc

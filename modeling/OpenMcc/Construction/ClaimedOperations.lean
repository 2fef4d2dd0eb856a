import Mathlib.Logic.Function.Basic
import OpenMcc.Construction.InstanceRepository
import OpenMcc.Construction.JournalReads
import OpenMcc.Framework.Transition

/-!
# Operations under a claim (`instance.controller.ts`, `authenticate.ts`)

Saving, starting, restarting, stopping, creating, removing and signing in each work at the host and
in the store under a claim on the bot.  What one does after it has its claim is a program here, of
commands at the host whose answers it branches on and of writes to the store.  The programs are run
by one system that throws where a step fails, and then takes the operation's error path.

A command whose `exec` throws may be left running at the host, unless the host refused its channel.
A write to the store that fails has had no effect, or its answer was lost.

The system follows one bot and any number of operations on it.  Completing and cancelling a sign-in
are not among them.  `hasChallenge` tells whether the log of a sign-in shows a device code.
-/

namespace OpenMcc

/-! ## Answers of the host -/

/-- The output without the line end it ends with. -/
def chopLineEnd (output : Text) : Text :=
  if output.getLast? = some '\n' then output.dropLast else output

/-- `ENV_WRITTEN` and `ENV_KEPT`. -/
inductive EnvWriteAnswer
  | written | kept
  deriving DecidableEq, Repr

/-- `parseEnvWriteAnswer`. -/
def parseEnvWriteAnswer (output : Text) : Option EnvWriteAnswer :=
  if chopLineEnd output = "written".toList then some .written
  else if chopLineEnd output = "kept".toList then some .kept
  else none

/-- The value of a line of `UNIT_START_LINE`. -/
def isUnitStateValue : Text → Bool
  | [] => false
  | c :: rest => ('a' ≤ c && c ≤ 'z') && rest.all fun c => ('a' ≤ c && c ≤ 'z') || c == '-'

/-- `UNIT_START_LINE`: the key and the value of a line. -/
def unitStartLine (line : Text) : Option (Text × Text) :=
  ["ActiveState".toList, "Result".toList, "SignIn".toList].findSome? fun key =>
    if (key ++ ['=']).isPrefixOf line && isUnitStateValue (line.drop (key.length + 1)) then
      some (key, line.drop (key.length + 1))
    else none

/-- What `parseUnitStartState` reads. -/
structure UnitStartState where
  activeState : Text
  result : Text
  signIn : Text
  deriving DecidableEq, Repr

/-- `parseUnitStartState`. -/
def parseUnitStartState (output : Text) : Option UnitStartState := do
  let lines := Text.lines (chopLineEnd output)
  if lines.length ≠ 3 then none
  else
    let values ← lines.mapM unitStartLine
    if !decide (values.map Prod.fst).Nodup then none
    else
      let activeState ← values.lookup "ActiveState".toList
      let result ← values.lookup "Result".toList
      let signIn ← values.lookup "SignIn".toList
      some ⟨activeState, result, signIn⟩

/-- `startedOrThrow` returns: everything but an active unit makes it throw. -/
def startedOrThrow (output : Text) : Bool :=
  (parseUnitStartState output).any fun state => state.activeState == "active".toList

/-! ## Programs -/

/-- The commands issued under a claim. -/
inductive HostCommand
  | stopUnit | writeEnvironment | writeConfig | startUnit
  | createDirectories | createControl
  | removeTimers | stopUnits | removeContainers | verifyGone | deleteDirectory
  | stopUnitIfAny | stopAuth | startAuth | readAuthLog
  deriving DecidableEq, Repr

/-- The writes to the store under a claim. -/
inductive StoreWrite
  /-- `writeTokenUnderClaim`. -/
  | token (sealedToken : Text)
  /-- `finalizeConfigClaim`. -/
  | finalize (status : Option InstanceStatus) (lastExitCode : Option (Option Int))
  /-- `deleteUnderClaim`. -/
  | delete
  /-- The bot has to sign in. -/
  | needsAuth
  deriving DecidableEq, Repr

/-- What an operation does under its claim. -/
inductive ClaimProgram
  | returns
  | throws
  | connects (next : ClaimProgram)
  | execs (command : HostCommand) (next : ExecResult → ClaimProgram)
  | stores (write : StoreWrite) (next : ClaimProgram)

namespace ClaimProgram

/-- A command that has to end with exit status 0. -/
def succeeds (command : HostCommand) (next : ClaimProgram) : ClaimProgram :=
  .execs command fun result => if result.exitCode ≠ 0 then .throws else next

/-- `saveConfig`. -/
def saveConfig : ClaimProgram :=
  .connects (succeeds .writeConfig (.stores (.finalize none none) .returns))

/-- `startUnderClaim` from its start command on. -/
def startUnit : ClaimProgram :=
  .execs .startUnit fun result =>
    if result.exitCode ≠ 0 then .throws
    else if startedOrThrow result.stdout then
      .stores (.finalize (some .running) (some none)) .returns
    else .throws

/-- `startUnderClaim` with its saved document, if there is one. -/
def writeDocument (document : Bool) : ClaimProgram :=
  if document then succeeds .writeConfig startUnit else startUnit

/-- `startUnderClaim` once the unit of a restart is stopped. -/
def startStopped (sealedToken : Text) (document : Bool) : ClaimProgram :=
  .execs .writeEnvironment fun result =>
    if result.exitCode ≠ 0 then .throws
    else match parseEnvWriteAnswer result.stdout with
      | none => .throws
      | some .written => .stores (.token sealedToken) (writeDocument document)
      | some .kept => writeDocument document

/-- `start`. -/
def start (sealedToken : Text) (document : Bool) : ClaimProgram :=
  .connects (startStopped sealedToken document)

/-- `restart`. -/
def restart (sealedToken : Text) (document : Bool) : ClaimProgram :=
  .connects (succeeds .stopUnit (startStopped sealedToken document))

/-- `stop`. -/
def stop : ClaimProgram :=
  .connects (succeeds .stopUnit (.stores (.finalize (some .stopped) none) .returns))

/-- `create`: `instanceLayoutSteps`, at the connection it has. -/
def create : ClaimProgram :=
  succeeds .createDirectories (succeeds .createControl (succeeds .writeEnvironment
    (succeeds .writeConfig (.stores (.finalize none none) .returns))))

/-- `remove`. -/
def remove : ClaimProgram :=
  .connects (succeeds .removeTimers (.execs .stopUnits fun _ =>
    succeeds .removeContainers (succeeds .verifyGone (succeeds .deleteDirectory
      (succeeds .verifyGone (.stores .delete .returns))))))

/-- The polling of `beginAuthentication`. -/
def pollAuth (hasChallenge : Text → Bool) : Nat → ClaimProgram
  | 0 => .throws
  | attempts + 1 => .execs .readAuthLog fun result =>
      if hasChallenge result.stdout then .stores .needsAuth .returns
      else pollAuth hasChallenge attempts

/-- `beginAuthentication`. -/
def beginAuthentication (hasChallenge : Text → Bool) (attempts : Nat) : ClaimProgram :=
  .connects (.execs .stopUnitIfAny fun _ => .execs .stopAuth fun _ =>
    succeeds .startAuth (pollAuth hasChallenge attempts))

end ClaimProgram

/-! ## Operations -/

/-- The operations. -/
inductive ClaimedOperation
  | save | start | restart | stop | create | remove
  | authenticate (attempts : Nat)
  deriving DecidableEq, Repr

namespace ClaimedOperation

/-- The operation takes the sign-in claim. -/
def takesAuth : ClaimedOperation → Bool
  | .authenticate _ => true
  | _ => false

/-- What the operation does under its claim. -/
def program (hasChallenge : Text → Bool) (sealedToken : Text) (document : Bool) :
    ClaimedOperation → ClaimProgram
  | .save => .saveConfig
  | .start => .start sealedToken document
  | .restart => .restart sealedToken document
  | .stop => .stop
  | .create => .create
  | .remove => .remove
  | .authenticate attempts => .beginAuthentication hasChallenge attempts

end ClaimedOperation

/-- How a write to the store, or a transaction of it, comes out. -/
inductive StoreOutcome
  | answers
  /-- It throws, without effect. -/
  | fails
  /-- It throws, although it took effect. -/
  | lost
  deriving DecidableEq, Repr

/-- How far an operation has got. -/
inductive OperationStage
  | asked
  /-- A sign-in has its claim and looks at the host. -/
  | checking
  | running (connected : Bool) (program : ClaimProgram)
  /-- It waits for a command. -/
  | awaiting (next : ExecResult → ClaimProgram)
  /-- An error was thrown. -/
  | failing (connected : Bool)
  /-- A sign-in that has failed waits for its session to be stopped. -/
  | cleaning
  /-- The claim is given back, if no command is in flight. -/
  | releasing
  | ended

/-- An operation, its `ExecFlight`, and how many of its commands may be left running. -/
structure OperationCall where
  operation : ClaimedOperation
  inFlight : Bool
  left : Nat
  stage : OperationStage

/-- The row of the bot, while there is one, and the operations by claim id. -/
structure ClaimState where
  row : Option InstanceRow
  calls : Nat → Option OperationCall
  /-- The claims whose lease was found to be over. -/
  overdue : Nat → Bool

/-- What can happen next. -/
inductive ClaimEvent
  | asks (call : Nat) (operation : ClaimedOperation)
  /-- `create` inserts the row. -/
  | creates (call : Nat) (row : InstanceRow) (databaseNow : Int)
  /-- The claim transaction; what it reads may turn out unusable. -/
  | takes (call : Nat) (managerNow databaseNow : Int) (usable : Bool) (sealedToken : Text)
      (document : Bool) (outcome : StoreOutcome)
  /-- What a sign-in needs of the host is there, or not, or could not be read. -/
  | checks (call : Nat) (outcome : Option Bool)
  | connects (call : Nat) (succeeds : Bool)
  | issues (call : Nat)
  | answers (call : Nat) (result : ExecResult)
  /-- `ChannelLimitReachedError`. -/
  | refusesChannel (call : Nat)
  /-- Another error of `exec`. -/
  | execThrows (call : Nat)
  | stores (call : Nat) (databaseNow : Int) (outcome : StoreOutcome)
  | throws (call : Nat)
  | handles (call : Nat)
  | releases (call : Nat) (outcome : StoreOutcome)
  | returns (call : Nat)
  /-- A command that was left running ends. -/
  | leftEnds (call : Nat)
  deriving DecidableEq, Repr

/-- The operation that takes a step. -/
def ClaimEvent.call : ClaimEvent → Nat
  | .asks call _ | .creates call _ _ | .takes call _ _ _ _ _ _ | .checks call _ | .connects call _
  | .issues call | .answers call _ | .refusesChannel call | .execThrows call | .stores call _ _
  | .throws call | .handles call | .releases call _ | .returns call | .leftEnds call => call

/-- The row after a write of the operation, and `none` where its `where` clause misses. -/
def StoreWrite.apply (write : StoreWrite) (call : Nat) (databaseNow : Int)
    (row : Option InstanceRow) : Option (Option InstanceRow) :=
  match write, row with
  | .needsAuth, row => some (row.map fun row => { row with status := .needsAuth })
  | _, none => none
  | .token sealedToken, some row =>
    (row.writeTokenUnderClaim call sealedToken databaseNow).map some
  | .finalize status lastExitCode, some row =>
    (row.finalizeConfigClaim call status lastExitCode).map some
  | .delete, some row => if row.configClaimId = some call then some none else none

namespace ClaimState

variable (s : ClaimState)

def setCall (call : Nat) (operation : OperationCall) : ClaimState :=
  { s with calls := Function.update s.calls call (some operation) }

/-- An operation goes on to a stage. -/
def moveTo (call : Nat) (operation : OperationCall) (stage : OperationStage) : ClaimState :=
  s.setCall call { operation with stage := stage }

def asks (call : Nat) (operation : ClaimedOperation) : Option ClaimState :=
  if (s.calls call).isSome then none
  else some (s.setCall call ⟨operation, false, 0, .asked⟩)

/-- The claim statement of an operation on a row. -/
def claim (operation : ClaimedOperation) (call : Nat) (managerNow databaseNow : Int)
    (row : InstanceRow) : Option InstanceRow :=
  match operation with
  | .save => row.claimForConfig call databaseNow
  | .authenticate _ => row.claimForAuth call managerNow databaseNow
  | .create => none
  | _ => row.claimForLifecycle call managerNow databaseNow

/-- The claims that the claim statement of an operation has to find free. -/
def foundOver (operation : ClaimedOperation) (row : InstanceRow) (other : Nat) : Bool :=
  row.configClaimId == some other || (operation != .save && row.authClaimId == some other)

def creates (call : Nat) (row : InstanceRow) (databaseNow : Int) : Option ClaimState :=
  match s.calls call, s.row with
  | some ⟨.create, inFlight, left, .asked⟩, none =>
    some { s.moveTo call ⟨.create, inFlight, left, .asked⟩ (.running true .create) with
      row := some { row with
        authClaimId := none
        authClaimedAt := none
        configClaimId := some call
        configClaimedAt := some databaseNow } }
  | _, _ => none

/-- The stage after the claim transaction has failed: a sign-in claims outside of its `try`. -/
def refused (operation : ClaimedOperation) : OperationStage :=
  if operation.takesAuth then .ended else .failing false

/-- The stage after the claim is taken. -/
def taken (hasChallenge : Text → Bool) (operation : ClaimedOperation) (sealedToken : Text)
    (document : Bool) : OperationStage :=
  if operation.takesAuth then .checking
  else .running false (operation.program hasChallenge sealedToken document)

def takes (hasChallenge : Text → Bool) (call : Nat) (managerNow databaseNow : Int) (usable : Bool)
    (sealedToken : Text) (document : Bool) (outcome : StoreOutcome) : Option ClaimState :=
  match s.calls call with
  | some ⟨operation, inFlight, left, .asked⟩ =>
    let before : OperationCall := ⟨operation, inFlight, left, .asked⟩
    match s.row.bind (claim operation call managerNow databaseNow) with
    | none => some (s.moveTo call before (refused operation))
    | some claimed =>
      if !usable || outcome == .fails then some (s.moveTo call before (refused operation))
      else
        let after := if outcome = .lost then refused operation
          else taken hasChallenge operation sealedToken document
        some { s.moveTo call before after with
          row := some claimed
          overdue := fun other =>
            s.overdue other || s.row.any fun row => foundOver operation row other }
  | _ => none

/-- The checks of `beginAuthentication` before its `try`. -/
def checks (hasChallenge : Text → Bool) (call : Nat) (outcome : Option Bool) :
    Option ClaimState :=
  match s.calls call with
  | some ⟨operation, inFlight, left, .checking⟩ =>
    let before : OperationCall := ⟨operation, inFlight, left, .checking⟩
    match outcome with
    | none => some (s.moveTo call before .ended)
    | some false => some (s.moveTo call before .releasing)
    | some true =>
      some (s.moveTo call before (.running false (operation.program hasChallenge [] false)))
  | _ => none

def connects (call : Nat) (succeeds : Bool) : Option ClaimState :=
  match s.calls call with
  | some ⟨operation, inFlight, left, .running connected (.connects next)⟩ =>
    let before : OperationCall := ⟨operation, inFlight, left, .running connected (.connects next)⟩
    if succeeds then some (s.moveTo call before (.running true next))
    else some (s.moveTo call before (.failing false))
  | _ => none

/-- `claimedExec` issues its command. -/
def issues (call : Nat) : Option ClaimState :=
  match s.calls call with
  | some ⟨operation, inFlight, left, .running connected (.execs command next)⟩ =>
    some (s.moveTo call ⟨operation, inFlight, left, .running connected (.execs command next)⟩
      (.awaiting next))
  | _ => none

/-- The command ends, and its answer arrives. -/
def answers (call : Nat) (result : ExecResult) : Option ClaimState :=
  match s.calls call with
  | some ⟨operation, inFlight, left, .awaiting next⟩ =>
    some (s.moveTo call ⟨operation, inFlight, left, .awaiting next⟩ (.running true (next result)))
  | some ⟨operation, inFlight, left, .cleaning⟩ =>
    some (s.moveTo call ⟨operation, inFlight, left, .cleaning⟩ .releasing)
  | _ => none

/-- The host refuses the channel, so that the command is not run. -/
def refusesChannel (call : Nat) : Option ClaimState :=
  match s.calls call with
  | some ⟨operation, inFlight, left, .awaiting next⟩ =>
    some (s.moveTo call ⟨operation, inFlight, left, .awaiting next⟩ (.failing true))
  | some ⟨operation, inFlight, left, .cleaning⟩ =>
    some (s.moveTo call ⟨operation, inFlight, left, .cleaning⟩ .releasing)
  | _ => none

/-- `exec` throws, and its command may be left running. -/
def execThrows (call : Nat) : Option ClaimState :=
  match s.calls call with
  | some ⟨operation, _, left, .awaiting _⟩ =>
    some (s.setCall call ⟨operation, true, left + 1, .failing true⟩)
  | some ⟨operation, _, left, .cleaning⟩ =>
    some (s.setCall call ⟨operation, true, left + 1, .releasing⟩)
  | _ => none

/-- A write to the store: it throws where its `where` clause misses. -/
def stores (call : Nat) (databaseNow : Int) (outcome : StoreOutcome) : Option ClaimState :=
  match s.calls call with
  | some ⟨operation, inFlight, left, .running connected (.stores write next)⟩ =>
    let before : OperationCall :=
      ⟨operation, inFlight, left, .running connected (.stores write next)⟩
    match outcome, write.apply call databaseNow s.row with
    | .answers, some row => some { s.moveTo call before (.running connected next) with row := row }
    | .lost, some row => some { s.moveTo call before (.failing connected) with row := row }
    | _, _ => some (s.moveTo call before (.failing connected))
  | _ => none

/-- The operation throws. -/
def throws (call : Nat) : Option ClaimState :=
  match s.calls call with
  | some ⟨operation, inFlight, left, .running connected .throws⟩ =>
    some (s.moveTo call ⟨operation, inFlight, left, .running connected .throws⟩
      (.failing connected))
  | _ => none

/-- The error is caught: a sign-in that is connected stops its session first. -/
def handles (call : Nat) : Option ClaimState :=
  match s.calls call with
  | some ⟨operation, inFlight, left, .failing connected⟩ =>
    some (s.moveTo call ⟨operation, inFlight, left, .failing connected⟩
      (if operation.takesAuth && connected then .cleaning else .releasing))
  | _ => none

/-- `releaseConfigClaim`, or `releaseAuthClaim`. -/
def releaseClaim (operation : ClaimedOperation) (call : Nat) (row : InstanceRow) : InstanceRow :=
  row.orUnchanged fun row =>
    if operation.takesAuth then row.releaseAuthClaim call else row.releaseConfigClaim call

/-- The end of the error path. -/
def releases (call : Nat) (outcome : StoreOutcome) : Option ClaimState :=
  match s.calls call with
  | some ⟨operation, inFlight, left, .releasing⟩ =>
    let ended := s.moveTo call ⟨operation, inFlight, left, .releasing⟩ .ended
    if inFlight || outcome == .fails then some ended
    else some { ended with row := s.row.map (releaseClaim operation call) }
  | _ => none

/-- The operation returns. -/
def returns (call : Nat) : Option ClaimState :=
  match s.calls call with
  | some ⟨operation, inFlight, left, .running connected .returns⟩ =>
    some (s.moveTo call ⟨operation, inFlight, left, .running connected .returns⟩ .ended)
  | _ => none

/-- A command that was left running ends. -/
def leftEnds (call : Nat) : Option ClaimState :=
  match s.calls call with
  | some ⟨operation, inFlight, left + 1, stage⟩ =>
    some (s.setCall call ⟨operation, inFlight, left, stage⟩)
  | _ => none

/-- The operation has its claim. -/
def Holds (call : Nat) : Prop :=
  ∃ row, s.row = some row ∧ (row.configClaimId = some call ∨ row.authClaimId = some call)

/-- The lease of an operation's claim is over, by the clock that times it. -/
def LeaseOver (call : Nat) (managerNow databaseNow : Int) : Prop :=
  ∃ row claimedAt, s.row = some row ∧
    (row.configClaimId = some call ∧ row.configClaimedAt = some claimedAt ∧
        claimedAt < databaseNow - configClaimLeaseMs ∨
      row.authClaimId = some call ∧ row.authClaimedAt = some claimedAt ∧
        claimedAt < managerNow - authLeaseMs)

/-- A command of the operation may be running at the host. -/
def MayRun (call : Nat) : Prop :=
  ∃ operation, s.calls call = some operation ∧
    (0 < operation.left ∨ (∃ next, operation.stage = .awaiting next) ∨ operation.stage = .cleaning)

end ClaimState

/-- Any number of operations on one bot that nobody holds a claim on at first. -/
def claimedOperations (hasChallenge : Text → Bool) : TransitionSystem ClaimState ClaimEvent where
  init s := (∀ row, s.row = some row → row.configClaimId = none ∧ row.authClaimId = none) ∧
    (∀ call, s.calls call = none) ∧ ∀ call, s.overdue call = false
  step s
    | .asks call operation => s.asks call operation
    | .creates call row databaseNow => s.creates call row databaseNow
    | .takes call managerNow databaseNow usable sealedToken document outcome =>
      s.takes hasChallenge call managerNow databaseNow usable sealedToken document outcome
    | .checks call outcome => s.checks hasChallenge call outcome
    | .connects call succeeds => s.connects call succeeds
    | .issues call => s.issues call
    | .answers call result => s.answers call result
    | .refusesChannel call => s.refusesChannel call
    | .execThrows call => s.execThrows call
    | .stores call databaseNow outcome => s.stores call databaseNow outcome
    | .throws call => s.throws call
    | .handles call => s.handles call
    | .releases call outcome => s.releases call outcome
    | .returns call => s.returns call
    | .leftEnds call => s.leftEnds call

end OpenMcc

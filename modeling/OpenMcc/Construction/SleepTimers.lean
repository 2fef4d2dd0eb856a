import OpenMcc.Construction.SleepWindow
import OpenMcc.Framework.Transition

/-!
# Setting, clearing and removing a bot's sleep timers (`instance.controller.ts`, `removal.ts`,
`schedule.repository.ts`)

A sleep window lives twice: as two timer units on the bot's host and as a row of
`instanceSchedule`.  `setSleepWindow` and `clearSleepWindow` change the host first, a command at a
time, and the row in a transaction after that; `remove` takes the timers away under the lifecycle
claim of the bot, which the other two do not ask for, and deletes the bot with its row at its end.

Any number of calls for one bot run beside each other.  Each command on the host and each
transaction is a step of its own.
-/

namespace OpenMcc

/-! ## The host -/

/-- The two timers of a bot. -/
inductive SleepTimer
  | stop
  | start
  deriving DecidableEq, Repr

/-- A timer on the host: the text of its unit file, if there is one, and whether it is enabled. -/
structure HostTimer where
  file : Option Text
  enabled : Bool
  deriving DecidableEq, Repr

/-- The sleep timers of a bot on its host. -/
structure HostTimers where
  stop : HostTimer
  start : HostTimer
  deriving DecidableEq, Repr

/-- A host without timers for the bot. -/
def HostTimers.bare : HostTimers where
  stop := { file := none, enabled := false }
  start := { file := none, enabled := false }

/-- A host with the timers of a window. -/
def HostTimers.installed (timers : SleepTimers) : HostTimers where
  stop := { file := some timers.stop.text, enabled := true }
  start := { file := some timers.start.text, enabled := true }

def HostTimers.timer (host : HostTimers) : SleepTimer → HostTimer
  | .stop => host.stop
  | .start => host.start

def HostTimers.onTimer (host : HostTimers) (timer : SleepTimer) (f : HostTimer → HostTimer) :
    HostTimers :=
  match timer with
  | .stop => { host with stop := f host.stop }
  | .start => { host with start := f host.start }

/-- The commands that the calls run on the host. -/
inductive TimerCommand
  /-- `cat >` of a unit file. -/
  | write (timer : SleepTimer) (text : Text)
  /-- `daemon-reload`. -/
  | reload
  /-- `enable --now`. -/
  | enable (timer : SleepTimer)
  /-- `disable --now`, whose failure is passed over. -/
  | disable (timer : SleepTimer)
  /-- `rm -f` of a unit file. -/
  | delete (timer : SleepTimer)
  /-- `removeTimersCommand`. -/
  | removeTimers
  /-- `stopUnitsCommand`. -/
  | stopUnits
  /-- `removeContainersCommand`. -/
  | removeContainers
  /-- `verifyGoneCommand`. -/
  | verifyGone
  /-- `deleteDirectoryCommand`. -/
  | deleteDirectory
  deriving DecidableEq, Repr

namespace TimerCommand

/-- The caller reads the exit code of the command, and fails where it is not zero. -/
def isChecked : TimerCommand → Bool
  | write _ _ | enable _ | removeTimers | removeContainers | verifyGone | deleteDirectory => true
  | reload | disable _ | delete _ | stopUnits => false

/-- The command changes the timers. -/
def changesTimers : TimerCommand → Bool
  | write _ _ | enable _ | disable _ | delete _ | removeTimers => true
  | reload | stopUnits | removeContainers | verifyGone | deleteDirectory => false

/-- The command can succeed: a timer is enabled by its unit file. -/
def canSucceed (host : HostTimers) : TimerCommand → Bool
  | enable timer => (host.timer timer).file.isSome
  | _ => true

/-- What `removeTimersCommand` does about a timer: one without a unit file is not disabled. -/
def withoutTimer (timer : HostTimer) : HostTimer where
  file := none
  enabled := timer.enabled && timer.file.isNone

/-- What a command that succeeds makes of the timers. -/
def apply (host : HostTimers) : TimerCommand → HostTimers
  | write timer text => host.onTimer timer fun timer => { timer with file := some text }
  | enable timer => host.onTimer timer fun timer => { timer with enabled := true }
  | disable timer => host.onTimer timer fun timer => { timer with enabled := false }
  | delete timer => host.onTimer timer fun timer => { timer with file := none }
  | removeTimers => { stop := withoutTimer host.stop, start := withoutTimer host.start }
  | reload | stopUnits | removeContainers | verifyGone | deleteDirectory => host

end TimerCommand

/-- The commands of `applySleepTimers`. -/
def applySleepTimers (timers : SleepTimers) : List TimerCommand :=
  [.write .stop timers.stop.text, .write .start timers.start.text, .reload, .enable .stop,
    .enable .start]

/-- The commands of `removeSleepTimers`. -/
def removeSleepTimers : List TimerCommand :=
  [.disable .stop, .delete .stop, .disable .start, .delete .start, .reload]

/-- The commands of `remove`. -/
def removeCommands : List TimerCommand :=
  [.removeTimers, .stopUnits, .removeContainers, .verifyGone, .deleteDirectory, .verifyGone]

/-! ## The row -/

/-- `InstanceScheduleRow`, as far as timers are rendered from it. -/
structure InstanceScheduleRow where
  instanceId : Text
  daysOfWeek : Text
  stopMinuteOfDay : Int
  startMinuteOfDay : Int
  timezone : Text
  enabled : Bool
  deriving DecidableEq, Repr

/-- `timeOfDay`. -/
def timeOfDay (minutes : Int) : TimeOfDay where
  hour := minutes / 60
  minute := minutes % 60

/-- `renderDaysOfWeek`, for days of which there is one. -/
def renderDaysOfWeek (days : List DayOfWeek) : Text :=
  if (orderedDays days).length = daysOfWeek.length then "*".toList else dayNames (orderedDays days)

/-- `toSleepWindowPublic`, as far as timers are rendered from it. -/
def toSleepWindowPublic (row : InstanceScheduleRow) : SleepWindowInput where
  instanceId := row.instanceId
  daysOfWeek := parseDaysOfWeek row.daysOfWeek
  stopAt := timeOfDay row.stopMinuteOfDay
  startAt := timeOfDay row.startMinuteOfDay
  timezone := row.timezone

/-- The row that `setSleepWindow` upserts. -/
def scheduleRow (window : SleepWindowInput) : InstanceScheduleRow where
  instanceId := window.instanceId
  daysOfWeek := renderDaysOfWeek window.daysOfWeek
  stopMinuteOfDay := minuteOfDay window.stopAt
  startMinuteOfDay := minuteOfDay window.startAt
  timezone := window.timezone
  enabled := true

/-! ## The calls -/

/-- A window with the timers that it is rendered as. -/
structure RenderedWindow where
  window : SleepWindowInput
  timers : SleepTimers
  rendered : renderSleepTimers window = .ok timers

inductive SleepRequest
  | set (window : RenderedWindow)
  | clear
  | remove

/-- The commands that a call runs on the host. -/
def SleepRequest.commands : SleepRequest → List TimerCommand
  | set window => applySleepTimers window.timers
  | clear => removeSleepTimers
  | remove => removeCommands

/-- The timers that a call leaves on the host. -/
def SleepRequest.target : SleepRequest → HostTimers
  | set window => .installed window.timers
  | clear => .bare
  | remove => .bare

inductive SleepStage
  /-- `remove` has yet to take its claim. -/
  | claiming
  /-- Nothing has been run on the host. -/
  | ready
  /-- These commands are left; the transaction comes after the last of them. -/
  | running (rest : List TimerCommand)
  /-- `setSleepWindow` has been refused by the host, and will put back what is stored. -/
  | undoing
  | restoring (rest : List TimerCommand)
  | ended (failedAtHost : Bool)
  deriving DecidableEq, Repr

structure SleepCall where
  request : SleepRequest
  stage : SleepStage

namespace SleepCall

/-- The call has run a command on the host, and has neither ended nor failed there. -/
def isUnderWay (call : SleepCall) : Bool :=
  match call.stage with
  | .running _ => true
  | _ => false

def hasEnded (call : SleepCall) : Bool :=
  match call.stage with
  | .ended _ => true
  | _ => false

def failedAtHost (call : SleepCall) : Bool :=
  match call.stage with
  | .undoing | .restoring _ => true
  | .ended failed => failed
  | _ => false

/-- The commands that are left to run. -/
def commands (call : SleepCall) : List TimerCommand :=
  match call.stage with
  | .ready => call.request.commands
  | .running rest => rest
  | .restoring rest => rest
  | _ => []

/-- The stage of a call that has run a command. -/
def ran (call : SleepCall) (rest : List TimerCommand) : SleepStage :=
  match call.stage with
  | .restoring _ => .restoring rest
  | _ => .running rest

/-- The stage of a call that fails at the host.  `setSleepWindow` puts the timers back where it was
refused. -/
def failsAtHost (call : SleepCall) (unreachable : Bool) : SleepStage :=
  match call.stage, call.request with
  | .restoring _, _ => .ended true
  | _, .set _ => if unreachable then .ended true else .undoing
  | _, _ => .ended true

end SleepCall

/-- A bot with its timers, its row and the calls for it. -/
structure SleepState where
  host : HostTimers
  schedule : Option InstanceScheduleRow
  instanceExists : Bool
  /-- The call that holds the lifecycle claim. -/
  claim : Option Nat
  calls : List SleepCall

inductive SleepEvent
  | begins (request : SleepRequest)
  /-- `takeLifecycleClaim`. -/
  | claims (call : Nat) (granted : Bool)
  /-- The host of a call cannot be reached before its first command. -/
  | connectFails (call : Nat)
  /-- The next command of a call succeeds. -/
  | succeeds (call : Nat)
  /-- The next command of a call is refused, and leaves the timers so. -/
  | refused (call : Nat) (left : HostTimers)
  /-- The host is lost at the next command of a call, and has the timers so. -/
  | unreachable (call : Nat) (left : HostTimers)
  /-- A call reads what it puts back. -/
  | reads (call : Nat)
  /-- A call that has put the timers back throws. -/
  | throws (call : Nat)
  /-- The transaction of a call commits. -/
  | commits (call : Nat)
  /-- The transaction of a call fails. -/
  | storeFails (call : Nat)

namespace SleepState

/-- A call moves on. -/
def moves (s : SleepState) (call : Nat) (stage : SleepStage) : SleepState :=
  { s with calls := s.calls.modify call fun call => { call with stage := stage } }

/-- `releaseConfigClaim`. -/
def releases (s : SleepState) (call : Nat) : SleepState :=
  { s with claim := if s.claim = some call then none else s.claim }

/-- A command that does not change the timers leaves them as they are. -/
def leaves (s : SleepState) (command : TimerCommand) (left : HostTimers) : SleepState :=
  if command.changesTimers then { s with host := left } else s

/-- A call begins; a bot that is gone is not found. -/
def begins (s : SleepState) (request : SleepRequest) : SleepState :=
  let stage := if !s.instanceExists then SleepStage.ended false
    else match request with
      | .remove => .claiming
      | _ => .ready
  { s with calls := s.calls ++ [{ request := request, stage := stage }] }

/-- `takeLifecycleClaim`. -/
def claims (s : SleepState) (id : Nat) (granted : Bool) : Option SleepState :=
  match s.calls[id]? with
  | none => none
  | some call =>
    if call.stage ≠ .claiming then none
    else if !granted then some (s.moves id (.ended false))
    else if s.instanceExists then some ({ s with claim := some id }.moves id .ready)
    else none

def connectFails (s : SleepState) (id : Nat) : Option SleepState :=
  match s.calls[id]? with
  | none => none
  | some call =>
    if call.stage = .ready then some ((s.moves id (.ended true)).releases id) else none

def succeeds (s : SleepState) (id : Nat) : Option SleepState :=
  match s.calls[id]? with
  | none => none
  | some call =>
    match call.commands with
    | [] => none
    | command :: rest =>
      if command.canSucceed s.host then
        some ({ s with host := command.apply s.host }.moves id (call.ran rest))
      else none

def refused (s : SleepState) (id : Nat) (left : HostTimers) : Option SleepState :=
  match s.calls[id]? with
  | none => none
  | some call =>
    match call.commands with
    | [] => none
    | command :: rest =>
      if command.isChecked then
        some (((s.leaves command left).moves id (call.failsAtHost false)).releases id)
      else some ((s.leaves command left).moves id (call.ran rest))

def unreachable (s : SleepState) (id : Nat) (left : HostTimers) : Option SleepState :=
  match s.calls[id]? with
  | none => none
  | some call =>
    match call.commands with
    | [] => none
    | command :: _ => some ((s.leaves command left).moves id (call.failsAtHost true))

/-- The commands that put back what is stored; a row that does not render is given up on. -/
def restoreCommands (s : SleepState) : List TimerCommand :=
  match s.schedule with
  | none => removeSleepTimers
  | some row =>
    match renderSleepTimers (toSleepWindowPublic row) with
    | .ok timers => applySleepTimers timers
    | .error _ => []

def reads (s : SleepState) (id : Nat) : Option SleepState :=
  match s.calls[id]? with
  | none => none
  | some call =>
    if call.stage = .undoing then some (s.moves id (.restoring s.restoreCommands)) else none

def throws (s : SleepState) (id : Nat) : Option SleepState :=
  match s.calls[id]? with
  | none => none
  | some call => if call.stage = .restoring [] then some (s.moves id (.ended true)) else none

/-- What the transaction of a call stores, where it can commit: a row belongs to a bot, and a bot
is deleted under the claim of its removal, with its row. -/
def stores (s : SleepState) (id : Nat) : SleepRequest → Option SleepState
  | .set window =>
    if s.instanceExists then some { s with schedule := some (scheduleRow window.window) } else none
  | .clear => some { s with schedule := none }
  | .remove =>
    if s.instanceExists ∧ s.claim = some id then
      some { s with instanceExists := false, schedule := none, claim := none }
    else none

def commits (s : SleepState) (id : Nat) : Option SleepState :=
  match s.calls[id]? with
  | none => none
  | some call =>
    if call.stage = .running [] then
      (s.stores id call.request).map fun s => s.moves id (.ended false)
    else none

def storeFails (s : SleepState) (id : Nat) : Option SleepState :=
  match s.calls[id]? with
  | none => none
  | some call =>
    if call.stage = .running [] then some ((s.moves id (.ended false)).releases id) else none

/-- The timers on the host are those rendered from the row. -/
def Shows (s : SleepState) : Prop :=
  match s.schedule with
  | none => s.host = .bare
  | some row => ∃ timers, renderSleepTimers (toSleepWindowPublic row) = .ok timers ∧
      s.host = .installed timers

/-- Where all calls have ended and none of them failed at the host, the timers on the host are those
rendered from the row, and a bot that was removed has none. -/
def TimersMatch (s : SleepState) : Prop :=
  (∀ call ∈ s.calls, call.hasEnded = true) → (∀ call ∈ s.calls, call.failedAtHost = false) →
    s.Shows ∧ (s.instanceExists = false → s.host = .bare)

end SleepState

/-- The calls for one bot, from a moment at which none is under way and its timers are right. -/
def sleepSystem (instanceId : Text) : TransitionSystem SleepState SleepEvent where
  init s := s.calls = [] ∧ s.Shows ∧ s.instanceExists = true
  step s
    | .begins (.set window) =>
      if window.window.instanceId = instanceId then some (s.begins (.set window)) else none
    | .begins request => some (s.begins request)
    | .claims call granted => s.claims call granted
    | .connectFails call => s.connectFails call
    | .succeeds call => s.succeeds call
    | .refused call left => s.refused call left
    | .unreachable call left => s.unreachable call left
    | .reads call => s.reads call
    | .throws call => s.throws call
    | .commits call => s.commits call
    | .storeFails call => s.storeFails call

end OpenMcc

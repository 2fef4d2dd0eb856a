import OpenMcc.Construction.ReadConnections
import OpenMcc.Framework.Transition

/-!
# Commands over one transport (`connection.ts`, `exec.ts`, `limiter.ts`)

A call of `exec` waits for a slot of the limiter (`acquireWithinDeadline`), asks the host for a
channel (`execWithBoundedAcquisition`) and runs its command on it (`execViaChannel`).  Each phase
has a timer of its own on what is left of the deadline, and a call may give up while the host has
not yet answered its request for a channel; the answer then comes late.

A call is an `ExecCall`, whose `step` is what happens to it alone.  An `ExecTransport` is the
limiter with all calls, in the order in which they were made.
-/

namespace OpenMcc

/-- `DEFAULT_EXEC_CONCURRENCY`. -/
def defaultExecConcurrency : Nat := 6

/-- `MAX_STDOUT_BYTES`. -/
def maxStdoutBytes : Nat := 1024 * 1024

/-- `MAX_STDERR_BYTES`. -/
def maxStderrBytes : Nat := 1024 * 1024

/-- What the promise of a call is settled with. -/
inductive ExecOutcome
  /-- `Transport is not connected`. -/
  | notConnected
  /-- `ChannelQueueExpiredError`. -/
  | queueExpired
  /-- What `conn.exec` threw. -/
  | threw
  /-- `ChannelOpenTimedOutError`. -/
  | openTimedOut
  /-- What the host refused the channel with. -/
  | refused
  /-- `CommandTimedOutError`. -/
  | timedOut
  /-- `StreamOverflowError`. -/
  | overflowed
  /-- `CommandAbortedError`. -/
  | aborted
  /-- The result of the command. -/
  | exited
  deriving DecidableEq, Repr

/-- Where a call of `exec` has come to. -/
inductive ExecStage
  /-- It waits for a slot. -/
  | queued
  /-- It has a slot, and has yet to go on. -/
  | admitted
  /-- It waits for `execWithBoundedAcquisition`. -/
  | awaiting
  /-- That has settled, and its `finally` is to run. -/
  | settled
  | ended
  deriving DecidableEq, Repr

/-- The channel of a call. -/
inductive ExecChannel
  | unasked
  /-- The request is on its way, or its answer. -/
  | asked
  | opened
  | refused
  | closed
  | destroyed
  deriving DecidableEq, Repr

/-- A call of `exec`. -/
structure ExecCall where
  stage : ExecStage
  channel : ExecChannel
  /-- The timer of `acquireWithinDeadline`. -/
  queueTimer : Bool
  /-- `timer` and `settled` of `execWithBoundedAcquisition`. -/
  openTimer : Bool
  openSettled : Bool
  /-- `timer` and `settled` of `execViaChannel`. -/
  commandTimer : Bool
  commandSettled : Bool
  /-- The listeners of `execViaChannel` are on the channel, which has not been seen to close. -/
  listening : Bool
  stdout : Nat
  stderr : Nat
  /-- What its promise was settled with, each time. -/
  outcomes : List ExecOutcome
  /-- How often it was given a slot, and gave it back. -/
  acquired : Nat
  released : Nat
  deriving DecidableEq, Repr

/-- What happens to one call. -/
inductive ExecCallEvent
  /-- The call goes on with its slot: it asks for a channel, or `conn.exec` throws. -/
  | requests (throws : Bool)
  | openTimer
  /-- The host answers the request for a channel. -/
  | opens
  | refuses
  | stdout (bytes : Nat)
  | stderr (bytes : Nat)
  | commandTimer
  /-- The channel closes, with an exit status or without. -/
  | closes (exited : Bool)
  deriving DecidableEq, Repr

namespace ExecCall

/-- A call that waits for a slot. -/
def waits : ExecCall where
  stage := .queued
  channel := .unasked
  queueTimer := true
  openTimer := false
  openSettled := false
  commandTimer := false
  commandSettled := false
  listening := false
  stdout := 0
  stderr := 0
  outcomes := []
  acquired := 0
  released := 0

/-- The call is given a slot, and the timer of its wait is cleared. -/
def admission (call : ExecCall) : ExecCall :=
  { call with stage := .admitted, queueTimer := false, acquired := call.acquired + 1 }

/-- The call ends without a slot. -/
def fail (call : ExecCall) (outcome : ExecOutcome) : ExecCall :=
  { call with stage := .ended, queueTimer := false, outcomes := [outcome] }

/-- The call ends, and gives its slot back. -/
def give (call : ExecCall) : ExecCall :=
  { call with stage := .ended, released := call.released + 1 }

/-- The promise of `execWithBoundedAcquisition` settles.  What it is resolved or rejected with
after it has settled has no effect. -/
def settle (call : ExecCall) (outcome : ExecOutcome) : ExecCall :=
  if call.stage = .awaiting then
    { call with stage := .settled, outcomes := call.outcomes ++ [outcome] }
  else call

/-- `execViaChannel` settles, and with it `execWithBoundedAcquisition`. -/
def settleCommand (call : ExecCall) (outcome : ExecOutcome) : ExecCall :=
  { call with commandSettled := true, commandTimer := false, openSettled := true }.settle outcome

/-- `channel.destroy()`. -/
def destroy (call : ExecCall) : ExecCall := { call with channel := .destroyed }

/-- The listeners of `onStdout` and `onStderr`, with what a stream holds then. -/
def append (call after : ExecCall) (length limit : Nat) : ExecCall :=
  if call.commandSettled then call
  else if length ≤ limit then after
  else call.destroy.settleCommand .overflowed

/-- What happens to the call alone. -/
def step (call : ExecCall) : ExecCallEvent → Option ExecCall
  | .requests throws =>
    if call.stage = .admitted then
      let asking := { call with stage := .awaiting, openTimer := true }
      some (if throws then asking.settle .threw else { asking with channel := .asked })
    else none
  | .openTimer =>
    if call.openTimer then
      let fired := { call with openTimer := false }
      some (if call.openSettled then fired
        else { fired with openSettled := true }.settle .openTimedOut)
    else none
  | .opens =>
    if call.channel = .asked then
      some (if call.openSettled then { call with channel := .destroyed }
        else
          { call with channel := .opened, openTimer := false, commandTimer := true, listening := true })
    else none
  | .refuses =>
    if call.channel = .asked then
      some (if call.openSettled then { call with channel := .refused }
        else { call with channel := .refused, openTimer := false, openSettled := true }.settle
          .refused)
    else none
  | .stdout bytes =>
    if call.listening then
      let length := call.stdout + bytes
      some (call.append { call with stdout := length } length maxStdoutBytes)
    else none
  | .stderr bytes =>
    if call.listening then
      let length := call.stderr + bytes
      some (call.append { call with stderr := length } length maxStderrBytes)
    else none
  | .commandTimer =>
    if call.commandTimer then
      some (if call.commandSettled then { call with commandTimer := false }
        else call.destroy.settleCommand .timedOut)
    else none
  | .closes exited =>
    if call.listening then
      let closed := { call with channel := .closed, listening := false }
      some (if call.commandSettled then closed
        else closed.settleCommand (if exited then .exited else .aborted))
    else none

/-- The host has been asked for the channel, and it was not refused, closed or destroyed. -/
def hasChannel (call : ExecCall) : Bool := call.channel == .asked || call.channel == .opened

/-- The call holds a slot. -/
def holdsSlot (call : ExecCall) : Bool :=
  call.stage == .admitted || call.stage == .awaiting || call.stage == .settled

/-- The call has given up on its request for a channel, and the host has not answered it. -/
def gaveUp (call : ExecCall) : Bool := call.channel == .asked && call.openSettled

/-- The call is at work with a request or a channel. -/
def atWork (call : ExecCall) : Bool := call.stage == .awaiting && call.hasChannel

end ExecCall

/-- A transport, with the calls of its `exec`. -/
structure ExecTransport where
  limiter : Limiter
  calls : List ExecCall
  deriving DecidableEq, Repr

/-- What can happen next. -/
inductive ExecEvent
  /-- `exec` is called. -/
  | calls (connected : Bool)
  /-- The timer of `acquireWithinDeadline` fires. -/
  | queueTimer (call : Nat)
  /-- Something happens to a call alone. -/
  | own (call : Nat) (event : ExecCallEvent)
  /-- The `finally` of `exec` runs. -/
  | gives (call : Nat)
  deriving DecidableEq, Repr

/-- The event comes by itself: a timer that is set fires, or a continuation that is to run does. -/
def ExecCallEvent.isDue : ExecCallEvent → Bool
  | .requests _ | .openTimer | .commandTimer => true
  | _ => false

/-- The event comes by itself. -/
def ExecEvent.isDue : ExecEvent → Bool
  | .calls _ => false
  | .queueTimer _ | .gives _ => true
  | .own _ event => event.isDue

namespace ExecTransport

/-- The limiter admits a call that waited, if one did. -/
def admits (s : ExecTransport) : Option Nat → ExecTransport
  | none => s
  | some id =>
    match s.calls[id]? with
    | none => s
    | some call => { s with calls := s.calls.set id call.admission }

/-- The state after an event. -/
def step (s : ExecTransport) : ExecEvent → Option ExecTransport
  | .calls connected =>
    if connected then
      let (admitted, limiter) := s.limiter.acquire defaultExecConcurrency s.calls.length
      let call := if admitted then ExecCall.waits.admission else ExecCall.waits
      some ⟨limiter, s.calls ++ [call]⟩
    else
      some { s with calls := s.calls ++ [ExecCall.waits.fail .notConnected] }
  | .queueTimer id =>
    match s.calls[id]? with
    | none => none
    | some call =>
      if call.queueTimer then
        some ⟨s.limiter.abort id, s.calls.set id (call.fail .queueExpired)⟩
      else none
  | .own id event =>
    match s.calls[id]? with
    | none => none
    | some call => (call.step event).map fun call' => { s with calls := s.calls.set id call' }
  | .gives id =>
    match s.calls[id]? with
    | none => none
    | some call =>
      if call.stage = .settled then
        let (next, limiter) := s.limiter.release
        some (admits ⟨limiter, s.calls.set id call.give⟩ next)
      else none

/-- The channels asked of the host and not refused, closed or destroyed. -/
def channels (s : ExecTransport) : Nat := s.calls.countP ExecCall.hasChannel

/-- The requests that their calls gave up and that the host has not answered. -/
def gaveUp (s : ExecTransport) : Nat := s.calls.countP ExecCall.gaveUp

/-- The calls at work with a request or a channel. -/
def atWork (s : ExecTransport) : Nat := s.calls.countP ExecCall.atWork

/-- No timer is set, and no continuation is to run. -/
def AtRest (s : ExecTransport) : Prop :=
  ∀ call ∈ s.calls, call.queueTimer = false ∧ call.openTimer = false ∧ call.commandTimer = false ∧
    call.stage ≠ .admitted ∧ call.stage ≠ .settled

end ExecTransport

/-- A transport just opened. -/
def execTransport : TransitionSystem ExecTransport ExecEvent where
  init s := s = ⟨⟨0, []⟩, []⟩
  step := ExecTransport.step

open TransitionSystem

/-- What is asked of the calls on a transport. -/
structure ExecSound (s : ExecTransport) : Prop where
  bounded : s.channels ≤ defaultExecConcurrency
  /-- A channel that is open has a timer that will destroy it. -/
  disposed : ∀ call ∈ s.calls, call.channel = .opened → call.commandTimer = true
  once : ∀ call ∈ s.calls, call.outcomes.length ≤ 1 ∧ call.released ≤ call.acquired ∧
    call.acquired ≤ 1
  /-- The timers and continuations end by themselves, -/
  rests : ∃ es t, (∀ e ∈ es, e.isDue = true) ∧ execTransport.Path free s es t ∧ t.AtRest
  /-- and whenever they have, every call has settled, has given back its slot, and has no channel
  that is open. -/
  ends : ∀ es t, execTransport.Path free s es t → t.AtRest → ∀ call ∈ t.calls,
    call.stage = .ended ∧ call.outcomes.length = 1 ∧ call.released = call.acquired ∧
      call.channel ≠ .opened

end OpenMcc

import OpenMcc.Construction.Journal

/-!
# Connection changes (`status/connection.ts`)

The states a bot's connection is recorded in, the changes that a list of signals makes from a
current state, and the escalation of an interruption that lasts.
-/

namespace OpenMcc

/-- The members of `STATUS_EVENT_KINDS` that a connection is recorded with. -/
inductive StatusEventKind
  | instanceJoined
  | instanceDisconnected
  | instanceReconnected
  | instanceKicked
  | instanceConnectionLost
  | instanceFlapping
  | instanceStopped
  deriving DecidableEq, Repr

/-- `CONNECTION_STATES`. -/
inductive ConnectionState
  | joined | interrupted | down | neverJoined | unknown
  deriving DecidableEq, Repr

/-- `ConnectionCurrent`. -/
structure ConnectionCurrent where
  state : ConnectionState
  since : Option Int
  pid : Option Text
  deriving DecidableEq, Repr

/-- `ConnectionChange`. -/
structure ConnectionChange where
  state : ConnectionState
  time : Int
  pid : Option Text
  event : Option StatusEventKind
  reason : Option Text
  deriving DecidableEq, Repr

/-- `UNOBSERVED_CONNECTION`. -/
def unobservedConnection : ConnectionCurrent := ⟨.unknown, none, none⟩

/-- `KICK_HINTS`. -/
def kickHints : List Text := ["kick".toList, "banned".toList]

/-- `looksLikeKick`. -/
def looksLikeKick (toLowerCase : Text → Text) : Option Text → Bool
  | none => false
  | some reason => kickHints.any fun hint => Text.includes (toLowerCase reason) hint

/-- The change one signal makes, if any: the body of the loop of `changesFromSignals`. -/
def changeFromSignal (toLowerCase : Text → Text) (state : ConnectionState) :
    ConnectionSignal → Option ConnectionChange
  | .joined time pid =>
    if state = .joined then none
    else some {
      state := .joined
      time := time
      pid := some pid
      event := some (if state = .unknown then .instanceJoined else .instanceReconnected)
      reason := none }
  | .stopped time pid =>
    if state = .down then none
    else some {
      state := .down
      time := time
      pid := some pid
      event := some .instanceStopped
      reason := none }
  | .disconnected time pid reason =>
    if state = .interrupted ∨ state = .down then none
    else some {
      state := .interrupted
      time := time
      pid := some pid
      event := some (if looksLikeKick toLowerCase reason then .instanceKicked
        else .instanceConnectionLost)
      reason := reason }

/-- `changesFromSignals`, from the state of the current connection. -/
def changesFromSignals (toLowerCase : Text → Text) (state : ConnectionState) :
    List ConnectionSignal → List ConnectionChange
  | [] => []
  | signal :: rest =>
    match changeFromSignal toLowerCase state signal with
    | none => changesFromSignals toLowerCase state rest
    | some change => change :: changesFromSignals toLowerCase change.state rest

/-! ## Escalation -/

/-- `INSTANCE_INTERRUPTED_TO_DOWN_MS`. -/
def instanceInterruptedToDownMs : Int := 2 * 60 * 1000

/-- `escalateIfStillDown`. -/
def escalateIfStillDown (current : ConnectionCurrent) (now graceMs : Int) :
    Option ConnectionChange :=
  match current.state, current.since with
  | .interrupted, some since =>
    if now - since < graceMs then none
    else some {
      state := .down
      time := now
      pid := current.pid
      event := some .instanceDisconnected
      reason := none }
  | _, _ => none

end OpenMcc

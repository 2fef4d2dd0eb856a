import OpenMcc.Construction.JoinSightings
import OpenMcc.Construction.RespawnSightings
import Mathlib.Data.List.Perm.Basic

/-!
# Ticks over the logins of one bot (`task-scheduler.ts`, `task.repository.ts`)

A tick sweeps old signals, records the joins and respawns it has sighted, one transaction each, and
then reads the signals of the catch-up window.  What the task's row claims of them are the claims
the tick yields.

The rows that are read stand newest first.  Rows of one instant stand in any order, so the rows a
tick is answered with are part of its event.
-/

namespace OpenMcc

/-- `TASK_SIGNAL_RETENTION_DAYS`, in milliseconds. -/
def taskSignalRetentionMs : Int := 120 * 24 * 60 * 60 * 1000

/-- A stored login as a row. -/
def LoginSignal.row (signal : LoginSignal) : InstanceSignalRow where
  kind := .login
  identity := .login signal.identity.1 signal.identity.2
  process := some signal.process
  firstForProcess := signal.firstForProcess
  occurredAt := signal.occurredAt
  observedAt := signal.observedAt

/-- The stored signals of the bot, the instant of the latest tick and whether it is still to read
them, the last tick that has read them, and the claims the ticks have yielded. -/
structure SignalState where
  logins : List LoginSignal
  respawns : List InstanceSignalRow
  clock : Int
  ticking : Bool
  read : Option Int
  claims : List TaskClaim
  deriving DecidableEq

/-- What can happen next. -/
inductive SignalEvent
  /-- A tick reads the clock and sweeps; the store may not answer. -/
  | begins (instant : Int) (storeAnswers : Bool)
  /-- The transaction of a join. -/
  | joins (join : JoinSighting)
  /-- The transaction of a respawn. -/
  | respawns (respawn : RespawnSighting)
  /-- The signals of the window are read. -/
  | reads (rows : List InstanceSignalRow)
  deriving DecidableEq

namespace SignalState

/-- The stored rows. -/
def rows (s : SignalState) : List InstanceSignalRow := s.logins.map LoginSignal.row ++ s.respawns

/-- `signalsSince`: the rows of the window in one of the orders that are newest first. -/
def SignalsSince (s : SignalState) (since : Int) (rows : List InstanceSignalRow) : Prop :=
  rows.Perm (s.rows.filter fun row => decide (since ≤ row.occurredAt)) ∧
    rows.Pairwise fun newer older => older.occurredAt ≤ newer.occurredAt

instance (s : SignalState) (since : Int) (rows : List InstanceSignalRow) :
    Decidable (s.SignalsSince since rows) :=
  inferInstanceAs (Decidable (_ ∧ _))

/-- `pruneSignals`. -/
def pruned (s : SignalState) (before : Int) : SignalState := { s with
  logins := s.logins.filter fun signal => decide (before ≤ signal.occurredAt)
  respawns := s.respawns.filter fun signal => decide (before ≤ signal.occurredAt) }

def begins (s : SignalState) (instant : Int) (storeAnswers : Bool) : SignalState :=
  { if storeAnswers then s.pruned (instant - taskSignalRetentionMs) else s with
    clock := instant
    ticking := true }

def joins (s : SignalState) (join : JoinSighting) : Option SignalState :=
  if s.ticking then some { s with logins := recordJoin s.logins join s.clock } else none

def sightsRespawn (s : SignalState) (respawn : RespawnSighting) : Option SignalState :=
  if s.ticking then some { s with respawns := recordRespawn s.respawns respawn s.clock } else none

/-- The tick reads the signals, and yields what the task claims of them. -/
def reads (row : InstanceTaskRow) (s : SignalState) (rows : List InstanceSignalRow) :
    Option SignalState :=
  if s.ticking ∧ s.SignalsSince (s.clock - taskSignalCatchUpMs) rows then some { s with
    ticking := false
    read := some s.clock
    claims := signalClaims row rows ++ s.claims }
  else none

end SignalState

/-- Ticks over one bot that runs, for one of its tasks. -/
def taskSignals (row : InstanceTaskRow) : TransitionSystem SignalState SignalEvent where
  init s := s.logins = [] ∧ s.respawns = [] ∧ s.ticking = false ∧ s.read = none ∧ s.claims = []
  step s
    | .begins instant storeAnswers => some (s.begins instant storeAnswers)
    | .joins join => s.joins join
    | .respawns respawn => s.sightsRespawn respawn
    | .reads rows => s.reads row rows

/-- The clock never goes back, and a tick comes less than the catch-up after the last that read the
signals. -/
def spacedTicks (s : SignalState) : SignalEvent → Bool
  | .begins instant _ => decide (s.clock ≤ instant) &&
    s.read.all fun read => decide (instant - read < taskSignalCatchUpMs)
  | _ => true

/-- The first join of its process among the events of a run. -/
def IsFirstLogin (events : List SignalEvent) (join : JoinSighting) : Prop :=
  ∃ before after, events = before ++ .joins join :: after ∧
    ∀ other, .joins other ∈ before → other.process ≠ join.process

/-- The claim of a first login. -/
def firstLoginClaim (join : JoinSighting) : TaskClaim :=
  ⟨.firstLogin, .login (.login join.process join.occurredAt)⟩

end OpenMcc

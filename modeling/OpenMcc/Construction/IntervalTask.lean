import OpenMcc.Construction.Task
import OpenMcc.Framework.Transition

/-!
# Ticks over one interval task (`task-scheduler.ts`, `task.repository.ts`)

A tick reads the stored task and whether the bot is running, plans, stores the plan's arm, and
then claims the run under the key of the plan it fired on.  It may end after any of these: it
throws, it is answered with an error, or the process stops.  A claim that was stored counts as a
firing, whether or not the run is then carried out.

One process ticks, so nothing else writes the task between a tick's reading and its arm.
-/

namespace OpenMcc

/-- `TASK_INTERVAL_MIN_SECONDS`, which the store checks as well. -/
def taskIntervalMinSeconds : Int := 5

/-- `armInterval`. -/
def armInterval (row : InstanceTaskRow) (arm : IntervalArm) : InstanceTaskRow :=
  { row with intervalNextRunAt := some arm.nextRunAt, intervalObservedAt := some arm.observedAt }

/-- A tick over the task.  `armedFor` and `armedHeld` are the state's, as the tick found them. -/
structure IntervalTick where
  instant : Int
  running : Bool
  drawn : Int
  plan : IntervalPlan
  stored : Bool
  armedFor : Int
  armedHeld : Int
  deriving DecidableEq, Repr

/-- A firing: its key and the tick's instant, the time that had been held and been away by then,
and what the task was last armed for before it. -/
structure Firing where
  key : Int
  instant : Int
  held : Int
  away : Int
  armedFor : Int
  armedHeld : Int
  deriving DecidableEq, Repr

/-- The stored task, the tick in progress and the firings so far, the newest first.

The rest is bookkeeping of the run.  `held` is the time in gaps, from one stored observation to the
next, that ended at a tick where the bot was not running; `away` is the time in gaps from one tick
to the next that did.  `armedFor` is the instant a jitter last armed the task for, and `armedHeld`
what had been held by then. -/
structure IntervalState where
  row : InstanceTaskRow
  clock : Int
  tick : Option IntervalTick
  firings : List Firing
  ticked : Option Int
  held : Int
  away : Int
  armedFor : Int
  armedHeld : Int
  deriving DecidableEq, Repr

/-- What can happen next. -/
inductive IntervalEvent
  /-- A tick reads the clock, the task and the bot, and plans. -/
  | plans (instant : Int) (running : Bool) (drawn : Int)
  /-- The arm of the plan is stored. -/
  | arms
  /-- The run is claimed. -/
  | claims
  /-- The tick is over. -/
  | stops
  deriving DecidableEq, Repr

namespace IntervalState

/-- The time since the last of some instants. -/
def since (last : Option Int) (instant : Int) : Int := instant - last.getD instant

/-- The tick plans. -/
def plans (s : IntervalState) (instant : Int) (running : Bool) (drawn : Int) :
    Option IntervalState :=
  match s.tick with
  | some _ => none
  | none => some { s with
      clock := instant
      ticked := some instant
      away := if running then s.away else s.away + since s.ticked instant
      tick := some {
        instant := instant
        running := running
        drawn := drawn
        plan := intervalPlan s.row instant running fun _ _ => drawn
        stored := false
        armedFor := s.armedFor
        armedHeld := s.armedHeld } }

/-- The bookkeeping of a stored arm. -/
def keeps (s : IntervalState) (instant : Int) (arm : IntervalArm) :
    IntervalPlan → IntervalState
  | .hold _ => { s with held := s.held + since s.row.intervalObservedAt instant }
  | .arm _ => { s with armedFor := arm.nextRunAt, armedHeld := s.held }
  | .fire _ _ => { s with armedFor := arm.nextRunAt, armedHeld := s.held }
  | _ => s

/-- The tick stores its arm. -/
def arms (s : IntervalState) : Option IntervalState :=
  match s.tick with
  | none => none
  | some tick =>
    match intervalArmOf tick.plan with
    | none => none
    | some arm =>
      if tick.stored then none
      else some { s.keeps tick.instant arm tick.plan with
        row := armInterval s.row arm
        tick := some { tick with stored := true } }

/-- The tick claims the run: a key that is stored is not stored again. -/
def claims (s : IntervalState) : Option IntervalState :=
  match s.tick with
  | none => none
  | some tick =>
    match intervalClaimOf tick.plan with
    | some ⟨_, .interval armed⟩ =>
      if tick.stored && tick.running then
        if s.firings.any fun firing => firing.key == armed then some { s with tick := none }
        else some { s with
          tick := none
          firings := {
            key := armed
            instant := tick.instant
            held := s.held
            away := s.away
            armedFor := tick.armedFor
            armedHeld := tick.armedHeld } :: s.firings }
      else none
    | _ => none

/-- The tick is over. -/
def stops (s : IntervalState) : Option IntervalState :=
  match s.tick with
  | none => none
  | some _ => some { s with tick := none }

end IntervalState

/-- What the store checks of the bounds of an interval. -/
def OrderedInterval (row : InstanceTaskRow) : Prop :=
  ∃ minSeconds maxSeconds, row.intervalMinSeconds = some minSeconds ∧
    row.intervalMaxSeconds = some maxSeconds ∧ taskIntervalMinSeconds ≤ minSeconds ∧
    minSeconds ≤ maxSeconds

/-- Ticks over one interval task, from its creation or its last edit on. -/
def intervalTask : TransitionSystem IntervalState IntervalEvent where
  init s := OrderedInterval s.row ∧ s.row.intervalNextRunAt = none ∧
    s.row.intervalObservedAt = none ∧ s.tick = none ∧ s.firings = [] ∧ s.ticked = none
  step s
    | .plans instant running drawn => s.plans instant running drawn
    | .arms => s.arms
    | .claims => s.claims
    | .stops => s.stops

/-- The clock never goes back, and the jitter draws between the bounds. -/
def steadyClock (s : IntervalState) : IntervalEvent → Bool
  | .plans instant _ drawn => decide (s.clock ≤ instant) &&
    match s.row.intervalMinSeconds, s.row.intervalMaxSeconds with
    | some minSeconds, some maxSeconds => decide (minSeconds ≤ drawn ∧ drawn ≤ maxSeconds)
    | _, _ => true
  | _ => true

end OpenMcc

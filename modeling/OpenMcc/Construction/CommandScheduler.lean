import OpenMcc.Construction.Due
import OpenMcc.Framework.Transition

/-!
# Scheduler ticks over one daily command (`scheduler.ts`, `command.repository.ts`)

`runSchedulerTick` reads the clock, then the enabled rows, and then handles each row by itself:
it decides from the row *as it was read* whether the command is due, claims the run with one
conditional update of the *stored* row, and sends.  Any number of processes tick, so the stored
row may change between a tick's read and its claim.

The system below follows one command.  Each process holds at most one tick at a time, as
`startScheduler` sees to, and a tick's instant is arbitrary: no order between the clocks of two
processes is assumed.  The store may fail to answer any write, which the source logs and passes
over.
-/

namespace OpenMcc

/-- The columns of `instanceCommand` the scheduler reads and writes. -/
structure InstanceCommandRow where
  daysOfWeek : Text
  minuteOfDay : Int
  timezone : Text
  enabled : Bool
  lastRunAt : Option Int
  lastRunError : Option Text
  deriving DecidableEq, Repr

/-- `candidateFor`. -/
def candidateFor (row : InstanceCommandRow) : DueCandidate where
  daysOfWeek := parseDaysOfWeek row.daysOfWeek
  minuteOfDay := row.minuteOfDay
  timezone := row.timezone
  enabled := row.enabled
  lastRunAt := row.lastRunAt

/-- `claimRun`: the row after a granted claim, and `none` where the `where` clause misses. -/
def claimRun (row : InstanceCommandRow) (ranAt notRunSince : Int) : Option InstanceCommandRow :=
  match row.lastRunAt with
  | none => some { row with lastRunAt := some ranAt, lastRunError := none }
  | some last =>
    if last < notRunSince then some { row with lastRunAt := some ranAt, lastRunError := none }
    else none

/-- `recordRun`, which writes whatever the row holds. -/
def recordRun (row : InstanceCommandRow) (ranAt : Int) (error : Option Text) :
    InstanceCommandRow :=
  { row with lastRunAt := some ranAt, lastRunError := error }

/-- A tick in flight: its instant, the row it read, and whether it holds the claim. -/
structure Tick where
  instant : Int
  row : InstanceCommandRow
  claimed : Bool
  deriving DecidableEq, Repr

/-- The stored row, the ticks in flight by process, and the instants of the claims granted so
far, the newest first. -/
structure SchedulerState where
  row : InstanceCommandRow
  ticks : Nat → Option Tick
  claims : List Int

/-- What can happen next, named by the process it happens in. -/
inductive SchedulerEvent
  /-- A tick reads the clock and then the enabled rows. -/
  | reads (process : Nat) (instant : Int)
  /-- The tick decides whether its row is due and claims the run; the store may not answer. -/
  | considers (process : Nat) (storeAnswers : Bool)
  /-- The claimed run was sent. -/
  | sends (process : Nat)
  /-- Sending the claimed run failed, and the failure is recorded. -/
  | fails (process : Nat) (reason : Text) (storeAnswers : Bool)
  deriving DecidableEq, Repr

namespace SchedulerState

/-- The process is done with its tick. -/
def finish (s : SchedulerState) (process : Nat) : SchedulerState :=
  { s with ticks := Function.update s.ticks process none }

/-- The tick reads the enabled rows. -/
def reads (s : SchedulerState) (process : Nat) (instant : Int) : Option SchedulerState :=
  match s.ticks process with
  | some _ => none
  | none =>
    if s.row.enabled then
      some { s with ticks := Function.update s.ticks process (some ⟨instant, s.row, false⟩) }
    else some s

/-- The body of the loop up to the claim. -/
def considers (intl : Intl) (s : SchedulerState) (process : Nat) (storeAnswers : Bool) :
    Option SchedulerState :=
  match s.ticks process with
  | some ⟨instant, row, false⟩ =>
    match isDue intl (candidateFor row) instant with
    | .error unknown =>
      if storeAnswers then
        some { s.finish process with row := recordRun s.row instant (some unknown.message) }
      else some (s.finish process)
    | .ok false => some (s.finish process)
    | .ok true =>
      match startOfLocalDay intl row.timezone instant with
      | .error _ => some (s.finish process)
      | .ok start =>
        if storeAnswers then
          match claimRun s.row instant start with
          | none => some (s.finish process)
          | some claimed => some {
              row := claimed
              ticks := Function.update s.ticks process (some ⟨instant, row, true⟩)
              claims := instant :: s.claims }
        else some (s.finish process)
  | _ => none

/-- The claimed run was sent, and nothing is written. -/
def sends (s : SchedulerState) (process : Nat) : Option SchedulerState :=
  match s.ticks process with
  | some ⟨_, _, true⟩ => some (s.finish process)
  | _ => none

/-- The claimed run could not be sent, and the failure is recorded under the tick's instant. -/
def fails (s : SchedulerState) (process : Nat) (reason : Text) (storeAnswers : Bool) :
    Option SchedulerState :=
  match s.ticks process with
  | some ⟨instant, _, true⟩ =>
    if storeAnswers then
      some { s.finish process with row := recordRun s.row instant (some reason) }
    else some (s.finish process)
  | _ => none

end SchedulerState

/-- Ticks of any number of processes over one command, from any stored row. -/
def commandScheduler (intl : Intl) : TransitionSystem SchedulerState SchedulerEvent where
  init s := (∀ process, s.ticks process = none) ∧ s.claims = []
  step s
    | .reads process instant => s.reads process instant
    | .considers process storeAnswers => s.considers intl process storeAnswers
    | .sends process => s.sends process
    | .fails process reason storeAnswers => s.fails process reason storeAnswers

/-- The command was claimed at most once per calendar day of its time zone. -/
def OncePerLocalDay (intl : Intl) (s : SchedulerState) : Prop :=
  ∀ offset, intl s.row.timezone = some offset → (s.claims.map (localDate offset)).Nodup

/-! ## What a step can do -/

lemma claimRun_eq_some {row claimed : InstanceCommandRow} {ranAt notRunSince : Int}
    (h : claimRun row ranAt notRunSince = some claimed) :
    claimed = { row with lastRunAt := some ranAt, lastRunError := none } ∧
      ∀ last, row.lastRunAt = some last → last < notRunSince := by
  unfold claimRun at h
  cases hlast : row.lastRunAt with
  | none =>
      rw [hlast] at h
      exact ⟨(Option.some.inj h).symm, by simp⟩
  | some last =>
      rw [hlast] at h
      simp only [Option.ite_none_right_eq_some, Option.some.injEq] at h
      refine ⟨h.2.symm, fun _ heq => ?_⟩
      rw [← Option.some.inj heq]
      exact h.1

/-- The three things a step can do to the row and the claims: nothing, write down a run of the
tick's own instant, or grant a claim to a tick that found its row due. -/
inductive SchedulerEffect (intl : Intl) (s t : SchedulerState) : SchedulerEvent → Prop
  | quiet {e : SchedulerEvent} (row : t.row = s.row) (claims : t.claims = s.claims) :
      SchedulerEffect intl s t e
  | unknownZone {process : Nat} {tick : Tick} (tick_eq : s.ticks process = some tick)
      (zone : intl tick.row.timezone = none)
      (timezone : t.row.timezone = s.row.timezone)
      (minuteOfDay : t.row.minuteOfDay = s.row.minuteOfDay) (claims : t.claims = s.claims) :
      SchedulerEffect intl s t (.considers process true)
  | failed {process : Nat} {reason : Text} {tick : Tick} (tick_eq : s.ticks process = some tick)
      (row : t.row = recordRun s.row tick.instant (some reason)) (claims : t.claims = s.claims) :
      SchedulerEffect intl s t (.fails process reason true)
  | granted {process : Nat} {tick : Tick} {start : Int}
      (tick_eq : s.ticks process = some tick)
      (due : isDue intl (candidateFor tick.row) tick.instant = .ok true)
      (start_eq : startOfLocalDay intl tick.row.timezone tick.instant = .ok start)
      (before : ∀ last, s.row.lastRunAt = some last → last < start)
      (row : t.row = { s.row with lastRunAt := some tick.instant, lastRunError := none })
      (claims : t.claims = tick.instant :: s.claims) :
      SchedulerEffect intl s t (.considers process true)

lemma isDue_error_zone {intl : Intl} {candidate : DueCandidate} {instant : Int}
    {unknown : UnknownTimezoneError} (h : isDue intl candidate instant = .error unknown) :
    intl candidate.timezone = none := by
  cases hzone : intl candidate.timezone with
  | none => rfl
  | some offset =>
      exfalso
      simp only [isDue, zonedMoment_of_known hzone] at h
      split at h
      · cases h
      · split at h
        · cases h
        · simp only [bind, Except.bind, pure, Except.pure] at h
          repeat' split at h
          all_goals cases h

lemma SchedulerState.considers_effect {intl : Intl} {s t : SchedulerState} {process : Nat}
    {storeAnswers : Bool} (h : s.considers intl process storeAnswers = some t) :
    SchedulerEffect intl s t (.considers process storeAnswers) := by
  unfold considers at h
  split at h
  case h_2 => cases h
  case h_1 instant row htick =>
    split at h
    case h_1 unknown herror =>
      cases storeAnswers with
      | false =>
          cases h
          exact .quiet rfl rfl
      | true =>
          cases h
          exact .unknownZone htick (isDue_error_zone herror) rfl rfl rfl
    case h_2 =>
      cases h
      exact .quiet rfl rfl
    case h_3 hdue =>
      split at h
      case h_1 =>
        cases h
        exact .quiet rfl rfl
      case h_2 start hstart =>
        cases storeAnswers with
        | false =>
            cases h
            exact .quiet rfl rfl
        | true =>
            simp only [if_true] at h
            split at h
            case h_1 =>
              cases h
              exact .quiet rfl rfl
            case h_2 claimed hclaim =>
              obtain ⟨hrow, hbefore⟩ := claimRun_eq_some hclaim
              cases h
              exact .granted htick hdue hstart hbefore hrow rfl

lemma SchedulerState.finish_ticks {s : SchedulerState} {process other : Nat} {tick : Tick}
    (h : (s.finish process).ticks other = some tick) : s.ticks other = some tick := by
  simp only [finish, Function.update_apply] at h
  split at h
  · cases h
  · exact h

/-- A tick in flight after a step holds the row stored before it, or was in flight with its row
already. -/
lemma commandScheduler_ticks {intl : Intl} {s t : SchedulerState} {e : SchedulerEvent}
    (h : (commandScheduler intl).step s e = some t) {process : Nat} {tick : Tick}
    (htick : t.ticks process = some tick) :
    tick.row = s.row ∨ ∃ old, s.ticks process = some old ∧ old.row = tick.row := by
  have hold : ∀ p, (s.finish p).ticks process = some tick →
      tick.row = s.row ∨ ∃ old, s.ticks process = some old ∧ old.row = tick.row :=
    fun p hp => Or.inr ⟨tick, SchedulerState.finish_ticks hp, rfl⟩
  cases e with
  | reads p instant =>
      simp only [commandScheduler, SchedulerState.reads] at h
      split at h
      · cases h
      · split at h
        · cases h
          simp only [Function.update_apply] at htick
          split at htick
          · cases htick
            exact Or.inl rfl
          · exact Or.inr ⟨tick, htick, rfl⟩
        · cases h
          exact Or.inr ⟨tick, htick, rfl⟩
  | considers p storeAnswers =>
      simp only [commandScheduler, SchedulerState.considers] at h
      split at h
      case h_2 => cases h
      case h_1 instant row hread =>
        split at h
        case h_1 =>
          split at h
          all_goals
            cases h
            exact hold p htick
        case h_2 =>
          cases h
          exact hold p htick
        case h_3 =>
          split at h
          case h_1 =>
            cases h
            exact hold p htick
          case h_2 =>
            split at h
            case isFalse =>
              cases h
              exact hold p htick
            case isTrue =>
              split at h
              case h_1 =>
                cases h
                exact hold p htick
              case h_2 =>
                cases h
                simp only [Function.update_apply] at htick
                split at htick
                case isTrue heq =>
                  cases htick
                  exact Or.inr ⟨⟨instant, row, false⟩, heq ▸ hread, rfl⟩
                case isFalse => exact Or.inr ⟨tick, htick, rfl⟩
  | sends p =>
      simp only [commandScheduler, SchedulerState.sends] at h
      split at h
      · cases h
        exact hold p htick
      · cases h
  | fails p reason storeAnswers =>
      simp only [commandScheduler, SchedulerState.fails] at h
      split at h
      · split at h
        all_goals
          cases h
          exact hold p htick
      · cases h

lemma commandScheduler_effect {intl : Intl} {s t : SchedulerState} {e : SchedulerEvent}
    (h : (commandScheduler intl).step s e = some t) : SchedulerEffect intl s t e := by
  cases e with
  | reads process instant =>
      simp only [commandScheduler, SchedulerState.reads] at h
      split at h
      · cases h
      · split at h
        · cases h
          exact .quiet rfl rfl
        · cases h
          exact .quiet rfl rfl
  | considers process storeAnswers => exact SchedulerState.considers_effect h
  | sends process =>
      simp only [commandScheduler, SchedulerState.sends] at h
      split at h
      · cases h
        exact .quiet rfl rfl
      · cases h
  | fails process reason storeAnswers =>
      simp only [commandScheduler, SchedulerState.fails] at h
      split at h
      case h_1 instant row htick =>
        cases storeAnswers with
        | false =>
            cases h
            exact .quiet rfl rfl
        | true =>
            cases h
            exact .failed htick rfl rfl
      case h_2 => cases h

/-- No step edits the command. -/
lemma commandScheduler_unedited {intl : Intl} {s t : SchedulerState} {e : SchedulerEvent}
    (h : (commandScheduler intl).step s e = some t) :
    t.row.timezone = s.row.timezone ∧ t.row.minuteOfDay = s.row.minuteOfDay := by
  cases commandScheduler_effect h with
  | quiet row => simp [row]
  | unknownZone _ _ timezone minuteOfDay => exact ⟨timezone, minuteOfDay⟩
  | failed _ row => simp [row, recordRun]
  | granted _ _ _ _ row => simp [row]

end OpenMcc

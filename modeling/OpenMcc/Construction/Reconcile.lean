import Mathlib.Logic.Function.Basic
import OpenMcc.Construction.InstanceRepository
import OpenMcc.Framework.Transition

/-!
# Recording the failures of units (`reconcile.ts`, `instance.controller.ts`)

A reconciliation of a host lists its bots, asks the host for the state of each unit and, once it
has read everything else it wants from the host, writes `error` into the rows of the bots that were
listed as running and whose units were seen to have failed.

The system follows one bot, any number of reconciliations and any number of starts, restarts and
stops.  What the host says of a unit may be anything at any time.  The times at which the unit was
put up are numbered, and an observation remembers how often that had happened.
-/

namespace OpenMcc

/-- `ObservedState`. -/
inductive ObservedState
  | active | inactive | failed | activating | stuck | unknown
  deriving DecidableEq, Repr

/-- `desiredStateIsSatisfied`. -/
def desiredStateIsSatisfied (desired : InstanceStatus) (observed : ObservedState) : Bool :=
  if desired = .running then observed == .active || observed == .activating
  else if observed = .stuck then false
  else if desired = .stopped then observed == .inactive
  else true

/-- The unit is recorded as failed where this holds of what was listed and seen. -/
def unitFailed (listed : InstanceStatus) (observed : ObservedState) : Bool :=
  !desiredStateIsSatisfied listed observed && listed == .running && observed == .failed

/-- `recordUnitFailure`. -/
def InstanceRow.recordUnitFailure (row : InstanceRow) (lastExitCode : Option Int) :
    Option InstanceRow :=
  if row.status = .running ∧ row.configClaimId = none then
    some { row with status := .error, lastExitCode := lastExitCode }
  else none

/-- What an operation does to the unit. -/
inductive UnitVerb
  | start | restart | stop
  deriving DecidableEq, Repr

/-- How far a start, a restart or a stop has got. -/
inductive UnitCall
  | checked (verb : UnitVerb)
  | claimed (verb : UnitVerb)
  /-- A restart or a stop has stopped the unit. -/
  | unitStopped (verb : UnitVerb)
  /-- A start or a restart has put the unit up, for the time with this number. -/
  | unitStarted (number : Nat)
  | releasing
  | ended
  deriving DecidableEq, Repr

/-- How far a reconciliation has got with the bot. -/
inductive ReadingStage
  | listed (status : InstanceStatus)
  /-- The unit was seen to have failed, after so many starts. -/
  | seen (starts : Nat)
  /-- Its exit code was read. -/
  | judged (starts : Nat) (lastExitCode : Option Int)
  | ended
  deriving DecidableEq, Repr

/-- The starts before the observation of a failure that is to be recorded. -/
def ReadingStage.starts? : ReadingStage → Option Nat
  | .seen starts | .judged starts _ => some starts
  | _ => none

/-- The row of the bot, the operations on it by claim id and the reconciliations. -/
structure ReconcileState where
  row : InstanceRow
  /-- How often the unit was put up. -/
  unitStarts : Nat
  /-- The number of the start that the latest successful start or restart made. -/
  latestStart : Nat
  calls : Nat → Option UnitCall
  readings : Nat → Option ReadingStage

/-- What can happen next. -/
inductive ReconcileEvent
  | reads (claimId : Nat) (verb : UnitVerb)
  | claims (claimId : Nat) (managerNow databaseNow : Int)
  | stopsUnit (claimId : Nat)
  | writesToken (claimId : Nat) (sealedToken : Text) (databaseNow : Int)
  | startsUnit (claimId : Nat)
  /-- A step at the host fails, with or without a command that may still be running. -/
  | hostFails (claimId : Nat) (inFlight : Bool)
  | finalizes (claimId : Nat) (storeAnswers : Bool)
  | releases (claimId : Nat) (storeAnswers : Bool)
  | lists (reading : Nat)
  | observes (reading : Nat) (observed : ObservedState)
  | readsExitCode (reading : Nat) (lastExitCode : Option Int)
  | records (reading : Nat) (storeAnswers : Bool)
  /-- The host could not be read to the end. -/
  | interrupts (reading : Nat)
  deriving DecidableEq, Repr

namespace ReconcileState

variable (s : ReconcileState)

def moveTo (claimId : Nat) (call : UnitCall) : ReconcileState :=
  { s with calls := Function.update s.calls claimId (some call) }

def readTo (reading : Nat) (stage : ReadingStage) : ReconcileState :=
  { s with readings := Function.update s.readings reading (some stage) }

/-- The operation up to its claim: a bot that has to sign in is not started. -/
def reads (claimId : Nat) (verb : UnitVerb) : Option ReconcileState :=
  if (s.calls claimId).isSome then none
  else if verb ≠ .stop ∧ s.row.status = .needsAuth then some s
  else some (s.moveTo claimId (.checked verb))

/-- `takeLifecycleClaim`. -/
def claims (claimId : Nat) (managerNow databaseNow : Int) : Option ReconcileState :=
  match s.calls claimId with
  | some (.checked verb) =>
    match s.row.claimForLifecycle claimId managerNow databaseNow with
    | none => some (s.moveTo claimId .releasing)
    | some claimed => some { s.moveTo claimId (.claimed verb) with row := claimed }
  | _ => none

/-- `stopUnitUnderClaim`. -/
def stopsUnit (claimId : Nat) : Option ReconcileState :=
  match s.calls claimId with
  | some (.claimed .restart) => some (s.moveTo claimId (.unitStopped .restart))
  | some (.claimed .stop) => some (s.moveTo claimId (.unitStopped .stop))
  | _ => none

/-- The token of the new environment is stored under the claim. -/
def writesToken (claimId : Nat) (sealedToken : Text) (databaseNow : Int) :
    Option ReconcileState :=
  match s.calls claimId with
  | some (.claimed .start) | some (.unitStopped .restart) =>
    match s.row.writeTokenUnderClaim claimId sealedToken databaseNow with
    | none => some (s.moveTo claimId .releasing)
    | some written => some { s with row := written }
  | _ => none

/-- The unit is put up. -/
def startsUnit (claimId : Nat) : Option ReconcileState :=
  match s.calls claimId with
  | some (.claimed .start) | some (.unitStopped .restart) =>
    some { s.moveTo claimId (.unitStarted (s.unitStarts + 1)) with
      unitStarts := s.unitStarts + 1 }
  | _ => none

def hostFails (claimId : Nat) (inFlight : Bool) : Option ReconcileState :=
  match s.calls claimId with
  | some (.claimed _) | some (.unitStopped _) | some (.unitStarted _) =>
    some (s.moveTo claimId (if inFlight then .ended else .releasing))
  | _ => none

/-- `finalizeLifecycle`. -/
def finalizes (claimId : Nat) (storeAnswers : Bool) : Option ReconcileState :=
  match s.calls claimId with
  | some (.unitStarted number) =>
    match s.row.finalizeConfigClaim claimId (some .running) (some none) with
    | none => some (s.moveTo claimId .releasing)
    | some finalized =>
      if storeAnswers then
        some { s.moveTo claimId .ended with row := finalized, latestStart := number }
      else some (s.moveTo claimId .releasing)
  | some (.unitStopped .stop) =>
    match s.row.finalizeConfigClaim claimId (some .stopped) none with
    | none => some (s.moveTo claimId .releasing)
    | some finalized =>
      if storeAnswers then some { s.moveTo claimId .ended with row := finalized }
      else some (s.moveTo claimId .releasing)
  | _ => none

/-- `releasingClaim`. -/
def releases (claimId : Nat) (storeAnswers : Bool) : Option ReconcileState :=
  match s.calls claimId with
  | some .releasing =>
    if !storeAnswers then some (s.moveTo claimId .ended)
    else some { s.moveTo claimId .ended with
      row := s.row.orUnchanged fun row => row.releaseConfigClaim claimId }
  | _ => none

/-- `reconcileHost` lists the bots. -/
def lists (reading : Nat) : Option ReconcileState :=
  if (s.readings reading).isSome then none
  else some (s.readTo reading (.listed s.row.status))

/-- `reconcileHostOverTransport` asks for the state of the unit. -/
def observes (reading : Nat) (observed : ObservedState) : Option ReconcileState :=
  match s.readings reading with
  | some (.listed status) =>
    if unitFailed status observed then some (s.readTo reading (.seen s.unitStarts))
    else some (s.readTo reading .ended)
  | _ => none

/-- `readUnitExitCode`. -/
def readsExitCode (reading : Nat) (lastExitCode : Option Int) : Option ReconcileState :=
  match s.readings reading with
  | some (.seen starts) => some (s.readTo reading (.judged starts lastExitCode))
  | _ => none

/-- `reconcileHost` records the failure. -/
def records (reading : Nat) (storeAnswers : Bool) : Option ReconcileState :=
  match s.readings reading with
  | some (.judged _ lastExitCode) =>
    if !storeAnswers then some (s.readTo reading .ended)
    else some { s.readTo reading .ended with
      row := s.row.orUnchanged fun row => row.recordUnitFailure lastExitCode }
  | _ => none

def interrupts (reading : Nat) : Option ReconcileState :=
  match s.readings reading with
  | some (.listed _) | some (.seen _) | some (.judged _ _) => some (s.readTo reading .ended)
  | _ => none

end ReconcileState

/-- Any number of operations and reconciliations over one bot. -/
def unitReconciliation : TransitionSystem ReconcileState ReconcileEvent where
  init s := s.latestStart = 0 ∧ s.unitStarts = 0 ∧ (∀ claimId, s.calls claimId = none) ∧
    ∀ reading, s.readings reading = none
  step s
    | .reads claimId verb => s.reads claimId verb
    | .claims claimId managerNow databaseNow => s.claims claimId managerNow databaseNow
    | .stopsUnit claimId => s.stopsUnit claimId
    | .writesToken claimId sealedToken databaseNow => s.writesToken claimId sealedToken databaseNow
    | .startsUnit claimId => s.startsUnit claimId
    | .hostFails claimId inFlight => s.hostFails claimId inFlight
    | .finalizes claimId storeAnswers => s.finalizes claimId storeAnswers
    | .releases claimId storeAnswers => s.releases claimId storeAnswers
    | .lists reading => s.lists reading
    | .observes reading observed => s.observes reading observed
    | .readsExitCode reading lastExitCode => s.readsExitCode reading lastExitCode
    | .records reading storeAnswers => s.records reading storeAnswers
    | .interrupts reading => s.interrupts reading

namespace ReconcileState

variable (s : ReconcileState)

/-- A failure that moves the bot to `error` was seen after the unit was put up by the latest
successful start or restart. -/
def RecordsAfresh : Prop :=
  ∀ reading storeAnswers t, unitReconciliation.step s (.records reading storeAnswers) = some t →
    s.row.status ≠ .error → t.row.status = .error →
    ∃ stage starts, s.readings reading = some stage ∧ stage.starts? = some starts ∧
      s.latestStart ≤ starts

/-- No start or restart succeeds while a failure that was seen before it put the unit up is still
to be recorded. -/
def NoneInTheGap : ReconcileEvent → Prop
  | .finalizes claimId true => ∀ number, s.calls claimId = some (.unitStarted number) →
    s.row.configClaimId = some claimId → ∀ reading stage starts,
      s.readings reading = some stage → stage.starts? = some starts → number ≤ starts
  | _ => True

end ReconcileState

end OpenMcc

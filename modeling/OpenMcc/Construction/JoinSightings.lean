import OpenMcc.Construction.JournalReads
import OpenMcc.Framework.Transition

/-!
# Recording a bot's logins (`task-signals.ts`, `recordJoinSightings`, `recordSignal`)

A drain reads the journal from the stored cursor on, records each join it found in a transaction of
its own, and then saves the cursor of the last entry it read.  The first reading, which has no
cursor, records nothing.

The system follows one bot, whose journal only grows.  Each read and each transaction of a drain is
one step, and the process may stop between any two of them.  A host does not refuse a cursor of its
own journal; it may fail to answer for another reason.
-/

namespace OpenMcc

/-- `JOIN_DRAIN_ROUNDS`. -/
def joinDrainRounds : Nat := 4

/-- `JoinSighting`. -/
structure JoinSighting where
  process : Text
  occurredAt : Int
  deriving DecidableEq, Repr

/-- `JoinReading`. -/
structure JoinReading where
  joins : List JoinSighting
  cursor : Option Text
  seeded : Bool
  refused : Bool
  full : Bool
  deriving DecidableEq, Repr

/-- A signal of a join, as it is sighted. -/
def ConnectionSignal.joinSighting : ConnectionSignal → Option JoinSighting
  | .joined time pid => some ⟨pid, time⟩
  | _ => none

/-- `readJoinSightings`, from what the host answers. -/
def readJoinSightings (parseDate : Text → Option Int) (result : ExecResult)
    (cursor : Option Text) : JoinReading :=
  let resume := journalResume cursor
  if result.exitCode ≠ 0 then {
    joins := []
    cursor := cursor
    seeded := false
    refused := resume.isSome && journalRefusedCursor result.stderr
    full := false }
  else
    let batch := journalBatch result.stdout
    let next := batch.cursor.or cursor
    if resume.isNone then {
      joins := []
      cursor := next
      seeded := true
      refused := false
      full := false }
    else {
      joins := (connectionSignals (parseJournal parseDate
        (Text.join "\n".toList batch.lines))).filterMap ConnectionSignal.joinSighting
      cursor := next
      seeded := false
      refused := false
      full := decide (journalMaxLines < batch.lines.length) }

/-! ## Signals -/

/-- The identity of a login: its process and its second. -/
def JoinSighting.identity (join : JoinSighting) : Text × Int := (join.process, join.occurredAt)

/-- `InstanceSignalRow`, of a login. -/
structure LoginSignal where
  identity : Text × Int
  process : Text
  firstForProcess : Bool
  occurredAt : Int
  observedAt : Int
  deriving DecidableEq, Repr

/-- `hasJoinedAs`. -/
def hasJoinedAs (signals : List LoginSignal) (process : Text) : Bool :=
  signals.any fun signal => signal.process == process

/-- `recordSignal`: one whose identity is recorded is not stored again. -/
def recordSignal (signals : List LoginSignal) (signal : LoginSignal) : List LoginSignal :=
  if signals.any fun row => row.identity == signal.identity then signals else signals ++ [signal]

/-- The transaction of one join in `recordJoinSightings`. -/
def recordJoin (signals : List LoginSignal) (join : JoinSighting) (observedAt : Int) :
    List LoginSignal :=
  recordSignal signals {
    identity := join.identity
    process := join.process
    firstForProcess := !hasJoinedAs signals join.process
    occurredAt := join.occurredAt
    observedAt := observedAt }

/-! ## Drains -/

/-- How far a round of a drain has got: it is about to read, or it has read, and these joins are
not recorded yet. -/
inductive JoinStage
  | reading
  | recording (reading : JoinReading) (left : List JoinSighting)
  deriving DecidableEq, Repr

/-- A drain in progress, from the cursor `position`. -/
structure JoinDrain where
  position : Option Text
  round : Nat
  observedAt : Int
  stage : JoinStage
  deriving DecidableEq, Repr

/-- The journal of a bot, the cursor and the logins stored of it, and the drain in progress.
`seededAt` is the entry whose cursor was saved by the reading that had none. -/
structure JoinState where
  entries : List JournalEntry
  cursor : Option Text
  signals : List LoginSignal
  drain : Option JoinDrain
  seededAt : Option Nat
  deriving DecidableEq

/-- What can happen next. -/
inductive JoinEvent
  | appends (entry : JournalEntry)
  | begins (observedAt : Int)
  /-- The host answers, of whose journal the last week holds the newest `window` entries. -/
  | reads (window : Nat)
  | fails (stderr : Text)
  | records
  | concludes
  | crashes
  deriving DecidableEq

namespace JoinState

def appends (s : JoinState) (entry : JournalEntry) : Option JoinState :=
  if (entryAt s.entries entry.cursor).isNone then some { s with entries := s.entries ++ [entry] }
  else none

def begins (s : JoinState) (observedAt : Int) : Option JoinState :=
  if s.drain.isNone then
    some { s with drain := some {
      position := s.cursor
      round := 0
      observedAt := observedAt
      stage := .reading } }
  else none

/-- The host answers the command of a round. -/
def answers (parseDate : Text → Option Int) (s : JoinState) (result : Option Text → ExecResult) :
    Option JoinState :=
  match s.drain with
  | some { position, round, observedAt, stage := .reading } =>
    let reading := readJoinSightings parseDate (result position) position
    some { s with drain := some {
      position := position
      round := round
      observedAt := observedAt
      stage := .recording reading reading.joins } }
  | _ => none

/-- The next join of a reading is recorded. -/
def records (s : JoinState) : Option JoinState :=
  match s.drain with
  | some { position, round, observedAt, stage := .recording reading (join :: left) } =>
    some { s with
      signals := recordJoin s.signals join observedAt
      drain := some {
        position := position
        round := round
        observedAt := observedAt
        stage := .recording reading left } }
  | _ => none

/-- The drain goes on to its next round, if it has one. -/
def nextRound (s : JoinState) (drain : JoinDrain) (position : Option Text) : JoinState :=
  { s with drain :=
      if drain.round + 1 < joinDrainRounds then
        some { drain with position := position, round := drain.round + 1, stage := .reading }
      else none }

/-- The cursor is saved. -/
def saveCursor (s : JoinState) (reading : JoinReading) (cursor : Text) : JoinState :=
  { s with
    cursor := some cursor
    seededAt := if reading.seeded then entryAt s.entries cursor else s.seededAt }

/-- What follows the recording of a round's joins. -/
def concludes (s : JoinState) : Option JoinState :=
  match s.drain with
  | some { position, round, observedAt, stage := .recording reading [] } =>
    let drain : JoinDrain := { position, round, observedAt, stage := .reading }
    if reading.refused && position.isSome then some (s.nextRound drain none)
    else
      match reading.cursor with
      | none => some { s with drain := none }
      | some next =>
        let saved := if some next ≠ position then s.saveCursor reading next else s
        if reading.full then some (saved.nextRound drain (some next))
        else some { saved with drain := none }
  | _ => none

end JoinState

/-- The logins of one bot. -/
def joinDrains (parseDate : Text → Option Int) : TransitionSystem JoinState JoinEvent where
  init s := s = { entries := [], cursor := none, signals := [], drain := none, seededAt := none }
  step s
    | .appends entry => s.appends entry
    | .begins observedAt => s.begins observedAt
    | .reads window => s.answers parseDate fun position =>
        readJournal s.entries window (journalCommand journalMaxLines position)
    | .fails stderr =>
      if journalRefusedCursor stderr then none
      else s.answers parseDate fun _ => { exitCode := 1, stdout := [], stderr := stderr }
    | .records => s.records
    | .concludes => s.concludes
    | .crashes => some { s with drain := none }

/-! ## What is asked of the logins -/

/-- The join that a line of the journal tells of. -/
def lineJoin (parseDate : Text → Option Int) (raw : Text) : Option JoinSighting :=
  (parseCandidate parseDate raw).bind fun line =>
    (lineSignal line none).bind ConnectionSignal.joinSighting

namespace JoinState

variable (parseDate : Text → Option Int) (s : JoinState)

/-- The join that an entry tells of. -/
def joinAt (number : Nat) : Option JoinSighting :=
  s.entries[number]?.bind fun entry => lineJoin parseDate entry.line

/-- The join is recorded. -/
def Recorded (join : JoinSighting) : Prop := ∃ signal ∈ s.signals, signal.identity = join.identity

/-- Every join after the entry `seed` and up to the entry `last` is recorded. -/
def RecordedBetween (seed last : Nat) : Prop :=
  ∀ number join, seed < number → number ≤ last → s.joinAt parseDate number = some join →
    s.Recorded join

/-- What the stored logins come to. -/
structure JoinsKept : Prop where
  /-- The cursor is that of an entry from the seeding one on, and no join up to it is missing. -/
  noneLost : ∀ seed, s.seededAt = some seed → ∃ cursor last, s.cursor = some cursor ∧
    entryAt s.entries cursor = some last ∧ seed ≤ last ∧ s.RecordedBetween parseDate seed last
  once : (s.signals.map LoginSignal.identity).Nodup
  /-- A login is a join of the journal that the seeding reading did not pass over. -/
  sighted : ∀ signal ∈ s.signals, ∃ seed number join, s.seededAt = some seed ∧ seed ≤ number ∧
    s.joinAt parseDate number = some join ∧ signal.identity = join.identity ∧
      signal.process = join.process ∧ signal.occurredAt = join.occurredAt
  firsts : ∀ earlier signal later, s.signals = earlier ++ signal :: later →
    (signal.firstForProcess = true ↔ ∀ other ∈ earlier, other.process ≠ signal.process)

/-- The next step of a drain that nothing interrupts, or the start of the next one. -/
def next : JoinEvent :=
  match s.drain with
  | none => .begins 0
  | some { stage := .reading, .. } => .reads s.entries.length
  | some { stage := .recording _ [], .. } => .concludes
  | some { stage := .recording _ (_ :: _), .. } => .records

/-- One step of drains that are repeated without interruption. -/
def proceeds : JoinState := ((joinDrains parseDate).step s s.next).getD s

/-- Every join of the journal after the entry `seed` is recorded. -/
def AllRecorded (seed : Nat) : Prop :=
  ∀ number join, seed < number → s.joinAt parseDate number = some join → s.Recorded join

end JoinState

end OpenMcc

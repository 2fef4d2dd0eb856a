import Mathlib.Logic.Function.Iterate
import OpenMcc.Construction.Connection
import OpenMcc.Construction.JournalReads
import OpenMcc.Framework.Transition
import OpenMcc.Properties.Journal

/-!
# Following a bot's connection (`instance-observer.ts`, `currentConnection`)

A poll reads the journal from the stored cursor on and records the changes that the signals make
from the state the bot is recorded in.  A batch that is full ends with a line that is only looked at
for the reason of the one before it: its own signals are left to the next batch, which starts with
it again.

The system follows one bot, whose journal only grows, with the bound `maxLines` on a batch.  A round
of a poll is one step: it reads, records and saves the cursor.
-/

namespace OpenMcc

/-- `JOURNAL_DRAIN_ROUNDS`. -/
def journalDrainRounds : Nat := 4

/-- `InstanceReading`. -/
structure InstanceReading where
  changes : List ConnectionChange
  cursor : Option Text
  full : Bool
  refused : Bool
  deriving DecidableEq, Repr

/-- The change that a reading without a cursor makes of the latest signal. -/
def seededChange : ConnectionSignal → ConnectionChange
  | .joined time pid => {
      state := .joined
      time := time
      pid := some pid
      event := some .instanceJoined
      reason := none }
  | .stopped time pid => {
      state := .down
      time := time
      pid := some pid
      event := some .instanceStopped
      reason := none }
  | .disconnected time pid reason => {
      state := .interrupted
      time := time
      pid := some pid
      event := some .instanceConnectionLost
      reason := reason }

section

variable (parseDate : Text → Option Int) (toLowerCase : Text → Text) (maxLines : Nat)

/-- `readConnectionChanges`, from what the host answers. -/
def readConnectionChanges (result : ExecResult) (current : ConnectionCurrent)
    (cursor : Option Text) : InstanceReading :=
  let resume := journalResume cursor
  if result.exitCode ≠ 0 then {
    changes := []
    cursor := cursor
    full := false
    refused := resume.isSome && journalRefusedCursor result.stderr }
  else
    let batch := journalBatch result.stdout
    let full := resume.isSome && decide (maxLines < batch.lines.length)
    let sighted :=
      connectionSignals (parseJournal parseDate (Text.join "\n".toList batch.lines))
    let beyond := (connectionSignals (parseJournal parseDate
      (if full then Text.join "\n".toList batch.lines.getLast?.toList else []))).length
    let signals := sighted.take (sighted.length - beyond)
    let next := batch.cursor.or cursor
    if resume.isNone then {
      changes := (signals.getLast?.map seededChange).toList
      cursor := next
      full := full
      refused := false }
    else {
      changes := changesFromSignals toLowerCase current.state signals
      cursor := next
      full := full
      refused := false }

/-- `connectionAfter`. -/
def connectionAfter (current : ConnectionCurrent) (changes : List ConnectionChange) :
    ConnectionCurrent :=
  match changes.getLast? with
  | none => current
  | some last => { state := last.state, since := some last.time, pid := last.pid }

/-! ## Polls -/

/-- A poll under way: the cursor it reads from, the connection it has seen, and its round. -/
structure ConnectionDrain where
  position : Option Text
  seen : ConnectionCurrent
  round : Nat
  deriving DecidableEq, Repr

/-- The journal of a bot, the cursor and the connection stored of it, the changes recorded so far
and the poll under way.  The changes are recorded from the entry `start` on, where the connection
was in the state `initial`; `atEnd` tells that the last reading was not full. -/
structure ConnectionPolls where
  entries : List JournalEntry
  start : Nat
  initial : ConnectionState
  cursor : Option Text
  current : ConnectionCurrent
  recorded : List ConnectionChange
  drain : Option ConnectionDrain
  atEnd : Bool
  deriving DecidableEq

/-- What can happen next. -/
inductive PollEvent
  | appends (entry : JournalEntry)
  | begins
  /-- The host answers, of whose journal the last week holds the newest `window` entries. -/
  | reads (window : Nat)
  | fails (stderr : Text)
  /-- The host is not leased, or the process stops between two rounds. -/
  | ends
  deriving DecidableEq

namespace ConnectionPolls

def appends (s : ConnectionPolls) (entry : JournalEntry) : Option ConnectionPolls :=
  if (entryAt s.entries entry.cursor).isNone then
    some { s with entries := s.entries ++ [entry], atEnd := false }
  else none

def begins (s : ConnectionPolls) : Option ConnectionPolls :=
  if s.drain.isNone then
    some { s with drain := some { position := s.cursor, seen := s.current, round := 0 } }
  else none

/-- What `recordInstanceConnection` stores of the connection, as `currentConnection` reads it. -/
def record (s : ConnectionPolls) (changes : List ConnectionChange) : ConnectionPolls :=
  { s with
    recorded := s.recorded ++ changes
    current := match changes.getLast? with
      | none => s.current
      | some last => { state := last.state, since := some last.time, pid := none } }

/-- The poll goes on to its next round, if it has one. -/
def nextRound (s : ConnectionPolls) (position : Option Text) (seen : ConnectionCurrent)
    (round : Nat) : ConnectionPolls :=
  { s with drain :=
      if round + 1 < journalDrainRounds then
        some { position := position, seen := seen, round := round + 1 }
      else none }

/-- A round of a poll, from what the host answers. -/
def answers (s : ConnectionPolls) (result : Option Text → ExecResult) : Option ConnectionPolls :=
  match s.drain with
  | none => none
  | some { position, seen, round } =>
    let reading := readConnectionChanges parseDate toLowerCase maxLines (result position) seen
      position
    let t := s.record reading.changes
    if reading.refused && position.isSome then some (t.nextRound none seen round)
    else
      match reading.cursor with
      | none => some { t with drain := none }
      | some next =>
        if !reading.full then some { t with
          cursor := if some next ≠ position then some next else t.cursor
          drain := none
          atEnd := (result position).exitCode == 0 }
        else
          let saved : ConnectionPolls := { t with cursor := some next, atEnd := false }
          some (saved.nextRound (some next) (connectionAfter seen reading.changes) round)

end ConnectionPolls

/-- The polls of one bot, from the cursor of an entry. -/
def connectionPolls : TransitionSystem ConnectionPolls PollEvent where
  init s := DistinctCursors s.entries ∧ s.initial = s.current.state ∧ s.recorded = [] ∧
    s.drain = none ∧ s.atEnd = false ∧
    ∃ cursor, s.cursor = some cursor ∧ entryAt s.entries cursor = some s.start
  step s
    | .appends entry => s.appends entry
    | .begins => s.begins
    | .reads window => s.answers parseDate toLowerCase maxLines fun position =>
        readJournal s.entries window (journalCommand maxLines position)
    | .fails stderr =>
      if journalRefusedCursor stderr then none
      else s.answers parseDate toLowerCase maxLines fun _ =>
        { exitCode := 1, stdout := [], stderr := stderr }
    | .ends => some { s with drain := none }

/-! ## What is asked of the changes -/

namespace ConnectionPolls

variable (s : ConnectionPolls)

/-- The lines of the journal from the entry `start` on. -/
def lines : List Text := (s.entries.drop s.start).map JournalEntry.line

/-- The changes that the lines make in a single pass. -/
def singlePass : List ConnectionChange :=
  changesFromSignals toLowerCase s.initial (connectionSignals (parseLines parseDate s.lines))

/-- The changes recorded are the first of the single pass, and all of them once a reading has come
to the end of the journal. -/
def Follows : Prop :=
  s.recorded <+: s.singlePass parseDate toLowerCase ∧
    (s.atEnd = true → s.recorded = s.singlePass parseDate toLowerCase)

end ConnectionPolls

/-- The state that signals leave. -/
def stateAfter (state : ConnectionState) (signals : List ConnectionSignal) : ConnectionState :=
  ((changesFromSignals toLowerCase state signals).getLast?.map ConnectionChange.state).getD state

/-- A disconnection is a change in this state. -/
def disconnects (state : ConnectionState) : Bool := state != .interrupted && state != .down

/-- Of these lines, read from a state, the last is a change for a disconnection whose reason is the
line that follows. -/
def asksBeyond (state : ConnectionState) (lines : List JournalLine)
    (following : Option JournalLine) : Bool :=
  lines.getLast?.any fun line =>
    asksNextLine line && (followingReason line following).isSome &&
      disconnects (stateAfter toLowerCase state (connectionSignals lines.dropLast))

/-- No line is written that gives a reason to a disconnection recorded without one, and no batch
that is full ends with a line that does not parse where the last line before it is a disconnection
with its reason beyond. -/
def readsReasons (s : ConnectionPolls) : PollEvent → Bool
  | .appends entry =>
    !(s.recorded.length == (s.singlePass parseDate toLowerCase).length &&
      asksBeyond toLowerCase s.initial (parseLines parseDate s.lines)
        (parseCandidate parseDate entry.line))
  | .reads _ =>
    s.drain.all fun drain =>
      drain.position.all fun cursor =>
        (entryAt s.entries cursor).all fun number =>
          let rest := (s.entries.drop number).map JournalEntry.line
          !(rest[maxLines]?.any fun lookahead =>
            (parseCandidate parseDate lookahead).isNone &&
              asksBeyond toLowerCase drain.seen.state (parseLines parseDate (rest.take maxLines))
                (parseLines parseDate (rest.drop maxLines)).head?)
  | _ => true

namespace ConnectionPolls

/-- The next step of polls that are repeated, where the host answers. -/
def next (s : ConnectionPolls) : PollEvent :=
  if s.drain.isNone then .begins else .reads s.entries.length

/-- One step of such polls. -/
def proceeds (s : ConnectionPolls) : ConnectionPolls :=
  ((connectionPolls parseDate toLowerCase maxLines).step s s.next).getD s

/-- The cursor stored is that of the last entry. -/
def AtLast (s : ConnectionPolls) : Prop :=
  s.cursor = s.entries.getLast?.map JournalEntry.cursor

/-- Such polls come to the end of the journal, and have recorded the changes of a single pass. -/
def DrainsExactly (s : ConnectionPolls) : Prop :=
  ∃ n, ∀ m, n ≤ m →
    ((proceeds parseDate toLowerCase maxLines)^[m] s).AtLast ∧
      ((proceeds parseDate toLowerCase maxLines)^[m] s).recorded =
        s.singlePass parseDate toLowerCase

end ConnectionPolls

/-- No batch of a journal that is read from its start in full batches ends with a line that does
not parse where the last line before it is a disconnection with its reason beyond. -/
def LookaheadsRead (state : ConnectionState) (lines : List Text) : Prop :=
  ∀ batch lookahead, lines[(batch + 1) * maxLines]? = some lookahead →
    parseCandidate parseDate lookahead = none →
    asksBeyond toLowerCase
      (stateAfter toLowerCase state
        (connectionSignals (parseLines parseDate (lines.take (batch * maxLines)))))
      (parseLines parseDate ((lines.drop (batch * maxLines)).take maxLines))
      (parseLines parseDate (lines.drop ((batch + 1) * maxLines))).head? = false

end

end OpenMcc

import OpenMcc.Framework.Regex

/-!
# Reading a bot's journal (`journal.ts`)

A journal is read line by line into a time, a process and a message, and the messages are searched
for the three markers of a connection.  How the process reads a time is the parameter `parseDate`.

Players' chat is printed into the same journal.  The client marks such a line, and
`clientEmittedLines` of `reconcile.ts` drops the marked ones.
-/

namespace OpenMcc

open Regex in
/-- `LINE`. -/
def journalLinePattern : Regex :=
  chain [group 1 (plus nonSpace), plus space, plus nonSpace, plus space,
    star (char fun c => c != '[' && c != ']'), one '[', group 2 (plus (char Text.isDigit)),
    one ']', one ':', opt space, group 3 (star dot), textEnd]

/-- `stripColour`. -/
def stripColour (value : Text) : Text :=
  (Regex.seq (Regex.one '§') Regex.dot).replaceAll (fun _ => []) value

/-- `JournalLine`. -/
structure JournalLine where
  time : Int
  pid : Text
  message : Text
  deriving DecidableEq, Repr

/-- `parseJournalLine`. -/
def parseJournalLine (parseDate : Text → Option Int) (raw : Text) : Option JournalLine :=
  match journalLinePattern.execAtStart raw with
  | none => none
  | some found =>
    (parseDate (found.recorded 1)).map fun time =>
      ⟨time, found.recorded 2, Text.trim (stripColour (found.recorded 3))⟩

/-- The body of the loop of `parseJournal`. -/
def parseCandidate (parseDate : Text → Option Int) (candidate : Text) : Option JournalLine :=
  if Text.trim candidate = [] then none else parseJournalLine parseDate candidate

/-- `parseJournal`. -/
def parseJournal (parseDate : Text → Option Int) (raw : Text) : List JournalLine :=
  (Text.lines raw).filterMap (parseCandidate parseDate)

/-! ## Connection signals -/

def joinedMarker : Text := "Server was successfully joined".toList

def disconnectedMarker : Text := "Disconnected by Server".toList

def stoppedMarker : Text := "Stopped open-mcc@".toList

/-- `ConnectionSignal`. -/
inductive ConnectionSignal
  | joined (time : Int) (pid : Text)
  | disconnected (time : Int) (pid : Text) (reason : Option Text)
  | stopped (time : Int) (pid : Text)
  deriving DecidableEq, Repr

/-- `MCC_PREFIX`. -/
def mccPrefix : Text := "[MCC]".toList

/-- `withoutPrefix`. -/
def withoutPrefix (message : Text) : Text :=
  if mccPrefix.isPrefixOf message then Text.trim (message.drop mccPrefix.length) else message

/-- What a message says after its first colon. -/
def trailingReason (message : Text) : Text :=
  Text.trim (Text.join ":".toList (message.splitOn ':').tail)

/-- The message of the next line, when the same process wrote it and it is not empty. -/
def followingReason (line : JournalLine) (next : Option JournalLine) : Option Text :=
  match next with
  | none => none
  | some next =>
    if next.pid ≠ line.pid then none
    else if withoutPrefix next.message = [] then none else some (withoutPrefix next.message)

/-- The signal of one line, which looks at the line after it for the reason of a disconnection. -/
def lineSignal (line : JournalLine) (next : Option JournalLine) : Option ConnectionSignal :=
  let message := withoutPrefix line.message
  if Text.includes message stoppedMarker then some (.stopped line.time line.pid)
  else if Text.includes message joinedMarker then some (.joined line.time line.pid)
  else if !Text.includes message disconnectedMarker then none
  else
    let trailing := trailingReason message
    some (.disconnected line.time line.pid
      (if trailing ≠ [] then some trailing else followingReason line next))

/-- `connectionSignals`. -/
def connectionSignals : List JournalLine → List ConnectionSignal
  | [] => []
  | line :: rest => (lineSignal line rest.head?).toList ++ connectionSignals rest

/-! ## The client's own lines (`reconcile.ts`) -/

/-- `CHAT_MARKER`. -/
def chatMarker : Text := ['▌']

/-- A line of in-game chat. -/
def isChatLine (line : Text) : Bool := Text.includes line chatMarker

/-- `clientEmittedLines`. -/
def clientEmittedLines (journal : Text) : Text :=
  Text.join "\n".toList ((Text.lines journal).filter fun line => !isChatLine line)

end OpenMcc

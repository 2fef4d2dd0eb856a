import OpenMcc.Construction.Journal

/-!
# Reading a journal from a cursor (`journal.ts`, `instance-observer.ts`)

The host's `journalctl` prints the entries of a bot's unit, one line each, and the cursor of the
last one it printed.  A reading that has a cursor starts with the entry of that cursor; one that has
none is answered with the newest entries of the last week.

`journalctl` is not part of the repository.  A journal is a list of entries here, and what is
printed of it is what the code relies on.
-/

namespace OpenMcc

/-- A digit of a cursor. -/
def isHexDigit (c : Char) : Bool := Text.isDigit c || ('a' ≤ c && c ≤ 'f')

/-- A field of a cursor: its name, an equals sign and its digits, whose number may be fixed. -/
def isCursorField (name : Char) (digitCount : Option Nat) : Text → Bool
  | c :: '=' :: digits =>
    c == name && digits.all isHexDigit && digitCount.elim (!digits.isEmpty) (digits.length == ·)
  | _ => false

/-- `isJournalCursor`: the six fields of `JOURNAL_CURSOR`. -/
def isJournalCursor (value : Text) : Bool :=
  match value.splitOn ';' with
  | [s, i, b, m, t, x] =>
    isCursorField 's' (some 32) s && isCursorField 'i' none i && isCursorField 'b' (some 32) b &&
      isCursorField 'm' none m && isCursorField 't' none t && isCursorField 'x' none x
  | _ => false

/-- `JournalBatch`. -/
structure JournalBatch where
  lines : List Text
  cursor : Option Text
  deriving DecidableEq, Repr

/-- `NOTE`. -/
def noteMark : Text := "-- ".toList

/-- `CURSOR_NOTE`. -/
def cursorNote : Text := "-- cursor: ".toList

/-- The body of the loop of `journalBatch`. -/
def JournalBatch.read (batch : JournalBatch) (candidate : Text) : JournalBatch :=
  if Text.trim candidate = [] then batch
  else if cursorNote.isPrefixOf candidate then
    let shown := Text.trim (candidate.drop cursorNote.length)
    { batch with cursor := if isJournalCursor shown then some shown else none }
  else if noteMark.isPrefixOf candidate then batch
  else { batch with lines := batch.lines ++ [candidate] }

/-- `journalBatch`. -/
def journalBatch (raw : Text) : JournalBatch :=
  (Text.lines raw).foldl JournalBatch.read { lines := [], cursor := none }

/-- `journalRefusedCursor`. -/
def journalRefusedCursor (stderr : Text) : Bool :=
  Text.includes stderr "Failed to seek to cursor".toList

/-! ## Requests -/

/-- `JOURNAL_MAX_LINES`. -/
def journalMaxLines : Nat := 2000

/-- `journalResume`. -/
def journalResume (cursor : Option Text) : Option Text := cursor.filter isJournalCursor

/-- What a command asks of the journal: the newest entries of `SEED_WINDOW`, or entries from a
cursor on. -/
inductive JournalRequest
  | seeds (lines : Nat)
  | resumes (cursor : Text) (lines : Nat)
  deriving DecidableEq, Repr

/-- `journalCommand`, with the bound on a batch. -/
def journalCommand (maxLines : Nat) (cursor : Option Text) : JournalRequest :=
  match journalResume cursor with
  | none => .seeds maxLines
  | some resume => .resumes resume (maxLines + 1)

/-! ## The journal of a host -/

/-- A line that tells of the journal itself, such as where the host was started. -/
structure JournalNote where
  text : Text
  oneLine : '\n' ∉ text
  marked : noteMark.isPrefixOf text = true
  notCursor : cursorNote.isPrefixOf text = false
  deriving DecidableEq

/-- An entry of a journal, with the notes printed before it. -/
structure JournalEntry where
  notes : List JournalNote
  line : Text
  cursor : Text
  oneLine : '\n' ∉ line
  notBlank : Text.trim line ≠ []
  unmarked : noteMark.isPrefixOf line = false
  valid : isJournalCursor cursor = true
  deriving DecidableEq

/-- What the host answers to a command. -/
structure ExecResult where
  exitCode : Nat
  stdout : Text
  stderr : Text
  deriving DecidableEq, Repr

/-- The lines printed of an entry. -/
def JournalEntry.printed (entry : JournalEntry) : List Text :=
  entry.notes.map JournalNote.text ++ [entry.line]

/-- The last line printed: the cursor of the last entry, if there is one. -/
def closingNote (entries : List JournalEntry) : Text :=
  match entries.getLast? with
  | some last => cursorNote ++ last.cursor
  | none => "-- No entries --".toList

/-- What is printed of some entries. -/
def printJournal (entries : List JournalEntry) : Text :=
  Text.join "\n".toList
    (entries.flatMap JournalEntry.printed ++ [closingNote entries] ++ [[]])

/-- The entries that answer a request, where the last week holds the newest `window` of them. -/
def journalctl (entries : List JournalEntry) (window : Nat) : JournalRequest → List JournalEntry
  | .seeds lines => entries.drop (entries.length - min window lines)
  | .resumes cursor lines => (entries.dropWhile fun entry => entry.cursor != cursor).take lines

/-- The answer of a host whose journal has these entries. -/
def readJournal (entries : List JournalEntry) (window : Nat) (request : JournalRequest) :
    ExecResult where
  exitCode := 0
  stdout := printJournal (journalctl entries window request)
  stderr := []

/-- The number of the entry with this cursor. -/
def entryAt (entries : List JournalEntry) (cursor : Text) : Option Nat :=
  entries.findIdx? fun entry => entry.cursor == cursor

/-- The entries of a journal have cursors of their own. -/
def DistinctCursors (entries : List JournalEntry) : Prop :=
  (entries.map JournalEntry.cursor).Nodup

instance (entries : List JournalEntry) : Decidable (DistinctCursors entries) :=
  inferInstanceAs (Decidable (entries.map JournalEntry.cursor).Nodup)

end OpenMcc

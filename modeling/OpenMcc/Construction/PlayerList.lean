import Mathlib.Data.List.Basic
import Mathlib.Logic.Function.Basic
import OpenMcc.Framework.Transition

/-!
# Collecting the player list of a bot (`artifact.ts`, `artifact.repository.ts`)

The client appends the players it sees to a file on the host.  A sweep copies what the file has
grown by since the last one, stores the copy together with the cursor that stands behind it, and
empties the file when all of it is stored and nothing is running that could write to it.

Any number of sweeps work at one time, and each may stop anywhere.  What they have between them is
the row of the bot, whose cursor moves only for a sweep that names the version it read, and the
host, where the emptying and the starts of the client exclude each other by a lock.

The script that reads the file takes its size, the states of the two units, the fingerprint before
the cursor, the chunk and the fingerprint after it one after the other, and the file may change
between any two of them.  The digest is any function of bytes.
-/

namespace OpenMcc

namespace PlayerList

variable {α δ : Type}

/-- `MAX_ARTIFACT_BYTES`. -/
def maxArtifactBytes : Nat := 512 * 1024

/-- `FINGERPRINT_BYTES`. -/
def fingerprintBytes : Nat := 64

/-- `fingerprintWindow`: how many bytes to skip, and how many to take. -/
def fingerprintWindow (stop : Nat) : Nat × Nat :=
  let skip := stop - fingerprintBytes
  (skip, stop - skip)

/-- `readBytes`. -/
def readBytes (content : List α) (skip count : Nat) : List α := (content.drop skip).take count

/-- The bytes that are fingerprinted for a cursor at `stop`. -/
def window (content : List α) (stop : Nat) : List α :=
  readBytes content (fingerprintWindow stop).1 (fingerprintWindow stop).2

/-- `PlayerListCursor`. -/
structure PlayerListCursor (δ : Type) where
  offset : Nat
  fingerprint : δ
  version : Nat
  deriving DecidableEq

/-- `cursorOf`: `CURSOR_NUMBER` takes up to fifteen digits. -/
def cursorOf (row : PlayerListCursor δ) : Option (PlayerListCursor δ) :=
  if row.offset < 1000000000000000 ∧ row.version < 1000000000000000 then some row else none

/-! ## The host and the row -/

/-- The units that have the state directory of a bot. -/
inductive UnitKind
  | client
  | signIn
  deriving DecidableEq

inductive UnitPhase
  /-- `inactive` or `failed`. -/
  | stopped
  /-- The unit is `activating`, and its `ExecStartPre` has not had the lock. -/
  | starting
  | running
  deriving DecidableEq

/-- The file on the host and the row of the bot, with what became of the bytes. -/
structure Record (α δ : Type) where
  /-- The file, where there is one. -/
  file : Option (List α)
  /-- `playerListOffset`, `playerListFingerprint` and `playerListCursorVersion`. -/
  row : PlayerListCursor δ
  /-- What the file had in it each time it was emptied. -/
  past : List (List α)
  /-- The chunks that were stored with an advance of the cursor. -/
  stored : List (List α)

namespace Record

variable (digest : List α → δ) (record : Record α δ)

/-- The bytes that a command finds in the file. -/
def content : List α := record.file.getD []

/-- The client appends to the file, or begins it. -/
def append (bytes : List α) : Record α δ := { record with file := some (record.content ++ bytes) }

/-- The file is emptied. -/
def truncate : Record α δ :=
  { record with file := some [], past := record.past ++ [record.content] }

/-- The row that `resetCursor` writes. -/
def reset : Record α δ :=
  { record with
    row := { offset := 0, fingerprint := digest [], version := record.row.version + 1 } }

/-- `resetCursor`, and `none` where the version has moved on. -/
def resetCursor (version : Nat) : Option (Record α δ) :=
  if record.row.version = version then some (record.reset digest) else none

/-- The row and the chunk that `storeAndAdvance` writes. -/
def advance (chunk : List α) (offset : Nat) (fingerprint : δ) : Record α δ :=
  { record with
    row :=
      { offset := offset + chunk.length
        fingerprint := fingerprint
        version := record.row.version + 1 }
    stored := record.stored ++ [chunk] }

/-- `storeAndAdvance`, and `none` where the version has moved on. -/
def storeAndAdvance (chunk : List α) (advance : PlayerListCursor δ) : Option (Record α δ) :=
  if record.row.version = advance.version then
    some (record.advance chunk advance.offset advance.fingerprint)
  else none

end Record

/-- What the sweeps of one bot have between them. -/
structure Site (α δ : Type) extends Record α δ where
  units : UnitKind → UnitPhase
  /-- The sweep whose script holds `collect.lock`. -/
  lock : Option Nat

/-- Something is running that may write to the file. -/
def Site.isWriting (site : Site α δ) : Bool :=
  site.units .client == .running || site.units .signIn == .running

/-! ## The script that reads -/

/-- The commands of `playerListReadCommand`, in their order. -/
inductive ReadStep
  | size
  | unit
  | auth
  | before
  | chunk
  | after
  | done
  deriving DecidableEq

/-- `PlayerListRead`, as far as the script has come. -/
structure PlayerListRead (α δ : Type) where
  next : ReadStep
  size : Option Nat
  /-- `isStopped` of the state of the client's unit. -/
  unit : Bool
  /-- `isStopped` of the state of the unit for signing in. -/
  auth : Bool
  before : δ
  chunk : List α
  after : δ

namespace PlayerListRead

variable (digest : List α → δ)

/-- The script before its first command. -/
def start : PlayerListRead α δ where
  next := .size
  size := none
  unit := false
  auth := false
  before := digest []
  chunk := []
  after := digest []

/-- `n` of the script: how many bytes it copies. -/
def count (r : PlayerListRead α δ) (offset : Nat) : Nat :=
  match r.size with
  | none => 0
  | some size => if offset ≤ size then min (size - offset) maxArtifactBytes else 0

/-- The next command of the script. -/
def go (site : Site α δ) (offset : Nat) (r : PlayerListRead α δ) : PlayerListRead α δ :=
  match r.next with
  | .size => { r with next := .unit, size := site.file.map List.length }
  | .unit => { r with next := .auth, unit := site.units .client == .stopped }
  | .auth => { r with next := .before, auth := site.units .signIn == .stopped }
  | .before => { r with next := .chunk, before := digest (window site.content offset) }
  | .chunk => { r with next := .after, chunk := readBytes site.content offset (r.count offset) }
  | .after =>
    { r with next := .done, after := digest (window site.content (offset + r.count offset)) }
  | .done => r

end PlayerListRead

/-! ## The sweeps -/

/-- The commands of `truncateCommand`, in their order. -/
inductive CutStep
  | lock
  | unit
  | auth
  | size
  | fingerprint
  | cut
  deriving DecidableEq

/-- Where a sweep stands in `collectPlayerList`. -/
inductive Stage (α δ : Type)
  | idle
  /-- The script that reads is under way, `again` after a reset. -/
  | reading (cursor : PlayerListCursor δ) (again : Bool) (read : PlayerListRead α δ)
  /-- What was read is not what the cursor stands behind. -/
  | resetting (cursor : PlayerListCursor δ)
  | storing (cursor : PlayerListCursor δ) (read : PlayerListRead α δ)
  /-- `stillCollecting` is asked. -/
  | asking (cursor : PlayerListCursor δ)
  /-- The script that empties the file is under way. -/
  | truncating (cursor : PlayerListCursor δ) (next : CutStep)
  /-- The file was emptied, and the cursor is still to be reset. -/
  | closing (cursor : PlayerListCursor δ)

/-- What a sweep does once nothing is left to store. -/
def afterStore (cursor : PlayerListCursor δ) (read : PlayerListRead α δ) : Stage α δ :=
  if cursor.offset = 0 ∨ read.size ≠ some cursor.offset then .idle
  else if read.unit && read.auth then .asking cursor
  else .idle

/-- What a sweep does with what it has read. -/
def afterRead [DecidableEq δ] (cursor : PlayerListCursor δ) (again : Bool)
    (read : PlayerListRead α δ) : Stage α δ :=
  match read.size with
  | none => .idle
  | some size =>
    if again = false ∧ (size < cursor.offset ∨ read.before ≠ cursor.fingerprint) then
      .resetting cursor
    else if read.chunk.length ≠ min (size - cursor.offset) maxArtifactBytes then .idle
    else if 0 < read.chunk.length then .storing cursor read
    else afterStore cursor read

variable (digest : List α → δ) [DecidableEq δ]

/-- The next command of the script that empties the file; it ends at the first that fails, and the
lock goes with it. -/
def cutStep (site : Site α δ) (sweep : Nat) (cursor : PlayerListCursor δ) :
    CutStep → Site α δ × Stage α δ
  | .lock =>
    if site.lock = none then ({ site with lock := some sweep }, .truncating cursor .unit)
    else (site, .idle)
  | .unit =>
    if site.units .client = .stopped then (site, .truncating cursor .auth)
    else ({ site with lock := none }, .idle)
  | .auth =>
    if site.units .signIn = .stopped then (site, .truncating cursor .size)
    else ({ site with lock := none }, .idle)
  | .size =>
    if site.file.map List.length = some cursor.offset then
      (site, .truncating cursor .fingerprint)
    else ({ site with lock := none }, .idle)
  | .fingerprint =>
    if digest (window site.content cursor.offset) = cursor.fingerprint then
      (site, .truncating cursor .cut)
    else ({ site with lock := none }, .idle)
  | .cut =>
    ({ site with toRecord := site.truncate, lock := none }, .closing cursor)

/-- The next step of a sweep, where `answer` is what `stillCollecting` answers. -/
def advance (site : Site α δ) (sweep : Nat) (answer : Bool) : Stage α δ → Site α δ × Stage α δ
  | .idle =>
    match cursorOf site.row with
    | none => (site, .idle)
    | some cursor => (site, .reading cursor false (.start digest))
  | .reading cursor again read =>
    if read.next = .done then (site, afterRead cursor again read)
    else (site, .reading cursor again (read.go digest site cursor.offset))
  | .resetting cursor =>
    match site.resetCursor digest cursor.version with
    | none => (site, .idle)
    | some record =>
      ({ site with toRecord := record },
        .reading { offset := 0, fingerprint := digest [], version := cursor.version + 1 } true
          (.start digest))
  | .storing cursor read =>
    match site.storeAndAdvance read.chunk { cursor with fingerprint := read.after } with
    | none => (site, .idle)
    | some record =>
      ({ site with toRecord := record },
        afterStore
          { offset := cursor.offset + read.chunk.length
            fingerprint := read.after
            version := cursor.version + 1 } read)
  | .asking cursor => (site, if answer then .truncating cursor .lock else .idle)
  | .truncating cursor next => cutStep digest site sweep cursor next
  | .closing cursor =>
    ({ site with toRecord := (site.resetCursor digest cursor.version).getD site.toRecord }, .idle)

/-! ## The runs -/

/-- The bot with the sweeps over it. -/
structure State (α δ : Type) where
  site : Site α δ
  sweeps : Nat → Stage α δ

inductive Event (α : Type)
  | starts (unit : UnitKind)
  /-- The `ExecStartPre` of a unit has had the lock. -/
  | passes (unit : UnitKind)
  | stops (unit : UnitKind)
  /-- The client, or the one that signs in, appends to the file. -/
  | writes (bytes : List α)
  | moves (sweep : Nat) (answer : Bool)
  /-- A sweep ends where it stands, with the script that it runs. -/
  | dies (sweep : Nat)

namespace State

variable (s : State α δ)

def setUnit (unit : UnitKind) (phase : UnitPhase) : State α δ :=
  { s with site := { s.site with units := Function.update s.site.units unit phase } }

def step : Event α → Option (State α δ)
  | .starts unit =>
    if s.site.units unit = .stopped then some (s.setUnit unit .starting) else none
  | .passes unit =>
    if s.site.units unit = .starting ∧ s.site.lock = none then some (s.setUnit unit .running)
    else none
  | .stops unit => some (s.setUnit unit .stopped)
  | .writes bytes =>
    if s.site.isWriting then
      some { s with site := { s.site with toRecord := s.site.append bytes } }
    else none
  | .moves sweep answer =>
    let next := advance digest s.site sweep answer (s.sweeps sweep)
    some { site := next.1, sweeps := Function.update s.sweeps sweep next.2 }
  | .dies sweep =>
    some
      { site := { s.site with lock := if s.site.lock = some sweep then none else s.site.lock }
        sweeps := Function.update s.sweeps sweep .idle }

end State

/-- No window of the file is fingerprinted like the window at the same place of what was in the
file before. -/
def Fresh (past : List (List α)) (content : List α) : Prop :=
  ∀ before ∈ past, ∀ i < before.length, i < content.length →
    digest (window content (i + 1)) ≠ digest (window before (i + 1))

instance (past : List (List α)) (content : List α) : Decidable (Fresh digest past content) :=
  inferInstanceAs (Decidable (∀ before ∈ past, ∀ i < before.length, i < content.length →
    digest (window content (i + 1)) ≠ digest (window before (i + 1))))

/-- What is written makes no window that was there before. -/
def writesFresh (s : State α δ) : Event α → Bool
  | .writes bytes => decide (Fresh digest s.site.past (s.site.content ++ bytes))
  | _ => true

/-- The file, the row and the sweeps of a bot. -/
def system : TransitionSystem (State α δ) (Event α) where
  init s := (∀ sweep, s.sweeps sweep = .idle) ∧ s.site.lock = none ∧ s.site.row.offset = 0 ∧
    s.site.row.fingerprint = digest [] ∧ s.site.past = [] ∧ s.site.stored = []
  step s e := s.step digest e

end PlayerList

end OpenMcc

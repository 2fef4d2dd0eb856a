import Mathlib.Data.List.Dedup
import Mathlib.Order.Lattice
import OpenMcc.Framework.Transition

/-!
# The artifacts of one bot (`artifact.repository.ts`, `artifact.ts`, `artifact-collect.job.ts`)

A sweep reads a bot's artifacts from its host and stores each of them under the digest of its
bytes; a replay is deleted from the host once it is stored.  Two prunings work on the table: the
one by age, over what was collected before a cutoff, and the one by rank, which leaves the newest
of a kind.

Bytes whose digest is stored already are not stored again: the insert does nothing, and the row
keeps the time it was first collected at.

The bytes, their digests and the ids are any types here, the digest any function of the bytes.
The database sorts ids by its collation, which is any total order.
-/

namespace OpenMcc

/-- `InstanceArtifactKind`. -/
inductive InstanceArtifactKind
  | playerList
  | replay
  deriving DecidableEq, Repr

/-- `ARTIFACT_RETENTION_DAYS`. -/
def artifactRetentionDays : Int := 30

/-- `ARTIFACTS_KEPT_PER_KIND`. -/
def artifactsKeptPerKind : Nat := 48

/-- `cutoffFor`, in milliseconds. -/
def cutoffFor (now retentionDays : Int) : Int :=
  now - retentionDays * 24 * 60 * 60 * 1000

/-- A row of `instanceArtifact`, for one bot of one organisation. -/
structure ArtifactRow (Id Content Digest : Type) where
  id : Id
  kind : InstanceArtifactKind
  content : Content
  digest : Digest
  collectedAt : Int
  deriving DecidableEq, Repr

/-- The rows of one bot, with the primary key of the table and its unique constraint. -/
structure ArtifactTable (Id Content Digest : Type) where
  rows : List (ArtifactRow Id Content Digest)
  ids : (rows.map ArtifactRow.id).Nodup
  digests : (rows.map fun row => (row.kind, row.digest)).Nodup

section Table

variable {Id Content Digest : Type}

namespace ArtifactTable

/-- The table before anything was collected. -/
def empty : ArtifactTable Id Content Digest where
  rows := []
  ids := List.nodup_nil
  digests := List.nodup_nil

/-- A delete leaves some of the rows. -/
def keeping (table : ArtifactTable Id Content Digest) (p : ArtifactRow Id Content Digest → Bool) :
    ArtifactTable Id Content Digest where
  rows := table.rows.filter p
  ids := table.ids.sublist (List.filter_sublist.map _)
  digests := table.digests.sublist (List.filter_sublist.map _)

/-- The row of a kind that a digest is stored in. -/
def stored [DecidableEq Digest] (table : ArtifactTable Id Content Digest)
    (kind : InstanceArtifactKind) (digest : Digest) : Option (ArtifactRow Id Content Digest) :=
  table.rows.find? fun row => row.kind == kind && row.digest == digest

/-- A row is added whose id is new and whose digest its kind does not have. -/
def adding (table : ArtifactTable Id Content Digest) (row : ArtifactRow Id Content Digest)
    (hid : row.id ∉ table.rows.map ArtifactRow.id)
    (hdigest : (row.kind, row.digest) ∉ table.rows.map fun row => (row.kind, row.digest)) :
    ArtifactTable Id Content Digest where
  rows := row :: table.rows
  ids := List.nodup_cons.2 ⟨hid, table.ids⟩
  digests := List.nodup_cons.2 ⟨hdigest, table.digests⟩

/-- `insertArtifact`, and whether it inserted; `none` where the id is taken. -/
def insertArtifact [DecidableEq Id] [DecidableEq Digest] (table : ArtifactTable Id Content Digest)
    (row : ArtifactRow Id Content Digest) : Option (ArtifactTable Id Content Digest × Bool) :=
  if hdigest : (row.kind, row.digest) ∈ table.rows.map fun row => (row.kind, row.digest) then
    some (table, false)
  else if hid : row.id ∈ table.rows.map ArtifactRow.id then none
  else some (table.adding row hid hdigest, true)

/-- `deleteCollectedBefore`. -/
def deleteCollectedBefore (table : ArtifactTable Id Content Digest) (cutoff : Int) :
    ArtifactTable Id Content Digest :=
  table.keeping fun row => !decide (row.collectedAt < cutoff)

/-- The first row does not come after the second in the lists of artifacts. -/
def newer [LinearOrder Id] (a b : ArtifactRow Id Content Digest) : Bool :=
  decide (b.collectedAt < a.collectedAt) ||
    (a.collectedAt == b.collectedAt && decide (b.id ≤ a.id))

/-- The artifacts of a kind, from the newest on. -/
def ofKind [LinearOrder Id] (table : ArtifactTable Id Content Digest)
    (kind : InstanceArtifactKind) : List (ArtifactRow Id Content Digest) :=
  (table.rows.filter fun row => row.kind == kind).mergeSort newer

/-- The ids that `deleteBeyondKept` selects. -/
def beyondKept [LinearOrder Id] (table : ArtifactTable Id Content Digest)
    (kind : InstanceArtifactKind) (kept : Nat) : List Id :=
  ((table.ofKind kind).drop kept).map ArtifactRow.id

/-- The delete of `deleteBeyondKept`. -/
def deleteIds [DecidableEq Id] (table : ArtifactTable Id Content Digest) (stale : List Id) :
    ArtifactTable Id Content Digest :=
  table.keeping fun row => !decide (row.id ∈ stale)

/-- What `listSummaries` shows of the artifacts. -/
def listSummaries [LinearOrder Id] (table : ArtifactTable Id Content Digest) :
    List (Id × InstanceArtifactKind × Int) :=
  (table.rows.mergeSort newer).map fun row => (row.id, row.kind, row.collectedAt)

/-- `contentOf`. -/
def contentOf [DecidableEq Id] (table : ArtifactTable Id Content Digest) (id : Id) :
    Option Content :=
  (table.rows.find? fun row => row.id == id).map ArtifactRow.content

/-- An artifact of the kind is listed whose content is this one. -/
def Retrievable [LinearOrder Id] (table : ArtifactTable Id Content Digest)
    (kind : InstanceArtifactKind) (content : Content) : Prop :=
  ∃ summary ∈ table.listSummaries,
    summary.2.1 = kind ∧ table.contentOf summary.1 = some content

end ArtifactTable

/-! ## Sweeps and prunings -/

/-- The artifacts of a bot while sweeps and prunings are under way. -/
structure ArtifactStore (Id Content Digest : Type) where
  table : ArtifactTable Id Content Digest
  /-- What each pruning by rank has selected and not deleted yet. -/
  stale : List (List Id)
  /-- The ids given out so far; `nanoid` does not give one out again. -/
  issued : List Id

inductive ArtifactEvent (Id Content : Type)
  /-- `store` or `storeAndAdvance` commits content that a sweep begun at this time found. -/
  | collects (kind : InstanceArtifactKind) (content : Content) (id : Id) (now : Int)
  /-- `deleteBeyondKept` selects. -/
  | selects (kind : InstanceArtifactKind)
  /-- `deleteBeyondKept` deletes what it selected. -/
  | deletes (pruning : Nat)
  /-- `deleteCollectedBefore`, in a sweep begun at this time. -/
  | prunes (now : Int)
  deriving DecidableEq, Repr

/-- The row a sweep stores content in. -/
def artifactRow (digestOf : Content → Digest) (kind : InstanceArtifactKind) (content : Content)
    (id : Id) (now : Int) : ArtifactRow Id Content Digest where
  id := id
  kind := kind
  content := content
  digest := digestOf content
  collectedAt := now

/-- The store after an event. -/
def artifactStep [LinearOrder Id] [DecidableEq Digest] (digestOf : Content → Digest)
    (s : ArtifactStore Id Content Digest) :
    ArtifactEvent Id Content → Option (ArtifactStore Id Content Digest)
  | .collects kind content id now =>
    if id ∈ s.issued then none
    else (s.table.insertArtifact (artifactRow digestOf kind content id now)).map fun inserted =>
      { s with table := inserted.1, issued := id :: s.issued }
  | .selects kind =>
    some { s with stale := s.stale ++ [s.table.beyondKept kind artifactsKeptPerKind] }
  | .deletes pruning =>
    s.stale[pruning]?.map fun stale =>
      { s with table := s.table.deleteIds stale, stale := s.stale.eraseIdx pruning }
  | .prunes now =>
    some { s with table := s.table.deleteCollectedBefore (cutoffFor now artifactRetentionDays) }

/-- The artifacts of one bot, under any sweeps and prunings. -/
def artifactSystem [LinearOrder Id] [DecidableEq Digest] (digestOf : Content → Digest) :
    TransitionSystem (ArtifactStore Id Content Digest) (ArtifactEvent Id Content) where
  init s := s = { table := .empty, stale := [], issued := [] }
  step := artifactStep digestOf

/-! ## The replays of a sweep -/

/-- What reading a settled replay came to, by `readReplay` and `decodeHostBytes`. -/
inductive ReplayRead (Content : Type)
  | failed
  | empty
  | oversize
  | unusable
  | bytes (content : Content)
  deriving DecidableEq, Repr

/-- A settled replay of a sweep: what reading it came to, the id it was stored under unless `keep`
threw, and whether it could be removed from the host. -/
structure ReplayFound (Id Content : Type) where
  read : ReplayRead Content
  kept : Option Id
  removed : Bool
  deriving DecidableEq, Repr

/-- `Tally`, as far as replays count. -/
structure ReplayTally where
  collected : Nat
  oversize : Nat
  refused : Nat
  failed : Nat
  deriving DecidableEq, Repr

/-- What a sweep over replays counted, stored and removed. -/
structure ReplaySweep (Id Content : Type) where
  tally : ReplayTally
  stores : List (ArtifactEvent Id Content)
  removed : List Content
  deriving DecidableEq, Repr

/-- What `collectReplays` does about one replay. -/
def collectReplay (now : Int) (sweep : ReplaySweep Id Content) (found : ReplayFound Id Content) :
    ReplaySweep Id Content :=
  let tally := sweep.tally
  match found.read with
  | .failed => { sweep with tally := { tally with failed := tally.failed + 1 } }
  | .empty => sweep
  | .oversize => { sweep with tally := { tally with oversize := tally.oversize + 1 } }
  | .unusable => { sweep with tally := { tally with refused := tally.refused + 1 } }
  | .bytes content =>
    match found.kept with
    | none => { sweep with tally := { tally with failed := tally.failed + 1 } }
    | some id =>
      let stores := sweep.stores ++ [.collects .replay content id now]
      if found.removed then
        { tally := { tally with collected := tally.collected + 1 }
          stores := stores
          removed := sweep.removed ++ [content] }
      else
        { sweep with tally := { tally with failed := tally.failed + 1 }, stores := stores }

/-- `collectReplays`, over what it lists; `none` where it cannot list. -/
def collectReplays (now : Int) (names : Option (List (ReplayFound Id Content))) :
    ReplaySweep Id Content :=
  match names with
  | none =>
    { tally := { collected := 0, oversize := 0, refused := 0, failed := 1 }
      stores := []
      removed := [] }
  | some found =>
    found.foldl (collectReplay now)
      { tally := { collected := 0, oversize := 0, refused := 0, failed := 0 }
        stores := []
        removed := [] }

/-! ## What was collected -/

/-- Content that was collected, and when. -/
structure CollectedAt (Content : Type) where
  kind : InstanceArtifactKind
  content : Content
  time : Int
  deriving DecidableEq, Repr

/-- What an event collects. -/
def artifactCollected (_ : ArtifactStore Id Content Digest) :
    ArtifactEvent Id Content → List (CollectedAt Content)
  | .collects kind content _ now => [{ kind := kind, content := content, time := now }]
  | .selects _ => []
  | .deletes _ => []
  | .prunes _ => []

/-- The other contents of the kind that were collected at that time or since. -/
def othersSince [DecidableEq Content] (collected : List (CollectedAt Content))
    (c : CollectedAt Content) : List Content :=
  ((collected.filter fun other =>
    other.kind == c.kind && decide (c.time ≤ other.time) && decide (other.content ≠ c.content)).map
      CollectedAt.content).dedup

/-- The retention period after the collection has not passed when a pruning begins. -/
def WithinRetention (c : CollectedAt Content) (_ : ArtifactStore Id Content Digest)
    (e : ArtifactEvent Id Content) : Prop :=
  ∀ now, e = .prunes now → cutoffFor now artifactRetentionDays ≤ c.time

/-- Whatever sweeps and prunings come next, the content stays retrievable until the retention
period has passed, or as many others of its kind as are kept have been collected since. -/
def StaysRetrievable [LinearOrder Id] [DecidableEq Content] [DecidableEq Digest]
    (digestOf : Content → Digest) (collected : List (CollectedAt Content))
    (s : ArtifactStore Id Content Digest) (c : CollectedAt Content) : Prop :=
  ∀ es t, (artifactSystem digestOf).Path (WithinRetention c) s es t →
    (othersSince (collected ++ (artifactSystem digestOf).log artifactCollected s es) c).length <
      artifactsKeptPerKind →
    t.table.Retrievable c.kind c.content

end Table

end OpenMcc

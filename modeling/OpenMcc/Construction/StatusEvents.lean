import Mathlib.Data.List.Sort
import OpenMcc.Construction.Rollup
import OpenMcc.Framework.DateText

/-!
# The pages of the list of events (`status.controller.ts`, `status-cursor.ts`)

The events of a range are listed newest first, a page at a time.  A page that is full ends with a
cursor: the time and id of its last event, as text.  The next page asks for the events that come
after these in the order of the list.

The database compares texts by its collation, which is any total order here.
-/

namespace OpenMcc

/-- A total order of texts. -/
structure Collation where
  lt : Text → Text → Bool
  irrefl : ∀ a, lt a a = false
  trans : ∀ a b c, lt a b = true → lt b c = true → lt a c = true
  total : ∀ a b, a ≠ b → lt a b = true ∨ lt b a = true

/-- `StatusEventRow`, as far as the list shows it or asks for it. -/
structure ListedEventRow (Kind : Type) where
  id : Text
  organizationId : Text
  hostId : Option Text
  instanceId : Option Text
  kind : Kind
  subjectLabel : Text
  occurredAt : Date
  deriving DecidableEq, Repr

/-- The table `statusEvent`.  An id is a primary key and was given out by `nanoid`. -/
structure EventTable (Kind : Type) where
  rows : List (ListedEventRow Kind)
  distinct : (rows.map fun row => row.id).Nodup
  named : ∀ row ∈ rows, row.id ≠ []

/-! ## The cursor -/

/-- `StatusEventCursor`. -/
structure StatusEventCursor where
  occurredAt : Date
  id : Text
  deriving DecidableEq, Repr

/-- `encodeStatusEventCursor`. -/
def encodeStatusEventCursor (cursor : StatusEventCursor) : Text :=
  cursor.occurredAt.toISOString ++ '|' :: cursor.id

/-- `parseStatusEventCursor`. -/
def parseStatusEventCursor (raw : Text) : Option StatusEventCursor :=
  let stamp := raw.takeWhile (· != '|')
  match raw.dropWhile (· != '|') with
  | [] => none
  | _ :: id =>
    if id = [] then none
    else match Date.parse stamp with
      | none => none
      | some occurredAt =>
        if occurredAt.toISOString ≠ stamp then none
        else some { occurredAt := occurredAt, id := id }

/-! ## The list -/

variable {Kind : Type}

/-- `EventFilter`, with the organisation it is for. -/
structure EventFilter where
  organizationId : Text
  since : Int
  hostId : Option Text
  instanceId : Option Text
  deriving DecidableEq, Repr

/-- `eventsMatching`. -/
def EventFilter.admits (filter : EventFilter) (row : ListedEventRow Kind) : Bool :=
  row.organizationId == filter.organizationId && decide (filter.since ≤ row.occurredAt.ms) &&
    filter.hostId.all (fun hostId => row.hostId == some hostId) &&
    filter.instanceId.all fun instanceId => row.instanceId == some instanceId

namespace Collation

variable (collation : Collation)

/-- The row comes after the cursor in the list. -/
def past (cursor : StatusEventCursor) (row : ListedEventRow Kind) : Bool :=
  decide (row.occurredAt.ms < cursor.occurredAt.ms) ||
    (row.occurredAt.ms == cursor.occurredAt.ms && collation.lt row.id cursor.id)

/-- The first row does not come after the second in the list. -/
def newer (a b : ListedEventRow Kind) : Bool :=
  decide (b.occurredAt.ms < a.occurredAt.ms) ||
    (a.occurredAt.ms == b.occurredAt.ms && !collation.lt a.id b.id)

/-- `listEvents`. -/
def listEvents (table : EventTable Kind) (filter : EventFilter) (limit : Nat)
    (cursor : Option StatusEventCursor) : List (ListedEventRow Kind) :=
  let matching := table.rows.filter filter.admits
  let wanted := match cursor with
    | none => matching
    | some cursor => matching.filter (collation.past cursor)
  (wanted.mergeSort collation.newer).take limit

end Collation

/-- An event as a page shows it. -/
structure ListedEvent (Kind : Type) where
  id : Text
  kind : Kind
  subjectLabel : Text
  hostId : Option Text
  instanceId : Option Text
  occurredAt : Date
  deriving DecidableEq, Repr

/-- What a page shows of a row. -/
def ListedEventRow.listed (row : ListedEventRow Kind) : ListedEvent Kind where
  id := row.id
  kind := row.kind
  subjectLabel := row.subjectLabel
  hostId := row.hostId
  instanceId := row.instanceId
  occurredAt := row.occurredAt

/-- `StatusEventPage`. -/
structure StatusEventPage (Kind : Type) where
  events : List (ListedEvent Kind)
  total : Nat
  nextCursor : Option Text
  deriving DecidableEq, Repr

/-- The limit of a page, as `statusEventsInput` takes it. -/
structure PageLimit where
  limit : Nat
  allowed : 1 ≤ limit ∧ limit ≤ 100
  deriving DecidableEq, Repr

/-- What `events` is asked for, at the instant it takes for the end of the range. -/
structure EventsRequest where
  organizationId : Text
  range : StatusRange
  now : Int
  hostId : Option Text
  instanceId : Option Text
  deriving DecidableEq, Repr

/-- The filter that `events` makes. -/
def EventsRequest.filter (request : EventsRequest) : EventFilter where
  organizationId := request.organizationId
  since := request.now - request.range.rangeSeconds * 1000
  hostId := request.hostId
  instanceId := request.instanceId

/-- `events`, for the filter it makes. -/
def statusEvents (collation : Collation) (table : EventTable Kind) (filter : EventFilter)
    (limit : Nat) (cursor : Option StatusEventCursor) : StatusEventPage Kind :=
  let events := (collation.listEvents table filter limit cursor).map ListedEventRow.listed
  { events := events
    total := (table.rows.filter filter.admits).length
    nextCursor := match events.getLast? with
      | none => none
      | some last =>
        if events.length < limit then none
        else some (encodeStatusEventCursor { occurredAt := last.occurredAt, id := last.id }) }

/-- The pages from a cursor to the end, each asked for by the text of the one before; `none` where
a text is refused, or the end is not reached after so many pages. -/
def followPages (collation : Collation) (table : EventTable Kind) (filter : EventFilter)
    (limit : Nat) : Nat → Option StatusEventCursor → Option (List (StatusEventPage Kind))
  | 0, _ => none
  | fuel + 1, cursor =>
    let page := statusEvents collation table filter limit cursor
    match page.nextCursor with
    | none => some [page]
    | some raw =>
      match parseStatusEventCursor raw with
      | none => none
      | some next => (followPages collation table filter limit fuel (some next)).map (page :: ·)

/-- The first event comes before the second: it is newer, or as old and its id is greater. -/
def ListedBefore (collation : Collation) (a b : ListedEvent Kind) : Prop :=
  b.occurredAt.ms < a.occurredAt.ms ∨
    (b.occurredAt.ms = a.occurredAt.ms ∧ collation.lt b.id a.id = true)

end OpenMcc

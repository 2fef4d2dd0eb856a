import OpenMcc.Construction.Task
import OpenMcc.Framework.Transition

/-!
# Recording a bot's respawns (`task-signals.ts`, `mcp.ts`, `observeRespawns`)

A reading asks the client for the events after the stored cursor, records each respawn among them
in a transaction of its own, and then stores the cursor the answer comes to.  The first reading,
which has no cursor, records nothing.

The client numbers its events upwards from one, and answers with the oldest of those after the
given id, up to the number asked for, and with the latest id it has issued.  The process may stop
between any two steps of a reading.
-/

namespace OpenMcc

/-- `RESPAWN_EVENT_TYPE`. -/
def respawnEventType : Text := "respawn".toList

/-- `RESPAWN_PAGE_MAX`. -/
def respawnPageMax : Nat := 200

/-- `NOISY_EVENT_TYPES`. -/
def noisyEventTypes : List Text := [
  "block_break_animation".toList,
  "entity_animation".toList,
  "actionbar".toList,
  "title".toList,
  "inventory_open".toList,
  "inventory_close".toList,
  "weather_rain".toList,
  "weather_thunder".toList]

/-- `isNotableEvent`. -/
def isNotableEvent (type : Text) : Bool := !noisyEventTypes.contains type

/-- `McpEvent`, without the subject. -/
structure McpEvent where
  id : Int
  timestampUtc : Text
  type : Text
  deriving DecidableEq, Repr

/-- `McpEventPage`. -/
structure McpEventPage where
  latestId : Int
  events : List McpEvent
  deriving DecidableEq, Repr

/-- `recentEventsFrom`, of an answer that has the right shape. -/
def recentEventsFrom (answer : McpEventPage) : McpEventPage :=
  { answer with events := answer.events.filter fun event => isNotableEvent event.type }

/-- `RespawnSighting`. -/
structure RespawnSighting where
  eventId : Int
  occurredAt : Int
  deriving DecidableEq, Repr

/-- `RespawnReading`. -/
structure RespawnReading where
  respawns : List RespawnSighting
  cursor : Int
  seeded : Bool
  deriving DecidableEq, Repr

/-- `momentOf`. -/
def momentOf (parseDate : Text → Option Int) (stamp : Text) (fallback : Int) : Int :=
  (parseDate stamp).getD fallback

/-- `respawnsFrom`. -/
def respawnsFrom (parseDate : Text → Option Int) (page : McpEventPage) (cursor : Option Int)
    (instant : Int) : RespawnReading :=
  let afterId := cursor.getD 0
  let highest := page.events.foldl (fun seen event => max seen event.id) page.latestId
  let next := max afterId highest
  match cursor with
  | none => ⟨[], next, true⟩
  | some _ => {
      respawns := (page.events.filter fun event =>
        event.type == respawnEventType && decide (afterId < event.id)).map fun event =>
          ⟨event.id, momentOf parseDate event.timestampUtc instant⟩
      cursor := next
      seeded := false }

/-- The signal that a respawn is recorded as. -/
def RespawnSighting.signal (respawn : RespawnSighting) (observedAt : Int) : InstanceSignalRow where
  kind := .respawn
  identity := .respawn respawn.eventId
  process := none
  firstForProcess := false
  occurredAt := respawn.occurredAt
  observedAt := observedAt

/-- `recordSignal`, of a respawn: one whose identity is recorded is not stored again. -/
def recordRespawn (signals : List InstanceSignalRow) (respawn : RespawnSighting)
    (observedAt : Int) : List InstanceSignalRow :=
  if signals.any fun row => row.identity == .respawn respawn.eventId then signals
  else signals ++ [respawn.signal observedAt]

/-! ## Readings -/

/-- A reading in progress: what it read, and the respawns it has not recorded yet. -/
structure RespawnObservation where
  instant : Int
  reading : RespawnReading
  left : List RespawnSighting
  deriving DecidableEq, Repr

/-- The events the client has issued, the cursor and the respawns stored, and the reading in
progress.  `seededAt` is the cursor stored by the reading that had none. -/
structure RespawnState where
  events : List McpEvent
  cursor : Option Int
  signals : List InstanceSignalRow
  observation : Option RespawnObservation
  seededAt : Option Int
  deriving DecidableEq, Repr

/-- What can happen next. -/
inductive RespawnEvent
  /-- The client issues an event. -/
  | issues (event : McpEvent)
  /-- A reading asks the client, which answers. -/
  | reads (instant : Int)
  /-- The next respawn of the reading is recorded. -/
  | records
  /-- The cursor of the reading is stored. -/
  | concludes
  | crashes
  deriving DecidableEq, Repr

namespace RespawnState

/-- The latest id issued. -/
def latestId (s : RespawnState) : Int := (s.events.getLast?.map McpEvent.id).getD 0

/-- The events after an id. -/
def pending (s : RespawnState) (afterId : Int) : List McpEvent :=
  s.events.filter fun event => afterId < event.id

/-- What the client answers: the oldest events after an id, and the latest id. -/
def answer (s : RespawnState) (afterId : Int) (maxCount : Nat) : McpEventPage where
  latestId := s.latestId
  events := (s.pending afterId).take maxCount

def issues (s : RespawnState) (event : McpEvent) : Option RespawnState :=
  if s.latestId < event.id then some { s with events := s.events ++ [event] } else none

/-- `readRespawnSightings`. -/
def readRespawnSightings (parseDate : Text → Option Int) (s : RespawnState) (instant : Int) :
    RespawnReading :=
  respawnsFrom parseDate (recentEventsFrom (s.answer (s.cursor.getD 0) respawnPageMax)) s.cursor
    instant

/-- The reading is answered. -/
def reads (parseDate : Text → Option Int) (s : RespawnState) (instant : Int) :
    Option RespawnState :=
  match s.observation with
  | some _ => none
  | none =>
    let reading := s.readRespawnSightings parseDate instant
    some { s with observation := some ⟨instant, reading, reading.respawns⟩ }

/-- The transaction of one respawn. -/
def records (s : RespawnState) : Option RespawnState :=
  match s.observation with
  | some ⟨instant, reading, respawn :: left⟩ =>
    some { s with
      signals := recordRespawn s.signals respawn instant
      observation := some ⟨instant, reading, left⟩ }
  | _ => none

/-- The transaction of the cursor. -/
def concludes (s : RespawnState) : Option RespawnState :=
  match s.observation with
  | some ⟨_, reading, []⟩ =>
    some { s with
      cursor := some reading.cursor
      observation := none
      seededAt := if reading.seeded then some reading.cursor else s.seededAt }
  | _ => none

def crashes (s : RespawnState) : Option RespawnState :=
  match s.observation with
  | some _ => some { s with observation := none }
  | none => none

end RespawnState

/-- Readings of one bot, whose respawns were never read before. -/
def respawnReadings (parseDate : Text → Option Int) :
    TransitionSystem RespawnState RespawnEvent where
  init s := s.events = [] ∧ s.cursor = none ∧ s.signals = [] ∧ s.observation = none ∧
    s.seededAt = none
  step s
    | .issues event => s.issues event
    | .reads instant => s.reads parseDate instant
    | .records => s.records
    | .concludes => s.concludes
    | .crashes => s.crashes

/-- Of some events, those that do not fit on a page are no respawns. -/
def fitsPage (events : List McpEvent) : Bool :=
  (events.drop respawnPageMax).all fun event => event.type != respawnEventType

/-- The events after one id and up to another. -/
def RespawnState.passed (s : RespawnState) (afterId last : Int) : List McpEvent :=
  s.events.filter fun event => decide (afterId < event.id) && decide (event.id ≤ last)

/-- The condition on a reading whose cursor is stored: of the events that the cursor passes, those
past the page are no respawns. -/
def passesPages (s : RespawnState) : RespawnEvent → Bool
  | .concludes =>
    match s.observation, s.cursor with
    | some observation, some cursor => fitsPage (s.passed cursor observation.reading.cursor)
    | _, _ => true
  | _ => true

namespace RespawnState

variable (s : RespawnState)

/-- The respawn with this id is recorded. -/
def Recorded (eventId : Int) : Prop := ∃ signal ∈ s.signals, signal.identity = .respawn eventId

/-- Every respawn after one id and up to another is recorded. -/
def RecordedBetween (seed last : Int) : Prop :=
  ∀ event ∈ s.events, event.type = respawnEventType → seed < event.id → event.id ≤ last →
    s.Recorded event.id

/-- What the stored respawns come to. -/
structure RespawnsKept : Prop where
  /-- No respawn after the seeding reading and up to the stored cursor is missing. -/
  noneLost : ∀ seed, s.seededAt = some seed →
    ∃ cursor, s.cursor = some cursor ∧ seed ≤ cursor ∧ s.RecordedBetween seed cursor
  once : (s.signals.map InstanceSignalRow.identity).Nodup
  /-- What is recorded is a respawn after the seeding reading. -/
  sighted : ∀ signal ∈ s.signals, ∃ seed, s.seededAt = some seed ∧ ∃ event ∈ s.events,
    event.type = respawnEventType ∧ seed < event.id ∧ signal.identity = .respawn event.id

/-- The steps of a reading that nothing interrupts, from its answer on. -/
def finishing : Nat → List RespawnEvent
  | 0 => [.concludes]
  | left + 1 => .records :: finishing left

end RespawnState

end OpenMcc

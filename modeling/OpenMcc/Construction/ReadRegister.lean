import Mathlib.Logic.Relation
import OpenMcc.Construction.ReadConnections

/-!
# The register of the read connections

Over which transport a lease may run is decided by a part of the pool: the map and its entries,
the openings, the connections and the leases.  The register keeps that part, and its effects are
all that the pool may do to it.  Limiters, timers and the order in which operations are admitted
can only end a connection early, so they are left out here.

An effect says under which conditions the pool has it.  The one condition that the code does not
enforce is that an opening begins at the entry the map holds for its key; `mapped` asks for it.
-/

namespace OpenMcc

/-- What the register keeps of an entry. -/
structure Slot where
  generation : Nat
  installed : Option Nat
  pending : Option Pending
  connections : List Nat
  deriving DecidableEq, Repr

/-- What the register keeps of a connection. -/
structure Link where
  key : Text
  entry : Nat
  identity : ConnectionIdentity
  closed : Bool
  deriving DecidableEq, Repr

/-- The part of the pool that decides over which transport a lease may run. -/
structure Register where
  entries : Text → Option Nat
  generations : Nat
  opens : Nat
  slotAt : Nat → Slot
  openingAt : Nat → Option Opening
  closes : Nat → Nat
  destroys : Nat → Nat
  linkAt : Nat → Option Link
  /-- The identity that a call asked for. -/
  asked : Nat → Option ConnectionIdentity
  /-- The connection that a lease was granted over. -/
  leaseOver : Nat → Option Nat
  /-- The lease of an operation. -/
  ops : Nat → Option Nat

def Entry.slot (entry : Entry) : Slot where
  generation := entry.generation
  installed := entry.installed
  pending := entry.pending
  connections := entry.connections

def Connection.link (connection : Connection) : Link where
  key := connection.key
  entry := connection.entry
  identity := connection.identity
  closed := connection.closed

def Pool.register (s : Pool) : Register where
  entries := s.entries
  generations := s.generations
  opens := s.opens
  slotAt := Entry.slot ∘ s.entryAt
  openingAt := s.openingAt
  closes := Transport.closes ∘ s.transportAt
  destroys := Transport.destroys ∘ s.transportAt
  linkAt := Option.map Connection.link ∘ s.connectionAt
  asked := Option.map LeaseCall.identity ∘ s.calls
  leaseOver := Option.map Lease.connection ∘ s.leaseAt
  ops := Option.map Op.lease ∘ s.opAt

namespace Register

/-! ## The effects -/

/-- A key gets an entry. -/
def enter (r : Register) (key : Text) : Register :=
  { r with
    generations := r.generations + 1
    entries := Function.update r.entries key (some (r.generations + 1))
    slotAt := Function.update r.slotAt (r.generations + 1) {
      generation := r.generations + 1
      installed := none
      pending := none
      connections := [] } }

/-- A key loses its entry. -/
def leave (r : Register) (key : Text) : Register :=
  { r with entries := Function.update r.entries key none }

def setSlot (r : Register) (entry : Nat) (slot : Slot) : Register :=
  { r with slotAt := Function.update r.slotAt entry slot }

/-- A transport is closed or destroyed once more. -/
def endTransport (r : Register) (id : Nat) : ShutDownHow → Register
  | .close => { r with closes := Function.update r.closes id (r.closes id + 1) }
  | .destroy => { r with destroys := Function.update r.destroys id (r.destroys id + 1) }

/-- An entry has no installed connection any more. -/
def retire (r : Register) (entry : Nat) : Register :=
  r.setSlot entry { r.slotAt entry with installed := none }

/-- A connection is closed and leaves its entry. -/
def closeLink (r : Register) (c : Nat) (link : Link) : Register :=
  { r with linkAt := Function.update r.linkAt c (some { link with closed := true }) }.setSlot
    link.entry { r.slotAt link.entry with
      installed := if (r.slotAt link.entry).installed = some c then none
        else (r.slotAt link.entry).installed
      connections := (r.slotAt link.entry).connections.erase c }

/-- A connection is shut down. -/
def shutDown (r : Register) (c : Nat) (link : Link) (how : ShutDownHow) : Register :=
  (r.endTransport c how).closeLink c link

/-- An opening begins. -/
def startOpen (r : Register) (key : Text) (entry : Nat) (identity : ConnectionIdentity) :
    Register :=
  { r with
    opens := r.opens + 1
    closes := Function.update r.closes (r.opens + 1) 0
    destroys := Function.update r.destroys (r.opens + 1) 0
    openingAt := Function.update r.openingAt (r.opens + 1) (some {
      key := key
      entry := entry
      identity := identity
      generation := (r.slotAt entry).generation
      status := .inFlight }) }.setSlot entry { r.slotAt entry with
    pending := some {
      id := r.opens + 1
      identity := identity
      generation := (r.slotAt entry).generation } }

def comesOut (r : Register) (id : Nat) (opening : Opening) (status : OpeningStatus) : Register :=
  { r with
    openingAt := Function.update r.openingAt id (some { opening with status := status }) }

/-- An entry waits for no opening any more. -/
def settle (r : Register) (entry : Nat) : Register :=
  r.setSlot entry { r.slotAt entry with pending := none }

/-- An opening is given up. -/
def giveUp (r : Register) (id : Nat) (opening : Opening) : Register :=
  (r.endTransport id .destroy).comesOut id opening .gaveUp

/-- A connection joins its entry. -/
def connect (r : Register) (id : Nat) (opening : Opening) : Register :=
  { r with
    linkAt := Function.update r.linkAt id (some {
      key := opening.key
      entry := opening.entry
      identity := opening.identity
      closed := false }) }.setSlot opening.entry { r.slotAt opening.entry with
    installed := some id
    connections := (r.slotAt opening.entry).connections ++ [id] }

/-- A connection is installed. -/
def install (r : Register) (id : Nat) (opening : Opening) : Register :=
  ((r.comesOut id opening .installed).settle opening.entry).connect id opening

def ask (r : Register) (call : Nat) (identity : ConnectionIdentity) : Register :=
  { r with asked := Function.update r.asked call (some identity) }

/-- A call gets its lease. -/
def checkout (r : Register) (call : Nat) (identity : ConnectionIdentity) (c : Nat) : Register :=
  { (r.ask call identity) with leaseOver := Function.update r.leaseOver call (some c) }

/-- The generation of an entry moves on. -/
def advance (r : Register) (entry : Nat) : Register :=
  { r with generations := r.generations + 1 }.setSlot entry { r.slotAt entry with
    generation := r.generations + 1 }

/-- A lease begins an operation. -/
def begin (r : Register) (op lease : Nat) : Register :=
  { r with ops := Function.update r.ops op (some lease) }

/-- The pending opening of the entry is this one. -/
def IsPending (r : Register) (entry id : Nat) : Prop :=
  ∃ pending, (r.slotAt entry).pending = some pending ∧ pending.id = id

/-- What the pool may do to its register. -/
inductive Effect (mapped : Prop) : Register → Register → Prop
  | enter (r : Register) (key : Text) : r.entries key = none → Effect mapped r (r.enter key)
  | leave (r : Register) (key : Text) (entry : Nat) : r.entries key = some entry →
      (r.slotAt entry).pending = none → (r.slotAt entry).connections = [] →
      Effect mapped r (r.leave key)
  | shutDown (r : Register) (c : Nat) (link : Link) (how : ShutDownHow) :
      r.linkAt c = some link → link.closed = false → Effect mapped r (r.shutDown c link how)
  | retire (r : Register) (entry : Nat) : Effect mapped r (r.retire entry)
  | startOpen (r : Register) (key : Text) (entry : Nat) (identity : ConnectionIdentity) :
      entry ≤ r.generations → (mapped → r.entries key = some entry) →
      Effect mapped r (r.startOpen key entry identity)
  | settle (r : Register) (entry : Nat) : Effect mapped r (r.settle entry)
  | giveUp (r : Register) (id : Nat) (opening : Opening) :
      r.openingAt id = some opening → opening.status = .inFlight →
      ¬ r.IsPending opening.entry id → Effect mapped r (r.giveUp id opening)
  | install (r : Register) (id : Nat) (opening : Opening) :
      r.openingAt id = some opening → opening.status = .inFlight →
      r.IsPending opening.entry id → (r.slotAt opening.entry).generation = opening.generation →
      Effect mapped r (r.install id opening)
  | ask (r : Register) (call : Nat) (identity : ConnectionIdentity) :
      (∀ asked, r.asked call = some asked → asked = identity) →
      Effect mapped r (r.ask call identity)
  | checkout (r : Register) (call : Nat) (link : Link) (c : Nat) : r.linkAt c = some link →
      link.closed = false → Effect mapped r (r.checkout call link.identity c)
  | advance (r : Register) (key : Text) (entry : Nat) : r.entries key = some entry →
      Effect mapped r (r.advance entry)
  | begin (r : Register) (op lease c : Nat) : r.leaseOver lease = some c →
      Effect mapped r (r.begin op lease)

/-- Any number of effects. -/
def Effects (mapped : Prop) : Register → Register → Prop :=
  Relation.ReflTransGen (Effect mapped)

/-! ## The invariants -/

/-- What holds of the register of every pool. -/
structure Coherent (r : Register) : Prop where
  entry_le : ∀ {key entry}, r.entries key = some entry → entry ≤ r.generations
  entry_inj : ∀ {key key' entry}, r.entries key = some entry → r.entries key' = some entry →
    key = key'
  generation_le : ∀ entry, (r.slotAt entry).generation ≤ r.generations
  opening_le : ∀ {id opening}, r.openingAt id = some opening →
    id ≤ r.opens ∧ opening.entry ≤ r.generations ∧ opening.generation ≤ r.generations
  pending_opening : ∀ {entry pending}, (r.slotAt entry).pending = some pending →
    ∃ opening, r.openingAt pending.id = some opening ∧ opening.entry = entry ∧
      opening.status = .inFlight
  link_opening : ∀ {c link}, r.linkAt c = some link → ∃ opening, r.openingAt c = some opening ∧
    opening.status = .installed ∧ opening.key = link.key ∧ opening.entry = link.entry ∧
    opening.identity = link.identity
  installed_link : ∀ {id opening}, r.openingAt id = some opening → opening.status = .installed →
    ∃ link, r.linkAt id = some link
  connected : ∀ {c link}, r.linkAt c = some link → link.closed = false →
    c ∈ (r.slotAt link.entry).connections
  installed_open : ∀ {entry c}, (r.slotAt entry).installed = some c →
    ∃ link, r.linkAt c = some link ∧ link.entry = entry ∧ link.closed = false
  closed_ended : ∀ {c link}, r.linkAt c = some link → link.closed = true →
    0 < r.closes c ∨ 0 < r.destroys c
  gaveUp_destroyed : ∀ {id opening}, r.openingAt id = some opening → opening.status = .gaveUp →
    0 < r.destroys id
  granted : ∀ {call c}, r.leaseOver call = some c → ∃ link, r.linkAt c = some link ∧
    r.asked call = some link.identity
  op_granted : ∀ {op lease}, r.ops op = some lease → ∃ c, r.leaseOver lease = some c

/-- Everything that lives belongs to the entry that the map holds for its key. -/
structure Mapped (r : Register) : Prop where
  open_mapped : ∀ {c link}, r.linkAt c = some link → link.closed = false →
    r.entries link.key = some link.entry
  pending_mapped : ∀ {entry pending opening}, (r.slotAt entry).pending = some pending →
    r.openingAt pending.id = some opening → r.entries opening.key = some entry

/-- How often a transport was closed or destroyed. -/
def ends (r : Register) (id : Nat) : Nat :=
  r.closes id + r.destroys id

/-- Every transport that was made has its opening, and ends once: when its opening is given up, or
when its connection is closed. -/
structure Tallied (r : Register) : Prop where
  opened : ∀ {id}, 0 < id → id ≤ r.opens → ∃ opening, r.openingAt id = some opening
  inFlight : ∀ {id opening}, r.openingAt id = some opening → opening.status = .inFlight →
    r.ends id = 0
  gaveUp : ∀ {id opening}, r.openingAt id = some opening → opening.status = .gaveUp →
    r.ends id = 1
  connected : ∀ {c link}, r.linkAt c = some link → r.ends c = if link.closed then 1 else 0

/-- The transport will be handed to no lease any more: its connection is closed, or it has none and
its opening is not what its entry waits for. -/
def Spent (r : Register) (id : Nat) : Prop :=
  ∃ opening, r.openingAt id = some opening ∧
    (opening.status = .installed → ∃ link, r.linkAt id = some link ∧ link.closed = true) ∧
    (opening.status ≠ .installed → r.IsPending opening.entry id →
      (r.slotAt opening.entry).generation ≠ opening.generation)

/-- The opening is pending at an entry that the map does not hold, where no connection is
installed. -/
structure Stranded (r : Register) (id : Nat) (opening : Opening) : Prop where
  began : r.openingAt id = some opening
  inFlight : opening.status = .inFlight
  unmapped : r.entries opening.key = none
  pending : r.IsPending opening.entry id
  generation : (r.slotAt opening.entry).generation = opening.generation
  uninstalled : (r.slotAt opening.entry).installed = none
  unclosed : r.closes id = 0
  undestroyed : r.destroys id = 0

end Register

end OpenMcc

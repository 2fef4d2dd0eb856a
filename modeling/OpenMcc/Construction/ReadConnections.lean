import Mathlib.Logic.Function.Basic
import OpenMcc.Framework.Text
import OpenMcc.Framework.Transition

/-!
# The shared read connections (`read-connections.ts`, `limiter.ts`)

Reads of one host share a connection.  The pool keeps an entry for each key, with the connection
that is installed, the opening that is pending and a generation that an evict moves on.  A lease
takes the installed connection, joins the pending opening or starts one; an opening that lands is
installed only if its entry still waits for it in the generation it began in.

The objects of the source live in heaps here, so that an entry that has left the map is still
there for the openings that hold it.  An entry is named by the generation it was made with, and a
lease by the call that asked for it; an opening, its transport and the connection installed from
it share the opening's number.  Every continuation of a promise is an event of its own and may
come at any time after the promise has settled.
-/

namespace OpenMcc

/-! ## The channel limiter -/

/-- The state of `createChannelLimiter`. -/
structure Limiter where
  active : Nat
  waiting : List Nat
  deriving DecidableEq, Repr

/-- `acquire`: whether the operation is admitted at once. -/
def Limiter.acquire (limiter : Limiter) (limit op : Nat) : Bool × Limiter :=
  if limiter.active < limit then (true, { limiter with active := limiter.active + 1 })
  else (false, { limiter with waiting := limiter.waiting ++ [op] })

/-- `release`: the operation it admits, if one waits. -/
def Limiter.release (limiter : Limiter) : Option Nat × Limiter :=
  match limiter.waiting with
  | [] => (none, { limiter with active := limiter.active - 1 })
  | next :: waiting => (some next, { active := limiter.active - 1 + 1, waiting := waiting })

/-- A waiting operation is aborted. -/
def Limiter.abort (limiter : Limiter) (op : Nat) : Limiter :=
  { limiter with waiting := limiter.waiting.erase op }

/-! ## The objects of the pool -/

/-- `ConnectionIdentity`. -/
structure ConnectionIdentity where
  hostname : Text
  port : Nat
  username : Text
  sshKeyId : Text
  hostKeyFingerprint : Text
  deriving DecidableEq, Repr

/-- `sameConnectionIdentity`. -/
def sameConnectionIdentity (a b : ConnectionIdentity) : Bool :=
  a.hostname == b.hostname && a.port == b.port && a.username == b.username &&
    a.sshKeyId == b.sshKeyId && a.hostKeyFingerprint == b.hostKeyFingerprint

/-- What `state()` of a transport answers. -/
inductive TransportState
  | disconnected | connecting | ready | degraded | failed
  deriving DecidableEq, Repr

/-- A transport, with the calls of its `close` and of its `destroy`. -/
structure Transport where
  state : TransportState
  closes : Nat
  destroys : Nat
  deriving DecidableEq, Repr

/-- `Pending`. -/
structure Pending where
  id : Nat
  identity : ConnectionIdentity
  generation : Nat
  deriving DecidableEq, Repr

/-- `Entry`. -/
structure Entry where
  generation : Nat
  installed : Option Nat
  pending : Option Pending
  connections : List Nat
  deriving DecidableEq, Repr

inductive OpeningStatus
  | inFlight | installed | gaveUp
  deriving DecidableEq, Repr

/-- What `startOpen` closes over, and how the opening came out. -/
structure Opening where
  key : Text
  entry : Nat
  identity : ConnectionIdentity
  generation : Nat
  status : OpeningStatus
  deriving DecidableEq, Repr

/-- `Connection`; a timer is armed or not. -/
structure Connection where
  key : Text
  entry : Nat
  identity : ConnectionIdentity
  readyAt : Int
  limiter : Limiter
  leases : List Nat
  ops : List Nat
  retired : Bool
  closed : Bool
  idleTimer : Bool
  hardTimer : Bool
  deriving DecidableEq, Repr

/-- `Lease`. -/
structure Lease where
  connection : Nat
  ops : List Nat
  expired : Bool
  released : Bool
  timer : Bool
  deriving DecidableEq, Repr

inductive OpKind
  | exec | forward
  deriving DecidableEq, Repr

inductive OpState
  | queued | requested | opened
  deriving DecidableEq, Repr

/-- `Op`.  `admitted` says that its slot is granted and the continuation has yet to run. -/
structure Op where
  lease : Nat
  kind : OpKind
  state : OpState
  admitted : Bool
  holdsSlot : Bool
  settled : Bool
  deriving DecidableEq, Repr

inductive CallStage
  | waiting (opening : Nat)
  | granted
  | rejected
  deriving DecidableEq, Repr

/-- A call of `lease`. -/
structure LeaseCall where
  key : Text
  identity : ConnectionIdentity
  deadlineMs : Int
  stage : CallStage
  deriving DecidableEq, Repr

/-- `ReadConnectionsOptions`, but for the idle time: when a timer fires is left open. -/
structure PoolOptions where
  hardAgeMs : Int
  channelLimit : Nat

/-- The state of `createReadConnections`. -/
structure Pool where
  entries : Text → Option Nat
  generations : Nat
  opens : Nat
  leaseCount : Int
  entryAt : Nat → Entry
  openingAt : Nat → Option Opening
  transportAt : Nat → Transport
  connectionAt : Nat → Option Connection
  calls : Nat → Option LeaseCall
  leaseAt : Nat → Option Lease
  opAt : Nat → Option Op

/-- How `shutDown` ends a transport. -/
inductive ShutDownHow
  | close | destroy
  deriving DecidableEq, Repr

namespace Pool

def onEntry (s : Pool) (entry : Nat) (f : Entry → Entry) : Pool :=
  { s with entryAt := Function.update s.entryAt entry (f (s.entryAt entry)) }

def onConnection (s : Pool) (c : Nat) (f : Connection → Connection) : Pool :=
  { s with connectionAt := Function.update s.connectionAt c ((s.connectionAt c).map f) }

def onLease (s : Pool) (lease : Nat) (f : Lease → Lease) : Pool :=
  { s with leaseAt := Function.update s.leaseAt lease ((s.leaseAt lease).map f) }

def onOp (s : Pool) (op : Nat) (f : Op → Op) : Pool :=
  { s with opAt := Function.update s.opAt op ((s.opAt op).map f) }

/-- The transport is closed or destroyed once more. -/
def endTransport (s : Pool) (id : Nat) (how : ShutDownHow) : Pool :=
  let transport := s.transportAt id
  { s with transportAt := Function.update s.transportAt id (match how with
      | .close => { transport with closes := transport.closes + 1 }
      | .destroy => { transport with destroys := transport.destroys + 1 }) }

/-! ## Entries -/

/-- `entryFor`. -/
def entryFor (s : Pool) (key : Text) : Nat × Pool :=
  match s.entries key with
  | some found => (found, s)
  | none => (s.generations + 1, { s with
      generations := s.generations + 1
      entries := Function.update s.entries key (some (s.generations + 1))
      entryAt := Function.update s.entryAt (s.generations + 1) {
        generation := s.generations + 1
        installed := none
        pending := none
        connections := [] } })

/-- `prune`. -/
def prune (s : Pool) (key : Text) (entry : Nat) : Pool :=
  if (s.entryAt entry).connections ≠ [] ∨ (s.entryAt entry).pending.isSome then s
  else if s.entries key = some entry then { s with entries := Function.update s.entries key none }
  else s

/-! ## Operations -/

/-- `limiter.release` of a connection. -/
def releaseSlot (s : Pool) (c : Nat) : Pool :=
  match s.connectionAt c with
  | none => s
  | some connection =>
    let (next, limiter) := connection.limiter.release
    let s := s.onConnection c fun connection => { connection with limiter := limiter }
    match next with
    | none => s
    | some op => s.onOp op fun op => { op with admitted := true }

/-- `finishOp`. -/
def finishOp (s : Pool) (opId : Nat) : Pool :=
  match s.opAt opId with
  | none => s
  | some op =>
    match s.leaseAt op.lease with
    | none => s
    | some lease =>
      let s := s.onLease op.lease fun lease => { lease with ops := lease.ops.erase opId }
      let s := s.onConnection lease.connection fun connection =>
        { connection with ops := connection.ops.erase opId }
      if op.holdsSlot then
        (s.onOp opId fun op => { op with holdsSlot := false }).releaseSlot lease.connection
      else s

/-- `abandon`.  The stream it destroys, if any, answers with its close later. -/
def abandon (s : Pool) (opId : Nat) : Pool :=
  match s.opAt opId with
  | none => s
  | some op =>
    match s.leaseAt op.lease with
    | none => s
    | some lease =>
      let s := s.onOp opId fun op => { op with settled := true }
      let s := s.onConnection lease.connection fun connection =>
        { connection with limiter := connection.limiter.abort opId }
      s.finishOp opId

/-! ## Connections -/

/-- `shutDown`. -/
def shutDown (s : Pool) (c : Nat) (how : ShutDownHow) : Pool :=
  match s.connectionAt c with
  | none => s
  | some connection =>
    if connection.closed then s
    else
      let s := s.onConnection c fun connection =>
        { connection with closed := true, idleTimer := false, hardTimer := false }
      let s := s.onEntry connection.entry fun entry => { entry with
        installed := if entry.installed = some c then none else entry.installed
        connections := entry.connections.erase c }
      let s := connection.ops.foldl abandon s
      (s.endTransport c how).prune connection.key connection.entry

/-- `retire`. -/
def retire (s : Pool) (c : Nat) : Pool :=
  match s.connectionAt c with
  | none => s
  | some connection =>
    (s.onConnection c fun connection => { connection with retired := true }).onEntry
      connection.entry fun entry =>
        { entry with installed := if entry.installed = some c then none else entry.installed }

/-- `afterLastLease`. -/
def afterLastLease (s : Pool) (c : Nat) : Pool :=
  match s.connectionAt c with
  | none => s
  | some connection =>
    if connection.closed ∨ connection.leases ≠ [] then s
    else if connection.retired then s.shutDown c .destroy
    else if (s.entryAt connection.entry).installed ≠ some c then s.shutDown c .close
    else s.onConnection c fun connection => { connection with idleTimer := true }

/-- The body of the loop of `expire`. -/
def expireOp (c : Nat) (s : Pool) (opId : Nat) : Pool :=
  match s.opAt opId with
  | none => s
  | some op => if op.state = .queued then s.abandon opId else (s.retire c).abandon opId

/-- `expire`. -/
def expire (s : Pool) (leaseId : Nat) (lease : Lease) : Pool :=
  lease.ops.foldl (expireOp lease.connection)
    (s.onLease leaseId fun lease => { lease with expired := true, timer := false })

/-- The connection that `install` makes of an opening. -/
def connectionOf (opening : Opening) (now : Int) : Connection where
  key := opening.key
  entry := opening.entry
  identity := opening.identity
  readyAt := now
  limiter := { active := 0, waiting := [] }
  leases := []
  ops := []
  retired := false
  closed := false
  idleTimer := false
  hardTimer := true

/-- `install`. -/
def install (s : Pool) (id : Nat) (opening : Opening) (now : Int) : Pool :=
  let previous := (s.entryAt opening.entry).installed
  let s := { s with
    connectionAt := Function.update s.connectionAt id (some (connectionOf opening now)) }
  let s := s.onEntry opening.entry fun entry => { entry with
    installed := some id
    connections := entry.connections ++ [id] }
  match previous with
  | none => s
  | some previous =>
    if (s.connectionAt previous).any fun connection =>
        !sameConnectionIdentity connection.identity opening.identity then
      s.shutDown previous .destroy
    else s.afterLastLease previous

/-! ## Openings -/

/-- `startOpen`: the number of the opening. -/
def startOpen (s : Pool) (key : Text) (entry : Nat) (identity : ConnectionIdentity) : Nat × Pool :=
  let id := s.opens + 1
  let generation := (s.entryAt entry).generation
  let s := { s with
    opens := id
    transportAt := Function.update s.transportAt id {
      state := .disconnected
      closes := 0
      destroys := 0 }
    openingAt := Function.update s.openingAt id (some {
      key := key
      entry := entry
      identity := identity
      generation := generation
      status := .inFlight }) }
  (id, s.onEntry entry fun entry => { entry with
    pending := some { id := id, identity := identity, generation := generation } })

/-- The opening has come out. -/
def comesOut (s : Pool) (id : Nat) (status : OpeningStatus) : Pool :=
  { s with
    openingAt := Function.update s.openingAt id
      ((s.openingAt id).map fun opening => { opening with status := status }) }

/-- The pending opening of the entry is this one. -/
def isPending (s : Pool) (entry id : Nat) : Bool :=
  (s.entryAt entry).pending.any fun pending => pending.id == id

/-- `giveUp`. -/
def giveUp (s : Pool) (id : Nat) (opening : Opening) : Pool :=
  let s := (s.comesOut id .gaveUp).endTransport id .destroy
  if s.isPending opening.entry id then
    (s.onEntry opening.entry fun entry => { entry with pending := none }).prune opening.key
      opening.entry
  else s

/-- The opening still stands where it began: it is pending, in its generation. -/
def isCurrent (s : Pool) (id : Nat) (opening : Opening) : Bool :=
  s.isPending opening.entry id && (s.entryAt opening.entry).generation == opening.generation

/-- `startOpen` once the transport is opened, or the opening has failed. -/
def lands (s : Pool) (id : Nat) (opened : Bool) (now : Int) : Option Pool :=
  match s.openingAt id with
  | none => none
  | some opening =>
    if opening.status ≠ .inFlight then none
    else if opened && s.isCurrent id opening && (s.transportAt id).state == .ready then
      let s := (s.comesOut id .installed).onEntry opening.entry fun entry =>
        { entry with pending := none }
      some (s.install id opening now)
    else some (s.giveUp id opening)

/-! ## Leases -/

/-- `usable`. -/
def usable (s : Pool) (c : Nat) (identity : ConnectionIdentity) : Bool :=
  (s.connectionAt c).any fun connection =>
    !connection.closed && !connection.retired && (s.transportAt c).state == .ready &&
      sameConnectionIdentity connection.identity identity

/-- `checkout`, for the lease that the call asked for. -/
def checkout (s : Pool) (c callId : Nat) (call : LeaseCall) : Pool :=
  let s := s.onConnection c fun connection => { connection with
    idleTimer := false
    leases := connection.leases ++ [callId] }
  { s with
    leaseAt := Function.update s.leaseAt callId (some {
      connection := c
      ops := []
      expired := false
      released := false
      timer := true })
    leaseCount := s.leaseCount + 1
    calls := Function.update s.calls callId (some { call with stage := .granted }) }

/-- The call waits for an opening. -/
def awaits (s : Pool) (callId : Nat) (call : LeaseCall) (opening : Nat) : Pool :=
  { s with calls := Function.update s.calls callId (some { call with stage := .waiting opening }) }

/-- The pending opening of an entry, where a call for this identity may join it. -/
def joinable (s : Pool) (entry : Nat) (identity : ConnectionIdentity) : Option Nat :=
  match (s.entryAt entry).pending with
  | none => none
  | some pending =>
    if pending.generation = (s.entryAt entry).generation ∧
        sameConnectionIdentity pending.identity identity then some pending.id
    else none

/-- The call joins the pending opening or starts one. -/
def joinOrOpen (s : Pool) (callId : Nat) (call : LeaseCall) (entry : Nat) : Pool :=
  match s.joinable entry call.identity with
  | some id => s.awaits callId call id
  | none =>
    let (id, s) := s.startOpen call.key entry call.identity
    s.awaits callId call id

/-- One turn of the loop of `lease`, up to its `await`. -/
def turn (options : PoolOptions) (s : Pool) (callId : Nat) (call : LeaseCall) (now : Int) : Pool :=
  let (entry, s) := s.entryFor call.key
  match (s.entryAt entry).installed with
  | none => s.joinOrOpen callId call entry
  | some installed =>
    if !s.usable installed call.identity then
      (s.shutDown installed .destroy).joinOrOpen callId call entry
    else if (s.connectionAt installed).any fun connection =>
        now + call.deadlineMs ≤ connection.readyAt + options.hardAgeMs then
      s.checkout installed callId call
    else s.joinOrOpen callId call entry

/-- A deadline that `lease` takes. -/
def takesDeadline (options : PoolOptions) (deadlineMs : Int) : Bool :=
  0 < deadlineMs && deadlineMs < options.hardAgeMs

/-- `lease` from its start; a deadline out of range is refused. -/
def leases (options : PoolOptions) (s : Pool) (callId : Nat) (key : Text)
    (identity : ConnectionIdentity) (deadlineMs now : Int) : Option Pool :=
  if (s.calls callId).isSome then none
  else
    let call : LeaseCall := {
      key := key
      identity := identity
      deadlineMs := deadlineMs
      stage := .rejected }
    if takesDeadline options deadlineMs then some (s.turn options callId call now)
    else some { s with calls := Function.update s.calls callId (some call) }

/-- `lease` after its `await`. -/
def resumes (options : PoolOptions) (s : Pool) (callId : Nat) (now : Int) : Option Pool :=
  match s.calls callId with
  | none => none
  | some call =>
    match call.stage with
    | .waiting id =>
      match (s.openingAt id).map Opening.status with
      | some .gaveUp =>
        some { s with calls := Function.update s.calls callId (some { call with
          stage := .rejected }) }
      | some .installed =>
        if s.usable id call.identity then some (s.checkout id callId call)
        else some (s.turn options callId call now)
      | _ => none
    | _ => none

/-- `release` of a reader. -/
def releases (s : Pool) (leaseId : Nat) : Option Pool :=
  match s.leaseAt leaseId with
  | none => none
  | some lease =>
    if lease.released then some s
    else
      let s := s.onLease leaseId fun lease => { lease with released := true, timer := false }
      let s := { s with leaseCount := s.leaseCount - 1 }
      let s := lease.ops.foldl abandon s
      let s := s.onConnection lease.connection fun connection =>
        { connection with leases := connection.leases.erase leaseId }
      some (s.afterLastLease lease.connection)

/-- `evict`. -/
def evict (s : Pool) (key : Text) : Pool :=
  match s.entries key with
  | none => s
  | some entry =>
    let s := { s with generations := s.generations + 1 }
    let s := s.onEntry entry fun entry => { entry with generation := s.generations }
    let s := (s.entryAt entry).connections.foldl (fun s c => s.shutDown c .destroy) s
    s.prune key entry

/-! ## Reading -/

/-- `begin` and the `acquire` of `whenAdmitted`, for an operation that has no number yet. -/
def begins (options : PoolOptions) (s : Pool) (opId leaseId : Nat) (kind : OpKind) : Option Pool :=
  if (s.opAt opId).isSome then none
  else match s.leaseAt leaseId with
    | none => none
    | some lease =>
      match s.connectionAt lease.connection with
      | none => none
      | some connection =>
        if lease.released ∨ connection.closed ∨ lease.expired then some s
        else
          let (admitted, limiter) := connection.limiter.acquire options.channelLimit opId
          let s := s.onLease leaseId fun lease => { lease with ops := lease.ops ++ [opId] }
          let s := s.onConnection lease.connection fun connection =>
            { connection with ops := connection.ops ++ [opId], limiter := limiter }
          some { s with opAt := Function.update s.opAt opId (some {
            lease := leaseId
            kind := kind
            state := .queued
            admitted := admitted
            holdsSlot := false
            settled := false }) }

/-- The continuation of `acquire`: the operation runs over the connection of its lease. -/
def admits (s : Pool) (opId : Nat) : Option Pool :=
  match s.opAt opId with
  | none => none
  | some op =>
    if !op.admitted then none
    else
      let s := s.onOp opId fun op => { op with admitted := false }
      if op.settled then some ((s.leaseAt op.lease).elim s fun lease =>
        s.releaseSlot lease.connection)
      else some (s.onOp opId fun op => { op with holdsSlot := true, state := .requested })

/-- The transport answers a request: with a stream to a `forward`, with a result or an error. -/
def answers (s : Pool) (opId : Nat) (stream : Bool) : Option Pool :=
  match s.opAt opId with
  | none => none
  | some op =>
    if op.state ≠ .requested ∨ (stream = true ∧ op.kind = .exec) then none
    else if op.settled then some s
    else if stream then some (s.onOp opId fun op => { op with settled := true, state := .opened })
    else some ((s.onOp opId fun op => { op with settled := true }).finishOp opId)

/-- The stream of a `forward` is closed, at either end. -/
def closesStream (s : Pool) (opId : Nat) : Option Pool :=
  match s.opAt opId with
  | none => none
  | some op => if op.state = .opened then some (s.finishOp opId) else none

/-! ## Timers -/

def deadlines (s : Pool) (leaseId : Nat) : Option Pool :=
  match s.leaseAt leaseId with
  | none => none
  | some lease => if lease.timer then some (s.expire leaseId lease) else none

def idles (s : Pool) (c : Nat) : Option Pool :=
  match s.connectionAt c with
  | none => none
  | some connection => if connection.idleTimer then some (s.shutDown c .close) else none

def ages (s : Pool) (c : Nat) : Option Pool :=
  match s.connectionAt c with
  | none => none
  | some connection => if connection.hardTimer then some (s.shutDown c .destroy) else none

end Pool

/-- What can happen next to the pool. -/
inductive PoolEvent
  | leases (callId : Nat) (key : Text) (identity : ConnectionIdentity) (deadlineMs now : Int)
  /-- The opening has opened its transport, or has failed. -/
  | lands (opening : Nat) (opened : Bool) (now : Int)
  | resumes (callId : Nat) (now : Int)
  | releases (leaseId : Nat)
  | evicts (key : Text)
  | begins (opId leaseId : Nat) (kind : OpKind)
  | admits (opId : Nat)
  | answers (opId : Nat) (stream : Bool)
  | closesStream (opId : Nat)
  | deadlines (leaseId : Nat)
  | idles (connection : Nat)
  | ages (connection : Nat)
  /-- A transport connects, drops or fails. -/
  | changes (transport : Nat) (state : TransportState)
  deriving DecidableEq, Repr

/-- The pool before its first lease. -/
def emptyPool : Pool where
  entries := fun _ => none
  generations := 0
  opens := 0
  leaseCount := 0
  entryAt := fun _ => { generation := 0, installed := none, pending := none, connections := [] }
  openingAt := fun _ => none
  transportAt := fun _ => { state := .disconnected, closes := 0, destroys := 0 }
  connectionAt := fun _ => none
  calls := fun _ => none
  leaseAt := fun _ => none
  opAt := fun _ => none

/-- `createReadConnections`. -/
def readConnections (options : PoolOptions) : TransitionSystem Pool PoolEvent where
  init s := s = emptyPool
  step s
    | .leases callId key identity deadlineMs now =>
      s.leases options callId key identity deadlineMs now
    | .lands opening opened now => s.lands opening opened now
    | .resumes callId now => s.resumes options callId now
    | .releases leaseId => s.releases leaseId
    | .evicts key => some (s.evict key)
    | .begins opId leaseId kind => s.begins options opId leaseId kind
    | .admits opId => s.admits opId
    | .answers opId stream => s.answers opId stream
    | .closesStream opId => s.closesStream opId
    | .deadlines leaseId => s.deadlines leaseId
    | .idles connection => s.idles connection
    | .ages connection => s.ages connection
    | .changes transport state =>
      some { s with
        transportAt := Function.update s.transportAt transport
          { s.transportAt transport with state := state } }

namespace Pool

/-- The transport was destroyed. -/
def Destroyed (s : Pool) (transport : Nat) : Prop :=
  0 < (s.transportAt transport).destroys

/-- The transport was closed or destroyed. -/
def Gone (s : Pool) (transport : Nat) : Prop :=
  0 < (s.transportAt transport).closes ∨ s.Destroyed transport

/-- The opening of the transport is in flight. -/
def InFlight (s : Pool) (transport : Nat) : Prop :=
  ∃ opening, s.openingAt transport = some opening ∧ opening.status = .inFlight

/-- The lease was granted over the transport. -/
def LeasedOver (s : Pool) (lease transport : Nat) : Prop :=
  ∃ l, s.leaseAt lease = some l ∧ l.connection = transport

end Pool

end OpenMcc

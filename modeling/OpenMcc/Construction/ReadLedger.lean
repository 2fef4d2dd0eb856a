import Mathlib.Data.Set.Card
import OpenMcc.Construction.ReadConnections

/-!
# The ledger of the read connections

The ledger keeps the other part of the pool: who holds what.  It has the leases and the operations
as they are, and of a connection its limiter, its operations, whether it is closed and whether its
hard-age timer is armed.  Keys, entries, generations and identities decide over which connection a
lease runs, and not what it holds there, so they are left out here.

The effects of the ledger are all that the pool may do to it.
-/

namespace OpenMcc

/-- What the ledger keeps of a connection. -/
structure Line where
  limiter : Limiter
  ops : List Nat
  closed : Bool
  hardTimer : Bool
  readyAt : Int
  deriving DecidableEq, Repr

/-- The part of the pool that says who holds what. -/
structure Ledger where
  leaseCount : Int
  stageAt : Nat → Option CallStage
  lineAt : Nat → Option Line
  leaseAt : Nat → Option Lease
  opAt : Nat → Option Op

def Connection.line (connection : Connection) : Line where
  limiter := connection.limiter
  ops := connection.ops
  closed := connection.closed
  hardTimer := connection.hardTimer
  readyAt := connection.readyAt

def Pool.ledger (s : Pool) : Ledger where
  leaseCount := s.leaseCount
  stageAt := Option.map LeaseCall.stage ∘ s.calls
  lineAt := Option.map Connection.line ∘ s.connectionAt
  leaseAt := s.leaseAt
  opAt := s.opAt

namespace Ledger

/-! ## The effects -/

def onLine (l : Ledger) (c : Nat) (f : Line → Line) : Ledger :=
  { l with lineAt := Function.update l.lineAt c ((l.lineAt c).map f) }

def onLease (l : Ledger) (lease : Nat) (f : Lease → Lease) : Ledger :=
  { l with leaseAt := Function.update l.leaseAt lease ((l.leaseAt lease).map f) }

def onOp (l : Ledger) (op : Nat) (f : Op → Op) : Ledger :=
  { l with opAt := Function.update l.opAt op ((l.opAt op).map f) }

/-- A slot of the connection is given back; the first operation that waits takes it over. -/
def releaseSlot (l : Ledger) (c : Nat) : Ledger :=
  match l.lineAt c with
  | none => l
  | some line =>
    let (next, limiter) := line.limiter.release
    let l := l.onLine c fun line => { line with limiter := limiter }
    match next with
    | none => l
    | some op => l.onOp op fun op => { op with admitted := true }

/-- An operation leaves its lease and its connection. -/
def unlist (l : Ledger) (opId leaseId c : Nat) : Ledger :=
  (l.onLease leaseId fun lease => { lease with ops := lease.ops.erase opId }).onLine c fun line =>
    { line with ops := line.ops.erase opId }

/-- An operation gives back the slot it holds. -/
def giveUp (l : Ledger) (opId c : Nat) : Ledger :=
  (l.onOp opId fun op => { op with holdsSlot := false }).releaseSlot c

/-- An operation is over. -/
def finishOp (l : Ledger) (opId : Nat) : Ledger :=
  match l.opAt opId with
  | none => l
  | some op =>
    match l.leaseAt op.lease with
    | none => l
    | some lease =>
      if op.holdsSlot then (l.unlist opId op.lease lease.connection).giveUp opId lease.connection
      else l.unlist opId op.lease lease.connection

/-- An operation has its outcome, and waits for no slot. -/
def settle (l : Ledger) (opId c : Nat) : Ledger :=
  (l.onOp opId fun op => { op with settled := true }).onLine c fun line =>
    { line with limiter := line.limiter.abort opId }

def abandon (l : Ledger) (opId : Nat) : Ledger :=
  match l.opAt opId with
  | none => l
  | some op =>
    match l.leaseAt op.lease with
    | none => l
    | some lease => (l.settle opId lease.connection).finishOp opId

/-- A connection is installed. -/
def connect (l : Ledger) (c : Nat) (readyAt : Int) : Ledger :=
  { l with
    lineAt := Function.update l.lineAt c (some {
      limiter := { active := 0, waiting := [] }
      ops := []
      closed := false
      hardTimer := true
      readyAt := readyAt }) }

/-- A connection is closed. -/
def close (l : Ledger) (c : Nat) (line : Line) : Ledger :=
  line.ops.foldl abandon (l.onLine c fun line => { line with closed := true, hardTimer := false })

/-- A call waits for an opening, or is rejected. -/
def await (l : Ledger) (call : Nat) (stage : CallStage) : Ledger :=
  { l with stageAt := Function.update l.stageAt call (some stage) }

/-- A call gets its lease. -/
def checkout (l : Ledger) (call c : Nat) : Ledger :=
  { l with
    leaseCount := l.leaseCount + 1
    stageAt := Function.update l.stageAt call (some .granted)
    leaseAt := Function.update l.leaseAt call (some {
      connection := c
      ops := []
      expired := false
      released := false
      timer := true }) }

/-- A lease is released. -/
def release (l : Ledger) (leaseId : Nat) (lease : Lease) : Ledger :=
  lease.ops.foldl abandon { l.onLease leaseId fun lease =>
    { lease with released := true, timer := false } with leaseCount := l.leaseCount - 1 }

/-- A lease is past its deadline. -/
def expire (l : Ledger) (leaseId : Nat) (lease : Lease) : Ledger :=
  lease.ops.foldl abandon (l.onLease leaseId fun lease =>
    { lease with expired := true, timer := false })

/-- A lease begins an operation. -/
def begin (l : Ledger) (limit opId leaseId : Nat) (kind : OpKind) (c : Nat) (line : Line) :
    Ledger :=
  { (l.onLease leaseId fun lease => { lease with ops := lease.ops ++ [opId] }).onLine c
      fun started => { started with
        ops := started.ops ++ [opId]
        limiter := (line.limiter.acquire limit opId).2 } with
    opAt := Function.update l.opAt opId (some {
      lease := leaseId
      kind := kind
      state := .queued
      admitted := (line.limiter.acquire limit opId).1
      holdsSlot := false
      settled := false }) }

/-- An operation that was granted a slot runs. -/
def grant (l : Ledger) (opId : Nat) : Ledger :=
  l.onOp opId fun op => { op with admitted := false, holdsSlot := true, state := .requested }

/-- An operation that was granted a slot is over already. -/
def refuse (l : Ledger) (opId c : Nat) : Ledger :=
  (l.onOp opId fun op => { op with admitted := false }).releaseSlot c

/-- The request of an operation is answered with a stream. -/
def answer (l : Ledger) (opId : Nat) : Ledger :=
  l.onOp opId fun op => { op with settled := true, state := .opened }

/-- The request of an operation is answered, and the operation is over. -/
def complete (l : Ledger) (opId : Nat) : Ledger :=
  (l.onOp opId fun op => { op with settled := true }).finishOp opId

/-- What the pool may do to its ledger, with connections that are installed at the times `lit`. -/
inductive Effect (limit : Nat) (lit : Int → Prop) : Ledger → Ledger → Prop
  | connect (l : Ledger) (c : Nat) (readyAt : Int) : l.lineAt c = none → lit readyAt →
      Effect limit lit l (l.connect c readyAt)
  | close (l : Ledger) (c : Nat) (line : Line) : l.lineAt c = some line → line.closed = false →
      Effect limit lit l (l.close c line)
  | await (l : Ledger) (call : Nat) (stage : CallStage) : l.stageAt call ≠ some .granted →
      Effect limit lit l (l.await call stage)
  | checkout (l : Ledger) (call c : Nat) (line : Line) : l.stageAt call ≠ some .granted →
      l.lineAt c = some line → line.closed = false → Effect limit lit l (l.checkout call c)
  | release (l : Ledger) (leaseId : Nat) (lease : Lease) : l.leaseAt leaseId = some lease →
      lease.released = false → Effect limit lit l (l.release leaseId lease)
  | expire (l : Ledger) (leaseId : Nat) (lease : Lease) : l.leaseAt leaseId = some lease →
      Effect limit lit l (l.expire leaseId lease)
  | begin (l : Ledger) (opId leaseId : Nat) (kind : OpKind) (lease : Lease) (line : Line) :
      l.opAt opId = none → l.leaseAt leaseId = some lease →
      l.lineAt lease.connection = some line → lease.released = false → lease.expired = false →
      line.closed = false →
      Effect limit lit l (l.begin limit opId leaseId kind lease.connection line)
  | grant (l : Ledger) (opId : Nat) (op : Op) : l.opAt opId = some op → op.admitted = true →
      op.settled = false → Effect limit lit l (l.grant opId)
  | refuse (l : Ledger) (opId : Nat) (op : Op) (lease : Lease) : l.opAt opId = some op →
      op.admitted = true → op.settled = true → l.leaseAt op.lease = some lease →
      Effect limit lit l (l.refuse opId lease.connection)
  | answer (l : Ledger) (opId : Nat) (op : Op) : l.opAt opId = some op →
      op.state ≠ .queued → Effect limit lit l (l.answer opId)
  | complete (l : Ledger) (opId : Nat) (op : Op) : l.opAt opId = some op →
      op.state ≠ .queued → Effect limit lit l (l.complete opId)
  | finishOp (l : Ledger) (opId : Nat) (op : Op) : l.opAt opId = some op →
      op.state ≠ .queued → Effect limit lit l (l.finishOp opId)

/-- Any number of effects. -/
def Effects (limit : Nat) (lit : Int → Prop) : Ledger → Ledger → Prop :=
  Relation.ReflTransGen (Effect limit lit)

/-! ## The invariants -/

/-- The operation runs over the connection. -/
def Over (l : Ledger) (op c : Nat) : Prop :=
  ∃ o lease, l.opAt op = some o ∧ l.leaseAt o.lease = some lease ∧ lease.connection = c

/-- The operation has a slot of its connection: it was granted one, or holds it. -/
def Occupies (l : Ledger) (op : Nat) : Prop :=
  ∃ o, l.opAt op = some o ∧ (o.admitted = true ∨ o.holdsSlot = true)

/-- The operation waits for a slot. -/
def Waits (l : Ledger) (op : Nat) : Prop :=
  ∃ o, l.opAt op = some o ∧ o.state = .queued ∧ o.settled = false ∧ o.admitted = false

/-- The operation holds a slot, or may still get one and use it. -/
def Lives (l : Ledger) (op : Nat) : Prop :=
  ∃ o, l.opAt op = some o ∧ (o.holdsSlot = true ∨ o.state = .queued ∧ o.settled = false)

/-- The operation has no slot and gets none any more. -/
def Done (l : Ledger) (op : Nat) : Prop :=
  ∃ o, l.opAt op = some o ∧ o.admitted = false ∧ o.holdsSlot = false ∧
    (o.state = .queued → o.settled = true)

/-- The operation was abandoned while it waited. -/
def Quit (l : Ledger) (op : Nat) : Prop :=
  ∃ o, l.opAt op = some o ∧ o.state = .queued ∧ o.settled = true

/-- The lease was granted and not yet released. -/
def Held (l : Ledger) (lease : Nat) : Prop :=
  ∃ found, l.leaseAt lease = some found ∧ found.released = false

/-- Every slot is accounted for. -/
structure Counted (limit : Nat) (l : Ledger) : Prop where
  lease_line : ∀ {leaseId lease}, l.leaseAt leaseId = some lease →
    ∃ line, l.lineAt lease.connection = some line
  op_lease : ∀ {op o}, l.opAt op = some o → ∃ lease, l.leaseAt o.lease = some lease
  admitted_queued : ∀ {op o}, l.opAt op = some o → o.admitted = true → o.state = .queued
  holds_requested : ∀ {op o}, l.opAt op = some o → o.holdsSlot = true → o.state ≠ .queued
  waiting : ∀ {c line}, l.lineAt c = some line → ∀ op, op ∈ line.limiter.waiting ↔
    l.Over op c ∧ l.Waits op
  waiting_nodup : ∀ {c line}, l.lineAt c = some line → line.limiter.waiting.Nodup
  active : ∀ {c line}, l.lineAt c = some line →
    {op | l.Over op c ∧ l.Occupies op}.encard = line.limiter.active
  active_le : ∀ {c line}, l.lineAt c = some line → line.limiter.active ≤ limit
  waiting_full : ∀ {c line}, l.lineAt c = some line → line.limiter.waiting ≠ [] →
    line.limiter.active = limit

/-- The lists of the leases and the connections have the operations that are not over. -/
structure Listed (l : Ledger) : Prop where
  lease_ops : ∀ {leaseId lease op}, l.leaseAt leaseId = some lease → op ∈ lease.ops →
    ∃ o, l.opAt op = some o ∧ o.lease = leaseId
  line_ops : ∀ {c line op}, l.lineAt c = some line → op ∈ line.ops → l.Over op c
  lease_nodup : ∀ {leaseId lease}, l.leaseAt leaseId = some lease → lease.ops.Nodup
  line_nodup : ∀ {c line}, l.lineAt c = some line → line.ops.Nodup
  listed : ∀ {op o lease line}, l.opAt op = some o → l.leaseAt o.lease = some lease →
    l.lineAt lease.connection = some line → l.Lives op → op ∈ lease.ops ∧ op ∈ line.ops

/-- An operation that has its outcome holds no slot, but for a stream. -/
def Returned (l : Ledger) : Prop :=
  ∀ op o, l.opAt op = some o → o.settled = true → o.state ≠ .opened → o.holdsSlot = false

/-- What has ended has no operation left. -/
structure Emptied (l : Ledger) : Prop where
  closed : ∀ {c line}, l.lineAt c = some line → line.closed = true → line.ops = []
  ended : ∀ {leaseId lease}, l.leaseAt leaseId = some lease →
    lease.released = true ∨ lease.expired = true → lease.ops = []

/-- Hard-age timers are armed while their connections are open, and the leases are counted. -/
structure Timed (lit : Int → Prop) (l : Ledger) : Prop where
  hardTimer : ∀ {c line}, l.lineAt c = some line → line.hardTimer = !line.closed
  readyAt : ∀ {c line}, l.lineAt c = some line → lit line.readyAt
  granted : ∀ {leaseId lease}, l.leaseAt leaseId = some lease → l.stageAt leaseId = some .granted
  leaseCount : ∃ n : ℕ, l.leaseCount = n ∧ {lease | l.Held lease}.encard = n

/-- What holds of the ledger of every pool. -/
structure Sound (limit : Nat) (lit : Int → Prop) (l : Ledger) : Prop where
  counted : Counted limit l
  listed : Listed l
  returned : Returned l
  emptied : Emptied l
  timed : Timed lit l

end Ledger

end OpenMcc

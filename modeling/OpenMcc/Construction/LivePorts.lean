import OpenMcc.Framework.Transition

/-!
# The ports of the live control (`instance.controller.ts`)

Each instance of a host has a port of its own there.  A call that creates an instance reads the
ports that are recorded, probes those that are not, and inserts its row with the first that does
not answer.  The database takes no port twice on one host, so an insert fails when another call was
first, and then the call goes on with another port, five times in all.

Any number of calls are at work, on one host.  What a probe finds is up to the host, and rows may
go away at any time.
-/

namespace OpenMcc

namespace LivePorts

/-- `DEFAULT_LIVE_CONTROL_PORT`. -/
def defaultLiveControlPort : Nat := 33333

/-- `LIVE_CONTROL_PORT_LIMIT`. -/
def liveControlPortLimit : Nat := 33832

/-- `LIVE_PORT_CLAIM_ATTEMPTS`. -/
def livePortClaimAttempts : Nat := 5

/-- `freeLiveControlPorts`. -/
def freeLiveControlPorts (taken : List Nat) : List Nat :=
  (List.range' defaultLiveControlPort (liveControlPortLimit + 1 - defaultLiveControlPort)).filter
    fun port => !taken.contains port

/-- Where a call stands. -/
inductive Stage
  /-- `unusedPortOnHost`, with the ports that are still to be probed. -/
  | probes (ports : List Nat)
  /-- The transaction that inserts the row. -/
  | inserts (port : Nat)
  /-- The row is there. -/
  | created (port : Nat)
  /-- Each try met a port that another instance had. -/
  | exhausted
  /-- Each port was recorded or answered. -/
  | noPort
  /-- Any other error. -/
  | failed
  deriving DecidableEq, Repr

/-- A call of `create`.  `since` is how many rows had been inserted when it read the rows, and
`answered` are the ports that have answered since it last began to probe; no step reads either. -/
structure Call where
  taken : List Nat
  tried : List Nat := []
  stage : Stage
  since : Nat
  answered : List Nat := []
  deriving DecidableEq, Repr

namespace Call

/-- `claimed`. -/
def claimed (c : Call) : List Nat := c.taken ++ c.tried

/-- `unusedPortOnHost` begins. -/
def probe (c : Call) : Call :=
  { c with stage := .probes (freeLiveControlPorts c.claimed), answered := [] }

/-- The next port answers, or it does not. -/
def hears (answers : Bool) (c : Call) : Option Call :=
  match c.stage with
  | .probes [] => if answers then none else some { c with stage := .noPort }
  | .probes (port :: rest) =>
    if answers then some { c with stage := .probes rest, answered := port :: c.answered }
    else some { c with stage := .inserts port, tried := c.tried ++ [port] }
  | _ => none

/-- The insert met a port that another row has. -/
def violated (c : Call) : Call :=
  if c.tried.length = livePortClaimAttempts then { c with stage := .exhausted } else c.probe

end Call

/-- A row that was inserted, and the call that did. -/
structure Inserted where
  call : Nat
  port : Nat
  deriving DecidableEq, Repr

/-- A host: the ports of its rows and the calls.  `log` keeps what was inserted, the first of it
first, and no step reads it. -/
structure State where
  rows : List Nat
  calls : List Call := []
  log : List Inserted := []
  deriving DecidableEq, Repr

/-- What happens. -/
inductive Event
  /-- A call reads the rows of the host. -/
  | begins
  /-- A port answers a call, or does not. -/
  | hears (call : Nat) (answers : Bool)
  /-- The transaction of a call. -/
  | inserts (call : Nat)
  /-- A call fails with another error. -/
  | fails (call : Nat)
  /-- A row goes away. -/
  | removes (port : Nat)

namespace State

variable (s : State)

/-- A call that reads the rows. -/
def begin : Call := (Call.mk s.rows [] .failed s.log.length []).probe

/-- One step. -/
def step : Event → Option State
  | .begins => some { s with calls := s.calls ++ [s.begin] }
  | .hears i answers =>
    (s.calls[i]?.bind (Call.hears answers)).map fun c => { s with calls := s.calls.set i c }
  | .inserts i =>
    s.calls[i]?.bind fun c =>
      match c.stage with
      | .inserts port =>
        if s.rows.contains port then some { s with calls := s.calls.set i c.violated }
        else
          some
            { rows := s.rows ++ [port]
              calls := s.calls.set i { c with stage := .created port }
              log := s.log ++ [⟨i, port⟩] }
      | _ => none
  | .fails i =>
    s.calls[i]?.bind fun c =>
      match c.stage with
      | .probes _ => some { s with calls := s.calls.set i { c with stage := .failed } }
      | .inserts _ => some { s with calls := s.calls.set i { c with stage := .failed } }
      | _ => none
  | .removes port => some { s with rows := s.rows.filter (· ≠ port) }

end State

/-- A host with any rows, no port of which is recorded twice. -/
def system : TransitionSystem State Event where
  init s := s.rows.Nodup ∧ s.calls = [] ∧ s.log = []
  step := State.step

end LivePorts

end OpenMcc

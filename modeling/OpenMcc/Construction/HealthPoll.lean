import OpenMcc.Construction.HostRepository
import OpenMcc.Construction.Reachability

/-!
# Polling the hosts (`health-poller.ts`, `health.ts`)

`runHealthPoll` goes over the hosts that can be polled.  It leases a reader of each, observes the
host over it, records that the host was seen and that it was reached, and has its bots read.
Whatever is thrown on the way is caught by one handler, which lists the host as unreachable and
records it as not reached; only the reading of the bots has a handler of its own.

The outside is given by what it answers for each host at each step.  A write that fails has
recorded nothing, as each is one statement or one transaction.
-/

namespace OpenMcc

/-! ## What is observed of a host -/

/-- A row of `host`, with the columns that name it. -/
structure ListedHost extends HostRow where
  id : Nat
  name : Text
  deriving DecidableEq, Repr

/-- `isPollable`. -/
def isPollable (host : ListedHost) : Bool :=
  host.status != .removing && host.osRelease.isSome && host.runtimeReady

/-- What a command on a host gave back. -/
structure CommandResult where
  stdout : Text
  exitCode : Int
  deriving DecidableEq, Repr

/-- `parseFailedUnits`. -/
def parseFailedUnits (output : Text) : Nat :=
  ((Text.lines output).filter fun line => !(Text.trim line).isEmpty).length

/-- `UNKNOWN_HOST_FACT`. -/
def unknownHostFact : Text := "Unknown".toList

/-- A text without a quote at its start and one at its end. -/
def withoutQuotes (value : Text) : Text :=
  let opened := if value.head? = some '"' then value.tail else value
  if opened.getLast? = some '"' then opened.dropLast else opened

/-- `hostFact`. -/
def hostFact (output : Text) : Option Text :=
  let value := withoutQuotes (Text.trim output)
  if value.isEmpty then none
  else if (value.all fun c => ' ' ≤ c && c ≤ '~') && value.length ≤ 128 then some value
  else some unknownHostFact

/-- `parseOsRelease`: the id and the name. -/
def parseOsRelease (output : Text) : Option Text × Option Text :=
  let lines := Text.lines output
  (hostFact (lines.getD 0 []), hostFact (lines.getD 1 []))

/-- What `observeHost` makes of the answers to its two commands. -/
def hostObservation (failed os : CommandResult) : HostObservation where
  failedUnits := if failed.exitCode = 0 then some (parseFailedUnits failed.stdout) else none
  osId := (parseOsRelease os.stdout).1
  osName := (parseOsRelease os.stdout).2

/-! ## The outside -/

/-- `HostReadLease`.  A lease comes with the row of the host as it is read then. -/
inductive HostReadLease
  | leased (row : HostRow) (name : Text)
  | missing
  | unprovisioned
  | changed
  deriving DecidableEq, Repr

/-- What the outside answers at each step of the poll of one host; what fails throws a text. -/
structure PollAnswers where
  lease : Except Text HostReadLease
  failedUnits : Except Text CommandResult
  osRelease : Except Text CommandResult
  seenAt : Int
  recordSeen : Except Text Unit
  recordReached : Except Text Unit
  observeInstances : Except Text Unit
  recordUnreached : Except Text Unit
  /-- When the reachability is recorded. -/
  recordedAt : Int

/-- The parts of `HealthPollerDeps` that may be absent. -/
structure HealthPollerDeps where
  recordsReachability : Bool
  observesInstances : Bool
  deriving DecidableEq, Repr

/-- What a poll records. -/
inductive PollRecord
  | seen (hostId : Nat) (seenAt : Int) (observed : HostObservation)
  | reachability (observation : HostProbe) (recordedAt : Int)
  deriving DecidableEq, Repr

/-- What a poll says to `onError`: which message, about which host, and the error. -/
inductive PollError
  /-- `Could not read the bots on host`. -/
  | botsUnread (hostId : Nat) (error : Text)
  /-- `Health poll could not reach host`. -/
  | notReached (hostId : Nat) (error : Text)
  /-- `Could not record that host .. was unreachable`. -/
  | notRecorded (hostId : Nat) (error : Text)
  deriving DecidableEq, Repr

/-- `HealthPollRun`, with everything else the poll has done. -/
structure HealthPollRun where
  polled : Nat
  reached : List Nat
  unreachable : List Nat
  records : List PollRecord
  errors : List PollError
  /-- The hosts whose readers were released. -/
  released : List Nat
  deriving DecidableEq, Repr

namespace HealthPollRun

/-- Nothing done yet. -/
def empty : HealthPollRun := ⟨0, [], [], [], [], []⟩

/-- What one stretch of a poll did and then another. -/
def append (a b : HealthPollRun) : HealthPollRun :=
  ⟨a.polled + b.polled, a.reached ++ b.reached, a.unreachable ++ b.unreachable, a.records ++ b.records,
    a.errors ++ b.errors, a.released ++ b.released⟩

end HealthPollRun

/-! ## The poll -/

/-- A part of the poll, which may throw. -/
abbrev Poll := EStateM Text HealthPollRun

/-- A promise that is awaited. -/
def Poll.await {α : Type} : Except Text α → Poll α
  | .ok a => pure a
  | .error error => throw error

/-- Something is done. -/
def Poll.does (run : HealthPollRun) : Poll Unit := modify fun before => before.append run

open Poll

/-- `observeHost`. -/
def observeHost (answers : PollAnswers) : Poll HostObservation := do
  let failed ← await answers.failedUnits
  let os ← await answers.osRelease
  return hostObservation failed os

/-- `deps.recordSeen`. -/
def recordSeen (host : ListedHost) (answers : PollAnswers) (observed : HostObservation) :
    Poll Unit := do
  await answers.recordSeen
  does { HealthPollRun.empty with records := [.seen host.id answers.seenAt observed] }

/-- `deps.recordReachability`. -/
def recordReachability (deps : HealthPollerDeps) (host : ListedHost) (reached : Bool)
    (answers : PollAnswers) : Poll Unit :=
  if deps.recordsReachability then do
    await (if reached then answers.recordReached else answers.recordUnreached)
    does { HealthPollRun.empty with
      records := [.reachability ⟨host.id, host.name, reached⟩ answers.recordedAt] }
  else pure ()

/-- `deps.observeInstances`, which reads the bots by itself. -/
def observeInstances (deps : HealthPollerDeps) (answers : PollAnswers) : Poll Unit :=
  if deps.observesInstances then await answers.observeInstances else pure ()

/-- `deps.onError`. -/
def onError (error : PollError) : Poll Unit :=
  does { HealthPollRun.empty with errors := [error] }

/-- What `runHealthPoll` tries with a host. -/
def reachHost (deps : HealthPollerDeps) (listed : ListedHost) (answers : PollAnswers) :
    Poll Unit := do
  match ← await answers.lease with
  | .leased row name =>
    let observed ← tryFinally (observeHost answers)
      (does { HealthPollRun.empty with released := [listed.id] })
    let host : ListedHost := { row with id := listed.id, name := name }
    recordSeen host answers observed
    does { HealthPollRun.empty with reached := [host.id] }
    recordReachability deps host true answers
    tryCatch (observeInstances deps answers) fun error => onError (.botsUnread host.id error)
  | _ => pure ()

/-- What it does when something was thrown. -/
def missHost (deps : HealthPollerDeps) (listed : ListedHost) (answers : PollAnswers)
    (error : Text) : Poll Unit := do
  does { HealthPollRun.empty with unreachable := [listed.id] }
  onError (.notReached listed.id error)
  tryCatch (recordReachability deps listed false answers) fun recordError =>
    onError (.notRecorded listed.id recordError)

/-- The body of the loop of `runHealthPoll`. -/
def pollHost (deps : HealthPollerDeps) (listed : ListedHost) (answers : PollAnswers) : Poll Unit :=
  tryCatch (reachHost deps listed answers) (missHost deps listed answers)

/-- `runHealthPoll`, over the hosts that `pollableHosts` lists.  Nothing is thrown out of the body
of its loop, so what it ends with is what it has done. -/
def runHealthPoll (deps : HealthPollerDeps) (hosts : List ListedHost)
    (answers : Nat → PollAnswers) : HealthPollRun :=
  let pollable := hosts.filter isPollable
  match (pollable.forM fun listed => pollHost deps listed (answers listed.id)).run
    { HealthPollRun.empty with polled := pollable.length } with
  | .ok _ run => run
  | .error _ run => run

/-! ## What is recorded -/

/-- The rows of the hosts and of what is known of their reachability. -/
structure HealthStore where
  hosts : Nat → Option HostRow
  recorders : Nat → HostRecorder

namespace HealthStore

/-- The store after a record. -/
def record (store : HealthStore) : PollRecord → HealthStore
  | .seen hostId seenAt observed =>
    { store with
      hosts := Function.update store.hosts hostId
        ((store.hosts hostId).map fun row => row.recordSeen seenAt observed) }
  | .reachability observation recordedAt =>
    { store with
      recorders := Function.update store.recorders observation.hostId
        ((store.recorders observation.hostId).recordHostReachability observation recordedAt) }

/-- The store after a poll. -/
def after (store : HealthStore) (run : HealthPollRun) : HealthStore :=
  run.records.foldl record store

end HealthStore

/-! ## What is asked of a poll -/

namespace PollAnswers

/-- The observation of the host completes. -/
def completes (answers : PollAnswers) : Bool :=
  match answers.lease, answers.failedUnits, answers.osRelease with
  | .ok (.leased _ _), .ok _, .ok _ => true
  | _, _, _ => false

/-- The manager's own database takes what a completed observation has to record. -/
def recorded (deps : HealthPollerDeps) (answers : PollAnswers) : Bool :=
  answers.recordSeen.isOk && (!deps.recordsReachability || answers.recordReached.isOk)

end PollAnswers

/-- The poll tells the truth of each host and keeps the hosts apart. -/
structure PollSound (deps : HealthPollerDeps) (hosts : List ListedHost)
    (answers : Nat → PollAnswers) : Prop where
  /-- A host that was observed is neither listed nor recorded as not reached. -/
  truthful : ∀ host ∈ hosts, isPollable host = true → (answers host.id).completes = true →
    host.id ∉ (runHealthPoll deps hosts answers).unreachable ∧
      ∀ name recordedAt, PollRecord.reachability ⟨host.id, name, false⟩ recordedAt ∉
        (runHealthPoll deps hosts answers).records
  /-- No host is on both lists. -/
  disjoint : ∀ id ∈ (runHealthPoll deps hosts answers).reached,
    id ∉ (runHealthPoll deps hosts answers).unreachable
  /-- What happens at one host changes nothing of the others. -/
  isolated : ∀ (failing : Nat) (answers' : Nat → PollAnswers),
    (∀ id, id ≠ failing → answers' id = answers id) → ∀ (store : HealthStore) (id : Nat),
      id ≠ failing →
      (store.after (runHealthPoll deps hosts answers')).hosts id =
          (store.after (runHealthPoll deps hosts answers)).hosts id ∧
        (store.after (runHealthPoll deps hosts answers')).recorders id =
          (store.after (runHealthPoll deps hosts answers)).recorders id ∧
        (id ∈ (runHealthPoll deps hosts answers').reached ↔
          id ∈ (runHealthPoll deps hosts answers).reached) ∧
        (id ∈ (runHealthPoll deps hosts answers').unreachable ↔
          id ∈ (runHealthPoll deps hosts answers).unreachable)

end OpenMcc

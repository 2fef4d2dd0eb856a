import OpenMcc.Construction.Producer

/-!
# Recording whether a host is reached (`reachability.ts`, `recordHostReachability`)

A host that misses a probe is suspect, and down once it has been for three minutes.  The recorder
keeps its condition, events and intervals, and hands each event to `announce`.
-/

namespace OpenMcc

/-- `ReachabilityState`. -/
inductive ReachabilityState
  | up | suspect | down | unknown
  deriving DecidableEq, Repr

/-- `ReachabilityCurrent`. -/
structure ReachabilityCurrent where
  state : ReachabilityState
  failureStartedAt : Option Int
  deriving DecidableEq, Repr

/-- `ReachabilityDecision`. -/
structure ReachabilityDecision where
  state : ReachabilityState
  failureStartedAt : Option Int
  event : Option EventKind
  changed : Bool
  deriving DecidableEq, Repr

/-- `UNOBSERVED`. -/
def unobserved : ReachabilityCurrent := ⟨.unknown, none⟩

/-- `HOST_SUSPECT_TO_DOWN_MS`. -/
def hostSuspectToDownMs : Int := 3 * 60 * 1000

/-- `nextReachability`. -/
def nextReachability (current : ReachabilityCurrent) (reached : Bool) (now : Int)
    (suspectToDownMs : Int) : ReachabilityDecision :=
  if reached then
    if current.state = .up then ⟨.up, none, none, false⟩
    else
      let event :=
        if current.state = .down then some EventKind.hostRecovered
        else if current.state = .suspect then some .hostCheckRecovered
        else none
      ⟨.up, none, event, true⟩
  else if current.state = .down then ⟨.down, current.failureStartedAt, none, false⟩
  else
    let failingSince := if current.state = .suspect then current.failureStartedAt.getD now else now
    if suspectToDownMs ≤ now - failingSince then
      ⟨.down, some failingSince, some .hostUnreachable, true⟩
    else if current.state = .suspect then ⟨.suspect, some failingSince, none, false⟩
    else ⟨.suspect, some failingSince, some .hostCheckFailed, true⟩

/-! ## The rows of one host -/

/-- `StatusEventRow`, of a host.  It has no source key, so it is always stored. -/
structure HostEventRow where
  subjectLabel : Text
  kind : EventKind
  occurredAt : Int
  observedAt : Int
  lastCorroboratedAt : Int
  incidentId : Option Nat
  id : Nat
  deriving DecidableEq, Repr

/-- `StatusConditionRow`, of a host. -/
structure HostCondition where
  state : ReachabilityState
  startedAt : Int
  lastObservedAt : Int
  failureStartedAt : Option Int
  activeIncidentId : Option Nat
  deriving DecidableEq, Repr

/-- `StatusIntervalRow`, of a host. -/
structure HostInterval where
  state : ReachabilityState
  startedAt : Int
  endedAt : Option Int
  startEventId : Option Nat
  endEventId : Option Nat
  deriving DecidableEq, Repr

/-- The rows of one host, the facts announced about it and the next fresh incident id. -/
structure HostRecorder where
  condition : Option HostCondition
  events : List HostEventRow
  intervals : List HostInterval
  announced : List AlertFact
  nextIncidentId : Nat
  deriving DecidableEq, Repr

/-- `HostObservation`. -/
structure HostProbe where
  hostId : Nat
  hostName : Text
  reached : Bool
  deriving DecidableEq, Repr

namespace HostRecorder

/-- `touchCondition`. -/
def touchCondition (s : HostRecorder) (now : Int) : HostRecorder :=
  { s with condition := s.condition.map fun condition => { condition with lastObservedAt := now } }

/-- The event of a probe, if it has one, is recorded and announced. -/
def recordReachabilityEvent (s : HostRecorder) (observation : HostProbe) (now : Int)
    (event : Option EventKind) (eventIncidentId : Option Nat) : HostRecorder :=
  match event with
  | none => s
  | some kind =>
    { s with
      events := s.events ++ [{
        subjectLabel := observation.hostName
        kind := kind
        occurredAt := now
        observedAt := now
        lastCorroboratedAt := now
        incidentId := eventIncidentId
        id := s.events.length }]
      announced := s.announced ++ [{
        statusEventId := s.events.length
        kind := kind
        subject := .host observation.hostId
        subjectName := observation.hostName
        incidentId := eventIncidentId }] }

/-- The open interval ends and the next one begins. -/
def moveInterval (s : HostRecorder) (state : ReachabilityState) (now : Int)
    (eventId : Option Nat) : HostRecorder :=
  { s with intervals := (s.intervals.map fun interval =>
      if interval.endedAt.isNone then
        { interval with endedAt := some (max now interval.startedAt), endEventId := eventId }
      else interval) ++ [{
        state := state
        startedAt := now
        endedAt := none
        startEventId := eventId
        endEventId := none }] }

/-- `recordHostReachability`. -/
def recordHostReachability (s : HostRecorder) (observation : HostProbe) (now : Int) :
    HostRecorder :=
  let current := s.condition.elim unobserved fun existing =>
    ⟨existing.state, existing.failureStartedAt⟩
  let decision := nextReachability current observation.reached now hostSuspectToDownMs
  if !decision.changed && s.condition.isSome then s.touchCondition now
  else
    let existingIncident := s.condition.bind HostCondition.activeIncidentId
    let incidentId :=
      if decision.state = .down then some (existingIncident.getD s.nextIncidentId)
      else if decision.state = .up then none
      else existingIncident
    let opened := decision.state = .down ∧ existingIncident = none
    let s₁ := if opened then { s with nextIncidentId := s.nextIncidentId + 1 } else s
    let s₂ := s₁.recordReachabilityEvent observation now decision.event
      (incidentId <|> existingIncident)
    let eventId := decision.event.map fun _ => s₁.events.length
    let s₃ := s₂.moveInterval decision.state now eventId
    { s₃ with condition := some {
        state := decision.state
        startedAt := now
        lastObservedAt := now
        failureStartedAt := decision.failureStartedAt
        activeIncidentId := if decision.state = .up then none else incidentId } }

end HostRecorder

/-- A host that was not probed yet. -/
def unprobed : HostRecorder where
  condition := none
  events := []
  intervals := []
  announced := []
  nextIncidentId := 0

end OpenMcc

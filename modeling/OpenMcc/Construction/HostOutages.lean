import OpenMcc.Construction.Alerts

/-!
# The outages of a host

The probes of one host, as a run of an organization's alerts makes them, and what is asked of the
events recorded of that host.
-/

namespace OpenMcc

/-- A probe of a host: when it ended, and whether the host was reached. -/
structure ProbeOutcome where
  time : Int
  reached : Bool
  deriving DecidableEq, Repr

/-- The probe of the host that an event is, if it is one. -/
def AlertEvent.probeOf (hostId : Nat) : AlertEvent → List ProbeOutcome
  | .probes observation now _ _ =>
    if observation.hostId = hostId then [{ time := now, reached := observation.reached }] else []
  | _ => []

/-- The probes of the host in a run. -/
def probesOf (hostId : Nat) (es : List AlertEvent) : List ProbeOutcome :=
  es.flatMap (AlertEvent.probeOf hostId)

namespace HostEventRow

/-- `host.unreachable`. -/
def isOutage (row : HostEventRow) : Bool := row.kind == .hostUnreachable

/-- `host.recovered`. -/
def isRecovery (row : HostEventRow) : Bool := row.kind == .hostRecovered

/-- **The outage is founded**: it is recorded at a probe that ends a stretch of failures, the first
of which is `HOST_SUSPECT_TO_DOWN_MS` earlier or more. -/
def FoundedOn (row : HostEventRow) (probes : List ProbeOutcome) : Prop :=
  ∃ earlier first failing last later,
    probes = earlier ++ first :: (failing ++ last :: later) ∧
      first.reached = false ∧ (∀ probe ∈ failing, probe.reached = false) ∧
      last.reached = false ∧ last.time = row.occurredAt ∧
      hostSuspectToDownMs ≤ row.occurredAt - first.time

end HostEventRow

/-- **Outages alternate with recoveries**: between two successive ones lies one recovery, and each
recovery has the incident of the outage before it. -/
structure OutagesAlternate (events : List HostEventRow) : Prop where
  between : ∀ before outage middle next after,
    events = before ++ outage :: (middle ++ next :: after) →
    outage.isOutage = true → next.isOutage = true →
    (∀ row ∈ middle, row.isOutage = false) → (middle.filter HostEventRow.isRecovery).length = 1
  incident : ∀ before recovery after, events = before ++ recovery :: after →
    recovery.isRecovery = true →
    ∃ earlier outage middle, before = earlier ++ outage :: middle ∧ outage.isOutage = true ∧
      (∀ row ∈ middle, row.isOutage = false) ∧
      recovery.incidentId = outage.incidentId ∧ recovery.incidentId.isSome = true

end OpenMcc

import OpenMcc.Construction.Producer

/-!
# The incidents of one subject

What the recorders of hosts and bots have in common: events are recorded under incidents, one
incident is active at a time, and what resolves a problem ends the active one.
-/

namespace OpenMcc

/-- The kinds and incidents of the events of one subject by their numbers, the facts told of them,
the active incident and the next fresh one. -/
structure IncidentLog where
  events : List (EventKind × Option Nat)
  told : List AlertFact
  active : Option Nat
  nextIncidentId : Nat
  deriving DecidableEq, Repr

namespace IncidentLog

/-- An event is recorded under an incident, and told. -/
def record (l : IncidentLog) (fact : AlertFact) (incidentId : Option Nat) : IncidentLog :=
  { l with
    events := l.events ++ [(fact.kind, incidentId)]
    told := l.told ++ [fact] }

/-- What a recorder may do to the log of its subject. -/
inductive Effect (subject : Subject) : IncidentLog → IncidentLog → Prop
  | opens (l : IncidentLog) : Effect subject l
      { l with active := some l.nextIncidentId, nextIncidentId := l.nextIncidentId + 1 }
  | closes (l : IncidentLog) : Effect subject l { l with active := none }
  | records (l : IncidentLog) (fact : AlertFact) (incidentId : Option Nat) :
      fact.subject = subject → fact.statusEventId = l.events.length →
      problemResolvedBy fact.kind = none → Effect subject l (l.record fact incidentId)
  | recovers (l : IncidentLog) (fact : AlertFact) :
      fact.subject = subject → fact.statusEventId = l.events.length →
      (problemResolvedBy fact.kind).isSome → fact.incidentId = l.active →
      Effect subject l { l.record fact l.active with active := none }

/-- What holds of the log of a subject: an incident whose problem was resolved is not active again,
and no two events resolve a problem under one incident. -/
structure Sound (subject : Subject) (l : IncidentLog) : Prop where
  active_lt : ∀ incidentId, l.active = some incidentId → incidentId < l.nextIncidentId
  closed : ∀ (number : Nat) kind incidentId, l.events[number]? = some (kind, some incidentId) →
    (problemResolvedBy kind).isSome →
    incidentId < l.nextIncidentId ∧ l.active ≠ some incidentId
  once : ∀ (first second : Nat) kind kind' incidentId,
    l.events[first]? = some (kind, some incidentId) →
    l.events[second]? = some (kind', some incidentId) →
    (problemResolvedBy kind).isSome → (problemResolvedBy kind').isSome → first = second
  told : ∀ fact ∈ l.told, fact.subject = subject ∧ ∃ incidentId,
    l.events[fact.statusEventId]? = some (fact.kind, incidentId) ∧
      ((problemResolvedBy fact.kind).isSome → incidentId = fact.incidentId)
  ordered : l.told.Pairwise fun first second => first.statusEventId < second.statusEventId

end IncidentLog

/-- A log that is empty. -/
def noIncidents : IncidentLog where
  events := []
  told := []
  active := none
  nextIncidentId := 0

end OpenMcc

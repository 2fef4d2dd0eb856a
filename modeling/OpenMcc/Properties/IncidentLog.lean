import Mathlib.Logic.Relation
import OpenMcc.Construction.Alerts
import OpenMcc.Construction.IncidentLog
import OpenMcc.Properties.StatusHistory

/-!
# Incidents end once

Each effect on a log keeps `Sound` and only adds to what is recorded and told.  The recorders of
hosts and bots make such effects only.
-/

namespace OpenMcc

open Relation

namespace IncidentLog

variable {subject : Subject} {l l' : IncidentLog}

/-- The later log has all that the earlier one recorded and told, in its place. -/
structure Extends (l l' : IncidentLog) : Prop where
  events : l.events <+: l'.events
  told : l.told <+: l'.told

lemma Extends.refl (l : IncidentLog) : l.Extends l := ⟨List.prefix_rfl, List.prefix_rfl⟩

lemma Extends.trans {l'' : IncidentLog} (h : l.Extends l') (h' : l'.Extends l'') :
    l.Extends l'' := ⟨h.events.trans h'.events, h.told.trans h'.told⟩

/-- What is recorded under a number stays. -/
lemma Extends.getElem? (h : l.Extends l') {number : Nat} {event : EventKind × Option Nat}
    (hevent : l.events[number]? = some event) : l'.events[number]? = some event := by
  obtain ⟨rest, hrest⟩ := h.events
  have hlt : number < l.events.length := (List.getElem?_eq_some_iff.1 hevent).1
  rw [← hrest, List.getElem?_append_left hlt]
  exact hevent

lemma Effect.extends (h : Effect subject l l') : l.Extends l' := by
  cases h with
  | opens => exact ⟨List.prefix_rfl, List.prefix_rfl⟩
  | closes => exact ⟨List.prefix_rfl, List.prefix_rfl⟩
  | records fact incidentId => exact ⟨List.prefix_append _ _, List.prefix_append _ _⟩
  | recovers fact => exact ⟨List.prefix_append _ _, List.prefix_append _ _⟩

lemma extends_of_chain (h : ReflTransGen (Effect subject) l l') : l.Extends l' := by
  induction h with
  | refl => exact .refl l
  | tail _ hlast ih => exact ih.trans hlast.extends

/-- What is recorded under a number once one more event is. -/
lemma getElem?_record {fact : AlertFact} {incidentId : Option Nat} {number : Nat}
    {event : EventKind × Option Nat}
    (h : (l.record fact incidentId).events[number]? = some event) :
    l.events[number]? = some event ∨
      (number = l.events.length ∧ event = (fact.kind, incidentId)) := by
  have hlt := (List.getElem?_eq_some_iff.1 h).1
  simp only [record, List.length_append, List.length_singleton] at hlt
  by_cases hold : number < l.events.length
  · left
    rwa [record, List.getElem?_append_left hold] at h
  · right
    have hnumber : number = l.events.length := by omega
    rw [hnumber, record, List.getElem?_concat_length, Option.some.injEq] at h
    exact ⟨hnumber, h.symm⟩

lemma sound_noIncidents (subject : Subject) : Sound subject noIncidents where
  active_lt := nofun
  closed number kind incidentId h := by simp [noIncidents] at h
  once first second kind kind' incidentId h := by simp [noIncidents] at h
  told := nofun
  ordered := .nil

/-- The facts told stay told, and the new one comes last. -/
lemma Sound.told_record (h : Sound subject l) {fact : AlertFact} {incidentId : Option Nat}
    (hsubject : fact.subject = subject) (hnumber : fact.statusEventId = l.events.length)
    (hincident : (problemResolvedBy fact.kind).isSome → incidentId = fact.incidentId) :
    (∀ told ∈ (l.record fact incidentId).told, told.subject = subject ∧ ∃ incident,
      (l.record fact incidentId).events[told.statusEventId]? = some (told.kind, incident) ∧
        ((problemResolvedBy told.kind).isSome → incident = told.incidentId)) ∧
    (l.record fact incidentId).told.Pairwise fun first second =>
      first.statusEventId < second.statusEventId := by
  constructor
  · intro told htold
    obtain htold | htold := List.mem_append.1 htold
    · obtain ⟨hsubject', incident, hevent, hsame⟩ := h.told told htold
      have hlt := (List.getElem?_eq_some_iff.1 hevent).1
      refine ⟨hsubject', incident, ?_, hsame⟩
      rw [record, List.getElem?_append_left hlt]
      exact hevent
    · obtain rfl := List.mem_singleton.1 htold
      refine ⟨hsubject, incidentId, ?_, hincident⟩
      rw [record, hnumber, List.getElem?_concat_length]
  · refine List.pairwise_append.2 ⟨h.ordered, List.pairwise_singleton _ _, ?_⟩
    intro told htold last hlast
    obtain rfl := List.mem_singleton.1 hlast
    obtain ⟨-, incident, hevent, -⟩ := h.told told htold
    have hlt := (List.getElem?_eq_some_iff.1 hevent).1
    omega

/-- **One effect.** -/
lemma Effect.sound (heffect : Effect subject l l') (h : Sound subject l) : Sound subject l' := by
  cases heffect with
  | opens =>
    refine ⟨fun incidentId hactive => ?_, fun number kind incidentId hevent hkind => ?_, h.once,
      h.told, h.ordered⟩
    · simp only [Option.some.injEq] at hactive
      simp only
      omega
    · have hlt := (h.closed number kind incidentId hevent hkind).1
      refine ⟨Nat.lt_succ_of_lt hlt, fun hactive => ?_⟩
      simp only [Option.some.injEq] at hactive
      omega
  | closes =>
    exact ⟨nofun, fun number kind incidentId hevent hkind =>
      ⟨(h.closed number kind incidentId hevent hkind).1, nofun⟩, h.once, h.told, h.ordered⟩
  | records fact incidentId hsubject hnumber hproblem =>
    have hnone : ¬(problemResolvedBy fact.kind).isSome := by simp [hproblem]
    have hincident : (problemResolvedBy fact.kind).isSome → incidentId = fact.incidentId :=
      fun hsome => absurd hsome hnone
    obtain ⟨htold, hordered⟩ := h.told_record hsubject hnumber hincident
    have hold : ∀ (number : Nat) kind incident,
        (l.record fact incidentId).events[number]? = some (kind, incident) →
        (problemResolvedBy kind).isSome → l.events[number]? = some (kind, incident) := by
      intro number kind incident hevent hkind
      obtain hevent | ⟨-, heq⟩ := getElem?_record hevent
      · exact hevent
      · rw [(Prod.mk.inj heq).1] at hkind
        exact absurd hkind hnone
    refine ⟨h.active_lt, fun number kind incident hevent hkind =>
      h.closed number kind incident (hold _ _ _ hevent hkind) hkind, ?_, htold, hordered⟩
    intro first second kind kind' incident hfirst hsecond hkind hkind'
    exact h.once first second kind kind' incident (hold _ _ _ hfirst hkind)
      (hold _ _ _ hsecond hkind') hkind hkind'
  | recovers fact hsubject hnumber hproblem hincident =>
    obtain ⟨htold, hordered⟩ := h.told_record hsubject hnumber fun _ => hincident.symm
    refine ⟨nofun, fun number kind incident hevent hkind => ⟨?_, nofun⟩, ?_, htold, hordered⟩
    · obtain hevent | ⟨-, heq⟩ := getElem?_record hevent
      · exact (h.closed number kind incident hevent hkind).1
      · exact h.active_lt incident (Prod.mk.inj heq).2.symm
    · -- The incident of the new event was active, so no event before resolved a problem under it.
      intro first second kind kind' incident hfirst hsecond hkind hkind'
      obtain hfirst | ⟨hnew, heq⟩ := getElem?_record hfirst
      · obtain hsecond | ⟨hnew', heq'⟩ := getElem?_record hsecond
        · exact h.once first second kind kind' incident hfirst hsecond hkind hkind'
        · have hactive := (Prod.mk.inj heq').2
          exact absurd hactive.symm (h.closed first kind incident hfirst hkind).2
      · obtain hsecond | ⟨hnew', heq'⟩ := getElem?_record hsecond
        · have hactive := (Prod.mk.inj heq).2
          exact absurd hactive.symm (h.closed second kind' incident hsecond hkind').2
        · omega

lemma sound_of_chain (h : ReflTransGen (Effect subject) l l') (hl : Sound subject l) :
    Sound subject l' := by
  induction h with
  | refl => exact hl
  | tail _ hlast ih => exact hlast.sound ih

end IncidentLog

open IncidentLog (Effect)

/-! ## The log of a host -/

namespace HostRecorder

/-- The incidents of a host. -/
def log (s : HostRecorder) : IncidentLog where
  events := s.events.map fun row => (row.kind, row.incidentId)
  told := s.announced
  active := s.condition.bind HostCondition.activeIncidentId
  nextIncidentId := s.nextIncidentId

variable {s t : HostRecorder} {observation : HostProbe} {now : Int}

lemma log_touchCondition (s : HostRecorder) (now : Int) : (s.touchCondition now).log = s.log := by
  have hactive : ((s.touchCondition now).condition.bind HostCondition.activeIncidentId) =
      s.condition.bind HostCondition.activeIncidentId := by
    rw [touchCondition, Option.bind_map]
    rfl
  simp only [log, hactive]
  rfl

/-- The fact that a probe announces. -/
def factOf (s : HostRecorder) (observation : HostProbe) (kind : EventKind)
    (incidentId : Option Nat) : AlertFact where
  statusEventId := s.events.length
  kind := kind
  subject := .host observation.hostId
  subjectName := observation.hostName
  incidentId := incidentId

lemma log_recordReachabilityEvent (s : HostRecorder) (observation : HostProbe) (now : Int)
    (kind : EventKind) (incidentId : Option Nat) :
    (s.recordReachabilityEvent observation now (some kind) incidentId).log =
      s.log.record (s.factOf observation kind incidentId) incidentId := by
  simp [log, recordReachabilityEvent, IncidentLog.record, factOf]

lemma length_events_log (s : HostRecorder) : s.log.events.length = s.events.length := by
  simp [log]

/-- What a probe that changes the state of a host comes to. -/
lemma nextReachability_changed {current : ReachabilityCurrent} {reached : Bool} {graceMs : Int}
    (h : (nextReachability current reached now graceMs).changed = true) :
    ((nextReachability current reached now graceMs).state = .up ∧
      (nextReachability current reached now graceMs).event =
        if current.state = .down then some .hostRecovered
        else if current.state = .suspect then some .hostCheckRecovered
        else none) ∨
    ((nextReachability current reached now graceMs).state = .down ∧
      (nextReachability current reached now graceMs).event = some .hostUnreachable) ∨
    ((nextReachability current reached now graceMs).state = .suspect ∧
      (nextReachability current reached now graceMs).event = some .hostCheckFailed) := by
  unfold nextReachability at h ⊢
  cases reached with
  | true =>
    by_cases hup : current.state = .up
    · simp [hup] at h
    · simp [hup]
  | false =>
    by_cases hdown : current.state = .down
    · simp [hdown] at h
    · by_cases hgrace : graceMs ≤ now -
          (if current.state = .suspect then current.failureStartedAt.getD now else now)
      · simp [hdown, hgrace]
      · by_cases hsuspect : current.state = .suspect
        · rw [if_pos hsuspect] at hgrace
          simp [hsuspect, hgrace] at h
        · rw [if_neg hsuspect, Int.sub_self] at hgrace
          simp [hdown, hgrace, hsuspect]

/-- A probe that changes nothing finds a host that was probed before. -/
lemma nextReachability_unchanged {current : ReachabilityCurrent} {reached : Bool} {graceMs : Int}
    (h : (nextReachability current reached now graceMs).changed = false) :
    current.state ≠ .unknown := by
  intro hunknown
  unfold nextReachability at h
  cases reached with
  | true => simp [hunknown] at h
  | false =>
    by_cases hgrace : graceMs ≤ 0
    · simp [hunknown, hgrace] at h
    · simp [hunknown, hgrace] at h

/-- The state of a host as the next probe finds it. -/
def current (s : HostRecorder) : ReachabilityCurrent :=
  s.condition.elim unobserved fun existing => ⟨existing.state, existing.failureStartedAt⟩

lemma current_down (h : s.current.state = .down) :
    ∃ condition, s.condition = some condition ∧ condition.state = .down := by
  cases hcondition : s.condition with
  | none =>
    rw [current, hcondition] at h
    simp [unobserved] at h
  | some condition =>
    rw [current, hcondition] at h
    exact ⟨condition, rfl, h⟩

/-- A host that is down is so under an incident. -/
def DownUnderIncident (s : HostRecorder) : Prop :=
  ∀ condition, s.condition = some condition → condition.state = .down →
    condition.activeIncidentId.isSome

/-- The log once the interval is moved and the condition is stored. -/
lemma log_concluded (s : HostRecorder) (condition : HostCondition) (state : ReachabilityState)
    (now : Int) (eventId : Option Nat) :
    { s.moveInterval state now eventId with condition := some condition : HostRecorder }.log =
      { s.log with active := condition.activeIncidentId } := rfl

/-- What a recorder has made of the log of its host, and what it announces then. -/
structure Tells (s t : HostRecorder) (hostId : Nat) : Prop where
  chain : ReflTransGen (Effect (.host hostId)) s.log t.log
  down : t.DownUnderIncident
  founded : ∃ facts, t.announced = s.announced ++ facts ∧
    ∀ fact ∈ facts, AlertState.unfounded fact = false

/-- A probe that finds the host up again. -/
lemma tells_up (hs : s.DownUnderIncident) {condition : HostCondition} (eventId : Option Nat)
    (hup : condition.state = .up) (hincident : condition.activeIncidentId = none) :
    Tells s { (s.recordReachabilityEvent observation now
        (if s.current.state = .down then some .hostRecovered
          else if s.current.state = .suspect then some .hostCheckRecovered
          else none) (s.condition.bind HostCondition.activeIncidentId)).moveInterval .up now eventId
      with condition := some condition } observation.hostId := by
  have hlength := s.length_events_log
  have hnotDown : ∀ c, some condition = some c → c.state = .down → c.activeIncidentId.isSome := by
    rintro c ⟨⟩ hdown
    rw [hup] at hdown
    cases hdown
  by_cases hdown : s.current.state = .down
  · rw [if_pos hdown]
    refine ⟨?_, hnotDown, [_], rfl, ?_⟩
    · rw [log_concluded, log_recordReachabilityEvent, hincident]
      exact .single (.recovers s.log _ rfl hlength.symm rfl rfl)
    · obtain ⟨was, hwas, hwasDown⟩ := current_down hdown
      have hsome := hs was hwas hwasDown
      intro fact hfact
      obtain rfl := List.mem_singleton.1 hfact
      simp only [AlertState.unfounded, hwas, Option.bind_some]
      obtain ⟨incidentId, hactive⟩ := Option.isSome_iff_exists.1 hsome
      simp [hactive]
  · rw [if_neg hdown]
    by_cases hsuspect : s.current.state = .suspect
    · rw [if_pos hsuspect]
      refine ⟨?_, hnotDown, [_], rfl, fun fact hfact => ?_⟩
      · rw [log_concluded, log_recordReachabilityEvent, hincident]
        exact .tail (.single (.records s.log _ _ rfl hlength.symm rfl)) (.closes _)
      · obtain rfl := List.mem_singleton.1 hfact
        rfl
    · rw [if_neg hsuspect]
      refine ⟨?_, hnotDown, [], (List.append_nil _).symm, nofun⟩
      rw [log_concluded, hincident]
      exact .single (.closes s.log)

/-- **A probe** makes effects on the host's log, and a recovery it tells of has an incident. -/
lemma recordHostReachability_tells (observation : HostProbe) (now : Int)
    (hs : s.DownUnderIncident) :
    Tells s (s.recordHostReachability observation now) observation.hostId := by
  have hcurrent : (s.condition.elim unobserved fun existing : HostCondition =>
      ⟨existing.state, existing.failureStartedAt⟩) = s.current := rfl
  have hlength := s.length_events_log
  simp only [recordHostReachability, hcurrent]
  cases hchanged : (nextReachability s.current observation.reached now
      hostSuspectToDownMs).changed with
  | false =>
    have hknown := nextReachability_unchanged hchanged
    have hsome : s.condition.isSome := by
      cases hcondition : s.condition with
      | none =>
        rw [current, hcondition] at hknown
        exact absurd rfl hknown
      | some condition => rfl
    simp only [hsome, Bool.not_false, Bool.and_self, if_true]
    refine ⟨?_, fun condition hcondition hdown => ?_, [], (List.append_nil _).symm, nofun⟩
    · rw [log_touchCondition]
    · obtain ⟨was, hwas, rfl⟩ := Option.map_eq_some_iff.1 hcondition
      exact hs was hwas hdown
  | true =>
    simp only [Bool.not_true, Bool.false_and, Bool.false_eq_true, if_false]
    obtain ⟨hstate, hevent⟩ | ⟨hstate, hevent⟩ | ⟨hstate, hevent⟩ :=
      nextReachability_changed hchanged
    · rw [hstate, hevent]
      simp only [reduceCtorEq, false_and, if_false, if_true]
      exact tells_up hs _ rfl rfl
    · rw [hstate, hevent]
      simp only [reduceCtorEq, true_and, if_false, if_true]
      cases hactive : s.condition.bind HostCondition.activeIncidentId with
      | none =>
        simp only [if_true, Option.getD_none]
        refine ⟨?_, ?_, [_], rfl, fun fact hfact => ?_⟩
        · rw [log_concluded, log_recordReachabilityEvent]
          have hopens : Effect (.host observation.hostId) s.log _ := .opens s.log
          exact .tail (.single hopens) (.records _ _ _ rfl hlength.symm rfl)
        · rintro condition ⟨⟩ -
          rfl
        · obtain rfl := List.mem_singleton.1 hfact
          rfl
      | some incidentId =>
        simp only [reduceCtorEq, if_false, Option.getD_some]
        refine ⟨?_, ?_, [_], rfl, fun fact hfact => ?_⟩
        · rw [log_concluded, log_recordReachabilityEvent]
          let fact := s.factOf observation .hostUnreachable (some incidentId)
          have hrecords : Effect (.host observation.hostId) s.log
              (s.log.record fact (some incidentId)) := .records s.log fact _ rfl hlength.symm rfl
          have hkept : { s.log with active := some incidentId } = s.log := by
            rw [log, ← hactive]
          have hlog : { s.log.record fact (some incidentId) with active := some incidentId } =
              s.log.record fact (some incidentId) :=
            congrArg (fun l => l.record fact (some incidentId)) hkept
          show ReflTransGen _ s.log
            { s.log.record fact (some incidentId) with active := some incidentId }
          rw [hlog]
          exact .single hrecords
        · rintro condition ⟨⟩ -
          rfl
        · obtain rfl := List.mem_singleton.1 hfact
          rfl
    · rw [hstate, hevent]
      simp only [reduceCtorEq, false_and, if_false]
      refine ⟨?_, ?_, [_], rfl, fun fact hfact => ?_⟩
      · rw [log_concluded, log_recordReachabilityEvent]
        exact .single (.records s.log _ _ rfl hlength.symm rfl)
      · rintro condition ⟨⟩ hdown
        cases hdown
      · obtain rfl := List.mem_singleton.1 hfact
        rfl

end HostRecorder

/-! ## The log of a bot -/

namespace RecorderState

/-- The incidents of a bot, of which this one is active. -/
def logUnder (s : RecorderState) (instanceId : Nat) (active : Option Nat) : IncidentLog where
  events := s.rows.events.map fun row => (row.kind.eventKind, row.incidentId)
  told := s.announced.map fun fact => fact.about instanceId
  active := active
  nextIncidentId := s.nextIncidentId

/-- The incident that the condition of a bot tells. -/
def active (s : RecorderState) : Option Nat :=
  s.rows.condition.bind StatusCondition.activeIncidentId

/-- The incidents of a bot. -/
def log (s : RecorderState) (instanceId : Nat) : IncidentLog := s.logUnder instanceId s.active

variable {s t : RecorderState} {answers : QueueAnswers} {name : Text} {now : Int}
  {instanceId : Nat}

/-- A kind of a bot's connection resolves a problem only if it is a reconnection. -/
lemma problemResolvedBy_eventKind (kind : StatusEventKind) :
    (problemResolvedBy kind.eventKind).isSome ↔ kind = .instanceReconnected := by
  cases kind <;> simp [StatusEventKind.eventKind, problemResolvedBy]

/-- An event is recorded and told, unless its key is taken. -/
lemma logUnder_recordAnnounced {insert : StatusEventInsert} {under : Option Nat}
    {event : Option StatusEventRow} (h : s.recordAnnounced answers insert under = .ok (event, t))
    (active : Option Nat) : t.logUnder instanceId active = s.logUnder instanceId active ∨
      ∃ fact : AlertFact, fact.subject = .bot instanceId ∧
        fact.statusEventId = (s.logUnder instanceId active).events.length ∧
        fact.kind = insert.kind.eventKind ∧ fact.incidentId = under ∧
        t.logUnder instanceId active =
          (s.logUnder instanceId active).record fact insert.incidentId := by
  simp only [recordAnnounced, StatusRows.recordEvent] at h
  split at h
  case h_1 =>
    obtain ⟨-, rfl⟩ := Prod.mk.inj (Except.ok.inj h)
    exact .inl rfl
  case h_2 row rows hrecord =>
    obtain ⟨u, hannounce, hu⟩ := Except.bind_eq_ok.mp h
    obtain ⟨-, rfl⟩ := Prod.mk.inj (Except.ok.inj hu)
    have hu := announce_ok hannounce
    split at hrecord
    · cases hrecord
    · obtain ⟨hrow, rfl⟩ := Prod.mk.inj hrecord
      obtain rfl := Option.some.inj hrow
      rw [hu]
      refine .inr ⟨EventFact.about
        ⟨s.rows.events.length, insert.kind, insert.subjectLabel, under⟩ instanceId, rfl,
        by simp [logUnder, EventFact.about], rfl, rfl, ?_⟩
      simp [logUnder, IncidentLog.record, EventFact.about]

/-- An event that resolves no problem. -/
lemma chain_recordAnnounced {insert : StatusEventInsert} {under : Option Nat}
    {event : Option StatusEventRow} (h : s.recordAnnounced answers insert under = .ok (event, t))
    (hkind : insert.kind ≠ .instanceReconnected) (active : Option Nat) :
    ReflTransGen (Effect (.bot instanceId)) (s.logUnder instanceId active)
      (t.logUnder instanceId active) := by
  obtain hsame | ⟨fact, hsubject, hnumber, hfact, -, hrecord⟩ := logUnder_recordAnnounced h active
  · rw [hsame]
  · have hproblem : problemResolvedBy fact.kind = none := by
      rw [hfact, ← Option.not_isSome_iff_eq_none, problemResolvedBy_eventKind]
      exact hkind
    rw [hrecord]
    exact .single (.records _ fact _ hsubject hnumber hproblem)

/-- An event that resolves the problem of the active incident. -/
lemma chain_recordRecovery {insert : StatusEventInsert} {active : Option Nat}
    {event : Option StatusEventRow} (h : s.recordAnnounced answers insert active = .ok (event, t))
    (hkind : insert.kind = .instanceReconnected) (hincident : insert.incidentId = active) :
    ReflTransGen (Effect (.bot instanceId)) (s.logUnder instanceId active)
      (t.logUnder instanceId none) := by
  obtain hsame | ⟨fact, hsubject, hnumber, hfact, hunder, hrecord⟩ :=
    logUnder_recordAnnounced h active
  · have hcloses : Effect (.bot instanceId) (s.logUnder instanceId active)
        { t.logUnder instanceId active with active := none } := hsame ▸ .closes _
    exact .single hcloses
  · have hproblem : (problemResolvedBy fact.kind).isSome := by
      rw [hfact, problemResolvedBy_eventKind]
      exact hkind
    have hrecovers : Effect (.bot instanceId) (s.logUnder instanceId active)
        { (s.logUnder instanceId active).record fact active with active := none } :=
      .recovers _ fact hsubject hnumber hproblem hunder
    rw [hincident] at hrecord
    rw [← hrecord] at hrecovers
    exact .single hrecovers

lemma logUnder_scheduleCheck {decision : IncidentDecision}
    (h : s.scheduleCheck answers name now decision = .ok t) (active : Option Nat) :
    t.logUnder instanceId active = s.logUnder instanceId active := by
  obtain rfl | ⟨job, rfl⟩ := scheduleCheck_ok h <;> rfl

lemma chain_recordFlapping {opening : Bool} {change : ConnectionChange}
    {incidentId : Option Nat}
    (h : s.recordFlapping answers name now opening change incidentId = .ok t)
    (active : Option Nat) :
    ReflTransGen (Effect (.bot instanceId)) (s.logUnder instanceId active)
      (t.logUnder instanceId active) := by
  obtain rfl | ⟨rows, insert, event, hclaim, hflapping, -, hrecord⟩ := recordFlapping_ok h
  · exact .refl
  · have hlog : s.logUnder instanceId active =
        RecorderState.logUnder { s with rows := rows } instanceId active := by
      simp only [logUnder, (claimFlapping_rows hclaim).1]
    rw [hlog]
    refine chain_recordAnnounced hrecord ?_ active
    rw [hflapping]
    simp

/-- How the incident of a change follows from the one before it. -/
lemma nextIncident_spec (current : Option Nat) (change : ConnectionChange) (fresh : Nat) :
    let decision := nextIncident current change.state change.event fresh
    (decision.opened = true ∧ decision.incidentId = some fresh ∧
      change.event ≠ some .instanceReconnected) ∨
    (decision.opened = false ∧
      (decision.incidentId = none ∨ decision.incidentId = current) ∧
      (change.event = some .instanceReconnected →
        decision.incidentId = none ∧ decision.incidentOfEvent = current)) := by
  intro decision
  by_cases hcloses : change.event.any closes.contains
  · refine .inr ?_
    simp [decision, nextIncident, hcloses, IncidentDecision.incidentOfEvent]
  · have hnot : change.event ≠ some .instanceReconnected := by
      intro hevent
      rw [hevent] at hcloses
      exact hcloses rfl
    simp only [decision, nextIncident, hcloses, Bool.false_eq_true, if_false, hnot]
    split
    · simp
    · split
      · cases current with
        | none => simp [hnot]
        | some incidentId => simp
      · simp

/-- **One change** makes effects on the bot's log. -/
lemma chain_recordChange {opening : Bool} {incidentId incidentId' : Option Nat}
    {change : ConnectionChange}
    (h : s.recordChange answers name now opening incidentId change = .ok (incidentId', t)) :
    ReflTransGen (Effect (.bot instanceId)) (s.logUnder instanceId incidentId)
      (t.logUnder instanceId incidentId') ∧ t.active = incidentId' := by
  have hspec := nextIncident_spec incidentId change s.nextIncidentId
  simp only [recordChange] at h hspec
  generalize nextIncident incidentId change.state change.event s.nextIncidentId = decision
    at h hspec
  obtain ⟨⟨event, s₂⟩, hevent, h⟩ := Except.bind_eq_ok.mp h
  obtain ⟨s₃, hcheck, h⟩ := Except.bind_eq_ok.mp h
  obtain ⟨s₄, hflap, h⟩ := Except.bind_eq_ok.mp h
  obtain ⟨rfl, rfl⟩ := Prod.mk.inj (Except.ok.inj h)
  refine ⟨?_, rfl⟩
  have hrest : ReflTransGen (Effect (.bot instanceId))
      (s₂.logUnder instanceId decision.incidentId)
      (s₄.logUnder instanceId decision.incidentId) := by
    rw [← logUnder_scheduleCheck hcheck]
    exact chain_recordFlapping hflap _
  refine ReflTransGen.trans ?_ hrest
  obtain ⟨hopened, hincident, hnot⟩ | ⟨hopened, hincident, hrecovers⟩ := hspec
  · -- A fresh incident is opened before the event is recorded.
    rw [if_pos hopened] at hevent
    have hopens : Effect (.bot instanceId) (s.logUnder instanceId incidentId)
        (RecorderState.logUnder { s with nextIncidentId := s.nextIncidentId + 1 } instanceId
          (some s.nextIncidentId)) := .opens _
    rw [hincident]
    refine ReflTransGen.head hopens ?_
    simp only [recordChangeEvent] at hevent
    split at hevent
    · rw [← (Prod.mk.inj (Except.ok.inj hevent)).2]
    · next kind hkind =>
      refine chain_recordAnnounced hevent ?_ _
      intro hreconnected
      exact hnot (hkind.trans (congrArg some hreconnected))
  · rw [hopened, if_neg Bool.false_ne_true] at hevent
    have hcloses : ∀ u : RecorderState, ReflTransGen (Effect (.bot instanceId))
        (u.logUnder instanceId incidentId) (u.logUnder instanceId decision.incidentId) := by
      intro u
      obtain hnone | hsame := hincident
      · rw [hnone]
        exact .single (.closes _)
      · rw [hsame]
    simp only [recordChangeEvent] at hevent
    split at hevent
    · rw [← (Prod.mk.inj (Except.ok.inj hevent)).2]
      exact hcloses s
    · next kind hkind =>
      by_cases hreconnected : kind = .instanceReconnected
      · obtain ⟨hnone, hunder⟩ := hrecovers (hkind.trans (congrArg some hreconnected))
        rw [hunder] at hevent
        rw [hnone]
        exact chain_recordRecovery hevent hreconnected rfl
      · exact (chain_recordAnnounced hevent hreconnected incidentId).trans (hcloses s₂)

/-- **A hand-over** makes effects on the bot's log. -/
lemma chain_recordChanges {opening : Bool} {incidentId : Option Nat}
    {changes : List ConnectionChange} (hactive : s.active = incidentId)
    (h : s.recordChanges answers name now opening incidentId changes = .ok t) :
    ReflTransGen (Effect (.bot instanceId)) (s.log instanceId) (t.log instanceId) := by
  induction changes generalizing s incidentId with
  | nil =>
    obtain rfl := Except.ok.inj h
    exact .refl
  | cons change changes ih =>
    obtain ⟨⟨incidentId', u⟩, hchange, hrest⟩ := Except.bind_eq_ok.mp h
    have hstep : ReflTransGen (Effect (.bot instanceId)) (s.logUnder instanceId incidentId)
        (u.logUnder instanceId incidentId') ∧ u.active = incidentId' := chain_recordChange hchange
    obtain ⟨hchain, hu⟩ := hstep
    rw [log, hactive]
    rw [← hu] at hchain
    exact hchain.trans (ih hu hrest)

/-- **A check** makes effects on the bot's log. -/
lemma chain_escalateInstance {incidentId : Nat} {answer : Bool}
    (h : s.escalateInstance answers name now incidentId = .ok (answer, t)) :
    ReflTransGen (Effect (.bot instanceId)) (s.log instanceId) (t.log instanceId) := by
  cases hclaims : s.wouldClaim now incidentId with
  | false =>
    rw [escalateInstance_idle answers name hclaims] at h
    obtain ⟨-, rfl⟩ := Prod.mk.inj (Except.ok.inj h)
    exact .refl
  | true =>
    obtain ⟨condition, rows, hcondition, -, -, hevents, -, hactive, heq⟩ :=
      escalateInstance_claims answers name hclaims
    rw [heq] at h
    obtain ⟨⟨event, u⟩, hrecord, hconcludes⟩ := Except.bind_eq_ok.mp h
    have hlog : s.log instanceId =
        RecorderState.logUnder { s with rows := rows } instanceId condition.activeIncidentId := by
      simp only [log, logUnder, active, hevents, hcondition, Option.bind_some]
    have hkind : (escalationInsert name now incidentId).kind ≠ .instanceReconnected := by
      simp [escalationInsert]
    have hchain : ReflTransGen (Effect (.bot instanceId)) _
        (u.logUnder instanceId condition.activeIncidentId) :=
      chain_recordAnnounced hrecord hkind condition.activeIncidentId
    have hcondition' : u.rows.condition = rows.condition := (recordAnnounced_rows hrecord).2
    have hlog' : t.log instanceId = u.logUnder instanceId condition.activeIncidentId := by
      cases event with
      | none =>
        obtain ⟨-, rfl⟩ := Prod.mk.inj (Except.ok.inj hconcludes)
        rw [log, active, hcondition', hactive]
      | some row =>
        obtain ⟨-, rfl⟩ := Prod.mk.inj (Except.ok.inj hconcludes)
        rw [← hactive, ← hcondition']
        rfl
    rw [hlog, hlog']
    exact hchain

/-- **A transaction** makes effects on the bot's log. -/
lemma chain_step {e : HistoryEvent} (h : statusHistory.step s e = some t) :
    ReflTransGen (Effect (.bot instanceId)) (s.log instanceId) (t.log instanceId) := by
  cases e with
  | records answers name now changes =>
    obtain rfl := Option.some.inj h
    cases hrecord : s.recordInstanceConnection answers name now changes with
    | error message => exact .refl
    | ok u => exact chain_recordChanges rfl hrecord
  | escalates answers name now incidentId =>
    obtain rfl := Option.some.inj h
    cases hescalate : s.escalateInstance answers name now incidentId with
    | error message => exact .refl
    | ok result => exact chain_escalateInstance hescalate

end RecorderState

end OpenMcc

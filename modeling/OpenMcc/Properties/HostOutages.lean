import OpenMcc.Construction.HostOutages
import OpenMcc.Properties.Alerts

/-!
# Outages of a host are founded and alternate with recoveries

What a probe records is decided by the state of the host and when it became suspect
(`ProbeEffect`).  The events read from the start tell whether an outage is open and under which
incident, and the condition always tells the same (`OutageLog`).  A probe whose notification the
queue refuses is rolled back; only outages and recoveries can be, so a probe that reaches a suspect
host always ends its suspicion.
-/

namespace OpenMcc

open TransitionSystem

/-! ## The outage that is open -/

/-- The events leave this outage open. -/
inductive OutageLog : List HostEventRow → Option Nat → Prop
  | empty : OutageLog [] none
  | outage {events : List HostEventRow} {row : HostEventRow} {incidentId : Nat}
      (h : OutageLog events none) (hkind : row.kind = .hostUnreachable)
      (hincident : row.incidentId = some incidentId) :
      OutageLog (events ++ [row]) (some incidentId)
  | recovery {events : List HostEventRow} {row : HostEventRow} {incidentId : Nat}
      (h : OutageLog events (some incidentId)) (hkind : row.kind = .hostRecovered)
      (hincident : row.incidentId = some incidentId) : OutageLog (events ++ [row]) none
  | other {events : List HostEventRow} {row : HostEventRow} {outage : Option Nat}
      (h : OutageLog events outage) (houtage : row.isOutage = false)
      (hrecovery : row.isRecovery = false) : OutageLog (events ++ [row]) outage

namespace OutageLog

variable {events : List HostEventRow} {row : HostEventRow} {incidentId : Nat}

/-- An outage that is open was recorded under its incident, and neither ended nor began again. -/
lemma opened (h : OutageLog events (some incidentId)) :
    ∃ before outage after, events = before ++ outage :: after ∧ outage.isOutage = true ∧
      outage.incidentId = some incidentId ∧
      ∀ row ∈ after, row.isOutage = false ∧ row.isRecovery = false := by
  generalize hopen : some incidentId = outage at h
  induction h with
  | empty => cases hopen
  | @outage events row id h hkind hincident ih =>
    obtain rfl := Option.some.inj hopen
    exact ⟨events, row, [], rfl, by simp [HostEventRow.isOutage, hkind], hincident, nofun⟩
  | recovery => cases hopen
  | @other events row outage h houtage hrecovery ih =>
    obtain ⟨before, outage, after, rfl, houtage', hincident, hafter⟩ := ih hopen
    refine ⟨before, outage, after ++ [row], by simp, houtage', hincident, ?_⟩
    intro row' hrow'
    obtain hrow' | hrow' := List.mem_append.1 hrow'
    · exact hafter row' hrow'
    · rw [List.mem_singleton.1 hrow']
      exact ⟨houtage, hrecovery⟩

/-- What the last event did. -/
lemma last {outage : Option Nat} (h : OutageLog (events ++ [row]) outage) :
    (row.isOutage = true ∧ outage.isSome = true ∧ OutageLog events none) ∨
    (row.isRecovery = true ∧ outage = none ∧ ∃ incidentId, row.incidentId = some incidentId ∧
      OutageLog events (some incidentId)) ∨
    (row.isOutage = false ∧ row.isRecovery = false ∧ OutageLog events outage) := by
  generalize hall : events ++ [row] = all at h
  cases h with
  | empty => exact absurd hall (by simp)
  | outage h hkind hincident =>
    obtain ⟨rfl, hrow⟩ := List.append_inj' hall rfl
    obtain rfl := (List.cons.inj hrow).1
    exact .inl ⟨by simp [HostEventRow.isOutage, hkind], rfl, h⟩
  | recovery h hkind hincident =>
    obtain ⟨rfl, hrow⟩ := List.append_inj' hall rfl
    obtain rfl := (List.cons.inj hrow).1
    exact .inr (.inl ⟨by simp [HostEventRow.isRecovery, hkind], rfl, _, hincident, h⟩)
  | other h houtage hrecovery =>
    obtain ⟨rfl, hrow⟩ := List.append_inj' hall rfl
    obtain rfl := (List.cons.inj hrow).1
    exact .inr (.inr ⟨houtage, hrecovery, h⟩)

/-- The events of an earlier time leave some outage open, or none. -/
lemma before {later : List HostEventRow} {outage : Option Nat}
    (h : OutageLog (events ++ later) outage) : ∃ earlier, OutageLog events earlier := by
  induction later using List.reverseRecOn generalizing outage with
  | nil =>
    rw [List.append_nil] at h
    exact ⟨outage, h⟩
  | append_singleton later row ih =>
    rw [← List.append_assoc] at h
    obtain ⟨-, -, h⟩ | ⟨-, -, _, -, h⟩ | ⟨-, -, h⟩ := h.last
    · exact ih h
    · exact ih h
    · exact ih h

/-- Since the last outage, one recovery is recorded if it is over, and none if it is not. -/
lemma recoveries {outage : Option Nat} (h : OutageLog events outage) {before : List HostEventRow}
    {began : HostEventRow} {middle : List HostEventRow}
    (hevents : events = before ++ began :: middle) (hbegan : began.isOutage = true)
    (hmiddle : ∀ row ∈ middle, row.isOutage = false) :
    (middle.filter HostEventRow.isRecovery).length = if outage.isSome then 0 else 1 := by
  have hnotBoth : ∀ row : HostEventRow, row.isOutage = true → row.isRecovery = false := by
    intro row hrow
    rw [HostEventRow.isOutage, beq_iff_eq] at hrow
    simp [HostEventRow.isRecovery, hrow]
  induction middle using List.reverseRecOn generalizing events outage with
  | nil =>
    rw [hevents] at h
    obtain ⟨-, hopen, -⟩ | ⟨hrecovery, -⟩ | ⟨hnot, -⟩ := h.last
    · rw [if_pos hopen]
      rfl
    · rw [hnotBoth began hbegan] at hrecovery
      cases hrecovery
    · rw [hbegan] at hnot
      cases hnot
  | append_singleton middle row ih =>
    have hrow : row.isOutage = false := hmiddle row (by simp)
    have hrest : ∀ row ∈ middle, row.isOutage = false :=
      fun row hmem => hmiddle row (List.mem_append_left _ hmem)
    rw [hevents, ← List.cons_append, ← List.append_assoc] at h
    rw [List.filter_append, List.length_append]
    obtain ⟨houtage, -⟩ | ⟨hrecovery, rfl, incidentId, -, hopen⟩ | ⟨-, hrecovery, hsame⟩ := h.last
    · rw [hrow] at houtage
      cases houtage
    · have hnone := ih hopen rfl hrest
      rw [hnone, List.filter_singleton, hrecovery]
      rfl
    · have hcount := ih hsame rfl hrest
      rw [hcount, List.filter_singleton, hrecovery]
      rfl

/-- **Outages alternate with recoveries.** -/
lemma alternate {outage : Option Nat} (h : OutageLog events outage) : OutagesAlternate events where
  between before began middle next after hevents hbegan hnext hmiddle := by
    have hsplit : events = (before ++ began :: middle ++ [next]) ++ after := by simp [hevents]
    rw [hsplit] at h
    obtain ⟨outage, h⟩ := h.before
    obtain ⟨-, -, hclosed⟩ | ⟨hrecovery, -, -⟩ | ⟨hnot, -, -⟩ := h.last
    · exact hclosed.recoveries rfl hbegan hmiddle
    · rw [HostEventRow.isOutage, beq_iff_eq] at hnext
      simp [HostEventRow.isRecovery, hnext] at hrecovery
    · rw [hnext] at hnot
      cases hnot
  incident before recovery after hevents hrecovery := by
    have hsplit : events = before ++ [recovery] ++ after := by simp [hevents]
    rw [hsplit] at h
    obtain ⟨outage, h⟩ := h.before
    obtain ⟨houtage, -⟩ | ⟨-, -, incidentId, hincident, hopen⟩ | ⟨-, hnot, -⟩ := h.last
    · rw [HostEventRow.isOutage, beq_iff_eq] at houtage
      simp [HostEventRow.isRecovery, houtage] at hrecovery
    · obtain ⟨earlier, outage, middle, rfl, hisOutage, hsame, hmiddle⟩ := hopen.opened
      refine ⟨earlier, outage, middle, rfl, hisOutage, fun row hrow => (hmiddle row hrow).1, ?_, ?_⟩
      · rw [hincident, hsame]
      · rw [hincident]
        rfl
    · rw [hrecovery] at hnot
      cases hnot

end OutageLog

/-! ## What a probe records -/

namespace HostRecorder

variable {s t : HostRecorder} {observation : HostProbe} {now : Int}

/-- The incident the condition of a host tells. -/
def active (s : HostRecorder) : Option Nat := s.condition.bind HostCondition.activeIncidentId

/-- What a probe does to the events of a host, its state and its incident, and when. -/
inductive ProbeEffect (s : HostRecorder) (reached : Bool) (now : Int) (t : HostRecorder) : Prop
  /-- Nothing changes: an up host is reached, or one that is suspect or down is not. -/
  | kept (hevents : t.events = s.events) (hcurrent : t.current = s.current)
      (hactive : t.active = s.active) (hstate : reached = true → s.current.state = .up)
  | foundUp (hreached : reached = true) (hevents : t.events = s.events)
      (hdown : s.current.state ≠ .down) (hsuspect : s.current.state ≠ .suspect)
      (hup : t.current.state = .up)
  /-- A suspect host is reached, which nobody is told of. -/
  | cleared (hreached : reached = true) (row : HostEventRow)
      (hevents : t.events = s.events ++ [row]) (hkind : row.kind = .hostCheckRecovered)
      (hsuspect : s.current.state = .suspect)
      (hup : t.current.state = .up)
      (hfacts : ∃ fact : AlertFact, t.announced = s.announced ++ [fact] ∧
        fact.kind = .hostCheckRecovered)
  | recovered (hreached : reached = true) (row : HostEventRow)
      (hevents : t.events = s.events ++ [row]) (hkind : row.kind = .hostRecovered)
      (hincident : row.incidentId = s.active) (hdown : s.current.state = .down)
      (hup : t.current.state = .up)
  | suspected (hreached : reached = false) (row : HostEventRow)
      (hevents : t.events = s.events ++ [row]) (hkind : row.kind = .hostCheckFailed)
      (hdown : s.current.state ≠ .down) (hsuspect : s.current.state ≠ .suspect)
      (hcurrent : t.current = ⟨.suspect, some now⟩)
  | fell (hreached : reached = false) (row : HostEventRow) (incidentId : Nat) (since : Int)
      (hevents : t.events = s.events ++ [row]) (hkind : row.kind = .hostUnreachable)
      (hincident : row.incidentId = some incidentId) (htime : row.occurredAt = now)
      (hcurrent : s.current = ⟨.suspect, some since⟩) (hgrace : hostSuspectToDownMs ≤ now - since)
      (hdown : t.current.state = .down) (hactive : t.active = some incidentId)

lemma condition_isSome (h : s.current.state ≠ .unknown) : s.condition.isSome = true := by
  cases hcondition : s.condition with
  | none =>
    rw [current, hcondition] at h
    exact absurd rfl h
  | some condition => rfl

lemma current_touchCondition (s : HostRecorder) (now : Int) :
    (s.touchCondition now).current = s.current ∧ (s.touchCondition now).active = s.active := by
  unfold touchCondition current active
  cases s.condition with
  | none => exact ⟨rfl, rfl⟩
  | some condition => exact ⟨rfl, rfl⟩

/-- A probe whose decision changes nothing touches the condition. -/
lemma recordHostReachability_unchanged
    (h : (nextReachability s.current observation.reached now hostSuspectToDownMs).changed = false) :
    s.recordHostReachability observation now = s.touchCondition now := by
  have hsome := condition_isSome (nextReachability_unchanged h)
  have hkept : (!(nextReachability s.current observation.reached now
      hostSuspectToDownMs).changed && s.condition.isSome) = true := by rw [h, hsome]; rfl
  exact if_pos hkept

lemma kept_of_unchanged
    (h : (nextReachability s.current observation.reached now hostSuspectToDownMs).changed = false)
    (hstate : observation.reached = true → s.current.state = .up) :
    ProbeEffect s observation.reached now (s.recordHostReachability observation now) := by
  rw [recordHostReachability_unchanged h]
  obtain ⟨hcurrent, hactive⟩ := current_touchCondition s now
  exact .kept rfl hcurrent hactive hstate

/-- A probe whose decision changes the state. -/
lemma recordHostReachability_changed {decision : ReachabilityDecision}
    (h : nextReachability s.current observation.reached now hostSuspectToDownMs = decision)
    (hchanged : decision.changed = true) :
    ∃ incidentId : Option Nat,
      incidentId = (if decision.state = .down then some (s.active.getD s.nextIncidentId)
        else if decision.state = .up then none else s.active) ∧
      (s.recordHostReachability observation now).current =
        ⟨decision.state, decision.failureStartedAt⟩ ∧
      (s.recordHostReachability observation now).active =
        (if decision.state = .up then none else incidentId) ∧
      (decision.event = none →
        (s.recordHostReachability observation now).events = s.events) ∧
      ∀ kind, decision.event = some kind → ∃ row fact,
        (s.recordHostReachability observation now).events = s.events ++ [row] ∧
        row.kind = kind ∧ row.occurredAt = now ∧ row.incidentId = (incidentId <|> s.active) ∧
        (s.recordHostReachability observation now).announced = s.announced ++ [fact] ∧
        fact.kind = kind := by
  have hcurrent : (s.condition.elim unobserved fun existing : HostCondition =>
      ⟨existing.state, existing.failureStartedAt⟩) = s.current := rfl
  refine ⟨_, rfl, ?_⟩
  unfold recordHostReachability
  simp only [hcurrent, h, hchanged, Bool.not_true, Bool.false_and, Bool.false_eq_true, if_false]
  refine ⟨rfl, rfl, fun hnone => ?_, fun kind hkind => ?_⟩
  · rw [hnone]
    simp only [moveInterval, recordReachabilityEvent]
    split
    · rfl
    · rfl
  · rw [hkind]
    simp only [moveInterval, recordReachabilityEvent]
    split
    · exact ⟨_, _, rfl, rfl, rfl, rfl, rfl, rfl⟩
    · exact ⟨_, _, rfl, rfl, rfl, rfl, rfl, rfl⟩

/-- A suspect host is not reached again. -/
lemma nextReachability_suspect {current : ReachabilityCurrent} {reached : Bool} {since : Int}
    (hreached : reached = false) (hcurrent : current = ⟨.suspect, some since⟩) :
    nextReachability current reached now hostSuspectToDownMs =
      if hostSuspectToDownMs ≤ now - since then ⟨.down, some since, some .hostUnreachable, true⟩
      else ⟨.suspect, some since, none, false⟩ := by
  rw [hreached, hcurrent]
  rfl

/-- A host that was not failing is not reached. -/
lemma nextReachability_failed {current : ReachabilityCurrent} {reached : Bool}
    (hreached : reached = false) (hdown : current.state ≠ .down)
    (hsuspect : current.state ≠ .suspect) :
    nextReachability current reached now hostSuspectToDownMs =
      ⟨.suspect, some now, some .hostCheckFailed, true⟩ := by
  have hgrace : ¬hostSuspectToDownMs ≤ now - now := by
    rw [Int.sub_self]
    decide
  simp only [nextReachability, hreached, Bool.false_eq_true, if_false, hdown, hsuspect, hgrace]

/-- A host that is suspect was found so at some time. -/
def SuspectSince (s : HostRecorder) : Prop :=
  s.current.state = .suspect → ∃ since, s.current.failureStartedAt = some since

/-- **A probe.** -/
lemma probeEffect (hs : s.SuspectSince) :
    ProbeEffect s observation.reached now (s.recordHostReachability observation now) := by
  cases hreached : observation.reached with
  | true =>
    by_cases hup : s.current.state = .up
    · rw [← hreached]
      refine kept_of_unchanged ?_ fun _ => hup
      simp [nextReachability, hreached, hup]
    · have hdecision : nextReachability s.current observation.reached now hostSuspectToDownMs =
          ⟨.up, none, if s.current.state = .down then some .hostRecovered
            else if s.current.state = .suspect then some .hostCheckRecovered else none, true⟩ := by
        simp [nextReachability, hreached, hup]
      obtain ⟨incidentId, hincident, hcurrent, -, hsilent, hevent⟩ :=
        recordHostReachability_changed hdecision rfl
      have hnone : incidentId = none := by simpa using hincident
      have hnow : (s.recordHostReachability observation now).current.state = .up := by rw [hcurrent]
      by_cases hdown : s.current.state = .down
      · obtain ⟨row, fact, hevents, hkind, -, hsame, -, -⟩ :=
          hevent .hostRecovered (by simp only [hdown, if_true])
        rw [hnone] at hsame
        exact .recovered rfl row hevents hkind hsame hdown hnow
      · by_cases hsuspect : s.current.state = .suspect
        · obtain ⟨row, fact, hevents, hkind, -, -, hannounced, hfact⟩ :=
            hevent .hostCheckRecovered (by simp [hsuspect])
          exact .cleared rfl row hevents hkind hsuspect hnow ⟨fact, hannounced, hfact⟩
        · have hquiet := hsilent (by simp only [hdown, hsuspect, if_false])
          exact .foundUp rfl hquiet hdown hsuspect hnow
  | false =>
    by_cases hdown : s.current.state = .down
    · rw [← hreached]
      refine kept_of_unchanged ?_ fun htrue => ?_
      · simp [nextReachability, hreached, hdown]
      · rw [hreached] at htrue
        cases htrue
    · by_cases hsuspect : s.current.state = .suspect
      · obtain ⟨since, hsince⟩ := hs hsuspect
        have hcurrent : s.current = ⟨.suspect, some since⟩ := by
          rw [← hsuspect, ← hsince]
        have hdecision : nextReachability s.current observation.reached now _ = _ :=
          nextReachability_suspect hreached hcurrent
        by_cases hgrace : hostSuspectToDownMs ≤ now - since
        · rw [if_pos hgrace] at hdecision
          obtain ⟨incidentId, hincident, hnext, hactive, -, hevent⟩ :=
            recordHostReachability_changed hdecision rfl
          obtain ⟨row, fact, hevents, hkind, htime, hsame, -, -⟩ := hevent .hostUnreachable rfl
          simp only [if_true] at hincident
          rw [hincident] at hsame hactive
          refine .fell rfl row _ since hevents hkind hsame htime hcurrent hgrace ?_ hactive
          rw [hnext]
        · rw [if_neg hgrace] at hdecision
          rw [← hreached]
          refine kept_of_unchanged ?_ fun htrue => ?_
          · rw [hdecision]
          · rw [hreached] at htrue
            cases htrue
      · have hdecision : nextReachability s.current observation.reached now _ = _ :=
          nextReachability_failed hreached hdown hsuspect
        obtain ⟨incidentId, -, hnext, -, -, hevent⟩ := recordHostReachability_changed hdecision rfl
        obtain ⟨row, fact, hevents, hkind, -⟩ := hevent .hostCheckFailed rfl
        exact .suspected rfl row hevents hkind hdown hsuspect hnext

/-! ## The probes behind an outage -/

lemma foundedOn_append {row : HostEventRow} {probes : List ProbeOutcome}
    (h : row.FoundedOn probes) (probe : ProbeOutcome) : row.FoundedOn (probes ++ [probe]) := by
  obtain ⟨earlier, first, failing, last, later, rfl, h⟩ := h
  exact ⟨earlier, first, failing, last, later ++ [probe], by simp, h⟩

/-- The probes end with a stretch of failures that began at this time. -/
def FailingSince (since : Int) (probes : List ProbeOutcome) : Prop :=
  ∃ earlier first failing, probes = earlier ++ first :: failing ∧ first.time = since ∧
    first.reached = false ∧ ∀ probe ∈ failing, probe.reached = false

lemma failingSince_append {since : Int} {probes : List ProbeOutcome} {probe : ProbeOutcome}
    (h : FailingSince since probes) (hfailed : probe.reached = false) :
    FailingSince since (probes ++ [probe]) := by
  obtain ⟨earlier, first, failing, rfl, htime, hfirst, hfailing⟩ := h
  refine ⟨earlier, first, failing ++ [probe], by simp, htime, hfirst, fun other hother => ?_⟩
  obtain hother | hother := List.mem_append.1 hother
  · exact hfailing other hother
  · rw [List.mem_singleton.1 hother]
    exact hfailed

/-- What a host's recorder keeps, by the probes so far: the outage that its events leave open is
that of its condition, it is suspect since the failures began, and its outages are founded. -/
structure OutageInv (probes : List ProbeOutcome) (s : HostRecorder) : Prop where
  down : s.current.state = .down →
    ∃ incidentId, s.active = some incidentId ∧ OutageLog s.events (some incidentId)
  closed : s.current.state ≠ .down → OutageLog s.events none
  suspect : s.current.state = .suspect →
    ∃ since, s.current.failureStartedAt = some since ∧ FailingSince since probes
  founded : ∀ row ∈ s.events, row.isOutage = true → row.FoundedOn probes

namespace OutageInv

variable {probes : List ProbeOutcome}

lemma outageLog (h : OutageInv probes s) : ∃ outage, OutageLog s.events outage := by
  by_cases hdown : s.current.state = .down
  · obtain ⟨incidentId, -, hlog⟩ := h.down hdown
    exact ⟨_, hlog⟩
  · exact ⟨_, h.closed hdown⟩

lemma suspectSince (h : OutageInv probes s) : s.SuspectSince := by
  intro hsuspect
  obtain ⟨since, hsince, -⟩ := h.suspect hsuspect
  exact ⟨since, hsince⟩

/-- A probe that is not recorded: it failed, or the host was not suspect. -/
lemma rolledBack (h : OutageInv probes s) {probe : ProbeOutcome}
    (hprobe : probe.reached = true → s.current.state ≠ .suspect) :
    OutageInv (probes ++ [probe]) s where
  down := h.down
  closed := h.closed
  suspect hsuspect := by
    obtain ⟨since, hsince, hfailing⟩ := h.suspect hsuspect
    have hfailed : probe.reached = false := by
      by_contra hreached
      exact hprobe (by simpa using hreached) hsuspect
    exact ⟨since, hsince, failingSince_append hfailing hfailed⟩
  founded row hrow hkind := foundedOn_append (h.founded row hrow hkind) probe

/-- One more event that is no outage keeps the outages founded. -/
lemma founded_append (h : OutageInv probes s) {row : HostEventRow} (probe : ProbeOutcome)
    (hrow : row.isOutage = false) (hevents : t.events = s.events ++ [row]) :
    ∀ row ∈ t.events, row.isOutage = true → row.FoundedOn (probes ++ [probe]) := by
  intro row' hmem hkind
  rw [hevents] at hmem
  obtain hmem | hmem := List.mem_append.1 hmem
  · exact foundedOn_append (h.founded row' hmem hkind) probe
  · rw [List.mem_singleton.1 hmem, hrow] at hkind
    cases hkind

/-- **A probe that is recorded.** -/
lemma probed (h : OutageInv probes s) :
    OutageInv (probes ++ [{ time := now, reached := observation.reached }])
      (s.recordHostReachability observation now) := by
  have heffect : ProbeEffect s observation.reached now _ := probeEffect h.suspectSince
  generalize s.recordHostReachability observation now = t at heffect
  cases heffect with
  | kept hevents hcurrent hactive hstate =>
    have hback : OutageInv (probes ++ [{ time := now, reached := observation.reached }]) s := by
      refine h.rolledBack fun hreached => ?_
      rw [hstate hreached]
      decide
    exact ⟨fun hdown => hactive ▸ hevents ▸ hback.down (hcurrent ▸ hdown),
      fun hclosed => hevents ▸ hback.closed (hcurrent ▸ hclosed),
      fun hsuspect => hcurrent ▸ hback.suspect (hcurrent ▸ hsuspect),
      hevents ▸ hback.founded⟩
  | foundUp hreached hevents hdown hsuspect hup =>
    have hback : OutageInv (probes ++ [{ time := now, reached := observation.reached }]) s :=
      h.rolledBack fun _ => hsuspect
    refine ⟨fun hnow => ?_, fun _ => hevents ▸ h.closed hdown, fun hnow => ?_,
      hevents ▸ hback.founded⟩
    · rw [hup] at hnow
      cases hnow
    · rw [hup] at hnow
      cases hnow
  | cleared hreached row hevents hkind hsuspect hup hfacts =>
    have hclosed : OutageLog s.events none := h.closed (by rw [hsuspect]; decide)
    have houtage : row.isOutage = false := by simp [HostEventRow.isOutage, hkind]
    have hrecovery : row.isRecovery = false := by simp [HostEventRow.isRecovery, hkind]
    refine ⟨fun hnow => ?_, fun _ => hevents ▸ hclosed.other houtage hrecovery, fun hnow => ?_,
      h.founded_append _ houtage hevents⟩
    · rw [hup] at hnow
      cases hnow
    · rw [hup] at hnow
      cases hnow
  | recovered hreached row hevents hkind hincident hdown hup =>
    obtain ⟨incidentId, hactive, hopen⟩ := h.down hdown
    have houtage : row.isOutage = false := by simp [HostEventRow.isOutage, hkind]
    refine ⟨fun hnow => ?_, fun _ => hevents ▸ hopen.recovery hkind (hincident.trans hactive),
      fun hnow => ?_, h.founded_append _ houtage hevents⟩
    · rw [hup] at hnow
      cases hnow
    · rw [hup] at hnow
      cases hnow
  | suspected hreached row hevents hkind hdown hsuspect hcurrent =>
    have houtage : row.isOutage = false := by simp [HostEventRow.isOutage, hkind]
    have hrecovery : row.isRecovery = false := by simp [HostEventRow.isRecovery, hkind]
    refine ⟨fun hnow => ?_, fun _ => hevents ▸ (h.closed hdown).other houtage hrecovery,
      fun _ => ⟨now, by rw [hcurrent], ?_⟩, h.founded_append _ houtage hevents⟩
    · rw [hcurrent] at hnow
      cases hnow
    · exact ⟨probes, _, [], rfl, rfl, hreached, nofun⟩
  | fell hreached row incidentId since hevents hkind hincident htime hcurrent hgrace hdown
      hactive =>
    have hnot : s.current.state ≠ .down := by simp [hcurrent]
    have hclosed : OutageLog s.events none := h.closed hnot
    obtain ⟨since', hsince, earlier, first, failing, rfl, hfirst, hfailed, hfailing⟩ :=
      h.suspect (by rw [hcurrent])
    have hsame : since = since' := by
      rw [hcurrent] at hsince
      exact Option.some.inj hsince
    refine ⟨fun _ => ⟨incidentId, hactive, hevents ▸ hclosed.outage hkind hincident⟩,
      fun hnot => absurd hdown hnot, fun hnow => ?_, fun row' hmem houtage => ?_⟩
    · rw [hdown] at hnow
      cases hnow
    · rw [hevents] at hmem
      obtain hmem | hmem := List.mem_append.1 hmem
      · exact foundedOn_append (h.founded row' hmem houtage) _
      · obtain rfl := List.mem_singleton.1 hmem
        refine ⟨earlier, first, failing, { time := now, reached := observation.reached }, [],
          by simp, hfailed, hfailing, hreached, htime.symm, ?_⟩
        rw [htime, hfirst, ← hsame]
        exact hgrace

end OutageInv

end HostRecorder

/-! ## Runs -/

namespace AlertState

variable {nanoid : Nat → Nat} {s t : AlertState} {hostId : Nat}

/-- Nobody is told that a check of a suspect host succeeded. -/
lemma announce_checkRecovered {createdAt : Int} {fact : AlertFact}
    (h : fact.kind = .hostCheckRecovered) : s.announce nanoid createdAt fact = s := by
  have hplan : planNotification fact s.lastAnnounced = none := by
    rw [planNotification, h]
    rfl
  simp only [announce, hplan]

/-- A probe that is rolled back did not reach a suspect host. -/
lemma not_cleared_of_rolledBack {observation : HostProbe} {now createdAt : Int}
    (hs : (s.hosts observation.hostId).SuspectSince) (hreached : observation.reached = true)
    (hsuspect : (s.hosts observation.hostId).current.state = .suspect) :
    ((s.onHost observation.hostId (s.probed observation now)).announceAll nanoid createdAt
      (s.hostFacts observation now)).created = s.created := by
  have heffect : HostRecorder.ProbeEffect _ observation.reached now (s.probed observation now) :=
    HostRecorder.probeEffect hs
  have hcleared : ∃ fact : AlertFact, (s.probed observation now).announced =
      (s.hosts observation.hostId).announced ++ [fact] ∧ fact.kind = .hostCheckRecovered := by
    cases heffect with
    | kept _ _ _ hstate =>
      rw [hstate hreached] at hsuspect
      cases hsuspect
    | foundUp _ _ _ hnot _ => exact absurd hsuspect hnot
    | cleared _ _ _ _ _ _ hfacts => exact hfacts
    | recovered _ _ _ _ _ hdown _ =>
      rw [hdown] at hsuspect
      cases hsuspect
    | suspected hfailed =>
      rw [hfailed] at hreached
      cases hreached
    | fell hfailed =>
      rw [hfailed] at hreached
      cases hreached
  obtain ⟨fact, hannounced, hkind⟩ := hcleared
  rw [hostFacts, hannounced, List.drop_left]
  show ((s.onHost _ _).announce nanoid createdAt fact).created = s.created
  rw [announce_checkRecovered hkind]
  rfl

/-- **One step** and the outages of a host. -/
lemma outageInv_step {probes : List ProbeOutcome} {e : AlertEvent}
    (h : (s.hosts hostId).OutageInv probes) (hstep : (alerts nanoid).step s e = some t) :
    (t.hosts hostId).OutageInv (probes ++ e.probeOf hostId) := by
  have hother : e.probeOf hostId = [] → t.hosts hostId = s.hosts hostId →
      (t.hosts hostId).OutageInv (probes ++ e.probeOf hostId) := by
    intro hnone hhosts
    rw [hnone, List.append_nil, hhosts]
    exact h
  cases e with
  | probes observation now createdAt queueTakes =>
    obtain rfl := Option.some.inj hstep
    by_cases hsame : observation.hostId = hostId
    · subst hsame
      simp only [AlertEvent.probeOf, if_true, AlertState.probes]
      split
      · simp only [hosts_announceAll, onHost, Function.update_self]
        exact h.probed
      · rename_i hback
        refine h.rolledBack fun hreached hsuspect => hback ?_
        rw [not_cleared_of_rolledBack h.suspectSince hreached hsuspect]
        simp
    · refine hother (if_neg hsame) ?_
      simp only [AlertState.probes]
      split
      · simp only [hosts_announceAll, onHost, Function.update_of_ne (Ne.symm hsame)]
      · rfl
  | connects instanceId event createdAt =>
    obtain rfl := Option.some.inj hstep
    refine hother rfl ?_
    simp only [connects, hosts_announceAll, onBot]
  | configures destinations =>
    obtain rfl := Option.some.inj hstep
    exact hother rfl rfl
  | cleansUp ids =>
    obtain rfl := Option.some.inj hstep
    exact hother rfl rfl

end AlertState

/-- **Outages of a host.**  In every run, an outage of a host is recorded only where every probe
since a first failure at least `HOST_SUSPECT_TO_DOWN_MS` earlier failed; one recovery lies between
two successive outages, and it has the incident of the outage before it. -/
theorem host_outages_founded {nanoid : Nat → Nat} {s t : AlertState} {es : List AlertEvent}
    (hinit : (alerts nanoid).init s) (hrun : (alerts nanoid).Path free s es t) (hostId : Nat) :
    (∀ row ∈ (t.hosts hostId).events, row.isOutage = true →
      row.FoundedOn (probesOf hostId es)) ∧ OutagesAlternate (t.hosts hostId).events := by
  have hinv : (t.hosts hostId).OutageInv (probesOf hostId es) := by
    refine hrun.history (I := fun es t => (t.hosts hostId).OutageInv (probesOf hostId es)) ?_ ?_
    · rw [hinit]
      exact ⟨nofun, fun _ => .empty, nofun, nofun⟩
    · intro es s e t hs _ hstep
      have hlast : probesOf hostId (es ++ [e]) = probesOf hostId es ++ e.probeOf hostId := by
        simp [probesOf]
      rw [hlast]
      exact AlertState.outageInv_step hs hstep
  obtain ⟨outage, hlog⟩ := hinv.outageLog
  exact ⟨hinv.founded, hlog.alternate⟩

/-- A host is down twice, and is reached in between. -/
def downTwice : List AlertEvent :=
  [(0, false), (180000, false), (200000, true), (300000, false), (400000, false),
    (500000, false)].map fun (now, reached) => .probes ⟨0, [], reached⟩ now now true

theorem host_outages_founded_twice :
    ∃ t, (alerts id).Path free nothingKnown downTwice t ∧
      (t.hosts 0).events.map HostEventRow.kind =
        [.hostCheckFailed, .hostUnreachable, .hostRecovered, .hostCheckFailed, .hostUnreachable] ∧
      OutagesAlternate (t.hosts 0).events := by
  obtain ⟨t, hexec, hkinds⟩ : ∃ t, (alerts id).exec nothingKnown downTwice = some t ∧
      (t.hosts 0).events.map HostEventRow.kind =
        [.hostCheckFailed, .hostUnreachable, .hostRecovered, .hostCheckFailed, .hostUnreachable] :=
    ⟨_, rfl, rfl⟩
  have hrun := path_of_exec hexec
  have hinit : (alerts id).init nothingKnown := rfl
  exact ⟨t, hrun, hkinds, (host_outages_founded hinit hrun 0).2⟩

end OpenMcc

import Mathlib.Data.List.Nodup
import OpenMcc.Construction.StatusRecorder

/-!
# When a check escalates

The check of an incident runs once.  It compares the manager's clock with the time the host gave
the last change, so it escalates exactly when that time is a whole grace period old by the
manager's clock.  Neither the event of the escalation nor its claim can be in the way: an incident
has at most one check, and its escalation is not recorded before that check runs.
-/

namespace OpenMcc

open TransitionSystem

namespace RecorderState

variable {s t u : RecorderState} {answers : QueueAnswers} {name : Text} {now : Int}

/-! ## What recording does to the checks -/

/-- The escalation of an incident is recorded. -/
def Escalation (s : RecorderState) (incidentId : Nat) : Prop :=
  ∃ row ∈ s.rows.events, row.sourceKey = .escalate incidentId

/-- The checks, and the escalations that are recorded, are the same. -/
structure SameChecks (s t : RecorderState) : Prop where
  jobs : t.jobs = s.jobs
  fresh : t.nextIncidentId = s.nextIncidentId
  escalated : ∀ i, t.Escalation i → s.Escalation i
  deleted : t.deleted = s.deleted

lemma SameChecks.refl (s : RecorderState) : SameChecks s s := ⟨rfl, rfl, fun _ h => h, rfl⟩

lemma SameChecks.trans (h : SameChecks s t) (h' : SameChecks t u) : SameChecks s u where
  jobs := h'.jobs.trans h.jobs
  fresh := h'.fresh.trans h.fresh
  escalated i hi := h.escalated i (h'.escalated i hi)
  deleted := h'.deleted.trans h.deleted

/-- Rows may change in any way that adds no event. -/
lemma SameChecks.of_events {rows : StatusRows} (h : rows.events = s.rows.events) :
    SameChecks s { s with rows := rows } where
  jobs := rfl
  fresh := rfl
  escalated i hi := by
    obtain ⟨row, hrow, hkey⟩ := hi
    exact ⟨row, h ▸ hrow, hkey⟩
  deleted := rfl

end RecorderState

lemma StatusRows.recordEvent_some {rows rows' : StatusRows} {insert : StatusEventInsert}
    {row : StatusEventRow} (h : rows.recordEvent insert = (some row, rows')) :
    rows' = { rows with events := rows.events ++ [row] } ∧ row.toStatusEventInsert = insert := by
  simp only [recordEvent] at h
  split at h
  · simp at h
  · simp only [Prod.mk.injEq, Option.some.injEq] at h
    obtain ⟨rfl, rfl⟩ := h
    exact ⟨rfl, rfl⟩

lemma StatusRows.recordEvent_fresh {rows : StatusRows} {insert : StatusEventInsert}
    (h : ¬∃ row ∈ rows.events, row.sourceKey = insert.sourceKey) :
    ∃ row, rows.recordEvent insert = (some row, { rows with events := rows.events ++ [row] }) ∧
      row.toStatusEventInsert = insert := by
  have htaken : (rows.events.any fun row => row.sourceKey == insert.sourceKey) = false := by
    simpa using h
  exact ⟨{ insert with id := rows.events.length }, by simp [recordEvent, htaken], rfl⟩

lemma StatusRows.claimEscalation_eq_some {rows rows' : StatusRows} {incidentId : Nat}
    {state : ConnectionState} {now : Int}
    (h : rows.claimEscalation incidentId state now = some rows') :
    ∃ condition, rows.condition = some condition ∧ rows' = { rows with
      condition := some { condition with
        state := state, lastObservedAt := now, startedAt := now } } := by
  simp only [claimEscalation] at h
  split at h
  · cases h
  case h_2 condition hcondition =>
    split at h
    · exact ⟨condition, hcondition, (Option.some.inj h).symm⟩
    · cases h

lemma StatusRows.claimEscalation_interrupted {rows : StatusRows} {condition : StatusCondition}
    {incidentId : Nat} {now : Int} (hcondition : rows.condition = some condition)
    (hstate : condition.state = .interrupted)
    (hincident : condition.activeIncidentId = some incidentId) :
    ∃ rows' : StatusRows, rows.claimEscalation incidentId .down now = some rows' ∧
      rows'.events = rows.events ∧
      ∃ condition', rows'.condition = some condition' ∧ condition'.state = .down := by
  refine ⟨{ rows with condition := some { condition with
    state := .down, lastObservedAt := now, startedAt := now } }, ?_, rfl, _, rfl, rfl⟩
  simp [claimEscalation, hcondition, hstate, hincident]

lemma Except.bind_eq_ok {ε α β : Type*} {x : Except ε α} {f : α → Except ε β} {b : β} :
    x.bind f = .ok b ↔ ∃ a, x = .ok a ∧ f a = .ok b := by
  cases x <;> simp [Except.bind]

lemma Except.toOption_eq_some {ε α : Type*} {x : Except ε α} {a : α} :
    x.toOption = some a ↔ x = .ok a := by
  cases x <;> simp [Except.toOption]

namespace RecorderState

variable {s t u : RecorderState} {answers : QueueAnswers} {name : Text} {now : Int}

lemma announce_ok {fact : EventFact} (h : s.announce answers fact = .ok t) :
    t = { s with announced := s.announced ++ [fact] } := by
  simp only [announce] at h
  split at h
  · cases h
  · exact (Except.ok.inj h).symm

/-- An event under a fresh key is recorded and announced, where the queue takes every job. -/
lemma recordAnnounced_fresh (insert : StatusEventInsert) (under : Option Nat)
    (h : ¬∃ row ∈ s.rows.events, row.sourceKey = insert.sourceKey) :
    ∃ row fact, s.recordAnnounced .taken insert under = .ok (some row, { s with
        rows := { s.rows with events := s.rows.events ++ [row] }
        announced := s.announced ++ [fact] }) ∧
      row.toStatusEventInsert = insert ∧ fact.kind = insert.kind ∧ fact.statusEventId = row.id := by
  obtain ⟨row, hrecord, hinsert⟩ := StatusRows.recordEvent_fresh h
  refine ⟨row, ⟨row.id, row.kind, insert.subjectLabel, under⟩, ?_, hinsert,
    congrArg StatusEventInsert.kind hinsert, rfl⟩
  simp only [recordAnnounced, hrecord]
  rfl

/-- An event is recorded and announced, or its key is taken. -/
lemma recordAnnounced_ok {insert : StatusEventInsert} {under : Option Nat}
    {event : Option StatusEventRow} (h : s.recordAnnounced answers insert under = .ok (event, t)) :
    (event = none ∧ t = s) ∨ ∃ row fact, event = some row ∧ row.toStatusEventInsert = insert ∧
      t = { s with
        rows := { s.rows with events := s.rows.events ++ [row] }
        announced := s.announced ++ [fact] } := by
  simp only [recordAnnounced] at h
  split at h
  case h_1 =>
    obtain ⟨hevent, ht⟩ := Prod.mk.inj (Except.ok.inj h)
    exact Or.inl ⟨hevent.symm, ht.symm⟩
  case h_2 row rows hrecord =>
    obtain ⟨hrows, hinsert⟩ := StatusRows.recordEvent_some hrecord
    obtain ⟨u, hannounce, hu⟩ := Except.bind_eq_ok.mp h
    obtain ⟨hevent, rfl⟩ := Prod.mk.inj (Except.ok.inj hu)
    rw [hrows] at hannounce
    exact Or.inr ⟨row, _, hevent.symm, hinsert, announce_ok hannounce⟩

/-- Only the check records an escalation. -/
lemma recordAnnounced_sameChecks {insert : StatusEventInsert} {under : Option Nat}
    {event : Option StatusEventRow} (hkey : ∀ i, insert.sourceKey ≠ .escalate i)
    (h : s.recordAnnounced answers insert under = .ok (event, t)) : SameChecks s t := by
  rcases recordAnnounced_ok h with ⟨-, rfl⟩ | ⟨row, fact, -, hinsert, rfl⟩
  · exact .refl t
  · refine ⟨rfl, rfl, fun i hi => ?_, rfl⟩
    obtain ⟨row', hrow', hkey'⟩ := hi
    rcases List.mem_append.mp hrow' with hold | hnew
    · exact ⟨row', hold, hkey'⟩
    · rw [List.mem_singleton.mp hnew, hinsert] at hkey'
      exact absurd hkey' (hkey i)

lemma recordChangeEvent_sameChecks {change : ConnectionChange} {under : Option Nat}
    {event : Option StatusEventRow}
    (h : s.recordChangeEvent answers name now change under = .ok (event, t)) : SameChecks s t := by
  simp only [recordChangeEvent] at h
  split at h
  · rw [← (Prod.mk.inj (Except.ok.inj h)).2]
    exact .refl s
  · exact recordAnnounced_sameChecks (by simp) h

/-- A flapping is claimed on the condition, and leaves the events and the intervals. -/
lemma claimFlapping_rows {rows rows' : StatusRows} {cooldownMs : Int}
    (h : rows.claimFlapping now cooldownMs = some rows') :
    rows'.events = rows.events ∧ rows'.intervals = rows.intervals := by
  simp only [StatusRows.claimFlapping] at h
  repeat' split at h
  all_goals cases h
  all_goals exact ⟨rfl, rfl⟩

/-- A flapping is claimed and then recorded as an event, or nothing happens. -/
lemma recordFlapping_ok {opening : Bool} {change : ConnectionChange} {incidentId : Option Nat}
    (h : s.recordFlapping answers name now opening change incidentId = .ok t) :
    t = s ∨ ∃ rows insert event, s.rows.claimFlapping change.time flappingWindowMs = some rows ∧
      insert.kind = .instanceFlapping ∧ (∀ i, insert.sourceKey ≠ .escalate i) ∧
      RecorderState.recordAnnounced { s with rows := rows } answers insert none =
        .ok (event, t) := by
  simp only [recordFlapping] at h
  split at h
  · split at h
    case h_1 => exact .inl (Except.ok.inj h).symm
    case h_2 rows hclaim =>
      cases hrecord : RecorderState.recordAnnounced { s with rows := rows } answers _ none with
      | error message =>
          rw [hrecord] at h
          cases h
      | ok result =>
          rw [hrecord] at h
          obtain rfl : result.2 = t := Except.ok.inj h
          exact .inr ⟨rows, _, result.1, hclaim, rfl, by simp, hrecord⟩
  · exact .inl (Except.ok.inj h).symm

lemma recordFlapping_sameChecks {opening : Bool} {change : ConnectionChange}
    {incidentId : Option Nat}
    (h : s.recordFlapping answers name now opening change incidentId = .ok t) :
    SameChecks s t := by
  obtain rfl | ⟨rows, insert, event, hclaim, -, hkey, hrecord⟩ := recordFlapping_ok h
  · exact .refl t
  · have hrows : SameChecks s { s with rows := rows } := .of_events (claimFlapping_rows hclaim).1
    exact hrows.trans (recordAnnounced_sameChecks hkey hrecord)

/-- A check is scheduled, or nothing happens. -/
lemma scheduleCheck_ok {decision : IncidentDecision}
    (h : s.scheduleCheck answers name now decision = .ok t) :
    t = s ∨ ∃ job, t = { s with jobs := s.jobs ++ [job] } := by
  simp only [scheduleCheck] at h
  split at h
  · split at h
    · exact .inr ⟨_, (Except.ok.inj h).symm⟩
    · cases h
  · exact .inl (Except.ok.inj h).symm

lemma moveInterval_sameChecks (s : RecorderState) (change : ConnectionChange)
    (eventId : Option Nat) : SameChecks s (s.moveInterval change eventId) := .of_events rfl

/-! ## What holds of the checks -/

/-- Incidents have at most one check, and an escalation is recorded by its check only. -/
structure ChecksInv (s : RecorderState) : Prop where
  nodup : (s.jobs.map EscalationJob.incidentId).Nodup
  known : ∀ job ∈ s.jobs, job.incidentId < s.nextIncidentId
  recorded : ∀ i, s.Escalation i → i < s.nextIncidentId
  waiting : ∀ job ∈ s.jobs, ¬s.Escalation job.incidentId

lemma ChecksInv.same (h : SameChecks s t) (hs : s.ChecksInv) : t.ChecksInv where
  nodup := h.jobs ▸ hs.nodup
  known job hjob := by
    rw [h.fresh]
    exact hs.known job (h.jobs ▸ hjob)
  recorded i hi := by
    rw [h.fresh]
    exact hs.recorded i (h.escalated i hi)
  waiting job hjob hi := hs.waiting job (h.jobs ▸ hjob) (h.escalated _ hi)

/-- A finished check leaves the others. -/
lemma ChecksInv.erase (hs : s.ChecksInv) (job : EscalationJob) :
    ChecksInv { s with jobs := s.jobs.erase job } where
  nodup := hs.nodup.sublist (List.erase_sublist.map _)
  known job' hjob' := hs.known job' (List.mem_of_mem_erase hjob')
  recorded := hs.recorded
  waiting job' hjob' := hs.waiting job' (List.mem_of_mem_erase hjob')

lemma nextIncident_opened {current : Option Nat} {state : ConnectionState}
    {event : Option StatusEventKind} {fresh : Nat}
    (h : (nextIncident current state event fresh).opened = true) :
    (nextIncident current state event fresh).incidentId = some fresh := by
  unfold nextIncident at h ⊢
  repeat' split at h
  all_goals simp_all

/-- The check of an incident that was just opened is the only one of it. -/
lemma scheduleCheck_checksInv {decision : IncidentDecision}
    (hopened : decision.opened = true → decision.incidentId = some s.nextIncidentId)
    (hs : s.ChecksInv)
    (hbump : SameChecks
      (if decision.opened then { s with nextIncidentId := s.nextIncidentId + 1 } else s) t)
    (h : t.scheduleCheck answers name now decision = .ok u) :
    u.ChecksInv ∧ u.deleted = s.deleted := by
  cases hdecision : decision.opened with
  | false =>
      simp only [hdecision, Bool.false_eq_true, if_false] at hbump
      simp only [scheduleCheck, hdecision] at h
      rw [← Except.ok.inj h]
      exact ⟨hs.same hbump, hbump.deleted⟩
  | true =>
      simp only [hdecision, if_true] at hbump
      simp only [scheduleCheck, hdecision, hopened hdecision] at h
      split at h
      · rw [← Except.ok.inj h]
        have hjobs : t.jobs = s.jobs := hbump.jobs
        have hfresh : t.nextIncidentId = s.nextIncidentId + 1 := hbump.fresh
        have hescalated : ∀ i, t.Escalation i → s.Escalation i := hbump.escalated
        refine ⟨⟨?_, ?_, ?_, ?_⟩, hbump.deleted⟩
        · simp only [hjobs, List.map_append, List.map_cons, List.map_nil]
          refine List.Nodup.append hs.nodup (List.nodup_singleton _) fun i hi hi' => ?_
          obtain ⟨job, hjob, rfl⟩ := List.mem_map.mp hi
          exact absurd (List.mem_singleton.mp hi') (Nat.ne_of_lt (hs.known job hjob))
        · intro job hjob
          simp only [hfresh, hjobs, List.mem_append, List.mem_singleton] at hjob ⊢
          rcases hjob with hjob | rfl
          · exact Nat.lt_succ_of_lt (hs.known job hjob)
          · exact Nat.lt_succ_self s.nextIncidentId
        · intro i hi
          have hlt : i < s.nextIncidentId := hs.recorded i (hescalated i hi)
          show i < t.nextIncidentId
          omega
        · intro job hjob hi
          simp only [hjobs, List.mem_append, List.mem_singleton] at hjob
          have hold : s.Escalation job.incidentId := hescalated _ hi
          rcases hjob with hjob | rfl
          · exact hs.waiting job hjob hold
          · exact absurd (hs.recorded _ hold) (Nat.lt_irrefl s.nextIncidentId)
      · cases h

/-- What a change leaves in the condition. -/
structure AfterChange (t : RecorderState) (change : ConnectionChange) : Prop where
  condition : ∃ condition, t.rows.condition = some condition ∧
    (condition.state = change.state ∨ condition.state = .down) ∧
    condition.failureStartedAt = if change.state = .joined then none else some change.time

/-- **One change** keeps the checks and is what the condition then tells. -/
lemma recordChange_spec {opening : Bool} {incidentId incidentId' : Option Nat}
    {change : ConnectionChange} (hs : s.ChecksInv)
    (h : s.recordChange answers name now opening incidentId change = .ok (incidentId', t)) :
    t.ChecksInv ∧ AfterChange t change ∧ t.deleted = s.deleted := by
  simp only [recordChange] at h
  obtain ⟨⟨event, s₂⟩, hevent, h⟩ := Except.bind_eq_ok.mp h
  obtain ⟨s₃, hcheck, h⟩ := Except.bind_eq_ok.mp h
  obtain ⟨s₄, hflap, h⟩ := Except.bind_eq_ok.mp h
  have h₂ := recordChangeEvent_sameChecks hevent
  obtain ⟨h₃, hdeleted⟩ := scheduleCheck_checksInv nextIncident_opened hs h₂ hcheck
  have h₄ : SameChecks s₃ s₄ := recordFlapping_sameChecks hflap
  have h₅ : SameChecks s₃ (s₄.moveInterval change (event.map StatusEventRow.id)) :=
    h₄.trans (moveInterval_sameChecks s₄ change _)
  obtain ⟨-, rfl⟩ := Prod.mk.inj (Except.ok.inj h)
  exact ⟨h₃.same (h₅.trans (.of_events rfl)), ⟨_, rfl, Or.inl rfl, rfl⟩,
    h₅.deleted.trans hdeleted⟩

/-- **The loop** leaves what its last change tells. -/
lemma recordChanges_spec {opening : Bool} {incidentId : Option Nat}
    {changes : List ConnectionChange} (hs : s.ChecksInv)
    (h : s.recordChanges answers name now opening incidentId changes = .ok t) :
    t.ChecksInv ∧ t.deleted = s.deleted ∧
      match changes.getLast? with
      | none => t = s
      | some change => AfterChange t change := by
  induction changes generalizing s incidentId with
  | nil => 
      obtain rfl := Except.ok.inj h
      exact ⟨hs, rfl, rfl⟩
  | cons change changes ih =>
      obtain ⟨⟨incidentId', u⟩, hchange, hrest⟩ := Except.bind_eq_ok.mp h
      obtain ⟨hu, hafter, hdeleted⟩ := recordChange_spec hs hchange
      obtain ⟨ht, hdeleted', hlast⟩ := ih hu hrest
      refine ⟨ht, hdeleted'.trans hdeleted, ?_⟩
      cases changes with
      | nil =>
          have htu : t = u := hlast
          rw [htu]
          exact hafter
      | cons next rest =>
          rw [List.getLast?_cons_cons]
          exact hlast

/-! ## A check -/

/-- The grace period of an interruption that began at `since` is over. -/
lemma escalateIfStillDown_interrupted {since : Int} {pid : Option Text} {graceMs : Int} :
    escalateIfStillDown ⟨.interrupted, some since, pid⟩ now graceMs =
      if now - since < graceMs then none else some {
        state := .down
        time := now
        pid := pid
        event := some .instanceDisconnected
        reason := none } := rfl

/-- A check within the grace period answers that it did nothing. -/
lemma escalateInstance_declines (name : Text) {condition : StatusCondition}
    {incidentId : Nat} {since : Int} (hcondition : s.rows.condition = some condition)
    (hstate : condition.state = .interrupted)
    (hsince : condition.failureStartedAt = some since)
    (hincident : condition.activeIncidentId = some incidentId)
    (hgrace : now - since < instanceInterruptedToDownMs) :
    s.escalateInstance .taken name now incidentId = .ok (false, s) := by
  simp [escalateInstance, hcondition, hincident, hstate, hsince, escalateIfStillDown_interrupted,
    hgrace]

/-- A check after the grace period escalates, if the escalation is not yet recorded. -/
lemma escalateInstance_escalates (name : Text) {condition : StatusCondition}
    {incidentId : Nat} {since : Int} (hcondition : s.rows.condition = some condition)
    (hstate : condition.state = .interrupted)
    (hsince : condition.failureStartedAt = some since)
    (hincident : condition.activeIncidentId = some incidentId)
    (hgrace : ¬now - since < instanceInterruptedToDownMs) (hfresh : ¬s.Escalation incidentId) :
    ∃ t, s.escalateInstance .taken name now incidentId = .ok (true, t) ∧
      s.EscalatedTo t incidentId := by
  obtain ⟨rows, hclaim, hevents, hdown⟩ : ∃ rows : StatusRows,
      s.rows.claimEscalation incidentId .down now = some rows ∧ rows.events = s.rows.events ∧
        ∃ condition, rows.condition = some condition ∧ condition.state = .down :=
    StatusRows.claimEscalation_interrupted hcondition hstate hincident
  have hkey : ¬∃ row ∈ rows.events, row.sourceKey = .escalate incidentId := by
    rw [hevents]
    exact hfresh
  obtain ⟨row, fact, hrecord, hinsert, hkind, hid⟩ :=
    recordAnnounced_fresh (s := { s with rows := rows }) {
      subjectLabel := name
      kind := .instanceDisconnected
      occurredAt := now
      observedAt := now
      lastCorroboratedAt := now
      incidentId := some incidentId
      sourceKey := .escalate incidentId } (some incidentId) hkey
  have hescalates : s.escalateInstance .taken name now incidentId = .ok (true, { s with
      rows := (StatusRows.closeOpenInterval { rows with events := rows.events ++ [row] } now
        (some row.id)).2.openInterval .down now (some row.id)
      announced := s.announced ++ [fact] }) := by
    simp only [escalateInstance, hcondition, hincident, hstate, hsince,
      escalateIfStillDown_interrupted, hgrace, if_false, ne_eq, not_true_eq_false, hclaim]
    rw [hrecord]
    rfl
  refine ⟨_, hescalates, hdown, row, fact, ?_, congrArg StatusEventInsert.kind hinsert,
    congrArg StatusEventInsert.incidentId hinsert, rfl, hkind, hid⟩
  show rows.events ++ [row] = s.rows.events ++ [row]
  rw [hevents]

lemma escalateIfStillDown_state {current : ConnectionCurrent} {graceMs : Int}
    {change : ConnectionChange} (h : escalateIfStillDown current now graceMs = some change) :
    change.state = .down := by
  simp only [escalateIfStillDown] at h
  repeat' split at h
  all_goals cases h
  rfl

/-- An escalation, once its event is recorded, is one of an incident that has no check left. -/
lemma ChecksInv.escalated {row : StatusEventRow} {incidentId : Nat} (hs : s.ChecksInv)
    (hknown : incidentId < s.nextIncidentId)
    (hnone : ∀ job ∈ s.jobs, job.incidentId ≠ incidentId)
    (hkey : row.sourceKey = .escalate incidentId) (hjobs : t.jobs = s.jobs)
    (hfresh : t.nextIncidentId = s.nextIncidentId)
    (hevents : t.rows.events = s.rows.events ++ [row]) : t.ChecksInv := by
  have hcases : ∀ i, t.Escalation i → s.Escalation i ∨ i = incidentId := by
    rintro i ⟨row', hrow', hkey'⟩
    rw [hevents] at hrow'
    rcases List.mem_append.mp hrow' with hold | hnew
    · exact Or.inl ⟨row', hold, hkey'⟩
    · rw [List.mem_singleton.mp hnew, hkey] at hkey'
      exact Or.inr (SourceKey.escalate.inj hkey').symm
  refine ⟨hjobs ▸ hs.nodup, fun job hjob => ?_, fun i hi => ?_, fun job hjob hi => ?_⟩
  · rw [hfresh]
    exact hs.known job (hjobs ▸ hjob)
  · rw [hfresh]
    rcases hcases i hi with hold | rfl
    · exact hs.recorded i hold
    · exact hknown
  · rw [hjobs] at hjob
    rcases hcases _ hi with hold | heq
    · exact hs.waiting job hjob hold
    · exact hnone job hjob heq

/-- The condition is as it was, or was set to `down`. -/
def SetDown (s t : RecorderState) : Prop :=
  t.rows.condition = s.rows.condition ∨ ∃ condition condition',
    s.rows.condition = some condition ∧ t.rows.condition = some condition' ∧
      condition'.state = .down ∧ condition'.failureStartedAt = condition.failureStartedAt

/-- **One run of a check** keeps what holds of the others, and at most sets the bot down. -/
lemma escalateInstance_spec {incidentId : Nat} {answer : Bool} (hs : s.ChecksInv)
    (hknown : incidentId < s.nextIncidentId)
    (hnone : ∀ job ∈ s.jobs, job.incidentId ≠ incidentId)
    (h : s.escalateInstance answers name now incidentId = .ok (answer, t)) :
    t.ChecksInv ∧ t.deleted = s.deleted ∧ s.SetDown t := by
  have hquiet : Except.ok (false, s) = (Except.ok (answer, t) : Except Text _) →
      t.ChecksInv ∧ t.deleted = s.deleted ∧ s.SetDown t := by
    intro hst
    obtain ⟨-, rfl⟩ := Prod.mk.inj (Except.ok.inj hst)
    exact ⟨hs, rfl, Or.inl rfl⟩
  simp only [escalateInstance] at h
  split at h
  · exact hquiet h
  split at h
  · exact hquiet h
  split at h
  · exact hquiet h
  rename_i change hchange
  split at h
  · exact hquiet h
  case h_2 rows hclaim =>
    obtain ⟨condition, hcondition, rfl⟩ := StatusRows.claimEscalation_eq_some hclaim
    have hdown : change.state = .down := escalateIfStillDown_state hchange
    obtain ⟨⟨event, u⟩, hrecord, h⟩ := Except.bind_eq_ok.mp h
    rcases recordAnnounced_ok hrecord with ⟨rfl, rfl⟩ | ⟨row, fact, rfl, hinsert, rfl⟩
    · obtain ⟨-, rfl⟩ := Prod.mk.inj (Except.ok.inj h)
      exact ⟨hs.same (.of_events rfl), rfl, Or.inr ⟨condition, _, hcondition, rfl, hdown, rfl⟩⟩
    · obtain ⟨-, rfl⟩ := Prod.mk.inj (Except.ok.inj h)
      exact ⟨hs.escalated hknown hnone (congrArg StatusEventInsert.sourceKey hinsert) rfl rfl rfl,
        rfl, Or.inr ⟨condition, _, hcondition, rfl, hdown, rfl⟩⟩

/-- A due check of a bot that exists runs. -/
lemma escalates_of_ok {job : EscalationJob} {answer : Bool} (hdue : s.due job now = true)
    (hlive : s.deleted = false)
    (h : escalateInstance { s with jobs := s.jobs.erase job } .taken name now job.incidentId =
      .ok (answer, t)) :
    statusRecorder.step s (.escalates job name now) = some t := by
  have hexists : ¬s.deleted = true := by simp [hlive]
  simp only [statusRecorder, escalates, if_pos hdue, if_neg hexists]
  rw [h]
  rfl

/-! ## Runs -/

/-- What holds after the events `es` of a run. -/
structure RunInv (es : List RecorderEvent) (s : RecorderState) : Prop where
  checks : s.ChecksInv
  deleted : s.deleted = true → s.rows.condition = none
  /-- The condition tells the last change recorded, unless it was set down since. -/
  condition : ∀ condition, s.rows.condition = some condition →
    ∃ change, (recordedChanges es).getLast? = some change ∧
      (condition.state = change.state ∨ condition.state = .down) ∧
      condition.failureStartedAt = if change.state = .joined then none else some change.time

lemma recordedChanges_append (es : List RecorderEvent) (e : RecorderEvent) :
    recordedChanges (es ++ [e]) = recordedChanges es ++ recordedChanges [e] := by
  simp [recordedChanges]

/-- A step that records no change keeps the invariant, if it at most sets the bot down. -/
lemma RunInv.setDown {es : List RecorderEvent} {e : RecorderEvent} (hs : RunInv es s)
    (he : recordedChanges [e] = []) (ht : t.ChecksInv) (hdeleted : t.deleted = s.deleted)
    (h : s.SetDown t) : RunInv (es ++ [e]) t := by
  have hchanges : recordedChanges (es ++ [e]) = recordedChanges es := by
    rw [recordedChanges_append, he, List.append_nil]
  refine ⟨ht, fun hdel => ?_, fun condition hcondition => ?_⟩
  · have hnone : s.rows.condition = none := hs.deleted (hdeleted ▸ hdel)
    rcases h with hsame | ⟨before, -, hbefore, -⟩
    · rw [hsame, hnone]
    · rw [hnone] at hbefore
      cases hbefore
  · rw [hchanges]
    rcases h with hsame | ⟨before, after, hbefore, hafter, hdown, hfailure⟩
    · exact hs.condition condition (hsame ▸ hcondition)
    · obtain ⟨change, hlast, -, htells⟩ := hs.condition before hbefore
      obtain rfl : after = condition := Option.some.inj (hafter.symm.trans hcondition)
      exact ⟨change, hlast, Or.inr hdown, hfailure.trans htells⟩

lemma ChecksInv.erase_ne (hs : s.ChecksInv) {job : EscalationJob} (hjob : job ∈ s.jobs) :
    ∀ job' ∈ s.jobs.erase job, job'.incidentId ≠ job.incidentId := by
  intro job' hjob' heq
  have hnodup : s.jobs.Nodup := hs.nodup.of_map _
  have hmem : job' ∈ s.jobs := List.mem_of_mem_erase hjob'
  obtain rfl : job' = job := List.inj_on_of_nodup_map hs.nodup hmem hjob heq
  exact hnodup.not_mem_erase hjob'

lemma RunInv.records {es : List RecorderEvent} {changes : List ConnectionChange}
    (hs : RunInv es s) (h : s.records name now changes = some t) :
    RunInv (es ++ [.records name now changes]) t := by
  simp only [RecorderState.records] at h
  split at h
  · cases h
  case isFalse hguard =>
    rw [Except.toOption_eq_some] at h
    obtain ⟨ht, hdeleted, hlast⟩ := recordChanges_spec hs.checks h
    cases hchanges : changes.getLast? with
    | none =>
        have hnil : changes = [] := List.getLast?_eq_none_iff.mp hchanges
        rw [hchanges] at hlast
        obtain rfl : t = s := hlast
        exact hs.setDown (by simp [recordedChanges, hnil]) hs.checks rfl (Or.inl rfl)
    | some change =>
        rw [hchanges] at hlast
        obtain ⟨condition, hcondition, htells⟩ := hlast
        have hkept : t.deleted = false := by
          have hne : changes ≠ [] := by
            rintro rfl
            cases hchanges
          rw [hdeleted]
          simpa [hne] using hguard
        refine ⟨ht, fun hdel => ?_, fun condition' hcondition' => ⟨change, ?_, ?_⟩⟩
        · rw [hkept] at hdel
          cases hdel
        · simp [recordedChanges, hchanges]
        · obtain rfl : condition = condition' := Option.some.inj (hcondition.symm.trans hcondition')
          exact htells

lemma RunInv.escalates {es : List RecorderEvent} {job : EscalationJob} (hs : RunInv es s)
    (h : s.escalates job name now = some t) : RunInv (es ++ [.escalates job name now]) t := by
  simp only [RecorderState.escalates] at h
  split at h
  case isFalse => cases h
  case isTrue hdue =>
    have hjob : job ∈ s.jobs := by
      simp only [due, Bool.and_eq_true, List.contains_iff_mem] at hdue
      exact hdue.1
    split at h
    · obtain rfl := Option.some.inj h
      exact hs.setDown rfl (hs.checks.erase job) rfl (Or.inl rfl)
    · obtain ⟨⟨answer, u⟩, hescalate, rfl⟩ := Option.map_eq_some_iff.mp h
      rw [Except.toOption_eq_some] at hescalate
      obtain ⟨ht, hdeleted, hdown⟩ := escalateInstance_spec (hs.checks.erase job)
        (hs.checks.known job hjob) (hs.checks.erase_ne hjob) hescalate
      exact hs.setDown rfl ht hdeleted hdown

/-- **One step** keeps the invariant. -/
lemma RunInv.step {es : List RecorderEvent} {e : RecorderEvent} (hs : RunInv es s)
    (h : statusRecorder.step s e = some t) : RunInv (es ++ [e]) t := by
  cases e with
  | records name now changes => exact hs.records h
  | recordingThrows answers name now changes =>
      have hst : s = t := by
        simp only [statusRecorder, RecorderState.recordingThrows] at h
        repeat' split at h
        all_goals cases h
        all_goals rfl
      rw [← hst]
      exact hs.setDown rfl hs.checks rfl (Or.inl rfl)
  | escalates job name now => exact hs.escalates h
  | escalationThrows job answers name now again =>
      simp only [statusRecorder, RecorderState.escalationThrows] at h
      repeat' split at h
      all_goals cases h
      · exact hs.setDown rfl hs.checks rfl (Or.inl rfl)
      · exact hs.setDown rfl (hs.checks.erase job) rfl (Or.inl rfl)
  | deletes =>
      obtain rfl := Option.some.inj h
      have hchecks : ChecksInv s.deletes :=
        ⟨hs.checks.nodup, hs.checks.known, hs.checks.recorded, hs.checks.waiting⟩
      exact ⟨hchecks, fun _ => rfl, fun condition hcondition => nomatch hcondition⟩

end RecorderState

open RecorderState in
lemma runInv {s₀ s : RecorderState} {es : List RecorderEvent} (h₀ : statusRecorder.init s₀)
    (hpath : statusRecorder.Path free s₀ es s) : RunInv es s := by
  refine hpath.history (I := RunInv) ?_ fun es s e t hs _ hstep => hs.step hstep
  rw [h₀]
  refine ⟨⟨List.nodup_nil, ?_, ?_, ?_⟩, nofun, nofun⟩
  · exact fun job hjob => absurd hjob List.not_mem_nil
  · rintro i ⟨row, hrow, -⟩
    exact absurd hrow List.not_mem_nil
  · exact fun job hjob => absurd hjob List.not_mem_nil

/-- **A check escalates exactly after the host's grace period.**  In every run, when the check of
an incident is due and the bot is still interrupted under that incident, the check runs, and it
escalates if and only if the time the host gave the last change recorded is at least
`INSTANCE_INTERRUPTED_TO_DOWN_MS` before the manager's time. -/
theorem escalates_iff_hostGraceOver {s₀ s : RecorderState} {es : List RecorderEvent}
    {job : EscalationJob} {now : Int} (name : Text) (h₀ : statusRecorder.init s₀)
    (hpath : statusRecorder.Path free s₀ es s) (hdue : s.due job now = true)
    (hinterrupted : s.InterruptedUnder job.incidentId) :
    ∃ t, statusRecorder.step s (.escalates job name now) = some t ∧
      (s.EscalatedTo t job.incidentId ↔
        ∃ change, (recordedChanges es).getLast? = some change ∧
          change.time ≤ now - instanceInterruptedToDownMs) := by
  have hs : RecorderState.RunInv es s := runInv h₀ hpath
  obtain ⟨condition, hcondition, hstate, hincident⟩ := hinterrupted
  obtain ⟨change, hlast, htells, hfailure⟩ := hs.condition condition hcondition
  have hchange : change.state = .interrupted := by
    rcases htells with heq | hdown
    · exact heq.symm.trans hstate
    · rw [hstate] at hdown
      cases hdown
  have hsince : condition.failureStartedAt = some change.time := by
    simp [hfailure, hchange]
  have hlive : s.deleted = false := by
    by_contra hdel
    have hnone : s.rows.condition = none := hs.deleted (by simpa using hdel)
    rw [hnone] at hcondition
    cases hcondition
  have hjob : job ∈ s.jobs := by
    simp only [RecorderState.due, Bool.and_eq_true, List.contains_iff_mem] at hdue
    exact hdue.1
  have hfresh : ¬s.Escalation job.incidentId := hs.checks.waiting job hjob
  by_cases hgrace : now - change.time < instanceInterruptedToDownMs
  · have hdeclines := RecorderState.escalateInstance_declines
      (s := { s with jobs := s.jobs.erase job }) name hcondition hstate hsince hincident hgrace
    refine ⟨_, RecorderState.escalates_of_ok hdue hlive hdeclines, ?_⟩
    constructor
    · rintro ⟨-, row, fact, hevents, -⟩
      simp at hevents
    · rintro ⟨change', hlast', htime⟩
      obtain rfl : change = change' := Option.some.inj (hlast.symm.trans hlast')
      omega
  · obtain ⟨t, hescalates, hto⟩ := RecorderState.escalateInstance_escalates
      (s := { s with jobs := s.jobs.erase job }) name hcondition hstate hsince hincident hgrace
      hfresh
    have htime : change.time ≤ now - instanceInterruptedToDownMs := by omega
    exact ⟨t, RecorderState.escalates_of_ok hdue hlive hescalates,
      iff_of_true hto ⟨change, hlast, htime⟩⟩

/-- A bot that drops at the manager's midnight, by a host whose clock agrees. -/
theorem escalates_iff_hostGraceOver_sameClock :
    ∃ s t, statusRecorder.Reachable free s ∧
      statusRecorder.step s (.escalates ⟨0, 120000⟩ [] 120000) = some t ∧ s.EscalatedTo t 0 := by
  obtain ⟨s, hrun, hdue, hinterrupted⟩ : ∃ s,
      statusRecorder.exec ⟨⟨none, [], []⟩, [], [], 0, false⟩
        [.records [] 0 [⟨.interrupted, 0, none, some .instanceConnectionLost, none⟩]] = some s ∧
      s.due ⟨0, 120000⟩ 120000 = true ∧ s.InterruptedUnder 0 := ⟨_, rfl, rfl, _, rfl, rfl, rfl⟩
  have hpath := path_of_exec hrun
  obtain ⟨t, hstep, hiff⟩ := escalates_iff_hostGraceOver [] rfl hpath hdue hinterrupted
  exact ⟨s, t, ⟨_, _, rfl, hpath⟩, hstep, hiff.mpr ⟨_, rfl, by decide⟩⟩

/-- A host whose clock is one second ahead: the only check of the incident finds the grace period
one second short, and the bot stays interrupted with no check left. -/
theorem host_ahead_never_escalates :
    ¬∀ s (job : EscalationJob) (name : Text) (now : Int), statusRecorder.Reachable free s →
      s.due job now = true → s.InterruptedUnder job.incidentId →
        ∃ t, statusRecorder.step s (.escalates job name now) = some t ∧
          s.EscalatedTo t job.incidentId := by
  intro hclaim
  obtain ⟨s, hrun, hdue, hinterrupted, hstep⟩ : ∃ s,
      statusRecorder.exec ⟨⟨none, [], []⟩, [], [], 0, false⟩
        [.records [] 0 (changesFromSignals id .joined [.disconnected 1000 [] none])] = some s ∧
      s.due ⟨0, 120000⟩ 120000 = true ∧ s.InterruptedUnder 0 ∧
      statusRecorder.step s (.escalates ⟨0, 120000⟩ [] 120000) = some { s with jobs := [] } :=
    ⟨_, rfl, rfl, ⟨_, rfl, rfl, rfl⟩, rfl⟩
  have hreach : statusRecorder.Reachable free s := .of_exec rfl hrun
  obtain ⟨t, hstep', -, row, fact, hevents, -⟩ := hclaim s _ [] _ hreach hdue hinterrupted
  obtain rfl := Option.some.inj (hstep.symm.trans hstep')
  simp at hevents

end OpenMcc

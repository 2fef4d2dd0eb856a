import Mathlib.Data.List.Chain
import OpenMcc.Construction.StatusHistory
import OpenMcc.Properties.StatusRecorder

/-!
# Intervals and conditions agree

A change is recorded from the end of the interval it closes, or from its own time if that is
later, so the intervals tile whatever the host's clock does.  An escalation opens its interval at
the manager's time without that, and the intervals overlap when a host's clock that was ahead has
stepped back (`escalation_overlaps`).

An escalation claims the condition before it records its event.  The event of an incident that was
escalated before is not recorded again, and the claim stays (`escalation_claimed_twice`).
-/

namespace OpenMcc

open TransitionSystem

/-! ## The intervals of one bot -/

/-- The open interval comes last, and the others have ended. -/
structure LastOpen (intervals : List StatusInterval) : Prop where
  ended : ∀ interval ∈ intervals.dropLast, interval.endedAt.isSome
  last : ∀ interval, intervals.getLast? = some interval → interval.endedAt = none

lemma lastOpen_nil : LastOpen [] := ⟨nofun, nofun⟩

lemma lastOpen_concat {init : List StatusInterval} {last : StatusInterval} :
    LastOpen (init ++ [last]) ↔
      (∀ interval ∈ init, interval.endedAt.isSome) ∧ last.endedAt = none := by
  constructor
  · intro h
    refine ⟨fun interval hmem => h.ended interval ?_, h.last last List.getLast?_concat⟩
    rwa [List.dropLast_concat]
  · rintro ⟨hended, hlast⟩
    refine ⟨fun interval hmem => ?_, fun interval hinterval => ?_⟩
    · rw [List.dropLast_concat] at hmem
      exact hended interval hmem
    · rw [List.getLast?_concat, Option.some.injEq] at hinterval
      exact hinterval ▸ hlast

lemma exists_concat {intervals : List StatusInterval} (hne : intervals ≠ []) :
    ∃ init last, intervals = init ++ [last] :=
  ⟨intervals.dropLast, intervals.getLast hne, (List.dropLast_concat_getLast hne).symm⟩

lemma not_isNone_of_ended {interval : StatusInterval} (hended : interval.endedAt.isSome) :
    ¬ interval.endedAt.isNone = true := by
  simpa [Option.isSome_iff_ne_none] using hended

/-- The open interval is the last one. -/
lemma filter_open {init : List StatusInterval} {last : StatusInterval}
    (h : LastOpen (init ++ [last])) :
    ((init ++ [last]).filter fun interval => interval.endedAt.isNone) = [last] := by
  obtain ⟨hended, hlast⟩ := lastOpen_concat.1 h
  have hnone : (init.filter fun interval => interval.endedAt.isNone) = [] := by
    rw [List.filter_eq_nil_iff]
    exact fun interval hmem => not_isNone_of_ended (hended interval hmem)
  simp [List.filter_append, hnone, hlast]

namespace StatusRows

variable {rows : StatusRows}

/-- What closing does where the open interval comes last. -/
lemma closeOpenInterval_concat {init : List StatusInterval} {last : StatusInterval}
    (hrows : rows.intervals = init ++ [last]) (h : LastOpen (init ++ [last])) (endedAt : Int)
    (eventId : Option Nat) : rows.closeOpenInterval endedAt eventId =
      (some (closeInterval endedAt eventId last),
        { rows with intervals := init ++ [closeInterval endedAt eventId last] }) := by
  obtain ⟨hended, hlast⟩ := lastOpen_concat.1 h
  have hfind : (init.find? fun interval => interval.endedAt.isNone) = none := by
    rw [List.find?_eq_none]
    exact fun interval hmem => not_isNone_of_ended (hended interval hmem)
  have hmap : (init.map fun interval => if interval.endedAt.isNone then
      closeInterval endedAt eventId interval else interval) = init := by
    conv_rhs => rw [← List.map_id init]
    refine List.map_congr_left fun interval hmem => ?_
    rw [if_neg (not_isNone_of_ended (hended interval hmem))]
    rfl
  simp only [closeOpenInterval, hrows, List.find?_append, hfind, Option.none_or, List.map_append,
    hmap]
  simp [hlast]

lemma closeOpenInterval_nil (hrows : rows.intervals = []) (endedAt : Int)
    (eventId : Option Nat) : rows.closeOpenInterval endedAt eventId = (none, rows) := by
  obtain ⟨condition, events, intervals⟩ := rows
  subst hrows
  rfl

end StatusRows

/-- A new interval follows one that is closed. -/
lemma lastOpen_move {init : List StatusInterval} {last next : StatusInterval}
    (h : LastOpen (init ++ [last])) (endedAt : Int) (eventId : Option Nat)
    (hopen : next.endedAt = none) :
    LastOpen (init ++ [StatusRows.closeInterval endedAt eventId last] ++ [next]) := by
  obtain ⟨hended, -⟩ := lastOpen_concat.1 h
  refine lastOpen_concat.2 ⟨fun interval hmem => ?_, hopen⟩
  obtain hmem | hmem := List.mem_append.1 hmem
  · exact hended interval hmem
  · obtain rfl := List.mem_singleton.1 hmem
    rfl

/-- The end of the list of intervals is replaced. -/
lemma isChain_replace_last {init : List StatusInterval} {last last' : StatusInterval}
    (h : (init ++ [last]).IsChain StatusInterval.Adjoins)
    (hstart : last'.startedAt = last.startedAt) :
    (init ++ [last']).IsChain StatusInterval.Adjoins := by
  rw [List.isChain_append] at h ⊢
  refine ⟨h.1, .singleton _, fun first hfirst next hnext => ?_⟩
  simp only [List.head?_cons, Option.mem_def, Option.some.injEq] at hnext
  have hadjoins := h.2.2 first hfirst last rfl
  rw [← hnext, StatusInterval.Adjoins, hstart]
  exact hadjoins

/-- A new interval adjoins the one that is closed if it starts where that one ends. -/
lemma isChain_move {init : List StatusInterval} {last next : StatusInterval} (endedAt : Int)
    (eventId : Option Nat) (h : (init ++ [last]).IsChain StatusInterval.Adjoins) :
    (init ++ [StatusRows.closeInterval endedAt eventId last] ++ [next]).IsChain
      StatusInterval.Adjoins ↔ next.startedAt = max endedAt last.startedAt := by
  have hchain : (init ++ [StatusRows.closeInterval endedAt eventId last]).IsChain
      StatusInterval.Adjoins := isChain_replace_last h rfl
  rw [List.isChain_append]
  constructor
  · rintro ⟨-, -, hadjoins⟩
    have hlast := (hadjoins _ List.getLast?_concat next rfl).1
    exact (Option.some.inj hlast).symm
  · intro hstart
    refine ⟨hchain, .singleton _, fun first hfirst next' hnext => ?_⟩
    rw [List.getLast?_concat, Option.mem_def, Option.some.injEq] at hfirst
    simp only [List.head?_cons, Option.mem_def, Option.some.injEq] at hnext
    rw [← hfirst, ← hnext, StatusInterval.Adjoins, hstart]
    exact ⟨rfl, Int.le_max_right _ _⟩

/-- The interval ends no later than the next one starts, and not before it started itself. -/
def StatusInterval.Precedes (first later : StatusInterval) : Prop :=
  ∃ endedAt, first.endedAt = some endedAt ∧ first.startedAt ≤ endedAt ∧ endedAt ≤ later.startedAt

instance : Trans StatusInterval.Precedes StatusInterval.Precedes StatusInterval.Precedes where
  trans := by
    rintro first second third ⟨endedAt, hended, hstart, hle⟩ ⟨endedAt', -, hstart', hle'⟩
    exact ⟨endedAt, hended, hstart, by omega⟩

/-- Intervals tile if and only if each adjoins the next. -/
lemma intervalsTile_iff {rows : StatusRows} (hopen : LastOpen rows.intervals)
    (hsome : rows.condition.isSome → rows.intervals ≠ []) :
    rows.IntervalsTile ↔ rows.intervals.IsChain StatusInterval.Adjoins := by
  constructor
  · intro h
    have hpairs := h.adjoining
    refine hpairs.imp_of_mem_imp fun first next hmem _ hadjoins => ⟨hadjoins, ?_⟩
    exact h.ordered first hmem _ hadjoins
  · intro hchain
    have hprecedes : rows.intervals.Pairwise StatusInterval.Precedes :=
      (hchain.imp fun first next hadjoins =>
        ⟨next.startedAt, hadjoins.1, hadjoins.2, Int.le_refl _⟩).pairwise
    refine ⟨hprecedes.imp ?_, ?_, hchain.imp fun _ _ hadjoins => hadjoins.1, fun hcondition => ?_⟩
    · rintro first later ⟨endedAt, hended, -, hle⟩
      exact ⟨endedAt, hended, hle⟩
    · intro interval hmem endedAt hended
      obtain ⟨init, last, hrows⟩ := exists_concat (List.ne_nil_of_mem hmem)
      rw [hrows] at hmem hprecedes hopen
      obtain hmem | hmem := List.mem_append.1 hmem
      · obtain ⟨endedAt', hended', hstart, -⟩ :=
          (List.pairwise_append.1 hprecedes).2.2 interval hmem last (List.mem_singleton_self last)
        rw [hended, Option.some.injEq] at hended'
        exact hended' ▸ hstart
      · obtain rfl := List.mem_singleton.1 hmem
        rw [(lastOpen_concat.1 hopen).2] at hended
        cases hended
    · obtain ⟨init, last, hrows⟩ := exists_concat (hsome hcondition)
      rw [hrows] at hopen ⊢
      rw [filter_open hopen]
      rfl

/-! ## What a hand-over does to the intervals -/

namespace RecorderState

variable {s t : RecorderState} {answers : QueueAnswers} {name : Text} {now : Int}

lemma recordAnnounced_rows {insert : StatusEventInsert} {under : Option Nat}
    {event : Option StatusEventRow} (h : s.recordAnnounced answers insert under = .ok (event, t)) :
    t.rows.intervals = s.rows.intervals ∧ t.rows.condition = s.rows.condition := by
  obtain ⟨-, rfl⟩ | ⟨row, fact, -, -, rfl⟩ := recordAnnounced_ok h <;> exact ⟨rfl, rfl⟩

lemma recordChangeEvent_intervals {change : ConnectionChange} {under : Option Nat}
    {event : Option StatusEventRow}
    (h : s.recordChangeEvent answers name now change under = .ok (event, t)) :
    t.rows.intervals = s.rows.intervals := by
  simp only [recordChangeEvent] at h
  split at h
  · rw [← (Prod.mk.inj (Except.ok.inj h)).2]
  · exact (recordAnnounced_rows h).1

lemma scheduleCheck_rows {decision : IncidentDecision}
    (h : s.scheduleCheck answers name now decision = .ok t) : t.rows = s.rows := by
  obtain rfl | ⟨job, rfl⟩ := scheduleCheck_ok h <;> rfl

lemma recordFlapping_intervals {opening : Bool} {change : ConnectionChange}
    {incidentId : Option Nat}
    (h : s.recordFlapping answers name now opening change incidentId = .ok t) :
    t.rows.intervals = s.rows.intervals := by
  obtain rfl | ⟨rows, insert, event, hclaim, -, -, hrecord⟩ := recordFlapping_ok h
  · rfl
  · exact (recordAnnounced_rows hrecord).1.trans (claimFlapping_rows hclaim).2

/-- A change as it moves the intervals: the open one is closed, and the next starts where it ends,
or at the time of the change when nothing was open. -/
structure Moved (s t : RecorderState) (state : ConnectionState) : Prop where
  fromNone : s.rows.intervals = [] → ∃ next, t.rows.intervals = [next] ∧ next.endedAt = none ∧
    next.state = state
  fromLast : ∀ init last, s.rows.intervals = init ++ [last] → LastOpen (init ++ [last]) →
    ∃ endedAt eventId next, t.rows.intervals =
        init ++ [StatusRows.closeInterval endedAt eventId last] ++ [next] ∧
      next.startedAt = max endedAt last.startedAt ∧ next.endedAt = none ∧ next.state = state

lemma moveInterval_moved (s : RecorderState) (change : ConnectionChange) (eventId : Option Nat) :
    Moved s (s.moveInterval change eventId) change.state where
  fromNone hnone := by
    refine ⟨{
      state := change.state
      startedAt := change.time
      endedAt := none
      startEventId := eventId
      endEventId := none }, ?_, rfl, rfl⟩
    simp only [moveInterval, StatusRows.closeOpenInterval_nil hnone, Option.bind_none,
      StatusRows.openInterval, hnone, List.nil_append]
  fromLast init last hrows hopen := by
    refine ⟨change.time, eventId, {
      state := change.state
      startedAt := max change.time last.startedAt
      endedAt := none
      startEventId := eventId
      endEventId := none }, ?_, rfl, rfl, rfl⟩
    have hstart : (if change.time < max change.time last.startedAt then
        max change.time last.startedAt else change.time) = max change.time last.startedAt := by
      omega
    simp only [moveInterval, StatusRows.closeOpenInterval_concat hrows hopen, Option.bind_some,
      StatusRows.openInterval, StatusRows.closeInterval, hstart]

/-- One change moves the intervals, and the condition takes its state. -/
lemma recordChange_moved {opening : Bool} {incidentId incidentId' : Option Nat}
    {change : ConnectionChange}
    (h : s.recordChange answers name now opening incidentId change = .ok (incidentId', t)) :
    Moved s t change.state ∧ t.rows.condition.map StatusCondition.state = some change.state := by
  simp only [recordChange] at h
  obtain ⟨⟨event, s₂⟩, hevent, h⟩ := Except.bind_eq_ok.mp h
  obtain ⟨s₃, hcheck, h⟩ := Except.bind_eq_ok.mp h
  obtain ⟨s₄, hflap, h⟩ := Except.bind_eq_ok.mp h
  obtain ⟨-, rfl⟩ := Prod.mk.inj (Except.ok.inj h)
  have hkept : s₄.rows.intervals = s.rows.intervals := by
    rw [recordFlapping_intervals hflap, scheduleCheck_rows hcheck,
      recordChangeEvent_intervals hevent]
    split <;> rfl
  have hmoved := s₄.moveInterval_moved change (event.map StatusEventRow.id)
  exact ⟨⟨fun hnone => hmoved.fromNone (hkept.trans hnone),
    fun init last hrows => hmoved.fromLast init last (hkept.trans hrows)⟩, rfl⟩

/-! ## What a check does to the intervals -/

/-- A check claims if the bot is interrupted under its incident and the grace period is over. -/
lemma wouldClaim_iff (s : RecorderState) (now : Int) (incidentId : Nat) :
    s.wouldClaim now incidentId = true ↔ ∃ condition since, s.rows.condition = some condition ∧
      condition.activeIncidentId = some incidentId ∧ condition.state = .interrupted ∧
      condition.failureStartedAt = some since ∧ ¬ now - since < instanceInterruptedToDownMs := by
  simp only [wouldClaim, Option.any_eq_true, Bool.and_eq_true, beq_iff_eq, Bool.not_eq_true',
    decide_eq_false_iff_not]
  constructor
  · rintro ⟨condition, hcondition, ⟨hincident, hstate⟩, since, hsince, hgrace⟩
    exact ⟨condition, since, hcondition, hincident, hstate, hsince, hgrace⟩
  · rintro ⟨condition, since, hcondition, hincident, hstate, hsince, hgrace⟩
    exact ⟨condition, hcondition, ⟨hincident, hstate⟩, since, hsince, hgrace⟩

/-- A check that claims nothing answers `false` at once. -/
lemma escalateInstance_idle (answers : QueueAnswers) (name : Text) {incidentId : Nat}
    (hidle : s.wouldClaim now incidentId = false) :
    s.escalateInstance answers name now incidentId = .ok (false, s) := by
  have hnot : ¬ s.wouldClaim now incidentId = true := by simp [hidle]
  rw [wouldClaim_iff] at hnot
  cases hcondition : s.rows.condition with
  | none => simp [escalateInstance, hcondition]
  | some condition =>
    by_cases hincident : condition.activeIncidentId = some incidentId
    · simp only [escalateInstance, hcondition, hincident, ne_eq, not_true_eq_false, if_false]
      split
      · rfl
      · next change hchange =>
        refine absurd ?_ hnot
        unfold escalateIfStillDown at hchange
        split at hchange
        · next since hstate hsince =>
          split at hchange
          · cases hchange
          · next hgrace =>
            exact ⟨condition, since, hcondition, hincident, hstate, hsince, hgrace⟩
        · cases hchange
    · simp [escalateInstance, hcondition, hincident]

/-- The event that an escalation inserts. -/
def escalationInsert (name : Text) (now : Int) (incidentId : Nat) : StatusEventInsert where
  subjectLabel := name
  kind := .instanceDisconnected
  occurredAt := now
  observedAt := now
  lastCorroboratedAt := now
  incidentId := some incidentId
  sourceKey := .escalate incidentId

/-- What follows the recording of an escalation. -/
def concludeEscalation (now : Int) :
    Option StatusEventRow × RecorderState → Except Text (Bool × RecorderState)
  | (none, t) => .ok (false, t)
  | (some row, t) => .ok (true, { t with
      rows := (t.rows.closeOpenInterval now (some row.id)).2.openInterval .down now (some row.id) })

/-- What a check that claims comes to. -/
lemma escalateInstance_claims (answers : QueueAnswers) (name : Text) {incidentId : Nat}
    (hclaims : s.wouldClaim now incidentId = true) : ∃ condition rows,
      s.rows.condition = some condition ∧ condition.state = .interrupted ∧
      rows.intervals = s.rows.intervals ∧ rows.events = s.rows.events ∧
      rows.condition.map StatusCondition.state = some .down ∧
      rows.condition.bind StatusCondition.activeIncidentId = condition.activeIncidentId ∧
      s.escalateInstance answers name now incidentId =
        ({ s with rows := rows }.recordAnnounced answers (escalationInsert name now incidentId)
          (some incidentId)).bind (concludeEscalation now) := by
  obtain ⟨condition, since, hcondition, hincident, hstate, hsince, hgrace⟩ :=
    (s.wouldClaim_iff now incidentId).1 hclaims
  refine ⟨condition, { s.rows with condition := some { condition with
    state := .down, lastObservedAt := now, startedAt := now } }, hcondition, hstate, rfl, rfl, rfl,
    rfl, ?_⟩
  simp only [escalateInstance, hcondition, hincident, hstate, hsince, ne_eq, not_true_eq_false,
    if_false, escalateIfStillDown_interrupted, hgrace, StatusRows.claimEscalation, and_self,
    if_true]
  cases hrecord : RecorderState.recordAnnounced _ answers (escalationInsert name now incidentId)
      (some incidentId) with
  | error message =>
    rw [escalationInsert] at hrecord
    rw [hrecord]
    rfl
  | ok result =>
    obtain ⟨event, t⟩ := result
    rw [escalationInsert] at hrecord
    rw [hrecord]
    cases event <;> rfl

lemma escalated_iff (s : RecorderState) (incidentId : Nat) :
    s.escalated incidentId = true ↔ s.Escalation incidentId := by
  simp [escalated, Escalation]

/-- A claim under an incident whose escalation is recorded stays, and the answer is `false`. -/
lemma escalateInstance_again (answers : QueueAnswers) (name : Text) {incidentId : Nat}
    (hclaims : s.wouldClaim now incidentId = true) (hrecorded : s.escalated incidentId = true) :
    ∃ condition t, s.rows.condition = some condition ∧ condition.state = .interrupted ∧
      s.escalateInstance answers name now incidentId = .ok (false, t) ∧
      t.rows.intervals = s.rows.intervals ∧
      t.rows.condition.map StatusCondition.state = some .down := by
  obtain ⟨condition, rows, hcondition, hstate, hintervals, hevents, hdown, -, heq⟩ :=
    escalateInstance_claims answers name hclaims
  refine ⟨condition, { s with rows := rows }, hcondition, hstate, ?_, hintervals, hdown⟩
  have htaken : (rows.events.any fun row =>
      row.sourceKey == (escalationInsert name now incidentId).sourceKey) = true := by
    rw [hevents]
    exact hrecorded
  rw [heq, recordAnnounced, StatusRows.recordEvent, if_pos htaken]
  rfl

/-- A claim under an incident that was not escalated opens an interval at the manager's time, unless
a delivery is refused. -/
lemma escalateInstance_fresh (answers : QueueAnswers) (name : Text) {incidentId : Nat}
    (hclaims : s.wouldClaim now incidentId = true) (hrecorded : s.escalated incidentId = false) :
    if answers.refusedDelivery.isNone then
      ∃ t next, s.escalateInstance answers name now incidentId = .ok (true, t) ∧
        t.rows.condition.map StatusCondition.state = some .down ∧
        next.startedAt = now ∧ next.endedAt = none ∧ next.state = .down ∧
        (s.rows.intervals = [] → t.rows.intervals = [next]) ∧
        ∀ init last, s.rows.intervals = init ++ [last] → LastOpen (init ++ [last]) →
          ∃ eventId, t.rows.intervals =
            init ++ [StatusRows.closeInterval now eventId last] ++ [next]
    else ∃ message, s.escalateInstance answers name now incidentId = .error message := by
  obtain ⟨condition, rows, hcondition, hstate, hintervals, hevents, hdown, -, heq⟩ :=
    escalateInstance_claims answers name hclaims
  have hfree : ¬ ∃ row ∈ rows.events, row.sourceKey = .escalate incidentId := by
    rw [hevents]
    intro hrow
    rw [(s.escalated_iff incidentId).2 hrow] at hrecorded
    cases hrecorded
  have hnew : ¬ ∃ row ∈ rows.events,
      row.sourceKey = (escalationInsert name now incidentId).sourceKey := hfree
  obtain ⟨row, hrecord, -⟩ := StatusRows.recordEvent_fresh hnew
  cases hrefused : answers.refusedDelivery with
  | some destination =>
    simp only [Option.isNone_some, Bool.false_eq_true, if_false]
    rw [heq]
    simp only [recordAnnounced, hrecord, announce, hrefused]
    exact ⟨_, rfl⟩
  | none =>
    simp only [Option.isNone_none, if_true]
    have hescalates : s.escalateInstance answers name now incidentId = .ok (true, { s with
        rows := (StatusRows.closeOpenInterval { rows with events := rows.events ++ [row] } now
          (some row.id)).2.openInterval .down now (some row.id)
        announced := s.announced ++ [⟨row.id, row.kind, name, some incidentId⟩] }) := by
      rw [heq]
      simp only [recordAnnounced, hrecord, announce, hrefused]
      rfl
    refine ⟨_, {
      state := .down
      startedAt := now
      endedAt := none
      startEventId := some row.id
      endEventId := none }, hescalates, hdown, rfl, rfl, rfl, ?_, ?_⟩
    · intro hnone
      have hrows : rows.intervals = [] := hintervals.trans hnone
      simp [StatusRows.openInterval, StatusRows.closeOpenInterval, hrows]
    · intro init last hlast hopen
      have hrows : rows.intervals = init ++ [last] := hintervals.trans hlast
      refine ⟨some row.id, ?_⟩
      have hrows' : StatusRows.intervals { rows with events := rows.events ++ [row] } =
          init ++ [last] := hrows
      have hclose := StatusRows.closeOpenInterval_concat hrows' hopen now (some row.id)
      simp only [hclose, StatusRows.openInterval]

/-! ## Runs -/

/-- What holds of every history: the open interval comes last, and there is one once a condition is
recorded. -/
structure Kept (s : RecorderState) : Prop where
  lastOpen : LastOpen s.rows.intervals
  recorded : s.rows.condition.isSome ↔ s.rows.intervals ≠ []

lemma isSome_of_map {state : ConnectionState}
    (h : s.rows.condition.map StatusCondition.state = some state) : s.rows.condition.isSome := by
  obtain ⟨condition, hcondition, -⟩ := Option.map_eq_some_iff.1 h
  simp [hcondition]

/-- A move keeps the shape, the adjoining intervals, and has the open interval in its state. -/
lemma Kept.moved {state : ConnectionState} (h : Kept s) (hmoved : Moved s t state)
    (hstate : t.rows.condition.map StatusCondition.state = some state) :
    Kept t ∧ t.rows.ConditionMatches ∧ (s.rows.intervals.IsChain StatusInterval.Adjoins →
      t.rows.intervals.IsChain StatusInterval.Adjoins) := by
  have hsome := isSome_of_map hstate
  by_cases hnone : s.rows.intervals = []
  · obtain ⟨next, hrows, hopen, heq⟩ := hmoved.fromNone hnone
    have hlast : LastOpen ([] ++ [next]) := lastOpen_concat.2 ⟨nofun, hopen⟩
    refine ⟨⟨hrows ▸ hlast, by simp [hsome, hrows]⟩, ?_, fun _ => hrows ▸ .singleton next⟩
    simp [StatusRows.ConditionMatches, hrows, hopen, hstate, heq]
  · obtain ⟨init, last, hrows⟩ := exists_concat hnone
    have hopen := h.lastOpen
    rw [hrows] at hopen
    obtain ⟨endedAt, eventId, next, hrows', hstart, hnext, heq⟩ :=
      hmoved.fromLast init last hrows hopen
    have hlast := lastOpen_move hopen endedAt eventId hnext
    refine ⟨⟨hrows' ▸ hlast, by simp [hsome, hrows']⟩, ?_, fun hchain => ?_⟩
    · rw [StatusRows.ConditionMatches, hrows', filter_open hlast, hstate, ← heq]
      rfl
    · rw [hrows']
      exact (isChain_move endedAt eventId (hrows ▸ hchain)).2 hstart

/-- **A hand-over** keeps the shape and the adjoining intervals, and the condition matches after it
if it did before. -/
lemma Kept.recordChanges {opening : Bool} {incidentId : Option Nat}
    {changes : List ConnectionChange} (h : Kept s)
    (ht : s.recordChanges answers name now opening incidentId changes = .ok t) :
    Kept t ∧ (s.rows.ConditionMatches → t.rows.ConditionMatches) ∧
      (s.rows.intervals.IsChain StatusInterval.Adjoins →
        t.rows.intervals.IsChain StatusInterval.Adjoins) := by
  induction changes generalizing s incidentId with
  | nil =>
    obtain rfl := Except.ok.inj ht
    exact ⟨h, id, id⟩
  | cons change changes ih =>
    obtain ⟨⟨incidentId', u⟩, hchange, hrest⟩ := Except.bind_eq_ok.mp ht
    obtain ⟨hmoved, hstate⟩ := recordChange_moved hchange
    obtain ⟨hu, hmatches, hchain⟩ := h.moved hmoved hstate
    obtain ⟨ht, hmatches', hchain'⟩ := ih hu hrest
    exact ⟨ht, fun _ => hmatches' hmatches, fun hs => hchain' (hchain hs)⟩

/-- A recorded condition has its open interval. -/
lemma Kept.exists_last (h : Kept s) {condition : StatusCondition}
    (hcondition : s.rows.condition = some condition) :
    ∃ init last, s.rows.intervals = init ++ [last] ∧ LastOpen (init ++ [last]) := by
  have hne := h.recorded.1 (by simp [hcondition])
  obtain ⟨init, last, hrows⟩ := exists_concat hne
  exact ⟨init, last, hrows, hrows ▸ h.lastOpen⟩

/-- Under a claim nothing but the open interval may start after the manager's time. -/
lemma all_ordered_iff {init : List StatusInterval} {last : StatusInterval}
    (hopen : LastOpen (init ++ [last])) (now : Int) :
    ((init ++ [last]).all fun interval => interval.endedAt.isSome || interval.startedAt ≤ now) =
      true ↔ last.startedAt ≤ now := by
  obtain ⟨hended, hlast⟩ := lastOpen_concat.1 hopen
  have hinit : (init.all fun interval => interval.endedAt.isSome || interval.startedAt ≤ now) =
      true := by
    rw [List.all_eq_true]
    exact fun interval hmem => by simp [hended interval hmem]
  simp [List.all_append, hinit, hlast]

/-- **A check** keeps the shape, keeps the intervals adjoining if it is made in order, and keeps the
condition matched and refuses quietly if it claims nothing twice. -/
lemma Kept.escalates {answers : QueueAnswers} {name : Text} {incidentId : Nat} (h : Kept s)
    (ht : s.commits ((s.escalateInstance answers name now incidentId).map Prod.snd) = t) :
    Kept t ∧
      (s.rows.intervals.IsChain StatusInterval.Adjoins →
        (t.rows.intervals.IsChain StatusInterval.Adjoins ↔
          escalatesInOrder s (.escalates answers name now incidentId) = true)) ∧
      (s.rows.ConditionMatches →
        (t.rows.ConditionMatches ∧ RefusesQuietly s (.escalates answers name now incidentId) ↔
          escalatesOnce s (.escalates answers name now incidentId) = true)) := by
  simp only [escalatesInOrder, escalatesOnce, RefusesQuietly]
  cases hclaims : s.wouldClaim now incidentId with
  | false =>
    have hidle := escalateInstance_idle answers name hclaims
    rw [hidle] at ht ⊢
    obtain rfl : s = t := ht
    refine ⟨h, fun hchain => by simpa using hchain, fun hmatches => ?_⟩
    simp [hmatches]
  | true =>
    cases hrecorded : s.escalated incidentId with
    | true =>
      obtain ⟨condition, u, hcondition, hstate, hagain, hintervals, hdown⟩ :=
        escalateInstance_again answers name hclaims hrecorded
      rw [hagain] at ht ⊢
      obtain rfl : u = t := ht
      obtain ⟨init, last, hrows, hopen⟩ := h.exists_last hcondition
      refine ⟨⟨hintervals ▸ h.lastOpen, ?_⟩, fun hchain => by simpa [hintervals] using hchain,
        fun hmatches => ?_⟩
      · have hsome := isSome_of_map hdown
        simp [hsome, hintervals, hrows]
      · -- The interval is still interrupted, and the condition is down.
        refine ⟨fun hboth => ?_, nofun⟩
        have hlast : last.state = .interrupted := by
          rw [StatusRows.ConditionMatches, hrows, filter_open hopen, hcondition] at hmatches
          simpa [hstate] using hmatches
        have hmatches' := hboth.1
        rw [StatusRows.ConditionMatches, hintervals, hrows, filter_open hopen, hdown] at hmatches'
        simp [hlast] at hmatches'
    | false =>
      have hfresh := escalateInstance_fresh answers name hclaims hrecorded
      cases hrefused : answers.refusedDelivery with
      | some destination =>
        rw [hrefused, Option.isNone_some, if_neg Bool.false_ne_true] at hfresh
        obtain ⟨message, herror⟩ := hfresh
        rw [herror] at ht ⊢
        obtain rfl : s = t := ht
        refine ⟨h, fun hchain => by simpa using hchain, fun hmatches => ?_⟩
        simp [hmatches]
      | none =>
        rw [hrefused, Option.isNone_none, if_pos rfl] at hfresh
        obtain ⟨u, next, hescalates, hdown, hstart, hnext, heq, -, hmoves⟩ := hfresh
        rw [hescalates] at ht ⊢
        obtain rfl : u = t := ht
        obtain ⟨condition, since, hcondition, -⟩ := (s.wouldClaim_iff now incidentId).1 hclaims
        obtain ⟨init, last, hrows, hopen⟩ := h.exists_last hcondition
        obtain ⟨eventId, hrows'⟩ := hmoves init last hrows hopen
        have hlast := lastOpen_move hopen now eventId hnext
        refine ⟨⟨hrows' ▸ hlast, ?_⟩, fun hchain => ?_, fun _ => ?_⟩
        · have hsome := isSome_of_map hdown
          simp [hsome, hrows']
        · rw [hrows', isChain_move now eventId (hrows ▸ hchain), hstart, hrows]
          simp only [Bool.not_false, Bool.and_self, Option.isNone_none, Bool.not_true,
            Bool.false_or]
          rw [all_ordered_iff hopen]
          omega
        · have hmatches : u.rows.ConditionMatches := by
            rw [StatusRows.ConditionMatches, hrows', filter_open hlast, hdown]
            simp [heq]
          simp [hmatches]

/-- **One transaction.** -/
lemma Kept.step {e : HistoryEvent} (h : Kept s) (hstep : statusHistory.step s e = some t) :
    Kept t ∧
      (s.rows.intervals.IsChain StatusInterval.Adjoins →
        (t.rows.intervals.IsChain StatusInterval.Adjoins ↔ escalatesInOrder s e = true)) ∧
      (s.rows.ConditionMatches →
        (t.rows.ConditionMatches ∧ RefusesQuietly s e ↔ escalatesOnce s e = true)) := by
  cases e with
  | records answers name now changes =>
    have ht : s.commits (s.recordInstanceConnection answers name now changes) = t :=
      Option.some.inj hstep
    cases hrecord : s.recordInstanceConnection answers name now changes with
    | error message =>
      rw [hrecord] at ht
      obtain rfl : s = t := ht
      exact ⟨h, fun hchain => iff_of_true hchain rfl,
        fun hmatches => iff_of_true ⟨hmatches, trivial⟩ rfl⟩
    | ok u =>
      rw [hrecord] at ht
      obtain rfl : u = t := ht
      obtain ⟨hu, hmatches, hchain⟩ := h.recordChanges hrecord
      exact ⟨hu, fun hs => iff_of_true (hchain hs) rfl,
        fun hs => iff_of_true ⟨hmatches hs, trivial⟩ rfl⟩
  | escalates answers name now incidentId => exact h.escalates (Option.some.inj hstep)

lemma kept_unrecorded : Kept unrecorded where
  lastOpen := lastOpen_nil
  recorded := by simp [unrecorded]

lemma kept_of_run {G : RecorderState → HistoryEvent → Prop} (h : statusHistory.Reachable G s) :
    Kept s := by
  refine h.invariant (fun s hs => ?_) fun t e u ht _ hstep => (ht.step hstep).1
  obtain rfl : s = unrecorded := hs
  exact kept_unrecorded

end RecorderState

open RecorderState

/-- **Intervals tile.**  In every run in which no escalation is made before the interval that it
ends has started, the intervals of a bot cover time without gap or overlap, in order, and one is
open once anything is recorded.  A next transaction keeps that if and only if it meets the
condition. -/
theorem intervals_tile {s : RecorderState}
    (h : statusHistory.Reachable (meets escalatesInOrder) s) :
    s.rows.IntervalsTile ∧ ∀ e t, statusHistory.step s e = some t →
      (t.rows.IntervalsTile ↔ escalatesInOrder s e = true) := by
  have hchain : s.rows.intervals.IsChain StatusInterval.Adjoins := by
    refine (h.invariant (I := fun s => Kept s ∧ s.rows.intervals.IsChain StatusInterval.Adjoins)
      (fun s hs => ?_) fun t e u ht hguard hstep => ?_).2
    · obtain rfl : s = unrecorded := hs
      exact ⟨kept_unrecorded, .nil⟩
    · obtain ⟨hu, hiff, -⟩ := ht.1.step hstep
      exact ⟨hu, (hiff ht.2).2 hguard⟩
  have hs : Kept s := kept_of_run h
  refine ⟨(intervalsTile_iff hs.lastOpen hs.recorded.1).2 hchain, fun e t hstep => ?_⟩
  obtain ⟨ht, hiff, -⟩ := hs.step hstep
  rw [intervalsTile_iff ht.lastOpen ht.recorded.1]
  exact hiff hchain

/-- A bot that joins, drops and is escalated, by a host whose clock agrees with the manager's. -/
theorem intervals_tile_sameClock :
    ∃ s, statusHistory.exec unrecorded [
        .records .taken [] 0 [⟨.joined, 0, none, some .instanceJoined, none⟩],
        .records .taken [] 5000 [⟨.interrupted, 5000, none, some .instanceConnectionLost, none⟩],
        .escalates .taken [] 130000 0] = some s ∧ s.rows.IntervalsTile := by
  obtain ⟨s, hexec, hrun⟩ : ∃ s, statusHistory.exec unrecorded [
        .records .taken [] 0 [⟨.joined, 0, none, some .instanceJoined, none⟩],
        .records .taken [] 5000 [⟨.interrupted, 5000, none, some .instanceConnectionLost, none⟩],
        .escalates .taken [] 130000 0] = some s ∧
      statusHistory.execUnder escalatesInOrder unrecorded [
        .records .taken [] 0 [⟨.joined, 0, none, some .instanceJoined, none⟩],
        .records .taken [] 5000 [⟨.interrupted, 5000, none, some .instanceConnectionLost, none⟩],
        .escalates .taken [] 130000 0] = some s := ⟨_, rfl, rfl⟩
  exact ⟨s, hexec, (intervals_tile (.of_execUnder rfl hrun)).1⟩

/-- The host's clock is ten minutes ahead when the bot joins and is right when it drops.  The
escalation opens its interval before the interrupted one has started. -/
theorem escalation_overlaps :
    ¬∀ s, statusHistory.Reachable free s → s.rows.IntervalsTile := by
  intro hclaim
  obtain ⟨s, first, second, third, hrun, hrows, hended, hstart⟩ : ∃ s first second third,
      statusHistory.exec unrecorded [
        .records .taken [] 0 [⟨.joined, 600000, none, some .instanceJoined, none⟩],
        .records .taken [] 5000 [⟨.interrupted, 5000, none, some .instanceConnectionLost, none⟩],
        .escalates .taken [] 130000 0] = some s ∧
      s.rows.intervals = [first, second, third] ∧ second.endedAt = some 600000 ∧
      third.startedAt = 130000 := ⟨_, _, _, _, rfl, rfl, rfl, rfl⟩
  have hadjoins := (hclaim s (.of_exec rfl hrun)).adjoining
  rw [hrows, List.isChain_cons_cons, List.isChain_cons_cons, hended, hstart] at hadjoins
  simp at hadjoins

/-- **Conditions match intervals.**  In every run in which no escalation is claimed under an
incident whose escalation is recorded, the condition tells the state of the one open interval, and
an `escalateInstance` that answers `false` has changed nothing.  A next transaction keeps that if
and only if it meets the condition. -/
theorem condition_matches {s : RecorderState}
    (h : statusHistory.Reachable (meets escalatesOnce) s) :
    s.rows.ConditionMatches ∧ ∀ e t, statusHistory.step s e = some t →
      (t.rows.ConditionMatches ∧ RefusesQuietly s e ↔ escalatesOnce s e = true) := by
  have hmatches : s.rows.ConditionMatches := by
    refine (h.invariant (I := fun s => Kept s ∧ s.rows.ConditionMatches)
      (fun s hs => ?_) fun t e u ht hguard hstep => ?_).2
    · obtain rfl : s = unrecorded := hs
      exact ⟨kept_unrecorded, rfl⟩
    · obtain ⟨hu, -, hiff⟩ := ht.1.step hstep
      exact ⟨hu, ((hiff ht.2).2 hguard).1⟩
  have hs : Kept s := kept_of_run h
  exact ⟨hmatches, fun e t hstep => (hs.step hstep).2.2 hmatches⟩

/-- The check of an incident runs twice in a row. -/
theorem condition_matches_checkedTwice :
    ∃ s, statusHistory.exec unrecorded [
        .records .taken [] 1000 [⟨.interrupted, 1000, none, some .instanceConnectionLost, none⟩],
        .escalates .taken [] 121000 0] = some s ∧
      s.rows.ConditionMatches ∧ RefusesQuietly s (.escalates .taken [] 122000 0) := by
  obtain ⟨s, t, hexec, hrun, hstep, hguard⟩ : ∃ s t, statusHistory.exec unrecorded [
        .records .taken [] 1000 [⟨.interrupted, 1000, none, some .instanceConnectionLost, none⟩],
        .escalates .taken [] 121000 0] = some s ∧
      statusHistory.execUnder escalatesOnce unrecorded [
        .records .taken [] 1000 [⟨.interrupted, 1000, none, some .instanceConnectionLost, none⟩],
        .escalates .taken [] 121000 0] = some s ∧
      statusHistory.step s (.escalates .taken [] 122000 0) = some t ∧
      escalatesOnce s (.escalates .taken [] 122000 0) = true := ⟨_, _, rfl, rfl, rfl, rfl⟩
  obtain ⟨hmatches, hnext⟩ := condition_matches (.of_execUnder rfl hrun)
  exact ⟨s, hexec, hmatches, ((hnext _ t hstep).2 hguard).2⟩

/-- The cursor is refused after the escalation, and the seeding read finds the disconnection again:
the bot is interrupted under the incident that is still active.  Its check runs once more, claims
the condition, and answers `false`. -/
theorem escalation_claimed_twice :
    ¬∀ s, statusHistory.Reachable free s →
      s.rows.ConditionMatches ∧ ∀ e, RefusesQuietly s e := by
  intro hclaim
  obtain ⟨s, t, hrun, hagain, hstate, hstate'⟩ : ∃ s t, statusHistory.exec unrecorded [
        .records .taken [] 1000 [⟨.interrupted, 1000, none, some .instanceConnectionLost, none⟩],
        .escalates .taken [] 121000 0,
        .records .taken [] 130000
          [⟨.interrupted, 1000, none, some .instanceConnectionLost, none⟩]] =
        some s ∧
      s.escalateInstance .taken [] 140000 0 = .ok (false, t) ∧
      s.rows.condition.map StatusCondition.state = some .interrupted ∧
      t.rows.condition.map StatusCondition.state = some .down := ⟨_, _, rfl, rfl, rfl, rfl⟩
  have hquiet := (hclaim s (.of_exec rfl hrun)).2 (.escalates .taken [] 140000 0) t hagain
  rw [hquiet, hstate] at hstate'
  simp at hstate'

end OpenMcc

import Mathlib.Data.List.Nodup
import OpenMcc.Construction.DestinationHealth
import OpenMcc.Properties.Delivery

/-!
# The outcome shown is that of the latest attempt

An outcome is marked only over one of an earlier time, so after any number of marks the columns
tell of an attempt no other is later than.  No other operation writes these columns, and a
destination's id is never given out again.
-/

namespace OpenMcc

open TransitionSystem

namespace DestinationHealth

variable {health : DestinationHealth} {attempt : SentAttempt} {marked : List SentAttempt}

/-- The columns tell of this attempt, and of nothing as late. -/
def Tells (health : DestinationHealth) (attempt : SentAttempt) : Prop :=
  health.lastFailureReason = attempt.outcome.lastError ∧
    if attempt.outcome = .delivered then
      health.lastSucceededAt = some attempt.settledAt ∧
        health.lastFailedAt.all (· < attempt.settledAt) = true
    else
      health.lastFailedAt = some attempt.settledAt ∧
        health.lastSucceededAt.all (· < attempt.settledAt) = true

/-- The columns tell of an attempt of the list that none of the list is later than. -/
def Latest (health : DestinationHealth) (marked : List SentAttempt) : Prop :=
  (marked = [] ∧ health = unmarked) ∨
    ∃ attempt ∈ marked, (∀ other ∈ marked, other.settledAt ≤ attempt.settledAt) ∧
      health.Tells attempt

lemma lastError_isSome {outcome : DeliveryOutcome} (h : outcome ≠ .delivered) :
    ∃ reason, outcome.lastError = some reason := by
  cases outcome with
  | delivered => exact absurd rfl h
  | retryable reason _ => exact ⟨reason, rfl⟩
  | terminal reason _ => exact ⟨reason, rfl⟩

/-- The time of what is shown. -/
lemma Tells.laterOf (h : health.Tells attempt) :
    NotificationRows.laterOf health.lastSucceededAt health.lastFailedAt =
      some attempt.settledAt := by
  obtain ⟨-, h⟩ := h
  by_cases hdelivered : attempt.outcome = .delivered
  · rw [if_pos hdelivered] at h
    obtain ⟨hsucceeded, hfailed⟩ := h
    rw [hsucceeded]
    cases hlast : health.lastFailedAt with
    | none => rfl
    | some failedAt =>
      rw [hlast, Option.all_some, decide_eq_true_eq] at hfailed
      have hmax : max attempt.settledAt failedAt = attempt.settledAt := by omega
      rw [NotificationRows.laterOf, hmax]
  · rw [if_neg hdelivered] at h
    obtain ⟨hfailed, hsucceeded⟩ := h
    rw [hfailed]
    cases hlast : health.lastSucceededAt with
    | none => rfl
    | some succeededAt =>
      rw [hlast, Option.all_some, decide_eq_true_eq] at hsucceeded
      have hmax : max succeededAt attempt.settledAt = attempt.settledAt := by omega
      rw [NotificationRows.laterOf, hmax]

/-- What is marked over earlier outcomes is told. -/
lemma tells_mark (hearlier : (NotificationRows.laterOf health.lastSucceededAt
    health.lastFailedAt).all (· < attempt.settledAt) = true) :
    (health.mark attempt).Tells attempt := by
  have hboth : health.lastSucceededAt.all (· < attempt.settledAt) = true ∧
      health.lastFailedAt.all (· < attempt.settledAt) = true := by
    cases hs : health.lastSucceededAt with
    | none =>
      rw [hs] at hearlier
      cases hf : health.lastFailedAt with
      | none => exact ⟨rfl, rfl⟩
      | some failedAt =>
        rw [hf] at hearlier
        exact ⟨rfl, hearlier⟩
    | some succeededAt =>
      rw [hs] at hearlier
      cases hf : health.lastFailedAt with
      | none =>
        rw [hf] at hearlier
        exact ⟨hearlier, rfl⟩
      | some failedAt =>
        rw [hf, NotificationRows.laterOf, Option.all_some, decide_eq_true_eq] at hearlier
        simp only [Option.all_some, decide_eq_true_eq]
        omega
  rw [mark, if_pos hearlier]
  by_cases hdelivered : attempt.outcome = .delivered
  · rw [if_pos hdelivered, Tells, if_pos hdelivered, hdelivered]
    exact ⟨rfl, rfl, hboth.2⟩
  · rw [if_neg hdelivered, Tells, if_neg hdelivered]
    exact ⟨rfl, rfl, hboth.1⟩

/-- **One mark.**  After it, the columns tell of the latest attempt again. -/
lemma Latest.mark (h : health.Latest marked) (attempt : SentAttempt) :
    (health.mark attempt).Latest (marked ++ [attempt]) := by
  right
  obtain ⟨rfl, rfl⟩ | ⟨last, hlast, hmax, htells⟩ := h
  · refine ⟨attempt, List.mem_append_right _ (List.mem_singleton_self _), ?_, tells_mark rfl⟩
    intro other hother
    rw [List.nil_append, List.mem_singleton] at hother
    exact Int.le_of_eq (congrArg SentAttempt.settledAt hother)
  · have hlater := htells.laterOf
    by_cases hearlier : last.settledAt < attempt.settledAt
    · refine ⟨attempt, List.mem_append_right _ (List.mem_singleton_self _), ?_, tells_mark ?_⟩
      · intro other hother
        obtain hother | hother := List.mem_append.1 hother
        · have hle := hmax other hother
          omega
        · exact Int.le_of_eq (congrArg SentAttempt.settledAt (List.mem_singleton.1 hother))
      · rw [hlater, Option.all_some]
        exact decide_eq_true hearlier
    · have hkept : health.mark attempt = health := by
        rw [DestinationHealth.mark, if_neg]
        rw [hlater, Option.all_some, decide_eq_true_eq]
        exact hearlier
      rw [hkept]
      refine ⟨last, List.mem_append_left _ hlast, ?_, htells⟩
      intro other hother
      obtain hother | hother := List.mem_append.1 hother
      · exact hmax other hother
      · rw [List.mem_singleton.1 hother]
        omega

lemma Latest.foldl_mark : ∀ (attempts : List SentAttempt), health.Latest marked →
    (attempts.foldl DestinationHealth.mark health).Latest (marked ++ attempts) := by
  intro attempts
  induction attempts generalizing health marked with
  | nil =>
    intro h
    rwa [List.append_nil]
  | cons attempt rest ih =>
    intro h
    have hnext := ih (h.mark attempt)
    rwa [List.append_assoc] at hnext

/-- What a destination shows, and how it is listed, is the attempt its columns tell of. -/
lemma Tells.shown (h : health.Tells attempt) :
    health.shown = some attempt.shown ∧ health.listed = some attempt.shown := by
  obtain ⟨hreason, h⟩ := h
  by_cases hdelivered : attempt.outcome = .delivered
  · rw [if_pos hdelivered] at h
    obtain ⟨hsucceeded, hfailed⟩ := h
    have hnone : health.lastFailureReason = none := by rw [hreason, hdelivered]; rfl
    have hshown : attempt.shown = .succeeded attempt.settledAt := by
      rw [SentAttempt.shown, hdelivered]
    rw [hshown, DestinationHealth.shown, DestinationHealth.listed, hnone, hsucceeded]
    refine ⟨?_, rfl⟩
    cases hlast : health.lastFailedAt with
    | none => rfl
    | some failedAt =>
      rw [hlast, Option.all_some, decide_eq_true_eq] at hfailed
      have hle : failedAt ≤ attempt.settledAt := by omega
      simp only [hle, if_true]
  · rw [if_neg hdelivered] at h
    obtain ⟨hfailed, hsucceeded⟩ := h
    obtain ⟨reason, hsome⟩ := lastError_isSome hdelivered
    have hshown : attempt.shown = .failed attempt.settledAt (some reason) := by
      rw [SentAttempt.shown]
      split
      · exact absurd ‹_› hdelivered
      · rw [hsome]
    rw [hshown, DestinationHealth.shown, DestinationHealth.listed, hreason, hsome, hfailed]
    refine ⟨?_, rfl⟩
    cases hlast : health.lastSucceededAt with
    | none => rfl
    | some succeededAt =>
      rw [hlast, Option.all_some, decide_eq_true_eq] at hsucceeded
      have hlt : ¬attempt.settledAt ≤ succeededAt := by omega
      simp only [hlt, if_false]

end DestinationHealth

/-! ## No other operation writes these columns -/

namespace NotificationRows

/-- The health of each destination that there is. -/
def health (rows : NotificationRows) (destinationId : Nat) : Option DestinationHealth :=
  (rows.destinations destinationId).map DestinationRow.health

variable {rows rows' : NotificationRows}

/-- `rows'` has the destinations of `rows`, with what they show, and has given out no fewer ids. -/
structure KeepsHealth (rows rows' : NotificationRows) : Prop where
  health : rows'.health = rows.health
  nextId : rows.nextId ≤ rows'.nextId

lemma KeepsHealth.refl (rows : NotificationRows) : KeepsHealth rows rows :=
  ⟨rfl, Nat.le_refl _⟩

lemma KeepsHealth.trans {rows'' : NotificationRows} (h : KeepsHealth rows rows')
    (h' : KeepsHealth rows' rows'') : KeepsHealth rows rows'' :=
  ⟨h'.health.trans h.health, Nat.le_trans h.nextId h'.nextId⟩

lemma KeepsHealth.of_destinations (hnext : rows.nextId ≤ rows'.nextId)
    (h : rows'.destinations = rows.destinations) : KeepsHealth rows rows' where
  health := by
    funext id
    rw [NotificationRows.health, h]
    rfl
  nextId := hnext

lemma health_onDestination (rows : NotificationRows) (id : Nat)
    (f : DestinationRow → DestinationRow) (id' : Nat) :
    (rows.onDestination id f).health id' =
      if id' = id then (rows.destinations id).map fun row => (f row).health
      else rows.health id' := by
  by_cases h : id' = id
  · subst h
    simp only [health, onDestination, Function.update_self, Option.map_map, if_true]
    rfl
  · simp only [health, onDestination, Function.update_of_ne h, if_neg h]

/-- A change of a destination that writes none of the columns. -/
lemma keepsHealth_onDestination (id : Nat) {f : DestinationRow → DestinationRow}
    (hf : ∀ row, (f row).health = row.health) : KeepsHealth rows (rows.onDestination id f) where
  health := by
    funext id'
    rw [health_onDestination]
    by_cases h : id' = id
    · rw [if_pos h, h, health]
      congr 1
      funext row
      exact hf row
    · rw [if_neg h]
  nextId := Nat.le_refl _

lemma health_markDestinationOutcome (rows : NotificationRows) (id : Nat)
    (outcome : DeliveryOutcome) (now : Int) (id' : Nat) :
    (rows.markDestinationOutcome id (outcome == .delivered) now outcome.lastError).health id' =
      if id' = id then
        (rows.health id).map fun health => health.mark { settledAt := now, outcome := outcome }
      else rows.health id' := by
  rw [markDestinationOutcome, health_onDestination]
  by_cases h : id' = id
  · rw [if_pos h, if_pos h, health, Option.map_map]
    congr 1
    funext row
    simp only [Function.comp_apply, DestinationHealth.mark, DestinationRow.health, beq_iff_eq]
    by_cases hearlier : (laterOf row.lastSucceededAt row.lastFailedAt).all (· < now) = true
    · by_cases hdelivered : outcome = .delivered
      · simp only [hearlier, hdelivered, if_true]
      · simp only [hearlier, hdelivered, if_true, if_false]
    · simp only [hearlier, if_false, Bool.false_eq_true]
  · rw [if_neg h, if_neg h]

end NotificationRows

namespace DeliverySystem

open NotificationRows DestinationHealth

variable {s t : DeliverySystem} {jobId destinationId : Nat} {e : DeliveryEvent}

lemma keepsHealth_deliverTo (notificationId destinationId : Nat) (s : DeliverySystem) :
    s.rows.KeepsHealth (deliverTo notificationId s destinationId).rows := by
  unfold deliverTo
  cases hcreated : s.rows.createDelivery notificationId destinationId with
  | none => exact .refl _
  | some created =>
    unfold createDelivery at hcreated
    split at hcreated
    · cases hcreated
    · obtain rfl := Option.some.inj hcreated
      exact .of_destinations (by simp only [enqueueFirst, enqueue]; omega) rfl

lemma keepsHealth_foldl_deliverTo (notificationId : Nat) :
    ∀ (destinations : List Nat) (s : DeliverySystem),
      s.rows.KeepsHealth (destinations.foldl (deliverTo notificationId) s).rows
  | [], _ => .refl _
  | destinationId :: rest, s =>
    (keepsHealth_deliverTo notificationId destinationId s).trans
      (keepsHealth_foldl_deliverTo notificationId rest _)

lemma keepsHealth_createNotification {rows rows' : NotificationRows} {key : DedupeKey} {now : Int}
    {id : Nat} (h : rows.createNotification key now = some (id, rows')) :
    rows.KeepsHealth rows' := by
  unfold createNotification at h
  split at h
  · cases h
  · obtain ⟨rfl, rfl⟩ := Prod.mk.inj (Option.some.inj h)
    exact .of_destinations (Nat.le_succ _) rfl

lemma keepsHealth_announces (statusEventId : Nat) (kind : SubscriptionKind) (now : Int)
    (queueTakes : Bool) :
    s.rows.KeepsHealth (s.announces statusEventId kind now queueTakes).rows := by
  unfold announces
  simp only
  split
  · exact .refl _
  · cases hcreated : s.rows.createNotification (.event statusEventId) now with
    | none => exact .refl _
    | some created =>
      cases queueTakes with
      | false => exact .refl _
      | true =>
        have hcreates := keepsHealth_createNotification hcreated
        exact hcreates.trans (keepsHealth_foldl_deliverTo created.1
          (s.rows.destinationsSubscribedTo kind) { s with rows := created.2 })

lemma keepsHealth_tests (nonce : Nat) (now : Int) (queueTakes : Bool) :
    s.rows.KeepsHealth (s.tests destinationId nonce now queueTakes).rows := by
  unfold tests
  cases s.rows.destinations destinationId with
  | none => exact .refl _
  | some destination =>
    simp only
    split
    · exact .refl _
    · cases hcreated : s.rows.createNotification (.test destinationId nonce) now with
      | none => exact .refl _
      | some created =>
        cases queueTakes with
        | false => exact .refl _
        | true =>
          have hcreates := keepsHealth_createNotification hcreated
          exact hcreates.trans
            (keepsHealth_deliverTo created.1 destinationId { s with rows := created.2 })

lemma keepsHealth_retries (deliveryId : Nat) (queueTakes : Bool) :
    s.rows.KeepsHealth (s.retries deliveryId queueTakes).rows := by
  by_cases htaken : queueTakes = true ∧ s.retryTaken deliveryId = true
  · obtain ⟨rfl, htaken⟩ := htaken
    obtain ⟨row, hrow, heq⟩ := retries_of_taken htaken
    rw [heq]
    exact .of_destinations (Nat.le_succ _) rfl
  · rw [retries_of_not_taken htaken]
    exact .refl _

lemma keepsHealth_setsEnabled (enabled : Bool) (now : Int) :
    s.rows.KeepsHealth (s.setsEnabled destinationId enabled now).rows := by
  have henabled : s.rows.KeepsHealth (s.rows.setDestinationEnabled destinationId enabled) :=
    keepsHealth_onDestination destinationId fun _ => rfl
  unfold setsEnabled
  split
  · exact .refl _
  · simp only
    split
    · exact henabled
    · exact henabled.trans (.of_destinations (Nat.le_refl _) rfl)

/-- The transaction of an attempt that sent marks its destination, where it does not throw. -/
lemma health_settleSent {job : DeliveryJob} {sentTo : Nat} {outcome : DeliveryOutcome} {now : Int}
    {queueTakes : Bool} (h : s.settleSent job sentTo outcome now queueTakes = some t) :
    (s.rows.markDestinationOutcome sentTo (outcome == .delivered) now
      outcome.lastError).KeepsHealth t.rows := by
  unfold settleSent at h
  simp only at h
  split at h
  · cases h
  · cases outcome with
    | delivered =>
      obtain rfl := Option.some.inj h
      exact .of_destinations (Nat.le_refl _) rfl
    | retryable reason retryAfterSeconds =>
      simp only at h
      split at h
      · split at h
        · obtain rfl := Option.some.inj h
          exact .of_destinations (Nat.le_succ _) rfl
        · cases h
      · split at h
        · obtain rfl := Option.some.inj h
          exact .of_destinations (Nat.le_refl _) rfl
        · cases h
    | terminal reason stopSending =>
      simp only at h
      split at h
      · obtain rfl := Option.some.inj h
        cases stopSending with
        | false => exact .of_destinations (Nat.le_refl _) rfl
        | true =>
          have hdisabled : (s.rows.markDestinationOutcome sentTo false now
              (some reason)).KeepsHealth ((s.rows.markDestinationOutcome sentTo false now
                (some reason)).setDestinationEnabled sentTo false) :=
            keepsHealth_onDestination sentTo fun _ => rfl
          exact hdisabled.trans (.of_destinations (Nat.le_refl _) rfl)
      · cases h

/-- What a step does to what a destination shows: it marks it with what the step commits, unless
it adds or removes the destination. -/
structure HealthStep (destinationId : Nat) (s : DeliverySystem) (e : DeliveryEvent)
    (t : DeliverySystem) : Prop where
  nextId : s.rows.nextId ≤ t.rows.nextId
  health : t.rows.health destinationId = none ∨
    (destinationId = s.rows.nextId ∧ s.rows.nextId < t.rows.nextId ∧
      commits destinationId s e = [] ∧ t.rows.health destinationId = some unmarked) ∨
    t.rows.health destinationId = (s.rows.health destinationId).map fun health =>
      (commits destinationId s e).foldl mark health

lemma HealthStep.of_keeps (h : s.rows.KeepsHealth t.rows)
    (hcommits : commits destinationId s e = []) : HealthStep destinationId s e t where
  nextId := h.nextId
  health := by
    right
    right
    rw [h.health, hcommits]
    exact Option.map_id'.symm

/-- A step of a job that settles nothing leaves the rows alone. -/
lemma rows_of_onJob {step : DeliveryJob → Option DeliverySystem} (h : s.onJob jobId step = some t)
    (hstep : ∀ job t, step job = some t → t.rows = s.rows) : s.rows.KeepsHealth t.rows := by
  obtain ⟨job, -, hjob⟩ := onJob_eq_some.mp h
  rw [hstep job t hjob]
  exact .refl _

lemma healthStep_settles {now : Int} {queueTakes : Bool}
    (h : s.settles jobId now queueTakes = some t) :
    HealthStep destinationId s (.settles jobId now queueTakes) t := by
  obtain ⟨job, hjob, h⟩ := onJob_eq_some.mp h
  split at h
  case h_1 reason hstage =>
    obtain rfl := Option.some.inj h
    exact .of_keeps (.of_destinations (Nat.le_refl _) rfl) (by simp only [commits, hjob, hstage])
  case h_2 sentTo outcome hstage =>
    obtain rfl := Option.some.inj h
    cases hsettled : (s.ends jobId).settleSent job sentTo outcome now queueTakes with
    | none =>
      have hcommits : commits destinationId s (.settles jobId now queueTakes) = [] := by
        simp [commits, hjob, hstage, hsettled]
      exact .of_keeps (.refl _) hcommits
    | some settled =>
      have hkeeps := health_settleSent hsettled
      refine ⟨hkeeps.nextId, .inr (.inr ?_)⟩
      have hmarked := health_markDestinationOutcome s.rows sentTo outcome now destinationId
      rw [Option.getD_some, hkeeps.health]
      refine hmarked.trans ?_
      by_cases hsame : destinationId = sentTo
      · subst hsame
        rw [if_pos rfl]
        cases hrow : s.rows.destinations destinationId with
        | none => simp only [NotificationRows.health, hrow, Option.map_none]
        | some row =>
          have hcommits : commits destinationId s (.settles jobId now queueTakes) =
              [{ settledAt := now, outcome := outcome }] := by
            simp [commits, hjob, hstage, hsettled, hrow]
          rw [hcommits]
          rfl
      · have hcommits : commits destinationId s (.settles jobId now queueTakes) = [] := by
          simp [commits, hjob, hstage, Ne.symm hsame]
        rw [if_neg hsame, hcommits]
        exact Option.map_id'.symm
  case h_3 => cases h

/-- **One step** and what a destination shows. -/
lemma healthStep_of_step (destinationId : Nat) (h : deliverySystem.step s e = some t) :
    HealthStep destinationId s e t := by
  cases e with
  | adds subscribedTo =>
    obtain rfl := Option.some.inj h
    by_cases hid : destinationId = s.rows.nextId
    · refine ⟨Nat.le_succ _, .inr (.inl ⟨hid, Nat.lt_succ_self _, rfl, ?_⟩)⟩
      simp only [NotificationRows.health, adds, hid, Function.update_self]
      rfl
    · refine ⟨Nat.le_succ _, .inr (.inr ?_)⟩
      simp only [NotificationRows.health, adds, Function.update_of_ne hid]
      exact Option.map_id'.symm
  | subscribes id subscribedTo =>
    obtain rfl := Option.some.inj h
    exact .of_keeps (keepsHealth_onDestination id fun _ => rfl) rfl
  | announces statusEventId kind now queueTakes =>
    obtain rfl := Option.some.inj h
    exact .of_keeps (keepsHealth_announces statusEventId kind now queueTakes) rfl
  | tests id nonce now queueTakes =>
    obtain rfl := Option.some.inj h
    exact .of_keeps (keepsHealth_tests nonce now queueTakes) rfl
  | fetches jobId =>
    refine .of_keeps (rows_of_onJob h fun job t hjob => ?_) rfl
    split at hjob
    · exact Option.some.inj hjob ▸ rfl
    · cases hjob
  | readsDelivery jobId =>
    refine .of_keeps (rows_of_onJob h fun job t hjob => ?_) rfl
    repeat' split at hjob
    all_goals first | exact Option.some.inj hjob ▸ rfl | cases hjob
  | readsDestination jobId =>
    refine .of_keeps (rows_of_onJob h fun job t hjob => ?_) rfl
    split at hjob
    · exact Option.some.inj hjob ▸ rfl
    · cases hjob
  | readsNotification jobId =>
    refine .of_keeps (rows_of_onJob h fun job t hjob => ?_) rfl
    repeat' split at hjob
    all_goals first | exact Option.some.inj hjob ▸ rfl | cases hjob
  | sends jobId outcome =>
    refine .of_keeps (rows_of_onJob h fun job t hjob => ?_) rfl
    split at hjob
    · exact Option.some.inj hjob ▸ rfl
    · cases hjob
  | settles jobId now queueTakes => exact healthStep_settles h
  | throws jobId =>
    refine .of_keeps (rows_of_onJob h fun job t hjob => ?_) rfl
    split at hjob
    · cases hjob
    · exact Option.some.inj hjob ▸ rfl
  | retries deliveryId queueTakes =>
    obtain rfl := Option.some.inj h
    exact .of_keeps (keepsHealth_retries deliveryId queueTakes) rfl
  | dismisses deliveryId now =>
    obtain rfl := Option.some.inj h
    exact .of_keeps (.of_destinations (Nat.le_refl _) rfl) rfl
  | setsEnabled id enabled now =>
    obtain rfl := Option.some.inj h
    exact .of_keeps (keepsHealth_setsEnabled enabled now) rfl
  | removes id =>
    obtain rfl := Option.some.inj h
    by_cases hid : destinationId = id
    · refine ⟨Nat.le_refl _, .inl ?_⟩
      simp only [NotificationRows.health, deleteDestination, hid, Function.update_self,
        Option.map_none]
    · refine ⟨Nat.le_refl _, .inr (.inr ?_)⟩
      simp only [NotificationRows.health, deleteDestination, Function.update_of_ne hid]
      exact Option.map_id'.symm
  | cleansUp createdBefore settledBefore =>
    obtain rfl := Option.some.inj h
    exact .of_keeps (.of_destinations (Nat.le_refl _) rfl) rfl

/-- What the destination shows is the latest of the attempts, and an id that was not given out yet
has none. -/
structure HealthInv (destinationId : Nat) (marked : List SentAttempt) (s : DeliverySystem) :
    Prop where
  unused : s.rows.nextId ≤ destinationId → s.rows.health destinationId = none ∧ marked = []
  latest : ∀ health, s.rows.health destinationId = some health → health.Latest marked

/-- A step commits an outcome of a destination that there is. -/
lemma commits_of_none (h : s.rows.health destinationId = none) :
    commits destinationId s e = [] := by
  have hrow : s.rows.destinations destinationId = none := Option.map_eq_none_iff.1 h
  unfold commits
  repeat' split
  all_goals first | rfl | simp_all

/-- **One step** keeps what the destination shows the latest of the attempts. -/
lemma HealthInv.step {marked : List SentAttempt} (hs : HealthInv destinationId marked s)
    (h : deliverySystem.step s e = some t) :
    HealthInv destinationId (marked ++ commits destinationId s e) t := by
  obtain ⟨hnext, hhealth⟩ := healthStep_of_step destinationId h
  constructor
  · intro hunused
    obtain ⟨hnone, rfl⟩ := hs.unused (by omega)
    have hcommits : commits destinationId s e = [] := commits_of_none hnone
    refine ⟨?_, hcommits⟩
    obtain hgone | ⟨hid, hlt, -⟩ | hkept := hhealth
    · exact hgone
    · omega
    · rw [hkept, hnone, Option.map_none]
  · intro health hsome
    obtain hgone | ⟨hid, -, hcommits, hnew⟩ | hkept := hhealth
    · rw [hgone] at hsome
      cases hsome
    · obtain ⟨-, rfl⟩ := hs.unused (by omega)
      rw [hnew, Option.some.injEq] at hsome
      exact .inl ⟨hcommits, hsome.symm⟩
    · rw [hkept] at hsome
      obtain ⟨was, hwas, rfl⟩ := Option.map_eq_some_iff.1 hsome
      exact (hs.latest was hwas).foldl_mark _

end DeliverySystem

open DeliverySystem

/-- **The outcome shown is that of the latest attempt.**  In every run, whatever order the outcomes
of a destination's attempts are committed in: if the attempts have distinct times, the destination
shows the outcome of the one that is latest, with its reason, and its listing says the same. -/
theorem latest_outcome_shown {s t : DeliverySystem} {es : List DeliveryEvent}
    {destinationId : Nat} {destination : DestinationRow} {attempt : SentAttempt}
    (hinit : deliverySystem.init s) (hrun : deliverySystem.Path free s es t)
    (hdestination : t.rows.destinations destinationId = some destination)
    (hdistinct : ((committed destinationId s es).map SentAttempt.settledAt).Nodup)
    (hattempt : attempt ∈ committed destinationId s es)
    (hlatest : ∀ other ∈ committed destinationId s es, other.settledAt ≤ attempt.settledAt) :
    destination.health.shown = some attempt.shown ∧
      destination.health.listed = some attempt.shown := by
  have hinv : HealthInv destinationId (committed destinationId s es) t := by
    refine hrun.logged ?_ fun _ _ _ _ hs _ hstep => hs.step hstep
    rw [hinit]
    exact ⟨fun _ => ⟨rfl, rfl⟩, nofun⟩
  have hhealth : t.rows.health destinationId = some destination.health := by
    rw [NotificationRows.health, hdestination, Option.map_some]
  obtain ⟨hnone, -⟩ | ⟨last, hlast, hmax, htells⟩ := hinv.latest _ hhealth
  · rw [hnone] at hattempt
    cases hattempt
  · have hsame : last.settledAt = attempt.settledAt :=
      Int.le_antisymm (hlatest last hlast) (hmax attempt hattempt)
    have heq : last = attempt := List.inj_on_of_nodup_map hdistinct hlast hattempt hsame
    rw [heq] at htells
    exact htells.shown

/-- Two deliveries of a destination are sent beside each other, and the one answered first is
settled last. -/
def settledOutOfOrder : List DeliveryEvent :=
  [.adds [.instanceFlapping], .announces 0 .instanceFlapping 0 true,
    .announces 1 .instanceFlapping 0 true, .fetches 3, .readsDelivery 3, .readsDestination 3,
    .readsNotification 3, .fetches 6, .readsDelivery 6, .readsDestination 6, .readsNotification 6,
    .sends 3 .delivered, .sends 6 (.terminal ['r'] false), .settles 6 10 true, .settles 3 5 true]

/-- The failure is still shown once the older success is settled. -/
theorem latest_outcome_shown_failure :
    ∃ t destination, deliverySystem.Path free noAlerts settledOutOfOrder t ∧
      t.rows.destinations 0 = some destination ∧
      destination.health.shown = some (.failed 10 (some ['r'])) := by
  obtain ⟨t, destination, hexec, hdestination⟩ : ∃ t destination,
      deliverySystem.exec noAlerts settledOutOfOrder = some t ∧
        t.rows.destinations 0 = some destination := ⟨_, _, rfl, rfl⟩
  have hrun := path_of_exec hexec
  have hcommitted : committed 0 noAlerts settledOutOfOrder =
      [⟨10, .terminal ['r'] false⟩, ⟨5, .delivered⟩] := rfl
  have hinit : deliverySystem.init noAlerts := rfl
  have hshown := latest_outcome_shown hinit hrun hdestination (by rw [hcommitted]; decide)
    (hcommitted ▸ List.mem_cons_self) (by rw [hcommitted]; decide)
  exact ⟨t, destination, hrun, hdestination, hshown.1⟩

end OpenMcc

import OpenMcc.Construction.Delivery
import OpenMcc.Framework.Heap

/-!
# One job for a queued delivery

A retry queues a delivery with a job of its own, and does not see a job that an earlier turn of the
delivery left behind: turning a destination off abandons the row and leaves the delayed job
(`retry_beside_delayed_job`).  An attempt that throws leaves a queued row without a job.  Under
`keepsOneJob`, neither happens, and every queued delivery has exactly one job (`oneJob_of_run`).
The sends behind one announcement or retry are bounded by the retry limit in every run, as the
jobs of one origin follow each other.
-/

namespace OpenMcc

open TransitionSystem

/-- The step keeps the jobs to one for a queued delivery: a retry is not taken while a job of the
delivery waits or runs, and no job of a queued delivery ends by throwing. -/
def keepsOneJob (s : DeliverySystem) : DeliveryEvent → Bool
  | .retries deliveryId queueTakes =>
    !(s.retryTaken deliveryId && queueTakes && s.hasJob deliveryId)
  | .settles jobId _ queueTakes => !(s.asksQueue jobId && !queueTakes && s.jobQueued jobId)
  | .throws jobId => !s.jobQueued jobId
  | _ => true

/-! ## Rows -/

namespace NotificationRows

variable {rows rows' rows'' : NotificationRows}

/-- The deliveries that are left in `rows'` were there, and were queued if they are. -/
structure Unqueues (rows rows' : NotificationRows) : Prop where
  nextId : rows.nextId ≤ rows'.nextId
  deliveries : ∀ id row', rows'.deliveries id = some row' →
    ∃ row, rows.deliveries id = some row ∧ (row'.isQueued = true → row.isQueued = true)

lemma Unqueues.refl (rows : NotificationRows) : Unqueues rows rows :=
  ⟨Nat.le_refl _, fun _ row h => ⟨row, h, fun hq => hq⟩⟩

lemma Unqueues.trans (h : Unqueues rows rows') (h' : Unqueues rows' rows'') :
    Unqueues rows rows'' where
  nextId := Nat.le_trans h.nextId h'.nextId
  deliveries id row'' hrow'' := by
    obtain ⟨row', hrow', himp'⟩ := h'.deliveries id row'' hrow''
    obtain ⟨row, hrow, himp⟩ := h.deliveries id row' hrow'
    exact ⟨row, hrow, himp ∘ himp'⟩

/-- A change to what is no delivery. -/
lemma Unqueues.of_deliveries (hnext : rows.nextId ≤ rows'.nextId)
    (h : rows'.deliveries = rows.deliveries) : Unqueues rows rows' :=
  ⟨hnext, fun _ row hrow => ⟨row, h ▸ hrow, fun hq => hq⟩⟩

lemma onDelivery_self (rows : NotificationRows) (id : Nat) (f : DeliveryRow → DeliveryRow) :
    (rows.onDelivery id f).deliveries id = (rows.deliveries id).map f :=
  Function.update_self ..

lemma onDelivery_of_ne {id id' : Nat} (f : DeliveryRow → DeliveryRow) (h : id' ≠ id) :
    (rows.onDelivery id f).deliveries id' = rows.deliveries id' :=
  Function.update_of_ne h ..

/-- A change of one delivery that queues it only if it was. -/
lemma unqueues_onDelivery (id : Nat) {f : DeliveryRow → DeliveryRow}
    (h : ∀ row, (f row).isQueued = true → row.isQueued = true) :
    Unqueues rows (rows.onDelivery id f) where
  nextId := Nat.le_refl _
  deliveries id' row' hrow' := by
    by_cases heq : id' = id
    · subst heq
      rw [onDelivery_self, Option.map_eq_some_iff] at hrow'
      obtain ⟨row, hrow, rfl⟩ := hrow'
      exact ⟨row, hrow, h row⟩
    · rw [onDelivery_of_ne f heq] at hrow'
      exact ⟨row', hrow', fun hq => hq⟩

lemma unqueues_abandonQueuedFor (destinationId : Nat) (now : Int) (reason : Text) :
    Unqueues rows (rows.abandonQueuedFor destinationId now reason) where
  nextId := Nat.le_refl _
  deliveries id row' hrow' := by
    obtain ⟨row, hrow, rfl⟩ := Option.map_eq_some_iff.mp hrow'
    refine ⟨row, hrow, fun hq => ?_⟩
    split at hq
    · cases hq
    · exact hq

lemma unqueues_dismissDelivery (id : Nat) (now : Int) :
    Unqueues rows (rows.dismissDelivery id now) := by
  refine unqueues_onDelivery id fun row hq => ?_
  split at hq
  · cases hq
  · exact hq

lemma unqueues_deleteDestination (destinationId : Nat) :
    Unqueues rows (rows.deleteDestination destinationId) where
  nextId := Nat.le_refl _
  deliveries _ row' hrow' := ⟨row', (Option.filter_eq_some_iff.mp hrow').1, fun hq => hq⟩

lemma unqueues_deleteSettledBefore (createdBefore settledBefore : Int) :
    Unqueues rows (rows.deleteSettledBefore createdBefore settledBefore) where
  nextId := Nat.le_refl _
  deliveries _ row' hrow' := ⟨row', (Option.filter_eq_some_iff.mp hrow').1, fun hq => hq⟩

end NotificationRows

/-! ## What a step does -/

namespace DeliverySystem

/-- The event settles an attempt that is to be tried again, and the queue takes its next job. -/
def SettlesAgain (e : DeliveryEvent) (jobId : Nat) (job : DeliveryJob) : Prop :=
  ∃ now destinationId outcome, e = .settles jobId now true ∧
    job.stage = .sent destinationId outcome ∧ outcome.tryAgain job.attempt = true

/-- The effect of a step on rows and jobs. -/
inductive Effect (s : DeliverySystem) (e : DeliveryEvent) : DeliverySystem → Prop
  | rows {rows : NotificationRows} (hrows : s.rows.Unqueues rows) :
      Effect s e { s with rows := rows }
  | announced {rows : NotificationRows} (notificationId : Nat) (destinations : List Nat)
      (hrows : s.rows.Unqueues rows) :
      Effect s e (destinations.foldl (deliverTo notificationId) { s with rows := rows })
  /-- A job goes on; it begins an attempt only at a queued delivery. -/
  | moved {jobId : Nat} {job : DeliveryJob} {stage : JobStage} (hjob : s.jobs jobId = some job)
      (hstage : stage.hasSent = false) (hfrom : job.stage.hasSent = false)
      (hbegins : stage.attempting = true → job.stage.attempting = true ∨ s.Queued job.deliveryId) :
      Effect s e (s.moveTo jobId job stage)
  | sentOut {jobId : Nat} {job : DeliveryJob} {stage : JobStage} (hjob : s.jobs jobId = some job)
      (hstage : stage.hasSent = true) (hfrom : job.stage.hasSent = false)
      (hattempting : job.stage.attempting = true) :
      Effect s e { s.moveTo jobId job stage with sends := s.sends ++ [job.origin] }
  /-- A job ends, and its delivery is not queued. -/
  | ended {jobId : Nat} {job : DeliveryJob} {rows : NotificationRows} (deadLetters : List Nat)
      (hjob : s.jobs jobId = some job) (hrows : s.rows.Unqueues rows)
      (hsettled : ∀ row, rows.deliveries job.deliveryId = some row → row.isQueued = false) :
      Effect s e { s.ends jobId with rows := rows, deadLetters := deadLetters }
  | thrown {jobId : Nat} {job : DeliveryJob} (hjob : s.jobs jobId = some job)
      (hkeeps : keepsOneJob s e = !s.jobQueued jobId) : Effect s e (s.ends jobId)
  /-- A job ends, and queues the next one of its delivery. -/
  | again {jobId : Nat} {job : DeliveryJob} {rows : NotificationRows} (afterSeconds : Nat)
      (hjob : s.jobs jobId = some job) (hsettles : SettlesAgain e jobId job)
      (hsent : job.stage.hasSent = true) (hattempt : job.attempt < deliveryRetryLimit)
      (hnext : rows.nextId = s.rows.nextId)
      (hother : ∀ id, id ≠ job.deliveryId → rows.deliveries id = s.rows.deliveries id)
      (hthere : (s.rows.deliveries job.deliveryId).isSome = true) :
      Effect s e (enqueue { s.ends jobId with rows := rows } {
        deliveryId := job.deliveryId
        attempt := job.attempt + 1
        afterSeconds := afterSeconds
        origin := job.origin
        stage := .waiting })
  | retried {rows : NotificationRows} (deliveryId : Nat)
      (he : e = .retries deliveryId true) (htaken : s.retryTaken deliveryId = true)
      (hnext : rows.nextId = s.rows.nextId)
      (hother : ∀ id, id ≠ deliveryId → rows.deliveries id = s.rows.deliveries id)
      (hthere : (s.rows.deliveries deliveryId).isSome = true) :
      Effect s e (enqueueFirst { s with rows := rows } deliveryId)

variable {s t : DeliverySystem} {jobId : Nat} {job : DeliveryJob} {e : DeliveryEvent}

lemma Effect.refl : Effect s e s := .rows (.refl s.rows)

/-- The handler skips exactly the deliveries that are not queued. -/
lemma settledStates_contains (row : DeliveryRow) :
    settledStates.contains row.state = !row.isQueued := by
  cases hstate : row.state
  all_goals simp [settledStates, DeliveryRow.isQueued, hstate]

lemma onJob_eq_some {step : DeliveryJob → Option DeliverySystem} :
    s.onJob jobId step = some t ↔ ∃ job, s.jobs jobId = some job ∧ step job = some t :=
  Option.bind_eq_some_iff

lemma announces_effect {statusEventId : Nat} {kind : SubscriptionKind} {now : Int}
    {queueTakes : Bool} : Effect s e (s.announces statusEventId kind now queueTakes) := by
  simp only [announces]
  split
  · exact .refl
  · split
    · exact .refl
    case h_2 notificationId rows hcreate =>
      simp only [NotificationRows.createNotification] at hcreate
      split at hcreate
      · cases hcreate
      · obtain ⟨rfl, rfl⟩ := Prod.mk.inj (Option.some.inj hcreate)
        split
        · exact .announced _ _ (.of_deliveries (Nat.le_succ _) rfl)
        · exact .refl

lemma tests_effect {destinationId nonce : Nat} {now : Int} {queueTakes : Bool} :
    Effect s e (s.tests destinationId nonce now queueTakes) := by
  simp only [tests]
  split
  · exact .refl
  · split
    · exact .refl
    · split
      · exact .refl
      case h_2 notificationId rows hcreate =>
        simp only [NotificationRows.createNotification] at hcreate
        split at hcreate
        · cases hcreate
        · obtain ⟨rfl, rfl⟩ := Prod.mk.inj (Option.some.inj hcreate)
          split
          · exact .announced _ [destinationId] (.of_deliveries (Nat.le_succ _) rfl)
          · exact .refl

lemma readsDelivery_effect (h : s.readsDelivery jobId = some t) : Effect s e t := by
  obtain ⟨job, hjob, h⟩ := onJob_eq_some.mp h
  split at h
  case h_2 => cases h
  case h_1 hstage =>
    have hfrom : job.stage.hasSent = false := by rw [hstage]; rfl
    split at h
    case h_1 hnone =>
      obtain rfl := Option.some.inj h
      exact .ended s.deadLetters hjob (.refl s.rows) (by simp [hnone])
    case h_2 delivery hdelivery =>
      split at h
      case isTrue hsettled =>
        obtain rfl := Option.some.inj h
        refine .ended s.deadLetters hjob (.refl s.rows) fun row hrow => ?_
        obtain rfl : delivery = row := Option.some.inj (hdelivery.symm.trans hrow)
        rw [settledStates_contains] at hsettled
        simpa using hsettled
      case isFalse hsettled =>
        obtain rfl := Option.some.inj h
        rw [settledStates_contains] at hsettled
        have hq : delivery.isQueued = true := by simpa using hsettled
        exact .moved hjob rfl hfrom fun _ => Or.inr ⟨delivery, hdelivery, hq⟩

lemma readsNotification_effect (h : s.readsNotification jobId = some t) : Effect s e t := by
  obtain ⟨job, hjob, h⟩ := onJob_eq_some.mp h
  split at h
  case h_2 => cases h
  case h_1 hstage =>
    have hfrom : job.stage.hasSent = false := by rw [hstage]; rfl
    have hattempting : job.stage.attempting = true := by rw [hstage]; rfl
    repeat' split at h
    all_goals
      obtain rfl := Option.some.inj h
      exact .moved hjob rfl hfrom fun _ => Or.inl hattempting

lemma throws_effect (h : s.throwsIn jobId = some t) : Effect s (.throws jobId) t := by
  obtain ⟨job, hjob, h⟩ := onJob_eq_some.mp h
  split at h
  · cases h
  · obtain rfl := Option.some.inj h
    exact .thrown hjob rfl

/-- A transaction that settles the delivery of a job, beside other rows, and ends the job. -/
lemma ended_of_settle {rows : NotificationRows} {state : DeliveryState} {attempts : Nat}
    {settledAt : Option Int} {lastError : Option Text} (deadLetters : List Nat)
    (hjob : s.jobs jobId = some job) (hrows : s.rows.Unqueues rows) (hstate : state ≠ .queued) :
    Effect s e { s.ends jobId with
      rows := rows.settleDelivery job.deliveryId state attempts settledAt lastError
      deadLetters := deadLetters } := by
  have hsettled : ∀ row : DeliveryRow, DeliveryRow.isQueued { row with
      state := state, attempts := attempts, settledAt := settledAt, lastError := lastError } =
        false := by
    intro row
    simp [DeliveryRow.isQueued, hstate]
  refine .ended deadLetters hjob (hrows.trans (NotificationRows.unqueues_onDelivery _ ?_)) ?_
  · intro row hq
    rw [hsettled row] at hq
    cases hq
  · intro row' hrow'
    rw [NotificationRows.settleDelivery, NotificationRows.onDelivery_self,
      Option.map_eq_some_iff] at hrow'
    obtain ⟨row, -, rfl⟩ := hrow'
    exact hsettled row

lemma settleSent_effect {destinationId : Nat} {outcome : DeliveryOutcome} {now : Int}
    {queueTakes : Bool} (hjob : s.jobs jobId = some job)
    (hstage : job.stage = .sent destinationId outcome)
    (h : (s.ends jobId).settleSent job destinationId outcome now queueTakes = some t) :
    Effect s (.settles jobId now queueTakes) t := by
  have hmark : s.rows.Unqueues (s.rows.markDestinationOutcome destinationId
      (outcome == .delivered) now outcome.lastError) := .of_deliveries (Nat.le_refl _) rfl
  simp only [settleSent] at h
  split at h
  · cases h
  case isFalse hthere =>
    split at h
    · obtain rfl := Option.some.inj h
      exact ended_of_settle s.deadLetters hjob hmark (by decide)
    case h_2 reason retryAfterSeconds =>
      split at h
      case isTrue hattempt =>
        split at h
        case isTrue htakes =>
          obtain rfl := Option.some.inj h
          obtain rfl : queueTakes = true := htakes
          refine .again _ hjob ⟨now, destinationId, _, rfl, hstage, ?_⟩ (by rw [hstage]; rfl)
            hattempt rfl ?_ ?_
          · simpa [DeliveryOutcome.tryAgain] using hattempt
          · exact fun id hne => NotificationRows.onDelivery_of_ne _ hne
          · exact Option.isSome_iff_ne_none.mpr fun hnone => hthere (by simp [ends, hnone])
        case isFalse => cases h
      · split at h
        · obtain rfl := Option.some.inj h
          exact ended_of_settle _ hjob hmark (by decide)
        · cases h
    · split at h
      · obtain rfl := Option.some.inj h
        refine ended_of_settle _ hjob (hmark.trans ?_) (by decide)
        split
        · exact .of_deliveries (Nat.le_refl _) rfl
        · exact .refl _
      · cases h

/-- A settling transaction throws where the queue refuses it, or the delivery is gone. -/
lemma settleSent_eq_none {destinationId : Nat} {outcome : DeliveryOutcome} {now : Int}
    {queueTakes : Bool} (hjob : s.jobs jobId = some job)
    (hstage : job.stage = .sent destinationId outcome)
    (h : (s.ends jobId).settleSent job destinationId outcome now queueTakes = none) :
    keepsOneJob s (.settles jobId now queueTakes) = !s.jobQueued jobId := by
  have hasks : s.asksQueue jobId = (outcome != .delivered) := by simp [asksQueue, hjob, hstage]
  have hqueued : s.jobQueued jobId =
      (s.rows.deliveries job.deliveryId).any DeliveryRow.isQueued := by simp [jobQueued, hjob]
  by_cases hthere : s.rows.deliveries job.deliveryId = none
  · simp [keepsOneJob, hqueued, hthere]
  · have hnot : ¬(((s.ends jobId).rows.deliveries job.deliveryId).isNone = true) := by
      simpa [ends] using hthere
    simp only [settleSent, if_neg hnot] at h
    cases outcome with
    | delivered => cases h
    | retryable reason retryAfterSeconds =>
        cases queueTakes with
        | true =>
            simp only [if_true] at h
            split at h
            all_goals cases h
        | false => simp [keepsOneJob, hasks]
    | terminal reason stopSending =>
        cases queueTakes with
        | true => cases h
        | false => simp [keepsOneJob, hasks]

lemma settles_effect {now : Int} {queueTakes : Bool} (h : s.settles jobId now queueTakes = some t) :
    Effect s (.settles jobId now queueTakes) t := by
  obtain ⟨job, hjob, h⟩ := onJob_eq_some.mp h
  split at h
  case h_3 => cases h
  case h_1 reason hstage =>
    obtain rfl := Option.some.inj h
    exact ended_of_settle s.deadLetters hjob (.refl s.rows) (by decide)
  case h_2 destinationId outcome hstage =>
    obtain rfl := Option.some.inj h
    cases hsettle : (s.ends jobId).settleSent job destinationId outcome now queueTakes with
    | none => exact .thrown hjob (settleSent_eq_none hjob hstage hsettle)
    | some u => exact settleSent_effect hjob hstage hsettle

lemma requeueDelivery_eq {rows : NotificationRows} {deliveryId : Nat} {row : DeliveryRow}
    (hrow : rows.deliveries deliveryId = some row)
    (hstate : row.state = .failed ∨ row.state = .abandoned) :
    rows.requeueDelivery deliveryId = some (rows.onDelivery deliveryId fun row => { row with
      state := .queued, attempts := 0, settledAt := none, lastError := none }) := by
  simp [NotificationRows.requeueDelivery, hrow, hstate]

lemma retryTaken_eq_true {deliveryId : Nat} : s.retryTaken deliveryId = true ↔
    ∃ row destination, s.rows.deliveries deliveryId = some row ∧
      s.rows.destinations row.destinationId = some destination ∧ destination.enabled = true ∧
        (row.state = .failed ∨ row.state = .abandoned) := by
  simp only [retryTaken, Option.any_eq_true, Bool.and_eq_true, Bool.or_eq_true, beq_iff_eq]
  constructor
  · rintro ⟨row, hrow, ⟨destination, hdestination, henabled⟩, hstate⟩
    exact ⟨row, destination, hrow, hdestination, henabled, hstate⟩
  · rintro ⟨row, destination, hrow, hdestination, henabled, hstate⟩
    exact ⟨row, hrow, ⟨destination, hdestination, henabled⟩, hstate⟩

/-- A retry that is taken queues the delivery, with a job. -/
lemma retries_of_taken {deliveryId : Nat} (h : s.retryTaken deliveryId = true) :
    ∃ row, s.rows.deliveries deliveryId = some row ∧
      s.retries deliveryId true = enqueueFirst { s with
        rows := s.rows.onDelivery deliveryId fun row => { row with
          state := .queued, attempts := 0, settledAt := none, lastError := none } } deliveryId := by
  obtain ⟨row, destination, hrow, hdestination, henabled, hstate⟩ := retryTaken_eq_true.mp h
  exact ⟨row, hrow, by simp [retries, hrow, hdestination, henabled, requeueDelivery_eq hrow hstate]⟩

/-- A retry that is not taken changes nothing. -/
lemma retries_of_not_taken {deliveryId : Nat} {queueTakes : Bool}
    (h : ¬(queueTakes = true ∧ s.retryTaken deliveryId = true)) :
    s.retries deliveryId queueTakes = s := by
  simp only [retries]
  split
  · rfl
  case h_2 row hrow =>
    split
    · rfl
    case h_2 destination hdestination =>
      split
      · rfl
      case isFalse henabled =>
        split
        · rfl
        case h_2 rows hrequeue =>
          split
          case isTrue htakes =>
            simp only [NotificationRows.requeueDelivery, hrow] at hrequeue
            split at hrequeue
            case isTrue hstate =>
              have htaken : s.retryTaken deliveryId = true := retryTaken_eq_true.mpr
                ⟨row, destination, hrow, hdestination, by simpa using henabled, hstate⟩
              exact absurd ⟨htakes, htaken⟩ h
            case isFalse => cases hrequeue
          · rfl

lemma retries_effect {deliveryId : Nat} {queueTakes : Bool} :
    Effect s (.retries deliveryId queueTakes) (s.retries deliveryId queueTakes) := by
  by_cases htaken : queueTakes = true ∧ s.retryTaken deliveryId = true
  · obtain ⟨rfl, htaken⟩ := htaken
    obtain ⟨row, hrow, heq⟩ := retries_of_taken htaken
    rw [heq]
    exact .retried deliveryId rfl htaken rfl
      (fun id hne => NotificationRows.onDelivery_of_ne _ hne) (by simp [hrow])
  · rw [retries_of_not_taken htaken]
    exact .refl

/-- **The effect of each step.** -/
lemma effect_of_step (h : deliverySystem.step s e = some t) : Effect s e t := by
  cases e with
  | adds subscribedTo =>
      obtain rfl := Option.some.inj h
      exact .rows (.of_deliveries (Nat.le_succ _) rfl)
  | subscribes destinationId subscribedTo =>
      obtain rfl := Option.some.inj h
      exact .rows (.of_deliveries (Nat.le_refl _) rfl)
  | announces statusEventId kind now queueTakes =>
      obtain rfl := Option.some.inj h
      exact announces_effect
  | tests destinationId nonce now queueTakes =>
      obtain rfl := Option.some.inj h
      exact tests_effect
  | fetches jobId =>
      obtain ⟨job, hjob, h⟩ := onJob_eq_some.mp h
      split at h
      case h_1 hstage =>
        obtain rfl := Option.some.inj h
        exact .moved hjob rfl (by rw [hstage]; rfl) (by simp [JobStage.attempting])
      case h_2 => cases h
  | readsDelivery jobId => exact readsDelivery_effect h
  | readsDestination jobId =>
      obtain ⟨job, hjob, h⟩ := onJob_eq_some.mp h
      split at h
      case h_1 hstage =>
        obtain rfl := Option.some.inj h
        exact .moved hjob rfl (by rw [hstage]; rfl) fun _ => Or.inl (by rw [hstage]; rfl)
      case h_2 => cases h
  | readsNotification jobId => exact readsNotification_effect h
  | sends jobId outcome =>
      obtain ⟨job, hjob, h⟩ := onJob_eq_some.mp h
      split at h
      case h_1 hstage =>
        obtain rfl := Option.some.inj h
        exact .sentOut hjob rfl (by rw [hstage]; rfl) (by rw [hstage]; rfl)
      case h_2 => cases h
  | settles jobId now queueTakes => exact settles_effect h
  | throws jobId => exact throws_effect h
  | retries deliveryId queueTakes =>
      obtain rfl := Option.some.inj h
      exact retries_effect
  | dismisses deliveryId now =>
      obtain rfl := Option.some.inj h
      exact .rows (NotificationRows.unqueues_dismissDelivery deliveryId now)
  | setsEnabled destinationId enabled now =>
      obtain rfl := Option.some.inj h
      simp only [setsEnabled]
      split
      · exact .refl
      · refine .rows ?_
        have henabled : s.rows.Unqueues (s.rows.setDestinationEnabled destinationId enabled) :=
          .of_deliveries (Nat.le_refl _) rfl
        split
        · exact henabled
        · exact henabled.trans (NotificationRows.unqueues_abandonQueuedFor _ _ _)
  | removes destinationId =>
      obtain rfl := Option.some.inj h
      exact .rows (NotificationRows.unqueues_deleteDestination destinationId)
  | cleansUp createdBefore settledBefore =>
      obtain rfl := Option.some.inj h
      exact .rows (NotificationRows.unqueues_deleteSettledBefore _ _)

/-! ## Jobs of a delivery -/

lemma isJobOf_moveTo {stage : JobStage} {id d : Nat} (hjob : s.jobs jobId = some job) :
    (s.moveTo jobId job stage).IsJobOf id d ↔ s.IsJobOf id d := by
  by_cases heq : id = jobId
  · subst heq
    simp [IsJobOf, moveTo, hjob]
  · simp [IsJobOf, moveTo, Function.update_of_ne heq]

lemma isJobOf_ends {id d : Nat} : (s.ends jobId).IsJobOf id d ↔ id ≠ jobId ∧ s.IsJobOf id d := by
  by_cases heq : id = jobId
  · subst heq
    simp [IsJobOf, ends]
  · simp [IsJobOf, ends, heq]

lemma isJobOf_enqueue {id d : Nat} : (s.enqueue job).IsJobOf id d ↔
    (id = s.rows.nextId ∧ d = job.deliveryId) ∨ (id ≠ s.rows.nextId ∧ s.IsJobOf id d) := by
  by_cases heq : id = s.rows.nextId
  · subst heq
    simp [IsJobOf, enqueue, eq_comm]
  · simp [IsJobOf, enqueue, heq]

/-- Ids are given out in order, and a delivery has at most one job. -/
structure JobsInv (s : DeliverySystem) : Prop where
  jobs_lt : ∀ id d, s.IsJobOf id d → id < s.rows.nextId ∧ d < s.rows.nextId
  deliveries_lt : ∀ id row, s.rows.deliveries id = some row → id < s.rows.nextId
  one : ∀ d id id', s.IsJobOf id d → s.IsJobOf id' d → id = id'

/-- Every queued delivery has a job, but for those in `but`. -/
def Covered (s : DeliverySystem) (but : Nat → Prop) : Prop :=
  ∀ d, ¬but d → s.Queued d → ∃ id, s.IsJobOf id d

/-- Every queued delivery has one job, and nothing else has two. -/
def JobsGood (s : DeliverySystem) : Prop := s.JobsInv ∧ s.Covered fun _ => False

lemma JobsInv.rows {rows : NotificationRows} (hs : s.JobsInv) (hrows : s.rows.Unqueues rows) :
    JobsInv { s with rows := rows } where
  jobs_lt id d hjob := by
    obtain ⟨hid, hd⟩ := hs.jobs_lt id d hjob
    exact ⟨Nat.lt_of_lt_of_le hid hrows.nextId, Nat.lt_of_lt_of_le hd hrows.nextId⟩
  deliveries_lt id row hrow := by
    obtain ⟨row', hrow', -⟩ := hrows.deliveries id row hrow
    exact Nat.lt_of_lt_of_le (hs.deliveries_lt id row' hrow') hrows.nextId
  one := hs.one

lemma JobsInv.moveTo {stage : JobStage} (hs : s.JobsInv) (hjob : s.jobs jobId = some job) :
    (s.moveTo jobId job stage).JobsInv where
  jobs_lt id d h := hs.jobs_lt id d ((isJobOf_moveTo hjob).mp h)
  deliveries_lt := hs.deliveries_lt
  one d id id' h h' := hs.one d id id' ((isJobOf_moveTo hjob).mp h) ((isJobOf_moveTo hjob).mp h')

lemma JobsInv.ends (hs : s.JobsInv) (jobId : Nat) : (s.ends jobId).JobsInv where
  jobs_lt id d h := hs.jobs_lt id d (isJobOf_ends.mp h).2
  deliveries_lt := hs.deliveries_lt
  one d id id' h h' := hs.one d id id' (isJobOf_ends.mp h).2 (isJobOf_ends.mp h').2

/-- A change that queues no delivery leaves the queued ones with their jobs. -/
lemma JobsGood.rows {rows : NotificationRows} (hs : s.JobsGood) (hrows : s.rows.Unqueues rows) :
    JobsGood { s with rows := rows } := by
  refine ⟨hs.1.rows hrows, fun d hbut hq => ?_⟩
  obtain ⟨row', hrow', hq'⟩ := hq
  obtain ⟨row, hrow, himp⟩ := hrows.deliveries d row' hrow'
  exact hs.2 d hbut ⟨row, hrow, himp hq'⟩

lemma JobsGood.moveTo {stage : JobStage} (hs : s.JobsGood) (hjob : s.jobs jobId = some job) :
    (s.moveTo jobId job stage).JobsGood := by
  refine ⟨hs.1.moveTo hjob, fun d hbut hq => ?_⟩
  obtain ⟨id, hid⟩ := hs.2 d hbut hq
  exact ⟨id, (isJobOf_moveTo hjob).mpr hid⟩

/-- A job may end once its delivery is not queued. -/
lemma JobsGood.ends (hs : s.JobsGood) (hjob : s.jobs jobId = some job)
    (hsettled : ¬s.Queued job.deliveryId) : (s.ends jobId).JobsGood := by
  refine ⟨hs.1.ends jobId, fun d hbut hq => ?_⟩
  obtain ⟨id, hid⟩ := hs.2 d hbut hq
  refine ⟨id, isJobOf_ends.mpr ⟨?_, hid⟩⟩
  rintro rfl
  obtain ⟨job', hjob', rfl⟩ := hid
  obtain rfl : job = job' := Option.some.inj (hjob.symm.trans hjob')
  exact hsettled hq

/-- A job may be queued for a delivery that has none. -/
lemma jobsGood_enqueue (hs : s.JobsInv) (hcovered : s.Covered (· = job.deliveryId))
    (hnone : ∀ id, ¬s.IsJobOf id job.deliveryId) (hlt : job.deliveryId < s.rows.nextId) :
    (s.enqueue job).JobsGood := by
  refine ⟨⟨fun id d hid => ?_, fun id row hrow => ?_, fun d id id' hid hid' => ?_⟩,
    fun d _ hq => ?_⟩
  · show id < s.rows.nextId + 1 ∧ d < s.rows.nextId + 1
    rcases isJobOf_enqueue.mp hid with ⟨rfl, rfl⟩ | ⟨-, hold⟩
    · omega
    · have hbounds := hs.jobs_lt id d hold
      omega
  · exact Nat.lt_succ_of_lt (hs.deliveries_lt id row hrow)
  · rcases isJobOf_enqueue.mp hid with ⟨rfl, rfl⟩ | ⟨-, hold⟩
    · rcases isJobOf_enqueue.mp hid' with ⟨rfl, -⟩ | ⟨-, hold'⟩
      · rfl
      · exact absurd hold' (hnone id')
    · rcases isJobOf_enqueue.mp hid' with ⟨rfl, rfl⟩ | ⟨-, hold'⟩
      · exact absurd hold (hnone id)
      · exact hs.one d id id' hold hold'
  · by_cases hd : d = job.deliveryId
    · exact ⟨s.rows.nextId, isJobOf_enqueue.mpr (Or.inl ⟨rfl, hd⟩)⟩
    · obtain ⟨id, hid⟩ := hcovered d hd hq
      have hlt' : id < s.rows.nextId := (hs.jobs_lt id d hid).1
      exact ⟨id, isJobOf_enqueue.mpr (Or.inr ⟨Nat.ne_of_lt hlt', hid⟩)⟩

lemma createDelivery_eq_some {rows rows' : NotificationRows}
    {notificationId destinationId deliveryId : Nat}
    (h : rows.createDelivery notificationId destinationId = some (deliveryId, rows')) :
    deliveryId = rows.nextId ∧ rows'.nextId = rows.nextId + 1 ∧
      ∀ id, id ≠ rows.nextId → rows'.deliveries id = rows.deliveries id := by
  simp only [NotificationRows.createDelivery] at h
  split at h
  · cases h
  · obtain ⟨rfl, rfl⟩ := Prod.mk.inj (Option.some.inj h)
    exact ⟨rfl, rfl, fun id hne => Function.update_of_ne hne ..⟩

/-- A delivery that is created has its job. -/
lemma JobsGood.deliverTo (hs : s.JobsGood) (notificationId destinationId : Nat) :
    (deliverTo notificationId s destinationId).JobsGood := by
  simp only [DeliverySystem.deliverTo]
  split
  · exact hs
  case h_2 deliveryId rows hcreate =>
    obtain ⟨rfl, hnext, hother⟩ := createDelivery_eq_some hcreate
    refine jobsGood_enqueue ⟨fun id d hid => ?_, fun id row hrow => ?_, hs.1.one⟩ ?_ ?_ ?_
    · have hbounds := hs.1.jobs_lt id d hid
      show id < rows.nextId ∧ d < rows.nextId
      omega
    · show id < rows.nextId
      by_cases hid : id = s.rows.nextId
      · omega
      · have hlt := hs.1.deliveries_lt id row ((hother id hid).symm.trans hrow)
        omega
    · rintro d hd ⟨row, hrow, hq⟩
      exact hs.2 d (fun hfalse => hfalse) ⟨row, (hother d hd).symm.trans hrow, hq⟩
    · intro id hid
      exact absurd (hs.1.jobs_lt id _ hid).2 (Nat.lt_irrefl _)
    · show s.rows.nextId < rows.nextId
      omega

/-- What the delivery to one destination keeps, the loop of an announcement keeps. -/
lemma foldl_deliverTo {P : DeliverySystem → Prop} (notificationId : Nat) (destinations : List Nat)
    (hstep : ∀ s destinationId, P s → P (DeliverySystem.deliverTo notificationId s destinationId))
    (hs : P s) : P (destinations.foldl (DeliverySystem.deliverTo notificationId) s) := by
  induction destinations generalizing s with
  | nil => exact hs
  | cons destinationId destinations ih => exact ih (hstep s destinationId hs)

/-- The jobs do not depend on what was sent or set aside. -/
lemma JobsGood.logs (hs : s.JobsGood) (deadLetters sends : List Nat) :
    JobsGood { s with deadLetters := deadLetters, sends := sends } :=
  ⟨⟨hs.1.jobs_lt, hs.1.deliveries_lt, hs.1.one⟩, hs.2⟩

lemma hasJob_eq_true {d : Nat} (hs : s.JobsInv) :
    s.hasJob d = true ↔ ∃ id, s.IsJobOf id d := by
  simp only [hasJob, List.any_eq_true, List.mem_range, Option.any_eq_true, beq_iff_eq]
  constructor
  · rintro ⟨id, -, hid⟩
    exact ⟨id, hid⟩
  · rintro ⟨id, hid⟩
    exact ⟨id, (hs.jobs_lt id d hid).1, hid⟩

/-- A job that queues the next one of its delivery leaves the delivery with that one. -/
lemma JobsGood.again {rows : NotificationRows} {next : DeliveryJob} (hs : s.JobsGood)
    (hjob : s.jobs jobId = some job) (hnext : rows.nextId = s.rows.nextId)
    (hother : ∀ id, id ≠ job.deliveryId → rows.deliveries id = s.rows.deliveries id)
    (hthere : (s.rows.deliveries job.deliveryId).isSome = true)
    (hsame : next.deliveryId = job.deliveryId) :
    JobsGood (enqueue { s.ends jobId with rows := rows } next) := by
  obtain ⟨row, hrow⟩ := Option.isSome_iff_exists.mp hthere
  have hlt : job.deliveryId < s.rows.nextId := hs.1.deliveries_lt _ row hrow
  refine jobsGood_enqueue ⟨fun id d hid => ?_, fun id row' hrow' => ?_, (hs.1.ends jobId).one⟩
    ?_ ?_ ?_
  · show id < rows.nextId ∧ d < rows.nextId
    rw [hnext]
    exact (hs.1.ends jobId).jobs_lt id d hid
  · show id < rows.nextId
    rw [hnext]
    by_cases hid : id = job.deliveryId
    · exact hid ▸ hlt
    · exact hs.1.deliveries_lt id row' ((hother id hid).symm.trans hrow')
  · rw [hsame]
    rintro d hd ⟨row', hrow', hq⟩
    obtain ⟨id, hid⟩ := hs.2 d (fun hfalse => hfalse) ⟨row', (hother d hd).symm.trans hrow', hq⟩
    refine ⟨id, isJobOf_ends.mpr ⟨?_, hid⟩⟩
    rintro rfl
    obtain ⟨job', hjob', hd'⟩ := hid
    obtain rfl : job = job' := Option.some.inj (hjob.symm.trans hjob')
    exact hd hd'.symm
  · rw [hsame]
    intro id hid
    obtain ⟨hne, hid'⟩ := isJobOf_ends.mp hid
    exact hne (hs.1.one _ id jobId hid' ⟨job, hjob, rfl⟩)
  · rw [hsame]
    show job.deliveryId < rows.nextId
    omega

/-- A retry of a delivery that has no job gives it one. -/
lemma JobsGood.retried {rows : NotificationRows} {deliveryId : Nat} (hs : s.JobsGood)
    (hnone : ¬∃ id, s.IsJobOf id deliveryId) (hnext : rows.nextId = s.rows.nextId)
    (hother : ∀ id, id ≠ deliveryId → rows.deliveries id = s.rows.deliveries id)
    (hthere : (s.rows.deliveries deliveryId).isSome = true) :
    JobsGood (enqueueFirst { s with rows := rows } deliveryId) := by
  obtain ⟨row, hrow⟩ := Option.isSome_iff_exists.mp hthere
  have hlt : deliveryId < s.rows.nextId := hs.1.deliveries_lt _ row hrow
  refine jobsGood_enqueue ⟨fun id d hid => ?_, fun id row' hrow' => ?_, hs.1.one⟩ ?_
    (fun id hid => hnone ⟨id, hid⟩) ?_
  · show id < rows.nextId ∧ d < rows.nextId
    rw [hnext]
    exact hs.1.jobs_lt id d hid
  · show id < rows.nextId
    rw [hnext]
    by_cases hid : id = deliveryId
    · exact hid ▸ hlt
    · exact hs.1.deliveries_lt id row' ((hother id hid).symm.trans hrow')
  · rintro d hd ⟨row', hrow', hq⟩
    exact hs.2 d (fun hfalse => hfalse) ⟨row', (hother d hd).symm.trans hrow', hq⟩
  · show deliveryId < rows.nextId
    omega

lemma jobQueued_eq_true (hjob : s.jobs jobId = some job) :
    s.jobQueued jobId = true ↔ s.Queued job.deliveryId := by
  simp [jobQueued, Queued, hjob, Option.any_eq_true]

/-- **Each step that meets the condition** keeps one job for a queued delivery. -/
lemma JobsGood.step (hs : s.JobsGood) (hguard : keepsOneJob s e = true)
    (h : deliverySystem.step s e = some t) : t.JobsGood := by
  cases effect_of_step h with
  | rows hrows => exact hs.rows hrows
  | announced notificationId destinations hrows =>
      exact foldl_deliverTo notificationId destinations
        (fun s destinationId hs => hs.deliverTo notificationId destinationId) (hs.rows hrows)
  | moved hjob hstage hfrom hbegins => exact hs.moveTo hjob
  | sentOut hjob hstage hfrom hattempting => exact (hs.moveTo hjob).logs _ _
  | @ended jobId job rows deadLetters hjob hrows hsettled =>
      have hunqueued : ¬Queued { s with rows := rows } job.deliveryId := by
        rintro ⟨row, hrow, hq⟩
        rw [hsettled row hrow] at hq
        cases hq
      have hends : (DeliverySystem.ends { s with rows := rows } jobId).JobsGood :=
        (hs.rows hrows).ends hjob hunqueued
      exact hends.logs deadLetters s.sends
  | thrown hjob hkeeps =>
      rw [hkeeps, Bool.not_eq_true'] at hguard
      refine hs.ends hjob fun hq => ?_
      rw [(jobQueued_eq_true hjob).mpr hq] at hguard
      cases hguard
  | again afterSeconds hjob hsettles hsent hattempt hnext hother hthere =>
      exact hs.again hjob hnext hother hthere rfl
  | retried deliveryId he htaken hnext hother hthere =>
      have hnojob : ¬s.hasJob deliveryId = true := by
        simpa [he, keepsOneJob, htaken] using hguard
      rw [hasJob_eq_true hs.1] at hnojob
      exact hs.retried hnojob hnext hother hthere

/-! ## Sends -/

/-- The sends of an origin so far are the attempts its job has behind it. -/
structure SendsInv (s : DeliverySystem) : Prop where
  jobs_lt : ∀ id job, s.jobs id = some job → id < s.rows.nextId ∧ job.origin < s.rows.nextId
  sends_lt : ∀ origin ∈ s.sends, origin < s.rows.nextId
  one : ∀ id id' job job', s.jobs id = some job → s.jobs id' = some job' →
    job.origin = job'.origin → id = id'
  attempt : ∀ id job, s.jobs id = some job → job.attempt ≤ deliveryRetryLimit ∧
    s.sends.count job.origin + (if job.stage.hasSent then 0 else 1) ≤ job.attempt
  total : ∀ origin, s.sends.count origin ≤ deliveryRetryLimit

/-- What touches neither jobs nor sends keeps the count. -/
lemma SendsInv.rows {rows : NotificationRows} (hs : s.SendsInv)
    (hnext : s.rows.nextId ≤ rows.nextId) : SendsInv { s with rows := rows } where
  jobs_lt id job hjob := by
    obtain ⟨hid, horigin⟩ := hs.jobs_lt id job hjob
    exact ⟨Nat.lt_of_lt_of_le hid hnext, Nat.lt_of_lt_of_le horigin hnext⟩
  sends_lt origin horigin := Nat.lt_of_lt_of_le (hs.sends_lt origin horigin) hnext
  one := hs.one
  attempt := hs.attempt
  total := hs.total

lemma moveTo_jobs {stage : JobStage} {id : Nat} {job' : DeliveryJob}
    (h : (s.moveTo jobId job stage).jobs id = some job') :
    (id = jobId ∧ { job with stage := stage } = job') ∨ (id ≠ jobId ∧ s.jobs id = some job') := by
  obtain ⟨heq, hnow⟩ | hbefore := Heap.put_eq_some h
  · exact Or.inl ⟨heq, hnow.symm⟩
  · exact Or.inr hbefore

/-- Where a job stands does not change its origin. -/
lemma moveTo_origin {stage : JobStage} {id : Nat} {job' : DeliveryJob}
    (hjob : s.jobs jobId = some job) (h : (s.moveTo jobId job stage).jobs id = some job') :
    ∃ before, s.jobs id = some before ∧ before.origin = job'.origin := by
  rcases moveTo_jobs h with ⟨rfl, rfl⟩ | ⟨-, hold⟩
  · exact ⟨job, hjob, rfl⟩
  · exact ⟨job', hold, rfl⟩

lemma SendsInv.moveTo {stage : JobStage} (hs : s.SendsInv) (hjob : s.jobs jobId = some job)
    (hstage : stage.hasSent = false) (hfrom : job.stage.hasSent = false) :
    (s.moveTo jobId job stage).SendsInv where
  jobs_lt id job' hjob' := by
    obtain ⟨before, hbefore, horigin⟩ := moveTo_origin hjob hjob'
    exact horigin ▸ hs.jobs_lt id before hbefore
  sends_lt := hs.sends_lt
  one id id' first second hfirst hsecond heq := by
    obtain ⟨before, hbefore, horigin⟩ := moveTo_origin hjob hfirst
    obtain ⟨before', hbefore', horigin'⟩ := moveTo_origin hjob hsecond
    exact hs.one id id' before before' hbefore hbefore' (horigin.trans (heq.trans horigin'.symm))
  attempt id job' hjob' := by
    rcases moveTo_jobs hjob' with ⟨rfl, rfl⟩ | ⟨-, hold⟩
    · have hattempt := hs.attempt id job hjob
      simp only [hfrom] at hattempt
      simpa [hstage, DeliverySystem.moveTo] using hattempt
    · exact hs.attempt id job' hold
  total := hs.total

/-- A send is the attempt its job stands at. -/
lemma SendsInv.sentOut {stage : JobStage} (hs : s.SendsInv) (hjob : s.jobs jobId = some job)
    (hstage : stage.hasSent = true) (hfrom : job.stage.hasSent = false) :
    SendsInv { s.moveTo jobId job stage with sends := s.sends ++ [job.origin] } where
  jobs_lt id job' hjob' := by
    obtain ⟨before, hbefore, horigin⟩ := moveTo_origin hjob hjob'
    exact horigin ▸ hs.jobs_lt id before hbefore
  sends_lt origin horigin := by
    rcases List.mem_append.mp horigin with hold | hnew
    · exact hs.sends_lt origin hold
    · rw [List.mem_singleton.mp hnew]
      exact (hs.jobs_lt jobId job hjob).2
  one id id' first second hfirst hsecond heq := by
    obtain ⟨before, hbefore, horigin⟩ := moveTo_origin hjob hfirst
    obtain ⟨before', hbefore', horigin'⟩ := moveTo_origin hjob hsecond
    exact hs.one id id' before before' hbefore hbefore' (horigin.trans (heq.trans horigin'.symm))
  attempt id job' hjob' := by
    rcases moveTo_jobs hjob' with ⟨rfl, rfl⟩ | ⟨hne, hold⟩
    · have hattempt := hs.attempt id job hjob
      simp only [hfrom] at hattempt
      simpa [hstage, List.count_append] using hattempt
    · have hother : job'.origin ≠ job.origin :=
        fun heq => hne (hs.one id jobId job' job hold hjob heq)
      have hattempt := hs.attempt id job' hold
      simpa [List.count_append, List.count_singleton, hother.symm] using hattempt
  total origin := by
    have hattempt := hs.attempt jobId job hjob
    simp only [hfrom, Bool.false_eq_true, if_false] at hattempt
    rw [List.count_append]
    by_cases heq : origin = job.origin
    · subst heq
      rw [List.count_singleton_self]
      omega
    · have htotal := hs.total origin
      simpa [List.count_singleton, Ne.symm heq] using htotal

lemma SendsInv.ends (hs : s.SendsInv) (jobId : Nat) : (s.ends jobId).SendsInv := by
  have hjobs : ∀ id job, (s.ends jobId).jobs id = some job → s.jobs id = some job :=
    fun id job hjob => (Heap.take_eq_some hjob).2
  exact {
    jobs_lt := fun id job hjob => hs.jobs_lt id job (hjobs id job hjob)
    sends_lt := hs.sends_lt
    one := fun id id' job job' h h' => hs.one id id' job job' (hjobs id job h) (hjobs id' job' h')
    attempt := fun id job hjob => hs.attempt id job (hjobs id job hjob)
    total := hs.total }

/-- A job may be queued when its origin has no other, and its attempt is not behind it. -/
lemma SendsInv.enqueue (hs : s.SendsInv) (hstage : job.stage = .waiting)
    (horigin : job.origin ≤ s.rows.nextId)
    (hnone : ∀ id job', s.jobs id = some job' → job'.origin ≠ job.origin)
    (hlimit : job.attempt ≤ deliveryRetryLimit)
    (hcount : s.sends.count job.origin + 1 ≤ job.attempt) : (s.enqueue job).SendsInv := by
  have hjobs : ∀ id job', (s.enqueue job).jobs id = some job' →
      (id = s.rows.nextId ∧ job = job') ∨ s.jobs id = some job' := by
    intro id job' hjob'
    obtain ⟨heq, hnow⟩ | ⟨-, hbefore⟩ := Heap.put_eq_some hjob'
    · exact Or.inl ⟨heq, hnow.symm⟩
    · exact Or.inr hbefore
  refine ⟨fun id job' hjob' => ?_, fun origin hmem => ?_, fun id id' first second h h' heq => ?_,
    fun id job' hjob' => ?_, hs.total⟩
  · show id < s.rows.nextId + 1 ∧ job'.origin < s.rows.nextId + 1
    rcases hjobs id job' hjob' with ⟨rfl, rfl⟩ | hold
    · omega
    · have hbounds := hs.jobs_lt id job' hold
      omega
  · exact Nat.lt_succ_of_lt (hs.sends_lt origin hmem)
  · rcases hjobs id first h with ⟨rfl, rfl⟩ | hold
    · rcases hjobs id' second h' with ⟨rfl, -⟩ | hold'
      · rfl
      · exact absurd heq.symm (hnone id' second hold')
    · rcases hjobs id' second h' with ⟨rfl, rfl⟩ | hold'
      · exact absurd heq (hnone id first hold)
      · exact hs.one id id' first second hold hold' heq
  · rcases hjobs id job' hjob' with ⟨rfl, rfl⟩ | hold
    · refine ⟨hlimit, ?_⟩
      simpa [hstage, JobStage.hasSent, DeliverySystem.enqueue] using hcount
    · exact hs.attempt id job' hold

lemma SendsInv.enqueueFirst (hs : s.SendsInv) (deliveryId : Nat) :
    (s.enqueueFirst deliveryId).SendsInv := by
  refine hs.enqueue rfl (Nat.le_refl _) (fun id job' hjob' => ?_)
    (show 1 ≤ deliveryRetryLimit by decide) ?_
  · exact Nat.ne_of_lt (hs.jobs_lt id job' hjob').2
  · have hnone : s.sends.count s.rows.nextId = 0 :=
      List.count_eq_zero.mpr fun hmem => Nat.lt_irrefl _ (hs.sends_lt _ hmem)
    show s.sends.count s.rows.nextId + 1 ≤ 1
    omega

lemma SendsInv.deliverTo (hs : s.SendsInv) (notificationId destinationId : Nat) :
    (deliverTo notificationId s destinationId).SendsInv := by
  simp only [DeliverySystem.deliverTo]
  split
  · exact hs
  case h_2 deliveryId rows hcreate =>
    obtain ⟨-, hnext, -⟩ := createDelivery_eq_some hcreate
    exact (hs.rows (by omega)).enqueueFirst deliveryId

/-- **Every step** keeps the sends of an origin within the attempts of its job. -/
lemma SendsInv.step (hs : s.SendsInv) (h : deliverySystem.step s e = some t) : t.SendsInv := by
  cases effect_of_step h with
  | rows hrows => exact hs.rows hrows.nextId
  | announced notificationId destinations hrows =>
      exact foldl_deliverTo notificationId destinations
        (fun s destinationId hs => hs.deliverTo notificationId destinationId)
        (hs.rows hrows.nextId)
  | moved hjob hstage hfrom hbegins => exact hs.moveTo hjob hstage hfrom
  | sentOut hjob hstage hfrom hattempting => exact hs.sentOut hjob hstage hfrom
  | @ended jobId job rows deadLetters hjob hrows hsettled =>
      have hends := (hs.rows hrows.nextId).ends jobId
      exact ⟨hends.jobs_lt, hends.sends_lt, hends.one, hends.attempt, hends.total⟩
  | thrown hjob hkeeps => exact hs.ends _
  | @again jobId job rows afterSeconds hjob hsettles hsent hattempt hnext hother hthere =>
      have hbase : (DeliverySystem.ends { s with rows := rows } jobId).SendsInv :=
        (hs.rows (by omega)).ends jobId
      obtain ⟨-, hcount⟩ := hs.attempt jobId job hjob
      simp only [hsent, if_true] at hcount
      have horigin : job.origin < s.rows.nextId := (hs.jobs_lt jobId job hjob).2
      refine hbase.enqueue rfl ?_ (fun id job' hjob' heq => ?_) hattempt ?_
      · show job.origin ≤ rows.nextId
        omega
      · obtain ⟨hid, hbefore⟩ := Heap.take_eq_some hjob'
        exact hid (hs.one id jobId job' job hbefore hjob heq)
      · show s.sends.count job.origin + 1 ≤ job.attempt + 1
        omega
  | retried deliveryId he htaken hnext hother hthere =>
      exact (hs.rows (by omega)).enqueueFirst deliveryId

/-! ## Runs -/

lemma JobsGood.oneJob (hs : s.JobsGood) : s.OneJob where
  queued d hq := by
    obtain ⟨id, hid⟩ := hs.2 d (fun hfalse => hfalse) hq
    exact ⟨id, hid, fun id' hid' => hs.1.one d id' id hid' hid⟩
  attempting d id id' h h' := by
    obtain ⟨job, hjob, hd, -⟩ := h
    obtain ⟨job', hjob', hd', -⟩ := h'
    exact hs.1.one d id id' ⟨job, hjob, hd⟩ ⟨job', hjob', hd'⟩

lemma settleSent_refused {destinationId : Nat} {outcome : DeliveryOutcome} {now : Int}
    (houtcome : outcome ≠ .delivered) :
    s.settleSent job destinationId outcome now false = none := by
  simp only [settleSent]
  split
  · rfl
  · cases outcome with
    | delivered => exact absurd rfl houtcome
    | retryable reason retryAfterSeconds => simp
    | terminal reason stopSending => rfl

/-- A job that ends by throwing while its delivery is queued leaves it without one. -/
lemma not_oneJob_of_ends (hs : s.JobsGood) (hqueued : s.jobQueued jobId = true) :
    ¬(s.ends jobId).OneJob := by
  intro hone
  obtain ⟨job, hjob, hany⟩ := Option.any_eq_true _ _ |>.mp hqueued
  have hq : (s.ends jobId).Queued job.deliveryId := (jobQueued_eq_true hjob).mp hqueued
  obtain ⟨id, hid, -⟩ := hone.queued job.deliveryId hq
  obtain ⟨hne, hid'⟩ := isJobOf_ends.mp hid
  exact hne (hs.1.one _ id jobId hid' ⟨job, hjob, rfl⟩)

/-- A retry that is taken beside a job leaves its delivery with two. -/
lemma not_oneJob_of_retries {deliveryId : Nat} (hs : s.JobsGood)
    (htaken : s.retryTaken deliveryId = true) (hjob : s.hasJob deliveryId = true) :
    ¬(s.retries deliveryId true).OneJob := by
  intro hone
  obtain ⟨row, hrow, heq⟩ := retries_of_taken htaken
  obtain ⟨id, hid⟩ := (hasJob_eq_true hs.1).mp hjob
  have hlt : id < s.rows.nextId := (hs.1.jobs_lt id deliveryId hid).1
  rw [heq] at hone
  obtain ⟨only, -, honly⟩ := hone.queued deliveryId ⟨_, by
    show Function.update s.rows.deliveries deliveryId _ deliveryId = _
    rw [Function.update_self, hrow]
    rfl, rfl⟩
  have hold : id = only := honly id (isJobOf_enqueue.mpr (Or.inr ⟨Nat.ne_of_lt hlt, hid⟩))
  have hnew : s.rows.nextId = only := honly _ (isJobOf_enqueue.mpr (Or.inl ⟨rfl, rfl⟩))
  omega

/-- **A step that does not meet the condition** breaks the property at once. -/
lemma not_oneJob_of_step (hs : s.JobsGood) (hguard : keepsOneJob s e = false)
    (h : deliverySystem.step s e = some t) : ¬t.OneJob := by
  cases e with
  | settles jobId now queueTakes =>
      simp only [keepsOneJob, Bool.not_eq_false', Bool.and_eq_true, Bool.not_eq_true'] at hguard
      obtain ⟨⟨hasks, rfl⟩, hqueued⟩ := hguard
      obtain ⟨job, hjob, h⟩ := onJob_eq_some.mp h
      have ht : t = s.ends jobId := by
        simp only [asksQueue, hjob, Option.any_some] at hasks
        split at hasks
        case h_1 destinationId outcome hstage =>
          rw [hstage] at h
          have houtcome : outcome ≠ .delivered := by simpa using hasks
          simpa [settleSent_refused houtcome, eq_comm] using h
        case h_2 => cases hasks
      rw [ht]
      exact not_oneJob_of_ends hs hqueued
  | throws jobId =>
      simp only [keepsOneJob, Bool.not_eq_false'] at hguard
      obtain ⟨job, hjob, h⟩ := onJob_eq_some.mp h
      split at h
      · cases h
      · obtain rfl := Option.some.inj h
        exact not_oneJob_of_ends hs hguard
  | retries deliveryId queueTakes =>
      simp only [keepsOneJob, Bool.not_eq_false', Bool.and_eq_true] at hguard
      obtain ⟨⟨htaken, rfl⟩, hjob⟩ := hguard
      obtain rfl := Option.some.inj h
      exact not_oneJob_of_retries hs htaken hjob
  | _ => cases hguard

end DeliverySystem

lemma jobsGood_of_reachable {s : DeliverySystem}
    (h : deliverySystem.Reachable (meets keepsOneJob) s) : s.JobsGood := by
  refine h.invariant (fun s hs => ?_) fun s e t hs hguard hstep => hs.step hguard hstep
  rw [hs]
  refine ⟨⟨?_, ?_, ?_⟩, ?_⟩
  · rintro id d ⟨job, ⟨⟩, -⟩
  · rintro id row ⟨⟩
  · rintro d id id' ⟨job, ⟨⟩, -⟩
  · rintro d - ⟨row, ⟨⟩, -⟩

/-- **In every run**, the sends behind one first job, of an announcement's delivery or of a retry,
are at most `DELIVERY_RETRY_LIMIT`. -/
theorem sends_le_retryLimit {s : DeliverySystem} (h : deliverySystem.Reachable free s)
    (origin : Nat) : s.sends.count origin ≤ deliveryRetryLimit := by
  have hs : s.SendsInv := by
    refine h.invariant (fun s hs => ?_) fun s e t hs _ hstep => hs.step hstep
    rw [hs]
    refine ⟨?_, ?_, ?_, ?_, fun origin => Nat.zero_le _⟩
    · rintro id job ⟨⟩
    · rintro origin ⟨⟩
    · rintro id id' job job' ⟨⟩
    · rintro id job ⟨⟩
  exact hs.total origin

/-- **One job for a queued delivery.**  In every run whose steps meet the condition, each queued
delivery has exactly one job that waits or runs, no two jobs attempt one delivery, and the sends
behind an announcement or a retry are at most the retry limit.  A next step keeps to this if and
only if it meets the condition. -/
theorem oneJob_while_keepsOneJob {s : DeliverySystem}
    (h : deliverySystem.Reachable (meets keepsOneJob) s) :
    s.OneJob ∧ (∀ origin, s.sends.count origin ≤ deliveryRetryLimit) ∧
      ∀ e t, deliverySystem.step s e = some t → (t.OneJob ↔ keepsOneJob s e = true) := by
  have hs : s.JobsGood := jobsGood_of_reachable h
  refine ⟨hs.oneJob, sends_le_retryLimit (h.mono fun _ _ _ => trivial), fun e t hstep => ?_⟩
  constructor
  · intro hone
    by_contra hguard
    exact DeliverySystem.not_oneJob_of_step hs (by simpa using hguard) hstep hone
  · exact fun hguard => (hs.step hguard hstep).oneJob

/-- The system before anything is set up. -/
def noAlerts : DeliverySystem where
  rows := {
    notifications := fun _ => none
    destinations := fun _ => none
    deliveries := fun _ => none
    nextId := 0 }
  jobs := fun _ => none
  deadLetters := []
  sends := []

/-- A retry after the job that was left behind has been skipped. -/
theorem oneJob_while_keepsOneJob_skipped :
    ∃ s, deliverySystem.Reachable (meets keepsOneJob) s ∧ s.Queued 2 ∧ s.OneJob := by
  obtain ⟨s, hrun, hqueued⟩ : ∃ s, deliverySystem.execUnder keepsOneJob noAlerts
      [.adds [.instanceFlapping], .announces 0 .instanceFlapping 0 true, .setsEnabled 0 false 1,
        .setsEnabled 0 true 2, .fetches 3, .readsDelivery 3, .retries 2 true] = some s ∧
      s.Queued 2 := ⟨_, rfl, _, rfl, rfl⟩
  have hreach : deliverySystem.Reachable (meets keepsOneJob) s := .of_execUnder rfl hrun
  exact ⟨s, hreach, hqueued, (oneJob_while_keepsOneJob hreach).1⟩

/-- A first attempt is put off, the destination is turned off and on, and an operator retries the
abandoned delivery: its row is queued with two jobs. -/
theorem retry_beside_delayed_job :
    ¬∀ s, deliverySystem.Reachable free s → s.OneJob := by
  intro hclaim
  obtain ⟨s, hrun, hqueued, hfirst, hsecond⟩ : ∃ s, deliverySystem.exec noAlerts
      [.adds [.instanceFlapping], .announces 0 .instanceFlapping 0 true, .fetches 3,
        .readsDelivery 3, .readsDestination 3, .readsNotification 3,
        .sends 3 (.retryable [] none), .settles 3 1 true, .setsEnabled 0 false 2,
        .setsEnabled 0 true 3, .retries 2 true] = some s ∧
      s.Queued 2 ∧ s.IsJobOf 4 2 ∧ s.IsJobOf 5 2 :=
    ⟨_, rfl, ⟨_, rfl, rfl⟩, ⟨_, rfl, rfl⟩, ⟨_, rfl, rfl⟩⟩
  have hreach : deliverySystem.Reachable free s := .of_exec rfl hrun
  obtain ⟨only, -, honly⟩ := (hclaim s hreach).queued 2 hqueued
  have hjobs : 4 = 5 := (honly 4 hfirst).trans (honly 5 hsecond).symm
  omega

end OpenMcc

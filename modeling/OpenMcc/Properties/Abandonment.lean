import OpenMcc.Framework.Heap
import OpenMcc.Properties.Delivery

/-!
# A delivery abandoned because its destination was turned off

The settlement of an attempt does not read the delivery's state again, so an attempt that was
under way when the destination was turned off may queue the delivery again
(`attempt_requeues_abandoned`).  Under `keepsAbandoned`, an attempt that is to be tried again finds
its delivery still queued, and then the delivery stays out of `queued`, with no attempt begun,
until an operator retries it (`abandoned_until_retry`).
-/

namespace OpenMcc

open TransitionSystem

/-- An operator's retry of the delivery is taken. -/
def retriesDelivery (deliveryId : Nat) (s : DeliverySystem) : DeliveryEvent → Bool
  | .retries retried queueTakes => retried == deliveryId && queueTakes && s.retryTaken retried
  | _ => false

/-- An attempt at the delivery that is to be tried again finds it queued when it settles. -/
def settlesQueued (deliveryId : Nat) (s : DeliverySystem) : DeliveryEvent → Bool
  | .settles jobId _ queueTakes =>
    (s.jobs jobId).all fun job =>
      match job.stage with
      | .sent _ outcome =>
        !(job.deliveryId == deliveryId && outcome.tryAgain job.attempt && queueTakes &&
          (s.rows.deliveries deliveryId).any fun row => !row.isQueued)
      | _ => true
  | _ => true

/-- The condition on the steps between the turning off and the retry. -/
def keepsAbandoned (deliveryId : Nat) (s : DeliverySystem) (e : DeliveryEvent) : Bool :=
  !retriesDelivery deliveryId s e && settlesQueued deliveryId s e

/-- An attempt at the delivery begins between two states. -/
def DeliverySystem.BeginsAttempt (s t : DeliverySystem) (deliveryId : Nat) : Prop :=
  ∃ jobId, t.Attempts jobId deliveryId ∧ ¬s.Attempts jobId deliveryId

namespace DeliverySystem

variable {s t : DeliverySystem} {jobId deliveryId : Nat} {job : DeliveryJob} {e : DeliveryEvent}

/-- The delivery was created, and is not queued. -/
def Unqueued (s : DeliverySystem) (deliveryId : Nat) : Prop :=
  deliveryId < s.rows.nextId ∧ ¬s.Queued deliveryId

lemma Unqueued.rows {rows : NotificationRows} (hs : s.Unqueued deliveryId)
    (hrows : s.rows.Unqueues rows) : Unqueued { s with rows := rows } deliveryId := by
  refine ⟨Nat.lt_of_lt_of_le hs.1 hrows.nextId, ?_⟩
  rintro ⟨row', hrow', hq'⟩
  obtain ⟨row, hrow, himp⟩ := hrows.deliveries deliveryId row' hrow'
  exact hs.2 ⟨row, hrow, himp hq'⟩

/-- Changes to other deliveries do not queue it. -/
lemma Unqueued.other {rows : NotificationRows} {id : Nat} (hs : s.Unqueued deliveryId)
    (hne : deliveryId ≠ id) (hnext : s.rows.nextId ≤ rows.nextId)
    (hother : ∀ id', id' ≠ id → rows.deliveries id' = s.rows.deliveries id') :
    Unqueued { s with rows := rows } deliveryId := by
  refine ⟨Nat.lt_of_lt_of_le hs.1 hnext, ?_⟩
  rintro ⟨row, hrow, hq⟩
  exact hs.2 ⟨row, (hother deliveryId hne).symm.trans hrow, hq⟩

lemma Unqueued.enqueue (hs : s.Unqueued deliveryId) (job : DeliveryJob) :
    (s.enqueue job).Unqueued deliveryId :=
  ⟨Nat.lt_succ_of_lt hs.1, hs.2⟩

lemma Unqueued.deliverTo (hs : s.Unqueued deliveryId) (notificationId destinationId : Nat) :
    (deliverTo notificationId s destinationId).Unqueued deliveryId := by
  simp only [DeliverySystem.deliverTo]
  split
  · exact hs
  case h_2 created rows hcreate =>
    obtain ⟨rfl, hnext, hother⟩ := createDelivery_eq_some hcreate
    exact (hs.other (Nat.ne_of_lt hs.1) (by omega) hother).enqueue _

lemma settlesQueued_of_settlesAgain (hjob : s.jobs jobId = some job)
    (h : SettlesAgain e jobId job) (hthere : (s.rows.deliveries job.deliveryId).isSome = true)
    (hunqueued : ¬s.Queued job.deliveryId) : settlesQueued job.deliveryId s e = false := by
  obtain ⟨now, destinationId, outcome, rfl, hstage, hagain⟩ := h
  obtain ⟨row, hrow⟩ := Option.isSome_iff_exists.mp hthere
  have hq : row.isQueued = false := by
    by_contra hq
    exact hunqueued ⟨row, hrow, by simpa using hq⟩
  simp [settlesQueued, hjob, hstage, hagain, hrow, hq]

/-- **One step** that meets the condition does not queue the delivery. -/
lemma Unqueued.step (hs : s.Unqueued deliveryId) (hguard : keepsAbandoned deliveryId s e = true)
    (h : deliverySystem.step s e = some t) : t.Unqueued deliveryId := by
  simp only [keepsAbandoned, Bool.and_eq_true, Bool.not_eq_true'] at hguard
  obtain ⟨hretry, hsettles⟩ := hguard
  cases effect_of_step h with
  | rows hrows => exact hs.rows hrows
  | announced notificationId destinations hrows =>
      exact foldl_deliverTo (P := (Unqueued · deliveryId)) notificationId destinations
        (fun s destinationId hs => hs.deliverTo notificationId destinationId) (hs.rows hrows)
  | moved hjob hstage hfrom hbegins => exact hs
  | sentOut hjob hstage hfrom hattempting => exact hs
  | ended deadLetters hjob hrows hsettled => exact hs.rows hrows
  | thrown hjob hkeeps => exact hs
  | @again jobId job rows afterSeconds hjob hagain hsent hattempt hnext hother hthere =>
      by_cases heq : deliveryId = job.deliveryId
      · subst heq
        rw [settlesQueued_of_settlesAgain hjob hagain hthere hs.2] at hsettles
        cases hsettles
      · exact (hs.other heq (by omega) hother).enqueue {
          deliveryId := job.deliveryId
          attempt := job.attempt + 1
          afterSeconds := afterSeconds
          origin := job.origin
          stage := .waiting }
  | retried retried he htaken hnext hother hthere =>
      by_cases heq : deliveryId = retried
      · subst heq
        simp [he, retriesDelivery, htaken] at hretry
      · exact (hs.other heq (by omega) hother).enqueue _

/-! ## Attempts -/

/-- The job attempted the delivery before, or the delivery was queued. -/
def Warranted (s t : DeliverySystem) (deliveryId : Nat) : Prop :=
  ∀ jobId, t.Attempts jobId deliveryId → s.Attempts jobId deliveryId ∨ s.Queued deliveryId

lemma attempts_of_moveTo {stage : JobStage} {id : Nat} (hjob : s.jobs jobId = some job)
    (h : (s.moveTo jobId job stage).Attempts id deliveryId) :
    (id = jobId ∧ job.deliveryId = deliveryId ∧ stage.attempting = true) ∨
      s.Attempts id deliveryId := by
  obtain ⟨job', hjob', hdelivery, hattempting⟩ := h
  rcases moveTo_jobs hjob' with ⟨rfl, rfl⟩ | ⟨-, hold⟩
  · exact Or.inl ⟨rfl, hdelivery, hattempting⟩
  · exact Or.inr ⟨job', hold, hdelivery, hattempting⟩

lemma attempts_of_ends {id : Nat} (h : (s.ends jobId).Attempts id deliveryId) :
    s.Attempts id deliveryId := by
  obtain ⟨job, hjob, hattempts⟩ := h
  exact ⟨job, (Heap.take_eq_some hjob).2, hattempts⟩

/-- A job that was just queued attempts nothing. -/
lemma attempts_of_enqueue {id : Nat} (hwaiting : job.stage = .waiting)
    (h : (s.enqueue job).Attempts id deliveryId) : s.Attempts id deliveryId := by
  obtain ⟨job', hjob', hdelivery, hattempting⟩ := h
  obtain ⟨-, rfl⟩ | ⟨-, hbefore⟩ := Heap.put_eq_some hjob'
  · rw [hwaiting] at hattempting
    cases hattempting
  · exact ⟨job', hbefore, hdelivery, hattempting⟩

lemma attempts_of_deliverTo {notificationId destinationId id : Nat}
    (h : (deliverTo notificationId s destinationId).Attempts id deliveryId) :
    s.Attempts id deliveryId := by
  simp only [DeliverySystem.deliverTo] at h
  split at h
  · exact h
  case h_2 created rows hcreate => exact attempts_of_enqueue (s := { s with rows := rows }) rfl h

/-- **An attempt begins only at a queued delivery.** -/
lemma warranted_of_step (h : deliverySystem.step s e = some t) : s.Warranted t deliveryId := by
  intro id hattempts
  cases effect_of_step h with
  | rows hrows => exact Or.inl hattempts
  | @announced rows notificationId destinations hrows =>
      refine Or.inl (foldl_deliverTo (s := { s with rows := rows })
        (P := fun u => u.Attempts id deliveryId → s.Attempts id deliveryId)
        notificationId destinations ?_ (fun h => h) hattempts)
      exact fun u destinationId hu h => hu (attempts_of_deliverTo h)
  | moved hjob hstage hfrom hbegins =>
      rcases attempts_of_moveTo hjob hattempts with ⟨rfl, rfl, hattempting⟩ | hold
      · rcases hbegins hattempting with hbefore | hq
        · exact Or.inl ⟨_, hjob, rfl, hbefore⟩
        · exact Or.inr hq
      · exact Or.inl hold
  | sentOut hjob hstage hfrom hattempting =>
      rcases attempts_of_moveTo hjob hattempts with ⟨rfl, rfl, -⟩ | hold
      · exact Or.inl ⟨_, hjob, rfl, hattempting⟩
      · exact Or.inl hold
  | ended deadLetters hjob hrows hsettled => exact Or.inl (attempts_of_ends hattempts)
  | thrown hjob hkeeps => exact Or.inl (attempts_of_ends hattempts)
  | @again jobId job rows afterSeconds hjob hagain hsent hattempt hnext hother hthere =>
      exact Or.inl (attempts_of_ends
        (attempts_of_enqueue (s := { s.ends jobId with rows := rows }) rfl hattempts))
  | @retried rows retried he htaken hnext hother hthere =>
      exact Or.inl (attempts_of_enqueue (s := { s with rows := rows }) rfl hattempts)

lemma not_beginsAttempt_of_step (hs : ¬s.Queued deliveryId)
    (h : deliverySystem.step s e = some t) : ¬s.BeginsAttempt t deliveryId := by
  rintro ⟨jobId, hafter, hbefore⟩
  rcases warranted_of_step h jobId hafter with hold | hq
  · exact hbefore hold
  · exact hs hq

/-- **A step that does not meet the condition** queues the delivery. -/
lemma queued_of_settles (hsettles : settlesQueued deliveryId s e = false)
    (h : deliverySystem.step s e = some t) : t.Queued deliveryId := by
  cases e with
  | settles jobId now queueTakes =>
      obtain ⟨job, hjob, h⟩ := onJob_eq_some.mp h
      simp only [settlesQueued, hjob, Option.all_some] at hsettles
      split at hsettles
      case h_2 => cases hsettles
      case h_1 destinationId outcome hstage =>
        simp only [Bool.not_eq_false', Bool.and_eq_true, beq_iff_eq] at hsettles
        obtain ⟨⟨⟨rfl, hagain⟩, rfl⟩, hrow⟩ := hsettles
        obtain ⟨row, hrow, -⟩ := Option.any_eq_true _ _ |>.mp hrow
        cases outcome with
        | delivered => cases hagain
        | terminal reason stopSending => cases hagain
        | retryable reason retryAfterSeconds =>
            have hattempt : job.attempt < deliveryRetryLimit := by
              simpa [DeliveryOutcome.tryAgain] using hagain
            have hthere : ¬((s.ends jobId).rows.deliveries job.deliveryId).isNone = true := by
              simp [ends, hrow]
            rw [hstage] at h
            simp only [settleSent, if_neg hthere, if_pos hattempt, if_true,
              Option.getD_some, Option.some.injEq] at h
            rw [← h]
            simp [Queued, enqueue, NotificationRows.settleDelivery, NotificationRows.onDelivery,
              NotificationRows.markDestinationOutcome, NotificationRows.onDestination, ends, hrow,
              DeliveryRow.isQueued]
  | _ => cases hsettles

/-! ## Runs -/

/-- Every delivery has an id that was given out. -/
def Numbered (s : DeliverySystem) : Prop :=
  ∀ id row, s.rows.deliveries id = some row → id < s.rows.nextId

lemma Numbered.rows {rows : NotificationRows} (hs : s.Numbered) (hrows : s.rows.Unqueues rows) :
    Numbered { s with rows := rows } := by
  intro id row' hrow'
  obtain ⟨row, hrow, -⟩ := hrows.deliveries id row' hrow'
  exact Nat.lt_of_lt_of_le (hs id row hrow) hrows.nextId

/-- One delivery may change whose id was given out. -/
lemma Numbered.other {rows : NotificationRows} {changed : Nat} (hs : s.Numbered)
    (hlt : changed < rows.nextId) (hnext : s.rows.nextId ≤ rows.nextId)
    (hother : ∀ id, id ≠ changed → rows.deliveries id = s.rows.deliveries id) :
    ∀ id row, rows.deliveries id = some row → id < rows.nextId + 1 := by
  intro id row hrow
  by_cases heq : id = changed
  · omega
  · have hold := hs id row ((hother id heq).symm.trans hrow)
    omega

lemma Numbered.deliverTo (hs : s.Numbered) (notificationId destinationId : Nat) :
    (deliverTo notificationId s destinationId).Numbered := by
  simp only [DeliverySystem.deliverTo]
  split
  · exact hs
  case h_2 created rows hcreate =>
    obtain ⟨rfl, hnext, hother⟩ := createDelivery_eq_some hcreate
    exact hs.other (by omega) (by omega) hother

lemma Numbered.step (hs : s.Numbered) (h : deliverySystem.step s e = some t) : t.Numbered := by
  cases effect_of_step h with
  | rows hrows => exact hs.rows hrows
  | @announced rows notificationId destinations hrows =>
      exact foldl_deliverTo (P := Numbered) notificationId destinations
        (fun s destinationId hs => hs.deliverTo notificationId destinationId) (hs.rows hrows)
  | moved hjob hstage hfrom hbegins => exact hs
  | sentOut hjob hstage hfrom hattempting => exact hs
  | ended deadLetters hjob hrows hsettled => exact hs.rows hrows
  | thrown hjob hkeeps => exact hs
  | again afterSeconds hjob hagain hsent hattempt hnext hother hthere =>
      obtain ⟨row, hrow⟩ := Option.isSome_iff_exists.mp hthere
      exact hs.other (hnext.symm ▸ hs _ row hrow) (by omega) hother
  | retried retried he htaken hnext hother hthere =>
      obtain ⟨row, hrow⟩ := Option.isSome_iff_exists.mp hthere
      exact hs.other (hnext.symm ▸ hs _ row hrow) (by omega) hother

end DeliverySystem

lemma numbered_of_reachable {s : DeliverySystem} (h : deliverySystem.Reachable free s) :
    s.Numbered := by
  refine h.invariant (fun s hs => ?_) fun s e t hs _ hstep => hs.step hstep
  rw [hs]
  rintro id row ⟨⟩

/-- **Abandoned until a retry.**  Once a destination is turned off and the delivery is abandoned,
and as long as every step meets the condition, the delivery is not queued.  A next step that is no
operator's retry of it neither queues the delivery nor begins an attempt at it if and only if it
meets the condition. -/
theorem abandoned_until_retry {s t u : DeliverySystem} {deliveryId destinationId : Nat} {now : Int}
    {es : List DeliveryEvent} {row : DeliveryRow} (hreach : deliverySystem.Reachable free s)
    (hoff : deliverySystem.step s (.setsEnabled destinationId false now) = some t)
    (hrow : t.rows.deliveries deliveryId = some row) (habandoned : row.state = .abandoned)
    (hpath : deliverySystem.Path (meets (keepsAbandoned deliveryId)) t es u) :
    ¬u.Queued deliveryId ∧ ∀ e v, deliverySystem.step u e = some v →
      retriesDelivery deliveryId u e = false →
        ((¬v.Queued deliveryId ∧ ¬u.BeginsAttempt v deliveryId) ↔
          settlesQueued deliveryId u e = true) := by
  have hnumbered : t.Numbered := numbered_of_reachable (hreach.step trivial hoff)
  have ht : t.Unqueued deliveryId := by
    refine ⟨hnumbered deliveryId row hrow, ?_⟩
    rintro ⟨row', hrow', hq⟩
    obtain rfl : row = row' := Option.some.inj (hrow.symm.trans hrow')
    simp [DeliveryRow.isQueued, habandoned] at hq
  have hu : u.Unqueued deliveryId :=
    hpath.invariant (I := (DeliverySystem.Unqueued · deliveryId)) ht
      fun _ _ _ hs hguard hstep => hs.step hguard hstep
  refine ⟨hu.2, fun e v hstep hretry => ⟨fun hkept => ?_, fun hsettles => ⟨?_, ?_⟩⟩⟩
  · by_contra hsettles
    exact hkept.1 (DeliverySystem.queued_of_settles (by simpa using hsettles) hstep)
  · exact (hu.step (by simp [keepsAbandoned, hretry, hsettles]) hstep).2
  · exact DeliverySystem.not_beginsAttempt_of_step hu.2 hstep

/-- The destination is turned off and on while the delivery's job waits. -/
theorem abandoned_until_retry_waiting :
    ∃ s, deliverySystem.exec noAlerts [.adds [.instanceFlapping],
      .announces 0 .instanceFlapping 0 true, .setsEnabled 0 false 1, .setsEnabled 0 true 2,
      .fetches 3, .readsDelivery 3] = some s ∧ ¬s.Queued 2 := by
  obtain ⟨r, s, row, t, hr, hoff, hrow, habandoned, hrun, hexec⟩ : ∃ r s row t,
      deliverySystem.exec noAlerts [.adds [.instanceFlapping],
        .announces 0 .instanceFlapping 0 true] = some r ∧
      deliverySystem.step r (.setsEnabled 0 false 1) = some s ∧
      s.rows.deliveries 2 = some row ∧ row.state = .abandoned ∧
      deliverySystem.execUnder (keepsAbandoned 2) s
        [.setsEnabled 0 true 2, .fetches 3, .readsDelivery 3] = some t ∧
      deliverySystem.exec noAlerts [.adds [.instanceFlapping],
        .announces 0 .instanceFlapping 0 true, .setsEnabled 0 false 1, .setsEnabled 0 true 2,
        .fetches 3, .readsDelivery 3] = some t :=
    ⟨_, _, _, _, rfl, rfl, rfl, rfl, rfl, rfl⟩
  have hreach : deliverySystem.Reachable free r := .of_exec rfl hr
  exact ⟨t, hexec,
    (abandoned_until_retry hreach hoff hrow habandoned (path_of_execUnder hrun)).1⟩

/-- The destination is turned off while an attempt is on its way, and the attempt is to be tried
again: its settlement queues the abandoned delivery, which no operator has retried. -/
theorem attempt_requeues_abandoned :
    ¬∀ r s t (deliveryId destinationId : Nat) (now : Int) (es : List DeliveryEvent)
      (row : DeliveryRow), deliverySystem.Reachable free r → r.Queued deliveryId →
        deliverySystem.step r (.setsEnabled destinationId false now) = some s →
        s.rows.deliveries deliveryId = some row → row.state = .abandoned →
        deliverySystem.Path (meets fun s e => !retriesDelivery deliveryId s e) s es t →
          ¬t.Queued deliveryId := by
  intro hclaim
  obtain ⟨r, s, row, t, hr, hqueued, hoff, hrow, habandoned, hrun, hagain⟩ : ∃ r s row t,
      deliverySystem.exec noAlerts [.adds [.instanceFlapping],
        .announces 0 .instanceFlapping 0 true, .fetches 3, .readsDelivery 3, .readsDestination 3,
        .readsNotification 3] = some r ∧ r.Queued 2 ∧
      deliverySystem.step r (.setsEnabled 0 false 1) = some s ∧
      s.rows.deliveries 2 = some row ∧ row.state = .abandoned ∧
      deliverySystem.execUnder (fun s e => !retriesDelivery 2 s e) s
        [.sends 3 (.retryable [] none), .settles 3 2 true] = some t ∧ t.Queued 2 :=
    ⟨_, _, _, _, rfl, ⟨_, rfl, rfl⟩, rfl, rfl, rfl, rfl, ⟨_, rfl, rfl⟩⟩
  have hreach : deliverySystem.Reachable free r := .of_exec rfl hr
  exact hclaim r s t 2 0 1 _ row hreach hqueued hoff hrow habandoned (path_of_execUnder hrun) hagain

end OpenMcc

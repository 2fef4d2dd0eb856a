import OpenMcc.Properties.IncidentLog

/-!
# Recoveries are told of what was told

Every recorder keeps a log of incidents.  A recovery under an incident is looked up under it, so it
is told only after its problem was, and once.  A bot that was stopped while it was connected comes
back under no incident.  Its recovery is looked up under all of them, and an earlier problem of the
bot whose end nobody heard of answers for it (`recovery_of_another_incident`).
-/

namespace OpenMcc

open TransitionSystem Relation

open IncidentLog (Effect Sound)

namespace AlertState

variable {nanoid : Nat → Nat} {createdAt : Int} {s t : AlertState} {fact : AlertFact}

/-- The incidents of a subject. -/
def log (s : AlertState) : Subject → IncidentLog
  | .host hostId => (s.hosts hostId).log
  | .bot instanceId => (s.bots instanceId).log instanceId

lemma incidentOf_eq (s : AlertState) (subject : Subject) (number : Nat) :
    s.incidentOf subject number = ((s.log subject).events[number]?).bind Prod.snd := by
  cases subject with
  | host hostId =>
    simp only [incidentOf, log, HostRecorder.log, List.getElem?_map, Option.bind_map]
    rfl
  | bot instanceId =>
    simp only [incidentOf, log, RecorderState.log, RecorderState.logUnder, List.getElem?_map,
      Option.bind_map]
    rfl

/-! ## What is looked up -/

lemma mem_of_lastAnnouncedAmong {subject : Subject} {kinds : List NotificationKind}
    {incidentId : Option Nat} {notification : Notification}
    (h : s.lastAnnouncedAmong subject kinds incidentId = some notification) :
    notification ∈ s.notifications ∧ notification.subject = subject ∧
      (incidentId.isSome → s.incident notification = incidentId) := by
  have hfound : ∀ (rest : List Notification) (first : Notification),
      rest.foldl laterNotification first ∈ first :: rest := by
    intro rest
    induction rest with
    | nil => exact fun first => List.mem_singleton_self first
    | cons next rest ih =>
      intro first
      have hmem := ih (laterNotification first next)
      have hlater : laterNotification first next = first ∨ laterNotification first next = next := by
        unfold laterNotification
        split
        · exact .inr rfl
        · exact .inl rfl
      rw [List.foldl_cons]
      obtain hmem | hmem := List.mem_cons.1 hmem
      · rw [hmem]
        obtain hlater | hlater := hlater
        · rw [hlater]
          exact List.mem_cons_self
        · rw [hlater]
          exact List.mem_cons_of_mem _ List.mem_cons_self
      · exact List.mem_cons_of_mem _ (List.mem_cons_of_mem _ hmem)
  simp only [lastAnnouncedAmong] at h
  split at h
  · cases h
  · next first rest hrows =>
    have hmem := hfound rest first
    rw [Option.some.inj h, ← hrows, List.mem_filter] at hmem
    simp only [Bool.and_eq_true, Bool.or_eq_true, beq_iff_eq, Option.isNone_iff_eq_none] at hmem
    obtain ⟨hmem, ⟨hsubject, -⟩, hincident⟩ := hmem
    refine ⟨hmem, hsubject, fun hsome => ?_⟩
    obtain hnone | hincident := hincident
    · rw [hnone] at hsome
      cases hsome
    · exact hincident

/-! ## One announcement -/

/-- What a notification resolves is what its event resolves. -/
lemma resolves_eq {notification : Notification}
    (h : asNotificationKind fact.kind = some notification.kind) :
    notification.resolves = (problemResolvedBy fact.kind).bind asNotificationKind := by
  unfold Notification.resolves
  revert h
  cases fact.kind <;> intro h <;> simp only [asNotificationKind, Option.some.injEq] at h <;>
    first
    | cases h
    | (rw [← h]; rfl)

/-- A kind that resolves a problem has one that is told. -/
lemma resolves_isSome {notification : Notification}
    (h : asNotificationKind fact.kind = some notification.kind) :
    notification.resolves.isSome ↔ (problemResolvedBy fact.kind).isSome := by
  rw [resolves_eq h]
  cases fact.kind <;> simp [problemResolvedBy, asNotificationKind]

lemma asNotificationKind_isSome_of_worth {last : Option NotificationKind} {kind : EventKind}
    (h : worthAnnouncing kind last = true) : (asNotificationKind kind).isSome := by
  cases kind <;> first
    | rfl
    | (simp [worthAnnouncing, problemResolvedBy, isNotifyingEvent, asSubscriptionKind] at h)

/-- What `planNotification` is told was announced last. -/
def previous (s : AlertState) (fact : AlertFact) : Option NotificationKind :=
  if (problemResolvedBy fact.kind).isNone then none
  else s.lastAnnounced fact.subject (relevantKinds fact.kind) fact.incidentId

/-- The fact is worth a notification, and a destination is subscribed to it. -/
def tells (s : AlertState) (fact : AlertFact) : Bool :=
  worthAnnouncing fact.kind (s.previous fact) &&
    (asSubscriptionKind (subscriptionKindFor fact.kind)).any fun kind =>
      !(s.destinationsSubscribedTo kind).isEmpty

/-- The event of a fact has no notification. -/
def Untold (s : AlertState) (fact : AlertFact) : Prop :=
  ∀ notification ∈ s.notifications, notification.subject = fact.subject →
    notification.dedupeKey ≠ .event fact.statusEventId

lemma planNotification_unworthy (h : worthAnnouncing fact.kind (s.previous fact) = false) :
    planNotification fact s.lastAnnounced = none := by
  have hprevious : worthAnnouncing fact.kind (if (problemResolvedBy fact.kind).isNone then none
      else s.lastAnnounced fact.subject (relevantKinds fact.kind) fact.incidentId) = false := h
  simp only [planNotification, hprevious, Bool.not_false, if_true]
  split <;> rfl

lemma announce_silent (htells : s.tells fact = false) : s.announce nanoid createdAt fact = s := by
  cases hworth : worthAnnouncing fact.kind (s.previous fact) with
  | false => rw [announce, planNotification_unworthy hworth]
  | true =>
    simp only [tells, hworth, Bool.true_and, Option.any_eq_false, Bool.not_eq_false'] at htells
    simp only [announce]
    split
    · rfl
    · split
      · rfl
      · next subscribable hsubscribable =>
        have hempty : (s.destinationsSubscribedTo subscribable).isEmpty = true := by
          simpa using htells subscribable hsubscribable
        rw [if_pos hempty]

/-- A fact that is told has its notification created last. -/
lemma announce_told (htells : s.tells fact = true) (hfresh : s.Untold fact) :
    ∃ notification, s.announce nanoid createdAt fact = { s with
        notifications := s.notifications ++ [notification]
        created := s.created ++ [notification] } ∧
      notification.subject = fact.subject ∧
      notification.sourceStatusEventId = fact.statusEventId ∧
      notification.dedupeKey = .event fact.statusEventId ∧
      asNotificationKind fact.kind = some notification.kind := by
  simp only [tells, Bool.and_eq_true, Option.any_eq_true, Bool.not_eq_true'] at htells
  obtain ⟨hworth, subscribable, hsubscribable, hdestinations⟩ := htells
  obtain ⟨kind, hkind⟩ := Option.isSome_iff_exists.1 (asNotificationKind_isSome_of_worth hworth)
  have hworth' : worthAnnouncing fact.kind (if (problemResolvedBy fact.kind).isNone then none
      else s.lastAnnounced fact.subject (relevantKinds fact.kind) fact.incidentId) = true := hworth
  have hunused : (s.notifications.any fun notification =>
      notification.subject == fact.subject &&
        notification.dedupeKey == dedupeKeyFor fact.statusEventId) = false := by
    rw [List.any_eq_false]
    intro notification hmem
    simp only [Bool.and_eq_true, beq_iff_eq, not_and]
    exact hfresh notification hmem
  refine ⟨{
    id := nanoid s.created.length
    kind := kind
    title := (notificationCopy kind fact.subjectName).title
    body := (notificationCopy kind fact.subjectName).body
    subject := fact.subject
    dedupeKey := .event fact.statusEventId
    sourceStatusEventId := fact.statusEventId
    createdAt := createdAt }, ?_, rfl, rfl, rfl, hkind⟩
  simp only [announce, planNotification, hkind, hworth', Bool.not_true, Bool.false_eq_true,
    if_false, hsubscribable, hdestinations, createNotification, hunused]
  rfl

/-! ## What holds of the notifications -/

/-- The facts that are pending come after what is told, and every notification was created for a
fact that its subject's recorder told. -/
structure Told (s : AlertState) (pending : List AlertFact) : Prop where
  sound : ∀ subject, Sound subject (s.log subject)
  kept : ∀ notification ∈ s.notifications, notification ∈ s.created
  named : ∀ notification ∈ s.created,
    notification.dedupeKey = .event notification.sourceStatusEventId ∧
      ∃ fact ∈ (s.log notification.subject).told,
        fact.statusEventId = notification.sourceStatusEventId ∧
          asNotificationKind fact.kind = some notification.kind
  ordered : s.created.Pairwise fun first second => first.subject = second.subject →
    first.sourceStatusEventId < second.sourceStatusEventId
  before : ∀ notification ∈ s.created, ∀ fact ∈ pending, notification.subject = fact.subject →
    notification.sourceStatusEventId < fact.statusEventId
  pendingTold : ∀ fact ∈ pending, fact ∈ (s.log fact.subject).told
  pendingOrdered : pending.Pairwise fun first second => first.subject = second.subject →
    first.statusEventId < second.statusEventId

variable {facts : List AlertFact}

lemma Told.untold (h : Told s (fact :: facts)) : s.Untold fact := by
  intro notification hmem hsubject hkey
  have hcreated := h.kept notification hmem
  have hlt := h.before notification hcreated fact List.mem_cons_self hsubject
  rw [(h.named notification hcreated).1, DedupeKey.event.injEq] at hkey
  omega

/-- The incident of an event that was told is the one it was told under, if it resolves a
problem. -/
lemma Told.incidentOf (h : Told s facts) (htold : fact ∈ (s.log fact.subject).told)
    (hproblem : (problemResolvedBy fact.kind).isSome) :
    s.incidentOf fact.subject fact.statusEventId = fact.incidentId := by
  obtain ⟨-, incidentId, hevent, hsame⟩ := (h.sound fact.subject).told fact htold
  rw [incidentOf_eq, hevent]
  exact hsame hproblem

/-- The notification that a fact comes to is created last. -/
lemma Told.push (h : Told s (fact :: facts)) {notification : Notification}
    (hsubject : notification.subject = fact.subject)
    (hsource : notification.sourceStatusEventId = fact.statusEventId)
    (hkey : notification.dedupeKey = .event fact.statusEventId)
    (hkind : asNotificationKind fact.kind = some notification.kind) :
    Told { s with
      notifications := s.notifications ++ [notification]
      created := s.created ++ [notification] } facts where
  sound := h.sound
  kept := by
    intro n hn
    obtain hn | hn := List.mem_append.1 hn
    · exact List.mem_append_left _ (h.kept n hn)
    · exact List.mem_append_right _ hn
  named := by
    intro n hn
    obtain hn | hn := List.mem_append.1 hn
    · exact h.named n hn
    · obtain rfl := List.mem_singleton.1 hn
      have htold := h.pendingTold fact List.mem_cons_self
      rw [← hsubject] at htold
      exact ⟨hsource ▸ hkey, fact, htold, hsource.symm, hkind⟩
  ordered := by
    refine List.pairwise_append.2 ⟨h.ordered, List.pairwise_singleton _ _, ?_⟩
    intro n hn last hlast hsame
    obtain rfl := List.mem_singleton.1 hlast
    rw [hsource]
    exact h.before n hn fact List.mem_cons_self (hsame.trans hsubject)
  before := by
    intro n hn next hnext hsame
    obtain hn | hn := List.mem_append.1 hn
    · exact h.before n hn next (List.mem_cons_of_mem _ hnext) hsame
    · obtain rfl := List.mem_singleton.1 hn
      rw [hsource]
      exact (List.pairwise_cons.1 h.pendingOrdered).1 next hnext (hsubject.symm.trans hsame)
  pendingTold := fun next hnext => h.pendingTold next (List.mem_cons_of_mem _ hnext)
  pendingOrdered := (List.pairwise_cons.1 h.pendingOrdered).2

lemma Told.tail (h : Told s (fact :: facts)) : Told s facts where
  sound := h.sound
  kept := h.kept
  named := h.named
  ordered := h.ordered
  before := fun n hn next hnext => h.before n hn next (List.mem_cons_of_mem _ hnext)
  pendingTold := fun next hnext => h.pendingTold next (List.mem_cons_of_mem _ hnext)
  pendingOrdered := (List.pairwise_cons.1 h.pendingOrdered).2

/-- **One announcement.** -/
lemma Told.announce (h : Told s (fact :: facts)) :
    Told (s.announce nanoid createdAt fact) facts := by
  cases htells : s.tells fact with
  | false =>
    rw [announce_silent htells]
    exact h.tail
  | true =>
    obtain ⟨notification, heq, hsubject, hsource, hkey, hkind⟩ :=
      announce_told htells h.untold
    rw [heq]
    exact h.push hsubject hsource hkey hkind

/-- **At most one recovery of a subject was created under each incident.** -/
lemma Told.recoveriesOnce (h : Told s facts) : s.RecoveriesOnce := by
  refine h.ordered.imp_of_mem fun {first second} hfirst hsecond hlt hsubject hresolves hresolves'
    hsame => ?_
  by_contra hsome
  obtain ⟨incidentId, hincident⟩ := Option.ne_none_iff_exists'.1 hsome
  obtain ⟨-, fact, htold, hsource, hkind⟩ := h.named first hfirst
  obtain ⟨-, fact', htold', hsource', hkind'⟩ := h.named second hsecond
  have hproblem := (resolves_isSome hkind).1 hresolves
  have hproblem' := (resolves_isSome hkind').1 hresolves'
  have hlog := h.sound first.subject
  obtain ⟨-, under, hevent, -⟩ := hlog.told fact htold
  rw [← hsubject] at htold'
  obtain ⟨-, under', hevent', -⟩ := hlog.told fact' htold'
  have hunder : under = some incidentId := by
    rw [incident, incidentOf_eq, ← hsource, hevent] at hincident
    exact hincident
  have hunder' : under' = some incidentId := by
    rw [hsame, incident, incidentOf_eq, ← hsource', ← hsubject, hevent'] at hincident
    exact hincident
  rw [hunder] at hevent
  rw [hunder'] at hevent'
  have hnumber := hlog.once _ _ _ _ _ hevent hevent' hproblem hproblem'
  have := hlt hsubject
  omega

/-! ## Founded recoveries -/

/-- A notification created last is founded if it resolves nothing or its problem was created before
it, under its incident. -/
lemma founded_push (s : AlertState) (notification : Notification) :
    { s with
      notifications := s.notifications ++ [notification]
      created := s.created ++ [notification] : AlertState }.RecoveriesFounded ↔
    s.RecoveriesFounded ∧ ∀ problem, notification.resolves = some problem →
      ∃ incidentId, s.incident notification = some incidentId ∧
        ∃ earlier ∈ s.created, earlier.subject = notification.subject ∧ earlier.kind = problem ∧
          s.incident earlier = some incidentId := by
  constructor
  · intro h
    constructor
    · intro earlier recovery later problem hcreated hresolves
      refine h earlier recovery (later ++ [notification]) problem ?_ hresolves
      simp [hcreated]
    · intro problem hresolves
      exact h s.created notification [] problem rfl hresolves
  · rintro ⟨hs, hlast⟩ earlier recovery later problem hcreated hresolves
    obtain rfl | ⟨later', last, rfl⟩ := List.eq_nil_or_concat later
    · obtain ⟨rfl, hrecovery⟩ := List.append_inj' hcreated rfl
      obtain rfl := (List.cons.inj hrecovery).1
      exact hlast problem hresolves
    · have hparts : s.created ++ [notification] = (earlier ++ recovery :: later') ++ [last] := by
        simpa using hcreated
      obtain ⟨hinit, -⟩ := List.append_inj' hparts rfl
      exact hs earlier recovery later' problem hinit hresolves

lemma tells_eq_tellable (h : unfounded fact = true) : s.tells fact = s.tellable fact := by
  simp only [unfounded, Bool.and_eq_true, Option.isNone_iff_eq_none] at h
  obtain ⟨hproblem, hnone⟩ := h
  have hsome : (problemResolvedBy fact.kind).isNone = false := by simpa using hproblem
  simp only [tells, tellable, previous, hsome, hnone, Bool.false_eq_true, if_false]

/-- A recovery that is told under an incident was looked up under it. -/
lemma Told.founded_of_tells (h : Told s (fact :: facts)) {notification : Notification}
    {problem : NotificationKind} {incidentId : Nat} (htells : s.tells fact = true)
    (hkind : asNotificationKind fact.kind = some notification.kind)
    (hresolves : notification.resolves = some problem)
    (hincident : fact.incidentId = some incidentId) :
    ∃ earlier ∈ s.created, earlier.subject = fact.subject ∧ earlier.kind = problem ∧
      s.incident earlier = some incidentId := by
  rw [resolves_eq hkind] at hresolves
  obtain ⟨kind, hproblem, hkind'⟩ := Option.bind_eq_some_iff.1 hresolves
  simp only [tells, Bool.and_eq_true, worthAnnouncing, previous, hproblem, Option.isNone_some,
    Bool.false_eq_true, if_false, Option.any_eq_true, beq_iff_eq, hkind', Option.some.injEq]
    at htells
  obtain ⟨⟨last, hlast, hsame⟩, -⟩ := htells
  obtain ⟨earlier, hfound, rfl⟩ := Option.map_eq_some_iff.1 hlast
  obtain ⟨hmem, hsubject, hunder⟩ := mem_of_lastAnnouncedAmong hfound
  have hsome : fact.incidentId.isSome := by simp [hincident]
  exact ⟨earlier, h.kept earlier hmem, hsubject, hsame.symm, (hunder hsome).trans hincident⟩

/-- **One announcement** keeps the recoveries founded if and only if it tells of no recovery outside
an incident. -/
lemma Told.founded_announce (h : Told s (fact :: facts)) (hs : s.RecoveriesFounded) :
    (s.announce nanoid createdAt fact).RecoveriesFounded ↔
      (unfounded fact && s.tellable fact) = false := by
  cases htells : s.tells fact with
  | false =>
    rw [announce_silent htells]
    refine iff_of_true hs ?_
    cases hunfounded : unfounded fact with
    | false => rfl
    | true => rw [← tells_eq_tellable hunfounded, htells, Bool.and_false]
  | true =>
    obtain ⟨notification, heq, hsubject, hsource, -, hkind⟩ :=
      announce_told htells h.untold
    rw [heq, founded_push]
    simp only [hs, true_and]
    have htold := h.pendingTold fact List.mem_cons_self
    by_cases hproblem : (problemResolvedBy fact.kind).isSome
    · have hunder : s.incident notification = fact.incidentId := by
        rw [incident, hsubject, hsource]
        exact h.incidentOf htold hproblem
      cases hincident : fact.incidentId with
      | none =>
        have hunfounded : unfounded fact = true := by simp [unfounded, hproblem, hincident]
        rw [← tells_eq_tellable hunfounded, htells, hunfounded]
        refine iff_of_false (fun hfounded => ?_) (by simp)
        obtain ⟨problem, hresolves⟩ :=
          Option.isSome_iff_exists.1 ((resolves_isSome hkind).2 hproblem)
        obtain ⟨incidentId, hsome, -⟩ := hfounded problem hresolves
        rw [hunder, hincident] at hsome
        cases hsome
      | some incidentId =>
        have hunfounded : unfounded fact = false := by simp [unfounded, hincident]
        rw [hunfounded, Bool.false_and]
        refine iff_of_true (fun problem hresolves => ?_) rfl
        refine ⟨incidentId, hunder.trans hincident, ?_⟩
        rw [hsubject]
        exact h.founded_of_tells htells hkind hresolves hincident
    · have hunfounded : unfounded fact = false := by simp [unfounded, hproblem]
      rw [hunfounded, Bool.false_and]
      refine iff_of_true (fun problem hresolves => ?_) rfl
      have hsome := (resolves_isSome hkind).1 (by simp [hresolves])
      exact absurd hsome hproblem

/-- Recoveries that are founded were so before. -/
lemma founded_of_announceAll (h : Told s facts)
    (ht : (s.announceAll nanoid createdAt facts).RecoveriesFounded) : s.RecoveriesFounded := by
  induction facts generalizing s with
  | nil => exact ht
  | cons fact facts ih =>
    have hnext := ih h.announce ht
    cases htells : s.tells fact with
    | false => rwa [announce_silent htells] at hnext
    | true =>
      obtain ⟨notification, heq, -⟩ := announce_told htells h.untold
      rw [heq] at hnext
      exact ((founded_push s notification).1 hnext).1

/-- **The announcements of a transaction.** -/
lemma Told.announceAll (h : Told s facts) : Told (s.announceAll nanoid createdAt facts) [] ∧
    (s.RecoveriesFounded → ((s.announceAll nanoid createdAt facts).RecoveriesFounded ↔
      s.silentOutsideIncidents nanoid createdAt facts = true)) := by
  induction facts generalizing s with
  | nil => exact ⟨h, fun hs => iff_of_true hs rfl⟩
  | cons fact facts ih =>
    obtain ⟨htold, hiff⟩ := ih (s := s.announce nanoid createdAt fact) h.announce
    refine ⟨htold, fun hs => ?_⟩
    have hfirst : (s.announce nanoid createdAt fact).RecoveriesFounded ↔ _ := h.founded_announce hs
    simp only [silentOutsideIncidents, Bool.and_eq_true, Bool.not_eq_true']
    constructor
    · intro hall
      have hnext := founded_of_announceAll h.announce hall
      exact ⟨hfirst.1 hnext, (hiff hnext).1 hall⟩
    · rintro ⟨hsilent, hrest⟩
      exact (hiff (hfirst.2 hsilent)).2 hrest

lemma silent_of_founded (h : ∀ fact ∈ facts, unfounded fact = false) :
    s.silentOutsideIncidents nanoid createdAt facts = true := by
  induction facts generalizing s with
  | nil => rfl
  | cons fact facts ih =>
    simp only [silentOutsideIncidents, h fact List.mem_cons_self, Bool.false_and, Bool.not_false,
      Bool.true_and]
    exact ih fun next hnext => h next (List.mem_cons_of_mem _ hnext)

/-! ## Transactions -/

lemma founded_congr (hcreated : t.created = s.created)
    (hincident : ∀ n ∈ s.created, t.incident n = s.incident n) (h : s.RecoveriesFounded) :
    t.RecoveriesFounded := by
  intro earlier recovery later problem hsplit hresolves
  rw [hcreated] at hsplit
  obtain ⟨incidentId, hunder, notification, hmem, hsubject, hkind, hsame⟩ :=
    h earlier recovery later problem hsplit hresolves
  have hrecovery : recovery ∈ s.created := by simp [hsplit]
  have hnotification : notification ∈ s.created := hsplit ▸ List.mem_append_left _ hmem
  exact ⟨incidentId, (hincident recovery hrecovery).trans hunder, notification, hmem, hsubject,
    hkind, (hincident notification hnotification).trans hsame⟩

/-- What the recorders of a transaction tell is pending, and founded is what was founded. -/
lemma Told.begins (h : Told s []) (hcreated : t.created = s.created)
    (hnotifications : t.notifications = s.notifications)
    (hchain : ∀ subject, ReflTransGen (Effect subject) (s.log subject) (t.log subject))
    {subject : Subject} (hfacts : (t.log subject).told = (s.log subject).told ++ facts) :
    Told t facts ∧ (t.RecoveriesFounded ↔ s.RecoveriesFounded) := by
  have hextends := fun subject => IncidentLog.extends_of_chain (hchain subject)
  have hsound := fun subject => IncidentLog.sound_of_chain (hchain subject) (h.sound subject)
  have hsubject : ∀ fact ∈ facts, fact.subject = subject ∧ fact ∈ (t.log subject).told := by
    intro fact hfact
    have hmem : fact ∈ (t.log subject).told := hfacts ▸ List.mem_append_right _ hfact
    exact ⟨((hsound subject).told fact hmem).1, hmem⟩
  have hordered := (hsound subject).ordered
  rw [hfacts, List.pairwise_append] at hordered
  refine ⟨{
    sound := hsound
    kept := by
      rw [hcreated, hnotifications]
      exact h.kept
    named := fun n hn => ?_
    ordered := hcreated ▸ h.ordered
    before := fun n hn fact hfact hsame => ?_
    pendingTold := fun fact hfact => ?_
    pendingOrdered := ?_ }, ?_⟩
  · rw [hcreated] at hn
    obtain ⟨hkey, fact, htold, hsource, hkind⟩ := h.named n hn
    obtain ⟨rest, hrest⟩ := (hextends n.subject).told
    exact ⟨hkey, fact, hrest ▸ List.mem_append_left _ htold, hsource, hkind⟩
  · rw [hcreated] at hn
    obtain ⟨-, told, htold, hsource, -⟩ := h.named n hn
    rw [hsame, (hsubject fact hfact).1] at htold
    have hlt := hordered.2.2 told htold fact hfact
    omega
  · rw [(hsubject fact hfact).1]
    exact (hsubject fact hfact).2
  · refine hordered.2.1.imp ?_
    intro first second hlt _
    exact hlt
  · -- An event that was told is found where it was.
    have hincident : ∀ n ∈ s.created, t.incident n = s.incident n := by
      intro n hn
      obtain ⟨-, fact, htold, hsource, -⟩ := h.named n hn
      obtain ⟨-, under, hevent, -⟩ := (h.sound n.subject).told fact htold
      rw [incident, incident, incidentOf_eq, incidentOf_eq, ← hsource, hevent,
        (hextends n.subject).getElem? hevent]
    have hback : ∀ n ∈ t.created, s.incident n = t.incident n :=
      fun n hn => (hincident n (hcreated ▸ hn)).symm
    exact ⟨founded_congr hcreated.symm hback, founded_congr hcreated hincident⟩

lemma hosts_announce (s : AlertState) (fact : AlertFact) :
    (s.announce nanoid createdAt fact).hosts = s.hosts := by
  simp only [announce, createNotification]
  repeat' split
  all_goals rfl

lemma hosts_announceAll (s : AlertState) (facts : List AlertFact) :
    (s.announceAll nanoid createdAt facts).hosts = s.hosts := by
  induction facts generalizing s with
  | nil => rfl
  | cons fact facts ih =>
    have hrest := ih (s.announce nanoid createdAt fact)
    exact hrest.trans (s.hosts_announce fact)

/-- What holds in every run. -/
structure Kept (s : AlertState) : Prop where
  told : Told s []
  down : ∀ hostId, (s.hosts hostId).DownUnderIncident

lemma hostFacts_told (s : AlertState) (observation : HostProbe) (now : Int)
    (hs : (s.hosts observation.hostId).DownUnderIncident) :
    (s.probed observation now).announced =
      (s.hosts observation.hostId).announced ++ s.hostFacts observation now ∧
    ∀ fact ∈ s.hostFacts observation now, unfounded fact = false := by
  obtain ⟨-, -, facts, hannounced, hfounded⟩ :=
    HostRecorder.recordHostReachability_tells observation now hs
  have hfacts : s.hostFacts observation now = facts := by
    rw [hostFacts, probed, hannounced, List.drop_left]
  rw [hfacts]
  exact ⟨hannounced, hfounded⟩

/-- **A probe** keeps the recoveries founded. -/
lemma Kept.probes (h : Kept s) (observation : HostProbe) (now : Int) (queueTakes : Bool) :
    Kept (s.probes nanoid observation now createdAt queueTakes) ∧
      (s.RecoveriesFounded →
        (s.probes nanoid observation now createdAt queueTakes).RecoveriesFounded) := by
  have hs := h.down observation.hostId
  obtain ⟨hannounced, hfounded⟩ := hostFacts_told s observation now hs
  have htells := HostRecorder.recordHostReachability_tells observation now hs
  have hchain : ∀ subject, ReflTransGen (Effect subject) (s.log subject)
      ((s.onHost observation.hostId (s.probed observation now)).log subject) := by
    intro subject
    cases subject with
    | bot instanceId => exact .refl
    | host hostId =>
      by_cases hsame : hostId = observation.hostId
      · subst hsame
        simp only [log, onHost, Function.update_self]
        exact htells.chain
      · simp only [log, onHost, Function.update_of_ne hsame]
        exact .refl
  have hfacts : ((s.onHost observation.hostId (s.probed observation now)).log
      (.host observation.hostId)).told =
      (s.log (.host observation.hostId)).told ++ s.hostFacts observation now := by
    simp only [log, onHost, Function.update_self, HostRecorder.log]
    exact hannounced
  have hbegins : Told (s.onHost observation.hostId (s.probed observation now))
      (s.hostFacts observation now) ∧ _ := h.told.begins rfl rfl hchain hfacts
  obtain ⟨hpending, hiff⟩ := hbegins
  have hall : Told (AlertState.announceAll nanoid createdAt _ _) [] ∧ _ := hpending.announceAll
  simp only [AlertState.probes]
  split
  · refine ⟨⟨hall.1, fun hostId => ?_⟩, fun hs => ?_⟩
    · rw [hosts_announceAll]
      by_cases hsame : hostId = observation.hostId
      · subst hsame
        simp only [onHost, Function.update_self]
        exact htells.down
      · simp only [onHost, Function.update_of_ne hsame]
        exact h.down hostId
    · exact (hall.2 (hiff.2 hs)).2 (silent_of_founded hfounded)
  · exact ⟨h, id⟩

/-- **A transaction of a bot** keeps the recoveries founded if and only if it announces none outside
the bot's incidents. -/
lemma Kept.connects (h : Kept s) (instanceId : Nat) (event : HistoryEvent) :
    Kept (s.connects nanoid instanceId event createdAt) ∧ (s.RecoveriesFounded →
      ((s.connects nanoid instanceId event createdAt).RecoveriesFounded ↔
        announcesUnderIncidents nanoid s (.connects instanceId event createdAt) = true)) := by
  have hstep : statusHistory.step (s.bots instanceId) event =
      some (s.connected instanceId event) := by
    cases event with
    | records answers name now changes => rfl
    | escalates answers name now incidentId => rfl
  have hbot : ReflTransGen (Effect (.bot instanceId)) ((s.bots instanceId).log instanceId)
      ((s.connected instanceId event).log instanceId) := RecorderState.chain_step hstep
  have hchain : ∀ subject, ReflTransGen (Effect subject) (s.log subject)
      ((s.onBot instanceId (s.connected instanceId event)).log subject) := by
    intro subject
    cases subject with
    | host hostId => exact .refl
    | bot id =>
      by_cases hsame : id = instanceId
      · subst hsame
        simp only [log, onBot, Function.update_self]
        exact hbot
      · simp only [log, onBot, Function.update_of_ne hsame]
        exact .refl
  have hfacts : ((s.onBot instanceId (s.connected instanceId event)).log (.bot instanceId)).told =
      (s.log (.bot instanceId)).told ++ s.botFacts instanceId event := by
    obtain ⟨rest, hrest⟩ := (IncidentLog.extends_of_chain hbot).told
    simp only [log, onBot, Function.update_self]
    have hlength : ((s.bots instanceId).log instanceId).told.length =
        (s.bots instanceId).announced.length := by
      simp [RecorderState.log, RecorderState.logUnder]
    have hbotFacts : s.botFacts instanceId event = rest := by
      have hdrop := congrArg (List.drop (s.bots instanceId).announced.length) hrest
      rw [← hlength, List.drop_left, hlength] at hdrop
      rw [hdrop, botFacts, RecorderState.log, RecorderState.logUnder, List.map_drop]
    rw [hbotFacts, hrest]
  have hbegins : Told (s.onBot instanceId (s.connected instanceId event))
      (s.botFacts instanceId event) ∧ _ := h.told.begins rfl rfl hchain hfacts
  obtain ⟨hpending, hiff⟩ := hbegins
  have hall : Told (AlertState.announceAll nanoid createdAt _ _) [] ∧ _ := hpending.announceAll
  refine ⟨⟨hall.1, fun hostId => ?_⟩, fun hs => hall.2 (hiff.2 hs)⟩
  rw [AlertState.connects, hosts_announceAll]
  exact h.down hostId

/-- **One step.** -/
lemma Kept.step (h : Kept s) {e : AlertEvent} (hstep : (alerts nanoid).step s e = some t) :
    Kept t ∧ (s.RecoveriesFounded →
      (t.RecoveriesFounded ↔ announcesUnderIncidents nanoid s e = true)) := by
  cases e with
  | probes observation now createdAt queueTakes =>
    obtain rfl := Option.some.inj hstep
    obtain ⟨hkept, hfounded⟩ := h.probes observation now queueTakes
    exact ⟨hkept, fun hs => iff_of_true (hfounded hs) rfl⟩
  | connects instanceId event createdAt =>
    obtain rfl := Option.some.inj hstep
    exact h.connects instanceId event
  | configures destinations =>
    obtain rfl := Option.some.inj hstep
    exact ⟨⟨⟨h.told.sound, h.told.kept, h.told.named, h.told.ordered, h.told.before,
      h.told.pendingTold, h.told.pendingOrdered⟩, h.down⟩, fun hs => iff_of_true hs rfl⟩
  | cleansUp ids =>
    obtain rfl := Option.some.inj hstep
    have hkept : ∀ n ∈ s.notifications.filter fun n => !ids.contains n.id, n ∈ s.created :=
      fun n hn => h.told.kept n (List.mem_filter.1 hn).1
    exact ⟨⟨⟨h.told.sound, hkept, h.told.named, h.told.ordered, h.told.before,
      h.told.pendingTold, h.told.pendingOrdered⟩, h.down⟩, fun hs => iff_of_true hs rfl⟩

lemma kept_init (h : (alerts nanoid).init s) : Kept s ∧ s.RecoveriesFounded := by
  obtain rfl : s = _ := h
  refine ⟨⟨⟨fun subject => ?_, nofun, nofun, .nil, nofun, nofun, .nil⟩, fun hostId => nofun⟩, ?_⟩
  · cases subject with
    | host hostId => exact IncidentLog.sound_noIncidents _
    | bot instanceId => exact IncidentLog.sound_noIncidents _
  · intro earlier recovery later problem hcreated
    exact absurd hcreated (by simp)

end AlertState

open AlertState

/-- **Recoveries are told of what was told.**  In every run in which no transaction announces a
reconnection outside the incidents of its bot, each recovery was created after its problem was,
under the same incident, and no two under one.  A next step keeps that if and only if it meets the
condition. -/
theorem recoveries_founded {nanoid : Nat → Nat} {s : AlertState}
    (h : (alerts nanoid).Reachable (meets (announcesUnderIncidents nanoid)) s) :
    s.RecoveriesFounded ∧ s.RecoveriesOnce ∧ ∀ e t, (alerts nanoid).step s e = some t →
      (t.RecoveriesFounded ∧ t.RecoveriesOnce ↔ announcesUnderIncidents nanoid s e = true) := by
  obtain ⟨hkept, hfounded⟩ : Kept s ∧ s.RecoveriesFounded := by
    refine h.invariant (I := fun s => Kept s ∧ s.RecoveriesFounded) (fun s hs => kept_init hs)
      fun t e u ht hguard hstep => ?_
    obtain ⟨hu, hiff⟩ := ht.1.step hstep
    exact ⟨hu, (hiff ht.2).2 hguard⟩
  refine ⟨hfounded, hkept.told.recoveriesOnce, fun e t hstep => ?_⟩
  obtain ⟨ht, hiff⟩ := hkept.step hstep
  rw [← hiff hfounded]
  exact and_iff_left ht.told.recoveriesOnce

/-- A destination that is told of bots that leave their server. -/
def listening : DestinationRow where
  enabled := true
  subscribedTo := [.instanceDisconnected]
  lastSucceededAt := none
  lastFailedAt := none
  lastFailureReason := none

/-- An organization of which nothing is known. -/
def nothingKnown : AlertState where
  hosts := fun _ => unprobed
  bots := fun _ => unrecorded
  destinations := []
  notifications := []
  created := []

/-- A bot leaves its server, and comes back after that was told. -/
def leavesAndReturns : List AlertEvent := [
  .configures [listening],
  .connects 0 (.records .taken [] 1000
    [⟨.interrupted, 1000, none, some .instanceConnectionLost, none⟩]) 1000,
  .connects 0 (.escalates .taken [] 121000 0) 121000,
  .connects 0 (.records .taken [] 130000
    [⟨.joined, 130000, none, some .instanceReconnected, none⟩]) 130000]

/-- Both are told. -/
theorem recoveries_founded_returned :
    ∃ s, (alerts id).exec nothingKnown leavesAndReturns = some s ∧ s.created.length = 2 ∧
      s.RecoveriesFounded ∧ s.RecoveriesOnce := by
  obtain ⟨s, hexec, hrun, htwo⟩ : ∃ s,
      (alerts id).exec nothingKnown leavesAndReturns = some s ∧
      (alerts id).execUnder (announcesUnderIncidents id) nothingKnown leavesAndReturns = some s ∧
      s.created.length = 2 := ⟨_, rfl, rfl, rfl⟩
  obtain ⟨hfounded, honce, -⟩ := recoveries_founded (.of_execUnder rfl hrun)
  exact ⟨s, hexec, htwo, hfounded, honce⟩

/-- The destination is off when the bot comes back, so nobody hears of it.  The bot is stopped, the
destination is turned on, and the bot is started: it is told to be back on the server, though no
problem of it was told since it came back. -/
theorem recovery_of_another_incident :
    ¬∀ s, (alerts id).Reachable free s → s.RecoveriesFounded ∧ s.RecoveriesOnce := by
  intro hclaim
  obtain ⟨s, problem, recovery, hrun, hcreated, hresolves, hincident⟩ : ∃ s problem recovery,
      (alerts id).exec nothingKnown [
        .configures [listening],
        .connects 0 (.records .taken [] 1000
          [⟨.interrupted, 1000, none, some .instanceConnectionLost, none⟩]) 1000,
        .connects 0 (.escalates .taken [] 121000 0) 121000,
        .configures [{ listening with enabled := false }],
        .connects 0 (.records .taken [] 130000
          [⟨.joined, 130000, none, some .instanceReconnected, none⟩]) 130000,
        .connects 0 (.records .taken [] 140000
          [⟨.down, 140000, none, some .instanceStopped, none⟩]) 140000,
        .configures [listening],
        .connects 0 (.records .taken [] 150000
          [⟨.joined, 150000, none, some .instanceReconnected, none⟩]) 150000] = some s ∧
      s.created = [problem] ++ recovery :: [] ∧
      recovery.resolves = some .instanceDisconnected ∧ s.incident recovery = none :=
    ⟨_, _, _, rfl, rfl, rfl, rfl⟩
  have hfounded := (hclaim s (.of_exec rfl hrun)).1
  obtain ⟨incidentId, hsome, -⟩ := hfounded [problem] recovery [] _ hcreated hresolves
  rw [hincident] at hsome
  cases hsome

end OpenMcc

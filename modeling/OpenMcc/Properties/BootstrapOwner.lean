import OpenMcc.Construction.BootstrapOwner
import OpenMcc.Framework.Heap

/-!
# A deployment gets one owner, and can be set up again

A call signs up only under the lock and after it has found no user, so there is one account at a
time.  An account that owns no organization is that of a call which is still running, unless the
call ended on the way (`Alone`).
-/

namespace OpenMcc

open TransitionSystem

/-- The events, each with the state it leads to. -/
inductive BootstrapMove (s : BootstrapState) : BootstrapEvent → BootstrapState → Prop
  | isRefused {call} : s.calls call = none → s.users ≠ [] →
      BootstrapMove s (.asks call) (s.setCall call (.ended .usersAlreadyExist))
  | isAdmitted {call} : s.calls call = none →
      BootstrapMove s (.asks call) (s.setCall call .admitted)
  | locks {call} : s.calls call = some .admitted → s.lock = none →
      BootstrapMove s (.locks call) { s.setCall call .locked with lock := some call }
  | cannotLock {call} : s.calls call = some .admitted →
      BootstrapMove s (.cannotLock call) (s.setCall call (.ended .failed))
  | isRefusedUnderLock {call} : s.calls call = some .locked → s.users ≠ [] →
      BootstrapMove s (.checks call) (s.setCall call (.releasing .usersAlreadyExist))
  | checks {call} : s.calls call = some .locked → s.users = [] →
      BootstrapMove s (.checks call) (s.setCall call .checked)
  | signsUp {call} : s.calls call = some .checked →
      BootstrapMove s (.signsUp call)
        { s.setCall call .signedUp with users := s.users ++ [call] }
  | signUpFails {call took} : s.calls call = some .checked →
      BootstrapMove s (.signUpFails call took) { s.setCall call (.releasing .failed) with
        users := if took then s.users ++ [call] else s.users }
  | createsOrganization {call} : s.calls call = some .signedUp →
      BootstrapMove s (.createsOrganization call) { s.setCall call (.releasing .created) with
        organizations := s.organizations ++ [call] }
  | organizationFails {call took} : s.calls call = some .signedUp →
      BootstrapMove s (.organizationFails call took) { s.setCall call .removing with
        organizations := if took then s.organizations ++ [call] else s.organizations }
  | removesUser {call} : s.calls call = some .removing →
      BootstrapMove s (.removesUser call) { s.setCall call (.releasing .failed) with
        users := s.users.filter (· != call) }
  | removalFails {call took} : s.calls call = some .removing →
      BootstrapMove s (.removalFails call took) { s.setCall call (.releasing .failed) with
        users := if took then s.users.filter (· != call) else s.users }
  | releases {call outcome} : s.calls call = some (.releasing outcome) →
      BootstrapMove s (.releases call)
        { s.setCall call (.ended outcome) with lock := s.unlocked call }
  | losesLock {call} : s.lock = some call →
      BootstrapMove s (.losesLock call) { s with lock := none }
  | stops {call stage} : s.calls call = some stage → (∀ outcome, stage ≠ .ended outcome) →
      BootstrapMove s (.stops call)
        { s.setCall call (.ended .stopped) with lock := s.unlocked call }

namespace BootstrapState

variable {s t : BootstrapState} {e : BootstrapEvent} {call : Nat}

lemma anyUserExists_iff : s.anyUserExists = true ↔ s.users ≠ [] := by
  rw [anyUserExists, Bool.not_eq_true', ← Bool.not_eq_true, List.isEmpty_iff]

/-- **What an event does.** -/
lemma move_of_step (h : bootstrapOwner.step s e = some t) : BootstrapMove s e t := by
  cases e with
  | asks call =>
    simp only [bootstrapOwner, asks, Option.ite_none_left_eq_some, anyUserExists_iff] at h
    obtain ⟨hnew, h⟩ := h
    have hnone := Option.not_isSome_iff_eq_none.mp hnew
    split at h
    · next husers => exact Option.some.inj h ▸ .isRefused hnone husers
    · exact Option.some.inj h ▸ .isAdmitted hnone
  | locks call =>
    simp only [bootstrapOwner, locks, Option.ite_none_right_eq_some] at h
    exact Option.some.inj h.2 ▸ .locks h.1.1 h.1.2
  | cannotLock call =>
    simp only [bootstrapOwner, cannotLock, Option.ite_none_right_eq_some] at h
    exact Option.some.inj h.2 ▸ .cannotLock h.1
  | checks call =>
    simp only [bootstrapOwner, checks, Option.ite_none_right_eq_some, anyUserExists_iff] at h
    obtain ⟨hlocked, h⟩ := h
    split at h
    · next husers => exact Option.some.inj h ▸ .isRefusedUnderLock hlocked husers
    · next husers => exact Option.some.inj h ▸ .checks hlocked (not_not.mp husers)
  | signsUp call =>
    simp only [bootstrapOwner, signsUp, Option.ite_none_right_eq_some] at h
    exact Option.some.inj h.2 ▸ .signsUp h.1
  | signUpFails call took =>
    simp only [bootstrapOwner, signUpFails, Option.ite_none_right_eq_some] at h
    exact Option.some.inj h.2 ▸ .signUpFails h.1
  | createsOrganization call =>
    simp only [bootstrapOwner, createsOrganization, Option.ite_none_right_eq_some] at h
    exact Option.some.inj h.2 ▸ .createsOrganization h.1
  | organizationFails call took =>
    simp only [bootstrapOwner, organizationFails, Option.ite_none_right_eq_some] at h
    exact Option.some.inj h.2 ▸ .organizationFails h.1
  | removesUser call =>
    simp only [bootstrapOwner, removesUser, Option.ite_none_right_eq_some] at h
    exact Option.some.inj h.2 ▸ .removesUser h.1
  | removalFails call took =>
    simp only [bootstrapOwner, removalFails, Option.ite_none_right_eq_some] at h
    exact Option.some.inj h.2 ▸ .removalFails h.1
  | releases call =>
    simp only [bootstrapOwner, releases] at h
    split at h
    · next hreleasing => exact Option.some.inj h ▸ .releases hreleasing
    · cases h
  | losesLock call =>
    simp only [bootstrapOwner, losesLock, Option.ite_none_right_eq_some] at h
    exact Option.some.inj h.2 ▸ .losesLock h.1
  | stops call =>
    simp only [bootstrapOwner, stops] at h
    split at h
    · cases h
    · cases h
    · next hopen hstage => exact Option.some.inj h ▸ .stops hstage hopen

/-! ## The lock -/

/-- A call that has not signed up yet has the lock, and no user was there when it checked. -/
structure Exclusive (s : BootstrapState) : Prop where
  holds : ∀ call stage, s.calls call = some stage → stage = .locked ∨ stage = .checked →
    s.lock = some call
  empty : ∀ call, s.calls call = some .checked → s.users = []

lemma Exclusive.holds_step (h : s.Exclusive) (hguard : s.leavesNoAccount e = true)
    (hmove : BootstrapMove s e t) (other : Nat) (stage : BootstrapStage)
    (hother : t.calls other = some stage) (hstage : stage = .locked ∨ stage = .checked) :
    t.lock = some other := by
  have hset : ∀ {call : Nat} {after : BootstrapStage},
      Function.update s.calls call (some after) other = some stage →
      ¬(after = .locked ∨ after = .checked) → other ≠ call ∧ s.lock = some other := by
    intro call after hupdate hafter
    obtain ⟨-, rfl⟩ | ⟨hne, hold⟩ := Heap.put_eq_some hupdate
    · exact absurd hstage hafter
    · exact ⟨hne, h.holds other stage hold hstage⟩
  have hunlocked : ∀ {call : Nat}, other ≠ call ∧ s.lock = some other →
      s.unlocked call = some other := by
    rintro call ⟨hne, hlock⟩
    have hother : s.lock ≠ some call := by
      rw [hlock]
      exact fun heq => hne (Option.some.inj heq)
    rw [unlocked, if_neg hother]
    exact hlock
  cases hmove with
  | isRefused => exact (hset hother (by simp)).2
  | isAdmitted => exact (hset hother (by simp)).2
  | cannotLock => exact (hset hother (by simp)).2
  | isRefusedUnderLock => exact (hset hother (by simp)).2
  | signsUp => exact (hset hother (by simp)).2
  | signUpFails => exact (hset hother (by simp)).2
  | createsOrganization => exact (hset hother (by simp)).2
  | organizationFails => exact (hset hother (by simp)).2
  | removesUser => exact (hset hother (by simp)).2
  | removalFails => exact (hset hother (by simp)).2
  | releases => exact hunlocked (hset hother (by simp))
  | stops => exact hunlocked (hset hother (by simp))
  | locks _ hfree =>
    obtain ⟨rfl, -⟩ | ⟨-, hold⟩ := Heap.put_eq_some hother
    · rfl
    · have hlock := h.holds other stage hold hstage
      rw [hfree] at hlock
      cases hlock
  | checks hlocked =>
    obtain ⟨rfl, -⟩ | ⟨-, hold⟩ := Heap.put_eq_some hother
    · exact h.holds other _ hlocked (.inl rfl)
    · exact h.holds other stage hold hstage
  | losesLock hlock =>
    have hmine := h.holds other stage hother hstage
    rw [hlock, Option.some.injEq] at hmine
    subst hmine
    have hcall : s.calls _ = some stage := hother
    rw [leavesNoAccount, hcall] at hguard
    obtain rfl | rfl := hstage
    · cases hguard
    · cases hguard

/-- Only one call at a time is about to sign up. -/
lemma Exclusive.eq_of_checked (h : s.Exclusive) {other : Nat} (hcall : s.calls call = some .checked)
    (hother : s.calls other = some .checked) : call = other := by
  have hmine := h.holds call _ hcall (.inr rfl)
  rw [h.holds other _ hother (.inr rfl), Option.some.injEq] at hmine
  exact hmine.symm

lemma Exclusive.empty_step (h : s.Exclusive) (hmove : BootstrapMove s e t) (other : Nat)
    (hother : t.calls other = some .checked) : t.users = [] := by
  have hset : ∀ {call : Nat} {after : BootstrapStage},
      Function.update s.calls call (some after) other = some .checked → after ≠ .checked →
      other ≠ call ∧ s.calls other = some .checked := by
    intro call after hupdate hafter
    obtain ⟨-, heq⟩ | hold := Heap.put_eq_some hupdate
    · exact absurd heq.symm hafter
    · exact hold
  have hempty : ∀ {call : Nat} {after : BootstrapStage},
      Function.update s.calls call (some after) other = some .checked → after ≠ .checked →
      s.users = [] := fun hupdate hafter => h.empty other (hset hupdate hafter).2
  cases hmove with
  | isRefused => exact hempty hother (by simp)
  | isAdmitted => exact hempty hother (by simp)
  | locks => exact hempty hother (by simp)
  | cannotLock => exact hempty hother (by simp)
  | isRefusedUnderLock => exact hempty hother (by simp)
  | createsOrganization => exact hempty hother (by simp)
  | organizationFails => exact hempty hother (by simp)
  | releases => exact hempty hother (by simp)
  | stops => exact hempty hother (by simp)
  | checks _ husers => exact husers
  | losesLock => exact h.empty other hother
  | signsUp hchecked =>
    obtain ⟨hne, hold⟩ := hset hother (by simp)
    exact absurd (h.eq_of_checked hold hchecked) hne
  | signUpFails hchecked =>
    obtain ⟨hne, hold⟩ := hset hother (by simp)
    exact absurd (h.eq_of_checked hold hchecked) hne
  | removesUser => simp [hempty hother (by simp)]
  | removalFails => simp [hempty hother (by simp)]

lemma Exclusive.step (h : s.Exclusive) (hguard : s.leavesNoAccount e = true)
    (hmove : BootstrapMove s e t) : t.Exclusive :=
  ⟨h.holds_step hguard hmove, h.empty_step hmove⟩

/-! ## The account -/

/-- There is one account, and it owns an organization or its call is still busy with it. -/
structure Alone (s : BootstrapState) : Prop where
  single : ∀ user ∈ s.users, ∀ other ∈ s.users, user = other
  owned : ∀ user ∈ s.users, user ∈ s.organizations ∨
    s.calls user = some .signedUp ∨ s.calls user = some .removing
  signedUp : ∀ call, s.calls call = some .signedUp → call ∈ s.users
  created : ∀ call, s.calls call = some (.releasing .created) ∨
    s.calls call = some (.ended .created) → call ∈ s.users

/-- The accounts after a step are those before it, without one that is removed, or one that a call
has signed up for an empty deployment. -/
lemma users_step (hexclusive : s.Exclusive) (hguard : s.leavesNoAccount e = true)
    (hmove : BootstrapMove s e t) :
    t.users = s.users ∨
      (∃ call, s.calls call = some .checked ∧ t.calls call = some .signedUp ∧ t.users = [call]) ∨
      ∃ call, s.calls call = some .removing ∧ t.users = s.users.filter (· != call) := by
  cases hmove with
  | signsUp hchecked =>
    refine .inr (.inl ⟨_, hchecked, Function.update_self _ _ _, ?_⟩)
    show s.users ++ _ = _
    rw [hexclusive.empty _ hchecked, List.nil_append]
  | @signUpFails _ took =>
    cases took with
    | true => cases hguard
    | false => exact .inl rfl
  | removesUser hremoving => exact .inr (.inr ⟨_, hremoving, rfl⟩)
  | @removalFails _ took hremoving =>
    cases took with
    | true => exact .inr (.inr ⟨_, hremoving, rfl⟩)
    | false => exact .inl rfl
  | _ => exact .inl rfl

lemma Alone.single_step (h : s.Alone) (hexclusive : s.Exclusive)
    (hguard : s.leavesNoAccount e = true) (hmove : BootstrapMove s e t) :
    ∀ user ∈ t.users, ∀ other ∈ t.users, user = other := by
  intro user huser other hother
  obtain hsame | ⟨call, -, -, hone⟩ | ⟨call, -, hfilter⟩ := users_step hexclusive hguard hmove
  · rw [hsame] at huser hother
    exact h.single user huser other hother
  · rw [hone, List.mem_singleton] at huser hother
    exact huser.trans hother.symm
  · rw [hfilter] at huser hother
    exact h.single user (List.mem_filter.mp huser).1 other (List.mem_filter.mp hother).1

/-- An account stays, unless its own call removes it. -/
lemma Exclusive.mem_users (hexclusive : s.Exclusive)
    (hguard : s.leavesNoAccount e = true) (hmove : BootstrapMove s e t) (huser : call ∈ s.users)
    (hstage : s.calls call ≠ some .removing) : call ∈ t.users := by
  obtain hsame | ⟨other, hchecked, -, hone⟩ | ⟨other, hremoving, hfilter⟩ :=
    users_step hexclusive hguard hmove
  · exact hsame ▸ huser
  · rw [hexclusive.empty other hchecked] at huser
    exact absurd huser List.not_mem_nil
  · rw [hfilter, List.mem_filter, bne_iff_ne]
    refine ⟨huser, ?_⟩
    rintro rfl
    exact hstage hremoving

lemma Alone.signedUp_step (h : s.Alone) (hexclusive : s.Exclusive)
    (hguard : s.leavesNoAccount e = true) (hmove : BootstrapMove s e t) (call : Nat)
    (hcall : t.calls call = some .signedUp) : call ∈ t.users := by
  have hold : s.calls call = some .signedUp → call ∈ t.users := fun hbefore =>
    hexclusive.mem_users hguard hmove (h.signedUp call hbefore) (by simp [hbefore])
  have hset : ∀ {mover : Nat} {after : BootstrapStage},
      Function.update s.calls mover (some after) call = some .signedUp → after ≠ .signedUp →
      call ∈ t.users := by
    intro mover after hupdate hafter
    obtain ⟨-, heq⟩ | ⟨-, hbefore⟩ := Heap.put_eq_some hupdate
    · exact absurd heq.symm hafter
    · exact hold hbefore
  cases hmove with
  | signsUp =>
    obtain ⟨rfl, -⟩ | ⟨-, hbefore⟩ := Heap.put_eq_some hcall
    · exact List.mem_append_right _ (List.mem_singleton_self _)
    · exact hold hbefore
  | losesLock => exact hold hcall
  | _ => exact hset hcall (by simp)

lemma Alone.created_step (h : s.Alone) (hexclusive : s.Exclusive)
    (hguard : s.leavesNoAccount e = true) (hmove : BootstrapMove s e t) (call : Nat)
    (hcall : t.calls call = some (.releasing .created) ∨ t.calls call = some (.ended .created)) :
    call ∈ t.users := by
  have hbefore : s.calls call = some .signedUp ∨ s.calls call = some (.releasing .created) ∨
      s.calls call = some (.ended .created) := by
    have hset : ∀ {mover : Nat} {after : BootstrapStage},
        Function.update s.calls mover (some after) call = some (.releasing .created) ∨
          Function.update s.calls mover (some after) call = some (.ended .created) →
        after ≠ .releasing .created → after ≠ .ended .created →
        s.calls call = some (.releasing .created) ∨ s.calls call = some (.ended .created) := by
      intro mover after hupdate hreleasing hended
      obtain hupdate | hupdate := hupdate
      · obtain ⟨-, heq⟩ | ⟨-, hold⟩ := Heap.put_eq_some hupdate
        · exact absurd heq.symm hreleasing
        · exact .inl hold
      · obtain ⟨-, heq⟩ | ⟨-, hold⟩ := Heap.put_eq_some hupdate
        · exact absurd heq.symm hended
        · exact .inr hold
    cases hmove with
    | createsOrganization hsigned =>
      obtain hupdate | hupdate := hcall
      · obtain ⟨rfl, -⟩ | ⟨-, hold⟩ := Heap.put_eq_some hupdate
        · exact .inl hsigned
        · exact .inr (.inl hold)
      · obtain ⟨-, heq⟩ | ⟨-, hold⟩ := Heap.put_eq_some hupdate
        · cases heq
        · exact .inr (.inr hold)
    | releases hreleasing =>
      obtain hupdate | hupdate := hcall
      · obtain ⟨-, heq⟩ | ⟨-, hold⟩ := Heap.put_eq_some hupdate
        · cases heq
        · exact .inr (.inl hold)
      · obtain ⟨rfl, heq⟩ | ⟨-, hold⟩ := Heap.put_eq_some hupdate
        · obtain rfl := BootstrapStage.ended.inj heq
          exact .inr (.inl hreleasing)
        · exact .inr (.inr hold)
    | losesLock => exact .inr hcall
    | _ => exact .inr (hset hcall (by simp) (by simp))
  have huser : call ∈ s.users := by
    obtain hsigned | hcreated := hbefore
    · exact h.signedUp call hsigned
    · exact h.created call hcreated
  refine hexclusive.mem_users hguard hmove huser fun hremoving => ?_
  rw [hremoving] at hbefore
  simp at hbefore

lemma mem_organizations (hmove : BootstrapMove s e t) (hmem : call ∈ s.organizations) :
    call ∈ t.organizations := by
  cases hmove with
  | createsOrganization => exact List.mem_append_left _ hmem
  | @organizationFails _ took =>
    cases took with
    | true => exact List.mem_append_left _ hmem
    | false => exact hmem
  | _ => exact hmem

/-- The account of a call that gives it up owns an organization. -/
lemma mem_of_accountOwns (h : s.accountOwns call = true) (huser : call ∈ s.users) :
    call ∈ s.organizations := by
  rw [accountOwns, Bool.or_eq_true, Bool.not_eq_true'] at h
  obtain hnone | howns := h
  · rw [List.contains_eq_mem, decide_eq_false_iff_not] at hnone
    exact absurd huser hnone
  · rw [List.contains_eq_mem, decide_eq_true_eq] at howns
    exact howns

lemma Alone.owned_step (h : s.Alone) (hexclusive : s.Exclusive)
    (hguard : s.leavesNoAccount e = true) (hmove : BootstrapMove s e t) (user : Nat)
    (huser : user ∈ t.users) : user ∈ t.organizations ∨
      t.calls user = some .signedUp ∨ t.calls user = some .removing := by
  -- another call moves on
  have hother : ∀ {mover : Nat} {after : BootstrapStage}, user ∈ s.users → user ≠ mover →
      user ∈ t.organizations ∨
        Function.update s.calls mover (some after) user = some .signedUp ∨
        Function.update s.calls mover (some after) user = some .removing := by
    intro mover after hold hne
    rw [Function.update_of_ne hne]
    exact (h.owned user hold).imp_left (mem_organizations hmove)
  -- a call moves on that is not busy with an account
  have hidle : ∀ {mover : Nat} {before : Option BootstrapStage} {after : BootstrapStage},
      s.calls mover = before → before ≠ some .signedUp → before ≠ some .removing →
      user ∈ s.users → user ∈ t.organizations ∨
        Function.update s.calls mover (some after) user = some .signedUp ∨
        Function.update s.calls mover (some after) user = some .removing := by
    intro mover before after hmover hsigned hremoving hold
    by_cases hsame : user = mover
    · rw [← hsame] at hmover
      obtain howns | hbusy | hbusy := h.owned user hold
      · exact .inl (mem_organizations hmove howns)
      · exact absurd (hmover.symm.trans hbusy) hsigned
      · exact absurd (hmover.symm.trans hbusy) hremoving
    · exact hother hold hsame
  cases hmove with
  | isRefused hnone => exact hidle hnone (by simp) (by simp) huser
  | isAdmitted hnone => exact hidle hnone (by simp) (by simp) huser
  | locks hbefore => exact hidle hbefore (by simp) (by simp) huser
  | cannotLock hbefore => exact hidle hbefore (by simp) (by simp) huser
  | isRefusedUnderLock hbefore => exact hidle hbefore (by simp) (by simp) huser
  | checks hbefore => exact hidle hbefore (by simp) (by simp) huser
  | releases hbefore => exact hidle hbefore (by simp) (by simp) huser
  | losesLock => exact h.owned user huser
  | @signUpFails _ took hbefore =>
    cases took with
    | true => cases hguard
    | false => exact hidle hbefore (by simp) (by simp) huser
  | @signsUp call hchecked =>
    have hmem : user ∈ s.users ++ [call] := huser
    rw [List.mem_append, List.mem_singleton] at hmem
    obtain hold | rfl := hmem
    · rw [hexclusive.empty call hchecked] at hold
      exact absurd hold List.not_mem_nil
    · exact .inr (.inl (Function.update_self _ _ _))
  | @createsOrganization call =>
    by_cases hsame : user = call
    · exact .inl (List.mem_append_right _ (List.mem_singleton.mpr hsame))
    · exact hother huser hsame
  | @organizationFails call took =>
    by_cases hsame : user = call
    · subst hsame
      exact .inr (.inr (Function.update_self _ _ _))
    · exact hother huser hsame
  | @removesUser call =>
    rw [List.mem_filter, bne_iff_ne] at huser
    exact hother huser.1 huser.2
  | @removalFails call took =>
    cases took with
    | true =>
      have hmem : user ∈ s.users.filter (· != call) := huser
      rw [List.mem_filter, bne_iff_ne] at hmem
      exact hother hmem.1 hmem.2
    | false =>
      by_cases hsame : user = call
      · subst hsame
        rw [leavesNoAccount, Bool.false_or] at hguard
        exact .inl (mem_of_accountOwns hguard huser)
      · exact hother huser hsame
  | @stops call =>
    by_cases hsame : user = call
    · subst hsame
      exact .inl (mem_of_accountOwns hguard huser)
    · exact hother huser hsame

lemma Alone.step (h : s.Alone) (hexclusive : s.Exclusive) (hguard : s.leavesNoAccount e = true)
    (hmove : BootstrapMove s e t) : t.Alone :=
  ⟨h.single_step hexclusive hguard hmove, h.owned_step hexclusive hguard hmove,
    h.signedUp_step hexclusive hguard hmove, h.created_step hexclusive hguard hmove⟩

/-- Whoever is refused meets the owner of an organization, or a call that is running. -/
lemma Alone.bootstrapsOnce (h : s.Alone) : s.BootstrapsOnce where
  once call other hcall hother :=
    h.single call (h.created call (.inr hcall)) other (h.created other (.inr hother))
  recoverable call e t hevent hstep hrefuses := by
    have hrefused : s.users ≠ [] ∧ ∀ stage, s.calls call = some stage → stage = .locked := by
      have hmove := move_of_step hstep
      obtain rfl | rfl := hevent
      · cases hmove with
        | isRefused hnone husers => exact ⟨husers, fun stage hstage => by simp [hnone] at hstage⟩
        | isAdmitted => simp [Refuses, setCall] at hrefuses
      · cases hmove with
        | isRefusedUnderLock hlocked husers =>
          refine ⟨husers, fun stage hstage => ?_⟩
          rw [hlocked, Option.some.injEq] at hstage
          exact hstage.symm
        | checks => simp [Refuses, setCall] at hrefuses
    obtain ⟨husers, hlocked⟩ := hrefused
    obtain ⟨user, huser⟩ := List.exists_mem_of_ne_nil _ husers
    obtain howns | hsigned | hremoving := h.owned user huser
    · exact .inl ⟨user, howns, huser⟩
    · refine .inr ⟨user, ?_, _, hsigned, by simp⟩
      rintro rfl
      cases hlocked _ hsigned
    · refine .inr ⟨user, ?_, _, hremoving, by simp⟩
      rintro rfl
      cases hlocked _ hremoving

end BootstrapState

/-- **A deployment gets one owner, and can be set up again.**  In every run in which no call ends
with an account that owns nothing and no lock is lost before the sign-up: at most one call
succeeds, and a call is refused only where another one is running or some organization has an
owner. -/
theorem bootstraps_once {s : BootstrapState}
    (h : bootstrapOwner.Reachable (meets BootstrapState.leavesNoAccount) s) : s.BootstrapsOnce := by
  have hboth : s.Exclusive ∧ s.Alone := by
    refine h.invariant (I := fun s => s.Exclusive ∧ s.Alone) (fun s hinit => ?_)
      fun t e u ht hguard hstep => ?_
    · obtain ⟨husers, -, -, hcalls⟩ := hinit
      have hnone : ∀ {call : Nat} {stage : BootstrapStage}, s.calls call ≠ some stage := by
        intro call stage
        rw [hcalls]
        exact (Option.some_ne_none stage).symm
      refine ⟨⟨fun call stage hcall => absurd hcall hnone, fun call hcall => absurd hcall hnone⟩,
        ?_, ?_, fun call hcall => absurd hcall hnone,
        fun call hcall => hcall.elim (absurd · hnone) (absurd · hnone)⟩
      · rw [husers]
        exact fun user huser => absurd huser List.not_mem_nil
      · rw [husers]
        exact fun user huser => absurd huser List.not_mem_nil
    · have hmove := BootstrapState.move_of_step hstep
      exact ⟨ht.1.step hguard hmove, ht.2.step ht.1 hguard hmove⟩
  exact hboth.2.bootstrapsOnce

/-- An empty deployment. -/
def emptyDeployment : BootstrapState where
  users := []
  organizations := []
  lock := none
  calls := fun _ => none

lemma init_emptyDeployment : bootstrapOwner.init emptyDeployment :=
  ⟨rfl, rfl, rfl, fun _ => rfl⟩

/-- The first of two calls cannot create its organization, and the second one can. -/
theorem bootstraps_once_secondTry :
    ∃ t, bootstrapOwner.execUnder BootstrapState.leavesNoAccount emptyDeployment [.asks 1, .asks 2,
        .locks 1, .checks 1, .signsUp 1, .organizationFails 1 false, .removesUser 1, .releases 1,
        .locks 2, .checks 2, .signsUp 2, .createsOrganization 2, .releases 2] = some t ∧
      t.Succeeded 2 ∧ t.BootstrapsOnce := by
  obtain ⟨t, hrun, hsucceeded⟩ : ∃ t, bootstrapOwner.execUnder BootstrapState.leavesNoAccount
      emptyDeployment [.asks 1, .asks 2, .locks 1, .checks 1, .signsUp 1,
        .organizationFails 1 false, .removesUser 1, .releases 1, .locks 2, .checks 2, .signsUp 2,
        .createsOrganization 2, .releases 2] = some t ∧ t.Succeeded 2 := ⟨_, rfl, rfl⟩
  exact ⟨t, hrun, hsucceeded, bootstraps_once (.of_execUnder init_emptyDeployment hrun)⟩

/-- A process stops after the sign-up, and every later call is refused. -/
theorem refuses_after_stop :
    ∃ t, bootstrapOwner.Reachable free t ∧ ¬t.BootstrapsOnce := by
  obtain ⟨t, u, hrun, hstep, hrefuses, horganizations, hidle⟩ : ∃ t u,
      bootstrapOwner.exec emptyDeployment [.asks 1, .locks 1, .checks 1, .signsUp 1, .stops 1] =
        some t ∧ bootstrapOwner.step t (.asks 2) = some u ∧ u.Refuses 2 ∧ t.organizations = [] ∧
      ∀ call, t.calls call = none ∨ t.calls call = some (.ended .stopped) := by
    refine ⟨_, _, rfl, rfl, .inr rfl, rfl, fun call => ?_⟩
    by_cases hsame : call = 1
    · subst hsame
      exact .inr rfl
    · refine .inl ?_
      simp [BootstrapState.setCall, emptyDeployment, hsame]
  refine ⟨t, .of_exec init_emptyDeployment hrun, fun hsound => ?_⟩
  obtain ⟨call, howner, -⟩ | ⟨other, -, stage, hstage, hopen⟩ :=
    hsound.recoverable 2 _ u (.inl rfl) hstep hrefuses
  · rw [horganizations] at howner
    cases howner
  · obtain hnone | hended := hidle other
    · rw [hnone] at hstage
      cases hstage
    · rw [hended, Option.some.injEq] at hstage
      exact hopen _ hstage.symm

end OpenMcc

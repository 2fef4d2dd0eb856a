import OpenMcc.Construction.Membership
import OpenMcc.Framework.Heap

/-!
# Removals of members are serialised

A removal finds its caller, its target and the owners one after the other, and deletes after all
three.  Only the removal that holds the lock of an organization deletes a member of it, so what it
has found still holds when it commits (`RemovalsHold`).

What an event does is said once (`MembershipMove`), and the invariants go by its cases.
-/

namespace OpenMcc

open TransitionSystem

namespace RemovalStage

/-- The transaction of a removal is open, and has the lock. -/
def Inside : RemovalStage → Prop
  | .waits | .ended _ => False
  | _ => True

/-- A removal has found its caller to manage members, and is still under way. -/
def Authorised : RemovalStage → Prop
  | .waits | .locked | .ended _ => False
  | _ => True

/-- The member that an open removal has found. -/
def target? : RemovalStage → Option MemberRow
  | .targetFound target | .counted target | .deleted target | .cancelling target _ _ => some target
  | _ => none

/-- The invitations that an open removal has cancelled. -/
def cancelled : RemovalStage → List Nat
  | .cancelling _ _ cancelled => cancelled
  | _ => []

lemma Authorised.inside {stage : RemovalStage} (h : stage.Authorised) : stage.Inside := by
  cases stage with
  | waits | locked | ended _ => exact h.elim
  | _ => trivial

lemma inside_of_target? {stage : RemovalStage} {target : MemberRow}
    (h : stage.target? = some target) : stage.Inside := by
  cases stage with
  | waits | ended _ => cases h
  | _ => trivial

end RemovalStage

/-! ## What an event does -/

/-- The events, each with the state it leads to. -/
inductive MembershipMove (s : MembershipState) : MembershipEvent → MembershipState → Prop
  | refusesAtOnce {call caller memberId} : s.removals call = none →
      MembershipMove s (.removalAsks call caller memberId)
        (s.setRemoval call ⟨caller, memberId, .waits⟩ (.ended .forbidden))
  | asks {call caller memberId} : s.removals call = none →
      can caller.role .memberManage = true → memberId ≠ caller.memberId →
      MembershipMove s (.removalAsks call caller memberId)
        (s.setRemoval call ⟨caller, memberId, .waits⟩ .waits)
  | locks {call caller memberId} : s.removals call = some ⟨caller, memberId, .waits⟩ →
      s.lock caller.organizationId = none →
      MembershipMove s (.removalLocks call)
        { s.setRemoval call ⟨caller, memberId, .waits⟩ .locked with
          lock := Function.update s.lock caller.organizationId (some call) }
  | readsCaller {call caller memberId row} :
      s.removals call = some ⟨caller, memberId, .locked⟩ →
      s.findMember caller.organizationId caller.memberId = some row →
      MembershipState.managesMembers row.role = true →
      MembershipMove s (.removalReadsCaller call)
        (s.setRemoval call ⟨caller, memberId, .locked⟩ .callerFound)
  | readsTarget {call caller memberId target} :
      s.removals call = some ⟨caller, memberId, .callerFound⟩ →
      s.findMember caller.organizationId memberId = some target →
      MembershipMove s (.removalReadsTarget call)
        (s.setRemoval call ⟨caller, memberId, .callerFound⟩ (.targetFound target))
  | counts {call caller memberId target} :
      s.removals call = some ⟨caller, memberId, .targetFound target⟩ →
      MembershipMove s (.removalCounts call)
        (s.setRemoval call ⟨caller, memberId, .targetFound target⟩ (.counted target))
  | deletes {call caller memberId target} :
      s.removals call = some ⟨caller, memberId, .counted target⟩ →
      MembershipMove s (.removalDeletes call)
        (s.setRemoval call ⟨caller, memberId, .counted target⟩ (.deleted target))
  | cancels {call caller memberId target} :
      s.removals call = some ⟨caller, memberId, .deleted target⟩ →
      MembershipMove s (.removalCancels call)
        (s.setRemoval call ⟨caller, memberId, .deleted target⟩
          (.cancelling target (s.pendingSentBy caller.organizationId target.userId) []))
  | cancelsNext {call caller memberId target invitationId left cancelled} :
      s.removals call =
        some ⟨caller, memberId, .cancelling target (invitationId :: left) cancelled⟩ →
      s.held invitationId = none → s.isPending invitationId = true →
      MembershipMove s (.removalCancelsNext call)
        { s.setRemoval call ⟨caller, memberId, .cancelling target (invitationId :: left) cancelled⟩
            (.cancelling target left (cancelled ++ [invitationId])) with
          held := Function.update s.held invitationId (some (.removal call)) }
  | skipsNext {call caller memberId target invitationId left cancelled} :
      s.removals call =
        some ⟨caller, memberId, .cancelling target (invitationId :: left) cancelled⟩ →
      s.isPending invitationId = false →
      MembershipMove s (.removalCancelsNext call)
        (s.setRemoval call ⟨caller, memberId, .cancelling target (invitationId :: left) cancelled⟩
          (.cancelling target left cancelled))
  | commits {call caller memberId target cancelled} :
      s.removals call = some ⟨caller, memberId, .cancelling target [] cancelled⟩ →
      MembershipMove s (.removalCommits call)
        { s.endRemoval call ⟨caller, memberId, .cancelling target [] cancelled⟩ .removed with
          members := s.members.filter fun row =>
            !(row.organizationId == caller.organizationId && row.id == memberId)
          invitations := s.withStatus cancelled .canceled
          history := s.history ++ cancelled.map .cancelled ++ [.removed target] }
  /-- A transaction finds a reason to refuse, or fails. -/
  | givesUp {e call removal outcome} : s.removals call = some removal → removal.stage.Inside →
      outcome ≠ .removed → e.removalOf = some call →
      (∀ other, e ≠ .removalDeletes other ∧ e ≠ .removalCommits other) →
      MembershipMove s e (s.endRemoval call removal outcome)
  | stopsWaiting {call removal} : s.removals call = some removal → removal.stage = .waits →
      MembershipMove s (.removalStops call) (s.setRemoval call removal (.ended .failed))
  | inviteChecks {call organizationId senderId} : s.inviting call = none →
      s.isMember organizationId senderId = true →
      MembershipMove s (.inviteChecks call organizationId senderId)
        { s with inviting := Function.update s.inviting call (some (organizationId, senderId)) }
  | inviteInserts {call email role expiresAt organizationId senderId} :
      s.inviting call = some (organizationId, senderId) →
      MembershipMove s (.inviteInserts call email role expiresAt) { s with
        inviting := Function.update s.inviting call none
        nextInvitation := s.nextInvitation + 1
        invitations := Function.update s.invitations s.nextInvitation (some {
          id := s.nextInvitation
          organizationId := organizationId
          email := email
          role := some role.text
          status := .pending
          inviterId := senderId
          expiresAt := expiresAt }) }
  | cancelUpdates {call caller invitationId} : s.cancellations call = none →
      s.held invitationId = none → s.isPending invitationId = true →
      MembershipMove s (.cancelUpdates call caller invitationId) { s with
        cancellations := Function.update s.cancellations call (some invitationId)
        held := Function.update s.held invitationId (some (.cancellation call)) }
  | cancelsNothing {call caller invitationId} :
      MembershipMove s (.cancelUpdates call caller invitationId) s
  | cancelCommits {call invitationId} : s.cancellations call = some invitationId →
      MembershipMove s (.cancelCommits call) { s with
        cancellations := Function.update s.cancellations call none
        held := s.released (.cancellation call)
        invitations := s.withStatus [invitationId] .canceled
        history := s.history ++ [.cancelled invitationId] }
  | cancelStops {call invitationId} : s.cancellations call = some invitationId →
      MembershipMove s (.cancelStops call) { s with
        cancellations := Function.update s.cancellations call none
        held := s.released (.cancellation call) }
  | acceptRefused {call invitationId now} : s.acceptances call = none →
      MembershipMove s (.acceptReads call invitationId now)
        (s.setAcceptance call (.ended .notFound))
  | acceptReads {call invitationId now invitation} : s.acceptances call = none →
      s.invitations invitationId = some invitation →
      MembershipState.acceptable invitation now = true →
      MembershipMove s (.acceptReads call invitationId now)
        (s.setAcceptance call (.found invitation))
  | acceptSignsUp {call invitation} : s.acceptances call = some (.found invitation) →
      (∀ user ∈ s.users, user.email ≠ invitation.email) →
      MembershipMove s (.acceptSignsUp call)
        { s.setAcceptance call (.signedUp invitation) with
          users := s.users ++ [⟨.signedUp call, invitation.email⟩] }
  | acceptReadsSender {call invitation} : s.acceptances call = some (.signedUp invitation) →
      s.isMember invitation.organizationId invitation.inviterId = true →
      MembershipMove s (.acceptReadsSender call) (s.setAcceptance call (.senderFound invitation))
  | acceptFindsNoSender {call invitation} : s.acceptances call = some (.signedUp invitation) →
      MembershipMove s (.acceptReadsSender call) (s.setAcceptance call .rejecting)
  | acceptInserts {call memberId invitation} :
      s.acceptances call = some (.senderFound invitation) →
      MembershipMove s (.acceptInserts call memberId)
        (s.setAcceptance call (.inserted invitation memberId))
  | acceptConsumes {call invitation memberId} :
      s.acceptances call = some (.inserted invitation memberId) →
      s.held invitation.id = none → s.isPending invitation.id = true →
      MembershipMove s (.acceptConsumes call)
        { s.setAcceptance call (.consumed invitation memberId) with
          held := Function.update s.held invitation.id (some (.acceptance call)) }
  | acceptFindsItSpent {call invitation memberId} :
      s.acceptances call = some (.inserted invitation memberId) →
      MembershipMove s (.acceptConsumes call) (s.setAcceptance call .rejecting)
  | acceptCommits {call invitation memberId} :
      s.acceptances call = some (.consumed invitation memberId) →
      MembershipMove s (.acceptCommits call) { s.setAcceptance call (.ended .accepted) with
        held := s.released (.acceptance call)
        members := s.members ++ [MembershipState.acceptedMember call invitation memberId]
        invitations := s.withStatus [invitation.id] .accepted
        history := s.history ++
          [.accepted invitation (MembershipState.acceptedMember call invitation memberId)] }
  | acceptDeletesUser {call} : s.acceptances call = some .rejecting →
      MembershipMove s (.acceptDeletesUser call) { s.setAcceptance call (.ended .notFound) with
        users := s.users.filter fun user => user.id != .signedUp call
        members := s.members.filter fun row => row.userId != .signedUp call }
  | acceptStops {call stage} : s.acceptances call = some stage →
      (∀ outcome, stage ≠ .ended outcome) →
      MembershipMove s (.acceptStops call) { s.setAcceptance call (.ended .failed) with
        held := s.released (.acceptance call) }

namespace MembershipState

variable {s t u : MembershipState} {e : MembershipEvent} {call : Nat}

/-- **What an event does.** -/
lemma move_of_step (h : membership.step s e = some t) : MembershipMove s e t := by
  cases e with
  | removalAsks call caller memberId =>
    simp only [membership, removalAsks, Option.ite_none_left_eq_some] at h
    obtain ⟨hnew, h⟩ := h
    have hnone : s.removals call = none := by simpa using hnew
    split at h
    · exact Option.some.inj h ▸ .refusesAtOnce hnone
    · next hasks =>
      simp only [Bool.or_eq_true, Bool.not_eq_true', beq_iff_eq, not_or, Bool.not_eq_false] at hasks
      exact Option.some.inj h ▸ .asks hnone hasks.1 hasks.2
  | removalLocks call =>
    simp only [membership, removalLocks] at h
    split at h
    · next hstage =>
      rw [Option.ite_none_left_eq_some] at h
      have hfree := Option.not_isSome_iff_eq_none.mp h.1
      exact Option.some.inj h.2 ▸ .locks hstage hfree
    · cases h
  | removalReadsCaller call =>
    simp only [membership, removalReadsCaller] at h
    split at h
    · next hstage =>
      split at h
      · next hmanages =>
        obtain ⟨row, hrow, hrole⟩ := Option.any_eq_true _ _ |>.mp hmanages
        exact Option.some.inj h ▸ .readsCaller hstage hrow hrole
      · exact Option.some.inj h ▸ .givesUp hstage trivial (by simp) rfl (by simp)
    · cases h
  | removalReadsTarget call =>
    simp only [membership, removalReadsTarget] at h
    split at h
    · next hstage =>
      split at h
      · exact Option.some.inj h ▸ .givesUp hstage trivial (by simp) rfl (by simp)
      · next htarget => exact Option.some.inj h ▸ .readsTarget hstage htarget
    · cases h
  | removalCounts call =>
    simp only [membership, removalCounts] at h
    split at h
    · next hstage =>
      split at h
      · exact Option.some.inj h ▸ .givesUp hstage trivial (by simp) rfl (by simp)
      · exact Option.some.inj h ▸ .counts hstage
    · cases h
  | removalDeletes call =>
    simp only [membership, removalDeletes] at h
    split at h
    · next hstage => exact Option.some.inj h ▸ .deletes hstage
    · cases h
  | removalCancels call =>
    simp only [membership, removalCancels] at h
    split at h
    · next hstage => exact Option.some.inj h ▸ .cancels hstage
    · cases h
  | removalCancelsNext call =>
    simp only [membership, removalCancelsNext] at h
    split at h
    · next hstage =>
      rw [Option.ite_none_left_eq_some] at h
      have hfree := Option.not_isSome_iff_eq_none.mp h.1
      have h := h.2
      split at h
      · next hpending => exact Option.some.inj h ▸ .cancelsNext hstage hfree hpending
      · next hspent =>
        have hspent := Bool.eq_false_iff.mpr hspent
        exact Option.some.inj h ▸ .skipsNext hstage hspent
    · cases h
  | removalCommits call =>
    simp only [membership, removalCommits] at h
    split at h
    · next hstage => exact Option.some.inj h ▸ .commits hstage
    · cases h
  | removalStops call =>
    simp only [membership, removalStops] at h
    split at h
    · cases h
    · next removal hremoval =>
      split at h
      · cases h
      · next hwaits => exact Option.some.inj h ▸ .stopsWaiting hremoval hwaits
      · next hended hwaits =>
        have hinside : removal.stage.Inside := by
          cases hstage : removal.stage with
          | waits => exact absurd hstage hwaits
          | ended outcome => exact absurd hstage (hended outcome)
          | _ => trivial
        exact Option.some.inj h ▸ .givesUp hremoval hinside (by simp) rfl (by simp)
  | inviteChecks call organizationId senderId =>
    simp only [membership, inviteChecks, Option.ite_none_right_eq_some] at h
    obtain ⟨⟨hnew, hsender⟩, h⟩ := h
    have hnone := Option.isNone_iff_eq_none.mp hnew
    exact Option.some.inj h ▸ .inviteChecks hnone hsender
  | inviteInserts call email role expiresAt =>
    simp only [membership, inviteInserts] at h
    split at h
    · cases h
    · next hchecked => exact Option.some.inj h ▸ .inviteInserts hchecked
  | cancelUpdates call caller invitationId =>
    simp only [membership, cancelUpdates, Option.ite_none_left_eq_some, not_or] at h
    obtain ⟨⟨hnew, hfree⟩, h⟩ := h
    split at h
    · next hupdates =>
      have hpending : s.isPending invitationId = true := by
        rw [isPending]
        obtain ⟨row, hrow, hfound⟩ := Option.any_eq_true _ _ |>.mp hupdates.2
        rw [Bool.and_eq_true] at hfound
        exact Option.any_eq_true _ _ |>.mpr ⟨row, hrow, hfound.2⟩
      exact Option.some.inj h ▸ .cancelUpdates (Option.not_isSome_iff_eq_none.mp hnew)
        (Option.not_isSome_iff_eq_none.mp hfree) hpending
    · exact Option.some.inj h ▸ .cancelsNothing
  | cancelCommits call =>
    simp only [membership, cancelCommits] at h
    split at h
    · cases h
    · next hupdated => exact Option.some.inj h ▸ .cancelCommits hupdated
  | cancelStops call =>
    simp only [membership, cancelStops, Option.ite_none_left_eq_some] at h
    obtain ⟨hupdated, h⟩ := h
    have hsome : s.cancellations call ≠ none := by simpa using hupdated
    obtain ⟨invitationId, hinvitation⟩ := Option.ne_none_iff_exists'.mp hsome
    exact Option.some.inj h ▸ .cancelStops hinvitation
  | acceptReads call invitationId now =>
    simp only [membership, acceptReads, Option.ite_none_left_eq_some] at h
    obtain ⟨hnew, h⟩ := h
    have hnone : s.acceptances call = none := by simpa using hnew
    split at h
    · exact Option.some.inj h ▸ .acceptRefused hnone
    · next row hrow =>
      split at h
      · next hacceptable => exact Option.some.inj h ▸ .acceptReads hnone hrow hacceptable
      · exact Option.some.inj h ▸ .acceptRefused hnone
  | acceptSignsUp call =>
    simp only [membership, acceptSignsUp] at h
    split at h
    · next invitation hfound =>
      rw [Option.ite_none_left_eq_some] at h
      have hfresh : ∀ user ∈ s.users, user.email ≠ invitation.email := by simpa using h.1
      exact Option.some.inj h.2 ▸ .acceptSignsUp hfound hfresh
    · cases h
  | acceptReadsSender call =>
    simp only [membership, acceptReadsSender] at h
    split at h
    · next invitation hsigned =>
      split at h
      · next hsender => exact Option.some.inj h ▸ .acceptReadsSender hsigned hsender
      · exact Option.some.inj h ▸ .acceptFindsNoSender hsigned
    · cases h
  | acceptInserts call memberId =>
    simp only [membership, acceptInserts] at h
    split at h
    · next invitation hsender =>
      rw [Option.ite_none_left_eq_some] at h
      exact Option.some.inj h.2 ▸ .acceptInserts hsender
    · cases h
  | acceptConsumes call =>
    simp only [membership, acceptConsumes] at h
    split at h
    · next invitation memberId hinserted =>
      rw [Option.ite_none_left_eq_some] at h
      have hfree := Option.not_isSome_iff_eq_none.mp h.1
      have h := h.2
      split at h
      · next hpending => exact Option.some.inj h ▸ .acceptConsumes hinserted hfree hpending
      · exact Option.some.inj h ▸ .acceptFindsItSpent hinserted
    · cases h
  | acceptCommits call =>
    simp only [membership, acceptCommits] at h
    split at h
    · next invitation memberId hconsumed => exact Option.some.inj h ▸ .acceptCommits hconsumed
    · cases h
  | acceptDeletesUser call =>
    simp only [membership, acceptDeletesUser] at h
    split at h
    · next hrejecting => exact Option.some.inj h ▸ .acceptDeletesUser hrejecting
    · cases h
  | acceptStops call =>
    simp only [membership, acceptStops] at h
    split at h
    · cases h
    · cases h
    · next stage hopen hstage =>
      exact Option.some.inj h ▸ .acceptStops hstage hopen

/-! ## The lock -/

/-- The open removals are those that have the lock of their organization. -/
def LockHeld (lock : Nat → Option Nat) (removals : Nat → Option RemovalCall) : Prop :=
  (∀ call removal, removals call = some removal → removal.stage.Inside →
    lock removal.caller.organizationId = some call) ∧
  ∀ organizationId call, lock organizationId = some call → ∃ removal,
    removals call = some removal ∧ removal.caller.organizationId = organizationId ∧
      removal.stage.Inside

/-- A removal goes on to another stage, and has the lock as it had. -/
lemma LockHeld.set {lock : Nat → Option Nat} {removals : Nat → Option RemovalCall}
    (h : LockHeld lock removals) {removal : RemovalCall} {stage : RemovalStage}
    (hcall : ∀ before, removals call = some before →
      before.caller = removal.caller ∧ (before.stage.Inside ↔ stage.Inside))
    (hnew : removals call = none → ¬stage.Inside) :
    LockHeld lock (Function.update removals call (some { removal with stage := stage })) := by
  refine ⟨fun other after hafter hinside => ?_, fun organizationId other hlock => ?_⟩
  · by_cases hsame : other = call
    · subst hsame
      rw [Function.update_self, Option.some.injEq] at hafter
      subst hafter
      cases hbefore : removals other with
      | none => exact absurd hinside (hnew hbefore)
      | some before =>
        obtain ⟨hcaller, hstage⟩ := hcall before hbefore
        rw [← hcaller]
        exact h.1 other before hbefore (hstage.mpr hinside)
    · rw [Function.update_of_ne hsame] at hafter
      exact h.1 other after hafter hinside
  · obtain ⟨before, hbefore, horganization, hinside⟩ := h.2 organizationId other hlock
    by_cases hsame : other = call
    · subst hsame
      obtain ⟨hcaller, hstage⟩ := hcall before hbefore
      refine ⟨_, Function.update_self _ _ _, ?_, hstage.mp hinside⟩
      rw [← horganization, hcaller]
    · exact ⟨before, (Function.update_of_ne hsame _ _).trans hbefore, horganization, hinside⟩

/-- A removal takes a free lock. -/
lemma LockHeld.take {lock : Nat → Option Nat} {removals : Nat → Option RemovalCall}
    (h : LockHeld lock removals) {removal : RemovalCall}
    (hwaits : ∃ before, removals call = some before ∧ ¬before.stage.Inside)
    (hfree : lock removal.caller.organizationId = none) (hinside : removal.stage.Inside) :
    LockHeld (Function.update lock removal.caller.organizationId (some call))
      (Function.update removals call (some removal)) := by
  refine ⟨fun other after hafter hopen => ?_, fun organizationId other hlock => ?_⟩
  · obtain ⟨rfl, rfl⟩ | ⟨-, hafter⟩ := Heap.put_eq_some hafter
    · rw [Function.update_self]
    · have hlock := h.1 other after hafter hopen
      have hne : after.caller.organizationId ≠ removal.caller.organizationId := by
        intro heq
        rw [heq, hfree] at hlock
        cases hlock
      rw [Function.update_of_ne hne]
      exact hlock
  · obtain ⟨rfl, rfl⟩ | ⟨-, hlock⟩ := Heap.put_eq_some hlock
    · exact ⟨removal, Function.update_self _ _ _, rfl, hinside⟩
    · obtain ⟨before, hbefore, heq, hopen⟩ := h.2 organizationId other hlock
      have hne : other ≠ call := by
        intro hsame
        obtain ⟨waiting, hwaiting, hout⟩ := hwaits
        rw [hsame, hwaiting, Option.some.injEq] at hbefore
        exact hout (hbefore ▸ hopen)
      exact ⟨before, (Function.update_of_ne hne _ _).trans hbefore, heq, hopen⟩

/-- A removal gives its lock back. -/
lemma LockHeld.give {lock : Nat → Option Nat} {removals : Nat → Option RemovalCall}
    (h : LockHeld lock removals) {removal : RemovalCall} {outcome : RemovalOutcome}
    (hcall : removals call = some removal) (hinside : removal.stage.Inside) :
    LockHeld (Function.update lock removal.caller.organizationId none)
      (Function.update removals call (some { removal with stage := .ended outcome })) := by
  have hmine := h.1 call removal hcall hinside
  refine ⟨fun other after hafter hopen => ?_, fun organizationId other hlock => ?_⟩
  · obtain ⟨-, rfl⟩ | ⟨hsame, hafter⟩ := Heap.put_eq_some hafter
    · exact absurd hopen id
    · have hlock := h.1 other after hafter hopen
      have hne : after.caller.organizationId ≠ removal.caller.organizationId := by
        intro heq
        rw [heq, hmine, Option.some.injEq] at hlock
        exact hsame hlock.symm
      rw [Function.update_of_ne hne]
      exact hlock
  · obtain ⟨horganization, hlock⟩ := Heap.take_eq_some hlock
    obtain ⟨before, hbefore, heq, hopen⟩ := h.2 organizationId other hlock
    have hne : other ≠ call := by
      intro hsame
      rw [hsame, hcall, Option.some.injEq] at hbefore
      rw [← heq, ← hbefore] at horganization
      exact horganization rfl
    exact ⟨before, (Function.update_of_ne hne _ _).trans hbefore, heq, hopen⟩

/-- A removal goes from one stage of its transaction to the next. -/
lemma LockHeld.advance {lock : Nat → Option Nat} {removals : Nat → Option RemovalCall}
    (h : LockHeld lock removals) {removal : RemovalCall} {stage : RemovalStage}
    (hcall : removals call = some removal) (hinside : removal.stage.Inside ↔ stage.Inside) :
    LockHeld lock (Function.update removals call (some { removal with stage := stage })) := by
  refine h.set (fun before hbefore => ?_) fun hnone => ?_
  · rw [hcall, Option.some.injEq] at hbefore
    subst hbefore
    exact ⟨rfl, hinside⟩
  · rw [hcall] at hnone
    cases hnone

lemma LockHeld.step (h : LockHeld s.lock s.removals) (hmove : MembershipMove s e t) :
    LockHeld t.lock t.removals := by
  cases hmove with
  | refusesAtOnce hnone =>
    exact h.set (fun before hbefore => by rw [hnone] at hbefore; cases hbefore) fun _ => id
  | asks hnone =>
    exact h.set (fun before hbefore => by rw [hnone] at hbefore; cases hbefore) fun _ => id
  | locks hcall hfree => exact h.take ⟨_, hcall, id⟩ hfree trivial
  | readsCaller hcall => exact h.advance hcall (Iff.refl _)
  | readsTarget hcall => exact h.advance hcall (Iff.refl _)
  | counts hcall => exact h.advance hcall (Iff.refl _)
  | deletes hcall => exact h.advance hcall (Iff.refl _)
  | cancels hcall => exact h.advance hcall (Iff.refl _)
  | cancelsNext hcall => exact h.advance hcall (Iff.refl _)
  | skipsNext hcall => exact h.advance hcall (Iff.refl _)
  | commits hcall => exact h.give hcall trivial
  | givesUp hcall hinside => exact h.give hcall hinside
  | stopsWaiting hcall hwaits =>
    refine h.advance hcall ?_
    rw [hwaits]
    exact Iff.refl _
  | _ => exact h

/-! ## The members that a removal has found -/

/-- An account that was signed up for an invitation is a member only once that is accepted. -/
def Joined (members : List MemberRow) (acceptances : Nat → Option AcceptanceStage) : Prop :=
  ∀ row ∈ members, ∀ call, row.userId = .signedUp call →
    acceptances call = some (.ended .accepted)

/-- A call that has accepted its invitation takes no more steps. -/
lemma accepted_stays (hmove : MembershipMove s e t)
    (haccepted : s.acceptances call = some (.ended .accepted)) :
    t.acceptances call = some (.ended .accepted) := by
  have hother : ∀ {other : Nat} {after : AcceptanceStage},
      s.acceptances other ≠ some (.ended .accepted) →
      Function.update s.acceptances other (some after) call = some (.ended .accepted) := by
    intro other after hopen
    have hne : call ≠ other := by
      rintro rfl
      exact hopen haccepted
    rw [Function.update_of_ne hne]
    exact haccepted
  cases hmove with
  | acceptRefused hcall => exact hother (by simp [hcall])
  | acceptReads hcall => exact hother (by simp [hcall])
  | acceptSignsUp hcall => exact hother (by simp [hcall])
  | acceptReadsSender hcall => exact hother (by simp [hcall])
  | acceptFindsNoSender hcall => exact hother (by simp [hcall])
  | acceptInserts hcall => exact hother (by simp [hcall])
  | acceptConsumes hcall => exact hother (by simp [hcall])
  | acceptFindsItSpent hcall => exact hother (by simp [hcall])
  | acceptCommits hcall => exact hother (by simp [hcall])
  | acceptDeletesUser hcall => exact hother (by simp [hcall])
  | acceptStops hcall hopen =>
    refine hother fun heq => ?_
    rw [hcall, Option.some.injEq] at heq
    exact hopen _ heq
  | _ => exact haccepted

lemma Joined.step (h : Joined s.members s.acceptances) (hmove : MembershipMove s e t) :
    Joined t.members t.acceptances := by
  have hstays : Joined s.members t.acceptances := fun row hrow call huser =>
    accepted_stays hmove (h row hrow call huser)
  cases hmove with
  | commits => exact fun row hrow => hstays row (List.mem_of_mem_filter hrow)
  | acceptCommits =>
    intro row hrow other huser
    rw [List.mem_append, List.mem_singleton] at hrow
    obtain hrow | rfl := hrow
    · exact hstays row hrow other huser
    · obtain rfl := UserId.signedUp.inj huser
      exact Function.update_self _ _ _
  | acceptDeletesUser => exact fun row hrow => hstays row (List.mem_of_mem_filter hrow)
  | _ => exact hstays

/-- What a removal has found. -/
structure RemovalHolds (members : List MemberRow) (removal : RemovalCall) : Prop where
  /-- Nobody removes themselves. -/
  other : (∀ outcome, removal.stage ≠ .ended outcome) → removal.memberId ≠ removal.caller.memberId
  manager : removal.stage.Authorised → ∃ row ∈ members,
    row.organizationId = removal.caller.organizationId ∧ row.id = removal.caller.memberId ∧
      managesMembers row.role = true
  found : ∀ target, removal.stage.target? = some target → target ∈ members ∧
    target.organizationId = removal.caller.organizationId ∧ target.id = removal.memberId

lemma RemovalHolds.of_kept {members members' : List MemberRow} {removal : RemovalCall}
    (h : RemovalHolds members removal)
    (hkept : removal.stage.Inside → ∀ row ∈ members,
      row.organizationId = removal.caller.organizationId → row ∈ members') :
    RemovalHolds members' removal := by
  refine ⟨h.other, fun hstage => ?_, fun target htarget => ?_⟩
  · obtain ⟨row, hrow, horganization, hid⟩ := h.manager hstage
    exact ⟨row, hkept hstage.inside row hrow horganization, horganization, hid⟩
  · obtain ⟨hmember, horganization, hid⟩ := h.found target htarget
    have hinside := RemovalStage.inside_of_target? htarget
    exact ⟨hkept hinside target hmember horganization, horganization, hid⟩

/-- A removal that is not open has found nothing. -/
lemma RemovalHolds.ended {members : List MemberRow} {removal : RemovalCall}
    {outcome : RemovalOutcome} :
    RemovalHolds members { removal with stage := .ended outcome } :=
  ⟨fun hopen => absurd rfl (hopen outcome), fun hstage => hstage.elim, fun _ htarget => by
    cases htarget⟩

def RemovalsHold (members : List MemberRow) (removals : Nat → Option RemovalCall) : Prop :=
  ∀ call removal, removals call = some removal → RemovalHolds members removal

lemma RemovalsHold.set {members : List MemberRow} {removals : Nat → Option RemovalCall}
    (h : RemovalsHold members removals) {removal : RemovalCall}
    (hremoval : RemovalHolds members removal) :
    RemovalsHold members (Function.update removals call (some removal)) := by
  intro other after hafter
  obtain ⟨-, rfl⟩ | ⟨-, hafter⟩ := Heap.put_eq_some hafter
  · exact hremoval
  · exact h other after hafter

/-- A stage that has found nothing new. -/
lemma RemovalHolds.advance {members : List MemberRow} {removal : RemovalCall}
    {stage : RemovalStage} (h : RemovalHolds members removal)
    (hopen : ∀ outcome, removal.stage ≠ .ended outcome)
    (hauthorised : stage.Authorised → removal.stage.Authorised)
    (htarget : stage.target? = removal.stage.target?) :
    RemovalHolds members { removal with stage := stage } where
  other _ := h.other hopen
  manager hstage := h.manager (hauthorised hstage)
  found target hfound := h.found target (htarget ▸ hfound)

/-- A row that is joined with its account is a row. -/
lemma mem_of_findMember {organizationId memberId : Nat} {row : MemberRow}
    (h : s.findMember organizationId memberId = some row) :
    row ∈ s.members ∧ row.organizationId = organizationId ∧ row.id = memberId := by
  have hmember := List.mem_of_find?_eq_some h
  have hfound := List.find?_some h
  simp only [Bool.and_eq_true, beq_iff_eq] at hfound
  exact ⟨hmember, hfound.1.1, hfound.1.2⟩

/-- A commit of a removal leaves the members of the other open removals. -/
lemma RemovalsHold.commits (h : RemovalsHold s.members s.removals)
    (hlock : LockHeld s.lock s.removals) {removal : RemovalCall}
    (hcall : s.removals call = some removal) (hinside : removal.stage.Inside) :
    RemovalsHold
      (s.members.filter fun row =>
        !(row.organizationId == removal.caller.organizationId && row.id == removal.memberId))
      (Function.update s.removals call (some { removal with stage := .ended .removed })) := by
  intro other after hafter
  obtain ⟨-, rfl⟩ | ⟨hsame, hafter⟩ := Heap.put_eq_some hafter
  · exact RemovalHolds.ended
  · refine (h other after hafter).of_kept fun hopen row hrow horganization => ?_
    have hne : after.caller.organizationId ≠ removal.caller.organizationId := by
      intro heq
      have hheld := hlock.1 other after hafter hopen
      rw [heq, hlock.1 call removal hcall hinside, Option.some.injEq] at hheld
      exact hsame hheld.symm
    rw [List.mem_filter]
    refine ⟨hrow, ?_⟩
    simp [horganization, hne]

lemma RemovalsHold.step (h : RemovalsHold s.members s.removals)
    (hlock : LockHeld s.lock s.removals) (hjoined : Joined s.members s.acceptances)
    (hmove : MembershipMove s e t) : RemovalsHold t.members t.removals := by
  cases hmove with
  | refusesAtOnce => exact h.set RemovalHolds.ended
  | asks _ _ hne =>
    exact h.set ⟨fun _ => hne, fun hstage => hstage.elim, fun _ htarget => by cases htarget⟩
  | locks hcall => exact h.set ((h _ _ hcall).advance (by simp) id rfl)
  | readsCaller hcall hrow hmanages =>
    obtain ⟨hmember, horganization, hid⟩ := mem_of_findMember hrow
    refine h.set ⟨fun _ => (h _ _ hcall).other (by simp), fun _ => ?_, fun _ htarget => ?_⟩
    · exact ⟨_, hmember, horganization, hid, hmanages⟩
    · cases htarget
  | readsTarget hcall hrow =>
    refine h.set ⟨fun _ => (h _ _ hcall).other (by simp), fun _ => ?_, fun target htarget => ?_⟩
    · exact (h _ _ hcall).manager trivial
    · exact Option.some.inj htarget ▸ mem_of_findMember hrow
  | counts hcall => exact h.set ((h _ _ hcall).advance (by simp) (fun _ => trivial) rfl)
  | deletes hcall => exact h.set ((h _ _ hcall).advance (by simp) (fun _ => trivial) rfl)
  | cancels hcall => exact h.set ((h _ _ hcall).advance (by simp) (fun _ => trivial) rfl)
  | cancelsNext hcall => exact h.set ((h _ _ hcall).advance (by simp) (fun _ => trivial) rfl)
  | skipsNext hcall => exact h.set ((h _ _ hcall).advance (by simp) (fun _ => trivial) rfl)
  | commits hcall => exact h.commits hlock hcall trivial
  | givesUp => exact h.set RemovalHolds.ended
  | stopsWaiting => exact h.set RemovalHolds.ended
  | acceptCommits =>
    intro call removal hremoval
    refine (h call removal hremoval).of_kept fun _ row hrow _ => ?_
    exact List.mem_append_left _ hrow
  | acceptDeletesUser hcall =>
    intro call removal hremoval
    refine (h call removal hremoval).of_kept fun _ row hrow _ => ?_
    rw [List.mem_filter]
    refine ⟨hrow, ?_⟩
    rw [bne_iff_ne]
    intro huser
    have haccepted := hjoined row hrow _ huser
    rw [hcall] at haccepted
    cases haccepted
  | _ => exact h

/-! ## The invariant -/

/-- What removals rely on. -/
structure Serialised (s : MembershipState) : Prop where
  lockHeld : LockHeld s.lock s.removals
  joined : Joined s.members s.acceptances
  removalsHold : RemovalsHold s.members s.removals

lemma Serialised.of_init (h : membership.init s) : s.Serialised := by
  obtain ⟨-, hknown, -, -, hlock, -, hremovals, -, -, -, -⟩ := h
  refine ⟨⟨fun call removal hcall => ?_, fun organizationId call hheld => ?_⟩,
    fun row hrow call huser => ?_, fun call removal hcall => ?_⟩
  · rw [hremovals] at hcall
    cases hcall
  · rw [hlock] at hheld
    cases hheld
  · obtain ⟨number, hnumber⟩ := hknown row hrow
    rw [hnumber] at huser
    cases huser
  · rw [hremovals] at hcall
    cases hcall

lemma Serialised.step (h : s.Serialised) (hmove : MembershipMove s e t) : t.Serialised :=
  ⟨h.lockHeld.step hmove, h.joined.step hmove,
    h.removalsHold.step h.lockHeld h.joined hmove⟩

lemma Serialised.of_reachable {G : MembershipState → MembershipEvent → Prop}
    (h : membership.Reachable G s) : s.Serialised :=
  h.invariant (fun _ hinit => .of_init hinit) fun _ _ _ ht _ hstep => ht.step (move_of_step hstep)

lemma role_eq_owner {role : Text} (h : managesMembers role = true) : role = Role.owner.text := by
  obtain ⟨named, hnamed, hcan⟩ := Option.any_eq_true _ _ |>.mp h
  obtain rfl := eq_owner_of_can_memberManage hcan
  have htext := List.find?_some hnamed
  exact (beq_iff_eq.mp htext).symm

/-! ## Owners -/

/-- The owner who removes another member stays. -/
lemma Serialised.hasOwner (h : s.Serialised) (hmove : MembershipMove s e t) {organizationId : Nat}
    (howner : s.HasOwner organizationId) : t.HasOwner organizationId := by
  cases hmove with
  | @commits call caller memberId target cancelled hcall =>
    by_cases horganization : organizationId = caller.organizationId
    · have hholds := h.removalsHold _ _ hcall
      obtain ⟨row, hrow, hrowOrganization, hid, hmanages⟩ := hholds.manager trivial
      refine ⟨row, ?_, hrowOrganization.trans horganization.symm, role_eq_owner hmanages⟩
      have hother : memberId ≠ caller.memberId := hholds.other (by simp)
      rw [List.mem_filter]
      refine ⟨hrow, ?_⟩
      simp [hid, hother.symm]
    · obtain ⟨row, hrow, hrowOrganization, hrole⟩ := howner
      refine ⟨row, ?_, hrowOrganization, hrole⟩
      rw [List.mem_filter]
      refine ⟨hrow, ?_⟩
      simp [hrowOrganization, horganization]
  | acceptCommits =>
    obtain ⟨row, hrow, howns⟩ := howner
    exact ⟨row, List.mem_append_left _ hrow, howns⟩
  | acceptDeletesUser hcall =>
    obtain ⟨row, hrow, howns⟩ := howner
    refine ⟨row, ?_, howns⟩
    rw [List.mem_filter]
    refine ⟨hrow, ?_⟩
    rw [bne_iff_ne]
    intro huser
    have haccepted := h.joined row hrow _ huser
    rw [hcall] at haccepted
    cases haccepted
  | _ => exact howner

/-! ## Refused removals -/

/-- A removal that has ended takes no more steps. -/
lemma ended_kept {removal : RemovalCall} {outcome : RemovalOutcome}
    (hended : s.removals call = some removal ∧ removal.stage = .ended outcome)
    (hmove : MembershipMove s e t) : t.removals call = some removal := by
  obtain ⟨hcall, hstage⟩ := hended
  have hstays : ∀ {other : Nat} {before after : RemovalCall}, s.removals other = some before →
      (∀ outcome, before.stage ≠ .ended outcome) →
      Function.update s.removals other (some after) call = some removal := by
    intro other before after hbefore hopen
    have hne : call ≠ other := by
      rintro rfl
      rw [hcall, Option.some.injEq] at hbefore
      exact hopen outcome (hbefore ▸ hstage)
    rw [Function.update_of_ne hne]
    exact hcall
  have hnew : ∀ {other : Nat} {after : RemovalCall}, s.removals other = none →
      Function.update s.removals other (some after) call = some removal := by
    intro other after hnone
    have hne : call ≠ other := by
      rintro rfl
      rw [hcall] at hnone
      cases hnone
    rw [Function.update_of_ne hne]
    exact hcall
  cases hmove with
  | refusesAtOnce hnone => exact hnew hnone
  | asks hnone => exact hnew hnone
  | locks hother => exact hstays hother (by simp)
  | readsCaller hother => exact hstays hother (by simp)
  | readsTarget hother => exact hstays hother (by simp)
  | counts hother => exact hstays hother (by simp)
  | deletes hother => exact hstays hother (by simp)
  | cancels hother => exact hstays hother (by simp)
  | cancelsNext hother => exact hstays hother (by simp)
  | skipsNext hother => exact hstays hother (by simp)
  | commits hother => exact hstays hother (by simp)
  | givesUp hother hinside =>
    refine hstays hother fun outcome heq => ?_
    rw [heq] at hinside
    exact hinside
  | stopsWaiting hother hwaits => exact hstays hother (by simp [hwaits])
  | _ => exact hcall

lemma ended_kept_path {removal : RemovalCall} {outcome : RemovalOutcome}
    {es : List MembershipEvent} (hcall : s.removals call = some removal)
    (hstage : removal.stage = .ended outcome) (hpath : membership.Path free s es t) :
    t.removals call = some removal := by
  refine hpath.invariant (I := fun t => t.removals call = some removal) hcall ?_
  exact fun t e u ht _ hstep => ended_kept ⟨ht, hstage⟩ (move_of_step hstep)

/-- A step of a removal changes no row, unless it is its commit. -/
lemma sameRows_or_removed (hmove : MembershipMove s e t) (hevent : e.removalOf = some call) :
    s.SameRows t ∨
      ∃ removal, t.removals call = some removal ∧ removal.stage = .ended .removed := by
  cases hmove with
  | commits hcall =>
    obtain rfl := Option.some.inj hevent
    exact .inr ⟨_, Function.update_self _ _ _, rfl⟩
  | inviteChecks | inviteInserts | cancelUpdates | cancelsNothing | cancelCommits | cancelStops
  | acceptRefused | acceptReads | acceptSignsUp | acceptReadsSender | acceptFindsNoSender
  | acceptInserts | acceptConsumes | acceptFindsItSpent | acceptCommits | acceptDeletesUser
  | acceptStops => cases hevent
  | _ => exact .inl ⟨rfl, rfl, rfl, rfl⟩

lemma not_lock_of_refused (h : s.Serialised) (hrefused : s.Refused call) (organizationId : Nat) :
    s.lock organizationId ≠ some call := by
  intro hlock
  obtain ⟨removal, outcome, hcall, hstage, -⟩ := hrefused
  obtain ⟨held, hheld, -, hinside⟩ := h.lockHeld.2 organizationId call hlock
  rw [hcall, Option.some.injEq] at hheld
  rw [← hheld, hstage] at hinside
  exact hinside

/-- The caller of a removal that deletes or commits manages members. -/
lemma Serialised.manages (h : s.Serialised) (hmove : MembershipMove s e t)
    (hevent : e = .removalDeletes call ∨ e = .removalCommits call) :
    ∃ removal, s.removals call = some removal ∧ s.Manages removal.caller := by
  obtain rfl | rfl := hevent
  · cases hmove with
    | deletes hcall => exact ⟨_, hcall, (h.removalsHold _ _ hcall).manager trivial⟩
    | givesUp _ _ _ _ hne => exact absurd rfl (hne _).1
  · cases hmove with
    | commits hcall => exact ⟨_, hcall, (h.removalsHold _ _ hcall).manager trivial⟩
    | givesUp _ _ _ _ hne => exact absurd rfl (hne _).2

end MembershipState

open MembershipState

/-- **Removals keep an owner.**  From any reachable state, an organization that has an owner has one
at the end of every run.  A removal deletes and commits only while its caller manages members.  A
removal that is refused in the end has changed no row at any of its steps, and holds no lock. -/
theorem removals_keep_owners {s : MembershipState} (h : membership.Reachable free s) :
    (∀ es t organizationId, membership.Path free s es t →
      s.HasOwner organizationId → t.HasOwner organizationId) ∧
    (∀ call e t, e = .removalDeletes call ∨ e = .removalCommits call →
      membership.step s e = some t →
      ∃ removal, s.removals call = some removal ∧ s.Manages removal.caller) ∧
    ∀ call e t es u, e.removalOf = some call → membership.step s e = some t →
      membership.Path free t es u → u.Refused call →
      s.SameRows t ∧ ∀ organizationId, u.lock organizationId ≠ some call := by
  have hserialised := Serialised.of_reachable h
  refine ⟨fun es t organizationId hpath howner => ?_, fun call e t hevent hstep => ?_,
    fun call e t es u hevent hstep hpath hrefused => ?_⟩
  · have hboth := hpath.invariant (I := fun t => t.Serialised ∧ t.HasOwner organizationId)
      ⟨hserialised, howner⟩ fun t e u ht _ hstep =>
        ⟨ht.1.step (move_of_step hstep), ht.1.hasOwner (move_of_step hstep) ht.2⟩
    exact hboth.2
  · exact hserialised.manages (move_of_step hstep) hevent
  · have hmove := move_of_step hstep
    refine ⟨?_, not_lock_of_refused (.of_reachable (h.step trivial hstep |>.path hpath)) hrefused⟩
    obtain hsame | ⟨removal, hremoval, hremoved⟩ := sameRows_or_removed hmove hevent
    · exact hsame
    · obtain ⟨last, outcome, hlast, hended, hne⟩ := hrefused
      rw [ended_kept_path hremoval hremoved hpath, Option.some.injEq] at hlast
      rw [← hlast, hremoved, RemovalStage.ended.injEq] at hended
      exact absurd hended.symm hne

/-- Two owners of one organization. -/
def twoOwners : MembershipState where
  users := [⟨.known 1, "a@b.c".toList⟩, ⟨.known 2, "d@e.f".toList⟩]
  members := [⟨1, 0, .known 1, Role.owner.text⟩, ⟨2, 0, .known 2, Role.owner.text⟩]
  invitations := fun _ => none
  nextInvitation := 0
  lock := fun _ => none
  held := fun _ => none
  removals := fun _ => none
  acceptances := fun _ => none
  inviting := fun _ => none
  cancellations := fun _ => none
  history := []

lemma init_twoOwners : membership.init twoOwners := by
  refine ⟨by decide, ?_, ?_, fun _ _ h => absurd h (by simp [twoOwners]), fun _ => rfl,
    fun _ => rfl, fun _ => rfl,
    fun _ => rfl, fun _ => rfl, fun _ => rfl, rfl⟩
  · intro row hrow
    simp only [twoOwners, List.mem_cons, List.not_mem_nil, or_false] at hrow
    obtain rfl | rfl := hrow
    · exact ⟨1, rfl⟩
    · exact ⟨2, rfl⟩
  · intro user huser
    simp only [twoOwners, List.mem_cons, List.not_mem_nil, or_false] at huser
    obtain rfl | rfl := huser
    · exact ⟨1, rfl⟩
    · exact ⟨2, rfl⟩

/-- The two owners remove each other, and the one who comes second is refused. -/
theorem removals_keep_owners_both :
    ∃ t u, membership.exec twoOwners [.removalAsks 1 ⟨0, 1, .owner⟩ 2,
        .removalAsks 2 ⟨0, 2, .owner⟩ 1, .removalLocks 1, .removalReadsCaller 1,
        .removalReadsTarget 1, .removalCounts 1, .removalDeletes 1, .removalCancels 1,
        .removalCommits 1, .removalLocks 2] = some t ∧
      membership.step t (.removalReadsCaller 2) = some u ∧ t.members.length = 1 ∧
      t.SameRows u ∧ u.HasOwner 0 ∧ ∀ organizationId, u.lock organizationId ≠ some 2 := by
  obtain ⟨t, u, hrun, hstep, hlength, hrefused⟩ : ∃ t u, membership.exec twoOwners
      [.removalAsks 1 ⟨0, 1, .owner⟩ 2, .removalAsks 2 ⟨0, 2, .owner⟩ 1, .removalLocks 1,
        .removalReadsCaller 1, .removalReadsTarget 1, .removalCounts 1, .removalDeletes 1,
        .removalCancels 1, .removalCommits 1, .removalLocks 2] = some t ∧
      membership.step t (.removalReadsCaller 2) = some u ∧ t.members.length = 1 ∧ u.Refused 2 :=
    ⟨_, _, rfl, rfl, rfl, _, _, rfl, rfl, by decide⟩
  have hreached : membership.Reachable free t := .of_exec init_twoOwners hrun
  have howner : twoOwners.HasOwner 0 := ⟨_, List.mem_cons_self, rfl, rfl⟩
  have hrefusal := (removals_keep_owners hreached).2.2 2 _ u [] u rfl hstep .refl hrefused
  have hall : membership.Path free twoOwners _ u := .snoc (path_of_exec hrun) trivial hstep
  have hkept := (removals_keep_owners (.of_init init_twoOwners)).1 _ u 0 hall howner
  exact ⟨t, u, hrun, hstep, hlength, hrefusal.1, hkept, hrefusal.2⟩

end OpenMcc

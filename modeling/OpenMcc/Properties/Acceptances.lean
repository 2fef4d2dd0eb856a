import Mathlib.Data.List.Nodup
import OpenMcc.Framework.Heap
import OpenMcc.Properties.Membership

/-!
# Invitations are accepted in order

An invitation that is no longer pending never is again, and a transaction that consumes one holds
its row until it commits (`RowsHeld`).  So nothing that has spent an invitation commits before the
acceptance that consumes it.  A removal spends the invitations it finds; the acceptances that have
read its target as their sender are those it has to find (`Foreseen`).
-/

namespace OpenMcc

open TransitionSystem

namespace AcceptanceStage

/-- The invitation that a call has read. -/
def invitation? : AcceptanceStage → Option InvitationRow
  | .found invitation | .signedUp invitation | .senderFound invitation
  | .inserted invitation _ | .consumed invitation _ => some invitation
  | _ => none

/-- The invitation of a call that has found its sender. -/
def sent? : AcceptanceStage → Option InvitationRow
  | .senderFound invitation | .inserted invitation _ | .consumed invitation _ => some invitation
  | _ => none

/-- A call at this stage may have an account. -/
def HasAccount : AcceptanceStage → Prop
  | .found _ | .ended .notFound => False
  | _ => True

end AcceptanceStage

namespace MembershipState

variable {s t u : MembershipState} {e : MembershipEvent} {call : Nat}

/-! ## Pending invitations -/

lemma isPending_of_eq {invitationId : Nat}
    (h : t.invitations invitationId = s.invitations invitationId) :
    t.isPending invitationId = s.isPending invitationId := by
  rw [isPending, isPending, h]

/-- The invitations that get another status are not pending any more, and the others stay. -/
lemma isPending_withStatus {invitationIds : List Nat} {status : InvitationStatus}
    (ht : t.invitations = s.withStatus invitationIds status) (hstatus : status ≠ .pending)
    (invitationId : Nat) :
    t.isPending invitationId = true ↔
      invitationId ∉ invitationIds ∧ s.isPending invitationId = true := by
  by_cases hmem : invitationId ∈ invitationIds
  · have hrow : t.invitations invitationId =
        (s.invitations invitationId).map fun row => { row with status := status } := by
      simp [ht, withStatus, hmem]
    rw [isPending, hrow]
    cases s.invitations invitationId with
    | none => simp [hmem]
    | some row => simp [hmem, hstatus]
  · have hrow : t.invitations invitationId = s.invitations invitationId := by
      simp [ht, withStatus, hmem]
    rw [isPending_of_eq hrow]
    simp [hmem]

lemma not_isPending_withStatus {invitationIds : List Nat} {status : InvitationStatus}
    (ht : t.invitations = s.withStatus invitationIds status) (hstatus : status ≠ .pending)
    {invitationId : Nat}
    (h : invitationId ∈ invitationIds ∨ s.isPending invitationId = false) :
    t.isPending invitationId = false := by
  rw [Bool.eq_false_iff]
  intro hpending
  obtain ⟨hout, hbefore⟩ := (isPending_withStatus ht hstatus invitationId).mp hpending
  obtain hin | hspent := h
  · exact hout hin
  · rw [hbefore] at hspent
    cases hspent

/-- An invitation that is no longer pending never is again. -/
lemma spent_stays (hmove : MembershipMove s e t) {invitationId : Nat}
    (hold : invitationId < s.nextInvitation) (hspent : s.isPending invitationId = false) :
    t.isPending invitationId = false := by
  cases hmove with
  | commits => exact not_isPending_withStatus rfl (by simp) (.inr hspent)
  | inviteInserts =>
    refine (isPending_of_eq ?_).trans hspent
    exact Function.update_of_ne (Nat.ne_of_lt hold) _ _
  | cancelCommits => exact not_isPending_withStatus rfl (by simp) (.inr hspent)
  | acceptCommits => exact not_isPending_withStatus rfl (by simp) (.inr hspent)
  | _ => exact hspent

/-! ## Rows of invitations -/

/-- The rows have their ids, and the calls have read rows. -/
structure RowsKnown (s : MembershipState) : Prop where
  ids : ∀ invitationId row, s.invitations invitationId = some row →
    row.id = invitationId ∧ invitationId < s.nextInvitation
  read : ∀ call stage invitation, s.acceptances call = some stage →
    stage.invitation? = some invitation → s.IsRow invitation ∧ invitation.role.isSome = true

lemma RowsKnown.old (h : s.RowsKnown) {invitation : InvitationRow} (hrow : s.IsRow invitation) :
    invitation.id < s.nextInvitation := by
  obtain ⟨row, hrow, -⟩ := hrow
  exact (h.ids invitation.id row hrow).2

lemma RowsKnown.old_of_isPending (h : s.RowsKnown) {invitationId : Nat}
    (hpending : s.isPending invitationId = true) : invitationId < s.nextInvitation := by
  obtain ⟨row, hrow, -⟩ := Option.any_eq_true _ _ |>.mp hpending
  exact (h.ids invitationId row hrow).2

lemma withStatus_eq_some {invitationIds : List Nat} {status : InvitationStatus}
    {invitationId : Nat} {row : InvitationRow}
    (h : s.withStatus invitationIds status invitationId = some row) :
    ∃ before, s.invitations invitationId = some before ∧ row.id = before.id := by
  unfold withStatus at h
  split at h
  · rw [Option.map_eq_some_iff] at h
    obtain ⟨before, hbefore, rfl⟩ := h
    exact ⟨before, hbefore, rfl⟩
  · exact ⟨row, h, rfl⟩

lemma IsRow.withStatus {invitation : InvitationRow} (h : s.IsRow invitation)
    {invitationIds : List Nat} {status : InvitationStatus}
    (ht : t.invitations = s.withStatus invitationIds status) : t.IsRow invitation := by
  obtain ⟨row, hrow, horganization, hrole, hinviter⟩ := h
  rw [IsRow, ht, MembershipState.withStatus]
  split
  · refine ⟨{ row with status := status }, ?_, horganization, hrole, hinviter⟩
    rw [hrow, Option.map_some]
  · exact ⟨row, hrow, horganization, hrole, hinviter⟩

/-- The row of an invitation stays, but for its status. -/
lemma RowsKnown.isRow (h : s.RowsKnown) (hmove : MembershipMove s e t) {invitation : InvitationRow}
    (hrow : s.IsRow invitation) : t.IsRow invitation := by
  cases hmove with
  | commits => exact hrow.withStatus rfl
  | cancelCommits => exact hrow.withStatus rfl
  | acceptCommits => exact hrow.withStatus rfl
  | inviteInserts =>
    have hne : invitation.id ≠ s.nextInvitation := Nat.ne_of_lt (h.old hrow)
    obtain ⟨row, hrow, hsame⟩ := hrow
    exact ⟨row, (Function.update_of_ne hne _ _).trans hrow, hsame⟩
  | _ => exact hrow

lemma RowsKnown.read_set (h : s.RowsKnown) {other : Nat} {after stage : AcceptanceStage}
    {invitation : InvitationRow}
    (hstage : Function.update s.acceptances call (some after) other = some stage)
    (hread : stage.invitation? = some invitation)
    (hafter : after.invitation? = some invitation →
      s.IsRow invitation ∧ invitation.role.isSome = true) :
    s.IsRow invitation ∧ invitation.role.isSome = true := by
  obtain ⟨-, rfl⟩ | ⟨-, hstage⟩ := Heap.put_eq_some hstage
  · exact hafter hread
  · exact h.read other stage invitation hstage hread

/-- A call goes on with the invitation that it has read. -/
lemma RowsKnown.read_next (h : s.RowsKnown) {other : Nat} {before after stage : AcceptanceStage}
    {invitation : InvitationRow}
    (hstage : Function.update s.acceptances call (some after) other = some stage)
    (hread : stage.invitation? = some invitation) (hcall : s.acceptances call = some before)
    (hsame : after.invitation? = some invitation → before.invitation? = some invitation) :
    s.IsRow invitation ∧ invitation.role.isSome = true :=
  h.read_set hstage hread fun hafter => h.read call before invitation hcall (hsame hafter)

lemma RowsKnown.ids_step (h : s.RowsKnown) (hmove : MembershipMove s e t) (invitationId : Nat)
    (row : InvitationRow) (hrow : t.invitations invitationId = some row) :
    row.id = invitationId ∧ invitationId < t.nextInvitation := by
  have hstatus : ∀ {invitationIds status}, s.withStatus invitationIds status invitationId = some row
      → row.id = invitationId ∧ invitationId < s.nextInvitation := by
    intro invitationIds status hrow
    obtain ⟨before, hbefore, hid⟩ := withStatus_eq_some hrow
    rw [hid]
    exact h.ids invitationId before hbefore
  cases hmove with
  | commits => exact hstatus hrow
  | cancelCommits => exact hstatus hrow
  | acceptCommits => exact hstatus hrow
  | inviteInserts =>
    obtain ⟨rfl, rfl⟩ | ⟨-, hrow⟩ := Heap.put_eq_some hrow
    · exact ⟨rfl, Nat.lt_succ_self _⟩
    · obtain ⟨hid, hold⟩ := h.ids invitationId row hrow
      exact ⟨hid, Nat.lt_succ_of_lt hold⟩
  | _ => exact h.ids invitationId row hrow

lemma RowsKnown.read_step (h : s.RowsKnown) (hmove : MembershipMove s e t) (call : Nat)
    (stage : AcceptanceStage) (invitation : InvitationRow)
    (hstage : t.acceptances call = some stage) (hread : stage.invitation? = some invitation) :
    s.IsRow invitation ∧ invitation.role.isSome = true := by
  cases hmove with
  | acceptRefused => exact h.read_set hstage hread fun hnone => by cases hnone
  | @acceptReads _ invitationId _ row _ hrow hacceptable =>
    refine h.read_set hstage hread fun hinvitation => ?_
    obtain rfl := Option.some.inj hinvitation
    rw [acceptable, Bool.and_eq_true] at hacceptable
    obtain ⟨role, hrole, -⟩ := Option.any_eq_true _ _ |>.mp hacceptable.2
    refine ⟨⟨row, ?_, rfl, rfl, rfl⟩, Option.isSome_of_eq_some hrole⟩
    rw [(h.ids invitationId row hrow).1]
    exact hrow
  | acceptSignsUp hcall => exact h.read_next hstage hread hcall id
  | acceptReadsSender hcall => exact h.read_next hstage hread hcall id
  | acceptFindsNoSender => exact h.read_set hstage hread fun hnone => by cases hnone
  | acceptInserts hcall => exact h.read_next hstage hread hcall id
  | acceptConsumes hcall => exact h.read_next hstage hread hcall id
  | acceptFindsItSpent => exact h.read_set hstage hread fun hnone => by cases hnone
  | acceptCommits => exact h.read_set hstage hread fun hnone => by cases hnone
  | acceptDeletesUser => exact h.read_set hstage hread fun hnone => by cases hnone
  | acceptStops => exact h.read_set hstage hread fun hnone => by cases hnone
  | _ => exact h.read _ _ _ hstage hread

lemma RowsKnown.step (h : s.RowsKnown) (hmove : MembershipMove s e t) : t.RowsKnown where
  ids := h.ids_step hmove
  read call stage invitation hstage hread := by
    obtain ⟨hrow, hrole⟩ := h.read_step hmove call stage invitation hstage hread
    exact ⟨h.isRow hmove hrow, hrole⟩

/-! ## Rows that are held -/

/-- What a transaction has updated it holds, and what is held is pending. -/
structure RowsHeld (s : MembershipState) : Prop where
  byRemovals : ∀ call removal, s.removals call = some removal →
    ∀ invitationId ∈ removal.stage.cancelled, s.held invitationId = some (.removal call)
  byAcceptances : ∀ call invitation memberId,
    s.acceptances call = some (.consumed invitation memberId) →
    s.held invitation.id = some (.acceptance call)
  byCancellations : ∀ call invitationId, s.cancellations call = some invitationId →
    s.held invitationId = some (.cancellation call)
  pending : ∀ invitationId, s.held invitationId ≠ none → s.isPending invitationId = true

lemma held_taken {holder taker : InvitationHolder} {invitationId taken : Nat}
    (h : s.held invitationId = some holder) (hfree : s.held taken = none) :
    Function.update s.held taken (some taker) invitationId = some holder := by
  have hne : invitationId ≠ taken := by
    rintro rfl
    rw [h] at hfree
    cases hfree
  rw [Function.update_of_ne hne]
  exact h

lemma held_released {holder gone : InvitationHolder} {invitationId : Nat}
    (h : s.held invitationId = some holder) (hne : holder ≠ gone) :
    s.released gone invitationId = some holder := by
  have hother : s.held invitationId ≠ some gone := by
    rw [h]
    exact fun heq => hne (Option.some.inj heq)
  rw [released, if_neg hother]
  exact h

lemma held_of_released {gone : InvitationHolder} {invitationId : Nat}
    (h : s.released gone invitationId ≠ none) :
    s.held invitationId ≠ none ∧ s.held invitationId ≠ some gone := by
  unfold released at h
  split at h
  · exact absurd rfl h
  · next hother => exact ⟨h, hother⟩

lemma RowsHeld.byRemovals_set (h : s.RowsHeld) {other : Nat} {after removal : RemovalCall}
    {invitationId : Nat}
    (hremoval : Function.update s.removals call (some after) other = some removal)
    (hmem : invitationId ∈ removal.stage.cancelled)
    (hafter : invitationId ∈ after.stage.cancelled →
      s.held invitationId = some (.removal call)) :
    s.held invitationId = some (.removal other) := by
  obtain ⟨rfl, rfl⟩ | ⟨-, hremoval⟩ := Heap.put_eq_some hremoval
  · exact hafter hmem
  · exact h.byRemovals other removal hremoval invitationId hmem

/-- A removal has given its rows back, and the others keep theirs. -/
lemma RowsHeld.byRemovals_ended (h : s.RowsHeld) {other : Nat} {after removal : RemovalCall}
    {invitationId : Nat}
    (hremoval : Function.update s.removals call (some after) other = some removal)
    (hmem : invitationId ∈ removal.stage.cancelled) (hafter : after.stage.cancelled = []) :
    s.released (.removal call) invitationId = some (.removal other) := by
  obtain ⟨-, rfl⟩ | ⟨hne, hremoval⟩ := Heap.put_eq_some hremoval
  · rw [hafter] at hmem
    exact absurd hmem List.not_mem_nil
  · refine held_released (h.byRemovals other removal hremoval invitationId hmem) ?_
    exact fun heq => hne (InvitationHolder.removal.inj heq)

lemma RowsHeld.byRemovals_step (h : s.RowsHeld) (hmove : MembershipMove s e t) (call : Nat)
    (removal : RemovalCall) (hcall : t.removals call = some removal) (invitationId : Nat)
    (hmem : invitationId ∈ removal.stage.cancelled) :
    t.held invitationId = some (.removal call) := by
  have hnothing : ∀ {P : Prop}, invitationId ∈ ([] : List Nat) → P := fun hnil =>
    absurd hnil List.not_mem_nil
  cases hmove with
  | refusesAtOnce => exact h.byRemovals_set hcall hmem hnothing
  | asks => exact h.byRemovals_set hcall hmem hnothing
  | locks => exact h.byRemovals_set hcall hmem hnothing
  | readsCaller => exact h.byRemovals_set hcall hmem hnothing
  | readsTarget => exact h.byRemovals_set hcall hmem hnothing
  | counts => exact h.byRemovals_set hcall hmem hnothing
  | deletes => exact h.byRemovals_set hcall hmem hnothing
  | cancels => exact h.byRemovals_set hcall hmem hnothing
  | stopsWaiting => exact h.byRemovals_set hcall hmem hnothing
  | skipsNext hbefore =>
    exact h.byRemovals_set hcall hmem fun hin => h.byRemovals _ _ hbefore invitationId hin
  | @cancelsNext other _ _ _ taken left cancelled hbefore hfree =>
    by_cases hsame : invitationId = taken
    · subst hsame
      obtain ⟨rfl, -⟩ | ⟨-, hcall⟩ := Heap.put_eq_some hcall
      · exact Function.update_self _ _ _
      · have hheld := h.byRemovals call removal hcall invitationId hmem
        rw [hfree] at hheld
        cases hheld
    · refine held_taken (h.byRemovals_set hcall hmem fun hin => ?_) hfree
      refine h.byRemovals _ _ hbefore invitationId ?_
      have hboth : invitationId ∈ cancelled ++ [taken] := hin
      rw [List.mem_append, List.mem_singleton] at hboth
      exact hboth.resolve_right hsame
  | commits => exact h.byRemovals_ended hcall hmem rfl
  | givesUp => exact h.byRemovals_ended hcall hmem rfl
  | cancelUpdates _ hfree => exact held_taken (h.byRemovals call removal hcall _ hmem) hfree
  | cancelCommits => exact held_released (h.byRemovals call removal hcall _ hmem) (by simp)
  | cancelStops => exact held_released (h.byRemovals call removal hcall _ hmem) (by simp)
  | acceptConsumes _ hfree => exact held_taken (h.byRemovals call removal hcall _ hmem) hfree
  | acceptCommits => exact held_released (h.byRemovals call removal hcall _ hmem) (by simp)
  | acceptStops => exact held_released (h.byRemovals call removal hcall _ hmem) (by simp)
  | _ => exact h.byRemovals call removal hcall _ hmem

/-- A call goes to a stage in which it holds nothing. -/
lemma RowsHeld.byAcceptances_set (h : s.RowsHeld) {other : Nat} {after : AcceptanceStage}
    {invitation : InvitationRow} {memberId : Nat}
    (hcall : Function.update s.acceptances call (some after) other =
      some (.consumed invitation memberId))
    (hafter : after ≠ .consumed invitation memberId) :
    other ≠ call ∧ s.held invitation.id = some (.acceptance other) := by
  obtain ⟨-, heq⟩ | ⟨hne, hcall⟩ := Heap.put_eq_some hcall
  · exact absurd heq.symm hafter
  · exact ⟨hne, h.byAcceptances other invitation memberId hcall⟩

lemma RowsHeld.byAcceptances_step (h : s.RowsHeld) (hmove : MembershipMove s e t) (call : Nat)
    (invitation : InvitationRow) (memberId : Nat)
    (hcall : t.acceptances call = some (.consumed invitation memberId)) :
    t.held invitation.id = some (.acceptance call) := by
  have hended : ∀ {other after}, Function.update s.acceptances other (some after) call =
      some (.consumed invitation memberId) → after ≠ .consumed invitation memberId →
      s.released (.acceptance other) invitation.id = some (.acceptance call) := by
    intro other after hstage hafter
    obtain ⟨hne, hheld⟩ := h.byAcceptances_set hstage hafter
    exact held_released hheld fun heq => hne (InvitationHolder.acceptance.inj heq)
  cases hmove with
  | cancelsNext _ hfree => exact held_taken (h.byAcceptances call _ _ hcall) hfree
  | commits => exact held_released (h.byAcceptances call _ _ hcall) (by simp)
  | givesUp => exact held_released (h.byAcceptances call _ _ hcall) (by simp)
  | cancelUpdates _ hfree => exact held_taken (h.byAcceptances call _ _ hcall) hfree
  | cancelCommits => exact held_released (h.byAcceptances call _ _ hcall) (by simp)
  | cancelStops => exact held_released (h.byAcceptances call _ _ hcall) (by simp)
  | acceptRefused => exact (h.byAcceptances_set hcall (by simp)).2
  | acceptReads => exact (h.byAcceptances_set hcall (by simp)).2
  | acceptSignsUp => exact (h.byAcceptances_set hcall (by simp)).2
  | acceptReadsSender => exact (h.byAcceptances_set hcall (by simp)).2
  | acceptFindsNoSender => exact (h.byAcceptances_set hcall (by simp)).2
  | acceptInserts => exact (h.byAcceptances_set hcall (by simp)).2
  | acceptFindsItSpent => exact (h.byAcceptances_set hcall (by simp)).2
  | acceptDeletesUser => exact (h.byAcceptances_set hcall (by simp)).2
  | acceptConsumes _ hfree =>
    obtain ⟨rfl, heq⟩ | ⟨-, hcall⟩ := Heap.put_eq_some hcall
    · obtain ⟨rfl, -⟩ := AcceptanceStage.consumed.inj heq
      exact Function.update_self _ _ _
    · exact held_taken (h.byAcceptances call invitation memberId hcall) hfree
  | acceptCommits => exact hended hcall (by simp)
  | acceptStops => exact hended hcall (by simp)
  | _ => exact h.byAcceptances call invitation memberId hcall

lemma RowsHeld.byCancellations_step (h : s.RowsHeld) (hmove : MembershipMove s e t) (call : Nat)
    (invitationId : Nat) (hcall : t.cancellations call = some invitationId) :
    t.held invitationId = some (.cancellation call) := by
  have hended : ∀ {other}, Function.update s.cancellations other none call = some invitationId →
      s.released (.cancellation other) invitationId = some (.cancellation call) := by
    intro other hupdated
    obtain ⟨hne, hbefore⟩ := Heap.take_eq_some hupdated
    refine held_released (h.byCancellations call invitationId hbefore) ?_
    exact fun heq => hne (InvitationHolder.cancellation.inj heq)
  cases hmove with
  | cancelsNext _ hfree => exact held_taken (h.byCancellations call _ hcall) hfree
  | commits => exact held_released (h.byCancellations call _ hcall) (by simp)
  | givesUp => exact held_released (h.byCancellations call _ hcall) (by simp)
  | cancelUpdates _ hfree =>
    obtain ⟨rfl, rfl⟩ | ⟨-, hcall⟩ := Heap.put_eq_some hcall
    · exact Function.update_self _ _ _
    · exact held_taken (h.byCancellations call invitationId hcall) hfree
  | cancelCommits => exact hended hcall
  | cancelStops => exact hended hcall
  | acceptConsumes _ hfree => exact held_taken (h.byCancellations call _ hcall) hfree
  | acceptCommits => exact held_released (h.byCancellations call _ hcall) (by simp)
  | acceptStops => exact held_released (h.byCancellations call _ hcall) (by simp)
  | _ => exact h.byCancellations call invitationId hcall

/-- A transaction that commits spends only rows that it has held itself. -/
lemma RowsHeld.pending_withStatus (h : s.RowsHeld) {holder : InvitationHolder}
    {invitationIds : List Nat} {status : InvitationStatus}
    (ht : t.invitations = s.withStatus invitationIds status) (hstatus : status ≠ .pending)
    (hheld : ∀ invitationId ∈ invitationIds, s.held invitationId = some holder)
    {invitationId : Nat} (hother : s.released holder invitationId ≠ none) :
    t.isPending invitationId = true := by
  obtain ⟨hsome, hne⟩ := held_of_released hother
  refine (isPending_withStatus ht hstatus invitationId).mpr ⟨?_, h.pending invitationId hsome⟩
  exact fun hmem => hne (hheld invitationId hmem)

lemma RowsHeld.pending_step (h : s.RowsHeld) (hknown : s.RowsKnown) (hmove : MembershipMove s e t)
    (invitationId : Nat) (hheld : t.held invitationId ≠ none) :
    t.isPending invitationId = true := by
  have htaken : ∀ {taken holder}, s.isPending taken = true →
      Function.update s.held taken (some holder) invitationId ≠ none →
      s.isPending invitationId = true := by
    intro taken holder hpending hsome
    by_cases hsame : invitationId = taken
    · exact hsame ▸ hpending
    · rw [Function.update_of_ne hsame] at hsome
      exact h.pending invitationId hsome
  cases hmove with
  | cancelsNext _ _ hpending => exact htaken hpending hheld
  | cancelUpdates _ _ hpending => exact htaken hpending hheld
  | acceptConsumes _ _ hpending => exact htaken hpending hheld
  | givesUp => exact h.pending invitationId (held_of_released hheld).1
  | cancelStops => exact h.pending invitationId (held_of_released hheld).1
  | acceptStops => exact h.pending invitationId (held_of_released hheld).1
  | commits hcall =>
    exact h.pending_withStatus rfl (by simp) (fun _ hmem => h.byRemovals _ _ hcall _ hmem) hheld
  | cancelCommits hcall =>
    refine h.pending_withStatus rfl (by simp) (fun _ hmem => ?_) hheld
    exact List.mem_singleton.mp hmem ▸ h.byCancellations _ _ hcall
  | acceptCommits hcall =>
    refine h.pending_withStatus rfl (by simp) (fun _ hmem => ?_) hheld
    exact List.mem_singleton.mp hmem ▸ h.byAcceptances _ _ _ hcall
  | inviteInserts =>
    have hpending := h.pending invitationId hheld
    have hold := hknown.old_of_isPending hpending
    refine (isPending_of_eq ?_).trans hpending
    exact Function.update_of_ne (Nat.ne_of_lt hold) _ _
  | _ => exact h.pending invitationId hheld

lemma RowsHeld.step (h : s.RowsHeld) (hknown : s.RowsKnown) (hmove : MembershipMove s e t) :
    t.RowsHeld :=
  ⟨h.byRemovals_step hmove, h.byAcceptances_step hmove, h.byCancellations_step hmove,
    h.pending_step hknown hmove⟩

/-! ## Members that are removed -/

/-- Members are removed for good: no account is a member of an organization twice. -/
structure RemovedForGood (s : MembershipState) : Prop where
  unique : (s.members.map fun row => (row.organizationId, row.userId)).Nodup
  /-- A removed account that was signed up for an invitation had accepted it. -/
  joined : ∀ target, .removed target ∈ s.history → ∀ call, target.userId = .signedUp call →
    s.acceptances call = some (.ended .accepted)
  absent : ∀ target, .removed target ∈ s.history → ∀ row ∈ s.members,
    ¬(row.organizationId = target.organizationId ∧ row.userId = target.userId)

/-- Two members with one key are one. -/
lemma eq_of_same_key {members : List MemberRow} {row other : MemberRow}
    (hunique : (members.map fun row => (row.organizationId, row.userId)).Nodup)
    (hrow : row ∈ members) (hother : other ∈ members)
    (horganization : row.organizationId = other.organizationId)
    (huser : row.userId = other.userId) : row = other :=
  List.inj_on_of_nodup_map hunique hrow hother (Prod.ext horganization huser)

lemma RemovedForGood.unique_step (h : s.RemovedForGood) (hserialised : s.Serialised)
    (hmove : MembershipMove s e t) :
    (t.members.map fun row => (row.organizationId, row.userId)).Nodup := by
  cases hmove with
  | commits => exact h.unique.sublist (List.filter_sublist.map _)
  | acceptDeletesUser => exact h.unique.sublist (List.filter_sublist.map _)
  | acceptCommits hcall =>
    rw [List.map_append, List.map_singleton]
    refine List.nodup_append.mpr ⟨h.unique, List.nodup_singleton _, ?_⟩
    intro key hkey other hother heq
    obtain ⟨row, hrow, rfl⟩ := List.mem_map.mp hkey
    rw [List.mem_singleton] at hother
    have huser : row.userId = .signedUp _ := (Prod.ext_iff.mp (heq.trans hother)).2
    have haccepted := hserialised.joined row hrow _ huser
    rw [hcall] at haccepted
    cases haccepted
  | _ => exact h.unique

/-- What the commits of a step add. -/
lemma mem_history {commit : MembershipCommit} (hmove : MembershipMove s e t)
    (hcommit : commit ∈ t.history) : commit ∈ s.history ∨
      (∃ call caller memberId target cancelled,
        s.removals call = some ⟨caller, memberId, .cancelling target [] cancelled⟩ ∧
        t.invitations = s.withStatus cancelled .canceled ∧
        (t.members = s.members.filter fun row =>
          !(row.organizationId == caller.organizationId && row.id == memberId)) ∧
        (commit = .removed target ∨ ∃ invitationId ∈ cancelled, commit = .cancelled invitationId)) ∨
      (∃ call invitationId, s.cancellations call = some invitationId ∧
        t.invitations = s.withStatus [invitationId] .canceled ∧
        commit = .cancelled invitationId) ∨
      ∃ call invitation memberId, s.acceptances call = some (.consumed invitation memberId) ∧
        t.invitations = s.withStatus [invitation.id] .accepted ∧
        commit = .accepted invitation (acceptedMember call invitation memberId) := by
  cases hmove with
  | commits hcall =>
    rw [List.mem_append, List.mem_append, List.mem_map, List.mem_singleton] at hcommit
    obtain (hold | ⟨invitationId, hmem, rfl⟩) | rfl := hcommit
    · exact .inl hold
    · exact .inr (.inl ⟨_, _, _, _, _, hcall, rfl, rfl, .inr ⟨invitationId, hmem, rfl⟩⟩)
    · exact .inr (.inl ⟨_, _, _, _, _, hcall, rfl, rfl, .inl rfl⟩)
  | cancelCommits hcall =>
    rw [List.mem_append, List.mem_singleton] at hcommit
    obtain hold | rfl := hcommit
    · exact .inl hold
    · exact .inr (.inr (.inl ⟨_, _, hcall, rfl, rfl⟩))
  | acceptCommits hcall =>
    rw [List.mem_append, List.mem_singleton] at hcommit
    obtain hold | rfl := hcommit
    · exact .inl hold
    · exact .inr (.inr (.inr ⟨_, _, _, hcall, rfl, rfl⟩))
  | _ => exact .inl hcommit

/-- A member is new only when an acceptance commits. -/
lemma mem_members {row : MemberRow} (hmove : MembershipMove s e t) (hrow : row ∈ t.members) :
    row ∈ s.members ∨ ∃ call invitation memberId,
      s.acceptances call = some (.consumed invitation memberId) ∧
      row = acceptedMember call invitation memberId ∧ .accepted invitation row ∈ t.history := by
  cases hmove with
  | commits => exact .inl (List.mem_of_mem_filter hrow)
  | acceptDeletesUser => exact .inl (List.mem_of_mem_filter hrow)
  | acceptCommits hcall =>
    rw [List.mem_append, List.mem_singleton] at hrow
    obtain hold | rfl := hrow
    · exact .inl hold
    · exact .inr ⟨_, _, _, hcall, rfl, List.mem_append_right _ (List.mem_singleton_self _)⟩
  | _ => exact .inl hrow

lemma RemovedForGood.joined_step (h : s.RemovedForGood) (hserialised : s.Serialised)
    (hmove : MembershipMove s e t) (target : MemberRow) (htarget : .removed target ∈ t.history)
    (call : Nat) (huser : target.userId = .signedUp call) :
    t.acceptances call = some (.ended .accepted) := by
  refine accepted_stays hmove ?_
  obtain hold | ⟨other, caller, memberId, removed, cancelled, hcall, -, -, hcommit⟩ |
    ⟨_, _, -, -, hcommit⟩ | ⟨_, _, _, -, -, hcommit⟩ := mem_history hmove htarget
  · exact h.joined target hold call huser
  · obtain heq | ⟨_, -, hcancelled⟩ := hcommit
    · obtain rfl := MembershipCommit.removed.inj heq
      have hmember := ((hserialised.removalsHold _ _ hcall).found target rfl).1
      exact hserialised.joined target hmember call huser
    · cases hcancelled
  · cases hcommit
  · cases hcommit

lemma RemovedForGood.absent_step (h : s.RemovedForGood) (hserialised : s.Serialised)
    (hmove : MembershipMove s e t) (target : MemberRow) (htarget : .removed target ∈ t.history)
    (row : MemberRow) (hrow : row ∈ t.members) :
    ¬(row.organizationId = target.organizationId ∧ row.userId = target.userId) := by
  rintro ⟨horganization, huser⟩
  obtain hold | ⟨other, caller, memberId, removed, cancelled, hcall, -, hmembers, hcommit⟩ |
    ⟨_, _, -, -, hcommit⟩ | ⟨_, _, _, -, -, hcommit⟩ := mem_history hmove htarget
  · obtain hbefore | ⟨call, invitation, memberId, hconsumed, rfl, -⟩ := mem_members hmove hrow
    · exact h.absent target hold row hbefore ⟨horganization, huser⟩
    · have haccepted := h.joined target hold call huser.symm
      rw [hconsumed] at haccepted
      cases haccepted
  · obtain heq | ⟨_, -, hcancelled⟩ := hcommit
    · obtain rfl := MembershipCommit.removed.inj heq
      obtain ⟨hmember, htargetOrganization, hid⟩ :=
        (hserialised.removalsHold _ _ hcall).found target rfl
      rw [hmembers, List.mem_filter] at hrow
      obtain rfl : row = target :=
        eq_of_same_key h.unique hrow.1 hmember horganization huser
      simp [htargetOrganization, hid] at hrow
    · cases hcancelled
  · cases hcommit
  · cases hcommit

lemma RemovedForGood.step (h : s.RemovedForGood) (hserialised : s.Serialised)
    (hmove : MembershipMove s e t) : t.RemovedForGood :=
  ⟨h.unique_step hserialised hmove, h.joined_step hserialised hmove,
    h.absent_step hserialised hmove⟩

/-! ## Senders -/

/-- A call that has a sender had it before, or has just read it. -/
lemma sent_before {stage : AcceptanceStage} {invitation : InvitationRow}
    (hmove : MembershipMove s e t) (hstage : t.acceptances call = some stage)
    (hsent : stage.sent? = some invitation) :
    (∃ before, s.acceptances call = some before ∧ before.sent? = some invitation) ∨
      (e = .acceptReadsSender call ∧ s.acceptances call = some (.signedUp invitation) ∧
        s.isMember invitation.organizationId invitation.inviterId = true) := by
  have hgoes : ∀ {mover : Nat} {before after : AcceptanceStage},
      s.acceptances mover = some before →
      Function.update s.acceptances mover (some after) call = some stage →
      (after.sent? = some invitation → before.sent? = some invitation) →
      ∃ before, s.acceptances call = some before ∧ before.sent? = some invitation := by
    intro mover before after hbefore hupdate hsame
    obtain ⟨rfl, rfl⟩ | ⟨-, hold⟩ := Heap.put_eq_some hupdate
    · exact ⟨before, hbefore, hsame hsent⟩
    · exact ⟨stage, hold, hsent⟩
  cases hmove with
  | acceptReadsSender hcall hmember =>
    obtain ⟨rfl, rfl⟩ | ⟨-, hold⟩ := Heap.put_eq_some hstage
    · obtain rfl := Option.some.inj hsent
      exact .inr ⟨rfl, hcall, hmember⟩
    · exact .inl ⟨stage, hold, hsent⟩
  | acceptRefused | acceptReads =>
    obtain ⟨-, rfl⟩ | ⟨-, hold⟩ := Heap.put_eq_some hstage
    · cases hsent
    · exact .inl ⟨stage, hold, hsent⟩
  | acceptSignsUp hcall => exact .inl (hgoes hcall hstage fun hnone => by cases hnone)
  | acceptFindsNoSender hcall => exact .inl (hgoes hcall hstage fun hnone => by cases hnone)
  | acceptInserts hcall => exact .inl (hgoes hcall hstage id)
  | acceptConsumes hcall => exact .inl (hgoes hcall hstage id)
  | acceptFindsItSpent hcall => exact .inl (hgoes hcall hstage fun hnone => by cases hnone)
  | acceptCommits hcall => exact .inl (hgoes hcall hstage fun hnone => by cases hnone)
  | acceptDeletesUser hcall => exact .inl (hgoes hcall hstage fun hnone => by cases hnone)
  | acceptStops hcall => exact .inl (hgoes hcall hstage fun hnone => by cases hnone)
  | _ => exact .inl ⟨stage, hstage, hsent⟩

/-- An invitation that has a sender was read. -/
lemma RowsKnown.isRow_of_sent (h : s.RowsKnown) {stage : AcceptanceStage}
    {invitation : InvitationRow} (hstage : s.acceptances call = some stage)
    (hsent : stage.sent? = some invitation) : s.IsRow invitation := by
  refine (h.read call stage invitation hstage ?_).1
  cases stage with
  | senderFound | inserted | consumed => exact hsent
  | _ => cases hsent

/-! ## Removals and the invitations of their targets -/

/-- An open removal has found, or will find, the invitations of its target that are being
accepted. -/
def Foreseen (s : MembershipState) : Prop :=
  ∀ call stage invitation, s.acceptances call = some stage → stage.sent? = some invitation →
    ∀ other removal, s.removals other = some removal →
      removal.caller.organizationId = invitation.organizationId →
      s.findsInvitation invitation removal = true

lemma findsInvitation_of_stage {invitation : InvitationRow} {removal : RemovalCall}
    (h : ∀ target left cancelled, removal.stage ≠ .cancelling target left cancelled) :
    s.findsInvitation invitation removal = true := by
  unfold findsInvitation
  split
  · next heq => exact absurd heq (h _ _ _)
  · rfl

lemma findsInvitation_cancelling {invitation : InvitationRow} {caller : MemberActor}
    {memberId : Nat} {target : MemberRow} {left cancelled : List Nat} :
    s.findsInvitation invitation ⟨caller, memberId, .cancelling target left cancelled⟩ = true ↔
      target.userId ≠ invitation.inviterId ∨ invitation.id ∈ left ∨ invitation.id ∈ cancelled ∨
        s.isPending invitation.id = false := by
  simp [findsInvitation, or_assoc]

lemma findsInvitation_kept (hknown : s.RowsKnown) (hmove : MembershipMove s e t)
    {invitation : InvitationRow} {removal : RemovalCall} (hrow : s.IsRow invitation)
    (h : s.findsInvitation invitation removal = true) :
    t.findsInvitation invitation removal = true := by
  unfold findsInvitation at h ⊢
  split at h
  · simp only [Bool.or_eq_true, Bool.not_eq_true'] at h ⊢
    exact h.imp_right (spent_stays hmove (hknown.old hrow))
  · rfl

/-- The statement that looks for the invitations of a target finds those that are pending. -/
lemma mem_pendingSentBy (hknown : s.RowsKnown) {invitation : InvitationRow}
    (hrow : s.IsRow invitation) (hpending : s.isPending invitation.id = true) :
    invitation.id ∈ s.pendingSentBy invitation.organizationId invitation.inviterId := by
  have hold := hknown.old hrow
  obtain ⟨row, hrow, horganization, -, hinviter⟩ := hrow
  rw [isPending, hrow] at hpending
  have hstatus : (row.status == .pending) = true := hpending
  rw [pendingSentBy, List.mem_filter, List.mem_range]
  refine ⟨hold, ?_⟩
  simp [hrow, horganization, hinviter, hstatus]

/-- A sender that is read as a member is of no removal that has missed the invitation. -/
lemma finds_of_sendersSettled (hserialised : s.Serialised) {invitation : InvitationRow}
    (hcall : s.acceptances call = some (.signedUp invitation))
    (hsettled : s.sendersSettled (.acceptReadsSender call) = true) {other : Nat}
    {removal : RemovalCall} (hremoval : s.removals other = some removal)
    (horganization : removal.caller.organizationId = invitation.organizationId) :
    s.findsInvitation invitation removal = true := by
  by_cases hinside : removal.stage.Inside
  · have hlock := hserialised.lockHeld.1 other removal hremoval hinside
    rw [horganization] at hlock
    simp only [sendersSettled, hcall, hlock, Option.bind_some, hremoval, Option.all_some]
      at hsettled
    exact hsettled
  · refine findsInvitation_of_stage fun target left cancelled heq => ?_
    rw [heq] at hinside
    exact hinside trivial

lemma Foreseen.step (h : s.Foreseen) (hserialised : s.Serialised) (hknown : s.RowsKnown)
    (hmove : MembershipMove s e t) (hsettled : s.sendersSettled e = true) : t.Foreseen := by
  intro call stage invitation hstage hsent other removal hremoval horganization
  obtain ⟨before, hbefore, hsentBefore⟩ | ⟨rfl, hcall, -⟩ := sent_before hmove hstage hsent
  · have hrow := hknown.isRow_of_sent hbefore hsentBefore
    have hold : ∀ {removal : RemovalCall}, s.removals other = some removal →
        removal.caller.organizationId = invitation.organizationId →
        t.findsInvitation invitation removal = true := fun hremoval horganization =>
      findsInvitation_kept hknown hmove hrow
        (h call before invitation hbefore hsentBefore other _ hremoval horganization)
    have hgoes : ∀ {mover : Nat} {after : RemovalCall},
        Function.update s.removals mover (some after) other = some removal →
        (other = mover → after.caller.organizationId = invitation.organizationId →
          t.findsInvitation invitation after = true) →
        t.findsInvitation invitation removal = true := by
      intro mover after hupdate hafter
      obtain ⟨hsame, rfl⟩ | ⟨-, hremoval⟩ := Heap.put_eq_some hupdate
      · exact hafter hsame horganization
      · exact hold hremoval horganization
    cases hmove with
    | refusesAtOnce => exact hgoes hremoval fun _ _ => rfl
    | asks => exact hgoes hremoval fun _ _ => rfl
    | locks => exact hgoes hremoval fun _ _ => rfl
    | readsCaller => exact hgoes hremoval fun _ _ => rfl
    | readsTarget => exact hgoes hremoval fun _ _ => rfl
    | counts => exact hgoes hremoval fun _ _ => rfl
    | deletes => exact hgoes hremoval fun _ _ => rfl
    | commits => exact hgoes hremoval fun _ _ => rfl
    | givesUp => exact hgoes hremoval fun _ _ => rfl
    | stopsWaiting => exact hgoes hremoval fun _ _ => rfl
    | @cancels _ caller memberId target _ =>
      refine hgoes hremoval fun _ horganization => findsInvitation_cancelling.mpr ?_
      by_cases huser : target.userId = invitation.inviterId
      · by_cases hpending : s.isPending invitation.id = true
        · have hfound := mem_pendingSentBy hknown hrow hpending
          rw [← huser, ← horganization] at hfound
          exact .inr (.inl hfound)
        · exact .inr (.inr (.inr (Bool.eq_false_iff.mpr hpending)))
      · exact .inl huser
    | cancelsNext hcall =>
      refine hgoes hremoval fun hsame horganization => findsInvitation_cancelling.mpr ?_
      subst hsame
      have hfinds := hold hcall horganization
      rw [findsInvitation_cancelling, List.mem_cons] at hfinds
      rw [List.mem_append, List.mem_singleton]
      tauto
    | skipsNext hcall hspent =>
      refine hgoes hremoval fun hsame horganization => findsInvitation_cancelling.mpr ?_
      subst hsame
      have hfinds := hold hcall horganization
      rw [findsInvitation_cancelling, List.mem_cons] at hfinds
      obtain huser | (rfl | hleft) | hrest := hfinds
      · exact .inl huser
      · exact .inr (.inr (.inr hspent))
      · exact .inr (.inl hleft)
      · exact .inr (.inr hrest)
    | _ => exact hold hremoval horganization
  · have hrow := (hknown.read call _ invitation hcall rfl).1
    refine findsInvitation_kept hknown hmove hrow ?_
    have hsame : t.removals = s.removals := by
      cases hmove with
      | acceptReadsSender | acceptFindsNoSender => rfl
      | givesUp _ _ _ hevent => cases hevent
    rw [hsame] at hremoval
    exact finds_of_sendersSettled hserialised hcall hsettled hremoval horganization

/-! ## What is spent -/

/-- The invitations of a removed sender that are being accepted are spent. -/
def Cut (s : MembershipState) : Prop :=
  ∀ call stage invitation, s.acceptances call = some stage → stage.sent? = some invitation →
    ∀ target, .removed target ∈ s.history →
      invitation.organizationId = target.organizationId → invitation.inviterId = target.userId →
      s.isPending invitation.id = false

lemma Cut.step (h : s.Cut) (hforeseen : s.Foreseen) (hserialised : s.Serialised)
    (hknown : s.RowsKnown) (hremoved : s.RemovedForGood) (hmove : MembershipMove s e t) :
    t.Cut := by
  intro call stage invitation hstage hsent target htarget horganization hinviter
  obtain ⟨before, hbefore, hsentBefore⟩ | ⟨rfl, hcall, hmember⟩ := sent_before hmove hstage hsent
  · have hrow := hknown.isRow_of_sent hbefore hsentBefore
    obtain hold | ⟨other, caller, memberId, removed, cancelled, hremoval, hspent, -, hcommit⟩ |
      ⟨_, _, -, -, hcommit⟩ | ⟨_, _, _, -, -, hcommit⟩ := mem_history hmove htarget
    · refine spent_stays hmove (hknown.old hrow) ?_
      exact h call before invitation hbefore hsentBefore target hold horganization hinviter
    · obtain heq | ⟨_, -, hcancelled⟩ := hcommit
      · obtain rfl := MembershipCommit.removed.inj heq
        have hcaller := ((hserialised.removalsHold _ _ hremoval).found target rfl).2.1
        have hfinds := hforeseen call before invitation hbefore hsentBefore other _ hremoval
          (hcaller.symm.trans horganization.symm)
        rw [findsInvitation_cancelling] at hfinds
        refine not_isPending_withStatus hspent (by simp) ?_
        obtain huser | hleft | hin | hgone := hfinds
        · exact absurd hinviter.symm huser
        · exact absurd hleft List.not_mem_nil
        · exact .inl hin
        · exact .inr hgone
      · cases hcancelled
    · cases hcommit
    · cases hcommit
  · cases hmove with
    | acceptReadsSender =>
      obtain ⟨row, hrow, hfound⟩ := List.any_eq_true.mp hmember
      rw [Bool.and_eq_true, beq_iff_eq, beq_iff_eq] at hfound
      refine absurd ⟨?_, ?_⟩ (hremoved.absent target htarget row hrow)
      · exact hfound.1.trans horganization
      · exact hfound.2.trans hinviter
    | acceptFindsNoSender =>
      obtain ⟨-, rfl⟩ | ⟨hne, -⟩ := Heap.put_eq_some hstage
      · cases hsent
      · exact absurd rfl hne
    | givesUp _ _ _ hevent => cases hevent

end MembershipState

/-- The invitation that a commit spends. -/
def MembershipCommit.spent? : MembershipCommit → Option Nat
  | .accepted invitation _ => some invitation.id
  | .cancelled invitationId => some invitationId
  | .removed _ => none

namespace MembershipState

variable {s t u : MembershipState} {e : MembershipEvent} {call : Nat}

/-- What a commit has spent is not pending. -/
def Settled (s : MembershipState) : Prop :=
  ∀ commit ∈ s.history, ∀ invitationId, commit.spent? = some invitationId →
    invitationId < s.nextInvitation ∧ s.isPending invitationId = false

lemma nextInvitation_le (hmove : MembershipMove s e t) : s.nextInvitation ≤ t.nextInvitation := by
  cases hmove with
  | inviteInserts => exact Nat.le_succ _
  | _ => exact Nat.le_refl _

lemma Settled.step (h : s.Settled) (hknown : s.RowsKnown) (hheld : s.RowsHeld)
    (hmove : MembershipMove s e t) : t.Settled := by
  intro commit hcommit invitationId hspent
  have hnew : ∀ {holder : InvitationHolder} {invitationIds : List Nat}
      {status : InvitationStatus}, t.invitations = s.withStatus invitationIds status →
      status ≠ .pending → invitationId ∈ invitationIds → s.held invitationId = some holder →
      invitationId < t.nextInvitation ∧ t.isPending invitationId = false := by
    intro holder invitationIds status ht hstatus hmem hholder
    have hpending := hheld.pending invitationId (by simp [hholder])
    exact ⟨Nat.lt_of_lt_of_le (hknown.old_of_isPending hpending) (nextInvitation_le hmove),
      not_isPending_withStatus ht hstatus (.inl hmem)⟩
  obtain hold | ⟨_, _, _, _, cancelled, hcall, ht, -, rfl | ⟨other, hmem, rfl⟩⟩ |
    ⟨_, other, hcall, ht, rfl⟩ | ⟨_, _, _, hcall, ht, rfl⟩ := mem_history hmove hcommit
  · obtain ⟨hlt, hgone⟩ := h commit hold invitationId hspent
    exact ⟨Nat.lt_of_lt_of_le hlt (nextInvitation_le hmove), spent_stays hmove hlt hgone⟩
  · cases hspent
  · obtain rfl := Option.some.inj hspent
    exact hnew ht (by simp) hmem (hheld.byRemovals _ _ hcall _ hmem)
  · obtain rfl := Option.some.inj hspent
    exact hnew ht (by simp) (List.mem_singleton_self _) (hheld.byCancellations _ _ hcall)
  · obtain rfl := Option.some.inj hspent
    exact hnew ht (by simp) (List.mem_singleton_self _) (hheld.byAcceptances _ _ _ hcall)

/-! ## What is promised -/

lemma RowsHeld.isPending_of_consumed (h : s.RowsHeld) {invitation : InvitationRow} {memberId : Nat}
    (hcall : s.acceptances call = some (.consumed invitation memberId)) :
    s.isPending invitation.id = true := by
  refine h.pending invitation.id ?_
  rw [h.byAcceptances call invitation memberId hcall]
  exact Option.some_ne_none _

lemma InOrder.step (h : s.InOrder) (hheld : s.RowsHeld) (hcut : s.Cut) (hsettled : s.Settled)
    (hmove : MembershipMove s e t) : t.InOrder := by
  cases hmove with
  | commits =>
    refine List.pairwise_append.mpr ⟨List.pairwise_append.mpr ⟨h, ?_, ?_⟩,
      List.pairwise_singleton _ _, ?_⟩
    · refine List.pairwise_map.mpr (List.pairwise_of_forall fun _ _ => ?_)
      rfl
    · intro earlier _ later hlater
      obtain ⟨invitationId, -, rfl⟩ := List.mem_map.mp hlater
      cases earlier with
      | _ => rfl
    · intro earlier _ later hlater
      obtain rfl := List.mem_singleton.mp hlater
      cases earlier with
      | _ => rfl
  | cancelCommits =>
    refine List.pairwise_append.mpr ⟨h, List.pairwise_singleton _ _, ?_⟩
    intro earlier _ later hlater
    obtain rfl := List.mem_singleton.mp hlater
    cases earlier with
    | _ => rfl
  | @acceptCommits call invitation memberId hcall =>
    have hpending := hheld.isPending_of_consumed hcall
    have hfresh : ∀ commit ∈ s.history, commit.spent? ≠ some invitation.id := by
      intro commit hcommit hspent
      have hgone := (hsettled commit hcommit invitation.id hspent).2
      rw [hpending] at hgone
      cases hgone
    refine List.pairwise_append.mpr ⟨h, List.pairwise_singleton _ _, ?_⟩
    intro earlier hearlier later hlater
    obtain rfl := List.mem_singleton.mp hlater
    rw [Bool.eq_false_iff]
    intro hbars
    cases earlier with
    | accepted other member =>
      exact hfresh _ hearlier (congrArg some (beq_iff_eq.mp hbars))
    | cancelled invitationId =>
      exact hfresh _ hearlier (congrArg some (beq_iff_eq.mp hbars).symm)
    | removed target =>
      rw [MembershipCommit.bars, Bool.and_eq_true, beq_iff_eq, beq_iff_eq] at hbars
      have hgone := hcut call _ invitation hcall rfl target hearlier hbars.1 hbars.2
      rw [hpending] at hgone
      cases hgone
  | _ => exact h

lemma MadeAsInvited.step (h : s.MadeAsInvited) (hknown : s.RowsKnown)
    (hmove : MembershipMove s e t) : t.MadeAsInvited := by
  intro invitation member hmember
  obtain hold | ⟨_, _, _, _, _, -, -, -, heq | ⟨_, -, heq⟩⟩ | ⟨_, _, -, -, heq⟩ |
    ⟨call, _, memberId, hcall, -, heq⟩ := mem_history hmove hmember
  · obtain ⟨hrow, hmade⟩ := h invitation member hold
    exact ⟨hknown.isRow hmove hrow, hmade⟩
  · cases heq
  · cases heq
  · cases heq
  · obtain ⟨rfl, rfl⟩ := MembershipCommit.accepted.inj heq
    obtain ⟨hrow, hrole⟩ := hknown.read call _ invitation hcall rfl
    refine ⟨hknown.isRow hmove hrow, rfl, ?_⟩
    obtain ⟨role, hrole⟩ := Option.isSome_iff_exists.mp hrole
    rw [acceptedMember, hrole, Option.getD_some]

lemma history_grows (hmove : MembershipMove s e t) {commit : MembershipCommit}
    (hcommit : commit ∈ s.history) : commit ∈ t.history := by
  cases hmove with
  | commits => exact List.mem_append_left _ (List.mem_append_left _ hcommit)
  | cancelCommits => exact List.mem_append_left _ hcommit
  | acceptCommits => exact List.mem_append_left _ hcommit
  | _ => exact hcommit

lemma MadeByInvitations.step (h : s.MadeByInvitations) (hmove : MembershipMove s e t) :
    t.MadeByInvitations := by
  intro row hrow call huser
  obtain hold | ⟨_, invitation, _, -, -, hmade⟩ := mem_members hmove hrow
  · obtain ⟨invitation, hmade⟩ := h row hold call huser
    exact ⟨invitation, history_grows hmove hmade⟩
  · exact ⟨invitation, hmade⟩

/-- An account that was signed up for an invitation belongs to a call that may have one. -/
def Accounts (s : MembershipState) : Prop :=
  ∀ user ∈ s.users, ∀ call, user.id = .signedUp call →
    ∃ stage, s.acceptances call = some stage ∧ stage.HasAccount

lemma Accounts.step (h : s.Accounts) (hmove : MembershipMove s e t) : t.Accounts := by
  have hgoes : ∀ {mover : Nat} {after : AcceptanceStage},
      (∀ before, s.acceptances mover = some before → before.HasAccount → after.HasAccount) →
      ∀ user ∈ s.users, ∀ call, user.id = .signedUp call →
        ∃ stage, Function.update s.acceptances mover (some after) call = some stage ∧
          stage.HasAccount := by
    intro mover after hafter user huser call hid
    obtain ⟨stage, hstage, haccount⟩ := h user huser call hid
    by_cases hsame : call = mover
    · subst hsame
      exact ⟨after, Function.update_self _ _ _, hafter stage hstage haccount⟩
    · exact ⟨stage, (Function.update_of_ne hsame _ _).trans hstage, haccount⟩
  cases hmove with
  | acceptRefused hcall =>
    exact hgoes fun before hbefore => by simp [hcall] at hbefore
  | acceptReads hcall => exact hgoes fun before hbefore => by simp [hcall] at hbefore
  | acceptSignsUp =>
    intro user huser call hid
    rw [List.mem_append, List.mem_singleton] at huser
    obtain hold | rfl := huser
    · refine hgoes (fun _ _ _ => ?_) user hold call hid
      trivial
    · obtain rfl := UserId.signedUp.inj hid
      exact ⟨_, Function.update_self _ _ _, trivial⟩
  | acceptReadsSender => exact hgoes fun _ _ _ => trivial
  | acceptFindsNoSender => exact hgoes fun _ _ _ => trivial
  | acceptInserts => exact hgoes fun _ _ _ => trivial
  | acceptConsumes => exact hgoes fun _ _ _ => trivial
  | acceptFindsItSpent => exact hgoes fun _ _ _ => trivial
  | acceptCommits => exact hgoes fun _ _ _ => trivial
  | acceptStops => exact hgoes fun _ _ _ => trivial
  | @acceptDeletesUser mover hcall =>
    intro user huser call hid
    rw [List.mem_filter, bne_iff_ne] at huser
    obtain ⟨stage, hstage, haccount⟩ := h user huser.1 call hid
    have hne : call ≠ mover := by
      rintro rfl
      exact huser.2 hid
    exact ⟨stage, (Function.update_of_ne hne _ _).trans hstage, haccount⟩
  | _ => exact h

/-- A call that has ended so has no account, and no member was made with it. -/
lemma Accounts.notFoundLeavesNothing (h : s.Accounts) (hserialised : s.Serialised) :
    s.NotFoundLeavesNothing := by
  intro call hcall
  refine ⟨fun user huser hid => ?_, fun row hrow hid => ?_⟩
  · obtain ⟨stage, hstage, haccount⟩ := h user huser call hid
    rw [hcall, Option.some.injEq] at hstage
    subst hstage
    exact haccount
  · have haccepted := hserialised.joined row hrow call hid
    rw [hcall] at haccepted
    cases haccepted

/-! ## The invariant -/

/-- What the acceptances rely on, where every sender is settled when it is read. -/
structure Orderly (s : MembershipState) : Prop where
  serialised : s.Serialised
  rowsKnown : s.RowsKnown
  rowsHeld : s.RowsHeld
  removedForGood : s.RemovedForGood
  foreseen : s.Foreseen
  cut : s.Cut
  settled : s.Settled
  accounts : s.Accounts
  inOrder : s.InOrder
  madeAsInvited : s.MadeAsInvited
  madeByInvitations : s.MadeByInvitations

lemma Orderly.of_init (h : membership.init s) : s.Orderly := by
  have hserialised := Serialised.of_init h
  obtain ⟨hunique, hknown, husers, hrows, hlock, hheld, hremovals, hacceptances, hinviting,
    hcancellations, hhistory⟩ := h
  have hnothing : ∀ {commit : MembershipCommit} {P : Prop}, commit ∈ s.history → P := by
    intro commit P hcommit
    rw [hhistory] at hcommit
    exact absurd hcommit List.not_mem_nil
  have hnoCall : ∀ {call stage} {P : Prop}, s.acceptances call = some stage → P := by
    intro call stage P hstage
    rw [hacceptances] at hstage
    cases hstage
  exact {
    serialised := hserialised
    rowsKnown := ⟨hrows, fun _ _ _ hstage => hnoCall hstage⟩
    rowsHeld := by
      refine ⟨fun call removal hcall => ?_, fun _ _ _ hstage => hnoCall hstage,
        fun call invitationId hcall => ?_, fun invitationId hsome => ?_⟩
      · rw [hremovals] at hcall
        cases hcall
      · rw [hcancellations] at hcall
        cases hcall
      · exact absurd (hheld invitationId) hsome
    removedForGood :=
      ⟨hunique, fun _ htarget => hnothing htarget, fun _ htarget => hnothing htarget⟩
    foreseen := fun _ _ _ hstage => hnoCall hstage
    cut := fun _ _ _ hstage => hnoCall hstage
    settled := fun _ hcommit => hnothing hcommit
    accounts := by
      intro user huser call hid
      obtain ⟨number, hnumber⟩ := husers user huser
      rw [hnumber] at hid
      cases hid
    inOrder := by
      rw [InOrder, hhistory]
      exact List.Pairwise.nil
    madeAsInvited := fun _ _ hcommit => hnothing hcommit
    madeByInvitations := by
      intro row hrow call huser
      obtain ⟨number, hnumber⟩ := hknown row hrow
      rw [hnumber] at huser
      cases huser }

lemma Orderly.step (h : s.Orderly) (hsettled : s.sendersSettled e = true)
    (hmove : MembershipMove s e t) : t.Orderly where
  serialised := h.serialised.step hmove
  rowsKnown := h.rowsKnown.step hmove
  rowsHeld := h.rowsHeld.step h.rowsKnown hmove
  removedForGood := h.removedForGood.step h.serialised hmove
  foreseen := h.foreseen.step h.serialised h.rowsKnown hmove hsettled
  cut := h.cut.step h.foreseen h.serialised h.rowsKnown h.removedForGood hmove
  settled := h.settled.step h.rowsKnown h.rowsHeld hmove
  accounts := h.accounts.step hmove
  inOrder := h.inOrder.step h.rowsHeld h.cut h.settled hmove
  madeAsInvited := h.madeAsInvited.step h.rowsKnown hmove
  madeByInvitations := h.madeByInvitations.step hmove

end MembershipState

/-- **Invitations are accepted in order.**  In every run in which no sender is read while a removal
of that sender, which has missed the invitation, is to commit: no invitation is accepted twice,
after its cancellation or after the removal of its sender, the members are made as the invitations
say, and a call that finds no invitation leaves nothing. -/
theorem invitations_sound_while_settled {s : MembershipState}
    (h : membership.Reachable (meets MembershipState.sendersSettled) s) : s.InvitationsSound := by
  have horderly : s.Orderly := h.invariant (fun _ hinit => .of_init hinit)
    fun _ _ _ ht hsettled hstep => ht.step hsettled (MembershipState.move_of_step hstep)
  exact ⟨horderly.inOrder, horderly.madeAsInvited, horderly.madeByInvitations,
    horderly.accounts.notFoundLeavesNothing horderly.serialised⟩

/-- An owner invites, and is removed once the invitation is accepted. -/
theorem invitations_sound_while_settled_once :
    ∃ t, membership.execUnder MembershipState.sendersSettled twoOwners
      [.inviteChecks 1 0 (.known 2),
        .inviteInserts 1 "g@h.i".toList .operator 1000, .acceptReads 1 0 0, .acceptSignsUp 1,
        .acceptReadsSender 1, .removalAsks 1 ⟨0, 1, .owner⟩ 2, .removalLocks 1,
        .removalReadsCaller 1, .removalReadsTarget 1, .removalCounts 1, .removalDeletes 1,
        .acceptInserts 1 3, .acceptConsumes 1, .removalCancels 1, .acceptCommits 1,
        .removalCancelsNext 1, .removalCommits 1] = some t ∧
      t.history.length = 2 ∧ t.InvitationsSound := by
  obtain ⟨t, hrun, hlength⟩ : ∃ t, membership.execUnder MembershipState.sendersSettled twoOwners
      [.inviteChecks 1 0 (.known 2), .inviteInserts 1 "g@h.i".toList .operator 1000,
        .acceptReads 1 0 0, .acceptSignsUp 1, .acceptReadsSender 1,
        .removalAsks 1 ⟨0, 1, .owner⟩ 2, .removalLocks 1, .removalReadsCaller 1,
        .removalReadsTarget 1, .removalCounts 1, .removalDeletes 1, .acceptInserts 1 3,
        .acceptConsumes 1, .removalCancels 1, .acceptCommits 1, .removalCancelsNext 1,
        .removalCommits 1] = some t ∧ t.history.length = 2 := ⟨_, rfl, rfl⟩
  exact ⟨t, hrun, hlength, invitations_sound_while_settled (.of_execUnder init_twoOwners hrun)⟩

/-- An owner is removed while an invitation of theirs is being added: the removal does not find the
invitation, its acceptance finds the sender, and commits after the removal. -/
theorem accepted_after_removal :
    ∃ t, membership.Reachable free t ∧ ¬t.InvitationsSound := by
  obtain ⟨t, earlier, later, hrun, hhistory, hbars⟩ : ∃ t earlier later,
      membership.exec twoOwners [.inviteChecks 1 0 (.known 2), .removalAsks 1 ⟨0, 1, .owner⟩ 2,
        .removalLocks 1, .removalReadsCaller 1, .removalReadsTarget 1, .removalCounts 1,
        .removalDeletes 1, .removalCancels 1, .inviteInserts 1 "g@h.i".toList .operator 1000,
        .acceptReads 1 0 0, .acceptSignsUp 1, .acceptReadsSender 1, .removalCommits 1,
        .acceptInserts 1 3, .acceptConsumes 1, .acceptCommits 1] = some t ∧
      t.history = [earlier, later] ∧ MembershipCommit.bars earlier later = true :=
    ⟨_, _, _, rfl, rfl, rfl⟩
  refine ⟨t, .of_exec init_twoOwners hrun, fun hsound => ?_⟩
  have horder := hsound.inOrder
  rw [MembershipState.InOrder, hhistory, List.pairwise_pair, hbars] at horder
  cases horder

end OpenMcc

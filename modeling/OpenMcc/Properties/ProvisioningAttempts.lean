import Mathlib.Data.List.Nodup
import OpenMcc.Properties.HostLifecycle

/-!
# Provisioning attempts are fenced

Every write of an attempt names the attempt, and an attempt claims the host once.  So an attempt
whose claim was finalised or taken over never holds the host again (`Fenced.step`), and none of
its later writes reaches the row (`Fenced.host_eq`).
-/

namespace OpenMcc

open TransitionSystem

namespace HostState

variable {s t u : HostState} {attemptId other : Nat} {e : HostEvent}

/-! ## What a step does to the claim -/

/-- An attempt that does not hold the host and will not claim it. -/
structure Fenced (s : HostState) (attemptId : Nat) : Prop where
  enrolled : s.enrolled = true
  spent : s.Spent attemptId
  superseded : s.claimant ≠ some attemptId

lemma Fenced.of_kept (h : s.Fenced attemptId) (henrolled : t.enrolled = s.enrolled)
    (hprovisions : t.provisions = s.provisions)
    (hclaimant : t.claimant = s.claimant ∨ t.claimant = none) : t.Fenced attemptId := by
  refine ⟨henrolled.trans h.enrolled, ?_, ?_⟩
  · rw [Spent, hprovisions]
    exact h.spent
  · obtain hsame | hnone := hclaimant
    · rw [hsame]
      exact h.superseded
    · rw [hnone]
      exact Option.some_ne_none _ |>.symm

/-- The calls of the other attempts stay where they are. -/
lemma Spent.update (h : s.Spent attemptId) {call : ProvisionCall}
    (hcall : ∀ expectedStatus sshKeyId, call = .read expectedStatus sshKeyId →
      other ≠ attemptId) :
    ∃ stage, Function.update s.provisions other (some call) attemptId = some stage ∧
      ∀ expectedStatus sshKeyId, stage ≠ .read expectedStatus sshKeyId := by
  obtain ⟨stage, hstage, hread⟩ := h
  by_cases hsame : attemptId = other
  · subst hsame
    refine ⟨call, Function.update_self _ _ _, fun expectedStatus sshKeyId heq => ?_⟩
    exact hcall expectedStatus sshKeyId heq rfl
  · rw [Function.update_of_ne hsame]
    exact ⟨stage, hstage, hread⟩

lemma claimant_onHost {statement : HostRow → HostRow}
    (h : ∀ row, (statement row).provisioningAttemptId = row.provisioningAttemptId) :
    (s.onHost statement).claimant = s.claimant := by
  rw [claimant, claimant, onHost]
  cases s.host with
  | none => rfl
  | some row => exact h row

lemma attemptId_orUnchanged {row : HostRow} {statement : HostRow → Option HostRow}
    (h : ∀ row', statement row = some row' →
      row'.provisioningAttemptId = row.provisioningAttemptId) :
    (row.orUnchanged statement).provisioningAttemptId = row.provisioningAttemptId := by
  unfold HostRow.orUnchanged
  cases hresult : statement row with
  | none => rfl
  | some row' => exact h row' hresult

/-- A call moves on, and leaves the claim as it is or gives it up. -/
lemma Fenced.of_moved (h : s.Fenced attemptId) {call : ProvisionCall}
    (henrolled : t.enrolled = s.enrolled)
    (hprovisions : t.provisions = Function.update s.provisions other (some call))
    (hcall : ∀ expectedStatus sshKeyId, call = .read expectedStatus sshKeyId → other ≠ attemptId)
    (hclaimant : t.claimant = s.claimant ∨ t.claimant = none ∨
      t.claimant = some other ∧ other ≠ attemptId) : t.Fenced attemptId := by
  refine ⟨henrolled.trans h.enrolled, ?_, ?_⟩
  · rw [Spent, hprovisions]
    exact h.spent.update hcall
  · obtain hsame | hnone | ⟨hother, hne⟩ := hclaimant
    · rw [hsame]
      exact h.superseded
    · rw [hnone]
      exact (Option.some_ne_none attemptId).symm
    · rw [hother]
      exact fun heq => hne (Option.some.inj heq)

lemma Fenced.provisionReads (h : s.Fenced attemptId) {now : Int}
    (ht : s.provisionReads other now = some t) : t.Fenced attemptId := by
  simp only [HostState.provisionReads, Option.ite_none_left_eq_some] at ht
  obtain ⟨hfree, ht⟩ := ht
  split at ht
  · exact Option.some.inj ht ▸ h
  · split at ht
    · exact Option.some.inj ht ▸ h
    · split at ht
      · obtain rfl := Option.some.inj ht
        refine h.of_moved rfl rfl (fun _ _ _ hsame => ?_) (.inl rfl)
        obtain ⟨stage, hstage, -⟩ := h.spent
        rw [hsame, hstage] at hfree
        exact hfree rfl
      · exact Option.some.inj ht ▸ h

lemma Fenced.provisionClaims (h : s.Fenced attemptId) {keyFound : Bool} {now : Int}
    (ht : s.provisionClaims other keyFound now = some t) : t.Fenced attemptId := by
  simp only [HostState.provisionClaims] at ht
  split at ht
  · next expectedStatus sshKeyId hread =>
    have hne : other ≠ attemptId := by
      rintro rfl
      obtain ⟨stage, hstage, hspent⟩ := h.spent
      exact hspent expectedStatus sshKeyId (Option.some.inj (hstage.symm.trans hread))
    have hrefused : Fenced { s with
        provisions := Function.update s.provisions other (some .ended) } attemptId :=
      h.of_moved rfl rfl (fun _ _ heq => by cases heq) (.inl rfl)
    split at ht
    · exact Option.some.inj ht ▸ hrefused
    split at ht
    · exact Option.some.inj ht ▸ hrefused
    · split at ht
      · exact Option.some.inj ht ▸ hrefused
      · split at ht
        · exact Option.some.inj ht ▸ hrefused
        · next row _ _ claimed hclaim =>
          obtain rfl := Option.some.inj ht
          rw [HostRow.claimForProvisioning, Option.ite_none_right_eq_some,
            Option.some.injEq] at hclaim
          obtain ⟨-, rfl⟩ := hclaim
          exact h.of_moved rfl rfl (fun _ _ heq => by cases heq) (.inr (.inr ⟨rfl, hne⟩))
  · cases ht

lemma attemptId_ne (h : s.claimant ≠ some attemptId) {row : HostRow} (hrow : s.host = some row) :
    row.provisioningAttemptId ≠ some attemptId := by
  rw [claimant, hrow] at h
  exact h

/-- A progress write changes no claim, and nothing at all for an attempt that does not hold the
host. -/
lemma provisionProgresses_spec {progress : ProvisionProgress}
    (ht : s.provisionProgresses other progress = some t) :
    t.enrolled = s.enrolled ∧ t.provisions = s.provisions ∧ t.claimant = s.claimant ∧
      (s.claimant ≠ some other → t.host = s.host) := by
  simp only [HostState.provisionProgresses] at ht
  split at ht
  · cases ht
  · cases ht
  · obtain rfl := Option.some.inj ht
    refine ⟨rfl, rfl, claimant_onHost fun row => attemptId_orUnchanged fun row' hrow' => ?_,
      fun hne => ?_⟩
    · rw [HostRow.recordProvisioningProgress, Option.ite_none_right_eq_some,
        Option.some.injEq] at hrow'
      rw [← hrow'.2]
    · cases hrow : s.host with
      | none => simp [onHost, hrow]
      | some row =>
        have hmisses : row.recordProvisioningProgress other progress = none :=
          if_neg fun hholds => attemptId_ne hne hrow hholds.1
        simp [onHost, hrow, HostRow.orUnchanged, hmisses]

lemma provisionFails_spec {reason : Text} {reached : Option ProvisionProgress}
    (ht : s.provisionFails other reason reached = some t) :
    t.enrolled = s.enrolled ∧
      t.provisions = Function.update s.provisions other (some .failed) ∧
      t.claimant = s.claimant ∧ (s.claimant ≠ some other → t.host = s.host) := by
  simp only [HostState.provisionFails] at ht
  split at ht
  · obtain rfl := Option.some.inj ht
    refine ⟨rfl, rfl, claimant_onHost fun row => attemptId_orUnchanged fun row' hrow' => ?_,
      fun hne => ?_⟩
    · rw [HostRow.recordProvisioningFailure, Option.ite_none_right_eq_some,
        Option.some.injEq] at hrow'
      rw [← hrow'.2]
    · cases hrow : s.host with
      | none => simp [onHost, hrow]
      | some row =>
        have hmisses : row.recordProvisioningFailure other reason reached = none :=
          if_neg (attemptId_ne hne hrow)
        simp [onHost, hrow, HostRow.orUnchanged, hmisses]
  · cases ht

lemma finalizeProvisioning_attempt {row row' : HostRow} {result : Option ProvisionResult}
    (h : row.finalizeProvisioning attemptId result = some row') :
    row.provisioningAttemptId = some attemptId ∧ row'.provisioningAttemptId = none := by
  unfold HostRow.finalizeProvisioning at h
  rw [Option.ite_none_right_eq_some] at h
  obtain ⟨⟨-, hholds⟩, hrow⟩ := h
  refine ⟨hholds, ?_⟩
  cases result with
  | none =>
    obtain rfl := Option.some.inj hrow
    rfl
  | some found =>
    obtain rfl := Option.some.inj hrow
    rfl

/-- The last transaction gives the claim up, or finds no row. -/
lemma provisionFinalizes_spec {result : Option ProvisionResult}
    (ht : s.provisionFinalizes other result = some t) :
    t.enrolled = s.enrolled ∧
      t.provisions = Function.update s.provisions other (some .ended) ∧
      ((t.host = s.host ∧ s.host.bind (fun row => row.finalizeProvisioning other result) = none) ∨
        s.claimant = some other ∧ t.claimant = none) := by
  simp only [HostState.provisionFinalizes] at ht
  split at ht
  case h_3 => cases ht
  all_goals
    split at ht
    · next hnone =>
      obtain rfl := Option.some.inj ht
      exact ⟨rfl, rfl, .inl ⟨rfl, hnone⟩⟩
    · next finalized hbind =>
      obtain rfl := Option.some.inj ht
      obtain ⟨row, hrow, hfinal⟩ := Option.bind_eq_some_iff.1 hbind
      obtain ⟨hholds, hfree⟩ := finalizeProvisioning_attempt hfinal
      refine ⟨rfl, rfl, .inr ⟨?_, hfree⟩⟩
      rw [claimant, hrow]
      exact hholds

/-- **No step gives the host back** to an attempt that is fenced. -/
lemma Fenced.step (h : s.Fenced attemptId) (ht : hostLifecycle.step s e = some t) :
    t.Fenced attemptId := by
  cases e with
  | enrolls row =>
    simp only [hostLifecycle, enrolls, h.enrolled, if_true] at ht
    cases ht
  | provisionReads other now => exact h.provisionReads ht
  | provisionClaims other keyFound now => exact h.provisionClaims ht
  | provisionProgresses other progress =>
    obtain ⟨henrolled, hprovisions, hclaimant, -⟩ := provisionProgresses_spec ht
    exact h.of_kept henrolled hprovisions (.inl hclaimant)
  | provisionFails other reason reached =>
    obtain ⟨henrolled, hprovisions, hclaimant, -⟩ := provisionFails_spec ht
    exact h.of_moved henrolled hprovisions (fun _ _ heq => by cases heq) (.inl hclaimant)
  | provisionFinalizes other result =>
    obtain ⟨henrolled, hprovisions, ⟨hhost, -⟩ | ⟨-, hnone⟩⟩ := provisionFinalizes_spec ht
    · refine h.of_moved henrolled hprovisions (fun _ _ heq => by cases heq) (.inl ?_)
      rw [claimant, hhost, claimant]
    · exact h.of_moved henrolled hprovisions (fun _ _ heq => by cases heq) (.inr (.inl hnone))
  | sees seenAt observed =>
    obtain rfl := Option.some.inj ht
    exact h.of_kept rfl rfl (.inl (claimant_onHost fun row => rfl))
  | retrusts fingerprint algorithm now =>
    simp only [hostLifecycle, retrusts] at ht
    split at ht
    · exact Option.some.inj ht ▸ h
    · next row hrow =>
      split at ht
      · exact Option.some.inj ht ▸ h
      · obtain rfl := Option.some.inj ht
        refine h.of_kept rfl rfl (.inl ?_)
        rw [claimant, claimant, hrow]
        rfl
  | removes now queueAccepts =>
    simp only [hostLifecycle, removes] at ht
    split at ht
    · exact Option.some.inj ht ▸ h
    · next row hrow =>
      split at ht
      · exact Option.some.inj ht ▸ h
      · split at ht
        · exact Option.some.inj ht ▸ h
        · split at ht
          · obtain rfl := Option.some.inj ht
            exact h.of_kept rfl rfl (.inr rfl)
          · split at ht
            · exact Option.some.inj ht ▸ h
            · obtain rfl := Option.some.inj ht
              refine h.of_kept rfl rfl (.inl ?_)
              rw [claimant, claimant, hrow]
              rfl
  | teardownCleans payload =>
    simp only [hostLifecycle, teardownCleans, Option.ite_none_left_eq_some] at ht
    obtain ⟨-, ht⟩ := ht
    split at ht
    · obtain rfl := Option.some.inj ht
      exact h.of_kept rfl rfl (.inl rfl)
    · split at ht
      · obtain rfl := Option.some.inj ht
        exact h.of_kept rfl rfl (.inr rfl)
      · obtain rfl := Option.some.inj ht
        exact h.of_kept rfl rfl (.inl rfl)
  | teardownFails payload reason again =>
    simp only [hostLifecycle, teardownFails, Option.ite_none_left_eq_some, Option.some.injEq] at ht
    obtain ⟨-, rfl⟩ := ht
    have hclaimant : (s.onHost fun row => row.recordTeardownFailure reason).claimant =
        s.claimant := claimant_onHost fun row => rfl
    exact h.of_kept rfl rfl (.inl hclaimant)
  | createReads bot =>
    simp only [hostLifecycle, createReads] at ht
    split at ht
    · exact Option.some.inj ht ▸ h
    · split at ht
      · obtain rfl := Option.some.inj ht
        exact h.of_kept rfl rfl (.inl rfl)
      · exact Option.some.inj ht ▸ h
  | createInserts bot =>
    simp only [hostLifecycle, createInserts, Option.ite_none_left_eq_some] at ht
    obtain ⟨-, ht⟩ := ht
    split at ht
    · obtain rfl := Option.some.inj ht
      exact h.of_kept rfl rfl (.inl rfl)
    · split at ht
      · obtain rfl := Option.some.inj ht
        exact h.of_kept rfl rfl (.inl rfl)
      · obtain rfl := Option.some.inj ht
        exact h.of_kept rfl rfl (.inl rfl)
  | botRemoves bot =>
    obtain rfl := Option.some.inj ht
    exact h.of_kept rfl rfl (.inl rfl)

lemma Fenced.path (h : s.Fenced attemptId) {es : List HostEvent}
    (hpath : hostLifecycle.Path free s es t) : t.Fenced attemptId :=
  hpath.invariant (I := fun s => s.Fenced attemptId) h fun _ _ _ ht _ hstep => ht.step hstep

/-- **No write of an attempt that is fenced reaches the row.** -/
lemma Fenced.host_eq (h : s.Fenced attemptId) (hattempt : e.attempt = some attemptId)
    (ht : hostLifecycle.step s e = some t) : t.host = s.host := by
  obtain ⟨stage, hstage, hspent⟩ := h.spent
  cases e with
  | provisionReads other now =>
    obtain rfl := Option.some.inj hattempt
    simp only [hostLifecycle, HostState.provisionReads, hstage, Option.isSome_some, if_true] at ht
    cases ht
  | provisionClaims other keyFound now =>
    obtain rfl := Option.some.inj hattempt
    simp only [hostLifecycle, HostState.provisionClaims] at ht
    split at ht
    · next expectedStatus sshKeyId hread =>
      exact absurd (Option.some.inj (hstage.symm.trans hread)) (hspent expectedStatus sshKeyId)
    · cases ht
  | provisionProgresses other progress =>
    obtain rfl := Option.some.inj hattempt
    obtain ⟨-, -, -, hhost⟩ := provisionProgresses_spec ht
    exact hhost h.superseded
  | provisionFails other reason reached =>
    obtain rfl := Option.some.inj hattempt
    obtain ⟨-, -, -, hhost⟩ := provisionFails_spec ht
    exact hhost h.superseded
  | provisionFinalizes other result =>
    obtain rfl := Option.some.inj hattempt
    obtain ⟨-, -, ⟨hhost, -⟩ | ⟨hholds, -⟩⟩ := provisionFinalizes_spec ht
    · exact hhost
    · exact absurd hholds h.superseded
  | _ => cases hattempt

/-! ## Finalised claims -/

/-- What a step that finalises a claim does. -/
lemma finalizes_spec {claim : Nat} (hf : s.finalizes e = some (claim, attemptId))
    (henrolled : s.enrolled = true) :
    claim = attemptId ∧ s.claimant = some claim ∧
      ∀ t, hostLifecycle.step s e = some t → t.Fenced claim := by
  cases e with
  | provisionFinalizes other result =>
    simp only [finalizes, Option.ite_none_right_eq_some, Option.bind_eq_some_iff,
      Option.map_eq_some_iff, Prod.mk.injEq] at hf
    obtain ⟨hruns, finalized, ⟨row, hrow, hfinal⟩, holder, hholder, rfl, rfl⟩ := hf
    have hsame : s.claimant = some other := by
      rw [claimant, hrow]
      exact (finalizeProvisioning_attempt hfinal).1
    obtain rfl : holder = other := Option.some.inj (hholder.symm.trans hsame)
    refine ⟨rfl, hsame, fun t ht => ?_⟩
    obtain ⟨hsameEnrolled, hprovisions, ⟨-, hmissed⟩ | ⟨-, hnone⟩⟩ := provisionFinalizes_spec ht
    · rw [hrow, Option.bind_some, hfinal] at hmissed
      cases hmissed
    · refine ⟨hsameEnrolled.trans henrolled, ⟨.ended, ?_, fun _ _ heq => by cases heq⟩, ?_⟩
      · rw [hprovisions, Function.update_self]
      · rw [hnone]
        exact (Option.some_ne_none holder).symm
  | _ => cases hf

/-- A host that is there has been enrolled. -/
def Enrolled (s : HostState) : Prop := s.host ≠ none → s.enrolled = true

lemma Enrolled.step (h : s.Enrolled) (ht : hostLifecycle.step s e = some t) : t.Enrolled := by
  intro hthere
  cases hostLifecycle_effect ht with
  | quiet enrolled status bots =>
    rw [enrolled]
    refine h fun hnone => hthere ?_
    rw [hnone, Option.map_none, Option.map_eq_none_iff] at status
    exact status
  | enrolled fresh enrolled status bots => exact enrolled
  | claimed call enrolled before claim host bots =>
    rw [enrolled]
    exact h (before ▸ Option.some_ne_none _)
  | finalized enrolled before finalize host bots =>
    rw [enrolled]
    exact h (before ▸ Option.some_ne_none _)
  | removing enrolled before empty after bots =>
    rw [enrolled]
    exact h before
  | deleted enrolled before empty after bots =>
    rw [enrolled]
    exact h before
  | created enrolled before ready host =>
    rw [enrolled]
    exact h (before ▸ Option.some_ne_none _)

lemma Fenced.not_mem_finalizations {es : List HostEvent} (h : s.Fenced attemptId) :
    attemptId ∉ (finalizations s es).map Prod.fst := by
  induction es generalizing s with
  | nil => exact List.not_mem_nil
  | cons e es ih =>
    rw [finalizations, List.map_append, List.mem_append, not_or]
    constructor
    · intro hmem
      obtain ⟨⟨claim, finalizer⟩, hfinal, rfl⟩ := List.mem_map.1 hmem
      obtain ⟨-, hholds, -⟩ := finalizes_spec (Option.mem_toList.1 hfinal) h.enrolled
      exact h.superseded hholds
    · cases ht : hostLifecycle.step s e with
      | none => exact List.not_mem_nil
      | some t => exact ih (h.step ht)

lemma Enrolled.of_finalizes {finalized : Nat × Nat} (h : s.Enrolled)
    (hf : s.finalizes e = some finalized) : s.enrolled = true := by
  refine h fun hnone => ?_
  cases e with
  | provisionFinalizes other result => simp [finalizes, hnone] at hf
  | _ => cases hf

/-- **A claim is finalised at most once**, and by the attempt that made it. -/
lemma Enrolled.finalizations (h : s.Enrolled) (es : List HostEvent) :
    ((s.finalizations es).map Prod.fst).Nodup ∧
      ∀ finalized ∈ s.finalizations es, finalized.1 = finalized.2 := by
  induction es generalizing s with
  | nil => exact ⟨List.nodup_nil, fun _ hmem => absurd hmem List.not_mem_nil⟩
  | cons e es ih =>
    rw [HostState.finalizations]
    cases ht : hostLifecycle.step s e with
    | none =>
      rw [Option.map_none, Option.getD_none, List.append_nil]
      cases hf : s.finalizes e with
      | none => exact ⟨List.nodup_nil, fun _ hmem => absurd hmem List.not_mem_nil⟩
      | some finalized =>
        refine ⟨List.nodup_singleton _, fun other hmem => ?_⟩
        obtain rfl := List.mem_singleton.1 hmem
        exact (finalizes_spec hf (h.of_finalizes hf)).1
    | some t =>
      obtain ⟨hnodup, hsame⟩ := ih (h.step ht)
      rw [Option.map_some, Option.getD_some]
      cases hf : s.finalizes e with
      | none => exact ⟨hnodup, hsame⟩
      | some finalized =>
        obtain ⟨hclaim, -, hfenced⟩ := finalizes_spec hf (h.of_finalizes hf)
        refine ⟨List.nodup_cons.2 ⟨(hfenced t ht).not_mem_finalizations, hnodup⟩, ?_⟩
        intro other hmem
        obtain rfl | hlater := List.mem_cons.1 hmem
        · exact hclaim
        · exact hsame other hlater

/-- A call that claims had read the host, and does not read it again. -/
lemma provisionClaims_spec {keyFound : Bool} {now : Int}
    (ht : s.provisionClaims other keyFound now = some t) :
    (∃ expectedStatus sshKeyId, s.provisions other = some (.read expectedStatus sshKeyId)) ∧
      ∃ call, t.provisions = Function.update s.provisions other (some call) ∧
        ∀ expectedStatus sshKeyId, call ≠ .read expectedStatus sshKeyId := by
  simp only [HostState.provisionClaims] at ht
  split at ht
  · next expectedStatus sshKeyId hread =>
    refine ⟨⟨expectedStatus, sshKeyId, hread⟩, ?_⟩
    split at ht
    · obtain rfl := Option.some.inj ht
      exact ⟨.ended, rfl, fun _ _ heq => by cases heq⟩
    split at ht
    · obtain rfl := Option.some.inj ht
      exact ⟨.ended, rfl, fun _ _ heq => by cases heq⟩
    split at ht
    · obtain rfl := Option.some.inj ht
      exact ⟨.ended, rfl, fun _ _ heq => by cases heq⟩
    split at ht
    · obtain rfl := Option.some.inj ht
      exact ⟨.ended, rfl, fun _ _ heq => by cases heq⟩
    · obtain rfl := Option.some.inj ht
      exact ⟨.claimed, rfl, fun _ _ heq => by cases heq⟩
  · cases ht

/-- An attempt is fenced once another has claimed the host after it. -/
lemma Spent.fenced_of_claim (h : s.Spent attemptId) {keyFound : Bool} {now : Int}
    (henrolled : t.Enrolled)
    (ht : hostLifecycle.step s (.provisionClaims other keyFound now) = some t)
    (hclaim : t.claimant = some other) : t.Fenced attemptId := by
  obtain ⟨⟨expectedStatus, sshKeyId, hread⟩, call, hprovisions, hcall⟩ := provisionClaims_spec ht
  have hne : other ≠ attemptId := by
    rintro rfl
    obtain ⟨stage, hstage, hspent⟩ := h
    exact hspent expectedStatus sshKeyId (Option.some.inj (hstage.symm.trans hread))
  refine ⟨henrolled fun hnone => ?_, ?_, ?_⟩
  · rw [claimant, hnone] at hclaim
    cases hclaim
  · rw [Spent, hprovisions]
    exact h.update fun expectedStatus sshKeyId heq => absurd heq (hcall expectedStatus sshKeyId)
  · rw [hclaim]
    exact fun heq => hne (Option.some.inj heq)

end HostState

open HostState

/-- **Provisioning attempts are fenced.**  Of any run, each claim on the host is finalised at most
once and by the attempt that made it.  Once another attempt has claimed the host, no step of an
attempt that claimed before it changes the row. -/
theorem attempts_are_fenced {s : HostState} (h : hostLifecycle.Reachable free s) :
    (∀ es, ((s.finalizations es).map Prod.fst).Nodup ∧
      ∀ finalized ∈ s.finalizations es, finalized.1 = finalized.2) ∧
    ∀ superseded claiming keyFound now t, s.Spent superseded →
      hostLifecycle.step s (.provisionClaims claiming keyFound now) = some t →
      t.claimant = some claiming → ∀ es u, hostLifecycle.Path free t es u →
      ∀ e v, e.attempt = some superseded → hostLifecycle.step u e = some v → v.host = u.host := by
  have henrolled : s.Enrolled := by
    refine h.invariant (I := Enrolled) (fun s hs hthere => ?_) fun t e u ht _ hstep => ht.step hstep
    exact absurd hs.2.1 hthere
  refine ⟨henrolled.finalizations, ?_⟩
  intro superseded claiming keyFound now t hspent ht hclaim es u hpath e v hattempt hv
  have hfenced : t.Fenced superseded := hspent.fenced_of_claim (henrolled.step ht) ht hclaim
  exact (hfenced.path hpath).host_eq hattempt hv

/-- A host before its enrolment. -/
def unenrolled : HostState where
  enrolled := false
  host := none
  bots := []
  provisions := fun _ => none
  creations := []
  teardowns := []

/-- A host with a key. -/
def keyedRow : HostRow where
  hostname := "box".toList
  port := 22
  username := "mcc".toList
  sshKeyId := some "key".toList
  hostKeyFingerprint := some "print".toList
  hostKeyAlgorithm := none
  status := .pending
  osRelease := none
  osId := none
  osName := none
  networkStack := none
  architecture := none
  failedUnits := none
  lastSeenAt := none
  provisioningAttemptId := none
  provisioningClaimedAt := none
  provisioningError := none
  provisioningStep := none
  provisioningStepIndex := none
  provisioningStepTotal := none
  teardownRequestedAt := none
  teardownError := none

/-- An attempt claims the host, its lease runs out, and another attempt takes the host over. -/
theorem attempts_are_fenced_takeover :
    ∃ s t, hostLifecycle.exec unenrolled [.enrolls keyedRow, .provisionReads 1 0,
        .provisionClaims 1 true 0, .provisionReads 2 1200001] = some s ∧
      hostLifecycle.step s (.provisionClaims 2 true 1200001) = some t ∧
      ∀ progress u, hostLifecycle.step t (.provisionProgresses 1 progress) = some u →
        u.host = t.host := by
  obtain ⟨s, t, hrun, hspent, ht, hclaim⟩ : ∃ s t, hostLifecycle.exec unenrolled
      [.enrolls keyedRow, .provisionReads 1 0, .provisionClaims 1 true 0,
        .provisionReads 2 1200001] = some s ∧ s.provisions 1 = some .claimed ∧
      hostLifecycle.step s (.provisionClaims 2 true 1200001) = some t ∧ t.claimant = some 2 :=
    ⟨_, _, rfl, rfl, rfl, rfl⟩
  have hinit : hostLifecycle.init unenrolled := ⟨rfl, rfl, rfl, fun _ => rfl, rfl, rfl⟩
  refine ⟨s, t, hrun, ht, fun progress u hu => ?_⟩
  exact (attempts_are_fenced (.of_exec hinit hrun)).2 1 2 true 1200001 t
    ⟨.claimed, hspent, fun _ _ heq => by cases heq⟩ ht hclaim [] t .refl _ u rfl hu

end OpenMcc

import OpenMcc.Construction.HostLifecycle

/-!
# A host that is being removed stays so

Deleting, health checks, bot creation and the last transaction of an attempt all look at the
status before they act.  A call of `provision` does not rule out `removing` among the statuses it
may read and then claim from, so a provisioning request takes a host back from its removal
(`provision_takes_back_removal`).  Under `keepsRemoval`, no claim is made from that status, and a
host that is being removed keeps its status until it is deleted and has no bot
(`removing_until_deleted`).
-/

namespace OpenMcc

open TransitionSystem

/-- The condition on a step: a provisioning attempt that read the host as being removed does not
claim it while it is. -/
def keepsRemoval (s : HostState) : HostEvent → Bool
  | .provisionClaims attemptId _ _ =>
    match s.provisions attemptId, s.host with
    | some (.read expectedStatus _), some row =>
      expectedStatus != .removing || row.status != .removing
    | _, _ => true
  | _ => true

/-! ## The effect of a step -/

/-- What a step can do to the enrolment, the status and the bots. -/
inductive HostEffect (s t : HostState) : HostEvent → Prop
  | quiet {e : HostEvent} (enrolled : t.enrolled = s.enrolled)
      (status : t.host.map HostRow.status = s.host.map HostRow.status)
      (bots : t.bots = s.bots ∨ ∃ bot, t.bots = s.bots.erase bot) : HostEffect s t e
  | enrolled {given : HostRow} (fresh : s.enrolled = false) (enrolled : t.enrolled = true)
      (status : ∃ row, t.host = some row ∧ row.status = .pending) (bots : t.bots = s.bots) :
      HostEffect s t (.enrolls given)
  | claimed {attemptId : Nat} {keyFound : Bool} {now : Int} {expectedStatus : HostStatus}
      {sshKeyId : Text} {row row' : HostRow}
      (call : s.provisions attemptId = some (.read expectedStatus sshKeyId))
      (enrolled : t.enrolled = s.enrolled) (before : s.host = some row)
      (claim : row.claimForProvisioning expectedStatus attemptId now = some row')
      (host : t.host = some row') (bots : t.bots = s.bots) :
      HostEffect s t (.provisionClaims attemptId keyFound now)
  | finalized {attemptId : Nat} {result : Option ProvisionResult} {row row' : HostRow}
      (enrolled : t.enrolled = s.enrolled) (before : s.host = some row)
      (finalize : row.finalizeProvisioning attemptId result = some row')
      (host : t.host = some row') (bots : t.bots = s.bots) :
      HostEffect s t (.provisionFinalizes attemptId result)
  | removing {now : Int} {queueAccepts : Bool} (enrolled : t.enrolled = s.enrolled)
      (before : s.host ≠ none) (empty : s.bots = []) (after : t.host = none ∨ t.Removing)
      (bots : t.bots = s.bots) : HostEffect s t (.removes now queueAccepts)
  | deleted {payload : TeardownPayload} (enrolled : t.enrolled = s.enrolled)
      (before : s.host ≠ none) (empty : s.bots = []) (after : t.host = none)
      (bots : t.bots = s.bots) : HostEffect s t (.teardownCleans payload)
  | created {bot : Nat} {row : HostRow} (enrolled : t.enrolled = s.enrolled)
      (before : s.host = some row) (ready : row.status = .ready) (host : t.host = s.host) :
      HostEffect s t (.createInserts bot)

section Effect

variable {s t : HostState} {attemptId : Nat}

lemma onHost_status (s : HostState) {statement : HostRow → HostRow}
    (h : ∀ row, (statement row).status = row.status) :
    (s.onHost statement).host.map HostRow.status = s.host.map HostRow.status := by
  unfold HostState.onHost
  cases s.host with
  | none => rfl
  | some row => simp only [Option.map_some, h]

lemma provisionReads_effect {now : Int} (h : s.provisionReads attemptId now = some t) :
    HostEffect s t (.provisionReads attemptId now) := by
  simp only [HostState.provisionReads] at h
  repeat' split at h
  all_goals cases h
  all_goals exact .quiet rfl rfl (Or.inl rfl)

lemma provisionClaims_effect {keyFound : Bool} {now : Int}
    (h : s.provisionClaims attemptId keyFound now = some t) :
    HostEffect s t (.provisionClaims attemptId keyFound now) := by
  simp only [HostState.provisionClaims] at h
  split at h
  case h_2 => cases h
  case h_1 expectedStatus sshKeyId hcall =>
    split at h
    · cases h
      exact .quiet rfl rfl (Or.inl rfl)
    split at h
    case h_1 =>
      cases h
      exact .quiet rfl rfl (Or.inl rfl)
    case h_2 row hrow =>
      split at h
      · cases h
        exact .quiet rfl rfl (Or.inl rfl)
      split at h
      case h_1 =>
        cases h
        exact .quiet rfl rfl (Or.inl rfl)
      case h_2 claimed hclaim =>
        cases h
        exact .claimed hcall rfl hrow hclaim rfl rfl

lemma provisionProgresses_effect {progress : ProvisionProgress}
    (h : s.provisionProgresses attemptId progress = some t) :
    HostEffect s t (.provisionProgresses attemptId progress) := by
  simp only [HostState.provisionProgresses] at h
  split at h
  case h_1 => cases h
  case h_2 => cases h
  case h_3 =>
    cases h
    exact .quiet rfl (onHost_status s fun row => HostRow.orUnchanged_status fun _ =>
      HostRow.recordProvisioningProgress_status) (Or.inl rfl)

lemma provisionFails_effect {reason : Text} {reached : Option ProvisionProgress}
    (h : s.provisionFails attemptId reason reached = some t) :
    HostEffect s t (.provisionFails attemptId reason reached) := by
  simp only [HostState.provisionFails] at h
  split at h
  case h_2 => cases h
  case h_1 =>
    cases h
    exact .quiet rfl (onHost_status s fun row => HostRow.orUnchanged_status fun _ =>
      HostRow.recordProvisioningFailure_status) (Or.inl rfl)

lemma provisionFinalizes_effect {result : Option ProvisionResult}
    (h : s.provisionFinalizes attemptId result = some t) :
    HostEffect s t (.provisionFinalizes attemptId result) := by
  simp only [HostState.provisionFinalizes] at h
  split at h
  case h_3 => cases h
  all_goals
    split at h
    case h_1 =>
      cases h
      exact .quiet rfl rfl (Or.inl rfl)
    case h_2 finalized hbind =>
      obtain ⟨row, hrow, hfinal⟩ := Option.bind_eq_some_iff.mp hbind
      cases h
      exact .finalized rfl hrow hfinal rfl rfl

lemma retrusts_effect {fingerprint algorithm : Text} {now : Int}
    (h : s.retrusts fingerprint algorithm now = some t) :
    HostEffect s t (.retrusts fingerprint algorithm now) := by
  simp only [HostState.retrusts] at h
  split at h
  case h_1 =>
    cases h
    exact .quiet rfl rfl (Or.inl rfl)
  case h_2 row hrow =>
    split at h
    all_goals cases h
    · exact .quiet rfl rfl (Or.inl rfl)
    · exact .quiet rfl (by rw [hrow]; rfl) (Or.inl rfl)

lemma removes_effect {now : Int} {queueAccepts : Bool}
    (h : s.removes now queueAccepts = some t) : HostEffect s t (.removes now queueAccepts) := by
  simp only [HostState.removes] at h
  split at h
  case h_1 =>
    cases h
    exact .quiet rfl rfl (Or.inl rfl)
  case h_2 row hrow =>
    have hpresent : s.host ≠ none := by
      rw [hrow]
      exact nofun
    split at h
    · cases h
      exact .quiet rfl rfl (Or.inl rfl)
    case isFalse hbots =>
      have hempty : s.bots = [] := not_not.mp hbots
      split at h
      · cases h
        exact .quiet rfl rfl (Or.inl rfl)
      split at h
      case h_1 =>
        cases h
        exact .removing rfl hpresent hempty (Or.inl rfl) rfl
      case h_2 payload hpayload =>
        split at h
        · cases h
          exact .quiet rfl rfl (Or.inl rfl)
        · cases h
          exact .removing rfl hpresent hempty (Or.inr ⟨_, rfl, rfl⟩) rfl

lemma teardownCleans_effect {payload : TeardownPayload}
    (h : s.teardownCleans payload = some t) : HostEffect s t (.teardownCleans payload) := by
  rw [HostState.teardownCleans, Option.ite_none_left_eq_some] at h
  obtain ⟨-, h⟩ := h
  split at h
  case h_1 =>
    cases h
    exact .quiet rfl rfl (Or.inl rfl)
  case h_2 row hrow =>
    split at h
    case isTrue hremoving =>
      cases h
      exact .deleted rfl (by rw [hrow]; exact nofun) hremoving.2 rfl rfl
    case isFalse =>
      cases h
      exact .quiet rfl rfl (Or.inl rfl)

lemma teardownFails_effect {payload : TeardownPayload} {reason : Text} {again : Bool}
    (h : s.teardownFails payload reason again = some t) :
    HostEffect s t (.teardownFails payload reason again) := by
  rw [HostState.teardownFails, Option.ite_none_left_eq_some, Option.some.injEq] at h
  obtain ⟨-, rfl⟩ := h
  exact .quiet rfl (onHost_status s fun row => rfl) (Or.inl rfl)

lemma createInserts_effect {bot : Nat} (h : s.createInserts bot = some t) :
    HostEffect s t (.createInserts bot) := by
  rw [HostState.createInserts, Option.ite_none_left_eq_some] at h
  obtain ⟨-, h⟩ := h
  simp only at h
  split at h
  case h_1 =>
    cases h
    exact .quiet rfl rfl (Or.inl rfl)
  case h_2 row hrow =>
    split at h
    case isTrue hready =>
      cases h
      exact .created rfl hrow hready.1 rfl
    case isFalse =>
      cases h
      exact .quiet rfl rfl (Or.inl rfl)

lemma hostLifecycle_effect {e : HostEvent} (h : hostLifecycle.step s e = some t) :
    HostEffect s t e := by
  cases e with
  | enrolls row =>
      simp only [hostLifecycle, HostState.enrolls] at h
      split at h
      all_goals cases h
      exact .enrolled (by simp_all) rfl ⟨_, rfl, rfl⟩ rfl
  | provisionReads attemptId now => exact provisionReads_effect h
  | provisionClaims attemptId keyFound now => exact provisionClaims_effect h
  | provisionProgresses attemptId progress => exact provisionProgresses_effect h
  | provisionFails attemptId reason reached => exact provisionFails_effect h
  | provisionFinalizes attemptId result => exact provisionFinalizes_effect h
  | sees seenAt observed =>
      cases h
      exact .quiet rfl (onHost_status s fun row => rfl) (Or.inl rfl)
  | retrusts fingerprint algorithm now => exact retrusts_effect h
  | removes now queueAccepts => exact removes_effect h
  | teardownCleans payload => exact teardownCleans_effect h
  | teardownFails payload reason again => exact teardownFails_effect h
  | createReads bot =>
      simp only [hostLifecycle, HostState.createReads] at h
      repeat' split at h
      all_goals cases h
      all_goals exact .quiet rfl rfl (Or.inl rfl)
  | createInserts bot => exact createInserts_effect h
  | botRemoves bot =>
      cases h
      exact .quiet rfl rfl (Or.inr ⟨bot, rfl⟩)

end Effect

/-! ## Under the condition -/

/-- What holds of the host and its bots after any steps that keep the removal. -/
structure HostInv (s : HostState) : Prop where
  fresh : s.enrolled = false → s.host = none
  absent : s.host = none → s.bots = []
  removing : s.Removing → s.bots = []

/-- The host was enrolled, and is being removed or gone. -/
def HostState.Removed (s : HostState) : Prop := s.enrolled = true ∧ (s.host = none ∨ s.Removing)

lemma HostState.Removing.of_status {s t : HostState}
    (hstatus : t.host.map HostRow.status = s.host.map HostRow.status) (ht : t.Removing) :
    s.Removing := by
  obtain ⟨row, hrow, hremoving⟩ := ht
  rw [hrow, Option.map_some, hremoving] at hstatus
  exact Option.map_eq_some_iff.mp hstatus.symm

lemma HostState.Removing.status_eq {s : HostState} {row : HostRow} (h : s.Removing)
    (hrow : s.host = some row) : row.status = .removing := by
  obtain ⟨row', hrow', hremoving⟩ := h
  rw [hrow, Option.some.injEq] at hrow'
  rw [hrow']
  exact hremoving

/-- A claim that keeps the removal is not made from `removing`. -/
lemma claim_status {s : HostState} {attemptId : Nat} {keyFound : Bool} {now : Int}
    {expectedStatus : HostStatus} {sshKeyId : Text} {row row' : HostRow}
    (hG : keepsRemoval s (.provisionClaims attemptId keyFound now) = true)
    (hcall : s.provisions attemptId = some (.read expectedStatus sshKeyId))
    (hrow : s.host = some row)
    (hclaim : row.claimForProvisioning expectedStatus attemptId now = some row') :
    row.status ≠ .removing := by
  intro hremoving
  simp only [keepsRemoval, hcall, hrow, hremoving, bne_self_eq_false, Bool.or_false,
    bne_iff_ne] at hG
  obtain ⟨hfrom | hfrom, -⟩ := HostRow.claimForProvisioning_eq_some hclaim
  · rw [hremoving] at hfrom
    cases hfrom
  · exact hG (hfrom.symm.trans hremoving)

lemma HostInv.step {s t : HostState} {e : HostEvent} (hs : HostInv s)
    (hG : keepsRemoval s e = true) (h : hostLifecycle.step s e = some t) : HostInv t := by
  cases hostLifecycle_effect h with
  | quiet enrolled status bots =>
      have hempty : s.bots = [] → t.bots = [] := by
        intro hnil
        rcases bots with hsame | ⟨bot, herase⟩
        · rw [hsame, hnil]
        · rw [herase, hnil, List.erase_nil]
      have hnone : t.host = none ↔ s.host = none := by
        rw [← Option.map_eq_none_iff (f := HostRow.status), status, Option.map_eq_none_iff]
      refine ⟨fun hfresh => hnone.mpr (hs.fresh (enrolled ▸ hfresh)), fun habsent => ?_, ?_⟩
      · exact hempty (hs.absent (hnone.mp habsent))
      · exact fun hremoving => hempty (hs.removing (hremoving.of_status status))
  | enrolled fresh enrolled status bots =>
      obtain ⟨row, hrow, hpending⟩ := status
      have hempty : t.bots = [] := bots.trans (hs.absent (hs.fresh fresh))
      refine ⟨fun hfresh => ?_, fun _ => hempty, fun _ => hempty⟩
      rw [enrolled] at hfresh
      cases hfresh
  | claimed call enrolled before claim host bots =>
      have hstatus := (HostRow.claimForProvisioning_eq_some claim).2
      refine ⟨fun hfresh => ?_, fun habsent => ?_, fun hremoving => ?_⟩
      · rw [hs.fresh (enrolled ▸ hfresh)] at before
        cases before
      · rw [host] at habsent
        cases habsent
      · rw [hremoving.status_eq host] at hstatus
        cases hstatus
  | finalized enrolled before finalize host bots =>
      have hstatus := (HostRow.finalizeProvisioning_eq_some finalize).2
      refine ⟨fun hfresh => ?_, fun habsent => ?_, fun hremoving => ?_⟩
      · rw [hs.fresh (enrolled ▸ hfresh)] at before
        cases before
      · rw [host] at habsent
        cases habsent
      · exact absurd (hremoving.status_eq host) hstatus
  | removing enrolled before empty after bots =>
      have hempty : t.bots = [] := bots.trans empty
      exact ⟨fun hfresh => absurd (hs.fresh (enrolled ▸ hfresh)) before, fun _ => hempty,
        fun _ => hempty⟩
  | deleted enrolled before empty after bots =>
      have hempty : t.bots = [] := bots.trans empty
      exact ⟨fun _ => after, fun _ => hempty, fun _ => hempty⟩
  | created enrolled before ready host =>
      refine ⟨fun hfresh => ?_, fun habsent => ?_, fun hremoving => ?_⟩
      · rw [hs.fresh (enrolled ▸ hfresh)] at before
        cases before
      · rw [host, before] at habsent
        cases habsent
      · rw [hremoving.status_eq (host.trans before)] at ready
        cases ready

/-- No step that keeps the removal brings a removed host back. -/
lemma HostState.Removed.step {s t : HostState} {e : HostEvent} (hs : s.Removed)
    (hG : keepsRemoval s e = true) (h : hostLifecycle.step s e = some t) : t.Removed := by
  obtain ⟨henrolled, hgone⟩ := hs
  have hstatus : ∀ row, s.host = some row → row.status = .removing := by
    intro row hrow
    rcases hgone with hnone | hremoving
    · rw [hnone] at hrow
      cases hrow
    · exact hremoving.status_eq hrow
  cases hostLifecycle_effect h with
  | quiet enrolled status bots =>
      refine ⟨enrolled.trans henrolled, hgone.imp (fun hnone => ?_) fun hremoving => ?_⟩
      · rw [hnone, Option.map_none, Option.map_eq_none_iff] at status
        exact status
      · exact hremoving.of_status status.symm
  | enrolled fresh =>
      rw [henrolled] at fresh
      cases fresh
  | claimed call enrolled before claim =>
      exact absurd (hstatus _ before) (claim_status hG call before claim)
  | finalized enrolled before finalize =>
      have hprovisioning := (HostRow.finalizeProvisioning_eq_some finalize).1
      rw [hstatus _ before] at hprovisioning
      cases hprovisioning
  | removing enrolled before empty after => exact ⟨enrolled.trans henrolled, after⟩
  | deleted enrolled before empty after => exact ⟨enrolled.trans henrolled, Or.inl after⟩
  | created enrolled before ready =>
      rw [hstatus _ before] at ready
      cases ready

/-- **A host that is being removed is so until it is deleted, and has no bot from then on**, in
every run in which no attempt that read it as being removed claims it while it is. -/
theorem removing_until_deleted {s : HostState}
    (h : hostLifecycle.Reachable (meets keepsRemoval) s) (hremoving : s.Removing) :
    StaysRemoving (meets keepsRemoval) s := by
  have hs : HostInv s := by
    refine h.invariant ?_ fun _ _ _ ht hG hu => ht.step hG hu
    rintro s₀ ⟨-, hhost, hbots, -⟩
    refine ⟨fun _ => hhost, fun _ => hbots, fun _ => hbots⟩
  have hremoved : s.Removed := by
    refine ⟨?_, Or.inr hremoving⟩
    by_contra hfresh
    obtain ⟨row, hrow, -⟩ := hremoving
    rw [hs.fresh (by simpa using hfresh)] at hrow
    cases hrow
  intro es t hpath
  have ht : HostInv t ∧ t.Removed :=
    hpath.invariant (I := fun u => HostInv u ∧ u.Removed) ⟨hs, hremoved⟩
      fun _ _ _ hu hG hstep => ⟨hu.1.step hG hstep, hu.2.step hG hstep⟩
  obtain ⟨htinv, -, hgone⟩ := ht
  exact ⟨hgone, hgone.elim htinv.absent htinv.removing⟩

/-! ## A provisioning request over a removal -/

/-- A host before its enrolment. -/
def beforeEnrolment : HostState := ⟨false, none, [], fun _ => none, [], []⟩

/-- The row a host is enrolled with. -/
def enrolledRow : HostRow where
  hostname := "box".toList
  port := 22
  username := "mcc".toList
  sshKeyId := some "key".toList
  hostKeyFingerprint := some "SHA256:f".toList
  hostKeyAlgorithm := some "ssh-ed25519".toList
  status := .pending
  osRelease := none
  osId := none
  osName := none
  networkStack := none
  architecture := none
  failedUnits := none
  lastSeenAt := none
  provisioningAttemptId := none
  provisioningClaimedAt := none
  provisioningError := none
  provisioningStep := none
  provisioningStepIndex := none
  provisioningStepTotal := none
  teardownRequestedAt := none
  teardownError := none

/-- What the attempts below learn of the host. -/
def provisioned : ProvisionResult :=
  ⟨"Debian 12".toList, some "debian".toList, none, "pasta".toList, "amd64".toList⟩

/-- The host is enrolled, provisioned and then being removed. -/
def removalRequested : List HostEvent :=
  [.enrolls enrolledRow, .provisionReads 0 0, .provisionClaims 0 true 0,
    .provisionFinalizes 0 (some provisioned), .removes 1 true]

/-- A provisioning request that reads a host as being removed claims it and makes it ready. -/
theorem provision_takes_back_removal :
    ¬ ∀ s, hostLifecycle.Reachable free s → s.Removing → StaysRemoving free s := by
  intro hall
  obtain ⟨s, t, hrun, hremoving, hmore, hready⟩ : ∃ s t,
      hostLifecycle.exec beforeEnrolment removalRequested = some s ∧
        s.host.map HostRow.status = some .removing ∧
        hostLifecycle.exec s [.provisionReads 1 2, .provisionClaims 1 true 2,
          .provisionFinalizes 1 (some provisioned), .createReads 0, .createInserts 0] = some t ∧
        t.bots = [0] :=
    ⟨_, _, rfl, rfl, rfl, rfl⟩
  have hreach : hostLifecycle.Reachable free s :=
    .of_exec ⟨rfl, rfl, rfl, fun _ => rfl, rfl, rfl⟩ hrun
  have hbots := (hall s hreach (Option.map_eq_some_iff.mp hremoving) _ t (path_of_exec hmore)).2
  rw [hready] at hbots
  cases hbots

theorem removing_until_deleted_run :
    ∃ s, hostLifecycle.execUnder keepsRemoval beforeEnrolment removalRequested = some s ∧
      s.Removing ∧ StaysRemoving (meets keepsRemoval) s := by
  obtain ⟨s, hrun, hstatus⟩ : ∃ s,
      hostLifecycle.execUnder keepsRemoval beforeEnrolment removalRequested = some s ∧
        s.host.map HostRow.status = some .removing :=
    ⟨_, rfl, rfl⟩
  have hremoving : s.Removing := Option.map_eq_some_iff.mp hstatus
  exact ⟨s, hrun, hremoving, removing_until_deleted
    (.of_execUnder ⟨rfl, rfl, rfl, fun _ => rfl, rfl, rfl⟩ hrun) hremoving⟩

end OpenMcc

import OpenMcc.Construction.SignInCompletion
import OpenMcc.Properties.InstanceLifecycle

/-!
# What a completed sign-in overwrites

The status of a bot is the last one that was written.  A completion that writes had read
`needs_auth`, so at its write the bot still has to sign in, or is stopped, unless a start or a
restart has written `running` after the read and nothing but a recorded failure came after it
(`completion_overwrites_iff`).
-/

namespace OpenMcc

open TransitionSystem

/-! ## The statuses of a run -/

section LeftRunning

variable {written : List InstanceStatus} {status : InstanceStatus}

lemma not_leftRunning_nil : ¬LeftRunning [] := by
  rintro ⟨before, after, heq, -⟩
  exact List.append_ne_nil_of_right_ne_nil before (List.cons_ne_nil _ _) heq.symm

lemma leftRunning_append_running : LeftRunning (written ++ [.running]) :=
  ⟨written, [], rfl, List.not_mem_nil, List.not_mem_nil⟩

/-- A stop, a sign-in or a completion settles what the starts before it wrote. -/
lemma not_leftRunning_append (h : status = .stopped ∨ status = .needsAuth) :
    ¬LeftRunning (written ++ [status]) := by
  rintro ⟨before, after, heq, hstopped, hneedsAuth⟩
  have hlast : status ∈ after ∨ status = .running := by
    obtain rfl | ⟨init, last, rfl⟩ := after.eq_nil_or_concat'
    · have hend := (List.append_inj' heq rfl).2
      exact .inr (List.singleton_inj.1 hend)
    · rw [← List.cons_append, ← List.append_assoc] at heq
      have hend := (List.append_inj' heq rfl).2
      rw [List.singleton_inj.1 hend]
      exact .inl (List.mem_append_right _ (List.mem_singleton_self _))
  obtain rfl | rfl := h
  · exact hlast.elim hstopped nofun
  · exact hlast.elim hneedsAuth nofun

/-- A recorded failure settles nothing. -/
lemma leftRunning_append_error (h : LeftRunning written) : LeftRunning (written ++ [.error]) := by
  obtain ⟨before, after, rfl, hstopped, hneedsAuth⟩ := h
  refine ⟨before, after ++ [.error], by rw [List.append_assoc, List.cons_append], ?_, ?_⟩
  · simpa using hstopped
  · simpa using hneedsAuth

end LeftRunning

/-! ## What a step writes -/

namespace ReconcileState

variable {s t : ReconcileState}

lemma status_orUnchanged {row : InstanceRow} {statement : InstanceRow → Option InstanceRow}
    (h : ∀ row', statement row = some row' → row'.status = row.status) :
    (row.orUnchanged statement).status = row.status := by
  obtain hsame | ⟨changed, hchanged, heq⟩ := row.orUnchanged_cases statement
  · rw [hsame]
  · rw [heq]
    exact h changed hchanged

lemma finalizes_status {claimId : Nat} {storeAnswers : Bool}
    (h : s.finalizes claimId storeAnswers = some t) : t.row.status =
      (s.statusWritten (.finalizes claimId storeAnswers)).getLastD s.row.status := by
  unfold finalizes at h
  cases storeAnswers with
  | false =>
    have hrow : t.row = s.row := by
      simp only [Bool.false_eq_true, if_false] at h
      repeat' split at h
      all_goals cases h
      all_goals rfl
    rw [hrow]
    rfl
  | true =>
    by_cases hheld : s.row.configClaimId = some claimId
    · simp only [InstanceRow.finalizeConfigClaim, if_pos hheld] at h
      split at h
      · next number hcall =>
        cases h
        simp only [statusWritten, if_pos hheld, hcall]
        rfl
      · next hcall =>
        cases h
        simp only [statusWritten, if_pos hheld, hcall]
        rfl
      · cases h
    · simp only [InstanceRow.finalizeConfigClaim, if_neg hheld] at h
      rw [statusWritten, if_neg hheld]
      have hrow : t.row = s.row := by
        split at h
        all_goals cases h
        all_goals rfl
      rw [hrow]
      rfl

lemma records_status {reading : Nat} {storeAnswers : Bool}
    (h : s.records reading storeAnswers = some t) : t.row.status =
      (s.statusWritten (.records reading storeAnswers)).getLastD s.row.status := by
  unfold records at h
  split at h
  · cases storeAnswers with
    | false =>
      cases h
      rfl
    | true =>
      cases h
      by_cases hrunning : s.row.status = .running ∧ s.row.configClaimId = none
      · simp only [statusWritten, if_pos hrunning, InstanceRow.orUnchanged,
          InstanceRow.recordUnitFailure]
        rfl
      · simp only [statusWritten, if_neg hrunning, InstanceRow.orUnchanged,
          InstanceRow.recordUnitFailure]
        rfl
  · cases h

/-- The status after an event is the one it writes, if it writes one. -/
lemma status_step {e : ReconcileEvent} (h : unitReconciliation.step s e = some t) :
    t.row.status = (s.statusWritten e).getLastD s.row.status := by
  cases e with
  | finalizes claimId storeAnswers => exact finalizes_status h
  | records reading storeAnswers => exact records_status h
  | claims claimId managerNow databaseNow =>
    simp only [unitReconciliation, claims] at h
    repeat' split at h
    all_goals cases h
    · rfl
    · next claimed hclaimed => exact (InstanceRow.claimForLifecycle_eq_some hclaimed).2.1
  | writesToken claimId sealedToken databaseNow =>
    simp only [unitReconciliation, writesToken] at h
    repeat' split at h
    all_goals cases h
    · rfl
    · next written hwritten => exact (InstanceRow.writeTokenUnderClaim_eq_some hwritten).2.1
    · rfl
    · next written hwritten => exact (InstanceRow.writeTokenUnderClaim_eq_some hwritten).2.1
  | releases claimId storeAnswers =>
    simp only [unitReconciliation, releases] at h
    repeat' split at h
    all_goals cases h
    · rfl
    · exact status_orUnchanged fun row' hrow =>
        (InstanceRow.releaseConfigClaim_eq_some hrow).2.2.1
  | _ =>
    simp only [unitReconciliation, reads, stopsUnit, startsUnit, hostFails, lists, observes,
      readsExitCode, interrupts] at h
    repeat' split at h
    all_goals cases h
    all_goals rfl

end ReconcileState

namespace SignInState

variable {s t : SignInState}

lemma authChallenges_status {l l' : LifecycleState} {id : Nat} {storeAnswers : Bool}
    (h : l.authChallenges id storeAnswers = some l') :
    l'.row.status = if storeAnswers then .needsAuth else l.row.status := by
  unfold LifecycleState.authChallenges at h
  repeat' split at h
  all_goals cases h
  · simp_all [LifecycleState.signInTo]
  · simp_all

lemma completeWrites_status {l l' : LifecycleState} {id : Nat} {storeAnswers : Bool}
    (h : l.completeWrites id storeAnswers = some l') :
    l'.row.status = if storeAnswers then .stopped else l.row.status := by
  unfold LifecycleState.completeWrites at h
  repeat' split at h
  all_goals cases h
  · simp_all [LifecycleState.signInTo]
  · simp_all

/-- A sign-in call writes the status that it is said to write. -/
lemma signIn_status {e : LifecycleEvent} (h : s.signIn e = some t) :
    t.units.row.status = (s.statusWritten (.signIn e)).getLastD s.units.row.status := by
  rw [signIn, Option.ite_none_right_eq_some, Option.map_eq_some_iff] at h
  obtain ⟨hsigns, after, hstep, rfl⟩ := h
  cases e with
  | authChallenges id storeAnswers =>
    have hstatus := authChallenges_status hstep
    cases storeAnswers with
    | true => exact hstatus
    | false => exact hstatus
  | completeWrites id storeAnswers =>
    have hstatus := completeWrites_status hstep
    cases storeAnswers with
    | true => exact hstatus
    | false => exact hstatus
  | _ =>
    cases instanceLifecycle_effect hstep with
    | quiet hquiet => exact hquiet.1
    | _ => cases hsigns

lemma status_step {e : SignInEvent} (h : signInCompletion.step s e = some t) :
    t.units.row.status = (s.statusWritten e).getLastD s.units.row.status := by
  cases e with
  | signIn event => exact signIn_status h
  | unit event =>
    simp only [signInCompletion, unit, Option.map_eq_some_iff] at h
    obtain ⟨units, hstep, rfl⟩ := h
    exact ReconcileState.status_step hstep

/-- A failure is recorded only over `running`, and nothing else writes `error`. -/
lemma statusWritten_cases (s : SignInState) (e : SignInEvent) :
    s.statusWritten e = [] ∨ s.statusWritten e = [.running] ∨ s.statusWritten e = [.stopped] ∨
      s.statusWritten e = [.needsAuth] ∨
      (s.statusWritten e = [.error] ∧ s.units.row.status = .running) := by
  unfold statusWritten
  split
  · next event =>
    unfold ReconcileState.statusWritten
    repeat' split
    all_goals simp_all
  · simp
  · simp
  · simp

end SignInState

/-! ## Runs between a read and a write -/

/-- The bot has to sign in or is stopped, unless a start was left standing. -/
def Settled (written : List InstanceStatus) (status : InstanceStatus) : Prop :=
  (¬LeftRunning written ∧ (status = .needsAuth ∨ status = .stopped)) ∨
    (LeftRunning written ∧ (status = .running ∨ status = .error))

lemma Settled.step {written : List InstanceStatus} {s t : SignInState} {e : SignInEvent}
    (hs : Settled written s.units.row.status) (h : signInCompletion.step s e = some t) :
    Settled (written ++ s.statusWritten e) t.units.row.status := by
  have hstatus := SignInState.status_step h
  obtain heq | heq | heq | heq | ⟨heq, hrunning⟩ := s.statusWritten_cases e
  · rw [heq] at hstatus ⊢
    rw [List.append_nil, hstatus]
    exact hs
  · rw [heq] at hstatus ⊢
    exact .inr ⟨leftRunning_append_running, .inl hstatus⟩
  · rw [heq] at hstatus ⊢
    exact .inl ⟨not_leftRunning_append (.inl rfl), .inr hstatus⟩
  · rw [heq] at hstatus ⊢
    exact .inl ⟨not_leftRunning_append (.inr rfl), .inl hstatus⟩
  · rw [heq] at hstatus ⊢
    obtain ⟨-, hbefore⟩ | ⟨hleft, -⟩ := hs
    · rw [hrunning] at hbefore
      exact absurd hbefore (by decide)
    · exact .inr ⟨leftRunning_append_error hleft, .inr hstatus⟩

/-- From a bot that has to sign in, the statuses that are written tell whether it is settled. -/
lemma settled_of_path {s t : SignInState} {es : List SignInEvent}
    (hs : s.units.row.status = .needsAuth) (h : signInCompletion.Path free s es t) :
    Settled (signInCompletion.log SignInState.statusWritten s es) t.units.row.status :=
  h.logged (I := fun written t => Settled written t.units.row.status)
    (.inl ⟨not_leftRunning_nil, .inl hs⟩) fun _ _ _ _ ht _ hu => ht.step hu

/-- The call is a completion that read this status, and goes on only if it was `needs_auth`. -/
def CompletionOf (read : InstanceStatus) : Option SignInCall → Prop
  | none => False
  | some (.completing status _) => status = read
  | some (.signedIn _) => read = .needsAuth
  | some _ => True

section Completion

variable {read : InstanceStatus} {id : Nat}

lemma completionOf_update {signIns : Nat → Option SignInCall} {other : Nat} {call : SignInCall}
    (h : CompletionOf read (signIns id))
    (hcall : CompletionOf read (signIns other) → CompletionOf read (some call)) :
    CompletionOf read (Function.update signIns other (some call) id) := by
  by_cases heq : id = other
  · subst heq
    rw [Function.update_self]
    exact hcall h
  · rwa [Function.update_of_ne heq]

lemma completionOf_lifecycle {l l' : LifecycleState} {e : LifecycleEvent}
    (hl : CompletionOf read (l.signIns id)) (hsigns : e.signsIn = true)
    (h : instanceLifecycle.step l e = some l') : CompletionOf read (l'.signIns id) := by
  have hnew : ∀ {other call}, ¬((l.signIns other).isSome ∨ !needsInteractiveSignIn l.accountType) →
      CompletionOf read (l.signIns other) → CompletionOf read (some call) := by
    intro other call hfree hother
    cases hcall : l.signIns other with
    | none =>
      rw [hcall] at hother
      exact hother.elim
    | some taken => exact absurd (.inl (by rw [hcall]; rfl)) hfree
  cases e with
  | authBegins attemptId managerNow databaseNow =>
    simp only [instanceLifecycle, LifecycleState.authBegins, Option.ite_none_left_eq_some] at h
    obtain ⟨hfree, h⟩ := h
    split at h
    all_goals cases h
    · exact hl
    · exact completionOf_update hl (hnew hfree)
  | completeReads other =>
    simp only [instanceLifecycle, LifecycleState.completeReads, Option.ite_none_left_eq_some] at h
    obtain ⟨hfree, h⟩ := h
    cases h
    exact completionOf_update hl (hnew hfree)
  | cancelReads other =>
    simp only [instanceLifecycle, LifecycleState.cancelReads, Option.ite_none_left_eq_some] at h
    obtain ⟨hfree, h⟩ := h
    cases h
    exact completionOf_update hl (hnew hfree)
  | completeProbes other authenticated =>
    simp only [instanceLifecycle, LifecycleState.completeProbes] at h
    split at h
    · next status authClaimId hcall =>
      split at h
      · next hgoes =>
        cases h
        refine completionOf_update hl fun hread => ?_
        rw [hcall] at hread
        exact hread.symm.trans hgoes.2
      · cases h
        exact completionOf_update hl fun _ => trivial
    · cases h
  | authFails attemptId inFlight =>
    simp only [instanceLifecycle, LifecycleState.authFails] at h
    split at h
    all_goals cases h
    cases inFlight with
    | true => exact completionOf_update hl fun _ => trivial
    | false => exact completionOf_update hl fun _ => trivial
  | reads | claims | writesToken | hostFails | starts | finalizes | releases | saveClaims
  | saveEnds => cases hsigns
  | _ =>
    simp only [instanceLifecycle, LifecycleState.authChallenges, LifecycleState.authReleases,
      LifecycleState.cancelEnds, LifecycleState.completeWrites,
      LifecycleState.completeReleases] at h
    repeat' split at h
    all_goals cases h
    all_goals exact completionOf_update hl fun _ => trivial

lemma completionOf_step {s t : SignInState} {e : SignInEvent}
    (hs : CompletionOf read (s.signIns id)) (h : signInCompletion.step s e = some t) :
    CompletionOf read (t.signIns id) := by
  cases e with
  | unit event =>
    simp only [signInCompletion, SignInState.unit, Option.map_eq_some_iff] at h
    obtain ⟨units, -, rfl⟩ := h
    exact hs
  | signIn event =>
    simp only [signInCompletion, SignInState.signIn, Option.ite_none_right_eq_some,
      Option.map_eq_some_iff] at h
    obtain ⟨hsigns, after, hstep, rfl⟩ := h
    have hafter : CompletionOf read (after.signIns id) := completionOf_lifecycle hs hsigns hstep
    exact hafter

/-- A completion that writes had read `needs_auth`, and writes `stopped`. -/
lemma read_needsAuth {s s' t u : SignInState} {es : List SignInEvent}
    (hread : signInCompletion.step s (.signIn (.completeReads id)) = some s')
    (hrun : signInCompletion.Path free s' es t)
    (hwrite : signInCompletion.step t (.signIn (.completeWrites id true)) = some u) :
    s'.units.row.status = .needsAuth := by
  simp only [signInCompletion, SignInState.signIn, LifecycleEvent.signsIn, if_true,
    Option.map_eq_some_iff, instanceLifecycle, LifecycleState.completeReads,
    Option.ite_none_left_eq_some] at hread
  obtain ⟨after, ⟨-, hafter⟩, rfl⟩ := hread
  cases hafter
  have hcompletion : CompletionOf s.units.row.status (t.signIns id) := by
    refine hrun.invariant (I := fun t => CompletionOf s.units.row.status (t.signIns id)) ?_
      fun _ _ _ ht _ hu => completionOf_step ht hu
    simp [LifecycleState.signInTo, CompletionOf, SignInState.lifecycle]
  simp only [signInCompletion, SignInState.signIn, LifecycleEvent.signsIn, if_true,
    Option.map_eq_some_iff, instanceLifecycle, LifecycleState.completeWrites] at hwrite
  obtain ⟨after, hafter, -⟩ := hwrite
  split at hafter
  · next authClaimId hcall =>
    have hsigned : t.signIns id = some (.signedIn authClaimId) := hcall
    rw [hsigned] at hcompletion
    exact hcompletion
  · cases hafter

end Completion

/-- **What a completed sign-in overwrites.**  Between the read of a completion and its write,
whatever else happens, no start or restart has written `running` and was left standing if and only
if the completion changes the status only from `needs_auth`. -/
theorem completion_overwrites_iff {s s' t u : SignInState} {id : Nat} {es : List SignInEvent}
    (hread : signInCompletion.step s (.signIn (.completeReads id)) = some s')
    (hrun : signInCompletion.Path free s' es t)
    (hwrite : signInCompletion.step t (.signIn (.completeWrites id true)) = some u) :
    (u.units.row.status ≠ t.units.row.status → t.units.row.status = .needsAuth) ↔
      ¬LeftRunning (signInCompletion.log SignInState.statusWritten s' es) := by
  have hstopped : u.units.row.status = .stopped := SignInState.status_step hwrite
  obtain ⟨hsettled, hstatus⟩ | ⟨hleft, hstatus⟩ :=
    settled_of_path (read_needsAuth hread hrun hwrite) hrun
  · refine ⟨fun _ => hsettled, fun _ hchanges => ?_⟩
    obtain hneedsAuth | hsame := hstatus
    · exact hneedsAuth
    · exact absurd (hstopped.trans hsame.symm) hchanges
  · refine ⟨fun honly => ?_, fun hsettled => absurd hleft hsettled⟩
    rw [hstopped] at honly
    obtain hrunning | herror := hstatus
    · rw [hrunning] at honly
      exact absurd (honly (by decide)) (by decide)
    · rw [herror] at honly
      exact absurd (honly (by decide)) (by decide)

/-! ## Two completions and a start -/

/-- A stopped bot of an account that signs in with a device code, its unit down. -/
def signedOutBot : SignInState where
  accountType := .microsoft
  units := ⟨⟨.stopped, none, 33333, none, none, none, none, none⟩, 0, 0, fun _ => none,
    fun _ => none⟩
  signIns := fun _ => none

/-- A sign-in that shows its device code. -/
def signInShown : List SignInEvent :=
  [.signIn (.authBegins 0 0 0), .signIn (.authChallenges 0 true)]

/-- The bot is started and found to run. -/
def startAfterwards : List SignInEvent :=
  [.unit (.reads 0 .start), .unit (.claims 0 0 0), .unit (.startsUnit 0), .unit (.finalizes 0 true)]

/-- A sign-in is found completed and recorded. -/
theorem completion_overwrites_iff_alone : ∃ s t u,
    signInCompletion.exec signedOutBot signInShown = some s ∧
    signInCompletion.step t (.signIn (.completeWrites 1 true)) = some u ∧
    (u.units.row.status ≠ t.units.row.status → t.units.row.status = .needsAuth) := by
  obtain ⟨s, s', t, u, hshown, hread, hprobe, hwrite, hlog⟩ : ∃ s s' t u,
      signInCompletion.exec signedOutBot signInShown = some s ∧
      signInCompletion.step s (.signIn (.completeReads 1)) = some s' ∧
      signInCompletion.exec s' [.signIn (.completeProbes 1 (some true))] = some t ∧
      signInCompletion.step t (.signIn (.completeWrites 1 true)) = some u ∧
      signInCompletion.log SignInState.statusWritten s' [.signIn (.completeProbes 1 (some true))] =
        [] :=
    ⟨_, _, _, _, rfl, rfl, rfl, rfl, rfl⟩
  refine ⟨s, t, u, hshown, hwrite, ?_⟩
  refine (completion_overwrites_iff hread (path_of_exec hprobe) hwrite).2 ?_
  rw [hlog]
  exact not_leftRunning_nil

/-- Of two completions of one sign-in, the first is recorded and the bot is started before the
second is. -/
def completedTwice : List SignInEvent :=
  signInShown ++ [.signIn (.completeReads 1), .signIn (.completeProbes 1 (some true)),
    .signIn (.completeReads 2), .signIn (.completeProbes 2 (some true)),
    .signIn (.completeWrites 2 true), .signIn (.completeReleases 2)] ++ startAfterwards

/-- **A completion overwrites `running` with `stopped`** where the bot was started after another
completion of the same sign-in. -/
theorem completion_overwrites_running : ∃ t u,
    signInCompletion.Reachable free t ∧
    signInCompletion.step t (.signIn (.completeWrites 1 true)) = some u ∧
    t.units.row.status = .running ∧ u.units.row.status = .stopped := by
  obtain ⟨t, u, hrun, hwrite, hrunning, hstopped⟩ : ∃ t u,
      signInCompletion.exec signedOutBot completedTwice = some t ∧
      signInCompletion.step t (.signIn (.completeWrites 1 true)) = some u ∧
      t.units.row.status = .running ∧ u.units.row.status = .stopped :=
    ⟨_, _, rfl, rfl, rfl, rfl⟩
  refine ⟨t, u, ?_, hwrite, hrunning, hstopped⟩
  exact .of_exec ⟨⟨rfl, rfl, fun _ => rfl, fun _ => rfl⟩, fun _ => rfl⟩ hrun

end OpenMcc

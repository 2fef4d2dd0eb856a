import OpenMcc.Construction.InstanceLifecycle

/-!
# What takes a bot out of `needs_auth`

A start is refused while the bot has to sign in, but it reads the status before it takes its claim
and its last write does not read it again.  A sign-in that is begun and cancelled in between
leaves a `needs_auth` that the start overwrites (`start_overwrites_needsAuth`).  Under
`keepsSignIn`, no start takes its claim while the bot has to sign in and no sign-in is recorded
over a start at work, and then only a completed sign-in takes the bot out of `needs_auth`
(`needsAuth_leaves_only_signedIn`).
-/

namespace OpenMcc

open TransitionSystem

/-- The call is a start at work. -/
def workingCall : Option LifecycleCall → Bool
  | some (.start stage) => stage.working
  | _ => false

/-- The configuration claim is held by a start at work. -/
def LifecycleState.startHolds (s : LifecycleState) : Bool :=
  s.row.configClaimId.any fun claimId => workingCall (s.calls claimId)

/-- The condition on a step: a start is not granted its claim while the bot has to sign in, and a
sign-in does not record that it has to while a start at work holds the claim. -/
def keepsSignIn (s : LifecycleState) : LifecycleEvent → Bool
  | .claims claimId managerNow databaseNow usable =>
    !usable || (s.row.claimForLifecycle claimId managerNow databaseNow).isNone ||
      s.row.status != .needsAuth
  | .authChallenges _ _ => !s.startHolds
  | _ => true

/-! ## A start that holds the claim -/

section Holds

variable {s t : LifecycleState} {claimId : Nat} {stage : StartStage}

/-- What a step leaves alone: the status, and the claim unless it goes to no start. -/
def Quiet (s t : LifecycleState) : Prop :=
  t.row.status = s.row.status ∧ (t.startHolds = true → s.startHolds = true)

lemma Quiet.refl (s : LifecycleState) : Quiet s s := ⟨rfl, id⟩

lemma quiet_moveTo (h : stage.working = true → workingCall (s.calls claimId) = true) :
    Quiet s (s.moveTo claimId stage) := by
  refine ⟨rfl, fun hholds => ?_⟩
  simp only [LifecycleState.startHolds, LifecycleState.moveTo, Option.any_eq_true] at hholds ⊢
  obtain ⟨holder, hclaim, hworking⟩ := hholds
  refine ⟨holder, hclaim, ?_⟩
  by_cases heq : holder = claimId
  · subst heq
    rw [Function.update_self] at hworking
    exact h hworking
  · rwa [Function.update_of_ne heq] at hworking

/-- A statement that keeps or clears the claim gives it to no start. -/
lemma quiet_row {row : InstanceRow} (hstatus : row.status = s.row.status)
    (hclaim : row.configClaimId = s.row.configClaimId ∨ row.configClaimId = none) :
    Quiet s { s with row := row } := by
  refine ⟨hstatus, fun hholds => ?_⟩
  rcases hclaim with hsame | hcleared
  · simp only [LifecycleState.startHolds, hsame] at hholds
    exact hholds
  · simp [LifecycleState.startHolds, hcleared] at hholds

lemma quiet_orUnchanged {statement : InstanceRow → Option InstanceRow}
    (h : ∀ row', statement s.row = some row' → row'.status = s.row.status ∧
      (row'.configClaimId = s.row.configClaimId ∨ row'.configClaimId = none)) :
    Quiet s { s with row := s.row.orUnchanged statement } := by
  rcases s.row.orUnchanged_cases statement with hsame | ⟨changed, hchanged, heq⟩
  · rw [hsame]
    exact Quiet.refl s
  · rw [heq]
    exact quiet_row (h changed hchanged).1 (h changed hchanged).2

lemma quiet_releaseRead (s : LifecycleState) (authClaimId : Option Nat) :
    Quiet s { s with row := LifecycleState.releaseRead s.row authClaimId } := by
  cases authClaimId with
  | none => exact Quiet.refl s
  | some attemptId =>
      refine quiet_orUnchanged fun row' hrow => ?_
      obtain ⟨hclaim, hstatus, -⟩ := InstanceRow.releaseAuthClaim_eq_some hrow
      exact ⟨hstatus, Or.inl hclaim⟩

/-- The sign-in calls have no part in who holds the configuration claim. -/
lemma Quiet.signInTo (h : Quiet s t) (id : Nat) (call : SignInCall) :
    Quiet s (t.signInTo id call) := h

lemma Quiet.trans {u : LifecycleState} (h : Quiet s t) (h' : Quiet t u) : Quiet s u :=
  ⟨h'.1.trans h.1, fun hholds => h.2 (h'.2 hholds)⟩

end Holds

/-! ## The effect of a step -/

/-- What a step can do to the status and to a start that holds the claim. -/
inductive LifecycleEffect (s t : LifecycleState) : LifecycleEvent → Prop
  | quiet {e : LifecycleEvent} (h : Quiet s t) : LifecycleEffect s t e
  | granted {claimId : Nat} {managerNow databaseNow : Int}
      (claim : s.row.claimForLifecycle claimId managerNow databaseNow ≠ none)
      (status : t.row.status = s.row.status) :
      LifecycleEffect s t (.claims claimId managerNow databaseNow true)
  | challenged {attemptId : Nat} (status : t.row.status = .needsAuth)
      (holds : t.startHolds = s.startHolds) : LifecycleEffect s t (.authChallenges attemptId true)
  | finalized {claimId : Nat} (holds : s.startHolds = true) (released : t.startHolds = false) :
      LifecycleEffect s t (.finalizes claimId true)
  | signedIn {id : Nat} (status : t.row.status = .stopped) :
      LifecycleEffect s t (.completeWrites id true)

section Effect

variable {s t : LifecycleState} {claimId id : Nat} {storeAnswers : Bool}

lemma claims_effect {managerNow databaseNow : Int} {usable : Bool}
    (h : s.claims claimId managerNow databaseNow usable = some t) :
    LifecycleEffect s t (.claims claimId managerNow databaseNow usable) := by
  unfold LifecycleState.claims at h
  split at h
  case h_2 => cases h
  case h_1 hcall =>
    split at h
    case h_1 =>
      cases h
      exact .quiet (quiet_moveTo nofun)
    case h_2 claimed hclaim =>
      cases usable with
      | true =>
          cases h
          exact .granted (by rw [hclaim]; exact nofun)
            (InstanceRow.claimForLifecycle_eq_some hclaim).2.1
      | false =>
          cases h
          exact .quiet (quiet_moveTo nofun)

lemma finalizes_effect (h : s.finalizes claimId storeAnswers = some t) :
    LifecycleEffect s t (.finalizes claimId storeAnswers) := by
  unfold LifecycleState.finalizes at h
  split at h
  case h_2 => cases h
  case h_1 hcall =>
    cases storeAnswers with
    | false =>
        cases h
        exact .quiet (quiet_moveTo nofun)
    | true =>
        simp only [Bool.not_true, Bool.false_eq_true, if_false] at h
        split at h
        case h_1 =>
          cases h
          exact .quiet (quiet_moveTo nofun)
        case h_2 finalized hfinal =>
          obtain ⟨hheld, hcleared, -, -⟩ := InstanceRow.finalizeConfigClaim_eq_some hfinal
          cases h
          refine .finalized ?_ ?_
          · simp [LifecycleState.startHolds, hheld, hcall, workingCall, StartStage.working]
          · simp [LifecycleState.startHolds, hcleared]

lemma authChallenges_effect (h : s.authChallenges id storeAnswers = some t) :
    LifecycleEffect s t (.authChallenges id storeAnswers) := by
  unfold LifecycleState.authChallenges at h
  split at h
  case h_2 => cases h
  case h_1 =>
    cases storeAnswers with
    | false =>
        cases h
        exact .quiet (Quiet.refl s)
    | true =>
        cases h
        exact .challenged rfl rfl

lemma completeWrites_effect (h : s.completeWrites id storeAnswers = some t) :
    LifecycleEffect s t (.completeWrites id storeAnswers) := by
  unfold LifecycleState.completeWrites at h
  split at h
  case h_2 => cases h
  case h_1 =>
    cases storeAnswers with
    | false =>
        cases h
        exact .quiet (Quiet.refl s)
    | true =>
        cases h
        exact .signedIn rfl

lemma writesToken_quiet {sealedToken : Text} {databaseNow : Int}
    (h : s.writesToken claimId sealedToken databaseNow = some t) : Quiet s t := by
  unfold LifecycleState.writesToken at h
  split at h
  case h_2 => cases h
  case h_1 =>
    split at h
    case h_1 =>
      cases h
      exact quiet_moveTo nofun
    case h_2 written hwritten =>
      obtain ⟨hclaim, hstatus, -⟩ := InstanceRow.writeTokenUnderClaim_eq_some hwritten
      cases h
      exact quiet_row hstatus (Or.inl hclaim)

lemma releases_quiet (h : s.releases claimId storeAnswers = some t) : Quiet s t := by
  unfold LifecycleState.releases at h
  split at h
  case h_2 => cases h
  case h_1 =>
    have hended : Quiet s (s.moveTo claimId .ended) := quiet_moveTo nofun
    split at h
    · cases h
      exact hended
    · cases h
      have hrow : Quiet (s.moveTo claimId .ended) { s.moveTo claimId .ended with
          row := s.row.orUnchanged fun row => row.releaseConfigClaim claimId } :=
        quiet_orUnchanged fun row' hrow => by
          obtain ⟨-, hcleared, hstatus, -⟩ := InstanceRow.releaseConfigClaim_eq_some hrow
          exact ⟨hstatus, Or.inr hcleared⟩
      exact hended.trans hrow

lemma saveClaims_quiet {databaseNow : Int} (h : s.saveClaims claimId databaseNow = some t) :
    Quiet s t := by
  rw [LifecycleState.saveClaims, Option.ite_none_left_eq_some] at h
  obtain ⟨-, h⟩ := h
  split at h
  case h_1 =>
    cases h
    exact Quiet.refl s
  case h_2 claimed hclaim =>
    obtain ⟨hheld, hstatus, -⟩ := InstanceRow.claimForConfig_eq_some hclaim
    cases h
    refine ⟨hstatus, fun hholds => ?_⟩
    simp [LifecycleState.startHolds, hheld, workingCall] at hholds

lemma saveEnds_quiet (h : s.saveEnds claimId = some t) : Quiet s t := by
  unfold LifecycleState.saveEnds at h
  split at h
  case h_2 => cases h
  case h_1 =>
    cases h
    refine quiet_orUnchanged fun row' hrow => ?_
    obtain ⟨-, hcleared, hstatus, -⟩ := InstanceRow.finalizeConfigClaim_eq_some hrow
    exact ⟨hstatus, Or.inr hcleared⟩

lemma authBegins_quiet {managerNow databaseNow : Int}
    (h : s.authBegins id managerNow databaseNow = some t) : Quiet s t := by
  rw [LifecycleState.authBegins, Option.ite_none_left_eq_some] at h
  obtain ⟨-, h⟩ := h
  split at h
  case h_1 =>
    cases h
    exact Quiet.refl s
  case h_2 claimed hclaim =>
    obtain ⟨hcleared, -, hstatus, -⟩ := InstanceRow.claimForAuth_eq_some hclaim
    cases h
    exact quiet_row hstatus (Or.inr hcleared)

lemma instanceLifecycle_effect {e : LifecycleEvent} (h : instanceLifecycle.step s e = some t) :
    LifecycleEffect s t e := by
  cases e with
  | claims claimId managerNow databaseNow usable => exact claims_effect h
  | finalizes claimId storeAnswers => exact finalizes_effect h
  | authChallenges attemptId storeAnswers => exact authChallenges_effect h
  | completeWrites id storeAnswers => exact completeWrites_effect h
  | writesToken claimId sealedToken databaseNow => exact .quiet (writesToken_quiet h)
  | releases claimId storeAnswers => exact .quiet (releases_quiet h)
  | saveClaims claimId databaseNow => exact .quiet (saveClaims_quiet h)
  | saveEnds claimId => exact .quiet (saveEnds_quiet h)
  | authBegins attemptId managerNow databaseNow => exact .quiet (authBegins_quiet h)
  | reads claimId =>
      simp only [instanceLifecycle, LifecycleState.reads] at h
      repeat' split at h
      all_goals cases h
      · exact .quiet (Quiet.refl s)
      · exact .quiet (quiet_moveTo nofun)
  | hostFails claimId inFlight =>
      simp only [instanceLifecycle, LifecycleState.hostFails] at h
      split at h
      all_goals cases h
      cases inFlight with
      | true => exact .quiet (quiet_moveTo nofun)
      | false => exact .quiet (quiet_moveTo nofun)
  | starts claimId =>
      simp only [instanceLifecycle, LifecycleState.starts] at h
      split at h
      case h_2 => cases h
      case h_1 hcall =>
        cases h
        exact .quiet (quiet_moveTo fun _ => by rw [hcall]; rfl)
  | authFails attemptId inFlight =>
      simp only [instanceLifecycle, LifecycleState.authFails] at h
      split at h
      all_goals cases h
      exact .quiet (Quiet.refl s)
  | authReleases attemptId =>
      simp only [instanceLifecycle, LifecycleState.authReleases] at h
      split at h
      all_goals cases h
      exact .quiet ((quiet_releaseRead s (some attemptId)).signInTo attemptId .ended)
  | cancelReads id =>
      simp only [instanceLifecycle, LifecycleState.cancelReads] at h
      split at h
      all_goals cases h
      exact .quiet (Quiet.refl s)
  | cancelEnds id hostAnswers =>
      simp only [instanceLifecycle, LifecycleState.cancelEnds] at h
      repeat' split at h
      all_goals cases h
      · exact .quiet (Quiet.refl s)
      · exact .quiet ((quiet_releaseRead s _).signInTo id .ended)
  | completeReads id =>
      simp only [instanceLifecycle, LifecycleState.completeReads] at h
      split at h
      all_goals cases h
      exact .quiet (Quiet.refl s)
  | completeProbes id authenticated =>
      simp only [instanceLifecycle, LifecycleState.completeProbes] at h
      repeat' split at h
      all_goals cases h
      · exact .quiet (Quiet.refl s)
      · exact .quiet (Quiet.refl s)
  | completeReleases id =>
      simp only [instanceLifecycle, LifecycleState.completeReleases] at h
      split at h
      all_goals cases h
      exact .quiet ((quiet_releaseRead s _).signInTo id .ended)

end Effect

/-! ## Under the condition -/

/-- A start at work that holds the claim is over a bot that does not have to sign in. -/
def StartsSignedIn (s : LifecycleState) : Prop :=
  s.startHolds = true → s.row.status ≠ .needsAuth

lemma StartsSignedIn.step {s t : LifecycleState} {e : LifecycleEvent} (hs : StartsSignedIn s)
    (hG : keepsSignIn s e = true) (h : instanceLifecycle.step s e = some t) :
    StartsSignedIn t := by
  intro hholds
  cases instanceLifecycle_effect h with
  | quiet h =>
      rw [h.1]
      exact hs (h.2 hholds)
  | granted claim status =>
      rw [status]
      simpa [keepsSignIn, claim] using hG
  | challenged status holds =>
      rw [holds] at hholds
      simp [keepsSignIn, hholds] at hG
  | finalized holds released =>
      rw [released] at hholds
      cases hholds
  | signedIn status =>
      rw [status]
      exact nofun

/-- **A bot leaves `needs_auth` only through a completed sign-in**, in every run in which no start
is granted its claim while the bot has to sign in and no sign-in is recorded over a start at
work. -/
theorem needsAuth_leaves_only_signedIn {s : LifecycleState}
    (h : instanceLifecycle.Reachable (meets keepsSignIn) s) : LeavesOnlySignedIn s := by
  have hs : StartsSignedIn s := by
    refine h.invariant ?_ fun _ _ _ ht hG hu => ht.step hG hu
    rintro s₀ ⟨hclaim, -⟩ hholds
    simp [LifecycleState.startHolds, hclaim] at hholds
  intro e t hstep hbefore hafter
  cases instanceLifecycle_effect hstep with
  | quiet h => exact absurd (h.1.trans hbefore) hafter
  | granted claim status => exact absurd (status.trans hbefore) hafter
  | challenged status => exact absurd status hafter
  | finalized holds => exact absurd hbefore (hs holds)
  | @signedIn id => exact ⟨id, rfl⟩

/-! ## A sign-in begun and cancelled under a start -/

/-- A stopped bot of an account that signs in with a device code. -/
def stoppedBot : LifecycleState where
  accountType := .microsoft
  row := ⟨.stopped, none, 33333, none, none, none, none, none⟩
  calls := fun _ => none
  signIns := fun _ => none

/-- A start reads the status; a sign-in is begun, recorded and cancelled; the start goes on. -/
def startAcrossSignIn : List LifecycleEvent :=
  [.reads 0, .authBegins 0 0 0, .authChallenges 0 true, .cancelReads 1, .cancelEnds 1 true,
    .claims 0 0 0 true, .starts 0]

/-- A start that read the status before a sign-in was recorded moves the bot from `needs_auth` to
`running`. -/
theorem start_overwrites_needsAuth :
    ¬ ∀ s, instanceLifecycle.Reachable free s → LeavesOnlySignedIn s := by
  intro hall
  obtain ⟨s, t, hrun, hstep, hbefore, hafter⟩ : ∃ s t,
      instanceLifecycle.exec stoppedBot startAcrossSignIn = some s ∧
        instanceLifecycle.step s (.finalizes 0 true) = some t ∧
        s.row.status = .needsAuth ∧ t.row.status = .running :=
    ⟨_, _, rfl, rfl, rfl, rfl⟩
  have hreach : instanceLifecycle.Reachable free s :=
    .of_exec ⟨rfl, rfl, fun _ => rfl, fun _ => rfl⟩ hrun
  obtain ⟨id, hevent⟩ := hall s hreach _ t hstep hbefore (by rw [hafter]; exact nofun)
  cases hevent

/-- A sign-in that is begun, recorded and found completed, and after it a start. -/
def signInThenStart : List LifecycleEvent :=
  [.authBegins 0 0 0, .authChallenges 0 true, .completeReads 1, .completeProbes 1 (some true),
    .completeWrites 1 true, .completeReleases 1, .reads 0, .claims 0 0 0 true, .starts 0,
    .finalizes 0 true]

theorem needsAuth_leaves_only_signedIn_run :
    ∃ s, instanceLifecycle.execUnder keepsSignIn stoppedBot signInThenStart = some s ∧
      s.row.status = .running ∧ LeavesOnlySignedIn s := by
  obtain ⟨s, hrun, hstatus⟩ : ∃ s,
      instanceLifecycle.execUnder keepsSignIn stoppedBot signInThenStart = some s ∧
        s.row.status = .running :=
    ⟨_, rfl, rfl⟩
  exact ⟨s, hrun, hstatus, needsAuth_leaves_only_signedIn
    (.of_execUnder ⟨rfl, rfl, fun _ => rfl, fun _ => rfl⟩ hrun)⟩

end OpenMcc

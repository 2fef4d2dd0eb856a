import OpenMcc.Construction.ClaimedOperations

/-!
# Claims are kept while a command may run

An operation gives its claim back with a statement that asks for that claim, and only while its
`ExecFlight` is clear; and a command of its that may be left running has set it
(`OperationCall.Sound`).  So a claim goes with a statement of its own operation, when none of its
commands may be running, or is taken over once its lease is over.
-/

namespace OpenMcc

open TransitionSystem

/-! ## Calls -/

/-- The program never deletes the row. -/
def ClaimProgram.NeverDeletes : ClaimProgram → Prop
  | .returns | .throws => True
  | .connects next => next.NeverDeletes
  | .execs _ next => ∀ result, (next result).NeverDeletes
  | .stores write next => write ≠ .delete ∧ next.NeverDeletes

lemma ClaimProgram.NeverDeletes.succeeds {command : HostCommand} {next : ClaimProgram}
    (h : next.NeverDeletes) : (ClaimProgram.succeeds command next).NeverDeletes := by
  intro result
  by_cases hexit : result.exitCode = 0
  · simp only [hexit, ne_eq, not_true_eq_false, if_false]
    exact h
  · simp only [hexit, ne_eq, not_false_eq_true, if_true]
    trivial

lemma ClaimProgram.saveConfig_neverDeletes : ClaimProgram.saveConfig.NeverDeletes := by
  have h : (succeeds .writeConfig (stores (.finalize none none) returns)).NeverDeletes :=
    NeverDeletes.succeeds ⟨by simp, trivial⟩
  exact h

/-- No step from here on deletes the row. -/
def OperationStage.NeverDeletes : OperationStage → Prop
  | .running _ program => program.NeverDeletes
  | .awaiting next => ∀ result, (next result).NeverDeletes
  | _ => True

/-- No error was thrown yet. -/
def OperationStage.Early : OperationStage → Prop
  | .asked | .checking | .running _ _ | .awaiting _ => True
  | _ => False

/-- A command that may be left running is in flight, and no error came before one was. -/
structure OperationCall.Sound (call : OperationCall) : Prop where
  left : 0 < call.left → call.inFlight = true
  early : call.stage.Early → call.inFlight = false
  keepsRow : call.operation = .save → call.stage.NeverDeletes

/-- A stage that follows on another without an error, or after one. -/
lemma OperationCall.Sound.moveTo {call : OperationCall} {stage : OperationStage}
    (h : call.Sound) (hearly : stage.Early → call.stage.Early)
    (hkeeps : call.operation = .save → call.stage.NeverDeletes → stage.NeverDeletes) :
    OperationCall.Sound { call with stage := stage } :=
  ⟨h.left, fun hstage => h.early (hearly hstage), fun hsave => hkeeps hsave (h.keepsRow hsave)⟩

/-- A step of a call that leaves the row as it is. -/
structure CallMove (before after : OperationCall) : Prop where
  operation : after.operation = before.operation
  asked : before.stage ≠ .asked → after.stage ≠ .asked
  sound : before.Sound → after.Sound

namespace ClaimState

variable {s t : ClaimState} {e : ClaimEvent} {hasChallenge : Text → Bool}

/-! ## What an event does -/

/-- The events, each with the state it leads to. -/
inductive ClaimMove (s : ClaimState) : ClaimEvent → ClaimState → Prop
  | asks {call operation} : s.calls call = none →
      ClaimMove s (.asks call operation) (s.setCall call ⟨operation, false, 0, .asked⟩)
  | moves {e before after} : s.calls e.call = some before → CallMove before after →
      ClaimMove s e (s.setCall e.call after)
  | creates {e before after} {row : InstanceRow} : s.calls e.call = some before →
      CallMove before after → after.stage ≠ .asked → s.row = none → row.authClaimId = none →
      row.configClaimId = some e.call →
      ClaimMove s e { s.setCall e.call after with row := some row }
  | takes {e before after row claimed managerNow databaseNow} : s.calls e.call = some before →
      before.stage = .asked → CallMove before after → after.stage ≠ .asked → s.row = some row →
      (∃ usable sealedToken document outcome,
        e = .takes e.call managerNow databaseNow usable sealedToken document outcome) →
      claim before.operation e.call managerNow databaseNow row = some claimed →
      ClaimMove s e { s.setCall e.call after with
        row := some claimed
        overdue := fun other => s.overdue other || foundOver before.operation row other }
  | stores {e before after connected write next databaseNow row} :
      s.calls e.call = some before → before.stage = .running connected (.stores write next) →
      CallMove before after → (∃ outcome, e = .stores e.call databaseNow outcome) →
      write.apply e.call databaseNow s.row = some row →
      ClaimMove s e { s.setCall e.call after with row := row }
  | releases {e before after} : s.calls e.call = some before → before.stage = .releasing →
      before.inFlight = false → CallMove before after →
      ClaimMove s e { s.setCall e.call after with
        row := s.row.map (releaseClaim before.operation e.call) }

lemma callMove_ended {before : OperationCall} {stage : OperationStage}
    (hstage : ¬stage.Early) (hkeeps : stage.NeverDeletes) :
    CallMove before { before with stage := stage } where
  operation := rfl
  asked _ heq := hstage (by rw [show stage = .asked from heq]; trivial)
  sound h := h.moveTo (fun hearly => absurd hearly hstage) fun _ _ => hkeeps

lemma callMove_early {before : OperationCall} {stage : OperationStage}
    (hbefore : before.stage.Early) (hasked : stage ≠ .asked)
    (hkeeps : before.operation = .save → before.stage.NeverDeletes → stage.NeverDeletes) :
    CallMove before { before with stage := stage } where
  operation := rfl
  asked _ := hasked
  sound h := h.moveTo (fun _ => hbefore) hkeeps

lemma neverDeletes_program {operation : ClaimedOperation} {sealedToken : Text} {document : Bool}
    (hsave : operation = .save) :
    (operation.program hasChallenge sealedToken document).NeverDeletes := by
  subst hsave
  exact ClaimProgram.saveConfig_neverDeletes

lemma callMove_refused {before : OperationCall} :
    CallMove before { before with stage := refused before.operation } := by
  by_cases hauth : before.operation.takesAuth = true
  · rw [refused, if_pos hauth]
    exact callMove_ended id trivial
  · rw [refused, if_neg hauth]
    exact callMove_ended id trivial

lemma callMove_taken {before : OperationCall} {sealedToken : Text} {document : Bool}
    (hasked : before.stage = .asked) :
    CallMove before
      { before with stage := taken hasChallenge before.operation sealedToken document } := by
  have hearly : before.stage.Early := by
    rw [hasked]
    trivial
  by_cases hauth : before.operation.takesAuth = true
  · rw [taken, if_pos hauth]
    exact callMove_early hearly (by simp) fun _ _ => trivial
  · rw [taken, if_neg hauth]
    exact callMove_early hearly (by simp) fun hsave _ => neverDeletes_program hsave

lemma callMove_handled {before : OperationCall} {connected : Bool} :
    CallMove before { before with
      stage := if before.operation.takesAuth && connected then .cleaning else .releasing } := by
  split
  · exact callMove_ended id trivial
  · exact callMove_ended id trivial

lemma refused_ne_asked (operation : ClaimedOperation) : refused operation ≠ .asked := by
  unfold refused
  split <;> simp

lemma taken_ne_asked (hasChallenge : Text → Bool) (operation : ClaimedOperation)
    (sealedToken : Text) (document : Bool) :
    taken hasChallenge operation sealedToken document ≠ .asked := by
  unfold taken
  split <;> simp

/-- Where the claim transaction leads once it has taken its claim, answered or not. -/
lemma callMove_claims (hasChallenge : Text → Bool) (before : OperationCall) (sealedToken : Text)
    (document : Bool) (outcome : StoreOutcome) (hasked : before.stage = .asked) :
    CallMove before { before with
        stage := if outcome = .lost then refused before.operation
          else taken hasChallenge before.operation sealedToken document } ∧
      (if outcome = .lost then refused before.operation
        else taken hasChallenge before.operation sealedToken document) ≠ .asked := by
  by_cases hlost : outcome = .lost
  · rw [if_pos hlost]
    exact ⟨callMove_refused, refused_ne_asked _⟩
  · rw [if_neg hlost]
    exact ⟨callMove_taken hasked, taken_ne_asked _ _ _ _⟩

/-- **What an event does.** -/
lemma move_of_step (h : (claimedOperations hasChallenge).step s e = some t) :
    ClaimMove s e t := by
  cases e with
  | asks call operation =>
    simp only [claimedOperations, asks, Option.ite_none_left_eq_some] at h
    exact Option.some.inj h.2 ▸ .asks (Option.not_isSome_iff_eq_none.mp h.1)
  | creates call row databaseNow =>
    simp only [claimedOperations, creates] at h
    split at h
    · next inFlight left hcall hrow =>
      refine Option.some.inj h ▸ .creates hcall ?_ (by simp) hrow rfl rfl
      exact callMove_early trivial (by simp) fun hsave => by cases hsave
    · cases h
  | takes call managerNow databaseNow usable sealedToken document outcome =>
    simp only [claimedOperations, takes] at h
    split at h
    · next operation inFlight left hcall =>
      split at h
      · exact Option.some.inj h ▸ .moves hcall callMove_refused
      · next claimed hclaimed =>
        split at h
        · exact Option.some.inj h ▸ .moves hcall callMove_refused
        · obtain ⟨row, hrow, hclaim⟩ := Option.bind_eq_some_iff.mp hclaimed
          have hover : (fun other => s.overdue other ||
              s.row.any fun row => foundOver operation row other) =
              fun other => s.overdue other || foundOver operation row other := by
            rw [hrow]
            rfl
          rw [hover] at h
          have hmove := callMove_claims hasChallenge ⟨operation, inFlight, left, .asked⟩
            sealedToken document outcome rfl
          rw [← Option.some.inj h]
          exact ClaimMove.takes hcall rfl hmove.1 hmove.2 hrow ⟨_, _, _, _, rfl⟩ hclaim
    · cases h
  | checks call outcome =>
    simp only [claimedOperations, checks] at h
    split at h
    · next operation inFlight left hcall =>
      split at h
      · exact Option.some.inj h ▸ .moves hcall (callMove_ended id trivial)
      · exact Option.some.inj h ▸ .moves hcall (callMove_ended id trivial)
      · refine Option.some.inj h ▸ .moves hcall (callMove_early trivial (by simp) fun hsave _ => ?_)
        exact neverDeletes_program hsave
    · cases h
  | connects call succeeds =>
    simp only [claimedOperations, connects] at h
    split at h
    · next hcall =>
      split at h
      · exact Option.some.inj h ▸ .moves hcall
          (callMove_early trivial (by simp) fun _ hnever => hnever)
      · exact Option.some.inj h ▸ .moves hcall (callMove_ended id trivial)
    · cases h
  | issues call =>
    simp only [claimedOperations, issues] at h
    split at h
    · next hcall =>
      exact Option.some.inj h ▸ .moves hcall
        (callMove_early trivial (by simp) fun _ hnever => hnever)
    · cases h
  | answers call result =>
    simp only [claimedOperations, answers] at h
    split at h
    · next hcall =>
      exact Option.some.inj h ▸ .moves hcall
        (callMove_early trivial (by simp) fun _ hnever => hnever result)
    · next hcall => exact Option.some.inj h ▸ .moves hcall (callMove_ended id trivial)
    · cases h
  | refusesChannel call =>
    simp only [claimedOperations, refusesChannel] at h
    split at h
    · next hcall => exact Option.some.inj h ▸ .moves hcall (callMove_ended id trivial)
    · next hcall => exact Option.some.inj h ▸ .moves hcall (callMove_ended id trivial)
    · cases h
  | execThrows call =>
    simp only [claimedOperations, execThrows] at h
    split at h
    · next hcall =>
      refine Option.some.inj h ▸ .moves hcall ⟨rfl, fun _ => by simp, fun _ => ?_⟩
      exact ⟨fun _ => rfl, fun hearly => hearly.elim, fun _ => trivial⟩
    · next hcall =>
      refine Option.some.inj h ▸ .moves hcall ⟨rfl, fun _ => by simp, fun _ => ?_⟩
      exact ⟨fun _ => rfl, fun hearly => hearly.elim, fun _ => trivial⟩
    · cases h
  | stores call databaseNow outcome =>
    simp only [claimedOperations, stores] at h
    split at h
    · next hcall =>
      split at h
      · next hrow =>
        refine Option.some.inj h ▸ .stores hcall rfl ?_ ⟨_, rfl⟩ hrow
        exact callMove_early trivial (by simp) fun _ hnever => hnever.2
      · next hrow =>
        exact Option.some.inj h ▸ .stores hcall rfl (callMove_ended id trivial) ⟨_, rfl⟩ hrow
      · exact Option.some.inj h ▸ .moves hcall (callMove_ended id trivial)
    · cases h
  | throws call =>
    simp only [claimedOperations, throws] at h
    split at h
    · next hcall => exact Option.some.inj h ▸ .moves hcall (callMove_ended id trivial)
    · cases h
  | handles call =>
    simp only [claimedOperations, handles] at h
    split at h
    · next hcall =>
      rw [← Option.some.inj h]
      exact .moves hcall callMove_handled
    · cases h
  | releases call outcome =>
    simp only [claimedOperations, releases] at h
    split at h
    · next operation inFlight left hcall =>
      split at h
      · exact Option.some.inj h ▸ .moves hcall (callMove_ended id trivial)
      · next hclear =>
        rw [Bool.or_eq_true, not_or, Bool.not_eq_true] at hclear
        have hmove : CallMove ⟨operation, inFlight, left, .releasing⟩
            ⟨operation, inFlight, left, .ended⟩ := callMove_ended id trivial
        rw [← Option.some.inj h]
        exact .releases hcall rfl hclear.1 hmove
    · cases h
  | returns call =>
    simp only [claimedOperations, returns] at h
    split at h
    · next hcall => exact Option.some.inj h ▸ .moves hcall (callMove_ended id trivial)
    · cases h
  | leftEnds call =>
    simp only [claimedOperations, leftEnds] at h
    split at h
    · next operation inFlight left stage hcall =>
      refine Option.some.inj h ▸ .moves hcall ⟨rfl, id, fun hsound => ?_⟩
      exact ⟨fun _ => hsound.left (Nat.succ_pos _), hsound.early, hsound.keepsRow⟩
    · cases h

/-! ## What the statements leave of the claims -/

/-- The row has the claim. -/
def HasClaim (row : InstanceRow) (call : Nat) : Prop :=
  row.configClaimId = some call ∨ row.authClaimId = some call

lemma claim_eq_some {operation : ClaimedOperation} {call : Nat} {managerNow databaseNow : Int}
    {row claimed : InstanceRow}
    (h : claim operation call managerNow databaseNow row = some claimed) :
    row.configFree databaseNow = true ∧
      (operation.takesAuth = true ∧ row.authFree managerNow = true ∧
          claimed.configClaimId = none ∧ claimed.authClaimId = some call ∨
        claimed.configClaimId = some call ∧ claimed.authClaimId = row.authClaimId ∧
          (operation ≠ .save → row.authFree managerNow = true)) := by
  unfold claim at h
  split at h
  · rw [InstanceRow.claimForConfig, Option.ite_none_right_eq_some] at h
    rw [← Option.some.inj h.2]
    exact ⟨h.1, Or.inr ⟨rfl, rfl, fun hsave => absurd rfl hsave⟩⟩
  · rw [InstanceRow.claimForAuth, Option.ite_none_right_eq_some, Bool.and_eq_true] at h
    rw [← Option.some.inj h.2]
    exact ⟨h.1.2, Or.inl ⟨rfl, h.1.1, rfl, rfl⟩⟩
  · cases h
  · rw [InstanceRow.claimForLifecycle, Option.ite_none_right_eq_some, Bool.and_eq_true] at h
    rw [← Option.some.inj h.2]
    exact ⟨h.1.1, Or.inr ⟨rfl, rfl, fun _ => h.1.2⟩⟩

/-- A claim that a claim statement had to find free, and found held, is over. -/
lemma leaseOver_of_foundOver {operation : ClaimedOperation} {call other : Nat}
    {managerNow databaseNow : Int} {row claimed : InstanceRow} (hrow : s.row = some row)
    (h : claim operation call managerNow databaseNow row = some claimed)
    (hfound : foundOver operation row other = true) :
    s.LeaseOver other managerNow databaseNow := by
  obtain ⟨hconfig, hauth⟩ := claim_eq_some h
  rw [foundOver, Bool.or_eq_true, Bool.and_eq_true, beq_iff_eq, beq_iff_eq, bne_iff_ne] at hfound
  rcases hfound with hheld | ⟨hsave, hheld⟩
  · rw [InstanceRow.configFree, claimFree, hheld, Option.isNone_some, Bool.false_or,
      Option.any_eq_true] at hconfig
    obtain ⟨claimedAt, hat, hover⟩ := hconfig
    exact ⟨row, claimedAt, hrow, Or.inl ⟨hheld, hat, of_decide_eq_true hover⟩⟩
  · have hfree : row.authFree managerNow = true := by
      rcases hauth with ⟨-, hfree, -⟩ | ⟨-, -, hfree⟩
      · exact hfree
      · exact hfree hsave
    rw [InstanceRow.authFree, claimFree, hheld, Option.isNone_some, Bool.false_or,
      Option.any_eq_true] at hfree
    obtain ⟨claimedAt, hat, hover⟩ := hfree
    exact ⟨row, claimedAt, hrow, Or.inr ⟨hheld, hat, of_decide_eq_true hover⟩⟩

/-- A claim that a claim statement takes over was one it had to find free. -/
lemma foundOver_of_not_hasClaim {operation : ClaimedOperation} {call other : Nat}
    {managerNow databaseNow : Int} {row claimed : InstanceRow}
    (h : claim operation call managerNow databaseNow row = some claimed)
    (hheld : HasClaim row other) (hgone : ¬HasClaim claimed other) :
    foundOver operation row other = true := by
  rw [foundOver, Bool.or_eq_true, Bool.and_eq_true, beq_iff_eq, beq_iff_eq, bne_iff_ne]
  rcases hheld with hconfig | hauth
  · exact Or.inl hconfig
  · refine Or.inr ⟨fun hsave => ?_, hauth⟩
    obtain ⟨-, ⟨htakes, -⟩ | ⟨-, hsame, -⟩⟩ := claim_eq_some h
    · rw [hsave] at htakes
      exact absurd htakes (by simp [ClaimedOperation.takesAuth])
    · exact hgone (Or.inr (hsame.trans hauth))

/-- A claim is left as it was, unless it was the one given back. -/
def ReleasesOnly (call : Nat) (claimId claimId' : Option Nat) : Prop :=
  claimId' = claimId ∨ claimId = some call ∧ claimId' = none

lemma ReleasesOnly.held_before {call other : Nat} {claimId claimId' : Option Nat}
    (h : ReleasesOnly call claimId claimId') (hheld : claimId' = some other) :
    claimId' = claimId ∧ claimId = some other := by
  rcases h with hsame | ⟨-, hnone⟩
  · exact ⟨hsame, hsame.symm.trans hheld⟩
  · exact absurd (hnone.symm.trans hheld) (by simp)

lemma ReleasesOnly.still_held {call other : Nat} {claimId claimId' : Option Nat}
    (h : ReleasesOnly call claimId claimId') (hother : call ≠ other)
    (hheld : claimId = some other) : claimId' = some other := by
  rcases h with hsame | ⟨hown, -⟩
  · exact hsame.trans hheld
  · exact absurd (Option.some.inj (hown.symm.trans hheld)) hother

/-- A write under a claim leaves the sign-in claim, and the configuration claim but for its own. -/
structure WriteKeeps (call : Nat) (row row' : InstanceRow) : Prop where
  auth : row'.authClaimId = row.authClaimId
  config : ReleasesOnly call row.configClaimId row'.configClaimId

lemma apply_eq_some {write : StoreWrite} {call : Nat} {databaseNow : Int}
    {before : Option InstanceRow} {row' : InstanceRow}
    (h : write.apply call databaseNow before = some (some row')) :
    ∃ row, before = some row ∧ WriteKeeps call row row' := by
  cases before with
  | none => cases write <;> simp [StoreWrite.apply] at h
  | some row =>
    refine ⟨row, rfl, ?_⟩
    cases write with
    | token sealedToken =>
      simp only [StoreWrite.apply, Option.map_eq_some_iff, Option.some.injEq, exists_eq_right,
        InstanceRow.writeTokenUnderClaim, Option.ite_none_right_eq_some] at h
      rw [← h.2]
      exact ⟨rfl, Or.inl rfl⟩
    | finalize status lastExitCode =>
      simp only [StoreWrite.apply, Option.map_eq_some_iff, Option.some.injEq, exists_eq_right,
        InstanceRow.finalizeConfigClaim, Option.ite_none_right_eq_some] at h
      rw [← h.2]
      exact ⟨rfl, Or.inr ⟨h.1, rfl⟩⟩
    | delete =>
      simp only [StoreWrite.apply, Option.ite_none_right_eq_some] at h
      exact absurd h.2 (by simp)
    | needsAuth =>
      simp only [StoreWrite.apply, Option.map_some, Option.some.injEq] at h
      rw [← h]
      exact ⟨rfl, Or.inl rfl⟩

/-- Only a deletion by the holder of the configuration claim leaves no row. -/
lemma apply_eq_none {write : StoreWrite} {call : Nat} {databaseNow : Int} {row : InstanceRow}
    (h : write.apply call databaseNow (some row) = some none) :
    write = .delete ∧ row.configClaimId = some call := by
  cases write with
  | delete =>
    simp only [StoreWrite.apply, Option.ite_none_right_eq_some] at h
    exact ⟨rfl, h.1⟩
  | _ => simp [StoreWrite.apply] at h

lemma releaseClaim_keeps (operation : ClaimedOperation) (call : Nat) (row : InstanceRow) :
    ReleasesOnly call row.authClaimId (releaseClaim operation call row).authClaimId ∧
      ReleasesOnly call row.configClaimId (releaseClaim operation call row).configClaimId := by
  rw [releaseClaim, InstanceRow.orUnchanged]
  split
  · by_cases hheld : row.authClaimId = some call
    · rw [InstanceRow.releaseAuthClaim, if_pos hheld]
      exact ⟨Or.inr ⟨hheld, rfl⟩, Or.inl rfl⟩
    · rw [InstanceRow.releaseAuthClaim, if_neg hheld]
      exact ⟨Or.inl rfl, Or.inl rfl⟩
  · by_cases hheld : row.configClaimId = some call
    · rw [InstanceRow.releaseConfigClaim, if_pos hheld]
      exact ⟨Or.inl rfl, Or.inr ⟨hheld, rfl⟩⟩
    · rw [InstanceRow.releaseConfigClaim, if_neg hheld]
      exact ⟨Or.inl rfl, Or.inl rfl⟩

/-! ## Invariants -/

/-- Every call is sound. -/
def CallsSound (s : ClaimState) : Prop :=
  ∀ call operation, s.calls call = some operation → operation.Sound

/-- Who holds a claim has asked for it. -/
def HoldersAsked (s : ClaimState) : Prop :=
  ∀ call, s.Holds call → ∃ operation, s.calls call = some operation ∧ operation.stage ≠ .asked

/-- A sign-in claim beside the configuration claim of another operation than a save is over. -/
def SignInOver (s : ClaimState) : Prop :=
  ∀ row call operation other, s.row = some row → row.configClaimId = some call →
    s.calls call = some operation → operation.operation ≠ .save →
    row.authClaimId = some other → s.overdue other = true

/-- An event sets the call it belongs to, and no other. -/
lemma calls_of_move (h : ClaimMove s e t) :
    ∃ after, t.calls = Function.update s.calls e.call (some after) ∧
      ((s.calls e.call = none ∧ ∃ operation, after = ⟨operation, false, 0, .asked⟩) ∨
        ∃ before, s.calls e.call = some before ∧ CallMove before after) := by
  cases h with
  | asks hnone => exact ⟨_, rfl, Or.inl ⟨hnone, _, rfl⟩⟩
  | moves hcall hmove => exact ⟨_, rfl, Or.inr ⟨_, hcall, hmove⟩⟩
  | creates hcall hmove => exact ⟨_, rfl, Or.inr ⟨_, hcall, hmove⟩⟩
  | takes hcall hasked hmove => exact ⟨_, rfl, Or.inr ⟨_, hcall, hmove⟩⟩
  | stores hcall hstage hmove => exact ⟨_, rfl, Or.inr ⟨_, hcall, hmove⟩⟩
  | releases hcall hstage hclear hmove => exact ⟨_, rfl, Or.inr ⟨_, hcall, hmove⟩⟩

lemma callsSound_step (hsound : s.CallsSound) (h : ClaimMove s e t) : t.CallsSound := by
  intro call operation hoperation
  obtain ⟨after, hcalls, hcall⟩ := calls_of_move h
  rw [hcalls] at hoperation
  by_cases hown : call = e.call
  · rw [hown, Function.update_self, Option.some.injEq] at hoperation
    rw [← hoperation]
    rcases hcall with ⟨-, asked, rfl⟩ | ⟨before, hbefore, hmove⟩
    · exact ⟨fun hleft => absurd hleft (Nat.lt_irrefl 0), fun _ => rfl, fun _ => trivial⟩
    · exact hmove.sound (hsound _ _ hbefore)
  · rw [Function.update_of_ne hown] at hoperation
    exact hsound call operation hoperation

/-- A call goes on with its operation, and goes on having asked. -/
lemma call_step (h : ClaimMove s e t) {call : Nat} {before : OperationCall}
    (hbefore : s.calls call = some before) :
    ∃ after, t.calls call = some after ∧ after.operation = before.operation ∧
      (before.stage ≠ .asked → after.stage ≠ .asked) := by
  obtain ⟨after, hcalls, hcall⟩ := calls_of_move h
  by_cases hown : call = e.call
  · refine ⟨after, by rw [hcalls, hown, Function.update_self], ?_⟩
    rw [hown] at hbefore
    rcases hcall with ⟨hnone, -⟩ | ⟨before', hbefore', hmove⟩
    · exact absurd (hnone.symm.trans hbefore) (by simp)
    · rw [hbefore, Option.some.injEq] at hbefore'
      rw [hbefore']
      exact ⟨hmove.operation, hmove.asked⟩
  · exact ⟨before, by rw [hcalls, Function.update_of_ne hown, hbefore], rfl, id⟩

/-- Who holds a claim after an event held it before, or has taken it just now. -/
lemma holds_of_move (h : ClaimMove s e t) {call : Nat} (hholds : t.Holds call) :
    s.Holds call ∨ call = e.call ∧
      ∃ after, t.calls call = some after ∧ after.stage ≠ .asked := by
  obtain ⟨row, hrow, hheld⟩ := hholds
  cases h with
  | asks hnone => exact Or.inl ⟨row, hrow, hheld⟩
  | moves hcall hmove => exact Or.inl ⟨row, hrow, hheld⟩
  | @creates _ _ after created hcall hmove hasked hnone hauth hconfig =>
    cases Option.some.inj hrow
    rw [hauth, hconfig] at hheld
    rcases hheld with hown | hown
    · rw [← Option.some.inj hown]
      exact Or.inr ⟨rfl, after, Function.update_self .., hasked⟩
    · exact absurd hown (by simp)
  | @takes _ _ after before claimed _ _ hcall hstage hmove hasked hbefore _ hclaim =>
    cases Option.some.inj hrow
    by_cases hown : call = e.call
    · rw [hown]
      exact Or.inr ⟨rfl, after, Function.update_self .., hasked⟩
    · refine Or.inl ⟨before, hbefore, ?_⟩
      obtain ⟨-, ⟨-, -, hconfig, hauth⟩ | ⟨hconfig, hauth, -⟩⟩ := claim_eq_some hclaim
      · rw [hconfig, hauth] at hheld
        rcases hheld with hother | hother
        · exact absurd hother (by simp)
        · exact absurd (Option.some.inj hother).symm hown
      · rw [hconfig, hauth] at hheld
        rcases hheld with hother | hother
        · exact absurd (Option.some.inj hother).symm hown
        · exact Or.inr hother
  | stores hcall hstage hmove hevent happly =>
    obtain ⟨before, hbefore, hauth, hconfig⟩ := apply_eq_some (happly.trans (congrArg some hrow))
    refine Or.inl ⟨before, hbefore, ?_⟩
    rw [hauth] at hheld
    exact hheld.imp_left fun hown => (hconfig.held_before hown).2
  | @releases _ before _ hcall hstage hclear hmove =>
    obtain ⟨old, hold, rfl⟩ := Option.map_eq_some_iff.mp hrow
    refine Or.inl ⟨old, hold, ?_⟩
    obtain ⟨hauth, hconfig⟩ := releaseClaim_keeps before.operation e.call old
    exact hheld.imp (fun hown => (hconfig.held_before hown).2) fun hown =>
      (hauth.held_before hown).2

lemma holdersAsked_step (hasked : s.HoldersAsked) (h : ClaimMove s e t) : t.HoldersAsked := by
  intro call hholds
  rcases holds_of_move h hholds with hbefore | ⟨-, hafter⟩
  · obtain ⟨operation, hoperation, hstage⟩ := hasked call hbefore
    obtain ⟨after, hafter, -, hkeeps⟩ := call_step h hoperation
    exact ⟨after, hafter, hkeeps hstage⟩
  · exact hafter

lemma overdue_mono (h : ClaimMove s e t) {call : Nat} (hover : s.overdue call = true) :
    t.overdue call = true := by
  cases h with
  | takes =>
    rw [Bool.or_eq_true]
    exact Or.inl hover
  | _ => exact hover

/-- Claims come to be over only where a claim statement finds their lease over. -/
lemma leaseOver_of_overdue (h : ClaimMove s e t) {call : Nat} (hover : t.overdue call = true)
    (hbefore : ¬s.overdue call = true) :
    ∃ managerNow databaseNow usable sealedToken document outcome,
      e = .takes e.call managerNow databaseNow usable sealedToken document outcome ∧
        s.LeaseOver call managerNow databaseNow := by
  cases h with
  | takes hcall hstage hmove hasked hrow hevent hclaim =>
    obtain ⟨usable, sealedToken, document, outcome, heq⟩ := hevent
    rw [Bool.or_eq_true] at hover
    have hlease := leaseOver_of_foundOver hrow hclaim (hover.resolve_left hbefore)
    exact ⟨_, _, usable, sealedToken, document, outcome, heq, hlease⟩
  | _ => exact absurd hover hbefore

/-- A row keeps what is over while its claims stay as they were. -/
lemma signInOver_of_same (hover : s.SignInOver) (hasked : s.HoldersAsked) (h : ClaimMove s e t)
    {before row : InstanceRow} (hbefore : s.row = some before)
    (hconfig : row.configClaimId = before.configClaimId)
    (hauth : row.authClaimId = before.authClaimId) {call other : Nat} {operation : OperationCall}
    (hholds : row.configClaimId = some call) (hcall : t.calls call = some operation)
    (hsave : operation.operation ≠ .save) (hother : row.authClaimId = some other) :
    t.overdue other = true := by
  rw [hconfig] at hholds
  rw [hauth] at hother
  obtain ⟨old, hold, -⟩ := hasked call ⟨before, hbefore, Or.inl hholds⟩
  obtain ⟨after, hafter, hsame, -⟩ := call_step h hold
  rw [hcall, Option.some.injEq] at hafter
  rw [hafter, hsame] at hsave
  exact overdue_mono h (hover before call old other hbefore hholds hold hsave hother)

lemma signInOver_step (hover : s.SignInOver) (hasked : s.HoldersAsked) (h : ClaimMove s e t) :
    t.SignInOver := by
  intro row call operation other hrow hholds hcall hsave hother
  have hkeeps : ∀ before, s.row = some before → row.configClaimId = before.configClaimId →
      row.authClaimId = before.authClaimId → t.overdue other = true :=
    fun before hbefore hconfig hauth =>
      signInOver_of_same hover hasked h hbefore hconfig hauth hholds hcall hsave hother
  cases h with
  | asks hnone => exact hkeeps row hrow rfl rfl
  | moves hbefore hmove => exact hkeeps row hrow rfl rfl
  | creates hbefore hmove hstage hnone hauth hconfig =>
    cases Option.some.inj hrow
    exact absurd (hauth.symm.trans hother) (by simp)
  | @takes _ before after old claimed _ _ hbefore hstage hmove hne hold _ hclaim =>
    cases Option.some.inj hrow
    obtain ⟨-, ⟨-, -, hnone, -⟩ | ⟨hconfig, hauth, -⟩⟩ := claim_eq_some hclaim
    · exact absurd (hnone.symm.trans hholds) (by simp)
    · have hown : call = e.call := Option.some.inj (hholds.symm.trans hconfig)
      have hafter : operation = after := by
        rw [hown] at hcall
        exact Option.some.inj (hcall.symm.trans (Function.update_self ..))
      rw [hafter, hmove.operation] at hsave
      rw [Bool.or_eq_true, foundOver, Bool.or_eq_true, Bool.and_eq_true, beq_iff_eq, beq_iff_eq,
        bne_iff_ne]
      exact Or.inr (Or.inr ⟨hsave, hauth.symm.trans hother⟩)
  | stores hbefore hstage hmove hevent happly =>
    obtain ⟨before, hold, hauth, hconfig⟩ := apply_eq_some (happly.trans (congrArg some hrow))
    exact hkeeps before hold (hconfig.held_before hholds).1 hauth
  | @releases _ before _ hbefore hstage hclear hmove =>
    obtain ⟨old, hold, rfl⟩ := Option.map_eq_some_iff.mp hrow
    obtain ⟨hauth, hconfig⟩ := releaseClaim_keeps before.operation e.call old
    exact hkeeps old hold (hconfig.held_before hholds).1 (hauth.held_before hother).1

/-- What holds of every state. -/
structure Kept (s : ClaimState) : Prop where
  sound : s.CallsSound
  asked : s.HoldersAsked
  signIn : s.SignInOver

lemma kept_of_init (h : (claimedOperations hasChallenge).init s) : s.Kept where
  sound call operation hcall := absurd ((h.2.1 call).symm.trans hcall) (by simp)
  asked call hholds := by
    obtain ⟨row, hrow, hheld⟩ := hholds
    rw [(h.1 row hrow).1, (h.1 row hrow).2] at hheld
    exact absurd hheld (by simp)
  signIn row call operation other hrow hholds :=
    absurd ((h.1 row hrow).1.symm.trans hholds) (by simp)

lemma kept_step (hkept : s.Kept) (h : (claimedOperations hasChallenge).step s e = some t) :
    t.Kept where
  sound := callsSound_step hkept.sound (move_of_step h)
  asked := holdersAsked_step hkept.asked (move_of_step h)
  signIn := signInOver_step hkept.signIn hkept.asked (move_of_step h)

lemma kept_of_reachable (h : (claimedOperations hasChallenge).Reachable free s) : s.Kept :=
  h.invariant (fun _ hinit => kept_of_init hinit) fun _ _ _ hkept _ hstep => kept_step hkept hstep

/-! ## How a claim goes -/

/-- A call that is running its program, or gives its claim back with a clear `ExecFlight`, has no
command at the host. -/
lemma not_mayRun {call : Nat} {operation : OperationCall} (hkept : s.Kept)
    (hcall : s.calls call = some operation) (hclear : operation.inFlight = false)
    (hawaits : ∀ next, operation.stage ≠ .awaiting next) (hcleans : operation.stage ≠ .cleaning) :
    ¬s.MayRun call := by
  rintro ⟨other, hother, hruns⟩
  rw [hcall, Option.some.injEq] at hother
  rw [← hother] at hruns
  rcases hruns with hleft | ⟨next, hnext⟩ | hclean
  · have hflight := (hkept.sound call operation hcall).left hleft
    exact absurd (hclear.symm.trans hflight) (by simp)
  · exact hawaits next hnext
  · exact hcleans hclean

/-- A claim goes with a statement of its own operation when none of its commands may be running,
or with one of another operation, which is no release, when its lease has been found to be over. -/
lemma gone_of_move (hkept : s.Kept) (h : ClaimMove s e t) {call : Nat} (hholds : s.Holds call)
    (hgone : ¬t.Holds call) :
    e.call = call ∧ ¬s.MayRun call ∨
      e.call ≠ call ∧ t.overdue call = true ∧ ∀ outcome, e ≠ .releases e.call outcome := by
  obtain ⟨row, hrow, hheld⟩ := hholds
  cases h with
  | asks => exact absurd ⟨row, hrow, hheld⟩ hgone
  | moves => exact absurd ⟨row, hrow, hheld⟩ hgone
  | creates hcall hmove hstage hnone => exact absurd (hnone.symm.trans hrow) (by simp)
  | @takes _ before after old claimed managerNow databaseNow hcall hstage hmove hne hbefore hevent
      hclaim =>
    have hsame : old = row := Option.some.inj (hbefore.symm.trans hrow)
    rw [hsame] at hclaim
    have hother : e.call ≠ call := by
      intro hown
      obtain ⟨operation, hoperation, hasked⟩ := hkept.asked call ⟨row, hrow, hheld⟩
      rw [← hown, hcall, Option.some.injEq] at hoperation
      exact hasked (by rw [← hoperation, hstage])
    have hfound := foundOver_of_not_hasClaim hclaim hheld fun hstill =>
      hgone ⟨claimed, rfl, hstill⟩
    obtain ⟨usable, sealedToken, document, outcome, heq⟩ := hevent
    refine Or.inr ⟨hother, ?_, fun outcome => by rw [heq]; simp⟩
    rw [Bool.or_eq_true, hsame]
    exact Or.inr hfound
  | @stores _ before after connected write next databaseNow left hcall hstage hmove
      hevent happly =>
    have hclear : before.inFlight = false := by
      refine (hkept.sound _ before hcall).early ?_
      rw [hstage]
      trivial
    by_cases hown : e.call = call
    · rw [hown] at hcall
      refine Or.inl ⟨hown, not_mayRun hkept hcall hclear (fun _ => ?_) ?_⟩
      · rw [hstage]
        simp
      · rw [hstage]
        simp
    · rw [hrow] at happly
      cases left with
      | none =>
        obtain ⟨hdelete, hconfig⟩ := apply_eq_none happly
        have hauth : row.authClaimId = some call :=
          hheld.resolve_left fun hheld => hown (Option.some.inj (hconfig.symm.trans hheld))
        have hsave : before.operation ≠ .save := by
          intro hsave
          have hnever := (hkept.sound _ before hcall).keepsRow hsave
          rw [hstage, hdelete] at hnever
          exact hnever.1 rfl
        have hover := hkept.signIn row e.call before call hrow hconfig hcall hsave hauth
        obtain ⟨outcome, heq⟩ := hevent
        exact Or.inr ⟨hown, hover, fun outcome => by rw [heq]; simp⟩
      | some row' =>
        obtain ⟨old, hold, hauth, hconfig⟩ := apply_eq_some happly
        rw [← Option.some.inj hold] at hauth hconfig
        refine absurd ⟨row', rfl, ?_⟩ hgone
        rw [hauth]
        exact hheld.imp_left fun hheld => hconfig.still_held hown hheld
  | @releases _ before after hcall hstage hclear hmove =>
    by_cases hown : e.call = call
    · rw [hown] at hcall
      refine Or.inl ⟨hown, not_mayRun hkept hcall hclear (fun _ => ?_) ?_⟩
      · rw [hstage]
        simp
      · rw [hstage]
        simp
    · obtain ⟨hauth, hconfig⟩ := releaseClaim_keeps before.operation e.call row
      refine absurd ⟨releaseClaim before.operation e.call row, ?_, ?_⟩ hgone
      · exact Option.map_eq_some_iff.mpr ⟨row, hrow, rfl⟩
      · exact hheld.imp (fun hheld => hconfig.still_held hown hheld) fun hheld =>
          hauth.still_held hown hheld

end ClaimState

open ClaimState

variable {hasChallenge : Text → Bool} {s t : ClaimState} {e : ClaimEvent}

/-- **A claim is kept while a command may run.**  Where an operation has its claim before a step
and not after it, either the step is its own and no command it issued may be running, or the step
is that of another operation, which does not release, and the lease of the claim has been found to
be over; and it is found to be over only by a claim statement, at an instant when it is. -/
theorem claims_kept_while_running
    (hreach : (claimedOperations hasChallenge).Reachable free s)
    (hstep : (claimedOperations hasChallenge).step s e = some t) (call : Nat) :
    (s.Holds call → ¬t.Holds call →
      e.call = call ∧ ¬s.MayRun call ∨
        e.call ≠ call ∧ t.overdue call = true ∧ ∀ outcome, e ≠ .releases e.call outcome) ∧
      (t.overdue call = true → ¬s.overdue call = true →
        ∃ managerNow databaseNow usable sealedToken document outcome,
          e = .takes e.call managerNow databaseNow usable sealedToken document outcome ∧
            s.LeaseOver call managerNow databaseNow) := by
  have hmove := move_of_step hstep
  constructor
  · intro hholds hgone
    exact gone_of_move (kept_of_reachable hreach) hmove hholds hgone
  · intro hover hbefore
    exact leaseOver_of_overdue hmove hover hbefore

/-- A stopped bot that nobody holds a claim on. -/
def unclaimedBot : ClaimState where
  row := some
    { status := .stopped
      lastExitCode := none
      liveControlPort := 25580
      liveControlToken := none
      authClaimId := none
      authClaimedAt := none
      configClaimId := none
      configClaimedAt := none }
  calls _ := none
  overdue _ := false

/-- A start loses its connection during its first command, and keeps its claim; a stop is asked
for. -/
def startLeftRunning : List ClaimEvent :=
  [.asks 1 .start, .takes 1 0 0 true [] false .answers, .connects 1 true, .issues 1,
    .execThrows 1, .handles 1, .releases 1 .answers, .asks 2 .stop]

/-- The stop takes the claim over once its lease is over, while the command of the start may still
be running. -/
theorem claims_kept_while_running_takenOver :
    ∃ s t, (claimedOperations fun _ => false).exec unclaimedBot startLeftRunning = some s ∧
      (claimedOperations fun _ => false).step s (.takes 2 180001 180001 true [] false .answers) =
        some t ∧
      s.Holds 1 ∧ s.MayRun 1 ∧ ¬t.Holds 1 ∧ t.overdue 1 = true := by
  obtain ⟨s, t, hrun, hstep, hholds, hruns, hgone⟩ :
      ∃ s t, (claimedOperations fun _ => false).exec unclaimedBot startLeftRunning = some s ∧
        (claimedOperations fun _ => false).step s (.takes 2 180001 180001 true [] false .answers) =
          some t ∧ s.Holds 1 ∧ s.MayRun 1 ∧ ¬t.Holds 1 := by
    refine ⟨_, _, rfl, rfl, ⟨_, rfl, Or.inl rfl⟩, ⟨_, rfl, Or.inl (by decide)⟩, ?_⟩
    rintro ⟨row, hrow, hheld⟩
    rw [← Option.some.inj hrow] at hheld
    exact absurd hheld (by decide)
  have hinit : (claimedOperations fun _ => false).init unclaimedBot := by
    refine ⟨fun row hrow => ?_, fun _ => rfl, fun _ => rfl⟩
    rw [← Option.some.inj hrow]
    exact ⟨rfl, rfl⟩
  have hkeeps := claims_kept_while_running (.of_exec hinit hrun) hstep 1
  rcases hkeeps.1 hholds hgone with ⟨hown, -⟩ | ⟨-, hover, -⟩
  · exact absurd hown (by decide)
  · exact ⟨s, t, hrun, hstep, hholds, hruns, hgone, hover⟩

end OpenMcc

import OpenMcc.Construction.TaskRun

/-!
# What is recorded of a task's run

The sending loop counts the commands it has written, and throws the count with the step that
failed.  Whatever fails after the last step is caught with no count, and so the run is recorded as
failed with no step sent, although every one was (`unaudited_run_is_misrecorded`).

`TaskRunWorld.Keeps` says of a run's answers that nothing fails between the last step and the last
write of its row, and that no step is written whose answer is lost.  It is what a truthful record
takes (`recorded_truly_iff`).
-/

namespace OpenMcc

/-! ## The sending loop -/

/-- What the loop comes to from a step on: every step is written, or the first that fails ends
it. -/
inductive Sending (sends : Nat → WriteReply) (total first : Nat)
    (steps : List InstanceTaskStepRow) : List Text × Except TaskRunError Nat → Prop
  | all (written : ∀ i, i < steps.length → sends (first + i) = .written) :
      Sending sends total first steps
        (steps.map InstanceTaskStepRow.command, .ok (first + steps.length))
  | stopped {i written : Nat} {failure : RunFailure} (bound : i < steps.length)
      (before : ∀ j, j < i → sends (first + j) = .written)
      (failed : (sends (first + i)).failed = some failure)
      (count : written = if (sends (first + i)).lands then i + 1 else i) :
      Sending sends total first steps ((steps.take written).map InstanceTaskStepRow.command,
        .error (.stepsFailed (stepFailedMessage (first + i) total failure) (first + i)))

lemma Sending.cons {sends : Nat → WriteReply} {total first : Nat} {step : InstanceTaskStepRow}
    {rest : List InstanceTaskStepRow} {result : List Text × Except TaskRunError Nat}
    (hstep : sends first = .written) (h : Sending sends total (first + 1) rest result) :
    Sending sends total first (step :: rest) (step.command :: result.1, result.2) := by
  have hshift : ∀ i, first + 1 + i = first + (i + 1) := by omega
  cases h with
  | all written =>
    have hall : Sending sends total first (step :: rest)
        ((step :: rest).map InstanceTaskStepRow.command, .ok (first + (step :: rest).length)) := by
      refine .all fun i hi => ?_
      cases i with
      | zero => exact hstep
      | succ i =>
        rw [← hshift]
        exact written i (by simpa using hi)
    rw [List.map_cons, List.length_cons, ← hshift] at hall
    exact hall
  | @stopped i written failure bound before failed count =>
    rw [hshift] at failed count
    have hstopped : Sending sends total first (step :: rest)
        (((step :: rest).take (written + 1)).map InstanceTaskStepRow.command,
          .error (.stepsFailed (stepFailedMessage (first + (i + 1)) total failure)
            (first + (i + 1)))) := by
      refine .stopped (by simpa using bound) (fun j hj => ?_) failed ?_
      · cases j with
        | zero => exact hstep
        | succ j =>
          rw [← hshift]
          exact before j (by omega)
      · rw [count]
        split
        · rfl
        · rfl
    rw [List.take_succ_cons, List.map_cons] at hstopped
    show Sending sends total first (step :: rest) (_, _)
    rw [hshift]
    exact hstopped

lemma sending_sendSteps (sends : Nat → WriteReply) (total : Nat) :
    ∀ (steps : List InstanceTaskStepRow) (first : Nat),
      Sending sends total first steps (sendSteps sends total first steps)
  | [], first => .all fun i hi => by simp at hi
  | step :: rest, first => by
    have hbound : 0 < (step :: rest).length := by simp
    cases hsend : sends first with
    | written =>
      rw [sendSteps, hsend]
      exact (sending_sendSteps sends total rest (first + 1)).cons hsend
    | refused failure =>
      have hstopped : Sending sends total first (step :: rest)
          (((step :: rest).take 0).map InstanceTaskStepRow.command,
            .error (.stepsFailed (stepFailedMessage (first + 0) total failure) (first + 0))) :=
        .stopped hbound (fun j hj => absurd hj (Nat.not_lt_zero j))
          (by rw [Nat.add_zero, hsend]; rfl) (by rw [Nat.add_zero, hsend]; rfl)
      rw [sendSteps, hsend]
      exact hstopped
    | unanswered failure =>
      have hstopped : Sending sends total first (step :: rest)
          (((step :: rest).take 1).map InstanceTaskStepRow.command,
            .error (.stepsFailed (stepFailedMessage (first + 0) total failure) (first + 0))) :=
        .stopped hbound (fun j hj => absurd hj (Nat.not_lt_zero j))
          (by rw [Nat.add_zero, hsend]; rfl) (by rw [Nat.add_zero, hsend]; rfl)
      rw [sendSteps, hsend]
      exact hstopped

/-- Sorting the steps a second time changes nothing. -/
lemma inOrder_orderedSteps (definition : TaskDefinition) :
    inOrder (orderedSteps definition) = orderedSteps definition := by
  refine List.mergeSort_of_pairwise (List.pairwise_mergeSort ?_ ?_ _)
  · intro a b c hab hbc
    rw [decide_eq_true_eq] at hab hbc ⊢
    omega
  · intro a b
    rw [Bool.or_eq_true, decide_eq_true_eq, decide_eq_true_eq]
    omega

/-! ## When the record is true -/

namespace TaskRunWorld

variable (world : TaskRunWorld)

/-- The bot is read as running, and its host is connected. -/
def Reaches : Prop := world.bot = .ok (some .running) ∧ world.connects = none

/-- What a truthful record of a run of this many steps takes. -/
inductive Keeps (steps : Nat) : Prop
  /-- Nothing was sent. -/
  | unreached (h : ¬ world.Reaches)
  /-- A step failed and was not written, and this is stored, or it was the first step. -/
  | stopped (k : Nat) (bound : k < steps) (before : ∀ i, i < k → world.sends i = .written)
      (failed : ∃ failure, world.sends k = .refused failure)
      (recorded : k = 0 ∨ world.finishesFailed.lands = true)
  /-- Every step was written and the audit entry too, and the row was stored as sent.  Nothing
  failed after it, or the row was not stored again. -/
  | sent (written : ∀ i, i < steps → world.sends i = .written) (audited : world.audits = .written)
      (stored : world.finishesSent.lands = true)
      (kept : (world.finishesSent = .written ∧ world.records = .written) ∨
        world.finishesFailed.lands = false)

end TaskRunWorld

section Recorded

variable {world : TaskRunWorld} {definition : TaskDefinition}

lemma WriteReply.eq_written {reply : WriteReply} (h : reply.failed = none) : reply = .written := by
  cases reply with
  | written => rfl
  | refused failure => cases h
  | unanswered failure => cases h

lemma runTask_of_unreached (definition : TaskDefinition) (h : ¬ world.Reaches) :
    ∃ failure, runTask world definition = ([], .error (.failure failure)) := by
  unfold runTask
  cases hbot : world.bot with
  | error failure => exact ⟨failure, rfl⟩
  | ok found =>
    cases found with
    | none => exact ⟨_, rfl⟩
    | some status =>
      by_cases hrunning : status = .running
      · cases hconnects : world.connects with
        | some failure => exact ⟨failure, if_neg (by simp [hrunning])⟩
        | none =>
          refine absurd ?_ h
          rw [hrunning] at hbot
          exact ⟨hbot, hconnects⟩
      · exact ⟨_, if_pos hrunning⟩

/-- What a run that reaches its host returns, from what the loop does. -/
lemma runTask_of_reaches (definition : TaskDefinition) (h : world.Reaches) : ∃ sending,
    Sending world.sends definition.steps.length 0 (orderedSteps definition) sending ∧
    runTask world definition = auditRun world sending := by
  obtain ⟨hbot, hconnects⟩ := h
  have hlength : (orderedSteps definition).length = definition.steps.length :=
    List.length_mergeSort _
  have hsending : sendStepsInOrder world.sends (orderedSteps definition) =
      sendSteps world.sends definition.steps.length 0 (orderedSteps definition) := by
    unfold sendStepsInOrder
    rw [inOrder_orderedSteps, ← hlength]
  refine ⟨_, sending_sendSteps _ _ _ _, ?_⟩
  rw [← hsending]
  unfold runTask
  rw [hbot]
  simp only [ne_eq, not_true_eq_false, if_false, hconnects]

/-- A run whose steps are all written goes on to its audit entry. -/
lemma runTask_of_all (world : TaskRunWorld) (definition : TaskDefinition) (h : world.Reaches)
    (hall : ∀ i, i < definition.steps.length → world.sends i = .written) :
    runTask world definition = auditRun world
      ((orderedSteps definition).map InstanceTaskStepRow.command,
        .ok definition.steps.length) := by
  obtain ⟨sending, hsending, hrun⟩ := runTask_of_reaches definition h
  have hlength : (orderedSteps definition).length = definition.steps.length :=
    List.length_mergeSort _
  cases hsending with
  | all written =>
    rw [Nat.zero_add, hlength] at hrun
    exact hrun
  | @stopped i written failure bound before failed count =>
    rw [Nat.zero_add, hall i (by omega)] at failed
    cases failed

/-- A row that is recorded with a count that is not that of the commands is not true. -/
lemma not_recorded {written : List Text} {row : TaskRunRow} (h : row.stepsSent ≠ written.length) :
    ¬ RecordsWhatHappened definition written row :=
  fun hrecorded => h hrecorded.count

/-- A row of a run that has not written every step is true where its count is, unless it says
sent. -/
lemma recorded_of_unfinished {written : List Text} {row : TaskRunRow}
    (hwritten : written.length < definition.steps.length) (houtcome : row.outcome ≠ .sent) :
    RecordsWhatHappened definition written row ↔ row.stepsSent = written.length := by
  refine ⟨RecordsWhatHappened.count, fun hcount => ⟨hcount, ?_⟩⟩
  refine ⟨fun hsent => absurd hsent houtcome, fun hall => ?_⟩
  have hlength : written.length = definition.steps.length := by
    rw [hall, List.length_map]
    exact List.length_mergeSort _
  omega

lemma failRun_eq (world : TaskRunWorld) (row : TaskRunRow) (error : TaskRunError) :
    (world.finishesFailed.lands = true ∧ failRun world row error =
        ⟨.failed, (failureOf error).2, some (failureOf error).1⟩) ∨
      (world.finishesFailed.lands = false ∧ failRun world row error = row) := by
  unfold failRun finishRun
  by_cases hlands : world.finishesFailed.lands = true
  · exact Or.inl ⟨hlands, if_pos hlands⟩
  · exact Or.inr ⟨by simpa using hlands, if_neg hlands⟩

/-- A run that sends nothing. -/
lemma recorded_of_unreached (hsteps : definition.steps ≠ []) (h : ¬ world.Reaches) :
    RecordsWhatHappened definition (carryOut world definition).1
      (carryOut world definition).2 := by
  obtain ⟨failure, hrun⟩ := runTask_of_unreached definition h
  have hcarried : carryOut world definition =
      ([], failRun world claimedRun (.failure failure)) := by
    unfold carryOut
    rw [hrun]
  have hsome : ([] : List Text).length < definition.steps.length :=
    List.length_pos_iff.mpr hsteps
  rw [hcarried]
  rcases failRun_eq world claimedRun (.failure failure) with ⟨-, hrow⟩ | ⟨-, hrow⟩
  · rw [hrow]
    exact (recorded_of_unfinished hsome (by simp)).mpr rfl
  · rw [hrow]
    exact (recorded_of_unfinished hsome (by simp [claimedRun])).mpr rfl

/-- A run that a step has stopped. -/
lemma recorded_of_stopped {i written : Nat} {message : Text} (hbound : i < definition.steps.length)
    (hcount : written = if (world.sends i).lands then i + 1 else i)
    (hrun : runTask world definition =
      (((orderedSteps definition).take written).map InstanceTaskStepRow.command,
        .error (.stepsFailed message i))) :
    RecordsWhatHappened definition (carryOut world definition).1 (carryOut world definition).2 ↔
      (world.sends i).lands = false ∧ (i = 0 ∨ world.finishesFailed.lands = true) := by
  have hcarried : carryOut world definition =
      (((orderedSteps definition).take written).map InstanceTaskStepRow.command,
        failRun world claimedRun (.stepsFailed message i)) := by
    unfold carryOut
    rw [hrun]
  have hlength : (orderedSteps definition).length = definition.steps.length :=
    List.length_mergeSort _
  have hwritten : (((orderedSteps definition).take written).map
      InstanceTaskStepRow.command).length = written := by
    rw [List.length_map, List.length_take, hlength]
    split at hcount
    · omega
    · omega
  rw [hcarried]
  by_cases hlands : (world.sends i).lands = true
  · -- the step was written, and the count leaves it out
    rw [if_pos hlands] at hcount
    simp only [hlands, Bool.true_eq_false, false_and, iff_false]
    rcases failRun_eq world claimedRun (.stepsFailed message i) with ⟨-, hrow⟩ | ⟨-, hrow⟩
    · rw [hrow]
      exact not_recorded (by rw [hwritten, hcount]; simp [failureOf])
    · rw [hrow]
      exact not_recorded (by rw [hwritten, hcount]; simp [claimedRun])
  · rw [if_neg hlands] at hcount
    rw [Bool.not_eq_true] at hlands
    have hsame : i = written := hcount.symm
    subst hsame
    simp only [hlands, true_and]
    rcases failRun_eq world claimedRun (.stepsFailed message i) with ⟨hstored, hrow⟩ | ⟨hlost, hrow⟩
    · rw [hrow, recorded_of_unfinished (by rw [hwritten]; exact hbound) (by simp), hwritten]
      simp [hstored, failureOf]
    · rw [hrow, recorded_of_unfinished (by rw [hwritten]; exact hbound) (by simp [claimedRun]),
        hwritten]
      simp [hlost, claimedRun, eq_comm]

/-- A run that has written every step. -/
lemma recorded_of_all (hsteps : definition.steps ≠ [])
    (hrun : runTask world definition = auditRun world
      ((orderedSteps definition).map InstanceTaskStepRow.command, .ok definition.steps.length)) :
    RecordsWhatHappened definition (carryOut world definition).1 (carryOut world definition).2 ↔
      world.audits = .written ∧ world.finishesSent.lands = true ∧
        ((world.finishesSent = .written ∧ world.records = .written) ∨
          world.finishesFailed.lands = false) := by
  have hsome : 0 < definition.steps.length := List.length_pos_iff.mpr hsteps
  have hwritten : ((orderedSteps definition).map InstanceTaskStepRow.command).length =
      definition.steps.length := by
    rw [List.length_map]
    exact List.length_mergeSort _
  -- a row that counts no step, and one that says sent
  have hnone : ∀ outcome error, ¬ RecordsWhatHappened definition
      ((orderedSteps definition).map InstanceTaskStepRow.command) ⟨outcome, 0, error⟩ :=
    fun outcome error => not_recorded (by rw [hwritten]; exact Nat.ne_of_lt hsome)
  have hsent : RecordsWhatHappened definition
      ((orderedSteps definition).map InstanceTaskStepRow.command)
      ⟨.sent, definition.steps.length, none⟩ :=
    ⟨hwritten.symm, iff_of_true rfl rfl⟩
  cases haudit : world.audits.failed with
  | some failure =>
    have hcarried : carryOut world definition =
        ((orderedSteps definition).map InstanceTaskStepRow.command,
          failRun world claimedRun (.failure failure)) := by
      unfold carryOut
      rw [hrun]
      unfold auditRun
      rw [haudit]
    have hunaudited : world.audits ≠ .written := by
      intro heq
      rw [heq] at haudit
      cases haudit
    rw [hcarried]
    refine iff_of_false ?_ fun h => hunaudited h.1
    rcases failRun_eq world claimedRun (.failure failure) with ⟨-, hrow⟩ | ⟨-, hrow⟩
    · rw [hrow]
      exact hnone _ _
    · rw [hrow]
      exact hnone _ _
  | none =>
    have haudited : runTask world definition =
        ((orderedSteps definition).map InstanceTaskStepRow.command,
          .ok definition.steps.length) := by
      rw [hrun]
      unfold auditRun
      rw [haudit]
    rw [iff_true_intro (WriteReply.eq_written haudit), true_and]
    cases hlate : world.finishesSent.failed.or world.records.failed with
    | none =>
      obtain ⟨hfinishes, hrecords⟩ := Option.or_eq_none_iff.mp hlate
      have hcarried : carryOut world definition =
          ((orderedSteps definition).map InstanceTaskStepRow.command,
            finishRun claimedRun world.finishesSent .sent definition.steps.length none) := by
        unfold carryOut
        rw [haudited]
        simp only [hlate]
      rw [hcarried, WriteReply.eq_written hfinishes, WriteReply.eq_written hrecords]
      simp only [WriteReply.lands, and_self, true_or, iff_true]
      exact hsent
    | some failure =>
      have hcarried : carryOut world definition =
          ((orderedSteps definition).map InstanceTaskStepRow.command,
            failRun world (finishRun claimedRun world.finishesSent .sent definition.steps.length
              none) (.failure failure)) := by
        unfold carryOut
        rw [haudited]
        simp only [hlate]
      have hfailed : ¬ (world.finishesSent = .written ∧ world.records = .written) := by
        rintro ⟨hfinishes, hrecords⟩
        rw [hfinishes, hrecords] at hlate
        cases hlate
      rw [hcarried]
      simp only [hfailed, false_or]
      rcases failRun_eq world (finishRun claimedRun world.finishesSent .sent
        definition.steps.length none) (.failure failure) with ⟨hstored, hrow⟩ | ⟨hlost, hrow⟩
      · rw [hrow]
        simp only [hstored, Bool.true_eq_false, and_false, iff_false]
        exact hnone _ _
      · rw [hrow]
        simp only [hlost, and_true]
        unfold finishRun
        by_cases hlands : world.finishesSent.lands = true
        · rw [if_pos hlands]
          exact iff_of_true hsent hlands
        · rw [if_neg hlands]
          exact iff_of_false (hnone _ _) hlands

end Recorded

/-- **When a run is recorded as it happened.**  What is stored of a run of a task that has steps
counts the commands that were written, and says sent where every step was, exactly where the answers
keep it. -/
theorem recorded_truly_iff (world : TaskRunWorld) (definition : TaskDefinition)
    (hsteps : definition.steps ≠ []) :
    RecordsWhatHappened definition (carryOut world definition).1 (carryOut world definition).2 ↔
      world.Keeps definition.steps.length := by
  by_cases hreaches : world.Reaches
  · obtain ⟨sending, hsending, hrun⟩ := runTask_of_reaches definition hreaches
    have hlength : (orderedSteps definition).length = definition.steps.length :=
      List.length_mergeSort _
    cases hsending with
    | all written =>
      have hwritten : ∀ i, i < definition.steps.length → world.sends i = .written := by
        intro i hi
        rw [← Nat.zero_add i]
        exact written i (by omega)
      rw [Nat.zero_add, hlength] at hrun
      rw [recorded_of_all hsteps hrun]
      constructor
      · rintro ⟨haudited, hstored, hkept⟩
        exact .sent hwritten haudited hstored hkept
      · intro hkeeps
        cases hkeeps with
        | unreached h => exact absurd hreaches h
        | stopped k bound before failed recorded =>
          obtain ⟨failure, hrefused⟩ := failed
          rw [hwritten k bound] at hrefused
          cases hrefused
        | sent _ audited stored kept => exact ⟨audited, stored, kept⟩
    | @stopped i written failure bound before failed count =>
      have hbound : i < definition.steps.length := by omega
      have hbefore : ∀ j, j < i → world.sends j = .written := by
        intro j hj
        rw [← Nat.zero_add j]
        exact before j hj
      rw [Nat.zero_add] at failed count
      rw [Nat.zero_add] at hrun
      have hstopped : runTask world definition =
          (((orderedSteps definition).take written).map InstanceTaskStepRow.command,
            .error (.stepsFailed (stepFailedMessage i definition.steps.length failure) i)) := hrun
      have hfirst : ∀ k, k < definition.steps.length → (∀ j, j < k → world.sends j = .written) →
          world.sends k ≠ .written → k = i := by
        intro k _ hall hk
        rcases Nat.lt_trichotomy k i with hless | hsame | hmore
        · exact absurd (hbefore k hless) hk
        · exact hsame
        · rw [hall i hmore] at failed
          cases failed
      rw [recorded_of_stopped hbound count hstopped]
      constructor
      · rintro ⟨hlands, hrecorded⟩
        refine .stopped i hbound hbefore ?_ hrecorded
        cases hsend : world.sends i with
        | written =>
          rw [hsend] at failed
          cases failed
        | refused failure => exact ⟨failure, rfl⟩
        | unanswered failure =>
          rw [hsend] at hlands
          cases hlands
      · intro hkeeps
        cases hkeeps with
        | unreached h => exact absurd hreaches h
        | stopped k bound before failed recorded =>
          obtain ⟨failure, hrefused⟩ := failed
          obtain rfl := hfirst k bound before (by rw [hrefused]; simp)
          refine ⟨?_, recorded⟩
          rw [hrefused]
          rfl
        | sent written _ _ _ =>
          rw [written i hbound] at failed
          cases failed
  · exact iff_of_true (recorded_of_unreached hsteps hreaches) (.unreached hreaches)

/-- A task of two steps. -/
def twoSteps : TaskDefinition where
  row := {
    timezone := "UTC".toList
    onFirstLogin := false
    onLogin := true
    onRespawn := false
    intervalMinSeconds := none
    intervalMaxSeconds := none
    intervalNextRunAt := none
    intervalObservedAt := none
    createdAt := 0 }
  steps := [⟨1, "/warp eco".toList⟩, ⟨0, "/hub".toList⟩]
  times := []

/-- A world in which nothing fails but one answer. -/
def answering (sends : Nat → WriteReply) (audits : WriteReply) : TaskRunWorld where
  bot := .ok (some .running)
  connects := none
  sends := sends
  audits := audits
  finishesSent := .written
  records := .written
  finishesFailed := .written

/-- **A run that was sent and is recorded as failed.**  Both steps are written and the audit entry
fails.  The row says that the run failed with no step sent. -/
theorem unaudited_run_is_misrecorded :
    ¬ ∀ (world : TaskRunWorld) (definition : TaskDefinition), definition.steps ≠ [] →
      RecordsWhatHappened definition (carryOut world definition).1
        (carryOut world definition).2 := by
  intro hclaim
  have hrecorded := hclaim (answering (fun _ => .written) (.refused .other)) twoSteps
    (List.cons_ne_nil _ _)
  have hrun := runTask_of_all (answering (fun _ => .written) (.refused .other)) twoSteps
    ⟨rfl, rfl⟩ fun _ _ => rfl
  cases ((recorded_of_all (List.cons_ne_nil _ _) hrun).mp hrecorded).1

/-- The second step is refused, and the row says so. -/
theorem refused_step_is_recorded :
    twoSteps.steps ≠ [] ∧
      RecordsWhatHappened twoSteps
        (carryOut (answering (fun i => if i = 1 then .refused .other else .written) .written)
          twoSteps).1
        (carryOut (answering (fun i => if i = 1 then .refused .other else .written) .written)
          twoSteps).2 := by
  have hsteps : twoSteps.steps ≠ [] := List.cons_ne_nil _ _
  refine ⟨hsteps, (recorded_truly_iff _ twoSteps hsteps).mpr ?_⟩
  refine .stopped 1 (by decide) (fun i hi => if_neg ?_) ⟨.other, rfl⟩ (Or.inr rfl)
  omega

end OpenMcc

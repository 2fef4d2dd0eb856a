import OpenMcc.Construction.Reconcile

/-!
# Failures are recorded afresh

An observation that is still to be recorded was made after every start that has succeeded so far
(`Afresh`), as long as no start succeeds in the gap between the two.
-/

namespace OpenMcc

open TransitionSystem

/-- What an event does, as far as starts and observations go. -/
inductive ReconcileMove (s : ReconcileState) : ReconcileEvent → ReconcileState → Prop
  /-- Nothing but the row changes. -/
  | rests {e row} : ReconcileMove s e { s with row := row }
  | operates {e claimId call row} : (∀ number, call ≠ .unitStarted number) →
      ReconcileMove s e { s.moveTo claimId call with row := row }
  | startsUnit {claimId} :
      ReconcileMove s (.startsUnit claimId)
        { s.moveTo claimId (.unitStarted (s.unitStarts + 1)) with unitStarts := s.unitStarts + 1 }
  | succeeds {claimId number row} : s.calls claimId = some (.unitStarted number) →
      s.row.configClaimId = some claimId →
      ReconcileMove s (.finalizes claimId true)
        { s.moveTo claimId .ended with row := row, latestStart := number }
  /-- A reconciliation goes on with what it has seen, or sees the unit now. -/
  | observes {e reading stage row} : (∀ starts, ReadingStage.starts? stage = some starts →
        starts = s.unitStarts ∨ ∃ before, s.readings reading = some before ∧
          before.starts? = some starts) →
      ReconcileMove s e { s.readTo reading stage with row := row }

namespace ReconcileState

variable {s t : ReconcileState} {e : ReconcileEvent}

lemma move_of_step (h : unitReconciliation.step s e = some t) : ReconcileMove s e t := by
  cases e with
  | reads claimId verb =>
    simp only [unitReconciliation, reads, Option.ite_none_left_eq_some] at h
    obtain ⟨-, h⟩ := h
    split at h
    · exact Option.some.inj h ▸ .rests
    · exact Option.some.inj h ▸ .operates (by simp)
  | claims claimId managerNow databaseNow =>
    simp only [unitReconciliation, claims] at h
    split at h
    · split at h
      · exact Option.some.inj h ▸ .operates (by simp)
      · exact Option.some.inj h ▸ .operates (by simp)
    · cases h
  | stopsUnit claimId =>
    simp only [unitReconciliation, stopsUnit] at h
    split at h
    · exact Option.some.inj h ▸ .operates (by simp)
    · exact Option.some.inj h ▸ .operates (by simp)
    · cases h
  | writesToken claimId sealedToken databaseNow =>
    simp only [unitReconciliation, writesToken] at h
    split at h
    · split at h
      · exact Option.some.inj h ▸ .operates (by simp)
      · exact Option.some.inj h ▸ .rests
    · split at h
      · exact Option.some.inj h ▸ .operates (by simp)
      · exact Option.some.inj h ▸ .rests
    · cases h
  | startsUnit claimId =>
    simp only [unitReconciliation, startsUnit] at h
    split at h
    · exact Option.some.inj h ▸ .startsUnit
    · exact Option.some.inj h ▸ .startsUnit
    · cases h
  | hostFails claimId inFlight =>
    have hleaves : ∀ number, (if inFlight then UnitCall.ended else .releasing) ≠
        .unitStarted number := by
      intro number
      cases inFlight with
      | true => simp
      | false => simp
    simp only [unitReconciliation, hostFails] at h
    split at h
    · exact Option.some.inj h ▸ .operates hleaves
    · exact Option.some.inj h ▸ .operates hleaves
    · exact Option.some.inj h ▸ .operates hleaves
    · cases h
  | finalizes claimId storeAnswers =>
    simp only [unitReconciliation, finalizes] at h
    split at h
    · next number hstarted =>
      split at h
      · exact Option.some.inj h ▸ .operates (by simp)
      · next finalized hfinalized =>
        have hclaim := (InstanceRow.finalizeConfigClaim_eq_some hfinalized).1
        split at h
        · next hanswers =>
          subst hanswers
          exact Option.some.inj h ▸ .succeeds hstarted hclaim
        · exact Option.some.inj h ▸ .operates (by simp)
    · split at h
      · exact Option.some.inj h ▸ .operates (by simp)
      · split at h
        · exact Option.some.inj h ▸ .operates (by simp)
        · exact Option.some.inj h ▸ .operates (by simp)
    · cases h
  | releases claimId storeAnswers =>
    simp only [unitReconciliation, releases] at h
    split at h
    · split at h
      · exact Option.some.inj h ▸ .operates (by simp)
      · exact Option.some.inj h ▸ .operates (by simp)
    · cases h
  | lists reading =>
    simp only [unitReconciliation, lists, Option.ite_none_left_eq_some] at h
    exact Option.some.inj h.2 ▸ .observes (by simp [ReadingStage.starts?])
  | observes reading observed =>
    simp only [unitReconciliation, ReconcileState.observes] at h
    split at h
    · split at h
      · refine Option.some.inj h ▸ .observes fun starts hstarts => ?_
        exact .inl (Option.some.inj hstarts).symm
      · exact Option.some.inj h ▸ .observes (by simp [ReadingStage.starts?])
    · cases h
  | readsExitCode reading lastExitCode =>
    simp only [unitReconciliation, readsExitCode] at h
    split at h
    · next hseen =>
      exact Option.some.inj h ▸ .observes fun starts hstarts => .inr ⟨_, hseen, hstarts⟩
    · cases h
  | records reading storeAnswers =>
    simp only [unitReconciliation, records] at h
    split at h
    · split at h
      · exact Option.some.inj h ▸ .observes (by simp [ReadingStage.starts?])
      · exact Option.some.inj h ▸ .observes (by simp [ReadingStage.starts?])
    · cases h
  | interrupts reading =>
    simp only [unitReconciliation, interrupts] at h
    split at h
    · exact Option.some.inj h ▸ .observes (by simp [ReadingStage.starts?])
    · exact Option.some.inj h ▸ .observes (by simp [ReadingStage.starts?])
    · exact Option.some.inj h ▸ .observes (by simp [ReadingStage.starts?])
    · cases h

lemma calls_eq_some {claimId other : Nat} {call after : UnitCall}
    (h : Function.update s.calls claimId (some after) other = some call) :
    call = after ∨ s.calls other = some call := by
  by_cases hsame : other = claimId
  · rw [hsame, Function.update_self, Option.some.injEq] at h
    exact .inl h.symm
  · rw [Function.update_of_ne hsame] at h
    exact .inr h

/-- What is still to be recorded was seen after the starts that have succeeded. -/
structure Afresh (s : ReconcileState) : Prop where
  latest : s.latestStart ≤ s.unitStarts
  started : ∀ claimId number, s.calls claimId = some (.unitStarted number) → number ≤ s.unitStarts
  fresh : ∀ reading stage starts, s.readings reading = some stage →
    stage.starts? = some starts → s.latestStart ≤ starts

lemma Afresh.step (h : s.Afresh) (hgap : s.NoneInTheGap e) (hmove : ReconcileMove s e t) :
    t.Afresh := by
  cases hmove with
  | rests => exact ⟨h.latest, h.started, h.fresh⟩
  | operates hother =>
    refine ⟨h.latest, fun other number hcall => ?_, h.fresh⟩
    obtain heq | hold := calls_eq_some hcall
    · exact absurd heq.symm (hother number)
    · exact h.started other number hold
  | startsUnit =>
    refine ⟨Nat.le_succ_of_le h.latest, fun other number hcall => ?_, h.fresh⟩
    obtain heq | hold := calls_eq_some hcall
    · obtain rfl := UnitCall.unitStarted.inj heq
      exact Nat.le_refl _
    · exact Nat.le_succ_of_le (h.started other number hold)
  | @succeeds claimId number row hstarted hclaim =>
    refine ⟨h.started claimId number hstarted, fun other number hcall => ?_,
      fun reading stage starts hstage hstarts => ?_⟩
    · obtain heq | hold := calls_eq_some hcall
      · cases heq
      · exact h.started other number hold
    · exact hgap number hstarted hclaim reading stage starts hstage hstarts
  | @observes e reading stage row hstarts =>
    refine ⟨h.latest, h.started, fun other after starts hafter hseen => ?_⟩
    by_cases hsame : other = reading
    · have hstage : Function.update s.readings reading (some stage) other = some after := hafter
      rw [hsame, Function.update_self, Option.some.injEq] at hstage
      subst hstage
      obtain rfl | ⟨before, hbefore, hold⟩ := hstarts starts hseen
      · exact h.latest
      · exact h.fresh reading before starts hbefore hold
    · have hstage : Function.update s.readings reading (some stage) other = some after := hafter
      rw [Function.update_of_ne hsame] at hstage
      exact h.fresh other after starts hstage hseen

lemma Afresh.recordsAfresh (h : s.Afresh) : s.RecordsAfresh := by
  intro reading storeAnswers t hstep hbefore hafter
  simp only [unitReconciliation, records] at hstep
  split at hstep
  · next starts lastExitCode hjudged =>
    exact ⟨_, starts, hjudged, rfl, h.fresh reading _ starts hjudged rfl⟩
  · cases hstep

end ReconcileState

/-- **Failures are recorded afresh.**  In every run in which no start or restart succeeds while a
failure that was seen before it put the unit up is still to be recorded, no failure moves the bot
to `error` that was seen before the latest successful start or restart. -/
theorem failures_recorded_afresh {s : ReconcileState}
    (h : unitReconciliation.Reachable ReconcileState.NoneInTheGap s) : s.RecordsAfresh := by
  have hafresh : s.Afresh := by
    refine h.invariant (I := ReconcileState.Afresh) (fun s hinit => ?_)
      fun t e u ht hgap hstep => ht.step hgap (ReconcileState.move_of_step hstep)
    obtain ⟨hlatest, hstarts, hcalls, hreadings⟩ := hinit
    refine ⟨by omega, fun claimId number hcall => ?_, fun reading stage starts hstage => ?_⟩
    · rw [hcalls] at hcall
      cases hcall
    · rw [hreadings] at hstage
      cases hstage
  exact hafresh.recordsAfresh

/-- A bot that runs, with nothing under way. -/
def runningBot : ReconcileState where
  row := {
    status := .running
    lastExitCode := none
    liveControlPort := 25001
    liveControlToken := none
    authClaimId := none
    authClaimedAt := none
    configClaimId := none
    configClaimedAt := none }
  unitStarts := 0
  latestStart := 0
  calls := fun _ => none
  readings := fun _ => none

lemma init_runningBot : unitReconciliation.init runningBot := ⟨rfl, rfl, fun _ => rfl, fun _ => rfl⟩

lemma ReconcileState.noneInTheGap_of_ne {s : ReconcileState} {e : ReconcileEvent}
    (h : ∀ claimId, e ≠ .finalizes claimId true) : s.NoneInTheGap e := by
  cases e with
  | finalizes claimId storeAnswers =>
    cases storeAnswers with
    | true => exact absurd rfl (h claimId)
    | false => trivial
  | _ => trivial

/-- The bot is restarted, fails, and its failure is recorded. -/
theorem failures_recorded_afresh_restart :
    ∃ s t, unitReconciliation.exec runningBot [.reads 1 .restart, .claims 1 0 0, .stopsUnit 1,
        .startsUnit 1, .finalizes 1 true, .lists 1, .observes 1 .failed,
        .readsExitCode 1 (some 3)] = some s ∧
      unitReconciliation.step s (.records 1 true) = some t ∧ t.row.status = .error ∧
      s.latestStart = 1 ∧ s.RecordsAfresh := by
  obtain ⟨q, r, s, t, hrun, hstarts, hempty, hfinalizes, hreads, ht, herror, hlatest⟩ :
      ∃ q r s t, unitReconciliation.exec runningBot [.reads 1 .restart, .claims 1 0 0,
        .stopsUnit 1, .startsUnit 1, .finalizes 1 true, .lists 1, .observes 1 .failed,
        .readsExitCode 1 (some 3)] = some s ∧
      unitReconciliation.exec runningBot [.reads 1 .restart, .claims 1 0 0, .stopsUnit 1,
        .startsUnit 1] = some q ∧ (∀ reading, q.readings reading = none) ∧
      unitReconciliation.step q (.finalizes 1 true) = some r ∧
      unitReconciliation.exec r [.lists 1, .observes 1 .failed, .readsExitCode 1 (some 3)] =
        some s ∧
      unitReconciliation.step s (.records 1 true) = some t ∧ t.row.status = .error ∧
      s.latestStart = 1 := ⟨_, _, _, _, rfl, rfl, fun _ => rfl, rfl, rfl, rfl, rfl, rfl⟩
  have hafresh : unitReconciliation.Reachable ReconcileState.NoneInTheGap s := by
    have hguarded : ∀ {s t : ReconcileState} {es : List ReconcileEvent},
        (∀ e ∈ es, ∀ claimId, e ≠ .finalizes claimId true) →
        unitReconciliation.exec s es = some t →
        unitReconciliation.Path ReconcileState.NoneInTheGap s es t := fun hes hexec =>
      ((path_of_exec hexec).of_events hes).mono fun _ _ h =>
        ReconcileState.noneInTheGap_of_ne h.2
    have hreached : unitReconciliation.Reachable ReconcileState.NoneInTheGap q :=
      ⟨runningBot, _, init_runningBot, hguarded (by simp) hstarts⟩
    have hgap : q.NoneInTheGap (.finalizes 1 true) := by
      intro number _ _ reading stage starts hstage
      rw [hempty] at hstage
      cases hstage
    exact (hreached.step hgap hfinalizes).path (hguarded (by simp) hreads)
  exact ⟨s, t, hrun, ht, herror, hlatest, failures_recorded_afresh hafresh⟩

/-- A bot is restarted between the observation of its failure and the record of it. -/
theorem failure_recorded_after_restart :
    ∃ s, unitReconciliation.Reachable free s ∧ ¬s.RecordsAfresh := by
  obtain ⟨s, t, hrun, hjudged, ht, hbefore, herror, hlatest⟩ : ∃ s t,
      unitReconciliation.exec runningBot [.lists 1, .observes 1 .failed,
        .readsExitCode 1 (some 3), .reads 1 .restart, .claims 1 0 0, .stopsUnit 1, .startsUnit 1,
        .finalizes 1 true] = some s ∧ s.readings 1 = some (.judged 0 (some 3)) ∧
      unitReconciliation.step s (.records 1 true) = some t ∧ s.row.status ≠ .error ∧
      t.row.status = .error ∧ s.latestStart = 1 := ⟨_, _, rfl, rfl, rfl, by decide, rfl, rfl⟩
  refine ⟨s, .of_exec init_runningBot hrun, fun hafresh => ?_⟩
  obtain ⟨stage, starts, hstage, hstarts, hle⟩ := hafresh 1 true t ht hbefore herror
  rw [hjudged, Option.some.injEq] at hstage
  subst hstage
  obtain rfl := Option.some.inj hstarts
  omega

end OpenMcc

import OpenMcc.Construction.CommandScheduler

/-!
# A due command and the claim of its run

A tick asks `isDue` whether a command is to run, and then claims the run with the boundary
`startOfLocalDay` has computed.  The first compares the calendar date of the last run with today's.
The second compares the last run with an instant, the wall clock's minutes of today taken off from
now, which is the start of the day only as long as the clock has not been moved since.

The two agree exactly where the offset has grown, since the last run, by less than the wall clock
time from the last run to the start of the day (`claimRun_granted_iff`).  On the day the clocks go
forward they differ for a command of the last hour, whose run is then lost
(`due_command_is_refused`).
-/

namespace OpenMcc

/-- The zone of a due candidate is known. -/
lemma known_of_isDue {intl : Intl} {candidate : DueCandidate} {instant : Int}
    (hdue : isDue intl candidate instant = .ok true) :
    ∃ offset, intl candidate.timezone = some offset := by
  by_contra hunknown
  have hnone : intl candidate.timezone = none := by
    rw [Option.eq_none_iff_forall_ne_some]
    intro offset hsome
    exact hunknown ⟨offset, hsome⟩
  unfold isDue at hdue
  by_cases henabled : candidate.enabled = false
  · simp [henabled] at hdue
  · by_cases hdays : candidate.daysOfWeek.isEmpty = true
    · simp [hdays] at hdue
    · simp [henabled, hdays, zonedMoment, hnone, bind, Except.bind] at hdue

/-- The last run lies before the computed start of the day exactly where the offset has grown by
less than the wall clock time between them. -/
lemma lt_startOfLocalDay_iff (offset : Offset) (last instant : Int) :
    last < instant - localMinute offset instant * 60000 ↔
      offset instant - offset last <
        localDate offset instant * dayMs + localMs offset instant % 60000 -
          localMs offset last := by
  simp only [localMinute, localDate, localMs, dayMs]
  omega

lemma claimRun_granted (row : InstanceCommandRow) (ranAt notRunSince : Int) :
    (∃ claimed, claimRun row ranAt notRunSince = some claimed) ↔
      ∀ last, row.lastRunAt = some last → last < notRunSince := by
  constructor
  · rintro ⟨claimed, hclaim⟩
    exact (claimRun_eq_some hclaim).2
  · intro hbefore
    unfold claimRun
    cases hlast : row.lastRunAt with
    | none => exact ⟨_, rfl⟩
    | some last => exact ⟨_, if_pos (hbefore last hlast)⟩

/-- **When a due command is granted its run.**  The claim at the computed start of the day is
granted exactly where the zone's offset has grown, since the last run, by less than the wall clock
time from the last run to the start of the day, the seconds of the instant added. -/
theorem claimRun_granted_iff (intl : Intl) (row : InstanceCommandRow) (instant : Int)
    (hdue : isDue intl (candidateFor row) instant = .ok true) :
    (∃ start claimed, startOfLocalDay intl row.timezone instant = .ok start ∧
        claimRun row instant start = some claimed) ↔
      ∀ offset last, intl row.timezone = some offset → row.lastRunAt = some last →
        offset instant - offset last <
          localDate offset instant * dayMs + localMs offset instant % 60000 -
            localMs offset last := by
  obtain ⟨offset, hknown⟩ := known_of_isDue hdue
  have hzone : intl row.timezone = some offset := hknown
  have hstart := startOfLocalDay_of_known hzone instant
  have hgranted := claimRun_granted row instant (instant - localMinute offset instant * 60000)
  constructor
  · rintro ⟨start, claimed, hcomputed, hclaim⟩ other last hother hlast
    obtain rfl : offset = other := Option.some.inj (hzone.symm.trans hother)
    rw [hstart, Except.ok.injEq] at hcomputed
    subst hcomputed
    exact (lt_startOfLocalDay_iff offset last instant).mp
      (hgranted.mp ⟨claimed, hclaim⟩ last hlast)
  · intro hforward
    have hbefore : ∀ last, row.lastRunAt = some last →
        last < instant - localMinute offset instant * 60000 := fun last hlast =>
      (lt_startOfLocalDay_iff offset last instant).mpr (hforward offset last hzone hlast)
    obtain ⟨claimed, hclaim⟩ := hgranted.mpr hbefore
    exact ⟨_, claimed, hstart, hclaim⟩

/-- New York about the 8th of March 2026, when its clocks go from two to three. -/
def newYorkOffset : Offset := fun instant =>
  if instant < 1772953200000 then -18000000 else -14400000

/-- A zone database that knows this zone only. -/
def newYork : Intl := fun timezone =>
  if timezone = "America/New_York".toList then some newYorkOffset else none

/-- A command for half past eleven at night, last run at this instant. -/
def lateCommand (lastRunAt : Option Int) : InstanceCommandRow where
  daysOfWeek := "*".toList
  minuteOfDay := 1410
  timezone := "America/New_York".toList
  enabled := true
  lastRunAt := lastRunAt
  lastRunError := none

/-- **A due command that is refused its run.**  The command ran at half past eleven the night
before the clocks went forward.  At half past eleven of the next evening it is due, and the start
computed for that day is eleven of the night before. -/
theorem due_command_is_refused :
    ¬ ∀ (intl : Intl) (row : InstanceCommandRow) (instant : Int),
      isDue intl (candidateFor row) instant = .ok true →
        ∃ start claimed, startOfLocalDay intl row.timezone instant = .ok start ∧
          claimRun row instant start = some claimed := by
  intro hclaim
  obtain ⟨start, claimed, hstart, hgranted⟩ :=
    hclaim newYork (lateCommand (some 1772944200000)) 1773027000000 (by decide +kernel)
  have hcomputed : startOfLocalDay newYork (lateCommand (some 1772944200000)).timezone
      1773027000000 = .ok 1772942400000 := by decide +kernel
  rw [hcomputed, Except.ok.injEq] at hstart
  subst hstart
  exact absurd ((claimRun_eq_some hgranted).2 1772944200000 rfl) (by decide)

/-- The same command at the same instant, had it run an hour earlier. -/
theorem early_run_is_followed :
    ∃ start claimed,
      startOfLocalDay newYork (lateCommand (some 1772940600000)).timezone 1773027000000 =
        .ok start ∧
      claimRun (lateCommand (some 1772940600000)) 1773027000000 start = some claimed := by
  refine (claimRun_granted_iff newYork (lateCommand (some 1772940600000)) 1773027000000
    (by decide +kernel)).mpr ?_
  intro offset last hoffset hlast
  have hknown : newYork (lateCommand (some 1772940600000)).timezone = some newYorkOffset :=
    if_pos rfl
  obtain rfl : newYorkOffset = offset := Option.some.inj (hknown.symm.trans hoffset)
  obtain rfl : 1772940600000 = last := Option.some.inj hlast
  decide

end OpenMcc

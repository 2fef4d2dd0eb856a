import OpenMcc.Construction.CommandScheduler
import OpenMcc.Construction.Task

/-!
# Catching up a daily time

An occurrence of a daily time is an instant at which the wall clock of the zone reads the time on
one of its days.  A tick that comes after it still finds a command due and a task's claim, for as
long as the minutes of the wall clock's day are within the grace of the time.

Those minutes start again at midnight.  So an occurrence of the last hour of a day is caught up
only until the day ends, and where the clock is moved in between the grace is shorter or longer by
the change (`caught_up_iff`).  `late_time_is_lost` is the command and the task of ten minutes to
midnight, looked at ten minutes past it.
-/

namespace OpenMcc

/-- The wall clock reads a daily time, on one of its days. -/
structure IsOccurrence (offset : Offset) (daysOfWeek : List DayOfWeek) (minuteOfDay : Int)
    (occurrence : Int) : Prop where
  minute : localMinute offset occurrence = minuteOfDay
  weekday : weekdayOf (localDate offset occurrence) ∈ daysOfWeek

section KnownZone

variable {intl : Intl} {offset : Offset}

lemma timeClaim_of_known {timezone : Text} (h : intl timezone = some offset) (instant : Int)
    (time : InstanceTaskTimeRow) :
    timeClaim intl timezone instant time = .ok
      (if isDue intl (timeCandidate timezone time) instant = .ok true then
        some ⟨.time, .time (localDate offset instant) time.minuteOfDay⟩ else none) := by
  unfold timeClaim
  obtain ⟨due, hdue⟩ : ∃ due, isDue intl (timeCandidate timezone time) instant = .ok due :=
    ⟨_, isDue_of_known h rfl instant⟩
  rw [hdue, zonedMoment_of_known h]
  cases due with
  | false => rfl
  | true => rfl

lemma mapM_ok {ε α β : Type} {f : α → Except ε β} {g : α → β} (h : ∀ a, f a = .ok (g a)) :
    ∀ as : List α, as.mapM f = .ok (as.map g)
  | [] => rfl
  | a :: as => by
    rw [List.mapM_cons, h a, mapM_ok h as]
    rfl

/-- The claims that a task's times yield in a known zone. -/
lemma timeClaims_of_known {definition : TaskDefinition}
    (h : intl definition.row.timezone = some offset) (instant : Int) :
    ∃ claims, timeClaims intl definition instant = .ok claims ∧
      ∀ claim, claim ∈ claims ↔ ∃ time ∈ definition.times,
        isDue intl (timeCandidate definition.row.timezone time) instant = .ok true ∧
        claim = ⟨.time, .time (localDate offset instant) time.minuteOfDay⟩ := by
  unfold timeClaims
  rw [mapM_ok (timeClaim_of_known h instant)]
  refine ⟨_, rfl, fun claim => ?_⟩
  simp only [List.mem_filterMap, List.mem_map, id_eq]
  constructor
  · rintro ⟨found, ⟨time, htime, rfl⟩, hfound⟩
    rw [Option.ite_none_right_eq_some, Option.some.injEq] at hfound
    exact ⟨time, htime, hfound.1, hfound.2.symm⟩
  · rintro ⟨time, htime, hdue, rfl⟩
    exact ⟨_, ⟨time, htime, rfl⟩, if_pos hdue⟩

/-- **A time's claim.**  A task yields the claim of a date and a minute exactly where the date is
today's and one of its times of that minute is due. -/
lemma time_claim_iff {definition : TaskDefinition}
    (h : intl definition.row.timezone = some offset) (instant date minuteOfDay : Int) :
    (∃ claims, timeClaims intl definition instant = .ok claims ∧
        ⟨.time, .time date minuteOfDay⟩ ∈ claims) ↔
      date = localDate offset instant ∧ ∃ time ∈ definition.times,
        time.minuteOfDay = minuteOfDay ∧
        isDue intl (timeCandidate definition.row.timezone time) instant = .ok true := by
  obtain ⟨claims, hclaims, hmem⟩ := timeClaims_of_known h instant
  constructor
  · rintro ⟨found, hfound, hclaim⟩
    rw [hclaims, Except.ok.injEq] at hfound
    subst hfound
    obtain ⟨time, htime, hdue, hkey⟩ := (hmem _).mp hclaim
    rw [TaskClaim.mk.injEq, ClaimKey.time.injEq] at hkey
    exact ⟨hkey.2.1, time, htime, hkey.2.2.symm, hdue⟩
  · rintro ⟨rfl, time, htime, rfl, hdue⟩
    exact ⟨claims, hclaims, (hmem _).mpr ⟨time, htime, hdue, rfl⟩⟩

end KnownZone

/-- On one date the minutes of the day move as the wall clock does. -/
lemma within_grace_iff (offset : Offset) {occurrence instant : Int}
    (hdate : localDate offset instant = localDate offset occurrence) :
    (localMinute offset occurrence ≤ localMinute offset instant ∧
      localMinute offset instant ≤ localMinute offset occurrence + catchUpGraceMinutes) ↔
    (0 ≤ localMs offset occurrence % 60000 + (instant - occurrence) +
        (offset instant - offset occurrence) ∧
      localMs offset occurrence % 60000 + (instant - occurrence) +
        (offset instant - offset occurrence) < (catchUpGraceMinutes + 1) * 60000) := by
  simp only [localDate, localMinute, localMs, dayMs, catchUpGraceMinutes] at hdate ⊢
  omega

/-- **What is caught up.**  For an occurrence whose date has no run, the command is due and the task
yields the occurrence's claim at exactly those instants where the wall clock shows the occurrence's
date, and stands neither before the time nor past the grace, the changes of the clock in between
counted in.  An instant within the grace of the occurrence is one of these unless midnight or such a
change has come between. -/
theorem caught_up_iff (intl : Intl) (offset : Offset) (row : InstanceCommandRow)
    (definition : TaskDefinition) (time : InstanceTaskTimeRow) (occurrence instant : Int)
    (henabled : row.enabled = true) (hrow : intl row.timezone = some offset)
    (htask : intl definition.row.timezone = some offset) (htime : time ∈ definition.times)
    (hminute : time.minuteOfDay = row.minuteOfDay) (hdays : time.daysOfWeek = row.daysOfWeek)
    (hoccurs : IsOccurrence offset (parseDaysOfWeek row.daysOfWeek) row.minuteOfDay occurrence)
    (hnotRun : ∀ last, row.lastRunAt = some last →
      localDate offset last ≠ localDate offset occurrence) :
    (isDue intl (candidateFor row) instant = .ok true ∧
        ∃ claims, timeClaims intl definition instant = .ok claims ∧
          ⟨.time, .time (localDate offset occurrence) row.minuteOfDay⟩ ∈ claims) ↔
      localDate offset instant = localDate offset occurrence ∧
      0 ≤ localMs offset occurrence % 60000 + (instant - occurrence) +
        (offset instant - offset occurrence) ∧
      localMs offset occurrence % 60000 + (instant - occurrence) +
        (offset instant - offset occurrence) < (catchUpGraceMinutes + 1) * 60000 := by
  have hcommand : isDue intl (candidateFor row) instant = .ok true ↔ _ :=
    isDue_iff hrow rfl instant
  rw [hcommand, time_claim_iff htask]
  simp only [candidateFor]
  constructor
  · rintro ⟨⟨-, -, hfrom, hto, -⟩, hdate, -⟩
    refine ⟨hdate.symm, ?_⟩
    rw [← hoccurs.minute] at hfrom hto
    exact (within_grace_iff offset hdate.symm).mp ⟨hfrom, hto⟩
  · rintro ⟨hdate, hwithin⟩
    obtain ⟨hfrom, hto⟩ := (within_grace_iff offset hdate).mpr hwithin
    have hweekday : weekdayOf (localDate offset instant) ∈ parseDaysOfWeek row.daysOfWeek := by
      rw [hdate]
      exact hoccurs.weekday
    rw [hoccurs.minute] at hfrom hto
    refine ⟨⟨henabled, hweekday, hfrom, hto, ?_⟩, hdate.symm, time, htime, hminute, ?_⟩
    · intro last hlast
      rw [hdate]
      exact hnotRun last hlast
    · have hdue :
          isDue intl (timeCandidate definition.row.timezone time) instant = .ok true ↔ _ :=
        isDue_iff htask rfl instant
      refine hdue.mpr ⟨rfl, ?_, ?_, ?_, ?_⟩
      · show _ ∈ parseDaysOfWeek time.daysOfWeek
        rw [hdays]
        exact hweekday
      · show time.minuteOfDay ≤ _
        rw [hminute]
        exact hfrom
      · show _ ≤ time.minuteOfDay + _
        rw [hminute]
        exact hto
      · intro last hlast
        cases hlast

/-- A zone database that knows one zone, whose clock shows the instants themselves. -/
def utcDatabase : Intl := fun timezone => if timezone = "UTC".toList then some fun _ => 0 else none

/-- A command for this minute of every day, which has never run. -/
def everyDayAt (minuteOfDay : Int) : InstanceCommandRow where
  daysOfWeek := "*".toList
  minuteOfDay := minuteOfDay
  timezone := "UTC".toList
  enabled := true
  lastRunAt := none
  lastRunError := none

/-- A task with this time of every day. -/
def taskAt (minuteOfDay : Int) : TaskDefinition where
  row := {
    timezone := "UTC".toList
    onFirstLogin := false
    onLogin := false
    onRespawn := false
    intervalMinSeconds := none
    intervalMaxSeconds := none
    intervalNextRunAt := none
    intervalObservedAt := none
    createdAt := 0 }
  steps := []
  times := [⟨"*".toList, minuteOfDay⟩]

/-- **A time near midnight is lost.**  The command and the task are set for ten minutes to midnight.
Ten minutes past midnight, the command is not due. -/
theorem late_time_is_lost :
    ¬ ∀ (intl : Intl) (offset : Offset) (row : InstanceCommandRow) (definition : TaskDefinition)
        (time : InstanceTaskTimeRow) (occurrence instant : Int),
      row.enabled = true → intl row.timezone = some offset →
      intl definition.row.timezone = some offset → time ∈ definition.times →
      time.minuteOfDay = row.minuteOfDay → time.daysOfWeek = row.daysOfWeek →
      IsOccurrence offset (parseDaysOfWeek row.daysOfWeek) row.minuteOfDay occurrence →
      (∀ last, row.lastRunAt = some last →
        localDate offset last ≠ localDate offset occurrence) →
      occurrence ≤ instant → instant ≤ occurrence + catchUpGraceMinutes * 60000 →
      isDue intl (candidateFor row) instant = .ok true ∧
        ∃ claims, timeClaims intl definition instant = .ok claims ∧
          ⟨.time, .time (localDate offset occurrence) row.minuteOfDay⟩ ∈ claims := by
  intro hclaim
  have hdue := hclaim utcDatabase (fun _ => 0) (everyDayAt 1430) (taskAt 1430) ⟨"*".toList, 1430⟩
    85800000 87000000 rfl (if_pos rfl) (if_pos rfl) (List.mem_singleton_self _) rfl rfl
    ⟨by decide, by decide +kernel⟩ (by simp [everyDayAt]) (by decide) (by decide)
  have hlost : isDue utcDatabase (candidateFor (everyDayAt 1430)) 87000000 = .ok false := by
    decide +kernel
  rw [hlost] at hdue
  exact absurd hdue.1 (by simp)

/-- Nine in the morning, looked at an hour later. -/
theorem morning_time_is_caught_up :
    isDue utcDatabase (candidateFor (everyDayAt 540)) 36000000 = .ok true ∧
      ∃ claims, timeClaims utcDatabase (taskAt 540) 36000000 = .ok claims ∧
        ⟨.time, .time (localDate (fun _ => 0) 32400000) 540⟩ ∈ claims :=
  (caught_up_iff utcDatabase (fun _ => 0) (everyDayAt 540) (taskAt 540) ⟨"*".toList, 540⟩ 32400000
    36000000 rfl (if_pos rfl) (if_pos rfl) (List.mem_singleton_self _) rfl rfl
    ⟨by decide, by decide +kernel⟩ (by simp [everyDayAt])).mpr (by decide)

end OpenMcc

import OpenMcc.Framework.Text
import Mathlib.Data.Int.Basic
import Mathlib.Tactic.Common

/-!
# Which daily time is due (`due.ts`)

Instants are milliseconds since the epoch, and a time zone is its offset function: the
milliseconds to add to an instant to read the zone's wall clock.  Nothing is assumed of an offset
function, so a zone may have days of any length.  The host's zone database is a parameter `intl`,
absent for a name it does not know.

The calendar date of a moment is carried as its count of days since the epoch.  The source writes
the same date out as `yyyy-mm-dd` and only ever compares two of them.
-/

namespace OpenMcc

/-! ## Days of the week (`schedule.ts`) -/

/-- `DayOfWeek`. -/
inductive DayOfWeek
  | mon | tue | wed | thu | fri | sat | sun
  deriving DecidableEq, Repr

/-- `DAYS_OF_WEEK`, in the order the contract lists them. -/
def daysOfWeek : List DayOfWeek := [.mon, .tue, .wed, .thu, .fri, .sat, .sun]

/-- The name a day is stored under. -/
def DayOfWeek.name : DayOfWeek → Text
  | .mon => "Mon".toList
  | .tue => "Tue".toList
  | .wed => "Wed".toList
  | .thu => "Thu".toList
  | .fri => "Fri".toList
  | .sat => "Sat".toList
  | .sun => "Sun".toList

/-- `parseDaysOfWeek`: a star names every day, and other names are kept in the week's order. -/
def parseDaysOfWeek (stored : Text) : List DayOfWeek :=
  if stored = "*".toList then daysOfWeek
  else daysOfWeek.filter fun day => (stored.splitOn ',').contains day.name

/-! ## The wall clock of a zone -/

/-- The milliseconds a zone's wall clock is ahead, at each instant. -/
abbrev Offset := Int → Int

/-- The zone database of the process: the offset function of a zone name it knows. -/
abbrev Intl := Text → Option Offset

/-- `UnknownTimezoneError`, with its message. -/
structure UnknownTimezoneError where
  message : Text
  deriving DecidableEq, Repr

/-- `ZonedMoment`. -/
structure ZonedMoment where
  weekday : DayOfWeek
  minuteOfDay : Int
  dateKey : Int
  deriving DecidableEq, Repr

/-- The milliseconds of a wall-clock day. -/
def dayMs : Int := 86400000

/-- What the zone's wall clock reads, as milliseconds since its own epoch. -/
def localMs (offset : Offset) (instant : Int) : Int := instant + offset instant

/-- The calendar date of an instant in a zone, counted in days since the epoch. -/
def localDate (offset : Offset) (instant : Int) : Int := localMs offset instant / dayMs

/-- The minute of the wall-clock day. -/
def localMinute (offset : Offset) (instant : Int) : Int :=
  localMs offset instant / 60000 % 1440

/-- The weekday of a date: day zero of the count is a Thursday. -/
def weekdayOf (date : Int) : DayOfWeek :=
  match (date % 7).toNat with
  | 0 => .thu
  | 1 => .fri
  | 2 => .sat
  | 3 => .sun
  | 4 => .mon
  | 5 => .tue
  | _ => .wed

/-- `zonedMoment`. -/
def zonedMoment (intl : Intl) (instant : Int) (timezone : Text) :
    Except UnknownTimezoneError ZonedMoment :=
  match intl timezone with
  | none => .error ⟨"Unknown timezone: ".toList ++ timezone⟩
  | some offset => .ok {
      weekday := weekdayOf (localDate offset instant)
      minuteOfDay := localMinute offset instant
      dateKey := localDate offset instant }

/-! ## Due selection -/

/-- `CATCH_UP_GRACE_MINUTES`. -/
def catchUpGraceMinutes : Int := 60

/-- `DueCandidate`. -/
structure DueCandidate where
  daysOfWeek : List DayOfWeek
  minuteOfDay : Int
  timezone : Text
  enabled : Bool
  lastRunAt : Option Int
  deriving DecidableEq, Repr

/-- `isDue`. -/
def isDue (intl : Intl) (candidate : DueCandidate) (instant : Int) :
    Except UnknownTimezoneError Bool :=
  if !candidate.enabled then .ok false
  else if candidate.daysOfWeek.isEmpty then .ok false
  else do
    let now ← zonedMoment intl instant candidate.timezone
    if !candidate.daysOfWeek.contains now.weekday then return false
    let elapsed := now.minuteOfDay - candidate.minuteOfDay
    if elapsed < 0 ∨ catchUpGraceMinutes < elapsed then return false
    match candidate.lastRunAt with
    | none => return true
    | some lastRunAt =>
      let last ← zonedMoment intl lastRunAt candidate.timezone
      return last.dateKey != now.dateKey

/-- `startOfLocalDay`: the instant minus the whole minutes of its wall-clock day.  The seconds and
milliseconds of the instant stay in the result. -/
def startOfLocalDay (intl : Intl) (timezone : Text) (instant : Int) :
    Except UnknownTimezoneError Int :=
  (zonedMoment intl instant timezone).map fun now => instant - now.minuteOfDay * 60000

/-! ## What the functions compute in a known zone -/

section KnownZone

variable {intl : Intl} {timezone : Text} {offset : Offset}

lemma zonedMoment_of_known (h : intl timezone = some offset) (instant : Int) :
    zonedMoment intl instant timezone = .ok {
      weekday := weekdayOf (localDate offset instant)
      minuteOfDay := localMinute offset instant
      dateKey := localDate offset instant } := by
  rw [zonedMoment, h]

lemma startOfLocalDay_of_known (h : intl timezone = some offset) (instant : Int) :
    startOfLocalDay intl timezone instant =
      .ok (instant - localMinute offset instant * 60000) := by
  rw [startOfLocalDay, zonedMoment_of_known h]
  rfl

/-- A due candidate is due at its minute or later. -/
lemma isDue_minute (h : intl timezone = some offset) {candidate : DueCandidate} {instant : Int}
    (hzone : candidate.timezone = timezone) (hdue : isDue intl candidate instant = .ok true) :
    candidate.minuteOfDay ≤ localMinute offset instant := by
  subst hzone
  simp only [isDue, zonedMoment_of_known h] at hdue
  split at hdue
  · cases hdue
  split at hdue
  · cases hdue
  simp only [bind, Except.bind, pure, Except.pure] at hdue
  split at hdue
  · cases hdue
  split at hdue
  case isTrue => cases hdue
  case isFalse helapsed => omega

/-- What `isDue` computes in a known zone. -/
lemma isDue_of_known (h : intl timezone = some offset) {candidate : DueCandidate}
    (hzone : candidate.timezone = timezone) (instant : Int) :
    isDue intl candidate instant = .ok (candidate.enabled &&
      candidate.daysOfWeek.contains (weekdayOf (localDate offset instant)) &&
      decide (candidate.minuteOfDay ≤ localMinute offset instant ∧
        localMinute offset instant ≤ candidate.minuteOfDay + catchUpGraceMinutes) &&
      candidate.lastRunAt.all fun last => localDate offset last != localDate offset instant) := by
  subst hzone
  unfold isDue
  by_cases henabled : candidate.enabled = true
  · rw [if_neg (by simp [henabled]), henabled]
    by_cases hdays : candidate.daysOfWeek.isEmpty = true
    · rw [if_pos hdays, List.isEmpty_iff.mp hdays]
      simp
    · rw [if_neg hdays]
      simp only [zonedMoment_of_known h, bind, Except.bind, pure, Except.pure]
      by_cases hday : candidate.daysOfWeek.contains (weekdayOf (localDate offset instant)) = true
      · rw [if_neg (by simp only [hday]; decide), hday]
        by_cases hwithin : candidate.minuteOfDay ≤ localMinute offset instant ∧
            localMinute offset instant ≤ candidate.minuteOfDay + catchUpGraceMinutes
        · rw [if_neg (by omega), decide_eq_true hwithin]
          cases hlast : candidate.lastRunAt with
          | none => simp
          | some last => simp
        · rw [if_pos (by omega), decide_eq_false hwithin]
          simp
      · rw [if_pos (by simp only [hday]; decide), Bool.eq_false_iff.mpr hday]
        simp
  · simp [henabled]

/-- When a candidate is due in a known zone. -/
lemma isDue_iff (h : intl timezone = some offset) {candidate : DueCandidate}
    (hzone : candidate.timezone = timezone) (instant : Int) :
    isDue intl candidate instant = .ok true ↔
      candidate.enabled = true ∧
      weekdayOf (localDate offset instant) ∈ candidate.daysOfWeek ∧
      candidate.minuteOfDay ≤ localMinute offset instant ∧
      localMinute offset instant ≤ candidate.minuteOfDay + catchUpGraceMinutes ∧
      ∀ last, candidate.lastRunAt = some last →
        localDate offset last ≠ localDate offset instant := by
  rw [isDue_of_known h hzone, Except.ok.injEq]
  simp only [Bool.and_eq_true, List.contains_iff_mem, decide_eq_true_eq, Option.all_eq_true,
    bne_iff_ne, and_assoc]

lemma localMinute_nonneg (offset : Offset) (instant : Int) : 0 ≤ localMinute offset instant :=
  Int.emod_nonneg _ (by decide)

/-- The computed start of the day is never after the instant it was computed at. -/
lemma startOfLocalDay_le (h : intl timezone = some offset) {instant start : Int}
    (hstart : startOfLocalDay intl timezone instant = .ok start) : start ≤ instant := by
  rw [startOfLocalDay_of_known h, Except.ok.injEq] at hstart
  have := localMinute_nonneg offset instant
  omega

/-- In a zone of constant offset the computed start of the day is the true one plus the seconds
of the instant, so it is at most any instant of the same date past the first minute. -/
lemma startOfLocalDay_le_of_sameDate (h : intl timezone = some offset)
    (hconst : ∀ s t, offset s = offset t) {instant earlier start : Int}
    (hstart : startOfLocalDay intl timezone instant = .ok start)
    (hdate : localDate offset earlier = localDate offset instant)
    (hminute : localMinute offset earlier ≠ 0) : start ≤ earlier := by
  rw [startOfLocalDay_of_known h, Except.ok.injEq] at hstart
  have hoff := hconst earlier instant
  simp only [localDate, localMinute, localMs, dayMs] at hdate hminute hstart
  omega

end KnownZone

end OpenMcc

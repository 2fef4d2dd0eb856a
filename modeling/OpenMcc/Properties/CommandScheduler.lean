import OpenMcc.Construction.CommandScheduler
import Mathlib.Algebra.Order.Ring.Int
import Mathlib.Data.List.Pairwise

/-!
# A daily command runs once a day

Two ticks may both find the command due, one of them from a row it read before the other's claim.
What keeps the second from running is `claimRun`, whose boundary is the start of the local day as
`startOfLocalDay` computes it.  That computed start keeps the seconds of the tick's instant, and
on a day whose offset changes it misses midnight by the change, so a run of the same day can lie
before it (`claims_twice_after_midnight`).  `keepsDay` is the condition on a step that this does
not happen, and that a failure is recorded only while the stored run is still the tick's own.
Under it no two claims fall on one date, over every offset function
(`claims_once_per_localDay`).  In a zone of constant offset a command set for any minute but the
first keeps its day by itself (`claims_once_per_localDay_of_constant`).
-/

namespace OpenMcc

open TransitionSystem

/-- The condition on a failure: it is recorded over that tick's own claim. -/
def keepsOwnFailure (s : SchedulerState) : SchedulerEvent → Bool
  | .fails process _ _ =>
    match s.ticks process with
    | some tick => s.row.lastRunAt == some tick.instant
    | none => true
  | _ => true

/-- The condition on a step: a tick that finds its row due never computes a start of the day after
a run already claimed on that same day, and a failed send is recorded over that tick's own
claim. -/
def keepsDay (intl : Intl) (s : SchedulerState) : SchedulerEvent → Bool
  | .considers process _ =>
    match s.ticks process with
    | some tick =>
      match isDue intl (candidateFor tick.row) tick.instant,
          startOfLocalDay intl tick.row.timezone tick.instant, intl tick.row.timezone with
      | .ok true, .ok start, some offset =>
        s.claims.all fun claim =>
          localDate offset claim != localDate offset tick.instant || start ≤ claim
      | _, _, _ => true
    | none => true
  | e => keepsOwnFailure s e

/-- The claims run forward in time, no two of them on one date, and the stored run is the latest
of them. -/
structure SchedulerInv (offset : Offset) (timezone : Text) (s : SchedulerState) : Prop where
  timezone_eq : s.row.timezone = timezone
  tick_timezone : ∀ process tick, s.ticks process = some tick → tick.row.timezone = timezone
  last_claim : ∀ claim rest, s.claims = claim :: rest → s.row.lastRunAt = some claim
  instants : s.claims.Pairwise fun later earlier => earlier < later
  dates : s.claims.Pairwise fun later earlier => localDate offset later ≠ localDate offset earlier

lemma SchedulerInv.of_init {intl : Intl} {offset : Offset} {s : SchedulerState}
    (h : (commandScheduler intl).init s) : SchedulerInv offset s.row.timezone s := by
  obtain ⟨hticks, hclaims⟩ := h
  refine ⟨rfl, ?_, ?_, ?_, ?_⟩
  · simp [hticks]
  · simp [hclaims]
  · simp [hclaims]
  · simp [hclaims]

/-- Every claim made so far is at most the stored run. -/
lemma SchedulerInv.exists_lastRun {offset : Offset} {timezone : Text} {s : SchedulerState}
    (hs : SchedulerInv offset timezone s) {claim : Int} (hmem : claim ∈ s.claims) :
    ∃ last, s.row.lastRunAt = some last ∧ claim ≤ last := by
  obtain ⟨newest, rest, hclaims⟩ := List.exists_cons_of_ne_nil (List.ne_nil_of_mem hmem)
  refine ⟨newest, hs.last_claim newest rest hclaims, ?_⟩
  have hinstants := hs.instants
  rw [hclaims, List.pairwise_cons] at hinstants
  rcases List.mem_cons.mp (hclaims ▸ hmem) with heq | hrest
  · exact le_of_eq heq
  · exact le_of_lt (hinstants.1 claim hrest)

lemma SchedulerInv.step {intl : Intl} {offset : Offset} {timezone : Text}
    (hzone : intl timezone = some offset) {s t : SchedulerState} {e : SchedulerEvent}
    (hs : SchedulerInv offset timezone s) (hG : keepsDay intl s e = true)
    (h : (commandScheduler intl).step s e = some t) : SchedulerInv offset timezone t := by
  have hticks : ∀ process tick, t.ticks process = some tick → tick.row.timezone = timezone := by
    intro process tick htick
    rcases commandScheduler_ticks h htick with hrow | ⟨old, hold, hrow⟩
    · rw [hrow, hs.timezone_eq]
    · rw [← hrow, hs.tick_timezone process old hold]
  cases commandScheduler_effect h with
  | quiet row claims =>
      exact ⟨row ▸ hs.timezone_eq, hticks, by rw [row, claims]; exact hs.last_claim,
        claims ▸ hs.instants, claims ▸ hs.dates⟩
  | unknownZone tick_eq zone =>
      rw [hs.tick_timezone _ _ tick_eq, hzone] at zone
      cases zone
  | @failed process reason tick tick_eq row claims =>
      have hlast : s.row.lastRunAt = some tick.instant := by
        simpa [keepsDay, keepsOwnFailure, tick_eq] using hG
      refine ⟨by rw [row]; exact hs.timezone_eq, hticks, ?_, claims ▸ hs.instants,
        claims ▸ hs.dates⟩
      intro claim rest hclaims
      rw [row, recordRun, ← hlast]
      exact hs.last_claim claim rest (claims ▸ hclaims)
  | @granted process tick start tick_eq due start_eq before row claims =>
      have htz : intl tick.row.timezone = some offset :=
        (hs.tick_timezone _ _ tick_eq).symm ▸ hzone
      have hstart : start ≤ tick.instant := startOfLocalDay_le htz start_eq
      have hearlier : ∀ claim ∈ s.claims, claim < start := by
        intro claim hmem
        obtain ⟨last, hlast, hle⟩ := hs.exists_lastRun hmem
        exact lt_of_le_of_lt hle (before last hlast)
      have hdates : ∀ claim ∈ s.claims,
          localDate offset tick.instant ≠ localDate offset claim := by
        intro claim hmem heq
        simp only [keepsDay, tick_eq, due, start_eq, htz, List.all_eq_true, Bool.or_eq_true,
          bne_iff_ne, decide_eq_true_eq] at hG
        rcases hG claim hmem with hne | hle
        · exact hne heq.symm
        · have := hearlier claim hmem
          omega
      refine ⟨by rw [row]; exact hs.timezone_eq, hticks, ?_, ?_, ?_⟩
      · intro claim rest hclaims
        rw [claims] at hclaims
        rw [row, (List.cons.inj hclaims).1]
      · rw [claims, List.pairwise_cons]
        exact ⟨fun claim hmem => lt_of_lt_of_le (hearlier claim hmem) hstart, hs.instants⟩
      · rw [claims, List.pairwise_cons]
        exact ⟨hdates, hs.dates⟩

/-- The zone of the command is the one it started with. -/
lemma commandScheduler_path_timezone {intl : Intl} {G : SchedulerState → SchedulerEvent → Prop}
    {s t : SchedulerState} {es : List SchedulerEvent}
    (h : (commandScheduler intl).Path G s es t) : t.row.timezone = s.row.timezone :=
  h.invariant (I := fun u => u.row.timezone = s.row.timezone) rfl
    fun _ _ _ hu _ hstep => (commandScheduler_unedited hstep).1.trans hu

/-- A run of ticks that keep the day claims every date once. -/
lemma oncePerLocalDay_of_path {intl : Intl} {s t : SchedulerState} {es : List SchedulerEvent}
    (hinit : (commandScheduler intl).init s)
    (h : (commandScheduler intl).Path (meets (keepsDay intl)) s es t) :
    OncePerLocalDay intl t := by
  intro offset hzone
  have hzone₀ : intl s.row.timezone = some offset := commandScheduler_path_timezone h ▸ hzone
  have hinv := h.invariant (I := SchedulerInv offset s.row.timezone)
    (SchedulerInv.of_init hinit) fun _ _ _ ht hG hu => ht.step hzone₀ hG hu
  rw [List.Nodup, List.pairwise_map]
  exact hinv.dates

/-- **A daily command is claimed at most once per local date**, over every offset function, in
every run of ticks that keep the day. -/
theorem claims_once_per_localDay (intl : Intl) {s : SchedulerState}
    (h : (commandScheduler intl).Reachable (meets (keepsDay intl)) s) :
    OncePerLocalDay intl s := by
  obtain ⟨s₀, es, hinit, hpath⟩ := h
  exact oncePerLocalDay_of_path hinit hpath

/-! ## Zones of constant offset -/

/-- The command stays as it was, and no claim fell in the first minute of a day. -/
structure PastFirstMinute (offset : Offset) (timezone : Text) (s : SchedulerState) : Prop where
  row_minute : 0 < s.row.minuteOfDay
  row_timezone : s.row.timezone = timezone
  tick_minute : ∀ process tick, s.ticks process = some tick → 0 < tick.row.minuteOfDay
  tick_timezone : ∀ process tick, s.ticks process = some tick → tick.row.timezone = timezone
  claims : ∀ claim ∈ s.claims, localMinute offset claim ≠ 0

lemma PastFirstMinute.step {intl : Intl} {offset : Offset} {timezone : Text}
    (hzone : intl timezone = some offset) {s t : SchedulerState} {e : SchedulerEvent}
    (hs : PastFirstMinute offset timezone s) (h : (commandScheduler intl).step s e = some t) :
    PastFirstMinute offset timezone t := by
  obtain ⟨htimezone, hminute⟩ := commandScheduler_unedited h
  refine ⟨hminute ▸ hs.row_minute, htimezone ▸ hs.row_timezone, ?_, ?_, ?_⟩
  · intro process tick htick
    rcases commandScheduler_ticks h htick with hrow | ⟨old, hold, hrow⟩
    · exact hrow ▸ hs.row_minute
    · exact hrow ▸ hs.tick_minute process old hold
  · intro process tick htick
    rcases commandScheduler_ticks h htick with hrow | ⟨old, hold, hrow⟩
    · exact hrow ▸ hs.row_timezone
    · exact hrow ▸ hs.tick_timezone process old hold
  · cases commandScheduler_effect h with
    | quiet _ claims => exact claims ▸ hs.claims
    | unknownZone _ _ _ _ claims => exact claims ▸ hs.claims
    | failed _ _ claims => exact claims ▸ hs.claims
    | @granted process tick start tick_eq due _ _ _ claims =>
        intro claim hmem
        rw [claims] at hmem
        rcases List.mem_cons.mp hmem with rfl | hold
        · have hle := isDue_minute hzone (hs.tick_timezone _ _ tick_eq) due
          have hpos := hs.tick_minute _ _ tick_eq
          simp only [candidateFor] at hle
          omega
        · exact hs.claims claim hold

/-- In a zone of constant offset the computed start of a day is at most every claim of that day,
once no claim fell in a first minute. -/
lemma PastFirstMinute.keepsDay {intl : Intl} {offset : Offset} {timezone : Text}
    (hzone : intl timezone = some offset) (hconst : ∀ s t, offset s = offset t)
    {s : SchedulerState} {e : SchedulerEvent} (hs : PastFirstMinute offset timezone s)
    (hG : keepsOwnFailure s e = true) : keepsDay intl s e = true := by
  cases e with
  | considers process storeAnswers =>
      cases htick : s.ticks process with
      | none => simp only [OpenMcc.keepsDay, htick]
      | some tick =>
          have htz : intl tick.row.timezone = some offset :=
            (hs.tick_timezone _ _ htick).symm ▸ hzone
          simp only [OpenMcc.keepsDay, htick, htz]
          split
          case h_2 => rfl
          case h_1 start offset' _ hstart hoffset =>
            cases hoffset
            simp only [List.all_eq_true, Bool.or_eq_true, bne_iff_ne, decide_eq_true_eq]
            intro claim hmem
            by_cases hdate : localDate offset claim = localDate offset tick.instant
            · exact Or.inr (startOfLocalDay_le_of_sameDate htz hconst hstart hdate
                (hs.claims claim hmem))
            · exact Or.inl hdate
  | fails process reason storeAnswers => exact hG
  | reads => rfl
  | sends => rfl

/-- **A command set for any minute but the first runs once a day in a zone of constant offset**,
in every run whose late failures are recorded over their own claims. -/
theorem claims_once_per_localDay_of_constant (intl : Intl)
    (hconst : ∀ timezone offset, intl timezone = some offset → ∀ s t, offset s = offset t)
    {s : SchedulerState} (hminute : 0 < s.row.minuteOfDay)
    (h : (commandScheduler intl).Reachable (meets keepsOwnFailure) s) :
    OncePerLocalDay intl s := by
  intro offset hzone
  obtain ⟨s₀, es, hinit, hpath⟩ := h
  have hzone₀ : intl s₀.row.timezone = some offset :=
    commandScheduler_path_timezone hpath ▸ hzone
  have hminute₀ : s.row.minuteOfDay = s₀.row.minuteOfDay :=
    hpath.invariant (I := fun u => u.row.minuteOfDay = s₀.row.minuteOfDay) rfl
      fun _ _ _ hu _ hstep => (commandScheduler_unedited hstep).2.trans hu
  have hstart : PastFirstMinute offset s₀.row.timezone s₀ :=
    ⟨hminute₀ ▸ hminute, rfl, by simp [hinit.1], by simp [hinit.1], by simp [hinit.2]⟩
  have hkeeps : (commandScheduler intl).Path (meets (keepsDay intl)) s₀ es s :=
    (hpath.strengthen hstart fun _ _ _ ht _ hu => ht.step hzone₀ hu).mono
      fun _ _ hG => hG.2.keepsDay hzone₀ (hconst _ _ hzone₀) hG.1
  exact oncePerLocalDay_of_path hinit hkeeps offset hzone

/-! ## Two processes at midnight -/

/-- A process that knows the zones without an offset only. -/
def utcOnly : Intl := fun timezone => if timezone = "UTC".toList then some fun _ => 0 else none

/-- A command for every day at a minute of the day, not yet run. -/
def dailyAt (minuteOfDay : Int) : SchedulerState where
  row := {
    daysOfWeek := "*".toList
    minuteOfDay := minuteOfDay
    timezone := "UTC".toList
    enabled := true
    lastRunAt := none
    lastRunError := none }
  ticks := fun _ => none
  claims := []

/-- Two processes read the row at two instants before either of them claims. -/
def racingTicks (first second : Int) : List SchedulerEvent :=
  [.reads 0 first, .reads 1 second, .considers 0 true, .sends 0, .considers 1 true]

/-- Two ticks in the minute after midnight both claim a command set for midnight: five seconds
past it is before the start of the day as forty seconds past it computes that. -/
theorem claims_twice_after_midnight :
    ¬ ∀ (intl : Intl) (s : SchedulerState), (commandScheduler intl).Reachable free s →
      OncePerLocalDay intl s := by
  intro hall
  obtain ⟨s, hrun, hrow, hclaims⟩ : ∃ s,
      (commandScheduler utcOnly).exec (dailyAt 0) (racingTicks 5000 40000) = some s ∧
        s.row.timezone = "UTC".toList ∧ s.claims = [40000, 5000] :=
    ⟨_, rfl, rfl, rfl⟩
  have honce := hall utcOnly s (.of_exec ⟨fun _ => rfl, rfl⟩ hrun) (fun _ => 0)
    (by rw [hrow]; rfl)
  rw [hclaims] at honce
  revert honce
  decide

/-- The same two ticks a minute later keep the day, and the second of them claims nothing. -/
theorem claims_once_per_localDay_utc :
    ∃ s, (commandScheduler utcOnly).execUnder (keepsDay utcOnly) (dailyAt 1)
        (racingTicks 65000 100000) = some s ∧
      s.claims = [65000] ∧ OncePerLocalDay utcOnly s := by
  obtain ⟨s, hrun, hclaims⟩ : ∃ s,
      (commandScheduler utcOnly).execUnder (keepsDay utcOnly) (dailyAt 1)
        (racingTicks 65000 100000) = some s ∧ s.claims = [65000] :=
    ⟨_, rfl, rfl⟩
  exact ⟨s, hrun, hclaims,
    claims_once_per_localDay utcOnly (.of_execUnder ⟨fun _ => rfl, rfl⟩ hrun)⟩

end OpenMcc

import OpenMcc.Construction.SleepWindow

/-!
# Which sleep windows wake the bot they put to sleep

The two timers of a window elapse on the same weekdays.  A window that ends later in the day than
it begins is over on the day of each stop.  One that crosses midnight is over on the day after, and
the start timer elapses on that day only if it is one of the window's own: so the bot is woken at
the end of every window exactly if the window names every weekday (`sleep_window_wakes_iff`).
-/

namespace OpenMcc

/-! ## The days of the week -/

lemma mem_daysOfWeek (day : DayOfWeek) : day ∈ daysOfWeek := by
  cases day <;> decide

lemma mem_orderedDays {days : List DayOfWeek} {day : DayOfWeek} :
    day ∈ orderedDays days ↔ day ∈ days := by
  simp [orderedDays, mem_daysOfWeek]

/-- A week of seven ordered days has all of them. -/
lemma mem_of_length_orderedDays {days : List DayOfWeek}
    (h : (orderedDays days).length = daysOfWeek.length) (day : DayOfWeek) : day ∈ days := by
  have hall : orderedDays days = daysOfWeek := List.filter_sublist.eq_of_length h
  rw [← mem_orderedDays, hall]
  exact mem_daysOfWeek day

lemma weekdayOf_congr {date date' : Int} (h : date % 7 = date' % 7) :
    weekdayOf date = weekdayOf date' := by
  rw [weekdayOf, weekdayOf, h]

lemma exists_weekdayOf (day : DayOfWeek) : ∃ date, weekdayOf date = day := by
  cases day with
  | mon => exact ⟨4, rfl⟩
  | tue => exact ⟨5, rfl⟩
  | wed => exact ⟨6, rfl⟩
  | thu => exact ⟨0, rfl⟩
  | fri => exact ⟨1, rfl⟩
  | sat => exact ⟨2, rfl⟩
  | sun => exact ⟨3, rfl⟩

/-- Days that hold the day after each of theirs are all days, or none. -/
lemma mem_of_next {days : List DayOfWeek} (hne : days ≠ [])
    (hnext : ∀ date, weekdayOf date ∈ days → weekdayOf (date + 1) ∈ days) (day : DayOfWeek) :
    day ∈ days := by
  obtain ⟨first, rest, rfl⟩ := List.exists_cons_of_ne_nil hne
  obtain ⟨date, hdate⟩ := exists_weekdayOf first
  have hlater : ∀ n : Nat, weekdayOf (date + n) ∈ first :: rest := by
    intro n
    induction n with
    | zero =>
      rw [Int.natCast_zero, Int.add_zero, hdate]
      exact List.mem_cons_self
    | succ n ih =>
      have hsucc := hnext _ ih
      rwa [Int.add_assoc] at hsucc
  obtain ⟨target, rfl⟩ := exists_weekdayOf day
  have hsame : weekdayOf (date + ((target - date) % 7).toNat) = weekdayOf target :=
    weekdayOf_congr (by omega)
  rw [← hsame]
  exact hlater _

/-! ## What the rendered calendar says -/

/-- The event that a rendered calendar is. -/
def renderedEvent (days : List DayOfWeek) (minutes : Int) (timezone : Text) : CalendarEvent where
  weekdays :=
    if (orderedDays days).length = daysOfWeek.length then none else some (orderedDays days)
  hour := (minutes / 60).toNat
  minute := (minutes % 60).toNat
  second := 0
  timezone := timezone

lemma pad_spec : ∀ value : Nat, value < 60 →
    CalendarEvent.readTwoDigits (pad value) = some value ∧
      (pad value).all (fun c => c != ' ' && c != ':' && c != '\n') = true := by
  decide +kernel

lemma readWeekday_name (day : DayOfWeek) : CalendarEvent.readWeekday day.name = some day := by
  cases day <;> decide

lemma mem_name {day : DayOfWeek} {c : Char} (h : c ∈ day.name) :
    c ≠ ' ' ∧ c ≠ ',' ∧ c ≠ '\n' := by
  have hall : day.name.all (fun c => c != ' ' && c != ',' && c != '\n') = true := by
    cases day <;> decide
  simpa [and_assoc] using List.all_eq_true.1 hall c h

lemma not_mem_dayNames {days : List DayOfWeek} {c : Char} (h : c ∈ dayNames days) :
    c ≠ ' ' ∧ c ≠ '\n' := by
  obtain hcomma | ⟨piece, hpiece, hc⟩ := Text.mem_join h
  · have heq : c = ',' := by simpa using hcomma
    rw [heq]
    decide
  · obtain ⟨day, -, rfl⟩ := List.mem_map.1 hpiece
    obtain ⟨hspace, -, hnewline⟩ := mem_name hc
    exact ⟨hspace, hnewline⟩

lemma mapM_readWeekday : ∀ days : List DayOfWeek,
    (days.map DayOfWeek.name).mapM CalendarEvent.readWeekday = some days
  | [] => rfl
  | day :: days => by
    rw [List.map_cons, List.mapM_cons, readWeekday_name, mapM_readWeekday days]
    rfl

lemma splitOn_dayNames {days : List DayOfWeek} (hne : days ≠ []) :
    (dayNames days).splitOn ',' = days.map DayOfWeek.name := by
  refine List.splitOn_intercalate ',' (fun piece hpiece hmem => ?_) (by simpa using hne)
  obtain ⟨day, -, rfl⟩ := List.mem_map.1 hpiece
  exact (mem_name hmem).2.1 rfl

/-- The names of days are read back. -/
lemma read_dayNames {days : List DayOfWeek} (hne : days ≠ []) :
    ((dayNames days).splitOn ',').mapM CalendarEvent.readWeekday = some days := by
  rw [splitOn_dayNames hne, mapM_readWeekday]

/-- The time of day that a calendar shows. -/
def timeText (minutes : Int) : Text :=
  pad (minutes / 60) ++ ":".toList ++ pad (minutes % 60) ++ ":00".toList

lemma pad_of_lt (value : Int) (h : 0 ≤ value) (hlt : value < 60) :
    CalendarEvent.readTwoDigits (pad value) = some value.toNat ∧
      ∀ c ∈ pad value, c ≠ ' ' ∧ c ≠ ':' ∧ c ≠ '\n' := by
  obtain ⟨n, rfl⟩ := Int.eq_ofNat_of_zero_le h
  obtain ⟨hread, hall⟩ := pad_spec n (by omega)
  refine ⟨hread, fun c hc => ?_⟩
  simpa [and_assoc] using List.all_eq_true.1 hall c hc

lemma mem_timeText {minutes : Int} (h : 0 ≤ minutes) (hlt : minutes < 1440) {c : Char}
    (hc : c ∈ timeText minutes) : c ≠ ' ' ∧ c ≠ '\n' := by
  have hhour := (pad_of_lt (minutes / 60) (by omega) (by omega)).2
  have hminute := (pad_of_lt (minutes % 60) (by omega) (by omega)).2
  simp only [timeText, List.mem_append] at hc
  obtain ((hc | hc) | hc) | hc := hc
  · exact ⟨(hhour c hc).1, (hhour c hc).2.2⟩
  · have heq : c = ':' := by simpa using hc
    rw [heq]
    decide
  · exact ⟨(hminute c hc).1, (hminute c hc).2.2⟩
  · have hall : ":00".toList.all (fun c => c != ' ' && c != '\n') = true := by decide
    simpa using List.all_eq_true.1 hall c hc

/-- A time of day is read back. -/
lemma readTime_timeText {minutes : Int} (h : 0 ≤ minutes) (hlt : minutes < 1440)
    (weekdays : Option (List DayOfWeek)) (zone : Text) :
    CalendarEvent.readTime weekdays "*-*-*".toList (timeText minutes) zone = some {
      weekdays := weekdays
      hour := (minutes / 60).toNat
      minute := (minutes % 60).toNat
      second := 0
      timezone := zone } := by
  obtain ⟨hhour, hhourChars⟩ := pad_of_lt (minutes / 60) (by omega) (by omega)
  obtain ⟨hminute, hminuteChars⟩ := pad_of_lt (minutes % 60) (by omega) (by omega)
  have hsplit : (timeText minutes).splitOn ':' =
      [pad (minutes / 60), pad (minutes % 60), "00".toList] := by
    have htext : timeText minutes =
        pad (minutes / 60) ++ ':' :: (pad (minutes % 60) ++ ':' :: "00".toList) := by
      simp [timeText]
    rw [htext, List.splitOn_append_cons_self_of_not_mem fun hc => (hhourChars _ hc).2.1 rfl,
      List.splitOn_append_cons_self_of_not_mem fun hc => (hminuteChars _ hc).2.1 rfl]
    rfl
  rw [CalendarEvent.readTime, if_pos rfl, hsplit]
  simp only [hhour, hminute]
  rfl

lemma mem_of_mem_splitOn (sep : Char) {c : Char} : ∀ {t : Text}, c ∈ t →
    c = sep ∨ ∃ piece ∈ t.splitOn sep, c ∈ piece
  | [], h => by cases h
  | x :: t, h => by
    rw [List.splitOn_cons_eq_if_modifyHead]
    by_cases hx : x == sep
    · rw [if_pos hx]
      obtain rfl | h := List.mem_cons.1 h
      · exact .inl (by simpa using hx)
      · obtain heq | ⟨piece, hpiece, hc⟩ := mem_of_mem_splitOn sep h
        · exact .inl heq
        · exact .inr ⟨piece, List.mem_cons_of_mem _ hpiece, hc⟩
    · rw [if_neg hx]
      obtain ⟨first, rest, hsplit⟩ := List.exists_cons_of_ne_nil (List.splitOn_ne_nil sep t)
      rw [hsplit, List.modifyHead_cons]
      obtain rfl | h := List.mem_cons.1 h
      · exact .inr ⟨_, List.mem_cons_self, List.mem_cons_self⟩
      · obtain heq | ⟨piece, hpiece, hc⟩ := mem_of_mem_splitOn sep h
        · exact .inl heq
        · rw [hsplit] at hpiece
          obtain rfl | hpiece := List.mem_cons.1 hpiece
          · exact .inr ⟨_, List.mem_cons_self, List.mem_cons_of_mem _ hc⟩
          · exact .inr ⟨piece, List.mem_cons_of_mem _ hpiece, hc⟩

lemma isZoneCharacter_ne {c : Char} (h : isZoneCharacter c = true) : c ≠ ' ' ∧ c ≠ '\n' := by
  constructor
  · rintro rfl
    revert h
    decide
  · rintro rfl
    revert h
    decide

/-- A zone name has no blank and no line end. -/
lemma not_mem_timezone {timezone : Text} (h : timezonePattern timezone = true) {c : Char}
    (hc : c ∈ timezone) : c ≠ ' ' ∧ c ≠ '\n' := by
  obtain rfl | ⟨piece, hpiece, hmem⟩ := mem_of_mem_splitOn '/' hc
  · decide
  · unfold timezonePattern at h
    cases hsplit : timezone.splitOn '/' with
    | nil => exact absurd hsplit (List.splitOn_ne_nil _ _)
    | cons first names =>
      rw [hsplit] at h hpiece
      simp only [Bool.and_eq_true, List.all_eq_true] at h
      obtain ⟨⟨⟨-, hfirst⟩, -⟩, hnames⟩ := h
      obtain rfl | hpiece := List.mem_cons.1 hpiece
      · exact isZoneCharacter_ne (hfirst c hmem)
      · exact isZoneCharacter_ne ((hnames piece hpiece).2 c hmem)

lemma validateTimezone_ok {timezone zone : Text} (h : validateTimezone timezone = .ok zone) :
    zone = timezone ∧ timezonePattern timezone = true := by
  unfold validateTimezone at h
  split at h
  · cases h
  · rename_i hpattern
    simp only [Bool.or_eq_true, Bool.not_eq_true', not_or, Bool.not_eq_false] at hpattern
    exact ⟨(Except.ok.inj h).symm, hpattern.1⟩

/-- **A rendered calendar is read back.** -/
lemma read_renderOnCalendar {days : List DayOfWeek} {minutes : Int} {timezone expression : Text}
    (h : 0 ≤ minutes) (hlt : minutes < 1440)
    (hrender : renderOnCalendar days minutes timezone = .ok expression) :
    CalendarEvent.read expression = some (renderedEvent days minutes timezone) ∧
      '\n' ∉ expression := by
  unfold renderOnCalendar at hrender
  cases hweekdays : calendarWeekdayPrefix days with
  | error error =>
    rw [hweekdays] at hrender
    cases hrender
  | ok weekdays =>
    cases hzone : validateTimezone timezone with
    | error error =>
      rw [hweekdays, hzone] at hrender
      cases hrender
    | ok zone =>
      rw [hweekdays, hzone] at hrender
      obtain ⟨rfl, hpattern⟩ := validateTimezone_ok hzone
      have htext : expression =
          weekdays ++ ("*-*-*".toList ++ ' ' :: (timeText minutes ++ ' ' :: zone)) := by
        rw [← Except.ok.inj hrender]
        simp [timeText]
      have hread := readTime_timeText h hlt
      have hdate : ' ' ∉ "*-*-*".toList := by decide
      have htime : ' ' ∉ timeText minutes := fun hc => (mem_timeText h hlt hc).1 rfl
      have hzoneText : ' ' ∉ zone := fun hc => (not_mem_timezone hpattern hc).1 rfl
      have hrest : ("*-*-*".toList ++ ' ' :: (timeText minutes ++ ' ' :: zone)).splitOn ' ' =
          ["*-*-*".toList, timeText minutes, zone] := by
        rw [List.splitOn_append_cons_self_of_not_mem hdate,
          List.splitOn_append_cons_self_of_not_mem htime, List.splitOn_eq_singleton hzoneText]
      have hlines : '\n' ∉ "*-*-*".toList ++ ' ' :: (timeText minutes ++ ' ' :: zone) := by
        intro hc
        simp only [List.mem_append, List.mem_cons] at hc
        obtain hc | hc | hc | hc | hc := hc
        · exact absurd hc (by decide)
        · exact absurd hc (by decide)
        · exact (mem_timeText h hlt hc).2 rfl
        · exact absurd hc (by decide)
        · exact (not_mem_timezone hpattern hc).2 rfl
      unfold calendarWeekdayPrefix at hweekdays
      simp only at hweekdays
      split at hweekdays
      · cases hweekdays
      case isFalse hne =>
        rw [List.isEmpty_iff] at hne
        split at hweekdays
        case isTrue hall =>
          obtain rfl := Except.ok.inj hweekdays
          rw [List.nil_append] at htext
          rw [htext, CalendarEvent.read, hrest]
          refine ⟨?_, hlines⟩
          rw [renderedEvent, if_pos hall]
          exact hread none zone
        case isFalse hall =>
          obtain rfl := Except.ok.inj hweekdays
          have htext' : expression = dayNames (orderedDays days) ++
              ' ' :: ("*-*-*".toList ++ ' ' :: (timeText minutes ++ ' ' :: zone)) := by
            rw [htext]
            simp
          have hnames : ' ' ∉ dayNames (orderedDays days) := fun hc => (not_mem_dayNames hc).1 rfl
          rw [htext', CalendarEvent.read, List.splitOn_append_cons_self_of_not_mem hnames, hrest]
          constructor
          · simp only [read_dayNames hne, Option.bind_some]
            rw [renderedEvent, if_neg hall]
            exact hread (some (orderedDays days)) zone
          · intro hc
            obtain hc | hc := List.mem_append.1 hc
            · exact (not_mem_dayNames hc).2 rfl
            · obtain hc | hc := List.mem_cons.1 hc
              · exact absurd hc (by decide)
              · exact hlines hc

/-! ## When a timer fires -/

/-- The calendar of a timer unit is the one it was made with. -/
lemma onCalendars_timerUnit {name description expression instanceId : Text}
    (hdescription : '\n' ∉ description) (hexpression : '\n' ∉ expression)
    (hid : '\n' ∉ instanceId) :
    onCalendars ⟨name, timerUnit description expression instanceId⟩ = [expression] := by
  have hlines : (timerUnit description expression instanceId).lines =
      timerUnitLines description expression instanceId := by
    refine Text.lines_join (by simp [timerUnitLines]) fun piece hpiece => ?_
    simp only [timerUnitLines, List.mem_cons, List.not_mem_nil, or_false] at hpiece
    obtain rfl | rfl | rfl | rfl | rfl | rfl | rfl | rfl | rfl | rfl | rfl := hpiece
    · decide
    · simp only [List.mem_append, not_or]
      exact ⟨⟨⟨by decide, hdescription⟩, by decide⟩, hid⟩
    · decide
    · decide
    · simp only [List.mem_append, not_or]
      exact ⟨by decide, hexpression⟩
    · decide
    · decide
    · decide
    · decide
    · decide
    · decide
  rw [onCalendars, hlines]
  rfl

lemma validateInstanceId_ok {id id' : Text} (h : validateInstanceId id = .ok id') :
    id' = id ∧ '\n' ∉ id := by
  unfold validateInstanceId at h
  split at h
  · cases h
  · split at h
    · cases h
    · rename_i hpattern
      refine ⟨(Except.ok.inj h).symm, fun hmem => ?_⟩
      simp only [Bool.not_eq_true', Bool.not_eq_false, instanceIdPattern, Bool.and_eq_true,
        List.all_eq_true] at hpattern
      exact absurd (hpattern.2 _ hmem) (by decide)

/-- The wall clock shows a minute of the day, on one of the days. -/
def ShowsAt (offset : Offset) (days : List DayOfWeek) (minutes instant : Int) : Prop :=
  localMs offset instant % dayMs = minutes * 60000 ∧ weekdayOf (localDate offset instant) ∈ days

/-- What the event of a rendered calendar waits for. -/
lemma elapsesAt_renderedEvent {days : List DayOfWeek} {minutes : Int} {timezone : Text}
    (h : 0 ≤ minutes) (offset : Offset) (instant : Int) :
    (renderedEvent days minutes timezone).ElapsesAt offset instant ↔
      ShowsAt offset days minutes instant := by
  have htime : (((minutes / 60).toNat * 3600 + (minutes % 60).toNat * 60 + 0 : Nat) : Int) * 1000 =
      minutes * 60000 := by omega
  unfold CalendarEvent.ElapsesAt ShowsAt renderedEvent
  rw [htime]
  refine and_congr_right fun _ => ?_
  by_cases hall : (orderedDays days).length = daysOfWeek.length
  · simp only [hall, if_true]
    exact iff_of_true nofun (mem_of_length_orderedDays hall _)
  · simp only [hall, if_false, Option.some.injEq, forall_eq', mem_orderedDays]

/-- **When a rendered timer fires**, on a host that knows the window's zone. -/
lemma firesAt_rendered (intl : Intl) {offset : Offset} {days : List DayOfWeek} {minutes : Int}
    {timezone expression description instanceId : Text} (hdescription : '\n' ∉ description)
    (hid : '\n' ∉ instanceId) (h : 0 ≤ minutes) (hlt : minutes < 1440)
    (hzone : intl timezone = some offset)
    (hrender : renderOnCalendar days minutes timezone = .ok expression) (name : Text)
    (instant : Int) :
    UnitFile.FiresAt ⟨name, timerUnit description expression instanceId⟩ intl instant ↔
      ShowsAt offset days minutes instant := by
  obtain ⟨hread, hexpression⟩ := read_renderOnCalendar h hlt hrender
  unfold UnitFile.FiresAt
  rw [onCalendars_timerUnit hdescription hexpression hid]
  constructor
  · rintro ⟨read, hmem, event, zone, hevent, hknown, helapses⟩
    obtain rfl := List.mem_singleton.1 hmem
    obtain rfl := Option.some.inj (hread.symm.trans hevent)
    obtain rfl := Option.some.inj (hzone.symm.trans hknown)
    exact (elapsesAt_renderedEvent h _ _).1 helapses
  · intro hshows
    exact ⟨expression, List.mem_singleton_self _, _, offset, hread, hzone,
      (elapsesAt_renderedEvent h _ _).2 hshows⟩

/-! ## Stops and starts -/

/-- The condition: the window ends on the day it begins, or it names every weekday. -/
def SleepWindowInput.endsOnItsDays (window : SleepWindowInput) : Prop :=
  minuteOfDay window.stopAt < minuteOfDay window.startAt ∨ ∀ day, day ∈ window.daysOfWeek

section ConstantOffset

variable {offset : Offset} {days : List DayOfWeek} {stop start : Int}

/-- A minute of a date, in a zone of constant offset. -/
lemma showsAt_of_date (hconst : ∀ s t, offset s = offset t) (days : List DayOfWeek) (date : Int)
    {minutes : Int} (h : 0 ≤ minutes) (hlt : minutes < 1440) :
    ∃ instant, localDate offset instant = date ∧
      (ShowsAt offset days minutes instant ↔ weekdayOf date ∈ days) ∧
      instant = date * dayMs + minutes * 60000 - offset 0 := by
  have hoffset := hconst (date * dayMs + minutes * 60000 - offset 0) 0
  have hdate : localDate offset (date * dayMs + minutes * 60000 - offset 0) = date := by
    simp only [localDate, localMs, dayMs] at *
    omega
  refine ⟨_, hdate, ?_, rfl⟩
  rw [ShowsAt, hdate]
  refine and_iff_right ?_
  simp only [localMs, dayMs] at *
  omega

/-- The stop timer's window is over less than a day after each stop, exactly under the condition. -/
lemma wakes_iff (hconst : ∀ s t, offset s = offset t) (hne : days ≠ []) (hstop : 0 ≤ stop)
    (hstopLt : stop < 1440) (hstart : 0 ≤ start) (hstartLt : start < 1440)
    (hdiffer : stop ≠ start) :
    (∀ stopped, ShowsAt offset days stop stopped → ∃ started,
        ShowsAt offset days start started ∧ stopped < started ∧ started < stopped + dayMs) ↔
      stop < start ∨ ∀ day, day ∈ days := by
  constructor
  · intro hwakes
    by_contra hnot
    rw [not_or] at hnot
    refine hnot.2 (mem_of_next hne fun date hdate => ?_)
    -- The only start within a day of a stop on this date is on the next date.
    obtain ⟨stopped, hstopDate, hshows, hstopped⟩ :=
      showsAt_of_date hconst days date hstop hstopLt
    obtain ⟨started, ⟨htime, hday⟩, hafter, hbefore⟩ := hwakes stopped (hshows.2 hdate)
    have hnext : localDate offset started = date + 1 := by
      have hoffset := hconst started 0
      simp only [localDate, localMs, dayMs] at *
      omega
    rwa [hnext] at hday
  · rintro hcondition stopped ⟨htime, hday⟩
    have hoffset := hconst stopped 0
    have hstopped : stopped =
        localDate offset stopped * dayMs + stop * 60000 - offset 0 := by
      simp only [localDate, localMs, dayMs] at *
      omega
    by_cases hsame : stop < start
    · obtain ⟨started, -, hshows, hstarted⟩ :=
        showsAt_of_date hconst days (localDate offset stopped) hstart hstartLt
      refine ⟨started, hshows.2 hday, ?_, ?_⟩
      · omega
      · simp only [dayMs] at *
        omega
    · have hall := hcondition.resolve_left hsame
      obtain ⟨started, -, hshows, hstarted⟩ :=
        showsAt_of_date hconst days (localDate offset stopped + 1) hstart hstartLt
      refine ⟨started, hshows.2 (hall _), ?_, ?_⟩
      · simp only [dayMs] at *
        omega
      · simp only [dayMs] at *
        omega

end ConstantOffset

lemma minuteOfDay_bounds {time : TimeOfDay} (h : time.accepted = true) :
    0 ≤ minuteOfDay time ∧ minuteOfDay time < 1440 := by
  simp only [TimeOfDay.accepted, Bool.and_eq_true, decide_eq_true_eq] at h
  unfold minuteOfDay
  omega

/-- **Which sleep windows wake the bot.**  For each window that is accepted and rendered, on a host
that knows its zone as one of constant offset: every firing of the stop timer is followed by one of
the start timer less than 24 hours later, if and only if the window ends on the day it begins or
names every weekday. -/
theorem sleep_window_wakes_iff {isKnownTimezone : Text → Bool} {intl : Intl} {offset : Offset}
    {window : SleepWindowInput} {timers : SleepTimers}
    (haccepted : sleepWindowAccepted isKnownTimezone window = true)
    (hrender : renderSleepTimers window = .ok timers) (hzone : intl window.timezone = some offset)
    (hconst : ∀ s t, offset s = offset t) :
    timers.Wake intl ↔ window.endsOnItsDays := by
  simp only [sleepWindowAccepted, Bool.and_eq_true, decide_eq_true_eq, bne_iff_ne] at haccepted
  obtain ⟨⟨⟨⟨⟨⟨⟨⟨⟨-, hdays⟩, -⟩, hstopAt⟩, hstartAt⟩, -⟩, -⟩, -⟩, -⟩, hdiffer⟩ := haccepted
  obtain ⟨hstop, hstopLt⟩ := minuteOfDay_bounds hstopAt
  obtain ⟨hstart, hstartLt⟩ := minuteOfDay_bounds hstartAt
  have hne : window.daysOfWeek ≠ [] := by
    intro hnil
    rw [hnil] at hdays
    exact absurd hdays (by decide)
  unfold renderSleepTimers at hrender
  cases hid : validateInstanceId window.instanceId with
  | error error =>
    rw [hid] at hrender
    cases hrender
  | ok instanceId =>
    cases hstopText : renderOnCalendar window.daysOfWeek (minuteOfDay window.stopAt)
        window.timezone with
    | error error =>
      rw [hid, hstopText] at hrender
      cases hrender
    | ok stopText =>
      cases hstartText : renderOnCalendar window.daysOfWeek (minuteOfDay window.startAt)
          window.timezone with
      | error error =>
        rw [hid, hstopText, hstartText] at hrender
        cases hrender
      | ok startText =>
        rw [hid, hstopText, hstartText] at hrender
        obtain rfl := Except.ok.inj hrender
        obtain ⟨rfl, hidText⟩ := validateInstanceId_ok hid
        have hstopText' : '\n' ∉ "Sleep window stop".toList := by decide
        have hstartText' : '\n' ∉ "Sleep window start".toList := by decide
        have hstopFires := firesAt_rendered intl hstopText' hidText hstop hstopLt hzone hstopText
        have hstartFires :=
          firesAt_rendered intl hstartText' hidText hstart hstartLt hzone hstartText
        unfold SleepTimers.Wake SleepWindowInput.endsOnItsDays
        simp only [hstopFires, hstartFires]
        exact wakes_iff hconst hne hstop hstopLt hstart hstartLt hdiffer

/-- A window of every weekday that crosses midnight. -/
def everyNight : SleepWindowInput where
  instanceId := "bot".toList
  daysOfWeek := daysOfWeek
  stopAt := ⟨23, 0⟩
  startAt := ⟨7, 0⟩
  timezone := "UTC".toList

/-- It wakes its bot each morning. -/
theorem sleep_window_wakes_iff_everyNight :
    ∃ timers, renderSleepTimers everyNight = .ok timers ∧ timers.Wake fun _ => some fun _ => 0 := by
  obtain ⟨timers, hrender⟩ : ∃ timers, renderSleepTimers everyNight = .ok timers := ⟨_, rfl⟩
  have haccepted : sleepWindowAccepted (fun _ => true) everyNight = true := by decide +kernel
  have hiff : timers.Wake (fun _ => some fun _ => 0) ↔ everyNight.endsOnItsDays :=
    sleep_window_wakes_iff haccepted hrender rfl fun _ _ => rfl
  exact ⟨timers, hrender, hiff.2 (.inr mem_daysOfWeek)⟩

/-- The night after Monday. -/
def mondayNight : SleepWindowInput :=
  { everyNight with daysOfWeek := [.mon] }

/-- The bot is stopped on Monday at eleven in the evening, and not started on Tuesday. -/
theorem monday_night_is_not_woken :
    ¬∀ (isKnownTimezone : Text → Bool) (intl : Intl) (offset : Offset) (window : SleepWindowInput)
      (timers : SleepTimers), sleepWindowAccepted isKnownTimezone window = true →
      renderSleepTimers window = .ok timers → intl window.timezone = some offset →
      (∀ s t, offset s = offset t) → timers.Wake intl := by
  intro hclaim
  obtain ⟨timers, hrender⟩ : ∃ timers, renderSleepTimers mondayNight = .ok timers := ⟨_, rfl⟩
  have haccepted : sleepWindowAccepted (fun _ => true) mondayNight = true := by decide +kernel
  have hwake := hclaim _ (fun _ => some fun _ => 0) _ _ _ haccepted hrender rfl fun _ _ => rfl
  obtain rfl := Except.ok.inj hrender
  have hdescription : '\n' ∉ "Sleep window stop".toList := by decide
  have hdescription' : '\n' ∉ "Sleep window start".toList := by decide
  have hid : '\n' ∉ mondayNight.instanceId := by decide
  have hstops := firesAt_rendered (fun _ => some fun _ => 0) hdescription hid
    (by decide : (0 : Int) ≤ 1380) (by decide) rfl
    (rfl : renderOnCalendar [.mon] 1380 "UTC".toList = .ok "Mon *-*-* 23:00:00 UTC".toList)
    "open-mcc-sleep-stop@bot.timer".toList
  have hstarts := firesAt_rendered (fun _ => some fun _ => 0) hdescription' hid
    (by decide : (0 : Int) ≤ 420) (by decide) rfl
    (rfl : renderOnCalendar [.mon] 420 "UTC".toList = .ok "Mon *-*-* 07:00:00 UTC".toList)
    "open-mcc-sleep-start@bot.timer".toList
  obtain ⟨started, hstarted, hafter, hbefore⟩ :=
    hwake 428400000 ((hstops 428400000).2 ⟨by decide, by decide⟩)
  obtain ⟨htime, hday⟩ := (hstarts started).1 hstarted
  have htuesday : localDate (fun _ => 0) started = 5 := by
    simp only [localDate, localMs, dayMs] at *
    omega
  rw [htuesday] at hday
  exact absurd hday (by decide)

end OpenMcc

import OpenMcc.Construction.Due

/-!
# Sleep windows and their timers (`schedule.ts`, `contracts/schedule.ts`)

A sleep window is rendered as two timer units of the host, one that stops the bot and one that
starts it.  Each has a calendar event of its own, over the same weekdays.

`CalendarEvent` reads the events of that shape as the host's service manager documents them: an
optional list of weekdays, a date, a time of day and a zone.  It elapses at each instant whose
wall clock in the zone shows that time on one of those days.
-/

namespace OpenMcc

/-! ## The window -/

/-- `TimeOfDay`, before its bounds are checked. -/
structure TimeOfDay where
  hour : Int
  minute : Int
  deriving DecidableEq, Repr

/-- `timeOfDaySchema`. -/
def TimeOfDay.accepted (time : TimeOfDay) : Bool :=
  decide (0 ≤ time.hour) && decide (time.hour ≤ 23) && decide (0 ≤ time.minute) &&
    decide (time.minute ≤ 59)

/-- `minuteOfDay`. -/
def minuteOfDay (time : TimeOfDay) : Int := time.hour * 60 + time.minute

/-- `SleepWindowInput`, which is also the `RenderableSleepWindow`. -/
structure SleepWindowInput where
  instanceId : Text
  daysOfWeek : List DayOfWeek
  stopAt : TimeOfDay
  startAt : TimeOfDay
  timezone : Text
  deriving DecidableEq, Repr

/-- A character of `[A-Za-z]`. -/
def isAsciiLetter (c : Char) : Bool := ('A' ≤ c && c ≤ 'Z') || ('a' ≤ c && c ≤ 'z')

/-- A character of `[A-Za-z0-9+_-]`. -/
def isZoneCharacter (c : Char) : Bool :=
  isAsciiLetter c || Text.isDigit c || c == '+' || c == '_' || c == '-'

/-- `TIMEZONE_PATTERN`: one to three names between slashes, the first of which starts with a
letter. -/
def timezonePattern (timezone : Text) : Bool :=
  match timezone.splitOn '/' with
  | [] => false
  | first :: names =>
    first.head?.any isAsciiLetter && first.all isZoneCharacter && decide (names.length ≤ 2) &&
      names.all fun name => !name.isEmpty && name.all isZoneCharacter

/-- `sleepWindowInput` accepts the window.  `isKnownTimezone` asks the zone database of the
process. -/
def sleepWindowAccepted (isKnownTimezone : Text → Bool) (window : SleepWindowInput) : Bool :=
  !window.instanceId.isEmpty &&
    decide (1 ≤ window.daysOfWeek.length) && decide (window.daysOfWeek.length ≤ 7) &&
    window.stopAt.accepted && window.startAt.accepted &&
    decide (1 ≤ window.timezone.utf16Length) && decide (window.timezone.utf16Length ≤ 64) &&
    timezonePattern window.timezone && isKnownTimezone window.timezone &&
    minuteOfDay window.stopAt != minuteOfDay window.startAt

/-! ## Rendering -/

/-- `InternalError`, with its message. -/
structure InternalError where
  message : Text
  deriving DecidableEq, Repr

/-- A character of `[A-Za-z0-9_-]`. -/
def isIdCharacter (c : Char) : Bool := isAsciiLetter c || Text.isDigit c || c == '_' || c == '-'

/-- `INSTANCE_ID_PATTERN`. -/
def instanceIdPattern (id : Text) : Bool :=
  decide (1 ≤ id.length) && decide (id.length ≤ 64) && id.all isIdCharacter

/-- `validateInstanceId`. -/
def validateInstanceId (id : Text) : Except InternalError Text :=
  if id.contains '%' then
    .error ⟨"Instance id must not contain '%', which systemd expands as a specifier".toList⟩
  else if !instanceIdPattern id then
    .error ⟨"Instance id must be 1-64 characters of letters, digits, '-' and '_'".toList⟩
  else .ok id

/-- `validateTimezone`. -/
def validateTimezone (timezone : Text) : Except InternalError Text :=
  if !timezonePattern timezone || decide (64 < timezone.utf16Length) then
    .error ⟨"Refusing to render a timer for an unrecognised timezone: ".toList ++ timezone⟩
  else .ok timezone

/-- `orderedDays`. -/
def orderedDays (days : List DayOfWeek) : List DayOfWeek := daysOfWeek.filter days.contains

/-- The names of days, as they are joined with commas. -/
def dayNames (days : List DayOfWeek) : Text := Text.join ",".toList (days.map DayOfWeek.name)

/-- `calendarWeekdayPrefix`. -/
def calendarWeekdayPrefix (days : List DayOfWeek) : Except InternalError Text :=
  let ordered := orderedDays days
  if ordered.isEmpty then .error ⟨"A sleep window must name at least one day".toList⟩
  else if ordered.length = daysOfWeek.length then .ok []
  else .ok (dayNames ordered ++ " ".toList)

/-- `String(value)`. -/
def wholeNumber (value : Int) : Text :=
  if value < 0 then '-' :: Nat.toDigits 10 value.natAbs else Nat.toDigits 10 value.natAbs

/-- `pad`: two characters at least. -/
def pad (value : Int) : Text := List.leftpad 2 '0' (wholeNumber value)

/-- `renderOnCalendar`. -/
def renderOnCalendar (days : List DayOfWeek) (minutes : Int) (timezone : Text) :
    Except InternalError Text := do
  let weekdays ← calendarWeekdayPrefix days
  let zone ← validateTimezone timezone
  return weekdays ++ "*-*-* ".toList ++ pad (minutes / 60) ++ ":".toList ++ pad (minutes % 60) ++
    ":00 ".toList ++ zone

/-- The lines of `timerUnit`. -/
def timerUnitLines (description onCalendar instanceId : Text) : List Text := [
  "[Unit]".toList,
  "Description=".toList ++ description ++ " for open-mcc instance ".toList ++ instanceId,
  [],
  "[Timer]".toList,
  "OnCalendar=".toList ++ onCalendar,
  "Persistent=false".toList,
  "AccuracySec=30s".toList,
  [],
  "[Install]".toList,
  "WantedBy=timers.target".toList,
  []]

/-- `timerUnit`. -/
def timerUnit (description onCalendar instanceId : Text) : Text :=
  Text.join "\n".toList (timerUnitLines description onCalendar instanceId)

/-- `SLEEP_STOP_UNIT`. -/
def sleepStopUnit : Text := "open-mcc-sleep-stop".toList

/-- `SLEEP_START_UNIT`. -/
def sleepStartUnit : Text := "open-mcc-sleep-start".toList

/-- A unit file: its name and its text. -/
structure UnitFile where
  name : Text
  text : Text
  deriving DecidableEq, Repr

/-- The two timers of a window, in the order of the record that holds them. -/
structure SleepTimers where
  stop : UnitFile
  start : UnitFile
  deriving DecidableEq, Repr

/-- `renderSleepTimers`. -/
def renderSleepTimers (window : SleepWindowInput) : Except InternalError SleepTimers := do
  let instanceId ← validateInstanceId window.instanceId
  let stop ← renderOnCalendar window.daysOfWeek (minuteOfDay window.stopAt) window.timezone
  let start ← renderOnCalendar window.daysOfWeek (minuteOfDay window.startAt) window.timezone
  return {
    stop := {
      name := sleepStopUnit ++ "@".toList ++ instanceId ++ ".timer".toList
      text := timerUnit "Sleep window stop".toList stop instanceId }
    start := {
      name := sleepStartUnit ++ "@".toList ++ instanceId ++ ".timer".toList
      text := timerUnit "Sleep window start".toList start instanceId } }

/-! ## What a timer does on its host -/

/-- A calendar event over every date: its weekdays, if it is restricted to some, its time of day
and its zone. -/
structure CalendarEvent where
  weekdays : Option (List DayOfWeek)
  hour : Nat
  minute : Nat
  second : Nat
  timezone : Text
  deriving DecidableEq, Repr

namespace CalendarEvent

/-- A number of two digits. -/
def readTwoDigits : Text → Option Nat
  | [tens, units] =>
    if Text.isDigit tens && Text.isDigit units then
      some ((tens.toNat - '0'.toNat) * 10 + (units.toNat - '0'.toNat))
    else none
  | _ => none

/-- A weekday by its name. -/
def readWeekday (name : Text) : Option DayOfWeek :=
  daysOfWeek.find? fun day => day.name == name

/-- The event of a date, a time and a zone. -/
def readTime (weekdays : Option (List DayOfWeek)) (date time zone : Text) :
    Option CalendarEvent :=
  if date = "*-*-*".toList then
    match time.splitOn ':' with
    | [hour, minute, second] => do
      let hour ← readTwoDigits hour
      let minute ← readTwoDigits minute
      let second ← readTwoDigits second
      return {
        weekdays := weekdays
        hour := hour
        minute := minute
        second := second
        timezone := zone }
    | _ => none
  else none

/-- The event that an expression is. -/
def read (expression : Text) : Option CalendarEvent :=
  match expression.splitOn ' ' with
  | [date, time, zone] => readTime none date time zone
  | [weekdays, date, time, zone] =>
    ((weekdays.splitOn ',').mapM readWeekday).bind fun days => readTime (some days) date time zone
  | _ => none

/-- The event elapses at an instant, by the wall clock of its zone. -/
def ElapsesAt (event : CalendarEvent) (offset : Offset) (instant : Int) : Prop :=
  localMs offset instant % dayMs =
      (event.hour * 3600 + event.minute * 60 + event.second : Nat) * 1000 ∧
    ∀ days, event.weekdays = some days → weekdayOf (localDate offset instant) ∈ days

end CalendarEvent

/-- The calendar expressions of a unit file. -/
def onCalendars (unit : UnitFile) : List Text :=
  unit.text.lines.filterMap fun line =>
    if "OnCalendar=".toList.isPrefixOf line then some (line.drop 11) else none

/-- The timer fires at an instant, on a host with this zone database. -/
def UnitFile.FiresAt (unit : UnitFile) (intl : Intl) (instant : Int) : Prop :=
  ∃ expression ∈ onCalendars unit, ∃ event offset,
    CalendarEvent.read expression = some event ∧ intl event.timezone = some offset ∧
      event.ElapsesAt offset instant

/-- **A bot put to sleep is woken**: each firing of the stop timer is followed by one of the start
timer less than 24 hours later. -/
def SleepTimers.Wake (timers : SleepTimers) (intl : Intl) : Prop :=
  ∀ stopped, timers.stop.FiresAt intl stopped →
    ∃ started, timers.start.FiresAt intl started ∧ stopped < started ∧ started < stopped + dayMs

end OpenMcc

import Mathlib.Data.Nat.ModEq
import Mathlib.Tactic.Ring
import OpenMcc.Framework.Text

/-!
# Dates and their text

A date counts milliseconds from the start of 1970, a hundred million days either way.
`toISOString` writes it by the Gregorian calendar in a fixed form, and `parse` reads that form back
(`parse_toISOString`).

Days are counted in years that begin in March, so that a leap day is the last of its year: 400
years repeat, a century has 36524 days, four years have 1461, and the months from March on have
31, 30, 31, 30 and 31 days in turn.
-/

namespace OpenMcc

/-! ## Digits -/

/-- A number in exactly so many digits. -/
def writeFixed : Nat → Nat → Text
  | 0, _ => []
  | n + 1, value => Nat.digitChar (value / 10 ^ n % 10) :: writeFixed n value

/-- Exactly so many digits, after the number they continue. -/
def readFixed : Nat → Nat → Text → Option (Nat × Text)
  | 0, value, rest => some (value, rest)
  | _ + 1, _, [] => none
  | n + 1, value, c :: rest =>
    if Text.isDigit c then readFixed n (value * 10 + (c.toNat - '0'.toNat)) rest else none

lemma isDigit_digitChar {d : Nat} (h : d < 10) : Text.isDigit (Nat.digitChar d) = true := by
  revert d
  decide

lemma digitChar_value {d : Nat} (h : d < 10) : (Nat.digitChar d).toNat - '0'.toNat = d := by
  revert d
  decide

/-- Digits that were written are read back, as far as they go. -/
lemma readFixed_writeFixed (n before value : Nat) (rest : Text) :
    readFixed n before (writeFixed n value ++ rest) =
      some (before * 10 ^ n + value % 10 ^ n, rest) := by
  induction n generalizing before with
  | zero => simp [readFixed, writeFixed, Nat.mod_one]
  | succ n ih =>
    have hdigit : value / 10 ^ n % 10 < 10 := Nat.mod_lt _ (by decide)
    rw [writeFixed, List.cons_append, readFixed, if_pos (isDigit_digitChar hdigit),
      digitChar_value hdigit, ih]
    have hvalue : (before * 10 + value / 10 ^ n % 10) * 10 ^ n + value % 10 ^ n =
        before * 10 ^ (n + 1) + value % 10 ^ (n + 1) := by
      rw [Nat.mod_pow_succ]
      ring
    rw [hvalue]

lemma not_mem_writeFixed {c : Char} (h : Text.isDigit c = false) (n value : Nat) :
    c ∉ writeFixed n value := by
  induction n with
  | zero => exact List.not_mem_nil
  | succ n ih =>
    rw [writeFixed, List.mem_cons, not_or]
    refine ⟨fun heq => ?_, ih⟩
    rw [heq, isDigit_digitChar (Nat.mod_lt _ (by decide))] at h
    cases h

/-! ## The calendar -/

/-- A day of the calendar. -/
structure CivilDate where
  year : Int
  month : Int
  day : Int
  deriving DecidableEq, Repr

/-- A day as it is counted: of a cycle of 400 years, and in it of a century, of four years and of
a year. -/
structure CycleDay where
  cycle : Int
  century : Int
  fourYears : Int
  year : Int
  day : Int
  deriving DecidableEq, Repr

namespace CycleDay

/-- The day with this number from the start of 1970 on. -/
def ofDays (days : Int) : CycleDay :=
  let fromMarch := days + 719468
  let inCycle := fromMarch % 146097
  let century := min 3 (inCycle / 36524)
  let inCentury := inCycle - 36524 * century
  let fourYears := inCentury / 1461
  let inFour := inCentury - 1461 * fourYears
  let year := min 3 (inFour / 365)
  { cycle := fromMarch / 146097
    century := century
    fourYears := fourYears
    year := year
    day := inFour - 365 * year }

/-- The number of the day. -/
def days (d : CycleDay) : Int :=
  146097 * d.cycle + 36524 * d.century + 1461 * d.fourYears + 365 * d.year + d.day - 719468

/-- The day is where it is counted to be. -/
structure WellFormed (d : CycleDay) : Prop where
  century : 0 ≤ d.century ∧ d.century ≤ 3
  fourYears : 0 ≤ d.fourYears ∧ d.fourYears ≤ 24
  year : 0 ≤ d.year ∧ d.year ≤ 3
  day : 0 ≤ d.day ∧ d.day ≤ 365

lemma wellFormed_ofDays (days : Int) : (ofDays days).WellFormed := by
  have hcycle : 0 ≤ (days + 719468) % 146097 ∧ (days + 719468) % 146097 < 146097 := by omega
  unfold ofDays
  generalize (days + 719468) % 146097 = inCycle at hcycle
  have hcentury : 0 ≤ inCycle - 36524 * min 3 (inCycle / 36524) ∧
      inCycle - 36524 * min 3 (inCycle / 36524) ≤ 36524 := by omega
  constructor
  · simp only
    omega
  · simp only
    generalize inCycle - 36524 * min 3 (inCycle / 36524) = inCentury at hcentury ⊢
    omega
  · simp only
    generalize inCycle - 36524 * min 3 (inCycle / 36524) = inCentury at hcentury ⊢
    omega
  · simp only
    generalize inCycle - 36524 * min 3 (inCycle / 36524) = inCentury at hcentury ⊢
    omega

lemma days_ofDays (days : Int) : (ofDays days).days = days := by
  simp only [ofDays, CycleDay.days]
  omega

/-- The month from March on, from 0. -/
def march (d : CycleDay) : Int := (5 * d.day + 2) / 153

/-- The year that begins in March. -/
def marchYear (d : CycleDay) : Int :=
  400 * d.cycle + 100 * d.century + 4 * d.fourYears + d.year

/-- The calendar's day. -/
def civil (d : CycleDay) : CivilDate where
  year := if d.march < 10 then d.marchYear else d.marchYear + 1
  month := if d.march < 10 then d.march + 3 else d.march - 9
  day := d.day - (153 * d.march + 2) / 5 + 1

/-- The day of the calendar, as it is counted. -/
def ofCivil (date : CivilDate) : CycleDay :=
  let march := if date.month ≤ 2 then date.month + 9 else date.month - 3
  let year := if date.month ≤ 2 then date.year - 1 else date.year
  { cycle := year / 400
    century := year % 400 / 100
    fourYears := year % 100 / 4
    year := year % 4
    day := (153 * march + 2) / 5 + date.day - 1 }

lemma march_bounds {d : CycleDay} (h : d.WellFormed) : 0 ≤ d.march ∧ d.march ≤ 11 := by
  have hday := h.day
  unfold march
  omega

/-- **A day is found again from the calendar.** -/
lemma ofCivil_civil {d : CycleDay} (h : d.WellFormed) : ofCivil d.civil = d := by
  obtain ⟨hcentury, hfourYears, hyear, hday⟩ := h
  have hmarch := march_bounds ⟨hcentury, hfourYears, hyear, hday⟩
  have hmonth : (if d.civil.month ≤ 2 then d.civil.month + 9 else d.civil.month - 3) = d.march := by
    simp only [civil]
    omega
  have hmarchYear : (if d.civil.month ≤ 2 then d.civil.year - 1 else d.civil.year) =
      d.marchYear := by
    simp only [civil]
    omega
  rw [ofCivil, hmonth, hmarchYear]
  obtain ⟨cycle, century, fourYears, year, day⟩ := d
  simp only at hcentury hfourYears hyear hday
  simp only [civil, marchYear, CycleDay.mk.injEq]
  refine ⟨?_, ?_, ?_, ?_, ?_⟩ <;> omega

end CycleDay

/-! ## Dates -/

/-- `Date`: an instant, in milliseconds. -/
structure Date where
  ms : Int
  valid : -8640000000000000 ≤ ms ∧ ms ≤ 8640000000000000
  deriving DecidableEq, Repr

namespace Date

/-- The date at an instant, if there is one. -/
def ofMs (ms : Int) : Option Date :=
  if h : -8640000000000000 ≤ ms ∧ ms ≤ 8640000000000000 then some ⟨ms, h⟩ else none

/-- A year in four digits, or with its sign in six. -/
def writeYear (year : Int) : Text :=
  if 0 ≤ year ∧ year ≤ 9999 then writeFixed 4 year.toNat
  else (if year < 0 then '-' else '+') :: writeFixed 6 year.natAbs

/-- `toISOString`. -/
def toISOString (date : Date) : Text :=
  let civil := (CycleDay.ofDays (date.ms / 86400000)).civil
  let time := date.ms % 86400000
  writeYear civil.year ++ '-' :: (writeFixed 2 civil.month.toNat ++
    '-' :: (writeFixed 2 civil.day.toNat ++ 'T' :: (writeFixed 2 (time / 3600000).toNat ++
      ':' :: (writeFixed 2 (time / 60000 % 60).toNat ++
        ':' :: (writeFixed 2 (time / 1000 % 60).toNat ++
          '.' :: (writeFixed 3 (time % 1000).toNat ++ ['Z']))))))

/-- The text after a mark. -/
def skip (mark : Char) : Text → Option Text
  | [] => none
  | c :: rest => if c = mark then some rest else none

/-- A year. -/
def readYear : Text → Option (Int × Text)
  | '+' :: rest => (readFixed 6 0 rest).map fun (year, rest) => ((year : Int), rest)
  | '-' :: rest => (readFixed 6 0 rest).map fun (year, rest) => (-(year : Int), rest)
  | rest => (readFixed 4 0 rest).map fun (year, rest) => ((year : Int), rest)

/-- A number in so many digits, and the mark after it. -/
def readField (n : Nat) (mark : Char) (t : Text) : Option (Nat × Text) := do
  let (value, t) ← readFixed n 0 t
  let t ← skip mark t
  return (value, t)

/-- A day of the calendar, up to the mark of the time. -/
def readDay (t : Text) : Option (CivilDate × Text) := do
  let (year, t) ← readYear t
  let t ← skip '-' t
  let (month, t) ← readField 2 '-' t
  let (day, t) ← readField 2 'T' t
  return (⟨year, month, day⟩, t)

/-- A time of the day, to its end. -/
def readTime (t : Text) : Option (Int × Text) := do
  let (hours, t) ← readField 2 ':' t
  let (minutes, t) ← readField 2 ':' t
  let (seconds, t) ← readField 2 '.' t
  let (ms, t) ← readField 3 'Z' t
  return (hours * 3600000 + minutes * 60000 + seconds * 1000 + ms, t)

/-- `new Date` of the form that `toISOString` writes. -/
def parse (t : Text) : Option Date := do
  let (civil, t) ← readDay t
  let (time, t) ← readTime t
  if t ≠ [] then none
  else ofMs ((CycleDay.ofCivil civil).days * 86400000 + time)

lemma skip_cons (mark : Char) (rest : Text) : skip mark (mark :: rest) = some rest :=
  if_pos rfl

/-- A number that fits is read back as it is. -/
lemma readFixed_fits {n value : Nat} (h : value < 10 ^ n) (rest : Text) :
    readFixed n 0 (writeFixed n value ++ rest) = some (value, rest) := by
  rw [readFixed_writeFixed, Nat.zero_mul, Nat.zero_add, Nat.mod_eq_of_lt h]

lemma readField_writeFixed {n value : Nat} (mark : Char) (h : value < 10 ^ n) (rest : Text) :
    readField n mark (writeFixed n value ++ mark :: rest) = some (value, rest) := by
  rw [readField, readFixed_fits h]
  simp [skip_cons]

/-- A year in four digits starts with none of the signs. -/
lemma readYear_of_digits {rest : Text} (n : Nat) (value : Nat) :
    readYear (writeFixed (n + 1) value ++ rest) =
      (readFixed 4 0 (writeFixed (n + 1) value ++ rest)).map
        fun (year, rest) => ((year : Int), rest) := by
  have hdigit : Text.isDigit (Nat.digitChar (value / 10 ^ n % 10)) = true :=
    isDigit_digitChar (Nat.mod_lt _ (by decide))
  rw [writeFixed, List.cons_append]
  generalize Nat.digitChar (value / 10 ^ n % 10) = c at hdigit
  unfold readYear
  split
  · next heq =>
    rw [(List.cons.inj heq).1] at hdigit
    exact absurd hdigit (by decide)
  · next heq =>
    rw [(List.cons.inj heq).1] at hdigit
    exact absurd hdigit (by decide)
  · rfl

lemma readYear_writeYear {year : Int} (h : -1000000 < year ∧ year < 1000000) (rest : Text) :
    readYear (writeYear year ++ rest) = some (year, rest) := by
  unfold writeYear
  split
  · next hfour =>
    rw [readYear_of_digits, readFixed_fits (by omega)]
    simp [hfour.1]
  · rw [List.cons_append]
    split
    · next hnegative =>
      rw [readYear, readFixed_fits (by omega)]
      have habs : -(year.natAbs : Int) = year := by omega
      simp only [Option.map_some, habs]
    · next hpositive =>
      rw [readYear, readFixed_fits (by omega)]
      have habs : (year.natAbs : Int) = year := by omega
      simp only [Option.map_some, habs]

/-- The calendar's day of a date, within what its text has room for. -/
lemma civil_bounds (date : Date) :
    let civil := (CycleDay.ofDays (date.ms / 86400000)).civil
    (-1000000 < civil.year ∧ civil.year < 1000000) ∧ (1 ≤ civil.month ∧ civil.month ≤ 12) ∧
      (1 ≤ civil.day ∧ civil.day ≤ 31) := by
  have hformed := CycleDay.wellFormed_ofDays (date.ms / 86400000)
  have hmarch := CycleDay.march_bounds hformed
  have hdays := CycleDay.days_ofDays (date.ms / 86400000)
  have hvalid := date.valid
  obtain ⟨hcentury, hfourYears, hyear, hday⟩ := hformed
  generalize CycleDay.ofDays (date.ms / 86400000) = d at *
  simp only [CycleDay.days] at hdays
  simp only [CycleDay.civil, CycleDay.marchYear]
  refine ⟨?_, ?_, ?_⟩
  · split <;> omega
  · split <;> omega
  · unfold CycleDay.march
    omega

lemma readDay_writeDay {civil : CivilDate} (hyear : -1000000 < civil.year ∧ civil.year < 1000000)
    (hmonth : 1 ≤ civil.month ∧ civil.month ≤ 12) (hday : 1 ≤ civil.day ∧ civil.day ≤ 31)
    (rest : Text) :
    readDay (writeYear civil.year ++ '-' :: (writeFixed 2 civil.month.toNat ++
      '-' :: (writeFixed 2 civil.day.toNat ++ 'T' :: rest))) = some (civil, rest) := by
  have hmonth' : (civil.month.toNat : Int) = civil.month := Int.toNat_of_nonneg (by omega)
  have hday' : (civil.day.toNat : Int) = civil.day := Int.toNat_of_nonneg (by omega)
  rw [readDay, readYear_writeYear hyear]
  simp only [Option.bind_eq_bind, Option.bind_some, skip_cons]
  rw [readField_writeFixed '-' (by omega)]
  simp only [Option.bind_some]
  rw [readField_writeFixed 'T' (by omega)]
  simp only [Option.bind_some, hmonth', hday']
  rfl

lemma readTime_writeTime {time : Int} (h : 0 ≤ time ∧ time < 86400000) :
    readTime (writeFixed 2 (time / 3600000).toNat ++
      ':' :: (writeFixed 2 (time / 60000 % 60).toNat ++
        ':' :: (writeFixed 2 (time / 1000 % 60).toNat ++
          '.' :: (writeFixed 3 (time % 1000).toNat ++ ['Z'])))) = some (time, []) := by
  rw [readTime, readField_writeFixed ':' (by omega)]
  simp only [Option.bind_eq_bind, Option.bind_some]
  rw [readField_writeFixed ':' (by omega)]
  simp only [Option.bind_some]
  rw [readField_writeFixed '.' (by omega)]
  simp only [Option.bind_some]
  rw [readField_writeFixed 'Z' (by omega)]
  have hsum : ((time / 3600000).toNat * 3600000 + (time / 60000 % 60).toNat * 60000 +
      (time / 1000 % 60).toNat * 1000 + (time % 1000).toNat : Int) = time := by
    omega
  simp only [Option.bind_some, hsum]
  rfl

/-- **The text of a date is read back as the date.** -/
theorem parse_toISOString (date : Date) : parse date.toISOString = some date := by
  obtain ⟨hyear, hmonth, hday⟩ := civil_bounds date
  have hback := CycleDay.ofCivil_civil (CycleDay.wellFormed_ofDays (date.ms / 86400000))
  have hdays := CycleDay.days_ofDays (date.ms / 86400000)
  have htime : 0 ≤ date.ms % 86400000 ∧ date.ms % 86400000 < 86400000 := by omega
  have hsum : (CycleDay.ofCivil (CycleDay.ofDays (date.ms / 86400000)).civil).days * 86400000 +
      date.ms % 86400000 = date.ms := by
    rw [hback, hdays]
    omega
  rw [parse, toISOString, readDay_writeDay hyear hmonth hday]
  simp only [Option.bind_eq_bind, Option.bind_some]
  rw [readTime_writeTime htime]
  simp only [Option.bind_some, ne_eq, not_true_eq_false, if_false, hsum]
  exact dif_pos date.valid

/-- No other characters are in the text of a date. -/
lemma not_mem_toISOString {c : Char} (hdigit : Text.isDigit c = false)
    (hmark : c ∉ ['-', '+', 'T', ':', '.', 'Z']) (date : Date) : c ∉ date.toISOString := by
  have hwritten := not_mem_writeFixed hdigit
  have hyear : ∀ year, c ∉ writeYear year := by
    intro year
    unfold writeYear
    split
    · exact hwritten _ _
    · rw [List.mem_cons, not_or]
      refine ⟨fun heq => ?_, hwritten _ _⟩
      split at heq
      · simp [heq] at hmark
      · simp [heq] at hmark
  simp only [List.mem_cons, List.not_mem_nil, or_false, not_or] at hmark
  simp only [toISOString, List.mem_append, List.mem_cons, List.not_mem_nil, or_false, not_or]
  simp [hyear, hwritten, hmark]

/-! ## Dates as they are read -/

/-- The names of the weekdays, from that of the start of 1970 on. -/
def weekdayNames : List Text := ["Thu", "Fri", "Sat", "Sun", "Mon", "Tue", "Wed"].map String.toList

/-- The names of the months. -/
def monthNames : List Text :=
  ["Jan", "Feb", "Mar", "Apr", "May", "Jun", "Jul", "Aug", "Sep", "Oct", "Nov", "Dec"].map
    String.toList

/-- A year in at least four digits, with its sign if it is before the year 0. -/
def writeLongYear (year : Int) : Text :=
  (if year < 0 then ['-'] else []) ++
    if year.natAbs < 10000 then writeFixed 4 year.natAbs
    else if year.natAbs < 100000 then writeFixed 5 year.natAbs
    else writeFixed 6 year.natAbs

/-- `toUTCString`. -/
def toUTCString (date : Date) : Text :=
  let days := date.ms / 86400000
  let civil := (CycleDay.ofDays days).civil
  let time := date.ms % 86400000
  weekdayNames.getD (days % 7).toNat [] ++ ", ".toList ++ writeFixed 2 civil.day.toNat ++
    ' ' :: monthNames.getD (civil.month - 1).toNat [] ++ ' ' :: writeLongYear civil.year ++
      ' ' :: writeFixed 2 (time / 3600000).toNat ++ ':' :: writeFixed 2 (time / 60000 % 60).toNat ++
        ':' :: writeFixed 2 (time / 1000 % 60).toNat ++ " GMT".toList

/-- No other characters are in the text of a date. -/
lemma not_mem_toUTCString {c : Char} (hdigit : Text.isDigit c = false)
    (hnames : ∀ name ∈ weekdayNames ++ monthNames, c ∉ name)
    (hmark : c ∉ ['-', ':', ',', ' ', 'G', 'M', 'T']) (date : Date) : c ∉ date.toUTCString := by
  have hwritten := not_mem_writeFixed hdigit
  have hname : ∀ (names : List Text) (n : Nat), names ⊆ weekdayNames ++ monthNames →
      c ∉ names[n]?.getD [] := by
    intro names n hsubset hmem
    cases hn : names[n]? with
    | none => rw [hn] at hmem; cases hmem
    | some name =>
      rw [hn] at hmem
      exact hnames name (hsubset (List.mem_of_getElem? hn)) hmem
  have hweekday := fun n => hname weekdayNames n (List.subset_append_left _ _)
  have hmonth := fun n => hname monthNames n (List.subset_append_right _ _)
  simp only [List.mem_cons, List.not_mem_nil, or_false, not_or] at hmark
  have hyear : ∀ year, c ∉ writeLongYear year := by
    intro year
    unfold writeLongYear
    rw [List.mem_append, not_or]
    constructor
    · split
      · simp [hmark]
      · exact List.not_mem_nil
    · split
      · exact hwritten _ _
      · split
        · exact hwritten _ _
        · exact hwritten _ _
  simp [toUTCString, hweekday, hmonth, hyear, hwritten, hmark]

end Date

example : Date.toISOString ⟨951782399999, by decide⟩ = "2000-02-28T23:59:59.999Z".toList := by
  decide

example : Date.toUTCString ⟨951782399999, by decide⟩ = "Mon, 28 Feb 2000 23:59:59 GMT".toList := by
  decide

end OpenMcc

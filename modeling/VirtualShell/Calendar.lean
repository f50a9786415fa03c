/-!
Contract: the date and the time of day at a number of seconds after the start of 1970.

Owns:
- `Moment`, a month, a day and a time of day, and `Moment.ofSeconds`.
- `Moment.text`, the abbreviated month, the day, and the hour and minute.
- `Moment.atTime`, the moment at a time that the clock of the host has and its calendar
  shows, and `TimeDefect`, why there is none.

Days are counted in eras of four hundred years of the Gregorian calendar; a year
begins in March, so that the leap day is its last. The host counts seconds in 64 bits
and years in 32, from 1900 on in its calendar and from 0 on where it writes them.
-/

namespace VirtualShell

/-- A month from 1 to 12, a day from 1 to 31, an hour and a minute. -/
structure Moment where
  month : Nat
  day : Nat
  hour : Nat
  minute : Nat
deriving DecidableEq, Repr

/-- Why a time is not shown. -/
inductive TimeDefect where
  | beyondClock
  | beyondCalendar
  | beyondYears
deriving DecidableEq, Repr

/-- The wording of a defect. -/
def TimeDefect.message : TimeDefect → String
  | .beyondClock => "timestamp out of range for platform time_t"
  | .beyondCalendar => "[Errno 75] Value too large for defined data type"
  | .beyondYears => "signed integer is greater than maximum"

namespace Moment

/-- The month and the day at a number of days after the start of 1970. -/
def monthAndDay (days : Int) : Nat × Nat :=
  let dayOfEra := ((days + 719468) % 146097).toNat
  let yearOfEra :=
    (dayOfEra - dayOfEra / 1460 + dayOfEra / 36524 - dayOfEra / 146096) / 365
  let dayOfYear := dayOfEra - (365 * yearOfEra + yearOfEra / 4 - yearOfEra / 100)
  let monthFromMarch := (5 * dayOfYear + 2) / 153
  let day := dayOfYear - (153 * monthFromMarch + 2) / 5 + 1
  (if monthFromMarch < 10 then monthFromMarch + 3 else monthFromMarch - 9, day)

/-- The moment at a number of seconds after the start of 1970. -/
def ofSeconds (seconds : Int) : Moment :=
  let (month, day) := monthAndDay (seconds / 86400)
  let ofDay := (seconds % 86400).toNat
  ⟨month, day, ofDay / 3600, ofDay / 60 % 60⟩

/-- The first second of the year -2147481748, the first one of the calendar. -/
def firstSecond : Int := -67768040609740800

/-- The first second behind the year 2147485547, the last one of the calendar. -/
def calendarEnd : Int := 67768036191676800

/-- The first second behind the year 2147483647, the last one that is written. -/
def yearsEnd : Int := 67767976233532800

/-- The moment at a time. -/
def atTime (seconds : Int) : Except TimeDefect Moment :=
  if seconds < -0x8000000000000000 ∨ 0x8000000000000000 ≤ seconds then .error .beyondClock
  else if seconds < firstSecond ∨ calendarEnd ≤ seconds then .error .beyondCalendar
  else if yearsEnd ≤ seconds then .error .beyondYears
  else .ok (ofSeconds seconds)

/-- The abbreviated names of the months. -/
def monthNames : List String :=
  ["Jan", "Feb", "Mar", "Apr", "May", "Jun", "Jul", "Aug", "Sep", "Oct", "Nov", "Dec"]

/-- A number in at least two characters, with `fill` in front. -/
def twoDigits (fill : String) (value : Nat) : String :=
  if value < 10 then fill ++ toString value else toString value

/-- The abbreviated month, the day, and the hour and minute. -/
def text (moment : Moment) : String :=
  monthNames.getD (moment.month - 1) "" ++ " " ++ twoDigits " " moment.day ++ " " ++
    twoDigits "0" moment.hour ++ ":" ++ twoDigits "0" moment.minute

end Moment

end VirtualShell

/-!
Points in time.

A `Moment` is a date and a time of day in coordinated universal time, to the nanosecond. Its
fields are in range by construction; a second of 60 is a leap second. `ofLocal?` reads a date
and time off a clock that runs ahead of universal time by some minutes.
-/

set_option autoImplicit false

namespace RegistryStorage

/-- Whether a year of the proleptic calendar has a 29th of February. -/
def isLeapYear (year : Int) : Bool := year % 4 == 0 && (year % 100 != 0 || year % 400 == 0)

/-- The number of days of a month. -/
def daysInMonth (year : Int) (month : Nat) : Nat :=
  if month = 2 then (if isLeapYear year then 29 else 28)
  else if month = 4 ∨ month = 6 ∨ month = 9 ∨ month = 11 then 30
  else 31

/-- A calendar date. -/
structure Date where
  year : Int
  month : Nat
  day : Nat
deriving DecidableEq, Repr, Inhabited

namespace Date

/-- The first year that can be written. -/
def firstYear : Int := -262143

/-- The last year that can be written. -/
def lastYear : Int := 262142

/-- Whether there is such a date. -/
def exists? (d : Date) : Bool :=
  firstYear ≤ d.year && d.year ≤ lastYear && 1 ≤ d.month && d.month ≤ 12 &&
    1 ≤ d.day && d.day ≤ daysInMonth d.year d.month

/-- The day after. -/
def next (d : Date) : Date :=
  if d.day < daysInMonth d.year d.month then { d with day := d.day + 1 }
  else if d.month < 12 then ⟨d.year, d.month + 1, 1⟩
  else ⟨d.year + 1, 1, 1⟩

/-- The day before. -/
def previous (d : Date) : Date :=
  if 1 < d.day then { d with day := d.day - 1 }
  else if 1 < d.month then ⟨d.year, d.month - 1, daysInMonth d.year (d.month - 1)⟩
  else ⟨d.year - 1, 12, 31⟩

end Date

/-- A time of day. -/
structure TimeOfDay where
  hour : Nat
  minute : Nat
  second : Nat
  nano : Nat
deriving DecidableEq, Repr, Inhabited

/-- Whether there is such a time of day; any minute may have a leap second. -/
def TimeOfDay.exists? (t : TimeOfDay) : Bool :=
  t.hour < 24 && t.minute < 60 && t.second ≤ 60 && t.nano < 1000000000

/-- A point in time. -/
structure Moment where
  date : Date
  time : TimeOfDay
  date_exists : date.exists? = true := by decide
  time_exists : time.exists? = true := by decide
deriving DecidableEq, Repr

namespace Moment

/-- The beginning of the year 1970. -/
def epoch : Moment where
  date := ⟨1970, 1, 1⟩
  time := ⟨0, 0, 0, 0⟩

instance : Inhabited Moment := ⟨epoch⟩

/-- The moment of a date and a time of day, if there are such. -/
def of? (date : Date) (time : TimeOfDay) : Option Moment :=
  if h : date.exists? = true ∧ time.exists? = true then some ⟨date, time, h.1, h.2⟩ else none

/-- The moment at which a clock that is `ahead` minutes ahead of universal time shows a date
and a time of day. The clock is less than a day ahead or behind. -/
def ofLocal? (date : Date) (time : TimeOfDay) (ahead : Int) : Option Moment :=
  if date.exists? && time.exists? then
    let minutes : Int := time.hour * 60 + time.minute - ahead
    let date :=
      if minutes < 0 then date.previous else if 1440 ≤ minutes then date.next else date
    let minutes := (minutes % 1440).toNat
    of? date { time with hour := minutes / 60, minute := minutes % 60 }
  else none

/-- The moment some nanoseconds after the beginning of the year 1970, without leap seconds. -/
def sinceEpoch (nanoseconds : Nat) : Moment :=
  let seconds := nanoseconds / 1000000000
  let date := Nat.repeat Date.next (seconds / 86400) epoch.date
  let inDay := seconds % 86400
  (of? date ⟨inDay / 3600, inDay / 60 % 60, inDay % 60, nanoseconds % 1000000000⟩).getD epoch

end Moment

end RegistryStorage

import SqlRender.Calendar.Date

namespace SqlRender

def secondsPerDay : Nat := 86400

def microsecondsPerDay : Nat := 86400000000

/-- Microseconds east of the meridian, less than a day in either direction. -/
structure UtcOffset where
  microseconds : Int
  range : -microsecondsPerDay < microseconds ∧ microseconds < microsecondsPerDay
  deriving DecidableEq

/-- A time of day without an offset, to the microsecond. -/
structure Clock where
  hour : Nat
  minute : Nat
  second : Nat
  microsecond : Nat
  hour_lt : hour < 24
  minute_lt : minute < 60
  second_lt : second < 60
  microsecond_lt : microsecond < 1000000
  deriving DecidableEq

structure TimeOfDay where
  clock : Clock
  offset : Option UtcOffset
  deriving DecidableEq

/-- Without an offset the date and time stand for themselves, not for an instant. -/
structure DateTime where
  date : Date
  clock : Clock
  offset : Option UtcOffset
  deriving DecidableEq

namespace UtcOffset

def ofSeconds? (seconds : Int) : Option UtcOffset :=
  if h : -secondsPerDay < seconds ∧ seconds < secondsPerDay then
    some ⟨1000000 * seconds, by unfold secondsPerDay at h; unfold microsecondsPerDay; omega⟩
  else none

/-- The whole seconds, rounded to the west. -/
def seconds (o : UtcOffset) : Int := o.microseconds / 1000000

/-- Sign, hours and minutes, and seconds and microseconds where there are any. -/
def text (o : UtcOffset) : String :=
  let n := o.microseconds.natAbs
  (if o.microseconds < 0 then "-" else "+") ++ Digits.padded 2 (n / 3600000000) ++ ":"
    ++ Digits.padded 2 (n / 60000000 % 60)
    ++ (if n % 60000000 = 0 then "" else ":" ++ Digits.padded 2 (n / 1000000 % 60))
    ++ (if n % 1000000 = 0 then "" else "." ++ Digits.padded 6 (n % 1000000))

end UtcOffset

namespace Clock

def ofFields? (hour minute second microsecond : Nat) : Option Clock :=
  if h : hour < 24 ∧ minute < 60 ∧ second < 60 ∧ microsecond < 1000000 then
    some ⟨hour, minute, second, microsecond, h.1, h.2.1, h.2.2.1, h.2.2.2⟩
  else none

def microsecondOfDay (c : Clock) : Nat :=
  3600000000 * c.hour + 60000000 * c.minute + 1000000 * c.second + c.microsecond

/-- The clock that shows `n` microseconds after midnight. -/
def ofMicrosecondOfDay (n : Nat) (h : n < microsecondsPerDay) : Clock :=
  ⟨n / 3600000000, n / 60000000 % 60, n / 1000000 % 60, n % 1000000,
    by unfold microsecondsPerDay at h; omega, Nat.mod_lt _ (by decide), Nat.mod_lt _ (by decide),
    Nat.mod_lt _ (by decide)⟩

def wholeSeconds (c : Clock) : String :=
  Digits.padded 2 c.hour ++ ":" ++ Digits.padded 2 c.minute ++ ":" ++ Digits.padded 2 c.second

/-- Six places follow the seconds. -/
def toMicroseconds (c : Clock) : String :=
  c.wholeSeconds ++ "." ++ Digits.padded 6 c.microsecond

/-- Six places follow the seconds unless all of them are zero. -/
def text (c : Clock) : String :=
  if c.microsecond = 0 then c.wholeSeconds else c.toMicroseconds

end Clock

/-- Microseconds after midnight at offset zero. Times with other microseconds of their own are
told apart even where these agree. -/
def TimeOfDay.instant (t : TimeOfDay) : Int × Nat :=
  (t.clock.microsecondOfDay - (t.offset.map UtcOffset.microseconds).getD 0, t.clock.microsecond)

namespace DateTime

/-- Microseconds at offset zero, where the first day of the calendar is the day 1. An instant may
lie outside of the calendar. -/
def instant (t : DateTime) : Int :=
  microsecondsPerDay * t.date.number + t.clock.microsecondOfDay
    - (t.offset.map UtcOffset.microseconds).getD 0

/-- The same instant at offset zero, `none` where it lies outside the calendar; a date and time
without an offset is left alone. -/
def utc? (t : DateTime) : Option DateTime :=
  match t.offset with
  | none => some t
  | some o =>
    let moment := (t.clock.microsecondOfDay : Int) - o.microseconds
    let date? :=
      if moment < 0 then t.date.prev?
      else if microsecondsPerDay ≤ moment then t.date.next?
      else some t.date
    let clock := Clock.ofMicrosecondOfDay (moment % microsecondsPerDay).toNat
      (by unfold microsecondsPerDay; omega)
    date?.map fun date ↦ ⟨date, clock, none⟩

end DateTime

end SqlRender

import SqlRender.Text.Digits

namespace SqlRender

def isLeapYear (year : Nat) : Bool :=
  year % 4 = 0 && (year % 100 ≠ 0 || year % 400 = 0)

def daysInMonth (year month : Nat) : Nat :=
  if month = 2 then if isLeapYear year then 29 else 28
  else if month = 4 ∨ month = 6 ∨ month = 9 ∨ month = 11 then 30
  else 31

theorem daysInMonth_pos (year month : Nat) : 1 ≤ daysInMonth year month := by
  unfold daysInMonth
  repeat' split
  all_goals decide

/-- A day of the Gregorian calendar, carried back to year 1, up to year 9999. -/
structure Date where
  year : Nat
  month : Nat
  day : Nat
  year_range : 1 ≤ year ∧ year ≤ 9999
  month_range : 1 ≤ month ∧ month ≤ 12
  day_range : 1 ≤ day ∧ day ≤ daysInMonth year month
  deriving DecidableEq

namespace Date

def ofFields? (year month day : Nat) : Option Date :=
  if hy : 1 ≤ year ∧ year ≤ 9999 then
    if hm : 1 ≤ month ∧ month ≤ 12 then
      if hd : 1 ≤ day ∧ day ≤ daysInMonth year month then some ⟨year, month, day, hy, hm, hd⟩
      else none
    else none
  else none

/-- The last day has no next one. -/
def next? (d : Date) : Option Date :=
  if h : d.day < daysInMonth d.year d.month then
    some ⟨d.year, d.month, d.day + 1, d.year_range, d.month_range, by omega, h⟩
  else if h : d.month < 12 then
    some ⟨d.year, d.month + 1, 1, d.year_range, ⟨by omega, by omega⟩,
      Nat.le_refl 1, daysInMonth_pos _ _⟩
  else if h : d.year < 9999 then
    some ⟨d.year + 1, 1, 1, ⟨by omega, by omega⟩, ⟨by decide, by decide⟩,
      Nat.le_refl 1, daysInMonth_pos _ _⟩
  else none

/-- The first day has no previous one. -/
def prev? (d : Date) : Option Date :=
  if h : 1 < d.day then
    some ⟨d.year, d.month, d.day - 1, d.year_range, d.month_range, by omega,
      by have := d.day_range; omega⟩
  else if h : 1 < d.month then
    some ⟨d.year, d.month - 1, daysInMonth d.year (d.month - 1), d.year_range,
      ⟨by omega, by have := d.month_range; omega⟩, daysInMonth_pos _ _, Nat.le_refl _⟩
  else if h : 1 < d.year then
    some ⟨d.year - 1, 12, 31, ⟨by omega, by have := d.year_range; omega⟩,
      ⟨by decide, by decide⟩, by decide, by simp [daysInMonth]⟩
  else none

/-- The number of days before a year. -/
def daysBeforeYear (year : Nat) : Nat :=
  let past := year - 1
  365 * past + past / 4 - past / 100 + past / 400

/-- The number of days before a month of a year. -/
def daysBeforeMonth (year : Nat) : Nat → Nat
  | 0 => 0
  | 1 => 0
  | month + 2 => daysBeforeMonth year (month + 1) + daysInMonth year (month + 1)

/-- The first day of the calendar has the number 1. -/
def number (d : Date) : Nat := daysBeforeYear d.year + daysBeforeMonth d.year d.month + d.day

def monthDay (d : Date) : String :=
  Digits.padded 2 d.month ++ "-" ++ Digits.padded 2 d.day

/-- Year, month and day with four, two and two digits. -/
def iso (d : Date) : String := Digits.padded 4 d.year ++ "-" ++ d.monthDay

/-- As `iso`, but without zeros in front of the year. -/
def isoShortYear (d : Date) : String := toString d.year ++ "-" ++ d.monthDay

end Date

end SqlRender

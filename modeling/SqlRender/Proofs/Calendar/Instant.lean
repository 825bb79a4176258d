import SqlRender.Calendar.DateTime
import SqlRender.Proofs.Calendar.Number
import SqlRender.Proofs.NumberOrder

/-!
Instants. A date and time without an offset is known from its instant, and these are in the order
of their fields. What stands at offset zero for a date and time with an offset has the same
instant; there is none just where the instant lies before the first or behind the last of all dates
and times without an offset.
-/

namespace SqlRender

namespace Clock

def fields (c : Clock) : List Nat := [c.hour, c.minute, c.second, c.microsecond]

theorem fields_injective : Function.Injective fields := by
  intro c c' h
  cases c
  cases c'
  simp_all [fields]

theorem microsecondOfDay_lt (c : Clock) : c.microsecondOfDay < microsecondsPerDay := by
  have hhour := c.hour_lt
  have hminute := c.minute_lt
  have hsecond := c.second_lt
  have hmicrosecond := c.microsecond_lt
  unfold microsecondOfDay microsecondsPerDay
  omega

theorem microsecondOfDay_lt_iff {c c' : Clock} :
    c.microsecondOfDay < c'.microsecondOfDay ↔ c.fields < c'.fields := by
  have hminute := c.minute_lt
  have hsecond := c.second_lt
  have hmicrosecond := c.microsecond_lt
  have hminute' := c'.minute_lt
  have hsecond' := c'.second_lt
  have hmicrosecond' := c'.microsecond_lt
  have hnone : ¬([] : List Nat) < [] := List.lt_irrefl []
  simp only [microsecondOfDay, fields, List.cons_lt_cons_iff, hnone, and_false, or_false]
  omega

theorem microsecondOfDay_ofMicrosecondOfDay (n : Nat) (h : n < microsecondsPerDay) :
    (ofMicrosecondOfDay n h).microsecondOfDay = n := by
  simp only [microsecondOfDay, ofMicrosecondOfDay]
  omega

end Clock

namespace DateTime

def first : DateTime :=
  ⟨(Date.ofFields? 1 1 1).get (by decide), (Clock.ofFields? 0 0 0 0).get (by decide), none⟩

def last : DateTime :=
  ⟨(Date.ofFields? 9999 12 31).get (by decide),
    (Clock.ofFields? 23 59 59 999999).get (by decide), none⟩

/-- The instant is one of the years 1 to 9999. -/
def InCalendar (t : DateTime) : Prop := first.instant ≤ t.instant ∧ t.instant ≤ last.instant

instance : DecidablePred InCalendar := fun _ ↦ inferInstanceAs (Decidable (_ ∧ _))

def fields (t : DateTime) : List Nat := t.date.fields ++ t.clock.fields

variable {t u : DateTime}

theorem instant_of_offset_eq_none (h : t.offset = none) : t.instant =
    (t.date.number * microsecondsPerDay + t.clock.microsecondOfDay : Nat) := by
  rw [instant, h]
  push_cast
  simp [Int.mul_comm]

theorem instant_lt_iff (ht : t.offset = none) (hu : u.offset = none) :
    t.instant < u.instant ↔ t.fields < u.fields := by
  have hdate : t.date.number = u.date.number ↔ t.date.fields = u.date.fields := by
    rw [Date.number_injective.eq_iff, Date.fields_injective.eq_iff]
  rw [instant_of_offset_eq_none ht, instant_of_offset_eq_none hu, Int.ofNat_lt,
    mul_add_lt_mul_add_iff t.clock.microsecondOfDay_lt u.clock.microsecondOfDay_lt,
    Date.number_lt_iff, hdate, Clock.microsecondOfDay_lt_iff, fields, fields,
    append_lt_append_iff (by rfl)]

theorem eq_of_fields_eq (ht : t.offset = none) (hu : u.offset = none) (h : t.fields = u.fields) :
    t = u := by
  obtain ⟨date, clock, offset⟩ := t
  obtain ⟨date', clock', offset'⟩ := u
  obtain ⟨hdate, hclock⟩ := List.append_inj h rfl
  cases Date.fields_injective hdate
  cases Clock.fields_injective hclock
  cases ht
  cases hu
  rfl

theorem eq_of_instant_eq (ht : t.offset = none) (hu : u.offset = none)
    (h : t.instant = u.instant) : t = u := by
  obtain hlt | heq | hgt := lt_trichotomy t.fields u.fields
  · exact absurd h (Int.ne_of_lt ((instant_lt_iff ht hu).mpr hlt))
  · exact eq_of_fields_eq ht hu heq
  · exact absurd h.symm (Int.ne_of_lt ((instant_lt_iff hu ht).mpr hgt))

theorem inCalendar_iff : t.InCalendar ↔ microsecondsPerDay ≤ t.instant ∧
    t.instant < (Date.daysBeforeYear 10000 + 1) * microsecondsPerDay := by
  have hfirst : first.instant = microsecondsPerDay := by decide
  have hlast : last.instant + 1 = (Date.daysBeforeYear 10000 + 1) * microsecondsPerDay := by decide
  rw [InCalendar, hfirst, ← hlast, Int.lt_add_one_iff]

/-- No date and time without an offset lies outside of the calendar. -/
theorem inCalendar_of_offset_eq_none (h : t.offset = none) : t.InCalendar := by
  have hnumber := t.date.number_bounds
  have hclock := t.clock.microsecondOfDay_lt
  rw [inCalendar_iff, instant_of_offset_eq_none h]
  unfold microsecondsPerDay at *
  omega

theorem offset_of_utc? (h : t.utc? = some u) : u.offset = none := by
  unfold utc? at h
  split at h
  · next hnone =>
    cases h
    exact hnone
  · obtain ⟨date, -, hdate⟩ := Option.map_eq_some_iff.mp h
    cases hdate
    rfl

/-- The moment of the day at offset zero, before or behind the day where it is not in its range. -/
theorem instant_of_offset_eq_some {o : UtcOffset} (h : t.offset = some o) : t.instant =
    microsecondsPerDay * t.date.number + (t.clock.microsecondOfDay - o.microseconds) := by
  rw [instant, h]
  simp only [Option.map_some, Option.getD_some]
  omega

theorem instant_of_utc? (h : t.utc? = some u) : u.instant = t.instant := by
  unfold utc? at h
  split at h
  · cases h
    rfl
  · next o ho =>
    have hoffset := o.range
    have hclock := t.clock.microsecondOfDay_lt
    obtain ⟨date, hdate, hu⟩ := Option.map_eq_some_iff.mp h
    clear h
    cases hu
    rw [instant_of_offset_eq_some ho, instant_of_offset_eq_none rfl,
      Clock.microsecondOfDay_ofMicrosecondOfDay]
    dsimp only
    -- An offset is less than a day, so that the moment lies a day off at the most.
    generalize hmoment : (t.clock.microsecondOfDay : Int) - o.microseconds = moment at *
    unfold microsecondsPerDay at *
    split at hdate
    · have hnumber := Date.number_of_prev? hdate
      omega
    · split at hdate
      · have hnumber := Date.number_of_next? hdate
        omega
      · cases hdate
        omega

theorem not_inCalendar_of_utc? (h : t.utc? = none) : ¬t.InCalendar := by
  unfold utc? at h
  split at h
  · cases h
  · next o ho =>
    have hdate := Option.map_eq_none_iff.mp h
    clear h
    rw [inCalendar_iff, instant_of_offset_eq_some ho]
    generalize (t.clock.microsecondOfDay : Int) - o.microseconds = moment at *
    unfold microsecondsPerDay at *
    split at hdate
    · have hnumber := Date.number_of_prev?_eq_none hdate
      omega
    · split at hdate
      · have hnumber := Date.number_of_next?_eq_none hdate
        omega
      · cases hdate

theorem utc?_of_offset_eq_none (h : t.offset = none) : t.utc? = some t := by
  rw [utc?, h]

theorem utc?_eq_none_iff : t.utc? = none ↔ ¬t.InCalendar := by
  refine ⟨not_inCalendar_of_utc?, fun hout ↦ ?_⟩
  cases h : t.utc? with
  | none => rfl
  | some u =>
    have hin := inCalendar_of_offset_eq_none (offset_of_utc? h)
    rw [InCalendar, instant_of_utc? h] at hin
    exact absurd hin hout

theorem exists_utc?_iff : (∃ u, t.utc? = some u) ↔ t.InCalendar := by
  rw [← Option.ne_none_iff_exists', Ne, utc?_eq_none_iff, not_not]

/-- Two dates and times of one instant stand at the same date and time without an offset. -/
theorem utc?_congr (h : t.instant = u.instant) : t.utc? = u.utc? := by
  have hcalendar : t.InCalendar ↔ u.InCalendar := by
    rw [InCalendar, InCalendar, h]
  by_cases ht : t.InCalendar
  · obtain ⟨t', ht'⟩ := exists_utc?_iff.mpr ht
    obtain ⟨u', hu'⟩ := exists_utc?_iff.mpr (hcalendar.mp ht)
    have hinstant : t'.instant = u'.instant := by
      rw [instant_of_utc? ht', instant_of_utc? hu', h]
    rw [ht', hu', eq_of_instant_eq (offset_of_utc? ht') (offset_of_utc? hu') hinstant]
  · rw [utc?_eq_none_iff.mpr ht, utc?_eq_none_iff.mpr (mt hcalendar.mpr ht)]

/-- The instants of the calendar are those of dates and times without an offset. -/
theorem exists_instant_eq_iff :
    (∃ u : DateTime, u.offset = none ∧ u.instant = t.instant) ↔ t.InCalendar := by
  constructor
  · rintro ⟨u, hu, hinstant⟩
    have hin := inCalendar_of_offset_eq_none hu
    rwa [InCalendar, hinstant] at hin
  · intro hin
    obtain ⟨u, hu⟩ := exists_utc?_iff.mpr hin
    exact ⟨u, offset_of_utc? hu, instant_of_utc? hu⟩

end DateTime

end SqlRender

import Mathlib.Data.List.Lex
import Mathlib.Order.Monotone.Basic
import SqlRender.Calendar.Date

/-!
The numbers of the days of the calendar. The next day has the next number, and days are in the
order of their numbers, so that a day is known from its number.
-/

namespace SqlRender

theorem daysInMonth_le (year month : Nat) : daysInMonth year month ≤ 31 := by
  unfold daysInMonth
  repeat' split
  all_goals decide

namespace Date

theorem daysBeforeMonth_succ (year : Nat) {month : Nat} (h : 1 ≤ month) :
    daysBeforeMonth year (month + 1) = daysBeforeMonth year month + daysInMonth year month := by
  cases month with
  | zero => omega
  | succ month => rfl

theorem daysBeforeMonth_mono (year : Nat) : Monotone (daysBeforeMonth year) := by
  refine monotone_nat_of_le_succ fun month ↦ ?_
  cases month with
  | zero => exact le_rfl
  | succ month => exact Nat.le_add_right _ _

theorem daysBeforeMonth_thirteen (year : Nat) :
    daysBeforeMonth year 13 = if isLeapYear year then 366 else 365 := by
  cases h : isLeapYear year <;> simp [daysBeforeMonth, daysInMonth, h]

theorem isLeapYear_iff (year : Nat) :
    isLeapYear year = true ↔ year % 4 = 0 ∧ (year % 100 ≠ 0 ∨ year % 400 = 0) := by
  simp [isLeapYear]

theorem succ_div_eq (past k : Nat) :
    (past + 1) / k = past / k + if (past + 1) % k = 0 then 1 else 0 := by
  rw [Nat.succ_div]
  simp only [Nat.dvd_iff_mod_eq_zero]

/-- A quotient grows by one just where the year is a multiple, which makes the leap years. -/
theorem daysBeforeYear_succ {year : Nat} (h : 1 ≤ year) :
    daysBeforeYear (year + 1) = daysBeforeYear year + daysBeforeMonth year 13 := by
  obtain ⟨past, rfl⟩ := Nat.exists_eq_add_of_le' h
  have hcenturies : past / 100 ≤ past / 4 := Nat.div_le_div_left (by decide) (by decide)
  have hcentury : (past + 1) % 100 = 0 → (past + 1) % 4 = 0 := by omega
  have hera : (past + 1) % 400 = 0 → (past + 1) % 100 = 0 := by omega
  simp only [daysBeforeMonth_thirteen, isLeapYear_iff, daysBeforeYear, Nat.add_sub_cancel]
  rw [succ_div_eq past 4, succ_div_eq past 100, succ_div_eq past 400]
  generalize past / 4 = fours at *
  generalize past / 100 = hundreds at *
  by_cases h4 : (past + 1) % 4 = 0
  · by_cases h100 : (past + 1) % 100 = 0
    · by_cases h400 : (past + 1) % 400 = 0
      · simp only [h4, h100, h400, ne_eq, not_true_eq_false, or_true, and_self, if_true]
        omega
      · simp only [h4, h100, h400, ne_eq, not_true_eq_false, or_self, and_false, if_true, if_false]
        omega
    · have h400 : ¬(past + 1) % 400 = 0 := mt hera h100
      simp only [h4, h100, h400, ne_eq, not_false_eq_true, or_false, and_self, if_true, if_false]
      omega
  · have h100 : ¬(past + 1) % 100 = 0 := mt hcentury h4
    have h400 : ¬(past + 1) % 400 = 0 := mt hera h100
    simp only [h4, h100, h400, false_and, if_false]
    omega

theorem daysBeforeYear_mono : Monotone fun past ↦ daysBeforeYear (past + 1) := by
  refine monotone_nat_of_le_succ fun past ↦ ?_
  rw [daysBeforeYear_succ (Nat.succ_pos past)]
  exact Nat.le_add_right _ _

theorem daysBeforeYear_le {year year' : Nat} (h : 1 ≤ year) (hle : year ≤ year') :
    daysBeforeYear year ≤ daysBeforeYear year' := by
  have hpast := daysBeforeYear_mono (Nat.sub_le_sub_right hle 1)
  simpa only [Nat.sub_add_cancel h, Nat.sub_add_cancel (h.trans hle)] using hpast

variable (d : Date)

theorem le_daysBeforeMonth_succ :
    daysBeforeMonth d.year d.month + d.day ≤ daysBeforeMonth d.year (d.month + 1) := by
  rw [daysBeforeMonth_succ d.year d.month_range.1]
  exact Nat.add_le_add_left d.day_range.2 _

theorem le_daysBeforeYear_succ : d.number ≤ daysBeforeYear (d.year + 1) := by
  have hmonth : daysBeforeMonth d.year (d.month + 1) ≤ daysBeforeMonth d.year 13 :=
    daysBeforeMonth_mono d.year (Nat.succ_le_succ d.month_range.2)
  have hday := d.le_daysBeforeMonth_succ
  rw [number, daysBeforeYear_succ d.year_range.1]
  omega

theorem number_bounds : 1 ≤ d.number ∧ d.number ≤ daysBeforeYear 10000 := by
  have hday := d.day_range.1
  have hlast := daysBeforeYear_le (Nat.succ_pos d.year) (Nat.succ_le_succ d.year_range.2)
  have hyear := d.le_daysBeforeYear_succ
  refine ⟨?_, hyear.trans hlast⟩
  rw [number]
  omega

variable {d} {d' : Date}

theorem number_of_next? (h : d.next? = some d') : d'.number = d.number + 1 := by
  unfold next? at h
  have hday := d.day_range
  have hmonth := d.month_range
  split at h
  · cases h
    rfl
  · next hlast =>
    have hfull : d.day = daysInMonth d.year d.month := by omega
    split at h
    · cases h
      simp only [number, daysBeforeMonth_succ d.year hmonth.1, hfull]
      omega
    · next hdecember =>
      have htwelve : d.month = 12 := by omega
      split at h
      · cases h
        have hthirteen : daysBeforeMonth d.year 13 =
            daysBeforeMonth d.year 12 + daysInMonth d.year 12 :=
          daysBeforeMonth_succ d.year (by decide)
        rw [htwelve] at hfull
        have hfirst : daysBeforeMonth (d.year + 1) 1 = 0 := rfl
        simp only [number, daysBeforeYear_succ d.year_range.1, htwelve, hfull, hfirst]
        omega
      · cases h

theorem number_of_prev? (h : d.prev? = some d') : d'.number + 1 = d.number := by
  unfold prev? at h
  have hday := d.day_range
  have hmonth := d.month_range
  split at h
  · cases h
    simp only [number]
    omega
  · next hfirst =>
    have hone : d.day = 1 := by omega
    split at h
    · next hlater =>
      cases h
      have hbefore := daysBeforeMonth_succ d.year (show 1 ≤ d.month - 1 by omega)
      rw [Nat.sub_add_cancel hmonth.1] at hbefore
      simp only [number, hone, hbefore]
      omega
    · next hjanuary =>
      have hmonthOne : d.month = 1 := by omega
      split at h
      · next hyear =>
        cases h
        have hbefore := daysBeforeYear_succ (show 1 ≤ d.year - 1 by omega)
        rw [Nat.sub_add_cancel d.year_range.1] at hbefore
        have hthirteen : daysBeforeMonth (d.year - 1) 13 = daysBeforeMonth (d.year - 1) 12 + 31 :=
          rfl
        have hjanuaryDays : daysBeforeMonth d.year 1 = 0 := rfl
        simp only [number, hone, hmonthOne, hbefore, hthirteen, hjanuaryDays]
        omega
      · cases h

theorem number_of_next?_eq_none (h : d.next? = none) : d.number = daysBeforeYear 10000 := by
  unfold next? at h
  have hday := d.day_range
  have hmonth := d.month_range
  have hyear := d.year_range
  split at h
  · cases h
  · split at h
    · cases h
    · split at h
      · cases h
      · have hlast : d.year = 9999 := by omega
        have hdecember : d.month = 12 := by omega
        have hfull : d.day = daysInMonth d.year d.month := by omega
        rw [number, hfull, hlast, hdecember]
        rfl

theorem number_of_prev?_eq_none (h : d.prev? = none) : d.number = 1 := by
  unfold prev? at h
  have hday := d.day_range
  have hmonth := d.month_range
  have hyear := d.year_range
  split at h
  · cases h
  · split at h
    · cases h
    · split at h
      · cases h
      · have hfirst : d.year = 1 := by omega
        have hjanuary : d.month = 1 := by omega
        have hone : d.day = 1 := by omega
        rw [number, hfirst, hjanuary, hone]
        rfl

def fields (d : Date) : List Nat := [d.year, d.month, d.day]

theorem fields_injective : Function.Injective fields := by
  intro d d' h
  cases d
  cases d'
  simp_all [fields]

/-- Days are numbered in the order of year, month and day. -/
theorem number_lt_of_fields_lt (h : d.fields < d'.fields) : d.number < d'.number := by
  have hday := d'.day_range.1
  simp only [fields, List.cons_lt_cons_iff] at h
  obtain hyear | ⟨hyear, hmonth | ⟨hmonth, hday | ⟨-, hnone⟩⟩⟩ := h
  · have hend := d.le_daysBeforeYear_succ
    have hstart := daysBeforeYear_le (Nat.succ_pos d.year) hyear
    simp only [number] at hend ⊢
    simp only [Nat.succ_eq_add_one] at hstart
    omega
  · have hend := d.le_daysBeforeMonth_succ
    have hstart := daysBeforeMonth_mono d.year (Nat.succ_le_of_lt hmonth)
    simp only [number, ← hyear]
    simp only [Nat.succ_eq_add_one] at hstart
    omega
  · simp only [number, hyear, hmonth]
    omega
  · exact absurd hnone (List.lt_irrefl [])

theorem number_lt_iff : d.number < d'.number ↔ d.fields < d'.fields := by
  refine ⟨fun h ↦ ?_, number_lt_of_fields_lt⟩
  obtain hlt | heq | hgt := lt_trichotomy d.fields d'.fields
  · exact hlt
  · rw [fields_injective heq] at h
    exact absurd h (Nat.lt_irrefl _)
  · exact absurd (number_lt_of_fields_lt hgt) (Nat.lt_asymm h)

theorem number_injective : Function.Injective number := by
  intro d d' h
  obtain hlt | heq | hgt := lt_trichotomy d.fields d'.fields
  · exact absurd h (Nat.ne_of_lt (number_lt_of_fields_lt hlt))
  · exact fields_injective heq
  · exact absurd h.symm (Nat.ne_of_lt (number_lt_of_fields_lt hgt))

end Date

end SqlRender

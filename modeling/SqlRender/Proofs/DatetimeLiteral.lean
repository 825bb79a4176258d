import SqlRender.Dialect.Builtin
import SqlRender.Dialect.Literal
import SqlRender.Proofs.Calendar.Instant

/-!
Literals of dates and times. Main statements: such a literal depends on the instant alone, and is
refused just where the instant lies outside of the calendar; with fractional seconds it tells all
instants apart. Behind the year all columns have fixed widths, but the year is written without
zeros in front of it, so that the texts are in the order of the instants only as far as the years
are in the order of their texts.
-/

namespace SqlRender

open Digits

namespace DateTime

/-- The widths of what is written behind the year, each with the mark that follows. -/
def layout : List (Nat × Char) := [(2, '-'), (2, ' '), (2, ':'), (2, ':'), (2, '.'), (6, '\'')]

def fieldsBehindYear (t : DateTime) : List Nat := t.date.month :: t.date.day :: t.clock.fields

theorem fits_layout (t : DateTime) : List.Forall₂ Fits layout t.fieldsBehindYear := by
  have hmonth := t.date.month_range.2
  have hday : t.date.day ≤ 31 := t.date.day_range.2.trans (daysInMonth_le _ _)
  have hhour := t.clock.hour_lt
  have hminute := t.clock.minute_lt
  have hsecond := t.clock.second_lt
  have hmicrosecond := t.clock.microsecond_lt
  refine .cons ⟨by decide, ?_⟩ (.cons ⟨by decide, ?_⟩ (.cons ⟨by decide, ?_⟩
    (.cons ⟨by decide, ?_⟩ (.cons ⟨by decide, ?_⟩ (.cons ⟨by decide, ?_⟩ .nil)))))
  · exact hmonth.trans_lt (by decide)
  · exact hday.trans_lt (by decide)
  · exact hhour.trans (by decide)
  · exact hminute.trans (by decide)
  · exact hsecond.trans (by decide)
  · exact hmicrosecond

theorem fields_eq_cons (t : DateTime) : t.fields = t.date.year :: t.fieldsBehindYear := rfl

end DateTime

namespace Dialect

open DateTime

variable {d : Dialect} {t u : DateTime}

theorem datetimeLiteral_congr (h : t.utc? = u.utc?) :
    d.datetimeLiteral t = d.datetimeLiteral u := by
  rw [datetimeLiteral, datetimeLiteral, h]

theorem datetimeLiteral_of_utc? (h : t.utc? = some u) :
    d.datetimeLiteral t = d.datetimeLiteral u :=
  datetimeLiteral_congr (h.trans (utc?_of_offset_eq_none (offset_of_utc? h)).symm)

theorem datetimeLiteral_of_not_inCalendar (h : ¬t.InCalendar) :
    d.datetimeLiteral t = .error .dateOutOfRange := by
  rw [datetimeLiteral, utc?_eq_none_iff.mpr h]

theorem exists_datetimeLiteral_iff : (∃ sql, d.datetimeLiteral t = .ok sql) ↔ t.InCalendar := by
  constructor
  · rintro ⟨sql, h⟩
    by_contra hout
    rw [datetimeLiteral_of_not_inCalendar hout] at h
    cases h
  · intro hin
    obtain ⟨u, hu⟩ := exists_utc?_iff.mpr hin
    rw [datetimeLiteral, hu]
    exact ⟨_, rfl⟩

theorem datetimeLiteral_eq_error_iff :
    d.datetimeLiteral t = .error .dateOutOfRange ↔ ¬t.InCalendar := by
  refine ⟨fun h hin ↦ ?_, datetimeLiteral_of_not_inCalendar⟩
  obtain ⟨sql, hsql⟩ := exists_datetimeLiteral_iff.mpr hin
  rw [h] at hsql
  cases hsql

/-- A year, and columns of fixed widths behind it. -/
theorem toList_datetimeLiteral (hd : d.fractionalSeconds = true) (ht : t.offset = none) :
    ∃ sql, d.datetimeLiteral t = .ok sql ∧ sql.toList =
      '\'' :: ((toString t.date.year).toList ++ '-' :: columns layout t.fieldsBehindYear) := by
  rw [datetimeLiteral, utc?_of_offset_eq_none ht]
  refine ⟨_, rfl, ?_⟩
  simp [hd, Date.isoShortYear, Date.monthDay, Clock.toMicroseconds, Clock.wholeSeconds, layout,
    fieldsBehindYear, Clock.fields, columns]

theorem eq_of_datetimeLiteral_eq (hd : d.fractionalSeconds = true) (ht : t.offset = none)
    (hu : u.offset = none) (h : d.datetimeLiteral t = d.datetimeLiteral u) : t = u := by
  obtain ⟨sqlT, hsqlT, htextT⟩ := toList_datetimeLiteral hd ht
  obtain ⟨sqlU, hsqlU, htextU⟩ := toList_datetimeLiteral hd hu
  have hsql : sqlT = sqlU := Except.ok.inj (hsqlT.symm.trans (h.trans hsqlU))
  rw [hsql, htextU] at htextT
  obtain ⟨hyear, hcolumns⟩ := toString_dash_inj (List.cons.inj htextT).2
  refine eq_of_fields_eq ht hu ?_
  rw [fields_eq_cons, fields_eq_cons, hyear, columns_inj u.fits_layout t.fits_layout hcolumns]

theorem instant_eq_of_datetimeLiteral_eq (hd : d.fractionalSeconds = true) {sql : String}
    (ht : d.datetimeLiteral t = .ok sql) (hu : d.datetimeLiteral u = .ok sql) :
    t.instant = u.instant := by
  obtain ⟨t', ht'⟩ := exists_utc?_iff.mpr (exists_datetimeLiteral_iff.mp ⟨sql, ht⟩)
  obtain ⟨u', hu'⟩ := exists_utc?_iff.mpr (exists_datetimeLiteral_iff.mp ⟨sql, hu⟩)
  rw [datetimeLiteral_of_utc? ht'] at ht
  rw [datetimeLiteral_of_utc? hu'] at hu
  have heq : t' = u' :=
    eq_of_datetimeLiteral_eq hd (offset_of_utc? ht') (offset_of_utc? hu') (ht.trans hu.symm)
  rw [← instant_of_utc? ht', ← instant_of_utc? hu', heq]

theorem fractionalSeconds_of_mem (h : d ∈ [mysql, postgres, sqlite]) :
    d.fractionalSeconds = true := by
  simp only [List.mem_cons, List.not_mem_nil, or_false] at h
  obtain rfl | rfl | rfl := h <;> rfl

theorem year_columns_lt_iff (ht : t.offset = none) (hu : u.offset = none)
    (h : t.instant < u.instant) :
    (toString t.date.year).toList ++ '-' :: columns layout t.fieldsBehindYear <
        (toString u.date.year).toList ++ '-' :: columns layout u.fieldsBehindYear ↔
      t.date.year * 10 ^ ((toString u.date.year).length - (toString t.date.year).length) ≤
        u.date.year := by
  rw [instant_lt_iff ht hu, fields_eq_cons, fields_eq_cons, List.cons_lt_cons_iff] at h
  have hyear : t.date.year ≤ u.date.year := by
    obtain hlt | ⟨heq, -⟩ := h
    · exact Nat.le_of_lt hlt
    · exact Nat.le_of_eq heq
  rw [← String.length_toList, ← String.length_toList]
  -- Only years of one length are followed by columns at the same places.
  obtain hlength | hlength := Nat.lt_or_eq_of_le (length_toString_mono hyear)
  · exact toString_dash_lt_iff hlength _ _
  · rw [append_lt_append_iff hlength, toString_lt_iff hlength, toString_eq_iff,
      List.cons_lt_cons_self, columns_lt_iff t.fits_layout u.fits_layout, hlength, Nat.sub_self,
      Nat.pow_zero, Nat.mul_one]
    exact iff_of_true h hyear

/-- The text up to the blank in front of the time. -/
def datePart (sql : String) : String :=
  String.ofList (sql.toList.takeWhile (· ≠ ' ') ++ ['\''])

theorem not_mem_isoShortYear (date : Date) : ' ' ∉ date.isoShortYear.toList := by
  have hdigits {cs : List Char} (h : IsDigits cs) : ' ' ∉ cs := fun hmem ↦
    absurd (h ' ' hmem) (by decide)
  have hyear := hdigits (isDigits_toString date.year)
  have hmonth := hdigits (isDigits_padded 2 date.month)
  have hday := hdigits (isDigits_padded 2 date.day)
  simp only [Date.isoShortYear, Date.monthDay, String.toList_append, List.mem_append, hyear, hmonth,
    hday]
  decide

theorem datePart_append {date : String} (h : ' ' ∉ date.toList) (clock : String) :
    datePart (date ++ " " ++ clock) = date ++ "'" := by
  have hdate : ∀ c ∈ date.toList, decide (c ≠ ' ') = true := by
    intro c hc
    exact decide_eq_true (ne_of_mem_of_not_mem hc h)
  rw [datePart, String.toList_append, String.toList_append, List.append_assoc,
    List.takeWhile_append_of_pos hdate]
  simp [String.ofList_append]

theorem datePart_datetimeLiteral (ht : t.offset = none) {sql : String}
    (h : d.datetimeLiteral t = .ok sql) : datePart sql = "'" ++ t.date.isoShortYear ++ "'" := by
  rw [datetimeLiteral, utc?_of_offset_eq_none ht] at h
  cases h
  have hdate : ' ' ∉ ("'" ++ t.date.isoShortYear).toList := by
    simp [not_mem_isoShortYear]
  rw [String.append_assoc]
  exact datePart_append hdate _

/-- The date in front of the time is the literal of the date, unless that fills the year with
zeros. -/
theorem datePart_eq_dateLiteral_iff (ht : t.offset = none) {sql : String}
    (h : d.datetimeLiteral t = .ok sql) :
    datePart sql = dateLiteral t.date ↔ 1000 ≤ t.date.year := by
  have hyear : padded 4 t.date.year = toString t.date.year ↔ 1000 ≤ t.date.year :=
    padded_succ_eq_toString_iff (by decide)
  rw [datePart_datetimeLiteral ht h, dateLiteral, String.append_left_inj, String.append_right_inj,
    Date.isoShortYear, Date.iso, String.append_left_inj, String.append_left_inj, eq_comm, hyear]

/-- The literal of a date and time is that of any other one of its instant, with an offset or
without. There is one just where the instant lies in the calendar, where the same instant without
an offset exists as well; else the answer is that it is out of range. Literals with fractional
seconds differ where the instants differ. -/
theorem datetimeLiteral_at_instant (d : Dialect) (t : DateTime) :
    (∀ u : DateTime, u.instant = t.instant → d.datetimeLiteral t = d.datetimeLiteral u) ∧
    ((∃ u : DateTime, u.offset = none ∧ u.instant = t.instant) ↔ t.InCalendar) ∧
    ((∃ sql, d.datetimeLiteral t = .ok sql) ↔ t.InCalendar) ∧
    (d.datetimeLiteral t = .error .dateOutOfRange ↔ ¬t.InCalendar) ∧
    (d ∈ [mysql, postgres, sqlite] → ∀ (u : DateTime) (sql : String),
      d.datetimeLiteral t = .ok sql → d.datetimeLiteral u = .ok sql → t.instant = u.instant) := by
  refine ⟨?_, exists_instant_eq_iff, exists_datetimeLiteral_iff, datetimeLiteral_eq_error_iff, ?_⟩
  · intro u h
    exact datetimeLiteral_congr (utc?_congr h.symm)
  · intro hd u sql ht hu
    exact instant_eq_of_datetimeLiteral_eq (fractionalSeconds_of_mem hd) ht hu

/-- The first moments of a March east of the meridian are those of the leap day at offset zero, and
a microsecond to the east of the first moment there is nothing. -/
theorem datetimeLiteral_at_instant_of_leap_day :
    let march : DateTime := ⟨(Date.ofFields? 2000 3 1).get (by decide),
      (Clock.ofFields? 0 30 0 1).get (by decide), some ⟨3600000002, by decide⟩⟩
    let february : DateTime := ⟨(Date.ofFields? 2000 2 29).get (by decide),
      (Clock.ofFields? 15 29 59 999999).get (by decide), some ⟨-28800000000, by decide⟩⟩
    let early : DateTime := { first with offset := some ⟨1, by decide⟩ }
    mysql.datetimeLiteral march = mysql.datetimeLiteral february ∧
      mysql.datetimeLiteral march = .ok "'2000-02-29 23:29:59.999999'" ∧
      clickhouse.datetimeLiteral early = .error .dateOutOfRange ∧
      (∀ u, mysql.datetimeLiteral u = .ok "'2000-02-29 23:29:59.999999'" →
        march.instant = u.instant) := by
  intro march february early
  have hmarch : mysql.datetimeLiteral march = .ok "'2000-02-29 23:29:59.999999'" := by decide
  obtain ⟨hsame, -, -, -, hapart⟩ := datetimeLiteral_at_instant mysql march
  obtain ⟨-, -, -, herror, -⟩ := datetimeLiteral_at_instant clickhouse early
  exact ⟨hsame february (by decide), hmarch, herror.mpr (by decide),
    fun u hu ↦ hapart (by decide) u _ hmarch hu⟩

/-- Of two dates and times the literal of the earlier one comes first just where its year, filled
with zeros behind it up to the length of the other year, is not over that one, as it is where both
have four digits. Its date is written as the literal of the date alone from the year 1000 on. -/
theorem datetimeLiteral_lt_iff {a b : DateTime} (hd : d ∈ [mysql, postgres, sqlite])
    (ha : a.offset = none) (hb : b.offset = none) (h : a.instant < b.instant) :
    ∃ sqlA sqlB, d.datetimeLiteral a = .ok sqlA ∧ d.datetimeLiteral b = .ok sqlB ∧
      (sqlA < sqlB ↔
        a.date.year * 10 ^ ((toString b.date.year).length - (toString a.date.year).length) ≤
          b.date.year) ∧
      (datePart sqlA = dateLiteral a.date ↔ 1000 ≤ a.date.year) := by
  have hfraction := fractionalSeconds_of_mem hd
  obtain ⟨sqlA, hsqlA, htextA⟩ := toList_datetimeLiteral hfraction ha
  obtain ⟨sqlB, hsqlB, htextB⟩ := toList_datetimeLiteral hfraction hb
  refine ⟨sqlA, sqlB, hsqlA, hsqlB, ?_, datePart_eq_dateLiteral_iff ha hsqlA⟩
  rw [String.lt_iff, htextA, htextB, List.cons_lt_cons_self, year_columns_lt_iff ha hb h]

def midnight (date : Date) : DateTime := ⟨date, first.clock, none⟩

theorem datetimeLiteral_lt_of_four_digits :
    let a := midnight ((Date.ofFields? 1999 12 31).get (by decide))
    let b := midnight ((Date.ofFields? 2000 1 1).get (by decide))
    ∃ sqlA sqlB, postgres.datetimeLiteral a = .ok sqlA ∧ postgres.datetimeLiteral b = .ok sqlB ∧
      sqlA < sqlB ∧ datePart sqlA = dateLiteral a.date := by
  intro a b
  obtain ⟨sqlA, sqlB, hsqlA, hsqlB, horder, hdate⟩ :=
    datetimeLiteral_lt_iff (d := postgres) (a := a) (b := b) (by decide) rfl rfl (by decide)
  exact ⟨sqlA, sqlB, hsqlA, hsqlB, horder.mpr (by decide), hdate.mpr (by decide)⟩

/-- The literal of the last day of the year 999 comes behind that of the day after. -/
theorem not_forall_datetimeLiteral_lt :
    ¬∀ d ∈ [mysql, postgres, sqlite], ∀ a b : DateTime, a.offset = none → b.offset = none →
      a.instant < b.instant → ∀ sqlA sqlB, d.datetimeLiteral a = .ok sqlA →
        d.datetimeLiteral b = .ok sqlB → sqlA < sqlB ∧ datePart sqlA = dateLiteral a.date := by
  intro h
  obtain ⟨horder, -⟩ := h sqlite (by decide)
    (midnight ((Date.ofFields? 999 12 31).get (by decide)))
    (midnight ((Date.ofFields? 1000 1 1).get (by decide))) rfl rfl (by decide)
    "'999-12-31 00:00:00.000000'" "'1000-01-01 00:00:00.000000'" (by decide) (by decide)
  exact absurd horder (by decide)

end Dialect

end SqlRender

import Mathlib.Data.List.Basic
import SuiteRunner.Time.Pattern

/-!
  SuiteRunner.Proofs.Time.Stamps
  ────────────────────────────────
  **A STAMP SAYS WHICH MILLISECOND IT WAS.**

  A stamp is a date and a time of day with nothing to keep its numbers apart but their widths.  It
  can be read back all the same:

    • `within_year` — every day of an era is in one of its years,
    • `Date.toDays_ofDays`, `Moment.toMillis_ofMillis` — a date has one day, a moment one reading,
    • `digits_inj` — a number filled up with zeros is still that number,
    • `Moment.stamp_inj` — so since 1970 two readings of the clock with one stamp are the same.
-/

namespace SuiteRunner.Time

/-! ## §1. The years of an era. -/

/-- The days of an era before one of its years. -/
def daysBeforeYear (y : Nat) : Nat := 365 * y + y / 4 - y / 100

/-- The year of an era that a day of it belongs to. -/
def yearOfDay (n : Nat) : Nat := (n - n / 1460 + n / 36524 - n / 146096) / 365

/-- A later day is in no earlier year. -/
theorem yearOfDay_mono {m n : Nat} (h : m ≤ n) : yearOfDay m ≤ yearOfDay n := by
  -- an era has four centuries, so the two corrections for centuries grow together
  have hcenturies : ∀ k : Nat, k / 146096 = k / 36524 / 4 := fun k =>
    (Nat.div_div_eq_div_mul k 36524 4).symm
  have hleap : m - m / 1460 ≤ n - n / 1460 := by omega
  have hcentury : m / 36524 ≤ n / 36524 := Nat.div_le_div_right h
  unfold yearOfDay
  rw [hcenturies, hcenturies]
  exact Nat.div_le_div_right (by omega)

/-- The first day of a year is in it, and the day before the next year is. -/
theorem yearOfDay_ends : ∀ y < 400,
    yearOfDay (daysBeforeYear y) = y ∧ yearOfDay (daysBeforeYear (y + 1) - 1) = y := by
  decide +kernel

/-- **Every day of an era is in its year:** not before its beginning, and not after 366 days. -/
theorem within_year {n : Nat} (h : n < 146097) :
    yearOfDay n < 400 ∧ daysBeforeYear (yearOfDay n) ≤ n ∧
      n ≤ daysBeforeYear (yearOfDay n) + 365 := by
  have hlast : yearOfDay n ≤ 399 := yearOfDay_mono (Nat.le_of_lt_succ h)
  refine ⟨Nat.lt_succ_of_le hlast, ?_, ?_⟩
  · -- a day before its year would be in the year before, at the latest on its last day
    by_contra hbefore
    obtain ⟨y, hy⟩ : ∃ y, yearOfDay n = y + 1 := by
      refine Nat.exists_eq_succ_of_ne_zero fun hzero => ?_
      rw [hzero] at hbefore
      exact hbefore (Nat.zero_le n)
    rw [hy] at hbefore hlast
    have hle : yearOfDay n ≤ yearOfDay (daysBeforeYear (y + 1) - 1) := yearOfDay_mono (by omega)
    rw [(yearOfDay_ends y (by omega)).2] at hle
    omega
  · -- a day after its year would be in the next one, and after the last year no day is left
    by_contra hafter
    generalize hy : yearOfDay n = y at hlast hafter
    have hlong : daysBeforeYear (y + 1) ≤ daysBeforeYear y + 366 := by
      unfold daysBeforeYear
      omega
    by_cases hend : y = 399
    · subst hend
      have h399 : daysBeforeYear 399 = 145731 := rfl
      omega
    · have hle : yearOfDay (daysBeforeYear (y + 1)) ≤ yearOfDay n := yearOfDay_mono (by omega)
      rw [(yearOfDay_ends (y + 1) (by omega)).1] at hle
      omega

/-! ## §2. Dates and moments. -/

attribute [ext] Date

/-- A date in eras of 400 years that begin in March; `month` is zero for March. -/
structure MarchDate where
  era : Int
  year : Nat
  month : Nat
  day : Nat
  year_lt : year < 400
  month_lt : month < 12
  day_pos : 0 < day
  day_le : day ≤ 31

namespace MarchDate

/-- The number of the day in its era. -/
def dayOfEra (d : MarchDate) : Nat := daysBeforeYear d.year + (153 * d.month + 2) / 5 + d.day - 1

/-- The date in years that begin in January. -/
def toDate (d : MarchDate) : Date :=
  let month := if d.month < 10 then d.month + 3 else d.month - 9
  let year : Int := (d.year : Int) + d.era * 400
  ⟨if month ≤ 2 then year + 1 else year, month, d.day⟩

end MarchDate

/-- Months begin on fixed days of a year that begins in March, and have 31 days at most. -/
theorem within_month {dayOfYear month : Nat} (h : dayOfYear ≤ 365)
    (hmonth : (5 * dayOfYear + 2) / 153 = month) :
    month < 12 ∧ (153 * month + 2) / 5 ≤ dayOfYear ∧ dayOfYear < (153 * month + 2) / 5 + 31 := by
  omega

/-- **Every day has a date** in an era. -/
theorem exists_march (days : Int) :
    ∃ d : MarchDate, days = d.era * 146097 + d.dayOfEra - 719468 ∧ d.dayOfEra < 146097 ∧
      Date.ofDays days = d.toDate := by
  obtain ⟨era, hera⟩ : ∃ era, (days + 719468).fdiv 146097 = era := ⟨_, rfl⟩
  obtain ⟨n, hn⟩ : ∃ n, (days + 719468 - era * 146097).toNat = n := ⟨_, rfl⟩
  have hdays : days = era * 146097 + n - 719468 ∧ n < 146097 := by
    rw [Int.fdiv_eq_ediv_of_nonneg _ (by decide)] at hera
    omega
  -- a day of the era is in a year, and a day of the year is in a month
  obtain ⟨year, hyear⟩ : ∃ year, yearOfDay n = year := ⟨_, rfl⟩
  obtain ⟨hyears, hfrom, hto⟩ := hyear ▸ within_year hdays.2
  obtain ⟨dayOfYear, hdayOfYear⟩ : ∃ k, n - daysBeforeYear year = k := ⟨_, rfl⟩
  obtain ⟨month, hmonth⟩ : ∃ month, (5 * dayOfYear + 2) / 153 = month := ⟨_, rfl⟩
  obtain ⟨hmonths, hstart, hend⟩ := within_month (by omega) hmonth
  let d : MarchDate :=
    { era, year, month, day := dayOfYear - (153 * month + 2) / 5 + 1
      year_lt := hyears, month_lt := hmonths, day_pos := Nat.succ_pos _, day_le := by omega }
  have hday : d.dayOfEra = n := by
    show daysBeforeYear year + (153 * month + 2) / 5
      + (dayOfYear - (153 * month + 2) / 5 + 1) - 1 = n
    omega
  refine ⟨d, ?_, ?_, ?_⟩
  · rw [hday]
    exact hdays.1
  · rw [hday]
    exact hdays.2
  · subst hera hn hyear hdayOfYear hmonth
    rfl

namespace Date

/-- The year of a date if years begin in March. -/
def marchYear (d : Date) : Int := if d.month ≤ 2 then d.year - 1 else d.year

/-- The month of a date, from zero for March. -/
def marchMonth (d : Date) : Nat := (d.month + 9) % 12

/-- The day of a date, counted from the beginning of 1970. -/
def toDays (d : Date) : Int :=
  let era := d.marchYear.fdiv 400
  let year := (d.marchYear - era * 400).toNat
  era * 146097 + (daysBeforeYear year + (153 * d.marchMonth + 2) / 5 + d.day - 1 : Nat) - 719468

theorem marchYear_toDate (d : MarchDate) : d.toDate.marchYear = d.year + d.era * 400 := by
  have hmonth := d.month_lt
  unfold MarchDate.toDate marchYear
  dsimp only
  -- January and February are the last two months of a year that begins in March
  split <;> omega

theorem marchMonth_toDate (d : MarchDate) : d.toDate.marchMonth = d.month := by
  have hmonth := d.month_lt
  unfold MarchDate.toDate marchMonth
  dsimp only
  split <;> omega

/-- **A date has one day.** -/
theorem toDays_ofDays (days : Int) : (Date.ofDays days).toDays = days := by
  obtain ⟨d, hdays, -, hdate⟩ := exists_march days
  have hera : ((d.year : Int) + d.era * 400).fdiv 400 = d.era := by
    have hyear := d.year_lt
    rw [Int.fdiv_eq_ediv_of_nonneg _ (by decide)]
    omega
  have hyear : ((d.year : Int) + d.era * 400 - d.era * 400).toNat = d.year := by omega
  rw [hdate, hdays]
  unfold toDays
  simp only [marchYear_toDate, marchMonth_toDate, hera, hyear]
  rfl

end Date

/-- The milliseconds of a moment since the beginning of 1970. -/
def Moment.toMillis (m : Moment) : Int :=
  m.date.toDays * 86400000
    + (m.hour * 3600000 + m.minute * 60000 + m.second * 1000 + m.millisecond : Nat)

/-- **A moment has one reading,** which its date and its time of day tell. -/
theorem Moment.toMillis_ofMillis (ms : Int) : (Moment.ofMillis ms).toMillis = ms := by
  unfold Moment.ofMillis Moment.toMillis
  simp only [Date.toDays_ofDays]
  rw [Int.fdiv_eq_ediv_of_nonneg _ (by decide)]
  omega

/-- The parts of a moment fit into the widths that a stamp has for them. -/
structure Moment.Fits (m : Moment) : Prop where
  year : 0 ≤ m.date.year
  month : m.date.month < 100
  day : m.date.day < 100
  hour : m.hour < 100
  minute : m.minute < 100
  second : m.second < 100
  millisecond : m.millisecond < 1000

/-- The parts of every moment since 1970 fit. -/
theorem Moment.fits_ofMillis {ms : Int} (h : 0 ≤ ms) : (Moment.ofMillis ms).Fits := by
  have hdays : ms.fdiv 86400000 = ms / 86400000 := Int.fdiv_eq_ediv_of_nonneg _ (by decide)
  obtain ⟨d, hday, hinside, hdate⟩ := exists_march (ms.fdiv 86400000)
  have hera : 0 ≤ d.era := by omega
  have hmonth := d.month_lt
  have hmost := d.day_le
  have hfields : 0 ≤ d.toDate.year ∧ d.toDate.month < 100 ∧ d.toDate.day < 100 := by
    unfold MarchDate.toDate
    refine ⟨?_, ?_, by dsimp only; omega⟩
    · dsimp only
      split <;> omega
    · dsimp only
      split <;> omega
  rw [← hdate] at hfields
  exact
    { year := hfields.1
      month := hfields.2.1
      day := hfields.2.2
      hour := by
        show (ms - ms.fdiv 86400000 * 86400000).toNat / 3600000 < 100
        omega
      minute := Nat.lt_of_lt_of_le (Nat.mod_lt _ (by decide)) (by decide : 60 ≤ 100)
      second := Nat.lt_of_lt_of_le (Nat.mod_lt _ (by decide)) (by decide : 60 ≤ 100)
      millisecond := Nat.mod_lt _ (by decide) }

/-! ## §3. Numbers filled up with zeros. -/

/-- The digits of a number, filled up with zeros to a width. -/
def digits (width n : Nat) : List Char :=
  List.replicate (width - (Nat.toDigits 10 n).length) '0' ++ Nat.toDigits 10 n

theorem toList_padded (width : Nat) {n : Int} (h : 0 ≤ n) :
    (padded .zero width n).toList = digits width n.natAbs := by
  unfold padded
  simp only [Int.not_lt.mpr h, if_false, String.toList_append, String.toList_ofList]
  rfl

theorem toList_two (n : Nat) : (two n).toList = digits 2 n :=
  toList_padded 2 (Int.natCast_nonneg n)

/-- What stands in front does not change the number. -/
theorem ofDigitChars_digits (width n : Nat) : Nat.ofDigitChars 10 (digits width n) 0 = n := by
  have hzeros : ∀ k : Nat, Nat.ofDigitChars 10 (List.replicate k '0') 0 = 0 := by
    intro k
    induction k with
    | zero => rfl
    | succ k ih => exact ih
  unfold digits
  rw [Nat.ofDigitChars_append, hzeros, Nat.ofDigitChars_toDigits (by decide) (by decide)]

/-- **A number filled up with zeros is still that number.** -/
theorem digits_inj {width m n : Nat} (h : digits width m = digits width n) : m = n := by
  rw [← ofDigitChars_digits width m, h, ofDigitChars_digits]

theorem length_digits {width n : Nat} (hwidth : 0 < width) (h : n < Nat.pow 10 width) :
    (digits width n).length = width := by
  -- a number that fits has no digits beyond the width, and zeros make up for those it lacks
  have hle : (Nat.toDigits 10 n).length ≤ width :=
    (Nat.length_toDigits_le_iff (by decide) hwidth).mpr h
  unfold digits
  rw [List.length_append, List.length_replicate]
  omega

theorem isDigit_of_mem_digits {width n : Nat} {c : Char} (h : c ∈ digits width n) :
    c.isDigit = true := by
  obtain hzero | hdigit := List.mem_append.mp h
  · rw [List.eq_of_mem_replicate hzero]
    rfl
  · exact Nat.isDigit_of_mem_toDigits (by decide) (by decide) hdigit

/-! ## §4. Stamps. -/

namespace Moment

variable {m m' : Moment}

/-- The characters of a stamp. -/
theorem Fits.toList_stamp (h : m.Fits) :
    m.stamp.toList = digits 4 m.date.year.natAbs ++ digits 2 m.date.month ++ digits 2 m.date.day
      ++ ['T'] ++ digits 2 m.hour ++ digits 2 m.minute ++ digits 2 m.second
      ++ digits 3 m.millisecond := by
  unfold stamp
  simp only [String.toList_append, toList_padded 4 h.year, toList_two,
    toList_padded 3 (Int.natCast_nonneg m.millisecond), Int.natAbs_natCast]
  rfl

/-- There is no hyphen in a stamp. -/
theorem Fits.hyphen_notMem (h : m.Fits) : '-' ∉ m.stamp.toList := by
  intro hmem
  have hdigit : ∀ {width n : Nat}, '-' ∉ digits width n := fun hin =>
    absurd (isDigit_of_mem_digits hin) (by decide)
  rw [h.toList_stamp] at hmem
  simp only [List.mem_append, hdigit, or_false, false_or, List.mem_singleton] at hmem
  exact absurd hmem (by decide)

/-- **Moments with one stamp have one date and one time of day.** -/
theorem Fits.toMillis_inj (h : m.Fits) (h' : m'.Fits) (hstamp : m.stamp = m'.stamp) :
    m.toMillis = m'.toMillis := by
  have hlist := congrArg String.toList hstamp
  rw [h.toList_stamp, h'.toList_stamp] at hlist
  have htwo : ∀ {a b : Nat}, a < 100 → b < 100 → (digits 2 a).length = (digits 2 b).length :=
    fun ha hb => (length_digits (by decide) ha).trans (length_digits (by decide) hb).symm
  -- all parts but the year have a fixed width, so they come off one by one from the end
  obtain ⟨hlist, hmillisecond⟩ := List.append_inj' hlist
    ((length_digits (by decide) h.millisecond).trans
      (length_digits (by decide) h'.millisecond).symm)
  obtain ⟨hlist, hsecond⟩ := List.append_inj' hlist (htwo h.second h'.second)
  obtain ⟨hlist, hminute⟩ := List.append_inj' hlist (htwo h.minute h'.minute)
  obtain ⟨hlist, hhour⟩ := List.append_inj' hlist (htwo h.hour h'.hour)
  obtain ⟨hlist, -⟩ := List.append_inj' hlist rfl
  obtain ⟨hlist, hday⟩ := List.append_inj' hlist (htwo h.day h'.day)
  obtain ⟨hyear, hmonth⟩ := List.append_inj' hlist (htwo h.month h'.month)
  have hyears : m.date.year = m'.date.year := by
    -- a year that fits has no sign, so its digits are all there is to see of it
    have habs := digits_inj hyear
    have hfrom := h.year
    have hfrom' := h'.year
    omega
  have hdate : m.date = m'.date := Date.ext hyears (digits_inj hmonth) (digits_inj hday)
  unfold toMillis
  rw [hdate, digits_inj hhour, digits_inj hminute, digits_inj hsecond, digits_inj hmillisecond]

/-- **Since 1970 two readings of the clock with one stamp are the same.** -/
theorem stamp_inj {a b : Int} (ha : 0 ≤ a) (hb : 0 ≤ b) :
    (ofMillis a).stamp = (ofMillis b).stamp ↔ a = b := by
  constructor
  · intro h
    have hmillis := (fits_ofMillis ha).toMillis_inj (fits_ofMillis hb) h
    rwa [toMillis_ofMillis, toMillis_ofMillis] at hmillis
  · rintro rfl
    rfl

end Moment

end SuiteRunner.Time

import Mathlib.Data.Nat.Notation
import Mathlib.Tactic.IntervalCases

/-! The calendar without a gap, as dates of the current era and as days counted from the first
day of the year 1. Years are taken from March on, so that a leap day ends its year. -/
namespace LibraryCalendar

def IsLeapYear (year : ℕ) : Prop := year % 4 = 0 ∧ (year % 100 ≠ 0 ∨ year % 400 = 0)

instance (year : ℕ) : Decidable (IsLeapYear year) := inferInstanceAs (Decidable (_ ∧ (_ ∨ _)))

def lengthOfMonth (year month : ℕ) : ℕ :=
  if month = 2 then if IsLeapYear year then 29 else 28
  else if month = 4 ∨ month = 6 ∨ month = 9 ∨ month = 11 then 30 else 31

def ValidDate (year month day : ℕ) : Prop :=
  1 ≤ year ∧ 1 ≤ month ∧ month ≤ 12 ∧ 1 ≤ day ∧ day ≤ lengthOfMonth year month

instance (year month day : ℕ) : Decidable (ValidDate year month day) :=
  inferInstanceAs (Decidable (_ ∧ _ ∧ _ ∧ _ ∧ _))

structure Date where
  year : ℕ
  month : ℕ
  day : ℕ
  valid : ValidDate year month day
  deriving DecidableEq

variable {year : ℕ}

/-! ## Years from March to February -/

/-- The days of the first `year` years that begin in March. -/
def marchDays (year : ℕ) : ℕ := 365 * year + (year / 4 - year / 100) + year / 400

theorem div_succ_of_dvd {n : ℕ} (h : (year + 1) % n = 0) : (year + 1) / n = year / n + 1 :=
  Nat.succ_div_of_dvd (Nat.dvd_of_mod_eq_zero h)

theorem div_succ_of_not_dvd {n : ℕ} (h : (year + 1) % n ≠ 0) : (year + 1) / n = year / n :=
  Nat.succ_div_of_not_dvd fun hdvd => h (Nat.mod_eq_zero_of_dvd hdvd)

theorem century_le_quarter (year : ℕ) : year / 100 ≤ year / 4 :=
  Nat.div_le_div_left (by decide) (by decide)

theorem marchDays_succ_leap (h : IsLeapYear (year + 1)) :
    marchDays (year + 1) = marchDays year + 366 := by
  obtain ⟨hquarter, hcycle⟩ := h
  have hle := century_le_quarter year
  simp only [marchDays, div_succ_of_dvd hquarter]
  by_cases hcentury : (year + 1) % 100 = 0
  · have hdvd : (year + 1) % 400 = 0 := hcycle.resolve_left (not_not_intro hcentury)
    rw [div_succ_of_dvd hcentury, div_succ_of_dvd hdvd]
    omega
  · have hnot : (year + 1) % 400 ≠ 0 := by omega
    rw [div_succ_of_not_dvd hcentury, div_succ_of_not_dvd hnot]
    omega

theorem marchDays_succ_common (h : ¬ IsLeapYear (year + 1)) :
    marchDays (year + 1) = marchDays year + 365 := by
  have hle := century_le_quarter year
  by_cases hquarter : (year + 1) % 4 = 0
  · have hcycle : ¬ ((year + 1) % 100 ≠ 0 ∨ (year + 1) % 400 = 0) := fun hc => h ⟨hquarter, hc⟩
    have hcentury : (year + 1) % 100 = 0 := by omega
    have hnot : (year + 1) % 400 ≠ 0 := by omega
    rw [marchDays, marchDays, div_succ_of_dvd hquarter, div_succ_of_dvd hcentury,
      div_succ_of_not_dvd hnot]
    omega
  · have hcentury : (year + 1) % 100 ≠ 0 := by omega
    have hcycle : (year + 1) % 400 ≠ 0 := by omega
    rw [marchDays, marchDays, div_succ_of_not_dvd hquarter, div_succ_of_not_dvd hcentury,
      div_succ_of_not_dvd hcycle]
    omega

/-- Years are as long as in the mean, up to the days that leap years add at the end of a cycle. -/
theorem mean_le_marchDays (year : ℕ) : 146097 * year ≤ 400 * marchDays year + 591 := by
  have hquarter : year ≤ 4 * (year / 4) + 3 := by omega
  have hcentury : 25 * (year / 100) ≤ year / 4 := by omega
  have hcycle : year / 100 ≤ 4 * (year / 400) + 3 := by omega
  simp only [marchDays]
  generalize year / 4 = quarter at *
  generalize year / 100 = century at *
  generalize year / 400 = cycle at *
  omega

theorem marchDays_le_mean (year : ℕ) : 400 * marchDays year ≤ 146097 * year + 1200 := by
  have hquarter : 4 * (year / 4) ≤ year := by omega
  have hcentury : year ≤ 100 * (year / 100) + 99 := by omega
  have hless := century_le_quarter year
  have hcycle : 400 * (year / 400) ≤ year := by omega
  simp only [marchDays]
  generalize year / 4 = quarter at *
  generalize year / 100 = century at *
  generalize year / 400 = cycle at *
  omega

/-- The year in which a day falls, estimated from the mean length of a year and corrected. -/
def marchYear (n : ℕ) : ℕ :=
  let yearEst := (400 * n + 591) / 146097
  if n < marchDays yearEst then yearEst - 1 else yearEst

theorem marchYear_spec (n : ℕ) :
    marchDays (marchYear n) ≤ n ∧ n < marchDays (marchYear n + 1) := by
  have hlow : 146097 * ((400 * n + 591) / 146097) ≤ 400 * n + 591 := Nat.mul_div_le _ _
  have hhigh : 400 * n + 591 < 146097 * ((400 * n + 591) / 146097 + 1) :=
    Nat.lt_mul_div_succ _ (by decide)
  simp only [marchYear]
  generalize (400 * n + 591) / 146097 = yearEst at *
  have hnext := mean_le_marchDays (yearEst + 1)
  by_cases h : n < marchDays yearEst
  · rw [if_pos h]
    cases yearEst with
    | zero => simp [marchDays] at h
    | succ year =>
      have hmean := marchDays_le_mean year
      rw [Nat.add_sub_cancel]
      exact ⟨by omega, h⟩
  · rw [if_neg h]
    exact ⟨Nat.le_of_not_lt h, by omega⟩

def marchDay (n : ℕ) : ℕ := n - marchDays (marchYear n)

theorem marchDay_leap (n : ℕ) (h : IsLeapYear (marchYear n + 1)) : marchDay n < 366 := by
  have hyear := marchYear_spec n
  rw [marchDays_succ_leap h] at hyear
  rw [marchDay]
  omega

theorem marchDay_common (n : ℕ) (h : ¬ IsLeapYear (marchYear n + 1)) : marchDay n < 365 := by
  have hyear := marchYear_spec n
  rw [marchDays_succ_common h] at hyear
  rw [marchDay]
  omega

theorem marchDay_lt (n : ℕ) : marchDay n < 366 := by
  by_cases h : IsLeapYear (marchYear n + 1)
  · exact marchDay_leap n h
  · exact (marchDay_common n h).trans (by decide)

/-! ## Months from March to February -/

/-- The month of a day of such a year, March being 0. -/
def marchMonth (marchDoy : ℕ) : ℕ := (marchDoy * 5 + 2) / 153

/-- The days of such a year before a month. -/
def daysBefore (marchMonth : ℕ) : ℕ := (marchMonth * 306 + 5) / 10

theorem marchMonth_lt {doy : ℕ} (h : doy < 366) : marchMonth doy < 12 := by
  simp only [marchMonth]
  omega

theorem daysBefore_le (doy : ℕ) : daysBefore (marchMonth doy) ≤ doy := by
  simp only [daysBefore, marchMonth]
  omega

theorem lt_daysBefore_succ (doy : ℕ) : doy < daysBefore (marchMonth doy + 1) := by
  simp only [daysBefore, marchMonth]
  omega

/-- From March to January a month ends where the next begins. -/
theorem daysBefore_succ {month : ℕ} (h : month < 11) (year : ℕ) :
    daysBefore (month + 1) = daysBefore month + lengthOfMonth year ((month + 2) % 12 + 1) := by
  interval_cases month <;> rfl

theorem validDate_march {year doy : ℕ} (hlt : doy < 366)
    (hcommon : ¬ IsLeapYear (year + 1) → doy < 365) (hfirst : year = 0 → 306 ≤ doy) :
    ValidDate (year + marchMonth doy / 10) ((marchMonth doy + 2) % 12 + 1)
      (doy - daysBefore (marchMonth doy) + 1) := by
  have hmonth := marchMonth_lt hlt
  have hbefore := daysBefore_le doy
  have hafter := lt_daysBefore_succ doy
  refine ⟨?_, Nat.le_add_left 1 _, ?_, Nat.le_add_left 1 _, ?_⟩
  · by_cases hzero : year = 0
    · have hlate := hfirst hzero
      simp only [marchMonth]
      omega
    · omega
  · omega
  · by_cases hlast : marchMonth doy = 11
    · have hfebruary : daysBefore 11 = 337 := rfl
      rw [hlast] at hbefore ⊢
      rw [hfebruary] at hbefore ⊢
      change doy - 337 + 1 ≤ if IsLeapYear (year + 1) then 29 else 28
      by_cases hleap : IsLeapYear (year + 1)
      · rw [if_pos hleap]
        omega
      · have hshort := hcommon hleap
        rw [if_neg hleap]
        omega
    · rw [daysBefore_succ (by omega) (year + marchMonth doy / 10)] at hafter
      omega

/-! ## Days and dates -/

/-- The days from the first of March of the year 0 to the first day of the year 1. -/
def beforeYearOne : ℕ := 306

/-- The date of a day counted from that March. -/
def ofMarchDay (n : ℕ) (h : beforeYearOne ≤ n) : Date where
  year := marchYear n + marchMonth (marchDay n) / 10
  month := (marchMonth (marchDay n) + 2) % 12 + 1
  day := marchDay n - daysBefore (marchMonth (marchDay n)) + 1
  valid := by
    refine validDate_march (marchDay_lt n) (marchDay_common n) fun hzero => ?_
    simpa [marchDay, hzero, marchDays, beforeYearOne] using h

/-- The date that many days after the first day of the year 1. -/
def ofDay (n : ℕ) : Date := ofMarchDay (n + beforeYearOne) (Nat.le_add_left _ _)

def Date.toMarchDay (date : Date) : ℕ :=
  let month := (date.month + 9) % 12
  marchDays (date.year - month / 10) + daysBefore month + (date.day - 1)

def Date.toDay (date : Date) : ℕ := date.toMarchDay - beforeYearOne

theorem toMarchDay_ofMarchDay {n : ℕ} (h : beforeYearOne ≤ n) :
    (ofMarchDay n h).toMarchDay = n := by
  have hmonth := marchMonth_lt (marchDay_lt n)
  have hbefore := daysBefore_le (marchDay n)
  have hsplit : marchDays (marchYear n) + marchDay n = n :=
    Nat.add_sub_of_le (marchYear_spec n).1
  have hback : ((marchMonth (marchDay n) + 2) % 12 + 1 + 9) % 12 = marchMonth (marchDay n) := by
    omega
  simp only [Date.toMarchDay, ofMarchDay, hback, Nat.add_sub_cancel]
  omega

theorem toDay_ofDay (n : ℕ) : (ofDay n).toDay = n := by
  rw [Date.toDay, ofDay, toMarchDay_ofMarchDay, Nat.add_sub_cancel]

end LibraryCalendar

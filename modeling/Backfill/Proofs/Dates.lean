import Mathlib.Tactic.IntervalCases
import Backfill.Calendar.Instant

/-!
# Dates and days

The number of a day and its date determine each other. Counting goes by years that start in March:
`marchDays` is where such a year begins, and the year of a day is the last one that begins on it or
before it.
-/

namespace Backfill.Calendar

/-! ### Years that start in March -/

/-- Days from 1 March of the year 0 to that of the given year. -/
def marchDays (year : Int) : Int :=
  365 * year + year / 4 - year / 100 + year / 400

lemma isLeap_iff (year : Int) :
    isLeap year = true ↔ year % 4 = 0 ∧ (year % 100 ≠ 0 ∨ year % 400 = 0) := by
  simp [isLeap]

/-- The leap day stands at the end of a year that starts in March, so it is the next number that
tells whether there is one. -/
lemma marchDays_succ (year : Int) :
    marchDays (year + 1) = marchDays year + (if isLeap (year + 1) then 366 else 365) := by
  unfold marchDays
  split_ifs with h
  · rw [isLeap_iff] at h
    omega
  · rw [isLeap_iff] at h
    omega

lemma marchDays_add_cycles (year cycles : Int) :
    marchDays (year + 400 * cycles) = marchDays year + 146097 * cycles := by
  unfold marchDays
  omega

/-- The years of a cycle by centuries and leap periods: a year has begun if the days that are left
without leap days make up the years before it. -/
private lemma begun_iff {n : Int} (century period year : Int) (hn : 0 ≤ n ∧ n < 146097)
    (hcentury : 0 ≤ century ∧ century ≤ 4) (hperiod : 0 ≤ period ∧ period < 25)
    (hyear : 0 ≤ year ∧ year < 4) :
    365 * (100 * century + 4 * period + year) ≤ n - n / 1460 + n / 36524 - n / 146096 ↔
      36524 * century + century / 4 + 1461 * period + 365 * year ≤ n := by
  have hc : century = 0 ∨ century = 1 ∨ century = 2 ∨ century = 3 ∨ century = 4 := by omega
  have hn' : n / 36524 = 0 ∨ n / 36524 = 1 ∨ n / 36524 = 2 ∨ n / 36524 = 3 ∨ n / 36524 = 4 := by
    omega
  -- as long as the leap period has not ended, no leap day is subtracted for it
  rcases Int.lt_or_le period (n / 1460 - 25 * century) with hended | hended <;>
    rcases hn' with h | h | h | h | h <;> rcases hc with rfl | rfl | rfl | rfl | rfl <;> omega

/-- The year of a day within a cycle of 400 years. -/
lemma le_yearOfCycle_iff {n : Int} (hn : 0 ≤ n ∧ n < 146097) (year : Int)
    (hyear : 0 ≤ year ∧ year ≤ 400) :
    year ≤ (n - n / 1460 + n / 36524 - n / 146096) / 365 ↔ marchDays year ≤ n := by
  have h := begun_iff (year / 100) (year / 4 % 25) (year % 4) hn (by omega) (by omega) (by omega)
  have hsum : 100 * (year / 100) + 4 * (year / 4 % 25) + year % 4 = year := by omega
  have hdays : 36524 * (year / 100) + year / 100 / 4 + 1461 * (year / 4 % 25) + 365 * (year % 4) =
      marchDays year := by
    unfold marchDays
    omega
  rw [hsum, hdays] at h
  rw [Int.le_ediv_iff_mul_le (by decide), Int.mul_comm]
  exact h

/-! ### Months -/

/-- Days before a month of a year that starts in March, the months being counted from 0. -/
def monthStart (month : Int) : Int :=
  (153 * month + 2) / 5

/-- The number of a month, counted from 0, in a year that starts in March. -/
def marchMonth (month : Nat) : Int :=
  if month ≤ 2 then month + 9 else month - 3

/-- All months but February have the length that the linear formula gives them. -/
lemma daysInMonth_of_ne_two {month : Nat} (h1 : 1 ≤ month) (h12 : month ≤ 12) (h2 : month ≠ 2)
    (year : Int) :
    (daysInMonth year month : Int) =
      monthStart (marchMonth month + 1) - monthStart (marchMonth month) := by
  interval_cases month
  case «2» => contradiction
  all_goals rfl

/-! ### From days to dates -/

namespace Date

lemma toDays_mk (year : Int) (month day : Nat) :
    toDays ⟨year, month, day⟩ = marchDays (if month ≤ 2 then year - 1 else year) +
      monthStart (marchMonth month) + (day - 1) - epochOffset := by
  simp [toDays, marchDays, monthStart, marchMonth]

/-- The date of a day, counted from 0, of a year that starts in March. -/
def ofMarch (year n : Int) : Date :=
  let month := (5 * n + 2) / 153
  let day := n - (153 * month + 2) / 5 + 1
  if month < 10 then ⟨year, (month + 3).toNat, day.toNat⟩
  else ⟨year + 1, (month - 9).toNat, day.toNat⟩

lemma ofDays_eq_ofMarch (days : Int) :
    ∃ year n : Int, days + epochOffset = marchDays year + n ∧ 0 ≤ n ∧
      marchDays year + n < marchDays (year + 1) ∧ ofDays days = ofMarch year n := by
  have hdays : days + epochOffset =
      146097 * ((days + epochOffset) / 146097) + (days + epochOffset) % 146097 := by omega
  have hr : 0 ≤ (days + epochOffset) % 146097 ∧ (days + epochOffset) % 146097 < 146097 := by omega
  -- the day within its cycle of 400 years determines the year within the cycle
  have hle := le_yearOfCycle_iff hr
  simp only [ofDays]
  generalize (days + epochOffset) / 146097 = cycle at *
  generalize (days + epochOffset) % 146097 = r at *
  have hyear : 0 ≤ (r - r / 1460 + r / 36524 - r / 146096) / 365 ∧
    (r - r / 1460 + r / 36524 - r / 146096) / 365 < 400 := by omega
  generalize (r - r / 1460 + r / 36524 - r / 146096) / 365 = year at *
  have hbegun : marchDays year ≤ r := (hle year (by omega)).mp (Int.le_refl year)
  have hnext : r < marchDays (year + 1) := by
    have := hle (year + 1) (by omega)
    omega
  have hstart : 365 * year + year / 4 - year / 100 = marchDays year := by
    unfold marchDays
    omega
  refine ⟨year + 400 * cycle, r - marchDays year, ?_, by omega, ?_, ?_⟩
  · rw [marchDays_add_cycles]
    omega
  · rw [show year + 400 * cycle + 1 = year + 1 + 400 * cycle by omega, marchDays_add_cycles,
      marchDays_add_cycles]
    omega
  · rw [hstart]
    rfl

/-- The month of a day and the day of the month, in a year that starts in March. -/
lemma ofMarch_fields (year : Int) {n : Int} (hn : 0 ≤ n ∧ n < 366) :
    ∃ month day : Nat, 1 ≤ month ∧ month ≤ 12 ∧ 1 ≤ day ∧
      n = monthStart (marchMonth month) + (day - 1) ∧ n < monthStart (marchMonth month + 1) ∧
      ofMarch year n = ⟨if month ≤ 2 then year + 1 else year, month, day⟩ := by
  have hmonth : 0 ≤ (5 * n + 2) / 153 ∧ (5 * n + 2) / 153 < 12 := by omega
  have hday : monthStart ((5 * n + 2) / 153) ≤ n ∧ n < monthStart ((5 * n + 2) / 153 + 1) := by
    unfold monthStart
    omega
  have hof : ofMarch year n =
      if (5 * n + 2) / 153 < 10 then
        ⟨year, ((5 * n + 2) / 153 + 3).toNat, (n - monthStart ((5 * n + 2) / 153) + 1).toNat⟩
      else
        ⟨year + 1, ((5 * n + 2) / 153 - 9).toNat, (n - monthStart ((5 * n + 2) / 153) + 1).toNat⟩ :=
    rfl
  generalize (5 * n + 2) / 153 = m at *
  -- March to December of this year, then January and February of the next
  by_cases h : m < 10
  · have hm : marchMonth (m + 3).toNat = m := by
      unfold marchMonth
      split_ifs <;> omega
    refine ⟨(m + 3).toNat, (n - monthStart m + 1).toNat, ?_⟩
    rw [hof, if_pos h, if_neg (by omega), hm]
    exact ⟨by omega, by omega, by omega, by omega, hday.2, rfl⟩
  · have hm : marchMonth (m - 9).toNat = m := by
      unfold marchMonth
      split_ifs <;> omega
    refine ⟨(m - 9).toNat, (n - monthStart m + 1).toNat, ?_⟩
    rw [hof, if_neg h, if_pos (by omega), hm]
    exact ⟨by omega, by omega, by omega, by omega, hday.2, rfl⟩

lemma marchDays_lt_succ_iff {year n : Int} :
    marchDays year + n < marchDays (year + 1) ↔ n < if isLeap (year + 1) then 366 else 365 := by
  rw [marchDays_succ]
  omega

/-- A day that exists, in any year. -/
structure Exists (d : Date) : Prop where
  one_le_month : 1 ≤ d.month
  month_le : d.month ≤ 12
  one_le_day : 1 ≤ d.day
  day_le : d.day ≤ daysInMonth d.year d.month

/-- Each day of a year that starts in March has a date, which says in turn which day it is. -/
lemma ofMarch_spec {year n : Int} (hn : 0 ≤ n) (hlt : marchDays year + n < marchDays (year + 1)) :
    (ofMarch year n).Exists ∧ (ofMarch year n).toDays = marchDays year + n - epochOffset := by
  rw [marchDays_lt_succ_iff] at hlt
  have hn' : n < 366 := by split_ifs at hlt <;> omega
  obtain ⟨month, day, h1, h12, hday, hfirst, hlast, hof⟩ := ofMarch_fields year ⟨hn, hn'⟩
  rw [hof]
  refine ⟨⟨h1, h12, hday, ?_⟩, ?_⟩
  · by_cases h2 : month = 2
    · -- February lasts to the end of the year
      subst h2
      have hfirst : n = 337 + (day - 1) := hfirst
      show day ≤ if isLeap (year + 1) then 29 else 28
      split_ifs at hlt ⊢ <;> omega
    · have hlength := daysInMonth_of_ne_two h1 h12 h2 (if month ≤ 2 then year + 1 else year)
      show day ≤ daysInMonth (if month ≤ 2 then year + 1 else year) month
      omega
  · have hyear : (if month ≤ 2 then (if month ≤ 2 then year + 1 else year) - 1
        else if month ≤ 2 then year + 1 else year) = year := by
      split_ifs <;> omega
    rw [toDays_mk, hyear]
    omega

theorem toDays_ofDays (days : Int) : (ofDays days).toDays = days := by
  obtain ⟨year, n, hdays, hn, hlt, hof⟩ := ofDays_eq_ofMarch days
  rw [hof, (ofMarch_spec hn hlt).2]
  omega

lemma exists_ofDays (days : Int) : (ofDays days).Exists := by
  obtain ⟨year, n, -, hn, hlt, hof⟩ := ofDays_eq_ofMarch days
  rw [hof]
  exact (ofMarch_spec hn hlt).1

/-! ### From one day to the next -/

/-- The day after a date: the next one of the month, or the first one of the next month. -/
def next (d : Date) : Date :=
  if d.day < daysInMonth d.year d.month then { d with day := d.day + 1 }
  else if d.month < 12 then ⟨d.year, d.month + 1, 1⟩
  else ⟨d.year + 1, 1, 1⟩

/-- Days are counted as the calendar goes on from each day to the next. -/
lemma toDays_next {d : Date} (h : d.Exists) : d.next.toDays = d.toDays + 1 := by
  obtain ⟨year, month, day⟩ := d
  obtain ⟨h1, h12, hday, hle⟩ := h
  dsimp only at h1 h12 hday hle
  unfold next
  dsimp only
  split_ifs with hwithin hmonth
  · simp only [toDays_mk]
    omega
  · have hlast : day = daysInMonth year month := by omega
    by_cases h2 : month = 2
    · -- a year that starts in March ends here, and its length tells whether there is a 29th
      subst h2
      have hyear := marchDays_succ (year - 1)
      rw [Int.sub_add_cancel] at hyear
      have hlast : day = if isLeap year then 29 else 28 := hlast
      have hfebruary : monthStart (marchMonth 2) = 337 := rfl
      have hmarch : monthStart (marchMonth (2 + 1)) = 0 := rfl
      rw [toDays_mk, toDays_mk, if_neg (by omega), if_pos (by omega), hfebruary, hmarch]
      split_ifs at hyear hlast <;> omega
    · have hlength := daysInMonth_of_ne_two h1 h12 h2 year
      have hyear : (if month + 1 ≤ 2 then year - 1 else year) =
          if month ≤ 2 then year - 1 else year := by
        split_ifs <;> omega
      have hnext : marchMonth (month + 1) = marchMonth month + 1 := by
        unfold marchMonth
        split_ifs <;> omega
      rw [toDays_mk, toDays_mk, hyear, hnext]
      omega
  · -- December and January are in one year that starts in March
    obtain rfl : month = 12 := by omega
    have hlength := daysInMonth_of_ne_two h1 h12 (by decide) year
    have hstart : monthStart (marchMonth 1) = monthStart (marchMonth 12 + 1) := rfl
    rw [toDays_mk, toDays_mk, if_pos (by omega), if_neg (by omega), hstart, Int.add_sub_cancel]
    omega

end Date

end Backfill.Calendar

import Mathlib.Order.Monotone.Basic
import Mathlib.Data.Int.ConditionallyCompleteOrder
import Mathlib.Order.ConditionallyCompleteLattice.Basic

/-!
# The calendar

Days are counted from 1970-01-01 and years are those of the proleptic Gregorian calendar.  A year
starts on or before a day exactly if it is not after the day's year (`firstOfYear_le_iff`).
-/

namespace Lib.Calendar

/-- The days of the `n` years from year 1 on. -/
def daysOfYears (n : ℤ) : ℤ := 365 * n + n / 4 - n / 100 + n / 400

/-- The days from 0001-01-01 to 1970-01-01. -/
abbrev epoch : ℤ := 719162

/-- The first of January. -/
def firstOfYear (y : ℤ) : ℤ := daysOfYears (y - 1) - epoch

/-- The year of a day: a guess by the mean length of a year, put right by one year at most. -/
def yearOf (j : ℤ) : ℤ :=
  let y := 400 * (j + epoch) / 146097 + 1
  if j < firstOfYear y then y - 1
  else if firstOfYear (y + 1) ≤ j then y + 1
  else y

theorem firstOfYear_lt_succ (y : ℤ) : firstOfYear y < firstOfYear (y + 1) := by
  unfold firstOfYear daysOfYears
  omega

theorem strictMono_firstOfYear : StrictMono firstOfYear :=
  strictMono_int_of_lt_succ firstOfYear_lt_succ

/-- A day lies in its year. -/
theorem yearOf_bounds (j : ℤ) : firstOfYear (yearOf j) ≤ j ∧ j < firstOfYear (yearOf j + 1) := by
  unfold yearOf
  simp only
  split_ifs with hbefore hafter
  · refine ⟨?_, ?_⟩
    · unfold firstOfYear daysOfYears epoch at *
      omega
    · rwa [Int.sub_add_cancel]
  · refine ⟨hafter, ?_⟩
    unfold firstOfYear daysOfYears epoch at *
    omega
  · exact ⟨not_lt.mp hbefore, not_le.mp hafter⟩

theorem firstOfYear_le_iff {y j : ℤ} : firstOfYear y ≤ j ↔ y ≤ yearOf j := by
  obtain ⟨hle, hlt⟩ := yearOf_bounds j
  constructor
  · intro h
    have hy : y < yearOf j + 1 := strictMono_firstOfYear.lt_iff_lt.mp (lt_of_le_of_lt h hlt)
    omega
  · exact fun h => le_trans (strictMono_firstOfYear.monotone h) hle

theorem monotone_yearOf : Monotone yearOf := fun j _ h =>
  firstOfYear_le_iff.mp (le_trans (yearOf_bounds j).1 h)

/-- 2024-02-29 and the days around the turn of that year. -/
example : (yearOf 19782, yearOf 19722, yearOf 19723, firstOfYear 2024) =
    (2024, 2023, 2024, 19723) := by decide

end Lib.Calendar

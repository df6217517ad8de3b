import Mathlib.Data.List.Sort
import MergeTrain.Instant.Calendar

/-!
# Days and dates

The date of a day number exists and has that day number, for every integer.

The year is found from the mean length of a year, 146097 days in 400 years. The start of a year is
never further from the mean than a few days, far less than a year, so the estimate is off by one
year at most and one comparison on either side mends it. What is left after the year is a place in a
list of months: the months before it add up to the days before the month.

## Main results

* `yearStart_yearOfDay` — the year that a day falls in.
* `monthOfDay_eq` — the month that a day of the year falls in, with the months before it.
* `Date.toDays_ofDays`, `Date.isValid_ofDays` — the date of a day number.
-/

namespace MergeTrain.Calendar

variable {n year : Int} {leap : Bool}

/-! ### Years -/

/-- The number of days in a year. -/
def yearLength (leap : Bool) : Nat :=
  if leap then 366 else 365

theorem yearStart_succ (year : Int) :
    yearStart (year + 1) = yearStart year + yearLength (isLeap year) := by
  have hleap : isLeap year = true ↔ year % 4 = 0 ∧ (year % 100 ≠ 0 ∨ year % 400 = 0) := by
    simp [isLeap]
  simp only [yearStart]
  by_cases h : isLeap year = true
  · have hlength : (yearLength (isLeap year) : Int) = 366 := by rw [h]; rfl
    rw [hleap] at h
    omega
  · have hlength : (yearLength (isLeap year) : Int) = 365 := by
      rw [Bool.not_eq_true] at h
      rw [h]
      rfl
    rw [hleap] at h
    omega

/-- The start of a year lies within two days of the mean, which is all that the estimate needs. -/
theorem yearStart_near (year : Int) :
    146097 * (year - 1) - 800 ≤ 400 * yearStart year ∧
      400 * yearStart year ≤ 146097 * (year - 1) + 400 := by
  simp only [yearStart]
  omega

/-- **A day falls in its year**: not before it starts, and before the next one starts. -/
theorem yearStart_yearOfDay (n : Int) :
    yearStart (yearOfDay n) ≤ n ∧ n < yearStart (yearOfDay n + 1) := by
  have hlow := yearStart_near (400 * n / 146097)
  have hhigh := yearStart_near (400 * n / 146097 + 1 + 1 + 1)
  unfold yearOfDay
  dsimp only
  split
  · next hlt =>
    rw [show 400 * n / 146097 + 1 - 1 = 400 * n / 146097 by omega]
    omega
  · split
    · omega
    · omega

/-! ### Months -/

/-- The number of days in some months. -/
def monthsLength (leap : Bool) (past : List Nat) : Nat :=
  (past.map (monthLength leap)).foldr (· + ·) 0

theorem monthsLength_months (leap : Bool) : monthsLength leap months = yearLength leap := by
  cases leap <;> rfl

/-- **The month that a day falls in**, with the months before it: their days and the day of the
month make up the days that were left. -/
theorem monthOfDay_eq {later : List Nat} {left : Nat} (h : left < monthsLength leap later) :
    ∃ before month after day, later = before ++ month :: after ∧ day < monthLength leap month ∧
      left = monthsLength leap before + day ∧ monthOfDay leap later left = (month, day + 1) := by
  induction later generalizing left with
  | nil => exact absurd h (Nat.not_lt_zero left)
  | cons month later ih =>
    rw [monthOfDay]
    split
    · next hlt => exact ⟨[], month, later, left, rfl, hlt, (Nat.zero_add left).symm, rfl⟩
    · next hge =>
      have hcons : monthsLength leap (month :: later) =
          monthLength leap month + monthsLength leap later := rfl
      obtain ⟨before, found, after, day, rfl, hday, hleft, hfound⟩ :=
        @ih (left - monthLength leap month) (by omega)
      refine ⟨month :: before, found, after, day, rfl, hday, ?_, hfound⟩
      show left = monthLength leap month + monthsLength leap before + day
      omega

/-- The months before one of the year are the smaller ones. -/
theorem daysBefore_eq {before after : List Nat} {month : Nat}
    (h : months = before ++ month :: after) :
    daysBefore leap month = monthsLength leap before := by
  have hsorted : months.Pairwise (· < ·) := by decide
  rw [h, List.pairwise_append] at hsorted
  have hbefore : ∀ m ∈ before, m < month := fun m hm => hsorted.2.2 m hm month List.mem_cons_self
  have htake : months.takeWhile (· < month) = before := by
    rw [h, List.takeWhile_append_of_pos (by simpa using hbefore),
      List.takeWhile_cons_of_neg (by simp), List.append_nil]
  rw [daysBefore, htake, monthsLength, ← List.sum_eq_foldr, List.sum_eq_foldl]

/-! ### Dates -/

/-- What is left of a day number after the year. -/
theorem toNat_sub_yearStart_lt (n : Int) :
    (n - yearStart (yearOfDay n)).toNat < yearLength (isLeap (yearOfDay n)) := by
  have hyear := yearStart_yearOfDay n
  rw [yearStart_succ] at hyear
  omega

theorem Date.ofDays_eq (n : Int) :
    ∃ before month after day, months = before ++ month :: after ∧
      day < monthLength (isLeap (yearOfDay n)) month ∧
        (n - yearStart (yearOfDay n)).toNat =
            monthsLength (isLeap (yearOfDay n)) before + day ∧
          Date.ofDays n = ⟨yearOfDay n, month, day + 1⟩ := by
  have hleft := toNat_sub_yearStart_lt n
  rw [← monthsLength_months] at hleft
  obtain ⟨before, month, after, day, hmonths, hday, hsum, hfound⟩ := monthOfDay_eq hleft
  refine ⟨before, month, after, day, hmonths, hday, hsum, ?_⟩
  rw [Date.ofDays, hfound]

/-- **A day number is that of its date.** -/
theorem Date.toDays_ofDays (n : Int) : (Date.ofDays n).toDays = n := by
  obtain ⟨before, month, after, day, hmonths, -, hsum, hdate⟩ := Date.ofDays_eq n
  have hstart := (yearStart_yearOfDay n).1
  rw [hdate, Date.toDays, daysBefore_eq hmonths]
  dsimp only
  omega

/-- **The date of a day number exists.** -/
theorem Date.isValid_ofDays (n : Int) : (Date.ofDays n).isValid = true := by
  obtain ⟨before, month, after, day, hmonths, hday, -, hdate⟩ := Date.ofDays_eq n
  have hmem : month ∈ months := by rw [hmonths]; simp
  have hmonth : ∀ m ∈ months, 1 ≤ m ∧ m ≤ 12 := by decide
  obtain ⟨hleast, hmost⟩ := hmonth month hmem
  rw [hdate]
  simp only [Date.isValid, Bool.and_eq_true, decide_eq_true_eq]
  omega

/-- The bounds of the months and days that exist. -/
theorem Date.le_of_isValid {d : Date} (h : d.isValid = true) : d.month ≤ 12 ∧ d.day ≤ 31 := by
  have hmonth : monthLength (isLeap d.year) d.month ≤ 31 := by
    rw [monthLength]
    split
    · split <;> decide
    · split <;> decide
  simp only [Date.isValid, Bool.and_eq_true, decide_eq_true_eq] at h
  omega

end MergeTrain.Calendar

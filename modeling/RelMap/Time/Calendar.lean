-- SUMMARY: Dates of the proleptic Gregorian calendar and their day numbers.

/-!
# The calendar

Dates of the Gregorian calendar, extended to all years, year zero included, and
the count of days from 1970-01-01. Main statement: a day number is the day number
of its date.
-/
namespace RelMap

/-- A year, a month from 1 and a day of the month from 1. -/
structure Date where
  year : Int
  month : Nat
  day : Nat
  deriving DecidableEq, Repr

namespace Date

/-- Every fourth year is a leap year, of the centuries every fourth. -/
def isLeap (year : Int) : Bool := year % 4 = 0 ∧ (year % 100 ≠ 0 ∨ year % 400 = 0)

/-- The lengths of the months in days. -/
def monthLengths (leap : Bool) : List Nat :=
  [31, if leap then 29 else 28, 31, 30, 31, 30, 31, 31, 30, 31, 30, 31]

/-- Days from the start of year zero to the start of a year. -/
def daysBeforeYear (year : Int) : Int :=
  365 * year + (year + 3) / 4 - (year + 99) / 100 + (year + 399) / 400

/-- Days from the start of year zero to 1970-01-01. -/
def epoch : Int := 719528

/-- The month and the day of the month of a day counted from the first of the
months with the given lengths. -/
def locate : List Nat → Nat → Nat × Nat
  | [], n => (1, n + 1)
  | length :: rest, n =>
    if n < length then (1, n + 1)
    else
      let (month, day) := locate rest (n - length)
      (month + 1, day)

/-- The days of months with the given lengths. -/
def total : List Nat → Nat
  | [] => 0
  | length :: rest => length + total rest

/-- Days of the months before `month`. -/
def daysBeforeMonth (leap : Bool) (month : Nat) : Nat :=
  total ((monthLengths leap).take (month - 1))

/-- The date is one of the calendar. -/
def Valid (d : Date) : Prop :=
  1 ≤ d.month ∧ d.month ≤ 12 ∧ 1 ≤ d.day ∧
    d.day ≤ (monthLengths (isLeap d.year)).getD (d.month - 1) 0

instance (d : Date) : Decidable d.Valid := inferInstanceAs (Decidable (_ ∧ _))

/-- Days from 1970-01-01. -/
def dayNumber (d : Date) : Int :=
  daysBeforeYear d.year + daysBeforeMonth (isLeap d.year) d.month + d.day - 1 - epoch

/-- The year of a day counted from the start of year zero. The mean length of a
year puts the guess at most one year off. -/
def yearOf (day : Int) : Int :=
  let guess := day * 400 / 146097
  if day < daysBeforeYear guess then guess - 1
  else if daysBeforeYear (guess + 1) ≤ day then guess + 1
  else guess

/-- The date of a day counted from 1970-01-01. -/
def ofDayNumber (n : Int) : Date :=
  let day := n + epoch
  let year := yearOf day
  let (month, dayOfMonth) :=
    locate (monthLengths (isLeap year)) (day - daysBeforeYear year).toNat
  ⟨year, month, dayOfMonth⟩

/-! ## Laws -/

/-- The length of a year in days. -/
def yearLength (year : Int) : Int := if isLeap year then 366 else 365

theorem daysBeforeYear_succ (year : Int) :
    daysBeforeYear (year + 1) = daysBeforeYear year + yearLength year := by
  unfold daysBeforeYear yearLength isLeap
  split <;> rename_i h <;> simp only [decide_eq_true_eq] at h <;> omega

/-- The mean length of a year, over 400 years, bounds the days before a year. -/
theorem daysBeforeYear_bounds (year : Int) :
    146097 * year - 396 ≤ 400 * daysBeforeYear year ∧
      400 * daysBeforeYear year ≤ 146097 * year + 699 := by
  unfold daysBeforeYear
  constructor <;> omega

theorem yearLength_bounds (year : Int) : 365 ≤ yearLength year ∧ yearLength year ≤ 366 := by
  unfold yearLength
  split <;> omega

/-- The year of a day starts at or before the day and ends after it. -/
theorem yearOf_bounds (day : Int) :
    daysBeforeYear (yearOf day) ≤ day ∧ day < daysBeforeYear (yearOf day + 1) := by
  unfold yearOf
  simp only
  generalize hg : day * 400 / 146097 = guess
  have hlow : 146097 * guess ≤ 400 * day := by omega
  have hhigh : 400 * day < 146097 * guess + 146097 := by omega
  have b0 := daysBeforeYear_bounds guess
  have b1 := daysBeforeYear_bounds (guess + 1)
  have s0 := daysBeforeYear_succ (guess - 1)
  have s1 := daysBeforeYear_succ (guess + 1)
  have l0 := yearLength_bounds (guess - 1)
  have l1 := yearLength_bounds (guess + 1)
  rw [show guess - 1 + 1 = guess by omega] at s0
  split
  · rw [show guess - 1 + 1 = guess by omega]
    omega
  · split <;> omega

/-- Locating a day and counting the days up to it are inverse. -/
theorem locate_sum (lengths : List Nat) (n : Nat) (h : n < total lengths) :
    total (lengths.take ((locate lengths n).1 - 1)) + (locate lengths n).2 = n + 1 ∧
      1 ≤ (locate lengths n).1 ∧ (locate lengths n).1 ≤ lengths.length ∧
      1 ≤ (locate lengths n).2 ∧
      (locate lengths n).2 ≤ lengths.getD ((locate lengths n).1 - 1) 0 := by
  induction lengths generalizing n with
  | nil => simp [total] at h
  | cons length rest ih =>
    unfold locate
    split
    · simp [total]; omega
    · next hlt =>
      have hrest : n - length < total rest := by simp only [total] at h; omega
      obtain ⟨hsum, hone, hle, hday, hlen⟩ := ih (n - length) hrest
      obtain ⟨m, hm⟩ : ∃ m, (locate rest (n - length)).1 = m + 1 :=
        ⟨(locate rest (n - length)).1 - 1, by omega⟩
      simp only [hm, Nat.add_sub_cancel] at hsum hone hle hlen ⊢
      have htake : total ((length :: rest).take (m + 1)) = length + total (rest.take m) := rfl
      rw [htake]
      refine ⟨by omega, by omega, by simp only [List.length_cons]; omega, hday, ?_⟩
      rw [show m + 1 = m.succ from rfl, List.getD_cons_succ]
      exact hlen

theorem total_monthLengths (leap : Bool) :
    total (monthLengths leap) = if leap then 366 else 365 := by cases leap <;> rfl

theorem locate_ofDayNumber (day : Int) :
    (day - daysBeforeYear (yearOf day)).toNat < total (monthLengths (isLeap (yearOf day))) := by
  have hb := yearOf_bounds day
  rw [daysBeforeYear_succ, yearLength] at hb
  rw [total_monthLengths]
  split <;> simp_all <;> omega

theorem dayNumber_ofDayNumber (n : Int) : (ofDayNumber n).dayNumber = n := by
  have hb := yearOf_bounds (n + epoch)
  obtain ⟨hsum, -⟩ := locate_sum _ _ (locate_ofDayNumber (n + epoch))
  simp only [ofDayNumber, dayNumber, daysBeforeMonth]
  omega

theorem valid_ofDayNumber (n : Int) : (ofDayNumber n).Valid := by
  obtain ⟨-, h1, h2, h3, h4⟩ := locate_sum _ _ (locate_ofDayNumber (n + epoch))
  exact ⟨h1, h2, h3, h4⟩

end Date

end RelMap

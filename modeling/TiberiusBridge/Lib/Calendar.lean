import Mathlib.Data.List.GetD
import Mathlib.Tactic.Ring

/-!
# The proleptic Gregorian calendar

Dates as year, month and day, with the day checked against its month, and as
day numbers, 1 on 0001-01-01. The two determine each other, over all years.
-/
namespace TiberiusBridge.Lib

/-- The block that holds the `n`th place, counted from 1, and the place within it. -/
def place : List Nat → Nat → Nat × Nat
  | [], n => (0, n)
  | l :: ls, n => if n ≤ l then (0, n) else ((place ls (n - l)).1 + 1, (place ls (n - l)).2)

theorem place_spec {ls : List Nat} {n : Nat} (hpos : 1 ≤ n) (hn : n ≤ ls.sum) :
    (place ls n).1 < ls.length ∧ 1 ≤ (place ls n).2 ∧
      (place ls n).2 ≤ ls.getD (place ls n).1 0 ∧
      (ls.take (place ls n).1).sum + (place ls n).2 = n := by
  induction ls generalizing n with
  | nil => simp at hn; omega
  | cons l ls ih =>
    unfold place
    split
    · next h => simpa using ⟨hpos, h⟩
    · next h =>
      rw [List.sum_cons] at hn
      obtain ⟨hi, hd, hle, hsum⟩ := ih (n := n - l) (by omega) (by omega)
      refine ⟨by simpa using hi, hd, by simpa using hle, ?_⟩
      simp only [List.take_succ_cons, List.sum_cons]
      omega

theorem place_unique {ls : List Nat} {i d : Nat} (hi : i < ls.length) (hd : 1 ≤ d)
    (hle : d ≤ ls.getD i 0) : place ls ((ls.take i).sum + d) = (i, d) := by
  induction ls generalizing i with
  | nil => simp at hi
  | cons l ls ih =>
    cases i with
    | zero =>
      have h : d ≤ l := by simpa using hle
      simp [place, h]
    | succ i =>
      have hrest := ih (by simpa using hi) (by simpa using hle)
      have hlt : ¬l + (ls.take i).sum + d ≤ l := by omega
      have hsub : l + (ls.take i).sum + d - l = (ls.take i).sum + d := by omega
      simp only [List.take_succ_cons, List.sum_cons, place, if_neg hlt, hsub, hrest]

theorem sum_take_add_le {ls : List Nat} {i d : Nat} (hi : i < ls.length) (hle : d ≤ ls.getD i 0) :
    (ls.take i).sum + d ≤ ls.sum := by
  induction ls generalizing i with
  | nil => simp at hi
  | cons l ls ih =>
    cases i with
    | zero =>
      have h : d ≤ l := by simpa using hle
      simp only [List.take_zero, List.sum_nil, List.sum_cons]
      omega
    | succ i =>
      have hrest := ih (by simpa using hi) (by simpa using hle)
      simp only [List.take_succ_cons, List.sum_cons]
      omega

def IsLeapYear (year : Int) : Prop := year % 4 = 0 ∧ (year % 100 ≠ 0 ∨ year % 400 = 0)

instance (year : Int) : Decidable (IsLeapYear year) := inferInstanceAs (Decidable (_ ∧ _))

def monthLengths (year : Int) : List Nat :=
  [31, if IsLeapYear year then 29 else 28, 31, 30, 31, 30, 31, 31, 30, 31, 30, 31]

/-- The days of the years 1 to `year - 1`, negative before year 1. -/
def daysBefore (year : Int) : Int :=
  (year - 1) * 365 + (year - 1) / 4 - (year - 1) / 100 + (year - 1) / 400

/-- The year of a day number: 400 years have 146097 days, and leap days at most shift to the
next year. -/
def yearOf (n : Int) : Int :=
  let year := (n - 1) * 400 / 146097 + 1
  if n ≤ daysBefore (year + 1) then year else year + 1

theorem daysBefore_succ (year : Int) :
    daysBefore (year + 1) = daysBefore year + (monthLengths year).sum := by
  by_cases h : IsLeapYear year
  · have hsum : (monthLengths year).sum = 366 := by simp [monthLengths, h]
    rw [hsum]
    unfold IsLeapYear at h
    unfold daysBefore
    omega
  · have hsum : (monthLengths year).sum = 365 := by simp [monthLengths, h]
    rw [hsum]
    unfold IsLeapYear at h
    unfold daysBefore
    omega

theorem daysBefore_mono {year year' : Int} (h : year ≤ year') :
    daysBefore year ≤ daysBefore year' := by
  unfold daysBefore
  omega

theorem yearOf_spec (n : Int) : daysBefore (yearOf n) < n ∧ n ≤ daysBefore (yearOf n + 1) := by
  have hbefore : daysBefore ((n - 1) * 400 / 146097 + 1) < n := by
    unfold daysBefore
    omega
  have hafter : n ≤ daysBefore ((n - 1) * 400 / 146097 + 1 + 1 + 1) := by
    unfold daysBefore
    omega
  simp only [yearOf]
  split
  · next h => exact ⟨hbefore, h⟩
  · next h => exact ⟨by omega, hafter⟩

theorem yearOf_unique {n year : Int} (hl : daysBefore year < n) (hu : n ≤ daysBefore (year + 1)) :
    yearOf n = year := by
  obtain ⟨hl', hu'⟩ := yearOf_spec n
  rcases Int.lt_trichotomy (yearOf n) year with h | h | h
  · have := @daysBefore_mono (yearOf n + 1) year h
    omega
  · exact h
  · have := @daysBefore_mono (year + 1) (yearOf n) h
    omega

def monthLength (year : Int) (month : Nat) : Nat := (monthLengths year).getD (month - 1) 0

theorem monthLength_le (year : Int) (month : Nat) : monthLength year month ≤ 31 := by
  have hall : ∀ l ∈ monthLengths year, l ≤ 31 := by
    unfold monthLengths
    split <;> simp
  unfold monthLength
  rcases Nat.lt_or_ge (month - 1) (monthLengths year).length with h | h
  · rw [List.getD_eq_getElem _ _ h]
    exact hall _ (List.getElem_mem h)
  · rw [List.getD_eq_default _ _ h]
    exact Nat.zero_le _

@[ext]
structure CivilDate where
  year : Int
  month : Nat
  day : Nat
  month_range : 1 ≤ month ∧ month ≤ 12
  day_range : 1 ≤ day ∧ day ≤ monthLength year month

/-- A time of day, without leap seconds. -/
structure CivilTime where
  hour : Nat
  minute : Nat
  second : Nat
  nanosecond : Nat
  range : hour < 24 ∧ minute < 60 ∧ second < 60 ∧ nanosecond < 10 ^ 9

structure CivilDateTime where
  date : CivilDate
  time : CivilTime

def CivilTime.ofFields (hour minute second nanosecond : Nat) : Option CivilTime :=
  if h : hour < 24 ∧ minute < 60 ∧ second < 60 ∧ nanosecond < 10 ^ 9 then
    some ⟨hour, minute, second, nanosecond, h⟩
  else none

theorem CivilTime.ofFields_some {hour minute second nanosecond : Nat} {c : CivilTime}
    (h : ofFields hour minute second nanosecond = some c) :
    c.hour = hour ∧ c.minute = minute ∧ c.second = second ∧ c.nanosecond = nanosecond := by
  unfold ofFields at h
  split at h <;> cases h
  exact ⟨rfl, rfl, rfl, rfl⟩

namespace CivilDate

def dayNumber (c : CivilDate) : Int :=
  daysBefore c.year + ((monthLengths c.year).take (c.month - 1)).sum + c.day

/-- The day of the year, placed in its month. -/
def dayInYear (n : Int) : Nat × Nat :=
  place (monthLengths (yearOf n)) (n - daysBefore (yearOf n)).toNat

theorem dayInYear_spec (n : Int) : (dayInYear n).1 < 12 ∧ 1 ≤ (dayInYear n).2 ∧
    (dayInYear n).2 ≤ (monthLengths (yearOf n)).getD (dayInYear n).1 0 ∧
    daysBefore (yearOf n) + ((monthLengths (yearOf n)).take (dayInYear n).1).sum +
      (dayInYear n).2 = n := by
  obtain ⟨hl, hu⟩ := yearOf_spec n
  rw [daysBefore_succ] at hu
  obtain ⟨hi, hd, hle, hsum⟩ := @place_spec (monthLengths (yearOf n))
    (n - daysBefore (yearOf n)).toNat (by omega) (by omega)
  exact ⟨hi, hd, hle, by unfold dayInYear; omega⟩

def ofDayNumber (n : Int) : CivilDate where
  year := yearOf n
  month := (dayInYear n).1 + 1
  day := (dayInYear n).2
  month_range := ⟨Nat.le_add_left _ _, (dayInYear_spec n).1⟩
  day_range := ⟨(dayInYear_spec n).2.1, (dayInYear_spec n).2.2.1⟩

theorem dayNumber_ofDayNumber (n : Int) : (ofDayNumber n).dayNumber = n :=
  (dayInYear_spec n).2.2.2

theorem day_le (c : CivilDate) : c.day ≤ 31 := Nat.le_trans c.day_range.2 (monthLength_le _ _)

theorem month_lt (c : CivilDate) : c.month - 1 < (monthLengths c.year).length := by
  have h := c.month_range
  simp only [monthLengths, List.length_cons, List.length_nil]
  omega

/-- A date lies in its year. -/
theorem dayNumber_range (c : CivilDate) :
    daysBefore c.year < c.dayNumber ∧ c.dayNumber ≤ daysBefore (c.year + 1) := by
  have hle := sum_take_add_le c.month_lt c.day_range.2
  have hpos := c.day_range.1
  have hsucc := daysBefore_succ c.year
  unfold dayNumber
  omega

theorem yearOf_dayNumber (c : CivilDate) : yearOf c.dayNumber = c.year :=
  yearOf_unique c.dayNumber_range.1 c.dayNumber_range.2

theorem dayInYear_dayNumber (c : CivilDate) : dayInYear c.dayNumber = (c.month - 1, c.day) := by
  have hday : (c.dayNumber - daysBefore c.year).toNat =
      ((monthLengths c.year).take (c.month - 1)).sum + c.day := by
    unfold dayNumber
    omega
  rw [dayInYear, yearOf_dayNumber, hday]
  exact place_unique c.month_lt c.day_range.1 c.day_range.2

theorem ofDayNumber_dayNumber (c : CivilDate) : ofDayNumber c.dayNumber = c := by
  have hmonth := c.month_range.1
  ext
  · exact yearOf_dayNumber c
  · simp only [ofDayNumber, dayInYear_dayNumber]
    omega
  · simp only [ofDayNumber, dayInYear_dayNumber]

/-- The date with these fields, if there is one. -/
def ofFields (year : Int) (month day : Nat) : Option CivilDate :=
  if h : (1 ≤ month ∧ month ≤ 12) ∧ 1 ≤ day ∧ day ≤ monthLength year month then
    some ⟨year, month, day, h.1, h.2⟩
  else none

theorem ofFields_eq_some_iff {year : Int} {month day : Nat} {c : CivilDate} :
    ofFields year month day = some c ↔ c.year = year ∧ c.month = month ∧ c.day = day := by
  unfold ofFields
  constructor
  · intro h
    split at h <;> cases h
    exact ⟨rfl, rfl, rfl⟩
  · rintro ⟨rfl, rfl, rfl⟩
    exact dif_pos ⟨c.month_range, c.day_range⟩

end CivilDate

end TiberiusBridge.Lib

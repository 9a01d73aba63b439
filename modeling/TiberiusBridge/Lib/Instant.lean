import TiberiusBridge.Lib.Calendar

/-!
# Instants

A civil date and time of day, read in UTC, as the nanoseconds since 1970-01-01.
Every integer is one of them, and determines it.
-/
namespace TiberiusBridge.Lib

/-- The day number of 1970-01-01. -/
def epochDay : Int := 719163

def dayNanos : Nat := 86400000000000

/-- The dates of consecutive years have consecutive day numbers. -/
theorem CivilDate.year_between (c : CivilDate) (first last : Int) :
    first ≤ c.year ∧ c.year ≤ last ↔
      daysBefore first < c.dayNumber ∧ c.dayNumber ≤ daysBefore (last + 1) := by
  obtain ⟨hbefore, hafter⟩ := c.dayNumber_range
  constructor
  · rintro ⟨hl, hu⟩
    have hfirst := daysBefore_mono hl
    have hlast := @daysBefore_mono (c.year + 1) (last + 1) (by omega)
    omega
  · rintro ⟨hl, hu⟩
    constructor
    · by_contra hyear
      have h := @daysBefore_mono (c.year + 1) first (by omega)
      omega
    · by_contra hyear
      have h := @daysBefore_mono (last + 1) c.year (by omega)
      omega

namespace CivilTime

/-- Nanoseconds since midnight. -/
def nanos (c : CivilTime) : Nat :=
  c.hour * 3600000000000 + c.minute * 60000000000 + c.second * 1000000000 + c.nanosecond

theorem nanos_lt (c : CivilTime) : c.nanos < dayNanos := by
  have h := c.range
  unfold nanos dayNanos
  omega

def ofNanos (n : Nat) (h : n < dayNanos) : CivilTime where
  hour := n / 3600000000000
  minute := n / 60000000000 % 60
  second := n / 1000000000 % 60
  nanosecond := n % 1000000000
  range := by
    unfold dayNanos at h
    omega

theorem nanos_ofNanos (n : Nat) (h : n < dayNanos) : (ofNanos n h).nanos = n := by
  unfold dayNanos at h
  show n / 3600000000000 * 3600000000000 + n / 60000000000 % 60 * 60000000000 +
    n / 1000000000 % 60 * 1000000000 + n % 1000000000 = n
  omega

theorem nanos_inj {c c' : CivilTime} (h : c.nanos = c'.nanos) : c = c' := by
  obtain ⟨hour, minute, second, nanosecond, hr⟩ := c
  obtain ⟨hour', minute', second', nanosecond', hr'⟩ := c'
  simp only [nanos] at h
  obtain ⟨rfl, rfl, rfl, rfl⟩ : hour = hour' ∧ minute = minute' ∧ second = second' ∧
      nanosecond = nanosecond' := by omega
  rfl

end CivilTime

namespace CivilDateTime

def instant (c : CivilDateTime) : Int :=
  (c.date.dayNumber - epochDay) * dayNanos + c.time.nanos

/-- The day that an instant falls on. -/
def dayOf (n : Int) : Int := n / dayNanos + epochDay

theorem nanos_of_day (n : Int) : (n % dayNanos).toNat < dayNanos := by
  unfold dayNanos
  omega

def ofInstant (n : Int) : CivilDateTime where
  date := .ofDayNumber (dayOf n)
  time := .ofNanos (n % dayNanos).toNat (nanos_of_day n)

theorem dayOf_instant (c : CivilDateTime) : dayOf c.instant = c.date.dayNumber := by
  have h := c.time.nanos_lt
  unfold dayOf instant
  unfold dayNanos at *
  omega

theorem nanos_instant (c : CivilDateTime) : (c.instant % dayNanos).toNat = c.time.nanos := by
  have h := c.time.nanos_lt
  unfold instant
  unfold dayNanos at *
  omega

theorem ofInstant_instant (c : CivilDateTime) : ofInstant c.instant = c := by
  have hdate : (ofInstant c.instant).date = c.date := by
    show CivilDate.ofDayNumber (dayOf c.instant) = c.date
    rw [dayOf_instant, CivilDate.ofDayNumber_dayNumber]
  have htime : (ofInstant c.instant).time = c.time := by
    apply CivilTime.nanos_inj
    exact (CivilTime.nanos_ofNanos _ (nanos_of_day _)).trans c.nanos_instant
  exact congrArg₂ CivilDateTime.mk hdate htime

end CivilDateTime

end TiberiusBridge.Lib

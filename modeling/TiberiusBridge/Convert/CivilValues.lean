import Mathlib.Tactic.IntervalCases
import TiberiusBridge.Convert.CivilEncode
import TiberiusBridge.Convert.Reference
import TiberiusBridge.Lib.Calendar

/-!
# What chrono, time and jiff values stand for

Each library's dates and times stand for a civil date and time of day: a class
for each. A reference instance keeps the civil values themselves.
-/
namespace TiberiusBridge

open Lib (Compute CivilDate CivilTime)

class ChronoCivil [Chrono] [ChronoFields] where
  civilDate : NaiveDate → CivilDate
  year_eq : ∀ d, ChronoFields.year d = (civilDate d).year
  month_eq : ∀ d, ChronoFields.month d = (civilDate d).month
  day_eq : ∀ d, ChronoFields.day d = (civilDate d).day
  dayNumber_eq : ∀ d, (civilDate d).dayNumber = Chrono.numDaysFromCe d
  fromYmd_civil : ∀ d,
    Chrono.fromYmdOpt (civilDate d).year (civilDate d).month (civilDate d).day = some d

class TimeCrateCivil [TimeCrate] [TimeFields] where
  civilDate : TimeCrate.Date → CivilDate
  civilTime : TimeCrate.Time → CivilTime
  date_eq : ∀ d, TimeFields.year d = (civilDate d).year ∧
    TimeFields.month d = (civilDate d).month ∧ TimeFields.day d = (civilDate d).day
  time_eq : ∀ t, TimeFields.hour t = (civilTime t).hour ∧
    TimeFields.minute t = (civilTime t).minute ∧ TimeFields.second t = (civilTime t).second ∧
    TimeFields.nanosecond t = (civilTime t).nanosecond
  /-- The constructors give the fields they are given. -/
  calendarDate_civil : ∀ year n month day d, TimeCrate.monthOf n = some month →
    TimeCrate.fromCalendarDate year month day = some d →
      (civilDate d).year = year ∧ (civilDate d).month = n ∧ (civilDate d).day = day
  hmsNano_civil : ∀ hour minute second nanosecond t,
    TimeCrate.fromHmsNano hour minute second nanosecond = some t →
      (civilTime t).hour = hour ∧ (civilTime t).minute = minute ∧
      (civilTime t).second = second ∧ (civilTime t).nanosecond = nanosecond

class JiffCivil [Jiff] [JiffFields] where
  civilDate : Jiff.Date → CivilDate
  civilTime : Jiff.Time → CivilTime
  date_eq : ∀ d, JiffFields.year d = (civilDate d).year ∧
    JiffFields.month d = (civilDate d).month ∧ JiffFields.day d = (civilDate d).day
  time_eq : ∀ t, JiffFields.hour t = (civilTime t).hour ∧
    JiffFields.minute t = (civilTime t).minute ∧ JiffFields.second t = (civilTime t).second ∧
    JiffFields.subsecNanosecond t = (civilTime t).nanosecond
  date_civil : ∀ year month day d, Jiff.date year month day = some d →
    (civilDate d).year = year ∧ ((civilDate d).month : Int) = month ∧
      ((civilDate d).day : Int) = day
  time_civil : ∀ hour minute second nanosecond t,
    Jiff.time hour minute second nanosecond = some t →
      ((civilTime t).hour : Int) = hour ∧ ((civilTime t).minute : Int) = minute ∧
      ((civilTime t).second : Int) = second ∧ ((civilTime t).nanosecond : Int) = nanosecond
  dateTime_civil : ∀ year month day hour minute second nanosecond dt,
    Jiff.dateTime year month day hour minute second nanosecond = some dt →
      Jiff.date year month day = some (JiffFields.date dt) ∧
      Jiff.time hour minute second nanosecond = some (JiffFields.time dt)
  /-- The dates of `jiff` are those of the years -9999 to 9999. -/
  date_exists : ∀ c : CivilDate,
    (-9999 ≤ c.year ∧ c.year ≤ 9999) ↔ ∃ d, Jiff.date c.year c.month c.day = some d
  time_exists : ∀ c : CivilTime, ∃ t, Jiff.time c.hour c.minute c.second c.nanosecond = some t
  /-- A date and a time make a date-time. -/
  dateTime_exists : ∀ year month day hour minute second nanosecond d t,
    Jiff.date year month day = some d → Jiff.time hour minute second nanosecond = some t →
      ∃ dt, Jiff.dateTime year month day hour minute second nanosecond = some dt
  /-- The defaults are 0000-01-01, its midnight, and the start of 1970. -/
  defaultDate_year : (civilDate JiffFields.defaultDate).year = 0
  defaultDateTime_date : JiffFields.date JiffFields.defaultDateTime = JiffFields.defaultDate
  defaultTimestamp_year :
    (civilDate (JiffFields.date (JiffFields.toUtc JiffFields.defaultTimestamp))).year = 1970
  defaultZoned_timestamp :
    JiffFields.timestamp JiffFields.defaultZoned = JiffFields.defaultTimestamp

section

variable [Chrono]

/-- A chrono time outside leap seconds stands for a time of day. -/
structure HasFields (t : NaiveTime) (c : CivilTime) : Prop where
  hour : hour t = c.hour
  minute : minute t = c.minute
  second : second t = c.second
  nanosecond : Chrono.nanosecond t = c.nanosecond

end

namespace Reference

theorem monthLength_eq (year : Int) {month : Nat} (h : 1 ≤ month ∧ month ≤ 12) :
    monthLength year month = Lib.monthLength year month := by
  obtain ⟨hl, hu⟩ := h
  have hleap : isLeapYear year = true ↔ Lib.IsLeapYear year := by
    simp [isLeapYear, Lib.IsLeapYear]
  interval_cases month <;> simp [monthLength, Lib.monthLength, Lib.monthLengths, hleap]

theorem months_eq (year : Int) {k : Nat} (hk : k ≤ 12) :
    (List.range k).foldl (fun n i => n + monthLength year (i + 1)) 0 =
      ((Lib.monthLengths year).take k).sum := by
  induction k with
  | zero => rfl
  | succ k ih =>
    have hlt : k < (Lib.monthLengths year).length := hk
    rw [List.range_succ, List.foldl_append, ih (by omega), List.take_succ_eq_append_getElem hlt,
      List.sum_append, List.sum_singleton, ← List.getD_eq_getElem _ 0 hlt]
    exact congrArg _ (monthLength_eq year ⟨Nat.le_add_left _ _, hk⟩)

theorem dayNumber_eq (c : CivilDate) : dayNumber c.year c.month c.day = c.dayNumber := by
  obtain ⟨hl, hu⟩ := c.month_range
  simp only [dayNumber, months_eq c.year (show c.month - 1 ≤ 12 by omega)]
  rfl

scoped instance chronoFields : ChronoFields where
  year d := (CivilDate.ofDayNumber d.val).year
  month d := (CivilDate.ofDayNumber d.val).month
  day d := (CivilDate.ofDayNumber d.val).day

scoped instance chronoCivil : ChronoCivil where
  civilDate d := .ofDayNumber d.val
  year_eq _ := rfl
  month_eq _ := rfl
  day_eq _ := rfl
  dayNumber_eq d := CivilDate.dayNumber_ofDayNumber d.val
  fromYmd_civil d := by
    have hday := (CivilDate.ofDayNumber d.val).day_range
    rw [← monthLength_eq _ (CivilDate.ofDayNumber d.val).month_range] at hday
    have hnumber := dayNumber_eq (.ofDayNumber d.val)
    rw [CivilDate.dayNumber_ofDayNumber] at hnumber
    exact (if_pos hday).trans ((dateOfDayNumber_eq_iff _ d).mpr hnumber.symm)

/-- The dates of `time` and of `jiff`. -/
abbrev CommonDate := { c : CivilDate // -9999 ≤ c.year ∧ c.year ≤ 9999 }

def commonDate (c : CivilDate) : Option CommonDate :=
  if h : -9999 ≤ c.year ∧ c.year ≤ 9999 then some ⟨c, h⟩ else none

theorem commonDate_eq_some_iff {c : CivilDate} {d : CommonDate} :
    commonDate c = some d ↔ d.val = c := by
  unfold commonDate
  constructor
  · intro h
    split at h <;> cases h
    rfl
  · rintro rfl
    exact dif_pos d.property

def midnight : CivilTime := ⟨0, 0, 0, 0, by decide⟩

/-- Seconds since 1970. -/
def secondsOf (dt : CommonDate × CivilTime) : Int :=
  (dt.1.val.dayNumber - 719163) * 86400 + dt.2.hour * 3600 + dt.2.minute * 60 + dt.2.second

def ofSeconds (secs : Int) (nanos : Nat) : Option (CommonDate × CivilTime) :=
  (commonDate (.ofDayNumber (secs / 86400 + 719163))).bind fun date =>
    (CivilTime.ofFields (secs % 86400 / 3600).toNat (secs % 3600 / 60).toNat (secs % 60).toNat
      nanos).map (date, ·)

scoped instance timeCrate : TimeCrate where
  Date := CommonDate
  Time := CivilTime
  Month := { n : Nat // 1 ≤ n ∧ n ≤ 12 }
  UtcOffset := { s : Int // -93600 < s ∧ s < 93600 }
  OffsetDateTime := (CommonDate × CivilTime) × { s : Int // -93600 < s ∧ s < 93600 }
  monthOf n := if h : 1 ≤ n ∧ n ≤ 12 then some ⟨n, h⟩ else none
  fromCalendarDate year month day := (CivilDate.ofFields year month.val day).bind commonDate
  fromHmsNano := CivilTime.ofFields
  fromWholeSeconds s := if h : -93600 < s ∧ s < 93600 then some ⟨s, h⟩ else none
  assumeUtc date time := ((date, time), ⟨0, by decide⟩)
  toOffset dt offset :=
    match ofSeconds (secondsOf dt.1 + (offset.val - dt.2.val)) dt.1.2.nanosecond with
    | some shifted => .ok (shifted, offset)
    | none => .error (.expect "local datetime out of valid range")

scoped instance timeFields : TimeFields where
  year d := d.val.year
  month d := d.val.month
  day d := d.val.day
  hour t := t.hour
  minute t := t.minute
  second t := t.second
  nanosecond t := t.nanosecond
  date dt := dt.1.1
  time dt := dt.1.2
  offset dt := dt.2
  wholeSeconds offset := offset.val
  utc := ⟨0, by decide⟩
  time_range t := t.range

scoped instance timeCrateCivil : TimeCrateCivil where
  civilDate d := d.val
  civilTime t := t
  date_eq _ := ⟨rfl, rfl, rfl⟩
  time_eq _ := ⟨rfl, rfl, rfl, rfl⟩
  calendarDate_civil year n month day d hmonth h := by
    obtain ⟨c, hc, hd⟩ := Option.bind_eq_some_iff.mp h
    rw [commonDate_eq_some_iff.mp hd]
    obtain ⟨hy, hm, hday⟩ := CivilDate.ofFields_eq_some_iff.mp hc
    refine ⟨hy, hm.trans ?_, hday⟩
    simp only [TimeCrate.monthOf] at hmonth
    split at hmonth <;> cases hmonth
    rfl
  hmsNano_civil _ _ _ _ _ h := CivilTime.ofFields_some h

/-- The time with these fields, none of them negative. -/
def signedTime (hour minute second nanosecond : Int) : Option CivilTime :=
  if 0 ≤ hour ∧ 0 ≤ minute ∧ 0 ≤ second ∧ 0 ≤ nanosecond then
    CivilTime.ofFields hour.toNat minute.toNat second.toNat nanosecond.toNat
  else none

def signedDate (year month day : Int) : Option CommonDate :=
  (CivilDate.ofFields year month.toNat day.toNat).bind commonDate

scoped instance jiff : Jiff where
  Date := CommonDate
  Time := CivilTime
  DateTime := CommonDate × CivilTime
  Timestamp := CommonDate × CivilTime
  Offset := { s : Int // -93600 < s ∧ s < 93600 }
  Zoned := (CommonDate × CivilTime) × { s : Int // -93600 < s ∧ s < 93600 }
  date := signedDate
  time := signedTime
  dateTime year month day hour minute second nanosecond :=
    (signedDate year month day).bind fun date =>
      (signedTime hour minute second nanosecond).map (date, ·)
  timestamp secs nanos := if 0 ≤ nanos then ofSeconds secs nanos.toNat else none
  offsetFromSeconds s := if h : -93600 < s ∧ s < 93600 then some ⟨s, h⟩ else none
  toZoned timestamp offset := (timestamp, offset)

scoped instance jiffFields : JiffFields where
  year d := d.val.year
  month d := d.val.month
  day d := d.val.day
  hour t := t.hour
  minute t := t.minute
  second t := t.second
  subsecNanosecond t := t.nanosecond
  date := Prod.fst
  time := Prod.snd
  toUtc timestamp := timestamp
  timestamp := Prod.fst
  offsetSeconds z := z.2.val
  defaultDate := ⟨⟨0, 1, 1, by decide, by decide⟩, by decide⟩
  defaultTime := midnight
  defaultDateTime := (⟨⟨0, 1, 1, by decide, by decide⟩, by decide⟩, midnight)
  defaultTimestamp := (⟨⟨1970, 1, 1, by decide, by decide⟩, by decide⟩, midnight)
  defaultZoned := ((⟨⟨1970, 1, 1, by decide, by decide⟩, by decide⟩, midnight), ⟨0, by decide⟩)
  date_range d := by
    have hmonth := d.val.month_range
    have hday := d.val.day_range.1
    have hle := d.val.day_le
    omega
  time_range t := by
    have h := t.range
    omega

scoped instance jiffCivil : JiffCivil where
  civilDate d := d.val
  civilTime t := t
  date_eq _ := ⟨rfl, rfl, rfl⟩
  time_eq _ := ⟨rfl, rfl, rfl, rfl⟩
  date_civil year month day d h := by
    obtain ⟨c, hc, hd⟩ := Option.bind_eq_some_iff.mp h
    rw [commonDate_eq_some_iff.mp hd]
    obtain ⟨hy, hm, hday⟩ := CivilDate.ofFields_eq_some_iff.mp hc
    have hmonth := c.month_range.1
    have hpos := c.day_range.1
    omega
  time_civil hour minute second nanosecond t h := by
    simp only [Jiff.time, signedTime] at h
    split at h
    · next hsign =>
      have hfields := CivilTime.ofFields_some h
      omega
    · cases h
  dateTime_civil year month day hour minute second nanosecond dt h := by
    obtain ⟨date, hdate, hrest⟩ := Option.bind_eq_some_iff.mp h
    obtain ⟨time, htime, rfl⟩ := Option.map_eq_some_iff.mp hrest
    exact ⟨hdate, htime⟩
  date_exists c := by
    have hfields : CivilDate.ofFields c.year c.month c.day = some c :=
      CivilDate.ofFields_eq_some_iff.mpr ⟨rfl, rfl, rfl⟩
    have hdate : signedDate c.year c.month c.day = commonDate c := by
      rw [signedDate, Int.toNat_natCast, Int.toNat_natCast, hfields]
      rfl
    simp only [Jiff.date, hdate, commonDate]
    split
    · next h => exact iff_of_true h ⟨_, rfl⟩
    · next h => exact iff_of_false h fun ⟨_, hd⟩ => nomatch hd
  time_exists c := by
    have hfields : CivilTime.ofFields c.hour c.minute c.second c.nanosecond = some c :=
      dif_pos c.range
    have htime : signedTime c.hour c.minute c.second c.nanosecond = some c := by
      rw [signedTime, if_pos (by omega), Int.toNat_natCast, Int.toNat_natCast, Int.toNat_natCast,
        Int.toNat_natCast, hfields]
    exact ⟨c, htime⟩
  dateTime_exists year month day hour minute second nanosecond d t hd ht := by
    refine ⟨(d, t), ?_⟩
    simp only [Jiff.date, Jiff.time] at hd ht
    simp only [Jiff.dateTime, hd, ht]
    rfl
  defaultDate_year := rfl
  defaultDateTime_date := rfl
  defaultTimestamp_year := rfl
  defaultZoned_timestamp := rfl

end Reference

end TiberiusBridge

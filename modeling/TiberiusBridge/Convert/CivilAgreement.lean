import TiberiusBridge.Convert.CivilValues
import TiberiusBridge.Convert.Clock

/-!
# chrono, time and jiff

Each library's dates and times stand for a civil date and time of day. What
stands for the same is encoded alike. Decoding goes through the chrono value,
whose year `jiff` takes in 16 bits.
-/
namespace TiberiusBridge

open Lib (Compute CivilDate CivilTime CivilDateTime asUnsigned_of_lt asSigned_of_range)

/-- The years of SQL Server. -/
def SqlYears (c : CivilDate) : Prop := 1 ≤ c.year ∧ c.year ≤ 9999

section

variable [MssqlTds] [Chrono]

/-- What every date that stands for `c` is encoded to. -/
def encodedDate (c : CivilDate) : Compute SqlDate :=
  ToSql.civilDateToSql (Chrono.fromYmdOpt c.year c.month c.day)

def encodedCivilTime (c : CivilTime) : SqlTime where
  timeNanoseconds := (c.hour * 3600000000000 + c.minute * 60000000000 + c.second * 1000000000 +
    c.nanosecond) / 100
  scale := defaultVartimeScale

namespace ToSql

section

variable [ChronoFields] [ChronoCivil]

theorem naiveDateToSql_civil (d : NaiveDate) :
    naiveDateToSql d = encodedDate (ChronoCivil.civilDate d) := by
  rw [encodedDate, ChronoCivil.fromYmd_civil]
  rfl

omit [MssqlTds] [ChronoFields] [ChronoCivil] in
theorem naiveTimeToSql_civil {t : NaiveTime} {c : CivilTime} (h : HasFields t c) :
    naiveTimeToSql t = .ok (encodedCivilTime c) := by
  obtain ⟨hhour, hminute, hsecond, hnano⟩ := h
  unfold hour at hhour
  unfold minute at hminute
  unfold second at hsecond
  have hticks : Chrono.numSecondsFromMidnight t * 1000000000 + Chrono.nanosecond t =
      c.hour * 3600000000000 + c.minute * 60000000000 + c.second * 1000000000 + c.nanosecond := by
    omega
  rw [naiveTimeToSql_eq, hticks]
  rfl

end

namespace TimeCrate

variable [TimeCrate] [TimeFields] [TimeCrateCivil]

theorem dateToSql_civil (d : TimeCrate.Date) :
    dateToSql d = encodedDate (TimeCrateCivil.civilDate d) := by
  obtain ⟨hyear, hmonth, hday⟩ := TimeCrateCivil.date_eq d
  rw [dateToSql, chronoDate, hyear, hmonth, hday]
  rfl

omit [MssqlTds] [Chrono] in
theorem timeToSql_civil (t : TimeCrate.Time) :
    timeToSql t = .ok (encodedCivilTime (TimeCrateCivil.civilTime t)) := by
  obtain ⟨hhour, hminute, hsecond, hnano⟩ := TimeCrateCivil.time_eq t
  obtain ⟨hh, hm, hs, hn⟩ := (TimeCrateCivil.civilTime t).range
  rw [timeToSql, hhour, hminute, hsecond, hnano, civilTimeToSql_eq hh hm hs hn]
  rfl

end TimeCrate

namespace Jiff

variable [Jiff] [JiffFields] [JiffCivil]

theorem dateToSql_civil (d : Jiff.Date) :
    dateToSql d = encodedDate (JiffCivil.civilDate d) := by
  obtain ⟨hyear, hmonth, hday⟩ := JiffCivil.date_eq d
  rw [dateToSql, chronoDate_eq, Lib.Compute.ok_bind, civilDate, hyear, hmonth, hday]
  rfl

omit [MssqlTds] [Chrono] in
theorem timeToSql_civil (t : Jiff.Time) :
    timeToSql t = .ok (encodedCivilTime (JiffCivil.civilTime t)) := by
  obtain ⟨hhour, hminute, hsecond, hnano⟩ := JiffCivil.time_eq t
  obtain ⟨hh, hm, hs, hn⟩ := (JiffCivil.civilTime t).range
  rw [timeToSql_eq, hhour, hminute, hsecond, hnano]
  exact civilTimeToSql_eq hh hm hs hn

end Jiff

end ToSql

section

variable [ChronoFields] [ChronoCivil]

omit [MssqlTds] in
theorem civilDate_eq (d : NaiveDate) :
    ChronoCivil.civilDate d = .ofDayNumber (Chrono.numDaysFromCe d) := by
  rw [← ChronoCivil.dayNumber_eq, CivilDate.ofDayNumber_dayNumber]

omit [MssqlTds] in
theorem exists_chronoDate {n : Int} (h : firstChronoDay ≤ n ∧ n ≤ lastChronoDay) :
    ∃ d, Chrono.numDaysFromCe d = n ∧ ChronoCivil.civilDate d = .ofDayNumber n := by
  obtain ⟨d, rfl⟩ := (Chrono.date_range n).mpr h
  exact ⟨d, rfl, civilDate_eq d⟩

/-- The dates of SQL Server's years are encoded. -/
theorem encodedDate_ok {c : CivilDate} (h : SqlYears c) :
    ∃ sd, encodedDate c = .ok sd ∧ (MssqlTds.getDays sd : Int) + 1 = c.dayNumber := by
  obtain ⟨hl, hu⟩ := h
  obtain ⟨hbefore, hafter⟩ := c.dayNumber_range
  have hfirst : 0 ≤ Lib.daysBefore c.year := Lib.daysBefore_mono hl
  have hlast : Lib.daysBefore (c.year + 1) ≤ 3652059 :=
    @Lib.daysBefore_mono (c.year + 1) 10000 (by omega)
  have hrange : firstChronoDay ≤ c.dayNumber ∧ c.dayNumber ≤ lastChronoDay := by
    unfold firstChronoDay lastChronoDay
    omega
  obtain ⟨d, hd, hc⟩ := exists_chronoDate hrange
  rw [CivilDate.ofDayNumber_dayNumber] at hc
  have hsql : InSqlRange d := by
    unfold InSqlRange lastSqlDay
    omega
  obtain ⟨sd, hsd, hdays⟩ := ToSql.naiveDateToSql_ok hsql
  rw [ToSql.naiveDateToSql_civil, hc] at hsd
  exact ⟨sd, hsd, hdays.trans hd⟩

end

/-- What stands for the same date or time of day is encoded alike. -/
structure EncodersAgree [ChronoFields] [ChronoCivil] [TimeCrate] [TimeFields] [TimeCrateCivil]
    [Jiff] [JiffFields] [JiffCivil] : Prop where
  date : ∀ c : CivilDate, SqlYears c → ∃ sd, (MssqlTds.getDays sd : Int) + 1 = c.dayNumber ∧
    (∀ d, ChronoCivil.civilDate d = c → ToSql.naiveDate d = .ok (.date (some sd))) ∧
    (∀ d, TimeCrateCivil.civilDate d = c → ToSql.TimeCrate.date d = .ok (.date (some sd))) ∧
    ∀ d, JiffCivil.civilDate d = c → ToSql.Jiff.date d = .ok (.date (some sd))
  time : ∀ c : CivilTime,
    (∀ t, HasFields t c → ToSql.naiveTime t = .ok (.time (some (encodedCivilTime c)))) ∧
    (∀ t, TimeCrateCivil.civilTime t = c →
      ToSql.TimeCrate.time t = .ok (.time (some (encodedCivilTime c)))) ∧
    ∀ t, JiffCivil.civilTime t = c →
      ToSql.Jiff.time t = .ok (.time (some (encodedCivilTime c)))
  dateTime : ∀ c : CivilDateTime, SqlYears c.date →
    ∃ sd : SqlDateTime2, (sd.days : Int) + 1 = c.date.dayNumber ∧ sd.time = encodedCivilTime c.time ∧
      (∀ dt : NaiveDateTime, ChronoCivil.civilDate dt.date = c.date → HasFields dt.time c.time →
        ToSql.naiveDateTime dt = .ok (.dateTime2 (some sd))) ∧
      (∀ dt : PrimitiveDateTime, TimeCrateCivil.civilDate dt.date = c.date →
        TimeCrateCivil.civilTime dt.time = c.time →
          ToSql.TimeCrate.primitiveDateTime dt = .ok (.dateTime2 (some sd))) ∧
      ∀ dt : Jiff.DateTime, JiffCivil.civilDate (JiffFields.date dt) = c.date →
        JiffCivil.civilTime (JiffFields.time dt) = c.time →
          ToSql.Jiff.dateTime dt = .ok (.dateTime2 (some sd))

theorem encoders_agree [ChronoFields] [ChronoCivil] [TimeCrate] [TimeFields] [TimeCrateCivil]
    [Jiff] [JiffFields] [JiffCivil] : EncodersAgree := by
  refine ⟨?_, ?_, ?_⟩
  · intro c hc
    obtain ⟨sd, hsd, hdays⟩ := encodedDate_ok hc
    refine ⟨sd, hdays, ?_, ?_, ?_⟩
    · rintro d rfl
      rw [ToSql.naiveDate, ToSql.naiveDateToSql_civil, hsd]
      rfl
    · rintro d rfl
      rw [ToSql.TimeCrate.date, ToSql.TimeCrate.dateToSql_civil, hsd]
      rfl
    · rintro d rfl
      rw [ToSql.Jiff.date, ToSql.Jiff.dateToSql_civil, hsd]
      rfl
  · intro c
    refine ⟨?_, ?_, ?_⟩
    · intro t ht
      rw [ToSql.naiveTime, ToSql.naiveTimeToSql_civil ht]
      rfl
    · rintro t rfl
      rw [ToSql.TimeCrate.time, ToSql.TimeCrate.timeToSql_civil]
      rfl
    · rintro t rfl
      rw [ToSql.Jiff.time, ToSql.Jiff.timeToSql_civil]
      rfl
  · rintro ⟨date, time⟩ hc
    obtain ⟨sd, hsd, hdays⟩ := encodedDate_ok hc
    refine ⟨{ days := MssqlTds.getDays sd, time := encodedCivilTime time }, hdays, rfl, ?_, ?_, ?_⟩
    · rintro ⟨d, t⟩ rfl ht
      simp only [ToSql.naiveDateTime, ToSql.naiveDtToSql, ToSql.naiveDateToSql_civil, hsd,
        ToSql.naiveTimeToSql_civil ht, Lib.Compute.ok_bind, Lib.Compute.pure_eq]
    · rintro ⟨d, t⟩ rfl rfl
      simp only [ToSql.TimeCrate.primitiveDateTime, ToSql.TimeCrate.primitiveDtToSql,
        ToSql.TimeCrate.dateToSql_civil, hsd, ToSql.TimeCrate.timeToSql_civil,
        Lib.Compute.ok_bind, Lib.Compute.pure_eq]
    · rintro dt rfl rfl
      simp only [ToSql.Jiff.dateTime, ToSql.Jiff.datetimeToSql, ToSql.Jiff.dateToSql_civil, hsd,
        ToSql.Jiff.timeToSql_civil, Lib.Compute.ok_bind, Lib.Compute.pure_eq]

/-- Neither decoder panics, and the second returns nothing or the same as the first. -/
def NoneOrSame {α β : Type} (Same : α → β → Prop) (chrono : Compute (Option α))
    (other : Compute (Option β)) : Prop :=
  ∃ r r', chrono = .ok r ∧ other = .ok r' ∧ ∀ b, r' = some b → ∃ a, r = some a ∧ Same a b

namespace FromSql

omit [Chrono] in
theorem andThen_ok {α β : Type} {fromSql : Decoder α} {cell : ColumnValues} {r : Option α}
    (h : fromSql cell = .ok r) (f : α → Option β) :
    andThen fromSql (fun a => return f a) cell = .ok (r.bind f) := by
  rw [andThen, h, Lib.Compute.ok_bind]
  cases r <;> rfl

omit [Chrono] in
theorem noneOrSame_iff {α β : Type} {fromSql : Decoder α} {cell : ColumnValues} {r : Option α}
    {f : α → Option β} {Same : α → β → Prop} (h : fromSql cell = .ok r) :
    NoneOrSame Same (fromSql cell) (andThen fromSql (fun a => return f a) cell) ↔
      ∀ a b, r = some a → f a = some b → Same a b := by
  unfold NoneOrSame
  rw [andThen_ok h, h]
  constructor
  · rintro ⟨r₁, r₂, h₁, h₂, hsame⟩ a b rfl hb
    cases h₁
    cases h₂
    obtain ⟨a', ha', hs⟩ := hsame b hb
    cases ha'
    exact hs
  · intro hsame
    refine ⟨_, _, rfl, rfl, fun b hb => ?_⟩
    obtain ⟨a, ha, hf⟩ := Option.bind_eq_some_iff.mp hb
    exact ⟨a, ha, hsame a b ha hf⟩

end FromSql

section Fields

omit [MssqlTds] in
theorem fields_lt (t : NaiveTime) : hour t < 24 ∧ minute t < 60 ∧ second t < 60 := by
  have h := seconds_lt t
  unfold hour minute second
  omega

namespace FromSql.TimeCrate

variable [TimeCrate] [TimeFields] [TimeCrateCivil]

omit [MssqlTds] in
theorem dateFromChrono_same [ChronoFields] [ChronoCivil] {d : NaiveDate} {d' : TimeCrate.Date}
    (h : dateFromChrono d = some d') :
    TimeCrateCivil.civilDate d' = ChronoCivil.civilDate d := by
  have hmonth := (ChronoCivil.civilDate d).month_range.2
  have hday := (ChronoCivil.civilDate d).day_le
  unfold dateFromChrono at h
  rw [ChronoCivil.year_eq, ChronoCivil.month_eq, ChronoCivil.day_eq, asUnsigned_of_lt (by omega),
    asUnsigned_of_lt (by omega)] at h
  obtain ⟨month, hof, hdate⟩ := Option.bind_eq_some_iff.mp h
  obtain ⟨hy, hm, hd⟩ := TimeCrateCivil.calendarDate_civil _ _ _ _ _ hof hdate
  exact CivilDate.ext hy hm hd

omit [MssqlTds] in
theorem timeFromChrono_same {t : NaiveTime} {t' : TimeCrate.Time}
    (h : timeFromChrono t = some t') : HasFields t (TimeCrateCivil.civilTime t') := by
  obtain ⟨hh, hm, hs⟩ := fields_lt t
  unfold timeFromChrono at h
  rw [asUnsigned_of_lt (by omega), asUnsigned_of_lt (by omega), asUnsigned_of_lt (by omega)] at h
  obtain ⟨hhour, hminute, hsecond, hnano⟩ := TimeCrateCivil.hmsNano_civil _ _ _ _ _ h
  exact ⟨hhour.symm, hminute.symm, hsecond.symm, hnano.symm⟩

end FromSql.TimeCrate

/-- The year does not fit 16 bits, and what is left of it makes a date that `jiff` has. -/
def WrapsYear (c : CivilDate) : Prop :=
  ¬(-2 ^ 15 ≤ c.year ∧ c.year < 2 ^ 15) ∧
    (-9999 ≤ Lib.asSigned 16 c.year ∧ Lib.asSigned 16 c.year ≤ 9999) ∧
    c.day ≤ Lib.monthLength (Lib.asSigned 16 c.year) c.month

instance (c : CivilDate) : Decidable (WrapsYear c) :=
  inferInstanceAs (Decidable (¬(_ ∧ _) ∧ (_ ∧ _) ∧ _))

section

variable [Jiff] [JiffFields] [JiffCivil]

omit [MssqlTds] [JiffFields] [JiffCivil] in
theorem jiffDate_eq [ChronoFields] [ChronoCivil] (d : NaiveDate) :
    FromSql.Jiff.dateFromChrono d =
      Jiff.date (Lib.asSigned 16 (ChronoCivil.civilDate d).year) (ChronoCivil.civilDate d).month
        (ChronoCivil.civilDate d).day := by
  have hmonth := (ChronoCivil.civilDate d).month_range.2
  have hday := (ChronoCivil.civilDate d).day_le
  rw [FromSql.Jiff.dateFromChrono, ChronoCivil.year_eq, ChronoCivil.month_eq,
    ChronoCivil.day_eq, @asSigned_of_range 7 _ (by omega) (by omega),
    @asSigned_of_range 7 _ (by omega) (by omega)]

omit [MssqlTds] in
/-- A date goes over as it is unless its year wraps. -/
theorem jiffDate_same_iff [ChronoFields] [ChronoCivil] (d : NaiveDate) :
    (∀ d', FromSql.Jiff.dateFromChrono d = some d' →
      JiffCivil.civilDate d' = ChronoCivil.civilDate d) ↔
        ¬WrapsYear (ChronoCivil.civilDate d) := by
  rw [jiffDate_eq]
  generalize ChronoCivil.civilDate d = c
  constructor
  · rintro hsame ⟨hyear, hwrapped, hday⟩
    obtain ⟨d', hd'⟩ := (JiffCivil.date_exists
      ⟨Lib.asSigned 16 c.year, c.month, c.day, c.month_range, c.day_range.1, hday⟩).mp hwrapped
    have hy := (JiffCivil.date_civil _ _ _ _ hd').1
    rw [hsame d' hd'] at hy
    rw [hy] at hyear
    exact hyear (Lib.asSigned_range 15 _)
  · intro hwraps d' hd'
    obtain ⟨hy, hm, hd⟩ := JiffCivil.date_civil _ _ _ _ hd'
    have hmonth : (JiffCivil.civilDate d').month = c.month := Int.ofNat_inj.mp hm
    have hday : (JiffCivil.civilDate d').day = c.day := Int.ofNat_inj.mp hd
    by_cases hyear : -2 ^ 15 ≤ c.year ∧ c.year < 2 ^ 15
    · rw [@asSigned_of_range 15 _ hyear.1 hyear.2] at hy
      exact CivilDate.ext hy hmonth hday
    · refine absurd ⟨hyear, ?_, ?_⟩ hwraps
      · rw [← hy]
        exact (JiffCivil.date_exists _).mpr ⟨d', by rwa [hy, hm, hd]⟩
      · rw [← hy, ← hmonth, ← hday]
        exact (JiffCivil.civilDate d').day_range.2

omit [MssqlTds] in
theorem jiffTime_same {t : NaiveTime} {t' : Jiff.Time}
    (h : FromSql.Jiff.timeFromChrono t = some t') : HasFields t (JiffCivil.civilTime t') := by
  obtain ⟨hh, hm, hs⟩ := fields_lt t
  have hn := nanosecond_lt t
  unfold FromSql.Jiff.timeFromChrono at h
  rw [@asSigned_of_range 7 _ (by omega) (by omega), @asSigned_of_range 7 _ (by omega) (by omega),
    @asSigned_of_range 7 _ (by omega) (by omega),
    @asSigned_of_range 31 _ (by omega) (by omega)] at h
  obtain ⟨hhour, hminute, hsecond, hnano⟩ := JiffCivil.time_civil _ _ _ _ _ h
  exact ⟨(Int.ofNat_inj.mp hhour).symm, (Int.ofNat_inj.mp hminute).symm,
    (Int.ofNat_inj.mp hsecond).symm, (Int.ofNat_inj.mp hnano).symm⟩

omit [MssqlTds] [JiffCivil] in
/-- A date-time is its date and its time. -/
theorem jiffDateTime_some [ChronoFields] [ChronoCivil] [JiffCivil] {dt : NaiveDateTime}
    {dt' : Jiff.DateTime} (h : FromSql.Jiff.dateTimeFromChrono dt = some dt') :
    FromSql.Jiff.dateFromChrono dt.date = some (JiffFields.date dt') ∧
      FromSql.Jiff.timeFromChrono dt.time = some (JiffFields.time dt') :=
  JiffCivil.dateTime_civil _ _ _ _ _ _ _ _ h

end

end Fields

namespace ColumnValues

/-- Within the widths of the wire format, where the cell is a date or a time. -/
def InWidths : ColumnValues → Prop
  | date d => MssqlTds.getDays d < 2 ^ 24
  | time t => t.timeNanoseconds < 2 ^ 40
  | dateTime dt => dt.InWidth
  | smallDateTime dt => dt.days < 2 ^ 16 ∧ dt.time < 2 ^ 16
  | dateTime2 dt => dt.days < 2 ^ 24 ∧ dt.time.timeNanoseconds < 2 ^ 40
  | _ => True

/-- The day that the cell falls on. -/
def dayNumber : ColumnValues → Option Int
  | date d => some (MssqlTds.getDays d + 1)
  | dateTime dt => some (693596 + dt.days)
  | smallDateTime dt => some (693596 + dt.days)
  | dateTime2 dt => some (dt.days + 1)
  | _ => none

/-- A `DATETIME` on a day that chrono has, in a year that wraps. -/
def WrapsYear : ColumnValues → Prop
  | dateTime dt => (firstChronoDay ≤ 693596 + dt.days ∧ 693596 + dt.days ≤ lastChronoDay) ∧
      TiberiusBridge.WrapsYear (.ofDayNumber (693596 + dt.days))
  | _ => False

end ColumnValues

section Cells

variable {cell : ColumnValues}

/-- The chrono date, if there is one, is the day of the cell. -/
theorem naiveDate_day (h : cell.InWidths) : ∃ r, FromSql.naiveDate cell = .ok r ∧
    ∀ d, r = some d → cell.dayNumber = some (Chrono.numDaysFromCe d) := by
  cases cell with
  | date sd =>
    obtain ⟨d, hd, hn⟩ := FromSql.dateOfDays_ok h
    exact ⟨_, hd, fun d' hd' => by cases hd'; rw [hn]; rfl⟩
  | dateTime2 dt =>
    obtain ⟨d, hd, hn⟩ := FromSql.dateOfDays_ok h.1
    exact ⟨_, hd, fun d' hd' => by cases hd'; rw [hn]; rfl⟩
  | dateTime dt => exact ⟨_, rfl, fun d hd => by rw [daysSince1900_some_iff.mp hd]; rfl⟩
  | _ => exact ⟨none, rfl, fun d hd => nomatch hd⟩

theorem naiveTime_ok (h : cell.InWidths) : ∃ r, FromSql.naiveTime cell = .ok r := by
  cases cell with
  | time t => exact ⟨_, FromSql.timeOfTicks_eq h⟩
  | _ => exact ⟨none, rfl⟩

theorem naiveDateTime_small {dt : SqlSmallDateTime} (h : dt.time < 2 ^ 16) {d : NaiveDate}
    (hd : FromSql.daysSince1900 dt.days = some d) :
    FromSql.naiveDateTime (.smallDateTime dt) =
      .ok ((Chrono.fromNumSecondsFromMidnightOpt (dt.time * 60) 0).map (NaiveDateTime.mk d)) := by
  have hmul : Lib.mulUnsigned 32 dt.time 60 = .ok (dt.time * 60) := Lib.mulUnsigned_ok (by omega)
  simp only [FromSql.naiveDateTime, hd, hmul, Lib.Compute.ok_bind, Lib.Compute.pure_eq]

/-- So is the date of the chrono date-time. -/
theorem naiveDateTime_day (h : cell.InWidths) : ∃ r, FromSql.naiveDateTime cell = .ok r ∧
    ∀ dt, r = some dt → cell.dayNumber = some (Chrono.numDaysFromCe dt.date) := by
  have legacy : ∀ {days : Int} {d : NaiveDate} {time : Option NaiveTime},
      FromSql.daysSince1900 days = some d → ∀ dt, time.map (NaiveDateTime.mk d) = some dt →
        some (693596 + days) = some (Chrono.numDaysFromCe dt.date) := by
    intro days d time hd dt hdt
    obtain ⟨t, -, rfl⟩ := Option.map_eq_some_iff.mp hdt
    rw [daysSince1900_some_iff.mp hd]
  cases cell with
  | dateTime2 dt =>
    obtain ⟨d, hd, hn⟩ := FromSql.dateOfDays_ok h.1
    refine ⟨_, FromSql.dateTimeOf_eq dt hd (FromSql.timeOfTicks_eq h.2), fun dt' hdt => ?_⟩
    obtain ⟨t, -, rfl⟩ := Option.map_eq_some_iff.mp hdt
    rw [hn]
    rfl
  | dateTime dt =>
    cases hd : FromSql.daysSince1900 dt.days with
    | none => exact ⟨none, naiveDateTime_noDay hd, fun dt hdt => nomatch hdt⟩
    | some d => exact ⟨_, naiveDateTime_legacy h hd, legacy hd⟩
  | smallDateTime dt =>
    cases hd : FromSql.daysSince1900 dt.days with
    | none => exact ⟨none, by simp only [FromSql.naiveDateTime, hd]; rfl, fun dt hdt => nomatch hdt⟩
    | some d => exact ⟨_, naiveDateTime_small h.2 hd, legacy hd⟩
  | _ => exact ⟨none, rfl, fun dt hdt => nomatch hdt⟩

/-- The chrono date of a cell is that of its date-time. -/
theorem naiveDate_eq_datePart (h : cell.InWidths) {d : NaiveDate} {dt : NaiveDateTime}
    (hd : FromSql.naiveDate cell = .ok (some d))
    (hdt : FromSql.naiveDateTime cell = .ok (some dt)) : d = dt.date := by
  obtain ⟨rd, hrd, hday⟩ := naiveDate_day h
  obtain ⟨rdt, hrdt, hdtday⟩ := naiveDateTime_day h
  cases hd.symm.trans hrd
  cases hdt.symm.trans hrdt
  have heq := Option.some.inj ((hday d rfl).symm.trans (hdtday dt rfl))
  have h₁ := (Chrono.date_eq_iff _ _).mpr heq
  have h₂ := (Chrono.date_eq_iff _ _).mpr (rfl : Chrono.numDaysFromCe dt.date = _)
  exact Option.some.inj (h₁.symm.trans h₂)

omit [Chrono] [MssqlTds] in
/-- Day counts of three bytes reach the year 45935: past 16 bits, but wrapped it is far below
the years of `jiff`. -/
theorem not_wrapsYear {n : Int} (hl : 1 ≤ n) (hu : n ≤ 2 ^ 24) : ¬WrapsYear (.ofDayNumber n) := by
  rintro ⟨hyear, hwrapped, -⟩
  have hy : (CivilDate.ofDayNumber n).year = Lib.yearOf n := rfl
  rw [hy] at hyear hwrapped
  obtain ⟨hbefore, hafter⟩ := Lib.yearOf_spec n
  unfold Lib.daysBefore at hbefore hafter
  have hpos : 1 ≤ Lib.yearOf n := by omega
  have hlast : Lib.yearOf n ≤ 45940 := by omega
  have hcast : Lib.asSigned 16 (Lib.yearOf n) = Lib.yearOf n - 65536 := by
    rw [Lib.asSigned, Int.bmod_def]
    split <;> omega
  omega

section Agreement

variable [ChronoFields] [ChronoCivil]

/-- The year of a cell's day wraps at a `DATETIME` only. -/
theorem not_wrapsYear_of_day (h : cell.InWidths) {d : NaiveDate}
    (hd : cell.dayNumber = some (Chrono.numDaysFromCe d)) (hc : ¬cell.WrapsYear) :
    ¬WrapsYear (ChronoCivil.civilDate d) := by
  rw [civilDate_eq]
  cases cell with
  | dateTime dt =>
    rw [ColumnValues.dayNumber, Option.some.injEq] at hd
    rw [ColumnValues.WrapsYear, hd] at hc
    exact fun hw => hc ⟨day_range d, hw⟩
  | date sd =>
    have hdays : MssqlTds.getDays sd < 2 ^ 24 := h
    rw [ColumnValues.dayNumber, Option.some.injEq] at hd
    exact not_wrapsYear (by omega) (by omega)
  | dateTime2 dt =>
    have hdays : dt.days < 2 ^ 24 := h.1
    rw [ColumnValues.dayNumber, Option.some.injEq] at hd
    exact not_wrapsYear (by omega) (by omega)
  | smallDateTime dt =>
    have hdays : dt.days < 2 ^ 16 := h.1
    rw [ColumnValues.dayNumber, Option.some.injEq] at hd
    exact not_wrapsYear (by omega) (by omega)
  | _ => cases hd

/-- The decoders of `time` return nothing or what chrono's return. -/
structure TimeCrateAgrees [TimeCrate] [TimeFields] [TimeCrateCivil] (cell : ColumnValues) :
    Prop where
  date : NoneOrSame (fun d d' => TimeCrateCivil.civilDate d' = ChronoCivil.civilDate d)
    (FromSql.naiveDate cell) (FromSql.TimeCrate.date cell)
  time : NoneOrSame (fun t t' => HasFields t (TimeCrateCivil.civilTime t'))
    (FromSql.naiveTime cell) (FromSql.TimeCrate.time cell)
  dateTime : NoneOrSame (fun dt dt' =>
      TimeCrateCivil.civilDate dt'.date = ChronoCivil.civilDate dt.date ∧
        HasFields dt.time (TimeCrateCivil.civilTime dt'.time))
    (FromSql.naiveDateTime cell) (FromSql.TimeCrate.primitiveDateTime cell)

structure JiffAgrees [Jiff] [JiffFields] [JiffCivil] (cell : ColumnValues) : Prop where
  date : NoneOrSame (fun d d' => JiffCivil.civilDate d' = ChronoCivil.civilDate d)
    (FromSql.naiveDate cell) (FromSql.Jiff.date cell)
  time : NoneOrSame (fun t t' => HasFields t (JiffCivil.civilTime t'))
    (FromSql.naiveTime cell) (FromSql.Jiff.time cell)
  dateTime : NoneOrSame (fun dt dt' =>
      JiffCivil.civilDate (JiffFields.date dt') = ChronoCivil.civilDate dt.date ∧
        HasFields dt.time (JiffCivil.civilTime (JiffFields.time dt')))
    (FromSql.naiveDateTime cell) (FromSql.Jiff.dateTime cell)

theorem timeCrate_agrees [TimeCrate] [TimeFields] [TimeCrateCivil] (h : cell.InWidths) :
    TimeCrateAgrees cell := by
  obtain ⟨rd, hrd, -⟩ := naiveDate_day h
  obtain ⟨rt, hrt⟩ := naiveTime_ok h
  obtain ⟨rdt, hrdt, -⟩ := naiveDateTime_day h
  refine ⟨(FromSql.noneOrSame_iff hrd).mpr ?_, (FromSql.noneOrSame_iff hrt).mpr ?_,
    (FromSql.noneOrSame_iff hrdt).mpr ?_⟩
  · exact fun d d' _ hd' => FromSql.TimeCrate.dateFromChrono_same hd'
  · exact fun t t' _ ht' => FromSql.TimeCrate.timeFromChrono_same ht'
  · intro dt dt' _ hdt'
    obtain ⟨d', hd', hrest⟩ := Option.bind_eq_some_iff.mp hdt'
    obtain ⟨t', ht', rfl⟩ := Option.map_eq_some_iff.mp hrest
    exact ⟨FromSql.TimeCrate.dateFromChrono_same hd', FromSql.TimeCrate.timeFromChrono_same ht'⟩

theorem jiffAgrees_iff [Jiff] [JiffFields] [JiffCivil] (h : cell.InWidths) :
    JiffAgrees cell ↔ ¬cell.WrapsYear := by
  obtain ⟨rd, hrd, hday⟩ := naiveDate_day h
  obtain ⟨rt, hrt⟩ := naiveTime_ok h
  obtain ⟨rdt, hrdt, hdtday⟩ := naiveDateTime_day h
  constructor
  · intro hagrees hwraps
    cases cell with
    | dateTime dt =>
      obtain ⟨hrange, hyear⟩ := hwraps
      obtain ⟨d, hd, hc⟩ := exists_chronoDate hrange
      have hread : FromSql.naiveDate (.dateTime dt) = .ok (some d) := by
        rw [FromSql.naiveDate, legacyDay_iff.mp hd]
      have hsame := (FromSql.noneOrSame_iff hread).mp hagrees.date
      rw [← hc] at hyear
      exact (jiffDate_same_iff d).mp (fun d' hd' => hsame d d' rfl hd') hyear
    | _ => exact hwraps
  · intro hwraps
    refine ⟨(FromSql.noneOrSame_iff hrd).mpr ?_, (FromSql.noneOrSame_iff hrt).mpr ?_,
      (FromSql.noneOrSame_iff hrdt).mpr ?_⟩
    · intro d d' hd hd'
      exact (jiffDate_same_iff d).mpr (not_wrapsYear_of_day h (hday d hd) hwraps) d' hd'
    · exact fun t t' _ ht' => jiffTime_same ht'
    · intro dt dt' hdt hdt'
      obtain ⟨hd', ht'⟩ := jiffDateTime_some hdt'
      have hdate := not_wrapsYear_of_day h (hdtday dt hdt) hwraps
      exact ⟨(jiffDate_same_iff dt.date).mpr hdate _ hd', jiffTime_same ht'⟩

variable [TimeCrate] [TimeFields] [TimeCrateCivil] [Jiff] [JiffFields] [JiffCivil]

structure DecodersAgree (cell : ColumnValues) : Prop where
  timeCrate : TimeCrateAgrees cell
  jiff : JiffAgrees cell
  datePart : ∀ d dt, FromSql.naiveDate cell = .ok (some d) →
    FromSql.naiveDateTime cell = .ok (some dt) → d = dt.date

theorem decodersAgree_iff (h : cell.InWidths) : DecodersAgree cell ↔ ¬cell.WrapsYear :=
  ⟨fun hagree => (jiffAgrees_iff h).mp hagree.jiff, fun hwraps =>
    ⟨timeCrate_agrees h, (jiffAgrees_iff h).mpr hwraps, fun _ _ => naiveDate_eq_datePart h⟩⟩

/-- Of all civil values and all temporal cells. -/
structure CivilAgreement : Prop where
  encoders : EncodersAgree
  decoders : ∀ cell : ColumnValues, cell.InWidths → (DecodersAgree cell ↔ ¬cell.WrapsYear)
  /-- Whether or not a year wraps for `jiff`. -/
  timeCrate : ∀ cell : ColumnValues, cell.InWidths → TimeCrateAgrees cell
  datePart : ∀ cell : ColumnValues, cell.InWidths → ∀ d dt,
    FromSql.naiveDate cell = .ok (some d) → FromSql.naiveDateTime cell = .ok (some dt) →
      d = dt.date

theorem civil_agreement : CivilAgreement where
  encoders := encoders_agree
  decoders _ h := decodersAgree_iff h
  timeCrate _ h := timeCrate_agrees h
  datePart _ h _ _ hd hdt := naiveDate_eq_datePart h hd hdt

end Agreement

end Cells

end

section

open Reference

/-- January 1, 67536, which wraps to January 1, 2000. -/
def farDateTime : ColumnValues := .dateTime { days := 23973056, time := 0 }

/-- A `DATETIME` that chrono and `jiff` read differently. -/
theorem farDateTime_apart : farDateTime.InWidths ∧ ¬DecodersAgree farDateTime := by
  have hwidths : farDateTime.InWidths := ⟨by decide, by decide, by decide⟩
  refine ⟨hwidths, ?_⟩
  rw [decodersAgree_iff hwidths, not_not]
  refine ⟨by decide, ?_⟩
  decide

end

end TiberiusBridge

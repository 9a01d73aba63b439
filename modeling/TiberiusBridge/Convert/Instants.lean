import TiberiusBridge.Convert.CivilAgreement
import TiberiusBridge.Lib.Instant

/-!
# Instants across the libraries

A `DATETIMEOFFSET` holds an instant and an offset in minutes. Every value of
chrono, time and jiff that has an instant is encoded by that alone, and is
decoded by each of them as the same instant, cut to 100 nanoseconds, as far as
the library has it.
-/
namespace TiberiusBridge

open Lib (Compute CivilDate CivilTime CivilDateTime epochDay dayNanos asSigned_of_range
  asUnsigned_of_lt)

/-- The years of `time` and of `jiff`. -/
def CommonYears (c : CivilDate) : Prop := -9999 ≤ c.year ∧ c.year ≤ 9999

def nanosPerMinute : Int := 60000000000

/-- Instants are in nanoseconds since 1970, offsets in seconds. -/
class TimeCrateInstants [TimeCrate] [TimeFields] [TimeCrateCivil] where
  /-- `unix_timestamp_nanos`. -/
  instant : TimeCrate.OffsetDateTime → Int
  date_years : ∀ d, CommonYears (TimeCrateCivil.civilDate d)
  date_exists : ∀ c : CivilDate, CommonYears c → ∃ month d,
    TimeCrate.monthOf c.month = some month ∧ TimeCrate.fromCalendarDate c.year month c.day = some d
  time_exists : ∀ c : CivilTime, ∃ t,
    TimeCrate.fromHmsNano c.hour c.minute c.second c.nanosecond = some t
  utc_offset : TimeFields.wholeSeconds TimeFields.utc = 0
  offset_range : ∀ o, -93600 < TimeFields.wholeSeconds o ∧ TimeFields.wholeSeconds o < 93600
  offset_exists : ∀ s, -86400 < s → s < 86400 → ∃ o, TimeCrate.fromWholeSeconds s = some o
  offset_eq : ∀ s o, TimeCrate.fromWholeSeconds s = some o → TimeFields.wholeSeconds o = s
  /-- The fields of a value are those of its instant at its offset. -/
  local_eq : ∀ dt, CivilDateTime.instant
    ⟨TimeCrateCivil.civilDate (TimeFields.date dt), TimeCrateCivil.civilTime (TimeFields.time dt)⟩ =
      instant dt + TimeFields.wholeSeconds (TimeFields.offset dt) * 1000000000
  assumeUtc_eq : ∀ date time, instant (TimeCrate.assumeUtc date time) =
    CivilDateTime.instant ⟨TimeCrateCivil.civilDate date, TimeCrateCivil.civilTime time⟩
  toOffset_eq : ∀ dt o dt', TimeCrate.toOffset dt o = .ok dt' →
    instant dt' = instant dt ∧ TimeFields.offset dt' = o
  toOffset_iff : ∀ dt o, (∃ dt', TimeCrate.toOffset dt o = .ok dt') ↔ CommonYears
    (CivilDateTime.ofInstant (instant dt + TimeFields.wholeSeconds o * 1000000000)).date

class JiffInstants [Jiff] [JiffFields] [JiffCivil] where
  /-- `Timestamp::as_nanosecond`. -/
  instant : Jiff.Timestamp → Int
  /-- `Offset::seconds`. -/
  seconds : Jiff.Offset → Int
  /-- The seconds of `Timestamp::MIN` and `Timestamp::MAX`. -/
  firstSecond : Int
  lastSecond : Int
  toUtc_eq : ∀ t, CivilDateTime.instant
    ⟨JiffCivil.civilDate (JiffFields.date (JiffFields.toUtc t)),
      JiffCivil.civilTime (JiffFields.time (JiffFields.toUtc t))⟩ = instant t
  toUtc_years : ∀ t, CommonYears (JiffCivil.civilDate (JiffFields.date (JiffFields.toUtc t)))
  instant_range : ∀ t,
    firstSecond ≤ instant t / 1000000000 ∧ instant t / 1000000000 ≤ lastSecond
  timestamp_eq : ∀ secs nanos t, 0 ≤ nanos → nanos < 10 ^ 9 → Jiff.timestamp secs nanos = some t →
    instant t = secs * 1000000000 + nanos
  timestamp_iff : ∀ secs nanos, 0 ≤ nanos → nanos < 10 ^ 9 →
    ((∃ t, Jiff.timestamp secs nanos = some t) ↔ firstSecond ≤ secs ∧ secs ≤ lastSecond)
  offset_exists : ∀ s, -86400 < s → s < 86400 → ∃ o, Jiff.offsetFromSeconds s = some o
  offset_eq : ∀ s o, Jiff.offsetFromSeconds s = some o → seconds o = s
  offset_range : ∀ z, -93600 < JiffFields.offsetSeconds z ∧ JiffFields.offsetSeconds z < 93600
  toZoned_eq : ∀ t o, JiffFields.timestamp (Jiff.toZoned t o) = t ∧
    JiffFields.offsetSeconds (Jiff.toZoned t o) = seconds o

section

variable [Chrono]

/-- A leap second is the one after it. -/
def DateTime.instant {Offset : Type} (dt : DateTime Offset) : Int :=
  dt.timestamp * 1000000000 + dt.timestampSubsecNanos

theorem endsDay_of_noLeap {t : NaiveTime} (h : NoLeap t) : ¬EndsDay t := by
  unfold NoLeap at h
  unfold EndsDay
  omega

end

/-- The whole minutes of an offset are between zero and the offset. -/
theorem minutes_between (s : Int) : (0 ≤ s.tdiv 60 * 60 ∧ s.tdiv 60 * 60 ≤ s) ∨
    (s ≤ s.tdiv 60 * 60 ∧ s.tdiv 60 * 60 ≤ 0) := by
  rcases le_or_gt 0 s with h | h
  · rw [Int.tdiv_eq_ediv_of_nonneg h]
    omega
  · have hneg : s.tdiv 60 = -((-s) / 60) := by
      rw [← Int.tdiv_eq_ediv_of_nonneg (by omega), Int.neg_tdiv, Int.neg_neg]
    omega

/-- The minutes of an offset have 12 bits. -/
theorem wholeMinutes {s : Int} (hl : -93600 < s) (hu : s < 93600) :
    Lib.asSigned 16 (s.tdiv 60) = s.tdiv 60 := by
  have hminutes := minutes_between s
  exact @asSigned_of_range 15 _ (by omega) (by omega)

namespace SqlDateTimeOffset

def instant (x : SqlDateTimeOffset) : Int :=
  ((x.datetime2.days : Int) + 1 - epochDay) * dayNanos + x.datetime2.time.timeNanoseconds * 100

/-- Within the widths of the wire format. -/
def InWidths (x : SqlDateTimeOffset) : Prop :=
  x.datetime2.days < 2 ^ 24 ∧ x.datetime2.time.timeNanoseconds < 2 ^ 40 ∧
    -2 ^ 15 ≤ x.offset ∧ x.offset < 2 ^ 15

/-- The time is within the day, and the offset too. -/
def Valid (x : SqlDateTimeOffset) : Prop :=
  x.datetime2.time.timeNanoseconds < ticksPerDay ∧ -1440 < x.offset ∧ x.offset < 1440

end SqlDateTimeOffset

/-- An instant that SQL Server has. -/
def SqlInstant (n : Int) : Prop := SqlYears (CivilDateTime.ofInstant n).date

/-- What an instant and an offset in minutes are encoded to. -/
def encodedInstant (n m : Int) : SqlDateTimeOffset where
  datetime2 := {
    days := (CivilDateTime.dayOf n - 1).toNat
    time := { timeNanoseconds := (n % dayNanos).toNat / 100, scale := defaultVartimeScale } }
  offset := m

theorem sqlYears_iff (c : CivilDate) : SqlYears c ↔ 1 ≤ c.dayNumber ∧ c.dayNumber ≤ 3652059 :=
  c.year_between 1 9999

theorem sqlInstant_iff (n : Int) :
    SqlInstant n ↔ 1 ≤ CivilDateTime.dayOf n ∧ CivilDateTime.dayOf n ≤ 3652059 := by
  have hday : (CivilDateTime.ofInstant n).date.dayNumber = CivilDateTime.dayOf n :=
    CivilDate.dayNumber_ofDayNumber _
  rw [SqlInstant, sqlYears_iff, hday]

theorem commonYears_iff (c : CivilDate) :
    CommonYears c ↔ -3652424 ≤ c.dayNumber ∧ c.dayNumber ≤ 3652059 :=
  c.year_between (-9999) 9999

theorem commonYears_ofInstant (n : Int) : CommonYears (CivilDateTime.ofInstant n).date ↔
    -3652424 ≤ CivilDateTime.dayOf n ∧ CivilDateTime.dayOf n ≤ 3652059 := by
  have hday : (CivilDateTime.ofInstant n).date.dayNumber = CivilDateTime.dayOf n :=
    CivilDate.dayNumber_ofDayNumber _
  rw [commonYears_iff, hday]

theorem SqlYears.common {c : CivilDate} (h : SqlYears c) : CommonYears c := by
  obtain ⟨hl, hu⟩ := h
  exact ⟨by omega, hu⟩

/-- The encoding keeps the instant down to 100 nanoseconds. -/
theorem encodedInstant_instant {n : Int} (h : SqlInstant n) (m : Int) :
    (encodedInstant n m).instant = n / 100 * 100 := by
  obtain ⟨hday, -⟩ := (sqlInstant_iff n).mp h
  show (((CivilDateTime.dayOf n - 1).toNat : Int) + 1 - epochDay) * dayNanos +
    (((n % dayNanos).toNat / 100 : Nat) : Int) * 100 = n / 100 * 100
  unfold CivilDateTime.dayOf epochDay dayNanos at *
  omega

theorem encodedInstant_valid {n m : Int} (h : SqlInstant n) (hm : -1440 < m ∧ m < 1440) :
    (encodedInstant n m).InWidths ∧ (encodedInstant n m).Valid := by
  obtain ⟨hl, hu⟩ := (sqlInstant_iff n).mp h
  have hticks : (n % dayNanos).toNat / 100 < ticksPerDay := by
    unfold dayNanos ticksPerDay
    omega
  refine ⟨⟨?_, ?_, ?_, ?_⟩, hticks, hm⟩
  · show (CivilDateTime.dayOf n - 1).toNat < 2 ^ 24
    omega
  · show (n % dayNanos).toNat / 100 < 2 ^ 40
    unfold ticksPerDay at hticks
    omega
  · show -2 ^ 15 ≤ m
    omega
  · show m < 2 ^ 15
    omega

section

variable [MssqlTds] [Chrono]

/-- Encoded by the instant and the offset alone, where SQL Server has the instant. -/
structure EncodesInstant (sent : Compute SqlType) (n m : Int) : Prop where
  within : SqlInstant n → sent = .ok (.dateTimeOffset (some (encodedInstant n m)))
  outside : ¬SqlInstant n → ∃ p, sent = .error p

namespace ToSql

omit [MssqlTds] in
theorem chronoInstant_eq {Offset : Type} (dt : DateTime Offset) : dt.instant =
    (Chrono.numDaysFromCe dt.naiveUtc.date - epochDay) * dayNanos +
      (Chrono.numSecondsFromMidnight dt.naiveUtc.time * 1000000000 +
        Chrono.nanosecond dt.naiveUtc.time) := by
  unfold DateTime.instant DateTime.timestamp DateTime.timestampSubsecNanos epochDay dayNanos
  omega

omit [MssqlTds] in
theorem chronoInstant_day {Offset : Type} {dt : DateTime Offset} (h : ¬EndsDay dt.naiveUtc.time) :
    CivilDateTime.dayOf dt.instant = Chrono.numDaysFromCe dt.naiveUtc.date ∧
      (dt.instant % dayNanos).toNat =
        Chrono.numSecondsFromMidnight dt.naiveUtc.time * 1000000000 +
          Chrono.nanosecond dt.naiveUtc.time := by
  have hs := seconds_lt dt.naiveUtc.time
  have hn := nanosecond_lt dt.naiveUtc.time
  rw [chronoInstant_eq]
  unfold EndsDay at h
  unfold CivilDateTime.dayOf epochDay dayNanos
  omega

omit [MssqlTds] in
theorem sqlInstant_chrono {Offset : Type} {dt : DateTime Offset} (h : ¬EndsDay dt.naiveUtc.time) :
    SqlInstant dt.instant ↔ InSqlRange dt.naiveUtc.date := by
  rw [sqlInstant_iff, (chronoInstant_day h).1]
  rfl

omit [MssqlTds] in
theorem encodedInstant_chrono {Offset : Type} {dt : DateTime Offset}
    (h : ¬EndsDay dt.naiveUtc.time) (m : Int) :
    encodedInstant dt.instant m = ⟨encodedDateTime dt.naiveUtc, m⟩ := by
  obtain ⟨hday, hnanos⟩ := chronoInstant_day h
  rw [encodedInstant, hday, hnanos]
  rfl

theorem dateTimeFixedOffset_byInstant (dt : DateTime FixedOffset)
    (h : ¬EndsDay dt.naiveUtc.time) : EncodesInstant (dateTimeFixedOffset dt) dt.instant
      ((Chrono.localMinusUtc dt.offset).tdiv 60) := by
  constructor
  · intro hsql
    have hutc := naiveDtToSql_encoded ((sqlInstant_chrono h).mp hsql)
    rw [encodedInstant_chrono h, dateTimeFixedOffset, hutc, Lib.Compute.ok_bind,
      (offset_minutes dt.offset).1]
    rfl
  · intro hsql
    have hutc := naiveDtToSql_refused fun hrange => hsql ((sqlInstant_chrono h).mpr hrange)
    refine ⟨.expect dateOutOfRange, ?_⟩
    rw [dateTimeFixedOffset, hutc, Lib.Compute.error_bind]

theorem dateTimeUtc_byInstant (dt : DateTime Utc) (h : ¬EndsDay dt.naiveUtc.time) :
    EncodesInstant (dateTimeUtc dt) dt.instant 0 := by
  constructor
  · intro hsql
    have hutc := naiveDtToSql_encoded ((sqlInstant_chrono h).mp hsql)
    rw [encodedInstant_chrono h, dateTimeUtc, hutc, Lib.Compute.ok_bind]
    rfl
  · intro hsql
    have hutc := naiveDtToSql_refused fun hrange => hsql ((sqlInstant_chrono h).mpr hrange)
    refine ⟨.expect dateOutOfRange, ?_⟩
    rw [dateTimeUtc, hutc, Lib.Compute.error_bind]

/-- What a civil date and time in UTC are encoded to. -/
def civilDtToSql (c : CivilDateTime) : Compute SqlDateTime2 := do
  let days := MssqlTds.getDays (← encodedDate c.date)
  return { days, time := encodedCivilTime c.time }

variable [ChronoFields] [ChronoCivil]

theorem encodedDate_refused {c : CivilDate} (hcommon : CommonYears c) (h : ¬SqlYears c) :
    ∃ p, encodedDate c = .error p := by
  rw [commonYears_iff] at hcommon
  obtain ⟨d, hd, hc⟩ := @exists_chronoDate _ _ _ c.dayNumber (by
    unfold firstChronoDay lastChronoDay
    omega)
  rw [CivilDate.ofDayNumber_dayNumber] at hc
  have hrange : ¬InSqlRange d := by
    rw [sqlYears_iff] at h
    unfold InSqlRange lastSqlDay
    omega
  refine ⟨.expect dateOutOfRange, ?_⟩
  rw [← hc, ← naiveDateToSql_civil]
  exact naiveDateToSql_refused hrange

/-- A civil date that chrono has is refused outside SQL Server's years alone. -/
theorem civilPanic_iff {c : CivilDate} (hcommon : CommonYears c) :
    civilPanic (Chrono.fromYmdOpt c.year c.month c.day) = none ↔ SqlYears c := by
  have hsettles := civilDateToSql_settles (Chrono.fromYmdOpt c.year c.month c.day)
  constructor
  · intro hnone
    by_contra h
    obtain ⟨p, hp⟩ := encodedDate_refused hcommon h
    rw [hnone] at hsettles
    obtain ⟨sd, hsd, -⟩ := hsettles
    cases hsd.symm.trans hp
  · intro h
    obtain ⟨sd, hsd, -⟩ := encodedDate_ok h
    cases hpanic : civilPanic (Chrono.fromYmdOpt c.year c.month c.day) with
    | none => rfl
    | some p =>
      rw [hpanic] at hsettles
      cases hsd.symm.trans hsettles

theorem civilDtToSql_within {c : CivilDateTime} (h : SqlYears c.date) (m : Int) :
    civilDtToSql c = .ok (encodedInstant c.instant m).datetime2 := by
  obtain ⟨sd, hsd, hdays⟩ := encodedDate_ok h
  have hday : MssqlTds.getDays sd = (CivilDateTime.dayOf c.instant - 1).toNat := by
    rw [CivilDateTime.dayOf_instant]
    omega
  rw [civilDtToSql, hsd, Lib.Compute.ok_bind, hday]
  show Except.ok _ = Except.ok _
  rw [encodedInstant, CivilDateTime.nanos_instant]
  rfl

theorem civilDtToSql_outside {c : CivilDateTime} (hcommon : CommonYears c.date)
    (h : ¬SqlYears c.date) : ∃ p, civilDtToSql c = .error p := by
  obtain ⟨p, hp⟩ := encodedDate_refused hcommon h
  exact ⟨p, by rw [civilDtToSql, hp, Lib.Compute.error_bind]⟩

/-- A value that goes through civil fields of its instant is encoded by that. -/
theorem EncodesInstant.ofCivil {c : CivilDateTime} {n m : Int} (hn : c.instant = n)
    (hcommon : CommonYears c.date) : EncodesInstant (do
      return .dateTimeOffset (some { datetime2 := ← civilDtToSql c, offset := m })) n m := by
  have hdate : SqlInstant n ↔ SqlYears c.date := by
    rw [← hn, SqlInstant, CivilDateTime.ofInstant_instant]
  constructor
  · intro h
    rw [civilDtToSql_within (hdate.mp h) m, hn]
    rfl
  · intro h
    obtain ⟨p, hp⟩ := civilDtToSql_outside hcommon fun hc => h (hdate.mpr hc)
    exact ⟨p, by rw [hp]; rfl⟩

namespace TimeCrate

variable [TimeCrate] [TimeFields] [TimeCrateCivil] [TimeCrateInstants]

omit [ChronoFields] [ChronoCivil] [TimeCrateInstants] in
theorem primitiveDtToSql_civil (dt : PrimitiveDateTime) : primitiveDtToSql dt = civilDtToSql
    ⟨TimeCrateCivil.civilDate dt.date, TimeCrateCivil.civilTime dt.time⟩ := by
  rw [primitiveDtToSql, dateToSql_civil, timeToSql_civil]
  rfl

theorem offsetDateTime_byInstant (dt : TimeCrate.OffsetDateTime) :
    EncodesInstant (offsetDateTime dt) (TimeCrateInstants.instant dt)
      ((TimeFields.wholeSeconds (TimeFields.offset dt)).tdiv 60) := by
  obtain ⟨hl, hu⟩ := TimeCrateInstants.offset_range (TimeFields.offset dt)
  have hutc := TimeCrateInstants.toOffset_iff dt TimeFields.utc
  rw [TimeCrateInstants.utc_offset, Int.zero_mul, Int.add_zero] at hutc
  rw [offsetDateTime, wholeMinutes hl hu]
  cases hto : TimeCrate.toOffset dt TimeFields.utc with
  | error p =>
    refine ⟨fun h => ?_, fun _ => ⟨p, rfl⟩⟩
    obtain ⟨dt', hdt'⟩ := hutc.mpr h.common
    cases hto.symm.trans hdt'
  | ok utc =>
    obtain ⟨hinstant, hoffset⟩ := TimeCrateInstants.toOffset_eq _ _ _ hto
    have hlocal := TimeCrateInstants.local_eq utc
    rw [hoffset, TimeCrateInstants.utc_offset, Int.zero_mul, Int.add_zero, hinstant] at hlocal
    rw [Lib.Compute.ok_bind, primitiveDtToSql_civil]
    exact EncodesInstant.ofCivil hlocal (TimeCrateInstants.date_years _)

end TimeCrate

namespace Jiff

variable [Jiff] [JiffFields] [JiffCivil] [JiffInstants]

omit [ChronoFields] [ChronoCivil] [JiffInstants] in
theorem datetimeToSql_civil (dt : Jiff.DateTime) : datetimeToSql dt = civilDtToSql
    ⟨JiffCivil.civilDate (JiffFields.date dt), JiffCivil.civilTime (JiffFields.time dt)⟩ := by
  rw [datetimeToSql, dateToSql_civil, timeToSql_civil]
  rfl

omit [JiffInstants] in
theorem civilPanic_civil {d : Jiff.Date} (hcommon : CommonYears (JiffCivil.civilDate d)) :
    civilPanic (civilDate d) = none ↔ SqlYears (JiffCivil.civilDate d) := by
  obtain ⟨hyear, hmonth, hday⟩ := JiffCivil.date_eq d
  rw [civilDate, hyear, hmonth, hday, Int.toNat_natCast, Int.toNat_natCast]
  exact civilPanic_iff hcommon

theorem timestampToSql_byInstant (t : Jiff.Timestamp) (m : Int) : EncodesInstant (do
    return .dateTimeOffset (some (← timestampToSql t m))) (JiffInstants.instant t) m := by
  have h := @EncodesInstant.ofCivil _ _ _ _ _ _ m (JiffInstants.toUtc_eq t)
    (JiffInstants.toUtc_years t)
  rw [← datetimeToSql_civil] at h
  rw [timestampToSql]
  cases hutc : datetimeToSql (JiffFields.toUtc t) with
  | error p =>
    rw [hutc] at h
    exact h
  | ok datetime2 =>
    rw [hutc] at h
    exact h

theorem timestamp_byInstant (t : Jiff.Timestamp) :
    EncodesInstant (timestamp t) (JiffInstants.instant t) 0 := timestampToSql_byInstant t 0

theorem zoned_byInstant (z : Jiff.Zoned) :
    EncodesInstant (zoned z) (JiffInstants.instant (JiffFields.timestamp z))
      ((JiffFields.offsetSeconds z).tdiv 60) := by
  obtain ⟨hl, hu⟩ := JiffInstants.offset_range z
  rw [zoned, wholeMinutes hl hu]
  exact timestampToSql_byInstant _ _

end Jiff

end ToSql

section Decoding

variable [ChronoFields] [ChronoCivil]

/-- The instants that a `Timestamp` has. -/
def InTimestamps [Jiff] [JiffFields] [JiffCivil] [JiffInstants] (n : Int) : Prop :=
  JiffInstants.firstSecond ≤ n / 1000000000 ∧ n / 1000000000 ≤ JiffInstants.lastSecond

omit [ChronoFields] [ChronoCivil] in
theorem dateTimeFixedOffset_reads {x : SqlDateTimeOffset} (hwidths : x.InWidths)
    (hvalid : x.Valid) : ∃ dt, FromSql.dateTimeFixedOffset (.dateTimeOffset x) = .ok (some dt) ∧
      dt.instant = x.instant ∧ Chrono.localMinusUtc dt.offset = x.offset * 60 ∧
      NoLeap dt.naiveUtc.time := by
  obtain ⟨hticks, hoffset⟩ := hvalid
  obtain ⟨d, hd, hday⟩ := FromSql.dateOfDays_ok hwidths.1
  obtain ⟨t, ht, hsecs, hnanos⟩ := FromSql.timeOfTicks_some hticks
  obtain ⟨o, hmul, ho, hlocal⟩ := offset_decoded hoffset
  refine ⟨⟨⟨d, t⟩, o⟩, ?_, ?_, hlocal, ?_⟩
  · rw [FromSql.dateTimeFixedOffset_eq (FromSql.dateTimeOf_eq x.datetime2 hd ht) hmul]
    show Except.ok ((Chrono.eastOpt (x.offset * 60)).map _) = _
    rw [ho]
    rfl
  · rw [ToSql.chronoInstant_eq]
    show (Chrono.numDaysFromCe d - epochDay) * dayNanos +
      ((Chrono.numSecondsFromMidnight t : Int) * 1000000000 + Chrono.nanosecond t) = _
    rw [hday, hsecs, hnanos]
    unfold SqlDateTimeOffset.instant epochDay dayNanos
    omega
  · show Chrono.nanosecond t < 10 ^ 9
    omega

omit [MssqlTds] in
/-- The date of an instant is the civil date of the chrono value. -/
theorem ofInstant_date {Offset : Type} {dt : DateTime Offset} (h : NoLeap dt.naiveUtc.time) :
    (CivilDateTime.ofInstant dt.instant).date = ChronoCivil.civilDate dt.naiveUtc.date := by
  rw [civilDate_eq, ← (ToSql.chronoInstant_day (endsDay_of_noLeap h)).1]
  rfl

namespace FromSql

omit [Chrono] [ChronoFields] [ChronoCivil] in
theorem andThen_of {α β : Type} {fromSql : Decoder α} {cell : ColumnValues} {r : Option α}
    (f : α → Compute (Option β)) (h : fromSql cell = .ok r) :
    andThen fromSql f cell = r.elim (.ok none) f := by
  rw [andThen, h]
  cases r <;> rfl

namespace TimeCrate

variable [TimeCrate] [TimeFields] [TimeCrateCivil] [TimeCrateInstants]

omit [MssqlTds] in
theorem dateFromChrono_some {d : NaiveDate} (h : CommonYears (ChronoCivil.civilDate d)) :
    ∃ d', dateFromChrono d = some d' ∧
      TimeCrateCivil.civilDate d' = ChronoCivil.civilDate d := by
  have hmonth := (ChronoCivil.civilDate d).month_range.2
  have hday := (ChronoCivil.civilDate d).day_le
  obtain ⟨month, d', hof, hd'⟩ := TimeCrateInstants.date_exists _ h
  have hsome : dateFromChrono d = some d' := by
    rw [dateFromChrono, ChronoCivil.year_eq, ChronoCivil.month_eq, ChronoCivil.day_eq,
      asUnsigned_of_lt (by omega), asUnsigned_of_lt (by omega), hof]
    exact hd'
  exact ⟨d', hsome, dateFromChrono_same hsome⟩

omit [MssqlTds] in
theorem dateFromChrono_none {d : NaiveDate} (h : ¬CommonYears (ChronoCivil.civilDate d)) :
    dateFromChrono d = none := by
  cases hd : dateFromChrono d with
  | none => rfl
  | some d' =>
    refine absurd ?_ h
    rw [← dateFromChrono_same hd]
    exact TimeCrateInstants.date_years d'

omit [MssqlTds] [ChronoFields] [ChronoCivil] in
theorem timeFromChrono_some {t : NaiveTime} (h : NoLeap t) :
    ∃ t', timeFromChrono t = some t' ∧ (TimeCrateCivil.civilTime t').nanos =
      Chrono.numSecondsFromMidnight t * 1000000000 + Chrono.nanosecond t := by
  obtain ⟨hhour, hminute, hsecond⟩ := fields_lt t
  obtain ⟨t', ht'⟩ := TimeCrateInstants.time_exists
    ⟨hour t, minute t, second t, Chrono.nanosecond t, hhour, hminute, hsecond, h⟩
  have hsome : timeFromChrono t = some t' := by
    rw [timeFromChrono, asUnsigned_of_lt (by omega), asUnsigned_of_lt (by omega),
      asUnsigned_of_lt (by omega)]
    exact ht'
  obtain ⟨hh, hm, hs, hn⟩ := timeFromChrono_same hsome
  refine ⟨t', hsome, ?_⟩
  unfold hour at hh
  unfold minute at hm
  unfold second at hs
  unfold CivilTime.nanos
  omega

omit [MssqlTds] in
/-- A chrono value in the years of `time` is a value at UTC with the same instant. -/
theorem primitiveFromChrono_some {Offset : Type} {dt : DateTime Offset}
    (h : NoLeap dt.naiveUtc.time)
    (hcommon : CommonYears (CivilDateTime.ofInstant dt.instant).date) :
    ∃ utc, primitiveFromChrono dt.naiveUtc = some utc ∧
      TimeCrateInstants.instant (TimeCrate.assumeUtc utc.date utc.time) = dt.instant := by
  rw [ofInstant_date h] at hcommon
  obtain ⟨d, hd, hdate⟩ := dateFromChrono_some hcommon
  obtain ⟨t, ht, htime⟩ := timeFromChrono_some h
  refine ⟨⟨d, t⟩, ?_, ?_⟩
  · rw [primitiveFromChrono, hd, ht]
    rfl
  · rw [TimeCrateInstants.assumeUtc_eq, ToSql.chronoInstant_eq]
    show ((TimeCrateCivil.civilDate d).dayNumber - epochDay) * dayNanos +
      (TimeCrateCivil.civilTime t).nanos = _
    rw [hdate, ChronoCivil.dayNumber_eq, htime]
    omega

omit [ChronoCivil] [TimeFields] [TimeCrateCivil] [TimeCrateInstants] in
theorem offsetDateTime_some {cell : ColumnValues} {dt : DateTime FixedOffset}
    {utc : PrimitiveDateTime} {o : TimeCrate.UtcOffset} (h : dateTimeFixedOffset cell = .ok (some dt))
    (ho : TimeCrate.fromWholeSeconds (Chrono.localMinusUtc dt.offset) = some o)
    (hutc : primitiveFromChrono dt.naiveUtc = some utc) :
    offsetDateTime cell = do
      return some (← TimeCrate.toOffset (TimeCrate.assumeUtc utc.date utc.time) o) := by
  rw [offsetDateTime, andThen_of _ h, Option.elim, ho]
  dsimp only
  rw [hutc]

omit [ChronoCivil] [TimeFields] [TimeCrateCivil] [TimeCrateInstants] in
theorem offsetDateTime_none {cell : ColumnValues} {dt : DateTime FixedOffset}
    {o : TimeCrate.UtcOffset} (h : dateTimeFixedOffset cell = .ok (some dt))
    (ho : TimeCrate.fromWholeSeconds (Chrono.localMinusUtc dt.offset) = some o)
    (hutc : primitiveFromChrono dt.naiveUtc = none) : offsetDateTime cell = .ok none := by
  rw [offsetDateTime, andThen_of _ h, Option.elim, ho]
  dsimp only
  rw [hutc]
  rfl

end TimeCrate

namespace Jiff

variable [Jiff] [JiffFields] [JiffCivil] [JiffInstants]

omit [MssqlTds] [ChronoFields] [ChronoCivil] in
theorem timestampFromChrono_reads {Offset : Type} {dt : DateTime Offset}
    (h : NoLeap dt.naiveUtc.time) :
    (InTimestamps dt.instant → ∃ t, timestampFromChrono dt = some t ∧
      JiffInstants.instant t = dt.instant) ∧
    (¬InTimestamps dt.instant → timestampFromChrono dt = none) := by
  have hnanos : dt.timestampSubsecNanos < 1000000000 := h
  have hsecs : dt.instant / 1000000000 = dt.timestamp := by
    unfold DateTime.instant
    omega
  have hiff := JiffInstants.timestamp_iff dt.timestamp dt.timestampSubsecNanos (by omega)
    (by omega)
  rw [timestampFromChrono, @asSigned_of_range 31 _ (by omega) (by omega), InTimestamps, hsecs,
    ← hiff]
  constructor
  · rintro ⟨t, ht⟩
    exact ⟨t, ht, JiffInstants.timestamp_eq _ _ t (by omega) (by omega) ht⟩
  · intro hnone
    exact Option.eq_none_iff_forall_ne_some.mpr fun t ht => hnone ⟨t, ht⟩

end Jiff

end FromSql

/-- What no library reads. -/
structure ReadsNothing [TimeCrate] [Jiff] (cell : ColumnValues) : Prop where
  chrono : FromSql.dateTimeFixedOffset cell = .ok none
  timeCrate : FromSql.TimeCrate.offsetDateTime cell = .ok none
  timestamp : FromSql.Jiff.timestamp cell = .ok none
  zoned : FromSql.Jiff.zoned cell = .ok none

omit [ChronoCivil] in
theorem ReadsNothing.ofChrono [TimeCrate] [Jiff] {cell : ColumnValues}
    (h : FromSql.dateTimeFixedOffset cell = .ok none) : ReadsNothing cell where
  chrono := h
  timeCrate := FromSql.andThen_of _ h
  timestamp := FromSql.andThen_of _ h
  zoned := FromSql.andThen_of _ h

variable [TimeCrate] [TimeFields] [TimeCrateCivil] [TimeCrateInstants]
  [Jiff] [JiffFields] [JiffCivil] [JiffInstants]

/-- What each library reads of a cell of the instant `n` at the offset of `m` minutes. -/
structure ReadsInstant (cell : ColumnValues) (n m : Int) : Prop where
  chrono : ∃ dt, FromSql.dateTimeFixedOffset cell = .ok (some dt) ∧ dt.instant = n ∧
    Chrono.localMinusUtc dt.offset = m * 60
  timeCrate : CommonYears (CivilDateTime.ofInstant n).date →
    CommonYears (CivilDateTime.ofInstant (n + m * nanosPerMinute)).date →
      ∃ dt, FromSql.TimeCrate.offsetDateTime cell = .ok (some dt) ∧
        TimeCrateInstants.instant dt = n ∧
        TimeFields.wholeSeconds (TimeFields.offset dt) = m * 60
  /-- The local year is beyond 9999, though the one in UTC is not. -/
  timeCrateLocal : CommonYears (CivilDateTime.ofInstant n).date →
    ¬CommonYears (CivilDateTime.ofInstant (n + m * nanosPerMinute)).date →
      ∃ p, FromSql.TimeCrate.offsetDateTime cell = .error p
  timeCrateFar : ¬CommonYears (CivilDateTime.ofInstant n).date →
    FromSql.TimeCrate.offsetDateTime cell = .ok none
  timestamp : InTimestamps n → ∃ t, FromSql.Jiff.timestamp cell = .ok (some t) ∧
    JiffInstants.instant t = n
  zoned : InTimestamps n → ∃ z, FromSql.Jiff.zoned cell = .ok (some z) ∧
    JiffInstants.instant (JiffFields.timestamp z) = n ∧ JiffFields.offsetSeconds z = m * 60
  jiffFar : ¬InTimestamps n →
    FromSql.Jiff.timestamp cell = .ok none ∧ FromSql.Jiff.zoned cell = .ok none

/-- What is read of the chrono value is all that the libraries see. -/
theorem ReadsInstant.ofChrono {cell : ColumnValues} {dt : DateTime FixedOffset} {m : Int}
    (h : FromSql.dateTimeFixedOffset cell = .ok (some dt)) (hleap : NoLeap dt.naiveUtc.time)
    (hm : Chrono.localMinusUtc dt.offset = m * 60) : ReadsInstant cell dt.instant m := by
  obtain ⟨hlo, hhi⟩ := offset_range dt.offset
  rw [hm] at hlo hhi
  have htimestamp : FromSql.Jiff.timestamp cell =
      .ok (FromSql.Jiff.timestampFromChrono dt) := FromSql.andThen_of _ h
  have hzoned : FromSql.Jiff.zoned cell =
      .ok ((FromSql.Jiff.timestampFromChrono dt).bind fun timestamp =>
        (Jiff.offsetFromSeconds (m * 60)).map (Jiff.toZoned timestamp)) := by
    rw [FromSql.Jiff.zoned, FromSql.andThen_of _ h, ← hm]
    rfl
  obtain ⟨o, ho⟩ := TimeCrateInstants.offset_exists (m * 60) hlo hhi
  have hsecs := TimeCrateInstants.offset_eq _ _ ho
  rw [← hm] at ho
  have hlocal : dt.instant + m * 60 * 1000000000 = dt.instant + m * nanosPerMinute := by
    unfold nanosPerMinute
    omega
  obtain ⟨hreads, hnone⟩ := FromSql.Jiff.timestampFromChrono_reads hleap
  refine ⟨⟨dt, h, rfl, hm⟩, ?_, ?_, ?_, ?_, ?_, ?_⟩
  · intro hutc hlocalYears
    obtain ⟨utc, hsome, hinstant⟩ := FromSql.TimeCrate.primitiveFromChrono_some hleap hutc
    rw [← hlocal, ← hsecs, ← hinstant] at hlocalYears
    obtain ⟨dt', hdt'⟩ := (TimeCrateInstants.toOffset_iff _ _).mpr hlocalYears
    obtain ⟨hsame, hoffset⟩ := TimeCrateInstants.toOffset_eq _ _ _ hdt'
    refine ⟨dt', ?_, hsame.trans hinstant, ?_⟩
    · rw [FromSql.TimeCrate.offsetDateTime_some h ho hsome, hdt']
      rfl
    · rw [hoffset]
      exact hsecs
  · intro hutc hlocalYears
    obtain ⟨utc, hsome, hinstant⟩ := FromSql.TimeCrate.primitiveFromChrono_some hleap hutc
    rw [← hlocal, ← hsecs, ← hinstant, ← TimeCrateInstants.toOffset_iff] at hlocalYears
    rw [FromSql.TimeCrate.offsetDateTime_some h ho hsome]
    cases hto : TimeCrate.toOffset (TimeCrate.assumeUtc utc.date utc.time) o with
    | error p => exact ⟨p, rfl⟩
    | ok dt' => exact absurd ⟨dt', hto⟩ hlocalYears
  · intro hutc
    rw [ofInstant_date hleap] at hutc
    refine FromSql.TimeCrate.offsetDateTime_none h ho ?_
    rw [FromSql.TimeCrate.primitiveFromChrono, FromSql.TimeCrate.dateFromChrono_none hutc]
    rfl
  · intro hrange
    obtain ⟨t, ht, hinstant⟩ := hreads hrange
    exact ⟨t, htimestamp.trans (congrArg _ ht), hinstant⟩
  · intro hrange
    obtain ⟨t, ht, hinstant⟩ := hreads hrange
    obtain ⟨offset, hoffset⟩ := JiffInstants.offset_exists (m * 60) hlo hhi
    obtain ⟨htimestamp', hseconds⟩ := JiffInstants.toZoned_eq t offset
    refine ⟨Jiff.toZoned t offset, ?_, ?_, ?_⟩
    · rw [hzoned, ht, hoffset]
      rfl
    · rw [htimestamp']
      exact hinstant
    · rw [hseconds]
      exact JiffInstants.offset_eq _ _ hoffset
  · intro hrange
    refine ⟨htimestamp.trans (congrArg _ (hnone hrange)), ?_⟩
    rw [hzoned, hnone hrange]
    rfl

/-- What was sent is written as a cell that no library reads. -/
def SentUnread (sent : Compute SqlType) : Prop :=
  ∃ payload cell, sent = .ok payload ∧ payload.temporalCell = some cell ∧ ReadsNothing cell

/-- Every value with an instant, every cell that holds one, and every pair of the two. -/
structure InstantsAgree : Prop where
  fixedOffset : ∀ dt : DateTime FixedOffset, ¬EndsDay dt.naiveUtc.time →
    EncodesInstant (ToSql.dateTimeFixedOffset dt) dt.instant
      ((Chrono.localMinusUtc dt.offset).tdiv 60)
  utc : ∀ dt : DateTime Utc, ¬EndsDay dt.naiveUtc.time →
    EncodesInstant (ToSql.dateTimeUtc dt) dt.instant 0
  /-- A leap second that ends the day in UTC is written past the day. -/
  fixedOffsetLeap : ∀ dt : DateTime FixedOffset, EndsDay dt.naiveUtc.time →
    (InSqlRange dt.naiveUtc.date → SentUnread (ToSql.dateTimeFixedOffset dt)) ∧
    (¬InSqlRange dt.naiveUtc.date → ∃ p, ToSql.dateTimeFixedOffset dt = .error p)
  utcLeap : ∀ dt : DateTime Utc, EndsDay dt.naiveUtc.time →
    (InSqlRange dt.naiveUtc.date → SentUnread (ToSql.dateTimeUtc dt)) ∧
    (¬InSqlRange dt.naiveUtc.date → ∃ p, ToSql.dateTimeUtc dt = .error p)
  offsetDateTime : ∀ dt, EncodesInstant (ToSql.TimeCrate.offsetDateTime dt)
    (TimeCrateInstants.instant dt) ((TimeFields.wholeSeconds (TimeFields.offset dt)).tdiv 60)
  timestamp : ∀ t, EncodesInstant (ToSql.Jiff.timestamp t) (JiffInstants.instant t) 0
  zoned : ∀ z, EncodesInstant (ToSql.Jiff.zoned z)
    (JiffInstants.instant (JiffFields.timestamp z)) ((JiffFields.offsetSeconds z).tdiv 60)
  cells : ∀ x : SqlDateTimeOffset, x.InWidths →
    (x.Valid → ReadsInstant (.dateTimeOffset x) x.instant x.offset) ∧
    (¬x.Valid → ReadsNothing (.dateTimeOffset x))
  /-- Whichever library wrote it. -/
  roundTrip : ∀ sent n m, EncodesInstant sent n m → SqlInstant n → -1440 < m → m < 1440 →
    ∃ payload cell, sent = .ok payload ∧ payload.temporalCell = some cell ∧
      ReadsInstant cell (n / 100 * 100) m
  /-- A day of offset or more is written but not read again. -/
  lost : ∀ sent n m, EncodesInstant sent n m → SqlInstant n → m ≤ -1440 ∨ 1440 ≤ m →
    -2 ^ 15 ≤ m → m < 2 ^ 15 → SentUnread sent

theorem cell_instant {x : SqlDateTimeOffset} (hwidths : x.InWidths) :
    (x.Valid → ReadsInstant (.dateTimeOffset x) x.instant x.offset) ∧
      (¬x.Valid → ReadsNothing (.dateTimeOffset x)) := by
  constructor
  · intro hvalid
    obtain ⟨dt, hdt, hinstant, hoffset, hleap⟩ := dateTimeFixedOffset_reads hwidths hvalid
    rw [← hinstant]
    exact ReadsInstant.ofChrono hdt hleap hoffset
  · intro hvalid
    obtain ⟨hdays, hticks, hoffset⟩ := hwidths
    obtain ⟨r, hr, hnone⟩ := dateTimeOffset_wide hdays hticks hoffset
    have hlost : r = none := by
      rw [hnone]
      by_contra hboth
      rw [not_or, not_le, not_le, abs_lt] at hboth
      exact hvalid hboth
    rw [hlost] at hr
    exact ReadsNothing.ofChrono hr

/-- What is encoded by its instant is read by every library. -/
theorem EncodesInstant.reads {sent : Compute SqlType} {n m : Int} (h : EncodesInstant sent n m)
    (hn : SqlInstant n) (hm : -1440 < m ∧ m < 1440) :
    ∃ x, sent = .ok (.dateTimeOffset (some x)) ∧
      ReadsInstant (.dateTimeOffset x) (n / 100 * 100) m := by
  obtain ⟨hwidths, hvalid⟩ := encodedInstant_valid hn hm
  have hreads := (cell_instant hwidths).1 hvalid
  rw [encodedInstant_instant hn] at hreads
  exact ⟨_, h.within hn, hreads⟩

/-- The ticks of a leap second that ends the day are too many for a time. -/
theorem encodedDateTime_unread {dt : NaiveDateTime} {m : Int} (hd : InSqlRange dt.date)
    (ht : EndsDay dt.time) (hm : -1440 < m ∧ m < 1440) :
    ReadsNothing (.dateTimeOffset ⟨encodedDateTime dt, m⟩) := by
  obtain ⟨hl, hu⟩ := hd
  have hs := seconds_lt dt.time
  have hn := nanosecond_lt dt.time
  have hlast : (lastSqlDay : Int) = 3652058 := rfl
  have hwidths : SqlDateTimeOffset.InWidths ⟨encodedDateTime dt, m⟩ := by
    refine ⟨?_, ?_, ?_, ?_⟩
    · show (Chrono.numDaysFromCe dt.date - 1).toNat < 2 ^ 24
      omega
    · show (Chrono.numSecondsFromMidnight dt.time * 1000000000 + Chrono.nanosecond dt.time) / 100 <
        2 ^ 40
      omega
    · show -2 ^ 15 ≤ m
      omega
    · show m < 2 ^ 15
      omega
  refine (cell_instant hwidths).2 ?_
  rintro ⟨hticks, -⟩
  exact (encodedTime_lt_iff dt.time).mp hticks ht

theorem dateTimeFixedOffset_leap (dt : DateTime FixedOffset) (ht : EndsDay dt.naiveUtc.time) :
    (InSqlRange dt.naiveUtc.date → SentUnread (ToSql.dateTimeFixedOffset dt)) ∧
    (¬InSqlRange dt.naiveUtc.date → ∃ p, ToSql.dateTimeFixedOffset dt = .error p) := by
  constructor
  · intro hd
    obtain ⟨hcast, hm⟩ := offset_minutes dt.offset
    have hsent : ToSql.dateTimeFixedOffset dt = .ok (.dateTimeOffset (some
        ⟨encodedDateTime dt.naiveUtc, (Chrono.localMinusUtc dt.offset).tdiv 60⟩)) := by
      rw [ToSql.dateTimeFixedOffset, naiveDtToSql_encoded hd, Lib.Compute.ok_bind, hcast]
      rfl
    exact ⟨_, _, hsent, rfl, encodedDateTime_unread hd ht hm⟩
  · intro hd
    refine ⟨.expect dateOutOfRange, ?_⟩
    rw [ToSql.dateTimeFixedOffset, ToSql.naiveDtToSql_refused hd, Lib.Compute.error_bind]

theorem dateTimeUtc_leap (dt : DateTime Utc) (ht : EndsDay dt.naiveUtc.time) :
    (InSqlRange dt.naiveUtc.date → SentUnread (ToSql.dateTimeUtc dt)) ∧
    (¬InSqlRange dt.naiveUtc.date → ∃ p, ToSql.dateTimeUtc dt = .error p) := by
  constructor
  · intro hd
    have hsent : ToSql.dateTimeUtc dt =
        .ok (.dateTimeOffset (some ⟨encodedDateTime dt.naiveUtc, 0⟩)) := by
      rw [ToSql.dateTimeUtc, naiveDtToSql_encoded hd]
      rfl
    exact ⟨_, _, hsent, rfl, encodedDateTime_unread hd ht (by decide)⟩
  · intro hd
    refine ⟨.expect dateOutOfRange, ?_⟩
    rw [ToSql.dateTimeUtc, ToSql.naiveDtToSql_refused hd, Lib.Compute.error_bind]

theorem instants_agree : InstantsAgree where
  fixedOffset := ToSql.dateTimeFixedOffset_byInstant
  utc := ToSql.dateTimeUtc_byInstant
  fixedOffsetLeap := dateTimeFixedOffset_leap
  utcLeap := dateTimeUtc_leap
  offsetDateTime := ToSql.TimeCrate.offsetDateTime_byInstant
  timestamp := ToSql.Jiff.timestamp_byInstant
  zoned := ToSql.Jiff.zoned_byInstant
  cells _ hwidths := cell_instant hwidths
  roundTrip sent n m h hn hl hu := by
    obtain ⟨x, hsent, hreads⟩ := h.reads hn ⟨hl, hu⟩
    exact ⟨_, _, hsent, rfl, hreads⟩
  lost sent n m h hn hm hl hu := by
    obtain ⟨⟨hdays, hticks, -⟩, -⟩ := @encodedInstant_valid n 0 hn (by omega)
    have hwidths : (encodedInstant n m).InWidths := ⟨hdays, hticks, hl, hu⟩
    refine ⟨_, _, h.within hn, rfl, (cell_instant hwidths).2 ?_⟩
    rintro ⟨-, hoffset⟩
    have hrange : -1440 < m ∧ m < 1440 := hoffset
    omega

end Decoding

end

namespace Reference

theorem secondsOf_eq (dt : CommonDate × CivilTime) :
    CivilDateTime.instant ⟨dt.1.val, dt.2⟩ = secondsOf dt * 1000000000 + dt.2.nanosecond := by
  show (dt.1.val.dayNumber - epochDay) * dayNanos + (dt.2.nanos : Int) = _
  unfold secondsOf CivilTime.nanos epochDay dayNanos
  omega

theorem ofSeconds_eq {secs : Int} {nanos : Nat} {dt : CommonDate × CivilTime}
    (h : ofSeconds secs nanos = some dt) :
    CivilDateTime.instant ⟨dt.1.val, dt.2⟩ = secs * 1000000000 + nanos := by
  obtain ⟨date, hdate, hrest⟩ := Option.bind_eq_some_iff.mp h
  obtain ⟨time, htime, rfl⟩ := Option.map_eq_some_iff.mp hrest
  have hday : date.val.dayNumber = secs / 86400 + 719163 := by
    rw [commonDate_eq_some_iff.mp hdate, CivilDate.dayNumber_ofDayNumber]
  obtain ⟨hh, hm, hs, hn⟩ := CivilTime.ofFields_some htime
  rw [secondsOf_eq]
  unfold secondsOf
  rw [hday, hh, hm, hs, hn]
  omega

/-- The local date alone decides. -/
theorem ofSeconds_iff (secs : Int) {nanos : Nat} (hnanos : nanos < 10 ^ 9) :
    (∃ dt, ofSeconds secs nanos = some dt) ↔
      CommonYears (.ofDayNumber (secs / 86400 + 719163)) := by
  constructor
  · rintro ⟨dt, hdt⟩
    obtain ⟨date, hdate, -⟩ := Option.bind_eq_some_iff.mp hdt
    rw [← commonDate_eq_some_iff.mp hdate]
    exact date.property
  · intro h
    have hdate : commonDate (.ofDayNumber (secs / 86400 + 719163)) = some ⟨_, h⟩ := dif_pos h
    have htime : (secs % 86400 / 3600).toNat < 24 ∧ (secs % 3600 / 60).toNat < 60 ∧
        (secs % 60).toNat < 60 ∧ nanos < 10 ^ 9 := by omega
    rw [ofSeconds, hdate, CivilTime.ofFields, dif_pos htime]
    exact ⟨_, rfl⟩

scoped instance timeCrateInstants : TimeCrateInstants where
  instant dt := CivilDateTime.instant ⟨dt.1.1.val, dt.1.2⟩ - dt.2.val * 1000000000
  date_years d := d.property
  date_exists c h := by
    refine ⟨⟨c.month, c.month_range⟩, ⟨c, h⟩, dif_pos c.month_range, ?_⟩
    show (CivilDate.ofFields c.year c.month c.day).bind commonDate = _
    rw [CivilDate.ofFields_eq_some_iff.mpr ⟨rfl, rfl, rfl⟩]
    exact dif_pos h
  time_exists c := ⟨c, dif_pos c.range⟩
  utc_offset := rfl
  offset_range o := o.property
  offset_exists s hl hu := ⟨⟨s, by omega⟩, dif_pos _⟩
  offset_eq s o h := by
    simp only [TimeCrate.fromWholeSeconds] at h
    split at h <;> cases h
    rfl
  local_eq dt := (Int.sub_add_cancel _ _).symm
  assumeUtc_eq date time := by
    show CivilDateTime.instant ⟨date.val, time⟩ - 0 * 1000000000 = _
    exact Int.sub_eq_iff_eq_add.mpr (by rw [Int.zero_mul, Int.add_zero]; rfl)
  toOffset_eq dt o dt' h := by
    simp only [TimeCrate.toOffset] at h
    split at h
    · next shifted hshifted =>
      cases h
      refine ⟨?_, rfl⟩
      show CivilDateTime.instant ⟨shifted.1.val, shifted.2⟩ - o.val * 1000000000 = _
      rw [ofSeconds_eq hshifted, secondsOf_eq]
      omega
    · cases h
  toOffset_iff dt o := by
    have hnanos := dt.1.2.range.2.2.2
    have hday : (secondsOf dt.1 + (o.val - dt.2.val)) / 86400 + 719163 = CivilDateTime.dayOf
        (CivilDateTime.instant ⟨dt.1.1.val, dt.1.2⟩ - dt.2.val * 1000000000 +
          o.val * 1000000000) := by
      rw [secondsOf_eq]
      unfold CivilDateTime.dayOf epochDay dayNanos
      omega
    have hiff := ofSeconds_iff (secondsOf dt.1 + (o.val - dt.2.val)) hnanos
    rw [hday] at hiff
    refine Iff.trans ?_ hiff
    simp only [TimeCrate.toOffset]
    cases ofSeconds (secondsOf dt.1 + (o.val - dt.2.val)) dt.1.2.nanosecond with
    | none =>
      refine iff_of_false ?_ ?_
      · rintro ⟨dt', hdt'⟩
        cases hdt'
      · rintro ⟨dt', hdt'⟩
        cases hdt'
    | some shifted => exact iff_of_true ⟨_, rfl⟩ ⟨_, rfl⟩

/-- The reference keeps every instant of its dates. -/
scoped instance jiffInstants : JiffInstants where
  instant t := CivilDateTime.instant ⟨t.1.val, t.2⟩
  seconds o := o.val
  firstSecond := (-3652424 - 719163) * 86400
  lastSecond := (3652059 - 719163) * 86400 + 86399
  toUtc_eq _ := rfl
  toUtc_years t := t.1.property
  instant_range t := by
    have hsecs : CivilDateTime.instant ⟨t.1.val, t.2⟩ / 1000000000 = secondsOf t := by
      have hnanos := t.2.range.2.2.2
      rw [secondsOf_eq]
      omega
    have hdays := (commonYears_iff t.1.val).mp t.1.property
    have htime := t.2.range
    rw [hsecs]
    unfold secondsOf
    omega
  timestamp_eq secs nanos t hl hu h := by
    simp only [Jiff.timestamp, if_pos hl] at h
    rw [ofSeconds_eq h]
    omega
  timestamp_iff secs nanos hl hu := by
    have hiff := @ofSeconds_iff secs nanos.toNat (by omega)
    rw [commonYears_iff, CivilDate.dayNumber_ofDayNumber] at hiff
    simp only [Jiff.timestamp, if_pos hl]
    refine hiff.trans ?_
    omega
  offset_exists s hl hu := ⟨⟨s, by omega⟩, dif_pos _⟩
  offset_eq s o h := by
    simp only [Jiff.offsetFromSeconds] at h
    split at h <;> cases h
    rfl
  offset_range z := z.2.property
  toZoned_eq _ _ := ⟨rfl, rfl⟩

end Reference

end TiberiusBridge

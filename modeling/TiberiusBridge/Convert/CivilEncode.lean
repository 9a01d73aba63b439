import TiberiusBridge.Convert.Civil
import TiberiusBridge.Convert.Temporal

/-!
# The encoders of the optional libraries and of vectors

`time` and `jiff` values go through the civil fields of a chrono date, and panic
where it is outside SQL Server's range. Their times of day are always encoded.
-/
namespace TiberiusBridge

open Lib (Compute Panic mulUnsigned addUnsigned tryUnsigned asUnsigned asSigned)
open Lib.Compute (expect)

/-- The fields of the values of `time`. -/
class TimeFields [TimeCrate] where
  year : TimeCrate.Date → Int
  /-- `u8::from(month)`. -/
  month : TimeCrate.Date → Nat
  day : TimeCrate.Date → Nat
  hour : TimeCrate.Time → Nat
  minute : TimeCrate.Time → Nat
  second : TimeCrate.Time → Nat
  nanosecond : TimeCrate.Time → Nat
  date : TimeCrate.OffsetDateTime → TimeCrate.Date
  time : TimeCrate.OffsetDateTime → TimeCrate.Time
  offset : TimeCrate.OffsetDateTime → TimeCrate.UtcOffset
  wholeSeconds : TimeCrate.UtcOffset → Int
  /-- `UtcOffset::UTC`. -/
  utc : TimeCrate.UtcOffset
  time_range : ∀ t, hour t < 24 ∧ minute t < 60 ∧ second t < 60 ∧ nanosecond t < 10 ^ 9

/-- The fields and the defaults of the values of `jiff`. -/
class JiffFields [Jiff] where
  year : Jiff.Date → Int
  month : Jiff.Date → Int
  day : Jiff.Date → Int
  hour : Jiff.Time → Int
  minute : Jiff.Time → Int
  second : Jiff.Time → Int
  subsecNanosecond : Jiff.Time → Int
  date : Jiff.DateTime → Jiff.Date
  time : Jiff.DateTime → Jiff.Time
  /-- `TimeZone::UTC.to_datetime`. -/
  toUtc : Jiff.Timestamp → Jiff.DateTime
  timestamp : Jiff.Zoned → Jiff.Timestamp
  /-- `offset().seconds()`. -/
  offsetSeconds : Jiff.Zoned → Int
  defaultDate : Jiff.Date
  defaultTime : Jiff.Time
  defaultDateTime : Jiff.DateTime
  defaultTimestamp : Jiff.Timestamp
  defaultZoned : Jiff.Zoned
  date_range : ∀ d, (1 ≤ month d ∧ month d ≤ 12) ∧ 1 ≤ day d ∧ day d ≤ 31
  time_range : ∀ t, (0 ≤ hour t ∧ hour t < 24) ∧ (0 ≤ minute t ∧ minute t < 60) ∧
    (0 ≤ second t ∧ second t < 60) ∧ 0 ≤ subsecNanosecond t ∧ subsecNanosecond t < 10 ^ 9

/-- `SqlVector::try_from_f32`. -/
class VectorFromF32 [MssqlTds] where
  tryFromF32 : List F32 → Except TdsError SqlVector

/-- `VectorValue`. -/
structure VectorValue where
  dimensions : List F32
  deriving DecidableEq, Repr

variable [MssqlTds]

def ToSql.vectorValue [VectorFromF32] : Encoder VectorValue := fun v =>
  let dimCount := asUnsigned 16 v.dimensions.length
  match VectorFromF32.tryFromF32 v.dimensions with
  | .ok sv => .ok (.vector (some sv) dimCount .float32)
  | .error _ => .ok (.vector none dimCount .float32)

variable [Chrono]

namespace ToSql

/-- The day of a chrono date built from civil fields, where there is one. -/
def civilDateToSql (chronoDate : Option NaiveDate) : Compute SqlDate := do
  naiveDateToSql (← expect dateOutOfRange chronoDate)

/-- A time of day in 100-nanosecond units. -/
def civilTimeToSql (hour minute second nanosecond : Nat) : Compute SqlTime := do
  let hours ← mulUnsigned 64 hour 3600000000000
  let minutes ← mulUnsigned 64 minute 60000000000
  let toMinutes ← addUnsigned 64 hours minutes
  let seconds ← mulUnsigned 64 second 1000000000
  let toSeconds ← addUnsigned 64 toMinutes seconds
  let nanosSinceMidnight ← addUnsigned 64 toSeconds nanosecond
  return { timeNanoseconds := nanosSinceMidnight / 100, scale := defaultVartimeScale }

namespace TimeCrate

variable [TimeCrate] [TimeFields]

def chronoDate (d : TimeCrate.Date) : Option NaiveDate :=
  Chrono.fromYmdOpt (TimeFields.year d) (TimeFields.month d) (TimeFields.day d)

def dateToSql (d : TimeCrate.Date) : Compute SqlDate := civilDateToSql (chronoDate d)

def timeToSql (t : TimeCrate.Time) : Compute SqlTime :=
  civilTimeToSql (TimeFields.hour t) (TimeFields.minute t) (TimeFields.second t)
    (TimeFields.nanosecond t)

def primitiveDtToSql (dt : PrimitiveDateTime) : Compute SqlDateTime2 := do
  let days := MssqlTds.getDays (← dateToSql dt.date)
  return { days, time := ← timeToSql dt.time }

def date : Encoder TimeCrate.Date := fun d => do return .date (some (← dateToSql d))

def time : Encoder TimeCrate.Time := fun t => do return .time (some (← timeToSql t))

def primitiveDateTime : Encoder PrimitiveDateTime := fun dt => do
  return .dateTime2 (some (← primitiveDtToSql dt))

/-- The UTC components, and the offset of the value itself. -/
def offsetDateTime : Encoder TimeCrate.OffsetDateTime := fun dt => do
  let offset := TimeFields.offset dt
  let utc ← TimeCrate.toOffset dt TimeFields.utc
  let datetime2 ← primitiveDtToSql { date := TimeFields.date utc, time := TimeFields.time utc }
  return .dateTimeOffset (some {
    datetime2, offset := asSigned 16 ((TimeFields.wholeSeconds offset).tdiv 60) })

end TimeCrate

namespace Jiff

variable [Jiff] [JiffFields]

def chronoDate (d : Jiff.Date) : Compute (Option NaiveDate) := do
  let month ← expect "jiff months are in 1..=12" (tryUnsigned 32 (JiffFields.month d))
  let day ← expect "jiff days are in 1..=31" (tryUnsigned 32 (JiffFields.day d))
  return Chrono.fromYmdOpt (JiffFields.year d) month day

def dateToSql (d : Jiff.Date) : Compute SqlDate := do
  civilDateToSql (← chronoDate d)

def timeToSql (t : Jiff.Time) : Compute SqlTime := do
  let hour ← expect "jiff hours are in 0..=23" (tryUnsigned 64 (JiffFields.hour t))
  let minute ← expect "jiff minutes are in 0..=59" (tryUnsigned 64 (JiffFields.minute t))
  let second ← expect "jiff seconds are in 0..=59" (tryUnsigned 64 (JiffFields.second t))
  let nanosecond ← expect "jiff nanoseconds are nonnegative"
    (tryUnsigned 64 (JiffFields.subsecNanosecond t))
  civilTimeToSql hour minute second nanosecond

def datetimeToSql (dt : Jiff.DateTime) : Compute SqlDateTime2 := do
  let days := MssqlTds.getDays (← dateToSql (JiffFields.date dt))
  return { days, time := ← timeToSql (JiffFields.time dt) }

def timestampToSql (timestamp : Jiff.Timestamp) (offsetMinutes : Int) :
    Compute SqlDateTimeOffset := do
  return { datetime2 := ← datetimeToSql (JiffFields.toUtc timestamp), offset := offsetMinutes }

def date : Encoder Jiff.Date := fun d => do return .date (some (← dateToSql d))

def time : Encoder Jiff.Time := fun t => do return .time (some (← timeToSql t))

def dateTime : Encoder Jiff.DateTime := fun dt => do
  return .dateTime2 (some (← datetimeToSql dt))

def timestamp : Encoder Jiff.Timestamp := fun t => do
  return .dateTimeOffset (some (← timestampToSql t 0))

def zoned : Encoder Jiff.Zoned := fun z => do
  return .dateTimeOffset (some (← timestampToSql (JiffFields.timestamp z)
    (asSigned 16 ((JiffFields.offsetSeconds z).tdiv 60))))

end Jiff

end ToSql

instance (d : NaiveDate) : Decidable (InSqlRange d) :=
  inferInstanceAs (Decidable (1 ≤ Chrono.numDaysFromCe d ∧ _))

/-- A date that SQL Server does not have. -/
def datePanic (d : NaiveDate) : Option Panic :=
  if InSqlRange d then none else some (.expect dateOutOfRange)

/-- Civil fields that are no chrono date, or one that SQL Server does not have. -/
def civilPanic (chronoDate : Option NaiveDate) : Option Panic :=
  chronoDate.elim (some (.expect dateOutOfRange)) datePanic

namespace ToSql

theorem naiveDateToSql_settles (d : NaiveDate) :
    (naiveDateToSql d).Settles (datePanic d) fun _ => True := by
  unfold datePanic
  by_cases h : InSqlRange d
  · obtain ⟨sd, hsd, -⟩ := naiveDateToSql_ok h
    rw [if_pos h]
    exact ⟨sd, hsd, trivial⟩
  · rw [if_neg h]
    exact naiveDateToSql_refused h

theorem civilDateToSql_settles (chronoDate : Option NaiveDate) :
    (civilDateToSql chronoDate).Settles (civilPanic chronoDate) fun _ => True := by
  cases chronoDate with
  | none => rfl
  | some d => exact naiveDateToSql_settles d

omit [MssqlTds] in
theorem naiveTimeToSql_scale (t : NaiveTime) :
    (naiveTimeToSql t).Returns (·.scale = defaultVartimeScale) := by
  rw [naiveTimeToSql_eq]
  exact ⟨_, rfl, rfl⟩

omit [MssqlTds] [Chrono] in
/-- The nanoseconds of a day have 47 bits. -/
theorem civilTimeToSql_eq {hour minute second nanosecond : Nat} (hhour : hour < 24)
    (hminute : minute < 60) (hsecond : second < 60) (hnano : nanosecond < 10 ^ 9) :
    civilTimeToSql hour minute second nanosecond = .ok {
      timeNanoseconds := (hour * 3600000000000 + minute * 60000000000 + second * 1000000000 +
        nanosecond) / 100
      scale := defaultVartimeScale } := by
  have hh := Lib.mulUnsigned_ok (w := 64) (a := hour) (b := 3600000000000) (by omega)
  have hm := Lib.mulUnsigned_ok (w := 64) (a := minute) (b := 60000000000) (by omega)
  have hs := Lib.mulUnsigned_ok (w := 64) (a := second) (b := 1000000000) (by omega)
  have hhm := Lib.addUnsigned_ok (w := 64) (a := hour * 3600000000000)
    (b := minute * 60000000000) (by omega)
  have hhms := Lib.addUnsigned_ok (w := 64)
    (a := hour * 3600000000000 + minute * 60000000000) (b := second * 1000000000) (by omega)
  have hn := Lib.addUnsigned_ok (w := 64)
    (a := hour * 3600000000000 + minute * 60000000000 + second * 1000000000)
    (b := nanosecond) (by omega)
  simp only [civilTimeToSql, hh, hm, hs, hhm, hhms, hn, Lib.Compute.ok_bind, Lib.Compute.pure_eq]

omit [MssqlTds] [Chrono] in
theorem civilTimeToSql_scale {hour minute second nanosecond : Nat} (hhour : hour < 24)
    (hminute : minute < 60) (hsecond : second < 60) (hnano : nanosecond < 10 ^ 9) :
    (civilTimeToSql hour minute second nanosecond).Returns (·.scale = defaultVartimeScale) :=
  ⟨_, civilTimeToSql_eq hhour hminute hsecond hnano, rfl⟩

omit [Chrono] in
/-- A date, then a time that is always encoded. -/
theorem dateTime_settles {date : Compute SqlDate} {time : Compute SqlTime}
    {panics : Option Panic} (hdate : date.Settles panics fun _ => True)
    (htime : time.Returns (·.scale = defaultVartimeScale)) :
    (do
      let days := MssqlTds.getDays (← date)
      return ({ days, time := ← time } : SqlDateTime2)).Settles panics
        (·.time.scale = defaultVartimeScale) := by
  refine hdate.bind fun sd _ => ?_
  obtain ⟨st, hst, hscale⟩ := htime
  rw [hst]
  exact ⟨_, rfl, hscale⟩

theorem naiveDtToSql_settles (dt : NaiveDateTime) :
    (naiveDtToSql dt).Settles (datePanic dt.date) (·.time.scale = defaultVartimeScale) :=
  dateTime_settles (naiveDateToSql_settles dt.date) (naiveTimeToSql_scale dt.time)

namespace TimeCrate

variable [TimeCrate] [TimeFields]

omit [MssqlTds] [Chrono] in
theorem timeToSql_scale (t : TimeCrate.Time) :
    (timeToSql t).Returns (·.scale = defaultVartimeScale) := by
  obtain ⟨hhour, hminute, hsecond, hnano⟩ := TimeFields.time_range t
  exact civilTimeToSql_scale hhour hminute hsecond hnano

theorem primitiveDtToSql_settles (dt : PrimitiveDateTime) :
    (primitiveDtToSql dt).Settles (civilPanic (chronoDate dt.date))
      (·.time.scale = defaultVartimeScale) :=
  dateTime_settles (civilDateToSql_settles _) (timeToSql_scale dt.time)

/-- The conversion to UTC may panic, and so may the date it gives. -/
def utcPanic (dt : TimeCrate.OffsetDateTime) : Option Panic :=
  match TimeCrate.toOffset dt TimeFields.utc with
  | .error p => some p
  | .ok utc => civilPanic (chronoDate (TimeFields.date utc))

theorem offsetDateTime_settles (dt : TimeCrate.OffsetDateTime) :
    (offsetDateTime dt).Settles (utcPanic dt) fun s =>
      ∃ d, s = .dateTimeOffset (some d) ∧ d.datetime2.time.scale = defaultVartimeScale := by
  unfold offsetDateTime utcPanic
  cases TimeCrate.toOffset dt TimeFields.utc with
  | error p => rfl
  | ok utc =>
    have hutc := primitiveDtToSql_settles
      { date := TimeFields.date utc, time := TimeFields.time utc }
    exact hutc.bind fun st hscale => ⟨_, rfl, _, rfl, hscale⟩

end TimeCrate

namespace Jiff

variable [Jiff] [JiffFields]

/-- The months and days of `jiff` are never refused. -/
def civilDate (d : Jiff.Date) : Option NaiveDate :=
  Chrono.fromYmdOpt (JiffFields.year d) (JiffFields.month d).toNat (JiffFields.day d).toNat

omit [MssqlTds] in
theorem chronoDate_eq (d : Jiff.Date) : chronoDate d = .ok (civilDate d) := by
  obtain ⟨hmonth, hday⟩ := JiffFields.date_range d
  have hm := Lib.tryUnsigned_some (w := 32) (n := JiffFields.month d) (by omega)
  have hd := Lib.tryUnsigned_some (w := 32) (n := JiffFields.day d) (by omega)
  simp only [chronoDate, hm, hd, Lib.Compute.expect_some, Lib.Compute.ok_bind,
    Lib.Compute.pure_eq]
  rfl

theorem dateToSql_settles (d : Jiff.Date) :
    (dateToSql d).Settles (civilPanic (civilDate d)) fun _ => True := by
  rw [dateToSql, chronoDate_eq]
  exact civilDateToSql_settles (civilDate d)

omit [MssqlTds] [Chrono] in
/-- Nor are the fields of its times. -/
theorem timeToSql_eq (t : Jiff.Time) :
    timeToSql t = civilTimeToSql (JiffFields.hour t).toNat (JiffFields.minute t).toNat
      (JiffFields.second t).toNat (JiffFields.subsecNanosecond t).toNat := by
  obtain ⟨hhour, hminute, hsecond, hnano⟩ := JiffFields.time_range t
  have hh := Lib.tryUnsigned_some (w := 64) (n := JiffFields.hour t) (by omega)
  have hm := Lib.tryUnsigned_some (w := 64) (n := JiffFields.minute t) (by omega)
  have hs := Lib.tryUnsigned_some (w := 64) (n := JiffFields.second t) (by omega)
  have hn := Lib.tryUnsigned_some (w := 64) (n := JiffFields.subsecNanosecond t) (by omega)
  simp only [timeToSql, hh, hm, hs, hn, Lib.Compute.expect_some, Lib.Compute.ok_bind]

omit [MssqlTds] [Chrono] in
theorem timeToSql_scale (t : Jiff.Time) :
    (timeToSql t).Returns (·.scale = defaultVartimeScale) := by
  obtain ⟨hhour, hminute, hsecond, hnano⟩ := JiffFields.time_range t
  rw [timeToSql_eq]
  exact civilTimeToSql_scale (by omega) (by omega) (by omega) (by omega)

theorem datetimeToSql_settles (dt : Jiff.DateTime) :
    (datetimeToSql dt).Settles (civilPanic (civilDate (JiffFields.date dt)))
      (·.time.scale = defaultVartimeScale) :=
  dateTime_settles (dateToSql_settles _) (timeToSql_scale _)

theorem timestampToSql_settles (timestamp : Jiff.Timestamp) (offsetMinutes : Int) :
    (timestampToSql timestamp offsetMinutes).Settles
      (civilPanic (civilDate (JiffFields.date (JiffFields.toUtc timestamp))))
      (·.datetime2.time.scale = defaultVartimeScale) :=
  (datetimeToSql_settles _).bind fun _ hscale => ⟨_, rfl, hscale⟩

end Jiff

end ToSql

end TiberiusBridge

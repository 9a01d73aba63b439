import TiberiusBridge.Bulk.Arrow
import TiberiusBridge.Convert.Reference
import TiberiusBridge.Convert.Temporal

/-!
# The unit of an Arrow time of day

The decoders, and the chrono encoder, count a time of day in 100-nanosecond
units. The Arrow encoder writes plain nanoseconds, so that only midnight reads
back as the time it was.
-/
namespace TiberiusBridge

open Lib (Compute tryUnsigned_eq_some checkedMulUnsigned_eq_some checkedAddSigned_eq_some
  saturatingMulSigned_eq)

def nanosPerDay : Int := 86400000000000

/-- The exact nanoseconds since midnight of a `Time64` cell. -/
def ArrowCell.time64 : ArrowCell → Option Int
  | .time64Microsecond v => some (v.toInt * 1000)
  | .time64Nanosecond v => some v.toInt
  | _ => none

/-- The exact nanoseconds since 1970 of a `Timestamp` cell. -/
def ArrowCell.timestamp : ArrowCell → Option Int
  | .timestampSecond v => some (v.toInt * 1000000000)
  | .timestampMillisecond v => some (v.toInt * 1000000)
  | .timestampMicrosecond v => some (v.toInt * 1000)
  | .timestampNanosecond v => some v.toInt
  | _ => none

section

variable [MssqlTds]

theorem time64ToColumnValue_ok {unit : TimeUnit} {cell : ArrowCell} {value : ColumnValues}
    (h : time64ToColumnValue unit cell = .ok value) :
    ∃ nanos, time64Nanos unit cell = .ok nanos ∧ nanos < 86400000000000 ∧
      value = .time { timeNanoseconds := nanos, scale := defaultVartimeScale } := by
  obtain ⟨nanos, hn, h⟩ := Lib.Compute.bind_ok h
  split at h
  · cases h
  · cases h
    exact ⟨nanos, hn, by omega, rfl⟩

theorem time64Nanos_ok {unit : TimeUnit} {cell : ArrowCell} {nanos : Int} {n : Nat}
    (hc : cell.time64 = some nanos) (h : time64Nanos unit cell = .ok n) : nanos = n := by
  cases cell with
  | time64Microsecond v =>
    cases unit with
    | microsecond =>
      cases hc
      obtain ⟨v', hv, h⟩ := Lib.Compute.bind_ok h
      cases hv
      obtain ⟨micros, hm, h⟩ := Lib.Compute.bind_ok h
      have hv := (tryUnsigned_eq_some (okOr_ok hm)).2.2
      have hmul := checkedMulUnsigned_eq_some (okOr_ok h)
      rw [hv, hmul]
      push_cast
      rfl
    | nanosecond | second | millisecond => cases h
  | time64Nanosecond v =>
    cases unit with
    | nanosecond =>
      cases hc
      obtain ⟨v', hv, h⟩ := Lib.Compute.bind_ok h
      cases hv
      exact (tryUnsigned_eq_some (okOr_ok h)).2.2
    | microsecond | second | millisecond => cases h
  | _ => cases hc

/-- Only its own data type converts a `Time64` cell. -/
theorem cellToColumnValue_time64 {dataType : DataType} {cell : ArrowCell} {nanos : Int}
    {value : ColumnValues} (hc : cell.time64 = some nanos)
    (h : cellToColumnValue dataType cell = .ok value) :
    ∃ unit, time64ToColumnValue unit cell = .ok value := by
  cases cell with
  | time64Microsecond v | time64Nanosecond v =>
    cases dataType with
    | time64 unit => exact ⟨unit, h⟩
    | timestamp unit tz => cases unit <;> cases h
    | _ => cases h
  | _ => cases hc

/-- A converted `Time64` cell is within the day, and its nanoseconds are stored. -/
theorem time64_converted {dataType : DataType} {cell : ArrowCell} {nanos : Int}
    {value : ColumnValues} (hc : cell.time64 = some nanos)
    (h : cellToColumnValue dataType cell = .ok value) :
    0 ≤ nanos ∧ nanos < nanosPerDay ∧
      value = .time { timeNanoseconds := nanos.toNat, scale := defaultVartimeScale } := by
  obtain ⟨unit, h⟩ := cellToColumnValue_time64 hc h
  obtain ⟨n, hn, hlt, rfl⟩ := time64ToColumnValue_ok h
  have hnanos := time64Nanos_ok hc hn
  subst hnanos
  refine ⟨Int.natCast_nonneg n, ?_, rfl⟩
  unfold nanosPerDay
  omega

theorem cellToColumnValue_timestamp {dataType : DataType} {cell : ArrowCell} {nanos : Int}
    {value : ColumnValues} (hc : cell.timestamp = some nanos)
    (h : cellToColumnValue dataType cell = .ok value) :
    ∃ unit, timestampToColumnValue unit cell = .ok value := by
  cases cell with
  | timestampSecond v | timestampMillisecond v | timestampMicrosecond v
  | timestampNanosecond v =>
    cases dataType with
    | timestamp unit tz => exact ⟨unit, h⟩
    | time64 unit => cases unit <;> cases h
    | _ => cases h
  | _ => cases hc

theorem timestampNanos_ok {unit : TimeUnit} {cell : ArrowCell} {nanos n : Int}
    (hfit : -2 ^ 63 ≤ nanos ∧ nanos < 2 ^ 63) (hc : cell.timestamp = some nanos)
    (h : timestampNanos unit cell = .ok n) : n = nanos := by
  cases cell with
  | timestampSecond v | timestampMillisecond v | timestampMicrosecond v =>
    cases hc
    cases unit <;> cases h
    exact saturatingMulSigned_eq hfit
  | timestampNanosecond v =>
    cases hc
    cases unit <;> cases h
    rfl
  | _ => cases hc

/-- A converted timestamp stores its day, and the nanoseconds of that day. -/
theorem timestamp_converted {dataType : DataType} {cell : ArrowCell} {nanos : Int}
    {value : ColumnValues} (hfit : -2 ^ 63 ≤ nanos ∧ nanos < 2 ^ 63)
    (hc : cell.timestamp = some nanos) (h : cellToColumnValue dataType cell = .ok value) :
    ∃ days intraday : Nat, (days : Int) = nanos / nanosPerDay + arrowEpochOffsetDays ∧
      (intraday : Int) = nanos % nanosPerDay ∧
      value = .dateTime2 ⟨days, ⟨intraday, defaultVartimeScale⟩⟩ := by
  obtain ⟨unit, h⟩ := cellToColumnValue_timestamp hc h
  obtain ⟨n, hn, h⟩ := Lib.Compute.bind_ok h
  have hnanos := timestampNanos_ok hfit hc hn
  subst hnanos
  obtain ⟨intraday, hi, h⟩ := Lib.Compute.bind_ok h
  obtain ⟨shifted, hs, h⟩ := Lib.Compute.bind_ok h
  obtain ⟨days, hd, h⟩ := Lib.Compute.bind_ok h
  have hintra := (tryUnsigned_eq_some (okOr_ok hi)).2.2
  have hdays := (tryUnsigned_eq_some (okOr_ok hd)).2.2
  have hshift := checkedAddSigned_eq_some (okOr_ok hs)
  cases h
  exact ⟨days, intraday, by rw [← hdays, hshift]; rfl, hintra.symm, rfl⟩

variable [Chrono]

/-- The time of day of `nanos` nanoseconds, truncated to 100. -/
def IsTimeOfDay (t : NaiveTime) (nanos : Int) : Prop :=
  (Chrono.numSecondsFromMidnight t : Int) = nanos / 1000000000 ∧
    (Chrono.nanosecond t : Int) = nanos % 1000000000 / 100 * 100

/-- The value is a SQL TIME that decodes to `nanos` nanoseconds since midnight. -/
def ReadsTime (value : ColumnValues) (nanos : Int) : Prop :=
  ∃ st, value = .time st ∧ st.timeNanoseconds < ticksPerDay ∧
    ∃ t, FromSql.naiveTime value = .ok (some t) ∧ IsTimeOfDay t nanos

/-- The value is a DATETIME2 that decodes to `nanos` nanoseconds since 1970. -/
def ReadsTimestamp (value : ColumnValues) (nanos : Int) : Prop :=
  ∃ st, value = .dateTime2 st ∧ st.time.timeNanoseconds < ticksPerDay ∧
    ∃ dt, FromSql.naiveDateTime value = .ok (some dt) ∧
      Chrono.numDaysFromCe dt.date = nanos / nanosPerDay + 719163 ∧
      IsTimeOfDay dt.time (nanos % nanosPerDay)

/-- The chrono encoder makes `st` of the time of day `nanos` nanoseconds after midnight. -/
def EncodesTime (nanos : Int) (st : SqlTime) : Prop :=
  ∃ t, (Chrono.numSecondsFromMidnight t : Int) = nanos / 1000000000 ∧
    (Chrono.nanosecond t : Int) = nanos % 1000000000 ∧ ToSql.naiveTimeToSql t = .ok st

omit [MssqlTds] in
/-- Read as ticks, a count of nanoseconds is the same time of day only at midnight. -/
theorem ticks_read_iff {n : Nat} :
    (n < ticksPerDay ∧ ∃ t, FromSql.timeOfTicks n = .ok (some t) ∧ IsTimeOfDay t n) ↔
      n = 0 := by
  constructor
  · rintro ⟨hlt, t, ht, hs, hn⟩
    obtain ⟨t', ht', hs', hn'⟩ := FromSql.timeOfTicks_some hlt
    rw [ht] at ht'
    cases ht'
    -- as ticks the count is a hundred times the time
    omega
  · rintro rfl
    have hpos : 0 < ticksPerDay := by decide
    obtain ⟨t, ht, hs, hn⟩ := FromSql.timeOfTicks_some hpos
    exact ⟨hpos, t, ht, by rw [hs]; rfl, by rw [hn]; rfl⟩

omit [MssqlTds] in
theorem encodes_iff {n : Nat} (h : (n : Int) < nanosPerDay) :
    EncodesTime n ⟨n, defaultVartimeScale⟩ ↔ n = 0 := by
  unfold nanosPerDay at h
  constructor
  · rintro ⟨t, hs, hn, ht⟩
    rw [ToSql.naiveTimeToSql_eq] at ht
    cases ht
    omega
  · rintro rfl
    obtain ⟨t, hs, hn⟩ := (Chrono.time_range 0 0).mpr (by decide)
    refine ⟨t, by rw [hs]; rfl, by rw [hn]; rfl, ?_⟩
    rw [ToSql.naiveTimeToSql_eq, hs, hn]

theorem readsTime_iff {n : Nat} :
    ReadsTime (.time ⟨n, defaultVartimeScale⟩) n ↔ n = 0 := by
  rw [← ticks_read_iff (n := n)]
  constructor
  · rintro ⟨st, hst, hlt, t, ht, hday⟩
    cases hst
    exact ⟨hlt, t, ht, hday⟩
  · rintro ⟨hlt, t, ht, hday⟩
    exact ⟨_, rfl, hlt, t, ht, hday⟩

theorem readsTimestamp_iff {nanos : Int} {days intraday : Nat}
    (hfit : -2 ^ 63 ≤ nanos ∧ nanos < 2 ^ 63)
    (hd : (days : Int) = nanos / nanosPerDay + arrowEpochOffsetDays)
    (hi : (intraday : Int) = nanos % nanosPerDay) :
    ReadsTimestamp (.dateTime2 ⟨days, ⟨intraday, defaultVartimeScale⟩⟩) nanos ↔
      intraday = 0 := by
  have hwide : days < 2 ^ 24 := by
    unfold nanosPerDay arrowEpochOffsetDays at hd
    omega
  obtain ⟨d, hdate, hday⟩ := FromSql.dateOfDays_ok hwide
  have hdays : Chrono.numDaysFromCe d = nanos / nanosPerDay + 719163 := by
    unfold arrowEpochOffsetDays at hd
    omega
  rw [← ticks_read_iff (n := intraday), hi]
  constructor
  · rintro ⟨st, hst, hlt, dt, hdt, -, htime⟩
    cases hst
    obtain ⟨t, ht, -⟩ := FromSql.timeOfTicks_some hlt
    have hread := FromSql.dateTimeOf_eq ⟨days, ⟨intraday, defaultVartimeScale⟩⟩ hdate ht
    cases hdt.symm.trans hread
    exact ⟨hlt, t, ht, htime⟩
  · rintro ⟨hlt, t, ht, htime⟩
    exact ⟨_, rfl, hlt, ⟨d, t⟩,
      FromSql.dateTimeOf_eq ⟨days, ⟨intraday, defaultVartimeScale⟩⟩ hdate ht, hdays, htime⟩

/-- Which Arrow times of day are stored in the unit the bridge reads: those at midnight. -/
structure ArrowUnit : Prop where
  time64 : ∀ array idx cell nanos value, array.cells[idx]? = some (some cell) →
    cell.time64 = some nanos → arrowValueToColumnValue array idx = .ok value →
      (ReadsTime value nanos ↔ nanos = 0) ∧
        ((∃ st, value = .time st ∧ EncodesTime nanos st) ↔ nanos = 0)
  timestamp : ∀ array idx cell nanos value, array.cells[idx]? = some (some cell) →
    cell.timestamp = some nanos → -2 ^ 63 ≤ nanos ∧ nanos < 2 ^ 63 →
      arrowValueToColumnValue array idx = .ok value →
        (ReadsTimestamp value nanos ↔ nanos % nanosPerDay = 0) ∧
          ((∃ st, value = .dateTime2 st ∧ EncodesTime (nanos % nanosPerDay) st.time) ↔
            nanos % nanosPerDay = 0)

theorem arrow_unit_at_midnight : ArrowUnit := by
  constructor
  · intro array idx cell nanos value hcell hc h
    rw [arrowValueToColumnValue, hcell] at h
    obtain ⟨hpos, hlt, rfl⟩ := time64_converted hc h
    obtain ⟨n, rfl⟩ := Int.eq_ofNat_of_zero_le hpos
    rw [Int.toNat_natCast, readsTime_iff, Int.natCast_eq_zero]
    refine ⟨Iff.rfl, ?_⟩
    rw [← encodes_iff hlt]
    constructor
    · rintro ⟨st, hst, henc⟩
      cases hst
      exact henc
    · intro henc
      exact ⟨_, rfl, henc⟩
  · intro array idx cell nanos value hcell hc hfit h
    rw [arrowValueToColumnValue, hcell] at h
    obtain ⟨days, intraday, hd, hi, rfl⟩ := timestamp_converted hfit hc h
    have hlt : (intraday : Int) < nanosPerDay := by
      rw [hi]
      exact Int.emod_lt_of_pos _ (by decide)
    rw [readsTimestamp_iff hfit hd hi, ← hi, Int.natCast_eq_zero]
    refine ⟨Iff.rfl, ?_⟩
    rw [← encodes_iff hlt]
    constructor
    · rintro ⟨st, hst, henc⟩
      cases hst
      exact henc
    · intro henc
      exact ⟨_, rfl, henc⟩

end

section

open Reference

/-- A hundred nanoseconds after midnight are converted to a hundred ticks, which read as ten
microseconds. -/
theorem arrow_unit_hundred_nanoseconds :
    arrowValueToColumnValue ⟨.time64 .nanosecond, [some (.time64Nanosecond 100)]⟩ 0 =
      .ok (.time ⟨100, 7⟩) ∧
    FromSql.naiveTime (.time ⟨100, 7⟩) = .ok (some ⟨(0, 10000), by decide⟩) ∧
    ¬ ReadsTime (.time ⟨100, 7⟩) 100 := by
  have hread : FromSql.naiveTime (.time ⟨100, 7⟩) = .ok (some ⟨(0, 10000), by decide⟩) := rfl
  refine ⟨rfl, hread, ?_⟩
  rintro ⟨st, hst, -, t, ht, -, hnanos⟩
  cases hread.symm.trans ht
  exact absurd hnanos (by decide)

end

end TiberiusBridge

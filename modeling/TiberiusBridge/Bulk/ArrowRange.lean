import TiberiusBridge.Bulk.ArrowTime

/-!
# The range of Arrow dates and timestamps

A `Date32` is stored on its day or refused. A `Timestamp` is brought to
nanoseconds by a saturating multiplication before its day is taken, so that an
instant before 1677-09-21 or after 2262-04-11 is stored as the first or the last
instant that 64 bits of nanoseconds reach.
-/
namespace TiberiusBridge

open Lib (saturatingMulSigned saturatingMulSigned_eq saturatingMulSigned_ediv
  saturatingMulSigned_eq_iff checkedAddSigned checkedAddSigned_some checkedAddSigned_eq_some
  tryUnsigned tryUnsigned_some tryUnsigned_eq_some)
open Lib.Compute (ok_bind)

/-- The nanoseconds of one unit. -/
def TimeUnit.nanos : TimeUnit → Int
  | second => 1000000000
  | millisecond => 1000000
  | microsecond => 1000
  | nanosecond => 1

/-- The units of one day. -/
def TimeUnit.perDay : TimeUnit → Int
  | second => 86400
  | millisecond => 86400000
  | microsecond => 86400000000
  | nanosecond => 86400000000000

/-- The cell of a `Timestamp` array. -/
def TimeUnit.cell : TimeUnit → Int64 → ArrowCell
  | second => .timestampSecond
  | millisecond => .timestampMillisecond
  | microsecond => .timestampMicrosecond
  | nanosecond => .timestampNanosecond

/-- 1677-09-21, counted from 1970-01-01. -/
def firstNanosDay : Int := -106752

/-- 2262-04-11, counted from 1970-01-01. -/
def lastNanosDay : Int := 106751

theorem TimeUnit.nanos_pos (unit : TimeUnit) : 0 < unit.nanos := by
  cases unit <;> decide

theorem TimeUnit.perDay_mul_nanos (unit : TimeUnit) :
    unit.perDay * unit.nanos = nanosPerDay := by
  cases unit <;> rfl

/-- The day of a value may be taken in its own unit or in nanoseconds. -/
theorem TimeUnit.day_eq (unit : TimeUnit) (v : Int) :
    v * unit.nanos / nanosPerDay = v / unit.perDay := by
  rw [← unit.perDay_mul_nanos]
  exact Int.mul_ediv_mul_of_pos_left v unit.perDay unit.nanos_pos

/-- The day on which the saturated nanoseconds fall. -/
theorem TimeUnit.saturated_day (unit : TimeUnit) (v : Int) :
    saturatingMulSigned 64 v unit.nanos / nanosPerDay =
      max firstNanosDay (min lastNanosDay (v / unit.perDay)) := by
  have hday : 0 < nanosPerDay := by decide
  rw [saturatingMulSigned_ediv hday, unit.day_eq]
  rfl

section

variable [MssqlTds]

theorem okOr_some {α : Type} (e : Error) (v : α) : okOr e (some v) = .ok v := rfl

theorem date32_ok_iff {v : Int} {value : ColumnValues} :
    date32ToColumnValue v = .ok value ↔
      ∃ d, value = .date d ∧ (MssqlTds.getDays d : Int) = v + arrowEpochOffsetDays ∧
        MssqlTds.getDays d ≤ lastSqlDay := by
  constructor
  · intro h
    obtain ⟨shifted, hs, h⟩ := Lib.Compute.bind_ok h
    obtain ⟨days, hd, h⟩ := Lib.Compute.bind_ok h
    obtain ⟨d, hc, h⟩ := Lib.Compute.bind_ok h
    have hshift := checkedAddSigned_eq_some (okOr_ok hs)
    have hdays := (tryUnsigned_eq_some (okOr_ok hd)).2.2
    cases hcreate : MssqlTds.createDate days with
    | error e =>
      rw [hcreate] at hc
      cases hc
    | ok d' =>
      rw [hcreate] at hc
      cases hc
      cases h
      have hlaw := (MssqlTds.createDate_ok_iff days d).mp hcreate
      exact ⟨d, rfl, by omega, by omega⟩
  · rintro ⟨d, rfl, hd, hlast⟩
    unfold lastSqlDay at hlast
    have hadd := checkedAddSigned_some (w := 32) (a := v) (b := arrowEpochOffsetDays) (by omega)
    have htry := tryUnsigned_some (w := 32) (n := v + arrowEpochOffsetDays) (by omega)
    have hnat : (v + arrowEpochOffsetDays).toNat = MssqlTds.getDays d := by omega
    have hcreate := (MssqlTds.createDate_ok_iff _ d).mpr ⟨hlast, rfl⟩
    unfold date32ToColumnValue
    rw [hadd, okOr_some, ok_bind, htry, okOr_some, ok_bind, hnat, hcreate]
    rfl

theorem timestampNanos_cell (unit : TimeUnit) (v : Int64) :
    timestampNanos unit (unit.cell v) = .ok (saturatingMulSigned 64 v.toInt unit.nanos) := by
  cases unit with
  | nanosecond =>
    have hl := v.le_toInt
    have hu := v.toInt_lt
    rw [saturatingMulSigned_eq (by simp only [TimeUnit.nanos]; omega), TimeUnit.nanos,
      Int.mul_one]
    rfl
  | _ => rfl

/-- Every timestamp is converted, to the instant that the saturation leaves. -/
theorem timestamp_saturated (unit : TimeUnit) (v : Int64) :
    ∃ days intraday : Nat,
      timestampToColumnValue unit (unit.cell v) =
        .ok (.dateTime2 ⟨days, ⟨intraday, defaultVartimeScale⟩⟩) ∧
      (days : Int) = saturatingMulSigned 64 v.toInt unit.nanos / nanosPerDay +
        arrowEpochOffsetDays ∧
      (intraday : Int) = saturatingMulSigned 64 v.toInt unit.nanos % nanosPerDay := by
  have hday := unit.saturated_day v.toInt
  unfold firstNanosDay lastNanosDay at hday
  set nanos := saturatingMulSigned 64 v.toInt unit.nanos with hnanos
  have hpos : 0 ≤ nanos % nanosPerDay := Int.emod_nonneg _ (by decide)
  have hlt : nanos % nanosPerDay < 86400000000000 := Int.emod_lt_of_pos _ (by decide)
  have hintra := tryUnsigned_some (w := 64) (n := nanos % nanosPerDay) (by omega)
  have hrange : 0 ≤ nanos / nanosPerDay + arrowEpochOffsetDays ∧
      nanos / nanosPerDay + arrowEpochOffsetDays < 2 ^ 32 := by
    unfold arrowEpochOffsetDays
    omega
  have hadd := checkedAddSigned_some (w := 64) (a := nanos / nanosPerDay)
    (b := arrowEpochOffsetDays) (by omega)
  have htry := tryUnsigned_some hrange
  refine ⟨_, _, ?_, Int.toNat_of_nonneg hrange.1, Int.toNat_of_nonneg hpos⟩
  unfold timestampToColumnValue
  rw [timestampNanos_cell, ok_bind, ← hnanos]
  show (okOr _ (tryUnsigned 64 (nanos % nanosPerDay)) >>= fun intraday =>
    okOr _ (checkedAddSigned 64 (nanos / nanosPerDay) arrowEpochOffsetDays) >>= _) = _
  rw [hintra, okOr_some, ok_bind, hadd, okOr_some, ok_bind, htry, okOr_some, ok_bind]
  rfl

/-- The day a DATE or a DATETIME2 is stored on. -/
def ColumnValues.day : ColumnValues → Option Nat
  | .date d => some (MssqlTds.getDays d)
  | .dateTime2 st => some st.days
  | _ => none

/-- A day that SQL Server has is stored as it is, and any other is refused. -/
def DayOrError (day : Int) (result : Result ColumnValues) : Prop :=
  (0 ≤ day ∧ day ≤ lastSqlDay → ∃ value stored, result = .ok value ∧
    value.day = some stored ∧ (stored : Int) = day) ∧
  (¬(0 ≤ day ∧ day ≤ lastSqlDay) → ∃ e, result = .error e)

/-- Two timestamps are stored as one DATETIME2 only if they are in one 100 ns tick. -/
def Apart (nanos nanos' : Int) (result result' : Result ColumnValues) : Prop :=
  ∀ st, result = .ok (.dateTime2 st) → result' = .ok (.dateTime2 st) →
    nanos / 100 = nanos' / 100

/-- The saturation takes both to the same end of the 64 bits. -/
def ClippedAlike (nanos nanos' : Int) : Prop :=
  (2 ^ 63 - 1 ≤ nanos ∧ 2 ^ 63 - 1 ≤ nanos') ∨ (nanos ≤ -2 ^ 63 ∧ nanos' ≤ -2 ^ 63)

theorem date32_dayOrError (v : Int) :
    DayOrError (v + arrowEpochOffsetDays) (date32ToColumnValue v) := by
  constructor
  · rintro ⟨hpos, hlast⟩
    have hnat : ((v + arrowEpochOffsetDays).toNat : Int) = v + arrowEpochOffsetDays := by omega
    obtain ⟨d, hd⟩ := MssqlTds.createDate_accepts (v + arrowEpochOffsetDays).toNat (by omega)
    have hlaw := (MssqlTds.createDate_ok_iff _ d).mp hd
    have hdays : (MssqlTds.getDays d : Int) = v + arrowEpochOffsetDays := by omega
    exact ⟨.date d, _, date32_ok_iff.mpr ⟨d, rfl, hdays, by omega⟩, rfl, hdays⟩
  · intro hout
    cases h : date32ToColumnValue v with
    | error e => exact ⟨e, rfl⟩
    | ok value =>
      obtain ⟨d, -, hd, hlast⟩ := date32_ok_iff.mp h
      exact absurd ⟨by omega, by omega⟩ hout

theorem timestamp_dayOrError_iff (unit : TimeUnit) (v : Int64) :
    DayOrError (v.toInt / unit.perDay + arrowEpochOffsetDays)
        (timestampToColumnValue unit (unit.cell v)) ↔
      firstNanosDay ≤ v.toInt / unit.perDay ∧ v.toInt / unit.perDay ≤ lastNanosDay := by
  obtain ⟨days, intraday, hok, hdays, -⟩ := timestamp_saturated unit v
  rw [unit.saturated_day] at hdays
  unfold DayOrError firstNanosDay lastNanosDay arrowEpochOffsetDays lastSqlDay at *
  have hkept : (days : Int) = v.toInt / unit.perDay + 719162 ↔
      -106752 ≤ v.toInt / unit.perDay ∧ v.toInt / unit.perDay ≤ 106751 := by omega
  rw [hok, ← hkept]
  constructor
  · rintro ⟨hin, hout⟩
    by_cases hrange : 0 ≤ v.toInt / unit.perDay + 719162 ∧
        v.toInt / unit.perDay + 719162 ≤ (3652058 : Nat)
    · obtain ⟨value, stored, hv, hs, hday⟩ := hin hrange
      cases hv
      cases hs
      exact hday
    · obtain ⟨e, he⟩ := hout hrange
      cases he
  · intro hday
    exact ⟨fun _ => ⟨_, days, rfl, rfl, hday⟩, fun hout => absurd ⟨by omega, by omega⟩ hout⟩

theorem timestamp_apart_iff (unit : TimeUnit) (v v' : Int64) :
    Apart (v.toInt * unit.nanos) (v'.toInt * unit.nanos)
        (timestampToColumnValue unit (unit.cell v))
        (timestampToColumnValue unit (unit.cell v')) ↔
      (ClippedAlike (v.toInt * unit.nanos) (v'.toInt * unit.nanos) →
        v.toInt * unit.nanos / 100 = v'.toInt * unit.nanos / 100) := by
  obtain ⟨days, intraday, hok, hdays, hintra⟩ := timestamp_saturated unit v
  obtain ⟨days', intraday', hok', hdays', hintra'⟩ := timestamp_saturated unit v'
  have hsat := saturatingMulSigned_eq_iff (w := 64) (a := v.toInt) (b := unit.nanos)
    (c := v'.toInt) (d := unit.nanos)
  have hdiv := Int.mul_ediv_add_emod (saturatingMulSigned 64 v.toInt unit.nanos) nanosPerDay
  have hdiv' := Int.mul_ediv_add_emod (saturatingMulSigned 64 v'.toInt unit.nanos) nanosPerDay
  unfold Apart ClippedAlike
  rw [hok, hok']
  constructor
  · intro h hclip
    have hsame := hsat.mpr (Or.inr hclip)
    rw [← hsame] at hdays' hintra'
    have hd : days = days' := by omega
    have hi : intraday = intraday' := by omega
    subst hd hi
    exact h _ rfl rfl
  · intro h st hst hst'
    cases hst
    cases hst'
    -- the same day and the same time of day are the same saturated nanoseconds
    have hsame : saturatingMulSigned 64 v.toInt unit.nanos =
        saturatingMulSigned 64 v'.toInt unit.nanos := by
      rw [← hdiv, ← hdiv', ← hintra, ← hintra',
        show saturatingMulSigned 64 v.toInt unit.nanos / nanosPerDay =
          saturatingMulSigned 64 v'.toInt unit.nanos / nanosPerDay by omega]
    rcases hsat.mp hsame with heq | hclip
    · rw [heq]
    · exact h hclip

/-- Arrow dates are stored on their day or refused. Of the timestamps these are the ones whose
day the nanoseconds reach, and two are kept apart unless both are clipped to the same end. -/
structure ArrowDays : Prop where
  date32 : ∀ cells idx v, cells[idx]? = some (some (.date32 v)) →
    DayOrError (v.toInt + arrowEpochOffsetDays) (arrowValueToColumnValue ⟨.date32, cells⟩ idx)
  timestamp : ∀ unit tz cells idx v, cells[idx]? = some (some (unit.cell v)) →
    (DayOrError (v.toInt / unit.perDay + arrowEpochOffsetDays)
        (arrowValueToColumnValue ⟨.timestamp unit tz, cells⟩ idx) ↔
      firstNanosDay ≤ v.toInt / unit.perDay ∧ v.toInt / unit.perDay ≤ lastNanosDay)
  instants : ∀ unit tz cells idx v tz' cells' idx' v',
    cells[idx]? = some (some (unit.cell v)) → cells'[idx']? = some (some (unit.cell v')) →
      (Apart (v.toInt * unit.nanos) (v'.toInt * unit.nanos)
          (arrowValueToColumnValue ⟨.timestamp unit tz, cells⟩ idx)
          (arrowValueToColumnValue ⟨.timestamp unit tz', cells'⟩ idx') ↔
        (ClippedAlike (v.toInt * unit.nanos) (v'.toInt * unit.nanos) →
          v.toInt * unit.nanos / 100 = v'.toInt * unit.nanos / 100))

theorem arrow_days : ArrowDays := by
  constructor
  · intro cells idx v hcell
    rw [arrowValueToColumnValue, hcell]
    exact date32_dayOrError v.toInt
  · intro unit tz cells idx v hcell
    rw [arrowValueToColumnValue, hcell]
    exact timestamp_dayOrError_iff unit v
  · intro unit tz cells idx v tz' cells' idx' v' hcell hcell'
    rw [arrowValueToColumnValue, hcell, arrowValueToColumnValue, hcell']
    exact timestamp_apart_iff unit v v'

end

section

open Reference

/-- The first second after 9999-12-31 is stored on 2262-04-11, and so is every later one. -/
theorem arrow_days_year_ten_thousand :
    arrowValueToColumnValue ⟨.timestamp .second none, [some (.timestampSecond 253402300800)]⟩ 0 =
      .ok (.dateTime2 ⟨825913, ⟨85636854775807, 7⟩⟩) ∧
    ¬DayOrError ((253402300800 : Int) / TimeUnit.second.perDay + arrowEpochOffsetDays)
      (arrowValueToColumnValue ⟨.timestamp .second none,
        [some (.timestampSecond 253402300800)]⟩ 0) := by
  have hconv : arrowValueToColumnValue ⟨.timestamp .second none,
      [some (.timestampSecond 253402300800)]⟩ 0 =
        .ok (.dateTime2 ⟨825913, ⟨85636854775807, 7⟩⟩) := rfl
  refine ⟨hconv, ?_⟩
  rintro ⟨-, hout⟩
  obtain ⟨e, he⟩ := hout (by decide)
  cases hconv.symm.trans he

end

end TiberiusBridge

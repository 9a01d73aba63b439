import TiberiusBridge.Convert.Reference
import TiberiusBridge.Convert.Temporal

/-!
# Times at the edge of their range

A leap second at the end of the day is encoded past the 24 hours that a `TIME`
has, and no decoder takes it back. A legacy `DATETIME` is decoded to the
millisecond below its ticks, which for two thirds of them is the nearest one.
-/
namespace TiberiusBridge

open Lib (Compute mulUnsigned_ok addUnsigned_ok asUnsigned_of_lt)

section

variable [Chrono]

/-- Within the leap second at the end of the day. -/
def EndsDay (t : NaiveTime) : Prop :=
  Chrono.numSecondsFromMidnight t = 86399 ∧ 10 ^ 9 ≤ Chrono.nanosecond t

/-- What a time is encoded to. -/
def encodedTime (t : NaiveTime) : SqlTime where
  timeNanoseconds := (Chrono.numSecondsFromMidnight t * 1000000000 + Chrono.nanosecond t) / 100
  scale := defaultVartimeScale

theorem encodedTime_lt_iff (t : NaiveTime) :
    (encodedTime t).timeNanoseconds < ticksPerDay ↔ ¬ EndsDay t := by
  have hs := seconds_lt t
  have hn := nanosecond_lt t
  show _ / 100 < 864000000000 ↔ _
  unfold EndsDay
  constructor <;> intro h <;> omega

theorem timeOfTicks_encodedTime {t : NaiveTime} (ht : ¬ EndsDay t) :
    ∃ t', FromSql.timeOfTicks (encodedTime t).timeNanoseconds = .ok (some t') := by
  obtain ⟨t', ht', -⟩ := FromSql.timeOfTicks_some ((encodedTime_lt_iff t).mpr ht)
  exact ⟨t', ht'⟩

variable [MssqlTds]

/-- The time part of an encoded value. -/
def SqlType.timePart : SqlType → Option SqlTime
  | .time v => v
  | .dateTime2 v => v.map (·.time)
  | .dateTimeOffset v => v.map (·.datetime2.time)
  | _ => none

/-- Encoded as a payload whose time lies within the day, and which is decoded again. -/
def EncodesValid {α β : Type} (toSql : Encoder α) (fromSql : Decoder β) (v : α) : Prop :=
  ∃ payload st cell x, toSql v = .ok payload ∧ payload.timePart = some st ∧
    st.timeNanoseconds < ticksPerDay ∧ payload.temporalCell = some cell ∧
    fromSql cell = .ok (some x)

theorem EncodesValid.iff {α β : Type} {toSql : Encoder α} {fromSql : Decoder β} {v : α}
    {t : NaiveTime} {payload : SqlType} (henc : toSql v = .ok payload)
    (htime : payload.timePart = some (encodedTime t))
    (hdec : ¬ EndsDay t → ∃ cell x, payload.temporalCell = some cell ∧
      fromSql cell = .ok (some x)) : EncodesValid toSql fromSql v ↔ ¬ EndsDay t := by
  constructor
  · rintro ⟨payload', st, cell, x, henc', htime', hlt, -⟩
    cases henc.symm.trans henc'
    cases htime.symm.trans htime'
    exact (encodedTime_lt_iff t).mp hlt
  · intro ht
    obtain ⟨cell, x, hcell, hx⟩ := hdec ht
    exact ⟨payload, _, cell, x, henc, htime, (encodedTime_lt_iff t).mpr ht, hcell, hx⟩

/-- The date and time that a value in range is encoded to. -/
def encodedDateTime (dt : NaiveDateTime) : SqlDateTime2 where
  days := (Chrono.numDaysFromCe dt.date - 1).toNat
  time := encodedTime dt.time

theorem naiveDtToSql_encoded {dt : NaiveDateTime} (h : InSqlRange dt.date) :
    ToSql.naiveDtToSql dt = .ok (encodedDateTime dt) := by
  rw [ToSql.naiveDtToSql_inRange h, ToSql.naiveTimeToSql_eq]
  rfl

omit [MssqlTds] in
theorem dateTimeOf_encodedDateTime {dt : NaiveDateTime} (h : InSqlRange dt.date)
    (ht : ¬ EndsDay dt.time) :
    ∃ dt', FromSql.dateTimeOf (encodedDateTime dt) = .ok (some dt') := by
  obtain ⟨t', ht'⟩ := timeOfTicks_encodedTime ht
  obtain ⟨hl, hu⟩ := h
  have hlast : (lastSqlDay : Int) = 3652058 := rfl
  have hdate : FromSql.dateOfDays (encodedDateTime dt).days = .ok (some dt.date) := by
    apply FromSql.dateOfDays_eq
    · show (Chrono.numDaysFromCe dt.date - 1).toNat < _
      omega
    · show (((Chrono.numDaysFromCe dt.date - 1).toNat : Nat) : Int) + 1 = _
      omega
  exact ⟨_, FromSql.dateTimeOf_eq _ hdate ht'⟩

/-- Every value decodes from the time it is encoded to, and that is a time of day, exactly outside
the leap second at the end of the day. -/
structure ValidTimes : Prop where
  ticks : ∀ t : NaiveTime, ∃ st, ToSql.naiveTimeToSql t = .ok st ∧
    (st.timeNanoseconds < ticksPerDay ↔ ¬ EndsDay t)
  time : ∀ t : NaiveTime, EncodesValid ToSql.naiveTime FromSql.naiveTime t ↔ ¬ EndsDay t
  dateTime : ∀ dt : NaiveDateTime, InSqlRange dt.date →
    (EncodesValid ToSql.naiveDateTime FromSql.naiveDateTime dt ↔ ¬ EndsDay dt.time)
  fixedOffset : ∀ dt : DateTime FixedOffset, InSqlRange dt.naiveUtc.date →
    (EncodesValid ToSql.dateTimeFixedOffset FromSql.dateTimeFixedOffset dt ↔
      ¬ EndsDay dt.naiveUtc.time)
  utc : ∀ dt : DateTime Utc, InSqlRange dt.naiveUtc.date →
    (EncodesValid ToSql.dateTimeUtc FromSql.dateTimeFixedOffset dt ↔ ¬ EndsDay dt.naiveUtc.time)

theorem dateTimeOffset_encodes {dt : NaiveDateTime} {m : Int} (h : InSqlRange dt.date)
    (hm : -1440 < m ∧ m < 1440) (ht : ¬ EndsDay dt.time) :
    ∃ x, FromSql.dateTimeFixedOffset (.dateTimeOffset ⟨encodedDateTime dt, m⟩) =
      .ok (some x) := by
  obtain ⟨dt', hdt'⟩ := dateTimeOf_encodedDateTime h ht
  obtain ⟨o, hmul, ho, -⟩ := offset_decoded hm
  refine ⟨⟨dt', o⟩, ?_⟩
  rw [@FromSql.dateTimeFixedOffset_eq _ _ ⟨encodedDateTime dt, m⟩ _ hdt' hmul, Option.bind_some,
    ho]
  rfl

theorem valid_times : ValidTimes where
  ticks t := ⟨encodedTime t, ToSql.naiveTimeToSql_eq t, encodedTime_lt_iff t⟩
  time t := by
    have henc : ToSql.naiveTime t = .ok (.time (some (encodedTime t))) := by
      rw [ToSql.naiveTime, ToSql.naiveTimeToSql_eq]
      rfl
    refine EncodesValid.iff henc rfl fun ht => ?_
    obtain ⟨t', ht'⟩ := timeOfTicks_encodedTime ht
    exact ⟨_, t', rfl, ht'⟩
  dateTime dt h := by
    have henc : ToSql.naiveDateTime dt = .ok (.dateTime2 (some (encodedDateTime dt))) := by
      rw [ToSql.naiveDateTime, naiveDtToSql_encoded h]
      rfl
    refine EncodesValid.iff henc rfl fun ht => ?_
    obtain ⟨dt', hdt'⟩ := dateTimeOf_encodedDateTime h ht
    exact ⟨_, dt', rfl, hdt'⟩
  fixedOffset dt h := by
    obtain ⟨hcast, hm⟩ := offset_minutes dt.offset
    have henc : ToSql.dateTimeFixedOffset dt = .ok (.dateTimeOffset
        (some ⟨encodedDateTime dt.naiveUtc, (Chrono.localMinusUtc dt.offset).tdiv 60⟩)) := by
      simp only [ToSql.dateTimeFixedOffset, naiveDtToSql_encoded h, Lib.Compute.ok_bind, hcast]
      rfl
    refine EncodesValid.iff henc rfl fun ht => ?_
    obtain ⟨x, hx⟩ := dateTimeOffset_encodes h hm ht
    exact ⟨_, x, rfl, hx⟩
  utc dt h := by
    have henc : ToSql.dateTimeUtc dt =
        .ok (.dateTimeOffset (some ⟨encodedDateTime dt.naiveUtc, 0⟩)) := by
      simp only [ToSql.dateTimeUtc, naiveDtToSql_encoded h, Lib.Compute.ok_bind]
      rfl
    refine EncodesValid.iff henc rfl fun ht => ?_
    obtain ⟨x, hx⟩ := dateTimeOffset_encodes h (m := 0) (by decide) ht
    exact ⟨_, x, rfl, hx⟩

/-- Ticks of 1/300 s in a day. -/
def legacyTicksPerDay : Nat := 25920000

/-- The values of the type: a signed and an unsigned field of 32 bits. -/
structure SqlDateTime.InWidth (dt : SqlDateTime) : Prop where
  days_ge : -2 ^ 31 ≤ dt.days
  days_lt : dt.days < 2 ^ 31
  time_lt : dt.time < 2 ^ 32

/-- The time of day of a whole number of milliseconds. -/
def IsMillis (t : NaiveTime) (ms : Nat) : Prop :=
  Chrono.numSecondsFromMidnight t = ms / 1000 ∧ Chrono.nanosecond t = ms % 1000 * 1000000

/-- The time of day less than half a millisecond from that many ticks. -/
def NearestMillis (t : NaiveTime) (ticks : Nat) : Prop :=
  ∃ ms : Nat, IsMillis t ms ∧ -3 < 6 * (ms : Int) - 20 * ticks ∧ 6 * (ms : Int) - 20 * ticks < 3

omit [MssqlTds] in
/-- Three ticks are ten milliseconds, so only a remainder of two is rounded the wrong way. -/
theorem nearestMillis_iff {t : NaiveTime} {ticks : Nat} (h : IsMillis t (ticks * 10 / 3)) :
    NearestMillis t ticks ↔ ticks % 3 ≠ 2 := by
  constructor
  · rintro ⟨ms, hms, hl, hu⟩ hr
    have hsecs := h.1.symm.trans hms.1
    have hnanos := h.2.symm.trans hms.2
    omega
  · intro hr
    exact ⟨ticks * 10 / 3, h, by omega, by omega⟩

/-- The endings of the SQL type: .000, .003 and .007. -/
def LegacyEnding (t : NaiveTime) : Prop :=
  ∃ ms, IsMillis t ms ∧ (ms % 10 = 0 ∨ ms % 10 = 3 ∨ ms % 10 = 7)

omit [MssqlTds] in
theorem NearestMillis.ending {t : NaiveTime} {ticks : Nat} (h : NearestMillis t ticks) :
    LegacyEnding t := by
  obtain ⟨ms, hms, hl, hu⟩ := h
  have herror : 3 * (ms : Int) = 10 * ticks - 1 ∨ 3 * (ms : Int) = 10 * ticks ∨
      3 * (ms : Int) = 10 * ticks + 1 := by omega
  refine ⟨ms, hms, ?_⟩
  rcases herror with h | h | h <;> omega

omit [MssqlTds] in
theorem daysSince1900_eq (days : Int) :
    FromSql.daysSince1900 days = Chrono.fromNumDaysFromCeOpt (693596 + days) := by
  have hbase := Chrono.ymd_1900
  unfold FromSql.daysSince1900
  cases hymd : Chrono.fromYmdOpt 1900 1 1 with
  | none => rw [hymd] at hbase; cases hbase
  | some base =>
    rw [hymd, Option.map_some, Option.some.injEq] at hbase
    rw [Option.bind_some, Chrono.add_days, hbase]

omit [MssqlTds] in
theorem daysSince1900_some_iff {days : Int} {d : NaiveDate} :
    FromSql.daysSince1900 days = some d ↔ Chrono.numDaysFromCe d = 693596 + days := by
  rw [daysSince1900_eq, Chrono.date_eq_iff]

theorem naiveDateTime_noDay {dt : SqlDateTime} (hd : FromSql.daysSince1900 dt.days = none) :
    FromSql.naiveDateTime (.dateTime dt) = .ok none := by
  simp only [FromSql.naiveDateTime, hd]
  rfl

/-- What is left of the decoding once the day is known. -/
theorem naiveDateTime_legacy {dt : SqlDateTime} (h : dt.InWidth) {d : NaiveDate}
    (hd : FromSql.daysSince1900 dt.days = some d) :
    FromSql.naiveDateTime (.dateTime dt) =
      .ok ((Chrono.fromNumSecondsFromMidnightOpt (dt.time * 10 / 3 / 1000)
        (dt.time * 10 / 3 % 1000 * 1000000)).map (NaiveDateTime.mk d)) := by
  have htime := h.time_lt
  have hms : Lib.mulUnsigned 64 dt.time 10 = .ok (dt.time * 10) := mulUnsigned_ok (by omega)
  have hnanos : Lib.mulUnsigned 64 (dt.time * 10 / 3 % 1000) 1000000 =
      .ok (dt.time * 10 / 3 % 1000 * 1000000) := mulUnsigned_ok (by omega)
  have hs32 : Lib.asUnsigned 32 (dt.time * 10 / 3 / 1000) = dt.time * 10 / 3 / 1000 :=
    asUnsigned_of_lt (by omega)
  have hn32 : Lib.asUnsigned 32 (dt.time * 10 / 3 % 1000 * 1000000) =
      dt.time * 10 / 3 % 1000 * 1000000 := asUnsigned_of_lt (by omega)
  simp only [FromSql.naiveDateTime, hd, hms, hnanos, hs32, hn32, Lib.Compute.ok_bind,
    Lib.Compute.pure_eq]

theorem legacy_read {dt : SqlDateTime} (h : dt.InWidth) (ht : dt.time < legacyTicksPerDay)
    {d : NaiveDate} (hd : FromSql.daysSince1900 dt.days = some d) :
    ∃ t, FromSql.naiveDateTime (.dateTime dt) = .ok (some ⟨d, t⟩) ∧
      IsMillis t (dt.time * 10 / 3) := by
  unfold legacyTicksPerDay at ht
  have hrange : dt.time * 10 / 3 / 1000 < 86400 ∧
      dt.time * 10 / 3 % 1000 * 1000000 < 2 * 10 ^ 9 := by omega
  obtain ⟨t, hms⟩ := (Chrono.time_range _ _).mpr hrange
  have hopt := (Chrono.time_eq_iff _ _ _).mpr ⟨hms, .inl (by omega)⟩
  refine ⟨t, ?_, hms⟩
  rw [naiveDateTime_legacy h hd, hopt]
  rfl

theorem legacy_late {dt : SqlDateTime} (h : dt.InWidth) (ht : legacyTicksPerDay ≤ dt.time) :
    FromSql.naiveDateTime (.dateTime dt) = .ok none := by
  unfold legacyTicksPerDay at ht
  cases hd : FromSql.daysSince1900 dt.days with
  | none => exact naiveDateTime_noDay hd
  | some d =>
    rw [naiveDateTime_legacy h hd]
    cases hopt : Chrono.fromNumSecondsFromMidnightOpt (dt.time * 10 / 3 / 1000)
      (dt.time * 10 / 3 % 1000 * 1000000) with
    | none => rfl
    | some t =>
      have hs := ((Chrono.time_eq_iff _ _ _).mp hopt).1.1
      have hlt := seconds_lt t
      omega

/-- The day that a legacy date-time falls on. -/
def LegacyDay (dt : SqlDateTime) (d : NaiveDate) : Prop :=
  Chrono.numDaysFromCe d = 693596 + dt.days

omit [MssqlTds] in
theorem legacyDay_iff {dt : SqlDateTime} {d : NaiveDate} :
    LegacyDay dt d ↔ FromSql.daysSince1900 dt.days = some d :=
  daysSince1900_some_iff.symm

/-- What a legacy date-time should be read as. -/
structure LegacyReading (dt : SqlDateTime) : Prop where
  nearest : dt.time < legacyTicksPerDay → ∀ d, LegacyDay dt d →
    ∃ t, FromSql.naiveDateTime (.dateTime dt) = .ok (some ⟨d, t⟩) ∧ NearestMillis t dt.time ∧
      LegacyEnding t
  noDay : (∀ d, ¬ LegacyDay dt d) → FromSql.naiveDateTime (.dateTime dt) = .ok none
  late : legacyTicksPerDay ≤ dt.time → FromSql.naiveDateTime (.dateTime dt) = .ok none

/-- Every reading is right except that of ticks that leave a remainder of two, and the order of
the ticks is that of the times. -/
structure LegacyReadings : Prop where
  reading : ∀ dt : SqlDateTime, dt.InWidth → (LegacyReading dt ↔
    (legacyTicksPerDay ≤ dt.time ∨ (∀ d, ¬ LegacyDay dt d) ∨ dt.time % 3 ≠ 2))
  increasing : ∀ (dt dt' : SqlDateTime), dt.InWidth → dt'.InWidth → dt.days = dt'.days →
    dt.time < dt'.time → dt'.time < legacyTicksPerDay → ∀ x x' : NaiveDateTime,
      FromSql.naiveDateTime (.dateTime dt) = .ok (some x) →
      FromSql.naiveDateTime (.dateTime dt') = .ok (some x') →
      ∃ ms ms', IsMillis x.time ms ∧ IsMillis x'.time ms' ∧ ms < ms'

theorem legacy_noDay {dt : SqlDateTime} (h : ∀ d, ¬ LegacyDay dt d) :
    FromSql.naiveDateTime (.dateTime dt) = .ok none := by
  have hd : FromSql.daysSince1900 dt.days = none := by
    cases hd : FromSql.daysSince1900 dt.days with
    | none => rfl
    | some d => exact absurd (legacyDay_iff.mpr hd) (h d)
  exact naiveDateTime_noDay hd

theorem legacy_readings : LegacyReadings where
  reading dt h := by
    constructor
    · intro hread
      by_cases ht : dt.time < legacyTicksPerDay
      · refine .inr ?_
        by_cases hday : ∀ d, ¬ LegacyDay dt d
        · exact .inl hday
        · obtain ⟨d, hd⟩ := not_forall_not.mp hday
          obtain ⟨t, hdt, hms⟩ := legacy_read h ht (legacyDay_iff.mp hd)
          obtain ⟨t', hdt', hnear, -⟩ := hread.nearest ht d hd
          cases hdt.symm.trans hdt'
          exact .inr ((nearestMillis_iff hms).mp hnear)
      · exact .inl (by omega)
    · intro hcond
      refine ⟨fun ht d hd => ?_, legacy_noDay, legacy_late h⟩
      obtain ⟨t, hdt, hms⟩ := legacy_read h ht (legacyDay_iff.mp hd)
      suffices hr : dt.time % 3 ≠ 2 by
        have hnear := (nearestMillis_iff hms).mpr hr
        exact ⟨t, hdt, hnear, hnear.ending⟩
      rcases hcond with hlate | hnone | hr
      · omega
      · exact absurd hd (hnone d)
      · exact hr
  increasing dt dt' h h' hdays hlt ht' x x' hx hx' := by
    have read : ∀ {dt : SqlDateTime} {x : NaiveDateTime}, dt.InWidth →
        dt.time < legacyTicksPerDay → FromSql.naiveDateTime (.dateTime dt) = .ok (some x) →
        IsMillis x.time (dt.time * 10 / 3) := by
      intro dt x h ht hx
      cases hd : FromSql.daysSince1900 dt.days with
      | none => cases (naiveDateTime_noDay hd).symm.trans hx
      | some d =>
        obtain ⟨t, hdt, hms⟩ := legacy_read h ht hd
        cases hdt.symm.trans hx
        exact hms
    exact ⟨_, _, read h (by omega) hx, read h' ht' hx', by omega⟩

end

section

open scoped Reference

/-- 23:59:60.5. -/
def leapSecond : NaiveTime := (⟨(86399, 1500000000), by decide⟩ : { t : Nat × Nat // _ })

/-- Encoded past the end of the day, and refused on the way back. -/
theorem leap_second_refused :
    ToSql.naiveTime leapSecond =
      .ok (.time (some { timeNanoseconds := 864005000000, scale := 7 })) ∧
    ¬ 864005000000 < ticksPerDay ∧
    FromSql.naiveTime (.time { timeNanoseconds := 864005000000, scale := 7 }) = .ok none := by
  refine ⟨?_, by decide, ?_⟩
  · rw [ToSql.naiveTime, ToSql.naiveTimeToSql_eq]
    rfl
  · exact FromSql.timeOfTicks_none (by decide) (by decide)

/-- The day 1900-01-01. -/
def legacyEpoch : NaiveDate := (⟨693596, by decide⟩ : { n : Int // _ })

/-- 6 milliseconds. -/
def sixMillis : NaiveTime := (⟨(0, 6000000), by decide⟩ : { t : Nat × Nat // _ })

/-- Two ticks are 6.67 ms, which SQL Server reports as .007. -/
theorem legacy_two_ticks :
    FromSql.naiveDateTime (.dateTime ⟨0, 2⟩) = .ok (some ⟨legacyEpoch, sixMillis⟩) ∧
      ¬ NearestMillis sixMillis 2 := by
  have hday : FromSql.daysSince1900 0 = some legacyEpoch := 
    legacyDay_iff.mp (show LegacyDay ⟨0, 2⟩ legacyEpoch from rfl)
  have hwidth : SqlDateTime.InWidth ⟨0, 2⟩ := ⟨by decide, by decide, by decide⟩
  refine ⟨naiveDateTime_legacy hwidth hday, ?_⟩
  rintro ⟨ms, ⟨hs, hn⟩, hl, hu⟩
  have hs : 0 = ms / 1000 := hs
  have hn : 6000000 = ms % 1000 * 1000000 := hn
  omega

end

end TiberiusBridge

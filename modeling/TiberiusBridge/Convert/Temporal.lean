import TiberiusBridge.Convert.Compat

/-!
# Temporal round trips

A chrono value encoded as a parameter decodes to itself, truncated to
100 nanoseconds and to whole minutes of offset. A payload decodes and encodes to
itself, and within the widths of the wire format decoding never overflows.
-/
namespace TiberiusBridge

open Lib (Compute mulUnsigned_ok addUnsigned_ok addSigned_ok subSigned_ok mulSigned_ok
  tryUnsigned_some asUnsigned_of_lt asSigned_of_range)

variable [Chrono]

/-- 100-nanosecond units in a day. -/
def ticksPerDay : Nat := 864000000000

/-- From 0001-01-01 to 9999-12-31. -/
def InSqlRange (d : NaiveDate) : Prop :=
  1 ≤ Chrono.numDaysFromCe d ∧ Chrono.numDaysFromCe d ≤ lastSqlDay + 1

/-- Not within a leap second. -/
def NoLeap (t : NaiveTime) : Prop := Chrono.nanosecond t < 10 ^ 9

/-- The same time, its nanoseconds rounded down to a multiple of 100. -/
def TruncatesTo (t t' : NaiveTime) : Prop :=
  Chrono.numSecondsFromMidnight t' = Chrono.numSecondsFromMidnight t ∧
    Chrono.nanosecond t' = Chrono.nanosecond t / 100 * 100

def NaiveDateTime.TruncatesTo (dt dt' : NaiveDateTime) : Prop :=
  dt'.date = dt.date ∧ TiberiusBridge.TruncatesTo dt.time dt'.time

/-- The payload of a day, a time of day and an offset. -/
structure SqlTime.OfDay (t : SqlTime) : Prop where
  ticks : t.timeNanoseconds < ticksPerDay
  scale : t.scale = defaultVartimeScale

namespace ToSql

variable {t : NaiveTime}

theorem naiveTimeToSql_eq (t : NaiveTime) :
    naiveTimeToSql t = .ok {
      timeNanoseconds :=
        (Chrono.numSecondsFromMidnight t * 1000000000 + Chrono.nanosecond t) / 100
      scale := defaultVartimeScale } := by
  have hs := seconds_lt t
  have hn := nanosecond_lt t
  have hmul := mulUnsigned_ok (w := 64) (a := Chrono.numSecondsFromMidnight t) (b := 1000000000)
    (by omega)
  have hadd := addUnsigned_ok (w := 64) (a := Chrono.numSecondsFromMidnight t * 1000000000)
    (b := Chrono.nanosecond t) (by omega)
  rw [naiveTimeToSql, hmul, Lib.Compute.ok_bind, hadd]
  rfl

/-- The ticks of a time without leap second are those of the day. -/
theorem naiveTimeToSql_ofDay (h : NoLeap t) :
    ∃ st, naiveTimeToSql t = .ok st ∧ st.OfDay ∧
      st.timeNanoseconds / 10 ^ 7 = Chrono.numSecondsFromMidnight t ∧
      st.timeNanoseconds % 10 ^ 7 = Chrono.nanosecond t / 100 := by
  have hs := seconds_lt t
  unfold NoLeap at h
  refine ⟨_, naiveTimeToSql_eq t, ⟨?_, rfl⟩, ?_, ?_⟩
  · show _ / 100 < 864000000000
    omega
  · show _ / 100 / 10 ^ 7 = _
    omega
  · show _ / 100 % 10 ^ 7 = _
    omega

end ToSql

namespace FromSql

/-- Every day count of three bytes is a date. -/
theorem dateOfDays_ok {days : Nat} (h : days < 2 ^ 24) :
    ∃ d, dateOfDays days = .ok (some d) ∧ Chrono.numDaysFromCe d = days + 1 := by
  have hcast : Lib.asSigned 32 days = days := asSigned_of_range (by omega) (by omega)
  have hadd : Lib.addSigned 32 (days : Int) 1 = .ok ((days : Int) + 1) := addSigned_ok (by omega)
  have hrange : firstChronoDay ≤ (days : Int) + 1 ∧ (days : Int) + 1 ≤ lastChronoDay := by
    unfold firstChronoDay lastChronoDay
    omega
  obtain ⟨d, hd⟩ := (Chrono.date_range _).mpr hrange
  refine ⟨d, ?_, hd⟩
  rw [dateOfDays, hcast, hadd, Lib.Compute.ok_bind, (Chrono.date_eq_iff _ _).mpr hd]
  rfl

/-- A date determines its day count, and back. -/
theorem dateOfDays_eq {d : NaiveDate} {days : Nat} (h : days < 2 ^ 24)
    (hd : (days : Int) + 1 = Chrono.numDaysFromCe d) : dateOfDays days = .ok (some d) := by
  obtain ⟨d', hd', hn⟩ := dateOfDays_ok h
  have h₁ := (Chrono.date_eq_iff _ _).mpr hn
  have h₂ := (Chrono.date_eq_iff _ _).mpr hd.symm
  rw [hd', Option.some.inj (h₁.symm.trans h₂)]

/-- Five bytes of ticks do not overflow. -/
theorem timeOfTicks_eq {ticks : Nat} (h : ticks < 2 ^ 40) :
    timeOfTicks ticks = .ok (Chrono.fromNumSecondsFromMidnightOpt (ticks / 10 ^ 7)
      (ticks % 10 ^ 7 * 100)) := by
  have hmul : Lib.mulUnsigned 64 ticks 100 = .ok (ticks * 100) := mulUnsigned_ok (by omega)
  have hsecs : Lib.asUnsigned 32 (ticks * 100 / 1000000000) = ticks / 10 ^ 7 := by
    rw [asUnsigned_of_lt (by omega)]
    omega
  have hnanos : Lib.asUnsigned 32 (ticks * 100 % 1000000000) = ticks % 10 ^ 7 * 100 := by
    rw [asUnsigned_of_lt (by omega)]
    omega
  rw [timeOfTicks, hmul, Lib.Compute.ok_bind]
  simp only [hsecs, hnanos]
  rfl

theorem timeOfTicks_some {ticks : Nat} (h : ticks < ticksPerDay) :
    ∃ t, timeOfTicks ticks = .ok (some t) ∧
      Chrono.numSecondsFromMidnight t = ticks / 10 ^ 7 ∧
      Chrono.nanosecond t = ticks % 10 ^ 7 * 100 := by
  unfold ticksPerDay at h
  have hrange : ticks / 10 ^ 7 < 86400 ∧ ticks % 10 ^ 7 * 100 < 2 * 10 ^ 9 := by omega
  obtain ⟨t, ht⟩ := (Chrono.time_range _ _).mpr hrange
  have hopt := (Chrono.time_eq_iff _ _ _).mpr ⟨ht, .inl (by omega)⟩
  refine ⟨t, ?_, ht⟩
  rw [timeOfTicks_eq (by omega), hopt]

theorem timeOfTicks_none {ticks : Nat} (hl : ticksPerDay ≤ ticks) (hu : ticks < 2 ^ 40) :
    timeOfTicks ticks = .ok none := by
  unfold ticksPerDay at hl
  rw [timeOfTicks_eq hu]
  cases ht : Chrono.fromNumSecondsFromMidnightOpt (ticks / 10 ^ 7) (ticks % 10 ^ 7 * 100) with
  | none => rfl
  | some t =>
    have hs := ((Chrono.time_eq_iff _ _ _).mp ht).1.1
    have hlt := seconds_lt t
    omega

/-- What the ticks of a time of day decode to. -/
theorem timeOfTicks_encoded {t : NaiveTime} {st : SqlTime} (h : NoLeap t)
    (hst : ToSql.naiveTimeToSql t = .ok st) :
    ∃ t', timeOfTicks st.timeNanoseconds = .ok (some t') ∧ TruncatesTo t t' := by
  obtain ⟨st', hst', hday, hsecs, hnanos⟩ := ToSql.naiveTimeToSql_ofDay h
  cases hst.symm.trans hst'
  obtain ⟨t', ht', hs, hn⟩ := timeOfTicks_some hday.ticks
  exact ⟨t', ht', hs.trans hsecs, hn.trans (by rw [hnanos])⟩

theorem dateTimeOf_eq (dt : SqlDateTime2) {d : NaiveDate} {r : Option NaiveTime}
    (hd : dateOfDays dt.days = .ok (some d)) (ht : timeOfTicks dt.time.timeNanoseconds = .ok r) :
    dateTimeOf dt = .ok (r.map (NaiveDateTime.mk d)) := by
  simp only [dateTimeOf, hd, ht, Lib.Compute.ok_bind]
  rfl

end FromSql

theorem ToSql.naiveTimeToSql_decoded {st : SqlTime} (h : st.OfDay) :
    ∃ t, FromSql.timeOfTicks st.timeNanoseconds = .ok (some t) ∧ naiveTimeToSql t = .ok st := by
  obtain ⟨t, ht, hs, hn⟩ := FromSql.timeOfTicks_some h.ticks
  refine ⟨t, ht, ?_⟩
  have hticks : (st.timeNanoseconds / 10 ^ 7 * 1000000000 +
      st.timeNanoseconds % 10 ^ 7 * 100) / 100 = st.timeNanoseconds := by omega
  rw [naiveTimeToSql_eq, hs, hn, hticks, ← h.scale]

/-- An encoded offset, in whole minutes. -/
theorem offset_minutes (o : FixedOffset) :
    Lib.asSigned 16 ((Chrono.localMinusUtc o).tdiv 60) = (Chrono.localMinusUtc o).tdiv 60 ∧
      -1440 < (Chrono.localMinusUtc o).tdiv 60 ∧ (Chrono.localMinusUtc o).tdiv 60 < 1440 := by
  obtain ⟨hl, hu⟩ := offset_range o
  have hrange : -1440 < (Chrono.localMinusUtc o).tdiv 60 ∧
      (Chrono.localMinusUtc o).tdiv 60 < 1440 := by
    rcases le_or_gt 0 (Chrono.localMinusUtc o) with h | h
    · rw [Int.tdiv_eq_ediv_of_nonneg h]
      omega
    · have hneg := Int.neg_tdiv (Chrono.localMinusUtc o) 60
      rw [Int.tdiv_eq_ediv_of_nonneg (by omega)] at hneg
      omega
  exact ⟨asSigned_of_range (by omega) (by omega), hrange⟩

theorem offset_decoded {m : Int} (h : -1440 < m ∧ m < 1440) :
    ∃ o, Lib.mulSigned 32 m 60 = .ok (m * 60) ∧ Chrono.eastOpt (m * 60) = some o ∧
      Chrono.localMinusUtc o = m * 60 := by
  obtain ⟨o, ho⟩ := @exists_offset _ (m * 60) (by omega)
  exact ⟨o, mulSigned_ok (by omega), ho⟩

section

variable [MssqlTds]

namespace ToSql

variable {d : NaiveDate} {dt : NaiveDateTime}

theorem naiveDateToSql_ok (h : InSqlRange d) :
    ∃ sd, naiveDateToSql d = .ok sd ∧ (MssqlTds.getDays sd : Int) + 1 = Chrono.numDaysFromCe d := by
  obtain ⟨hl, hu⟩ := h
  have hlast : (lastSqlDay : Int) = 3652058 := rfl
  have hsub : Lib.subSigned 32 (Chrono.numDaysFromCe d) 1 = .ok (Chrono.numDaysFromCe d - 1) :=
    subSigned_ok (by omega)
  have htry : Lib.tryUnsigned 32 (Chrono.numDaysFromCe d - 1) =
      some (Chrono.numDaysFromCe d - 1).toNat := tryUnsigned_some (by omega)
  obtain ⟨sd, hsd⟩ := MssqlTds.createDate_accepts (Chrono.numDaysFromCe d - 1).toNat (by omega)
  have hdays := ((MssqlTds.createDate_ok_iff _ _).mp hsd).2
  refine ⟨sd, ?_, by omega⟩
  simp only [naiveDateToSql, hsub, Lib.Compute.ok_bind, htry, Lib.Compute.expect_some, hsd]
  rfl

theorem naiveDateToSql_refused (h : ¬InSqlRange d) :
    naiveDateToSql d = .error (.expect dateOutOfRange) := by
  have hday := day_range d
  unfold firstChronoDay lastChronoDay at hday
  have hsub : Lib.subSigned 32 (Chrono.numDaysFromCe d) 1 = .ok (Chrono.numDaysFromCe d - 1) :=
    subSigned_ok (by omega)
  simp only [naiveDateToSql, hsub, Lib.Compute.ok_bind]
  cases hdays : Lib.tryUnsigned 32 (Chrono.numDaysFromCe d - 1) with
  | none => rfl
  | some days =>
    rw [Lib.Compute.expect_some, Lib.Compute.ok_bind]
    cases hdate : MssqlTds.createDate days with
    | error e => rfl
    | ok date =>
      have hlast := ((MssqlTds.createDate_ok_iff _ _).mp hdate).1
      obtain ⟨hpos, -, heq⟩ := Lib.tryUnsigned_eq_some hdays
      refine absurd ?_ h
      unfold InSqlRange
      omega

theorem naiveDtToSql_inRange (hd : InSqlRange dt.date) : naiveDtToSql dt = do
    let time ← naiveTimeToSql dt.time
    return { days := (Chrono.numDaysFromCe dt.date - 1).toNat, time } := by
  obtain ⟨sd, hsd, hdays⟩ := naiveDateToSql_ok hd
  have hn : MssqlTds.getDays sd = (Chrono.numDaysFromCe dt.date - 1).toNat := by omega
  simp only [naiveDtToSql, hsd, Lib.Compute.ok_bind, hn]

theorem naiveDtToSql_refused (hd : ¬InSqlRange dt.date) :
    naiveDtToSql dt = .error (.expect dateOutOfRange) := by
  rw [naiveDtToSql, naiveDateToSql_refused hd, Lib.Compute.error_bind]

theorem naiveDtToSql_ok (hd : InSqlRange dt.date) (ht : NoLeap dt.time) :
    ∃ st, naiveDtToSql dt = .ok { days := (Chrono.numDaysFromCe dt.date - 1).toNat, time := st } ∧
      naiveTimeToSql dt.time = .ok st := by
  obtain ⟨st, hst, -⟩ := naiveTimeToSql_ofDay ht
  refine ⟨st, ?_, hst⟩
  rw [naiveDtToSql_inRange hd, hst]
  rfl

end ToSql

namespace FromSql

theorem dateTimeOf_encoded {dt : NaiveDateTime} (hd : InSqlRange dt.date) (ht : NoLeap dt.time) :
    ∃ st dt', ToSql.naiveDtToSql dt = .ok st ∧ dateTimeOf st = .ok (some dt') ∧
      dt.TruncatesTo dt' := by
  obtain ⟨st, hst, htime⟩ := ToSql.naiveDtToSql_ok hd ht
  obtain ⟨t', ht', htrunc⟩ := timeOfTicks_encoded ht htime
  obtain ⟨hl, hu⟩ := hd
  have hlast : (lastSqlDay : Int) = 3652058 := rfl
  have hdate : dateOfDays (Chrono.numDaysFromCe dt.date - 1).toNat = .ok (some dt.date) :=
    dateOfDays_eq (by omega) (by omega)
  refine ⟨_, ⟨dt.date, t'⟩, hst, ?_, rfl, htrunc⟩
  have h := dateTimeOf_eq ⟨(Chrono.numDaysFromCe dt.date - 1).toNat, st⟩ hdate ht'
  exact h

end FromSql

namespace ToSql

theorem naiveDtToSql_decoded {st : SqlDateTime2} (hd : st.days ≤ lastSqlDay)
    (h : st.time.OfDay) :
    ∃ dt, FromSql.dateTimeOf st = .ok (some dt) ∧ naiveDtToSql dt = .ok st := by
  unfold lastSqlDay at hd
  obtain ⟨d, hdate, hdays⟩ := @FromSql.dateOfDays_ok _ st.days (by omega)
  obtain ⟨t, ht, hst⟩ := naiveTimeToSql_decoded h
  have hrange : InSqlRange d := by
    unfold InSqlRange lastSqlDay
    omega
  obtain ⟨sd, hsd, hsdays⟩ := naiveDateToSql_ok hrange
  have heq : MssqlTds.getDays sd = st.days := by omega
  refine ⟨⟨d, t⟩, FromSql.dateTimeOf_eq st hdate ht, ?_⟩
  simp only [naiveDtToSql, hsd, hst, Lib.Compute.ok_bind, heq]
  rfl

end ToSql

theorem FromSql.dateTimeFixedOffset_eq {st : SqlDateTimeOffset} {r : Option NaiveDateTime}
    (hdt : dateTimeOf st.datetime2 = .ok r)
    (hmul : Lib.mulSigned 32 st.offset 60 = .ok (st.offset * 60)) :
    dateTimeFixedOffset (.dateTimeOffset st) =
      .ok (r.bind fun naive => (Chrono.eastOpt (st.offset * 60)).map (DateTime.mk naive)) := by
  simp only [dateTimeFixedOffset, hdt, Lib.Compute.ok_bind]
  cases r with
  | none => rfl
  | some naive => simp only [hmul, Lib.Compute.ok_bind]; rfl

/-- The cell a temporal parameter's payload is read back from. -/
def SqlType.temporalCell : SqlType → Option ColumnValues
  | .date (some v) => some (.date v)
  | .time (some v) => some (.time v)
  | .dateTime2 (some v) => some (.dateTime2 v)
  | .dateTimeOffset (some v) => some (.dateTimeOffset v)
  | _ => none

/-- Encoded natively and decoded natively from the same payload, `v` becomes `v'`. -/
def DecodesTo {α β : Type} (toSql : Encoder α) (fromSql : Decoder β) (v : α) (v' : β) : Prop :=
  ∃ payload cell, toSql v = .ok payload ∧ payload.temporalCell = some cell ∧
    fromSql cell = .ok (some v')

/-- By `IntoSql` and `FromSqlOwned`, `v` becomes `v'`. -/
def CompatDecodesTo {α β : Type} (toSql : Encoder α) (compat : CompatDecoder β) (v : α)
    (v' : β) : Prop :=
  ∃ value, IntoSql.native toSql v = .ok value ∧ compat value = .ok (.ok (some v'))

omit [Chrono] in
theorem temporalCell_compat {payload : SqlType} {cell : ColumnValues}
    (h : payload.temporalCell = some cell) :
    (ColumnData.fromNative payload).intoColumnValue = .ok cell ∧ cell ≠ .null := by
  unfold SqlType.temporalCell at h
  split at h <;> cases h
  all_goals exact ⟨rfl, by simp⟩

omit [Chrono] in
/-- What the native path decodes, an exact target that accepts the value decodes too. -/
theorem DecodesTo.compat {α β : Type} {toSql : Encoder α} {fromSql : Decoder β} {v : α} {v' : β}
    {typeName : String} {accepts : ColumnData → Bool} (h : DecodesTo toSql fromSql v v')
    (ha : ∀ payload, toSql v = .ok payload → accepts (.fromNative payload) = true) :
    CompatDecodesTo toSql (fromColumnDataExact typeName accepts fromSql) v v' := by
  obtain ⟨payload, cell, hp, hcell, hv⟩ := h
  obtain ⟨hc, hn⟩ := temporalCell_compat hcell
  refine ⟨.fromNative payload, ?_, ?_⟩
  · rw [IntoSql.native, hp]
    rfl
  · rw [fromColumnDataExact, if_pos (ha payload hp), decodeOwned_some hc hn hv]

omit [Chrono] in
/-- The same where the payload is always of one constructor, which the target accepts. -/
theorem DecodesTo.compat_built {α β τ : Type} {toSql : Encoder α} {fromSql : Decoder β} {v : α}
    {v' : β} {typeName : String} {accepts : ColumnData → Bool} {parts : Compute τ}
    {build : τ → SqlType} (h : DecodesTo toSql fromSql v v')
    (hbuild : toSql v = parts >>= fun x => pure (build x))
    (ha : ∀ x, accepts (.fromNative (build x)) = true) :
    CompatDecodesTo toSql (fromColumnDataExact typeName accepts fromSql) v v' := by
  refine h.compat fun payload hp => ?_
  rw [hbuild] at hp
  obtain ⟨x, -, hx⟩ := Lib.Compute.bind_ok hp
  cases hx
  exact ha x

theorem date_round_trip {d : NaiveDate} (h : InSqlRange d) :
    DecodesTo ToSql.naiveDate FromSql.naiveDate d d := by
  obtain ⟨sd, hsd, hdays⟩ := ToSql.naiveDateToSql_ok h
  obtain ⟨hl, hu⟩ := h
  have hlast : (lastSqlDay : Int) = 3652058 := rfl
  refine ⟨.date (some sd), .date sd, ?_, rfl, FromSql.dateOfDays_eq (by omega) hdays⟩
  rw [ToSql.naiveDate, hsd]
  rfl

theorem time_round_trip {t : NaiveTime} (h : NoLeap t) :
    ∃ t', TruncatesTo t t' ∧ DecodesTo ToSql.naiveTime FromSql.naiveTime t t' := by
  obtain ⟨st, hst, -⟩ := ToSql.naiveTimeToSql_ofDay h
  obtain ⟨t', ht', htrunc⟩ := FromSql.timeOfTicks_encoded h hst
  refine ⟨t', htrunc, .time (some st), .time st, ?_, rfl, ht'⟩
  rw [ToSql.naiveTime, hst]
  rfl

theorem dateTime_round_trip {dt : NaiveDateTime} (hd : InSqlRange dt.date)
    (ht : NoLeap dt.time) :
    ∃ dt', dt.TruncatesTo dt' ∧ DecodesTo ToSql.naiveDateTime FromSql.naiveDateTime dt dt' := by
  obtain ⟨st, dt', hst, hdt', htrunc⟩ := FromSql.dateTimeOf_encoded hd ht
  refine ⟨dt', htrunc, .dateTime2 (some st), .dateTime2 st, ?_, rfl, hdt'⟩
  rw [ToSql.naiveDateTime, hst]
  rfl

theorem fixedOffset_round_trip {dt : DateTime FixedOffset} (hd : InSqlRange dt.naiveUtc.date)
    (ht : NoLeap dt.naiveUtc.time) :
    ∃ dt' : DateTime FixedOffset, dt.naiveUtc.TruncatesTo dt'.naiveUtc ∧
      Chrono.localMinusUtc dt'.offset = (Chrono.localMinusUtc dt.offset).tdiv 60 * 60 ∧
      DecodesTo ToSql.dateTimeFixedOffset FromSql.dateTimeFixedOffset dt dt' := by
  obtain ⟨st, n, hst, hn, htrunc⟩ := FromSql.dateTimeOf_encoded hd ht
  obtain ⟨hcast, hrange⟩ := offset_minutes dt.offset
  obtain ⟨m, hm⟩ : ∃ m, (Chrono.localMinusUtc dt.offset).tdiv 60 = m := ⟨_, rfl⟩
  rw [hm] at hcast hrange
  obtain ⟨o, hmul, ho, hlocal⟩ := offset_decoded hrange
  have henc : ToSql.dateTimeFixedOffset dt = .ok (.dateTimeOffset (some ⟨st, m⟩)) := by
    simp only [ToSql.dateTimeFixedOffset, hst, hm, hcast, Lib.Compute.ok_bind]
    rfl
  have hdec : FromSql.dateTimeFixedOffset (.dateTimeOffset ⟨st, m⟩) = .ok (some ⟨n, o⟩) := by
    rw [@FromSql.dateTimeFixedOffset_eq _ _ ⟨st, m⟩ _ hn hmul, Option.bind_some, ho]
    rfl
  refine ⟨⟨n, o⟩, htrunc, ?_, ⟨_, _, henc, rfl, hdec⟩⟩
  rw [hm]
  exact hlocal

/-- A `DateTime<Utc>` reads back natively at the offset zero. -/
theorem utc_round_trip {dt : DateTime Utc} (hd : InSqlRange dt.naiveUtc.date)
    (ht : NoLeap dt.naiveUtc.time) :
    ∃ dt' : DateTime FixedOffset, dt.naiveUtc.TruncatesTo dt'.naiveUtc ∧
      Chrono.localMinusUtc dt'.offset = 0 ∧
      DecodesTo ToSql.dateTimeUtc FromSql.dateTimeFixedOffset dt dt' ∧
      CompatDecodesTo ToSql.dateTimeUtc Compat.dateTimeUtc dt ⟨dt'.naiveUtc, .utc⟩ := by
  obtain ⟨st, n, hst, hn, htrunc⟩ := FromSql.dateTimeOf_encoded hd ht
  obtain ⟨o, hmul, ho, hlocal⟩ := offset_decoded (m := 0) (by decide)
  have hdec : FromSql.dateTimeFixedOffset (.dateTimeOffset ⟨st, 0⟩) = .ok (some ⟨n, o⟩) := by
    rw [@FromSql.dateTimeFixedOffset_eq _ _ ⟨st, 0⟩ _ hn hmul, Option.bind_some, ho]
    rfl
  have henc : ToSql.dateTimeUtc dt = .ok (.dateTimeOffset (some ⟨st, 0⟩)) := by
    simp only [ToSql.dateTimeUtc, hst, Lib.Compute.ok_bind]
    rfl
  refine ⟨⟨n, o⟩, htrunc, hlocal, ⟨_, _, henc, rfl, hdec⟩, .dateTimeOffset (some ⟨st, 0⟩), ?_, ?_⟩
  · rw [IntoSql.native, henc]
    rfl
  · have hown := @decodeOwned_some _ _ Compat.fixedOffsetName _ (.dateTimeOffset (some ⟨st, 0⟩)) _ _
      rfl (by simp) hdec
    simp only [Compat.dateTimeUtc, hown, Lib.Compute.ok_bind]
    rfl

theorem time_payload {st : SqlTime} (h : st.OfDay) :
    ∃ t, FromSql.naiveTime (.time st) = .ok (some t) ∧
      ToSql.naiveTime t = .ok (.time (some st)) := by
  obtain ⟨t, ht, hst⟩ := ToSql.naiveTimeToSql_decoded h
  refine ⟨t, ht, ?_⟩
  rw [ToSql.naiveTime, hst]
  rfl

theorem dateTime2_payload {st : SqlDateTime2} (hd : st.days ≤ lastSqlDay) (h : st.time.OfDay) :
    ∃ dt, FromSql.naiveDateTime (.dateTime2 st) = .ok (some dt) ∧
      ToSql.naiveDateTime dt = .ok (.dateTime2 (some st)) := by
  obtain ⟨dt, hdt, hst⟩ := ToSql.naiveDtToSql_decoded hd h
  refine ⟨dt, hdt, ?_⟩
  rw [ToSql.naiveDateTime, hst]
  rfl

theorem dateTimeOffset_payload {st : SqlDateTimeOffset} (hd : st.datetime2.days ≤ lastSqlDay)
    (h : st.datetime2.time.OfDay) (ho : -1440 < st.offset ∧ st.offset < 1440) :
    ∃ dt, FromSql.dateTimeFixedOffset (.dateTimeOffset st) = .ok (some dt) ∧
      ToSql.dateTimeFixedOffset dt = .ok (.dateTimeOffset (some st)) := by
  obtain ⟨n, hn, hst⟩ := ToSql.naiveDtToSql_decoded hd h
  obtain ⟨o, hmul, hopt, hlocal⟩ := offset_decoded ho
  have hminutes : (Chrono.localMinusUtc o).tdiv 60 = st.offset := by
    rw [hlocal]
    exact Int.mul_tdiv_cancel _ (by decide)
  have hcast := (offset_minutes o).1
  rw [hminutes] at hcast
  refine ⟨⟨n, o⟩, ?_, ?_⟩
  · rw [FromSql.dateTimeFixedOffset_eq hn hmul, Option.bind_some, hopt]
    rfl
  · simp only [ToSql.dateTimeFixedOffset, hst, hminutes, hcast, Lib.Compute.ok_bind]
    rfl

omit [MssqlTds] in
/-- Ticks of five bytes always decode, to no time exactly when they exceed a day. -/
theorem FromSql.timeOfTicks_wide {ticks : Nat} (h : ticks < 2 ^ 40) :
    ∃ r, timeOfTicks ticks = .ok r ∧ (r = none ↔ ticksPerDay ≤ ticks) := by
  rcases lt_or_ge ticks ticksPerDay with hlt | hge
  · obtain ⟨t, ht, -⟩ := timeOfTicks_some hlt
    refine ⟨some t, ht, ?_⟩
    simpa using hlt
  · exact ⟨none, timeOfTicks_none hge h, iff_of_true rfl hge⟩

omit [MssqlTds] in
theorem FromSql.dateTimeOf_wide {st : SqlDateTime2} (hd : st.days < 2 ^ 24)
    (ht : st.time.timeNanoseconds < 2 ^ 40) :
    ∃ r, dateTimeOf st = .ok r ∧ (r = none ↔ ticksPerDay ≤ st.time.timeNanoseconds) := by
  obtain ⟨d, hdate, -⟩ := dateOfDays_ok hd
  obtain ⟨r, hr, hnone⟩ := timeOfTicks_wide ht
  exact ⟨_, dateTimeOf_eq st hdate hr, by rw [Option.map_eq_none_iff, hnone]⟩

theorem dateTimeOffset_wide {st : SqlDateTimeOffset} (hd : st.datetime2.days < 2 ^ 24)
    (ht : st.datetime2.time.timeNanoseconds < 2 ^ 40)
    (ho : -2 ^ 15 ≤ st.offset ∧ st.offset < 2 ^ 15) :
    ∃ r, FromSql.dateTimeFixedOffset (.dateTimeOffset st) = .ok r ∧
      (r = none ↔ ticksPerDay ≤ st.datetime2.time.timeNanoseconds ∨ 1440 ≤ |st.offset|) := by
  obtain ⟨r, hr, hnone⟩ := FromSql.dateTimeOf_wide hd ht
  have hmul : Lib.mulSigned 32 st.offset 60 = .ok (st.offset * 60) := mulSigned_ok (by omega)
  refine ⟨_, FromSql.dateTimeFixedOffset_eq hr hmul, ?_⟩
  cases r with
  | none => exact iff_of_true rfl (.inl (hnone.mp rfl))
  | some n =>
    have hticks : ¬ ticksPerDay ≤ st.datetime2.time.timeNanoseconds := by
      rw [← hnone]
      simp
    rcases le_or_gt 1440 |st.offset| with hge | hlt
    · have hnope : Chrono.eastOpt (st.offset * 60) = none := by
        apply no_offset
        rcases le_abs.mp hge with h | h <;> omega
      rw [Option.bind_some, hnope]
      exact iff_of_true rfl (.inr hge)
    · obtain ⟨hl, hu⟩ := abs_lt.mp hlt
      obtain ⟨o, -, hopt, -⟩ := offset_decoded ⟨hl, hu⟩
      rw [Option.bind_some, hopt]
      refine iff_of_false (by simp) ?_
      rintro (h | h)
      · exact hticks h
      · exact absurd h (not_le.mpr hlt)

/-- Both directions, natively and through a compatibility value. -/
structure TemporalRoundTrips : Prop where
  date : ∀ d, InSqlRange d → DecodesTo ToSql.naiveDate FromSql.naiveDate d d ∧
    CompatDecodesTo ToSql.naiveDate Compat.naiveDate d d
  time : ∀ t, NoLeap t → ∃ t', TruncatesTo t t' ∧
    DecodesTo ToSql.naiveTime FromSql.naiveTime t t' ∧
    CompatDecodesTo ToSql.naiveTime Compat.naiveTime t t'
  dateTime : ∀ dt : NaiveDateTime, InSqlRange dt.date → NoLeap dt.time →
    ∃ dt', dt.TruncatesTo dt' ∧ DecodesTo ToSql.naiveDateTime FromSql.naiveDateTime dt dt' ∧
      CompatDecodesTo ToSql.naiveDateTime Compat.naiveDateTime dt dt'
  /-- The offset is cut to whole minutes, towards zero. -/
  fixedOffset : ∀ dt : DateTime FixedOffset, InSqlRange dt.naiveUtc.date →
    NoLeap dt.naiveUtc.time → ∃ dt' : DateTime FixedOffset,
      dt.naiveUtc.TruncatesTo dt'.naiveUtc ∧
      Chrono.localMinusUtc dt'.offset = (Chrono.localMinusUtc dt.offset).tdiv 60 * 60 ∧
      (60 ∣ Chrono.localMinusUtc dt.offset → dt'.offset = dt.offset) ∧
      DecodesTo ToSql.dateTimeFixedOffset FromSql.dateTimeFixedOffset dt dt' ∧
      CompatDecodesTo ToSql.dateTimeFixedOffset Compat.dateTimeFixedOffset dt dt'
  utc : ∀ dt : DateTime Utc, InSqlRange dt.naiveUtc.date → NoLeap dt.naiveUtc.time →
    ∃ dt' : DateTime FixedOffset, dt.naiveUtc.TruncatesTo dt'.naiveUtc ∧
      Chrono.localMinusUtc dt'.offset = 0 ∧
      DecodesTo ToSql.dateTimeUtc FromSql.dateTimeFixedOffset dt dt' ∧
      CompatDecodesTo ToSql.dateTimeUtc Compat.dateTimeUtc dt ⟨dt'.naiveUtc, .utc⟩
  timePayload : ∀ st : SqlTime, st.OfDay → ∃ t,
    FromSql.naiveTime (.time st) = .ok (some t) ∧ ToSql.naiveTime t = .ok (.time (some st))
  dateTime2Payload : ∀ st : SqlDateTime2, st.days ≤ lastSqlDay → st.time.OfDay → ∃ dt,
    FromSql.naiveDateTime (.dateTime2 st) = .ok (some dt) ∧
      ToSql.naiveDateTime dt = .ok (.dateTime2 (some st))
  dateTimeOffsetPayload : ∀ st : SqlDateTimeOffset, st.datetime2.days ≤ lastSqlDay →
    st.datetime2.time.OfDay → -1440 < st.offset ∧ st.offset < 1440 → ∃ dt,
      FromSql.dateTimeFixedOffset (.dateTimeOffset st) = .ok (some dt) ∧
        ToSql.dateTimeFixedOffset dt = .ok (.dateTimeOffset (some st))
  /-- Within the widths of the wire format, nothing overflows. -/
  timeWide : ∀ st : SqlTime, st.timeNanoseconds < 2 ^ 40 → ∃ r,
    FromSql.naiveTime (.time st) = .ok r ∧ (r = none ↔ ticksPerDay ≤ st.timeNanoseconds)
  dateTime2Wide : ∀ st : SqlDateTime2, st.days < 2 ^ 24 → st.time.timeNanoseconds < 2 ^ 40 →
    (∃ d, FromSql.naiveDate (.dateTime2 st) = .ok (some d)) ∧
    ∃ r, FromSql.naiveDateTime (.dateTime2 st) = .ok r ∧
      (r = none ↔ ticksPerDay ≤ st.time.timeNanoseconds)
  dateTimeOffsetWide : ∀ st : SqlDateTimeOffset, st.datetime2.days < 2 ^ 24 →
    st.datetime2.time.timeNanoseconds < 2 ^ 40 → -2 ^ 15 ≤ st.offset ∧ st.offset < 2 ^ 15 →
      ∃ r, FromSql.dateTimeFixedOffset (.dateTimeOffset st) = .ok r ∧
        (r = none ↔ ticksPerDay ≤ st.datetime2.time.timeNanoseconds ∨ 1440 ≤ |st.offset|)

theorem temporal_round_trips : TemporalRoundTrips := by
  refine ⟨?_, ?_, ?_, ?_, fun dt hd ht => utc_round_trip hd ht, fun st h => time_payload h,
    fun st hd h => dateTime2_payload hd h, fun st hd h ho => dateTimeOffset_payload hd h ho,
    fun st h => FromSql.timeOfTicks_wide h, ?_, fun st hd ht ho => dateTimeOffset_wide hd ht ho⟩
  · intro d hd
    have h := date_round_trip hd
    exact ⟨h, h.compat_built rfl fun _ => rfl⟩
  · intro t ht
    obtain ⟨t', htrunc, h⟩ := time_round_trip ht
    exact ⟨t', htrunc, h, h.compat_built rfl fun _ => rfl⟩
  · intro dt hd ht
    obtain ⟨dt', htrunc, h⟩ := dateTime_round_trip hd ht
    exact ⟨dt', htrunc, h, h.compat_built rfl fun _ => rfl⟩
  · intro dt hd ht
    obtain ⟨dt', htrunc, hoff, h⟩ := fixedOffset_round_trip hd ht
    refine ⟨dt', htrunc, hoff, ?_, h, h.compat_built rfl fun _ => rfl⟩
    intro hdvd
    apply offset_ext
    rw [hoff, Int.tdiv_mul_cancel hdvd]
  · intro st hd ht
    obtain ⟨d, hdate, -⟩ := FromSql.dateOfDays_ok hd
    exact ⟨⟨d, hdate⟩, FromSql.dateTimeOf_wide hd ht⟩

end

end TiberiusBridge

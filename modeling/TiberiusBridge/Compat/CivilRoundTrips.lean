import TiberiusBridge.Compat.ReadChannels
import TiberiusBridge.Convert.Instants

/-!
# Round trips of the optional libraries

A date of `time` or of `jiff` is read back as the same civil date, a time of day
cut to 100 nanoseconds, and a value with an instant as that instant, cut to 100
nanoseconds, at its whole minutes of offset.
-/
namespace TiberiusBridge

open Lib (Compute CivilDate CivilTime CivilDateTime epochDay dayNanos asSigned_of_range)

/-- The same time of day, rounded down to a multiple of 100 nanoseconds. -/
def CivilTruncatesTo (c c' : CivilTime) : Prop := c'.nanos = c.nanos / 100 * 100

/-- The seconds of an offset of less than a day. -/
def WithinDay (s : Int) : Prop := -86400 < s ∧ s < 86400

/-- An offset of less than a day has the minutes that a `DATETIMEOFFSET` may have. -/
theorem minutes_lt {s : Int} (hs : WithinDay s) :
    -1440 < s.tdiv 60 ∧ s.tdiv 60 < 1440 := by
  have hminutes := minutes_between s
  unfold WithinDay at hs
  omega

/-- Cut to 100 nanoseconds and whole minutes, a local time is no later than it was, or than UTC. -/
theorem commonYears_truncated {n s : Int} (hn : SqlInstant n) (hs : WithinDay s)
    (hlocal : CommonYears (CivilDateTime.ofInstant (n + s * 1000000000)).date) :
    CommonYears (CivilDateTime.ofInstant (n / 100 * 100)).date ∧
      CommonYears (CivilDateTime.ofInstant
        (n / 100 * 100 + s.tdiv 60 * nanosPerMinute)).date := by
  have hminutes := minutes_between s
  have hsql := (sqlInstant_iff n).mp hn
  rw [commonYears_ofInstant] at *
  rw [commonYears_ofInstant]
  unfold WithinDay at hs
  unfold CivilDateTime.dayOf epochDay dayNanos at *
  unfold nanosPerMinute
  omega

/-- An instant that a timestamp has is one cut to 100 nanoseconds. -/
theorem inTimestamps_truncated [Jiff] [JiffFields] [JiffCivil] [JiffInstants]
    (t : Jiff.Timestamp) : InTimestamps (JiffInstants.instant t / 100 * 100) := by
  have hrange := JiffInstants.instant_range t
  unfold InTimestamps
  omega

section

variable [Chrono] [ChronoFields] [ChronoCivil]

namespace FromSql

omit [ChronoFields] [ChronoCivil] in
/-- The ticks of a civil time are those of a chrono time. -/
theorem timeOfTicks_civil (c : CivilTime) : ∃ t,
    timeOfTicks (encodedCivilTime c).timeNanoseconds = .ok (some t) ∧ NoLeap t ∧
      Chrono.numSecondsFromMidnight t * 1000000000 + Chrono.nanosecond t = c.nanos / 100 * 100 := by
  have hticks : c.nanos / 100 < ticksPerDay := by
    have hlt := c.nanos_lt
    unfold dayNanos at hlt
    unfold ticksPerDay
    omega
  obtain ⟨t, ht, hsecs, hnanos⟩ := timeOfTicks_some hticks
  refine ⟨t, ht, ?_, ?_⟩
  · show Chrono.nanosecond t < 10 ^ 9
    omega
  · omega

/-- The days of a civil date are those of the chrono date that stands for it. -/
theorem dateOfDays_civil [MssqlTds] {c : CivilDate} (h : SqlYears c) : ∃ sd d,
    encodedDate c = .ok sd ∧ dateOfDays (MssqlTds.getDays sd) = .ok (some d) ∧
      ChronoCivil.civilDate d = c := by
  obtain ⟨sd, hsd, hdays⟩ := encodedDate_ok h
  obtain ⟨hl, hu⟩ := (sqlYears_iff c).mp h
  obtain ⟨d, hd, hn⟩ := @dateOfDays_ok _ (MssqlTds.getDays sd) (by omega)
  refine ⟨sd, d, hsd, hd, ?_⟩
  rw [civilDate_eq, hn, hdays, CivilDate.ofDayNumber_dayNumber]

namespace Jiff

variable [Jiff] [JiffFields] [JiffCivil]

theorem dateFromChrono_some {d : NaiveDate} (h : CommonYears (ChronoCivil.civilDate d)) :
    ∃ d', dateFromChrono d = some d' ∧ JiffCivil.civilDate d' = ChronoCivil.civilDate d := by
  obtain ⟨hl, hu⟩ := h
  obtain ⟨d', hd'⟩ := (JiffCivil.date_exists _).mp ⟨hl, hu⟩
  have hsome : dateFromChrono d = some d' := by
    rw [jiffDate_eq, @asSigned_of_range 15 _ (by omega) (by omega)]
    exact hd'
  refine ⟨d', hsome, (jiffDate_same_iff d).mpr ?_ d' hsome⟩
  rintro ⟨hyear, -⟩
  exact hyear (by omega)

omit [ChronoFields] [ChronoCivil] in
theorem timeFromChrono_some {t : NaiveTime} (h : NoLeap t) :
    ∃ t', timeFromChrono t = some t' ∧ (JiffCivil.civilTime t').nanos =
      Chrono.numSecondsFromMidnight t * 1000000000 + Chrono.nanosecond t := by
  obtain ⟨hhour, hminute, hsecond⟩ := fields_lt t
  have hnanos : Chrono.nanosecond t < 10 ^ 9 := h
  obtain ⟨t', ht'⟩ := JiffCivil.time_exists
    ⟨hour t, minute t, second t, Chrono.nanosecond t, hhour, hminute, hsecond, h⟩
  have hsome : timeFromChrono t = some t' := by
    rw [timeFromChrono, @asSigned_of_range 7 _ (by omega) (by omega),
      @asSigned_of_range 7 _ (by omega) (by omega), @asSigned_of_range 7 _ (by omega) (by omega),
      @asSigned_of_range 31 _ (by omega) (by omega)]
    exact ht'
  obtain ⟨hh, hm, hs, hn⟩ := jiffTime_same hsome
  refine ⟨t', hsome, ?_⟩
  unfold hour at hh
  unfold minute at hm
  unfold second at hs
  unfold CivilTime.nanos
  omega

theorem dateTimeFromChrono_some {dt : NaiveDateTime} {d : Jiff.Date} {t : Jiff.Time}
    (hd : dateFromChrono dt.date = some d) (ht : timeFromChrono dt.time = some t) :
    ∃ dt', dateTimeFromChrono dt = some dt' ∧ JiffFields.date dt' = d ∧
      JiffFields.time dt' = t := by
  obtain ⟨dt', hdt'⟩ := JiffCivil.dateTime_exists _ _ _ _ _ _ _ _ _ hd ht
  obtain ⟨hdate, htime⟩ := jiffDateTime_some hdt'
  rw [hd] at hdate
  rw [ht] at htime
  exact ⟨dt', hdt', (Option.some.inj hdate).symm, (Option.some.inj htime).symm⟩

end Jiff

end FromSql

section

variable [MssqlTds]

/-- A value encoded by its civil date, and decoded through the chrono date that stands for it. -/
theorem DecodesTo.ofCivilDate {α : Type} {toSql : Encoder α} {f : NaiveDate → Option α} {v : α}
    {Same : α → Prop} {c : CivilDate} (hc : SqlYears c)
    (hto : toSql v = do return .date (some (← encodedDate c)))
    (hf : ∀ d, ChronoCivil.civilDate d = c → ∃ v', f d = some v' ∧ Same v') :
    ∃ v', Same v' ∧
      DecodesTo toSql (FromSql.andThen FromSql.naiveDate fun d => return f d) v v' := by
  obtain ⟨sd, d, hsd, hd, hdate⟩ := FromSql.dateOfDays_civil hc
  obtain ⟨v', hv', hsame⟩ := hf d hdate
  refine ⟨v', hsame, .date (some sd), .date sd, ?_, rfl, ?_⟩
  · rw [hto, hsd]
    rfl
  · rw [FromSql.andThen_ok (show FromSql.naiveDate (.date sd) = .ok (some d) from hd)]
    exact congrArg Except.ok hv'

omit [ChronoFields] [ChronoCivil] in
theorem DecodesTo.ofCivilTime {α : Type} {toSql : Encoder α} {f : NaiveTime → Option α} {v : α}
    {Same : α → Prop} (c : CivilTime) (hto : toSql v = .ok (.time (some (encodedCivilTime c))))
    (hf : ∀ t, NoLeap t → Chrono.numSecondsFromMidnight t * 1000000000 + Chrono.nanosecond t =
      c.nanos / 100 * 100 → ∃ v', f t = some v' ∧ Same v') :
    ∃ v', Same v' ∧
      DecodesTo toSql (FromSql.andThen FromSql.naiveTime fun t => return f t) v v' := by
  obtain ⟨t, ht, hleap, hnanos⟩ := FromSql.timeOfTicks_civil c
  obtain ⟨v', hv', hsame⟩ := hf t hleap hnanos
  refine ⟨v', hsame, _, .time (encodedCivilTime c), hto, rfl, ?_⟩
  rw [FromSql.andThen_ok (show FromSql.naiveTime (.time (encodedCivilTime c)) = .ok (some t) from ht)]
  exact congrArg Except.ok hv'

theorem DecodesTo.ofCivilDateTime {α : Type} {toSql : Encoder α} {f : NaiveDateTime → Option α}
    {v : α} {Same : α → Prop} (c : CivilDateTime) (hc : SqlYears c.date)
    (hto : toSql v = do return .dateTime2 (some (← ToSql.civilDtToSql c)))
    (hf : ∀ d t, ChronoCivil.civilDate d = c.date → NoLeap t →
      Chrono.numSecondsFromMidnight t * 1000000000 + Chrono.nanosecond t =
        c.time.nanos / 100 * 100 → ∃ v', f ⟨d, t⟩ = some v' ∧ Same v') :
    ∃ v', Same v' ∧
      DecodesTo toSql (FromSql.andThen FromSql.naiveDateTime fun dt => return f dt) v v' := by
  obtain ⟨sd, d, hsd, hd, hdate⟩ := FromSql.dateOfDays_civil hc
  obtain ⟨t, ht, hleap, hnanos⟩ := FromSql.timeOfTicks_civil c.time
  obtain ⟨v', hv', hsame⟩ := hf d t hdate hleap hnanos
  have hread := @FromSql.dateTimeOf_eq _ ⟨MssqlTds.getDays sd, encodedCivilTime c.time⟩ _ _ hd ht
  refine ⟨v', hsame, .dateTime2 (some ⟨MssqlTds.getDays sd, encodedCivilTime c.time⟩),
    .dateTime2 ⟨MssqlTds.getDays sd, encodedCivilTime c.time⟩, ?_, rfl, ?_⟩
  · rw [hto, ToSql.civilDtToSql, hsd]
    rfl
  · rw [FromSql.andThen_ok (show FromSql.naiveDateTime (.dateTime2 _) = .ok _ from hread)]
    exact congrArg Except.ok hv'

section TimeCrate

variable [TimeCrate] [TimeFields] [TimeCrateCivil] [TimeCrateInstants]

theorem timeDate_round_trip {d : TimeCrate.Date} (h : SqlYears (TimeCrateCivil.civilDate d)) :
    ∃ d', TimeCrateCivil.civilDate d' = TimeCrateCivil.civilDate d ∧
      DecodesTo ToSql.TimeCrate.date FromSql.TimeCrate.date d d' := by
  refine DecodesTo.ofCivilDate h ?_ fun date hdate => ?_
  · rw [ToSql.TimeCrate.date, ToSql.TimeCrate.dateToSql_civil]
  · rw [← hdate] at h ⊢
    exact FromSql.TimeCrate.dateFromChrono_some h.common

omit [ChronoFields] [ChronoCivil] in
theorem timeTime_round_trip (t : TimeCrate.Time) :
    ∃ t', CivilTruncatesTo (TimeCrateCivil.civilTime t) (TimeCrateCivil.civilTime t') ∧
      DecodesTo ToSql.TimeCrate.time FromSql.TimeCrate.time t t' := by
  refine DecodesTo.ofCivilTime (TimeCrateCivil.civilTime t) ?_ fun time hleap hnanos => ?_
  · rw [ToSql.TimeCrate.time, ToSql.TimeCrate.timeToSql_civil]
    rfl
  · obtain ⟨t', ht', heq⟩ := FromSql.TimeCrate.timeFromChrono_some hleap
    exact ⟨t', ht', heq.trans hnanos⟩

/-- The same civil date, and the time cut to 100 nanoseconds. -/
def PrimitiveDateTime.TruncatesTo (dt dt' : PrimitiveDateTime) : Prop :=
  TimeCrateCivil.civilDate dt'.date = TimeCrateCivil.civilDate dt.date ∧
    CivilTruncatesTo (TimeCrateCivil.civilTime dt.time) (TimeCrateCivil.civilTime dt'.time)

theorem primitiveDateTime_round_trip {dt : PrimitiveDateTime}
    (h : SqlYears (TimeCrateCivil.civilDate dt.date)) :
    ∃ dt', dt.TruncatesTo dt' ∧
      DecodesTo ToSql.TimeCrate.primitiveDateTime FromSql.TimeCrate.primitiveDateTime dt dt' := by
  refine DecodesTo.ofCivilDateTime
    ⟨TimeCrateCivil.civilDate dt.date, TimeCrateCivil.civilTime dt.time⟩ h ?_
    fun d t hdate hleap hnanos => ?_
  · rw [ToSql.TimeCrate.primitiveDateTime, ToSql.TimeCrate.primitiveDtToSql_civil]
  · have hcommon : CommonYears (ChronoCivil.civilDate d) := by
      rw [hdate]
      exact h.common
    obtain ⟨d', hd', hsame⟩ := FromSql.TimeCrate.dateFromChrono_some hcommon
    obtain ⟨t', ht', heq⟩ := FromSql.TimeCrate.timeFromChrono_some hleap
    refine ⟨⟨d', t'⟩, ?_, hsame.trans hdate, heq.trans hnanos⟩
    rw [FromSql.TimeCrate.primitiveFromChrono, hd', ht']
    rfl

end TimeCrate

section Jiff

variable [Jiff] [JiffFields] [JiffCivil]

theorem jiffDate_round_trip {d : Jiff.Date} (h : SqlYears (JiffCivil.civilDate d)) :
    ∃ d', JiffCivil.civilDate d' = JiffCivil.civilDate d ∧
      DecodesTo ToSql.Jiff.date FromSql.Jiff.date d d' := by
  refine DecodesTo.ofCivilDate h ?_ fun date hdate => ?_
  · rw [ToSql.Jiff.date, ToSql.Jiff.dateToSql_civil]
  · rw [← hdate] at h ⊢
    exact FromSql.Jiff.dateFromChrono_some h.common

omit [ChronoFields] [ChronoCivil] in
theorem jiffTime_round_trip (t : Jiff.Time) :
    ∃ t', CivilTruncatesTo (JiffCivil.civilTime t) (JiffCivil.civilTime t') ∧
      DecodesTo ToSql.Jiff.time FromSql.Jiff.time t t' := by
  refine DecodesTo.ofCivilTime (JiffCivil.civilTime t) ?_ fun time hleap hnanos => ?_
  · rw [ToSql.Jiff.time, ToSql.Jiff.timeToSql_civil]
    rfl
  · obtain ⟨t', ht', heq⟩ := FromSql.Jiff.timeFromChrono_some hleap
    exact ⟨t', ht', heq.trans hnanos⟩

/-- The same civil date, and the time cut to 100 nanoseconds. -/
def JiffTruncatesTo (dt dt' : Jiff.DateTime) : Prop :=
  JiffCivil.civilDate (JiffFields.date dt') = JiffCivil.civilDate (JiffFields.date dt) ∧
    CivilTruncatesTo (JiffCivil.civilTime (JiffFields.time dt))
      (JiffCivil.civilTime (JiffFields.time dt'))

theorem jiffDateTime_round_trip {dt : Jiff.DateTime}
    (h : SqlYears (JiffCivil.civilDate (JiffFields.date dt))) :
    ∃ dt', JiffTruncatesTo dt dt' ∧
      DecodesTo ToSql.Jiff.dateTime FromSql.Jiff.dateTime dt dt' := by
  refine DecodesTo.ofCivilDateTime
    ⟨JiffCivil.civilDate (JiffFields.date dt), JiffCivil.civilTime (JiffFields.time dt)⟩ h ?_
    fun d t hdate hleap hnanos => ?_
  · rw [ToSql.Jiff.dateTime, ToSql.Jiff.datetimeToSql_civil]
  · have hcommon : CommonYears (ChronoCivil.civilDate d) := by
      rw [hdate]
      exact h.common
    obtain ⟨d', hd', hsame⟩ := FromSql.Jiff.dateFromChrono_some hcommon
    obtain ⟨t', ht', heq⟩ := FromSql.Jiff.timeFromChrono_some hleap
    obtain ⟨dt', hdt', rfl, rfl⟩ :=
      @FromSql.Jiff.dateTimeFromChrono_some _ _ _ _ _ _ ⟨d, t⟩ _ _ hd' ht'
    exact ⟨dt', hdt', hsame.trans hdate, heq.trans hnanos⟩

end Jiff

omit [Chrono] [ChronoFields] [ChronoCivil] in
/-- An exact target of `DATETIMEOFFSET` decodes what a value with an instant was sent as. -/
theorem DecodesTo.compat_instant {α β : Type} {toSql : Encoder α} {fromSql : Decoder β} {v : α}
    {v' : β} {typeName : String} {accepts : ColumnData → Bool} {x : SqlDateTimeOffset}
    (hsent : toSql v = .ok (.dateTimeOffset (some x)))
    (hread : fromSql (.dateTimeOffset x) = .ok (some v'))
    (ha : accepts (.dateTimeOffset (some x)) = true) :
    DecodesTo toSql fromSql v v' ∧
      CompatDecodesTo toSql (fromColumnDataExact typeName accepts fromSql) v v' := by
  have hdecodes : DecodesTo toSql fromSql v v' := ⟨_, _, hsent, rfl, hread⟩
  refine ⟨hdecodes, hdecodes.compat fun payload hp => ?_⟩
  cases hsent.symm.trans hp
  exact ha

section

variable [TimeCrate] [TimeFields] [TimeCrateCivil] [TimeCrateInstants] [Jiff] [JiffFields]
  [JiffCivil] [JiffInstants]

theorem offsetDateTime_round_trip {dt : TimeCrate.OffsetDateTime} {s : Int}
    (hoffset : TimeFields.wholeSeconds (TimeFields.offset dt) = s) (hs : WithinDay s)
    (hn : SqlInstant (TimeCrateInstants.instant dt)) :
    ∃ dt', TimeCrateInstants.instant dt' = TimeCrateInstants.instant dt / 100 * 100 ∧
      TimeFields.wholeSeconds (TimeFields.offset dt') = s.tdiv 60 * 60 ∧
      DecodesTo ToSql.TimeCrate.offsetDateTime FromSql.TimeCrate.offsetDateTime dt dt' ∧
      CompatDecodesTo ToSql.TimeCrate.offsetDateTime Compat.TimeCrate.offsetDateTime dt dt' := by
  have hlocal := TimeCrateInstants.date_years (TimeFields.date dt)
  have hfields := congrArg CivilDateTime.ofInstant (TimeCrateInstants.local_eq dt)
  rw [CivilDateTime.ofInstant_instant, hoffset] at hfields
  have hencodes := ToSql.TimeCrate.offsetDateTime_byInstant dt
  rw [hoffset] at hencodes
  obtain ⟨x, hsent, hreads⟩ := hencodes.reads hn (minutes_lt hs)
  obtain ⟨hutc, hcut⟩ := commonYears_truncated hn hs (hfields ▸ hlocal)
  obtain ⟨dt', hdt', hinstant, hseconds⟩ := hreads.timeCrate hutc hcut
  exact ⟨dt', hinstant, hseconds, DecodesTo.compat_instant hsent hdt' rfl⟩

theorem timestamp_round_trip {t : Jiff.Timestamp} (hn : SqlInstant (JiffInstants.instant t)) :
    ∃ t', JiffInstants.instant t' = JiffInstants.instant t / 100 * 100 ∧
      DecodesTo ToSql.Jiff.timestamp FromSql.Jiff.timestamp t t' ∧
      CompatDecodesTo ToSql.Jiff.timestamp Compat.Jiff.timestamp t t' := by
  obtain ⟨x, hsent, hreads⟩ := (ToSql.Jiff.timestamp_byInstant t).reads hn (by decide)
  obtain ⟨t', ht', hinstant⟩ := hreads.timestamp (inTimestamps_truncated t)
  exact ⟨t', hinstant, DecodesTo.compat_instant hsent ht' rfl⟩

theorem zoned_round_trip {z : Jiff.Zoned}
    (hs : WithinDay (JiffFields.offsetSeconds z))
    (hn : SqlInstant (JiffInstants.instant (JiffFields.timestamp z))) :
    ∃ z', JiffInstants.instant (JiffFields.timestamp z') =
        JiffInstants.instant (JiffFields.timestamp z) / 100 * 100 ∧
      JiffFields.offsetSeconds z' = (JiffFields.offsetSeconds z).tdiv 60 * 60 ∧
      DecodesTo ToSql.Jiff.zoned FromSql.Jiff.zoned z z' ∧
      CompatDecodesTo ToSql.Jiff.zoned Compat.Jiff.zoned z z' := by
  obtain ⟨x, hsent, hreads⟩ := (ToSql.Jiff.zoned_byInstant z).reads hn (minutes_lt hs)
  obtain ⟨z', hz', hinstant, hseconds⟩ :=
    hreads.zoned (inTimestamps_truncated (JiffFields.timestamp z))
  exact ⟨z', hinstant, hseconds, DecodesTo.compat_instant hsent hz' rfl⟩

end

end

end

end TiberiusBridge

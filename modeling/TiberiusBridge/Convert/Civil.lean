import TiberiusBridge.Convert.Native

/-!
# The optional temporal libraries

With their features `time` and `jiff`, the decoders go through the chrono value
and its civil fields. A field in range of the one library may be refused by the
other.
-/
namespace TiberiusBridge

open Lib (Compute asSigned asUnsigned)

/-- The fields of a chrono date. -/
class ChronoFields [Chrono] where
  year : NaiveDate → Int
  month : NaiveDate → Nat
  day : NaiveDate → Nat

class TimeCrate where
  Date : Type
  Time : Type
  Month : Type
  UtcOffset : Type
  OffsetDateTime : Type
  /-- `Month::try_from`. -/
  monthOf : Nat → Option Month
  fromCalendarDate : Int → Month → Nat → Option Date
  fromHmsNano : Nat → Nat → Nat → Nat → Option Time
  fromWholeSeconds : Int → Option UtcOffset
  /-- `PrimitiveDateTime::assume_utc`. -/
  assumeUtc : Date → Time → OffsetDateTime
  /-- Panics where the local date is out of range. -/
  toOffset : OffsetDateTime → UtcOffset → Compute OffsetDateTime

structure PrimitiveDateTime [TimeCrate] where
  date : TimeCrate.Date
  time : TimeCrate.Time

class Jiff where
  Date : Type
  Time : Type
  DateTime : Type
  Timestamp : Type
  Offset : Type
  Zoned : Type
  date : Int → Int → Int → Option Date
  time : Int → Int → Int → Int → Option Time
  dateTime : Int → Int → Int → Int → Int → Int → Int → Option DateTime
  timestamp : Int → Int → Option Timestamp
  offsetFromSeconds : Int → Option Offset
  /-- `timestamp.to_zoned(offset.to_time_zone())`. -/
  toZoned : Timestamp → Offset → Zoned

section

variable [Chrono]

def hour (t : NaiveTime) : Nat := Chrono.numSecondsFromMidnight t / 3600

def minute (t : NaiveTime) : Nat := Chrono.numSecondsFromMidnight t / 60 % 60

def second (t : NaiveTime) : Nat := Chrono.numSecondsFromMidnight t % 60

/-- `DateTime::timestamp`, in seconds since 1970. -/
def DateTime.timestamp {Offset : Type} (dt : DateTime Offset) : Int :=
  (Chrono.numDaysFromCe dt.naiveUtc.date - 719163) * 86400 +
    Chrono.numSecondsFromMidnight dt.naiveUtc.time

def DateTime.timestampSubsecNanos {Offset : Type} (dt : DateTime Offset) : Nat :=
  Chrono.nanosecond dt.naiveUtc.time

end

namespace FromSql

variable [MssqlTds] [Chrono]

/-- A decoder and a conversion of its values. -/
def andThen {α β : Type} (fromSql : Decoder α) (f : α → Compute (Option β)) : Decoder β :=
  fun cell => do
    match ← fromSql cell with
    | none => return none
    | some v => f v

namespace TimeCrate

variable [ChronoFields] [TimeCrate]

def dateFromChrono (date : NaiveDate) : Option TimeCrate.Date :=
  (TimeCrate.monthOf (asUnsigned 8 (ChronoFields.month date))).bind fun month =>
    TimeCrate.fromCalendarDate (ChronoFields.year date) month
      (asUnsigned 8 (ChronoFields.day date))

omit [ChronoFields] in
def timeFromChrono (time : NaiveTime) : Option TimeCrate.Time :=
  TimeCrate.fromHmsNano (asUnsigned 8 (hour time)) (asUnsigned 8 (minute time))
    (asUnsigned 8 (second time)) (Chrono.nanosecond time)

def date : Decoder TimeCrate.Date :=
  andThen naiveDate fun date => return dateFromChrono date

def time : Decoder TimeCrate.Time :=
  andThen naiveTime fun time => return timeFromChrono time

def primitiveFromChrono (dt : NaiveDateTime) : Option PrimitiveDateTime :=
  (dateFromChrono dt.date).bind fun date =>
    (timeFromChrono dt.time).map fun time => { date, time }

def primitiveDateTime : Decoder PrimitiveDateTime :=
  andThen naiveDateTime fun dt => return primitiveFromChrono dt

def offsetDateTime : Decoder TimeCrate.OffsetDateTime :=
  andThen dateTimeFixedOffset fun dt => do
    match TimeCrate.fromWholeSeconds (Chrono.localMinusUtc dt.offset) with
    | none => return none
    | some offset =>
      match primitiveFromChrono dt.naiveUtc with
      | none => return none
      | some utc => return some (← TimeCrate.toOffset (TimeCrate.assumeUtc utc.date utc.time) offset)

end TimeCrate

namespace Jiff

variable [ChronoFields] [Jiff]

def dateFromChrono (date : NaiveDate) : Option Jiff.Date :=
  Jiff.date (asSigned 16 (ChronoFields.year date)) (asSigned 8 (ChronoFields.month date))
    (asSigned 8 (ChronoFields.day date))

omit [ChronoFields] in
def timeFromChrono (time : NaiveTime) : Option Jiff.Time :=
  Jiff.time (asSigned 8 (hour time)) (asSigned 8 (minute time)) (asSigned 8 (second time))
    (asSigned 32 (Chrono.nanosecond time))

def dateTimeFromChrono (dt : NaiveDateTime) : Option Jiff.DateTime :=
  Jiff.dateTime (asSigned 16 (ChronoFields.year dt.date))
    (asSigned 8 (ChronoFields.month dt.date)) (asSigned 8 (ChronoFields.day dt.date))
    (asSigned 8 (hour dt.time)) (asSigned 8 (minute dt.time)) (asSigned 8 (second dt.time))
    (asSigned 32 (Chrono.nanosecond dt.time))

def date : Decoder Jiff.Date :=
  andThen naiveDate fun date => return dateFromChrono date

def time : Decoder Jiff.Time :=
  andThen naiveTime fun time => return timeFromChrono time

def dateTime : Decoder Jiff.DateTime :=
  andThen naiveDateTime fun dt => return dateTimeFromChrono dt

def timestampFromChrono {Offset : Type} (dt : DateTime Offset) : Option Jiff.Timestamp :=
  Jiff.timestamp dt.timestamp (asSigned 32 dt.timestampSubsecNanos)

def timestamp : Decoder Jiff.Timestamp :=
  andThen dateTimeFixedOffset fun dt => return timestampFromChrono dt

def zoned : Decoder Jiff.Zoned :=
  andThen dateTimeFixedOffset fun dt =>
    return (timestampFromChrono dt).bind fun timestamp =>
      (Jiff.offsetFromSeconds (Chrono.localMinusUtc dt.offset)).map (Jiff.toZoned timestamp)

end Jiff

end FromSql

end TiberiusBridge

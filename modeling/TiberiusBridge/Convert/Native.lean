import Mathlib.Data.Nat.Log
import TiberiusBridge.Convert.Libraries
import TiberiusBridge.Params

/-!
# The native conversions

`FromSql` reads a value out of a decoded cell and `ToSql` makes a parameter of
one, each under the name of the Rust type. A date outside SQL Server's range
panics, as does arithmetic that overflows.
-/
namespace TiberiusBridge

open Lib (Compute mulUnsigned addUnsigned addSigned subSigned mulSigned tryUnsigned asUnsigned
  asSigned)
open Lib.Compute (expect)

variable [MssqlTds] [Chrono] [RustDecimal] [JsonNumbers]

/-- `FromSql::from_sql`. -/
abbrev Decoder (α : Type) := ColumnValues → Compute (Option α)

/-- `ToSql::to_sql`. -/
abbrev Encoder (α : Type) := α → Compute SqlType

namespace FromSql

def bool : Decoder Bool
  | .bit v => .ok (some v)
  | _ => .ok none

def u8 : Decoder UInt8
  | .tinyInt v => .ok (some v)
  | _ => .ok none

def i16 : Decoder Int16
  | .smallInt v => .ok (some v)
  | .tinyInt v => .ok (some v.toUInt16.toInt16)
  | _ => .ok none

def i32 : Decoder Int32
  | .int v => .ok (some v)
  | .smallInt v => .ok (some v.toInt32)
  | .tinyInt v => .ok (some v.toUInt32.toInt32)
  | _ => .ok none

def i64 : Decoder Int64
  | .bigInt v => .ok (some v)
  | .int v => .ok (some v.toInt64)
  | .smallInt v => .ok (some v.toInt64)
  | .tinyInt v => .ok (some v.toUInt64.toInt64)
  | _ => .ok none

def f32 : Decoder F32
  | .real v => .ok (some v)
  | _ => .ok none

def f64 : Decoder F64
  | .float v => .ok (some v)
  | .real v => .ok (some v.asF64)
  | _ => .ok none

def string : Decoder String
  | .string s => .ok (some (MssqlTds.toUtf8String s))
  | .xml x => .ok (some (MssqlTds.xmlAsString x))
  | .json j => .ok (some (MssqlTds.jsonAsString j))
  | _ => .ok none

def jsonValue [SerdeJson] : Decoder JsonValue
  | .json j => .ok (SerdeJson.fromStr (MssqlTds.jsonAsString j))
  | .string s => .ok (SerdeJson.fromStr (MssqlTds.toUtf8String s))
  | _ => .ok none

/-- `&str` is only borrowed, from the text the row caches. -/
def str : Decoder String := fun _ => .ok none

def uuid : Decoder Uuid
  | .uuid v => .ok (some v)
  | _ => .ok none

/-- `Vec<u8>` and `&[u8]`. -/
def bytes : Decoder (List UInt8)
  | .bytes v => .ok (some v)
  | _ => .ok none

def daysSince1900 (days : Int) : Option NaiveDate :=
  (Chrono.fromYmdOpt 1900 1 1).bind fun base => Chrono.checkedAddDays base days

/-- The day of a count from 0001-01-01 in 32 bits. -/
def dateOfDays (days : Nat) : Compute (Option NaiveDate) := do
  return Chrono.fromNumDaysFromCeOpt (← addSigned 32 (asSigned 32 days) 1)

/-- The time of day of a count of 100-nanosecond units. -/
def timeOfTicks (ticks : Nat) : Compute (Option NaiveTime) := do
  let totalNanos ← mulUnsigned 64 ticks 100
  let secs := asUnsigned 32 (totalNanos / 1000000000)
  let nanos := asUnsigned 32 (totalNanos % 1000000000)
  return Chrono.fromNumSecondsFromMidnightOpt secs nanos

/-- The date, then the time: a date out of range ends the decoding before the time. -/
def dateTimeOf (dt : SqlDateTime2) : Compute (Option NaiveDateTime) := do
  match ← dateOfDays dt.days with
  | none => return none
  | some date => return (← timeOfTicks dt.time.timeNanoseconds).map (NaiveDateTime.mk date)

def naiveDate : Decoder NaiveDate
  | .date d => dateOfDays (MssqlTds.getDays d)
  | .dateTime2 dt => dateOfDays dt.days
  | .dateTime dt => .ok (daysSince1900 dt.days)
  | _ => .ok none

def naiveTime : Decoder NaiveTime
  | .time t => timeOfTicks t.timeNanoseconds
  | _ => .ok none

def naiveDateTime : Decoder NaiveDateTime
  | .dateTime2 dt => dateTimeOf dt
  | .dateTime dt => do
    match daysSince1900 dt.days with
    | none => return none
    | some date =>
      -- 1/300 s
      let totalMs := (← mulUnsigned 64 dt.time 10) / 3
      let secs := asUnsigned 32 (totalMs / 1000)
      let nanos := asUnsigned 32 (← mulUnsigned 64 (totalMs % 1000) 1000000)
      return (Chrono.fromNumSecondsFromMidnightOpt secs nanos).map (NaiveDateTime.mk date)
  | .smallDateTime dt => do
    match daysSince1900 dt.days with
    | none => return none
    | some date =>
      let secs ← mulUnsigned 32 dt.time 60
      return (Chrono.fromNumSecondsFromMidnightOpt secs 0).map (NaiveDateTime.mk date)
  | _ => .ok none

def dateTimeFixedOffset : Decoder (DateTime FixedOffset)
  | .dateTimeOffset dto => do
    match ← dateTimeOf dto.datetime2 with
    | none => return none
    | some naive =>
      return (Chrono.eastOpt (← mulSigned 32 dto.offset 60)).map (DateTime.mk naive)
  | _ => .ok none

def decimal : Decoder Decimal
  | .decimal d | .numeric d => .ok (RustDecimal.parse (MssqlTds.decimalToString d))
  | .smallMoney m => .ok (some (RustDecimal.ofParts m.intVal.toInt 4))
  | .money m =>
    let lowBits := m.lsbPart.toUInt32
    let raw := (m.msbPart.toInt64 <<< 32) ||| lowBits.toUInt64.toInt64
    .ok (some (RustDecimal.ofParts raw.toInt 4))
  | _ => .ok none

end FromSql

def intoTypedNull : SqlType → SqlType
  | .bit _ => .bit none
  | .tinyInt _ => .tinyInt none
  | .smallInt _ => .smallInt none
  | .int _ => .int none
  | .bigInt _ => .bigInt none
  | .real _ => .real none
  | .float _ => .float none
  | .decimal _ => .decimal none
  | .numeric _ => .numeric none
  | .money _ => .money none
  | .smallMoney _ => .smallMoney none
  | .time _ => .time none
  | .dateTime2 _ => .dateTime2 none
  | .dateTimeOffset _ => .dateTimeOffset none
  | .smallDateTime _ => .smallDateTime none
  | .dateTime _ => .dateTime none
  | .date _ => .date none
  | .nVarchar _ length => .nVarchar none length
  | .nVarcharMax _ => .nVarcharMax none
  | .varchar _ length => .varchar none length
  | .varcharMax _ => .varcharMax none
  | .varBinary _ length => .varBinary none length
  | .varBinaryMax _ => .varBinaryMax none
  | .binary _ length => .binary none length
  | .char _ length => .char none length
  | .nChar _ length => .nChar none length
  | .text _ => .text none
  | .nText _ => .nText none
  | .image _ => .image none
  | .json _ => .json none
  | .xml _ => .xml none
  | .uuid _ => .uuid none
  | .vector _ dimensions baseType => .vector none dimensions baseType
  | .variant inner => .variant (intoTypedNull inner)
  | .table name _ => .table name none
  | .udt name _ => .udt name none

def dateOutOfRange : String := "date out of SQL Server DATE range (0001-01-01..=9999-12-31)"

namespace ToSql

def bool : Encoder Bool := fun v => .ok (.bit (some v))

def u8 : Encoder UInt8 := fun v => .ok (.tinyInt (some v))

def i16 : Encoder Int16 := fun v => .ok (.smallInt (some v))

def i32 : Encoder Int32 := fun v => .ok (.int (some v))

def i64 : Encoder Int64 := fun v => .ok (.bigInt (some v))

def f32 : Encoder F32 := fun v => .ok (.real (some v))

def f64 : Encoder F64 := fun v => .ok (.float (some v))

def str : Encoder String := fun v => .ok (.nVarchar (some (MssqlTds.fromUtf8String v)) 4000)

def string : Encoder String := fun v => .ok (.nVarchar (some (MssqlTds.fromUtf8String v)) 4000)

def uuid : Encoder Uuid := fun v => .ok (.uuid (some v))

/-- The precision given, or else the largest one. -/
def decimalToSqlType (decimalStr : String) (precision scale : Nat) : SqlType :=
  match MssqlTds.decimalFromString decimalStr precision scale with
  | .ok dp => .numeric (some dp)
  | .error _ =>
    match MssqlTds.decimalFromString decimalStr 38 scale with
    | .ok dp => .numeric (some dp)
    | .error _ => .numeric none

def decimal : Encoder Decimal := fun d => do
  let scale := asUnsigned 8 (RustDecimal.scale d)
  let digits := Nat.log 10 (RustDecimal.mantissa d).natAbs + 1
  let precision ← expect "a decimal mantissa has at most 29 digits" (tryUnsigned 8 digits)
  return decimalToSqlType (RustDecimal.toString d) (max precision scale) scale

def jsonValue [SerdeJson] : Encoder JsonValue
  | .null => .ok (.nVarchar none 4000)
  | .bool v => .ok (.bit (some v))
  | .number n =>
    match JsonNumbers.asI64 n, JsonNumbers.asF64 n with
    | some v, _ => .ok (.bigInt (some v))
    | none, some v => .ok (.float (some v))
    | none, none => .ok (.float (some F64.nan))
  | .string v => .ok (.nVarchar (some (MssqlTds.fromUtf8String v)) 4000)
  | .array vs => .ok (.nVarchar (some (MssqlTds.fromUtf8String (SerdeJson.text (.array vs)))) 4000)
  | .object fields =>
    .ok (.nVarchar (some (MssqlTds.fromUtf8String (SerdeJson.text (.object fields)))) 4000)

/-- `Vec<u8>` and `&[u8]`. -/
def bytes : Encoder (List UInt8) := fun v => .ok (.varBinaryMax (some v))

def naiveDateToSql (d : NaiveDate) : Compute SqlDate := do
  let days ← expect dateOutOfRange
    (tryUnsigned 32 (← subSigned 32 (Chrono.numDaysFromCe d) 1))
  expect dateOutOfRange (MssqlTds.createDate days).toOption

def naiveTimeToSql (t : NaiveTime) : Compute SqlTime := do
  let secs ← mulUnsigned 64 (Chrono.numSecondsFromMidnight t) 1000000000
  let nanosSinceMidnight ← addUnsigned 64 secs (Chrono.nanosecond t)
  return { timeNanoseconds := nanosSinceMidnight / 100, scale := defaultVartimeScale }

def naiveDtToSql (dt : NaiveDateTime) : Compute SqlDateTime2 := do
  let days := MssqlTds.getDays (← naiveDateToSql dt.date)
  return { days, time := ← naiveTimeToSql dt.time }

def naiveDate : Encoder NaiveDate := fun d => do return .date (some (← naiveDateToSql d))

def naiveTime : Encoder NaiveTime := fun t => do return .time (some (← naiveTimeToSql t))

def naiveDateTime : Encoder NaiveDateTime := fun dt => do
  return .dateTime2 (some (← naiveDtToSql dt))

def dateTimeFixedOffset : Encoder (DateTime FixedOffset) := fun dt => do
  let datetime2 ← naiveDtToSql dt.naiveUtc
  let offset := asSigned 16 ((Chrono.localMinusUtc dt.offset).tdiv 60)
  return .dateTimeOffset (some { datetime2, offset })

def dateTimeUtc : Encoder (DateTime Utc) := fun dt => do
  let datetime2 ← naiveDtToSql dt.naiveUtc
  return .dateTimeOffset (some { datetime2, offset := 0 })

/-- `Option<T>` for a type with a default: `None` is the NULL of the default's type. -/
def option {α : Type} (toSql : Encoder α) (default : α) : Encoder (Option α)
  | some v => toSql v
  | none => do return intoTypedNull (← toSql default)

end ToSql

end TiberiusBridge

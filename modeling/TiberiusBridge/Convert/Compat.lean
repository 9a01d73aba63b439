import TiberiusBridge.Convert.Native
import TiberiusBridge.Row

/-!
# The compatibility conversions

By value into a `ColumnData`, and fallibly out of one. The targets accept exact
variants and then decode through the native conversion.
-/
namespace TiberiusBridge

open Lib (Compute)

variable [MssqlTds]

namespace IntoSql

/-- `impl_into_sql_native!` for the type. -/
def native {α : Type} (toSql : Encoder α) (v : α) : Compute ColumnData := do
  return ColumnData.fromNative (← toSql v)

/-- `impl_into_sql_native!` for `Option` of the type. -/
def optional {α : Type} (toSql : Encoder α) (null : ColumnData) : Option α → Compute ColumnData
  | some v => native toSql v
  | none => .ok null

/-- `String`, `&str` and `Cow<str>`. -/
def string (v : String) : Compute ColumnData := .ok (.string (some v))

def optionString (v : Option String) : Compute ColumnData := .ok (.string v)

/-- `Vec<u8>`, `&[u8]` and `Cow<[u8]>`. -/
def bytes (v : List UInt8) : Compute ColumnData := .ok (.binary (some v))

def optionBytes (v : Option (List UInt8)) : Compute ColumnData := .ok (.binary v)

end IntoSql

/-- `compat::FromSql::from_sql`. -/
abbrev CompatDecoder (α : Type) := ColumnData → Compute (Result (Option α))

/-- `decode_owned`, with the target's type name. -/
def decodeOwned {α : Type} (typeName : String) (fromSql : Decoder α) : CompatDecoder α :=
  fun value =>
    match value.intoColumnValue with
    | .error e => return .error e
    | .ok cell => do
      match cell, ← fromSql cell with
      | .null, _ => return .ok none
      | _, some v => return .ok (some v)
      | cell, none => return .error (.conversion (.cannotInterpretCell cell typeName))

theorem decodeOwned_some {α : Type} {typeName : String} {fromSql : Decoder α} {value : ColumnData}
    {cell : ColumnValues} {v : α} (hc : value.intoColumnValue = .ok cell) (hn : cell ≠ .null)
    (hv : fromSql cell = .ok (some v)) :
    decodeOwned typeName fromSql value = .ok (.ok (some v)) := by
  simp only [decodeOwned, hc, hv, Lib.Compute.ok_bind]
  cases cell with
  | null => exact absurd rfl hn
  | _ => rfl

def cannotInterpret {α : Type} (value : ColumnData) (typeName : String) :
    Compute (Result (Option α)) :=
  return .error (.conversion (.cannotInterpret value typeName))

/-- `from_column_data_exact!`. -/
def fromColumnDataExact {α : Type} (typeName : String) (accepts : ColumnData → Bool)
    (fromSql : Decoder α) : CompatDecoder α := fun value =>
  if accepts value then decodeOwned typeName fromSql value
  else cannotInterpret value typeName

variable [Chrono] [RustDecimal] [JsonNumbers] [SerdeJson]

namespace Compat

def bool : CompatDecoder Bool :=
  fromColumnDataExact "bool" (fun | .bit _ => true | _ => false) FromSql.bool

def u8 : CompatDecoder UInt8 :=
  fromColumnDataExact "u8" (fun | .u8 _ | .i32 none => true | _ => false) FromSql.u8

def i16 : CompatDecoder Int16 :=
  fromColumnDataExact "i16" (fun | .i16 _ | .u8 none | .i32 none => true | _ => false)
    FromSql.i16

def i32 : CompatDecoder Int32 :=
  fromColumnDataExact "i32" (fun | .i32 _ | .u8 none => true | _ => false) FromSql.i32

def i64 : CompatDecoder Int64 :=
  fromColumnDataExact "i64" (fun | .i64 _ | .u8 none | .i32 none => true | _ => false)
    FromSql.i64

def f32 : CompatDecoder F32 :=
  fromColumnDataExact "f32" (fun | .f32 _ => true | _ => false) FromSql.f32

def f64 : CompatDecoder F64 :=
  fromColumnDataExact "f64" (fun | .f64 _ => true | _ => false) FromSql.f64

def string : CompatDecoder String :=
  fromColumnDataExact "alloc::string::String" (fun | .string _ => true | _ => false)
    FromSql.string

def uuid : CompatDecoder Uuid :=
  fromColumnDataExact "uuid::Uuid" (fun | .guid _ => true | _ => false) FromSql.uuid

/-- `Vec<u8>`. -/
def byteVec : CompatDecoder (List UInt8) :=
  fromColumnDataExact "alloc::vec::Vec<u8>" (fun | .binary _ => true | _ => false) FromSql.bytes

def jsonValue : CompatDecoder JsonValue :=
  fromColumnDataExact "serde_json::value::Value" (fun | .json _ | .string _ => true | _ => false)
    FromSql.jsonValue

def naiveDate : CompatDecoder NaiveDate :=
  fromColumnDataExact "chrono::naive::date::NaiveDate" (fun | .date _ => true | _ => false)
    FromSql.naiveDate

def naiveTime : CompatDecoder NaiveTime :=
  fromColumnDataExact "chrono::naive::time::NaiveTime" (fun | .time _ => true | _ => false)
    FromSql.naiveTime

def naiveDateTime : CompatDecoder NaiveDateTime :=
  fromColumnDataExact "chrono::naive::datetime::NaiveDateTime"
    (fun | .dateTime _ | .smallDateTime _ | .dateTime2 _ => true | _ => false)
    FromSql.naiveDateTime

def fixedOffsetName : String :=
  "chrono::datetime::DateTime<chrono::offset::fixed::FixedOffset>"

def dateTimeFixedOffset : CompatDecoder (DateTime FixedOffset) :=
  fromColumnDataExact fixedOffsetName (fun | .dateTimeOffset _ => true | _ => false)
    FromSql.dateTimeFixedOffset

def decimal : CompatDecoder Decimal :=
  fromColumnDataExact "rust_decimal::decimal::Decimal" (fun | .numeric _ => true | _ => false)
    FromSql.decimal

def decimalParts : CompatDecoder DecimalParts
  | .numeric v => return .ok v
  | value => cannotInterpret value "mssql_tds::datatypes::decoder::DecimalParts"

/-- An instant at another offset is the same instant; a time without offset is taken as UTC. -/
def dateTimeUtc : CompatDecoder (DateTime Utc) := fun value =>
  match value with
  | .dateTimeOffset _ => do
    let decoded ← decodeOwned fixedOffsetName FromSql.dateTimeFixedOffset value
    return decoded.map (·.map fun dt => ⟨dt.naiveUtc, .utc⟩)
  | .dateTime2 _ => do
    let decoded ← decodeOwned "chrono::naive::datetime::NaiveDateTime" FromSql.naiveDateTime value
    return decoded.map (·.map fun naive => ⟨naive, .utc⟩)
  | _ => cannotInterpret value "chrono::datetime::DateTime<chrono::offset::utc::Utc>"

/-- `&str`, borrowed. -/
def str : CompatDecoder String
  | .string v => return .ok v
  | value => cannotInterpret value "&str"

/-- `&[u8]`, borrowed. -/
def byteSlice : CompatDecoder (List UInt8)
  | .binary v => return .ok v
  | value => cannotInterpret value "&[u8]"

end Compat

end TiberiusBridge

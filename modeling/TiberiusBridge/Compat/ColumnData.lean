import TiberiusBridge.Column

/-!
# The compatibility value and its conversions to the driver's types

Borrowing is not modelled: `Cow` is its contents, so `into_owned` changes
nothing.
-/
namespace TiberiusBridge

variable [MssqlTds]

/-- Tiberius-shaped SQL value. -/
inductive ColumnData
  | bit (v : Option Bool)
  | u8 (v : Option UInt8)
  | i16 (v : Option Int16)
  | i32 (v : Option Int32)
  | i64 (v : Option Int64)
  | f32 (v : Option F32)
  | f64 (v : Option F64)
  | string (v : Option String)
  | guid (v : Option Uuid)
  | binary (v : Option (List UInt8))
  | numeric (v : Option DecimalParts)
  | xml (v : Option String)
  | dateTime (v : Option SqlDateTime)
  | smallDateTime (v : Option SqlSmallDateTime)
  | time (v : Option SqlTime)
  | date (v : Option SqlDate)
  | dateTime2 (v : Option SqlDateTime2)
  | dateTimeOffset (v : Option SqlDateTimeOffset)
  | money (v : Option SqlMoney)
  | smallMoney (v : Option SqlSmallMoney)
  | json (v : Option String)
  | native (v : SqlType)

/-- What a conversion error's text is built from. -/
inductive ConversionMessage
  /-- `cannot interpret {value:?} as {type}` over a compatibility value. -/
  | cannotInterpret (value : ColumnData) (typeName : String)
  /-- The same text over a decoded cell. -/
  | cannotInterpretCell (value : ColumnValues) (typeName : String)
  /-- `cannot decode bridge-native parameter {value:?} as a row value`. -/
  | bridgeNative (value : SqlType)
  /-- `serde::de::Error::custom`. -/
  | custom (message : String)

inductive Error
  | tds (e : TdsError)
  | columnNotFound (name : String)
  | columnIndexOutOfBounds (index count : Nat)
  | conversion (message : ConversionMessage)
  | bulkInput (message : String)
  | pool (message : String)
  | invalidPreparedStatement

abbrev Result (α : Type) := Except Error α

/-- `str::encode_utf16().count()`. -/
def utf16Count (s : String) : Nat :=
  s.toList.foldr (fun c n => (if c.val < 0x10000 then 1 else 2) + n) 0

namespace ColumnData

def fromNative : SqlType → ColumnData
  | .bit v => bit v
  | .tinyInt v => u8 v
  | .smallInt v => i16 v
  | .int v => i32 v
  | .bigInt v => i64 v
  | .real v => f32 v
  | .float v => f64 v
  | .decimal v | .numeric v => numeric v
  | .money v => money v
  | .smallMoney v => smallMoney v
  | .time v => time v
  | .dateTime2 v => dateTime2 v
  | .dateTimeOffset v => dateTimeOffset v
  | .smallDateTime v => smallDateTime v
  | .dateTime v => dateTime v
  | .date v => date v
  | .nVarchar v _ | .nVarcharMax v | .varchar v _ | .varcharMax v | .char v _ | .nChar v _
  | .text v | .nText v => string (v.map MssqlTds.toUtf8String)
  | .varBinary v _ | .varBinaryMax v | .binary v _ | .image v => binary v
  | .json v => json (v.map MssqlTds.jsonAsString)
  | .xml v => xml (v.map MssqlTds.xmlAsString)
  | .uuid v => guid v
  | .vector v n b => native (.vector v n b)
  | .variant v => native (.variant v)
  | .table n v => native (.table n v)
  | .udt n v => native (.udt n v)

def intoColumnValue : ColumnData → Result ColumnValues
  | bit (some v) => .ok (.bit v)
  | u8 (some v) => .ok (.tinyInt v)
  | i16 (some v) => .ok (.smallInt v)
  | i32 (some v) => .ok (.int v)
  | i64 (some v) => .ok (.bigInt v)
  | f32 (some v) => .ok (.real v)
  | f64 (some v) => .ok (.float v)
  | string (some v) => .ok (.string (MssqlTds.fromUtf8String v))
  | guid (some v) => .ok (.uuid v)
  | binary (some v) => .ok (.bytes v)
  | numeric (some v) => .ok (.numeric v)
  | xml (some v) => .ok (.xml (MssqlTds.xmlFrom v))
  | dateTime (some v) => .ok (.dateTime v)
  | smallDateTime (some v) => .ok (.smallDateTime v)
  | time (some v) => .ok (.time v)
  | date (some v) => .ok (.date v)
  | dateTime2 (some v) => .ok (.dateTime2 v)
  | dateTimeOffset (some v) => .ok (.dateTimeOffset v)
  | money (some v) => .ok (.money v)
  | smallMoney (some v) => .ok (.smallMoney v)
  | json (some v) => .ok (.json (MssqlTds.jsonFrom v))
  | native v => .error (.conversion (.bridgeNative v))
  | bit none | u8 none | i16 none | i32 none | i64 none | f32 none | f64 none | string none
  | guid none | binary none | numeric none | xml none | dateTime none | smallDateTime none
  | time none | date none | dateTime2 none | dateTimeOffset none | money none
  | smallMoney none | json none => .ok .null

/-- The native `to_sql` of a compatibility value. -/
def toSql : ColumnData → SqlType
  | bit v => .bit v
  | u8 v => .tinyInt v
  | i16 v => .smallInt v
  | i32 v => .int v
  | i64 v => .bigInt v
  | f32 v => .real v
  | f64 v => .float v
  | string (some v) =>
    if utf16Count v > 4000 then .nVarcharMax (some (MssqlTds.fromUtf8String v))
    else .nVarchar (some (MssqlTds.fromUtf8String v)) 4000
  | string none => .nVarchar none 4000
  | guid v => .uuid v
  | binary v => .varBinaryMax v
  | numeric v => .numeric v
  | xml v => .xml (v.map MssqlTds.xmlFrom)
  | dateTime v => .dateTime v
  | smallDateTime v => .smallDateTime v
  | time v => .time v
  | date v => .date v
  | dateTime2 v => .dateTime2 v
  | dateTimeOffset v => .dateTimeOffset v
  | money v => .money v
  | smallMoney v => .smallMoney v
  | json v => .json (v.map MssqlTds.jsonFrom)
  | native v => v

end ColumnData

def nullColumnData : ColumnType → ColumnData
  | .bit => .bit none
  | .int1 => .u8 none
  | .int2 => .i16 none
  | .int4 => .i32 none
  | .int8 => .i64 none
  | .float4 => .f32 none
  | .float8 => .f64 none
  | .datetime => .dateTime none
  | .datetime4 => .smallDateTime none
  | .datetime2 => .dateTime2 none
  | .datetimeOffset => .dateTimeOffset none
  | .date => .date none
  | .time => .time none
  | .decimaln | .numericn => .numeric none
  | .money => .money none
  | .money4 => .smallMoney none
  | .guid => .guid none
  | .xml => .xml none
  | .json => .json none
  | .nVarchar | .varchar | .nChar | .char | .nText | .text | .null => .string none
  | .binary | .varBinary | .image | .bigVarBin | .ssvariant | .geography | .geometry | .udt
  | .vector => .binary none

/-- The compatibility view of a cell; `decoded` is the row's cached text. -/
def columnDataRef (value : ColumnValues) (decoded : Option String) (columnType : ColumnType) :
    ColumnData :=
  match value with
  | .tinyInt v => .u8 (some v)
  | .smallInt v => .i16 (some v)
  | .int v => .i32 (some v)
  | .bigInt v => .i64 (some v)
  | .real v => .f32 (some v)
  | .float v => .f64 (some v)
  | .decimal v | .numeric v => .numeric (some v)
  | .bit v => .bit (some v)
  | .string v => .string (some (decoded.getD (MssqlTds.toUtf8String v)))
  | .dateTime v => .dateTime (some v)
  | .date v => .date (some v)
  | .time v => .time (some v)
  | .dateTime2 v => .dateTime2 (some v)
  | .dateTimeOffset v => .dateTimeOffset (some v)
  | .smallDateTime v => .smallDateTime (some v)
  | .smallMoney v => .smallMoney (some v)
  | .money v => .money (some v)
  | .bytes v => .binary (some v)
  | .xml v => .xml (some (decoded.getD (MssqlTds.xmlAsString v)))
  | .null => nullColumnData columnType
  | .uuid v => .guid (some v)
  | .json v => .json (some (decoded.getD (MssqlTds.jsonAsString v)))
  | .vector v => .native (.vector (some v) (MssqlTds.dimensionCount v) (MssqlTds.baseType v))

end TiberiusBridge

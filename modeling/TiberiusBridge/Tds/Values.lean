/-!
# The driver's value types

`mssql-tds` is not part of the repository. Its plain records and enumerations
are written out with the fields the bridge reads; what it keeps opaque (text in
wire encodings, vectors, decimals, UDT and table payloads) is a parameter, with
the documented behaviour the bridge relies on as fields of the class.
-/
namespace TiberiusBridge

inductive TdsError
  | connectionClosed (message : String)
  | usageError (message : String)
  | protocolError (message : String)
  | other (message : String)
  deriving DecidableEq, Repr

/-- `f32`, compared bitwise. -/
structure F32 where
  bits : UInt32
  deriving DecidableEq, Repr

/-- `f64`, compared bitwise. -/
structure F64 where
  bits : UInt64
  deriving DecidableEq, Repr

def F64.nan : F64 := ⟨0x7ff8000000000000⟩

/-- `as f64`, the exact widening. -/
def F32.asF64 (v : F32) : F64 := ⟨(Float32.ofBits v.bits).toFloat.toBits⟩

structure Uuid where
  bytes : BitVec 128
  deriving DecidableEq, Repr

/-- `time_nanoseconds` counts 100-nanosecond units despite its name. -/
structure SqlTime where
  timeNanoseconds : Nat
  scale : Nat
  deriving DecidableEq, Repr

/-- Days count from 0001-01-01. -/
structure SqlDateTime2 where
  days : Nat
  time : SqlTime
  deriving DecidableEq, Repr

/-- UTC components and the offset in minutes. -/
structure SqlDateTimeOffset where
  datetime2 : SqlDateTime2
  offset : Int
  deriving DecidableEq, Repr

/-- Days count from 1900-01-01, `time` in 1/300 s. -/
structure SqlDateTime where
  days : Int
  time : Nat
  deriving DecidableEq, Repr

/-- Days count from 1900-01-01, `time` in minutes. -/
structure SqlSmallDateTime where
  days : Nat
  time : Nat
  deriving DecidableEq, Repr

structure SqlMoney where
  lsbPart : Int32
  msbPart : Int32
  deriving DecidableEq

structure SqlSmallMoney where
  intVal : Int32
  deriving DecidableEq

def defaultVartimeScale : Nat := 7

inductive VectorBaseType
  | float32
  | float16
  deriving DecidableEq, Repr

structure TvpTypeName where
  schemaName : Option String
  typeName : String
  deriving DecidableEq, Repr

structure UdtTypeName where
  dbName : Option String
  schemaName : Option String
  typeName : String
  deriving DecidableEq, Repr

/-- The constructor of a `SqlType`. -/
inductive SqlTypeKind
  | bit | tinyInt | smallInt | int | bigInt | real | float | decimal | numeric | money
  | smallMoney | time | dateTime2 | dateTimeOffset | smallDateTime | dateTime | date | nVarchar
  | nVarcharMax | varchar | varcharMax | varBinary | varBinaryMax | binary | char | nChar | text
  | nText | image | json | xml | uuid | vector | variant | table | udt
  deriving DecidableEq, Repr

/-- The last day SQL Server's DATE stores, 9999-12-31. -/
def lastSqlDay : Nat := 3652058

class MssqlTds where
  SqlString : Type
  SqlXml : Type
  SqlJson : Type
  SqlVector : Type
  DecimalParts : Type
  SqlDate : Type
  TvpRows : Type
  UdtBytes : Type
  fromUtf8String : String → SqlString
  toUtf8String : SqlString → String
  xmlFrom : String → SqlXml
  xmlAsString : SqlXml → String
  jsonFrom : String → SqlJson
  jsonAsString : SqlJson → String
  dimensionCount : SqlVector → Nat
  baseType : SqlVector → VectorBaseType
  precision : DecimalParts → Nat
  scale : DecimalParts → Nat
  /-- `DecimalParts::from_string`. -/
  decimalFromString : String → Nat → Nat → Except TdsError DecimalParts
  /-- `Display` for `DecimalParts`. -/
  decimalToString : DecimalParts → String
  /-- `SqlDate::create`. -/
  createDate : Nat → Except TdsError SqlDate
  getDays : SqlDate → Nat
  /-- `TdsDataType::from(value).get_meta_type_name()`, which depends on the constructor only. -/
  metaTypeName : SqlTypeKind → Except TdsError String
  /-- A string built from UTF-8 text decodes to that text. -/
  string_text : ∀ s, toUtf8String (fromUtf8String s) = s
  xml_text : ∀ s, xmlAsString (xmlFrom s) = s
  json_text : ∀ s, jsonAsString (jsonFrom s) = s
  /-- `create` accepts exactly the day counts up to 9999-12-31. -/
  createDate_ok_iff : ∀ n d, createDate n = .ok d ↔ n ≤ lastSqlDay ∧ getDays d = n
  createDate_accepts : ∀ n, n ≤ lastSqlDay → ∃ d, createDate n = .ok d

export MssqlTds (SqlString SqlXml SqlJson SqlVector DecimalParts SqlDate TvpRows UdtBytes)

variable [MssqlTds]

/-- One decoded cell. -/
inductive ColumnValues
  | tinyInt (v : UInt8)
  | smallInt (v : Int16)
  | int (v : Int32)
  | bigInt (v : Int64)
  | real (v : F32)
  | float (v : F64)
  | decimal (v : DecimalParts)
  | numeric (v : DecimalParts)
  | bit (v : Bool)
  | string (v : SqlString)
  | dateTime (v : SqlDateTime)
  | date (v : SqlDate)
  | time (v : SqlTime)
  | dateTime2 (v : SqlDateTime2)
  | dateTimeOffset (v : SqlDateTimeOffset)
  | smallDateTime (v : SqlSmallDateTime)
  | smallMoney (v : SqlSmallMoney)
  | money (v : SqlMoney)
  | bytes (v : List UInt8)
  | xml (v : SqlXml)
  | null
  | uuid (v : Uuid)
  | json (v : SqlJson)
  | vector (v : SqlVector)

/-- One typed parameter, a SQL NULL where the payload is absent. -/
inductive SqlType
  | bit (v : Option Bool)
  | tinyInt (v : Option UInt8)
  | smallInt (v : Option Int16)
  | int (v : Option Int32)
  | bigInt (v : Option Int64)
  | real (v : Option F32)
  | float (v : Option F64)
  | decimal (v : Option DecimalParts)
  | numeric (v : Option DecimalParts)
  | money (v : Option SqlMoney)
  | smallMoney (v : Option SqlSmallMoney)
  | time (v : Option SqlTime)
  | dateTime2 (v : Option SqlDateTime2)
  | dateTimeOffset (v : Option SqlDateTimeOffset)
  | smallDateTime (v : Option SqlSmallDateTime)
  | dateTime (v : Option SqlDateTime)
  | date (v : Option SqlDate)
  | nVarchar (v : Option SqlString) (length : Nat)
  | nVarcharMax (v : Option SqlString)
  | varchar (v : Option SqlString) (length : Nat)
  | varcharMax (v : Option SqlString)
  | varBinary (v : Option (List UInt8)) (length : Nat)
  | varBinaryMax (v : Option (List UInt8))
  | binary (v : Option (List UInt8)) (length : Nat)
  | char (v : Option SqlString) (length : Nat)
  | nChar (v : Option SqlString) (length : Nat)
  | text (v : Option SqlString)
  | nText (v : Option SqlString)
  | image (v : Option (List UInt8))
  | json (v : Option SqlJson)
  | xml (v : Option SqlXml)
  | uuid (v : Option Uuid)
  | vector (v : Option SqlVector) (dimensions : Nat) (baseType : VectorBaseType)
  | variant (inner : SqlType)
  | table (name : TvpTypeName) (v : Option TvpRows)
  | udt (name : UdtTypeName) (v : Option UdtBytes)

def SqlType.kind : SqlType → SqlTypeKind
  | .bit _ => .bit
  | .tinyInt _ => .tinyInt
  | .smallInt _ => .smallInt
  | .int _ => .int
  | .bigInt _ => .bigInt
  | .real _ => .real
  | .float _ => .float
  | .decimal _ => .decimal
  | .numeric _ => .numeric
  | .money _ => .money
  | .smallMoney _ => .smallMoney
  | .time _ => .time
  | .dateTime2 _ => .dateTime2
  | .dateTimeOffset _ => .dateTimeOffset
  | .smallDateTime _ => .smallDateTime
  | .dateTime _ => .dateTime
  | .date _ => .date
  | .nVarchar _ _ => .nVarchar
  | .nVarcharMax _ => .nVarcharMax
  | .varchar _ _ => .varchar
  | .varcharMax _ => .varcharMax
  | .varBinary _ _ => .varBinary
  | .varBinaryMax _ => .varBinaryMax
  | .binary _ _ => .binary
  | .char _ _ => .char
  | .nChar _ _ => .nChar
  | .text _ => .text
  | .nText _ => .nText
  | .image _ => .image
  | .json _ => .json
  | .xml _ => .xml
  | .uuid _ => .uuid
  | .vector _ _ _ => .vector
  | .variant _ => .variant
  | .table _ _ => .table
  | .udt _ _ => .udt

inductive StatusFlags
  | none
  | byRefValue
  deriving DecidableEq, Repr

structure RpcParameter where
  name : Option String
  status : StatusFlags
  value : SqlType

end TiberiusBridge

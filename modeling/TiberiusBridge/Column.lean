import TiberiusBridge.Tds.Values

/-!
# Column metadata and column types

The TDS data type and the wire byte length of a column determine its
`ColumnType`; CLR types are told apart by their schema and name.
-/
namespace TiberiusBridge

/-- The driver's data type codes. -/
inductive TdsDataType
  | void | image | text | guid | varBinary | intN | varChar | dateN | timeN | dateTime2N
  | dateTimeOffsetN | binary | char | int1 | bit | int2 | decimal | int4 | dateTim4 | flt4
  | money | dateTime | flt8 | numeric | ssVariant | nText | bitN | decimalN | numericN | fltN
  | moneyN | dateTimeN | money4 | int8 | bigVarBinary | bigVarChar | bigBinary | bigChar
  | nVarChar | nChar | udt | xml | json | vector
  deriving DecidableEq, Repr

inductive ColumnType
  | null | bit | int1 | int2 | int4 | int8 | float4 | float8 | datetime | datetime2 | datetime4
  | datetimeOffset | date | time | decimaln | numericn | money | money4 | guid | nVarchar
  | varchar | nChar | char | nText | text | binary | varBinary | image | xml | json | vector
  | bigVarBin | ssvariant | geography | geometry | udt
  deriving DecidableEq, Repr

namespace ColumnType

/-- `From<TdsDataType>`. -/
def ofTds : TdsDataType → ColumnType
  | .void => null
  | .bit | .bitN => bit
  | .int1 => int1
  | .int2 => int2
  | .int4 => int4
  | .intN => int4
  | .int8 => int8
  | .flt4 => float4
  | .flt8 => float8
  | .fltN => float8
  | .dateTime | .dateTimeN => datetime
  | .dateTime2N => datetime2
  | .dateTim4 => datetime4
  | .dateTimeOffsetN => datetimeOffset
  | .dateN => date
  | .timeN => time
  | .decimal | .decimalN => decimaln
  | .numeric | .numericN => numericn
  | .money | .moneyN => money
  | .guid => guid
  | .nVarChar => nVarchar
  | .varChar | .bigVarChar => varchar
  | .nChar => nChar
  | .char => char
  | .nText => nText
  | .text => text
  | .binary => binary
  | .varBinary | .bigVarBinary => varBinary
  | .image => image
  | .xml => xml
  | .json => json
  | .vector => vector
  | .ssVariant => ssvariant
  | .udt => udt
  | _ => null

def fromTdsWithLength (dt : TdsDataType) (byteLength : Nat) : ColumnType :=
  match dt with
  | .intN =>
    match byteLength with
    | 1 => int1
    | 2 => int2
    | 4 => int4
    | 8 => int8
    | _ => int4
  | .fltN =>
    match byteLength with
    | 4 => float4
    | 8 => float8
    | _ => float8
  | .moneyN =>
    match byteLength with
    | 4 => money4
    | 8 => money
    | _ => money
  | other => ofTds other

end ColumnType

structure UdtInfo where
  schemaName : String
  typeName : String
  deriving DecidableEq, Repr

structure Collation where
  info : UInt32
  lcidLanguageId : Int32
  colFlags : UInt8
  sortId : UInt8
  deriving DecidableEq

structure MultiPartName where
  serverName : Option String
  catalogName : Option String
  schemaName : Option String
  tableName : String
  deriving DecidableEq, Repr

/-- What the driver reports of one column. -/
structure ColumnMetadata where
  columnName : String
  dataType : TdsDataType
  length : Nat
  udtInfo : Option UdtInfo := none
  isNullable : Bool := true
  isIdentity : Bool := false
  isComputed : Bool := false
  isCaseSensitive : Bool := false
  isSparseColumnSet : Bool := false
  isEncrypted : Bool := false
  isPlp : Bool := false
  scale : Option Nat := none
  collation : Option Collation := none
  userType : UInt32 := 0
  deriving DecidableEq

structure Column where
  name : String
  columnType : ColumnType
  nullable : Bool
  isIdentity : Bool
  isComputed : Bool
  isCaseSensitive : Bool
  isSparseColumnSet : Bool
  isEncrypted : Bool
  isPlp : Bool
  byteLength : Nat
  scale : Option Nat
  collation : Option Collation
  userType : UInt32
  multiPartName : Option MultiPartName
  deriving DecidableEq

/-- `str::eq_ignore_ascii_case`. -/
def eqIgnoreAsciiCase (a b : String) : Bool :=
  a.toList.map Char.toLower == b.toList.map Char.toLower

def ColumnType.fromMetadata (md : ColumnMetadata) : ColumnType :=
  match md.dataType, md.udtInfo with
  | .udt, some info =>
    if eqIgnoreAsciiCase info.schemaName "sys" then
      if eqIgnoreAsciiCase info.typeName "geography" then .geography
      else if eqIgnoreAsciiCase info.typeName "geometry" then .geometry
      else fromTdsWithLength md.dataType md.length
    else fromTdsWithLength md.dataType md.length
  | _, _ => fromTdsWithLength md.dataType md.length

def Column.fromTds (md : ColumnMetadata) : Column where
  name := md.columnName
  columnType := .fromMetadata md
  nullable := md.isNullable
  isIdentity := md.isIdentity
  isComputed := md.isComputed
  isCaseSensitive := md.isCaseSensitive
  isSparseColumnSet := md.isSparseColumnSet
  isEncrypted := md.isEncrypted
  isPlp := md.isPlp
  byteLength := md.length
  scale := md.scale
  collation := md.collation
  userType := md.userType
  multiPartName := none

end TiberiusBridge

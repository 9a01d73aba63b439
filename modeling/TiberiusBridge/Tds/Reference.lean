import TiberiusBridge.Client.Session

/-!
# A reference instance of the driver's opaque types

Text is kept as it is written and decimals by their digits. Statements about
particular inputs are evaluated at this instance, which is in scope only where
the namespace is opened.
-/
namespace TiberiusBridge.Reference

/-- A decimal by sign and digits, the last `scale` of them after the point. -/
structure Decimal where
  negative : Bool
  digits : List Char
  precision : Nat
  scale : Nat
  deriving DecidableEq, Repr

namespace Decimal

def toText (d : Decimal) : String :=
  let whole := d.digits.take (d.digits.length - d.scale)
  let fraction := d.digits.drop (d.digits.length - d.scale)
  (if d.negative then "-" else "") ++ String.ofList whole ++
    (if fraction.isEmpty then "" else "." ++ String.ofList fraction)

def ofText (s : String) (precision scale : Nat) : Except TdsError Decimal :=
  let negative := s.toList.head? = some '-'
  let unsigned := if negative then s.toList.drop 1 else s.toList
  let whole := unsigned.takeWhile Char.isDigit
  let fraction := (unsigned.drop (whole.length + 1)).takeWhile Char.isDigit
  let padded := fraction.take scale ++ List.replicate (scale - fraction.length) '0'
  -- zeros before the first digit take no room
  if (whole.dropWhile (· == '0')).length + scale ≤ precision ∧ !whole.isEmpty then
    .ok { negative, digits := whole ++ padded, precision, scale }
  else .error (.usageError "invalid decimal")

end Decimal

structure Vector where
  dimensions : Nat
  baseType : VectorBaseType
  deriving DecidableEq, Repr

def metaTypeName : SqlTypeKind → Except TdsError String
  | .bit => .ok "bit"
  | .tinyInt => .ok "tinyint"
  | .smallInt => .ok "smallint"
  | .int => .ok "int"
  | .bigInt => .ok "bigint"
  | .real => .ok "real"
  | .float => .ok "float"
  | .decimal => .ok "decimal"
  | .numeric => .ok "numeric"
  | .money => .ok "money"
  | .smallMoney => .ok "smallmoney"
  | .time => .ok "time"
  | .dateTime2 => .ok "datetime2"
  | .dateTimeOffset => .ok "datetimeoffset"
  | .smallDateTime => .ok "smalldatetime"
  | .dateTime => .ok "datetime"
  | .date => .ok "date"
  | .nVarchar | .nVarcharMax => .ok "nvarchar"
  | .varchar | .varcharMax => .ok "varchar"
  | .varBinary | .varBinaryMax => .ok "varbinary"
  | .binary => .ok "binary"
  | .char => .ok "char"
  | .nChar => .ok "nchar"
  | .text => .ok "text"
  | .nText => .ok "ntext"
  | .image => .ok "image"
  | .json => .ok "json"
  | .xml => .ok "xml"
  | .uuid => .ok "uniqueidentifier"
  | .vector => .ok "vector"
  | .variant => .ok "sql_variant"
  | .table | .udt => .error (.usageError "no meta type name")

scoped instance mssqlTds : MssqlTds where
  SqlString := String
  SqlXml := String
  SqlJson := String
  SqlVector := Vector
  DecimalParts := Decimal
  SqlDate := Nat
  TvpRows := Unit
  UdtBytes := List UInt8
  fromUtf8String := id
  toUtf8String := id
  xmlFrom := id
  xmlAsString := id
  jsonFrom := id
  jsonAsString := id
  dimensionCount := Vector.dimensions
  baseType := Vector.baseType
  precision := Decimal.precision
  scale := Decimal.scale
  decimalFromString := Decimal.ofText
  decimalToString := Decimal.toText
  createDate n := if n ≤ lastSqlDay then .ok n else .error (.usageError "date out of range")
  getDays := id
  metaTypeName := metaTypeName
  string_text _ := rfl
  xml_text _ := rfl
  json_text _ := rfl
  createDate_ok_iff n d := by
    constructor
    · intro h
      split at h <;> cases h
      exact ⟨‹_›, rfl⟩
    · rintro ⟨h, rfl⟩
      exact if_pos h
  createDate_accepts n h := ⟨n, if_pos h⟩

/-- A client fresh from `connect`. -/
def client : Client where
  inner := {}
  sendStringParametersAsUnicode := true
  preparedSession := 0

end TiberiusBridge.Reference

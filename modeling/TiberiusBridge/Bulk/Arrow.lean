import TiberiusBridge.Lib.Compute
import TiberiusBridge.Compat.ColumnData

/-!
# Arrow cells as column values

An array is its data type and its cells, each absent where the validity bitmap
says null. A cell carries the concrete array type it is read from, so that a
failing downcast shows.
-/
namespace TiberiusBridge

open Lib (checkedAddSigned checkedMulUnsigned saturatingMulSigned tryUnsigned)

inductive TimeUnit
  | second
  | millisecond
  | microsecond
  | nanosecond
  deriving DecidableEq, Repr

/-- `Debug`. -/
def TimeUnit.debug : TimeUnit → String
  | second => "Second"
  | millisecond => "Millisecond"
  | microsecond => "Microsecond"
  | nanosecond => "Nanosecond"

inductive DataType
  | boolean
  | int8
  | int16
  | int32
  | int64
  | uint8
  | uint16
  | uint32
  | float32
  | float64
  | utf8
  | largeUtf8
  | binary
  | largeBinary
  | fixedSizeBinary (width : Int)
  | date32
  | time64 (unit : TimeUnit)
  | timestamp (unit : TimeUnit) (tz : Option String)
  | decimal128 (precision : Nat) (scale : Int)
  /-- Any other type, by its `Debug` text. -/
  | other (debug : String)
  deriving DecidableEq, Repr

inductive ArrowCell
  | boolean (v : Bool)
  | int8 (v : Int8)
  | int16 (v : Int16)
  | int32 (v : Int32)
  | int64 (v : Int64)
  | uint8 (v : UInt8)
  | uint16 (v : UInt16)
  | uint32 (v : UInt32)
  | float32 (v : F32)
  | float64 (v : F64)
  | string (v : String)
  | largeString (v : String)
  | binary (v : List UInt8)
  | largeBinary (v : List UInt8)
  | fixedSizeBinary (v : List UInt8)
  | date32 (v : Int32)
  | time64Microsecond (v : Int64)
  | time64Nanosecond (v : Int64)
  | timestampSecond (v : Int64)
  | timestampMillisecond (v : Int64)
  | timestampMicrosecond (v : Int64)
  | timestampNanosecond (v : Int64)
  /-- The coefficient, an `i128`. -/
  | decimal128 (v : Int)
  | other

structure ArrowArray where
  dataType : DataType
  cells : List (Option ArrowCell)

/-- Days from 0001-01-01 to 1970-01-01. -/
def arrowEpochOffsetDays : Int := 719162

variable [MssqlTds]

def usage (msg : String) : Error := .tds (.usageError msg)

/-- `Display` of `TryFromIntError`. Its words are those of the toolchain, and may change with it. -/
def tryFromIntError : String := "out of range integral type conversion attempted"

def downcast {α : Type} (label : String) (value : Option α) : Result α :=
  match value with
  | some v => .ok v
  | none => .error (usage s!"internal: failed to downcast Arrow array as {label}")

def okOr {α : Type} (e : Error) : Option α → Result α
  | some v => .ok v
  | none => .error e

theorem okOr_ok {α : Type} {e : Error} {o : Option α} {v : α} (h : okOr e o = .ok v) :
    o = some v := by
  cases o with
  | none => cases h
  | some => cases h; rfl

/-- A raw coefficient with the scale, as text. -/
def formatDecimal128 (raw : Int) (scale : Int) : String :=
  if scale ≤ 0 then toString raw ++ String.ofList (List.replicate scale.natAbs '0')
  else
    let scale := scale.natAbs
    let mag := (toString raw.natAbs).toList
    let s :=
      if mag.length > scale then
        let split := mag.length - scale
        mag.take split ++ '.' :: mag.drop split
      else '0' :: '.' :: (List.replicate (scale - mag.length) '0' ++ mag)
    if raw < 0 then String.ofList ('-' :: s) else String.ofList s

def nullForArrowType : DataType → ColumnValues
  | .boolean => .bit false
  | .int8 | .int16 => .smallInt 0
  | .int32 | .uint16 => .int 0
  | .int64 | .uint32 => .bigInt 0
  | .uint8 => .tinyInt 0
  | .float32 => .real ⟨0⟩
  | .float64 => .float ⟨0⟩
  | .utf8 | .largeUtf8 => .string (MssqlTds.fromUtf8String "")
  | .binary | .largeBinary | .fixedSizeBinary _ => .bytes []
  | _ => .bytes []

def date32ToColumnValue (daysFromUnixEpoch : Int) : Result ColumnValues := do
  let days ← okOr (usage "Date32 overflow translating to TDS DATE")
    (checkedAddSigned 32 daysFromUnixEpoch arrowEpochOffsetDays)
  let days ← okOr
    (usage (s!"Date32 value {daysFromUnixEpoch} predates SQL Server DATE epoch (0001-01-01): " ++
      tryFromIntError))
    (tryUnsigned 32 days)
  let date ← (MssqlTds.createDate days).mapError .tds
  return .date date

def time64Nanos (unit : TimeUnit) (cell : ArrowCell) : Result Nat := do
  let negative := usage ("Time64 value must not be negative: " ++ tryFromIntError)
  match unit with
  | .microsecond =>
    let v ← downcast "Time64(µs)"
      (match cell with | .time64Microsecond v => some v | _ => none)
    let micros ← okOr negative (tryUnsigned 64 v.toInt)
    okOr (usage "Time64 overflow translating to TDS TIME") (checkedMulUnsigned 64 micros 1000)
  | .nanosecond =>
    let v ← downcast "Time64(ns)"
      (match cell with | .time64Nanosecond v => some v | _ => none)
    okOr negative (tryUnsigned 64 v.toInt)
  | _ => .error (usage ("Time64 unsupported time unit " ++ unit.debug))

def time64ToColumnValue (unit : TimeUnit) (cell : ArrowCell) : Result ColumnValues := do
  let nanos ← time64Nanos unit cell
  if nanos ≥ 86400 * 1000000000 then
    .error (usage "Time64 value must be less than one day")
  else return .time { timeNanoseconds := nanos, scale := defaultVartimeScale }

def timestampNanos (unit : TimeUnit) (cell : ArrowCell) : Result Int := do
  match unit with
  | .second =>
    let v ← downcast "Timestamp(s)"
      (match cell with | .timestampSecond v => some v | _ => none)
    return saturatingMulSigned 64 v.toInt 1000000000
  | .millisecond =>
    let v ← downcast "Timestamp(ms)"
      (match cell with | .timestampMillisecond v => some v | _ => none)
    return saturatingMulSigned 64 v.toInt 1000000
  | .microsecond =>
    let v ← downcast "Timestamp(µs)"
      (match cell with | .timestampMicrosecond v => some v | _ => none)
    return saturatingMulSigned 64 v.toInt 1000
  | .nanosecond =>
    let v ← downcast "Timestamp(ns)"
      (match cell with | .timestampNanosecond v => some v | _ => none)
    return v.toInt

def timestampToColumnValue (unit : TimeUnit) (cell : ArrowCell) : Result ColumnValues := do
  let nanosSinceUnix ← timestampNanos unit cell
  let nanosPerDay : Int := 86400 * 1000000000
  let daysUnix := nanosSinceUnix / nanosPerDay
  let intraday ← okOr
    (usage ("Timestamp has invalid intraday nanoseconds: " ++ tryFromIntError))
    (tryUnsigned 64 (nanosSinceUnix % nanosPerDay))
  let daysTds ← okOr (usage "Timestamp overflow translating to TDS DATETIME2")
    (checkedAddSigned 64 daysUnix arrowEpochOffsetDays)
  let daysTds ← okOr
    (usage ("Timestamp predates SQL Server DATETIME2 epoch (0001-01-01): " ++ tryFromIntError))
    (tryUnsigned 32 daysTds)
  return .dateTime2 {
    days := daysTds
    time := { timeNanoseconds := intraday, scale := defaultVartimeScale } }

def decimal128ToColumnValue (precision : Nat) (scale : Int) (raw : Int) :
    Result ColumnValues := do
  let tdsScale ← okOr
    (usage ("Decimal128 negative scale is unsupported for TDS DECIMAL: " ++ tryFromIntError))
    (tryUnsigned 8 scale)
  let parts ← (MssqlTds.decimalFromString (formatDecimal128 raw scale) precision
    tdsScale).mapError .tds
  return .decimal parts

theorem decimal128ToColumnValue_ok {precision : Nat} {scale raw : Int} {value : ColumnValues}
    (h : decimal128ToColumnValue precision scale raw = .ok value) :
    0 ≤ scale ∧ scale < 2 ^ 8 ∧ ∃ parts,
      MssqlTds.decimalFromString (formatDecimal128 raw scale) precision scale.toNat = .ok parts ∧
        value = .decimal parts := by
  obtain ⟨tdsScale, hs, h⟩ := Lib.Compute.bind_ok h
  obtain ⟨parts, hparts, h⟩ := Lib.Compute.bind_ok h
  cases h
  obtain ⟨hpos, hlt, hscale⟩ := Lib.tryUnsigned_eq_some (okOr_ok hs)
  have hnat : scale.toNat = tdsScale := by omega
  rw [hnat]
  cases hfrom : MssqlTds.decimalFromString (formatDecimal128 raw scale) precision tdsScale with
  | error e =>
    rw [hfrom] at hparts
    cases hparts
  | ok parts' =>
    rw [hfrom] at hparts
    cases hparts
    exact ⟨hpos, hlt, _, rfl, rfl⟩

/-- A cell that is not null. -/
def cellToColumnValue (dataType : DataType) (cell : ArrowCell) : Result ColumnValues := do
  match dataType with
  | .boolean =>
    return .bit (← downcast "Boolean" (match cell with | .boolean v => some v | _ => none))
  | .int8 =>
    let v ← downcast "Int8" (match cell with | .int8 v => some v | _ => none)
    return .smallInt v.toInt16
  | .int16 =>
    return .smallInt (← downcast "Int16" (match cell with | .int16 v => some v | _ => none))
  | .int32 => return .int (← downcast "Int32" (match cell with | .int32 v => some v | _ => none))
  | .int64 =>
    return .bigInt (← downcast "Int64" (match cell with | .int64 v => some v | _ => none))
  | .uint8 =>
    return .tinyInt (← downcast "UInt8" (match cell with | .uint8 v => some v | _ => none))
  | .uint16 =>
    let v ← downcast "UInt16" (match cell with | .uint16 v => some v | _ => none)
    return .int v.toUInt32.toInt32
  | .uint32 =>
    let v ← downcast "UInt32" (match cell with | .uint32 v => some v | _ => none)
    return .bigInt v.toUInt64.toInt64
  | .float32 =>
    return .real (← downcast "Float32" (match cell with | .float32 v => some v | _ => none))
  | .float64 =>
    return .float (← downcast "Float64" (match cell with | .float64 v => some v | _ => none))
  | .utf8 =>
    let v ← downcast "Utf8" (match cell with | .string v => some v | _ => none)
    return .string (MssqlTds.fromUtf8String v)
  | .largeUtf8 =>
    let v ← downcast "LargeUtf8" (match cell with | .largeString v => some v | _ => none)
    return .string (MssqlTds.fromUtf8String v)
  | .binary =>
    return .bytes (← downcast "Binary" (match cell with | .binary v => some v | _ => none))
  | .largeBinary =>
    return .bytes
      (← downcast "LargeBinary" (match cell with | .largeBinary v => some v | _ => none))
  | .fixedSizeBinary _ =>
    return .bytes
      (← downcast "FixedSizeBinary" (match cell with | .fixedSizeBinary v => some v | _ => none))
  | .date32 =>
    let v ← downcast "Date32" (match cell with | .date32 v => some v | _ => none)
    date32ToColumnValue v.toInt
  | .time64 unit => time64ToColumnValue unit cell
  | .timestamp unit _ => timestampToColumnValue unit cell
  | .decimal128 precision scale =>
    let v ← downcast "Decimal128" (match cell with | .decimal128 v => some v | _ => none)
    decimal128ToColumnValue precision scale v
  | .other debug =>
    .error (usage s!"unsupported Arrow data type {debug} for bulk_insert::send_arrow")

def arrowValueToColumnValue (array : ArrowArray) (idx : Nat) : Result ColumnValues :=
  match array.cells[idx]? with
  | none =>
    let length := array.cells.length
    .error (usage s!"Arrow row index {idx} is out of bounds for array length {length}")
  | some none => .ok (nullForArrowType array.dataType)
  | some (some cell) => cellToColumnValue array.dataType cell

end TiberiusBridge

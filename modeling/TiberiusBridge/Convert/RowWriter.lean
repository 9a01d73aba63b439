import TiberiusBridge.Convert.RowReads

/-!
# The row writer

The driver hands over each cell by a method of its type. Each method pushes the
cell and its cached text, and taking the row leaves both lists empty, so the
rows taken are the cells written since the row before.
-/
namespace TiberiusBridge

open Lib (Compute)

variable [MssqlTds]

/-- Text as it stands on the wire. -/
class WireText [MssqlTds] where
  EncodingType : Type
  /-- `SqlString::new`. -/
  sqlString : List UInt8 → EncodingType → SqlString

export WireText (EncodingType)

namespace BridgeRowWriter

def push (w : BridgeRowWriter) (value : ColumnValues) (decoded : Option String) :
    BridgeRowWriter :=
  { w with values := w.values ++ [value], decodedStrings := w.decodedStrings ++ [decoded] }

def writeNull (w : BridgeRowWriter) : BridgeRowWriter := w.push .null none

def writeBool (w : BridgeRowWriter) (val : Bool) : BridgeRowWriter := w.push (.bit val) none

def writeU8 (w : BridgeRowWriter) (val : UInt8) : BridgeRowWriter := w.push (.tinyInt val) none

def writeI16 (w : BridgeRowWriter) (val : Int16) : BridgeRowWriter := w.push (.smallInt val) none

def writeI32 (w : BridgeRowWriter) (val : Int32) : BridgeRowWriter := w.push (.int val) none

def writeI64 (w : BridgeRowWriter) (val : Int64) : BridgeRowWriter := w.push (.bigInt val) none

def writeF32 (w : BridgeRowWriter) (val : F32) : BridgeRowWriter := w.push (.real val) none

def writeF64 (w : BridgeRowWriter) (val : F64) : BridgeRowWriter := w.push (.float val) none

def writeString [WireText] (w : BridgeRowWriter) (val : List UInt8) (encoding : EncodingType) :
    BridgeRowWriter :=
  let val := WireText.sqlString val encoding
  w.push (.string val) (some (MssqlTds.toUtf8String val))

def writeBytes (w : BridgeRowWriter) (val : List UInt8) : BridgeRowWriter :=
  w.push (.bytes val) none

def writeDecimal (w : BridgeRowWriter) (val : DecimalParts) : BridgeRowWriter :=
  w.push (.decimal val) none

def writeNumeric (w : BridgeRowWriter) (val : DecimalParts) : BridgeRowWriter :=
  w.push (.numeric val) none

def writeDate (w : BridgeRowWriter) (val : SqlDate) : BridgeRowWriter := w.push (.date val) none

def writeTime (w : BridgeRowWriter) (val : SqlTime) : BridgeRowWriter := w.push (.time val) none

def writeDatetime (w : BridgeRowWriter) (val : SqlDateTime) : BridgeRowWriter :=
  w.push (.dateTime val) none

def writeSmalldatetime (w : BridgeRowWriter) (val : SqlSmallDateTime) : BridgeRowWriter :=
  w.push (.smallDateTime val) none

def writeDatetime2 (w : BridgeRowWriter) (val : SqlDateTime2) : BridgeRowWriter :=
  w.push (.dateTime2 val) none

def writeDatetimeoffset (w : BridgeRowWriter) (val : SqlDateTimeOffset) : BridgeRowWriter :=
  w.push (.dateTimeOffset val) none

def writeMoney (w : BridgeRowWriter) (val : SqlMoney) : BridgeRowWriter := w.push (.money val) none

def writeSmallmoney (w : BridgeRowWriter) (val : SqlSmallMoney) : BridgeRowWriter :=
  w.push (.smallMoney val) none

def writeUuid (w : BridgeRowWriter) (val : Uuid) : BridgeRowWriter := w.push (.uuid val) none

def writeXml (w : BridgeRowWriter) (val : SqlXml) : BridgeRowWriter :=
  w.push (.xml val) (some (MssqlTds.xmlAsString val))

def writeJson (w : BridgeRowWriter) (val : SqlJson) : BridgeRowWriter :=
  w.push (.json val) (some (MssqlTds.jsonAsString val))

def writeVector (w : BridgeRowWriter) (val : SqlVector) : BridgeRowWriter :=
  w.push (.vector val) none

/-- The row is taken by `takeRow`. -/
def endRow (w : BridgeRowWriter) : BridgeRowWriter := w

end BridgeRowWriter

/-- One call on a writer. The column position the driver passes is not read. -/
inductive WriterCall [WireText]
  | writeNull
  | writeBool (val : Bool)
  | writeU8 (val : UInt8)
  | writeI16 (val : Int16)
  | writeI32 (val : Int32)
  | writeI64 (val : Int64)
  | writeF32 (val : F32)
  | writeF64 (val : F64)
  | writeString (val : List UInt8) (encoding : EncodingType)
  | writeBytes (val : List UInt8)
  | writeDecimal (val : DecimalParts)
  | writeNumeric (val : DecimalParts)
  | writeDate (val : SqlDate)
  | writeTime (val : SqlTime)
  | writeDatetime (val : SqlDateTime)
  | writeSmalldatetime (val : SqlSmallDateTime)
  | writeDatetime2 (val : SqlDateTime2)
  | writeDatetimeoffset (val : SqlDateTimeOffset)
  | writeMoney (val : SqlMoney)
  | writeSmallmoney (val : SqlSmallMoney)
  | writeUuid (val : Uuid)
  | writeXml (val : SqlXml)
  | writeJson (val : SqlJson)
  | writeVector (val : SqlVector)
  | endRow
  | takeRow

variable [WireText]

/-- The row a call takes, and the writer after it. -/
def BridgeRowWriter.call (w : BridgeRowWriter) : WriterCall → Option Row × BridgeRowWriter
  | .writeNull => (none, w.writeNull)
  | .writeBool val => (none, w.writeBool val)
  | .writeU8 val => (none, w.writeU8 val)
  | .writeI16 val => (none, w.writeI16 val)
  | .writeI32 val => (none, w.writeI32 val)
  | .writeI64 val => (none, w.writeI64 val)
  | .writeF32 val => (none, w.writeF32 val)
  | .writeF64 val => (none, w.writeF64 val)
  | .writeString val encoding => (none, w.writeString val encoding)
  | .writeBytes val => (none, w.writeBytes val)
  | .writeDecimal val => (none, w.writeDecimal val)
  | .writeNumeric val => (none, w.writeNumeric val)
  | .writeDate val => (none, w.writeDate val)
  | .writeTime val => (none, w.writeTime val)
  | .writeDatetime val => (none, w.writeDatetime val)
  | .writeSmalldatetime val => (none, w.writeSmalldatetime val)
  | .writeDatetime2 val => (none, w.writeDatetime2 val)
  | .writeDatetimeoffset val => (none, w.writeDatetimeoffset val)
  | .writeMoney val => (none, w.writeMoney val)
  | .writeSmallmoney val => (none, w.writeSmallmoney val)
  | .writeUuid val => (none, w.writeUuid val)
  | .writeXml val => (none, w.writeXml val)
  | .writeJson val => (none, w.writeJson val)
  | .writeVector val => (none, w.writeVector val)
  | .endRow => (none, w.endRow)
  | .takeRow => (some w.takeRow.1, w.takeRow.2)

/-- The rows taken in a sequence of calls, and the writer after it. -/
def BridgeRowWriter.run (w : BridgeRowWriter) : List WriterCall → List Row × BridgeRowWriter
  | [] => ([], w)
  | c :: cs =>
    let (row, w) := w.call c
    let (rows, w) := w.run cs
    (row.toList ++ rows, w)

/-- The cell a call writes. -/
def WriterCall.cell : WriterCall → Option ColumnValues
  | .writeNull => some .null
  | .writeBool val => some (.bit val)
  | .writeU8 val => some (.tinyInt val)
  | .writeI16 val => some (.smallInt val)
  | .writeI32 val => some (.int val)
  | .writeI64 val => some (.bigInt val)
  | .writeF32 val => some (.real val)
  | .writeF64 val => some (.float val)
  | .writeString val encoding => some (.string (WireText.sqlString val encoding))
  | .writeBytes val => some (.bytes val)
  | .writeDecimal val => some (.decimal val)
  | .writeNumeric val => some (.numeric val)
  | .writeDate val => some (.date val)
  | .writeTime val => some (.time val)
  | .writeDatetime val => some (.dateTime val)
  | .writeSmalldatetime val => some (.smallDateTime val)
  | .writeDatetime2 val => some (.dateTime2 val)
  | .writeDatetimeoffset val => some (.dateTimeOffset val)
  | .writeMoney val => some (.money val)
  | .writeSmallmoney val => some (.smallMoney val)
  | .writeUuid val => some (.uuid val)
  | .writeXml val => some (.xml val)
  | .writeJson val => some (.json val)
  | .writeVector val => some (.vector val)
  | .endRow => none
  | .takeRow => none

/-- The cells of each row taken, after those already written, and the cells left over. -/
def rowCells (written : List ColumnValues) : List WriterCall → List (List ColumnValues)
  | [] => []
  | .takeRow :: cs => written :: rowCells [] cs
  | c :: cs => rowCells (written ++ c.cell.toList) cs

/-- The cells a row caches the text of. -/
def ColumnValues.IsText : ColumnValues → Prop
  | .string _ | .xml _ | .json _ => True
  | _ => False

omit [WireText] in
theorem decodedText_isSome_iff (v : ColumnValues) : (decodedText v).isSome ↔ v.IsText := by
  cases v with
  | string | xml | json => exact iff_of_true rfl trivial
  | _ => exact iff_of_false Bool.false_ne_true id

namespace WriterCall

variable {c : WriterCall}

theorem call_write {v : ColumnValues} (h : c.cell = some v) (w : BridgeRowWriter) :
    w.call c = (none, w.write v) := by
  cases c with
  | endRow | takeRow => cases h
  | _ => cases h; rfl

/-- The calls that write nothing. -/
theorem eq_of_cell_none (h : c.cell = none) : c = endRow ∨ c = takeRow := by
  cases c with
  | endRow => exact .inl rfl
  | takeRow => exact .inr rfl
  | _ => cases h

theorem rowCells_write {v : ColumnValues} (h : c.cell = some v) (written : List ColumnValues)
    (cs : List WriterCall) : rowCells written (c :: cs) = rowCells (written ++ [v]) cs := by
  cases c with
  | endRow | takeRow => cases h
  | _ => cases h; rfl

theorem rowCells_endRow (written : List ColumnValues) (cs : List WriterCall) :
    rowCells written (endRow :: cs) = rowCells written cs := by
  rw [rowCells, cell, Option.toList_none, List.append_nil]
  intro h
  cases h

end WriterCall

namespace BridgeRowWriter

/-- A writer that holds the cells written since the last row was taken. -/
def holding (schema : RowSchema) (index : Nat) (written : List ColumnValues) : BridgeRowWriter :=
  { schema, resultIndex := index, values := written, decodedStrings := written.map decodedText }

omit [WireText] in
theorem holding_write (schema : RowSchema) (index : Nat) (written : List ColumnValues)
    (v : ColumnValues) :
    (holding schema index written).write v = holding schema index (written ++ [v]) := by
  simp [holding, write]

/-- Every sequence of calls takes the rows of the cells written, and no other. -/
theorem run_holding (schema : RowSchema) (index : Nat) (written : List ColumnValues)
    (cs : List WriterCall) :
    ((holding schema index written).run cs).1 =
      (rowCells written cs).map (rowOf schema index) := by
  induction cs generalizing written with
  | nil => rfl
  | cons c cs ih =>
    cases hcell : c.cell with
    | some v =>
      have htail := ih (written ++ [v])
      rw [WriterCall.rowCells_write hcell, ← htail, run, WriterCall.call_write hcell,
        holding_write]
      rfl
    | none =>
      obtain rfl | rfl := WriterCall.eq_of_cell_none hcell
      · rw [WriterCall.rowCells_endRow, ← ih written]
        rfl
      · rw [rowCells, List.map_cons, ← ih []]
        rfl

theorem run_append (w : BridgeRowWriter) (cs more : List WriterCall) :
    w.run (cs ++ more) =
      ((w.run cs).1 ++ ((w.run cs).2.run more).1, ((w.run cs).2.run more).2) := by
  induction cs generalizing w with
  | nil => rfl
  | cons c cs ih =>
    have htail := ih (w.call c).2
    simp only [List.cons_append, run, htail, List.append_assoc]

end BridgeRowWriter

/-- The rows that the two constructors build. -/
inductive Row.Built : Row → Prop
  | fromSchema (schema : RowSchema) (values : List ColumnValues) :
    Row.Built (Row.fromSchema schema values)
  | written (schema : RowSchema) (index : Nat) (calls : List WriterCall) (row : Row)
    (h : row ∈ ((BridgeRowWriter.withResultIndex schema index).run calls).1) : Row.Built row

theorem BridgeRowWriter.taken_eq {schema : RowSchema} {index : Nat} {calls : List WriterCall}
    {row : Row} (h : row ∈ ((withResultIndex schema index).run calls).1) :
    ∃ cells ∈ rowCells [] calls, row = rowOf schema index cells := by
  have hrun := run_holding schema index [] calls
  rw [show holding schema index [] = withResultIndex schema index from rfl] at hrun
  rw [hrun, List.mem_map] at h
  obtain ⟨cells, hcells, rfl⟩ := h
  exact ⟨cells, hcells, rfl⟩

theorem Row.Built.decodedStrings_eq {r : Row} (h : r.Built) :
    r.decodedStrings = r.values.map decodedText := by
  cases h with
  | fromSchema schema values => rfl
  | written schema index calls row h =>
    obtain ⟨cells, -, rfl⟩ := BridgeRowWriter.taken_eq h
    rfl

/-- Two rows that no read tells apart. -/
structure Row.ReadsAs (r s : Row) : Prop where
  values : r.values = s.values
  decodedStrings : r.decodedStrings = s.decodedStrings
  columns : r.columns = s.columns
  cells : r.cells = s.cells
  tryGet : ∀ {α : Type} (fromSql : RowDecoder α) (col : ColumnIndex),
    r.tryGet fromSql col = s.tryGet fromSql col
  get : ∀ {α : Type} (fromSql : RowDecoder α) (col : ColumnIndex),
    r.get fromSql col = s.get fromSql col
  tryGetCompat : ∀ {α : Type} (fromSql : CompatDecoder α) (col : ColumnIndex),
    r.tryGetCompat fromSql col = s.tryGetCompat fromSql col

/-- The cached text of a row lies beside its cells. -/
structure Row.TextInStep (r : Row) : Prop where
  length_eq : r.decodedStrings.length = r.values.length
  isSome_iff : ∀ (i : Nat) (v : ColumnValues), r.values[i]? = some v →
    ((r.decodedStrings[i]?).join.isSome ↔ v.IsText)

/-- What the rows of one writer are, over any sequence of calls on it. -/
structure WriterRows (schema : RowSchema) (index : Nat) (calls : List WriterCall) : Prop where
  taken : ((BridgeRowWriter.withResultIndex schema index).run calls).1 =
    (rowCells [] calls).map (rowOf schema index)
  inStep : ∀ row ∈ ((BridgeRowWriter.withResultIndex schema index).run calls).1, row.TextInStep
  readsAs : ∀ row ∈ ((BridgeRowWriter.withResultIndex schema index).run calls).1,
    row.ReadsAs (Row.fromSchema schema row.values) ∧ row.resultIndex = index
  /-- Later calls add rows and leave the earlier ones. -/
  kept : ∀ more : List WriterCall, ∃ rows,
    ((BridgeRowWriter.withResultIndex schema index).run (calls ++ more)).1 =
      ((BridgeRowWriter.withResultIndex schema index).run calls).1 ++ rows

omit [WireText] in
theorem rowOf_inStep (schema : RowSchema) (index : Nat) (vs : List ColumnValues) :
    (rowOf schema index vs).TextInStep where
  length_eq := List.length_map decodedText
  isSome_iff i v h := by
    have hv : vs[i]? = some v := h
    show (((vs.map decodedText)[i]?).join.isSome ↔ _)
    rw [List.getElem?_map, hv, ← decodedText_isSome_iff]
    rfl

theorem writer_rows (schema : RowSchema) (index : Nat) (calls : List WriterCall) :
    WriterRows schema index calls where
  taken := BridgeRowWriter.run_holding schema index [] calls
  inStep row h := by
    obtain ⟨cells, -, rfl⟩ := BridgeRowWriter.taken_eq h
    exact rowOf_inStep schema index cells
  readsAs row h := by
    obtain ⟨cells, -, rfl⟩ := BridgeRowWriter.taken_eq h
    exact ⟨⟨rfl, rfl, rfl, rfl, fun _ _ => rfl, fun _ _ => rfl, fun _ _ => rfl⟩, rfl⟩
  kept more := by
    rw [BridgeRowWriter.run_append]
    exact ⟨_, rfl⟩

end TiberiusBridge

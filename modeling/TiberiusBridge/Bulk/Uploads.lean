import TiberiusBridge.Bulk.Builder
import TiberiusBridge.Bulk.ReadBack

/-!
# Arrow batches and the rows they are sent as

What a row of a batch hands to the bulk writer does not depend on the writer, and
what a sequence of batches asks of the driver does not depend on where one batch
ends and the next begins. A row whose cells are all accepted is sent as the
tuple of its values.
-/
namespace TiberiusBridge

open Lib (Compute Settings)

theorem uint16_toInt (v : UInt16) : v.toUInt32.toInt32.toInt = v.toNat := by
  have hlt := v.toNat_lt
  have hwide : v.toUInt32.toBitVec.toNat = v.toNat := UInt16.toNat_toUInt32 v
  show v.toUInt32.toBitVec.toInt = _
  rw [BitVec.toInt_eq_toNat_of_lt (by omega), hwide]

theorem uint32_toInt (v : UInt32) : v.toUInt64.toInt64.toInt = v.toNat := by
  have hlt := v.toNat_lt
  have hwide : v.toUInt64.toBitVec.toNat = v.toNat := UInt32.toNat_toUInt64 v
  show v.toUInt64.toBitVec.toInt = _
  rw [BitVec.toInt_eq_toNat_of_lt (by omega), hwide]

section

variable [MssqlTds] [ErrorTexts]

namespace BulkRow

/-- The values that convert, up to the first that does not. -/
def ofResults : List (Result ColumnValues) → BulkRow
  | [] => { cells := [], failure := none }
  | .error e :: _ => { cells := [], failure := some (.usageError e.toText) }
  | .ok value :: rest => { ofResults rest with cells := value :: (ofResults rest).cells }

/-- The values are handed over one by one, then the failure comes to light. -/
def handValues (writer : StreamingBulkLoadWriter) (failure : Option TdsError) :
    List ColumnValues → Nat → List (Nat × ColumnValues) → Written
  | [], columnIndex, sent => ⟨sent, columnIndex, failure.elim (.ok ()) .error⟩
  | value :: rest, columnIndex, sent =>
    match writer (sent ++ [(columnIndex, value)]) with
    | .error e => ⟨sent ++ [(columnIndex, value)], columnIndex, .error e⟩
    | .ok () =>
      handValues writer failure rest (columnIndex + 1) (sent ++ [(columnIndex, value)])

def hand (row : BulkRow) (writer : StreamingBulkLoadWriter) (columnIndex : Nat)
    (sent : List (Nat × ColumnValues)) : Written :=
  handValues writer row.failure row.cells columnIndex sent

variable {results : List (Result ColumnValues)}

/-- A row stops before its first value that does not convert, with the text of that error. -/
theorem ofResults_stops {e : TdsError} (h : (ofResults results).failure = some e) :
    ∃ values err rest, results = values.map .ok ++ .error err :: rest ∧
      ofResults results = { cells := values, failure := some (.usageError err.toText) } := by
  induction results with
  | nil => cases h
  | cons result rest ih =>
    cases result with
    | error err => exact ⟨[], err, rest, rfl, rfl⟩
    | ok value =>
      obtain ⟨values, err, rest', rfl, hrow⟩ := ih h
      refine ⟨value :: values, err, rest', rfl, ?_⟩
      rw [ofResults, hrow]

theorem ofResults_whole_iff :
    (ofResults results).failure = none ↔ ∀ result ∈ results, ∃ value, result = .ok value := by
  constructor
  · intro h result hresult
    induction results with
    | nil => cases hresult
    | cons first rest ih =>
      cases first with
      | error err => cases h
      | ok value =>
        rcases List.mem_cons.mp hresult with rfl | hrest
        · exact ⟨value, rfl⟩
        · exact ih h hrest
  · intro h
    cases hfailure : (ofResults results).failure with
    | none => rfl
    | some e =>
      obtain ⟨values, err, rest, rfl, -⟩ := ofResults_stops hfailure
      obtain ⟨value, hvalue⟩ := h _ (List.mem_append_right _ List.mem_cons_self)
      cases hvalue

end BulkRow

namespace TokenRow

def writeColumns (writer : StreamingBulkLoadWriter) :
    List ColumnData → Nat → List (Nat × ColumnValues) → Written
  | [], columnIndex, sent => ⟨sent, columnIndex, .ok ()⟩
  | value :: rest, columnIndex, sent =>
    match value.intoColumnValue with
    | .error e => ⟨sent, columnIndex, .error (.usageError e.toText)⟩
    | .ok value =>
      match writer (sent ++ [(columnIndex, value)]) with
      | .error e => ⟨sent ++ [(columnIndex, value)], columnIndex, .error e⟩
      | .ok () => writeColumns writer rest (columnIndex + 1) (sent ++ [(columnIndex, value)])

/-- `BulkLoadRow::write_to_packet` at a writer. -/
def write (row : TokenRow) (writer : StreamingBulkLoadWriter) (columnIndex : Nat) : Written :=
  writeColumns writer row.data columnIndex []

theorem writeToPacket_eq (row : TokenRow) :
    row.writeToPacket = .ofResults (row.data.map ColumnData.intoColumnValue) := by
  obtain ⟨data⟩ := row
  induction data with
  | nil => rfl
  | cons value rest ih =>
    rw [List.map_cons]
    show writeValues (value :: rest) = _
    rw [writeValues]
    cases value.intoColumnValue with
    | error e => rfl
    | ok cell =>
      dsimp only
      rw [BulkRow.ofResults, ← ih]
      rfl

theorem writeColumns_eq (writer : StreamingBulkLoadWriter) (data : List ColumnData)
    (columnIndex : Nat) (sent : List (Nat × ColumnValues)) :
    writeColumns writer data columnIndex sent =
      (BulkRow.ofResults (data.map ColumnData.intoColumnValue)).hand writer columnIndex sent := by
  induction data generalizing columnIndex sent with
  | nil => rfl
  | cons value rest ih =>
    rw [writeColumns, List.map_cons]
    cases value.intoColumnValue with
    | error e => rfl
    | ok value =>
      dsimp only
      rw [BulkRow.hand, BulkRow.ofResults, BulkRow.handValues]
      cases writer (sent ++ [(columnIndex, value)]) with
      | error e => rfl
      | ok _ => exact ih (columnIndex + 1) (sent ++ [(columnIndex, value)])

end TokenRow

namespace ArrowBulkRow

/-- What the writer gets of a row, however it answers. -/
def toBulkRow (row : ArrowBulkRow) : BulkRow :=
  .ofResults (row.batch.columns.map (arrowValueToColumnValue · row.rowIdx))

theorem writeColumns_eq (writer : StreamingBulkLoadWriter) (rowIdx : Nat)
    (columns : List ArrowArray) (columnIndex : Nat) (sent : List (Nat × ColumnValues)) :
    writeColumns writer rowIdx columns columnIndex sent =
      (BulkRow.ofResults (columns.map (arrowValueToColumnValue · rowIdx))).hand writer
        columnIndex sent := by
  induction columns generalizing columnIndex sent with
  | nil => rfl
  | cons array rest ih =>
    rw [writeColumns, List.map_cons]
    cases arrowValueToColumnValue array rowIdx with
    | error e => rfl
    | ok value =>
      dsimp only
      rw [BulkRow.hand, BulkRow.ofResults, BulkRow.handValues]
      cases writer (sent ++ [(columnIndex, value)]) with
      | error e => rfl
      | ok _ => exact ih (columnIndex + 1) (sent ++ [(columnIndex, value)])

/-- The cell is null or accepted. -/
def Sendable (rowIdx : Nat) (array : ArrowArray) : Prop :=
  ∀ cell, array.cells[rowIdx]? = some (some cell) → cell.Accepted array.dataType

theorem toBulkRow_whole_iff {row : ArrowBulkRow} (h : row.rowIdx < row.batch.numRows) :
    row.toBulkRow.failure = none ↔ ∀ array ∈ row.batch.columns, Sendable row.rowIdx array := by
  refine BulkRow.ofResults_whole_iff.trans (List.forall_mem_map.trans ?_)
  refine forall₂_congr fun array harray => ?_
  obtain ⟨k, hk⟩ := List.getElem?_of_mem harray
  exact RecordBatch.converts_iff h hk

/-- The cells of a row, each with the type of its column. -/
def cells (row : ArrowBulkRow) : List (DataType × Option ArrowCell) :=
  row.batch.columns.map fun array => (array.dataType, array.cells[row.rowIdx]?.join)

/-- A row is sent by its cells alone. -/
theorem toBulkRow_eq {row : ArrowBulkRow} (h : row.rowIdx < row.batch.numRows) :
    row.toBulkRow = .ofResults (row.cells.map fun cell =>
      cell.2.elim (.ok (nullForArrowType cell.1)) (cellToColumnValue cell.1)) := by
  unfold toBulkRow cells
  rw [List.map_map]
  refine congrArg _ (List.map_congr_left fun array harray => ?_)
  have hlt : row.rowIdx < array.cells.length := by
    rw [row.batch.columns_length array harray]
    exact h
  unfold arrowValueToColumnValue
  dsimp only [Function.comp_apply]
  rw [List.getElem?_eq_getElem hlt]
  cases array.cells[row.rowIdx] <;> rfl

end ArrowBulkRow

omit [MssqlTds] [ErrorTexts] in
theorem mem_arrowRows {batches : List RecordBatch} {row : ArrowBulkRow}
    (h : row ∈ arrowRows batches) : row.rowIdx < row.batch.numRows := by
  obtain ⟨batch, -, hrow⟩ := List.mem_flatMap.mp h
  obtain ⟨rowIdx, hidx, rfl⟩ := List.mem_map.mp hrow
  exact List.mem_range.mp hidx

namespace BulkInsert

/-- The future of `send` before its first poll. -/
def send (b : BulkInsert) (rows : List TokenRow) : Entry :=
  .bulkSend (b.copy (rows.map TokenRow.writeToPacket))

def sendArrowBatches (b : BulkInsert) (batches : List RecordBatch) : Entry :=
  .bulkSend (b.copy ((arrowRows batches).map ArrowBulkRow.toBulkRow))

def sendArrow (b : BulkInsert) (batch : RecordBatch) : Entry := b.sendArrowBatches [batch]

/-- The same rows are sent, whichever batches they are in. -/
theorem sendArrowBatches_congr (b : BulkInsert) {batches batches' : List RecordBatch}
    (h : (arrowRows batches).map ArrowBulkRow.cells =
      (arrowRows batches').map ArrowBulkRow.cells) :
    b.sendArrowBatches batches = b.sendArrowBatches batches' := by
  have byCells : ∀ batches, (arrowRows batches).map ArrowBulkRow.toBulkRow =
      ((arrowRows batches).map ArrowBulkRow.cells).map fun cells =>
        .ofResults (cells.map fun cell =>
          cell.2.elim (.ok (nullForArrowType cell.1)) (cellToColumnValue cell.1)) := by
    intro batches
    rw [List.map_map]
    exact List.map_congr_left fun row hrow => ArrowBulkRow.toBulkRow_eq (mem_arrowRows hrow)
  unfold sendArrowBatches
  rw [byCells, byCells, h]

end BulkInsert

end

section

variable [MssqlTds]

/-- The types whose values can be bound as they are. -/
def DataType.Plain : DataType → Prop
  | .time64 _ | .timestamp _ _ | .decimal128 _ _ => False
  | _ => True

variable [Chrono]

omit [MssqlTds] in
theorem date32_carries {v : Int32} (h : 0 ≤ v.toInt + arrowEpochOffsetDays)
    (hlast : v.toInt + arrowEpochOffsetDays ≤ lastSqlDay) :
    ∃ d, Chrono.numDaysFromCe d = v.toInt + 719163 := by
  rw [Chrono.date_range]
  unfold arrowEpochOffsetDays at h hlast
  unfold lastSqlDay at hlast
  unfold firstChronoDay lastChronoDay
  omega

/-- The day of a date, by either count. -/
theorem date32_written {v : Int32} {d : NaiveDate}
    (hd : Chrono.numDaysFromCe d = v.toInt + 719163)
    (h : 0 ≤ v.toInt + arrowEpochOffsetDays) (hlast : v.toInt + arrowEpochOffsetDays ≤ lastSqlDay) :
    ∃ sd, IntoSql.native ToSql.naiveDate d = .ok (.date (some sd)) ∧
      date32ToColumnValue v.toInt = .ok (.date sd) := by
  unfold arrowEpochOffsetDays at h hlast
  obtain ⟨sd, hsd, hdays⟩ := ToSql.naiveDateToSql_ok (d := d) ⟨by omega, by omega⟩
  refine ⟨sd, ?_, date32_ok_iff.mpr ⟨sd, rfl, ?_, ?_⟩⟩
  · rw [IntoSql.native, ToSql.naiveDate, hsd]
    rfl
  · unfold arrowEpochOffsetDays
    omega
  · omega

variable [RustDecimal] [JsonNumbers] [TimeCrate] [Jiff]

/-- The value of a cell, as a type that can be bound has it. -/
inductive ArrowCell.Carries : ArrowCell → BindValue → Prop
  | boolean (v : Bool) : Carries (.boolean v) (.plain .bool v)
  | int8 (v : Int8) : Carries (.int8 v) (.plain .i16 v.toInt16)
  | int16 (v : Int16) : Carries (.int16 v) (.plain .i16 v)
  | int32 (v : Int32) : Carries (.int32 v) (.plain .i32 v)
  | int64 (v : Int64) : Carries (.int64 v) (.plain .i64 v)
  | uint8 (v : UInt8) : Carries (.uint8 v) (.plain .u8 v)
  | uint16 (v : UInt16) (w : Int32) (h : w.toInt = v.toNat) : Carries (.uint16 v) (.plain .i32 w)
  | uint32 (v : UInt32) (w : Int64) (h : w.toInt = v.toNat) : Carries (.uint32 v) (.plain .i64 w)
  | float32 (v : F32) : Carries (.float32 v) (.plain .f32 v)
  | float64 (v : F64) : Carries (.float64 v) (.plain .f64 v)
  | string (v : String) : Carries (.string v) (.plain .string v)
  | largeString (v : String) : Carries (.largeString v) (.plain .string v)
  | binary (v : List UInt8) : Carries (.binary v) (.plain .byteVec v)
  | largeBinary (v : List UInt8) : Carries (.largeBinary v) (.plain .byteVec v)
  | fixedSizeBinary (v : List UInt8) : Carries (.fixedSizeBinary v) (.plain .byteVec v)
  /-- Days are counted from 1970, and by chrono from the first day of year 1. -/
  | date32 (v : Int32) (d : NaiveDate) (h : Chrono.numDaysFromCe d = v.toInt + 719163) :
    Carries (.date32 v) (.plain .naiveDate d)

theorem ArrowCell.Accepted.carries {dataType : DataType} {cell : ArrowCell}
    (h : cell.Accepted dataType) (hplain : dataType.Plain) : ∃ x, cell.Carries x := by
  cases cell with
  | boolean v => exact ⟨_, .boolean v⟩
  | int8 v => exact ⟨_, .int8 v⟩
  | int16 v => exact ⟨_, .int16 v⟩
  | int32 v => exact ⟨_, .int32 v⟩
  | int64 v => exact ⟨_, .int64 v⟩
  | uint8 v => exact ⟨_, .uint8 v⟩
  | uint16 v => exact ⟨_, .uint16 v _ (uint16_toInt v)⟩
  | uint32 v => exact ⟨_, .uint32 v _ (uint32_toInt v)⟩
  | float32 v => exact ⟨_, .float32 v⟩
  | float64 v => exact ⟨_, .float64 v⟩
  | string v => exact ⟨_, .string v⟩
  | largeString v => exact ⟨_, .largeString v⟩
  | binary v => exact ⟨_, .binary v⟩
  | largeBinary v => exact ⟨_, .largeBinary v⟩
  | fixedSizeBinary v => exact ⟨_, .fixedSizeBinary v⟩
  | date32 v =>
    cases dataType with
    | date32 =>
      obtain ⟨d, hd⟩ := date32_carries h.1 h.2
      exact ⟨_, .date32 v d hd⟩
    | time64 _ | timestamp _ _ => exact hplain.elim
    | _ => exact h.elim
  | _ => cases dataType <;> first | exact hplain.elim | exact h.elim

theorem ArrowCell.Carries.plain {dataType : DataType} {cell : ArrowCell} {x : BindValue}
    (h : cell.Carries x) (hacc : cell.Accepted dataType) : dataType.Plain := by
  cases dataType with
  | time64 unit => cases h <;> cases unit <;> exact hacc.elim
  | timestamp unit tz => cases h <;> cases unit <;> exact hacc.elim
  | decimal128 precision scale => cases h <;> exact hacc.elim
  | _ => trivial

variable [SerdeJson] [TimeFields] [JiffFields]

/-- A cell that is accepted is sent as the value it carries. -/
theorem ArrowCell.Carries.written {dataType : DataType} {cell : ArrowCell} {x : BindValue}
    (h : cell.Carries x) (hacc : cell.Accepted dataType) : ∃ c value,
      x.intoSql = .ok c ∧ c.intoColumnValue = .ok value ∧
        cellToColumnValue dataType cell = .ok value := by
  have hplain := h.plain hacc
  cases h with
  | date32 v d hd =>
    cases dataType with
    | date32 =>
      obtain ⟨sd, hsent, hconv⟩ := date32_written hd hacc.1 hacc.2
      exact ⟨_, _, hsent, rfl, hconv⟩
    | time64 _ | timestamp _ _ => exact hplain.elim
    | _ => exact hacc.elim
  | uint16 v w hw =>
    obtain rfl := Int32.toInt_inj.mp (hw.trans (uint16_toInt v).symm)
    cases dataType <;> first
      | exact hplain.elim
      | exact hacc.elim
      | exact ⟨_, _, rfl, rfl, rfl⟩
  | uint32 v w hw =>
    obtain rfl := Int64.toInt_inj.mp (hw.trans (uint32_toInt v).symm)
    cases dataType <;> first
      | exact hplain.elim
      | exact hacc.elim
      | exact ⟨_, _, rfl, rfl, rfl⟩
  | _ => cases dataType <;> first
      | exact hplain.elim
      | exact hacc.elim
      | exact ⟨_, _, rfl, rfl, rfl⟩

/-- The cells are accepted, and carry one value a column. -/
def ArrowBulkRow.Carries (row : ArrowBulkRow) (xs : List BindValue) : Prop :=
  List.Forall₂ (fun array x => ∃ cell, array.cells[row.rowIdx]? = some (some cell) ∧
    cell.Accepted array.dataType ∧ cell.Carries x) row.batch.columns xs

variable [ErrorTexts]

/-- Such a row is sent as the tuple of its values. -/
theorem ArrowBulkRow.Carries.intoRow {row : ArrowBulkRow} {xs : List BindValue}
    (h : row.Carries xs) :
    ∃ tokens, TiberiusBridge.intoRow xs = .ok tokens ∧ row.toBulkRow = tokens.writeToPacket := by
  have hcells : ∃ cs, List.Forall₂ (fun x c => x.intoSql = .ok c) xs cs ∧
      row.batch.columns.map (arrowValueToColumnValue · row.rowIdx) =
        cs.map ColumnData.intoColumnValue := by
    unfold Carries at h
    generalize row.batch.columns = columns at h ⊢
    induction h with
    | nil => exact ⟨[], .nil, rfl⟩
    | @cons array x _ _ hcell _ ih =>
      obtain ⟨cell, hat, hacc, hcarries⟩ := hcell
      obtain ⟨c, value, hsent, hvalue, hconv⟩ := hcarries.written hacc
      obtain ⟨cs, hcs, hmap⟩ := ih
      refine ⟨c :: cs, .cons hsent hcs, ?_⟩
      rw [List.map_cons, List.map_cons, hmap, hvalue, arrowValueToColumnValue, hat]
      exact congrArg (· :: _) hconv
  obtain ⟨cs, hcs, hmap⟩ := hcells
  refine ⟨⟨cs⟩, ?_, ?_⟩
  · rw [intoRow_eq, Lib.mapM_ok_iff.mpr hcs]
    rfl
  · rw [ArrowBulkRow.toBulkRow, hmap, TokenRow.writeToPacket_eq]

theorem BulkInsert.sendArrowBatches_tuples (b : BulkInsert) {batches : List RecordBatch}
    {xss : List (List BindValue)} (h : List.Forall₂ ArrowBulkRow.Carries (arrowRows batches) xss) :
    ∃ rows, xss.mapM intoRow = .ok rows ∧ b.sendArrowBatches batches = b.send rows := by
  have hrows : ∃ rows, List.Forall₂ (fun xs tokens => intoRow xs = .ok tokens) xss rows ∧
      (arrowRows batches).map ArrowBulkRow.toBulkRow = rows.map TokenRow.writeToPacket := by
    generalize arrowRows batches = sent at h ⊢
    induction h with
    | nil => exact ⟨[], .nil, rfl⟩
    | cons hrow _ ih =>
      obtain ⟨tokens, htokens, hsame⟩ := hrow.intoRow
      obtain ⟨rows, hrows, hmap⟩ := ih
      exact ⟨tokens :: rows, .cons htokens hrows, congrArg₂ List.cons hsame hmap⟩
  obtain ⟨rows, hrows, hmap⟩ := hrows
  refine ⟨rows, Lib.mapM_ok_iff.mpr hrows, ?_⟩
  rw [sendArrowBatches, hmap]
  rfl

/-- What an upload asks of the driver, whatever builder calls and batches it is made of. -/
structure ArrowUploads : Prop where
  /-- The values of a row and its failure are settled before the writer answers. -/
  handed : ∀ (row : ArrowBulkRow) writer columnIndex,
    row.writeToPacket writer columnIndex = row.toBulkRow.hand writer columnIndex []
  tokens : ∀ (row : TokenRow) writer columnIndex,
    row.write writer columnIndex = row.writeToPacket.hand writer columnIndex []
  whole : ∀ row : ArrowBulkRow, row.rowIdx < row.batch.numRows →
    (row.toBulkRow.failure = none ↔
      ∀ array ∈ row.batch.columns, ArrowBulkRow.Sendable row.rowIdx array)
  /-- Neither the order of the builder's calls matters nor where one batch ends. -/
  asked : ∀ table calls calls' batches batches',
    (∀ k, bulkInsertSettings.told k calls = bulkInsertSettings.told k calls') →
    (arrowRows batches).map ArrowBulkRow.cells = (arrowRows batches').map ArrowBulkRow.cells →
      (bulkInsertSettings.run (.new table) calls).sendArrowBatches batches =
        (bulkInsertSettings.run (.new table) calls').sendArrowBatches batches'
  mapped : ∀ table columns calls,
    (bulkInsertSettings.run (bulkInsertWithColumns table columns) calls).columnMappings =
      columns.zipIdx.map (fun column => ⟨.ordinal column.2, column.1⟩) ++
        calls.filterMap BulkInsertCall.mapping
  /-- Accepted values of plain types are sent as tuples of them are. -/
  tuples : ∀ (b : BulkInsert) batches xss,
    List.Forall₂ ArrowBulkRow.Carries (arrowRows batches) xss →
      ∃ rows, xss.mapM intoRow = .ok rows ∧ b.sendArrowBatches batches = b.send rows
  carried : ∀ (dataType : DataType) (cell : ArrowCell), cell.Accepted dataType →
    ((∃ x, cell.Carries x) ↔ dataType.Plain)

theorem arrow_uploads : ArrowUploads where
  handed row writer columnIndex :=
    ArrowBulkRow.writeColumns_eq writer row.rowIdx row.batch.columns columnIndex []
  tokens row writer columnIndex := by
    rw [TokenRow.writeToPacket_eq]
    exact TokenRow.writeColumns_eq writer row.data columnIndex []
  whole _ h := ArrowBulkRow.toBulkRow_whole_iff h
  asked table calls calls' batches batches' hcalls hcells := by
    rw [Settings.run_told hcalls, BulkInsert.sendArrowBatches_congr _ hcells]
  mapped table columns calls := by
    rw [bulkInsert_columnMappings, bulkInsertWithColumns_eq, bulkInsert_columnMappings,
      List.filterMap_map, BulkInsert.new, List.nil_append]
    exact congrArg (· ++ _) (congrFun List.filterMap_eq_map' columns.zipIdx)
  tuples b _ _ h := b.sendArrowBatches_tuples h
  carried _ _ h := ⟨fun ⟨_, hx⟩ => hx.plain h, h.carries⟩

end

end TiberiusBridge

import TiberiusBridge.Bulk.ArrowRange

/-!
# Nulls in an Arrow batch

A null cell is sent as the zero or the empty value of its column's type. It is
told from a cell that holds that value by nothing that reaches the writer.
-/
namespace TiberiusBridge

open Lib (tryUnsigned tryUnsigned_some tryUnsigned_eq_some checkedMulUnsigned)
open Lib.Compute (ok_bind)

section

variable [MssqlTds]

/-- The texts of what the bridge's errors carry and its own `Display` prints. -/
class ErrorTexts where
  tds : TdsError → String
  conversion : ConversionMessage → String

/-- `Display`. -/
def Error.toText [ErrorTexts] : Error → String
  | .tds e => "TDS error: " ++ ErrorTexts.tds e
  | .columnNotFound name => "Column not found: " ++ name
  | .columnIndexOutOfBounds index count => s!"Column index {index} out of bounds (count: {count})"
  | .conversion message => "Conversion error: " ++ ErrorTexts.conversion message
  | .bulkInput message => "BULK UPLOAD input failure: " ++ message
  | .pool message => "Pool error: " ++ message
  | .invalidPreparedStatement =>
    "Prepared statement belongs to a different or reset client session"

structure RecordBatch where
  columns : List ArrowArray
  numRows : Nat
  columns_length : ∀ array ∈ columns, array.cells.length = numRows

structure ArrowBulkRow where
  batch : RecordBatch
  rowIdx : Nat

/-- What the writer answers once it has been handed these values, the last of them now. -/
abbrev StreamingBulkLoadWriter := List (Nat × ColumnValues) → Except TdsError Unit

/-- What one call hands to the writer, where it leaves the column index, and its result. -/
structure Written where
  sent : List (Nat × ColumnValues)
  columnIndex : Nat
  outcome : Except TdsError Unit

def writeColumns [ErrorTexts] (writer : StreamingBulkLoadWriter) (rowIdx : Nat) :
    List ArrowArray → Nat → List (Nat × ColumnValues) → Written
  | [], columnIndex, sent => ⟨sent, columnIndex, .ok ()⟩
  | array :: rest, columnIndex, sent =>
    match arrowValueToColumnValue array rowIdx with
    | .error e => ⟨sent, columnIndex, .error (.usageError e.toText)⟩
    | .ok value =>
      match writer (sent ++ [(columnIndex, value)]) with
      | .error e => ⟨sent ++ [(columnIndex, value)], columnIndex, .error e⟩
      | .ok () =>
        writeColumns writer rowIdx rest (columnIndex + 1) (sent ++ [(columnIndex, value)])

def ArrowBulkRow.writeToPacket [ErrorTexts] (row : ArrowBulkRow)
    (writer : StreamingBulkLoadWriter) (columnIndex : Nat) : Written :=
  writeColumns writer row.rowIdx row.batch.columns columnIndex []

/-- The rows `send_arrow_batches` sends, batch after batch. -/
def arrowRows (batches : List RecordBatch) : List ArrowBulkRow :=
  batches.flatMap fun batch => (List.range batch.numRows).map (ArrowBulkRow.mk batch)

/-- The cell of column `k` converts to `value`, and so does every cell before it to something. -/
def Handed (rowIdx : Nat) (columns : List ArrowArray) (k : Nat) (value : ColumnValues) : Prop :=
  (∃ array, columns[k]? = some array ∧ arrowValueToColumnValue array rowIdx = .ok value) ∧
    ∀ j < k, ∀ array, columns[j]? = some array →
      ∃ v, arrowValueToColumnValue array rowIdx = .ok v

theorem handed_zero {rowIdx : Nat} {array : ArrowArray} {rest : List ArrowArray}
    {value : ColumnValues} (h : arrowValueToColumnValue array rowIdx = .ok value) :
    Handed rowIdx (array :: rest) 0 value :=
  ⟨⟨array, rfl, h⟩, fun _ hj => absurd hj (Nat.not_lt_zero _)⟩

theorem handed_succ_iff {rowIdx k : Nat} {array : ArrowArray} {rest : List ArrowArray}
    {value : ColumnValues} :
    Handed rowIdx (array :: rest) (k + 1) value ↔
      (∃ v, arrowValueToColumnValue array rowIdx = .ok v) ∧ Handed rowIdx rest k value := by
  constructor
  · rintro ⟨hvalue, hbefore⟩
    refine ⟨hbefore 0 (Nat.succ_pos k) array rfl, hvalue, ?_⟩
    intro j hj
    exact hbefore (j + 1) (Nat.succ_lt_succ hj)
  · rintro ⟨hfirst, hvalue, hbefore⟩
    refine ⟨hvalue, ?_⟩
    intro j hj other hother
    cases j with
    | zero =>
      cases hother
      exact hfirst
    | succ j => exact hbefore j (Nat.lt_of_succ_lt_succ hj) other hother

section

variable [ErrorTexts]

/-- Whatever the writer answers, it is handed converted cells under their own index. -/
theorem writeColumns_handed {writer : StreamingBulkLoadWriter} {rowIdx : Nat}
    {entry : Nat × ColumnValues} :
    ∀ {columns : List ArrowArray} {start : Nat} {sent : List (Nat × ColumnValues)},
      entry ∈ (writeColumns writer rowIdx columns start sent).sent →
        entry ∈ sent ∨ ∃ k, entry.1 = start + k ∧ Handed rowIdx columns k entry.2 := by
  intro columns
  induction columns with
  | nil =>
    intro start sent h
    exact Or.inl h
  | cons array rest ih =>
    intro start sent h
    unfold writeColumns at h
    cases hconv : arrowValueToColumnValue array rowIdx with
    | error e =>
      rw [hconv] at h
      exact Or.inl h
    | ok value =>
      rw [hconv] at h
      have hlast : entry ∈ sent ++ [(start, value)] →
          entry ∈ sent ∨ ∃ k, entry.1 = start + k ∧ Handed rowIdx (array :: rest) k entry.2 := by
        intro hentry
        rcases List.mem_append.mp hentry with hold | hnew
        · exact Or.inl hold
        · rw [List.mem_singleton.mp hnew]
          exact Or.inr ⟨0, rfl, handed_zero hconv⟩
      cases hanswer : writer (sent ++ [(start, value)]) with
      | error e =>
        simp only [hanswer] at h
        exact hlast h
      | ok _ =>
        simp only [hanswer] at h
        rcases ih h with hentry | ⟨k, hk, hhanded⟩
        · exact hlast hentry
        · exact Or.inr ⟨k + 1, by omega, handed_succ_iff.mpr ⟨⟨value, hconv⟩, hhanded⟩⟩

/-- A writer that accepts everything is handed every cell before the first that fails. -/
theorem writeColumns_accepting {rowIdx : Nat} :
    ∀ {columns : List ArrowArray} {start : Nat} {sent : List (Nat × ColumnValues)},
      (∀ entry ∈ sent, entry ∈ (writeColumns (fun _ => .ok ()) rowIdx columns start sent).sent) ∧
      ∀ k value, Handed rowIdx columns k value →
        (start + k, value) ∈ (writeColumns (fun _ => .ok ()) rowIdx columns start sent).sent := by
  intro columns
  induction columns with
  | nil =>
    intro start sent
    refine ⟨fun entry h => h, ?_⟩
    rintro k value ⟨⟨array, harray, -⟩, -⟩
    cases harray
  | cons array rest ih =>
    intro start sent
    unfold writeColumns
    cases hconv : arrowValueToColumnValue array rowIdx with
    | error e =>
      refine ⟨fun entry h => h, ?_⟩
      intro k value h
      cases k with
      | zero =>
        obtain ⟨⟨other, hother, hvalue⟩, -⟩ := h
        cases hother
        cases hconv.symm.trans hvalue
      | succ k =>
        obtain ⟨v, hv⟩ := (handed_succ_iff.mp h).1
        cases hconv.symm.trans hv
    | ok first =>
      obtain ⟨hkept, hall⟩ := @ih (start + 1) (sent ++ [(start, first)])
      refine ⟨fun entry h => hkept entry (List.mem_append_left _ h), ?_⟩
      intro k value h
      cases k with
      | zero =>
        obtain ⟨⟨other, hother, hvalue⟩, -⟩ := h
        cases hother
        cases hconv.symm.trans hvalue
        exact hkept _ (List.mem_append_right _ List.mem_cons_self)
      | succ k =>
        have hentry := hall k value (handed_succ_iff.mp h).2
        rwa [Nat.add_right_comm] at hentry

end

/-- The cell belongs to the data type and is in the range of its SQL type. -/
def ArrowCell.Accepted : DataType → ArrowCell → Prop
  | .boolean, .boolean _ | .int8, .int8 _ | .int16, .int16 _ | .int32, .int32 _
  | .int64, .int64 _ | .uint8, .uint8 _ | .uint16, .uint16 _ | .uint32, .uint32 _
  | .float32, .float32 _ | .float64, .float64 _ | .utf8, .string _
  | .largeUtf8, .largeString _ | .binary, .binary _ | .largeBinary, .largeBinary _
  | .fixedSizeBinary _, .fixedSizeBinary _ => True
  | .date32, .date32 v =>
    0 ≤ v.toInt + arrowEpochOffsetDays ∧ v.toInt + arrowEpochOffsetDays ≤ lastSqlDay
  | .time64 .microsecond, .time64Microsecond v =>
    0 ≤ v.toInt ∧ v.toInt * 1000 < nanosPerDay
  | .time64 .nanosecond, .time64Nanosecond v => 0 ≤ v.toInt ∧ v.toInt < nanosPerDay
  | .timestamp .second _, .timestampSecond _ | .timestamp .millisecond _, .timestampMillisecond _
  | .timestamp .microsecond _, .timestampMicrosecond _
  | .timestamp .nanosecond _, .timestampNanosecond _ => True
  | .decimal128 precision scale, .decimal128 v => 0 ≤ scale ∧ scale < 2 ^ 8 ∧
    ∃ parts, MssqlTds.decimalFromString (formatDecimal128 v scale) precision scale.toNat =
      .ok parts
  | _, _ => False

/-- The cell holds the zero or the empty value. -/
def ArrowCell.IsZero : ArrowCell → Prop
  | .boolean v => v = false
  | .int8 v => v = 0
  | .int16 v => v = 0
  | .int32 v => v = 0
  | .int64 v => v = 0
  | .uint8 v => v = 0
  | .uint16 v => v = 0
  | .uint32 v => v = 0
  | .float32 v => v.bits = 0
  | .float64 v => v.bits = 0
  | .string v | .largeString v => v = ""
  | .binary v | .largeBinary v | .fixedSizeBinary v => v = []
  | _ => False

theorem date32_accepted_iff (v : Int) :
    (∃ value, date32ToColumnValue v = .ok value) ↔
      0 ≤ v + arrowEpochOffsetDays ∧ v + arrowEpochOffsetDays ≤ lastSqlDay := by
  obtain ⟨hin, -⟩ := date32_dayOrError v
  constructor
  · rintro ⟨value, h⟩
    obtain ⟨d, -, hd, hlast⟩ := date32_ok_iff.mp h
    exact ⟨by omega, by omega⟩
  · intro h
    obtain ⟨value, stored, hok, -⟩ := hin h
    exact ⟨value, hok⟩

theorem time64_microsecond_accepted_iff (v : Int64) :
    (∃ value, time64ToColumnValue .microsecond (.time64Microsecond v) = .ok value) ↔
      0 ≤ v.toInt ∧ v.toInt * 1000 < nanosPerDay := by
  constructor
  · rintro ⟨value, h⟩
    obtain ⟨hpos, hlt, -⟩ := @time64_converted _ (.time64 .microsecond) _ _ _ rfl h
    exact ⟨by omega, hlt⟩
  · rintro ⟨hpos, hlt⟩
    unfold nanosPerDay at hlt
    have htry := tryUnsigned_some (w := 64) (n := v.toInt) (by omega)
    have hmul := Lib.checkedMulUnsigned_some (w := 64) (a := v.toInt.toNat) (b := 1000) (by omega)
    have hnanos : time64Nanos .microsecond (.time64Microsecond v) =
        .ok (v.toInt.toNat * 1000) := by
      show (okOr _ (tryUnsigned 64 v.toInt) >>= fun micros =>
        okOr _ (checkedMulUnsigned 64 micros 1000)) = _
      rw [htry, okOr_some, ok_bind, hmul, okOr_some]
    unfold time64ToColumnValue
    rw [hnanos, ok_bind, if_neg (by omega)]
    exact ⟨_, rfl⟩

theorem time64_nanosecond_accepted_iff (v : Int64) :
    (∃ value, time64ToColumnValue .nanosecond (.time64Nanosecond v) = .ok value) ↔
      0 ≤ v.toInt ∧ v.toInt < nanosPerDay := by
  constructor
  · rintro ⟨value, h⟩
    obtain ⟨hpos, hlt, -⟩ := @time64_converted _ (.time64 .nanosecond) _ _ _ rfl h
    exact ⟨hpos, hlt⟩
  · rintro ⟨hpos, hlt⟩
    unfold nanosPerDay at hlt
    have htry := tryUnsigned_some (w := 64) (n := v.toInt) (by omega)
    have hnanos : time64Nanos .nanosecond (.time64Nanosecond v) = .ok v.toInt.toNat := by
      show okOr _ (tryUnsigned 64 v.toInt) = _
      rw [htry, okOr_some]
    unfold time64ToColumnValue
    rw [hnanos, ok_bind, if_neg (by omega)]
    exact ⟨_, rfl⟩

theorem decimal128_accepted_iff (precision : Nat) (scale raw : Int) :
    (∃ value, decimal128ToColumnValue precision scale raw = .ok value) ↔
      0 ≤ scale ∧ scale < 2 ^ 8 ∧ ∃ parts,
        MssqlTds.decimalFromString (formatDecimal128 raw scale) precision scale.toNat =
          .ok parts := by
  constructor
  · rintro ⟨value, h⟩
    obtain ⟨hpos, hlt, parts, hparts, -⟩ := decimal128ToColumnValue_ok h
    exact ⟨hpos, hlt, parts, hparts⟩
  · rintro ⟨hpos, hlt, parts, hparts⟩
    unfold decimal128ToColumnValue
    rw [tryUnsigned_some ⟨hpos, hlt⟩, okOr_some, ok_bind, hparts]
    exact ⟨_, rfl⟩

theorem timestamp_accepted (unit : TimeUnit) (v : Int64) :
    ∃ value, timestampToColumnValue unit (unit.cell v) = .ok value := by
  obtain ⟨days, intraday, hok, -⟩ := timestamp_saturated unit v
  exact ⟨_, hok⟩

theorem refused_iff {dataType : DataType} {cell : ArrowCell} {e : Error}
    (h : cellToColumnValue dataType cell = .error e) (hcell : ¬cell.Accepted dataType) :
    (∃ value, cellToColumnValue dataType cell = .ok value) ↔ cell.Accepted dataType := by
  refine iff_of_false (fun hok => ?_) hcell
  obtain ⟨value, hvalue⟩ := hok
  cases h.symm.trans hvalue

theorem accepted_iff (dataType : DataType) (cell : ArrowCell) :
    (∃ value, cellToColumnValue dataType cell = .ok value) ↔ cell.Accepted dataType := by
  cases dataType with
  | date32 =>
    cases cell with
    | date32 v => exact date32_accepted_iff v.toInt
    | _ => exact refused_iff rfl id
  | time64 unit =>
    cases unit with
    | microsecond =>
      cases cell with
      | time64Microsecond v => exact time64_microsecond_accepted_iff v
      | _ => exact refused_iff rfl id
    | nanosecond =>
      cases cell with
      | time64Nanosecond v => exact time64_nanosecond_accepted_iff v
      | _ => exact refused_iff rfl id
    | second | millisecond =>
      cases cell <;> exact refused_iff rfl id
  | timestamp unit tz =>
    cases unit with
    | second =>
      cases cell with
      | timestampSecond v => exact iff_of_true (timestamp_accepted .second v) trivial
      | _ => exact refused_iff rfl id
    | millisecond =>
      cases cell with
      | timestampMillisecond v => exact iff_of_true (timestamp_accepted .millisecond v) trivial
      | _ => exact refused_iff rfl id
    | microsecond =>
      cases cell with
      | timestampMicrosecond v => exact iff_of_true (timestamp_accepted .microsecond v) trivial
      | _ => exact refused_iff rfl id
    | nanosecond =>
      cases cell with
      | timestampNanosecond v => exact iff_of_true (timestamp_accepted .nanosecond v) trivial
      | _ => exact refused_iff rfl id
  | decimal128 precision scale =>
    cases cell with
    | decimal128 v => exact decimal128_accepted_iff precision scale v
    | _ => exact refused_iff rfl id
  | other debug => cases cell <;> exact refused_iff rfl id
  | _ =>
    cases cell <;> first
      | exact iff_of_true ⟨_, rfl⟩ trivial
      | exact refused_iff rfl id

theorem fromUtf8String_inj {s t : String}
    (h : MssqlTds.fromUtf8String s = MssqlTds.fromUtf8String t) : s = t := by
  rw [← MssqlTds.string_text s, h, MssqlTds.string_text]

theorem timestampToColumnValue_ok {unit : TimeUnit} {cell : ArrowCell} {value : ColumnValues}
    (h : timestampToColumnValue unit cell = .ok value) : ∃ st, value = .dateTime2 st := by
  obtain ⟨_, _, h⟩ := Lib.Compute.bind_ok h
  obtain ⟨_, _, h⟩ := Lib.Compute.bind_ok h
  obtain ⟨_, _, h⟩ := Lib.Compute.bind_ok h
  obtain ⟨_, _, h⟩ := Lib.Compute.bind_ok h
  cases h
  exact ⟨_, rfl⟩

omit [MssqlTds] in
theorem int8_zero_iff (v : Int8) : v.toInt16 = 0 ↔ v = 0 := by
  rw [← Int16.toInt_inj, Int8.toInt_toInt16, ← Int8.toInt_inj]
  rfl

omit [MssqlTds] in
theorem uint16_zero_iff (v : UInt16) : v.toUInt32.toInt32 = 0 ↔ v = 0 := by
  constructor
  · intro h
    have hunsigned : v.toUInt32 = UInt16.toUInt32 0 := congrArg Int32.toUInt32 h
    exact UInt16.toUInt32_inj.mp hunsigned
  · rintro rfl
    rfl

omit [MssqlTds] in
theorem uint32_zero_iff (v : UInt32) : v.toUInt64.toInt64 = 0 ↔ v = 0 := by
  constructor
  · intro h
    have hunsigned : v.toUInt64 = UInt32.toUInt64 0 := congrArg Int64.toUInt64 h
    exact UInt32.toUInt64_inj.mp hunsigned
  · rintro rfl
    rfl

/-- A cell converts to what stands for null only where it holds zero or nothing. -/
theorem zero_iff {dataType : DataType} {cell : ArrowCell} {value : ColumnValues}
    (h : cellToColumnValue dataType cell = .ok value) :
    value = nullForArrowType dataType ↔ cell.IsZero := by
  have hacc := (accepted_iff dataType cell).mp ⟨value, h⟩
  cases dataType with
  | boolean =>
    cases cell with
    | boolean v =>
      cases h
      exact ⟨ColumnValues.bit.inj, congrArg _⟩
    | _ => exact hacc.elim
  | int8 =>
    cases cell with
    | int8 v =>
      cases h
      exact Iff.trans ⟨ColumnValues.smallInt.inj, congrArg _⟩ (int8_zero_iff v)
    | _ => exact hacc.elim
  | int16 =>
    cases cell with
    | int16 v =>
      cases h
      exact ⟨ColumnValues.smallInt.inj, congrArg _⟩
    | _ => exact hacc.elim
  | int32 =>
    cases cell with
    | int32 v =>
      cases h
      exact ⟨ColumnValues.int.inj, congrArg _⟩
    | _ => exact hacc.elim
  | int64 =>
    cases cell with
    | int64 v =>
      cases h
      exact ⟨ColumnValues.bigInt.inj, congrArg _⟩
    | _ => exact hacc.elim
  | uint8 =>
    cases cell with
    | uint8 v =>
      cases h
      exact ⟨ColumnValues.tinyInt.inj, congrArg _⟩
    | _ => exact hacc.elim
  | uint16 =>
    cases cell with
    | uint16 v =>
      cases h
      exact Iff.trans ⟨ColumnValues.int.inj, congrArg _⟩ (uint16_zero_iff v)
    | _ => exact hacc.elim
  | uint32 =>
    cases cell with
    | uint32 v =>
      cases h
      exact Iff.trans ⟨ColumnValues.bigInt.inj, congrArg _⟩ (uint32_zero_iff v)
    | _ => exact hacc.elim
  | float32 =>
    cases cell with
    | float32 v =>
      cases h
      refine ⟨fun h => ?_, fun h => ?_⟩
      · cases h
        rfl
      · cases v
        cases h
        rfl
    | _ => exact hacc.elim
  | float64 =>
    cases cell with
    | float64 v =>
      cases h
      refine ⟨fun h => ?_, fun h => ?_⟩
      · cases h
        rfl
      · cases v
        cases h
        rfl
    | _ => exact hacc.elim
  | utf8 =>
    cases cell with
    | string v =>
      cases h
      exact ⟨fun h => fromUtf8String_inj (ColumnValues.string.inj h),
        congrArg (ColumnValues.string <| MssqlTds.fromUtf8String ·)⟩
    | _ => exact hacc.elim
  | largeUtf8 =>
    cases cell with
    | largeString v =>
      cases h
      exact ⟨fun h => fromUtf8String_inj (ColumnValues.string.inj h),
        congrArg (ColumnValues.string <| MssqlTds.fromUtf8String ·)⟩
    | _ => exact hacc.elim
  | binary =>
    cases cell with
    | binary v =>
      cases h
      exact ⟨ColumnValues.bytes.inj, congrArg _⟩
    | _ => exact hacc.elim
  | largeBinary =>
    cases cell with
    | largeBinary v =>
      cases h
      exact ⟨ColumnValues.bytes.inj, congrArg _⟩
    | _ => exact hacc.elim
  | fixedSizeBinary width =>
    cases cell with
    | fixedSizeBinary v =>
      cases h
      exact ⟨ColumnValues.bytes.inj, congrArg _⟩
    | _ => exact hacc.elim
  | date32 =>
    cases cell with
    | date32 v =>
      obtain ⟨d, rfl, -⟩ := date32_ok_iff.mp h
      exact iff_of_false (by rintro ⟨⟩) id
    | _ => exact hacc.elim
  | time64 unit =>
    obtain ⟨nanos, -, -, rfl⟩ := time64ToColumnValue_ok h
    refine iff_of_false (by rintro ⟨⟩) ?_
    cases unit <;> cases cell <;> first | exact id | exact hacc.elim
  | timestamp unit tz =>
    obtain ⟨st, rfl⟩ := timestampToColumnValue_ok h
    refine iff_of_false (by rintro ⟨⟩) ?_
    cases unit <;> cases cell <;> first | exact id | exact hacc.elim
  | decimal128 precision scale =>
    cases cell with
    | decimal128 v =>
      obtain ⟨-, -, parts, -, rfl⟩ := decimal128ToColumnValue_ok h
      exact iff_of_false (by rintro ⟨⟩) id
    | _ => exact hacc.elim
  | other debug => cases cell <;> exact hacc.elim

theorem cellToColumnValue_ne_null {dataType : DataType} {cell : ArrowCell}
    (h : cellToColumnValue dataType cell = .ok .null) : False := by
  cases dataType with
  | time64 unit =>
    obtain ⟨nanos, -, -, hvalue⟩ := time64ToColumnValue_ok h
    cases hvalue
  | timestamp unit tz =>
    obtain ⟨st, hvalue⟩ := timestampToColumnValue_ok h
    cases hvalue
  | decimal128 precision scale =>
    obtain ⟨raw, -, h⟩ := Lib.Compute.bind_ok h
    obtain ⟨-, -, parts, -, hvalue⟩ := decimal128ToColumnValue_ok h
    cases hvalue
  | date32 =>
    obtain ⟨v, -, h⟩ := Lib.Compute.bind_ok h
    obtain ⟨d, hvalue, -⟩ := date32_ok_iff.mp h
    cases hvalue
  | _ => cases cell <;> cases h

theorem nullForArrowType_ne_null (dataType : DataType) :
    nullForArrowType dataType ≠ .null := by
  cases dataType <;> rintro ⟨⟩

/-- The conversion gives NULL for the null cells and for no others. -/
def NullOnlyAtNull (array : ArrowArray) (idx : Nat) : Prop :=
  ∀ value, arrowValueToColumnValue array idx = .ok value →
    (value = .null ↔ array.cells[idx]? = some none)

/-- The row gets to column `k`: the cells up to there are null or accepted. -/
def RecordBatch.Reaches (batch : RecordBatch) (rowIdx k : Nat) : Prop :=
  ∀ j ≤ k, ∀ array, batch.columns[j]? = some array →
    ∀ cell, array.cells[rowIdx]? = some (some cell) → cell.Accepted array.dataType

/-- No column hands one value over for a null cell and for a cell that is not null. -/
def RecordBatch.KeepsNulls [ErrorTexts] (batch : RecordBatch) : Prop :=
  ∀ k array nullRow row cell, nullRow < batch.numRows → row < batch.numRows →
    batch.columns[k]? = some array →
    array.cells[nullRow]? = some none → array.cells[row]? = some (some cell) →
    ∀ writer start writer' start' value value',
      (start + k, value) ∈ (ArrowBulkRow.writeToPacket ⟨batch, nullRow⟩ writer start).sent →
      (start' + k, value') ∈ (ArrowBulkRow.writeToPacket ⟨batch, row⟩ writer' start').sent →
      value ≠ value'

theorem nullOnlyAtNull_iff {array : ArrowArray} {idx : Nat} (h : idx < array.cells.length) :
    NullOnlyAtNull array idx ↔ array.cells[idx]? ≠ some none := by
  have hcell := List.getElem?_eq_getElem h
  unfold NullOnlyAtNull arrowValueToColumnValue
  rw [hcell]
  cases array.cells[idx] with
  | none =>
    refine iff_of_false (fun hnull => ?_) (fun hne => hne rfl)
    exact nullForArrowType_ne_null array.dataType ((hnull _ rfl).mpr rfl)
  | some cell =>
    refine iff_of_true ?_ (by rintro ⟨⟩)
    rintro value hvalue
    refine iff_of_false ?_ (by rintro ⟨⟩)
    rintro rfl
    exact cellToColumnValue_ne_null hvalue

theorem mem_sent_iff [ErrorTexts] (row : ArrowBulkRow) (start : Nat) {k : Nat}
    {value : ColumnValues} :
    (∃ writer, (start + k, value) ∈ (row.writeToPacket writer start).sent) ↔
      Handed row.rowIdx row.batch.columns k value := by
  constructor
  · rintro ⟨writer, h⟩
    rcases writeColumns_handed h with hnil | ⟨j, hj, hhanded⟩
    · cases hnil
    · have hjk : k = j := by omega
      rw [hjk]
      exact hhanded
  · intro h
    exact ⟨fun _ => .ok (), writeColumns_accepting.2 k value h⟩

theorem RecordBatch.converts_iff {batch : RecordBatch} {k rowIdx : Nat} {array : ArrowArray}
    (hrow : rowIdx < batch.numRows) (hcolumn : batch.columns[k]? = some array) :
    (∃ value, arrowValueToColumnValue array rowIdx = .ok value) ↔
      ∀ cell, array.cells[rowIdx]? = some (some cell) → cell.Accepted array.dataType := by
  have hlength := batch.columns_length array (List.mem_of_getElem? hcolumn)
  have hcell := List.getElem?_eq_getElem (show rowIdx < array.cells.length by omega)
  unfold arrowValueToColumnValue
  rw [hcell]
  cases array.cells[rowIdx] with
  | none => exact iff_of_true ⟨_, rfl⟩ (by rintro cell ⟨⟩)
  | some cell =>
    refine (accepted_iff array.dataType cell).trans ⟨?_, fun h => h cell rfl⟩
    rintro h cell' ⟨⟩
    exact h

theorem RecordBatch.handed_iff {batch : RecordBatch} {k rowIdx : Nat} {array : ArrowArray}
    {value : ColumnValues} (hrow : rowIdx < batch.numRows)
    (hcolumn : batch.columns[k]? = some array) :
    Handed rowIdx batch.columns k value ↔
      batch.Reaches rowIdx k ∧ arrowValueToColumnValue array rowIdx = .ok value := by
  constructor
  · rintro ⟨⟨other, hother, hvalue⟩, hbefore⟩
    cases hcolumn.symm.trans hother
    refine ⟨?_, hvalue⟩
    intro j hj array' harray'
    rcases Nat.lt_or_eq_of_le hj with hlt | rfl
    · exact (batch.converts_iff hrow harray').mp (hbefore j hlt array' harray')
    · cases hcolumn.symm.trans harray'
      exact (batch.converts_iff hrow hcolumn).mp ⟨value, hvalue⟩
  · rintro ⟨hreach, hvalue⟩
    refine ⟨⟨array, hcolumn, hvalue⟩, ?_⟩
    intro j hj array' harray'
    exact (batch.converts_iff hrow harray').mpr (hreach j (Nat.le_of_lt hj) array' harray')

/-- Which Arrow nulls are kept: a null cell is never converted to NULL, and a batch tells its
nulls from its values where no column has both a null cell and a zero or empty one. -/
structure ArrowNulls [ErrorTexts] : Prop where
  cell : ∀ array idx, idx < array.cells.length →
    (NullOnlyAtNull array idx ↔ array.cells[idx]? ≠ some none)
  batch : ∀ batch : RecordBatch, batch.KeepsNulls ↔
    ∀ k array nullRow row cell, nullRow < batch.numRows → row < batch.numRows →
      batch.columns[k]? = some array →
      array.cells[nullRow]? = some none → array.cells[row]? = some (some cell) →
      batch.Reaches nullRow k → batch.Reaches row k → ¬cell.IsZero

theorem arrow_nulls [ErrorTexts] : ArrowNulls := by
  refine ⟨fun array idx => nullOnlyAtNull_iff, ?_⟩
  intro batch
  constructor
  · intro hkeeps k array nullRow row cell hnullRow hrow hcolumn hnull hcell hreach hreach' hzero
    have hvalue : arrowValueToColumnValue array nullRow = .ok (nullForArrowType array.dataType) := by
      rw [arrowValueToColumnValue, hnull]
    have hvalue' : arrowValueToColumnValue array row = .ok (nullForArrowType array.dataType) := by
      obtain ⟨v, hv⟩ :=
        (accepted_iff array.dataType cell).mpr (hreach' k le_rfl array hcolumn cell hcell)
      rw [arrowValueToColumnValue, hcell, ← (zero_iff hv).mpr hzero]
      exact hv
    obtain ⟨writer, hsent⟩ := (mem_sent_iff ⟨batch, nullRow⟩ 0).mpr
      ((batch.handed_iff hnullRow hcolumn).mpr ⟨hreach, hvalue⟩)
    obtain ⟨writer', hsent'⟩ := (mem_sent_iff ⟨batch, row⟩ 0).mpr
      ((batch.handed_iff hrow hcolumn).mpr ⟨hreach', hvalue'⟩)
    exact hkeeps k array nullRow row cell hnullRow hrow hcolumn hnull hcell
      writer 0 writer' 0 _ _ hsent hsent' rfl
  · intro h k array nullRow row cell hnullRow hrow hcolumn hnull hcell
      writer start writer' start' value value' hsent hsent' hsame
    obtain ⟨hreach, hvalue⟩ :=
      (batch.handed_iff hnullRow hcolumn).mp ((mem_sent_iff _ _).mp ⟨writer, hsent⟩)
    obtain ⟨hreach', hvalue'⟩ :=
      (batch.handed_iff hrow hcolumn).mp ((mem_sent_iff _ _).mp ⟨writer', hsent'⟩)
    rw [arrowValueToColumnValue, hnull] at hvalue
    rw [arrowValueToColumnValue, hcell] at hvalue'
    cases hvalue
    exact h k array nullRow row cell hnullRow hrow hcolumn hnull hcell hreach hreach'
      ((zero_iff hvalue').mp hsame.symm)

end

section

open Reference

/-- A null and a zero of one column convert to the same value, which is not NULL. -/
theorem arrow_nulls_zero :
    arrowValueToColumnValue ⟨.int32, [none, some (.int32 0)]⟩ 0 =
      arrowValueToColumnValue ⟨.int32, [none, some (.int32 0)]⟩ 1 ∧
    ¬NullOnlyAtNull ⟨.int32, [none, some (.int32 0)]⟩ 0 := by
  refine ⟨rfl, ?_⟩
  intro h
  cases (h _ rfl).mpr rfl

end

end TiberiusBridge

import TiberiusBridge.Convert.Civil
import TiberiusBridge.Convert.RowWriter

/-!
# The compatibility reads refine the native ones

A compatibility read converts the cell to a compatibility value and back to a
cell before the native decoder sees it. That detour changes a cell only where
no decoder looks, so what the one channel returns the other returns too.
-/
namespace TiberiusBridge

open Lib (Compute)

variable [MssqlTds] [Chrono]

namespace Compat.TimeCrate

variable [ChronoFields] [TimeCrate]

def date : CompatDecoder TimeCrate.Date :=
  fromColumnDataExact "time::date::Date" (fun | .date _ => true | _ => false)
    FromSql.TimeCrate.date

def time : CompatDecoder TimeCrate.Time :=
  fromColumnDataExact "time::time::Time" (fun | .time _ => true | _ => false)
    FromSql.TimeCrate.time

def primitiveDateTime : CompatDecoder PrimitiveDateTime :=
  fromColumnDataExact "time::primitive_date_time::PrimitiveDateTime"
    (fun | .dateTime _ | .smallDateTime _ | .dateTime2 _ => true | _ => false)
    FromSql.TimeCrate.primitiveDateTime

def offsetDateTime : CompatDecoder TimeCrate.OffsetDateTime :=
  fromColumnDataExact "time::offset_date_time::OffsetDateTime"
    (fun | .dateTimeOffset _ => true | _ => false) FromSql.TimeCrate.offsetDateTime

end Compat.TimeCrate

namespace Compat.Jiff

variable [ChronoFields] [Jiff]

def date : CompatDecoder Jiff.Date :=
  fromColumnDataExact "jiff::civil::date::Date" (fun | .date _ => true | _ => false)
    FromSql.Jiff.date

def time : CompatDecoder Jiff.Time :=
  fromColumnDataExact "jiff::civil::time::Time" (fun | .time _ => true | _ => false)
    FromSql.Jiff.time

def dateTime : CompatDecoder Jiff.DateTime :=
  fromColumnDataExact "jiff::civil::datetime::DateTime"
    (fun | .dateTime _ | .smallDateTime _ | .dateTime2 _ => true | _ => false)
    FromSql.Jiff.dateTime

def timestamp : CompatDecoder Jiff.Timestamp :=
  fromColumnDataExact "jiff::timestamp::Timestamp" (fun | .dateTimeOffset _ => true | _ => false)
    FromSql.Jiff.timestamp

def zoned : CompatDecoder Jiff.Zoned :=
  fromColumnDataExact "jiff::zoned::Zoned" (fun | .dateTimeOffset _ => true | _ => false)
    FromSql.Jiff.zoned

end Compat.Jiff

variable [ChronoFields] [TimeCrate] [Jiff] [RustDecimal] [JsonNumbers] [SerdeJson]

/-- The types that both channels read. -/
inductive ReadTarget
  | bool
  | u8
  | i16
  | i32
  | i64
  | f32
  | f64
  | string
  | str
  | uuid
  | byteVec
  | byteSlice
  | json
  | decimal
  | naiveDate
  | naiveTime
  | naiveDateTime
  | dateTimeFixedOffset
  | timeDate
  | timeTime
  | primitiveDateTime
  | offsetDateTime
  | jiffDate
  | jiffTime
  | jiffDateTime
  | timestamp
  | zoned
  deriving DecidableEq, Repr

namespace ReadTarget

def Value : ReadTarget → Type
  | bool => Bool
  | u8 => UInt8
  | i16 => Int16
  | i32 => Int32
  | i64 => Int64
  | f32 => F32
  | f64 => F64
  | string | str => String
  | uuid => Uuid
  | byteVec | byteSlice => List UInt8
  | json => JsonValue
  | decimal => Decimal
  | naiveDate => NaiveDate
  | naiveTime => NaiveTime
  | naiveDateTime => NaiveDateTime
  | dateTimeFixedOffset => DateTime FixedOffset
  | timeDate => TimeCrate.Date
  | timeTime => TimeCrate.Time
  | primitiveDateTime => PrimitiveDateTime
  | offsetDateTime => TimeCrate.OffsetDateTime
  | jiffDate => Jiff.Date
  | jiffTime => Jiff.Time
  | jiffDateTime => Jiff.DateTime
  | timestamp => Jiff.Timestamp
  | zoned => Jiff.Zoned

/-- `row::FromSql::from_sql_with_str`. -/
def native : (t : ReadTarget) → RowDecoder t.Value
  | bool => FromSql.bool.withStr
  | u8 => FromSql.u8.withStr
  | i16 => FromSql.i16.withStr
  | i32 => FromSql.i32.withStr
  | i64 => FromSql.i64.withStr
  | f32 => FromSql.f32.withStr
  | f64 => FromSql.f64.withStr
  | string => FromSql.string.withStr
  | str => FromSql.strWithStr
  | uuid => FromSql.uuid.withStr
  | byteVec | byteSlice => FromSql.bytes.withStr
  | json => FromSql.jsonValue.withStr
  | decimal => FromSql.decimal.withStr
  | naiveDate => FromSql.naiveDate.withStr
  | naiveTime => FromSql.naiveTime.withStr
  | naiveDateTime => FromSql.naiveDateTime.withStr
  | dateTimeFixedOffset => FromSql.dateTimeFixedOffset.withStr
  | timeDate => FromSql.TimeCrate.date.withStr
  | timeTime => FromSql.TimeCrate.time.withStr
  | primitiveDateTime => FromSql.TimeCrate.primitiveDateTime.withStr
  | offsetDateTime => FromSql.TimeCrate.offsetDateTime.withStr
  | jiffDate => FromSql.Jiff.date.withStr
  | jiffTime => FromSql.Jiff.time.withStr
  | jiffDateTime => FromSql.Jiff.dateTime.withStr
  | timestamp => FromSql.Jiff.timestamp.withStr
  | zoned => FromSql.Jiff.zoned.withStr

/-- `compat::FromSql::from_sql`. -/
def compat : (t : ReadTarget) → CompatDecoder t.Value
  | bool => Compat.bool
  | u8 => Compat.u8
  | i16 => Compat.i16
  | i32 => Compat.i32
  | i64 => Compat.i64
  | f32 => Compat.f32
  | f64 => Compat.f64
  | string => Compat.string
  | str => Compat.str
  | uuid => Compat.uuid
  | byteVec => Compat.byteVec
  | byteSlice => Compat.byteSlice
  | json => Compat.jsonValue
  | decimal => Compat.decimal
  | naiveDate => Compat.naiveDate
  | naiveTime => Compat.naiveTime
  | naiveDateTime => Compat.naiveDateTime
  | dateTimeFixedOffset => Compat.dateTimeFixedOffset
  | timeDate => Compat.TimeCrate.date
  | timeTime => Compat.TimeCrate.time
  | primitiveDateTime => Compat.TimeCrate.primitiveDateTime
  | offsetDateTime => Compat.TimeCrate.offsetDateTime
  | jiffDate => Compat.Jiff.date
  | jiffTime => Compat.Jiff.time
  | jiffDateTime => Compat.Jiff.dateTime
  | timestamp => Compat.Jiff.timestamp
  | zoned => Compat.Jiff.zoned

end ReadTarget

section

omit [Chrono] [ChronoFields] [TimeCrate] [Jiff] [RustDecimal] [JsonNumbers] [SerdeJson]

/-- What a cell comes back as: text is encoded anew, and decimals become numerics. -/
def ColumnValues.detour : ColumnValues → ColumnValues
  | .decimal d => .numeric d
  | .string s => .string (MssqlTds.fromUtf8String (MssqlTds.toUtf8String s))
  | .xml x => .xml (MssqlTds.xmlFrom (MssqlTds.xmlAsString x))
  | .json j => .json (MssqlTds.jsonFrom (MssqlTds.jsonAsString j))
  | v => v

/-- The compatibility value of a cell in a row. -/
def cellData (v : ColumnValues) (columnType : ColumnType) : ColumnData :=
  columnDataRef v (decodedText v) columnType

/-- A vector has no compatibility value but the native one, and nothing decodes that. -/
theorem intoColumnValue_cellData (v : ColumnValues) (columnType : ColumnType) :
    (cellData v columnType).intoColumnValue = .ok v.detour ∨
      ∃ m, (cellData v columnType).intoColumnValue = .error (.conversion m) := by
  cases v with
  | null => cases columnType <;> exact .inl rfl
  | vector x => exact .inr ⟨_, rfl⟩
  | _ => exact .inl rfl

theorem ColumnValues.detour_eq_null {v : ColumnValues} (h : v.detour = .null) : v = .null := by
  cases v with
  | null => rfl
  | _ => cases h

/-- A decoder that reads no NULL and does not see the detour. -/
structure Decoder.Respects {α : Type} (fromSql : Decoder α) : Prop where
  null : fromSql .null = .ok none
  detour : ∀ v, fromSql v.detour = fromSql v

variable {α : Type} {fromSql : Decoder α}

theorem Decoder.Respects.of_cells (hnull : fromSql .null = .ok none)
    (hdecimal : ∀ d, fromSql (.numeric d) = fromSql (.decimal d))
    (hstring : ∀ s, fromSql (.string (MssqlTds.fromUtf8String (MssqlTds.toUtf8String s))) =
      fromSql (.string s))
    (hxml : ∀ x, fromSql (.xml (MssqlTds.xmlFrom (MssqlTds.xmlAsString x))) = fromSql (.xml x))
    (hjson : ∀ j, fromSql (.json (MssqlTds.jsonFrom (MssqlTds.jsonAsString j))) =
      fromSql (.json j)) : fromSql.Respects where
  null := hnull
  detour v := by
    cases v with
    | decimal d => exact hdecimal d
    | string s => exact hstring s
    | xml x => exact hxml x
    | json j => exact hjson j
    | _ => rfl

theorem Decoder.Respects.andThen {β : Type} (h : fromSql.Respects) (f : α → Compute (Option β)) :
    Decoder.Respects (FromSql.andThen fromSql f) where
  null := by
    rw [FromSql.andThen, h.null]
    rfl
  detour v := by rw [FromSql.andThen, FromSql.andThen, h.detour v]

theorem FromSql.string_respects : FromSql.string.Respects := by
  apply Decoder.Respects.of_cells rfl (fun _ => rfl)
  · intro s
    simp only [FromSql.string, MssqlTds.string_text]
  · intro x
    simp only [FromSql.string, MssqlTds.xml_text]
  · intro j
    simp only [FromSql.string, MssqlTds.json_text]

theorem FromSql.jsonValue_respects [JsonNumbers] [SerdeJson] :
    FromSql.jsonValue.Respects := by
  apply Decoder.Respects.of_cells rfl (fun _ => rfl)
  · intro s
    simp only [FromSql.jsonValue, MssqlTds.string_text]
  · exact fun _ => rfl
  · intro j
    simp only [FromSql.jsonValue, MssqlTds.json_text]

theorem decodeOwned_inv {typeName : String} {value : ColumnData} {cell : ColumnValues}
    {r : Result (Option α)} (hc : value.intoColumnValue = .ok cell)
    (h : decodeOwned typeName fromSql value = .ok r) :
    ∃ o, fromSql cell = .ok o ∧ (cell = .null ∧ r = .ok none ∨
      cell ≠ .null ∧ r = match o with
        | some v => .ok (some v)
        | none => .error (.conversion (.cannotInterpretCell cell typeName))) := by
  simp only [decodeOwned, hc] at h
  obtain ⟨o, ho, h⟩ := Lib.Compute.bind_ok h
  refine ⟨o, ho, ?_⟩
  split at h
  · cases h
    exact .inl ⟨rfl, rfl⟩
  · next hn =>
    cases h
    exact .inr ⟨fun hnull => hn hnull, rfl⟩
  · next hn =>
    cases h
    exact .inr ⟨fun hnull => hn hnull, rfl⟩

/-- How a compatibility decoder relates to the native one on one cell of a row. -/
structure ChannelRefines (native : RowDecoder α) (compat : CompatDecoder α) : Prop where
  value : ∀ v columnType x, compat (cellData v columnType) = .ok (.ok (some x)) →
    native v (decodedText v) = .ok (some x)
  null : ∀ v columnType, compat (cellData v columnType) = .ok (.ok none) → v = .null
  refused : ∀ v columnType, v ≠ .null → native v (decodedText v) = .ok none →
    ∃ m, compat (cellData v columnType) = .ok (.error (.conversion m))
  error : ∀ v columnType e, compat (cellData v columnType) = .ok (.error e) →
    ∃ m, e = .conversion m

/-- It is enough to know the answers of the compatibility decoder, and that it has one wherever the
native decoder finds no value. -/
theorem ChannelRefines.of_answers {native : RowDecoder α} {compat : CompatDecoder α}
    (answers : ∀ v columnType r, compat (cellData v columnType) = .ok r →
      (∃ m, r = .error (.conversion m)) ∨ v = .null ∧ r = .ok none ∨
        ∃ x, native v (decodedText v) = .ok (some x) ∧ r = .ok (some x))
    (answered : ∀ v columnType, native v (decodedText v) = .ok none →
      ∃ r, compat (cellData v columnType) = .ok r) : ChannelRefines native compat := by
  constructor
  · intro v columnType x hr
    rcases answers v columnType _ hr with ⟨m, hm⟩ | ⟨-, hm⟩ | ⟨y, hy, hm⟩
    · cases hm
    · cases hm
    · cases hm
      exact hy
  · intro v columnType hr
    rcases answers v columnType _ hr with ⟨m, hm⟩ | ⟨hv, -⟩ | ⟨y, -, hm⟩
    · cases hm
    · exact hv
    · cases hm
  · intro v columnType hv hn
    obtain ⟨r, hr⟩ := answered v columnType hn
    rcases answers v columnType r hr with ⟨m, rfl⟩ | ⟨hnull, -⟩ | ⟨y, hy, -⟩
    · exact ⟨m, hr⟩
    · exact absurd hnull hv
    · cases hn.symm.trans hy
  · intro v columnType e hr
    rcases answers v columnType _ hr with ⟨m, hm⟩ | ⟨-, hm⟩ | ⟨y, -, hm⟩
    · cases hm
      exact ⟨m, rfl⟩
    · cases hm
    · cases hm

/-- The macro's decoders refine the decoder they end in, whatever variants they accept. -/
theorem fromColumnDataExact_refines (h : fromSql.Respects) (typeName : String)
    (accepts : ColumnData → Bool) :
    ChannelRefines fromSql.withStr (fromColumnDataExact typeName accepts fromSql) := by
  apply ChannelRefines.of_answers
  · intro v columnType r hr
    unfold fromColumnDataExact at hr
    split at hr
    · rcases intoColumnValue_cellData v columnType with hc | ⟨m, hc⟩
      · obtain ⟨o, ho, hcase⟩ := decodeOwned_inv hc hr
        rw [h.detour] at ho
        rcases hcase with ⟨hnull, hr⟩ | ⟨-, hr⟩
        · exact .inr (.inl ⟨ColumnValues.detour_eq_null hnull, hr⟩)
        · cases o with
          | none => exact .inl ⟨_, hr⟩
          | some x => exact .inr (.inr ⟨x, ho, hr⟩)
      · simp only [decodeOwned, hc] at hr
        cases hr
        exact .inl ⟨m, rfl⟩
    · cases hr
      exact .inl ⟨_, rfl⟩
  · intro v columnType hn
    have hn : fromSql v = .ok none := hn
    unfold fromColumnDataExact
    split
    · rcases intoColumnValue_cellData v columnType with hc | ⟨m, hc⟩
      · have hd := (h.detour v).trans hn
        simp only [decodeOwned, hc, hd, Lib.Compute.ok_bind]
        split <;> exact ⟨_, rfl⟩
      · simp only [decodeOwned, hc]
        exact ⟨_, rfl⟩
    · exact ⟨_, rfl⟩

/-- `&str` is the cached text of a string in either channel; the compatibility one refuses XML and
JSON. -/
theorem str_refines : ChannelRefines FromSql.strWithStr Compat.str := by
  apply ChannelRefines.of_answers
  · intro v columnType r h
    cases v with
    | null =>
      -- the type of the column decides which NULL it is
      cases columnType <;> cases h <;> first
        | exact .inl ⟨_, rfl⟩
        | exact .inr (.inl ⟨rfl, rfl⟩)
    | string s => cases h; exact .inr (.inr ⟨_, rfl, rfl⟩)
    | _ => cases h; exact .inl ⟨_, rfl⟩
  · intro v columnType _
    cases v with
    | null => cases columnType <;> exact ⟨_, rfl⟩
    | _ => exact ⟨_, rfl⟩

theorem byteSlice_refines : ChannelRefines FromSql.bytes.withStr Compat.byteSlice := by
  apply ChannelRefines.of_answers
  · intro v columnType r h
    cases v with
    | null =>
      cases columnType <;> cases h <;> first
        | exact .inl ⟨_, rfl⟩
        | exact .inr (.inl ⟨rfl, rfl⟩)
    | bytes b => cases h; exact .inr (.inr ⟨_, rfl, rfl⟩)
    | _ => cases h; exact .inl ⟨_, rfl⟩
  · intro v columnType _
    cases v with
    | null => cases columnType <;> exact ⟨_, rfl⟩
    | _ => exact ⟨_, rfl⟩

end

theorem ReadTarget.refines (t : ReadTarget) : ChannelRefines t.native t.compat := by
  have exact_refines : ∀ {α : Type} {fromSql : Decoder α}, fromSql.Respects →
      ∀ typeName accepts,
        ChannelRefines fromSql.withStr (fromColumnDataExact typeName accepts fromSql) :=
    fun h typeName accepts => fromColumnDataExact_refines h typeName accepts
  have untexted : ∀ {α : Type} {fromSql : Decoder α}, fromSql .null = .ok none →
      (∀ d, fromSql (.numeric d) = fromSql (.decimal d)) → (∀ s, fromSql (.string s) = .ok none) →
      (∀ x, fromSql (.xml x) = .ok none) → (∀ j, fromSql (.json j) = .ok none) →
      fromSql.Respects :=
    fun hn hd hs hx hj => .of_cells hn hd (fun _ => by rw [hs, hs]) (fun _ => by rw [hx, hx])
      (fun _ => by rw [hj, hj])
  have date : FromSql.naiveDate.Respects :=
    untexted rfl (fun _ => rfl) (fun _ => rfl) (fun _ => rfl) (fun _ => rfl)
  have time : FromSql.naiveTime.Respects :=
    untexted rfl (fun _ => rfl) (fun _ => rfl) (fun _ => rfl) (fun _ => rfl)
  have dateTime : FromSql.naiveDateTime.Respects :=
    untexted rfl (fun _ => rfl) (fun _ => rfl) (fun _ => rfl) (fun _ => rfl)
  have offset : FromSql.dateTimeFixedOffset.Respects :=
    untexted rfl (fun _ => rfl) (fun _ => rfl) (fun _ => rfl) (fun _ => rfl)
  cases t with
  | str => exact str_refines
  | byteSlice => exact byteSlice_refines
  | string => exact exact_refines FromSql.string_respects _ _
  | json => exact exact_refines FromSql.jsonValue_respects _ _
  | naiveDate => exact exact_refines date _ _
  | naiveTime => exact exact_refines time _ _
  | naiveDateTime => exact exact_refines dateTime _ _
  | dateTimeFixedOffset => exact exact_refines offset _ _
  | timeDate => exact exact_refines (date.andThen _) _ _
  | timeTime => exact exact_refines (time.andThen _) _ _
  | primitiveDateTime => exact exact_refines (dateTime.andThen _) _ _
  | offsetDateTime => exact exact_refines (offset.andThen _) _ _
  | jiffDate => exact exact_refines (date.andThen _) _ _
  | jiffTime => exact exact_refines (time.andThen _) _ _
  | jiffDateTime => exact exact_refines (dateTime.andThen _) _ _
  | timestamp => exact exact_refines (offset.andThen _) _ _
  | zoned => exact exact_refines (offset.andThen _) _ _
  | _ =>
    exact exact_refines
      (untexted rfl (fun _ => rfl) (fun _ => rfl) (fun _ => rfl) (fun _ => rfl)) _ _

/-- The errors of a selector that finds no cell. -/
def Error.IsLookup : Error → Prop
  | .columnNotFound _ | .columnIndexOutOfBounds _ _ => True
  | _ => False

section

omit [Chrono] [ChronoFields] [TimeCrate] [Jiff] [RustDecimal] [JsonNumbers] [SerdeJson]

theorem buildCompatValues_get (schema : RowSchema) (values : List ColumnValues) (i : Nat) :
    (Row.buildCompatValues schema values (values.map decodedText))[i]? =
      (values[i]?).map fun v =>
        cellData v ((schema.columns[i]?).elim .null Column.columnType) := by
  unfold Row.buildCompatValues
  rw [List.getElem?_mapIdx, List.zip, List.getElem?_zipWith, List.getElem?_map]
  cases values[i]? <;> rfl

theorem buildCompatValues_length (schema : RowSchema) (values : List ColumnValues) :
    (Row.buildCompatValues schema values (values.map decodedText)).length = values.length := by
  simp [Row.buildCompatValues]

variable [WireText]

/-- Both channels fail to find a cell with one error, or both decode the same cell. -/
theorem Row.Built.read_cases {r : Row} (h : r.Built) (col : ColumnIndex) :
    (∃ e : Error, e.IsLookup ∧ ∀ {α : Type} (native : RowDecoder α) (compat : CompatDecoder α),
      r.tryGet native col = .ok (.error e) ∧ r.tryGetCompat compat col = .ok (.error e)) ∨
    ∃ i v columnType, r.resolve col = .ok i ∧ r.rawValue i = some v ∧
      ∀ {α : Type} (native : RowDecoder α) (compat : CompatDecoder α),
        r.tryGet native col = (do return .ok (← native v (decodedText v))) ∧
          r.tryGetCompat compat col = compat (cellData v columnType) := by
  have htext := h.decodedStrings_eq
  cases hi : r.resolve col with
  | error e =>
    have hlookup : e.IsLookup := by
      cases col with
      | index i =>
        simp only [Row.resolve] at hi
        split at hi <;> cases hi
        trivial
      | name n =>
        simp only [Row.resolve] at hi
        split at hi <;> cases hi
        trivial
    refine .inl ⟨e, hlookup, fun native compat => ⟨?_, ?_⟩⟩
    · rw [Row.tryGet, hi]
      rfl
    · rw [Row.tryGetCompat, hi]
      rfl
  | ok i =>
    have hcompat : r.compatValues[i]? = (r.values[i]?).map fun v =>
        cellData v ((r.schema.columns[i]?).elim .null Column.columnType) := by
      rw [Row.compatValues, htext, buildCompatValues_get]
    cases hv : r.values[i]? with
    | none =>
      refine .inl ⟨.columnIndexOutOfBounds i r.values.length, trivial,
        fun native compat => ⟨?_, ?_⟩⟩
      · simp only [Row.tryGet, hi, Row.tryGetAt, hv]
        rfl
      · have hlength : r.compatValues.length = r.values.length := by
          rw [Row.compatValues, htext, buildCompatValues_length]
        rw [hv] at hcompat
        simp only [Row.tryGetCompat, hi, hcompat, Option.map_none, hlength]
        rfl
    | some v =>
      refine .inr ⟨i, v, (r.schema.columns[i]?).elim .null Column.columnType, rfl, hv,
        fun native compat => ⟨?_, ?_⟩⟩
      · simp only [Row.tryGet, hi, Row.tryGetAt, hv, htext, List.getElem?_map]
        rfl
      · rw [hv] at hcompat
        simp only [Row.tryGetCompat, hi, hcompat, Option.map_some]

end

variable [WireText]

/-- The two read channels, over every row, selector and target. -/
structure ReadsRefine : Prop where
  value : ∀ (r : Row), r.Built → ∀ (t : ReadTarget) (col : ColumnIndex) (x : t.Value),
    r.tryGetCompat t.compat col = .ok (.ok (some x)) → r.tryGet t.native col = .ok (.ok (some x))
  null : ∀ (r : Row), r.Built → ∀ (t : ReadTarget) (col : ColumnIndex),
    r.tryGetCompat t.compat col = .ok (.ok none) →
      ∃ i, r.resolve col = .ok i ∧ r.rawValue i = some .null
  refused : ∀ (r : Row), r.Built → ∀ (t : ReadTarget) (col : ColumnIndex) (i : Nat)
    (v : ColumnValues), r.resolve col = .ok i → r.rawValue i = some v → v ≠ .null →
      r.tryGet t.native col = .ok (.ok none) →
        ∃ m, r.tryGetCompat t.compat col = .ok (.error (.conversion m))
  lookup : ∀ (r : Row), r.Built → ∀ (t : ReadTarget) (col : ColumnIndex) (e : Error),
    e.IsLookup →
      (r.tryGet t.native col = .ok (.error e) ↔ r.tryGetCompat t.compat col = .ok (.error e))
  /-- The native channel fails on selectors only. -/
  nativeError : ∀ (r : Row), r.Built → ∀ (t : ReadTarget) (col : ColumnIndex) (e : Error),
    r.tryGet t.native col = .ok (.error e) → e.IsLookup

theorem reads_refine : ReadsRefine := by
  constructor
  · intro r hr t col x h
    rcases hr.read_cases col with ⟨e, -, heq⟩ | ⟨i, v, columnType, -, -, heq⟩
    · cases (heq t.native t.compat).2.symm.trans h
    · obtain ⟨hn, hc⟩ := heq t.native t.compat
      rw [hn, t.refines.value v columnType x (hc.symm.trans h)]
      rfl
  · intro r hr t col h
    rcases hr.read_cases col with ⟨e, -, heq⟩ | ⟨i, v, columnType, hi, hv, heq⟩
    · cases (heq t.native t.compat).2.symm.trans h
    · obtain ⟨-, hc⟩ := heq t.native t.compat
      have hnull := t.refines.null v columnType (hc.symm.trans h)
      exact ⟨i, hi, by rw [hv, hnull]⟩
  · intro r hr t col i v hi hv hn h
    rcases hr.read_cases col with ⟨e, -, heq⟩ | ⟨i', v', columnType, hi', hv', heq⟩
    · cases (heq t.native t.compat).1.symm.trans h
    · obtain ⟨hnative, hc⟩ := heq t.native t.compat
      cases hi.symm.trans hi'
      cases hv.symm.trans hv'
      obtain ⟨o, ho, h⟩ := Lib.Compute.bind_ok (hnative.symm.trans h)
      cases h
      rw [hc]
      exact t.refines.refused v columnType hn ho
  · intro r hr t col e he
    rcases hr.read_cases col with ⟨e', -, heq⟩ | ⟨i, v, columnType, -, -, heq⟩
    · obtain ⟨hn, hc⟩ := heq t.native t.compat
      rw [hn, hc]
    · obtain ⟨hn, hc⟩ := heq t.native t.compat
      constructor
      · intro h
        obtain ⟨o, -, h⟩ := Lib.Compute.bind_ok (hn.symm.trans h)
        cases h
      · intro h
        obtain ⟨m, rfl⟩ := t.refines.error v columnType e (hc.symm.trans h)
        exact he.elim
  · intro r hr t col e h
    rcases hr.read_cases col with ⟨e', hlookup, heq⟩ | ⟨i, v, columnType, -, -, heq⟩
    · cases (heq t.native t.compat).1.symm.trans h
      exact hlookup
    · obtain ⟨o, -, h⟩ := Lib.Compute.bind_ok ((heq t.native t.compat).1.symm.trans h)
      cases h

end TiberiusBridge

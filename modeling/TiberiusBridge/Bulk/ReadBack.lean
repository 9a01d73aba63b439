import TiberiusBridge.Bulk.Request
import TiberiusBridge.Compat.Binding
import TiberiusBridge.Compat.CivilRoundTrips
import TiberiusBridge.Convert.Decimals

/-!
# Bulk rows and the rows they become

A tuple becomes one value a column, a value one cell, and a cell that the table
keeps as it is comes back as the value that was written. A NULL comes back as
the one of its column.
-/
namespace TiberiusBridge

open Lib (Compute Panic)

section

variable [MssqlTds]

namespace ColumnData

/-- The value has a cell. -/
def Writable : ColumnData → Prop
  | native _ => False
  | _ => True

/-- The value is a typed NULL. -/
def IsNull (c : ColumnData) : Prop := c.intoColumnValue = .ok .null

theorem intoColumnValue_writable {c : ColumnData} (h : c.Writable) :
    ∃ cell, c.intoColumnValue = .ok cell := by
  cases c with
  | native v => exact h.elim
  | _ v => cases v <;> exact ⟨_, rfl⟩

/-- A cell comes back as the value it was written from. -/
theorem cellData_of_intoColumnValue {c : ColumnData} {cell : ColumnValues}
    (h : c.intoColumnValue = .ok cell) (hcell : cell ≠ .null) (columnType : ColumnType) :
    cellData cell columnType = c := by
  cases c with
  | native v => cases h
  | string v =>
    cases v <;> cases h
    · exact absurd rfl hcell
    · exact congrArg (fun s => ColumnData.string (some s)) (MssqlTds.string_text _)
  | xml v =>
    cases v <;> cases h
    · exact absurd rfl hcell
    · exact congrArg (fun s => ColumnData.xml (some s)) (MssqlTds.xml_text _)
  | json v =>
    cases v <;> cases h
    · exact absurd rfl hcell
    · exact congrArg (fun s => ColumnData.json (some s)) (MssqlTds.json_text _)
  | _ v =>
    cases v <;> cases h
    · exact absurd rfl hcell
    · rfl

end ColumnData

namespace TokenRow

variable [ErrorTexts]

/-- A row of writable values is written whole, one cell a value. -/
theorem writeValues_writable {data : List ColumnData} (h : ∀ c ∈ data, c.Writable) :
    (writeValues data).failure = none ∧
      List.Forall₂ (fun c cell => c.intoColumnValue = .ok cell) data (writeValues data).cells := by
  induction data with
  | nil => exact ⟨rfl, .nil⟩
  | cons c data ih =>
    obtain ⟨cell, hcell⟩ := ColumnData.intoColumnValue_writable (h c List.mem_cons_self)
    obtain ⟨hfailure, hcells⟩ := ih fun c' hc' => h c' (List.mem_cons_of_mem _ hc')
    rw [writeValues, hcell]
    exact ⟨hfailure, .cons hcell hcells⟩

/-- A native parameter ends the row with an error, and the cells before it stand. -/
theorem writeValues_native {data rest : List ColumnData} (h : ∀ c ∈ data, c.Writable)
    (v : SqlType) :
    writeValues (data ++ .native v :: rest) =
      { cells := (writeValues data).cells
        failure := some (.usageError (Error.conversion (.bridgeNative v)).toText) } := by
  induction data with
  | nil => rfl
  | cons c data ih =>
    obtain ⟨cell, hcell⟩ := ColumnData.intoColumnValue_writable (h c List.mem_cons_self)
    rw [List.cons_append, writeValues, hcell, writeValues, hcell]
    dsimp only
    rw [ih fun c' hc' => h c' (List.mem_cons_of_mem _ hc')]

def push (row : TokenRow) (value : ColumnData) : TokenRow := { data := row.data ++ [value] }

end TokenRow

/-- The row of a table that keeps the cells as they were written. -/
def keptRow [ErrorTexts] (schema : RowSchema) (row : TokenRow) : Row :=
  Row.fromSchema schema row.writeToPacket.cells

/-- The type that column `i` is declared as. -/
def RowSchema.columnType (schema : RowSchema) (i : Nat) : ColumnType :=
  (schema.columns[i]?).elim .null Column.columnType

/-- A value comes back as it is, a NULL as the one of its column. -/
theorem keptRow_compatValues [ErrorTexts] (schema : RowSchema) {row : TokenRow}
    (h : ∀ c ∈ row.data, c.Writable) {i : Nat} {c : ColumnData} (hc : row.data[i]? = some c) :
    ∃ cell, c.intoColumnValue = .ok cell ∧
      (keptRow schema row).compatValues[i]? = some (cellData cell (schema.columnType i)) ∧
      (keptRow schema row).resolve (.index i) = .ok i := by
  obtain ⟨-, hcells⟩ := TokenRow.writeValues_writable h
  have hlen := hcells.length_eq
  obtain ⟨hi, rfl⟩ := List.getElem?_eq_some_iff.mp hc
  have hi' : i < (TokenRow.writeValues row.data).cells.length := by omega
  refine ⟨_, hcells.get hi hi', ?_, ?_⟩
  · refine (buildCompatValues_get schema (TokenRow.writeValues row.data).cells i).trans ?_
    rw [List.getElem?_eq_getElem hi']
    rfl
  · exact if_neg (Nat.not_le_of_lt hi')

variable [Chrono] [RustDecimal] [JsonNumbers] [SerdeJson] [TimeCrate] [TimeFields] [Jiff]
  [JiffFields]

/-- `IntoRow::into_row` of a tuple, or of one value. -/
def intoRow (xs : List BindValue) : Compute TokenRow :=
  xs.foldlM (fun row x => do return row.push (← x.intoSql)) { data := [] }

theorem intoRow_eq (xs : List BindValue) :
    intoRow xs = do return { data := ← xs.mapM BindValue.intoSql } := by
  have hpushed : ∀ row : TokenRow,
      xs.foldlM (fun row x => do return row.push (← x.intoSql)) row = do
        return { data := row.data ++ (← xs.mapM BindValue.intoSql) } := by
    induction xs with
    | nil =>
      intro row
      rw [List.foldlM_nil, List.mapM_nil, pure_bind, List.append_nil]
    | cons x xs ih =>
      intro row
      rw [List.foldlM_cons, List.mapM_cons]
      cases x.intoSql with
      | error p => rfl
      | ok c =>
        refine (ih (row.push c)).trans ?_
        cases xs.mapM BindValue.intoSql with
        | error p => rfl
        | ok cs =>
          show Except.ok (TokenRow.mk (row.data ++ [c] ++ cs)) = Except.ok ⟨row.data ++ c :: cs⟩
          rw [List.append_assoc, List.singleton_append]
  refine (hpushed _).trans ?_
  simp only [List.nil_append]

/-- The first value that is out of range panics. -/
theorem intoRow_panics (xs : List BindValue) (p : Panic) :
    intoRow xs = .error p ↔ xs.findSome? BindValue.boundPanic = some p := by
  have hsettles : BindValue.boundPanic = fun x => Lib.errorOf x.intoSql :=
    funext fun x => x.intoSql_settles.errorOf.symm
  rw [hsettles, ← Lib.mapM_error_iff, intoRow_eq]
  cases xs.mapM BindValue.intoSql with
  | error p' => rw [Lib.Compute.error_bind, Except.error.injEq, Except.error.injEq]
  | ok cs => exact iff_of_false (fun h => nomatch h) fun h => nomatch h

section Types

variable [ChronoFields] [ChronoCivil] [TimeCrateCivil] [TimeCrateInstants] [JiffCivil]
  [JiffInstants]

namespace BindType

/-- `compat::FromSql::from_sql`. -/
def fromSql : (t : BindType) → CompatDecoder t.Value
  | bool => Compat.bool
  | u8 => Compat.u8
  | i16 => Compat.i16
  | i32 => Compat.i32
  | i64 => Compat.i64
  | f32 => Compat.f32
  | f64 => Compat.f64
  | str => Compat.str
  | string => Compat.string
  | byteVec => Compat.byteVec
  | byteSlice => Compat.byteSlice
  | uuid => Compat.uuid
  | decimal => Compat.decimal
  | json => Compat.jsonValue
  | naiveDate => Compat.naiveDate
  | naiveTime => Compat.naiveTime
  | naiveDateTime => Compat.naiveDateTime
  | dateTimeFixedOffset => Compat.dateTimeFixedOffset
  | dateTimeUtc => Compat.dateTimeUtc
  | timeDate => Compat.TimeCrate.date
  | timeTime => Compat.TimeCrate.time
  | primitiveDateTime => Compat.TimeCrate.primitiveDateTime
  | offsetDateTime => Compat.TimeCrate.offsetDateTime
  | jiffDate => Compat.Jiff.date
  | jiffTime => Compat.Jiff.time
  | jiffDateTime => Compat.Jiff.dateTime
  | timestamp => Compat.Jiff.timestamp
  | zoned => Compat.Jiff.zoned

/-- A value that SQL Server can hold. A JSON value has to be sent as a text that parses. -/
def Holds : (t : BindType) → t.Value → Prop
  | json, v => ∃ s, JsonValue.sqlText v = some s ∧ (SerdeJson.fromStr s).isSome
  | naiveDate, d => InSqlRange d
  | naiveTime, t => NoLeap t
  | naiveDateTime, dt => InSqlRange dt.date ∧ NoLeap dt.time
  | dateTimeFixedOffset, dt => InSqlRange dt.naiveUtc.date ∧ NoLeap dt.naiveUtc.time
  | dateTimeUtc, dt => InSqlRange dt.naiveUtc.date ∧ NoLeap dt.naiveUtc.time
  | timeDate, d => SqlYears (TimeCrateCivil.civilDate d)
  | primitiveDateTime, dt => SqlYears (TimeCrateCivil.civilDate dt.date)
  | offsetDateTime, dt => SqlInstant (TimeCrateInstants.instant dt) ∧
    WithinDay (TimeFields.wholeSeconds (TimeFields.offset dt))
  | jiffDate, d => SqlYears (JiffCivil.civilDate d)
  | jiffDateTime, dt => SqlYears (JiffCivil.civilDate (JiffFields.date dt))
  | timestamp, t => SqlInstant (JiffInstants.instant t)
  | zoned, z => SqlInstant (JiffInstants.instant (JiffFields.timestamp z)) ∧
    WithinDay (JiffFields.offsetSeconds z)
  | _, _ => True

/-- What is kept of a value. -/
def Keeps : (t : BindType) → t.Value → t.Value → Prop
  | decimal, d, d' => RustDecimal.value d' = RustDecimal.value d
  | json, v, v' => ∃ s, JsonValue.sqlText v = some s ∧ SerdeJson.fromStr s = some v'
  | naiveTime, t, t' => TruncatesTo t t'
  | naiveDateTime, dt, dt' => NaiveDateTime.TruncatesTo dt dt'
  | dateTimeFixedOffset, dt, dt' => NaiveDateTime.TruncatesTo dt.naiveUtc dt'.naiveUtc ∧
    Chrono.localMinusUtc dt'.offset = (Chrono.localMinusUtc dt.offset).tdiv 60 * 60
  | dateTimeUtc, dt, dt' => NaiveDateTime.TruncatesTo dt.naiveUtc dt'.naiveUtc
  | timeDate, d, d' => TimeCrateCivil.civilDate d' = TimeCrateCivil.civilDate d
  | timeTime, t, t' => CivilTruncatesTo (TimeCrateCivil.civilTime t) (TimeCrateCivil.civilTime t')
  | primitiveDateTime, dt, dt' => PrimitiveDateTime.TruncatesTo dt dt'
  | offsetDateTime, dt, dt' =>
    TimeCrateInstants.instant dt' = TimeCrateInstants.instant dt / 100 * 100 ∧
      TimeFields.wholeSeconds (TimeFields.offset dt') =
        (TimeFields.wholeSeconds (TimeFields.offset dt)).tdiv 60 * 60
  | jiffDate, d, d' => JiffCivil.civilDate d' = JiffCivil.civilDate d
  | jiffTime, t, t' => CivilTruncatesTo (JiffCivil.civilTime t) (JiffCivil.civilTime t')
  | jiffDateTime, dt, dt' => JiffTruncatesTo dt dt'
  | timestamp, t, t' => JiffInstants.instant t' = JiffInstants.instant t / 100 * 100
  | zoned, z, z' => JiffInstants.instant (JiffFields.timestamp z') =
      JiffInstants.instant (JiffFields.timestamp z) / 100 * 100 ∧
    JiffFields.offsetSeconds z' = (JiffFields.offsetSeconds z).tdiv 60 * 60
  | _, v, v' => v' = v

/-- The value becomes a compatibility value with a cell, which reads as what is kept. -/
structure ReadsBack (t : BindType) (v : t.Value) (c : ColumnData) : Prop where
  sent : t.intoSql v = .ok c
  writable : c.Writable
  value : ¬c.IsNull
  reads : ∃ v', t.Keeps v v' ∧ t.fromSql c = .ok (.ok (some v'))

omit [ChronoCivil] in
theorem ReadsBack.ofTemporal {t : BindType} {v v' : t.Value} {α : Type} {decode : Decoder α} {w : α}
    (hinto : t.intoSql v = IntoSql.native t.toSql v) (hdecodes : DecodesTo t.toSql decode v w)
    (hcompat : CompatDecodesTo t.toSql t.fromSql v v') (hkeeps : t.Keeps v v') :
    ∃ c, t.ReadsBack v c := by
  obtain ⟨payload, cell, hp, hcell, -⟩ := hdecodes
  obtain ⟨c, hc, hread⟩ := hcompat
  have hpayload : c = .fromNative payload := by
    rw [IntoSql.native, hp] at hc
    cases hc
    rfl
  obtain ⟨hinto', hnull⟩ := temporalCell_compat hcell
  rw [← hpayload] at hinto'
  refine ⟨c, hinto.trans hc, ?_, ?_, v', hkeeps, hread⟩
  · cases c with
    | native x => cases hinto'
    | _ x => trivial
  · intro h
    cases hinto'.symm.trans h
    exact hnull rfl

omit [ChronoCivil] in
/-- A text is read back through the value it was sent as. -/
theorem json_readsBack {v v' : JsonValue} {s : String} (hs : v.sqlText = some s)
    (hv : SerdeJson.fromStr s = some v') : ∃ c, ReadsBack .json v c := by
  have hsql : ToSql.jsonValue v = .ok (.nVarchar (some (MssqlTds.fromUtf8String s)) 4000) := by
    cases v with
    | string _ => cases hs; rfl
    | array _ => cases hs; rfl
    | object _ => cases hs; rfl
    | _ => cases hs
  have hread : FromSql.jsonValue (.string (MssqlTds.fromUtf8String s)) = .ok (some v') := by
    rw [FromSql.jsonValue, MssqlTds.string_text, hv]
  refine ⟨.string (some s), ?_, trivial, ?_, v', ⟨s, hs, hv⟩, ?_⟩
  · show IntoSql.native ToSql.jsonValue v = _
    rw [IntoSql.native, hsql, Lib.Compute.ok_bind, fromNative_text]
    rfl
  · intro h
    cases h
  · exact decodeOwned_some
      (show (ColumnData.string (some s)).intoColumnValue = .ok (.string _) from rfl)
      (by rintro ⟨⟩) hread

omit [ChronoCivil] in
theorem decimal_readsBack [DecimalText] (d : Decimal) : ∃ c, ReadsBack .decimal d c := by
  obtain ⟨p, hp, hvalue, -⟩ := ToSql.decimal_exact d
  obtain ⟨n, hn, -, hread⟩ := FromSql.decimal_reads p
  have hfits : FitsDecimal n.value := by
    rw [hn, hvalue]
    exact RustDecimal.value_fits d
  obtain ⟨d', hparse, hd'⟩ := DecimalText.parse_exact n hfits
  refine ⟨.numeric (some p), ?_, trivial, ?_, d', ?_, ?_⟩
  · show IntoSql.native ToSql.decimal d = _
    rw [IntoSql.native, hp]
    rfl
  · intro h
    cases h
  · exact hd'.trans (hn.trans hvalue)
  · exact Compat.decimal_some (hread.trans (congrArg _ hparse))

theorem readsBack [DecimalText] (t : BindType) (v : t.Value) (h : t.Holds v) :
    ∃ c, t.ReadsBack v c := by
  have simple : ∀ c : ColumnData, t.intoSql v = .ok c → c.Writable → ¬c.IsNull → t.Keeps v v →
      t.fromSql c = .ok (.ok (some v)) → ∃ c, t.ReadsBack v c :=
    fun c hsent hwritable hvalue hkeeps hreads => ⟨c, hsent, hwritable, hvalue, v, hkeeps, hreads⟩
  cases t with
  | string =>
    have hread : FromSql.string (.string (MssqlTds.fromUtf8String v)) = .ok (some v) :=
      congrArg (fun s => Except.ok (some s)) (MssqlTds.string_text v)
    refine simple (.string (some v)) rfl trivial ?_ rfl ?_
    · intro h
      cases h
    · exact decodeOwned_some
        (show (ColumnData.string (some v)).intoColumnValue = .ok (.string _) from rfl)
        (by rintro ⟨⟩) hread
  | decimal => exact decimal_readsBack v
  | json =>
    obtain ⟨s, hs, hparses⟩ := h
    obtain ⟨v', hv⟩ := Option.isSome_iff_exists.mp hparses
    exact json_readsBack hs hv
  | naiveDate =>
    have hd := date_round_trip h
    exact ReadsBack.ofTemporal rfl hd (hd.compat_built rfl fun _ => rfl) rfl
  | naiveTime =>
    obtain ⟨t', htrunc, ht⟩ := time_round_trip h
    exact ReadsBack.ofTemporal rfl ht (ht.compat_built rfl fun _ => rfl) htrunc
  | naiveDateTime =>
    obtain ⟨dt', htrunc, hdt⟩ := dateTime_round_trip h.1 h.2
    exact ReadsBack.ofTemporal rfl hdt (hdt.compat_built rfl fun _ => rfl) htrunc
  | dateTimeFixedOffset =>
    obtain ⟨dt', htrunc, hoffset, hdt⟩ := fixedOffset_round_trip h.1 h.2
    exact ReadsBack.ofTemporal rfl hdt (hdt.compat_built rfl fun _ => rfl) ⟨htrunc, hoffset⟩
  | dateTimeUtc =>
    obtain ⟨dt', htrunc, -, hdt, hcompat⟩ := utc_round_trip h.1 h.2
    exact ReadsBack.ofTemporal rfl hdt hcompat htrunc
  | timeDate =>
    obtain ⟨d', hsame, hd⟩ := timeDate_round_trip h
    exact ReadsBack.ofTemporal rfl hd (hd.compat_built rfl fun _ => rfl) hsame
  | timeTime =>
    obtain ⟨t', htrunc, ht⟩ := timeTime_round_trip v
    exact ReadsBack.ofTemporal rfl ht (ht.compat_built rfl fun _ => rfl) htrunc
  | primitiveDateTime =>
    obtain ⟨dt', htrunc, hdt⟩ := primitiveDateTime_round_trip h
    exact ReadsBack.ofTemporal rfl hdt (hdt.compat_built rfl fun _ => rfl) htrunc
  | offsetDateTime =>
    obtain ⟨dt', hinstant, hoffset, hdt, hcompat⟩ := offsetDateTime_round_trip rfl h.2 h.1
    exact ReadsBack.ofTemporal rfl hdt hcompat ⟨hinstant, hoffset⟩
  | jiffDate =>
    obtain ⟨d', hsame, hd⟩ := jiffDate_round_trip h
    exact ReadsBack.ofTemporal rfl hd (hd.compat_built rfl fun _ => rfl) hsame
  | jiffTime =>
    obtain ⟨t', htrunc, ht⟩ := jiffTime_round_trip v
    exact ReadsBack.ofTemporal rfl ht (ht.compat_built rfl fun _ => rfl) htrunc
  | jiffDateTime =>
    obtain ⟨dt', htrunc, hdt⟩ := jiffDateTime_round_trip h
    exact ReadsBack.ofTemporal rfl hdt (hdt.compat_built rfl fun _ => rfl) htrunc
  | timestamp =>
    obtain ⟨t', hinstant, ht, hcompat⟩ := timestamp_round_trip h
    exact ReadsBack.ofTemporal rfl ht hcompat hinstant
  | zoned =>
    obtain ⟨z', hinstant, hoffset, hz, hcompat⟩ := zoned_round_trip h.2 h.1
    exact ReadsBack.ofTemporal rfl hz hcompat ⟨hinstant, hoffset⟩
  | _ =>
    refine simple _ rfl trivial ?_ rfl rfl
    intro h
    cases h

omit [ChronoCivil] [TimeCrateCivil] [TimeCrateInstants] [JiffCivil] [JiffInstants] in
/-- An absent value is a NULL that the type reads as absent. -/
theorem none_readsBack (t : BindType) : ∃ c, t.intoSqlOption none = .ok c ∧ c.Writable ∧
    c.intoColumnValue = .ok .null ∧ t.fromSql c = .ok (.ok none) := by
  cases t <;> exact ⟨_, rfl, trivial, rfl, rfl⟩

end BindType

/-- A value that a row can be written from and read back. -/
def BindValue.Held : BindValue → Prop
  | plain t v => t.Holds v
  | optional t v => ∀ w ∈ v, t.Holds w
  | data c => c.Writable

/-- The bound value has `v` in it. -/
inductive BindValue.Gives (t : BindType) (v : t.Value) : BindValue → Prop
  | plain : Gives t v (.plain t v)
  | some : Gives t v (.optional t (some v))

omit [ChronoFields] [ChronoCivil] in
theorem BindValue.Gives.intoSql {x : BindValue} {t : BindType} {v : t.Value} (h : x.Gives t v)
    (hx : x.Held) : x.intoSql = t.intoSql v ∧ t.Holds v := by
  cases h with
  | plain => exact ⟨rfl, hx⟩
  | some => exact ⟨t.intoSqlOption_some v, hx v rfl⟩

theorem BindValue.Held.intoSql [DecimalText] {x : BindValue} (h : x.Held) :
    ∃ c, x.intoSql = .ok c ∧ c.Writable := by
  cases x with
  | plain t v =>
    obtain ⟨c, hc⟩ := t.readsBack v h
    exact ⟨c, hc.sent, hc.writable⟩
  | optional t v =>
    cases v with
    | none =>
      obtain ⟨c, hc, hwritable, -⟩ := t.none_readsBack
      exact ⟨c, hc, hwritable⟩
    | some v =>
      obtain ⟨c, hc⟩ := t.readsBack v (h v rfl)
      exact ⟨c, (t.intoSqlOption_some v).trans hc.sent, hc.writable⟩
  | data c => exact ⟨c, rfl, h⟩

theorem BindValue.mapM_intoSql [DecimalText] {xs : List BindValue} (h : ∀ x ∈ xs, x.Held) :
    ∃ cs, List.Forall₂ (fun x c => x.intoSql = .ok c) xs cs ∧
      ∀ c ∈ cs, ColumnData.Writable c := by
  induction xs with
  | nil => exact ⟨[], .nil, fun c hc => absurd hc List.not_mem_nil⟩
  | cons x xs ih =>
    obtain ⟨c, hc, hwritable⟩ := (h x List.mem_cons_self).intoSql
    obtain ⟨cs, hcs, hrest⟩ := ih fun y hy => h y (List.mem_cons_of_mem _ hy)
    refine ⟨c :: cs, .cons hc hcs, ?_⟩
    intro c' hc'
    rcases List.mem_cons.mp hc' with rfl | hc'
    · exact hwritable
    · exact hrest c' hc'

/-- What is read of the row that `xs` were written as. -/
structure RowReadsBack [ErrorTexts] (schema : RowSchema) (xs : List BindValue) (row : TokenRow) :
    Prop where
  width : row.len = xs.length
  whole : row.writeToPacket.failure = none ∧ row.writeToPacket.cells.length = xs.length
  value : ∀ (i : Nat) (x : BindValue) t v, xs[i]? = some x → x.Gives t v →
    ∃ v', t.Keeps v v' ∧
      (keptRow schema row).tryGetCompat t.fromSql (.index i) = .ok (.ok (some v'))
  /-- In a column whose NULL is that of the type. -/
  null : ∀ (i : Nat) (t : BindType), xs[i]? = some (.optional t none) →
    t.intoSqlOption none = .ok (nullColumnData (schema.columnType i)) →
      (keptRow schema row).tryGetCompat t.fromSql (.index i) = .ok (.ok none)
  data : ∀ (i : Nat) (c : ColumnData), xs[i]? = some (.data c) → ¬c.IsNull →
    (keptRow schema row).compatValues[i]? = some c

omit [ChronoFields] [ChronoCivil] [TimeCrateCivil] [TimeCrateInstants] [JiffCivil]
  [JiffInstants] in
/-- The bulk value at a position, and the compatibility value that the row has for it. -/
theorem RowReadsBack.at [ErrorTexts] {xs : List BindValue} {cs : List ColumnData}
    (hcs : List.Forall₂ (fun x c => x.intoSql = .ok c) xs cs) (hwritable : ∀ c ∈ cs, c.Writable)
    (schema : RowSchema) {i : Nat} {x : BindValue} (hx : xs[i]? = some x) :
    ∃ c cell, x.intoSql = .ok c ∧ c.intoColumnValue = .ok cell ∧
      (keptRow schema ⟨cs⟩).compatValues[i]? = some (cellData cell (schema.columnType i)) ∧
      ∀ {α : Type} (fromSql : CompatDecoder α),
        (keptRow schema ⟨cs⟩).tryGetCompat fromSql (.index i) =
          fromSql (cellData cell (schema.columnType i)) := by
  obtain ⟨hi, rfl⟩ := List.getElem?_eq_some_iff.mp hx
  have hi' : i < cs.length := by
    have hlen := hcs.length_eq
    omega
  obtain ⟨cell, hcell, hvalue, hresolve⟩ :=
    keptRow_compatValues schema hwritable (List.getElem?_eq_getElem hi')
  refine ⟨cs[i], cell, hcs.get hi hi', hcell, hvalue, ?_⟩
  intro α fromSql
  rw [Row.tryGetCompat, hresolve]
  dsimp only
  rw [hvalue]

/-- Bulk rows: what is written of one, what is read of it, and which are refused. -/
structure BulkReadsBack [ErrorTexts] : Prop where
  back : ∀ (schema : RowSchema) (xs : List BindValue), (∀ x ∈ xs, x.Held) →
    ∃ row, intoRow xs = .ok row ∧ RowReadsBack schema xs row
  /-- A native parameter ends its row, and the cells before it have been written. -/
  refused : ∀ (before : List ColumnData) v rest, (∀ c ∈ before, c.Writable) →
    (TokenRow.mk (before ++ .native v :: rest)).writeToPacket =
      { cells := (TokenRow.mk before).writeToPacket.cells
        failure := some (.usageError (Error.conversion (.bridgeNative v)).toText) }
  /-- A date out of range is all that panics, and the first one does. -/
  panics : ∀ (xs : List BindValue) p,
    intoRow xs = .error p ↔ xs.findSome? BindValue.boundPanic = some p

theorem bulk_reads_back [DecimalText] [ErrorTexts] : BulkReadsBack := by
  refine ⟨?_, fun before v rest h => TokenRow.writeValues_native h v, intoRow_panics⟩
  · intro schema xs hxs
    obtain ⟨cs, hcs, hwritable⟩ := BindValue.mapM_intoSql hxs
    refine ⟨⟨cs⟩, ?_, ?_⟩
    · rw [intoRow_eq, Lib.mapM_ok_iff.mpr hcs]
      rfl
    obtain ⟨hfailure, hcells⟩ := TokenRow.writeValues_writable hwritable
    refine ⟨hcs.length_eq.symm, ⟨hfailure, ?_⟩, ?_, ?_, ?_⟩
    · exact hcells.length_eq.symm.trans hcs.length_eq.symm
    · intro i x t v hx hgives
      obtain ⟨hsent', hheld⟩ := hgives.intoSql (hxs _ (List.mem_of_getElem? hx))
      obtain ⟨c, hback⟩ := t.readsBack v hheld
      obtain ⟨c', cell, hsent, hcell, -, hget⟩ := RowReadsBack.at hcs hwritable schema hx
      rw [hsent'] at hsent
      cases hback.sent.symm.trans hsent
      have hnull : cell ≠ .null := by
        rintro rfl
        exact hback.value hcell
      obtain ⟨v', hkeeps, hreads⟩ := hback.reads
      refine ⟨v', hkeeps, ?_⟩
      rw [hget, ColumnData.cellData_of_intoColumnValue hcell hnull]
      exact hreads
    · intro i t hx hcolumn
      obtain ⟨c, cell, hsent, hcell, -, hget⟩ := RowReadsBack.at hcs hwritable schema hx
      obtain ⟨c', hc', -, hnull, hreads⟩ := t.none_readsBack
      cases hc'.symm.trans hsent
      cases hnull.symm.trans hcell
      cases hc'.symm.trans hcolumn
      rw [hget]
      exact hreads
    · intro i c hx hvalue
      obtain ⟨c', cell, hsent, hcell, hget, -⟩ := RowReadsBack.at hcs hwritable schema hx
      cases hsent
      have hnull : cell ≠ .null := by
        rintro rfl
        exact hvalue hcell
      rw [hget, ColumnData.cellData_of_intoColumnValue hcell hnull]

end Types

end

end TiberiusBridge

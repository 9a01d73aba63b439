import TiberiusBridge.Compat.ReadChannels
import TiberiusBridge.Convert.Reference

/-!
# The compatibility type of a NULL

A NULL has no type of its own: it takes the one that the metadata gives the
column. Outside `sql_variant` and vector columns that is the type of the values
of the column, and a target that reads the values reads the NULL.
-/
namespace TiberiusBridge

open Lib (Compute)

section

variable [MssqlTds]

/-- The values of a column, by the standard mapping of the driver: nullable numeric and temporal
types are resolved by their length. -/
def Produces (dataType : TdsDataType) (length : Nat) (v : ColumnValues) : Prop :=
  match dataType with
  | .void => False
  | .bit | .bitN => ∃ b, v = .bit b
  | .int1 => ∃ n, v = .tinyInt n
  | .int2 => ∃ n, v = .smallInt n
  | .int4 => ∃ n, v = .int n
  | .int8 => ∃ n, v = .bigInt n
  | .intN =>
    (length = 1 ∧ ∃ n, v = .tinyInt n) ∨ (length = 2 ∧ ∃ n, v = .smallInt n) ∨
      (length = 4 ∧ ∃ n, v = .int n) ∨ (length = 8 ∧ ∃ n, v = .bigInt n)
  | .flt4 => ∃ x, v = .real x
  | .flt8 => ∃ x, v = .float x
  | .fltN => (length = 4 ∧ ∃ x, v = .real x) ∨ (length = 8 ∧ ∃ x, v = .float x)
  | .money => ∃ m, v = .money m
  | .money4 => ∃ m, v = .smallMoney m
  | .moneyN => (length = 4 ∧ ∃ m, v = .smallMoney m) ∨ (length = 8 ∧ ∃ m, v = .money m)
  | .dateTime => ∃ d, v = .dateTime d
  | .dateTim4 => ∃ d, v = .smallDateTime d
  | .dateTimeN => (length = 4 ∧ ∃ d, v = .smallDateTime d) ∨ (length = 8 ∧ ∃ d, v = .dateTime d)
  | .dateTime2N => ∃ d, v = .dateTime2 d
  | .dateTimeOffsetN => ∃ d, v = .dateTimeOffset d
  | .dateN => ∃ d, v = .date d
  | .timeN => ∃ t, v = .time t
  | .decimal | .decimalN => ∃ d, v = .decimal d
  | .numeric | .numericN => ∃ d, v = .numeric d
  | .guid => ∃ g, v = .uuid g
  | .varChar | .char | .bigVarChar | .bigChar | .nVarChar | .nChar | .text | .nText =>
    ∃ s, v = .string s
  | .binary | .varBinary | .bigVarBinary | .bigBinary | .image | .udt => ∃ b, v = .bytes b
  | .xml => ∃ x, v = .xml x
  | .json => ∃ j, v = .json j
  | .vector => ∃ x, v = .vector x
  | .ssVariant => v ≠ .null

namespace ColumnData

/-- `std::mem::discriminant`. -/
def discriminant (c : ColumnData) : Nat := c.ctorIdx

/-- The NULL of the same variant. -/
def nullOf : ColumnData → ColumnData
  | bit _ => bit none
  | u8 _ => u8 none
  | i16 _ => i16 none
  | i32 _ => i32 none
  | i64 _ => i64 none
  | f32 _ => f32 none
  | f64 _ => f64 none
  | string _ => string none
  | guid _ => guid none
  | binary _ => binary none
  | numeric _ => numeric none
  | xml _ => xml none
  | dateTime _ => dateTime none
  | smallDateTime _ => smallDateTime none
  | time _ => time none
  | date _ => date none
  | dateTime2 _ => dateTime2 none
  | dateTimeOffset _ => dateTimeOffset none
  | money _ => money none
  | smallMoney _ => smallMoney none
  | json _ => json none
  | native v => native v

theorem nullOf_discriminant (c : ColumnData) : c.nullOf.discriminant = c.discriminant := by
  cases c <;> rfl

end ColumnData

/-- A `sql_variant` value has a type of its own, and a vector no compatibility type. -/
def Untyped (dataType : TdsDataType) : Prop := dataType = .ssVariant ∨ dataType = .vector

/-- The columns whose type the metadata tables do not resolve. -/
def Unresolved (dataType : TdsDataType) (length : Nat) : Prop :=
  dataType = .money4 ∨ dataType = .bigBinary ∨ dataType = .dateTimeN ∧ length = 4

theorem nullColumnData_udt (md : ColumnMetadata) (h : md.dataType = .udt) :
    nullColumnData (ColumnType.fromMetadata md) = .binary none := by
  unfold ColumnType.fromMetadata
  rw [h]
  cases md.udtInfo with
  | none => rfl
  | some info =>
    simp only
    split
    · split
      · rfl
      · split <;> rfl
    · rfl

omit [MssqlTds] in
theorem fromMetadata_eq (md : ColumnMetadata) (h : md.dataType ≠ .udt) :
    ColumnType.fromMetadata md = ColumnType.fromTdsWithLength md.dataType md.length := by
  unfold ColumnType.fromMetadata
  split
  · next hudt _ => exact absurd hudt h
  · rfl

/-- The NULL of a column is the NULL of its values' variant. -/
theorem null_eq_nullOf {md : ColumnMetadata} {v : ColumnValues}
    (hv : Produces md.dataType md.length v) (hu : ¬ Untyped md.dataType)
    (hr : ¬ Unresolved md.dataType md.length) (decoded : Option String) :
    nullColumnData (ColumnType.fromMetadata md) =
      (columnDataRef v decoded (ColumnType.fromMetadata md)).nullOf := by
  by_cases hudt : md.dataType = .udt
  · rw [hudt] at hv
    obtain ⟨b, rfl⟩ := hv
    exact nullColumnData_udt md hudt
  rw [fromMetadata_eq md hudt]
  generalize md.dataType = dataType at *
  generalize md.length = length at *
  cases dataType with
  | void => exact hv.elim
  | udt => exact absurd rfl hudt
  | ssVariant => exact absurd (.inl rfl) hu
  | vector => exact absurd (.inr rfl) hu
  | money4 => exact absurd (.inl rfl) hr
  | bigBinary => exact absurd (.inr (.inl rfl)) hr
  | intN =>
    obtain ⟨rfl, n, rfl⟩ | ⟨rfl, n, rfl⟩ | ⟨rfl, n, rfl⟩ | ⟨rfl, n, rfl⟩ := hv <;> rfl
  | fltN => obtain ⟨rfl, x, rfl⟩ | ⟨rfl, x, rfl⟩ := hv <;> rfl
  | moneyN => obtain ⟨rfl, m, rfl⟩ | ⟨rfl, m, rfl⟩ := hv <;> rfl
  | dateTimeN =>
    obtain ⟨rfl, d, rfl⟩ | ⟨rfl, d, rfl⟩ := hv
    · exact absurd (.inr (.inr ⟨rfl, rfl⟩)) hr
    · rfl
  | _ =>
    obtain ⟨x, rfl⟩ := hv
    rfl

/-- A target reads the NULL of every variant that it reads a value of. -/
def ReadsNull {α : Type} (compat : CompatDecoder α) : Prop :=
  ∀ c x, compat c = .ok (.ok (some x)) → compat c.nullOf = .ok (.ok none)

theorem decodeOwned_nullOf {α : Type} {typeName : String} {fromSql : Decoder α} {c : ColumnData}
    {x : α} (hnull : fromSql .null = .ok none)
    (h : decodeOwned typeName fromSql c = .ok (.ok (some x))) :
    decodeOwned typeName fromSql c.nullOf = .ok (.ok none) := by
  have hc : c.nullOf.intoColumnValue = .ok .null := by
    cases c with
    | native v => cases h
    | _ => rfl
  simp only [decodeOwned, hc, hnull, Lib.Compute.ok_bind]
  rfl

theorem fromColumnDataExact_readsNull {α : Type} {typeName : String} {fromSql : Decoder α}
    {accepts : ColumnData → Bool} (hnull : fromSql .null = .ok none)
    (haccepts : ∀ c, accepts c = true → accepts c.nullOf = true) :
    ReadsNull (fromColumnDataExact typeName accepts fromSql) := by
  intro c x h
  unfold fromColumnDataExact at h ⊢
  by_cases ha : accepts c = true
  · rw [if_pos ha] at h
    rw [if_pos (haccepts c ha)]
    exact decodeOwned_nullOf hnull h
  · rw [if_neg ha] at h
    cases h

variable [Chrono] [RustDecimal] [JsonNumbers] [SerdeJson]

omit [RustDecimal] [JsonNumbers] [SerdeJson] in
theorem Compat.dateTimeUtc_readsNull : ReadsNull Compat.dateTimeUtc := by
  intro c x h
  cases c with
  | dateTimeOffset v => rfl
  | dateTime2 v => rfl
  | _ => cases h

variable [ChronoFields] [TimeCrate] [Jiff]

/-- Every type with a `compat::FromSql`. -/
inductive CompatTarget
  | native (t : ReadTarget)
  | decimalParts
  | dateTimeUtc

namespace CompatTarget

def Value : CompatTarget → Type
  | native t => t.Value
  | decimalParts => DecimalParts
  | dateTimeUtc => DateTime Utc

def compat : (t : CompatTarget) → CompatDecoder t.Value
  | native t => t.compat
  | decimalParts => Compat.decimalParts
  | dateTimeUtc => Compat.dateTimeUtc

theorem readsNull (t : CompatTarget) : ReadsNull t.compat := by
  cases t with
  | decimalParts =>
    intro c x h
    cases c with
    | numeric v => rfl
    | _ => cases h
  | dateTimeUtc => exact Compat.dateTimeUtc_readsNull
  | native t =>
    cases t with
    | str =>
      intro c x h
      cases c with
      | string v => rfl
      | _ => cases h
    | byteSlice =>
      intro c x h
      cases c with
      | binary v => rfl
      | _ => cases h
    | _ =>
      refine fromColumnDataExact_readsNull rfl fun c hc => ?_
      cases c <;> first | rfl | cases hc

end CompatTarget

/-- A column whose values and NULLs agree in the compatibility view. -/
structure NullAgrees (md : ColumnMetadata) : Prop where
  variant : ∀ v, Produces md.dataType md.length v → ∀ decoded,
    (columnDataRef .null none (Column.fromTds md).columnType).discriminant =
      (columnDataRef v decoded (Column.fromTds md).columnType).discriminant
  target : ∀ v, Produces md.dataType md.length v → ∀ decoded (t : CompatTarget) (x : t.Value),
    t.compat (columnDataRef v decoded (Column.fromTds md).columnType) = .ok (.ok (some x)) →
      t.compat (columnDataRef .null none (Column.fromTds md).columnType) = .ok (.ok none)

/-- Values and NULLs of a typed column agree; the NULL of `sql_variant` or of a vector is binary. -/
structure ColumnNulls : Prop where
  agrees : ∀ md : ColumnMetadata, ¬ Untyped md.dataType → ¬ Unresolved md.dataType md.length →
    NullAgrees md
  untyped : ∀ md : ColumnMetadata, Untyped md.dataType →
    columnDataRef .null none (Column.fromTds md).columnType = .binary none

theorem column_nulls : ColumnNulls where
  agrees md hu hr := by
    constructor
    · intro v hv decoded
      have h := congrArg ColumnData.discriminant (null_eq_nullOf hv hu hr decoded)
      rwa [ColumnData.nullOf_discriminant] at h
    · intro v hv decoded t x hx
      have h := t.readsNull _ x hx
      rwa [Column.fromTds, ← null_eq_nullOf hv hu hr decoded] at h
  untyped md h := by
    have hudt : md.dataType ≠ .udt := by
      rintro hudt
      rw [hudt] at h
      rcases h with h | h <;> cases h
    show nullColumnData (ColumnType.fromMetadata md) = _
    rw [fromMetadata_eq md hudt]
    rcases h with h | h <;> rw [h] <;> rfl

end

section

open scoped Reference

def variantColumn : ColumnMetadata :=
  { columnName := "v", dataType := .ssVariant, length := 8016 }

/-- An integer in a `sql_variant` column is read as `i32`, and a NULL there is a binary one, which
`i32` refuses. -/
theorem variant_null_differs :
    Produces variantColumn.dataType variantColumn.length (.int 5) ∧
    (columnDataRef .null none (Column.fromTds variantColumn).columnType).discriminant ≠
      (columnDataRef (.int 5) none (Column.fromTds variantColumn).columnType).discriminant ∧
    Compat.i32 (columnDataRef (.int 5) none (Column.fromTds variantColumn).columnType) =
      .ok (.ok (some 5)) ∧
    Compat.i32 (columnDataRef .null none (Column.fromTds variantColumn).columnType) =
      .ok (.error (.conversion (.cannotInterpret (.binary none) "i32"))) := by
  refine ⟨?_, ?_, rfl, rfl⟩
  · intro h
    cases h
  · decide

end

end TiberiusBridge

import TiberiusBridge.Client.Session
import TiberiusBridge.Convert.Instants
import TiberiusBridge.Convert.Reference

/-!
# Dynamic and direct parameters

`Query::bind` converts a value to a compatibility value, which becomes a
parameter when the query runs; a direct parameter goes through the native
encoder alone. The two agree except on long text, which only the first declares
as `MAX`, on an absent JSON value, and on an absent value whose type has a
default that SQL Server does not have.
-/
namespace TiberiusBridge

open Lib (Compute Panic)

section

variable [MssqlTds]

/-- `compat::Query`. -/
structure Query where
  sql : String
  params : List ColumnData

namespace Query

def new (sql : String) : Query := { sql, params := [] }

def bind (q : Query) (param : Compute ColumnData) : Compute Query := do
  return { q with params := q.params ++ [← param] }

/-- The bound values as native parameters. -/
def nativeParams (q : Query) : List Param := q.params.map fun value => .ok value.toSql

/-- The entry points `query` and `execute` go through. -/
def query (q : Query) : Entry := .queryCompat q.sql q.nativeParams

def execute (q : Query) : Entry := .execute q.sql q.nativeParams

end Query

variable [Chrono] [RustDecimal] [JsonNumbers] [SerdeJson] [TimeCrate] [TimeFields] [Jiff]
  [JiffFields]

/-- The types with a native encoder and a conversion by value. -/
inductive BindType
  | bool
  | u8
  | i16
  | i32
  | i64
  | f32
  | f64
  | str
  | string
  | byteVec
  | byteSlice
  | uuid
  | decimal
  | json
  | naiveDate
  | naiveTime
  | naiveDateTime
  | dateTimeFixedOffset
  | dateTimeUtc
  | timeDate
  | timeTime
  | primitiveDateTime
  | offsetDateTime
  | jiffDate
  | jiffTime
  | jiffDateTime
  | timestamp
  | zoned
  deriving DecidableEq, Repr

namespace BindType

def Value : BindType → Type
  | bool => Bool
  | u8 => UInt8
  | i16 => Int16
  | i32 => Int32
  | i64 => Int64
  | f32 => F32
  | f64 => F64
  | str | string => String
  | byteVec | byteSlice => List UInt8
  | uuid => Uuid
  | decimal => Decimal
  | json => JsonValue
  | naiveDate => NaiveDate
  | naiveTime => NaiveTime
  | naiveDateTime => NaiveDateTime
  | dateTimeFixedOffset => DateTime FixedOffset
  | dateTimeUtc => DateTime Utc
  | timeDate => TimeCrate.Date
  | timeTime => TimeCrate.Time
  | primitiveDateTime => PrimitiveDateTime
  | offsetDateTime => TimeCrate.OffsetDateTime
  | jiffDate => Jiff.Date
  | jiffTime => Jiff.Time
  | jiffDateTime => Jiff.DateTime
  | timestamp => Jiff.Timestamp
  | zoned => Jiff.Zoned

/-- `ToSql::to_sql`. -/
def toSql : (t : BindType) → Encoder t.Value
  | bool => ToSql.bool
  | u8 => ToSql.u8
  | i16 => ToSql.i16
  | i32 => ToSql.i32
  | i64 => ToSql.i64
  | f32 => ToSql.f32
  | f64 => ToSql.f64
  | str => ToSql.str
  | string => ToSql.string
  | byteVec | byteSlice => ToSql.bytes
  | uuid => ToSql.uuid
  | decimal => ToSql.decimal
  | json => ToSql.jsonValue
  | naiveDate => ToSql.naiveDate
  | naiveTime => ToSql.naiveTime
  | naiveDateTime => ToSql.naiveDateTime
  | dateTimeFixedOffset => ToSql.dateTimeFixedOffset
  | dateTimeUtc => ToSql.dateTimeUtc
  | timeDate => ToSql.TimeCrate.date
  | timeTime => ToSql.TimeCrate.time
  | primitiveDateTime => ToSql.TimeCrate.primitiveDateTime
  | offsetDateTime => ToSql.TimeCrate.offsetDateTime
  | jiffDate => ToSql.Jiff.date
  | jiffTime => ToSql.Jiff.time
  | jiffDateTime => ToSql.Jiff.dateTime
  | timestamp => ToSql.Jiff.timestamp
  | zoned => ToSql.Jiff.zoned

/-- The types of `time` have no `Default`, and so no native encoder of their options. -/
def hasDefault : BindType → Bool
  | timeDate | timeTime | primitiveDateTime | offsetDateTime => false
  | _ => true

/-- `Default::default`. -/
def default : (t : BindType) → t.hasDefault = true → t.Value
  | bool, _ => false
  | u8, _ => (0 : UInt8)
  | i16, _ => (0 : Int16)
  | i32, _ => (0 : Int32)
  | i64, _ => (0 : Int64)
  | f32, _ => (⟨0⟩ : F32)
  | f64, _ => (⟨0⟩ : F64)
  | str, _ | string, _ => ""
  | byteVec, _ | byteSlice, _ => ([] : List UInt8)
  | uuid, _ => (⟨0⟩ : Uuid)
  | decimal, _ => RustDecimal.zero
  | json, _ => JsonValue.null
  | naiveDate, _ => Chrono.defaultDate
  | naiveTime, _ => Chrono.defaultTime
  | naiveDateTime, _ => NaiveDateTime.default
  | dateTimeFixedOffset, _ => (⟨.default, Chrono.defaultOffset⟩ : DateTime FixedOffset)
  | dateTimeUtc, _ => (⟨.default, .utc⟩ : DateTime Utc)
  | jiffDate, _ => JiffFields.defaultDate
  | jiffTime, _ => JiffFields.defaultTime
  | jiffDateTime, _ => JiffFields.defaultDateTime
  | timestamp, _ => JiffFields.defaultTimestamp
  | zoned, _ => JiffFields.defaultZoned
  | timeDate, h | timeTime, h | primitiveDateTime, h | offsetDateTime, h =>
    absurd h Bool.false_ne_true

/-- `IntoSql::into_sql`. -/
def intoSql : (t : BindType) → t.Value → Compute ColumnData
  | str | string => IntoSql.string
  | byteVec | byteSlice => IntoSql.bytes
  | t => IntoSql.native t.toSql

/-- What `None` converts to. -/
def null : BindType → ColumnData
  | bool => .bit none
  | u8 => .u8 none
  | i16 => .i16 none
  | i32 => .i32 none
  | i64 => .i64 none
  | f32 => .f32 none
  | f64 => .f64 none
  | str | string => .string none
  | byteVec | byteSlice => .binary none
  | uuid => .guid none
  | decimal => .numeric none
  | json => .json none
  | naiveDate | timeDate | jiffDate => .date none
  | naiveTime | timeTime | jiffTime => .time none
  | naiveDateTime | primitiveDateTime | jiffDateTime => .dateTime2 none
  | dateTimeFixedOffset | dateTimeUtc | offsetDateTime | timestamp | zoned => .dateTimeOffset none

/-- `IntoSql::into_sql` for `Option` of the type. -/
def intoSqlOption : (t : BindType) → Option t.Value → Compute ColumnData
  | str | string => IntoSql.optionString
  | byteVec | byteSlice => IntoSql.optionBytes
  | t => IntoSql.optional t.toSql t.null

end BindType

/-- A value of a bindable type, an option of one, or a compatibility value. -/
inductive BindValue
  | plain (t : BindType) (v : t.Value)
  | optional (t : BindType) (v : Option t.Value)
  | data (v : ColumnData)

namespace BindValue

def intoSql : BindValue → Compute ColumnData
  | plain t v => t.intoSql v
  | optional t v => t.intoSqlOption v
  | data v => .ok v

/-- As the parameter a bound value becomes. -/
def bound (x : BindValue) : Param := do return (← x.intoSql).toSql

/-- The type of the value has a native encoder too. -/
def HasNative : BindValue → Prop
  | plain _ _ | data _ => True
  | optional t _ => t.hasDefault = true

/-- As a direct parameter. -/
def direct : (x : BindValue) → x.HasNative → Param
  | plain t v, _ => t.toSql v
  | optional t v, h => ToSql.option t.toSql (t.default h) v
  | data v, _ => .ok v.toSql

end BindValue

/-- A value that can be bound and can be passed directly. -/
abbrev TwoWayValue := { x : BindValue // x.HasNative }

def TwoWayValue.direct (x : TwoWayValue) : Param := x.val.direct x.property

/-- `Query::bind` of the values in turn. -/
def Query.bindAll (q : Query) (xs : List BindValue) : Compute Query :=
  xs.foldlM (fun q x => q.bind x.intoSql) q

/-- The text a JSON value is sent as. -/
def JsonValue.sqlText : JsonValue → Option String
  | .string s => some s
  | .array vs => some (SerdeJson.text (.array vs))
  | .object fields => some (SerdeJson.text (.object fields))
  | _ => none

/-- Text of at most 4000 UTF-16 code units, or no text. -/
def BindType.Fits : (t : BindType) → t.Value → Prop
  | .str, s | .string, s => utf16Count s ≤ 4000
  | .json, v => ∀ s ∈ JsonValue.sqlText v, utf16Count s ≤ 4000
  | _, _ => True

/-- Neither long text nor an absent JSON value, nor an absent one that defaults to the year 0. -/
def BindValue.Alike : BindValue → Prop
  | plain t v => t.Fits v
  | optional t (some v) => t.Fits v
  | optional t none => t ≠ .json ∧ t ≠ .jiffDate ∧ t ≠ .jiffDateTime
  | data _ => True

/-- A date that SQL Server does not have panics. -/
def BindType.panics : (t : BindType) → t.Value → Option Panic
  | .naiveDate, d => datePanic d
  | .naiveDateTime, dt => datePanic dt.date
  | .dateTimeFixedOffset, dt => datePanic dt.naiveUtc.date
  | .dateTimeUtc, dt => datePanic dt.naiveUtc.date
  | .timeDate, d => civilPanic (ToSql.TimeCrate.chronoDate d)
  | .primitiveDateTime, dt => civilPanic (ToSql.TimeCrate.chronoDate dt.date)
  | .offsetDateTime, dt => ToSql.TimeCrate.utcPanic dt
  | .jiffDate, d => civilPanic (ToSql.Jiff.civilDate d)
  | .jiffDateTime, dt => civilPanic (ToSql.Jiff.civilDate (JiffFields.date dt))
  | .timestamp, t => civilPanic (ToSql.Jiff.civilDate (JiffFields.date (JiffFields.toUtc t)))
  | .zoned, z => civilPanic
      (ToSql.Jiff.civilDate (JiffFields.date (JiffFields.toUtc (JiffFields.timestamp z))))
  | _, _ => none

namespace BindValue

/-- What binding the value panics with. -/
def boundPanic : BindValue → Option Panic
  | plain t v => t.panics v
  | optional t v => v.bind t.panics
  | data _ => none

/-- What passing it directly panics with: `None` is encoded through the default. -/
def directPanic : (x : BindValue) → x.HasNative → Option Panic
  | plain t v, _ => t.panics v
  | optional t v, h => t.panics (v.getD (t.default h))
  | data _, _ => none

end BindValue

def TwoWayValue.directPanic (x : TwoWayValue) : Option Panic := x.val.directPanic x.property

section

omit [Chrono] [RustDecimal] [JsonNumbers] [SerdeJson] [TimeCrate] [TimeFields] [Jiff] [JiffFields]

/-- The same type exactly where `P` holds, and otherwise different ones however text is sent. -/
def SameWhen (P : Prop) (a b : SqlType) : Prop :=
  (P → a = b) ∧
    (¬ P → ∀ unicode, encodeStringParameters a unicode ≠ encodeStringParameters b unicode)

theorem SameWhen.of_eq {P : Prop} {a b : SqlType} (h : a = b) (hp : P) : SameWhen P a b :=
  ⟨fun _ => h, fun hn => absurd hp hn⟩

theorem SameWhen.eq_iff {P : Prop} {a b : SqlType} (h : SameWhen P a b) : a = b ↔ P := by
  constructor
  · intro heq
    by_contra hn
    exact h.2 hn true (by rw [heq])
  · exact h.1

theorem SameWhen.encoded_iff {P : Prop} {a b : SqlType} (h : SameWhen P a b) (unicode : Bool) :
    encodeStringParameters a unicode = encodeStringParameters b unicode ↔ P := by
  constructor
  · intro heq
    by_contra hn
    exact h.2 hn unicode heq
  · intro hp
    rw [h.1 hp]

/-- The compatibility value of a text declares long text as `MAX`. -/
theorem string_same (s : String) :
    SameWhen (utf16Count s ≤ 4000) (ColumnData.string (some s)).toSql
      (.nVarchar (some (MssqlTds.fromUtf8String s)) 4000) := by
  by_cases h : utf16Count s > 4000
  · have hmax : (ColumnData.string (some s)).toSql =
        .nVarcharMax (some (MssqlTds.fromUtf8String s)) := if_pos h
    refine ⟨fun hle => by omega, fun _ unicode => ?_⟩
    rw [hmax]
    cases unicode <;> exact fun heq => by cases heq
  · exact SameWhen.of_eq (if_neg h) (by omega)

theorem fromNative_text (s : String) :
    ColumnData.fromNative (.nVarchar (some (MssqlTds.fromUtf8String s)) 4000) =
      .string (some s) :=
  congrArg (fun s => ColumnData.string (some s)) (MssqlTds.string_text s)

theorem text_same (s : String) :
    SameWhen (utf16Count s ≤ 4000)
      (ColumnData.fromNative (.nVarchar (some (MssqlTds.fromUtf8String s)) 4000)).toSql
        (.nVarchar (some (MssqlTds.fromUtf8String s)) 4000) := by
  rw [fromNative_text]
  exact string_same s

end

omit [MssqlTds] [RustDecimal] [JsonNumbers] [SerdeJson] [TimeCrate] [TimeFields] [Jiff]
  [JiffFields] in
theorem defaultDate_inSqlRange : InSqlRange Chrono.defaultDate := by
  have h := Chrono.defaultDate_day
  unfold InSqlRange lastSqlDay
  omega

omit [Chrono] [JsonNumbers] [SerdeJson] [TimeCrate] [TimeFields] [Jiff] [JiffFields] in
/-- A mantissa of 96 bits has at most 29 digits. -/
theorem ToSql.decimal_encodes (d : Decimal) : ∃ parts, ToSql.decimal d = .ok (.numeric parts) := by
  have hlt : (RustDecimal.mantissa d).natAbs < 10 ^ 29 :=
    (RustDecimal.mantissa_lt d).trans (by decide)
  have hlog : Nat.log 10 (RustDecimal.mantissa d).natAbs < 29 :=
    Nat.log_lt_of_lt_pow' (by decide) hlt
  have htry : Lib.tryUnsigned 8
      ((Nat.log 10 (RustDecimal.mantissa d).natAbs + 1 : Nat) : Int) =
        some (Nat.log 10 (RustDecimal.mantissa d).natAbs + 1) :=
    Lib.tryUnsigned_some (by omega)
  simp only [decimal, htry, Lib.Compute.expect_some, Lib.Compute.ok_bind, decimalToSqlType]
  split
  · exact ⟨_, rfl⟩
  · split <;> exact ⟨_, rfl⟩

namespace BindType

variable {t : BindType}

/-- What a value is sent as, both ways; only of a JSON value is the NULL not that of the type. -/
structure Sent (t : BindType) (v : t.Value) (s : SqlType) : Prop where
  same : SameWhen (t.Fits v) (ColumnData.fromNative s).toSql s
  null : t ≠ .json → intoTypedNull s = t.null.toSql

omit [TimeFields] [JiffFields] in
theorem jsonValue_sent (v : JsonValue) : (ToSql.jsonValue v).Returns (Sent .json v) := by
  have text : ∀ s, v.sqlText = some s →
      Sent .json v (.nVarchar (some (MssqlTds.fromUtf8String s)) 4000) := by
    intro s ht
    refine ⟨?_, fun h => absurd rfl h⟩
    have hfits : Fits .json v ↔ utf16Count s ≤ 4000 := by
      show (∀ s' ∈ v.sqlText, _) ↔ _
      simp [ht]
    rw [hfits]
    exact text_same s
  have other : ∀ s, (ColumnData.fromNative s).toSql = s → v.sqlText = none → Sent .json v s := by
    intro s hkeep ht
    refine ⟨SameWhen.of_eq hkeep ?_, fun h => absurd rfl h⟩
    show ∀ s' ∈ v.sqlText, _
    simp [ht]
  cases v with
  | null | bool b => exact ⟨_, rfl, other _ rfl rfl⟩
  | number n =>
    cases hi : JsonNumbers.asI64 n with
    | some i => exact ⟨.bigInt (some i), by simp only [ToSql.jsonValue, hi], other _ rfl rfl⟩
    | none =>
      cases hf : JsonNumbers.asF64 n with
      | some f =>
        exact ⟨.float (some f), by simp only [ToSql.jsonValue, hi, hf], other _ rfl rfl⟩
      | none =>
        exact ⟨.float (some F64.nan), by simp only [ToSql.jsonValue, hi, hf], other _ rfl rfl⟩
  | string s => exact ⟨_, rfl, text s rfl⟩
  | array vs => exact ⟨_, rfl, text _ rfl⟩
  | object fields => exact ⟨_, rfl, text _ rfl⟩

/-- A value is sent unless its date is out of range. -/
theorem toSql_settles (t : BindType) (v : t.Value) :
    (t.toSql v).Settles (t.panics v) (t.Sent v) := by
  have sent : ∀ s : SqlType, (ColumnData.fromNative s).toSql = s → intoTypedNull s = t.null.toSql →
      t.Fits v → t.Sent v s := fun s hkeep hnull hfits => ⟨.of_eq hkeep hfits, fun _ => hnull⟩
  cases t with
  | str | string => exact ⟨_, rfl, text_same v, fun _ => rfl⟩
  | json => exact jsonValue_sent v
  | decimal =>
    obtain ⟨parts, hp⟩ := ToSql.decimal_encodes v
    exact ⟨_, hp, sent _ rfl rfl trivial⟩
  | naiveDate => exact (ToSql.naiveDateToSql_settles v).bind fun d _ => ⟨_, rfl, sent _ rfl rfl trivial⟩
  | naiveTime =>
    have htime : (ToSql.naiveTimeToSql v).Settles none _ := ToSql.naiveTimeToSql_scale v
    exact htime.bind fun st _ => ⟨_, rfl, sent _ rfl rfl trivial⟩
  | naiveDateTime =>
    exact (ToSql.naiveDtToSql_settles v).bind fun st _ => ⟨_, rfl, sent _ rfl rfl trivial⟩
  | dateTimeFixedOffset | dateTimeUtc =>
    exact (ToSql.naiveDtToSql_settles v.naiveUtc).bind fun st _ => ⟨_, rfl, sent _ rfl rfl trivial⟩
  | timeDate =>
    exact (ToSql.civilDateToSql_settles _).bind fun d _ => ⟨_, rfl, sent _ rfl rfl trivial⟩
  | timeTime =>
    have htime : (ToSql.TimeCrate.timeToSql v).Settles none _ := ToSql.TimeCrate.timeToSql_scale v
    exact htime.bind fun st _ => ⟨_, rfl, sent _ rfl rfl trivial⟩
  | primitiveDateTime =>
    exact (ToSql.TimeCrate.primitiveDtToSql_settles v).bind fun st _ =>
      ⟨_, rfl, sent _ rfl rfl trivial⟩
  | offsetDateTime =>
    exact (ToSql.TimeCrate.offsetDateTime_settles v).imp fun s hs => by
      obtain ⟨d, rfl, -⟩ := hs
      exact sent _ rfl rfl trivial
  | jiffDate =>
    exact (ToSql.Jiff.dateToSql_settles v).bind fun d _ => ⟨_, rfl, sent _ rfl rfl trivial⟩
  | jiffTime =>
    have htime : (ToSql.Jiff.timeToSql v).Settles none _ := ToSql.Jiff.timeToSql_scale v
    exact htime.bind fun st _ => ⟨_, rfl, sent _ rfl rfl trivial⟩
  | jiffDateTime =>
    exact (ToSql.Jiff.datetimeToSql_settles v).bind fun st _ => ⟨_, rfl, sent _ rfl rfl trivial⟩
  | timestamp | zoned =>
    exact (ToSql.Jiff.timestampToSql_settles _ _).bind fun st _ => ⟨_, rfl, sent _ rfl rfl trivial⟩
  | _ => exact ⟨_, rfl, sent _ rfl rfl trivial⟩

/-- Texts and bytes are converted to what their native form converts to. -/
theorem intoSql_eq (t : BindType) (v : t.Value) : t.intoSql v = IntoSql.native t.toSql v := by
  cases t with
  | str | string => exact congrArg Except.ok (fromNative_text v).symm
  | _ => rfl

theorem intoSqlOption_some (v : t.Value) : t.intoSqlOption (some v) = t.intoSql v := by
  cases t <;> rfl

theorem intoSqlOption_none (t : BindType) : t.intoSqlOption none = .ok t.null := by
  cases t <;> rfl

omit [SerdeJson] in
/-- The defaults are in range, except those of the year 0. -/
theorem default_panics [ChronoFields] [ChronoCivil] [JiffCivil] (t : BindType)
    (h : t.hasDefault = true) :
    t.panics (t.default h) = none ↔ t ≠ .jiffDate ∧ t ≠ .jiffDateTime := by
  have year : ∀ (d : Jiff.Date) (y : Int), (JiffCivil.civilDate d).year = y →
      -9999 ≤ y ∧ y ≤ 9999 → (civilPanic (ToSql.Jiff.civilDate d) = none ↔ 1 ≤ y ∧ y ≤ 9999) := by
    rintro d _ rfl hcommon
    exact ToSql.Jiff.civilPanic_civil hcommon
  have hdate := (year _ _ JiffCivil.defaultDate_year (by decide)).not.mpr (by decide)
  have htimestamp := (year _ _ JiffCivil.defaultTimestamp_year (by decide)).mpr (by decide)
  cases t with
  | timeDate | timeTime | primitiveDateTime | offsetDateTime => cases h
  | naiveDate | naiveDateTime | dateTimeFixedOffset | dateTimeUtc =>
    exact iff_of_true (if_pos defaultDate_inSqlRange) (by decide)
  | jiffDate => exact iff_of_false hdate (by decide)
  | jiffDateTime =>
    refine iff_of_false ?_ (by decide)
    rw [panics, default, JiffCivil.defaultDateTime_date]
    exact hdate
  | timestamp => exact iff_of_true htimestamp (by decide)
  | zoned =>
    refine iff_of_true ?_ (by decide)
    rw [panics, default, JiffCivil.defaultZoned_timestamp]
    exact htimestamp
  | _ => exact iff_of_true rfl (by decide)

omit [MssqlTds] in
/-- Long text is not a date. -/
theorem fits_of_panics {v : t.Value} {p : Panic} (h : t.panics v = some p) : t.Fits v := by
  cases t with
  | str | string | json => cases h
  | _ => trivial

end BindType

namespace BindValue

/-- A value is converted unless its date is out of range. -/
theorem intoSql_settles (x : BindValue) : x.intoSql.Settles x.boundPanic fun _ => True := by
  have value : ∀ (t : BindType) (v : t.Value),
      (t.intoSql v).Settles (t.panics v) fun _ => True := by
    intro t v
    rw [BindType.intoSql_eq]
    exact (t.toSql_settles v).bind fun s _ => ⟨_, rfl, trivial⟩
  cases x with
  | plain t v => exact value t v
  | optional t v =>
    cases v with
    | none =>
      rw [intoSql, BindType.intoSqlOption_none]
      exact ⟨_, rfl, trivial⟩
    | some v =>
      rw [intoSql, BindType.intoSqlOption_some]
      exact value t v
  | data v => exact ⟨_, rfl, trivial⟩

theorem bound_settles (x : BindValue) : x.bound.Settles x.boundPanic fun _ => True :=
  x.intoSql_settles.bind fun _ _ => ⟨_, rfl, trivial⟩

end BindValue

namespace TwoWayValue

variable {x : TwoWayValue}

theorem direct_settles (x : TwoWayValue) : x.direct.Settles x.directPanic fun _ => True := by
  obtain ⟨x, hx⟩ := x
  cases x with
  | plain t v => exact (t.toSql_settles v).imp fun _ _ => trivial
  | optional t v =>
    cases v with
    | none => exact (t.toSql_settles (t.default hx)).bind fun s _ => ⟨_, rfl, trivial⟩
    | some v => exact (t.toSql_settles v).imp fun _ _ => trivial
  | data v => exact ⟨_, rfl, trivial⟩

theorem alike_of_panics {p : Panic} (h : x.val.boundPanic = some p) : x.val.Alike := by
  obtain ⟨x, hx⟩ := x
  cases x with
  | plain t v => exact t.fits_of_panics h
  | optional t v =>
    cases v with
    | none => cases h
    | some v => exact t.fits_of_panics h
  | data v => trivial

variable [ChronoFields] [ChronoCivil] [JiffCivil]

theorem panics_of_alike (h : x.val.Alike) : x.val.boundPanic = x.directPanic := by
  obtain ⟨x, hx⟩ := x
  cases x with
  | plain t v => rfl
  | optional t v =>
    cases v with
    | none => exact ((t.default_panics hx).mpr h.2).symm
    | some v => rfl
  | data v => rfl

/-- Where neither panics, the two parameters of a value agree if it is the same both ways. -/
theorem same (hb : x.val.boundPanic = none) (hd : x.directPanic = none) :
    ∃ a s, x.val.bound = .ok a ∧ x.direct = .ok s ∧ SameWhen x.val.Alike a s := by
  have value : ∀ (t : BindType) (v : t.Value), t.panics v = none →
      ∃ a s, (BindValue.plain t v).bound = .ok a ∧ t.toSql v = .ok s ∧ SameWhen (t.Fits v) a s := by
    intro t v hv
    have hsettles := t.toSql_settles v
    rw [hv] at hsettles
    obtain ⟨s, hs, hsent⟩ := hsettles
    refine ⟨_, s, ?_, hs, hsent.same⟩
    rw [BindValue.bound, BindValue.intoSql, BindType.intoSql_eq, IntoSql.native, hs]
    rfl
  obtain ⟨x, hx⟩ := x
  cases x with
  | plain t v => exact value t v hb
  | optional t v =>
    cases v with
    | some v =>
      obtain ⟨a, s, ha, hs, hsame⟩ := value t v hb
      refine ⟨a, s, ?_, hs, hsame⟩
      rw [BindValue.bound, BindValue.intoSql, BindType.intoSqlOption_some]
      exact ha
    | none =>
      have hdefault : t.panics (t.default hx) = none := hd
      have hyear := (t.default_panics hx).mp hdefault
      have hsettles := t.toSql_settles (t.default hx)
      rw [hdefault] at hsettles
      obtain ⟨s, hs, hsent⟩ := hsettles
      refine ⟨t.null.toSql, intoTypedNull s, ?_, ?_, ?_⟩
      · rw [BindValue.bound, BindValue.intoSql, BindType.intoSqlOption_none]
        rfl
      · show ToSql.option t.toSql (t.default hx) none = _
        rw [ToSql.option, hs]
        rfl
      · by_cases hjson : t = .json
        · subst hjson
          cases hs
          refine ⟨fun h => absurd rfl h.1, fun _ unicode => ?_⟩
          cases unicode <;> exact fun heq => by cases heq
        · exact SameWhen.of_eq (hsent.null hjson).symm ⟨hjson, hyear⟩
  | data v => exact ⟨_, _, rfl, rfl, SameWhen.of_eq rfl trivial⟩

theorem bound_iff (x : TwoWayValue) : x.val.bound = x.direct ↔ x.val.Alike := by
  have hbound := x.val.bound_settles
  have hdirect := x.direct_settles
  cases hb : x.val.boundPanic with
  | some p =>
    have halike := alike_of_panics hb
    rw [← panics_of_alike halike, hb] at hdirect
    rw [hb] at hbound
    exact iff_of_true (hbound.trans hdirect.symm) halike
  | none =>
    cases hd : x.directPanic with
    | some q =>
      rw [hb] at hbound
      rw [hd] at hdirect
      obtain ⟨a, ha, -⟩ := hbound
      refine iff_of_false (fun h => ?_) fun h => ?_
      · cases ha.symm.trans (h.trans hdirect)
      · cases (hb.symm.trans (panics_of_alike h)).trans hd
    | none =>
      obtain ⟨a, s, ha, hs, hsame⟩ := same hb hd
      rw [ha, hs, ← hsame.eq_iff]
      exact ⟨Except.ok.inj, congrArg Except.ok⟩

end TwoWayValue

theorem Query.bindAll_eq (q : Query) (xs : List BindValue) :
    q.bindAll xs = do
      let values ← xs.mapM BindValue.intoSql
      return { q with params := q.params ++ values } := by
  induction xs generalizing q with
  | nil => simp [bindAll]
  | cons x xs ih =>
    rw [bindAll, List.foldlM_cons, bind, List.mapM_cons]
    cases hx : x.intoSql with
    | error p => rfl
    | ok value =>
      refine (ih _).trans ?_
      cases xs.mapM BindValue.intoSql with
      | error p => rfl
      | ok values => simp

/-- The values bound in turn are the parameters of each. -/
theorem bound_params (sql : String) (xs : List BindValue) (unicode : Bool) :
    (do
      let q ← (Query.new sql).bindAll xs
      buildParamsWithStringEncoding q.nativeParams unicode) =
        buildParamsWithStringEncoding (xs.map BindValue.bound) unicode := by
  have hbound : (xs.mapM fun x : BindValue => x.bound) =
      (xs.mapM BindValue.intoSql).map (List.map ColumnData.toSql) :=
    Lib.mapM_map_result ColumnData.toSql xs
  rw [Query.bindAll_eq, buildParamsWithStringEncoding, buildParamsFrom_eq, List.mapM_map]
  change _ = (xs.mapM fun x : BindValue => x.bound).map _
  rw [hbound]
  cases xs.mapM BindValue.intoSql with
  | error p => rfl
  | ok values =>
    show buildParamsFrom unicode 0 (values.map fun value => .ok value.toSql) = _
    exact buildParamsFrom_ok_iff.mpr ⟨values.map ColumnData.toSql, by rw [List.map_map]; rfl, rfl⟩

/-- Binding a value and passing it directly send the same parameter, and for a list the same
parameters, exactly where the values are the same both ways. A list of which the first value to
panic panics alike sends none either way. -/
structure BindingAgrees : Prop where
  value : ∀ x : TwoWayValue, x.val.bound = x.direct ↔ x.val.Alike
  list : ∀ (sql : String) (xs : List TwoWayValue) (unicode : Bool),
    (do
      let q ← (Query.new sql).bindAll (xs.map Subtype.val)
      buildParamsWithStringEncoding q.nativeParams unicode) =
        buildParamsWithStringEncoding (xs.map TwoWayValue.direct) unicode ↔
      (∃ p, xs.findSome? (fun x => x.val.boundPanic) = some p ∧
        xs.findSome? TwoWayValue.directPanic = some p) ∨ ∀ x ∈ xs, x.val.Alike

theorem binding_agrees [ChronoFields] [ChronoCivil] [JiffCivil] : BindingAgrees where
  value := TwoWayValue.bound_iff
  list sql xs unicode := by
    have hbound : (fun x : TwoWayValue => Lib.errorOf x.val.bound) = fun x => x.val.boundPanic :=
      funext fun x => x.val.bound_settles.errorOf
    have hdirect : (fun x : TwoWayValue => Lib.errorOf x.direct) = TwoWayValue.directPanic :=
      funext fun x => x.direct_settles.errorOf
    rw [bound_params, List.map_map, buildParams_eq_iff]
    change (xs.findSome? fun x => Lib.errorOf x.val.bound) = _ ∧
      ((xs.findSome? fun x => Lib.errorOf x.val.bound) = none → ∀ x ∈ xs,
        x.val.bound.map _ = _) ↔ _
    rw [hbound, hdirect]
    have encoded : xs.findSome? (fun x => x.val.boundPanic) = none →
        xs.findSome? TwoWayValue.directPanic = none → ∀ x ∈ xs,
          (x.val.bound.map (encodeStringParameters · unicode) =
            x.direct.map (encodeStringParameters · unicode) ↔ x.val.Alike) := by
      intro hb hd x hx
      obtain ⟨a, s, ha, hs, hsame⟩ := TwoWayValue.same
        (List.findSome?_eq_none_iff.mp hb x hx) (List.findSome?_eq_none_iff.mp hd x hx)
      rw [ha, hs, ← hsame.encoded_iff unicode]
      exact ⟨Except.ok.inj, congrArg Except.ok⟩
    constructor
    · rintro ⟨hpanics, hsame⟩
      cases hb : xs.findSome? (fun x => x.val.boundPanic) with
      | some p => exact .inl ⟨p, rfl, hpanics.symm.trans hb⟩
      | none =>
        exact .inr fun x hx => (encoded hb (hpanics.symm.trans hb) x hx).mp (hsame hb x hx)
    · rintro (⟨p, hb, hd⟩ | halike)
      · exact ⟨hb.trans hd.symm, fun hnone => nomatch hb.symm.trans hnone⟩
      · have hpanics : xs.findSome? (fun x => x.val.boundPanic) =
            xs.findSome? TwoWayValue.directPanic := by
          rw [← List.head?_filterMap, ← List.head?_filterMap,
            List.filterMap_congr fun x hx => TwoWayValue.panics_of_alike (halike x hx)]
        exact ⟨hpanics, fun hb x hx =>
          (encoded hb (hpanics.symm.trans hb) x hx).mpr (halike x hx)⟩

end

section

open scoped Reference

theorem utf16Count_replicate (n : Nat) (c : Char) (hc : c.val < 0x10000) :
    utf16Count (String.ofList (List.replicate n c)) = n := by
  unfold utf16Count
  rw [String.toList_ofList]
  induction n with
  | zero => rfl
  | succ n ih =>
    rw [List.replicate_succ, List.foldr_cons, ih, if_pos hc]
    omega

def longText : String := String.ofList (List.replicate 4001 'a')

/-- A text of 4001 characters is declared as `MAX` one way only, an absent JSON value is a NULL of
two types, and an absent date of `jiff` is bound, but passed directly it panics. -/
theorem binding_differs :
    (BindValue.plain .string longText).bound =
      .ok (.nVarcharMax (some (MssqlTds.fromUtf8String longText))) ∧
    TwoWayValue.direct ⟨.plain .string longText, trivial⟩ =
      .ok (.nVarchar (some (MssqlTds.fromUtf8String longText)) 4000) ∧
    (BindValue.plain .string longText).bound ≠
      TwoWayValue.direct ⟨.plain .string longText, trivial⟩ ∧
    (BindValue.optional .json none).bound = .ok (.json none) ∧
    TwoWayValue.direct ⟨.optional .json none, rfl⟩ = .ok (.nVarchar none 4000) ∧
    (BindValue.optional .json none).bound ≠ TwoWayValue.direct ⟨.optional .json none, rfl⟩ ∧
    (BindValue.optional .jiffDate none).bound = .ok (.date none) ∧
    TwoWayValue.direct ⟨.optional .jiffDate none, rfl⟩ = .error (.expect dateOutOfRange) ∧
    (BindValue.optional .jiffDate none).bound ≠
      TwoWayValue.direct ⟨.optional .jiffDate none, rfl⟩ := by
  have hcount : utf16Count longText = 4001 := utf16Count_replicate 4001 'a' (by decide)
  generalize longText = s at hcount ⊢
  have hlong : (BindValue.plain .string s).bound =
      .ok (.nVarcharMax (some (MssqlTds.fromUtf8String s))) := congrArg Except.ok (if_pos (by omega))
  have hyear : civilPanic (ToSql.Jiff.civilDate JiffFields.defaultDate) =
      some (.expect dateOutOfRange) := by decide
  have hdirect := TwoWayValue.direct_settles ⟨.optional .jiffDate none, rfl⟩
  have hpanics : TwoWayValue.direct ⟨.optional .jiffDate none, rfl⟩ =
      .error (.expect dateOutOfRange) := by
    rwa [show TwoWayValue.directPanic ⟨.optional .jiffDate none, rfl⟩ = _ from hyear] at hdirect
  refine ⟨hlong, rfl, ?_, rfl, rfl, ?_, rfl, hpanics, ?_⟩
  · rw [hlong]
    intro h
    cases h
  · intro h
    cases h
  · rw [hpanics]
    intro h
    cases h

end

end TiberiusBridge

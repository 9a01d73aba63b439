import TiberiusBridge.Compat.Binding
import TiberiusBridge.Convert.CivilEncode
import TiberiusBridge.Convert.Decimals
import TiberiusBridge.Declaration

/-!
# What a value is sent as

The type of a value and its traits determine the built-in type that it is sent
as: how large a decimal is, and what a JSON value is. Dates outside SQL Server's
range panic instead.
-/
namespace TiberiusBridge

open Lib (Compute Panic errorOf)

namespace SqlTypeKind

/-- Text in the encoding of the parameters. -/
def encode (unicode : Bool) : SqlTypeKind → SqlTypeKind
  | nVarchar => if unicode then nVarchar else varchar
  | nVarcharMax => if unicode then nVarcharMax else varcharMax
  | kind => kind

/-- The driver has a name for it. -/
def BuiltIn (kind : SqlTypeKind) : Prop := kind ≠ variant ∧ kind ≠ table ∧ kind ≠ udt

theorem BuiltIn.encode {kind : SqlTypeKind} (h : kind.BuiltIn) (unicode : Bool) :
    (kind.encode unicode).BuiltIn := by
  unfold BuiltIn at *
  cases unicode with
  | true => cases kind <;> exact h
  | false => cases kind <;> first | exact h | decide

end SqlTypeKind

/-- A built-in type and its size. -/
structure Form where
  kind : SqlTypeKind
  size : Option DeclaredSize
  deriving DecidableEq, Repr

namespace Form

def encode (unicode : Bool) (f : Form) : Form := { f with kind := f.kind.encode unicode }

/-- The form of a NULL. -/
def null (f : Form) : Form :=
  match f.kind with
  | .decimal | .numeric => { f with size := some (.decimal 18 10) }
  | .time | .dateTime2 | .dateTimeOffset => { f with size := some (.count defaultVartimeScale) }
  | _ => f

theorem null_null (f : Form) : f.null.null = f.null := by
  obtain ⟨kind, size⟩ := f
  cases kind <;> rfl

theorem null_encode (f : Form) (unicode : Bool) :
    (f.encode unicode).null = f.null.encode unicode := by
  obtain ⟨kind, size⟩ := f
  cases unicode with
  | true => cases kind <;> rfl
  | false => cases kind <;> rfl

end Form

section

variable [MssqlTds]

def SqlType.form (s : SqlType) : Form := ⟨s.kind, s.declaredSize⟩

theorem intoTypedNull_form (s : SqlType) : (intoTypedNull s).form = s.form.null := by
  cases s with
  | vector v dimensions baseType => cases baseType <;> rfl
  | _ => rfl

theorem intoTypedNull_encode (s : SqlType) (unicode : Bool) :
    encodeStringParameters (intoTypedNull s) unicode =
      intoTypedNull (encodeStringParameters s unicode) := by
  cases unicode with
  | true => rfl
  | false => cases s <;> rfl

/-- The value is of the form, in either encoding of text. -/
def SqlType.Has (s : SqlType) (f : Form) : Prop :=
  ∀ unicode, (encodeStringParameters s unicode).form = f.encode unicode

theorem SqlType.Has.intro {s : SqlType} {f : Form} (hwide : s.form = f.encode true)
    (hnarrow : (encodeStringParameters s false).form = f.encode false) : s.Has f := by
  intro unicode
  cases unicode with
  | true => exact hwide
  | false => exact hnarrow

theorem SqlType.Has.null {s : SqlType} {f : Form} (h : s.Has f) : (intoTypedNull s).Has f.null := by
  intro unicode
  rw [intoTypedNull_encode, intoTypedNull_form, h, Form.null_encode]

/-- The declared type of a form. -/
def Form.declared [TypeNames] (unicode : Bool) (f : Form) : DeclaredType :=
  .builtIn (TypeNames.name (f.kind.encode unicode)) f.size

theorem Form.declared_eq_iff [TypeNames] {unicode : Bool} {f g : Form} :
    f.declared unicode = g.declared unicode ↔
      TypeNames.name (f.kind.encode unicode) = TypeNames.name (g.kind.encode unicode) ∧
        f.size = g.size := by
  rw [declared, declared, DeclaredType.builtIn.injEq]

theorem SqlType.Has.declared [TypeNames] {s : SqlType} {f : Form} (h : s.Has f)
    (hkind : f.kind.BuiltIn) (unicode : Bool) :
    declaredAs unicode (.ok s) = .ok (f.declared unicode) := by
  obtain ⟨hvariant, htable, hudt⟩ := hkind.encode unicode
  have hkind : (encodeStringParameters s unicode).kind = f.kind.encode unicode :=
    congrArg Form.kind (h unicode)
  have hsize : (encodeStringParameters s unicode).declaredSize = f.size :=
    congrArg Form.size (h unicode)
  have hname := TypeNames.metaTypeName_eq _ hvariant htable hudt
  rw [← hkind] at htable hudt hname
  have htype := SqlType.declaredType_builtIn (v := encodeStringParameters s unicode)
    (fun name rows heq => htable (by rw [heq]; rfl))
    (fun name bytes heq => hudt (by rw [heq]; rfl))
  rw [hname] at htype
  show (SqlType.declaredType _).mapError Refusal.failed = _
  rw [htype, hsize, hkind]
  rfl

/-- The parameter panics as given, or else is a value of the form. -/
def EncodedAs (p : Param) (panics : Option Panic) (f : Form) : Prop :=
  p.Settles panics (·.Has f)

theorem EncodedAs.null {p : Param} {panics : Option Panic} {f : Form} (h : EncodedAs p panics f) :
    EncodedAs (do return intoTypedNull (← p)) panics f.null :=
  Lib.Compute.Settles.bind h fun s hs => ⟨intoTypedNull s, rfl, hs.null⟩

section

variable {n : Nat}

theorem numeric_has (p : DecimalParts) : (SqlType.numeric (some p)).Has
    ⟨.numeric, some (.decimal (MssqlTds.precision p) (MssqlTds.scale p))⟩ :=
  .intro rfl rfl

theorem time_has {t : SqlTime} (h : t.scale = n) :
    (SqlType.time (some t)).Has ⟨.time, some (.count n)⟩ := by
  subst h
  exact .intro rfl rfl

theorem dateTime2_has {t : SqlDateTime2} (h : t.time.scale = n) :
    (SqlType.dateTime2 (some t)).Has ⟨.dateTime2, some (.count n)⟩ := by
  subst h
  exact .intro rfl rfl

theorem dateTimeOffset_has {t : SqlDateTimeOffset} (h : t.datetime2.time.scale = n) :
    (SqlType.dateTimeOffset (some t)).Has ⟨.dateTimeOffset, some (.count n)⟩ := by
  subst h
  exact .intro rfl rfl

end

variable [Chrono] [RustDecimal] [JsonNumbers] [SerdeJson]

/-- What a JSON value is sent as. -/
inductive JsonKind
  | text
  | bool
  | integer
  | number
  deriving DecidableEq, Repr

def JsonValue.sqlKind : JsonValue → JsonKind
  | .null | .string _ | .array _ | .object _ => .text
  | .bool _ => .bool
  | .number n => if (JsonNumbers.asI64 n).isSome then .integer else .number

namespace JsonKind

def form : JsonKind → Form
  | text => ⟨.nVarchar, some (.count 4000)⟩
  | bool => ⟨.bit, none⟩
  | integer => ⟨.bigInt, none⟩
  | number => ⟨.float, none⟩

omit [MssqlTds] [Chrono] [RustDecimal] [JsonNumbers] [SerdeJson] in
theorem form_builtIn (k : JsonKind) : k.form.kind.BuiltIn := by
  cases k <;> exact ⟨by decide, by decide, by decide⟩

omit [Chrono] [RustDecimal] [JsonNumbers] [SerdeJson] in
/-- Text has a size. The other names differ. -/
theorem eq_of_declared [TypeNames] {k k' : JsonKind} {unicode : Bool}
    (h : k.form.declared unicode = k'.form.declared unicode) : k = k' := by
  obtain ⟨hname, hsize⟩ := Form.declared_eq_iff.mp h
  cases k with
  | text =>
    cases k' with
    | text => rfl
    | _ => cases hsize
  | bool =>
    cases k' with
    | text => cases hsize
    | bool => rfl
    | integer => exact absurd hname TypeNames.bit_ne_bigInt
    | number => exact absurd hname TypeNames.bit_ne_float
  | integer =>
    cases k' with
    | text => cases hsize
    | bool => exact absurd hname.symm TypeNames.bit_ne_bigInt
    | integer => rfl
    | number => exact absurd hname TypeNames.bigInt_ne_float
  | number =>
    cases k' with
    | text => cases hsize
    | bool => exact absurd hname.symm TypeNames.bit_ne_float
    | integer => exact absurd hname.symm TypeNames.bigInt_ne_float
    | number => rfl

end JsonKind

omit [Chrono] [RustDecimal] in
theorem jsonValue_encodedAs (v : JsonValue) :
    EncodedAs (ToSql.jsonValue v) none v.sqlKind.form := by
  cases v with
  | number n =>
    cases hint : JsonNumbers.asI64 n with
    | some i =>
      have hkind : (JsonValue.number n).sqlKind = .integer := if_pos (by rw [hint]; rfl)
      have hsql : ToSql.jsonValue (.number n) = .ok (.bigInt (some i)) := by
        rw [ToSql.jsonValue, hint]
      rw [hkind]
      exact ⟨_, hsql, .intro rfl rfl⟩
    | none =>
      have hkind : (JsonValue.number n).sqlKind = .number :=
        if_neg (by rw [hint]; exact Bool.false_ne_true)
      have hsql : ∃ x, ToSql.jsonValue (.number n) = .ok (.float (some x)) := by
        rw [ToSql.jsonValue, hint]
        cases JsonNumbers.asF64 n with
        | some x => exact ⟨x, rfl⟩
        | none => exact ⟨F64.nan, rfl⟩
      obtain ⟨x, hsql⟩ := hsql
      rw [hkind]
      exact ⟨_, hsql, .intro rfl rfl⟩
  | _ => exact ⟨_, rfl, .intro rfl rfl⟩

section

variable [TimeCrate] [TimeFields] [Jiff] [JiffFields]

namespace BindType

/-- What a declaration says of the values of the type. -/
def Traits : BindType → Type
  | decimal => Nat × Nat
  | json => JsonKind
  | _ => Unit

def traits : (t : BindType) → t.Value → t.Traits
  | decimal, d => (ToSql.storedPrecision (RustDecimal.toString d) (RustDecimal.digits d)
      (RustDecimal.scale d), RustDecimal.scale d)
  | json, v => v.sqlKind
  | bool, _ | u8, _ | i16, _ | i32, _ | i64, _ | f32, _ | f64, _ | str, _ | string, _
  | byteVec, _ | byteSlice, _ | uuid, _ | naiveDate, _ | naiveTime, _ | naiveDateTime, _
  | dateTimeFixedOffset, _ | dateTimeUtc, _ | timeDate, _ | timeTime, _ | primitiveDateTime, _
  | offsetDateTime, _ | jiffDate, _ | jiffTime, _ | jiffDateTime, _ | timestamp, _ | zoned, _ => ()

def nullTraits : (t : BindType) → t.Traits
  | decimal => (18, 10)
  | json => .text
  | bool | u8 | i16 | i32 | i64 | f32 | f64 | str | string | byteVec | byteSlice | uuid
  | naiveDate | naiveTime | naiveDateTime | dateTimeFixedOffset | dateTimeUtc | timeDate | timeTime
  | primitiveDateTime | offsetDateTime | jiffDate | jiffTime | jiffDateTime | timestamp
  | zoned => ()

def form : (t : BindType) → t.Traits → Form
  | bool, _ => ⟨.bit, none⟩
  | u8, _ => ⟨.tinyInt, none⟩
  | i16, _ => ⟨.smallInt, none⟩
  | i32, _ => ⟨.int, none⟩
  | i64, _ => ⟨.bigInt, none⟩
  | f32, _ => ⟨.real, none⟩
  | f64, _ => ⟨.float, none⟩
  | str, _ | string, _ => ⟨.nVarchar, some (.count 4000)⟩
  | byteVec, _ | byteSlice, _ => ⟨.varBinaryMax, some .max⟩
  | uuid, _ => ⟨.uuid, none⟩
  | decimal, (precision, scale) => ⟨.numeric, some (.decimal precision scale)⟩
  | json, kind => JsonKind.form kind
  | naiveDate, _ | timeDate, _ | jiffDate, _ => ⟨.date, none⟩
  | naiveTime, _ | timeTime, _ | jiffTime, _ => ⟨.time, some (.count defaultVartimeScale)⟩
  | naiveDateTime, _ | primitiveDateTime, _ | jiffDateTime, _ =>
    ⟨.dateTime2, some (.count defaultVartimeScale)⟩
  | dateTimeFixedOffset, _ | dateTimeUtc, _ | offsetDateTime, _ | timestamp, _ | zoned, _ =>
    ⟨.dateTimeOffset, some (.count defaultVartimeScale)⟩

omit [SerdeJson] [TimeFields] in
theorem form_null (t : BindType) (h : t.hasDefault = true) :
    t.form t.nullTraits = (t.form (t.traits (t.default h))).null := by
  cases t with
  | timeDate | timeTime | primitiveDateTime | offsetDateTime => cases h
  | _ => rfl

theorem toSql_encodedAs [DecimalText] (t : BindType) (v : t.Value) :
    EncodedAs (t.toSql v) (t.panics v) (t.form (t.traits v)) := by
  cases t with
  | decimal =>
    obtain ⟨p, hp, -, hscale, hprecision⟩ := ToSql.decimal_exact v
    have hform := numeric_has p
    rw [hprecision, hscale] at hform
    exact ⟨_, hp, hform⟩
  | json => exact jsonValue_encodedAs v
  | naiveDate =>
    exact (ToSql.naiveDateToSql_settles v).bind fun d _ => ⟨_, rfl, .intro rfl rfl⟩
  | naiveTime =>
    have htime : (ToSql.naiveTimeToSql v).Settles none _ := ToSql.naiveTimeToSql_scale v
    exact htime.bind fun st hscale => ⟨_, rfl, time_has hscale⟩
  | naiveDateTime =>
    exact (ToSql.naiveDtToSql_settles v).bind fun st hscale => ⟨_, rfl, dateTime2_has hscale⟩
  | dateTimeFixedOffset | dateTimeUtc =>
    exact (ToSql.naiveDtToSql_settles v.naiveUtc).bind fun st hscale =>
      ⟨_, rfl, dateTimeOffset_has hscale⟩
  | timeDate =>
    exact (ToSql.civilDateToSql_settles _).bind fun d _ => ⟨_, rfl, .intro rfl rfl⟩
  | timeTime =>
    have htime : (ToSql.TimeCrate.timeToSql v).Settles none _ := ToSql.TimeCrate.timeToSql_scale v
    exact htime.bind fun st hscale => ⟨_, rfl, time_has hscale⟩
  | primitiveDateTime =>
    exact (ToSql.TimeCrate.primitiveDtToSql_settles v).bind fun st hscale =>
      ⟨_, rfl, dateTime2_has hscale⟩
  | offsetDateTime =>
    exact (ToSql.TimeCrate.offsetDateTime_settles v).imp fun s hs => by
      obtain ⟨d, rfl, hscale⟩ := hs
      exact dateTimeOffset_has hscale
  | jiffDate =>
    exact (ToSql.Jiff.dateToSql_settles v).bind fun d _ => ⟨_, rfl, .intro rfl rfl⟩
  | jiffTime =>
    have htime : (ToSql.Jiff.timeToSql v).Settles none _ := ToSql.Jiff.timeToSql_scale v
    exact htime.bind fun st hscale => ⟨_, rfl, time_has hscale⟩
  | jiffDateTime =>
    exact (ToSql.Jiff.datetimeToSql_settles v).bind fun st hscale =>
      ⟨_, rfl, dateTime2_has hscale⟩
  | timestamp | zoned =>
    exact (ToSql.Jiff.timestampToSql_settles _ _).bind fun st hscale =>
      ⟨_, rfl, dateTimeOffset_has hscale⟩
  | _ => exact ⟨_, rfl, .intro rfl rfl⟩

omit [MssqlTds] [Chrono] [RustDecimal] [JsonNumbers] [SerdeJson] [TimeCrate] [TimeFields] [Jiff]
  [JiffFields] in
theorem form_builtIn (t : BindType) (x : t.Traits) : (t.form x).kind.BuiltIn := by
  cases t with
  | json => exact JsonKind.form_builtIn x
  | _ => exact ⟨(by rintro ⟨⟩), (by rintro ⟨⟩), (by rintro ⟨⟩)⟩

omit [Chrono] [RustDecimal] [JsonNumbers] [SerdeJson] [TimeCrate] [TimeFields] [Jiff]
  [JiffFields] in
theorem traits_eq [TypeNames] {t : BindType} {x y : t.Traits} {unicode : Bool}
    (h : (t.form x).declared unicode = (t.form y).declared unicode) : x = y := by
  cases t with
  | decimal =>
    have hsize := (Form.declared_eq_iff.mp h).2
    obtain ⟨hprecision, hscale⟩ := DeclaredSize.decimal.inj (Option.some.inj hsize)
    exact Prod.ext hprecision hscale
  | json => exact JsonKind.eq_of_declared h
  | _ => rfl

end BindType

/-- A type with a native encoder and a default. -/
inductive DefaultedType
  | bind (t : BindType) (h : t.hasDefault = true)
  | option (t : DefaultedType)
  deriving DecidableEq, Repr

namespace DefaultedType

def Value : DefaultedType → Type
  | bind t _ => t.Value
  | option t => Option t.Value

/-- `Default::default`. -/
def default : (t : DefaultedType) → t.Value
  | bind t h => t.default h
  | option t => (none : Option t.Value)

/-- `ToSql::to_sql`. -/
def toSql : (t : DefaultedType) → Encoder t.Value
  | bind t _ => t.toSql
  | option t => ToSql.option t.toSql t.default

/-- `None` is encoded through the default. -/
def panics : (t : DefaultedType) → t.Value → Option Panic
  | bind t _, v => t.panics v
  | option t, some v => t.panics v
  | option t, none => t.panics t.default

def Traits : DefaultedType → Type
  | bind t _ => t.Traits
  | option t => t.Traits

def nullTraits : (t : DefaultedType) → t.Traits
  | bind t _ => t.nullTraits
  | option t => t.nullTraits

def traits : (t : DefaultedType) → t.Value → t.Traits
  | bind t _, v => t.traits v
  | option t, some v => t.traits v
  | option t, none => t.nullTraits

def form : (t : DefaultedType) → t.Traits → Form
  | bind t _, x => t.form x
  | option t, x => t.form x

/-- The type within the options. -/
def innermost : DefaultedType → BindType
  | bind t _ => t
  | option t => t.innermost

omit [SerdeJson] [TimeFields] in
theorem form_null (t : DefaultedType) :
    t.form t.nullTraits = (t.form (t.traits t.default)).null := by
  induction t with
  | bind t h => exact t.form_null h
  | option t ih =>
    -- the default of an option is a NULL already
    show t.form t.nullTraits = (t.form t.nullTraits).null
    rw [ih, Form.null_null]

theorem toSql_encodedAs [DecimalText] (t : DefaultedType) (v : t.Value) :
    EncodedAs (t.toSql v) (t.panics v) (t.form (t.traits v)) := by
  induction t with
  | bind t h => exact t.toSql_encodedAs v
  | option t ih =>
    cases v with
    | some v => exact ih v
    | none =>
      have hnull := (ih t.default).null
      rw [← form_null] at hnull
      exact hnull

omit [MssqlTds] [Chrono] [RustDecimal] [JsonNumbers] [SerdeJson] [TimeCrate] [TimeFields] [Jiff]
  [JiffFields] in
theorem form_builtIn (t : DefaultedType) (x : t.Traits) : (t.form x).kind.BuiltIn := by
  induction t with
  | bind t h => exact t.form_builtIn x
  | option t ih => exact ih x

omit [Chrono] [RustDecimal] [JsonNumbers] [SerdeJson] [TimeCrate] [TimeFields] [Jiff]
  [JiffFields] in
theorem traits_eq [TypeNames] {t : DefaultedType} {x y : t.Traits} {unicode : Bool}
    (h : (t.form x).declared unicode = (t.form y).declared unicode) : x = y := by
  induction t with
  | bind t h => exact t.traits_eq h
  | option t ih => exact ih h

omit [SerdeJson] in
theorem default_panics [ChronoFields] [ChronoCivil] [JiffCivil] (t : DefaultedType) :
    t.panics t.default = none ↔ t.innermost ≠ .jiffDate ∧ t.innermost ≠ .jiffDateTime := by
  induction t with
  | bind t h => exact t.default_panics h
  | option t ih => exact ih

end DefaultedType

end

end

end TiberiusBridge

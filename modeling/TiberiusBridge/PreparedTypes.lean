import TiberiusBridge.SampleForms

/-!
# Sample parameters

`prepare` takes sample values for the sake of their types. The declarations of
two lists of samples of the same types agree where the traits of the samples do.
-/
namespace TiberiusBridge

open Lib (Panic errorOf)

section

variable [MssqlTds]

/-- A variant of `ColumnData` that holds an option. -/
inductive DataVariant
  | bit
  | u8
  | i16
  | i32
  | i64
  | f32
  | f64
  | string
  | guid
  | binary
  | numeric
  | xml
  | dateTime
  | smallDateTime
  | time
  | date
  | dateTime2
  | dateTimeOffset
  | money
  | smallMoney
  | json
  deriving DecidableEq, Repr

namespace DataVariant

def Payload : DataVariant → Type
  | bit => Bool
  | u8 => UInt8
  | i16 => Int16
  | i32 => Int32
  | i64 => Int64
  | f32 => F32
  | f64 => F64
  | string | xml | json => String
  | guid => Uuid
  | binary => List UInt8
  | numeric => DecimalParts
  | dateTime => SqlDateTime
  | smallDateTime => SqlSmallDateTime
  | time => SqlTime
  | date => SqlDate
  | dateTime2 => SqlDateTime2
  | dateTimeOffset => SqlDateTimeOffset
  | money => SqlMoney
  | smallMoney => SqlSmallMoney

/-- The value of the variant. -/
def data : (k : DataVariant) → Option k.Payload → ColumnData
  | bit, v => .bit v
  | u8, v => .u8 v
  | i16, v => .i16 v
  | i32, v => .i32 v
  | i64, v => .i64 v
  | f32, v => .f32 v
  | f64, v => .f64 v
  | string, v => .string v
  | guid, v => .guid v
  | binary, v => .binary v
  | numeric, v => .numeric v
  | xml, v => .xml v
  | dateTime, v => .dateTime v
  | smallDateTime, v => .smallDateTime v
  | time, v => .time v
  | date, v => .date v
  | dateTime2, v => .dateTime2 v
  | dateTimeOffset, v => .dateTimeOffset v
  | money, v => .money v
  | smallMoney, v => .smallMoney v
  | json, v => .json v

/-- What a declaration says of the values of the variant. -/
def Traits : DataVariant → Type
  | string => Bool
  | numeric => Nat × Nat
  | time | dateTime2 | dateTimeOffset => Nat
  | _ => Unit

/-- Whether a text is long, the size of a number, the scale of a time. -/
def traits : (k : DataVariant) → Option k.Payload → k.Traits
  | string, v => v.elim false fun s => decide (utf16Count s > 4000)
  | numeric, v => (v.elim 18 MssqlTds.precision, v.elim 10 MssqlTds.scale)
  | time, v => v.elim defaultVartimeScale SqlTime.scale
  | dateTime2, v => v.elim defaultVartimeScale (·.time.scale)
  | dateTimeOffset, v => v.elim defaultVartimeScale (·.datetime2.time.scale)
  | bit, _ | u8, _ | i16, _ | i32, _ | i64, _ | f32, _ | f64, _ | guid, _ | binary, _ | xml, _
  | dateTime, _ | smallDateTime, _ | date, _ | money, _ | smallMoney, _ | json, _ => ()

def form : (k : DataVariant) → k.Traits → Form
  | bit, _ => ⟨.bit, none⟩
  | u8, _ => ⟨.tinyInt, none⟩
  | i16, _ => ⟨.smallInt, none⟩
  | i32, _ => ⟨.int, none⟩
  | i64, _ => ⟨.bigInt, none⟩
  | f32, _ => ⟨.real, none⟩
  | f64, _ => ⟨.float, none⟩
  | string, true => ⟨.nVarcharMax, some .max⟩
  | string, false => ⟨.nVarchar, some (.count 4000)⟩
  | guid, _ => ⟨.uuid, none⟩
  | binary, _ => ⟨.varBinaryMax, some .max⟩
  | numeric, (precision, scale) => ⟨.numeric, some (.decimal precision scale)⟩
  | xml, _ => ⟨.xml, none⟩
  | dateTime, _ => ⟨.dateTime, none⟩
  | smallDateTime, _ => ⟨.smallDateTime, none⟩
  | time, scale => ⟨.time, some (.count scale)⟩
  | date, _ => ⟨.date, none⟩
  | dateTime2, scale => ⟨.dateTime2, some (.count scale)⟩
  | dateTimeOffset, scale => ⟨.dateTimeOffset, some (.count scale)⟩
  | money, _ => ⟨.money, none⟩
  | smallMoney, _ => ⟨.smallMoney, none⟩
  | json, _ => ⟨.json, none⟩

theorem data_has (k : DataVariant) (v : Option k.Payload) :
    (k.data v).toSql.Has (k.form (k.traits v)) := by
  cases k with
  | string =>
    cases v with
    | none => exact .intro rfl rfl
    | some s =>
      by_cases hlong : utf16Count s > 4000
      · have hsql : (string.data (some s)).toSql =
            .nVarcharMax (some (MssqlTds.fromUtf8String s)) := if_pos hlong
        have htraits : string.traits (some s) = true := decide_eq_true hlong
        rw [hsql, htraits]
        exact .intro rfl rfl
      · have hsql : (string.data (some s)).toSql =
            .nVarchar (some (MssqlTds.fromUtf8String s)) 4000 := if_neg hlong
        have htraits : string.traits (some s) = false := decide_eq_false hlong
        rw [hsql, htraits]
        exact .intro rfl rfl
  | numeric | time | dateTime2 | dateTimeOffset =>
    cases v with
    | none => exact .intro rfl rfl
    | some v => exact .intro rfl rfl
  | _ => exact .intro rfl rfl

omit [MssqlTds] in
theorem form_builtIn (k : DataVariant) (x : k.Traits) : (k.form x).kind.BuiltIn := by
  cases k with
  | string => cases x <;> exact ⟨by decide, by decide, by decide⟩
  | _ => exact ⟨(by rintro ⟨⟩), (by rintro ⟨⟩), (by rintro ⟨⟩)⟩

theorem traits_eq [TypeNames] {k : DataVariant} {x y : k.Traits} {unicode : Bool}
    (h : (k.form x).declared unicode = (k.form y).declared unicode) : x = y := by
  have hsize := (Form.declared_eq_iff.mp h).2
  cases k with
  | string =>
    cases x with
    | true =>
      cases y with
      | true => rfl
      | false => cases hsize
    | false =>
      cases y with
      | true => cases hsize
      | false => rfl
  | numeric =>
    obtain ⟨hprecision, hscale⟩ := DeclaredSize.decimal.inj (Option.some.inj hsize)
    exact Prod.ext hprecision hscale
  | time | dateTime2 | dateTimeOffset => exact DeclaredSize.count.inj (Option.some.inj hsize)
  | _ => rfl

end DataVariant

variable [Chrono] [RustDecimal] [JsonNumbers] [SerdeJson] [TimeCrate] [TimeFields] [Jiff]
  [JiffFields] [VectorFromF32]

/-- A type that is sent as a built-in one. -/
inductive EncodedType
  | plain (t : BindType)
  | option (t : DefaultedType)
  | vector
  | data (k : DataVariant)
  deriving DecidableEq, Repr

namespace EncodedType

def Value : EncodedType → Type
  | plain t => t.Value
  | option t => Option t.Value
  | vector => VectorValue
  | data k => Option k.Payload

def toSql : (t : EncodedType) → Encoder t.Value
  | plain t => t.toSql
  | option t => t.option.toSql
  | vector => ToSql.vectorValue
  | data k => fun v => .ok (k.data v).toSql

def panics : (t : EncodedType) → t.Value → Option Panic
  | plain t, v => t.panics v
  | option t, v => t.option.panics v
  | vector, _ => none
  | data _, _ => none

def Traits : EncodedType → Type
  | plain t => t.Traits
  | option t => t.Traits
  | vector => Nat
  | data k => k.Traits

def traits : (t : EncodedType) → t.Value → t.Traits
  | plain t, v => t.traits v
  | option t, v => t.option.traits v
  | vector, v => v.dimensions.length % 2 ^ 16
  | data k, v => k.traits v

def form : (t : EncodedType) → t.Traits → Form
  | plain t, x => t.form x
  | option t, x => t.form x
  | vector, dimensions => ⟨.vector, some (.count dimensions)⟩
  | data k, x => k.form x

theorem toSql_encodedAs [DecimalText] (t : EncodedType) (v : t.Value) :
    EncodedAs (t.toSql v) (t.panics v) (t.form (t.traits v)) := by
  cases t with
  | plain t => exact t.toSql_encodedAs v
  | option t => exact t.option.toSql_encodedAs v
  | vector =>
    show Lib.Compute.Returns (ToSql.vectorValue v) _
    unfold ToSql.vectorValue
    cases VectorFromF32.tryFromF32 v.dimensions with
    | ok sv => exact ⟨_, rfl, .intro rfl rfl⟩
    | error e => exact ⟨_, rfl, .intro rfl rfl⟩
  | data k => exact ⟨_, rfl, k.data_has v⟩

omit [MssqlTds] [Chrono] [RustDecimal] [JsonNumbers] [SerdeJson] [TimeCrate] [TimeFields]
  [Jiff] [JiffFields] [VectorFromF32] in
theorem form_builtIn (t : EncodedType) (x : t.Traits) : (t.form x).kind.BuiltIn := by
  cases t with
  | plain t => exact t.form_builtIn x
  | option t => exact t.form_builtIn x
  | data k => exact k.form_builtIn x
  | vector => exact ⟨(by rintro ⟨⟩), (by rintro ⟨⟩), (by rintro ⟨⟩)⟩

variable [TypeNames]

omit [Chrono] [RustDecimal] [JsonNumbers] [SerdeJson] [TimeCrate] [TimeFields] [Jiff]
  [JiffFields] [VectorFromF32] in
/-- The traits are part of the declaration. -/
theorem traits_eq {t : EncodedType} {x y : t.Traits} {unicode : Bool}
    (h : (t.form x).declared unicode = (t.form y).declared unicode) : x = y := by
  cases t with
  | plain t => exact t.traits_eq h
  | option t => exact t.traits_eq h
  | vector =>
    have hsize := (Form.declared_eq_iff.mp h).2
    exact DeclaredSize.count.inj (Option.some.inj hsize)
  | data k => exact k.traits_eq h

/-- What `prepare` makes of a sample. -/
theorem toSql_declaredAs [DecimalText] (t : EncodedType) (v : t.Value) (unicode : Bool) :
    declaredAs unicode (t.toSql v) =
      match t.panics v with
      | some p => .error (.panic p)
      | none => .ok ((t.form (t.traits v)).declared unicode) := by
  have hencoded := t.toSql_encodedAs v
  unfold EncodedAs at hencoded
  cases hpanics : t.panics v with
  | some p =>
    rw [hpanics] at hencoded
    rw [show t.toSql v = .error p from hencoded]
    rfl
  | none =>
    rw [hpanics] at hencoded
    obtain ⟨s, hs, hform⟩ := hencoded
    rw [hs]
    exact hform.declared (t.form_builtIn _) unicode

end EncodedType

/-- A type of parameters. A native compatibility value may be of any SQL type. -/
inductive SampleType
  | encoded (t : EncodedType)
  | native
  deriving DecidableEq, Repr

namespace SampleType

def Value : SampleType → Type
  | encoded t => t.Value
  | native => SqlType

/-- `ToSql::to_sql`. -/
def toSql : (t : SampleType) → Encoder t.Value
  | encoded t => t.toSql
  | native => fun s => .ok (ColumnData.native s).toSql

/-- Why a sample has no declaration: its date, or the driver has no name for its SQL type. -/
def refusal (unicode : Bool) : (t : SampleType) → t.Value → Option Refusal
  | encoded t, v => (t.panics v).map .panic
  | native, s => (errorOf (encodeStringParameters s unicode).declaredType).map .failed

def Traits : SampleType → Type
  | encoded t => t.Traits
  | native => Option DeclaredType

/-- What the declaration of a sample depends on besides its type. -/
def traits (unicode : Bool) : (t : SampleType) → t.Value → t.Traits
  | encoded t, v => t.traits v
  | native, s => (encodeStringParameters s unicode).declaredType.toOption

variable [TypeNames] {unicode : Bool}

theorem errorOf_declaredAs [DecimalText] (t : SampleType) (v : t.Value) :
    errorOf (declaredAs unicode (t.toSql v)) = t.refusal unicode v := by
  cases t with
  | encoded t =>
    show errorOf (declaredAs unicode (t.toSql v)) = (t.panics v).map .panic
    rw [t.toSql_declaredAs v unicode]
    cases t.panics v with
    | some p => rfl
    | none => rfl
  | native =>
    show errorOf ((encodeStringParameters v unicode).declaredType.mapError Refusal.failed) =
      (errorOf (encodeStringParameters v unicode).declaredType).map .failed
    cases (encodeStringParameters v unicode).declaredType with
    | error e => rfl
    | ok d => rfl

theorem declaredAs_eq_iff [DecimalText] (t : SampleType) {v w : t.Value}
    (hv : t.refusal unicode v = none) (hw : t.refusal unicode w = none) :
    declaredAs unicode (t.toSql v) = declaredAs unicode (t.toSql w) ↔
      t.traits unicode v = t.traits unicode w := by
  cases t with
  | encoded t =>
    have hv' : t.panics v = none := Option.map_eq_none_iff.mp hv
    have hw' : t.panics w = none := Option.map_eq_none_iff.mp hw
    show declaredAs unicode (t.toSql v) = declaredAs unicode (t.toSql w) ↔ t.traits v = t.traits w
    rw [t.toSql_declaredAs v unicode, t.toSql_declaredAs w unicode, hv', hw']
    constructor
    · intro h
      exact t.traits_eq (Except.ok.inj h)
    · intro h
      rw [h]
  | native =>
    show (encodeStringParameters v unicode).declaredType.mapError Refusal.failed =
      (encodeStringParameters w unicode).declaredType.mapError Refusal.failed ↔
        (encodeStringParameters v unicode).declaredType.toOption =
          (encodeStringParameters w unicode).declaredType.toOption
    change (errorOf (encodeStringParameters v unicode).declaredType).map Refusal.failed = none at hv
    change (errorOf (encodeStringParameters w unicode).declaredType).map Refusal.failed = none at hw
    cases hdv : (encodeStringParameters v unicode).declaredType with
    | error e =>
      rw [hdv] at hv
      cases hv
    | ok d =>
      cases hdw : (encodeStringParameters w unicode).declaredType with
      | error e =>
        rw [hdw] at hw
        cases hw
      | ok d' =>
        show Except.ok d = Except.ok d' ↔ some d = some d'
        rw [Except.ok.injEq, Option.some.injEq]

end SampleType

/-- Two samples of one type. -/
structure SamplePair where
  type : SampleType
  left : type.Value
  right : type.Value

/-- The first sample refused is refused for the same reason, or none is refused on either side
and at every position the traits are the same. -/
structure DeclaredAlike (unicode : Bool) (pairs : List SamplePair) : Prop where
  refused : pairs.findSome? (fun p => p.type.refusal unicode p.left) =
    pairs.findSome? (fun p => p.type.refusal unicode p.right)
  traits : pairs.findSome? (fun p => p.type.refusal unicode p.left) = none →
    ∀ p ∈ pairs, p.type.traits unicode p.left = p.type.traits unicode p.right

/-- The declarations, or the failures, of two lists of samples of the same types are the same
exactly where the samples are declared alike. -/
theorem sample_declarations [TypeNames] [DecimalText] (unicode : Bool) (pairs : List SamplePair) :
    parameterDeclaration (pairs.map fun p => p.type.toSql p.left) unicode =
        parameterDeclaration (pairs.map fun p => p.type.toSql p.right) unicode ↔
      DeclaredAlike unicode pairs := by
  rw [parameterDeclaration_eq_iff]
  simp only [SampleType.errorOf_declaredAs]
  constructor
  · rintro ⟨hrefused, hdeclared⟩
    refine ⟨hrefused, fun hnone p hp => ?_⟩
    have hleft := List.findSome?_eq_none_iff.mp hnone p hp
    have hright := List.findSome?_eq_none_iff.mp (hrefused.symm.trans hnone) p hp
    exact (p.type.declaredAs_eq_iff hleft hright).mp (hdeclared hnone p hp)
  · rintro ⟨hrefused, htraits⟩
    refine ⟨hrefused, fun hnone p hp => ?_⟩
    have hleft := List.findSome?_eq_none_iff.mp hnone p hp
    have hright := List.findSome?_eq_none_iff.mp (hrefused.symm.trans hnone) p hp
    exact (p.type.declaredAs_eq_iff hleft hright).mpr (htraits hnone p hp)

end

section

open NumeralReference

theorem numeric_declaration (p : StoredDecimal) :
    parameterDeclaration [.ok (.numeric (some p))] true =
      .ok (.ok s!"@P1 numeric({p.precision},{p.scale})") := rfl

/-- A placeholder of one digit has no room for a value of two. -/
theorem sample_declarations_decimal :
    parameterDeclaration [ToSql.decimal (RustDecimal.ofParts 1 0)] true ≠
      parameterDeclaration [ToSql.decimal (RustDecimal.ofParts 10 0)] true := by
  obtain ⟨p, hp, -, hscale, hprecision⟩ := ToSql.decimal_exact (RustDecimal.ofParts 1 0)
  obtain ⟨q, hq, -, hscale', hprecision'⟩ := ToSql.decimal_exact (RustDecimal.ofParts 10 0)
  rw [ToSql.storedPrecision_digits (by decide)] at hprecision hprecision'
  have hp₁ : StoredDecimal.precision p = 1 := hprecision
  have hs₁ : StoredDecimal.scale p = 0 := hscale
  have hp₂ : StoredDecimal.precision q = 2 := hprecision'
  have hs₂ : StoredDecimal.scale q = 0 := hscale'
  rw [hp, hq, numeric_declaration, numeric_declaration, hp₁, hs₁, hp₂, hs₂]
  intro h
  have htext := Except.ok.inj (Except.ok.inj h)
  exact absurd htext (by decide)

theorem metaTypeName_plain {kind : SqlTypeKind} {text : String}
    (h : Reference.metaTypeName kind = .ok text) :
    text.toList.all (fun c => c != '(' && c != ',' && c != '[') = true := by
  cases kind <;> cases h <;> rfl

/-- The names of the reference driver. -/
scoped instance NumeralReference.typeNames : TypeNames where
  name kind := match Reference.metaTypeName kind with
    | .ok name => name
    | .error _ => ""
  metaTypeName_eq kind hvariant htable hudt := by
    cases kind with
    | table => exact absurd rfl htable
    | udt => exact absurd rfl hudt
    | _ => rfl
  plain kind text h c hc := by
    have hchar := List.all_eq_true.mp (metaTypeName_plain h) c hc
    simpa [and_assoc] using hchar
  bit_ne_bigInt := by decide
  bit_ne_float := by decide
  bigInt_ne_float := by decide

end

end TiberiusBridge

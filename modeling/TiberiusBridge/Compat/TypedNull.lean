import TiberiusBridge.Compat.NativeForms
import TiberiusBridge.Compat.NullVariant
import TiberiusBridge.PreparedBinding
import TiberiusBridge.SampleForms

/-!
# Typed NULLs

`into_typed_null` takes the payload out of a parameter and leaves its type. A
variant is as deep as it was, with the NULL innermost. `None` of a type is what
that leaves of the type's default, and so is not sent where the default panics.
-/
namespace TiberiusBridge

open Lib (Compute)

section

variable [MssqlTds]

/-- What a parameter is without its payload. -/
inductive TypeShape
  | plain (kind : SqlTypeKind)
  | sized (kind : SqlTypeKind) (length : Nat)
  | vector (dimensions : Nat) (baseType : VectorBaseType)
  | variant (inner : TypeShape)
  | table (name : TvpTypeName)
  | udt (name : UdtTypeName)
  deriving DecidableEq, Repr

namespace SqlType

def shape : SqlType → TypeShape
  | nVarchar _ length => .sized .nVarchar length
  | varchar _ length => .sized .varchar length
  | varBinary _ length => .sized .varBinary length
  | binary _ length => .sized .binary length
  | char _ length => .sized .char length
  | nChar _ length => .sized .nChar length
  | vector _ dimensions baseType => .vector dimensions baseType
  | variant inner => .variant inner.shape
  | table name _ => .table name
  | udt name _ => .udt name
  | v => .plain v.kind

/-- No payload, innermost in a variant. -/
def isNull : SqlType → Bool
  | bit v | tinyInt v | smallInt v | int v | bigInt v | real v | float v | decimal v | numeric v
  | money v | smallMoney v | time v | dateTime2 v | dateTimeOffset v | smallDateTime v
  | dateTime v | date v | nVarchar v _ | nVarcharMax v | varchar v _ | varcharMax v
  | varBinary v _ | varBinaryMax v | binary v _ | char v _ | nChar v _ | text v | nText v
  | image v | json v | xml v | uuid v | vector v _ _ | table _ v | udt _ v => v.isNone
  | variant inner => inner.isNull

theorem kind_intoTypedNull (v : SqlType) : (intoTypedNull v).kind = v.kind := by
  cases v <;> rfl

theorem shape_intoTypedNull (v : SqlType) : (intoTypedNull v).shape = v.shape := by
  induction v with
  | variant inner ih => exact congrArg TypeShape.variant ih
  | _ => rfl

theorem isNull_intoTypedNull (v : SqlType) : (intoTypedNull v).isNull = true := by
  induction v with
  | variant inner ih => exact ih
  | _ => rfl

/-- The NULLs are what is left as it is. -/
theorem intoTypedNull_eq_self_iff {v : SqlType} : intoTypedNull v = v ↔ v.isNull = true := by
  constructor
  · intro h
    rw [← h]
    exact isNull_intoTypedNull v
  · intro h
    induction v with
    | variant inner ih => exact congrArg variant (ih h)
    | _ =>
      obtain rfl := Option.isNone_iff_eq_none.mp h
      rfl

end SqlType

namespace ColumnData

theorem fromNative_intoTypedNull {v : SqlType} (h : ¬v.NativeOnly) :
    fromNative (intoTypedNull v) = (fromNative v).nullOf := by
  cases v with
  | vector | variant | table | udt => exact absurd trivial h
  | _ => rfl

theorem fromNative_nativeOnly {v : SqlType} (h : v.NativeOnly) :
    fromNative (intoTypedNull v) = .native (intoTypedNull v) := by
  cases v with
  | vector | variant | table | udt => rfl
  | _ => exact h.elim

end ColumnData

/-- The parameter with its value taken out. -/
def RpcParameter.typedNull (p : RpcParameter) : RpcParameter :=
  { p with value := intoTypedNull p.value }

theorem boundParameter_intoTypedNull (unicode : Bool) (i : Nat) (v : SqlType) :
    boundParameter unicode i (intoTypedNull v) = (boundParameter unicode i v).typedNull := by
  rw [boundParameter, intoTypedNull_encode]
  rfl

/-- One value is taken out of a list, and the others are bound as they were. -/
theorem buildParamsFrom_intoTypedNull (unicode : Bool) (p : Param) (before after : List Param)
    (i : Nat) :
    buildParamsFrom unicode i (before ++ p.map intoTypedNull :: after) =
      (buildParamsFrom unicode i (before ++ p :: after)).map
        (·.modify before.length RpcParameter.typedNull) := by
  induction before generalizing i with
  | nil =>
    cases p with
    | error panic => rfl
    | ok v =>
      show buildParamsFrom unicode i (.ok (intoTypedNull v) :: after) = _
      rw [List.nil_append, buildParamsFrom_cons, buildParamsFrom_cons,
        boundParameter_intoTypedNull]
      cases buildParamsFrom unicode (i + 1) after <;> rfl
  | cons q before ih =>
    cases q with
    | error panic => rfl
    | ok v =>
      rw [List.cons_append, List.cons_append, buildParamsFrom_cons, buildParamsFrom_cons, ih]
      cases buildParamsFrom unicode (i + 1) (before ++ p :: after) <;> rfl

theorem ToSql.option_none_eq {α : Type} (toSql : Encoder α) (default : α) :
    ToSql.option toSql default none = (toSql default).map intoTypedNull := by
  rw [option]
  cases toSql default <;> rfl

/-- What taking the payload out keeps. -/
structure ErasesPayload (v : SqlType) : Prop where
  kind : (intoTypedNull v).kind = v.kind
  /-- With the metadata of every constructor on the way down. -/
  shape : (intoTypedNull v).shape = v.shape
  isNull : (intoTypedNull v).isNull = true
  idempotent : intoTypedNull (intoTypedNull v) = intoTypedNull v
  encode : ∀ unicode, encodeStringParameters (intoTypedNull v) unicode =
    intoTypedNull (encodeStringParameters v unicode)
  variant : ¬v.NativeOnly →
    ColumnData.fromNative (intoTypedNull v) = (ColumnData.fromNative v).nullOf
  native : v.NativeOnly → ColumnData.fromNative (intoTypedNull v) = .native (intoTypedNull v)

/-- `None` of a type is sent as the NULL of the type that the default is sent as, wherever in a
list it is bound. -/
def NoneSent {α : Type} (toSql : Encoder α) (default : α) : Prop :=
  ∀ (before after : List SqlType) (unicode : Bool), ∃ params,
    buildParamsWithStringEncoding (before.map .ok ++ toSql default :: after.map .ok) unicode =
      .ok params ∧
    buildParamsWithStringEncoding
        (before.map .ok ++ ToSql.option toSql default none :: after.map .ok) unicode =
      .ok (params.modify before.length RpcParameter.typedNull)

theorem noneSent_iff {α : Type} {toSql : Encoder α} {default : α} :
    NoneSent toSql default ↔ ∃ s, toSql default = .ok s := by
  constructor
  · intro h
    obtain ⟨params, hparams, -⟩ := h [] [] true
    cases hs : toSql default with
    | error p =>
      rw [hs] at hparams
      cases hparams
    | ok s => exact ⟨s, rfl⟩
  · rintro ⟨s, hs⟩ before after unicode
    have hbuild : buildParamsWithStringEncoding
        (before.map .ok ++ toSql default :: after.map .ok) unicode =
          .ok (boundFrom unicode 0 (before ++ s :: after)) :=
      buildParamsFrom_ok_iff.mpr ⟨before ++ s :: after, by simp [hs], rfl⟩
    refine ⟨_, hbuild, ?_⟩
    rw [ToSql.option_none_eq]
    refine (buildParamsFrom_intoTypedNull unicode (toSql default) (before.map .ok) _ 0).trans ?_
    change (buildParamsWithStringEncoding _ unicode).map _ = _
    rw [hbuild, List.length_map]
    rfl

section

variable [Chrono] [RustDecimal] [JsonNumbers] [SerdeJson] [TimeCrate] [TimeFields] [Jiff]
  [JiffFields]

theorem DefaultedType.toSql_settles (t : DefaultedType) (v : t.Value) :
    (t.toSql v).Settles (t.panics v) fun _ => True := by
  induction t with
  | bind t h => exact (t.toSql_settles v).imp fun _ _ => trivial
  | option t ih =>
    cases v with
    | some v => exact ih v
    | none => exact (ih t.default).bind fun s _ => ⟨_, rfl, trivial⟩

structure TypedNulls : Prop where
  erases : ∀ v, ErasesPayload v
  /-- `None` of any type with a default, wherever in a list it is bound. -/
  none_sent : ∀ {α : Type} (toSql : Encoder α) (default : α) (before after : List Param) unicode,
    buildParamsWithStringEncoding (before ++ ToSql.option toSql default none :: after) unicode =
      (buildParamsWithStringEncoding (before ++ toSql default :: after) unicode).map
        (·.modify before.length RpcParameter.typedNull)
  /-- A default that panics has no type to be the NULL of. -/
  none_sent_iff : ∀ {α : Type} (toSql : Encoder α) (default : α),
    NoneSent toSql default ↔ ∃ s, toSql default = .ok s
  /-- Of the types there are, and options of them, those are two whose default is in the year 0. -/
  none_types : ∀ t : DefaultedType, NoneSent t.toSql t.default ↔
    t.innermost ≠ .jiffDate ∧ t.innermost ≠ .jiffDateTime

theorem typed_nulls [ChronoFields] [ChronoCivil] [JiffCivil] : TypedNulls where
  erases v := by
    have hnull := v.isNull_intoTypedNull
    exact
      { kind := v.kind_intoTypedNull
        shape := v.shape_intoTypedNull
        isNull := hnull
        idempotent := SqlType.intoTypedNull_eq_self_iff.mpr hnull
        encode := intoTypedNull_encode v
        variant := ColumnData.fromNative_intoTypedNull
        native := ColumnData.fromNative_nativeOnly }
  none_sent toSql default before after unicode := by
    rw [ToSql.option_none_eq]
    exact buildParamsFrom_intoTypedNull unicode _ before after 0
  none_sent_iff _ _ := noneSent_iff
  none_types t := by
    have hsettles := t.toSql_settles t.default
    rw [noneSent_iff, ← t.default_panics]
    cases hpanics : t.panics t.default with
    | some p =>
      rw [hpanics] at hsettles
      refine iff_of_false ?_ (by rintro ⟨⟩)
      rintro ⟨s, hs⟩
      cases hs.symm.trans hsettles
    | none =>
      rw [hpanics] at hsettles
      obtain ⟨s, hs, -⟩ := hsettles
      exact iff_of_true ⟨s, hs⟩ rfl

end

end

section

open Reference

/-- `None` of a date or date-time of `jiff`. -/
theorem typed_nulls_jiff :
    ToSql.option ToSql.Jiff.date JiffFields.defaultDate none = .error (.expect dateOutOfRange) ∧
    ToSql.option ToSql.Jiff.dateTime JiffFields.defaultDateTime none =
      .error (.expect dateOutOfRange) ∧
    ¬NoneSent ToSql.Jiff.date JiffFields.defaultDate := by
  have hyear : civilPanic (ToSql.Jiff.civilDate JiffFields.defaultDate) =
      some (.expect dateOutOfRange) := by decide
  have hdate := ToSql.Jiff.dateToSql_settles JiffFields.defaultDate
  rw [hyear] at hdate
  have hrefused : ToSql.Jiff.dateToSql JiffFields.defaultDate = .error (.expect dateOutOfRange) :=
    hdate
  have hnone : ToSql.Jiff.date JiffFields.defaultDate = .error (.expect dateOutOfRange) := by
    rw [ToSql.Jiff.date, hrefused]
    rfl
  refine ⟨?_, ?_, ?_⟩
  · rw [ToSql.option_none_eq, hnone]
    rfl
  · have hdateTime : ToSql.Jiff.datetimeToSql JiffFields.defaultDateTime =
        .error (.expect dateOutOfRange) := by
      rw [ToSql.Jiff.datetimeToSql, show JiffFields.date JiffFields.defaultDateTime =
        JiffFields.defaultDate from rfl, hrefused]
      rfl
    rw [ToSql.option_none_eq, ToSql.Jiff.dateTime, hdateTime]
    rfl
  · rw [noneSent_iff, hnone]
    rintro ⟨s, hs⟩
    cases hs

end

end TiberiusBridge

import TiberiusBridge.Convert.Native
import TiberiusBridge.Serde.Integers

/-!
# Cells through `serde`

What a cell is deserialized as is asked for by the type on the other side. A
text is read from whatever the bridge prints as one: cached text, identifiers,
temporal values and decimals. A temporal value is decoded before it is
printed, and may panic there.
-/
namespace TiberiusBridge

open Lib (Compute MachineInt)

/-- What a visitor names in its error as the value it was handed. -/
inductive Unexpected
  | bool (v : Bool)
  | int (n : Int)
  | float (v : F64)
  | char (v : Char)
  | str (v : String)
  | bytes (v : List UInt8)
  | unit
  | option
  | newtypeStruct
  | enum

/-- The texts of the libraries that a deserialized cell may hold or be refused with. -/
class SerdeTexts [MssqlTds] [Chrono] where
  /-- `format("%Y-%m-%d")`. -/
  formatDate : NaiveDate → String
  /-- `format("%H:%M:%S%.f")`. -/
  formatTime : NaiveTime → String
  /-- `format("%Y-%m-%dT%H:%M:%S%.f")`. -/
  formatDateTime : NaiveDateTime → String
  toRfc3339 : DateTime FixedOffset → String
  /-- `Display` for `Uuid`. -/
  uuidToString : Uuid → String
  /-- `From<&SqlMoney>` for `TdsResult<f64>`, with the text of a failure. -/
  moneyToF64 : SqlMoney → Except String F64
  /-- `de::Error::invalid_type`. -/
  invalidType : Unexpected → String → String
  /-- `de::Error::unknown_variant`. -/
  unknownVariant : String → List String → String

section

variable [MssqlTds] {α β : Type}

/-- A deserialization, which may panic on the way. -/
abbrev Read (α : Type) := Compute (Result α)

/-- The value a visitor was handed is the result. -/
def accept (v : α) : Read α := .ok (.ok v)

/-- `de::Error::custom`. -/
def custom (message : String) : Read α := .ok (.error (.conversion (.custom message)))

/-- `x` is deserialized, and what it gives passed on. -/
def Read.andThen (x : Read α) (f : α → Read β) : Read β :=
  match x with
  | .error panic => .error panic
  | .ok (.error e) => .ok (.error e)
  | .ok (.ok v) => f v

/-- No error but one of conversion. -/
def Read.Converts (x : Read α) : Prop :=
  ∀ e, x = .ok (.error e) → ∃ message, e = .conversion (.custom message)

theorem accept_inj {v w : α} : (accept v : Read α) = accept w ↔ v = w := by
  constructor
  · intro h
    cases h
    rfl
  · rintro rfl
    rfl

theorem converts_accept (v : α) : (accept v : Read α).Converts := by
  intro e h
  cases h

theorem converts_custom (message : String) : (custom message : Read α).Converts := by
  intro e h
  cases h
  exact ⟨message, rfl⟩

namespace Read

theorem andThen_eq_accept {x : Read α} {f : α → Read β} {v : β} :
    x.andThen f = accept v ↔ ∃ u, x = accept u ∧ f u = accept v := by
  constructor
  · intro h
    match x, h with
    | .ok (.ok u), h => exact ⟨u, rfl, h⟩
  · rintro ⟨u, rfl, h⟩
    exact h

theorem Converts.andThen {x : Read α} {f : α → Read β} (hx : x.Converts)
    (hf : ∀ u, (f u).Converts) : (x.andThen f).Converts := by
  intro e h
  match x, h with
  | .ok (.error e'), h =>
    cases h
    exact hx e rfl
  | .ok (.ok u), h => exact hf u e h

end Read

end

section

variable [MssqlTds] [Chrono]

structure EnumStrAccess where
  de : ColumnValueDeserializer

/-- The methods of a `Visitor`. -/
structure CellVisitor (α : Type) where
  visitBool : Bool → Read α
  /-- `visit_i8` to `visit_u128`. -/
  visitInt : (t : IntType) → t.Value → Read α
  visitF32 : F32 → Read α
  visitF64 : F64 → Read α
  visitChar : Char → Read α
  visitBorrowedStr : String → Read α
  visitString : String → Read α
  visitBorrowedBytes : List UInt8 → Read α
  visitByteBuf : List UInt8 → Read α
  visitUnit : Read α
  visitNone : Read α
  visitSome : ColumnValueDeserializer → Read α
  visitNewtypeStruct : ColumnValueDeserializer → Read α
  visitEnum : EnumStrAccess → Read α

/-- The 16 bytes of a `Uuid`, the first one first. -/
def Uuid.asBytes (u : Uuid) : List UInt8 :=
  (List.range 16).map fun i => (u.bytes >>> (8 * (15 - i))).toNat.toUInt8

/-- The `as` casts between the numbers of cells and floats. -/
def F32.ofF64 (v : F64) : F32 := ⟨(Float.ofBits v.bits).toFloat32.toBits⟩

/-- `sm.int_val as f64 / 10_000.0`. -/
def SqlSmallMoney.toF64 (m : SqlSmallMoney) : F64 := ⟨(m.intVal.toFloat / 10000.0).toBits⟩

/-- A type that `visit_float!` is instantiated at. -/
structure FloatType (Value : Type) where
  name : String
  ofF32 : F32 → Value
  ofF64 : F64 → Value
  ofU8 : UInt8 → Value
  ofI16 : Int16 → Value
  ofI32 : Int32 → Value
  ofI64 : Int64 → Value

def FloatType.f32 : FloatType F32 where
  name := "f32"
  ofF32 := id
  ofF64 := F32.ofF64
  ofU8 v := ⟨v.toFloat32.toBits⟩
  ofI16 v := ⟨v.toFloat32.toBits⟩
  ofI32 v := ⟨v.toFloat32.toBits⟩
  ofI64 v := ⟨v.toFloat32.toBits⟩

def FloatType.f64 : FloatType F64 where
  name := "f64"
  ofF32 := F32.asF64
  ofF64 := id
  ofU8 v := ⟨v.toFloat.toBits⟩
  ofI16 v := ⟨v.toFloat.toBits⟩
  ofI32 v := ⟨v.toFloat.toBits⟩
  ofI64 v := ⟨v.toFloat.toBits⟩

variable [SerdeTexts] [DiscriminantText]

namespace CellDeserializer

variable {α : Type} (d : ColumnValueDeserializer)

def unsupported (target : String) : Read α := .ok (d.unsupported target)

/-- A temporal value as text, where it can be decoded. -/
def temporalString : Compute (Option String) :=
  match d.val with
  | .date _ => do return (← FromSql.naiveDate d.val).map SerdeTexts.formatDate
  | .time _ => do return (← FromSql.naiveTime d.val).map SerdeTexts.formatTime
  | .dateTime _ | .dateTime2 _ | .smallDateTime _ => do
    return (← FromSql.naiveDateTime d.val).map SerdeTexts.formatDateTime
  | .dateTimeOffset _ => do
    return (← FromSql.dateTimeFixedOffset d.val).map SerdeTexts.toRfc3339
  | _ => .ok none

/-- `visit_int!`. -/
def deserializeInt (t : IntType) (visitor : CellVisitor α) : Read α :=
  match d.wide with
  | none => unsupported d t.name
  | some wide =>
    match MachineInt.tryFrom t.Value wide with
    | none => custom s!"value {wide} out of range for {t.name}"
    | some v => visitor.visitInt t v

/-- `visit_float!`. -/
def deserializeFloat {Value : Type} (t : FloatType Value) (visit : Value → Read α) : Read α :=
  match d.val with
  | .real n => visit (t.ofF32 n)
  | .float n => visit (t.ofF64 n)
  | .tinyInt n => visit (t.ofU8 n)
  | .smallInt n => visit (t.ofI16 n)
  | .int n => visit (t.ofI32 n)
  | .bigInt n => visit (t.ofI64 n)
  | .money m =>
    match SerdeTexts.moneyToF64 m with
    | .ok f => visit (t.ofF64 f)
    | .error e => custom s!"money decode failed: {e}"
  | .smallMoney sm => visit (t.ofF64 sm.toF64)
  | _ => unsupported d t.name

def deserializeF32 (visitor : CellVisitor α) : Read α :=
  deserializeFloat d .f32 visitor.visitF32

def deserializeF64 (visitor : CellVisitor α) : Read α :=
  deserializeFloat d .f64 visitor.visitF64

def deserializeBool (visitor : CellVisitor α) : Read α :=
  match d.val with
  | .bit b => visitor.visitBool b
  | _ => unsupported d "bool"

def deserializeChar (visitor : CellVisitor α) : Read α :=
  match d.decoded with
  | some s =>
    match s.toList with
    | [c] => visitor.visitChar c
    | _ => custom "cannot deserialize multi-char string as char"
  | none => unsupported d "char"

/-- The text of a temporal cell, passed to the visitor as one of its own. -/
def visitTemporal (visitor : CellVisitor α) : Read α :=
  match temporalString d with
  | .error panic => .error panic
  | .ok (some s) => visitor.visitString s
  | .ok none => custom "invalid temporal value"

def deserializeStr (visitor : CellVisitor α) : Read α :=
  match d.val with
  | .string _ | .xml _ | .json _ =>
    match d.decoded with
    | some s => visitor.visitBorrowedStr s
    | none => visitor.visitBorrowedStr ""
  | .uuid u => visitor.visitString (SerdeTexts.uuidToString u)
  | .date _ | .time _ | .dateTime _ | .dateTime2 _ | .smallDateTime _ | .dateTimeOffset _ =>
    visitTemporal d visitor
  | .decimal v | .numeric v => visitor.visitString (MssqlTds.decimalToString v)
  | _ => unsupported d "&str"

def deserializeString (visitor : CellVisitor α) : Read α := deserializeStr d visitor

def deserializeIdentifier (visitor : CellVisitor α) : Read α := deserializeStr d visitor

def deserializeBytes (visitor : CellVisitor α) : Read α :=
  match d.val with
  | .bytes b => visitor.visitBorrowedBytes b
  | .uuid u => visitor.visitBorrowedBytes u.asBytes
  | _ => unsupported d "bytes"

def deserializeByteBuf (visitor : CellVisitor α) : Read α :=
  match d.val with
  | .bytes b => visitor.visitByteBuf b
  | .uuid u => visitor.visitByteBuf u.asBytes
  | _ => unsupported d "byte buf"

def deserializeAny (visitor : CellVisitor α) : Read α :=
  match d.val with
  | .null => visitor.visitUnit
  | .bit b => visitor.visitBool b
  | .tinyInt v => visitor.visitInt .u8 v
  | .smallInt v => visitor.visitInt .i16 v
  | .int v => visitor.visitInt .i32 v
  | .bigInt v => visitor.visitInt .i64 v
  | .real v => visitor.visitF32 v
  | .float v => visitor.visitF64 v
  | .bytes b => visitor.visitBorrowedBytes b
  | .uuid u => visitor.visitString (SerdeTexts.uuidToString u)
  | .string _ | .xml _ | .json _ =>
    match d.decoded with
    | some s => visitor.visitBorrowedStr s
    | none => visitor.visitBorrowedStr ""
  | .date _ | .time _ | .dateTime _ | .dateTime2 _ | .smallDateTime _ | .dateTimeOffset _ =>
    visitTemporal d visitor
  | .decimal v | .numeric v => visitor.visitString (MssqlTds.decimalToString v)
  | .money m =>
    match SerdeTexts.moneyToF64 m with
    | .ok n => visitor.visitF64 n
    | .error e => custom s!"money decode failed: {e}"
  | .smallMoney sm => visitor.visitF64 sm.toF64
  | .vector _ => custom "ColumnValues::Vector is not supported by serde Deserialize"

def deserializeOption (visitor : CellVisitor α) : Read α :=
  match d.val with
  | .null => visitor.visitNone
  | _ => visitor.visitSome d

def deserializeUnit (visitor : CellVisitor α) : Read α := visitor.visitUnit

def deserializeIgnoredAny (visitor : CellVisitor α) : Read α := visitor.visitUnit

def deserializeNewtypeStruct (visitor : CellVisitor α) : Read α := visitor.visitNewtypeStruct d

/-- Of a sequence, a tuple or a tuple struct, whatever the visitor. -/
def deserializeSeq : Read α := custom "cannot deserialize a column value as a sequence"

/-- Of a map or a struct. -/
def deserializeMap : Read α := custom "cannot deserialize a column value as a map"

def deserializeEnum (visitor : CellVisitor α) : Read α := visitor.visitEnum { de := d }

end CellDeserializer

namespace EnumStrAccess

/-- The variant by its name. What it holds is `UnitVariant`, which has a `unit_variant` only. -/
def variantSeed {α : Type} (a : EnumStrAccess) (seed : ColumnValueDeserializer → Read α) : Read α :=
  seed a.de

end EnumStrAccess

/-- The shape of a variant of an enumeration. -/
inductive VariantShape
  | unit
  | newtype
  | tuple
  | struct
  deriving DecidableEq, Repr

/-- `UnitVariant`'s `VariantAccess`, by the shape that the variant has. -/
def UnitVariant.access : VariantShape → Read Unit
  | .unit => .ok (.ok ())
  | .newtype => custom "newtype enum variants are not supported on column values"
  | .tuple => custom "tuple enum variants are not supported on column values"
  | .struct => custom "struct enum variants are not supported on column values"

/-- What a cell may be deserialized as, with the derived and the standard implementations. -/
inductive CellType
  | bool
  | int (t : IntType)
  | f32
  | f64
  | char
  | string
  /-- `&str`. -/
  | str
  /-- `&[u8]`. -/
  | byteSlice
  | byteBuf
  | unit
  | ignored
  /-- A sequence or tuple type of any elements. -/
  | sequence
  /-- A map or struct of any fields. -/
  | map
  | option (t : CellType)
  | newtype (t : CellType)
  | enum (variants : List (String × VariantShape))

namespace CellType

def Value : CellType → Type
  | bool => Bool
  | int t => t.Value
  | f32 => F32
  | f64 => F64
  | char => Char
  | string | str => String
  | byteSlice | byteBuf => List UInt8
  | unit | ignored => Unit
  | sequence | map => Empty
  | option t => Option t.Value
  | newtype t => t.Value
  | enum variants => Fin variants.length

end CellType

/-- A visitor that takes nothing, with what it expects instead. -/
def CellVisitor.refusing (α : Type) (expecting : String) : CellVisitor α :=
  let refuse unexpected := custom (SerdeTexts.invalidType unexpected expecting)
  { visitBool := fun v => refuse (.bool v)
    visitInt := fun _ v => refuse (.int (MachineInt.toInt v))
    visitF32 := fun v => refuse (.float v.asF64)
    visitF64 := fun v => refuse (.float v)
    visitChar := fun v => refuse (.char v)
    visitBorrowedStr := fun v => refuse (.str v)
    visitString := fun v => refuse (.str v)
    visitBorrowedBytes := fun v => refuse (.bytes v)
    visitByteBuf := fun v => refuse (.bytes v)
    visitUnit := refuse .unit
    visitNone := refuse .option
    visitSome := fun _ => refuse .option
    visitNewtypeStruct := fun _ => refuse .newtypeStruct
    visitEnum := fun _ => refuse .enum }

/-- The index of the variant called `name`. -/
def variantOf (variants : List (String × VariantShape)) (name : String) :
    Read (Fin variants.length) :=
  match variants.findFinIdx? (·.1 == name) with
  | some i => accept i
  | none => custom (SerdeTexts.unknownVariant name (variants.map Prod.fst))

/-- What a derived implementation does with the variant it found. -/
def takeVariant (variants : List (String × VariantShape)) (i : Fin variants.length) :
    Read (Fin variants.length) :=
  (UnitVariant.access (variants.get i).2).andThen fun () => accept i

/-- `T::deserialize`. -/
def CellType.deserialize : (t : CellType) → ColumnValueDeserializer → Read t.Value
  | bool, d => CellDeserializer.deserializeBool d
      { CellVisitor.refusing Bool "a boolean" with visitBool := accept }
  | int t, d => CellDeserializer.deserializeInt d t
      { CellVisitor.refusing t.Value t.name with
        visitInt := fun t' v =>
          match MachineInt.tryFrom t.Value (MachineInt.toInt v) with
          | some v => accept v
          | none => (CellVisitor.refusing t.Value t.name).visitInt t' v }
  | f32, d => CellDeserializer.deserializeF32 d
      { CellVisitor.refusing F32 "f32" with visitF32 := accept }
  | f64, d => CellDeserializer.deserializeF64 d
      { CellVisitor.refusing F64 "f64" with visitF64 := accept }
  | char, d => CellDeserializer.deserializeChar d
      { CellVisitor.refusing Char "a character" with visitChar := accept }
  | string, d => CellDeserializer.deserializeString d
      { CellVisitor.refusing String "a string" with
        visitBorrowedStr := accept, visitString := accept }
  | str, d => CellDeserializer.deserializeStr d
      { CellVisitor.refusing String "a borrowed string" with visitBorrowedStr := accept }
  | byteSlice, d => CellDeserializer.deserializeBytes d
      { CellVisitor.refusing (List UInt8) "a borrowed byte array" with
        visitBorrowedBytes := accept }
  | byteBuf, d => CellDeserializer.deserializeByteBuf d
      { CellVisitor.refusing (List UInt8) "byte array" with visitByteBuf := accept }
  | unit, _ => CellDeserializer.deserializeUnit
      { CellVisitor.refusing Unit "unit" with visitUnit := accept () }
  | ignored, _ => CellDeserializer.deserializeIgnoredAny
      { CellVisitor.refusing Unit "anything at all" with visitUnit := accept () }
  | sequence, _ => CellDeserializer.deserializeSeq
  | map, _ => CellDeserializer.deserializeMap
  | option t, d => CellDeserializer.deserializeOption d
      { CellVisitor.refusing (Option t.Value) "option" with
        visitNone := accept none
        visitSome := fun d => (t.deserialize d).andThen fun v => accept (some v) }
  | newtype t, d => CellDeserializer.deserializeNewtypeStruct d
      { CellVisitor.refusing t.Value "newtype struct" with
        visitNewtypeStruct := fun d => t.deserialize d }
  | enum variants, d => CellDeserializer.deserializeEnum d
      { CellVisitor.refusing (Fin variants.length) "enum" with
        visitEnum := fun access =>
          (access.variantSeed fun d => CellDeserializer.deserializeIdentifier d
            { CellVisitor.refusing (Fin variants.length) "variant identifier" with
              visitBorrowedStr := variantOf variants
              visitString := variantOf variants }).andThen (takeVariant variants) }

/-- The cell of a row, with the text that the row caches for it. -/
def cellOf (val : ColumnValues) : ColumnValueDeserializer := { val, decoded := decodedText val }

namespace CellType

/-- What a type makes of NULL, if it takes one. -/
def ofNull : (t : CellType) → Option t.Value
  | unit | ignored => some ()
  | option _ => some none
  | newtype t => t.ofNull
  | bool | int _ | f32 | f64 | char | string | str | byteSlice | byteBuf | sequence | map
  | enum _ => none

/-- The type is an `Option`, or wraps one. -/
def Optional : CellType → Prop
  | option _ => True
  | newtype t => t.Optional
  | _ => False

/-- The value is the `None` of an optional type. -/
def IsNone : (t : CellType) → t.Value → Prop
  | option t, v => v = (none : Option t.Value)
  | newtype t, v => t.IsNone v
  | _, _ => False

end CellType

omit [SerdeTexts] [DiscriminantText] [Chrono] in
theorem deserializeOption_value {α : Type} {val : ColumnValues} (h : val ≠ .null)
    (visitor : CellVisitor α) :
    CellDeserializer.deserializeOption (cellOf val) visitor = visitor.visitSome (cellOf val) := by
  cases val with
  | null => exact absurd rfl h
  | _ => rfl

namespace CellType

/-- A NULL is taken by the types that have something to make of it. -/
theorem deserialize_null (t : CellType) (v : t.Value) :
    t.deserialize (cellOf .null) = accept v ↔ t.ofNull = some v := by
  induction t with
  | option t =>
    have hnone : (accept none : Read (Option t.Value)) = accept v ↔ none = v := accept_inj
    exact hnone.trans ⟨congrArg some, Option.some.inj⟩
  | newtype t ih => exact ih v
  | unit => exact ⟨fun _ => rfl, fun _ => rfl⟩
  | ignored => exact ⟨fun _ => rfl, fun _ => rfl⟩
  | _ =>
    constructor
    · intro h
      cases h
    · intro h
      cases h

/-- Only a NULL becomes a `None`. -/
theorem isNone_iff {t : CellType} {val : ColumnValues} {v : t.Value}
    (h : t.deserialize (cellOf val) = accept v) : t.IsNone v ↔ val = .null ∧ t.Optional := by
  induction t with
  | option t =>
    by_cases hval : val = .null
    · subst hval
      have hv : (none : Option t.Value) = v := accept_inj.mp h
      exact ⟨fun _ => ⟨rfl, trivial⟩, fun _ => hv.symm⟩
    · rw [CellType.deserialize, deserializeOption_value hval] at h
      obtain ⟨u, -, hu⟩ := Read.andThen_eq_accept.mp h
      cases hu
      constructor
      · intro hnone
        cases hnone
      · rintro ⟨hnull, -⟩
        exact absurd hnull hval
  | newtype t ih => exact ih h
  | _ => exact ⟨False.elim, fun h => h.2⟩

end CellType

/-- The text that a cell is read as, where it has one. -/
def HasText (d : ColumnValueDeserializer) (s : String) : Prop :=
  match d.val with
  | .string _ | .xml _ | .json _ => d.decoded = some s
  | .uuid u => SerdeTexts.uuidToString u = s
  | .date _ | .time _ | .dateTime _ | .dateTime2 _ | .smallDateTime _ | .dateTimeOffset _ =>
    CellDeserializer.temporalString d = .ok (some s)
  | .decimal v | .numeric v => MssqlTds.decimalToString v = s
  | _ => False

namespace CellDeserializer

variable {α : Type} {visitor : CellVisitor α} {x : α}

omit [DiscriminantText] in
theorem visitTemporal_accept (d : ColumnValueDeserializer) :
    visitTemporal d visitor = accept x ↔
      ∃ s, temporalString d = .ok (some s) ∧ visitor.visitString s = accept x := by
  unfold visitTemporal
  constructor
  · intro h
    split at h
    · cases h
    · next s hs => exact ⟨s, hs, h⟩
    · cases h
  · rintro ⟨s, hs, h⟩
    rw [hs]
    exact h

omit [Chrono] [SerdeTexts] in
/-- A visitor is handed a character that is a cached text by itself. -/
theorem deserializeChar_accept {d : ColumnValueDeserializer} :
    deserializeChar d visitor = accept x ↔
      ∃ c, d.decoded = some (String.singleton c) ∧ visitor.visitChar c = accept x := by
  unfold deserializeChar
  constructor
  · intro h
    split at h
    · next s hs =>
      split at h
      · next c hc =>
        have hsingle : s = String.singleton c := by
          rw [← String.toList_inj, hc, String.toList_singleton]
        exact ⟨c, hsingle ▸ hs, h⟩
      · cases h
    · cases h
  · rintro ⟨c, hc, h⟩
    rw [hc]
    dsimp only
    rw [String.toList_singleton]
    exact h

/-- A visitor that takes borrowed and owned texts alike is handed the text of the cell. -/
theorem deserializeStr_accept {val : ColumnValues}
    (hvisitor : visitor.visitBorrowedStr = visitor.visitString) :
    deserializeStr (cellOf val) visitor = accept x ↔
      ∃ s, HasText (cellOf val) s ∧ visitor.visitString s = accept x := by
  have hsome : ∀ {t : String}, visitor.visitString t = accept x ↔
      ∃ s, t = s ∧ visitor.visitString s = accept x := by
    intro t
    constructor
    · intro h
      exact ⟨t, rfl, h⟩
    · rintro ⟨s, rfl, h⟩
      exact h
  have hcached : ∀ {t : String}, visitor.visitBorrowedStr t = accept x ↔
      ∃ s, some t = some s ∧ visitor.visitString s = accept x := by
    intro t
    rw [hvisitor, hsome]
    simp only [Option.some.injEq]
  have htemporal : deserializeStr (cellOf val) visitor = visitTemporal (cellOf val) visitor →
      HasText (cellOf val) = (fun s => temporalString (cellOf val) = .ok (some s)) →
      (deserializeStr (cellOf val) visitor = accept x ↔
        ∃ s, HasText (cellOf val) s ∧ visitor.visitString s = accept x) := by
    intro hstr htext
    rw [hstr, htext]
    exact visitTemporal_accept _
  cases val with
  | string _ => exact hcached
  | xml _ => exact hcached
  | json _ => exact hcached
  | uuid _ => exact hsome
  | decimal _ => exact hsome
  | numeric _ => exact hsome
  | date v => exact htemporal rfl rfl
  | time v => exact htemporal rfl rfl
  | dateTime v => exact htemporal rfl rfl
  | dateTime2 v => exact htemporal rfl rfl
  | smallDateTime v => exact htemporal rfl rfl
  | dateTimeOffset v => exact htemporal rfl rfl
  | _ =>
    constructor
    · intro h
      cases h
    · rintro ⟨s, h, -⟩
      cases h

end CellDeserializer

/-- The variant called `name` that stands first, which holds nothing. -/
structure IsVariant (variants : List (String × VariantShape)) (name : String)
    (i : Fin variants.length) : Prop where
  named : (variants.get i).1 = name
  first : ∀ j < i, (variants.get j).1 ≠ name
  unit : (variants.get i).2 = .unit

omit [SerdeTexts] [DiscriminantText] [Chrono] in
theorem takeVariant_accept {variants : List (String × VariantShape)}
    {i j : Fin variants.length} :
    takeVariant variants i = accept j ↔ i = j ∧ (variants.get i).2 = .unit := by
  unfold takeVariant
  cases (variants.get i).2 with
  | unit => exact accept_inj.trans ⟨fun h => ⟨h, rfl⟩, fun h => h.1⟩
  | _ =>
    constructor
    · intro h
      cases h
    · rintro ⟨-, h⟩
      cases h

omit [DiscriminantText] in
theorem variantOf_accept {variants : List (String × VariantShape)} {name : String}
    {i : Fin variants.length} :
    variantOf variants name = accept i ↔
      (variants.get i).1 = name ∧ ∀ j < i, (variants.get j).1 ≠ name := by
  have hfind : variants.findFinIdx? (·.1 == name) = some i ↔
      (variants.get i).1 = name ∧ ∀ j < i, (variants.get j).1 ≠ name := by
    rw [List.findFinIdx?_eq_some_iff]
    simp only [beq_iff_eq]
    rfl
  rw [← hfind, variantOf]
  cases variants.findFinIdx? (·.1 == name) with
  | none =>
    constructor
    · intro h
      cases h
    · intro h
      cases h
  | some j => exact accept_inj.trans ⟨congrArg some, Option.some.inj⟩

namespace CellDeserializer

variable {α : Type} {d : ColumnValueDeserializer} {visitor : CellVisitor α}

theorem deserializeStr_converts (hborrowed : ∀ s, (visitor.visitBorrowedStr s).Converts)
    (hstring : ∀ s, (visitor.visitString s).Converts) : (deserializeStr d visitor).Converts := by
  have htemporal : (visitTemporal d visitor).Converts := by
    unfold visitTemporal
    split
    · intro e h
      cases h
    · exact hstring _
    · exact converts_custom _
  unfold deserializeStr
  split
  iterate 3
    · cases d.decoded with
      | none => exact hborrowed _
      | some s => exact hborrowed _
  · exact hstring _
  iterate 6 exact htemporal
  iterate 2 exact hstring _
  · exact converts_custom _

theorem deserializeFloat_converts {Value : Type} (t : FloatType Value) {visit : Value → Read α}
    (hvisit : ∀ v, (visit v).Converts) : (deserializeFloat d t visit).Converts := by
  unfold deserializeFloat
  split
  iterate 6 exact hvisit _
  · split
    · exact hvisit _
    · exact converts_custom _
  · exact hvisit _
  · exact converts_custom _

end CellDeserializer

/-- Whatever is refused, is refused with a conversion error. -/
theorem CellType.deserialize_converts (t : CellType) (d : ColumnValueDeserializer) :
    (t.deserialize d).Converts := by
  induction t generalizing d with
  | bool =>
    unfold CellType.deserialize CellDeserializer.deserializeBool
    split
    · exact converts_accept _
    · exact converts_custom _
  | int t =>
    unfold CellType.deserialize CellDeserializer.deserializeInt
    split
    · exact converts_custom _
    · split
      · exact converts_custom _
      · dsimp only
        split
        · exact converts_accept _
        · exact converts_custom _
  | f32 => exact CellDeserializer.deserializeFloat_converts _ converts_accept
  | f64 => exact CellDeserializer.deserializeFloat_converts _ converts_accept
  | char =>
    unfold CellType.deserialize CellDeserializer.deserializeChar
    split
    · split
      · exact converts_accept _
      · exact converts_custom _
    · exact converts_custom _
  | string => exact CellDeserializer.deserializeStr_converts converts_accept converts_accept
  | str =>
    exact CellDeserializer.deserializeStr_converts converts_accept fun _ => converts_custom _
  | byteSlice =>
    unfold CellType.deserialize CellDeserializer.deserializeBytes
    split
    · exact converts_accept _
    · exact converts_accept _
    · exact converts_custom _
  | byteBuf =>
    unfold CellType.deserialize CellDeserializer.deserializeByteBuf
    split
    · exact converts_accept _
    · exact converts_accept _
    · exact converts_custom _
  | unit => exact converts_accept _
  | ignored => exact converts_accept _
  | sequence => exact converts_custom _
  | map => exact converts_custom _
  | option t ih =>
    unfold CellType.deserialize CellDeserializer.deserializeOption
    split
    · exact converts_accept _
    · exact (ih d).andThen fun _ => converts_accept _
  | newtype t ih => exact ih d
  | enum variants =>
    have hvariant : ∀ name, (variantOf variants name).Converts := by
      intro name
      unfold variantOf
      split
      · exact converts_accept _
      · exact converts_custom _
    have htake : ∀ i, (takeVariant variants i).Converts := by
      intro i
      unfold takeVariant
      cases (variants.get i).2 with
      | unit => exact converts_accept _
      | _ => exact converts_custom _
    exact (CellDeserializer.deserializeStr_converts hvariant hvariant).andThen htake

section

variable {val : ColumnValues}

theorem deserialize_string (s : String) :
    CellType.string.deserialize (cellOf val) = accept s ↔ HasText (cellOf val) s := by
  refine (CellDeserializer.deserializeStr_accept rfl).trans ?_
  constructor
  · rintro ⟨t, ht, h⟩
    cases accept_inj.mp h
    exact ht
  · intro h
    exact ⟨s, h, rfl⟩

theorem deserialize_enum (variants : List (String × VariantShape)) (i : Fin variants.length) :
    (CellType.enum variants).deserialize (cellOf val) = accept i ↔
      ∃ s, HasText (cellOf val) s ∧ IsVariant variants s i := by
  refine Read.andThen_eq_accept.trans ?_
  constructor
  · rintro ⟨j, hj, hi⟩
    obtain ⟨rfl, hunit⟩ := takeVariant_accept.mp hi
    obtain ⟨s, hs, hvariant⟩ := (CellDeserializer.deserializeStr_accept rfl).mp hj
    obtain ⟨hnamed, hfirst⟩ := variantOf_accept.mp hvariant
    exact ⟨s, hs, hnamed, hfirst, hunit⟩
  · rintro ⟨s, hs, hvariant⟩
    refine ⟨i, ?_, takeVariant_accept.mpr ⟨rfl, hvariant.unit⟩⟩
    refine (CellDeserializer.deserializeStr_accept rfl).mpr ⟨s, hs, ?_⟩
    exact variantOf_accept.mpr ⟨hvariant.named, hvariant.first⟩

/-- Only the text that a row caches can be borrowed. -/
theorem deserialize_str (s : String) :
    CellType.str.deserialize (cellOf val) = accept s ↔ decodedText val = some s := by
  have htemporal : decodedText val = none →
      (CellDeserializer.visitTemporal (cellOf val)
        { CellVisitor.refusing String "a borrowed string" with visitBorrowedStr := accept } =
          accept s ↔ decodedText val = some s) := by
    intro hnone
    rw [hnone, CellDeserializer.visitTemporal_accept]
    constructor
    · rintro ⟨t, -, h⟩
      cases h
    · intro h
      cases h
  cases val with
  | string v => exact accept_inj.trans ⟨congrArg some, Option.some.inj⟩
  | xml v => exact accept_inj.trans ⟨congrArg some, Option.some.inj⟩
  | json v => exact accept_inj.trans ⟨congrArg some, Option.some.inj⟩
  | date v => exact htemporal rfl
  | time v => exact htemporal rfl
  | dateTime v => exact htemporal rfl
  | dateTime2 v => exact htemporal rfl
  | smallDateTime v => exact htemporal rfl
  | dateTimeOffset v => exact htemporal rfl
  | _ =>
    constructor
    · intro h
      cases h
    · intro h
      cases h

theorem deserialize_char (c : Char) :
    CellType.char.deserialize (cellOf val) = accept c ↔
      decodedText val = some (String.singleton c) := by
  refine CellDeserializer.deserializeChar_accept.trans ?_
  constructor
  · rintro ⟨c', hc, h⟩
    cases accept_inj.mp h
    exact hc
  · intro h
    exact ⟨c, h, rfl⟩

omit [Chrono] [SerdeTexts] [DiscriminantText] in
/-- The text that a row caches is what the native decoder reads. -/
theorem string_eq_decodedText (val : ColumnValues) :
    FromSql.string val = .ok (decodedText val) := by
  cases val <;> rfl

end

/-- The standard visitors of integers are those assumed of them. -/
theorem deserialize_int [SerdeImpls] (t : IntType) (d : ColumnValueDeserializer) :
    (CellType.int t).deserialize d = .ok (Deserialize.int t d) := by
  rw [Deserialize.int, ColumnValueDeserializer.deserializeInt_eq,
    ColumnValueDeserializer.visitInt]
  unfold CellType.deserialize CellDeserializer.deserializeInt
  cases d.wide with
  | none => rfl
  | some wide =>
    dsimp only
    cases MachineInt.tryFrom t.Value wide with
    | none => rfl
    | some v =>
      dsimp only
      rw [MachineInt.tryFrom_toInt, SerdeImpls.visit_int]
      rfl

/-- The bytes of a cell, or those of the identifier that it holds. -/
theorem deserialize_byteSlice [SerdeImpls] {val : ColumnValues} (b : List UInt8) :
    CellType.byteSlice.deserialize (cellOf val) = accept b ↔
      FromSql.bytes val = .ok (some b) ∨ ∃ u, FromSql.uuid val = .ok (some u) ∧ u.asBytes = b := by
  cases val with
  | bytes v =>
    refine accept_inj.trans ⟨?_, ?_⟩
    · rintro rfl
      exact .inl rfl
    · rintro (h | ⟨u, h, -⟩)
      · cases h
        rfl
      · cases h
  | uuid u =>
    refine accept_inj.trans ⟨fun h => .inr ⟨u, rfl, h⟩, ?_⟩
    rintro (h | ⟨u', h, hb⟩)
    · cases h
    · cases h
      exact hb
  | _ =>
    constructor
    · intro h
      cases h
    · rintro (h | ⟨u, h, -⟩) <;> cases h

theorem deserialize_byteBuf [SerdeImpls] {val : ColumnValues} (b : List UInt8) :
    CellType.byteBuf.deserialize (cellOf val) = accept b ↔
      CellType.byteSlice.deserialize (cellOf val) = accept b := by
  cases val with
  | bytes v => exact Iff.rfl
  | uuid u => exact Iff.rfl
  | _ =>
    constructor
    · intro h
      cases h
    · intro h
      cases h

theorem deserializeAny_str [SerdeImpls] {α : Type} (val : ColumnValues) (visitor : CellVisitor α) :
    CellDeserializer.deserializeStr (cellOf val) visitor =
        CellDeserializer.unsupported (cellOf val) "&str" ∨
      CellDeserializer.deserializeAny (cellOf val) visitor =
        CellDeserializer.deserializeStr (cellOf val) visitor := by
  cases val with
  | date v => exact .inr (Eq.refl (CellDeserializer.visitTemporal (cellOf (.date v)) visitor))
  | dateTime2 v =>
    exact .inr (Eq.refl (CellDeserializer.visitTemporal (cellOf (.dateTime2 v)) visitor))
  | dateTimeOffset v =>
    exact .inr (Eq.refl (CellDeserializer.visitTemporal (cellOf (.dateTimeOffset v)) visitor))
  | _ => first | exact .inl rfl | exact .inr rfl

/-- An integer that fits its type is read as it is. -/
theorem deserialize_integer [SerdeImpls] {t : IntType} {val : ColumnValues} {x : t.Value}
    (h : val.Integer (MachineInt.toInt x)) :
    (CellType.int t).deserialize (cellOf val) = accept x := by
  have hexact : Deserialize.int t (cellOf val) = .ok x := Deserialize.int_exact h
  rw [deserialize_int, hexact]
  rfl

/-- What the types make of a cell of a row. -/
structure CellReads [SerdeImpls] (val : ColumnValues) : Prop where
  null : ∀ (t : CellType) v, val = .null →
    (t.deserialize (cellOf val) = accept v ↔ t.ofNull = some v)
  none : ∀ (t : CellType) v, t.deserialize (cellOf val) = accept v →
    (t.IsNone v ↔ val = .null ∧ t.Optional)
  refused : ∀ t : CellType, (t.deserialize (cellOf val)).Converts
  text : ∀ s : String, CellType.string.deserialize (cellOf val) = accept s ↔ HasText (cellOf val) s
  /-- A variant is found by any text, the first of its name counts, and it has to be empty. -/
  variant : ∀ variants i, (CellType.enum variants).deserialize (cellOf val) = accept i ↔
    ∃ s, HasText (cellOf val) s ∧ IsVariant variants s i
  /-- A text is borrowed exactly where the native decoder reads one. -/
  borrowed : ∀ s : String, CellType.str.deserialize (cellOf val) = accept s ↔
    FromSql.string val = .ok (some s)
  char : ∀ c : Char, CellType.char.deserialize (cellOf val) = accept c ↔
    FromSql.string val = .ok (some (String.singleton c))
  /-- The native decoder has no identifiers as bytes. -/
  bytes : ∀ b : List UInt8, CellType.byteSlice.deserialize (cellOf val) = accept b ↔
    FromSql.bytes val = .ok (some b) ∨ ∃ u, FromSql.uuid val = .ok (some u) ∧ u.asBytes = b
  byteBuf : ∀ b : List UInt8, CellType.byteBuf.deserialize (cellOf val) = accept b ↔
    CellType.byteSlice.deserialize (cellOf val) = accept b
  float : ∀ v, FromSql.f64 val = .ok (some v) → CellType.f64.deserialize (cellOf val) = accept v
  single : ∀ v, FromSql.f32 val = .ok (some v) → CellType.f32.deserialize (cellOf val) = accept v
  bool : ∀ v, FromSql.bool val = .ok (some v) → CellType.bool.deserialize (cellOf val) = accept v
  u8 : ∀ v, FromSql.u8 val = .ok (some v) →
    (CellType.int .u8).deserialize (cellOf val) = accept v
  i16 : ∀ v, FromSql.i16 val = .ok (some v) →
    (CellType.int .i16).deserialize (cellOf val) = accept v
  i32 : ∀ v, FromSql.i32 val = .ok (some v) →
    (CellType.int .i32).deserialize (cellOf val) = accept v
  i64 : ∀ v, FromSql.i64 val = .ok (some v) →
    (CellType.int .i64).deserialize (cellOf val) = accept v
  int : ∀ t, (CellType.int t).deserialize (cellOf val) = .ok (Deserialize.int t (cellOf val))
  /-- What is read without asking for a type is read as a text would be. -/
  any : ∀ {α : Type} (visitor : CellVisitor α),
    CellDeserializer.deserializeStr (cellOf val) visitor =
        CellDeserializer.unsupported (cellOf val) "&str" ∨
      CellDeserializer.deserializeAny (cellOf val) visitor =
        CellDeserializer.deserializeStr (cellOf val) visitor

theorem cell_reads [SerdeImpls] (val : ColumnValues) : CellReads val := by
  refine
    { none := fun t v h => CellType.isNone_iff h
      refused := fun t => t.deserialize_converts _
      int := fun t => deserialize_int t _
      u8 := fun _ h => deserialize_integer (FromSql.u8_integer h)
      i16 := fun _ h => deserialize_integer (FromSql.i16_integer h)
      i32 := fun _ h => deserialize_integer (FromSql.i32_integer h)
      i64 := fun _ h => deserialize_integer (FromSql.i64_integer h)
      text := deserialize_string, variant := deserialize_enum
      bytes := deserialize_byteSlice, byteBuf := deserialize_byteBuf
      any := deserializeAny_str val
      null := ?_, borrowed := ?_, char := ?_, float := ?_, single := ?_, bool := ?_ }
  · rintro t v rfl
    exact t.deserialize_null v
  · intro s
    refine (deserialize_str s).trans ?_
    rw [string_eq_decodedText, Except.ok.injEq]
  · intro c
    refine (deserialize_char c).trans ?_
    rw [string_eq_decodedText, Except.ok.injEq]
  · intro v h
    cases val with
    | float x => cases h; rfl
    | real x => cases h; rfl
    | _ => cases h
  · intro v h
    cases val with
    | real x => cases h; rfl
    | _ => cases h
  · intro v h
    cases val with
    | bit x => cases h; rfl
    | _ => cases h

end

end TiberiusBridge

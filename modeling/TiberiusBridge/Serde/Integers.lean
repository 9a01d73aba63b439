import TiberiusBridge.Lib.MachineInt
import TiberiusBridge.Serde.RowMap

/-!
# Integers through `serde`

A cell is deserialized as an integer by way of `i128`, whatever the width of
either side. The native decoders have their own table of widenings, and a
`bool` is not an integer to them.
-/
namespace TiberiusBridge

open Lib (MachineInt)

section

variable [MssqlTds]

inductive IntType
  | i8
  | i16
  | i32
  | i64
  | i128
  | u8
  | u16
  | u32
  | u64
  | u128
  deriving DecidableEq, Repr

namespace IntType

def Value : IntType → Type
  | i8 => Int8
  | i16 => Int16
  | i32 => Int32
  | i64 => Int64
  | i128 => Lib.SInt128
  | u8 => UInt8
  | u16 => UInt16
  | u32 => UInt32
  | u64 => UInt64
  | u128 => Lib.UInt128

instance : (t : IntType) → MachineInt t.Value
  | i8 => inferInstanceAs (MachineInt Int8)
  | i16 => inferInstanceAs (MachineInt Int16)
  | i32 => inferInstanceAs (MachineInt Int32)
  | i64 => inferInstanceAs (MachineInt Int64)
  | i128 => inferInstanceAs (MachineInt Lib.SInt128)
  | u8 => inferInstanceAs (MachineInt UInt8)
  | u16 => inferInstanceAs (MachineInt UInt16)
  | u32 => inferInstanceAs (MachineInt UInt32)
  | u64 => inferInstanceAs (MachineInt UInt64)
  | u128 => inferInstanceAs (MachineInt Lib.UInt128)

/-- `stringify!`. -/
def name : IntType → String
  | i8 => "i8"
  | i16 => "i16"
  | i32 => "i32"
  | i64 => "i64"
  | i128 => "i128"
  | u8 => "u8"
  | u16 => "u16"
  | u32 => "u32"
  | u64 => "u64"
  | u128 => "u128"

end IntType

/-- The methods of a `Visitor` that the deserializers below call. -/
structure Visitor (α : Type) where
  visitBool : Bool → Result α
  /-- `visit_i8` to `visit_u128`. -/
  visitInt : (t : IntType) → t.Value → Result α
  visitNone : Result α
  visitSome : ColumnValueDeserializer → Result α

/-- How `{:?}` prints the `std::mem::discriminant` of a cell. -/
class DiscriminantText where
  text : ColumnValues → String

namespace ColumnValueDeserializer

variable [DiscriminantText] {α : Type} (d : ColumnValueDeserializer)

def unsupported (target : String) : Result α :=
  .error (.conversion (.custom s!"cannot deserialize {DiscriminantText.text d.val} as {target}"))

/-- The cell as `i128`. -/
def wide : Option Int :=
  match d.val with
  | .tinyInt n => some n.toNat
  | .smallInt n => some n.toInt
  | .int n => some n.toInt
  | .bigInt n => some n.toInt
  | .bit b => some b.toInt
  | _ => none

/-- `visit_int!`. -/
def visitInt (t : IntType) (visitor : Visitor α) : Result α :=
  match d.wide with
  | none => d.unsupported t.name
  | some wide =>
    match MachineInt.tryFrom t.Value wide with
    | none => .error (.conversion (.custom s!"value {wide} out of range for {t.name}"))
    | some v => visitor.visitInt t v

def deserializeI8 (visitor : Visitor α) : Result α := d.visitInt .i8 visitor

def deserializeI16 (visitor : Visitor α) : Result α := d.visitInt .i16 visitor

def deserializeI32 (visitor : Visitor α) : Result α := d.visitInt .i32 visitor

def deserializeI64 (visitor : Visitor α) : Result α := d.visitInt .i64 visitor

def deserializeI128 (visitor : Visitor α) : Result α := d.visitInt .i128 visitor

def deserializeU8 (visitor : Visitor α) : Result α := d.visitInt .u8 visitor

def deserializeU16 (visitor : Visitor α) : Result α := d.visitInt .u16 visitor

def deserializeU32 (visitor : Visitor α) : Result α := d.visitInt .u32 visitor

def deserializeU64 (visitor : Visitor α) : Result α := d.visitInt .u64 visitor

def deserializeU128 (visitor : Visitor α) : Result α := d.visitInt .u128 visitor

/-- The method that the target asks for. -/
def deserializeInt : IntType → Visitor α → Result α
  | .i8 => d.deserializeI8
  | .i16 => d.deserializeI16
  | .i32 => d.deserializeI32
  | .i64 => d.deserializeI64
  | .i128 => d.deserializeI128
  | .u8 => d.deserializeU8
  | .u16 => d.deserializeU16
  | .u32 => d.deserializeU32
  | .u64 => d.deserializeU64
  | .u128 => d.deserializeU128

def deserializeBool (visitor : Visitor α) : Result α :=
  match d.val with
  | .bit b => visitor.visitBool b
  | _ => d.unsupported "bool"

def deserializeOption (visitor : Visitor α) : Result α :=
  match d.val with
  | .null => visitor.visitNone
  | _ => visitor.visitSome d

end ColumnValueDeserializer

/-- What an integer-bearing cell holds. -/
inductive ColumnValues.Integer : ColumnValues → Int → Prop
  | tinyInt (n : UInt8) : Integer (.tinyInt n) n.toNat
  | smallInt (n : Int16) : Integer (.smallInt n) n.toInt
  | int (n : Int32) : Integer (.int n) n.toInt
  | bigInt (n : Int64) : Integer (.bigInt n) n.toInt
  | bit (b : Bool) : Integer (.bit b) (if b then 1 else 0)

namespace ColumnValueDeserializer

variable {d : ColumnValueDeserializer} {n : Int}

theorem wide_eq_some_iff : d.wide = some n ↔ d.val.Integer n := by
  obtain ⟨val, decoded⟩ := d
  constructor
  · intro h
    cases val with
    | tinyInt m => cases h; exact .tinyInt m
    | smallInt m => cases h; exact .smallInt m
    | int m => cases h; exact .int m
    | bigInt m => cases h; exact .bigInt m
    | bit b => cases b <;> cases h <;> exact .bit _
    | _ => cases h
  · intro h
    cases h with
    | bit b => cases b <;> rfl
    | _ => rfl

variable [DiscriminantText] {α : Type} {t : IntType} (visitor : Visitor α)

theorem deserializeInt_eq : d.deserializeInt t visitor = d.visitInt t visitor := by
  cases t <;> rfl

theorem visitInt_exact {x : t.Value} (h : d.val.Integer (MachineInt.toInt x)) :
    d.visitInt t visitor = visitor.visitInt t x := by
  rw [visitInt, wide_eq_some_iff.mpr h]
  dsimp only
  rw [MachineInt.tryFrom_toInt]

theorem visitInt_outOfRange (h : d.val.Integer n) (hn : ¬MachineInt.InRange t.Value n) :
    d.visitInt t visitor =
      .error (.conversion (.custom s!"value {n} out of range for {t.name}")) := by
  rw [visitInt, wide_eq_some_iff.mpr h]
  dsimp only
  rw [MachineInt.tryFrom_eq_none hn]

theorem visitInt_unsupported (h : ∀ n, ¬d.val.Integer n) :
    d.visitInt t visitor = d.unsupported t.name := by
  have hwide : d.wide = none := by
    rw [Option.eq_none_iff_forall_ne_some]
    exact fun n hn => h n (wide_eq_some_iff.mp hn)
  rw [visitInt, hwide]

end ColumnValueDeserializer

omit [MssqlTds] in
/-- A byte in a wider signed type is the same number. -/
theorem toInt_of_byte {w : Nat} (hw : 9 ≤ w) {v : UInt8} {b : BitVec w}
    (hb : b.toNat = v.toNat) : b.toInt = v.toNat := by
  have hbyte : v.toNat < 2 ^ 8 := v.toNat_lt
  have hpow : 2 ^ 9 ≤ 2 ^ w := Nat.pow_le_pow_right (by decide) hw
  rw [BitVec.toInt_eq_toNat_of_lt (by omega), hb]

namespace FromSql

variable {cell : ColumnValues}

theorem u8_integer {x : UInt8} (h : u8 cell = .ok (some x)) :
    cell.Integer (MachineInt.toInt x) := by
  cases cell with
  | tinyInt v => cases h; exact .tinyInt x
  | _ => cases h

theorem i16_integer {x : Int16} (h : i16 cell = .ok (some x)) :
    cell.Integer (MachineInt.toInt x) := by
  cases cell with
  | smallInt v => cases h; exact .smallInt x
  | tinyInt v =>
    cases h
    have hsame : MachineInt.toInt v.toUInt16.toInt16 = v.toNat :=
      toInt_of_byte (by decide) (UInt8.toNat_toUInt16 v)
    rw [hsame]
    exact .tinyInt v
  | _ => cases h

theorem i32_integer {x : Int32} (h : i32 cell = .ok (some x)) :
    cell.Integer (MachineInt.toInt x) := by
  cases cell with
  | int v => cases h; exact .int x
  | smallInt v =>
    cases h
    have hsame : MachineInt.toInt v.toInt32 = v.toInt := Int16.toInt_toInt32 v
    rw [hsame]
    exact .smallInt v
  | tinyInt v =>
    cases h
    have hsame : MachineInt.toInt v.toUInt32.toInt32 = v.toNat :=
      toInt_of_byte (by decide) (UInt8.toNat_toUInt32 v)
    rw [hsame]
    exact .tinyInt v
  | _ => cases h

theorem i64_integer {x : Int64} (h : i64 cell = .ok (some x)) :
    cell.Integer (MachineInt.toInt x) := by
  cases cell with
  | bigInt v => cases h; exact .bigInt x
  | int v =>
    cases h
    have hsame : MachineInt.toInt v.toInt64 = v.toInt := Int32.toInt_toInt64 v
    rw [hsame]
    exact .int v
  | smallInt v =>
    cases h
    have hsame : MachineInt.toInt v.toInt64 = v.toInt := Int16.toInt_toInt64 v
    rw [hsame]
    exact .smallInt v
  | tinyInt v =>
    cases h
    have hsame : MachineInt.toInt v.toUInt64.toInt64 = v.toNat :=
      toInt_of_byte (by decide) (UInt8.toNat_toUInt64 v)
    rw [hsame]
    exact .tinyInt v
  | _ => cases h

end FromSql

/-- What `serde` implements for its own types and for those of the standard library. -/
class SerdeImpls where
  boolVisitor : Visitor Bool
  intVisitor : (t : IntType) → Visitor t.Value
  optionVisitor : {α : Type} → ValueSeed α → Visitor (Option α)
  /-- A visitor takes the values of its own type. -/
  visit_bool : ∀ v, boolVisitor.visitBool v = .ok v
  visit_int : ∀ t v, (intVisitor t).visitInt t v = .ok v
  visit_none : ∀ {α : Type} (deserialize : ValueSeed α),
    (optionVisitor deserialize).visitNone = .ok none
  visit_some : ∀ {α : Type} (deserialize : ValueSeed α) d,
    (optionVisitor deserialize).visitSome d = (deserialize d).map some

variable [DiscriminantText] [SerdeImpls]

namespace Deserialize

/-- `bool::deserialize`. -/
def bool : ValueSeed Bool := fun d => d.deserializeBool SerdeImpls.boolVisitor

/-- `i8::deserialize` to `u128::deserialize`. -/
def int (t : IntType) : ValueSeed t.Value := fun d => d.deserializeInt t (SerdeImpls.intVisitor t)

def option {α : Type} (deserialize : ValueSeed α) : ValueSeed (Option α) :=
  fun d => d.deserializeOption (SerdeImpls.optionVisitor deserialize)

theorem int_exact {d : ColumnValueDeserializer} {t : IntType} {x : t.Value}
    (h : d.val.Integer (MachineInt.toInt x)) : int t d = .ok x := by
  rw [int, ColumnValueDeserializer.deserializeInt_eq, ColumnValueDeserializer.visitInt_exact _ h,
    SerdeImpls.visit_int]

omit [DiscriminantText] in
theorem option_value {α : Type} (deserialize : ValueSeed α) {d : ColumnValueDeserializer}
    (h : d.val ≠ .null) : option deserialize d = (deserialize d).map some := by
  obtain ⟨val, decoded⟩ := d
  cases val with
  | null => exact absurd rfl h
  | _ => exact SerdeImpls.visit_some deserialize _

omit [DiscriminantText] in
/-- A NULL is `None`, and nothing else is. -/
theorem option_eq_none_iff {α : Type} (deserialize : ValueSeed α) {d : ColumnValueDeserializer} :
    option deserialize d = .ok none ↔ d.val = .null := by
  constructor
  · intro h
    by_contra hvalue
    rw [option_value deserialize hvalue] at h
    cases hd : deserialize d with
    | error e => rw [hd] at h; cases h
    | ok x => rw [hd] at h; cases h
  · intro h
    obtain ⟨val, decoded⟩ := d
    cases h
    exact SerdeImpls.visit_none deserialize

end Deserialize

/-- The types of cells that have a native decoder and hold a truth value or an integer. -/
inductive NativeScalar
  | bool
  | u8
  | i16
  | i32
  | i64
  deriving DecidableEq, Repr

namespace NativeScalar

def Value : NativeScalar → Type
  | bool => Bool
  | u8 => UInt8
  | i16 => Int16
  | i32 => Int32
  | i64 => Int64

def fromSql : (t : NativeScalar) → Decoder t.Value
  | bool => FromSql.bool
  | u8 => FromSql.u8
  | i16 => FromSql.i16
  | i32 => FromSql.i32
  | i64 => FromSql.i64

def deserialize : (t : NativeScalar) → ValueSeed t.Value
  | bool => Deserialize.bool
  | u8 => Deserialize.int .u8
  | i16 => Deserialize.int .i16
  | i32 => Deserialize.int .i32
  | i64 => Deserialize.int .i64

/-- What the native decoder reads is what `serde` reads. -/
theorem deserialize_eq {t : NativeScalar} {d : ColumnValueDeserializer} {x : t.Value}
    (h : t.fromSql d.val = .ok (some x)) : t.deserialize d = .ok x := by
  cases t with
  | bool =>
    obtain ⟨val, decoded⟩ := d
    cases val with
    | bit b =>
      cases h
      exact SerdeImpls.visit_bool _
    | _ => cases h
  | u8 => exact Deserialize.int_exact (FromSql.u8_integer h)
  | i16 => exact Deserialize.int_exact (FromSql.i16_integer h)
  | i32 => exact Deserialize.int_exact (FromSql.i32_integer h)
  | i64 => exact Deserialize.int_exact (FromSql.i64_integer h)

end NativeScalar

/-- Of every cell. -/
structure SerdeIntegers (d : ColumnValueDeserializer) : Prop where
  exact : ∀ {α : Type} (visitor : Visitor α) (t : IntType) n, d.val.Integer n →
    MachineInt.InRange t.Value n → ∃ v : t.Value, MachineInt.toInt v = n ∧
      d.deserializeInt t visitor = visitor.visitInt t v
  outOfRange : ∀ {α : Type} (visitor : Visitor α) (t : IntType) n, d.val.Integer n →
    ¬MachineInt.InRange t.Value n →
      ∃ message, d.deserializeInt t visitor = .error (.conversion message)
  otherKind : ∀ {α : Type} (visitor : Visitor α) (t : IntType), (∀ n, ¬d.val.Integer n) →
    ∃ message, d.deserializeInt t visitor = .error (.conversion message)
  native : ∀ (t : NativeScalar) x, t.fromSql d.val = .ok (some x) → t.deserialize d = .ok x
  option : ∀ {α : Type} (deserialize : ValueSeed α),
    Deserialize.option deserialize d = .ok none ↔ d.val = .null

theorem serde_integers (d : ColumnValueDeserializer) : SerdeIntegers d where
  exact visitor t n hn hrange := by
    obtain ⟨v, rfl⟩ := MachineInt.exists_toInt hrange
    refine ⟨v, rfl, ?_⟩
    rw [ColumnValueDeserializer.deserializeInt_eq, ColumnValueDeserializer.visitInt_exact _ hn]
  outOfRange visitor t n hn hrange := by
    rw [ColumnValueDeserializer.deserializeInt_eq,
      ColumnValueDeserializer.visitInt_outOfRange _ hn hrange]
    exact ⟨_, rfl⟩
  otherKind visitor t hn := by
    rw [ColumnValueDeserializer.deserializeInt_eq,
      ColumnValueDeserializer.visitInt_unsupported _ hn]
    exact ⟨_, rfl⟩
  native _ _ h := NativeScalar.deserialize_eq h
  option deserialize := Deserialize.option_eq_none_iff deserialize

end

namespace Reference

variable [MssqlTds]

/-- Refuses whatever it is handed. -/
def refusing (α : Type) : Visitor α where
  visitBool _ := .error (.conversion (.custom "invalid type"))
  visitInt _ _ := .error (.conversion (.custom "invalid type"))
  visitNone := .error (.conversion (.custom "invalid type"))
  visitSome _ := .error (.conversion (.custom "invalid type"))

scoped instance serdeImpls : SerdeImpls where
  boolVisitor := { refusing Bool with visitBool := .ok }
  intVisitor t :=
    { refusing t.Value with
      visitInt := fun t' v =>
        if h : t' = t then .ok (h ▸ v) else (refusing t.Value).visitInt t' v }
  optionVisitor {α} deserialize :=
    { refusing (Option α) with
      visitNone := .ok none
      visitSome := fun d => (deserialize d).map some }
  visit_bool _ := rfl
  visit_int _ _ := dif_pos rfl
  visit_none _ := rfl
  visit_some _ _ := rfl

end Reference

end TiberiusBridge

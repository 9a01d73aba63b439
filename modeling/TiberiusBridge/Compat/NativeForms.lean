import TiberiusBridge.Compat.ColumnData
import TiberiusBridge.Tds.Reference

/-!
# Compatibility values as native parameters

`ColumnData` borrows its text and bytes or owns them. `to_sql` drops the
difference, and `from_native` owns what it returns.
-/
namespace TiberiusBridge

inductive Cow (α : Type)
  | borrowed (v : α)
  | owned (v : α)

namespace Cow

variable {α : Type}

def get : Cow α → α
  | borrowed v => v
  | owned v => v

end Cow

section

variable [MssqlTds]

/-- `ColumnData<'a>`, with what each value borrows. -/
inductive CowColumnData
  | bit (v : Option Bool)
  | u8 (v : Option UInt8)
  | i16 (v : Option Int16)
  | i32 (v : Option Int32)
  | i64 (v : Option Int64)
  | f32 (v : Option F32)
  | f64 (v : Option F64)
  | string (v : Option (Cow String))
  | guid (v : Option Uuid)
  | binary (v : Option (Cow (List UInt8)))
  | numeric (v : Option DecimalParts)
  | xml (v : Option (Cow String))
  | dateTime (v : Option SqlDateTime)
  | smallDateTime (v : Option SqlSmallDateTime)
  | time (v : Option SqlTime)
  | date (v : Option SqlDate)
  | dateTime2 (v : Option SqlDateTime2)
  | dateTimeOffset (v : Option SqlDateTimeOffset)
  | money (v : Option SqlMoney)
  | smallMoney (v : Option SqlSmallMoney)
  | json (v : Option (Cow String))
  | native (v : SqlType)

namespace CowColumnData

/-- The value, whoever owns it. -/
def contents : CowColumnData → ColumnData
  | bit v => .bit v
  | u8 v => .u8 v
  | i16 v => .i16 v
  | i32 v => .i32 v
  | i64 v => .i64 v
  | f32 v => .f32 v
  | f64 v => .f64 v
  | string v => .string (v.map Cow.get)
  | guid v => .guid v
  | binary v => .binary (v.map Cow.get)
  | numeric v => .numeric v
  | xml v => .xml (v.map Cow.get)
  | dateTime v => .dateTime v
  | smallDateTime v => .smallDateTime v
  | time v => .time v
  | date v => .date v
  | dateTime2 v => .dateTime2 v
  | dateTimeOffset v => .dateTimeOffset v
  | money v => .money v
  | smallMoney v => .smallMoney v
  | json v => .json (v.map Cow.get)
  | native v => .native v

/-- The value with its text or bytes owned. -/
def owning : ColumnData → CowColumnData
  | .bit v => bit v
  | .u8 v => u8 v
  | .i16 v => i16 v
  | .i32 v => i32 v
  | .i64 v => i64 v
  | .f32 v => f32 v
  | .f64 v => f64 v
  | .string v => string (v.map .owned)
  | .guid v => guid v
  | .binary v => binary (v.map .owned)
  | .numeric v => numeric v
  | .xml v => xml (v.map .owned)
  | .dateTime v => dateTime v
  | .smallDateTime v => smallDateTime v
  | .time v => time v
  | .date v => date v
  | .dateTime2 v => dateTime2 v
  | .dateTimeOffset v => dateTimeOffset v
  | .money v => money v
  | .smallMoney v => smallMoney v
  | .json v => json (v.map .owned)
  | .native v => native v

/-- `from_native` owns what it returns. -/
def fromNative (v : SqlType) : CowColumnData := owning (.fromNative v)

def intoOwned (cd : CowColumnData) : CowColumnData := owning cd.contents

/-- `to_sql` reads through the `Cow`. -/
def toSql (cd : CowColumnData) : SqlType := cd.contents.toSql

theorem contents_owning (c : ColumnData) : (owning c).contents = c := by
  cases c <;> simp [owning, contents, Function.comp_def, Cow.get]

/-- Values are equal once owned where they are equal in contents. -/
theorem intoOwned_eq_iff {a b : CowColumnData} :
    a.intoOwned = b.intoOwned ↔ a.contents = b.contents := by
  constructor
  · intro h
    have hcontents := congrArg contents h
    rwa [intoOwned, intoOwned, contents_owning, contents_owning] at hcontents
  · intro h
    rw [intoOwned, intoOwned, h]

end CowColumnData

/-- The types that have no compatibility form. -/
def SqlType.NativeOnly : SqlType → Prop
  | .vector .. | .variant .. | .table .. | .udt .. => True
  | _ => False

def ColumnData.NativeOnly : ColumnData → Prop
  | .native v => v.NativeOnly
  | _ => True

/-- The length of a string chooses its native type, and either type gives the text back. -/
theorem ColumnData.fromNative_toSql {cd : ColumnData} (h : cd.NativeOnly) :
    fromNative cd.toSql = cd := by
  cases cd with
  | string v =>
    cases v with
    | none => rfl
    | some s =>
      rw [toSql]
      split <;> exact congrArg (string ∘ some) (MssqlTds.string_text s)
  | native v => cases v <;> first | rfl | exact h.elim
  | xml v => cases v <;> simp [toSql, fromNative, MssqlTds.xml_text]
  | json v => cases v <;> simp [toSql, fromNative, MssqlTds.json_text]
  | _ => rfl

/-- A compatibility value whose native payload, if it has one, is native-only. -/
structure CompatValue where
  data : CowColumnData
  nativeOnly : data.contents.NativeOnly

theorem CompatValue.contents_fromNative (cd : CompatValue) :
    (CowColumnData.fromNative cd.data.toSql).contents = cd.data.contents := by
  rw [CowColumnData.fromNative, CowColumnData.contents_owning, CowColumnData.toSql,
    ColumnData.fromNative_toSql cd.nativeOnly]

/-- A value comes back from its parameter owned, so the parameter determines it. -/
structure NativeForm (cd : CompatValue) : Prop where
  survives : CowColumnData.fromNative cd.data.toSql = cd.data.intoOwned
  injective : ∀ other : CompatValue,
    cd.data.toSql = other.data.toSql ↔ cd.data.intoOwned = other.data.intoOwned
  reencoded : (CowColumnData.fromNative cd.data.toSql).toSql = cd.data.toSql

theorem native_form (cd : CompatValue) : NativeForm cd where
  survives := by
    rw [CowColumnData.fromNative, CowColumnData.toSql, ColumnData.fromNative_toSql cd.nativeOnly]
    rfl
  injective other := by
    rw [CowColumnData.intoOwned_eq_iff]
    constructor
    · intro h
      calc cd.data.contents
          = (CowColumnData.fromNative cd.data.toSql).contents := cd.contents_fromNative.symm
        _ = (CowColumnData.fromNative other.data.toSql).contents := by rw [h]
        _ = other.data.contents := other.contents_fromNative
    · intro h
      rw [CowColumnData.toSql, h]
      rfl
  reencoded := by
    rw [CowColumnData.toSql, cd.contents_fromNative]
    rfl

end

section

open scoped Reference

/-- A borrowed text, and a payload that has no form of its own. -/
def borrowedText : CompatValue := ⟨.string (some (.borrowed "abc")), trivial⟩

def nativeVector : CompatValue := ⟨.native (.vector none 3 .float32), trivial⟩

theorem native_form_borrowed :
    NativeForm borrowedText ∧ borrowedText.data.toSql = .nVarchar (some "abc") 4000 ∧
      borrowedText.data.intoOwned = .string (some (.owned "abc")) ∧ NativeForm nativeVector ∧
      nativeVector.data.intoOwned = nativeVector.data :=
  ⟨native_form borrowedText, rfl, rfl, native_form nativeVector, rfl⟩

end

end TiberiusBridge

import TiberiusBridge.Convert.Compat

/-!
# Reading a row

By position or by name, through the native or the compatibility conversion of
the cell.
-/
namespace TiberiusBridge

open Lib (Compute)
open Lib.Compute (expect)

variable [MssqlTds]

/-- `FromSql::from_sql_with_str`, with the cell's cached text. -/
abbrev RowDecoder (α : Type) := ColumnValues → Option String → Compute (Option α)

/-- The default `from_sql_with_str`. -/
def Decoder.withStr {α : Type} (fromSql : Decoder α) : RowDecoder α := fun cell _ => fromSql cell

/-- The one of `&str`, which borrows the cached text. -/
def FromSql.strWithStr : RowDecoder String := fun _ decoded => .ok decoded

/-- The one of `Option<T>`: a NULL is a value. -/
def RowDecoder.option {α : Type} (fromSql : RowDecoder α) : RowDecoder (Option α) :=
  fun cell decoded => do
    match cell with
    | .null => return some none
    | cell => return some (← fromSql cell decoded)

namespace Row

def rawValue (r : Row) (idx : Nat) : Option ColumnValues := r.values[idx]?

def cells (r : Row) : List (Column × ColumnData) := r.schema.columns.zip r.compatValues

def tryGetAt {α : Type} (r : Row) (fromSql : RowDecoder α) (idx : Nat) :
    Compute (Result (Option α)) :=
  match r.values[idx]? with
  | none => return .error (.columnIndexOutOfBounds idx r.values.length)
  | some value => return .ok (← fromSql value (r.decodedStrings[idx]?).join)

def tryGet {α : Type} (r : Row) (fromSql : RowDecoder α) (col : ColumnIndex) :
    Compute (Result (Option α)) :=
  match r.resolve col with
  | .error e => return .error e
  | .ok idx => r.tryGetAt fromSql idx

def get {α : Type} (r : Row) (fromSql : RowDecoder α) (col : ColumnIndex) :
    Compute (Option α) := do
  expect "column not found" (← r.tryGet fromSql col).toOption

def tryGetCompat {α : Type} (r : Row) (fromSql : CompatDecoder α) (col : ColumnIndex) :
    Compute (Result (Option α)) :=
  match r.resolve col with
  | .error e => return .error e
  | .ok idx =>
    match r.compatValues[idx]? with
    | none => return .error (.columnIndexOutOfBounds idx r.compatValues.length)
    | some value => fromSql value

end Row

end TiberiusBridge

import TiberiusBridge.Compat.ColumnData

/-!
# Rows, their schema, and the writer that builds them during wire decode

The lazily filled `compat_values` cache is recomputed on every access.
-/
namespace TiberiusBridge

/-- `name_map` lists each distinct name once, with the index that claimed it first. -/
structure RowSchema where
  columns : List Column
  nameMap : List (String × Nat)
  deriving DecidableEq

namespace RowSchema

/-- `entry(name).or_insert(index)`. -/
def orInsert (m : List (String × Nat)) (name : String) (index : Nat) : List (String × Nat) :=
  if (m.lookup name).isSome then m else m ++ [(name, index)]

def fromMetadata (metadata : List ColumnMetadata) : RowSchema :=
  let columns := metadata.map Column.fromTds
  { columns
    nameMap := columns.zipIdx.foldl (fun m (c, index) => orInsert m c.name index) [] }

end RowSchema

variable [MssqlTds]

structure Row where
  schema : RowSchema
  values : List ColumnValues
  resultIndex : Nat
  decodedStrings : List (Option String)

/-- The text a row caches for a cell. -/
def decodedText : ColumnValues → Option String
  | .string s => some (MssqlTds.toUtf8String s)
  | .xml x => some (MssqlTds.xmlAsString x)
  | .json j => some (MssqlTds.jsonAsString j)
  | _ => none

inductive ColumnIndex
  | index (i : Nat)
  | name (n : String)

namespace Row

def fromParts (schema : RowSchema) (values : List ColumnValues) (resultIndex : Nat)
    (decodedStrings : List (Option String)) : Row :=
  { schema, values, resultIndex, decodedStrings }

def fromSchema (schema : RowSchema) (values : List ColumnValues) : Row :=
  fromParts schema values 0 (values.map decodedText)

def columns (r : Row) : List Column := r.schema.columns

def buildCompatValues (schema : RowSchema) (values : List ColumnValues)
    (decodedStrings : List (Option String)) : List ColumnData :=
  (values.zip decodedStrings).mapIdx fun index (value, decoded) =>
    columnDataRef value decoded ((schema.columns[index]?).elim .null Column.columnType)

def compatValues (r : Row) : List ColumnData :=
  buildCompatValues r.schema r.values r.decodedStrings

def columnIndex (r : Row) (name : String) : Option Nat := r.schema.nameMap.lookup name

/-- `ColumnIndex::resolve`. -/
def resolve (r : Row) : ColumnIndex → Result Nat
  | .index i =>
    if i ≥ r.values.length then .error (.columnIndexOutOfBounds i r.values.length) else .ok i
  | .name n =>
    match r.schema.nameMap.lookup n with
    | some i => .ok i
    | none => .error (.columnNotFound n)

end Row

/-- Collects the cells of one row as the driver decodes them. -/
structure BridgeRowWriter where
  schema : RowSchema
  resultIndex : Nat
  values : List ColumnValues
  decodedStrings : List (Option String)

namespace BridgeRowWriter

def withResultIndex (schema : RowSchema) (resultIndex : Nat) : BridgeRowWriter :=
  { schema, resultIndex, values := [], decodedStrings := [] }

/-- The `write_*` methods: each pushes its cell and the cell's cached text. -/
def write (w : BridgeRowWriter) (v : ColumnValues) : BridgeRowWriter :=
  { w with values := w.values ++ [v], decodedStrings := w.decodedStrings ++ [decodedText v] }

def writeAll (w : BridgeRowWriter) (vs : List ColumnValues) : BridgeRowWriter := vs.foldl write w

/-- The completed row and the writer reset for the next one. -/
def takeRow (w : BridgeRowWriter) : Row × BridgeRowWriter :=
  (Row.fromParts w.schema w.values w.resultIndex w.decodedStrings,
    { w with values := [], decodedStrings := [] })

theorem writeAll_eq (w : BridgeRowWriter) (vs : List ColumnValues) :
    w.writeAll vs =
      { w with
        values := w.values ++ vs
        decodedStrings := w.decodedStrings ++ vs.map decodedText } := by
  induction vs generalizing w with
  | nil => simp [writeAll]
  | cons v vs ih =>
    have h := ih (w.write v)
    simp only [writeAll, List.foldl_cons] at h ⊢
    rw [h]
    simp [write]

end BridgeRowWriter

/-- The row of result set `index` with the cells `vs`. -/
def rowOf (schema : RowSchema) (index : Nat) (vs : List ColumnValues) : Row :=
  Row.fromParts schema vs index (vs.map decodedText)

/-- A fresh writer yields the row of exactly the cells written to it, and is fresh again. -/
theorem takeRow_writeAll (schema : RowSchema) (index : Nat) (vs : List ColumnValues) :
    ((BridgeRowWriter.withResultIndex schema index).writeAll vs).takeRow =
      (rowOf schema index vs, BridgeRowWriter.withResultIndex schema index) := by
  rw [BridgeRowWriter.writeAll_eq]
  simp [BridgeRowWriter.takeRow, BridgeRowWriter.withResultIndex, rowOf]

end TiberiusBridge

import TiberiusBridge.Bulk.Request
import TiberiusBridge.Lib.Settings

/-!
# The bulk insert builder

Options and timeout keep what they were told last, column mappings add up.
-/
namespace TiberiusBridge

open Lib (Settings)

/-- The setters of `BulkInsert`. -/
inductive BulkInsertCall
  | batchSize (n : Nat)
  | timeout (t : Nat)
  | checkConstraints (enabled : Bool)
  | fireTriggers (enabled : Bool)
  | keepIdentity (enabled : Bool)
  | keepNulls (enabled : Bool)
  | tableLock (enabled : Bool)
  | useInternalTransaction (enabled : Bool)
  | notificationInterval (n : Nat)
  | addColumnMapping (mapping : ColumnMapping)
  | mapColumn (sourceName destName : String)
  | mapColumnByOrdinal (sourceOrd : Nat) (destName : String)

inductive BulkInsertSetting
  | batchSize
  | timeout
  | checkConstraints
  | fireTriggers
  | keepIdentity
  | keepNulls
  | tableLock
  | useInternalTransaction
  | notificationInterval
  | columnMappings
  deriving DecidableEq, Repr

namespace BulkInsert

def new (tableName : String) : BulkInsert :=
  { tableName, options := {}, timeout := none, columnMappings := [] }

def addColumnMapping (b : BulkInsert) (mapping : ColumnMapping) : BulkInsert :=
  { b with columnMappings := b.columnMappings ++ [mapping] }

def mapColumn (b : BulkInsert) (sourceName destName : String) : BulkInsert :=
  b.addColumnMapping { source := .name sourceName, destination := destName }

def mapColumnByOrdinal (b : BulkInsert) (sourceOrd : Nat) (destName : String) : BulkInsert :=
  b.addColumnMapping { source := .ordinal sourceOrd, destination := destName }

end BulkInsert

/-- `Client::bulk_insert_with_columns`. -/
def bulkInsertWithColumns (table : String) (columns : List String) : BulkInsert :=
  columns.zipIdx.foldl (fun b column => b.mapColumnByOrdinal column.2 column.1) (.new table)

namespace BulkInsertCall

def apply : BulkInsertCall → BulkInsert → BulkInsert
  | .batchSize n, b => { b with options := { b.options with batchSize := n } }
  | .timeout t, b => { b with timeout := some t }
  | .checkConstraints enabled, b =>
    { b with options := { b.options with checkConstraints := enabled } }
  | .fireTriggers enabled, b => { b with options := { b.options with fireTriggers := enabled } }
  | .keepIdentity enabled, b => { b with options := { b.options with keepIdentity := enabled } }
  | .keepNulls enabled, b => { b with options := { b.options with keepNulls := enabled } }
  | .tableLock enabled, b => { b with options := { b.options with tableLock := enabled } }
  | .useInternalTransaction enabled, b =>
    { b with options := { b.options with useInternalTransaction := enabled } }
  | .notificationInterval n, b => { b with options := { b.options with notificationInterval := n } }
  | .addColumnMapping mapping, b => b.addColumnMapping mapping
  | .mapColumn sourceName destName, b => b.mapColumn sourceName destName
  | .mapColumnByOrdinal sourceOrd destName, b => b.mapColumnByOrdinal sourceOrd destName

/-- The field a setter writes. -/
def setting : BulkInsertCall → BulkInsertSetting
  | .batchSize _ => .batchSize
  | .timeout _ => .timeout
  | .checkConstraints _ => .checkConstraints
  | .fireTriggers _ => .fireTriggers
  | .keepIdentity _ => .keepIdentity
  | .keepNulls _ => .keepNulls
  | .tableLock _ => .tableLock
  | .useInternalTransaction _ => .useInternalTransaction
  | .notificationInterval _ => .notificationInterval
  | .addColumnMapping _ | .mapColumn _ _ | .mapColumnByOrdinal _ _ => .columnMappings

/-- The mapping a call adds. -/
def mapping : BulkInsertCall → Option ColumnMapping
  | .addColumnMapping mapping => some mapping
  | .mapColumn sourceName destName => some { source := .name sourceName, destination := destName }
  | .mapColumnByOrdinal sourceOrd destName =>
    some { source := .ordinal sourceOrd, destination := destName }
  | _ => none

theorem apply_comm {c c' : BulkInsertCall} (b : BulkInsert) (h : c.setting ≠ c'.setting) :
    c.apply (c'.apply b) = c'.apply (c.apply b) := by
  cases c <;> cases c' <;> first | rfl | exact absurd rfl h

theorem apply_apply {c c' : BulkInsertCall} (b : BulkInsert) (h : c.setting = c'.setting)
    (hc : (c.setting == .columnMappings) = false) : c.apply (c'.apply b) = c.apply b := by
  cases c <;> cases c' <;> first
    | rfl
    | exact Bool.noConfusion (show true = false from hc)
    | cases h

theorem apply_columnMappings (c : BulkInsertCall) (b : BulkInsert) :
    (c.apply b).columnMappings = b.columnMappings ++ c.mapping.toList := by
  cases c <;> first | rfl | exact (List.append_nil _).symm

end BulkInsertCall

/-- The mappings add up, every other setting keeps the last call. -/
def bulkInsertSettings : Settings BulkInsert BulkInsertCall BulkInsertSetting where
  apply := BulkInsertCall.apply
  setting := BulkInsertCall.setting
  accumulates k := k == .columnMappings
  commutes := BulkInsertCall.apply_comm
  overwrites := BulkInsertCall.apply_apply

/-- All mappings are kept, in the order of their calls. -/
theorem bulkInsert_columnMappings (b : BulkInsert) (calls : List BulkInsertCall) :
    (bulkInsertSettings.run b calls).columnMappings =
      b.columnMappings ++ calls.filterMap BulkInsertCall.mapping := by
  induction calls generalizing b with
  | nil => exact (List.append_nil _).symm
  | cons c calls ih =>
    refine (ih (c.apply b)).trans ?_
    rw [c.apply_columnMappings, List.append_assoc]
    cases hc : c.mapping with
    | none => rw [List.filterMap_cons_none hc]; rfl
    | some m => rw [List.filterMap_cons_some hc]; rfl

/-- Naming the columns is mapping each by its position. -/
theorem bulkInsertWithColumns_eq (table : String) (columns : List String) :
    bulkInsertWithColumns table columns = bulkInsertSettings.run (.new table)
      (columns.zipIdx.map fun column => .mapColumnByOrdinal column.2 column.1) := by
  unfold bulkInsertWithColumns Settings.run
  rw [List.foldl_map]
  rfl

end TiberiusBridge

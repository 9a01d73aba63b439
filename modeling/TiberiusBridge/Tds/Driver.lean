import TiberiusBridge.Row

/-!
# The native client as the bridge sees it

Between calls the bridge reads four things of a `TdsClient`: its dead flag,
whether it stands on rows, the current metadata and the returned output values.
A call is polled; each poll is answered with `Pending` or a result, and may
change what the bridge reads next. The flag is the only state the driver keeps
for good: neither side clears it.
-/
namespace TiberiusBridge

variable [MssqlTds]

structure TdsClient where
  dead : Bool := false
  onRows : Bool := false
  metadata : List ColumnMetadata := []
  returnValues : List ColumnValues := []

/-- What a row's `write_to_packet` hands to the bulk writer. -/
structure BulkRow where
  cells : List ColumnValues
  failure : Option TdsError

inductive ColumnMappingSource
  | name (n : String)
  | ordinal (i : Nat)

structure ColumnMapping where
  source : ColumnMappingSource
  destination : String

structure BulkCopyOptions where
  batchSize : Nat := 0
  checkConstraints : Bool := false
  fireTriggers : Bool := false
  keepIdentity : Bool := false
  keepNulls : Bool := false
  tableLock : Bool := false
  useInternalTransaction : Bool := false
  notificationInterval : Nat := 0

structure BulkCopy where
  tableName : String
  options : BulkCopyOptions
  timeout : Option Nat
  columnMappings : List ColumnMapping
  rows : List BulkRow

/-- Asynchronous driver calls. -/
inductive Call
  | closeQuery
  | execute (sql : String)
  | executeSpExecutesql (sql : String) (params : List RpcParameter)
  | executeStoredProcedure (name : String) (positional named : Option (List RpcParameter))
  | advanceToRows
  | advance
  | nextRow
  | nextRowInto
  | writeToServerZerocopy (copy : BulkCopy)

inductive StatementResult
  | rows
  | noRows (rowsAffected : Option Nat)
  | finished
  deriving DecidableEq, Repr

/-- The `Ok` payload of a call. `row` lists the cells written to the caller's writer. -/
inductive Answer
  | unit
  | statement (r : StatementResult)
  | flag (b : Bool)
  | nextRow (more : Bool)
  | row (written : List ColumnValues) (more : Bool)
  | bulkCopy (rowsAffected : Nat)

inductive Outcome
  | pending
  | ready (r : Except TdsError Answer)

/-- One poll of the call in flight: its outcome, whether the driver set its own flag, and
what it shows afterwards. -/
structure Reply where
  outcome : Outcome
  kills : Bool := false
  onRows : Bool := false
  metadata : List ColumnMetadata := []
  returnValues : List ColumnValues := []

namespace TdsClient

def after (c : TdsClient) (r : Reply) : TdsClient where
  dead := c.dead || r.kills
  onRows := r.onRows
  metadata := r.metadata
  returnValues := r.returnValues

def markDead (c : TdsClient) : TdsClient := { c with dead := true }

@[simp] theorem after_dead (c : TdsClient) (r : Reply) :
    (c.after r).dead = (c.dead || r.kills) := rfl

@[simp] theorem markDead_dead (c : TdsClient) : c.markDead.dead = true := rfl

end TdsClient

end TiberiusBridge

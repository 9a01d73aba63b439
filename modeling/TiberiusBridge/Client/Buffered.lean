import TiberiusBridge.Prepared

/-!
# The bodies of the buffered entry points

An entry point runs one body inside one `Operation`. A body is written as its
suspension points: each names the driver call it awaits, and `resume` is the
code from the answer to that call up to the next call or the result.
-/
namespace TiberiusBridge

open Lib (Compute)

variable [MssqlTds]

structure Client where
  inner : TdsClient
  sendStringParametersAsUnicode : Bool
  preparedSession : Token

/-- What a buffered body is asked to do once the outstanding query is drained. -/
inductive Command
  | simpleQuery (sql : String)
  | query (sql : String) (params : List RpcParameter)
  | execute (sql : String) (params : List Param)
  | prepare (sql : String) (params : List Param)
  | queryPrepared (stmt : PreparedStatement) (params : Option (List RpcParameter))
  | executePrepared (stmt : PreparedStatement) (params : Option (List RpcParameter))
  | unprepare (stmt : PreparedStatement)

/-- Suspension points of `collect_results`: the advance in the loop head, the row read, and
the advance at the loop's end. -/
inductive Collect
  | head (sets : List (List Row)) (index : Nat)
  | row (sets : List (List Row)) (index : Nat) (writer : BridgeRowWriter) (rows : List Row)
  | tail (sets : List (List Row)) (index : Nat)

/-- Suspension points of `collect_execute_results`. -/
inductive CollectExecute
  | row (counts : List Nat) (count : Nat)
  | advance (counts : List Nat)

inductive Await
  /-- The `close_query` every command starts with. -/
  | drain (command : Command)
  /-- The command's own request. -/
  | sent (command : Command) (call : Call)
  | collect (s : Collect)
  | collectExecute (s : CollectExecute)
  /-- `advance_to_rows` after `sp_prepare`. -/
  | prepareAdvance (sql : String) (session : Token)
  /-- The `close_query` after `sp_unprepare`. -/
  | unprepareDrain
  /-- `write_to_server_zerocopy`. -/
  | bulk (copy : BulkCopy)

inductive Value
  | results (sets : List (List Row))
  | counts (counts : List Nat)
  | statement (stmt : PreparedStatement)
  | unit
  | bulkCopy (rowsAffected : Nat)

inductive Resumed
  | await (a : Await)
  | done (r : Result Value)

namespace Await

/-- The driver call a suspension point awaits. -/
def call : Await → Call
  | drain _ => .closeQuery
  | sent _ call => call
  | collect (.head _ _) => .advanceToRows
  | collect (.row _ _ _ _) => .nextRowInto
  | collect (.tail _ _) => .advanceToRows
  | collectExecute (.row _ _) => .nextRow
  | collectExecute (.advance _) => .advance
  | prepareAdvance _ _ => .advanceToRows
  | unprepareDrain => .closeQuery
  | bulk copy => .writeToServerZerocopy copy

end Await

/-- Send the request of a drained command. `none` when a parameter conversion panics. -/
def Command.send (client : Client) : Command → Option Resumed
  | .simpleQuery sql => some (.await (.sent (.simpleQuery sql) (.execute sql)))
  | .query sql params =>
    some (.await (.sent (.query sql params) (.executeSpExecutesql sql params)))
  | .execute sql params =>
    if params.isEmpty then some (.await (.sent (.execute sql params) (.execute sql)))
    else
      match buildParamsWithStringEncoding params client.sendStringParametersAsUnicode with
      | .error _ => none
      | .ok rpc => some (.await (.sent (.execute sql params) (.executeSpExecutesql sql rpc)))
  | .prepare sql params =>
    match parameterDeclaration params client.sendStringParametersAsUnicode with
    | .error _ => none
    | .ok (.error e) => some (.done (.error e))
    | .ok (.ok declaration) =>
      some (.await (.sent (.prepare sql params) (PreparedStatement.prepareCall sql declaration)))
  | .queryPrepared stmt params =>
    some (.await (.sent (.queryPrepared stmt params) (stmt.executeCall params)))
  | .executePrepared stmt params =>
    some (.await (.sent (.executePrepared stmt params) (stmt.executeCall params)))
  | .unprepare stmt => some (.await (.sent (.unprepare stmt) stmt.unprepareCall))

/-- Begin reading the result set the driver stands on. -/
def collectSet (inner : TdsClient) (sets : List (List Row)) (index : Nat) : Resumed :=
  let schema := RowSchema.fromMetadata inner.metadata
  .await (.collect (.row sets index (.withResultIndex schema index) []))

/-- The loop head of `collect_results`: `on_rows() || advance_to_rows()`. -/
def collectHead (inner : TdsClient) (sets : List (List Row)) (index : Nat) : Resumed :=
  if inner.onRows then collectSet inner sets index else .await (.collect (.head sets index))

/-- One round of `collect_execute_results` on a statement result. -/
def collectExecuteStep (counts : List Nat) : StatementResult → Resumed
  | .rows => .await (.collectExecute (.row counts 0))
  | .noRows rowsAffected => .await (.collectExecute (.advance (counts ++ rowsAffected.toList)))
  | .finished => .done (.ok (.counts counts))

/-- What follows a command's own request. -/
def Command.sentResult (client : Client) : Command → StatementResult → Resumed
  | .simpleQuery _, _ | .query _ _, _ | .queryPrepared _ _, _ => collectHead client.inner [] 0
  | .execute _ _, r | .executePrepared _ _, r => collectExecuteStep [] r
  | .prepare sql _, _ => .await (.prepareAdvance sql client.preparedSession)
  | .unprepare _, _ => .await .unprepareDrain

namespace Await

/-- The code between an answer and the next call. Every driver error leaves the body at once,
wrapped in `Error::Tds`. `none` for an answer that is not one to the awaited call, and for a
panicking conversion. -/
def resume (client : Client) : Await → Except TdsError Answer → Option Resumed
  | _, .error e => some (.done (.error (.tds e)))
  | drain command, .ok .unit => command.send client
  | sent command _, .ok (.statement r) => some (command.sentResult client r)
  | collect (.head sets index), .ok (.flag more) =>
    some (if more then collectSet client.inner sets index else .done (.ok (.results sets)))
  | collect (.row sets index writer rows), .ok (.row written more) =>
    let writer := writer.writeAll written
    if more then
      let (row, writer) := writer.takeRow
      some (.await (.collect (.row sets index writer (rows ++ [row]))))
    else some (.await (.collect (.tail (sets ++ [rows]) (index + 1))))
  | collect (.tail sets index), .ok (.flag more) =>
    some (if more then collectHead client.inner sets index else .done (.ok (.results sets)))
  | collectExecute (.row counts count), .ok (.nextRow more) =>
    some (if more then .await (.collectExecute (.row counts (count + 1)))
      else .await (.collectExecute (.advance (counts ++ [count]))))
  | collectExecute (.advance counts), .ok (.statement r) => some (collectExecuteStep counts r)
  | prepareAdvance sql session, .ok (.flag more) =>
    some (if more then .await (.prepareAdvance sql session)
      else .done ((PreparedStatement.fromReturnValues client.inner.returnValues sql session).map
        .statement))
  | unprepareDrain, .ok .unit => some (.done (.ok .unit))
  | bulk _, .ok (.bulkCopy n) => some (.done (.ok (.bulkCopy n)))
  | _, _ => none

end Await

end TiberiusBridge

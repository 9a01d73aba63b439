import TiberiusBridge.Client.Buffered
import TiberiusBridge.Compat.QueryStream

/-!
# The streaming query generator

The generator of `query_compat` alternates driver calls, each under an
`Operation` of its own (the drain and the request share one), with unguarded
yields. A yielded error is its last item.
-/
namespace TiberiusBridge

variable [MssqlTds]

inductive StreamAwait
  | drain (sql : String) (params : Option (List RpcParameter))
  | sent (call : Call)
  /-- `advance_stream` in the loop head. -/
  | head (index : Nat)
  | row (index : Nat) (writer : BridgeRowWriter)
  /-- `advance_stream` at the loop's end. -/
  | tail (index : Nat)

inductive StreamYield
  | metadata (index : Nat) (schema : RowSchema)
  | row (index : Nat) (writer : BridgeRowWriter)
  | error

inductive StreamState
  | unpolled (sql : String) (params : Option (List RpcParameter))
  | suspended (guard : Operation) (a : StreamAwait)
  | yielded (y : StreamYield)
  | finished

/-- What the generator does next when it gets control. -/
inductive StreamResumed
  | await (guard : Operation) (a : StreamAwait)
  | item (i : QueryItem) (y : StreamYield)
  | error (e : Error)
  | finished

namespace StreamAwait

def call : StreamAwait → Call
  | drain _ _ => .closeQuery
  | sent call => call
  | head _ => .advanceToRows
  | row _ _ => .nextRowInto
  | tail _ => .advanceToRows

end StreamAwait

/-- Await a call under a new guard. -/
def StreamResumed.guarded (inner : TdsClient) (a : StreamAwait) : StreamResumed :=
  match Operation.new inner with
  | .ok guard => .await guard a
  | .error e => .error e

/-- Announce the result set the driver stands on. -/
def streamSet (inner : TdsClient) (index : Nat) : StreamResumed :=
  let schema := RowSchema.fromMetadata inner.metadata
  .item (.metadata { schema, resultIndex := index }) (.metadata index schema)

/-- The loop head: `on_rows() || advance_stream()`. -/
def streamHead (inner : TdsClient) (index : Nat) : StreamResumed :=
  if inner.onRows then streamSet inner index else .guarded inner (.head index)

/-- The generator from its first poll. -/
def streamStart (inner : TdsClient) (sql : String) (params : Option (List RpcParameter)) :
    StreamResumed :=
  .guarded inner (.drain sql params)

/-- The generator from a yield. -/
def StreamYield.resume (inner : TdsClient) : StreamYield → StreamResumed
  | .metadata index schema => .guarded inner (.row index (.withResultIndex schema index))
  | .row index writer => .guarded inner (.row index writer)
  | .error => .finished

namespace StreamAwait

/-- The generator from an answer. Every arm but the first completes the guard; `none` for an
answer that is not one to the awaited call. -/
def resume (inner : TdsClient) (guard : Operation) :
    StreamAwait → Except TdsError Answer → Option StreamResumed
  | drain sql params, .ok .unit =>
    some (.await guard (.sent (params.elim (.execute sql) (.executeSpExecutesql sql))))
  | _, .error e => some (.error (.tds e))
  | sent _, .ok (.statement _) => some (streamHead inner 0)
  | head index, .ok (.flag more) => some (if more then streamSet inner index else .finished)
  | row index writer, .ok (.row written more) =>
    let writer := writer.writeAll written
    if more then
      let (taken, writer) := writer.takeRow
      some (.item (.row taken) (.row index writer))
    else some (.guarded inner (.tail (index + 1)))
  | tail index, .ok (.flag more) => some (if more then streamHead inner index else .finished)
  | _, _ => none

end StreamAwait

end TiberiusBridge

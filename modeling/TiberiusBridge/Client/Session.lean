import TiberiusBridge.Client.Streaming

/-!
# One client under every entry point

A `Session` is a client and the future or stream it has lent itself to, if any.
Events are what the user does (call, poll, look ahead, convert, drop) and the
driver's answers. A call is in flight from the poll that issues it; answered
`Pending`, it is parked, and control is back with the user. A step is `none`
where the event cannot happen there, or where a parameter conversion panics.
-/
namespace TiberiusBridge

open Lib (Compute)

variable [MssqlTds]

inductive RecyclingMethod
  | reset
  | ping
  deriving DecidableEq, Repr

inductive Entry
  | simpleQuery (sql : String)
  | query (sql : String) (params : List Param)
  | execute (sql : String) (params : List Param)
  | queryCompat (sql : String) (params : List Param)
  | queryStreamed (sql : String) (params : List Param)
  | prepare (sql : String) (params : List Param)
  | queryPrepared (stmt : PreparedStatement) (params : List Param)
  | executePrepared (stmt : PreparedStatement) (params : List Param)
  | unprepare (stmt : PreparedStatement)
  | ping
  | resetSession
  | bulkSend (copy : BulkCopy)
  | recycle (method : RecyclingMethod)

/-- Suspension points of `reset_session`. -/
inductive ResetAwait
  | drain
  | batch
  | drainAgain
  deriving DecidableEq, Repr

def ResetAwait.call : ResetAwait → Call
  | drain | drainAgain => .closeQuery
  | batch => .execute "SET TRANSACTION ISOLATION LEVEL READ COMMITTED"

/-- The row-only wrapper; after yielding an error it has only to end. -/
inductive RowsState
  | active
  | failed
  | finished
  deriving DecidableEq, Repr

/-- What a `QueryStream` is wrapped in. -/
inductive StreamMode
  | compat
  /-- `query_streamed` and `into_row_stream`. -/
  | rows (state : RowsState)
  /-- `into_results`, with the sets collected so far. -/
  | results (sets : List (List Row))

inductive Consumer
  | next
  | columns
  deriving DecidableEq, Repr

structure StreamTask where
  mode : StreamMode
  queue : QueryStream
  gen : StreamState

inductive Task
  | idle
  | unpolled (e : Entry)
  | operation (guard : Operation) (a : Await) (parked : Bool)
  | reset (pooled : Bool) (guard : SessionReset) (a : ResetAwait) (parked : Bool)
  /-- `polling` is the poll that waits for the driver, if one does. -/
  | stream (s : StreamTask) (polling : Option Consumer)

structure Session where
  client : Client
  task : Task

inductive Event
  | start (e : Entry)
  /-- Poll the future or stream; `alloc` is the address an `Arc::new` in this poll gets. -/
  | poll (alloc : Token)
  | columns
  | intoRowStream
  | intoResults
  | reply (r : Reply)
  | drop

/-- What a step shows: driver calls issued, and what the user gets back. -/
inductive Obs
  | issued (c : Call)
  /-- `prepare_reset_connection(preserve_transaction)`. -/
  | armReset (preserveTransaction : Bool)
  | returned (r : Result Value)
  /-- The result of `TdsManager::recycle`, its error wrapped in `RecycleError::Backend`. -/
  | recycled (r : Result Unit)
  | item (i : Option (Result QueryItem))
  | row (r : Option (Result Row))
  | columns (r : Result (Option (List Column)))

abbrev Stepped := Session × List Obs

namespace Client

def withInner (client : Client) (inner : TdsClient) : Client := { client with inner }

@[simp] theorem withInner_inner (client : Client) (inner : TdsClient) :
    (client.withInner inner).inner = inner := rfl

@[simp] theorem withInner_self (client : Client) : client.withInner client.inner = client := rfl

/-- Enter an operation and issue its first call. -/
def beginOperation (client : Client) (a : Await) : Stepped :=
  match Operation.new client.inner with
  | .error e => (⟨client, .idle⟩, [.returned (.error e)])
  | .ok guard => (⟨client, .operation guard a false⟩, [.issued a.call])

/-- How `reset_session` reports, called directly or by `recycle`. -/
def resetResult (pooled : Bool) (r : Result Unit) : Obs :=
  if pooled then .recycled r else .returned (r.map fun _ => .unit)

def beginReset (client : Client) (alloc : Token) (pooled : Bool) : Stepped :=
  match ensureUsable client.inner with
  | .error e => (⟨client, .idle⟩, [resetResult pooled (.error e)])
  | .ok () =>
    (⟨{ client with preparedSession := alloc }, .reset pooled { complete := false } .drain false⟩,
      [.issued ResetAwait.drain.call])

/-- The checks before a prepared statement is used. -/
def checkPrepared (client : Client) (stmt : PreparedStatement) : Result Unit := do
  ensureUsable client.inner
  stmt.validateSession client.preparedSession

/-- Run a statement: check it, bind the parameters, enter the operation. -/
def beginPrepared (client : Client) (stmt : PreparedStatement) (params : List Param)
    (command : Option (List RpcParameter) → Command) : Option Stepped :=
  match client.checkPrepared stmt with
  | .error e => some (⟨client, .idle⟩, [.returned (.error e)])
  | .ok () =>
    match rpcParams params client.sendStringParametersAsUnicode with
    | .error _ => none
    | .ok rpc => some (client.beginOperation (.drain (command rpc)))

def beginRecycle (client : Client) (alloc : Token) (method : RecyclingMethod) : Stepped :=
  match ensureUsable client.inner with
  | .error e => (⟨client, .idle⟩, [.recycled (.error e)])
  | .ok () =>
    match method with
    | .reset => client.beginReset alloc true
    | .ping => (⟨client, .idle⟩, [.recycled (ensureUsable client.inner)])

/-- The first poll of an entry point's future. -/
def firstPoll (client : Client) (alloc : Token) : Entry → Option Stepped
  | .simpleQuery sql => some (client.beginOperation (.drain (.simpleQuery sql)))
  | .query sql params =>
    if params.isEmpty then some (client.beginOperation (.drain (.simpleQuery sql)))
    else
      match buildParamsWithStringEncoding params client.sendStringParametersAsUnicode with
      | .error _ => none
      | .ok rpc => some (client.beginOperation (.drain (.query sql rpc)))
  | .execute sql params => some (client.beginOperation (.drain (.execute sql params)))
  | .prepare sql params => some (client.beginOperation (.drain (.prepare sql params)))
  | .queryPrepared stmt params => client.beginPrepared stmt params (.queryPrepared stmt)
  | .executePrepared stmt params => client.beginPrepared stmt params (.executePrepared stmt)
  | .unprepare stmt => client.beginPrepared stmt [] fun _ => .unprepare stmt
  | .ping => some (⟨client, .idle⟩, [.returned ((ensureUsable client.inner).map fun _ => .unit)])
  | .resetSession => some (client.beginReset alloc false)
  | .bulkSend copy => some (client.beginOperation (.bulk copy))
  | .recycle method => some (client.beginRecycle alloc method)
  | .queryCompat _ _ | .queryStreamed _ _ => none

/-- Calling an entry point: a stream binds its parameters at once, a future on its first poll. -/
def start (client : Client) : Entry → Option Session
  | .queryCompat sql params => openStream sql params .compat
  | .queryStreamed sql params => openStream sql params (.rows .active)
  | e => some ⟨client, .unpolled e⟩
where
  openStream (sql : String) (params : List Param) (mode : StreamMode) : Option Session :=
    match rpcParams params client.sendStringParametersAsUnicode with
    | .error _ => none
    | .ok rpc => some ⟨client, .stream { mode, queue := {}, gen := .unpolled sql rpc } none⟩

/-- An answer to the call of an operation. -/
def resumeOperation (client : Client) (guard : Operation) (a : Await)
    (r : Except TdsError Answer) : Option Stepped :=
  match a.resume client r with
  | none => none
  | some (.await next) => some (⟨client, .operation guard next false⟩, [.issued next.call])
  | some (.done out) =>
    some (⟨client.withInner (guard.complete client.inner), .idle⟩, [.returned out])

/-- An answer to the call of a reset. -/
def resumeReset (client : Client) (pooled : Bool) (guard : SessionReset) :
    ResetAwait → Except TdsError Answer → Option Stepped
  | _, .error e =>
    some (⟨client.withInner (guard.drop client.inner), .idle⟩,
      [resetResult pooled (.error (.tds e))])
  | .drain, .ok .unit =>
    some (⟨client, .reset pooled guard .batch false⟩,
      [.armReset false, .issued ResetAwait.batch.call])
  | .batch, .ok (.statement _) =>
    some (⟨client, .reset pooled guard .drainAgain false⟩, [.issued ResetAwait.drainAgain.call])
  | .drainAgain, .ok .unit =>
    let guard : SessionReset := { complete := true }
    some (⟨client.withInner (guard.drop client.inner), .idle⟩, [resetResult pooled (.ok ())])
  | _, _ => none

end Client

namespace StreamState

/-- What a poll of the generator makes it do. -/
def poll (inner : TdsClient) : StreamState → StreamResumed
  | unpolled sql params => streamStart inner sql params
  | suspended guard a => .await guard a
  | yielded y => y.resume inner
  | finished => .finished

/-- Dropping the generator drops the guard it is suspended under. -/
def drop (inner : TdsClient) : StreamState → TdsClient
  | suspended guard _ => guard.drop inner
  | _ => inner

end StreamState

/-- The guard is completed unless the request is still to be answered under it. -/
def StreamResumed.release (guard : Operation) (inner : TdsClient) : StreamResumed → TdsClient
  | .await _ (.sent _) => inner
  | _ => guard.complete inner

namespace StreamTask

/-- The generator's error or end, handed to whoever polls. -/
def deliverLast (s : StreamTask) (client : Client) (consumer : Consumer) (e : Option Error) :
    Stepped :=
  match consumer, s.mode with
  | .columns, _ =>
    let (queue, r) := s.queue.lookAhead (e.map .error)
    (⟨client, .stream { s with queue } none⟩, [.columns r])
  | .next, .compat =>
    (⟨client, .stream { s with queue := s.queue.observe (e.map .error) } none⟩,
      [.item (e.map .error)])
  | .next, .rows _ =>
    let mode := .rows (if e.isSome then .failed else .finished)
    (⟨client, .stream { s with mode, queue := s.queue.observe (e.map .error) } none⟩,
      [.row (e.map .error)])
  | .next, .results sets =>
    (⟨client.withInner (s.gen.drop client.inner), .idle⟩,
      [.returned (e.elim (.ok (.results sets)) .error)])

/-- Poll the generator on, within a wrapper's loop. A yield is never followed by another item
without a driver call between them. -/
def proceed (s : StreamTask) (client : Client) (consumer : Consumer) : Option Stepped :=
  match s.gen.poll client.inner with
  | .await guard a =>
    some (⟨client, .stream { s with gen := .suspended guard a } (some consumer)⟩,
      [.issued a.call])
  | .error e => some ({ s with gen := .yielded .error }.deliverLast client consumer (some e))
  | .finished => some ({ s with gen := .finished }.deliverLast client consumer none)
  | .item _ _ => none

/-- An item of the generator, handed to whoever polls. -/
def deliverItem (s : StreamTask) (client : Client) (consumer : Consumer) (i : QueryItem) :
    Option Stepped :=
  match consumer, s.mode with
  | .columns, _ =>
    let (queue, r) := s.queue.lookAhead (some (.ok i))
    some (⟨client, .stream { s with queue } none⟩, [.columns r])
  | .next, .compat =>
    some (⟨client, .stream { s with queue := s.queue.observe (some (.ok i)) } none⟩,
      [.item (some (.ok i))])
  | .next, .rows _ =>
    let s := { s with queue := s.queue.observe (some (.ok i)) }
    match i with
    | .row r => some (⟨client, .stream s none⟩, [.row (some (.ok r))])
    | .metadata _ => s.proceed client consumer
  | .next, .results sets =>
    { s with
      mode := .results (collectItem sets i)
      queue := s.queue.observe (some (.ok i)) }.proceed client consumer

def settle (s : StreamTask) (client : Client) (consumer : Consumer) :
    StreamResumed → Option Stepped
  | .await guard a =>
    some (⟨client, .stream { s with gen := .suspended guard a } (some consumer)⟩,
      [.issued a.call])
  | .item i y => { s with gen := .yielded y }.deliverItem client consumer i
  | .error e => some ({ s with gen := .yielded .error }.deliverLast client consumer (some e))
  | .finished => some ({ s with gen := .finished }.deliverLast client consumer none)

/-- Poll the inner stream for `consumer`. A call in flight is only polled again. -/
def pollInner (s : StreamTask) (client : Client) (consumer : Consumer) : Option Stepped :=
  match s.gen with
  | .suspended _ _ => some (⟨client, .stream s (some consumer)⟩, [])
  | gen => s.settle client consumer (gen.poll client.inner)

/-- `poll_next` of the stream, or a poll of `into_results`. -/
def pollNext (s : StreamTask) (client : Client) : Option Stepped :=
  match s.mode with
  | .rows .failed | .rows .finished =>
    some (⟨client, .stream { s with mode := .rows .finished } none⟩, [.row none])
  | _ =>
    match s.queue.takePeeked with
    | (some (.ok i), queue) => { s with queue }.deliverItem client .next i
    | (some (.error e), queue) => some ({ s with queue }.deliverLast client .next (some e))
    | (none, queue) => { s with queue }.pollInner client .next

/-- One poll of `QueryStream::columns`. -/
def pollColumns (s : StreamTask) (client : Client) : Option Stepped :=
  match s.mode, s.queue.peeked with
  | .compat, some _ => some (⟨client, .stream s none⟩, [.columns (.ok s.queue.columnList)])
  | .compat, none => s.pollInner client .columns
  | _, _ => none

/-- An answer to the generator's call. -/
def resume (s : StreamTask) (client : Client) (consumer : Consumer) (guard : Operation)
    (a : StreamAwait) (r : Except TdsError Answer) : Option Stepped :=
  match a.resume client.inner guard r with
  | none => none
  | some resumed =>
    s.settle (client.withInner (resumed.release guard client.inner)) consumer resumed

end StreamTask

namespace Session

/-- The driver answers a poll of the call in flight. -/
def reply (client : Client) (r : Reply) : Task → Option Stepped
  | .operation guard a false =>
    match r.outcome with
    | .pending => some (⟨client, .operation guard a true⟩, [])
    | .ready out => client.resumeOperation guard a out
  | .reset pooled guard a false =>
    match r.outcome with
    | .pending => some (⟨client, .reset pooled guard a true⟩, [])
    | .ready out => client.resumeReset pooled guard a out
  | .stream s (some consumer) =>
    match s.gen, r.outcome with
    | .suspended _ _, .pending => some (⟨client, .stream s none⟩, [])
    | .suspended guard a, .ready out => s.resume client consumer guard a out
    | _, _ => none
  | _ => none

/-- Drop the future or stream. -/
def dropTask (client : Client) : Task → Option Session
  | .unpolled _ => some ⟨client, .idle⟩
  | .operation guard _ true => some ⟨client.withInner (guard.drop client.inner), .idle⟩
  | .reset _ guard _ true => some ⟨client.withInner (guard.drop client.inner), .idle⟩
  | .stream s none => some ⟨client.withInner (s.gen.drop client.inner), .idle⟩
  | _ => none

def step (s : Session) : Event → Option Stepped
  | .start e =>
    match s.task with
    | .idle => (s.client.start e).map (·, [])
    | _ => none
  | .poll alloc =>
    match s.task with
    | .unpolled e => s.client.firstPoll alloc e
    | .operation guard a true => some (⟨s.client, .operation guard a false⟩, [])
    | .reset pooled guard a true => some (⟨s.client, .reset pooled guard a false⟩, [])
    | .stream t none => t.pollNext s.client
    | _ => none
  | .columns =>
    match s.task with
    | .stream t none => t.pollColumns s.client
    | _ => none
  | .intoRowStream =>
    match s.task with
    | .stream ⟨.compat, queue, gen⟩ none =>
      some (⟨s.client, .stream ⟨.rows .active, queue, gen⟩ none⟩, [])
    | _ => none
  | .intoResults =>
    match s.task with
    | .stream ⟨.compat, queue, gen⟩ none =>
      some (⟨s.client, .stream ⟨.results [], queue, gen⟩ none⟩, [])
    | _ => none
  | .reply r => reply (s.client.withInner (s.client.inner.after r)) r s.task
  | .drop => (dropTask s.client s.task).map (·, [])

end Session

end TiberiusBridge

import TiberiusBridge.Client.Handles
import TiberiusBridge.Client.Playback

/-!
# The counts of an execute

What the server answers to an execute is a sequence of statements, each with
its rows or with the count it reports, and then the end or an error. The driver
is a cursor over it, as for a query.
-/
namespace TiberiusBridge

open Lib (Run Trace)

section

variable [MssqlTds]

inductive Statement
  | rows (n : Nat)
  /-- A statement without rows, and the count it reports if it reports one. -/
  | noRows (rowsAffected : Option Nat)

inductive Ending
  | done
  | fail (e : TdsError)
  /-- The error comes among the rows of one more statement. -/
  | brokenRows (n : Nat) (e : TdsError)

structure ExecuteResponse where
  statements : List Statement
  ending : Ending

/-- `drain` is the error of the outstanding query's drain. -/
structure ExecuteScript where
  drain : Option TdsError := none
  response : ExecuteResponse

inductive ExecuteCursor
  | start (s : ExecuteScript)
  /-- Before the request. -/
  | drained (r : ExecuteResponse)
  | between (r : ExecuteResponse)
  | onRows (n : Nat) (rest : ExecuteResponse)
  | onBrokenRows (n : Nat) (e : TdsError)
  | ended
  | failed

/-- What the driver makes of the next statement, and where it stands then. -/
def ExecuteResponse.next : ExecuteResponse → Except TdsError (StatementResult × ExecuteCursor)
  | ⟨.rows n :: rest, ending⟩ => .ok (.rows, .onRows n ⟨rest, ending⟩)
  | ⟨.noRows rowsAffected :: rest, ending⟩ => .ok (.noRows rowsAffected, .between ⟨rest, ending⟩)
  | ⟨[], .done⟩ => .ok (.finished, .ended)
  | ⟨[], .fail e⟩ => .error e
  | ⟨[], .brokenRows n e⟩ => .ok (.rows, .onBrokenRows n e)

/-- The answers to one poll of a call. -/
inductive ExecuteCursor.Answers : ExecuteCursor → Call → Reply → ExecuteCursor → Prop
  | pending {cur : ExecuteCursor} {call : Call} {r : Reply} (ho : r.outcome = .pending) :
      Answers cur call r cur
  | drain {s : ExecuteScript} {r : Reply} (hd : s.drain = none)
      (ho : r.outcome = .ready (.ok .unit)) : Answers (.start s) .closeQuery r (.drained s.response)
  | drainError {s : ExecuteScript} {e : TdsError} {r : Reply} (hd : s.drain = some e)
      (ho : r.outcome = .ready (.error e)) : Answers (.start s) .closeQuery r .failed
  | request {resp : ExecuteResponse} {call : Call} {r : Reply} {result : StatementResult}
      {cur : ExecuteCursor} (hc : call.isRequest = true) (hn : resp.next = .ok (result, cur))
      (ho : r.outcome = .ready (.ok (.statement result))) : Answers (.drained resp) call r cur
  | requestError {resp : ExecuteResponse} {call : Call} {e : TdsError} {r : Reply}
      (hc : call.isRequest = true) (hn : resp.next = .error e)
      (ho : r.outcome = .ready (.error e)) : Answers (.drained resp) call r .failed
  | advance {resp : ExecuteResponse} {r : Reply} {result : StatementResult} {cur : ExecuteCursor}
      (hn : resp.next = .ok (result, cur)) (ho : r.outcome = .ready (.ok (.statement result))) :
      Answers (.between resp) .advance r cur
  | advanceError {resp : ExecuteResponse} {e : TdsError} {r : Reply} (hn : resp.next = .error e)
      (ho : r.outcome = .ready (.error e)) : Answers (.between resp) .advance r .failed
  | row {n : Nat} {rest : ExecuteResponse} {r : Reply}
      (ho : r.outcome = .ready (.ok (.nextRow true))) :
      Answers (.onRows (n + 1) rest) .nextRow r (.onRows n rest)
  | rowEnd {rest : ExecuteResponse} {r : Reply} (ho : r.outcome = .ready (.ok (.nextRow false))) :
      Answers (.onRows 0 rest) .nextRow r (.between rest)
  | brokenRow {n : Nat} {e : TdsError} {r : Reply}
      (ho : r.outcome = .ready (.ok (.nextRow true))) :
      Answers (.onBrokenRows (n + 1) e) .nextRow r (.onBrokenRows n e)
  | rowError {e : TdsError} {r : Reply} (ho : r.outcome = .ready (.error e)) :
      Answers (.onBrokenRows 0 e) .nextRow r .failed

abbrev ExecutePlayback := Session × ExecuteCursor

/-- The user polls and drops, and the driver answers the call in flight. -/
inductive PlaysExecute : ExecutePlayback → Event → List Obs → ExecutePlayback → Prop
  | user {s s' : Session} {cur : ExecuteCursor} {ev : Event} {os : List Obs}
      (hn : ev.starts = false) (hr : ev.replies = false) (h : s.step ev = some (s', os)) :
      PlaysExecute (s, cur) ev os (s', cur)
  | driver {s s' : Session} {cur cur' : ExecuteCursor} {call : Call} {r : Reply} {os : List Obs}
      (hc : s.task.inFlight = some call) (ha : cur.Answers call r cur')
      (h : s.step (.reply r) = some (s', os)) : PlaysExecute (s, cur) (.reply r) os (s', cur')

/-- A statement counts its rows, or what it reports, zero included. -/
def Statement.count : Statement → Option Nat
  | rows n => some n
  | noRows rowsAffected => rowsAffected

def Ending.error : Ending → Option TdsError
  | done => none
  | fail e | brokenRows _ e => some e

def ExecuteResponse.counts (r : ExecuteResponse) : Result (List Nat) :=
  match r.ending.error with
  | none => .ok (r.statements.filterMap Statement.count)
  | some e => .error (.tds e)

def ExecuteScript.counts (s : ExecuteScript) : Result (List Nat) :=
  match s.drain with
  | none => s.response.counts
  | some e => .error (.tds e)

namespace ExecuteResponse

variable {r : ExecuteResponse} {result : StatementResult} {cur : ExecuteCursor}

theorem counts_cons (s : Statement) (rest : List Statement) (ending : Ending) :
    counts ⟨s :: rest, ending⟩ = (counts ⟨rest, ending⟩).map (s.count.toList ++ ·) := by
  unfold counts
  cases ending.error with
  | none =>
    simp only [Except.map, Except.ok.injEq]
    cases hc : s.count with
    | none => exact List.filterMap_cons_none hc
    | some n => exact List.filterMap_cons_some hc
  | some e => rfl

theorem counts_of_error {e : TdsError} (h : r.next = .error e) : r.counts = .error (.tds e) := by
  obtain ⟨statements, ending⟩ := r
  cases statements with
  | nil => cases ending <;> cases h; rfl
  | cons s rest => cases s <;> cases h

end ExecuteResponse

/-- Commands whose statements are counted. -/
def Command.counts : Command → Bool
  | .execute _ _ | .executePrepared _ _ => true
  | _ => false

/-- With the driver at the cursor, a body suspended here returns `out`. -/
def Await.Counts : Await → ExecuteCursor → Result (List Nat) → Prop
  | .drain command, .start s, out => command.counts = true ∧ out = s.counts
  | .sent command call, .drained r, out =>
    command.counts = true ∧ call.isRequest = true ∧ out = r.counts
  | .collectExecute (.row counts count), .onRows n rest, out =>
    out = rest.counts.map (counts ++ (count + n) :: ·)
  | .collectExecute (.row _ _), .onBrokenRows _ e, out => out = .error (.tds e)
  | .collectExecute (.advance counts), .between r, out => out = r.counts.map (counts ++ ·)
  | _, _, _ => False

/-- Counts are returned with the script read through its end. -/
def Resumed.Counts (x : Resumed) (cur : ExecuteCursor) (out : Result (List Nat)) : Prop :=
  match x with
  | .await next => next.Counts cur out
  | .done v => v = out.map .counts ∧ (out.isOk = true → cur = .ended)

variable {client : Client} {cur cur' : ExecuteCursor} {call : Call} {r : Reply}
  {out : Result (List Nat)}

/-- One round of `collect_execute_results`, on what the driver made of the next statement. -/
theorem collectExecuteStep_counts {resp : ExecuteResponse} {result : StatementResult}
    (counts : List Nat) (h : resp.next = .ok (result, cur)) :
    (collectExecuteStep counts result).Counts cur (resp.counts.map (counts ++ ·)) := by
  obtain ⟨statements, ending⟩ := resp
  cases statements with
  | cons s rest =>
    rw [ExecuteResponse.counts_cons, map_map]
    cases s with
    | rows n => cases h; simp [collectExecuteStep, Resumed.Counts, Await.Counts, Statement.count]
    | noRows rowsAffected =>
      cases h
      simp [collectExecuteStep, Resumed.Counts, Await.Counts, Statement.count]
  | nil =>
    cases ending with
    | done =>
      cases h
      exact ⟨by simp [ExecuteResponse.counts, Ending.error, Except.map], fun _ => rfl⟩
    | fail e => cases h
    | brokenRows n e => cases h; rfl

/-- Sending a counted command whose parameters convert awaits its request. -/
theorem Command.send_counts {command : Command} {resp : ExecuteResponse} {x : Resumed}
    (hc : command.counts = true) (h : command.send client = some x) :
    x.Counts (.drained resp) resp.counts := by
  cases command with
  | executePrepared => cases h; exact ⟨rfl, rfl, rfl⟩
  | execute sql params =>
    simp only [Command.send] at h
    split at h
    · cases h; exact ⟨rfl, rfl, rfl⟩
    · split at h <;> cases h
      exact ⟨rfl, rfl, rfl⟩
  | simpleQuery | query | queryPrepared | prepare | unprepare => cases hc

theorem Command.sentResult_counts {command : Command} (hc : command.counts = true)
    (r : StatementResult) : command.sentResult client r = collectExecuteStep [] r := by
  cases command with
  | execute | executePrepared => rfl
  | simpleQuery | query | queryPrepared | prepare | unprepare => cases hc

theorem Resumed.counts_error (e : TdsError) (cur : ExecuteCursor) :
    (Resumed.done (.error (.tds e))).Counts cur (.error (.tds e)) := ⟨rfl, fun h => nomatch h⟩

/-- A body keeps counting to the same result, and returns it. -/
theorem Await.resume_counts {a : Await} {o : Except TdsError Answer} {x : Resumed}
    (hd : a.Counts cur out) (ha : cur.Answers a.call r cur') (ho : r.outcome = .ready o)
    (h : a.resume client o = some x) : x.Counts cur' out := by
  unfold Await.Counts at hd
  split at hd
  · obtain ⟨hc, rfl⟩ := hd
    unfold ExecuteScript.counts
    cases ha with
    | pending hp => rw [hp] at ho; cases ho
    | drain hdr ho' =>
      cases ho.symm.trans ho'
      rw [hdr]
      exact Command.send_counts hc h
    | drainError hdr ho' =>
      cases ho.symm.trans ho'
      cases h
      rw [hdr]
      exact Resumed.counts_error _ _
  · obtain ⟨hc, -, rfl⟩ := hd
    cases ha with
    | pending hp => rw [hp] at ho; cases ho
    | request _ hn ho' =>
      cases ho.symm.trans ho'
      cases h
      rw [Command.sentResult_counts hc]
      have h := collectExecuteStep_counts [] hn
      rwa [map_append_nil] at h
    | requestError _ hn ho' =>
      cases ho.symm.trans ho'
      cases h
      rw [ExecuteResponse.counts_of_error hn]
      exact Resumed.counts_error _ _
  · subst hd
    cases ha with
    | pending hp => rw [hp] at ho; cases ho
    | row ho' =>
      cases ho.symm.trans ho'
      cases h
      simp only [Resumed.Counts, if_true, Await.Counts]
      rw [Nat.add_right_comm, Nat.add_assoc]
    | rowEnd ho' =>
      cases ho.symm.trans ho'
      cases h
      simp [Resumed.Counts, Await.Counts]
  · subst hd
    cases ha with
    | pending hp => rw [hp] at ho; cases ho
    | brokenRow ho' => cases ho.symm.trans ho'; cases h; rfl
    | rowError ho' => cases ho.symm.trans ho'; cases h; exact Resumed.counts_error _ _
  · subst hd
    cases ha with
    | pending hp => rw [hp] at ho; cases ho
    | advance hn ho' =>
      cases ho.symm.trans ho'
      cases h
      exact collectExecuteStep_counts _ hn
    | advanceError hn ho' =>
      cases ho.symm.trans ho'
      cases h
      rw [ExecuteResponse.counts_of_error hn]
      exact Resumed.counts_error _ _
  · exact hd.elim

def Statement.size : Statement → Nat
  | rows n => n + 2
  | noRows _ => 1

def Ending.size : Ending → Nat
  | done | fail _ => 1
  | brokenRows n _ => n + 2

def ExecuteResponse.size (r : ExecuteResponse) : Nat :=
  (r.statements.map Statement.size).sum + r.ending.size

namespace ExecuteCursor

/-- The answers still to come, while no error cuts them short. -/
def size : ExecuteCursor → Nat
  | start s => s.response.size + 1
  | drained r | between r => r.size
  | onRows n rest => n + 1 + rest.size
  | onBrokenRows n _ => n + 1
  | ended | failed => 0

/-- The outstanding query has been drained. -/
def IsDrained : ExecuteCursor → Prop
  | start _ => False
  | _ => True

end ExecuteCursor

omit [MssqlTds] in
theorem ExecuteResponse.size_pos (r : ExecuteResponse) : 0 < r.size := by
  obtain ⟨statements, ending⟩ := r
  refine Nat.add_pos_right _ ?_
  cases ending <;> simp [Ending.size]

omit [MssqlTds] in
theorem ExecuteResponse.next_ok {r : ExecuteResponse} {result : StatementResult}
    (h : r.next = .ok (result, cur)) : cur.size < r.size ∧ cur.IsDrained := by
  obtain ⟨statements, ending⟩ := r
  cases statements with
  | cons s rest =>
    cases s <;> cases h <;> refine ⟨?_, trivial⟩ <;>
      simp only [ExecuteCursor.size, size, Statement.size, List.map_cons, List.sum_cons] <;> omega
  | nil =>
    cases ending with
    | done => cases h; exact ⟨Nat.one_pos, trivial⟩
    | fail e => cases h
    | brokenRows n e =>
      cases h
      exact ⟨by simp [ExecuteCursor.size, size, Ending.size], trivial⟩

namespace ExecuteCursor

theorem Answers.pending_eq (h : cur.Answers call r cur') (ho : r.outcome = .pending) :
    cur' = cur := by
  cases h with
  | pending => rfl
  | _ => simp_all

/-- An answer leaves less to answer. -/
theorem Answers.ready {o : Except TdsError Answer} (h : cur.Answers call r cur')
    (ho : r.outcome = .ready o) : cur'.size < cur.size ∧ cur'.IsDrained := by
  cases h with
  | pending hp => rw [hp] at ho; cases ho
  | drain => exact ⟨Nat.lt_succ_self _, trivial⟩
  | drainError => exact ⟨Nat.succ_pos _, trivial⟩
  | request _ hn | advance hn => exact ExecuteResponse.next_ok hn
  | requestError | advanceError => exact ⟨ExecuteResponse.size_pos _, trivial⟩
  | row | rowEnd | brokenRow | rowError =>
    exact ⟨by simp only [size]; omega, trivial⟩

/-- The driver can answer the call, with an answer of which `P` holds. -/
def CanAnswer (cur : ExecuteCursor) (call : Call) (P : Except TdsError Answer → Prop) : Prop :=
  ∃ r o cur', cur.Answers call r cur' ∧ r.outcome = .ready o ∧ P o

theorem can_drain (s : ExecuteScript) :
    (start s).CanAnswer .closeQuery fun o => o = .ok .unit ∨ ∃ e, o = .error e := by
  cases hd : s.drain with
  | none => exact ⟨{ outcome := .ready (.ok .unit) }, _, _, .drain hd rfl, rfl, .inl rfl⟩
  | some e =>
    exact ⟨{ outcome := .ready (.error e) }, _, _, .drainError hd rfl, rfl, .inr ⟨e, rfl⟩⟩

theorem can_request (resp : ExecuteResponse) (hc : call.isRequest = true) :
    (drained resp).CanAnswer call fun o =>
      (∃ result, o = .ok (.statement result)) ∨ ∃ e, o = .error e := by
  cases hn : resp.next with
  | ok x =>
    exact ⟨{ outcome := .ready (.ok (.statement x.1)) }, _, _, .request hc hn rfl, rfl,
      .inl ⟨_, rfl⟩⟩
  | error e =>
    exact ⟨{ outcome := .ready (.error e) }, _, _, .requestError hc hn rfl, rfl, .inr ⟨e, rfl⟩⟩

theorem can_advance (resp : ExecuteResponse) :
    (between resp).CanAnswer .advance fun o =>
      (∃ result, o = .ok (.statement result)) ∨ ∃ e, o = .error e := by
  cases hn : resp.next with
  | ok x =>
    exact ⟨{ outcome := .ready (.ok (.statement x.1)) }, _, _, .advance hn rfl, rfl,
      .inl ⟨_, rfl⟩⟩
  | error e =>
    exact ⟨{ outcome := .ready (.error e) }, _, _, .advanceError hn rfl, rfl, .inr ⟨e, rfl⟩⟩

theorem can_read (n : Nat) (rest : ExecuteResponse) :
    (onRows n rest).CanAnswer .nextRow fun o => ∃ more, o = .ok (.nextRow more) := by
  cases n with
  | zero => exact ⟨{ outcome := .ready (.ok (.nextRow false)) }, _, _, .rowEnd rfl, rfl, _, rfl⟩
  | succ n => exact ⟨{ outcome := .ready (.ok (.nextRow true)) }, _, _, .row rfl, rfl, _, rfl⟩

theorem can_readBroken (n : Nat) (e : TdsError) :
    (onBrokenRows n e).CanAnswer .nextRow fun o =>
      o = .ok (.nextRow true) ∨ o = .error e := by
  cases n with
  | zero => exact ⟨{ outcome := .ready (.error e) }, _, _, .rowError rfl, rfl, .inr rfl⟩
  | succ n =>
    exact ⟨{ outcome := .ready (.ok (.nextRow true)) }, _, _, .brokenRow rfl, rfl, .inl rfl⟩

end ExecuteCursor

/-- The body is not about to send parameters whose conversion panics. -/
def Await.Sends (client : Client) : Await → Prop
  | .drain command => (command.send client).isSome = true
  | _ => True

/-- A drain is awaited at the start only. -/
theorem Await.sends_of_drained {a : Await} (hd : a.Counts cur out) (hc : cur.IsDrained) :
    a.Sends client := by
  cases a with
  | drain command =>
    cases cur with
    | start s => exact hc.elim
    | _ => exact hd.elim
  | _ => trivial

theorem Command.send_withInner (command : Command) (client : Client) (inner : TdsClient) :
    command.send (client.withInner inner) = command.send client := by
  cases command <;> rfl

/-- A body that waits for the driver can be answered, and then resumes. -/
theorem Await.can_resumeCounts {a : Await} (hd : a.Counts cur out) (hs : a.Sends client) :
    ∃ r o cur' x, cur.Answers a.call r cur' ∧ r.outcome = .ready o ∧
      a.resume (client.withInner (client.inner.after r)) o = some x := by
  have finish : ∀ {P : Except TdsError Answer → Prop}, cur.CanAnswer a.call P →
      (∀ o inner, P o → (a.resume (client.withInner inner) o).isSome) →
      ∃ r o cur' x, cur.Answers a.call r cur' ∧ r.outcome = .ready o ∧
        a.resume (client.withInner (client.inner.after r)) o = some x := by
    rintro P ⟨r, o, cur', ha, ho, hp⟩ hr
    obtain ⟨x, hx⟩ := Option.isSome_iff_exists.mp (hr o _ hp)
    exact ⟨r, o, cur', x, ha, ho, hx⟩
  unfold Await.Counts at hd
  split at hd
  · refine finish (ExecuteCursor.can_drain _) ?_
    rintro o inner (rfl | ⟨e, rfl⟩)
    · simp only [Await.resume, Command.send_withInner]
      exact hs
    · rfl
  · refine finish (ExecuteCursor.can_request _ hd.2.1) ?_
    rintro o inner (⟨result, rfl⟩ | ⟨e, rfl⟩) <;> rfl
  · refine finish (ExecuteCursor.can_read _ _) ?_
    rintro o inner ⟨more, rfl⟩
    rfl
  · refine finish (ExecuteCursor.can_readBroken _ _) ?_
    rintro o inner (rfl | rfl) <;> rfl
  · refine finish (ExecuteCursor.can_advance _) ?_
    rintro o inner (⟨result, rfl⟩ | ⟨e, rfl⟩) <;> rfl
  · exact hd.elim

/-- Entry points that report counts. -/
def Entry.counts : Entry → Bool
  | .execute _ _ | .executePrepared _ _ => true
  | _ => false

/-- What an entry point checks before it sends anything. -/
def Client.admits (client : Client) : Entry → Result Unit
  | .executePrepared stmt _ => client.checkPrepared stmt
  | _ => ensureUsable client.inner

/-- What the call of an entry point is to return on a script. -/
def Entry.countsOn (e : Entry) (client : Client) (s : ExecuteScript) : Result (List Nat) :=
  (client.admits e).bind fun _ => s.counts

/-- The first poll of the future: it returns what forbids the call, or drains. -/
inductive FirstPolled (client : Client) (e : Entry) : Stepped → Prop
  | refused {err : Error} (ha : client.admits e = .error err) :
      FirstPolled client e (⟨client, .idle⟩, [.returned (.error err)])
  | begun {command : Command} {guard : Operation} (ha : client.admits e = .ok ())
      (hc : command.counts = true) (hs : e.Converts client → (command.send client).isSome = true) :
      FirstPolled client e
        (⟨client, .operation guard (.drain command) false⟩, [.issued .closeQuery])

namespace Client

variable {e : Entry} {alloc : Token} {x : Stepped}

theorem beginOperation_firstPolled {command : Command}
    (ha : client.admits e = ensureUsable client.inner) (hc : command.counts = true)
    (hs : e.Converts client → (command.send client).isSome = true) :
    FirstPolled client e (client.beginOperation (.drain command)) := by
  cases hd : client.inner.dead with
  | true =>
    rw [beginOperation_dead hd]
    exact .refused (ha.trans (ensureUsable_dead hd))
  | false =>
    rw [beginOperation, Operation.new_usable hd]
    exact .begun (ha.trans (ensureUsable_usable hd)) hc hs

theorem execute_sends {sql : String} {params : List Param}
    (h : (Entry.execute sql params).Converts client) :
    ((Command.execute sql params).send client).isSome = true := by
  obtain ⟨rpc, hrpc⟩ := h
  simp only [Entry.params] at hrpc
  simp only [Command.send, hrpc]
  split <;> rfl

theorem firstPoll_firstPolled (he : e.counts = true) (h : client.firstPoll alloc e = some x) :
    FirstPolled client e x := by
  cases e with
  | execute sql params =>
    cases h
    exact beginOperation_firstPolled rfl rfl execute_sends
  | executePrepared stmt params =>
    simp only [firstPoll, beginPrepared] at h
    split at h
    · next err hc => cases h; exact .refused hc
    · next hc =>
      split at h <;> cases h
      refine beginOperation_firstPolled ?_ rfl fun _ => rfl
      rw [admits, hc, ensureUsable_usable (Session.checkPrepared_ok hc).1]
  | _ => cases he

theorem firstPoll_some (he : e.counts = true) (hc : e.Converts client) (alloc : Token) :
    ∃ x, client.firstPoll alloc e = some x := by
  cases e with
  | execute => exact ⟨_, rfl⟩
  | executePrepared stmt params =>
    obtain ⟨rpc, hrpc⟩ := hc
    obtain ⟨r, hr⟩ := rpcParams_ok hrpc
    simp only [firstPoll, beginPrepared, Entry.params] at hr ⊢
    split
    · exact ⟨_, rfl⟩
    · rw [hr]; exact ⟨_, rfl⟩
  | _ => cases he

/-- Where a resumed body takes the session: to its next call, or back to the user. -/
def resumed (client : Client) (guard : Operation) : Resumed → Stepped
  | .await next => (⟨client, .operation guard next false⟩, [.issued next.call])
  | .done out => (⟨client.withInner (guard.complete client.inner), .idle⟩, [.returned out])

theorem resumeOperation_eq (client : Client) (guard : Operation) (a : Await)
    (o : Except TdsError Answer) :
    client.resumeOperation guard a o = (a.resume client o).map (client.resumed guard) := by
  unfold resumeOperation
  split <;> simp [resumed, *]

end Client

def Obs.value : Obs → Option (Result Value)
  | .returned v => some v
  | _ => none

/-- What has been returned. -/
def returns (os : List Obs) : List (Result Value) := os.filterMap Obs.value

/-- A call that is to return `out` and has `shown` so much: it is on its way there and has
returned nothing, or it was dropped, or it has returned. -/
def Counting (converts : Prop) (out : Result (List Nat)) (shown : List Obs) (dropped : Bool)
    (p : ExecutePlayback) : Prop :=
  match p.1.task with
  | .unpolled e => returns shown = [] ∧ e.counts = true ∧ (converts → e.Converts p.1.client) ∧
      ∃ s, p.2 = .start s ∧ out = e.countsOn p.1.client s
  | .operation _ a _ =>
    returns shown = [] ∧ a.Counts p.2 out ∧ (converts → a.Sends p.1.client)
  | .idle => returns shown = [] ∧ dropped = true ∨
      returns shown = [out.map .counts] ∧ (out.isOk = true → p.2 = .ended)
  | _ => False

section Counting

variable {converts : Prop} {shown os : List Obs} {drp : Bool} {p p' : ExecutePlayback} {ev : Event}
  {guard : Operation} {x : Resumed}

theorem returns_of_nil (hq : returns shown = []) : returns (shown ++ os) = returns os := by
  rw [returns, List.filterMap_append]
  exact congrArg (· ++ returns os) hq

/-- A body that has resumed, past the drain, keeps the call on its way. -/
theorem resumed_counting (hq : returns shown = []) (hx : x.Counts cur out) (hcur : cur.IsDrained) :
    Counting converts out (shown ++ (client.resumed guard x).2) drp
      ((client.resumed guard x).1, cur) := by
  cases x with
  | await next =>
    exact ⟨returns_of_nil hq, hx, fun _ => Await.sends_of_drained hx hcur⟩
  | done v =>
    refine .inr ⟨?_, hx.2⟩
    rw [returns_of_nil hq, hx.1]
    rfl

theorem firstPolled_counting {e : Entry} {s : ExecuteScript} {y : Stepped} (hq : returns shown = [])
    (hconv : converts → e.Converts client) (h : FirstPolled client e y) :
    Counting converts (e.countsOn client s) (shown ++ y.2) drp (y.1, .start s) := by
  cases h with
  | refused ha =>
    refine .inr ⟨?_, ?_⟩
    · rw [returns_of_nil hq, Entry.countsOn, ha]; rfl
    · rw [Entry.countsOn, ha]; exact fun h => nomatch h
  | begun ha hc hs =>
    refine ⟨returns_of_nil hq, ⟨hc, ?_⟩, fun h => hs (hconv h)⟩
    rw [Entry.countsOn, ha]
    rfl

/-- Each step keeps a call on its way. -/
theorem plays_counting (hc : Counting converts out shown drp p) (h : PlaysExecute p ev os p') :
    Counting converts out (shown ++ os) (drp || ev.drops) p' := by
  cases h with
  | @user s s' cur ev os hn hr h =>
    obtain ⟨client, task⟩ := s
    cases task with
    | idle => rw [Session.step_idle client hn] at h; cases h
    | reset | stream => exact hc.elim
    | operation guard a parked =>
      obtain ⟨hq, ha, hs⟩ := hc
      cases ev with
      | start => cases hn
      | reply => cases hr
      | columns | intoRowStream | intoResults => cases h
      | poll alloc =>
        cases parked <;> cases h
        exact ⟨returns_of_nil hq, ha, hs⟩
      | drop =>
        cases parked <;> cases h
        exact .inl ⟨returns_of_nil hq, Bool.or_true _⟩
    | unpolled e =>
      obtain ⟨hq, he, hconv, s, rfl, rfl⟩ := hc
      cases ev with
      | start => cases hn
      | reply => cases hr
      | columns | intoRowStream | intoResults => cases h
      | drop => cases h; exact .inl ⟨returns_of_nil hq, Bool.or_true _⟩
      | poll alloc => exact firstPolled_counting hq hconv (Client.firstPoll_firstPolled he h)
  | @driver s s' cur cur' call r os hcall ha h =>
    obtain ⟨client, task⟩ := s
    cases task with
    | idle | unpolled => cases hcall
    | reset | stream => exact hc.elim
    | operation guard a parked =>
      cases parked with
      | true => cases hcall
      | false =>
        cases hcall
        obtain ⟨hq, hcount, hs⟩ := hc
        simp only [Session.step, Session.reply] at h
        split at h
        · next hp =>
          cases h
          rw [ha.pending_eq hp]
          refine ⟨returns_of_nil hq, hcount, fun hconv => ?_⟩
          have hsends := hs hconv
          cases a with
          | drain command => rwa [Await.Sends, Command.send_withInner]
          | _ => trivial
        · next o hp =>
          rw [Client.resumeOperation_eq, Option.map_eq_some_iff] at h
          obtain ⟨x, hx, hr⟩ := h
          obtain ⟨rfl, rfl⟩ := Prod.mk.inj hr.symm
          exact resumed_counting hq (Await.resume_counts hcount ha hp hx) (ha.ready hp).2

/-- From any call of a counted body, some run returns. -/
theorem waiting_returns (n : Nat) (guard : Operation) {a : Await} (hn : cur.size ≤ n)
    (hd : a.Counts cur out) (hs : a.Sends client) :
    ∃ t p, Run PlaysExecute (⟨client, .operation guard a false⟩, cur) t p ∧
      returns t.observed = [out.map .counts] := by
  induction n generalizing a cur client with
  | zero =>
    obtain ⟨r, o, cur', x, ha, ho, hx⟩ := Await.can_resumeCounts hd hs
    have := (ha.ready ho).1
    omega
  | succ n ih =>
    obtain ⟨r, o, cur', x, ha, ho, hx⟩ := Await.can_resumeCounts hd hs
    obtain ⟨hlt, hdrained⟩ := ha.ready ho
    have hcount := Await.resume_counts hd ha ho hx
    have hplay : PlaysExecute (⟨client, .operation guard a false⟩, cur) (.reply r)
        ((client.withInner (client.inner.after r)).resumed guard x).2
        (((client.withInner (client.inner.after r)).resumed guard x).1, cur') := by
      refine .driver rfl ha ?_
      simp only [Session.step, Session.reply, ho, Client.resumeOperation_eq, hx, Option.map_some]
    cases x with
    | await next =>
      obtain ⟨t, p, hr, hv⟩ := ih (by omega) hcount (Await.sends_of_drained hcount hdrained)
      exact ⟨_, p, .cons hplay hr, hv⟩
    | done v =>
      refine ⟨_, _, .single hplay, ?_⟩
      rw [hcount.1]
      rfl

/-- A call on its way whose parameters convert can be polled to its return. -/
theorem Counting.returns {p : ExecutePlayback} (hc : Counting True out shown drp p) :
    drp = true ∨
      ∃ t p', Run PlaysExecute p t p' ∧ returns (shown ++ t.observed) = [out.map .counts] := by
  obtain ⟨⟨client, task⟩, cur⟩ := p
  cases task with
  | reset | stream => exact hc.elim
  | idle =>
    rcases hc with ⟨-, hd⟩ | ⟨hr, -⟩
    · exact .inl hd
    · exact .inr ⟨[], _, .nil _, by simpa using hr⟩
  | operation guard a parked =>
    obtain ⟨hq, ha, hs⟩ := hc
    obtain ⟨t, p, hr, hv⟩ := waiting_returns _ guard le_rfl ha (hs trivial)
    right
    cases parked with
    | false => exact ⟨t, p, hr, (returns_of_nil hq).trans hv⟩
    | true =>
      have hpoll : PlaysExecute (⟨client, .operation guard a true⟩, cur) (.poll 0) []
          (⟨client, .operation guard a false⟩, cur) := .user rfl rfl rfl
      exact ⟨_, p, .cons hpoll hr, (returns_of_nil hq).trans hv⟩
  | unpolled e =>
    obtain ⟨hq, he, hconv, s, rfl, rfl⟩ := hc
    obtain ⟨x, hx⟩ := Client.firstPoll_some he (hconv trivial) 0
    have hplay : PlaysExecute (⟨client, .unpolled e⟩, .start s) (.poll 0) x.2 (x.1, .start s) :=
      .user rfl rfl hx
    right
    cases Client.firstPoll_firstPolled he hx with
    | refused ha =>
      refine ⟨_, _, .single hplay, ?_⟩
      rw [returns_of_nil hq, Entry.countsOn, ha]
      rfl
    | @begun command guard ha hcm hs =>
      have hdrain : (Await.drain command).Counts (.start s) s.counts := ⟨hcm, rfl⟩
      obtain ⟨t, p, hr, hv⟩ := waiting_returns _ guard le_rfl hdrain (hs (hconv trivial))
      refine ⟨_, p, .cons hplay hr, ?_⟩
      rw [returns_of_nil hq, Entry.countsOn, ha]
      exact hv

end Counting

/-- The polls that the driver answered otherwise than by `Pending`. -/
def Event.answers : Event → Bool
  | .reply { outcome := .ready _, .. } => true
  | _ => false

def answered (t : Trace Event Obs) : Nat := t.countP fun l => l.1.answers

theorem plays_answered {p p' : ExecutePlayback} {ev : Event} {os : List Obs}
    (h : PlaysExecute p ev os p') :
    (if ev.answers then 1 else 0) + p'.2.size ≤ p.2.size := by
  cases h with
  | @user s s' cur ev os hn hr h =>
    cases ev with
    | reply => cases hr
    | _ => simp [Event.answers]
  | @driver s s' cur cur' call r os hc ha h =>
    cases hp : r.outcome with
    | pending =>
      obtain ⟨outcome, kills, onRows, metadata, returnValues⟩ := r
      cases hp
      rw [ha.pending_eq rfl]
      simp [Event.answers]
    | ready o =>
      have hlt : cur'.size < cur.size := (ha.ready hp).1
      show _ + cur'.size ≤ cur.size
      split <;> omega

theorem run_answered {p p' : ExecutePlayback} {t : Trace Event Obs} (h : Run PlaysExecute p t p') :
    answered t + p'.2.size ≤ p.2.size := by
  induction h with
  | nil => simp [answered]
  | cons hs _ ih =>
    have := plays_answered hs
    simp only [answered, List.countP_cons] at ih ⊢
    omega

/-- Of any run from here: `out` is what is returned, once, counts only with the script read
through its end; and the driver answers only so often. -/
structure CountsOnly (out : Result (List Nat)) (shown : List Obs) (p : ExecutePlayback) : Prop where
  returned : ∀ t p', Run PlaysExecute p t p' → returns (shown ++ t.observed) = [] ∨
    returns (shown ++ t.observed) = [out.map .counts] ∧ (out.isOk = true → p'.2 = .ended)
  bounded : ∀ t p', Run PlaysExecute p t p' → answered t ≤ p.2.size

/-- Wherever a run from here has come to, it can be polled to the return, unless it was dropped. -/
def CanReturn (out : Result (List Nat)) (shown : List Obs) (p : ExecutePlayback) : Prop :=
  ∀ t p', Run PlaysExecute p t p' → dropped t = true ∨ ∃ t' p'', Run PlaysExecute p' t' p'' ∧
    returns (shown ++ Trace.observed (t ++ t')) = [out.map .counts]

section

variable {converts : Prop} {shown : List Obs} {p p' : ExecutePlayback} {t : Trace Event Obs}

theorem run_counting (hc : Counting converts out shown false p) (h : Run PlaysExecute p t p') :
    Counting converts out (shown ++ t.observed) (dropped t) p' := by
  refine h.history (I := fun t p => Counting converts out (shown ++ t.observed) (dropped t) p) ?_ ?_
  · intro t p ev os p' hc hs
    have h := plays_counting hc hs
    simpa [dropped, List.append_assoc] using h
  · simpa [dropped] using hc

theorem Counting.countsOnly (hc : Counting converts out shown false p) :
    CountsOnly out shown p := by
  refine ⟨?_, ?_⟩
  · intro t p' hr
    have h := run_counting hc hr
    unfold Counting at h
    split at h
    · exact .inl h.1
    · exact .inl h.1
    · exact h.imp And.left id
    · exact h.elim
  · intro t p' hr
    exact (Nat.le_add_right _ _).trans (run_answered hr)

theorem Counting.canReturn (hc : Counting True out shown false p) : CanReturn out shown p := by
  intro t p' hr
  rcases (run_counting hc hr).returns with hd | ⟨t', p'', hr', hv⟩
  · exact .inl hd
  · refine .inr ⟨t', p'', hr', ?_⟩
    rwa [Lib.Trace.observed_append, ← List.append_assoc]

end

/-- On a script, of any run. -/
structure CountsComplete (client : Client) (script : ExecuteScript) : Prop where
  /-- `collect_execute_results`, entered under a guard with the result of the first statement. -/
  collected : ∀ guard result cur, script.response.next = .ok (result, cur) →
    ∀ s os, client.resumed guard (collectExecuteStep [] result) = (s, os) →
      CountsOnly script.response.counts os (s, cur) ∧ CanReturn script.response.counts os (s, cur)
  /-- `execute`, with parameters and without, and `execute_prepared`. -/
  returned : ∀ e s, e.counts = true → client.start e = some s →
    CountsOnly (e.countsOn client script) [] (s, .start script)
  returns : ∀ e, e.counts = true → e.Converts client → ∃ s, client.start e = some s ∧
    CanReturn (e.countsOn client script) [] (s, .start script)

/-- For every script, whatever the user and the driver do. -/
theorem counts_complete (client : Client) (script : ExecuteScript) :
    CountsComplete client script := by
  have started : ∀ {e s} {converts : Prop}, e.counts = true → client.start e = some s →
      (converts → e.Converts client) →
      Counting converts (e.countsOn client script) [] false (s, .start script) := by
    intro e s converts he hs hconv
    cases e with
    | execute | executePrepared => cases hs; exact ⟨rfl, rfl, hconv, script, rfl, rfl⟩
    | _ => cases he
  refine ⟨?_, ?_, ?_⟩
  · intro guard result cur hn s os h
    have hx := collectExecuteStep_counts [] hn
    rw [map_append_nil] at hx
    have hc : Counting True script.response.counts
        ([] ++ (client.resumed guard (collectExecuteStep [] result)).2) false
        ((client.resumed guard (collectExecuteStep [] result)).1, cur) :=
      resumed_counting rfl hx (ExecuteResponse.next_ok hn).2
    rw [h] at hc
    exact ⟨hc.countsOnly, hc.canReturn⟩
  · intro e s he hs
    have hc : Counting False (e.countsOn client script) [] false (s, .start script) :=
      started he hs False.elim
    exact hc.countsOnly
  · intro e he hconv
    cases e with
    | execute | executePrepared => exact ⟨_, rfl, (started rfl rfl fun _ => hconv).canReturn⟩
    | _ => cases he

end

end TiberiusBridge

import TiberiusBridge.Client.Cancellation

/-!
# Statements and tokens inside one session

While an operation on a statement runs, the statement belongs to the client's
session; a prepare returns a statement of that session. Only such an operation
issues a call that carries a handle.
-/
namespace TiberiusBridge

variable [MssqlTds]

/-- Calls that carry a prepared handle. -/
def Call.usesHandle : Call → Bool
  | .executeStoredProcedure name _ _ => name == "sp_execute" || name == "sp_unprepare"
  | _ => false

/-- The call carries the handle of `stmt`. -/
def Call.Uses (c : Call) (stmt : PreparedStatement) : Prop :=
  (∃ params, c = stmt.executeCall params) ∨ c = stmt.unprepareCall

theorem Call.usesHandle_procedure {c : Call} (h : c.isProcedure = false) :
    c.usesHandle = false := by
  cases c with
  | executeStoredProcedure => cases h
  | _ => rfl

def Command.statement : Command → Option PreparedStatement
  | .queryPrepared stmt _ | .executePrepared stmt _ | .unprepare stmt => some stmt
  | _ => none

def Command.prepares : Command → Bool
  | .prepare _ _ => true
  | _ => false

/-- The statement an entry point is called with. -/
def Entry.statement : Entry → Option PreparedStatement
  | .queryPrepared stmt _ | .executePrepared stmt _ | .unprepare stmt => some stmt
  | _ => none

def Entry.prepares : Entry → Bool
  | .prepare _ _ => true
  | _ => false

namespace Await

def statement : Await → Option PreparedStatement
  | drain command | sent command _ => command.statement
  | _ => none

def prepares : Await → Bool
  | drain command | sent command _ => command.prepares
  | prepareAdvance _ _ => true
  | _ => false

/-- The statement in use and the token captured by a prepare are of the session `token`. -/
def Bound (token : Token) : Await → Prop
  | drain command | sent command _ =>
    ∀ stmt, command.statement = some stmt → stmt.session = token
  | prepareAdvance _ session => session = token
  | _ => True

end Await

namespace Task

def statement : Task → Option PreparedStatement
  | unpolled e => e.statement
  | operation _ a _ => a.statement
  | _ => none

def prepares : Task → Bool
  | unpolled e => e.prepares
  | operation _ a _ => a.prepares
  | _ => false

def Bound (token : Token) : Task → Prop
  | operation _ a _ => a.Bound token
  | _ => True

end Task

/-- What a step from `task`, on a client of session `token`, leads to and shows. -/
structure Handled (token : Token) (task : Task) (r : Stepped) : Prop where
  bound : r.1.task.Bound token
  statement : ∀ stmt, r.1.task.statement = some stmt → task.statement = some stmt
  prepares : r.1.task.prepares = true → task.prepares = true
  issued : ∀ c, .issued c ∈ r.2 → c.usesHandle = true →
    ∃ stmt, task.statement = some stmt ∧ stmt.session = token ∧ c.Uses stmt
  returned : ∀ stmt, .returned (.ok (.statement stmt)) ∈ r.2 →
    task.prepares = true ∧ stmt.session = token

/-- Neither a handle nor a statement. -/
def Obs.plain : Obs → Prop
  | .issued c => c.usesHandle = false
  | .returned (.ok (.statement _)) => False
  | _ => True

/-- A step to a task without statements that shows nothing of them. -/
theorem Handled.plain {token : Token} {task : Task} {r : Stepped} (hb : r.1.task.Bound token)
    (hs : r.1.task.statement = none) (hp : r.1.task.prepares = false) (ho : ∀ o ∈ r.2, o.plain) :
    Handled token task r where
  bound := hb
  statement stmt h := by rw [hs] at h; cases h
  prepares h := by rw [hp] at h; cases h
  issued c hc hu := by
    have := ho _ hc
    rw [Obs.plain, hu] at this
    cases this
  returned stmt hr := (ho _ hr).elim

theorem Obs.plain_of_stream {o : Obs} (h : o.ofStream) : o.plain := by
  cases o with
  | issued c => exact Call.usesHandle_procedure h
  | returned r =>
    cases r with
    | error e => trivial
    | ok v =>
      cases v with
      | statement => exact h.elim
      | _ => trivial
  | _ => trivial

theorem StreamStepped.handled {client : Client} {r : Stepped} (h : StreamStepped client r)
    (token : Token) (task : Task) : Handled token task r := by
  obtain ⟨⟨c, t⟩, os⟩ := r
  have hstream : t = .idle ∨ t.isStream = true := h.task
  refine .plain ?_ ?_ ?_ fun o ho => Obs.plain_of_stream (h.shown o ho)
  all_goals
    cases t with
    | idle | stream => trivial
    | unpolled | operation | reset => rcases hstream with hs | hs <;> cases hs

/-- What a body of a suspended operation leads to. -/
def Resumed.Handled (token : Token) (a : Await) : Resumed → Prop
  | .await next => next.Bound token ∧
    (∀ stmt, next.statement = some stmt → a.statement = some stmt) ∧
    (next.prepares = true → a.prepares = true) ∧
    (next.call.usesHandle = true → ∃ stmt, a.statement = some stmt ∧ next.call.Uses stmt)
  | .done out => ∀ stmt, out = .ok (.statement stmt) → a.prepares = true ∧ stmt.session = token

theorem Command.send_handled {client : Client} {command : Command} {x : Resumed} {token : Token}
    (hb : (Await.drain command).Bound token) (h : command.send client = some x) :
    x.Handled token (.drain command) := by
  cases command with
  | simpleQuery | query =>
    cases h
    exact ⟨hb, fun _ h => h, fun h => h, fun h => nomatch h⟩
  | execute sql params =>
    simp only [Command.send] at h
    split at h
    · cases h; exact ⟨hb, fun _ h => h, fun h => h, fun h => nomatch h⟩
    · split at h <;> cases h
      exact ⟨hb, fun _ h => h, fun h => h, fun h => nomatch h⟩
  | prepare sql params =>
    simp only [Command.send] at h
    split at h <;> cases h
    · intro stmt hs; cases hs
    · refine ⟨hb, fun _ h => h, fun h => h, fun h => ?_⟩
      simp [Await.call, PreparedStatement.prepareCall, Call.usesHandle] at h
  | queryPrepared stmt params | executePrepared stmt params =>
    cases h
    exact ⟨hb, fun _ h => h, fun h => h, fun _ => ⟨stmt, rfl, .inl ⟨params, rfl⟩⟩⟩
  | unprepare stmt =>
    cases h
    exact ⟨hb, fun _ h => h, fun h => h, fun _ => ⟨stmt, rfl, .inr rfl⟩⟩

/-- A resumption with no statement in it. -/
theorem Resumed.handled_plain {token : Token} {a next : Await} (hb : next.Bound token)
    (hs : next.statement = none) (hp : next.prepares = false)
    (hc : next.call.usesHandle = false) : (Resumed.await next).Handled token a :=
  ⟨hb, fun _ h => by (rw [hs] at h; cases h), fun h => by (rw [hp] at h; cases h),
    fun h => by (rw [hc] at h; cases h)⟩

theorem collectHead_handled {token : Token} {a : Await} (inner : TdsClient)
    (sets : List (List Row)) (index : Nat) : (collectHead inner sets index).Handled token a := by
  unfold collectHead
  split <;> exact Resumed.handled_plain trivial rfl rfl rfl

theorem collectExecuteStep_handled {token : Token} {a : Await} (counts : List Nat)
    (r : StatementResult) : (collectExecuteStep counts r).Handled token a := by
  cases r with
  | rows | noRows => exact Resumed.handled_plain trivial rfl rfl rfl
  | finished => intro stmt h; cases h

theorem Command.sentResult_handled {client : Client} {command : Command} {call : Call}
    (r : StatementResult) :
    (command.sentResult client r).Handled client.preparedSession (.sent command call) := by
  cases command with
  | simpleQuery | query | queryPrepared => exact collectHead_handled _ _ _
  | execute | executePrepared => exact collectExecuteStep_handled _ _
  | prepare sql params =>
    refine ⟨rfl, fun stmt h => ?_, fun _ => rfl, fun h => ?_⟩
    · cases h
    · cases h
  | unprepare => exact Resumed.handled_plain trivial rfl rfl rfl

theorem PreparedStatement.fromReturnValues_session {values : List ColumnValues} {sql : String}
    {session : Token} {stmt : PreparedStatement}
    (h : fromReturnValues values sql session = .ok stmt) : stmt.session = session := by
  unfold fromReturnValues at h
  split at h <;> cases h
  rfl

/-- A body resumes bound to the session it was bound to. -/
theorem Await.resume_handled {client : Client} {a : Await} {out : Except TdsError Answer}
    {x : Resumed} (hb : a.Bound client.preparedSession) (h : a.resume client out = some x) :
    x.Handled client.preparedSession a := by
  unfold Await.resume at h
  split at h
  · cases h; intro stmt hs; cases hs
  · exact Command.send_handled hb h
  · cases h; exact Command.sentResult_handled _
  · cases h
    split
    · exact Resumed.handled_plain trivial rfl rfl rfl
    · intro stmt hs; cases hs
  · split at h <;> cases h <;> exact Resumed.handled_plain trivial rfl rfl rfl
  · cases h
    split
    · exact collectHead_handled _ _ _
    · intro stmt hs; cases hs
  · cases h
    split <;> exact Resumed.handled_plain trivial rfl rfl rfl
  · cases h; exact collectExecuteStep_handled _ _
  · cases h
    split
    · exact ⟨hb, fun _ h => h, fun h => h, fun h => nomatch h⟩
    · next sql session more hm =>
      intro stmt hs
      cases hv : PreparedStatement.fromReturnValues client.inner.returnValues sql session with
      | error e => rw [hv] at hs; cases hs
      | ok stmt' =>
        rw [hv] at hs
        cases hs
        exact ⟨rfl, (PreparedStatement.fromReturnValues_session hv).trans hb⟩
  · cases h; intro stmt hs; cases hs
  · cases h; intro stmt hs; cases hs
  · cases h

namespace Session

variable {client : Client} {r : Stepped} {s s' : Session} {os : List Obs} {ev : Event}

theorem beginOperation_handled {token : Token} {a : Await} {e : Entry} (hb : a.Bound token)
    (hs : a.statement = e.statement) (hp : a.prepares = e.prepares)
    (hc : a.call.usesHandle = false) :
    Handled token (.unpolled e) (client.beginOperation a) := by
  unfold Client.beginOperation
  split
  · exact .plain trivial rfl rfl (by simp [Obs.plain])
  · refine ⟨hb, fun stmt h => hs.symm.trans h, fun h => hp.symm.trans h, ?_, by simp⟩
    intro c hm hu
    rw [List.mem_singleton] at hm
    cases hm
    rw [hc] at hu
    cases hu

theorem checkPrepared_ok {stmt : PreparedStatement} (h : client.checkPrepared stmt = .ok ()) :
    client.inner.dead = false ∧ stmt.session = client.preparedSession := by
  cases hd : client.inner.dead with
  | true => rw [Client.checkPrepared, ensureUsable_dead hd] at h; cases h
  | false =>
    rw [Client.checkPrepared, ensureUsable_usable hd] at h
    exact ⟨rfl, PreparedStatement.validateSession_ok_iff.mp h⟩

theorem beginPrepared_handled {stmt : PreparedStatement} {params : List Param}
    {command : Option (List RpcParameter) → Command} {e : Entry}
    (hs : e.statement = some stmt) (hp : e.prepares = false)
    (hcs : ∀ rpc, (command rpc).statement = some stmt) (hcp : ∀ rpc, (command rpc).prepares = false)
    (h : client.beginPrepared stmt params command = some r) :
    Handled client.preparedSession (.unpolled e) r := by
  unfold Client.beginPrepared at h
  split at h
  · next err he => cases h; exact .plain trivial rfl rfl (by simp [Obs.plain])
  · next hc =>
    split at h <;> cases h
    next rpc hr =>
    refine beginOperation_handled ?_ ((hcs rpc).trans hs.symm) ((hcp rpc).trans hp.symm) rfl
    intro stmt' hst
    rw [hcs rpc] at hst
    cases hst
    exact (checkPrepared_ok hc).2

theorem beginReset_plain (alloc : Token) (pooled : Bool) (token : Token) (task : Task) :
    Handled token task (client.beginReset alloc pooled) := by
  unfold Client.beginReset
  split
  · cases pooled <;>
      exact .plain trivial rfl rfl (by simp [Obs.plain, Client.resetResult, Except.map])
  · exact .plain trivial rfl rfl (by simp [Obs.plain, ResetAwait.call, Call.usesHandle])

theorem firstPoll_handled {alloc : Token} {e : Entry} (h : client.firstPoll alloc e = some r) :
    Handled client.preparedSession (.unpolled e) r := by
  have plainCommand : ∀ {command : Command}, command.statement = none →
      (Await.drain command).Bound client.preparedSession := by
    intro command hc stmt hs
    rw [hc] at hs
    cases hs
  cases e with
  | simpleQuery | execute | prepare =>
    cases h
    exact beginOperation_handled (plainCommand rfl) rfl rfl rfl
  | bulkSend copy =>
    cases h
    exact beginOperation_handled trivial rfl rfl rfl
  | query sql params =>
    simp only [Client.firstPoll] at h
    split at h
    · cases h; exact beginOperation_handled (plainCommand rfl) rfl rfl rfl
    · split at h <;> cases h
      exact beginOperation_handled (plainCommand rfl) rfl rfl rfl
  | queryPrepared | executePrepared | unprepare =>
    simp only [Client.firstPoll] at h
    exact beginPrepared_handled rfl rfl (fun _ => rfl) (fun _ => rfl) h
  | ping =>
    cases h
    cases hu : ensureUsable client.inner <;>
      exact .plain trivial rfl rfl (by simp [Obs.plain, Except.map])
  | resetSession => cases h; exact beginReset_plain _ _ _ _
  | recycle method =>
    cases h
    unfold Client.beginRecycle
    split
    · exact .plain trivial rfl rfl (by simp [Obs.plain])
    · cases method with
      | reset => exact beginReset_plain _ _ _ _
      | ping => exact .plain trivial rfl rfl (by simp [Obs.plain])
  | queryCompat | queryStreamed => cases h

theorem resumeOperation_handled {guard : Operation} {a : Await} {parked : Bool}
    {out : Except TdsError Answer} (hb : a.Bound client.preparedSession)
    (h : client.resumeOperation guard a out = some r) :
    Handled client.preparedSession (.operation guard a parked) r := by
  unfold Client.resumeOperation at h
  split at h
  · cases h
  · next next hr =>
    cases h
    obtain ⟨hnb, hns, hnp, hnc⟩ := Await.resume_handled hb hr
    refine ⟨hnb, hns, hnp, ?_, by simp⟩
    intro c hm hu
    rw [List.mem_singleton] at hm
    cases hm
    obtain ⟨stmt, hs, huse⟩ := hnc hu
    refine ⟨stmt, hs, ?_, huse⟩
    cases a with
    | drain | sent => exact hb stmt hs
    | _ => cases hs
  · next result hr =>
    cases h
    refine ⟨trivial, fun _ h => (by cases h), fun h => (by cases h), by simp, ?_⟩
    intro stmt hm
    rw [List.mem_singleton] at hm
    cases hm
    exact Await.resume_handled hb hr stmt rfl

theorem resumeReset_plain {pooled : Bool} {guard : SessionReset} {a : ResetAwait}
    {out : Except TdsError Answer} {token : Token} {task : Task}
    (h : client.resumeReset pooled guard a out = some r) : Handled token task r := by
  unfold Client.resumeReset at h
  split at h <;> cases h
  · cases pooled <;>
      exact .plain trivial rfl rfl (by simp [Obs.plain, Client.resetResult, Except.map])
  · exact .plain trivial rfl rfl (by simp [Obs.plain, ResetAwait.call, Call.usesHandle])
  · exact .plain trivial rfl rfl (by simp [Obs.plain, ResetAwait.call, Call.usesHandle])
  · cases pooled <;>
      exact .plain trivial rfl rfl (by simp [Obs.plain, Client.resetResult, Except.map])

theorem reply_handled {rp : Reply} {task : Task} (hg : task.Guarded)
    (hb : task.Bound client.preparedSession) (h : reply client rp task = some r) :
    Handled client.preparedSession task r := by
  cases task with
  | idle | unpolled => cases h
  | operation guard a parked =>
    cases parked with
    | true => cases h
    | false =>
      simp only [reply] at h
      split at h
      · cases h; exact ⟨hb, fun _ h => h, fun h => h, by simp, by simp⟩
      · exact resumeOperation_handled hb h
  | reset pooled guard a parked =>
    cases parked with
    | true => cases h
    | false =>
      simp only [reply] at h
      split at h
      · cases h; exact .plain trivial rfl rfl (by simp)
      · exact resumeReset_plain h
  | stream s polling =>
    cases polling with
    | none => cases h
    | some consumer =>
      obtain ⟨hgen, -, hpeek⟩ := hg
      simp only [reply] at h
      split at h
      · cases h; exact .plain trivial rfl rfl (by simp)
      · next guard a out hgs hp =>
        rw [hgs] at hgen
        exact (StreamTask.resume_stepped hgen hpeek h).handled _ _
      · cases h

/-- What any step but a new call leads to and shows, on a session whose task is bound. -/
theorem step_handled (hg : s.task.Guarded) (hb : s.task.Bound s.client.preparedSession)
    (hn : ev.starts = false) (h : s.step ev = some (s', os)) :
    Handled s.client.preparedSession s.task (s', os) := by
  obtain ⟨client, task⟩ := s
  cases ev with
  | start => cases hn
  | poll alloc =>
    simp only [step] at h
    split at h
    · exact firstPoll_handled h
    · cases h; exact ⟨hb, fun _ h => h, fun h => h, by simp, by simp⟩
    · cases h; exact .plain trivial rfl rfl (by simp)
    · exact (StreamTask.pollNext_stepped hg h).handled _ _
    · cases h
  | columns =>
    simp only [step] at h
    split at h
    · exact (StreamTask.pollColumns_stepped hg h).handled _ _
    · cases h
  | intoRowStream | intoResults =>
    simp only [step] at h
    split at h
    · cases h; exact .plain trivial rfl rfl (by simp)
    · cases h
  | reply r =>
    exact @reply_handled _ (client.withInner (client.inner.after r)) (s', os) r task hg hb h
  | drop =>
    obtain ⟨s₁, h₁, h₂⟩ := Option.map_eq_some_iff.mp h
    cases h₂
    obtain ⟨-, ht⟩ := dropTask_client hg h₁
    refine .plain ?_ ?_ ?_ (by simp) <;> simp only [ht] <;> trivial

end Session

end TiberiusBridge

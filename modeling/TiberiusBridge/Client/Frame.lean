import TiberiusBridge.Client.Session

/-!
# What one step does to a client

Every guard is armed while its future or stream is suspended, so a step changes
the client in three ways only: the driver's own answer, the mark left by a
guard, and the session token a reset replaces. A stream shows items and driver
calls and nothing else.
-/
namespace TiberiusBridge

variable [MssqlTds]

def Call.isProcedure : Call → Bool
  | .executeStoredProcedure _ _ _ => true
  | _ => false

/-- What a stream can show: neither a procedure call, nor a reset, nor a statement. -/
def Obs.ofStream : Obs → Prop
  | .issued c => c.isProcedure = false
  | .armReset _ | .recycled _ => False
  | .returned (.ok (.results _)) | .returned (.error _) => True
  | .returned (.ok _) => False
  | .item _ | .row _ | .columns _ => True

def Reply.fails (r : Reply) : Bool :=
  match r.outcome with
  | .ready (.error _) => true
  | _ => false

namespace StreamState

def isSuspended : StreamState → Bool
  | suspended _ _ => true
  | _ => false

def Guarded : StreamState → Prop
  | suspended guard _ => guard.armed = true
  | _ => True

/-- Dropped at a yield, unpolled or finished, the generator leaves the client as it is. -/
theorem drop_at_rest {g : StreamState} (h : g.isSuspended = false) (inner : TdsClient) :
    g.drop inner = inner := by
  cases g with
  | suspended guard a => cases h
  | unpolled | yielded | finished => rfl

/-- Dropped while suspended, it marks the connection dead. -/
theorem drop_suspended {g : StreamState} (hg : g.Guarded) (h : g.isSuspended = true)
    (inner : TdsClient) : g.drop inner = inner.markDead := by
  cases g with
  | suspended guard a => exact Operation.drop_armed hg inner
  | unpolled | yielded | finished => cases h

end StreamState

/-- The generator awaits under an armed guard, and no procedure call. -/
def StreamResumed.Sound : StreamResumed → Prop
  | .await guard a => guard.armed = true ∧ a.call.isProcedure = false
  | _ => True

@[simp] theorem StreamResumed.release_eq (x : StreamResumed) (guard : Operation)
    (inner : TdsClient) : x.release guard inner = inner := by
  unfold release
  split <;> simp

theorem StreamResumed.guarded_sound (inner : TdsClient) {a : StreamAwait}
    (h : a.call.isProcedure = false) : (StreamResumed.guarded inner a).Sound := by
  unfold guarded
  split
  · next guard hn => exact ⟨(Operation.new_ok hn).1, h⟩
  · trivial

theorem streamHead_sound (inner : TdsClient) (index : Nat) : (streamHead inner index).Sound := by
  unfold streamHead
  split
  · trivial
  · exact StreamResumed.guarded_sound inner rfl

theorem StreamAwait.resume_sound {inner : TdsClient} {guard : Operation} {a : StreamAwait}
    {r : Except TdsError Answer} {x : StreamResumed} (hg : guard.armed = true)
    (h : a.resume inner guard r = some x) : x.Sound := by
  unfold StreamAwait.resume at h
  split at h <;> simp only [Option.some.injEq, reduceCtorEq] at h
  · subst h
    rename_i params
    cases params <;> exact ⟨hg, rfl⟩
  · subst h; trivial
  · subst h; exact streamHead_sound inner 0
  · subst h; split <;> trivial
  · split at h <;> cases h
    · trivial
    · exact StreamResumed.guarded_sound inner rfl
  · subst h
    split
    · exact streamHead_sound inner _
    · trivial

/-- Polled at rest, the generator resumes soundly, and yields no second item. -/
theorem StreamState.poll_sound {g : StreamState} (hg : g.isSuspended = false)
    (inner : TdsClient) : (g.poll inner).Sound := by
  cases g with
  | suspended guard a => cases hg
  | unpolled sql params => exact StreamResumed.guarded_sound inner rfl
  | yielded y =>
    cases y with
    | metadata | row => exact StreamResumed.guarded_sound inner rfl
    | error => trivial
  | finished => trivial

namespace Task

/-- The guard of a suspended task is armed; a stream that waits for the driver is suspended, and
one that holds an item back is not. -/
def Guarded : Task → Prop
  | idle | unpolled _ => True
  | operation guard _ _ => guard.armed = true
  | reset _ guard _ _ => guard.complete = false
  | stream s none => s.gen.Guarded ∧ (s.queue.peeked.isSome → s.gen.isSuspended = false)
  | stream s (some _) => s.gen.Guarded ∧ s.gen.isSuspended = true ∧ s.queue.peeked = none

/-- Suspended in a driver call, with control back at the user. -/
def parked : Task → Bool
  | operation _ _ parked | reset _ _ _ parked => parked
  | stream s none => s.gen.isSuspended
  | _ => false

def isStream : Task → Bool
  | stream _ _ => true
  | _ => false

def isReset : Task → Bool
  | reset _ _ _ _ => true
  | _ => false

end Task

/-- What every step of a stream does: the client stays, and the task is the stream or done. -/
structure StreamStepped (client : Client) (r : Stepped) : Prop where
  client_eq : r.1.client = client
  guarded : r.1.task.Guarded
  task : r.1.task = .idle ∨ r.1.task.isStream = true
  shown : ∀ o ∈ r.2, o.ofStream

namespace StreamTask

variable {s : StreamTask} {client : Client} {consumer : Consumer} {r : Stepped}

/-- No call in flight and no item held back. -/
def Resting (s : StreamTask) : Prop := s.gen.isSuspended = false ∧ s.queue.peeked = none

theorem Resting.of_gen {g : StreamState} (hg : g.isSuspended = false)
    (hp : s.queue.peeked = none) : Resting { s with gen := g } := ⟨hg, hp⟩

theorem Resting.guarded (h : s.Resting) : (Task.stream s none).Guarded := by
  refine ⟨?_, fun _ => h.1⟩
  obtain ⟨h, -⟩ := h
  cases hs : s.gen with
  | suspended => rw [hs] at h; cases h
  | unpolled | yielded | finished => trivial

theorem Resting.observe (h : s.Resting) (mode : StreamMode) (i : Option (Result QueryItem)) :
    Resting { s with mode, queue := s.queue.observe i } :=
  ⟨h.1, (QueryStream.observe_peeked _ _).trans h.2⟩

theorem lookAhead_last_peeked (q : QueryStream) (e : Option Error) :
    (q.lookAhead (e.map .error)).1.peeked = q.peeked := by cases e <;> rfl

theorem deliverLast_stepped (h : s.Resting) (e : Option Error) :
    StreamStepped client (s.deliverLast client consumer e) := by
  unfold deliverLast
  split
  · refine ⟨rfl, Resting.guarded ⟨h.1, ?_⟩, .inr rfl, by simp [Obs.ofStream]⟩
    exact (lookAhead_last_peeked _ e).trans h.2
  · exact ⟨rfl, (h.observe _ _).guarded, .inr rfl, by simp [Obs.ofStream]⟩
  · exact ⟨rfl, (h.observe _ _).guarded, .inr rfl, by simp [Obs.ofStream]⟩
  · refine ⟨?_, trivial, .inl rfl, ?_⟩
    · rw [StreamState.drop_at_rest h.1]; rfl
    · cases e <;> simp [Obs.ofStream]

theorem suspend_stepped {guard : Operation} {a : StreamAwait} (hp : s.queue.peeked = none)
    (hs : (StreamResumed.await guard a).Sound) :
    StreamStepped client
      (⟨client, .stream { s with gen := .suspended guard a } (some consumer)⟩,
        [.issued a.call]) :=
  ⟨rfl, ⟨hs.1, rfl, hp⟩, .inr rfl, by simpa [Obs.ofStream] using hs.2⟩

theorem proceed_stepped (h : s.Resting) (hr : s.proceed client consumer = some r) :
    StreamStepped client r := by
  have hs := StreamState.poll_sound h.1 client.inner
  unfold proceed at hr
  split at hr
  · next guard a hp => cases hr; rw [hp] at hs; exact suspend_stepped h.2 hs
  · cases hr; exact deliverLast_stepped (.of_gen rfl h.2) _
  · cases hr; exact deliverLast_stepped (.of_gen rfl h.2) _
  · cases hr

theorem deliverItem_stepped {i : QueryItem} (h : s.Resting)
    (hr : s.deliverItem client consumer i = some r) : StreamStepped client r := by
  unfold deliverItem at hr
  split at hr
  · cases hr
    exact ⟨rfl, ⟨h.guarded.1, fun _ => h.1⟩, .inr rfl, by simp [Obs.ofStream]⟩
  · cases hr
    exact ⟨rfl, (h.observe _ _).guarded, .inr rfl, by simp [Obs.ofStream]⟩
  · split at hr
    · cases hr
      exact ⟨rfl, (h.observe _ _).guarded, .inr rfl, by simp [Obs.ofStream]⟩
    · exact proceed_stepped (h.observe _ _) hr
  · exact proceed_stepped (h.observe _ _) hr

theorem settle_stepped {x : StreamResumed} (hp : s.queue.peeked = none) (hx : x.Sound)
    (hr : s.settle client consumer x = some r) : StreamStepped client r := by
  cases x with
  | await guard a => cases hr; exact suspend_stepped hp hx
  | item i y => exact deliverItem_stepped (.of_gen rfl hp) hr
  | error e => cases hr; exact deliverLast_stepped (.of_gen rfl hp) _
  | finished => cases hr; exact deliverLast_stepped (.of_gen rfl hp) _

theorem pollInner_stepped (hg : s.gen.Guarded) (hp : s.queue.peeked = none)
    (hr : s.pollInner client consumer = some r) : StreamStepped client r := by
  unfold pollInner at hr
  cases hs : s.gen with
  | suspended guard a =>
    rw [hs] at hr
    cases hr
    exact ⟨rfl, ⟨hg, by rw [hs]; rfl, hp⟩, .inr rfl, by simp⟩
  | unpolled | yielded | finished =>
    rw [hs] at hr
    exact settle_stepped hp (StreamState.poll_sound rfl _) hr

theorem pollNext_stepped (hg : (Task.stream s none).Guarded)
    (hr : s.pollNext client = some r) : StreamStepped client r := by
  unfold pollNext at hr
  split at hr
  · cases hr; exact ⟨rfl, hg, .inr rfl, by simp [Obs.ofStream]⟩
  · cases hr; exact ⟨rfl, hg, .inr rfl, by simp [Obs.ofStream]⟩
  · cases hp : s.queue.peeked with
    | none =>
      simp only [QueryStream.takePeeked, hp] at hr
      exact pollInner_stepped (s := { s with queue.peeked := none }) hg.1 rfl hr
    | some i =>
      have hs : s.gen.isSuspended = false := hg.2 (by rw [hp]; rfl)
      have hrest : Resting { s with queue.peeked := none } := ⟨hs, rfl⟩
      cases i with
      | ok i =>
        simp only [QueryStream.takePeeked, hp] at hr
        exact deliverItem_stepped hrest hr
      | error e =>
        simp only [QueryStream.takePeeked, hp] at hr
        cases hr
        exact deliverLast_stepped hrest _

theorem pollColumns_stepped (hg : (Task.stream s none).Guarded)
    (hr : s.pollColumns client = some r) : StreamStepped client r := by
  unfold pollColumns at hr
  split at hr
  · cases hr; exact ⟨rfl, hg, .inr rfl, by simp [Obs.ofStream]⟩
  · next hp => exact pollInner_stepped hg.1 hp hr
  · cases hr

theorem resume_stepped {guard : Operation} {a : StreamAwait} {out : Except TdsError Answer}
    (hg : guard.armed = true) (hp : s.queue.peeked = none)
    (hr : s.resume client consumer guard a out = some r) : StreamStepped client r := by
  unfold resume at hr
  split at hr
  · cases hr
  · next x hx =>
    rw [StreamResumed.release_eq, Client.withInner_self] at hr
    exact settle_stepped hp (StreamAwait.resume_sound hg hx) hr

end StreamTask

/-- The entry points that replace the session token. -/
def Entry.resets : Entry → Bool
  | .resetSession | .recycle .reset => true
  | _ => false

namespace Session

variable {s s' : Session} {os : List Obs}

/-- The client after an event, whatever the task. -/
def nextClient (s : Session) : Event → Client
  | .reply r =>
    let client := s.client.withInner (s.client.inner.after r)
    if s.task.isReset && r.fails then client.withInner client.inner.markDead else client
  | .drop =>
    if s.task.parked then s.client.withInner s.client.inner.markDead else s.client
  | .poll alloc =>
    match s.task with
    | .unpolled e =>
      if e.resets && !s.client.inner.dead then { s.client with preparedSession := alloc }
      else s.client
    | _ => s.client
  | _ => s.client

theorem beginOperation_client (client : Client) (a : Await) :
    (client.beginOperation a).1.client = client ∧ (client.beginOperation a).1.task.Guarded := by
  unfold Client.beginOperation
  split
  · exact ⟨rfl, trivial⟩
  · next guard hg => exact ⟨rfl, (Operation.new_ok hg).1⟩

theorem beginPrepared_client {client : Client} {stmt : PreparedStatement} {params : List Param}
    {command : Option (List RpcParameter) → Command} {r : Stepped}
    (h : client.beginPrepared stmt params command = some r) :
    r.1.client = client ∧ r.1.task.Guarded := by
  unfold Client.beginPrepared at h
  split at h
  · cases h; exact ⟨rfl, trivial⟩
  · split at h <;> cases h
    exact beginOperation_client client _

theorem beginReset_client (client : Client) (alloc : Token) (pooled : Bool) :
    (client.beginReset alloc pooled).1.client =
        (if client.inner.dead then client else { client with preparedSession := alloc }) ∧
      (client.beginReset alloc pooled).1.task.Guarded := by
  cases hd : client.inner.dead with
  | true => rw [Client.beginReset, ensureUsable_dead hd]; exact ⟨rfl, trivial⟩
  | false => rw [Client.beginReset, ensureUsable_usable hd]; exact ⟨rfl, rfl⟩

theorem beginRecycle_client (client : Client) (alloc : Token) (method : RecyclingMethod) :
    (client.beginRecycle alloc method).1.client =
        (if (Entry.recycle method).resets && !client.inner.dead then
          { client with preparedSession := alloc } else client) ∧
      (client.beginRecycle alloc method).1.task.Guarded := by
  cases hd : client.inner.dead with
  | true =>
    simp only [Client.beginRecycle, ensureUsable_dead hd]
    exact ⟨by simp, trivial⟩
  | false =>
    simp only [Client.beginRecycle, ensureUsable_usable hd]
    cases method with
    | reset =>
      have h := beginReset_client client alloc true
      rw [hd] at h
      exact h
    | ping => exact ⟨rfl, trivial⟩

/-- A future's first poll changes the client only where it begins a reset. -/
theorem firstPoll_client {client : Client} {alloc : Token} {e : Entry} {r : Stepped}
    (h : client.firstPoll alloc e = some r) :
    r.1.client = (if e.resets && !client.inner.dead then
        { client with preparedSession := alloc } else client) ∧ r.1.task.Guarded := by
  cases e with
  | simpleQuery | execute | prepare | bulkSend =>
    cases h
    exact beginOperation_client client _
  | query sql params =>
    simp only [Client.firstPoll] at h
    split at h
    · cases h; exact beginOperation_client client _
    · split at h <;> cases h
      exact beginOperation_client client _
  | queryPrepared | executePrepared | unprepare =>
    simp only [Client.firstPoll] at h
    exact beginPrepared_client h
  | ping => cases h; exact ⟨rfl, trivial⟩
  | resetSession =>
    cases h
    have hr := beginReset_client client alloc false
    cases hd : client.inner.dead <;> rw [hd] at hr <;> exact hr
  | recycle method => cases h; exact beginRecycle_client client alloc method
  | queryCompat | queryStreamed => cases h

theorem start_client {client : Client} {e : Entry} (h : client.start e = some s) :
    s.client = client ∧ s.task.Guarded := by
  unfold Client.start at h
  split at h
  · unfold Client.start.openStream at h
    split at h <;> cases h
    exact ⟨rfl, trivial, fun h => nomatch h⟩
  · unfold Client.start.openStream at h
    split at h <;> cases h
    exact ⟨rfl, trivial, fun h => nomatch h⟩
  · cases h; exact ⟨rfl, trivial⟩

theorem resumeOperation_client {client : Client} {guard : Operation} {a : Await}
    {out : Except TdsError Answer} {r : Stepped} (hg : guard.armed = true)
    (h : client.resumeOperation guard a out = some r) :
    r.1.client = client ∧ r.1.task.Guarded := by
  unfold Client.resumeOperation at h
  split at h <;> cases h
  · exact ⟨rfl, hg⟩
  · exact ⟨rfl, trivial⟩

theorem resumeReset_client {client : Client} {pooled : Bool} {guard : SessionReset}
    {a : ResetAwait} {out : Except TdsError Answer} {r : Stepped} (hg : guard.complete = false)
    (h : client.resumeReset pooled guard a out = some r) :
    r.1.client = (if out.isOk then client else client.withInner client.inner.markDead) ∧
      r.1.task.Guarded := by
  unfold Client.resumeReset at h
  split at h <;> cases h
  · rw [SessionReset.drop_incomplete hg]; exact ⟨rfl, trivial⟩
  · exact ⟨rfl, hg⟩
  · exact ⟨rfl, hg⟩
  · exact ⟨rfl, trivial⟩

/-- The driver's answer to a poll changes the client by itself, except that a reset's guard marks
a connection whose reset failed. -/
theorem reply_client {client : Client} {rp : Reply} {task : Task} {r : Stepped}
    (hg : task.Guarded) (h : reply client rp task = some r) :
    r.1.client = (if task.isReset && rp.fails then client.withInner client.inner.markDead
        else client) ∧ r.1.task.Guarded := by
  cases task with
  | idle | unpolled => cases h
  | operation guard a parked =>
    cases parked with
    | true => cases h
    | false =>
      simp only [reply] at h
      split at h
      · cases h; exact ⟨rfl, hg⟩
      · exact resumeOperation_client hg h
  | reset pooled guard a parked =>
    cases parked with
    | true => cases h
    | false =>
      simp only [reply] at h
      split at h
      · next hp => cases h; simp only [Reply.fails, hp]; exact ⟨rfl, hg⟩
      · next out hp =>
        obtain ⟨hc, ht⟩ := resumeReset_client hg h
        simp only [Reply.fails, hp]
        cases out <;> exact ⟨hc, ht⟩
  | stream s polling =>
    cases polling with
    | none => cases h
    | some consumer =>
      obtain ⟨hgen, -, hpeek⟩ := hg
      simp only [reply] at h
      split at h
      · cases h
        refine ⟨rfl, hgen, fun hs => ?_⟩
        rw [hpeek] at hs; cases hs
      · next guard a out hgs hp =>
        rw [hgs] at hgen
        have hs := StreamTask.resume_stepped hgen hpeek h
        exact ⟨hs.client_eq, hs.guarded⟩
      · cases h

/-- Dropping a future or stream marks the connection exactly when it is parked in a driver call. -/
theorem dropTask_client {client : Client} {task : Task} (hg : task.Guarded)
    (h : dropTask client task = some s) :
    s.client = (if task.parked then client.withInner client.inner.markDead else client) ∧
      s.task = .idle := by
  unfold dropTask at h
  split at h <;> cases h
  · exact ⟨rfl, rfl⟩
  · rw [Operation.drop_armed hg]; exact ⟨rfl, rfl⟩
  · rw [SessionReset.drop_incomplete hg]; exact ⟨rfl, rfl⟩
  · next t =>
    refine ⟨?_, rfl⟩
    cases hs : t.gen.isSuspended with
    | true => simp [Task.parked, hs, StreamState.drop_suspended hg.1 hs]
    | false => simp [Task.parked, hs, StreamState.drop_at_rest hs]

/-- One step: the client is the next one, and guards stay armed. -/
theorem step_client {ev : Event} (hg : s.task.Guarded) (h : s.step ev = some (s', os)) :
    s'.client = s.nextClient ev ∧ s'.task.Guarded := by
  obtain ⟨client, task⟩ := s
  cases ev with
  | start e =>
    simp only [step] at h
    split at h
    · obtain ⟨s1, h1, h2⟩ := Option.map_eq_some_iff.mp h
      cases h2
      exact start_client h1
    · cases h
  | poll alloc =>
    simp only [step] at h
    split at h
    · exact firstPoll_client h
    · cases h; exact ⟨rfl, hg⟩
    · cases h; exact ⟨rfl, hg⟩
    · have hs := StreamTask.pollNext_stepped hg h
      exact ⟨hs.client_eq, hs.guarded⟩
    · cases h
  | columns =>
    simp only [step] at h
    split at h
    · have hs := StreamTask.pollColumns_stepped hg h
      exact ⟨hs.client_eq, hs.guarded⟩
    · cases h
  | intoRowStream | intoResults =>
    simp only [step] at h
    split at h
    · cases h; exact ⟨rfl, hg⟩
    · cases h
  | reply r => exact reply_client hg h
  | drop =>
    obtain ⟨s1, h1, h2⟩ := Option.map_eq_some_iff.mp h
    cases h2
    obtain ⟨hc, ht⟩ := dropTask_client hg h1
    exact ⟨hc, by rw [ht]; trivial⟩

end Session

end TiberiusBridge

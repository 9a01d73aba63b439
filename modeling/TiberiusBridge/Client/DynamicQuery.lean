import TiberiusBridge.Client.StreamEquivalence
import TiberiusBridge.Compat.Binding
import TiberiusBridge.Lib.Simulation

/-!
# The future of `Query::query`

`Query::query` opens a stream and looks ahead for its columns before it hands
the stream over. Until then the future owns the stream: an error that the look
ahead meets drops it, and so does dropping the future. The future is run next to
the stream that it owns, and what is known of streams is read off there.
-/
namespace TiberiusBridge

open Lib (Run Trace Simulates ofStep)

section

variable [MssqlTds]

inductive QueryCall
  | unpolled (client : Client) (q : Query)
  /-- `columns` is awaited. -/
  | looking (s : Session)
  /-- The stream is the caller's. -/
  | opened (s : Session)
  /-- The future failed or was dropped. -/
  | ended (client : Client)

inductive QueryEvent
  | poll
  | drop
  | reply (r : Reply)
  /-- What the caller does with the stream it was given. -/
  | stream (ev : Event)

inductive QueryObs
  | issued (c : Call)
  /-- The future returns the stream; the columns that the look ahead found are discarded. -/
  | opened (columns : Option (List Column))
  | failed (e : Error)
  | stream (o : Obs)

namespace QueryCall

/-- What the look ahead has come to. An error drops the stream. -/
def settle : Stepped → Option (QueryCall × List QueryObs)
  | (s, []) => some (.looking s, [])
  | (s, [.issued c]) => some (.looking s, [.issued c])
  | (s, [.columns (.ok columns)]) => some (.opened s, [.opened columns])
  | (s, [.columns (.error e)]) => (s.step .drop).map fun r => (.ended r.1.client, [.failed e])
  | _ => none

def step : QueryCall → QueryEvent → Option (QueryCall × List QueryObs)
  | .unpolled client q, .poll => do settle (← (← client.start q.query).step .columns)
  | .unpolled client _, .drop => some (.ended client, [])
  | .looking s, .poll => do settle (← s.step .columns)
  | .looking s, .reply r => do settle (← s.step (.reply r))
  | .looking s, .drop => (s.step .drop).map fun r => (.ended r.1.client, [])
  | .opened s, .reply r => (s.step (.reply r)).map fun r => (.opened r.1, r.2.map .stream)
  | .opened s, .stream ev =>
    if ev.starts || ev.replies then none
    else (s.step ev).map fun r => (.opened r.1, r.2.map .stream)
  | _, _ => none

def inFlight : QueryCall → Option Call
  | .looking s | .opened s => s.task.inFlight
  | .unpolled _ _ | .ended _ => none

def dead : QueryCall → Bool
  | .unpolled client _ | .ended client => client.inner.dead
  | .looking s | .opened s => s.dead

end QueryCall

def QueryEvent.replies : QueryEvent → Bool
  | .reply _ => true
  | _ => false

/-- A script is played to the future, and then to the stream that it returned. -/
inductive QueryPlays : QueryCall × Cursor → QueryEvent → List QueryObs → QueryCall × Cursor → Prop
  | user {c c' : QueryCall} {cur : Cursor} {ev : QueryEvent} {os : List QueryObs}
      (hr : ev.replies = false) (h : c.step ev = some (c', os)) :
      QueryPlays (c, cur) ev os (c', cur)
  | driver {c c' : QueryCall} {cur cur' : Cursor} {call : Call} {r : Reply} {os : List QueryObs}
      (hc : c.inFlight = some call) (ha : cur.Answers call r cur')
      (h : c.step (.reply r) = some (c', os)) : QueryPlays (c, cur) (.reply r) os (c', cur')

namespace Query

variable {client : Client} {s : Session}

/-- Bound values are in range, so that making the future converts them. -/
theorem nativeParams_convert (q : Query) (unicode : Bool) :
    ∃ rpc, buildParamsWithStringEncoding q.nativeParams unicode = .ok rpc := by
  have from_ok : ∀ (values : List ColumnData) (i : Nat),
      ∃ rpc, buildParamsFrom unicode i (values.map fun value => .ok value.toSql) = .ok rpc := by
    intro values
    induction values with
    | nil => exact fun _ => ⟨[], rfl⟩
    | cons value values ih =>
      intro i
      obtain ⟨rpc, hrpc⟩ := ih (i + 1)
      exact ⟨_, by rw [List.map_cons, buildParamsFrom, hrpc]; rfl⟩
  exact from_ok q.params 0

theorem start_isSome (client : Client) (q : Query) : ∃ s, client.start q.query = some s := by
  obtain ⟨rpc, hrpc⟩ := Session.openStream_ok q.sql .compat (q.nativeParams_convert _)
  exact ⟨_, hrpc⟩

theorem start_query {q : Query} (h : client.start q.query = some s) :
    ∃ rpc, s = ⟨client, .stream { mode := .compat, queue := {}, gen := .unpolled q.sql rpc }
      none⟩ := by
  simp only [query, Client.start, Client.start.openStream] at h
  split at h <;> cases h
  exact ⟨_, rfl⟩

end Query

theorem Session.dropTask_idle {client : Client} {task : Task} {s : Session}
    (h : dropTask client task = some s) : s = ⟨s.client, .idle⟩ := by
  unfold dropTask at h
  split at h <;> cases h <;> rfl

namespace QueryObs

/-- What the stream showed. -/
def inner : QueryObs → Obs
  | .issued c => .issued c
  | .opened columns => .columns (.ok columns)
  | .failed e => .columns (.error e)
  | .stream o => o

def isFailed : QueryObs → Bool
  | .failed _ => true
  | _ => false

end QueryObs

/-- What the stream was asked for. -/
def QueryEvent.inner : QueryEvent → Event
  | .poll => .columns
  | .drop => .drop
  | .reply r => .reply r
  | .stream ev => ev

namespace QueryCall

/-- The steps that the stream takes; it is dropped once its look ahead fails. -/
def within (l : QueryEvent × List QueryObs) : Trace Event Obs :=
  (l.1.inner, l.2.map QueryObs.inner) ::
    if l.2.any QueryObs.isFailed then [(.drop, [])] else []

/-- The stream's session, started when the future is made. -/
def Owns : QueryCall → Session → Prop
  | .unpolled client q, s => client.start q.query = some s
  | .looking s', s | .opened s', s => s' = s
  | .ended client, s => s = ⟨client, .idle⟩

variable {c c' : QueryCall} {cur cur' : Cursor} {ev : QueryEvent} {os : List QueryObs}

theorem settle_run {s : Session} {r : Stepped} (ev : QueryEvent)
    (hp : Plays (s, cur) ev.inner r.2 (r.1, cur'))
    (h : settle r = some (c', os)) :
    ∃ s', Run Plays (s, cur) (within (ev, os)) (s', cur') ∧ c'.Owns s' := by
  unfold settle at h
  split at h
  · cases h; exact ⟨_, .single hp, rfl⟩
  · cases h; exact ⟨_, .single hp, rfl⟩
  · cases h; exact ⟨_, .single hp, rfl⟩
  · next s₁ e =>
    obtain ⟨r, hdrop, h⟩ := Option.map_eq_some_iff.mp h
    cases h
    obtain ⟨s₂, hdrop', hs⟩ := Option.map_eq_some_iff.mp hdrop
    obtain rfl : (s₂, []) = r := hs
    exact ⟨s₂, .cons hp (.single (.user rfl rfl hdrop)), Session.dropTask_idle hdrop'⟩
  · cases h

/-- The caller's own steps are the stream's. -/
theorem within_stream (ev : QueryEvent) (os : List Obs) :
    within (ev, os.map QueryObs.stream) = [(ev.inner, os)] := by
  have hinner : QueryObs.inner ∘ QueryObs.stream = id := rfl
  have hfailed : QueryObs.isFailed ∘ QueryObs.stream = fun _ => false := rfl
  simp [within, hinner, hfailed]

theorem plays_simulates :
    Simulates QueryPlays Plays (fun p q => p.1.Owns q.1 ∧ p.2 = q.2) within := by
  rintro p ev os p' ⟨s, cur⟩ ⟨hown, hcur⟩ hs
  cases hs with
  | @user c c' _ _ _ hr h =>
    obtain rfl := hcur
    cases c with
    | unpolled client q =>
      cases ev with
      | poll =>
        obtain ⟨s', hstart, h⟩ := Option.bind_eq_some_iff.mp h
        obtain rfl : s' = s := Option.some.inj (hstart.symm.trans hown)
        obtain ⟨r, hstep, h⟩ := Option.bind_eq_some_iff.mp h
        obtain ⟨s₁, hrun, ho⟩ := settle_run .poll (.user rfl rfl hstep) h
        exact ⟨_, hrun, ho, rfl⟩
      | drop =>
        cases h
        obtain ⟨rpc, rfl⟩ := Query.start_query hown
        exact ⟨_, .single (.user rfl rfl rfl), rfl, rfl⟩
      | reply | stream => cases h
    | looking s' =>
      obtain rfl : s' = s := hown
      cases ev with
      | poll =>
        obtain ⟨r, hstep, h⟩ := Option.bind_eq_some_iff.mp h
        obtain ⟨s₁, hrun, ho⟩ := settle_run .poll (.user rfl rfl hstep) h
        exact ⟨_, hrun, ho, rfl⟩
      | drop =>
        obtain ⟨r, hdrop, h⟩ := Option.map_eq_some_iff.mp h
        cases h
        obtain ⟨s₂, hdrop', hs⟩ := Option.map_eq_some_iff.mp hdrop
        obtain rfl : (s₂, []) = r := hs
        exact ⟨_, .single (.user rfl rfl hdrop), Session.dropTask_idle hdrop', rfl⟩
      | reply => cases hr
      | stream => cases h
    | opened s' =>
      obtain rfl : s' = s := hown
      cases ev with
      | stream a =>
        simp only [step] at h
        split at h
        · cases h
        · next ha =>
          obtain ⟨r, hstep, h⟩ := Option.map_eq_some_iff.mp h
          cases h
          rw [Bool.or_eq_true, not_or, Bool.not_eq_true, Bool.not_eq_true] at ha
          rw [within_stream]
          exact ⟨_, .single (.user ha.1 ha.2 hstep), rfl, rfl⟩
      | reply => cases hr
      | poll | drop => cases h
    | ended => cases ev <;> cases h
  | @driver c c' _ cur' call r _ hc ha h =>
    obtain rfl := hcur
    cases c with
    | unpolled | ended => cases hc
    | looking s' =>
      obtain rfl : s' = s := hown
      obtain ⟨res, hstep, h⟩ := Option.bind_eq_some_iff.mp h
      obtain ⟨s₁, hrun, ho⟩ := settle_run (.reply r) (.driver hc ha hstep) h
      exact ⟨_, hrun, ho, rfl⟩
    | opened s' =>
      obtain rfl : s' = s := hown
      obtain ⟨res, hstep, h⟩ := Option.map_eq_some_iff.mp h
      cases h
      rw [within_stream]
      exact ⟨_, .single (.driver hc ha hstep), rfl, rfl⟩

/-- The future has not returned yet. -/
def pending : QueryCall → Bool
  | .unpolled _ _ | .looking _ => true
  | .opened _ | .ended _ => false

/-- What a step does: the future waits or is dropped, it returns the stream, it fails, or the
caller uses the stream. -/
inductive Moves : QueryCall → List QueryObs → QueryCall → Prop
  | wait {c c' : QueryCall} {os : List QueryObs} (hc : c.pending = true)
      (ho : ∀ o ∈ os, ∃ call, o = .issued call) : Moves c os c'
  | hand {c : QueryCall} {s : Session} {columns : Option (List Column)} (hc : c.pending = true) :
      Moves c [.opened columns] (.opened s)
  | fail {c : QueryCall} {client : Client} {e : Error} (hc : c.pending = true) :
      Moves c [.failed e] (.ended client)
  | use {s s' : Session} {os : List Obs} : Moves (.opened s) (os.map .stream) (.opened s')

theorem settle_moves {r : Stepped} (hc : c.pending = true) (h : settle r = some (c', os)) :
    Moves c os c' := by
  unfold settle at h
  split at h
  · cases h; exact .wait hc (by simp)
  · cases h; exact .wait hc (by simp)
  · cases h; exact .hand hc
  · obtain ⟨r, -, h⟩ := Option.map_eq_some_iff.mp h
    cases h
    exact .fail hc
  · cases h

theorem step_moves (h : c.step ev = some (c', os)) : Moves c os c' := by
  unfold step at h
  split at h
  · obtain ⟨s, -, h⟩ := Option.bind_eq_some_iff.mp h
    obtain ⟨r, -, h⟩ := Option.bind_eq_some_iff.mp h
    exact settle_moves rfl h
  · cases h; exact .wait rfl (by simp)
  · obtain ⟨r, -, h⟩ := Option.bind_eq_some_iff.mp h
    exact settle_moves rfl h
  · obtain ⟨r, -, h⟩ := Option.bind_eq_some_iff.mp h
    exact settle_moves rfl h
  · obtain ⟨r, -, h⟩ := Option.map_eq_some_iff.mp h
    cases h
    exact .wait rfl (by simp)
  · obtain ⟨r, -, h⟩ := Option.map_eq_some_iff.mp h
    cases h
    exact .use
  · split at h
    · cases h
    · obtain ⟨r, -, h⟩ := Option.map_eq_some_iff.mp h
      cases h
      exact .use
  · cases h

theorem plays_step {p p' : QueryCall × Cursor} (h : QueryPlays p ev os p') :
    p.1.step ev = some (p'.1, os) := by
  cases h with
  | user _ h | driver _ _ h => exact h

end QueryCall

namespace QueryCall

variable {c c' : QueryCall} {ev : QueryEvent} {os : List QueryObs}

/-- A future that is awaited waits for the driver. -/
inductive Waits : Session → Prop
  | mk {client : Client} {s : StreamTask} {polling : Option Consumer} (hm : s.mode = .compat)
      (hp : s.queue.peeked = none) (hs : s.gen.isSuspended = true) (hg : s.gen.Guarded)
      (hn : polling ≠ some .next) : Waits ⟨client, .stream s polling⟩

def Ok : QueryCall → Prop
  | .unpolled _ _ | .ended _ => True
  | .looking s => Waits s
  | .opened s => s.task.Guarded

/-- What sets the dead flag: the driver, a drop of the future once it is awaited, or, of the
stream that it returned, a drop while a driver call is suspended. -/
def Killed : QueryCall → QueryEvent → Prop
  | .looking _, .reply r => r.kills = true
  | .looking _, .drop => True
  | .opened s, ev => s.Killed ev.inner
  | _, _ => False

theorem Waits.guarded {s : Session} (h : Waits s) : s.task.Guarded := by
  cases h with
  | @mk client s polling hm hp hs hg hn =>
    cases polling with
    | none => exact ⟨hg, fun h => by rw [hp] at h; cases h⟩
    | some consumer => exact ⟨hg, hs, hp⟩

/-- What a poll or an answer leads to while the future is awaited. -/
def Looks (r : Stepped) : Prop :=
  Waits r.1 ∧ (r.2 = [] ∨ ∃ call, r.2 = [.issued call]) ∨
    ∃ client st columns, r = (⟨client, .stream st none⟩, [.columns columns]) ∧
      st.gen.isSuspended = false

theorem settle_looks {s : StreamTask} {client : Client} {x : StreamResumed} {r : Stepped}
    (hm : s.mode = .compat) (hp : s.queue.peeked = none) (hx : x.Sound)
    (h : s.settle client .columns x = some r) : Looks r := by
  cases x with
  | await => cases h; exact .inl ⟨.mk hm hp rfl hx.1 (by simp), .inr ⟨_, rfl⟩⟩
  | item | error | finished => cases h; exact .inr ⟨_, _, _, rfl, rfl⟩

theorem Waits.columns {s : Session} {r : Stepped} (hs : Waits s)
    (h : s.step .columns = some r) : Looks r := by
  cases hs with
  | @mk client s polling hm hp hs hg hn =>
    cases polling with
    | some => cases h
    | none =>
      obtain ⟨mode, ⟨peeked, columns⟩, gen⟩ := s
      cases hm
      cases hp
      obtain ⟨guard, a, rfl⟩ := StreamState.eq_suspended hs
      cases h
      exact .inl ⟨.mk rfl rfl rfl hg (by simp), .inl rfl⟩

theorem Waits.reply {s : Session} {rp : Reply} {r : Stepped} (hs : Waits s)
    (h : s.step (.reply rp) = some r) : Looks r := by
  cases hs with
  | @mk client s polling hm hp hs hg hn =>
    cases polling with
    | none => cases h
    | some consumer =>
      cases consumer with
      | next => exact absurd rfl hn
      | columns =>
        obtain ⟨mode, queue, gen⟩ := s
        obtain ⟨guard, a, rfl⟩ := StreamState.eq_suspended hs
        simp only [Session.step, Session.reply] at h
        split at h
        · cases h
          exact .inl ⟨.mk hm hp rfl hg (by simp), .inl rfl⟩
        · next hg' _ =>
          cases hg'
          unfold StreamTask.resume at h
          split at h
          · cases h
          · next x hx => exact settle_looks hm hp (StreamAwait.resume_sound hg hx) h
        · cases h

theorem settle_ok {r : Stepped} (hl : Looks r) (hg : r.1.task.Guarded)
    (h : settle r = some (c', os)) : c'.Ok ∧ c'.dead = r.1.dead := by
  obtain ⟨s, shown⟩ := r
  rcases hl with ⟨hw, rfl | ⟨call, rfl⟩⟩ | ⟨client, st, columns, hr, hsusp⟩
  · cases h; exact ⟨hw, rfl⟩
  · cases h; exact ⟨hw, rfl⟩
  · cases hr
    cases columns with
    | ok columns => cases h; exact ⟨hg, rfl⟩
    | error e =>
      cases h
      refine ⟨trivial, ?_⟩
      simp only [dead, Session.dead, StreamState.drop_at_rest hsusp, Client.withInner_self]

/-- A step of the stream inside. -/
theorem settled_ok {s : Session} {e : Event} {r : Stepped} (hg : s.task.Guarded)
    (hstep : s.step e = some r) (hl : Looks r) (h : settle r = some (c', os)) :
    c'.Ok ∧ (c'.dead = true ↔ s.dead = true ∨ s.Killed e) := by
  obtain ⟨hok, hd⟩ := settle_ok hl (Session.step_client hg hstep).2 h
  rw [hd]
  exact ⟨hok, Session.step_dead hg hstep⟩

theorem step_ok (hc : c.Ok) (h : c.step ev = some (c', os)) :
    c'.Ok ∧ (c'.dead = true ↔ c.dead = true ∨ c.Killed ev) := by
  cases c with
  | unpolled client q =>
    cases ev with
    | poll =>
      obtain ⟨s, hstart, hstarted⟩ := Option.bind_eq_some_iff.mp h
      obtain ⟨r, hstep, hsettle⟩ := Option.bind_eq_some_iff.mp hstarted
      have hg := (Session.start_client hstart).2
      obtain ⟨rpc, rfl⟩ := Query.start_query hstart
      exact settled_ok hg hstep (settle_looks rfl rfl (StreamState.poll_sound rfl _) hstep) hsettle
    | drop => cases h; exact ⟨trivial, by simp [dead, Killed]⟩
    | reply | stream => cases h
  | looking s =>
    have hg := Waits.guarded hc
    cases ev with
    | poll =>
      obtain ⟨r, hstep, h⟩ := Option.bind_eq_some_iff.mp h
      exact settled_ok hg hstep (Waits.columns hc hstep) h
    | reply rp =>
      obtain ⟨r, hstep, h⟩ := Option.bind_eq_some_iff.mp h
      obtain ⟨hok, hd⟩ := settled_ok hg hstep (Waits.reply hc hstep) h
      refine ⟨hok, hd.trans ?_⟩
      cases hc
      simp [dead, Killed, Session.Killed, Task.isReset]
    | drop =>
      obtain ⟨r, hstep, h⟩ := Option.map_eq_some_iff.mp h
      cases h
      refine ⟨trivial, (Session.step_dead hg hstep).trans ?_⟩
      -- it can only be dropped while the call is suspended
      cases hc with
      | @mk client s polling hm hp hs hg hn =>
        cases polling with
        | some => cases hstep
        | none => simp [Killed, Session.Killed, Task.parked, hs]
    | stream => cases h
  | opened s =>
    have hg : s.task.Guarded := hc
    cases ev with
    | reply rp =>
      obtain ⟨r, hstep, h⟩ := Option.map_eq_some_iff.mp h
      cases h
      exact ⟨(Session.step_client hg hstep).2, Session.step_dead hg hstep⟩
    | stream a =>
      simp only [step] at h
      split at h
      · cases h
      · obtain ⟨r, hstep, h⟩ := Option.map_eq_some_iff.mp h
        cases h
        exact ⟨(Session.step_client hg hstep).2, Session.step_dead hg hstep⟩
    | poll | drop => cases h
  | ended => cases ev <;> cases h

end QueryCall

/-- Over any run of the future and of the stream that it returns, the connection is dead exactly
when it was before, or some step of the run had a cause. -/
theorem query_cancellation {client : Client} {q : Query} {t : Trace QueryEvent QueryObs}
    {c : QueryCall} (h : Run (ofStep QueryCall.step) (.unpolled client q) t c) :
    c.dead = true ↔ client.inner.dead = true ∨
      ∃ p ev os rest m, t = p ++ (ev, os) :: rest ∧
        Run (ofStep QueryCall.step) (.unpolled client q) p m ∧
        Run (ofStep QueryCall.step) m ((ev, os) :: rest) c ∧ m.Killed ev :=
  h.latch (I := QueryCall.Ok) (F := fun c => c.dead = true)
    (fun _ _ _ _ hc hs => QueryCall.step_ok hc hs) trivial

end

section

open Reference

/-- A future dropped while it waits for the driver. -/
theorem query_cancellation_dropped :
    ∃ c, Run (ofStep QueryCall.step) (.unpolled client (.new "SELECT 1"))
        [(.poll, [.issued .closeQuery]), (.reply { outcome := .pending }, []), (.drop, [])] c ∧
      ∃ p ev os rest m, [(QueryEvent.poll, [QueryObs.issued .closeQuery]),
          (.reply { outcome := .pending }, []), (.drop, [])] = p ++ (ev, os) :: rest ∧
        Run (ofStep QueryCall.step) (.unpolled client (.new "SELECT 1")) p m ∧
        Run (ofStep QueryCall.step) m ((ev, os) :: rest) c ∧ m.Killed ev := by
  have h : Run (ofStep QueryCall.step) (.unpolled client (.new "SELECT 1"))
      [(.poll, [.issued .closeQuery]), (.reply { outcome := .pending }, []), (.drop, [])] _ :=
    .cons rfl (.cons rfl (.cons rfl (.nil _)))
  exact ⟨_, h, ((query_cancellation h).mp rfl).resolve_left (by decide)⟩

end

end TiberiusBridge

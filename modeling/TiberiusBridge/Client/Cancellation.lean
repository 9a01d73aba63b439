import TiberiusBridge.Client.Frame
import TiberiusBridge.Lib.Runs
import TiberiusBridge.Tds.Reference

/-!
# Cancellation safety

Over any run of one client, with every future and stream polled any number of
times and dropped or completed at any point, the dead flag is set for the
stated causes only, is never cleared, and once set closes every entry point.
-/
namespace TiberiusBridge

open Lib (Run Trace ofStep)

section

variable [MssqlTds]

namespace Session

/-- A client that nothing borrows. -/
def connected (client : Client) : Session := ⟨client, .idle⟩

abbrev Runs (s : Session) (t : Trace Event Obs) (s' : Session) : Prop := Run (ofStep step) s t s'

def dead (s : Session) : Bool := s.client.inner.dead

/-- What sets the dead flag: the driver itself, a drop while suspended inside a driver call, or a
started reset that fails. -/
def Killed (s : Session) : Event → Prop
  | .reply r => r.kills = true ∨ s.task.isReset = true ∧ r.fails = true
  | .drop => s.task.parked = true
  | _ => False

variable {s s' : Session} {os : List Obs} {t : Trace Event Obs} {ev : Event}

/-- One step sets the flag for a cause, and never clears it. -/
theorem step_dead (hg : s.task.Guarded) (h : s.step ev = some (s', os)) :
    s'.dead = true ↔ s.dead = true ∨ s.Killed ev := by
  obtain ⟨hc, -⟩ := step_client hg h
  unfold dead
  rw [hc]
  cases ev with
  | start | columns | intoRowStream | intoResults => simp [nextClient, Killed]
  | poll alloc =>
    simp only [nextClient, Killed, or_false]
    split
    · split <;> rfl
    · rfl
  | reply r =>
    simp only [nextClient, Killed]
    split
    · next hf => simp [Bool.and_eq_true_iff.mp hf]
    · next hf =>
      rw [Bool.and_eq_true_iff] at hf
      simp [hf]
  | drop =>
    simp only [nextClient, Killed]
    split
    · next hp => simp [hp]
    · next hp => simp [hp]

theorem runs_guarded (h : Runs s t s') (hg : s.task.Guarded) : s'.task.Guarded :=
  h.invariant (I := fun s => s.task.Guarded) (fun _ _ _ _ hg hs => (step_client hg hs).2) hg

/-- Over a run the flag is set exactly when it was set before, or some step of the run had a
cause. -/
theorem runs_dead (h : Runs s t s') (hg : s.task.Guarded) :
    s'.dead = true ↔ s.dead = true ∨
      ∃ p ev os q m, t = p ++ (ev, os) :: q ∧ Runs s p m ∧ Runs m ((ev, os) :: q) s' ∧
        m.Killed ev :=
  h.latch (I := fun s => s.task.Guarded) (F := fun s => s.dead = true)
    (fun _ _ _ _ hg hs => ⟨(step_client hg hs).2, step_dead hg hs⟩) hg

end Session

namespace Obs

/-- The entry point, or its stream, answers `ConnectionClosed`. -/
def Closed : Obs → Prop
  | returned r => r = .error connectionClosed
  | recycled r => r = .error connectionClosed
  | item i => i = some (.error connectionClosed)
  | row r => r = some (.error connectionClosed)
  | columns r => r = .error connectionClosed
  | issued _ | armReset _ => False

/-- A stream that has yielded its error has only its end to show, `into_results` an empty list. -/
def Ended : Obs → Prop
  | returned r => r = .ok (.results [])
  | item i => i = none
  | row r => r = none
  | columns r => r = .ok none
  | recycled _ | issued _ | armReset _ => False

end Obs

/-- The events by which the user asks the future or stream for an answer. -/
def Event.asks : Event → Bool
  | .poll _ | .columns => true
  | _ => false

def Event.starts : Event → Bool
  | .start _ => true
  | _ => false

/-- The parameters an entry point converts. -/
def Entry.params : Entry → List Param
  | .query _ params | .execute _ params | .queryCompat _ params | .queryStreamed _ params
  | .prepare _ params | .queryPrepared _ params | .executePrepared _ params => params
  | _ => []

def Entry.Converts (client : Client) (e : Entry) : Prop :=
  ∃ rpc, buildParamsWithStringEncoding e.params client.sendStringParametersAsUnicode = .ok rpc

namespace Client

variable {client : Client} {e : Entry} {r : Stepped}

theorem beginOperation_dead (hd : client.inner.dead = true) (a : Await) :
    client.beginOperation a = (⟨client, .idle⟩, [.returned (.error connectionClosed)]) := by
  rw [beginOperation, Operation.new_dead hd]

theorem beginPrepared_dead (hd : client.inner.dead = true) (stmt : PreparedStatement)
    (params : List Param) (command : Option (List RpcParameter) → Command) :
    client.beginPrepared stmt params command =
      some (⟨client, .idle⟩, [.returned (.error connectionClosed)]) := by
  rw [beginPrepared, checkPrepared, ensureUsable_dead hd]
  rfl

theorem beginReset_dead (hd : client.inner.dead = true) (alloc : Token) (pooled : Bool) :
    client.beginReset alloc pooled =
      (⟨client, .idle⟩, [resetResult pooled (.error connectionClosed)]) := by
  rw [beginReset, ensureUsable_dead hd]

theorem beginRecycle_dead (hd : client.inner.dead = true) (alloc : Token)
    (method : RecyclingMethod) :
    client.beginRecycle alloc method =
      (⟨client, .idle⟩, [.recycled (.error connectionClosed)]) := by
  simp only [beginRecycle, ensureUsable_dead hd]

/-- On a dead connection a future's first poll is its last, and issues no call. -/
theorem firstPoll_dead (hd : client.inner.dead = true) {alloc : Token}
    (h : client.firstPoll alloc e = some r) :
    r.1 = ⟨client, .idle⟩ ∧ ∃ o, r.2 = [o] ∧ o.Closed := by
  cases e with
  | simpleQuery | execute | prepare | bulkSend =>
    simp only [firstPoll, beginOperation_dead hd, Option.some.injEq] at h
    subst h
    exact ⟨rfl, _, rfl, rfl⟩
  | query sql params =>
    simp only [firstPoll, beginOperation_dead hd] at h
    split at h
    · cases h; exact ⟨rfl, _, rfl, rfl⟩
    · split at h <;> cases h
      exact ⟨rfl, _, rfl, rfl⟩
  | queryPrepared | executePrepared | unprepare =>
    simp only [firstPoll, beginPrepared_dead hd, Option.some.injEq] at h
    subst h
    exact ⟨rfl, _, rfl, rfl⟩
  | ping =>
    simp only [firstPoll, ensureUsable_dead hd, Option.some.injEq] at h
    subst h
    exact ⟨rfl, _, rfl, rfl⟩
  | resetSession =>
    simp only [firstPoll, beginReset_dead hd, Option.some.injEq] at h
    subst h
    exact ⟨rfl, _, rfl, rfl⟩
  | recycle method =>
    simp only [firstPoll, beginRecycle_dead hd, Option.some.injEq] at h
    subst h
    exact ⟨rfl, _, rfl, rfl⟩
  | queryCompat | queryStreamed => cases h

end Client

namespace Session

variable {s s' : Session} {os : List Obs} {t : Trace Event Obs} {ev : Event}

/-- An entry point called on a dead connection, before its first answer. -/
inductive Refusing : Session → Prop
  | future (client : Client) (e : Entry) (hd : client.inner.dead = true) :
      Refusing ⟨client, .unpolled e⟩
  | stream (client : Client) (mode : StreamMode) (sql : String)
      (params : Option (List RpcParameter)) (hd : client.inner.dead = true)
      (hm : mode = .compat ∨ mode = .rows .active ∨ mode = .results []) :
      Refusing ⟨client, .stream ⟨mode, {}, .unpolled sql params⟩ none⟩

/-- The same entry point once it has answered or been dropped. -/
inductive Refused : Session → Prop
  | idle (client : Client) : Refused ⟨client, .idle⟩
  | stream (client : Client) (mode : StreamMode) (gen : StreamState)
      (hg : gen = .yielded .error ∨ gen = .finished)
      (hm : mode = .compat ∨ (∃ r, mode = .rows r) ∨ mode = .results []) :
      Refused ⟨client, .stream ⟨mode, {}, gen⟩ none⟩

theorem poll_last (client : Client) {gen : StreamState}
    (hg : gen = .yielded .error ∨ gen = .finished) : gen.poll client.inner = .finished := by
  rcases hg with rfl | rfl <;> rfl

/-- Where nothing borrows the client, only an entry point can be called. -/
theorem step_idle (client : Client) (hn : ev.starts = false) :
    step ⟨client, .idle⟩ ev = none := by
  cases ev with
  | start => cases hn
  | poll | columns | intoRowStream | intoResults | reply | drop => rfl

theorem step_refused (hr : s.Refused) (hn : ev.starts = false)
    (h : s.step ev = some (s', os)) : s'.Refused ∧ ∀ o ∈ os, o.Ended := by
  cases hr with
  | idle client => rw [step_idle client hn] at h; cases h
  | stream client mode gen hg hm =>
    have hp := poll_last client hg
    have hin : ∀ (mode : StreamMode) (consumer : Consumer),
        (StreamTask.mk mode {} gen).pollInner client consumer =
          some ((StreamTask.mk mode {} .finished).deliverLast client consumer none) := by
      intro mode consumer
      rcases hg with rfl | rfl <;> rfl
    cases ev with
    | start => cases hn
    | reply => cases h
    | drop =>
      cases h
      exact ⟨.idle _, by simp⟩
    | columns =>
      rcases hm with rfl | ⟨r, rfl⟩ | rfl
      · simp only [step, StreamTask.pollColumns, hin] at h
        cases h
        exact ⟨.stream _ _ _ (.inr rfl) (.inl rfl), by simp [Obs.Ended, QueryStream.columnList]⟩
      · cases h
      · cases h
    | intoRowStream =>
      rcases hm with rfl | ⟨r, rfl⟩ | rfl <;> cases h
      exact ⟨.stream _ _ _ hg (.inr (.inl ⟨_, rfl⟩)), by simp⟩
    | intoResults =>
      rcases hm with rfl | ⟨r, rfl⟩ | rfl <;> cases h
      exact ⟨.stream _ _ _ hg (.inr (.inr rfl)), by simp⟩
    | poll alloc =>
      rcases hm with rfl | ⟨r, rfl⟩ | rfl
      · simp only [step, StreamTask.pollNext, QueryStream.takePeeked, hin] at h
        cases h
        exact ⟨.stream _ _ _ (.inr rfl) (.inl rfl), by simp [Obs.Ended]⟩
      · cases r with
        | active =>
          simp only [step, StreamTask.pollNext, QueryStream.takePeeked, hin] at h
          cases h
          exact ⟨.stream _ _ _ (.inr rfl) (.inr (.inl ⟨_, rfl⟩)), by simp [Obs.Ended]⟩
        | failed | finished =>
          cases h
          exact ⟨.stream _ _ _ hg (.inr (.inl ⟨_, rfl⟩)), by simp [Obs.Ended]⟩
      · simp only [step, StreamTask.pollNext, QueryStream.takePeeked, hin] at h
        cases h
        exact ⟨.idle _, by simp [Obs.Ended]⟩

/-- The first answer of an entry point refused is `ConnectionClosed`. -/
theorem step_refusing (hr : s.Refusing) (hn : ev.starts = false)
    (h : s.step ev = some (s', os)) :
    os = [] ∧ ev.asks = false ∧ (s'.Refusing ∨ s'.task = .idle) ∨
      (∃ o, os = [o] ∧ o.Closed) ∧ s'.Refused := by
  cases hr with
  | future client e hd =>
    cases ev with
    | start => cases hn
    | poll alloc =>
      obtain ⟨hs, ho⟩ := Client.firstPoll_dead hd h
      cases s'
      cases hs
      exact .inr ⟨ho, .idle _⟩
    | drop => cases h; exact .inl ⟨rfl, rfl, .inr rfl⟩
    | columns | intoRowStream | intoResults | reply => cases h
  | stream client mode sql params hd hm =>
    have hin : ∀ (mode : StreamMode) (consumer : Consumer),
        (StreamTask.mk mode {} (.unpolled sql params)).pollInner client consumer =
          some ((StreamTask.mk mode {} (.yielded .error)).deliverLast client consumer
            (some connectionClosed)) := by
      intro mode consumer
      simp only [StreamTask.pollInner, StreamState.poll, streamStart, StreamResumed.guarded,
        Operation.new_dead hd, StreamTask.settle]
    cases ev with
    | start => cases hn
    | reply => cases h
    | drop => cases h; exact .inl ⟨rfl, rfl, .inr rfl⟩
    | columns =>
      rcases hm with rfl | rfl | rfl
      · simp only [step, StreamTask.pollColumns, hin] at h
        cases h
        exact .inr ⟨⟨_, rfl, rfl⟩, .stream _ _ _ (.inl rfl) (.inl rfl)⟩
      · cases h
      · cases h
    | intoRowStream =>
      rcases hm with rfl | rfl | rfl <;> cases h
      exact .inl ⟨rfl, rfl, .inl (.stream _ _ _ _ hd (.inr (.inl rfl)))⟩
    | intoResults =>
      rcases hm with rfl | rfl | rfl <;> cases h
      exact .inl ⟨rfl, rfl, .inl (.stream _ _ _ _ hd (.inr (.inr rfl)))⟩
    | poll alloc =>
      right
      rcases hm with rfl | rfl | rfl <;>
        simp only [step, StreamTask.pollNext, QueryStream.takePeeked, hin] at h <;> cases h
      · exact ⟨⟨_, rfl, rfl⟩, .stream _ _ _ (.inl rfl) (.inl rfl)⟩
      · exact ⟨⟨_, rfl, rfl⟩, .stream _ _ _ (.inl rfl) (.inr (.inl ⟨_, rfl⟩))⟩
      · exact ⟨⟨_, rfl, rfl⟩, .idle _⟩

theorem runs_refused (h : Runs s t s') (hr : s.Refused) (hn : ∀ l ∈ t, l.1.starts = false) :
    ∀ o ∈ t.observed, o.Ended := by
  induction h with
  | nil => intro o ho; cases ho
  | cons hs _ ih =>
    obtain ⟨hr, ho⟩ := step_refused hr (hn _ List.mem_cons_self) hs
    intro o hm
    rcases List.mem_append.mp hm with hm | hm
    · exact ho o hm
    · exact ih hr (fun l hl => hn l (List.mem_cons_of_mem _ hl)) o hm

/-- What a refused entry point shows: nothing until it is asked, then `ConnectionClosed` once. -/
def ShowsRefusal (t : Trace Event Obs) : Prop :=
  t.observed = [] ∧ (∀ l ∈ t, l.1.asks = false) ∨
    ∃ o rest, t.observed = o :: rest ∧ o.Closed ∧ ∀ o ∈ rest, o.Ended

theorem runs_refusing (h : Runs s t s') (hr : s.Refusing) (hn : ∀ l ∈ t, l.1.starts = false) :
    ShowsRefusal t := by
  induction h with
  | nil => exact .inl ⟨rfl, by simp⟩
  | @cons s m s' ev os t hs hrest ih =>
    have hn' : ∀ l ∈ t, l.1.starts = false := fun l hl => hn l (List.mem_cons_of_mem _ hl)
    rcases step_refusing hr (hn _ List.mem_cons_self) hs with ⟨rfl, hq, hr | hr⟩ | ⟨⟨o, rfl, ho⟩, hr⟩
    · rcases ih hr hn' with ⟨ht, hq'⟩ | hc
      · exact .inl ⟨ht, List.forall_mem_cons.mpr ⟨hq, hq'⟩⟩
      · exact .inr hc
    · cases hrest with
      | nil => exact .inl ⟨rfl, by simpa using hq⟩
      | @cons _ _ _ ev' _ _ hs' _ =>
        obtain ⟨client, task⟩ := m
        cases hr
        have hnone := (step_idle client (hn' _ List.mem_cons_self)).symm.trans hs'
        cases hnone
    · exact .inr ⟨o, t.observed, rfl, ho, runs_refused hrest hr hn'⟩

theorem openStream_ok {client : Client} {params : List Param} (sql : String) (mode : StreamMode)
    (h : ∃ rpc, buildParamsWithStringEncoding params client.sendStringParametersAsUnicode = .ok rpc) :
    ∃ rpc, Client.start.openStream client sql params mode =
      some ⟨client, .stream { mode, queue := {}, gen := .unpolled sql rpc } none⟩ := by
  obtain ⟨rpc, h⟩ := h
  obtain ⟨r, hr⟩ := rpcParams_ok h
  exact ⟨r, by rw [Client.start.openStream, hr]⟩

theorem firstPoll_isSome_of_dead {client : Client} (hd : client.inner.dead = true) {e : Entry}
    (he : e.Converts client) (alloc : Token)
    (hs : client.start e = some ⟨client, .unpolled e⟩) : (client.firstPoll alloc e).isSome := by
  cases e with
  | queryCompat sql params | queryStreamed sql params =>
    obtain ⟨rpc, hr⟩ := openStream_ok sql _ he
    cases hr.symm.trans hs
  | query sql params =>
    obtain ⟨rpc, hr⟩ := he
    simp only [Entry.params] at hr
    simp only [Client.firstPoll, hr]
    split <;> rfl
  | queryPrepared | executePrepared | unprepare =>
    simp only [Client.firstPoll, Client.beginPrepared_dead hd, Option.isSome_some]
  | simpleQuery | execute | prepare | bulkSend | ping | resetSession | recycle => rfl

/-- A refused entry point does answer, unless converting its parameters panics. -/
theorem refused_answers {client : Client} (hd : client.inner.dead = true) {e : Entry}
    (he : e.Converts client) (alloc : Token) :
    ∃ s₁ s₂ o, step (connected client) (.start e) = some (s₁, []) ∧
      step s₁ (.poll alloc) = some (s₂, [o]) ∧ o.Closed := by
  have hr : ∃ s₁, client.start e = some s₁ ∧ s₁.Refusing ∧ (step s₁ (.poll alloc)).isSome := by
    by_cases hs : client.start e = some ⟨client, .unpolled e⟩
    · exact ⟨_, hs, .future client e hd, firstPoll_isSome_of_dead hd he alloc hs⟩
    · cases e with
      | queryCompat sql params =>
        obtain ⟨rpc, hr⟩ := openStream_ok sql _ he
        refine ⟨_, hr, .stream _ _ _ _ hd (.inl rfl), ?_⟩
        simp [step, StreamTask.pollNext, QueryStream.takePeeked, StreamTask.pollInner,
          StreamState.poll, streamStart, StreamResumed.guarded, Operation.new_dead hd,
          StreamTask.settle]
      | queryStreamed sql params =>
        obtain ⟨rpc, hr⟩ := openStream_ok sql _ he
        refine ⟨_, hr, .stream _ _ _ _ hd (.inr (.inl rfl)), ?_⟩
        simp [step, StreamTask.pollNext, QueryStream.takePeeked, StreamTask.pollInner,
          StreamState.poll, streamStart, StreamResumed.guarded, Operation.new_dead hd,
          StreamTask.settle]
      | _ => exact absurd rfl hs
  obtain ⟨s₁, hs, hr, hp⟩ := hr
  obtain ⟨⟨s₂, os⟩, hp⟩ := Option.isSome_iff_exists.mp hp
  have hstart : step (connected client) (.start e) = some (s₁, []) := by
    simp only [step, connected, hs, Option.map_some]
  rcases step_refusing hr rfl hp with ⟨-, h, -⟩ | ⟨⟨o, rfl, ho⟩, -⟩
  · cases h
  · exact ⟨s₁, s₂, o, hstart, hp, ho⟩

end Session

/-- Unpolled, or a stream between items: no call is suspended. -/
def Task.atRest : Task → Bool
  | .unpolled _ => true
  | .stream s none => !s.gen.isSuspended
  | _ => false

theorem Task.atRest_not_parked {task : Task} (h : task.atRest = true) : task.parked = false := by
  unfold Task.atRest at h
  split at h
  · rfl
  · simpa [Task.parked] using h
  · cases h

/-- What holds of a session `s` that a run with trace `t` reaches from a client on its own. -/
structure CancellationSafe (client : Client) (t : Trace Event Obs) (s : Session) : Prop where
  /-- The flag is set exactly when it was at the start, or when a step of the run had a cause. -/
  set_iff : s.dead = true ↔ client.inner.dead = true ∨
    ∃ p ev os q m, t = p ++ (ev, os) :: q ∧ (Session.connected client).Runs p m ∧
      m.Runs ((ev, os) :: q) s ∧ m.Killed ev
  drop_at_rest : s.task.atRest = true → ∀ s' os, s.step .drop = some (s', os) → s'.dead = s.dead
  /-- Whether it completes or not, a step that neither drops nor resets leaves the flag to the
  driver. -/
  unset_by_step : s.task.isReset = false → ∀ ev s' os, s.step ev = some (s', os) → ev ≠ .drop →
    (∀ r, ev = .reply r → r.kills = false) → s'.dead = s.dead
  latched : s.dead = true → ∀ t' s', s.Runs t' s' → s'.dead = true
  closed : s.dead = true → s.task = .idle → ∀ e os t' s', s.Runs ((.start e, os) :: t') s' →
    (∀ l ∈ t', l.1.starts = false) → os = [] ∧ Session.ShowsRefusal t'
  answers : s.dead = true → s.task = .idle → ∀ e alloc, e.Converts s.client →
    ∃ s₁ s₂ o, s.step (.start e) = some (s₁, []) ∧ s₁.step (.poll alloc) = some (s₂, [o]) ∧
      o.Closed

namespace Session

variable {s s' : Session} {os : List Obs} {ev : Event}

theorem dead_eq_of_not_killed (hg : s.task.Guarded) (h : s.step ev = some (s', os))
    (hk : ¬ s.Killed ev) : s'.dead = s.dead := by
  have hd := step_dead hg h
  rw [Bool.eq_iff_iff, hd]
  exact or_iff_left hk

theorem start_refusing {client : Client} (hd : client.inner.dead = true) {e : Entry}
    (h : step (connected client) (.start e) = some (s, os)) : os = [] ∧ s.Refusing := by
  obtain ⟨s₁, hs, h⟩ := Option.map_eq_some_iff.mp h
  cases h
  refine ⟨rfl, ?_⟩
  unfold Client.start at hs
  split at hs
  · unfold Client.start.openStream at hs
    split at hs <;> cases hs
    exact .stream _ _ _ _ hd (.inl rfl)
  · unfold Client.start.openStream at hs
    split at hs <;> cases hs
    exact .stream _ _ _ _ hd (.inr (.inl rfl))
  · cases hs; exact .future _ _ hd

end Session

/-- Every reachable session is cancellation safe, whatever the driver answers and wherever the
user drops. -/
theorem cancellation_safety {client : Client} {t : Trace Event Obs} {s : Session}
    (h : (Session.connected client).Runs t s) : CancellationSafe client t s := by
  have hg : s.task.Guarded := Session.runs_guarded h trivial
  refine ⟨Session.runs_dead h trivial, ?_, ?_, ?_, ?_, ?_⟩
  · intro hr s' os hs
    refine Session.dead_eq_of_not_killed hg hs ?_
    simp [Session.Killed, Task.atRest_not_parked hr]
  · intro hr ev s' os hs hd hk
    refine Session.dead_eq_of_not_killed hg hs ?_
    cases ev with
    | reply r => simp [Session.Killed, hr, hk r rfl]
    | drop => exact absurd rfl hd
    | start | poll | columns | intoRowStream | intoResults => exact not_false
  · intro hd t' s' hr
    exact (Session.runs_dead hr hg).mpr (.inl hd)
  · intro hd hi e os t' s' hr hn
    obtain ⟨c, task⟩ := s
    cases hi
    cases hr with
    | cons hs hr =>
      obtain ⟨rfl, hm⟩ := Session.start_refusing hd hs
      exact ⟨rfl, Session.runs_refusing hr hm hn⟩
  · intro hd hi e alloc he
    obtain ⟨c, task⟩ := s
    cases hi
    exact Session.refused_answers hd he alloc

end

section

open Reference

/-- A query dropped while its drain is pending, and a ping after it. -/
theorem cancellation_safety_dropped_query :
    ∃ s, (Session.connected client).Runs
        [(.start (.simpleQuery "SELECT 1"), []), (.poll 1, [.issued .closeQuery]),
          (.reply { outcome := .pending }, []), (.drop, [])] s ∧
      CancellationSafe client
        [(.start (.simpleQuery "SELECT 1"), []), (.poll 1, [.issued .closeQuery]),
          (.reply { outcome := .pending }, []), (.drop, [])] s ∧
      s.dead = true ∧ s.task = .idle := by
  have h : (Session.connected client).Runs
      [(.start (.simpleQuery "SELECT 1"), []), (.poll 1, [.issued .closeQuery]),
        (.reply { outcome := .pending }, []), (.drop, [])] _ :=
    .cons rfl (.cons rfl (.cons rfl (.cons rfl (.nil _))))
  exact ⟨_, h, cancellation_safety h, rfl, rfl⟩

end

end TiberiusBridge

import TiberiusBridge.Client.StreamPlayback

/-!
# The streaming and the buffered query paths agree

Both walk the same script. Whatever either returns is what the script amounts
to, and both do return: a driver that answers takes them to the end.
-/
namespace TiberiusBridge

open Lib (Run Trace ofStep)

section

variable [MssqlTds]

namespace Response

def size : Response → Nat
  | done | fail _ => 1
  | noRows rest => rest.size + 1
  | set _ rows rest => rows.length + rest.size + 2
  | brokenSet _ rows _ => rows.length + 2

end Response

def ResultSet.size (set : ResultSet) : Nat :=
  set.rows.length + 1 + match set.after with
    | .ok rest => rest.size
    | .error _ => 0

/-- A bound on the answers still to come. -/
def Cursor.size : Cursor → Nat
  | start s => s.response.size + 2
  | drained s => s.response.size + 1
  | between r => r.size
  | onSet set => set.size
  | exhausted => 0

theorem Response.advance_size {r : Response} {set : ResultSet}
    (h : r.advance = .ok (some set)) : set.size < r.size := by
  induction r with
  | noRows rest ih => exact (ih h).trans (Nat.lt_succ_self _)
  | set | brokenSet => cases h; simp only [ResultSet.size, Response.size]; omega
  | done | fail => cases h

theorem Response.size_pos (r : Response) : 0 < r.size := by cases r <;> simp [Response.size]

/-- The driver can answer the call, with an answer of which `P` holds, and has less to answer
then. -/
def Cursor.CanAnswer (cur : Cursor) (call : Call) (P : Except TdsError Answer → Prop) : Prop :=
  ∃ r o cur', cur.Answers call r cur' ∧ r.outcome = .ready o ∧ cur'.size < cur.size ∧ P o

theorem Cursor.can_drain (s : Script) :
    (start s).CanAnswer .closeQuery fun o => o = .ok .unit ∨ ∃ e, o = .error e := by
  cases hd : s.drain with
  | none => exact ⟨{ outcome := .ready (.ok .unit) }, _, _, .drain hd rfl rfl, rfl,
      Nat.lt_succ_self _, .inl rfl⟩
  | some e => exact ⟨{ outcome := .ready (.error e) }, _, _, .drainError hd rfl, rfl,
      Nat.succ_pos _, .inr ⟨e, rfl⟩⟩

theorem Cursor.can_request (s : Script) {call : Call} (hc : call.isRequest = true) :
    (drained s).CanAnswer call fun o =>
      o = .ok (.statement .finished) ∨ ∃ e, o = .error e := by
  cases he : s.execute with
  | none => exact ⟨{ outcome := .ready (.ok (.statement .finished)) }, _, _,
      .request hc he rfl rfl rfl, rfl, Nat.lt_succ_self _, .inl rfl⟩
  | some e => exact ⟨{ outcome := .ready (.error e) }, _, _, .requestError hc he rfl, rfl,
      Nat.succ_pos _, .inr ⟨e, rfl⟩⟩

theorem Cursor.can_advance (resp : Response) :
    (between resp).CanAnswer .advanceToRows fun o =>
      (∃ more, o = .ok (.flag more)) ∨ ∃ e, o = .error e := by
  cases ha : resp.advance with
  | error e => exact ⟨{ outcome := .ready (.error e) }, _, _, .advanceError ha rfl, rfl,
      resp.size_pos, .inr ⟨e, rfl⟩⟩
  | ok stop =>
    cases stop with
    | none => exact ⟨{ outcome := .ready (.ok (.flag false)) }, _, _, .advanceEnd ha rfl rfl, rfl,
        resp.size_pos, .inl ⟨false, rfl⟩⟩
    | some set => exact ⟨{
          outcome := .ready (.ok (.flag true)), onRows := true, metadata := set.metadata }, _, _,
        .advanceSet ha rfl rfl rfl rfl, rfl, Response.advance_size ha, .inl ⟨true, rfl⟩⟩

theorem Cursor.can_read (set : ResultSet) :
    (onSet set).CanAnswer .nextRowInto fun o =>
      (∃ cells more, o = .ok (.row cells more)) ∨ ∃ e, o = .error e := by
  obtain ⟨metadata, rows, after⟩ := set
  cases rows with
  | cons cells rows => exact ⟨{ outcome := .ready (.ok (.row cells true)) }, _, _, .row rfl rfl,
      rfl, by simp only [Cursor.size, ResultSet.size, List.length_cons]; omega,
      .inl ⟨cells, true, rfl⟩⟩
  | nil =>
    cases after with
    | ok rest => exact ⟨{ outcome := .ready (.ok (.row [] false)) }, _, _, .rowEnd rfl rfl, rfl,
        by simp only [Cursor.size, ResultSet.size, List.length_nil]; omega, .inl ⟨[], false, rfl⟩⟩
    | error e => exact ⟨{ outcome := .ready (.error e) }, _, _, .rowError rfl, rfl,
        by simp [Cursor.size, ResultSet.size], .inr ⟨e, rfl⟩⟩

/-- A body that waits for the driver can be answered, and then resumes. -/
theorem Await.can_resume {a : Await} {cur : Cursor} {out : Result (List (List Row))}
    (hd : a.Denotes cur out) (client : Client) :
    ∃ r o cur' x, cur.Answers a.call r cur' ∧ r.outcome = .ready o ∧ cur'.size < cur.size ∧
      a.resume (client.withInner (client.inner.after r)) o = some x := by
  have finish : ∀ {P : Except TdsError Answer → Prop}, cur.CanAnswer a.call P →
      (∀ o client, P o → (a.resume client o).isSome) →
      ∃ r o cur' x, cur.Answers a.call r cur' ∧ r.outcome = .ready o ∧ cur'.size < cur.size ∧
        a.resume (client.withInner (client.inner.after r)) o = some x := by
    rintro P ⟨r, o, cur', ha, ho, hlt, hp⟩ hr
    obtain ⟨x, hx⟩ := Option.isSome_iff_exists.mp (hr o _ hp)
    exact ⟨r, o, cur', x, ha, ho, hlt, hx⟩
  unfold Await.Denotes at hd
  split at hd
  · next _ command s =>
    refine finish (Cursor.can_drain s) ?_
    rintro o client (rfl | ⟨e, rfl⟩)
    · obtain ⟨hc, -⟩ := hd
      cases command with
      | simpleQuery | query | queryPrepared => rfl
      | execute | prepare | executePrepared | unprepare => cases hc
    · rfl
  · next _ command call s =>
    refine finish (Cursor.can_request s hd.2.1) ?_
    rintro o client (rfl | ⟨e, rfl⟩) <;> rfl
  · refine finish (Cursor.can_advance _) ?_
    rintro o client (⟨more, rfl⟩ | ⟨e, rfl⟩) <;> rfl
  · refine finish (Cursor.can_advance _) ?_
    rintro o client (⟨more, rfl⟩ | ⟨e, rfl⟩) <;> rfl
  · refine finish (Cursor.can_read _) ?_
    rintro o client (⟨cells, more, rfl⟩ | ⟨e, rfl⟩)
    · cases more <;> rfl
    · rfl
  · exact hd.elim

/-- From any call of a buffered query, some run returns: each answer leaves less to answer. -/
theorem buffered_returns {a : Await} {cur : Cursor} {out : Result (List (List Row))}
    (hd : a.Denotes cur out) (client : Client) (guard : Operation) :
    ∃ t p v, Run Plays (⟨client, .operation guard a false⟩, cur) t p ∧ .returned v ∈ t.observed := by
  induction hn : cur.size using Nat.strong_induction_on generalizing a cur client with
  | h n ih =>
    obtain ⟨r, o, cur', x, ha, ho, hlt, hx⟩ := Await.can_resume hd client
    have hstep : ∀ res, Client.resumeOperation (client.withInner (client.inner.after r)) guard a o =
        some res → Plays (⟨client, .operation guard a false⟩, cur) (.reply r) res.2 (res.1, cur') := by
      intro res hres
      refine .driver rfl ha ?_
      simp only [Session.step, Session.reply, ho]
      exact hres
    cases x with
    | await next =>
      have hnext := Await.resume_denotes hd ha ho rfl rfl hx
      obtain ⟨t, p, v, hr, hv⟩ :=
        ih _ (hn ▸ hlt) hnext (client.withInner (client.inner.after r)) rfl
      refine ⟨_, p, v, .cons (hstep _ (by simp only [Client.resumeOperation, hx]; rfl)) hr, ?_⟩
      exact List.mem_append_right _ hv
    | done v =>
      refine ⟨_, _, v, .cons (hstep _ (by simp only [Client.resumeOperation, hx]; rfl)) (.nil _), ?_⟩
      simp

inductive Wrapper
  | compat
  | rows
  | results
  deriving DecidableEq, Repr

def StreamMode.wrapper : StreamMode → Wrapper
  | .compat => .compat
  | .rows _ => .rows
  | .results _ => .results

/-- The wrapper has shown its end, or its result. -/
def Wrapper.Completed (w : Wrapper) (os : List Obs) : Prop :=
  match w with
  | .compat => .item none ∈ os
  | .rows => .row none ∈ os
  | .results => ∃ v, .returned v ∈ os

/-- What a poll of the stream comes to: it completes, waits for the driver, or it is the user's
turn again. Only an unwrapped stream hands items over. -/
structure MovedOn (w : Wrapper) (r : Stepped) : Prop where
  handed : w ≠ .compat → r.2.filterMap Obs.handed = []
  wrapper : r.1.task = .idle ∨ ∃ s polling, r.1.task = .stream s polling ∧ s.mode.wrapper = w
  next : w.Completed r.2 ∨ (∃ s, r.1.task = .stream s (some .next)) ∨
    ∃ s, r.1.task = .stream s none ∧ s.gen.isSuspended = false ∧ s.queue.peeked = none

theorem MovedOn.wrapper_eq {w : Wrapper} {r : Stepped} (h : MovedOn w r) {s : StreamTask}
    {polling : Option Consumer} (ht : r.1.task = .stream s polling) : s.mode.wrapper = w := by
  rcases h.wrapper with hi | ⟨s', polling', hst, hw⟩
  · rw [ht] at hi
    cases hi
  · rw [ht] at hst
    cases hst
    exact hw

theorem StreamState.eq_suspended {g : StreamState} (h : g.isSuspended = true) :
    ∃ guard a, g = .suspended guard a := by
  cases g with
  | suspended guard a => exact ⟨guard, a, rfl⟩
  | unpolled | yielded | finished => cases h

namespace StreamTask

variable {s : StreamTask} {client : Client} {r : Stepped}

theorem deliverLast_movedOn (hg : s.gen.isSuspended = false) (hp : s.queue.peeked = none)
    (e : Option Error) : MovedOn s.mode.wrapper (s.deliverLast client .next e) := by
  unfold deliverLast
  cases hm : s.mode with
  | compat =>
    refine ⟨fun h => absurd rfl h, .inr ⟨_, _, rfl, ?_⟩, .inr (.inr ⟨_, rfl, hg, ?_⟩)⟩
    · simp [StreamMode.wrapper]
    · simp [hp]
  | rows st =>
    refine ⟨fun _ => by simp [List.filterMap_cons], .inr ⟨_, _, rfl, rfl⟩,
      .inr (.inr ⟨_, rfl, hg, by simp [hp]⟩)⟩
  | results sets =>
    exact ⟨fun _ => by simp, .inl rfl, .inl ⟨_, List.mem_singleton.mpr rfl⟩⟩

/-- The end of the generator completes the stream. -/
theorem deliverLast_completed (s : StreamTask) (client : Client) :
    s.mode.wrapper.Completed (s.deliverLast client .next none).2 := by
  unfold deliverLast
  cases s.mode with
  | compat | rows => exact List.mem_singleton.mpr rfl
  | results => exact ⟨_, List.mem_singleton.mpr rfl⟩

theorem waiting_movedOn {guard : Operation} {a : StreamAwait} :
    MovedOn s.mode.wrapper (⟨client, .stream { s with gen := .suspended guard a } (some .next)⟩,
      [.issued a.call]) :=
  ⟨fun _ => by simp [List.filterMap_cons], .inr ⟨_, _, rfl, rfl⟩, .inr (.inl ⟨_, rfl⟩)⟩

/-- At rest, the generator never has an item ready. -/
theorem poll_not_item {g : StreamState} (hg : g.isSuspended = false) (inner : TdsClient)
    (i : QueryItem) (y : StreamYield) : g.poll inner ≠ .item i y := by
  have hguarded : ∀ a, StreamResumed.guarded inner a ≠ .item i y := by
    intro a
    unfold StreamResumed.guarded
    split <;> exact fun h => nomatch h
  cases g with
  | suspended => cases hg
  | unpolled sql params => exact hguarded _
  | finished => exact fun h => nomatch h
  | yielded y' =>
    cases y' with
    | metadata | row => exact hguarded _
    | error => exact fun h => nomatch h

theorem proceed_movedOn (hg : s.gen.isSuspended = false) (hp : s.queue.peeked = none)
    (client : Client) : ∃ r, s.proceed client .next = some r ∧ MovedOn s.mode.wrapper r := by
  unfold proceed
  split
  · exact ⟨_, rfl, waiting_movedOn⟩
  · exact ⟨_, rfl, deliverLast_movedOn (s := { s with gen := .yielded .error }) rfl hp _⟩
  · exact ⟨_, rfl, deliverLast_movedOn (s := { s with gen := .finished }) rfl hp _⟩
  · next i y h => exact absurd h (poll_not_item hg _ i y)

theorem deliverItem_movedOn (hg : s.gen.isSuspended = false) (hp : s.queue.peeked = none)
    (client : Client) (i : QueryItem) :
    ∃ r, s.deliverItem client .next i = some r ∧ MovedOn s.mode.wrapper r := by
  unfold deliverItem
  cases hm : s.mode with
  | compat =>
    refine ⟨_, rfl, fun h => absurd rfl h, .inr ⟨_, _, rfl, ?_⟩,
      .inr (.inr ⟨_, rfl, hg, ?_⟩)⟩
    · simp [StreamMode.wrapper]
    · simp [hp]
  | rows st =>
    cases i with
    | row row =>
      refine ⟨_, rfl, fun _ => by simp [List.filterMap_cons], .inr ⟨_, _, rfl, ?_⟩,
        .inr (.inr ⟨_, rfl, hg, ?_⟩)⟩
      · simp [StreamMode.wrapper]
      · simp [hp]
    | metadata m =>
      obtain ⟨r, hr, hmv⟩ := proceed_movedOn
        (s := { s with queue := s.queue.observe (some (.ok (.metadata m))) }) hg (by simp [hp]) client
      refine ⟨r, ?_, ?_⟩
      · rw [← hr, hm]
      · rw [← hm]; exact hmv
  | results sets =>
    obtain ⟨r, hr, hmv⟩ := proceed_movedOn
      (s := { s with
        mode := .results (collectItem sets i)
        queue := s.queue.observe (some (.ok i)) }) hg (by simp [hp]) client
    exact ⟨r, hr, hmv⟩

theorem settle_movedOn (hp : s.queue.peeked = none) (client : Client) (x : StreamResumed) :
    ∃ r, s.settle client .next x = some r ∧ MovedOn s.mode.wrapper r := by
  cases x with
  | await guard a => exact ⟨_, rfl, waiting_movedOn⟩
  | item i y => exact deliverItem_movedOn (s := { s with gen := .yielded y }) rfl hp client i
  | error e =>
    exact ⟨_, rfl, deliverLast_movedOn (s := { s with gen := .yielded .error }) rfl hp _⟩
  | finished =>
    exact ⟨_, rfl, deliverLast_movedOn (s := { s with gen := .finished }) rfl hp _⟩

/-- A poll in the user's turn: the stream completes, waits, or has ended. -/
theorem pollNext_turn (hg : s.gen.isSuspended = false) (hp : s.queue.peeked = none)
    (client : Client) : ∃ r, s.pollNext client = some r ∧ MovedOn s.mode.wrapper r ∧
      (s.mode.wrapper.Completed r.2 ∨ (∃ s', r.1.task = .stream s' (some .next)) ∨
        ∃ s', r.1.task = .stream s' none ∧ s'.Ended) := by
  obtain ⟨mode, ⟨peeked, columns⟩, gen⟩ := s
  cases hp
  have hinner : ∃ r, (StreamTask.mk mode ⟨none, columns⟩ gen).pollInner client .next = some r ∧
      MovedOn mode.wrapper r ∧ (mode.wrapper.Completed r.2 ∨
        (∃ s', r.1.task = .stream s' (some .next)) ∨
          ∃ s', r.1.task = .stream s' none ∧ s'.Ended) := by
    have hin : (StreamTask.mk mode ⟨none, columns⟩ gen).pollInner client .next =
        (StreamTask.mk mode ⟨none, columns⟩ gen).settle client .next (gen.poll client.inner) := by
      cases gen with
      | suspended => cases hg
      | unpolled | yielded | finished => rfl
    rw [hin]
    obtain ⟨r, hr, hmv⟩ := settle_movedOn (s := ⟨mode, ⟨none, columns⟩, gen⟩) rfl client
      (gen.poll client.inner)
    refine ⟨r, hr, hmv, ?_⟩
    cases hx : gen.poll client.inner with
    | await guard a =>
      rw [hx] at hr
      cases hr
      exact .inr (.inl ⟨_, rfl⟩)
    | item i y => exact absurd hx (poll_not_item hg _ i y)
    | finished =>
      rw [hx] at hr
      cases hr
      exact .inl (deliverLast_completed ⟨mode, ⟨none, columns⟩, .finished⟩ client)
    | error e =>
      rw [hx] at hr
      cases hr
      cases mode with
      | compat | rows => exact .inr (.inr ⟨_, rfl, rfl, rfl⟩)
      | results sets => exact .inl ⟨_, List.mem_singleton.mpr rfl⟩
  cases mode with
  | compat | results => exact hinner
  | rows st =>
    cases st with
    | active => exact hinner
    | failed | finished =>
      exact ⟨_, rfl, ⟨fun _ => by simp [List.filterMap_cons], .inr ⟨_, _, rfl, rfl⟩,
        .inl (List.mem_singleton.mpr rfl)⟩, .inl (List.mem_singleton.mpr rfl)⟩

/-- A poll of an ended stream completes it. -/
theorem pollNext_ended (h : s.Ended) (client : Client) :
    ∃ r, s.pollNext client = some r ∧ MovedOn s.mode.wrapper r ∧
      s.mode.wrapper.Completed r.2 := by
  obtain ⟨mode, ⟨peeked, columns⟩, gen⟩ := s
  obtain ⟨hg, hp⟩ := h
  cases hp
  obtain ⟨r, hr, hmv, -⟩ := pollNext_turn (s := ⟨mode, ⟨none, columns⟩, gen⟩)
    (StreamState.isOver_at_rest hg) rfl client
  refine ⟨r, hr, hmv, ?_⟩
  have hin : (StreamTask.mk mode ⟨none, columns⟩ gen).pollInner client .next =
      some ((StreamTask.mk mode ⟨none, columns⟩ .finished).deliverLast client .next none) := by
    cases gen with
    | unpolled | suspended => cases hg
    | finished => rfl
    | yielded y =>
      cases y with
      | metadata | row => cases hg
      | error => rfl
  have hdone := deliverLast_completed ⟨mode, ⟨none, columns⟩, .finished⟩ client
  unfold pollNext at hr
  split at hr
  · next hm =>
    cases hm
    cases hr
    exact List.mem_singleton.mpr rfl
  · next hm =>
    cases hm
    cases hr
    exact List.mem_singleton.mpr rfl
  · simp only [QueryStream.takePeeked, hin] at hr
    cases hr
    exact hdone

/-- The item held back comes first. -/
theorem pollNext_peeked (hm : ¬ (s.mode = .rows .failed ∨ s.mode = .rows .finished))
    {i : QueryItem} (hp : s.queue.peeked = some (.ok i)) (client : Client) :
    s.pollNext client = { s with queue.peeked := none }.deliverItem client .next i := by
  unfold pollNext
  split
  · next h => exact absurd (.inl h) hm
  · next h => exact absurd (.inr h) hm
  · simp only [QueryStream.takePeeked, hp]

theorem pollNext_suspended (hm : ¬ (s.mode = .rows .failed ∨ s.mode = .rows .finished))
    (hp : s.queue.peeked = none) {guard : Operation} {a : StreamAwait}
    (hg : s.gen = .suspended guard a) (client : Client) :
    s.pollNext client = some (⟨client, .stream s (some .next)⟩, []) := by
  obtain ⟨mode, ⟨peeked, columns⟩, gen⟩ := s
  cases hp
  cases hg
  unfold pollNext
  split
  · next h => exact absurd (.inl h) hm
  · next h => exact absurd (.inr h) hm
  · rfl

end StreamTask

/-- A generator that waits for the driver can be answered, and then resumes. -/
theorem StreamAwait.can_resume {a : StreamAwait} {guard : Operation} {dead : Bool} {cur : Cursor}
    {items : List (Result QueryItem)}
    (hy : (StreamState.suspended guard a).Yields dead cur items) (inner : TdsClient) :
    ∃ r o cur' x, cur.Answers a.call r cur' ∧ r.outcome = .ready o ∧ cur'.size < cur.size ∧
      a.resume (inner.after r) guard o = some x := by
  have finish : ∀ {P : Except TdsError Answer → Prop}, cur.CanAnswer a.call P →
      (∀ o inner, P o → (a.resume inner guard o).isSome) →
      ∃ r o cur' x, cur.Answers a.call r cur' ∧ r.outcome = .ready o ∧ cur'.size < cur.size ∧
        a.resume (inner.after r) guard o = some x := by
    rintro P ⟨r, o, cur', ha, ho, hlt, hp⟩ hr
    obtain ⟨x, hx⟩ := Option.isSome_iff_exists.mp (hr o _ hp)
    exact ⟨r, o, cur', x, ha, ho, hlt, hx⟩
  cases a with
  | drain sql params =>
    cases cur with
    | start s =>
      refine finish (Cursor.can_drain s) ?_
      rintro o inner (rfl | ⟨e, rfl⟩) <;> rfl
    | _ => exact hy.elim
  | sent call =>
    cases cur with
    | drained s =>
      refine finish (Cursor.can_request s hy.2.1) ?_
      rintro o inner (rfl | ⟨e, rfl⟩) <;> rfl
    | _ => exact hy.elim
  | head index | tail index =>
    cases cur with
    | between resp =>
      refine finish (Cursor.can_advance resp) ?_
      rintro o inner (⟨more, rfl⟩ | ⟨e, rfl⟩) <;> rfl
    | _ => exact hy.elim
  | row index writer =>
    cases cur with
    | onSet set =>
      refine finish (Cursor.can_read set) ?_
      rintro o inner (⟨cells, more, rfl⟩ | ⟨e, rfl⟩)
      · cases more <;> rfl
      · rfl
    | _ => exact hy.elim

/-- So the driver can answer the call of a stream, which settles with less to answer. -/
theorem StreamsOn.can_settle {total : List (Result QueryItem)} {t : Trace Event Obs}
    {s : StreamTask} {consumer : Consumer} {client : Client} {cur : Cursor}
    (hs : StreamsOn total t (⟨client, .stream s (some consumer)⟩, cur)) :
    ∃ rp cur' client' x, cur'.size < cur.size ∧ ∀ {r}, s.settle client' consumer x = some r →
      Plays (⟨client, .stream s (some consumer)⟩, cur) (.reply rp) r.2 (r.1, cur') := by
  obtain ⟨-, hsusp, -⟩ := hs.guarded
  obtain ⟨guard, a, hg⟩ := StreamState.eq_suspended hsusp
  obtain ⟨⟨consumed, left, -, -, hy⟩, -, -⟩ := hs.running.1
  rw [hg] at hy
  obtain ⟨rp, o, cur', x, ha, ho, hlt, hx⟩ := StreamAwait.can_resume hy client.inner
  refine ⟨rp, cur', (client.withInner (client.inner.after rp)).withInner
    (x.release guard (client.inner.after rp)), x, hlt, ?_⟩
  intro r hr
  refine .driver (by simp only [Task.inFlight, hg]) ha ?_
  simp only [Session.step, Session.reply, hg, ho, StreamTask.resume, Client.withInner_inner, hx]
  exact hr

/-- Some run takes the stream to its end. -/
def Finishes (w : Wrapper) (p : Playback) : Prop :=
  ∃ t p', Run Plays p t p' ∧ w.Completed t.observed ∧ (w ≠ .compat → handed t = [])

section Completion

variable {total : List (Result QueryItem)} {t : Trace Event Obs} {p : Playback} {w : Wrapper}

theorem Wrapper.Completed.mono {os os' : List Obs} (h : w.Completed os)
    (hs : ∀ o ∈ os, o ∈ os') : w.Completed os' := by
  cases w with
  | compat | rows => exact hs _ h
  | results => obtain ⟨v, hv⟩ := h; exact ⟨v, hs _ hv⟩

theorem Finishes.cons {ev : Event} {os : List Obs} {p' : Playback} (h : Plays p ev os p')
    (ho : w ≠ .compat → os.filterMap Obs.handed = []) (hf : Finishes w p') : Finishes w p := by
  obtain ⟨t, p'', hr, hc, hh⟩ := hf
  refine ⟨_, p'', .cons h hr, hc.mono fun o ho => List.mem_append_right _ ho, fun hw => ?_⟩
  have h₁ := ho hw
  have h₂ := hh hw
  simp only [handed, Trace.observed_cons, List.filterMap_append] at h₂ ⊢
  rw [h₁, h₂]
  rfl

theorem Finishes.now {ev : Event} {os : List Obs} {p' : Playback} (h : Plays p ev os p')
    (ho : w ≠ .compat → os.filterMap Obs.handed = []) (hc : w.Completed os) : Finishes w p := by
  refine ⟨_, p', .cons h (.nil _), hc.mono fun o ho => List.mem_append_left _ ho, fun hw => ?_⟩
  simpa [handed] using ho hw

theorem ended_finishes {s : StreamTask} {client : Client} {cur : Cursor} (h : s.Ended) :
    Finishes s.mode.wrapper (⟨client, .stream s none⟩, cur) := by
  obtain ⟨r, hr, hmv, hc⟩ := StreamTask.pollNext_ended h client
  exact .now (@Plays.user _ _ _ _ (.poll 0) _ rfl rfl hr) hmv.handed hc

/-- From the user's turn, given that whatever waits at this cursor finishes. -/
theorem turn_finishes {s : StreamTask} {client : Client} {cur : Cursor}
    (hs : StreamsOn total t (⟨client, .stream s none⟩, cur))
    (hg : s.gen.isSuspended = false) (hp : s.queue.peeked = none)
    (hwait : ∀ t' client' s', StreamsOn total t' (⟨client', .stream s' (some .next)⟩, cur) →
      Finishes s'.mode.wrapper (⟨client', .stream s' (some .next)⟩, cur)) :
    Finishes s.mode.wrapper (⟨client, .stream s none⟩, cur) := by
  obtain ⟨⟨⟨client', task⟩, os⟩, hr, hmv, hnext⟩ := StreamTask.pollNext_turn hg hp client
  have hplay : Plays (⟨client, .stream s none⟩, cur) (.poll 0) os (⟨client', task⟩, cur) :=
    .user rfl rfl hr
  rcases hnext with hc | ⟨s', hw⟩ | ⟨s', hw, he⟩
  · exact .now hplay hmv.handed hc
  · cases hw
    have hwr := hmv.wrapper_eq rfl
    exact .cons hplay hmv.handed (hwr ▸ hwait _ _ _ (plays_streams hs hplay))
  · cases hw
    have hwr := hmv.wrapper_eq rfl
    exact .cons hplay hmv.handed (hwr ▸ ended_finishes he)

/-- A poll that moved the stream on lets it finish, given that whatever waits does. -/
theorem MovedOn.finishes {ev : Event} {r : Stepped} {cur : Cursor} (hmv : MovedOn w r)
    (hplay : Plays p ev r.2 (r.1, cur)) (hs : StreamsOn total t (r.1, cur))
    (hwait : ∀ t' client' s', StreamsOn total t' (⟨client', .stream s' (some .next)⟩, cur) →
      Finishes s'.mode.wrapper (⟨client', .stream s' (some .next)⟩, cur)) : Finishes w p := by
  obtain ⟨⟨client', task⟩, os⟩ := r
  rcases hmv.next with hc | ⟨s', hw⟩ | ⟨s', hw, hg, hp⟩
  · exact .now hplay hmv.handed hc
  · cases hw
    refine .cons hplay hmv.handed ?_
    rw [← hmv.wrapper_eq rfl]
    exact hwait _ _ _ hs
  · cases hw
    refine .cons hplay hmv.handed ?_
    rw [← hmv.wrapper_eq rfl]
    exact turn_finishes hs hg hp hwait

/-- A stream that waits for the driver finishes. -/
theorem waiting_finishes {s : StreamTask} {client : Client} {cur : Cursor} {t : Trace Event Obs}
    (hs : StreamsOn total t (⟨client, .stream s (some .next)⟩, cur)) :
    Finishes s.mode.wrapper (⟨client, .stream s (some .next)⟩, cur) := by
  induction hn : cur.size using Nat.strong_induction_on generalizing s client cur t with
  | h n ih =>
    obtain ⟨-, -, hp⟩ := hs.guarded
    obtain ⟨rp, cur', client', x, hlt, hplays⟩ := hs.can_settle
    obtain ⟨r, hr, hmv⟩ := StreamTask.settle_movedOn (s := s) hp client' x
    have hplay := hplays hr
    exact hmv.finishes hplay (plays_streams hs hplay) fun _ _ _ h => ih _ (hn ▸ hlt) h rfl

/-- So does a stream between two polls. -/
theorem rest_finishes {s : StreamTask} {client : Client} {cur : Cursor}
    (hs : StreamsOn total t (⟨client, .stream s none⟩, cur)) :
    Finishes s.mode.wrapper (⟨client, .stream s none⟩, cur) := by
  have hwait : ∀ t' client' s', StreamsOn total t' (⟨client', .stream s' (some .next)⟩, cur) →
      Finishes s'.mode.wrapper (⟨client', .stream s' (some .next)⟩, cur) :=
    fun _ _ _ h => waiting_finishes h
  have hacc := hs.running.1
  cases hp : s.queue.peeked with
  | some i =>
    have hactive : ¬ (s.mode = .rows .failed ∨ s.mode = .rows .finished) := by
      intro hm
      have hnone := (hacc.active hm).2
      rw [hp] at hnone
      cases hnone
    cases i with
    | error e => exact absurd hp (hacc.peeked e)
    | ok i =>
      have hrest : s.gen.isSuspended = false := hs.guarded.2 (by rw [hp]; rfl)
      obtain ⟨r, hr, hmv⟩ := StreamTask.deliverItem_movedOn
        (s := { s with queue.peeked := none }) hrest rfl client i
      have hplay : Plays (⟨client, .stream s none⟩, cur) (.poll 0) r.2 (r.1, cur) :=
        .user rfl rfl ((StreamTask.pollNext_peeked hactive hp client).trans hr)
      exact hmv.finishes hplay (plays_streams hs hplay) hwait
  | none =>
    cases hg : s.gen.isSuspended with
    | false => exact turn_finishes hs hg hp hwait
    | true =>
      obtain ⟨guard, a, hgen⟩ := StreamState.eq_suspended hg
      have hactive : ¬ (s.mode = .rows .failed ∨ s.mode = .rows .finished) := by
        intro hm
        have hover := (hacc.active hm).1
        rw [hgen] at hover
        cases hover
      have hplay : Plays (⟨client, .stream s none⟩, cur) (.poll 0) []
          (⟨client, .stream s (some .next)⟩, cur) :=
        .user rfl rfl (StreamTask.pollNext_suspended hactive hp hgen client)
      exact .cons hplay (fun _ => rfl) (hwait _ _ _ (plays_streams hs hplay))

/-- And one whose columns are awaited, which a wrapper never is. -/
theorem looking_finishes {s : StreamTask} {client : Client} {cur : Cursor} {t : Trace Event Obs}
    (hs : StreamsOn total t (⟨client, .stream s (some .columns)⟩, cur)) :
    Finishes s.mode.wrapper (⟨client, .stream s (some .columns)⟩, cur) := by
  induction hn : cur.size using Nat.strong_induction_on generalizing s client cur t with
  | h n ih =>
    have hcompat : s.mode.wrapper = .compat := by rw [hs.running.2 rfl]; rfl
    have unread : ∀ {os : List Obs}, s.mode.wrapper ≠ .compat → os.filterMap Obs.handed = [] :=
      fun hw => absurd hcompat hw
    obtain ⟨rp, cur', client', x, hlt, hplays⟩ := hs.can_settle
    cases x with
    | await guard' a' =>
      have h := hplays rfl
      exact .cons h unread (ih _ (hn ▸ hlt) (plays_streams hs h) rfl)
    | item i y =>
      have h := hplays rfl
      exact .cons h unread (rest_finishes (plays_streams hs h))
    | error e =>
      have h := hplays rfl
      exact .cons h unread (rest_finishes (plays_streams hs h))
    | finished =>
      have h := hplays rfl
      exact .cons h unread (rest_finishes (plays_streams hs h))

/-- Wherever a stream is, it can be read to its end. -/
theorem StreamsOn.finishes {s : StreamTask} {polling : Option Consumer} {client : Client}
    {cur : Cursor} (hs : StreamsOn total t (⟨client, .stream s polling⟩, cur)) :
    Finishes s.mode.wrapper (⟨client, .stream s polling⟩, cur) := by
  cases polling with
  | none => exact rest_finishes hs
  | some consumer =>
    cases consumer with
    | next => exact waiting_finishes hs
    | columns => exact looking_finishes hs

end Completion

/-- Wherever a run from `p` has come to, it was dropped or can be taken on to its return. -/
def AlwaysReturns (p : Playback) : Prop :=
  ∀ t p', Run Plays p t p' → dropped t = true ∨
    ∃ t' p'' v, Run Plays p' t' p'' ∧ .returned v ∈ Trace.observed (t ++ t')

/-- A stream in a run from `p` was dropped, has returned its sets, or can be read to its end as
what it has been made into. -/
def AlwaysFinishes (p : Playback) : Prop :=
  ∀ t p', Run Plays p t p' → dropped t = true ∨ (∃ v, .returned v ∈ t.observed) ∨
    ∃ s polling, p'.1.task = .stream s polling ∧ Finishes s.mode.wrapper p'

/-- Commands without a statement handle that go through `collect_results`. -/
def Entry.collects : Entry → Bool
  | .simpleQuery _ | .query _ _ => true
  | _ => false

def Entry.streams : Entry → Bool
  | .queryCompat _ _ | .queryStreamed _ _ => true
  | _ => false

section Start

variable {client : Client} {e : Entry} {s : Session} {script : Script}

theorem start_buffering (he : e.collects = true) (h : client.start e = some s) :
    Buffering (script.sets client.inner.dead) [] (s, .start script) := by
  cases e with
  | simpleQuery | query =>
    cases h
    exact ⟨⟨rfl, script, rfl, rfl⟩, fun v hv => (nomatch hv), .running (by simp)⟩
  | _ => cases he

theorem start_streamsOn (script : Script) (he : e.streams = true) (h : client.start e = some s) :
    StreamsOn (script.items client.inner.dead) [] (s, .start script) := by
  have fresh : ∀ sql rpc mode, mode = .compat ∨ mode = .rows .active →
      StreamsOn (script.items client.inner.dead) []
        (⟨client, .stream { mode, queue := {}, gen := .unpolled sql rpc } none⟩, .start script) := by
    intro sql rpc mode hm
    have hmode : mode.Consumed [] [] := by
      rcases hm with rfl | rfl
      · exact ⟨rfl, rfl⟩
      · rfl
    refine ⟨⟨trivial, fun h => nomatch h⟩, ⟨⟨⟨[], _, rfl, hmode, rfl⟩, ?_, ?_⟩, ?_⟩,
      ⟨[], _, rfl, rfl⟩, fun v hv => (nomatch hv), ?_, fun h => (nomatch h), .running (by simp)⟩
    · exact fun err h => nomatch h
    · rcases hm with rfl | rfl
      · exact fun h => h.elim (fun h => nomatch h) fun h => nomatch h
      · exact fun h => h.elim (fun h => nomatch h) fun h => nomatch h
    · exact fun h => nomatch h
    · exact fun h => h.elim (fun h => nomatch h) fun h => nomatch h
  cases e with
  | queryCompat sql params =>
    simp only [Client.start, Client.start.openStream] at h
    split at h <;> cases h
    exact fresh _ _ _ (.inl rfl)
  | queryStreamed sql params =>
    simp only [Client.start, Client.start.openStream] at h
    split at h <;> cases h
    exact fresh _ _ _ (.inr rfl)
  | _ => cases he

/-- A future that begins a collected command has a run that returns. -/
theorem beginOperation_returns (client : Client) (command : Command) (alloc : Token)
    (hc : command.collects = true)
    (hs : s.step (.poll alloc) = some (client.beginOperation (.drain command))) :
    ∃ t p v, Run Plays (s, .start script) t p ∧ .returned v ∈ t.observed := by
  have hplay : Plays (s, .start script) (.poll alloc) (client.beginOperation (.drain command)).2
      ((client.beginOperation (.drain command)).1, .start script) := .user rfl rfl hs
  cases hd : client.inner.dead with
  | true =>
    refine ⟨_, _, .error connectionClosed, .single hplay, ?_⟩
    rw [Client.beginOperation_dead hd]
    exact List.mem_singleton.mpr rfl
  | false =>
    rw [Client.beginOperation, Operation.new_usable hd] at hplay
    have hdrain : (Await.drain command).Denotes (.start script) (script.sets false) := ⟨hc, rfl⟩
    obtain ⟨t, p, v, hr, hv⟩ := buffered_returns hdrain client { armed := true }
    exact ⟨_, p, v, .cons hplay hr, List.mem_append_right _ hv⟩

end Start

/-- The wrappers a stream can end up in. -/
def Entry.wrappers : Entry → List Wrapper
  | .queryCompat _ _ => [.compat, .rows, .results]
  | .queryStreamed _ _ => [.rows]
  | _ => []

theorem collects_returns {client : Client} {e : Entry} (script : Script)
    (he : e.collects = true) (hc : e.Converts client) :
    ∃ s, client.start e = some s ∧
      ∃ t p v, Run Plays (s, .start script) t p ∧ .returned v ∈ t.observed := by
  cases e with
  | simpleQuery sql =>
    exact ⟨_, rfl, beginOperation_returns client (.simpleQuery sql) 0 rfl rfl⟩
  | query sql params =>
    obtain ⟨rpc, hrpc⟩ := hc
    refine ⟨_, rfl, ?_⟩
    by_cases hp : params.isEmpty
    · refine beginOperation_returns client (.simpleQuery sql) 0 rfl ?_
      simp [Session.step, Client.firstPoll, hp]
    · refine beginOperation_returns client (.query sql rpc) 0 rfl ?_
      simp only [Entry.params] at hrpc
      simp [Session.step, Client.firstPoll, hp, hrpc]
  | _ => cases he

/-- A buffered query never gets where it cannot return from. -/
theorem collects_complete {client : Client} {e : Entry} (script : Script)
    (he : e.collects = true) (hc : e.Converts client) :
    ∃ s, client.start e = some s ∧ AlwaysReturns (s, .start script) := by
  obtain ⟨s, hs, hstart⟩ := collects_returns script he hc
  refine ⟨s, hs, fun t p hr => ?_⟩
  have hb := hr.history (fun _ _ _ _ _ hi h => plays_buffering hi h) (start_buffering he hs)
  obtain ⟨⟨client', task⟩, cur⟩ := p
  cases task with
  | reset | stream => exact hb.running.elim
  | idle =>
    rcases hb.concluded rfl with hd | ⟨v, hv⟩
    · exact .inl hd
    · exact .inr ⟨[], _, v, .nil _, by simpa using hv⟩
  | unpolled e' =>
    have ht : t = [] := by
      cases e' with
      | simpleQuery | query => exact hb.running.1
      | _ => exact hb.running.elim
    subst ht
    cases hr
    exact .inr hstart
  | operation guard a parked =>
    obtain ⟨t', p', v, hr', hv⟩ := buffered_returns hb.running client' guard
    right
    cases parked with
    | false => exact ⟨t', p', v, hr', by simp [hv]⟩
    | true =>
      have hpoll : Plays (⟨client', .operation guard a true⟩, cur) (.poll 0) []
          (⟨client', .operation guard a false⟩, cur) := .user rfl rfl rfl
      exact ⟨_, p', v, .cons hpoll hr', by simp [hv]⟩

/-- Nor does a stream get where it cannot be read to its end from. -/
theorem streams_complete {client : Client} {e : Entry} {s : Session} (script : Script)
    (he : e.streams = true) (hs : client.start e = some s) :
    AlwaysFinishes (s, .start script) := by
  intro t p hr
  have hon := hr.history (fun _ _ _ _ _ hi h => plays_streams hi h) (start_streamsOn script he hs)
  obtain ⟨⟨client', task⟩, cur⟩ := p
  cases task with
  | unpolled | operation | reset => exact hon.running.elim
  | idle => exact (hon.concluded rfl).imp id .inl
  | stream st polling => exact .inr (.inr ⟨st, polling, rfl, hon.finishes⟩)

theorem Session.intoRowStream_step (client : Client) (queue : QueryStream) (gen : StreamState) :
    step ⟨client, .stream ⟨.compat, queue, gen⟩ none⟩ .intoRowStream =
      some (⟨client, .stream ⟨.rows .active, queue, gen⟩ none⟩, []) := rfl

theorem Session.intoResults_step (client : Client) (queue : QueryStream) (gen : StreamState) :
    step ⟨client, .stream ⟨.compat, queue, gen⟩ none⟩ .intoResults =
      some (⟨client, .stream ⟨.results [], queue, gen⟩ none⟩, []) := rfl

theorem streams_finish {client : Client} {e : Entry} {w : Wrapper} (script : Script)
    (hw : w ∈ e.wrappers) (hc : e.Converts client) :
    ∃ s, client.start e = some s ∧ Finishes w (s, .start script) := by
  cases e with
  | queryCompat sql params =>
    obtain ⟨rpc, hrpc⟩ := Session.openStream_ok sql .compat hc
    have hs := start_streamsOn script (e := .queryCompat sql params) rfl hrpc
    refine ⟨_, hrpc, ?_⟩
    cases w with
    | compat => exact hs.finishes
    | rows =>
      have hplay := @Plays.user _ _ _ (.start script) .intoRowStream [] rfl rfl
        (Session.intoRowStream_step client {} (.unpolled sql rpc))
      exact .cons hplay (fun _ => rfl) (plays_streams hs hplay).finishes
    | results =>
      have hplay := @Plays.user _ _ _ (.start script) .intoResults [] rfl rfl
        (Session.intoResults_step client {} (.unpolled sql rpc))
      exact .cons hplay (fun _ => rfl) (plays_streams hs hplay).finishes
  | queryStreamed sql params =>
    obtain ⟨rpc, hrpc⟩ := Session.openStream_ok sql (.rows .active) hc
    have hs := start_streamsOn script (e := .queryStreamed sql params) rfl hrpc
    cases List.mem_singleton.mp hw
    exact ⟨_, hrpc, hs.finishes⟩
  | _ => cases hw

/-- On a script, of any run of either path. -/
structure PathsAgree (client : Client) (script : Script) : Prop where
  /-- A buffered query returns the sets of the script, or its error. -/
  buffered : ∀ e s t p v, e.collects = true → client.start e = some s →
    Run Plays (s, .start script) t p → .returned v ∈ t.observed →
      v = (script.sets client.inner.dead).map .results
  /-- So does `into_results`, of a stream that nothing was taken from. -/
  collected : ∀ e s t p v, e.streams = true → client.start e = some s →
    Run Plays (s, .start script) t p → handed t = [] → .returned v ∈ t.observed →
      v = (script.sets client.inner.dead).map .results
  /-- A stream hands over its items, and then a row stream the rows among them, in order. -/
  streamed : ∀ e s t p, e.streams = true → client.start e = some s →
    Run Plays (s, .start script) t p →
      ∃ consumed left, script.items client.inner.dead = handed t ++ consumed ++ left ∧
        rowsSeen t = rowItems consumed
  items_end : ∀ e s t p, e.streams = true → client.start e = some s →
    Run Plays (s, .start script) t p → .item none ∈ t.observed →
      handed t = script.items client.inner.dead
  /-- A row stream that nothing was taken from before ends after all the rows. -/
  rows_end : ∀ e s t p, e.streams = true → client.start e = some s →
    Run Plays (s, .start script) t p → handed t = [] → .row none ∈ t.observed →
      rowsSeen t = rowItems (script.items client.inner.dead)
  /-- Without an error, the items are those of the sets and the rows their concatenation. -/
  concatenated : ∀ sets, script.sets client.inner.dead = .ok sets →
    ∃ is : List QueryItem, script.items client.inner.dead = is.map .ok ∧
      collectItems [] (is.map .ok) = .ok sets ∧ rowItems (is.map .ok) = sets.flatten.map .ok
  /-- An error comes once, after everything that precedes it. -/
  error_last : ∀ e, script.sets client.inner.dead = .error e →
    ∃ before : List QueryItem, script.items client.inner.dead = before.map .ok ++ [.error e]
  /-- Each path can be taken to its end, wherever it has come to. -/
  returns : ∀ e, e.collects = true → e.Converts client → ∃ s, client.start e = some s ∧
    AlwaysReturns (s, .start script)
  finishes : ∀ e w, w ∈ e.wrappers → e.Converts client → ∃ s, client.start e = some s ∧
    Finishes w (s, .start script)
  goesOn : ∀ e s, e.streams = true → client.start e = some s → AlwaysFinishes (s, .start script)

/-- For every script, whatever the user and the driver do. -/
theorem paths_agree (client : Client) (script : Script) : PathsAgree client script := by
  have streams : ∀ {e s t p}, e.streams = true → client.start e = some s →
      Run Plays (s, .start script) t p → StreamsOn (script.items client.inner.dead) t p :=
    fun he hs hr =>
      hr.history (fun _ _ _ _ _ hi h => plays_streams hi h) (start_streamsOn script he hs)
  refine ⟨?_, ?_, ?_, ?_, ?_, ?_, ?_, ?_, ?_, ?_⟩
  · intro e s t p v he hs hr hv
    have hb := hr.history (fun _ _ _ _ _ hi h => plays_buffering hi h) (start_buffering he hs)
    exact hb.returned v hv
  · intro e s t p v he hs hr hh hv
    obtain ⟨-, consumed, ht, hv⟩ := (streams he hs hr).returned v hv
    rw [hh, List.nil_append] at ht
    rw [hv, ← ht, Script.collectItems_items]
  · intro e s t p he hs hr
    exact (streams he hs hr).seen
  · intro e s t p he hs hr hn
    exact ((streams he hs hr).items_ended hn).symm
  · intro e s t p he hs hr hh hn
    obtain ⟨-, consumed, ht, hrows⟩ := (streams he hs hr).ended (.inr hn)
    rw [hh, List.nil_append] at ht
    rw [hrows, ht]
  · intro sets hsets
    obtain ⟨is, his⟩ := Script.items_ok hsets
    refine ⟨is, his, ?_, ?_⟩
    · rw [← his, Script.collectItems_items, hsets]
    · rw [← his, Script.rowItems_items hsets]
  · intro e he
    exact Script.items_error he
  · intro e he hc
    exact collects_complete script he hc
  · intro e w hw hc
    exact streams_finish script hw hc
  · intro e s he hs
    exact streams_complete script he hs

end

end TiberiusBridge

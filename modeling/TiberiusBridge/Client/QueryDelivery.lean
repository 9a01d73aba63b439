import TiberiusBridge.Client.DynamicQuery

/-!
# What `Query::query` delivers

On any script, the look ahead of `Query::query` costs its caller nothing: the
stream it returns hands over every item, and the future fails only with an
error that comes before every result set.
-/
namespace TiberiusBridge

open Lib (Run Trace)

section

variable [MssqlTds]

namespace StreamTask

variable {s : StreamTask} {client : Client} {consumer : Consumer} {r : Stepped}
  {columns : Option (List Column)}

/-- The stream holds back its first item, or it has none. -/
def Looked (r : Stepped) : Prop :=
  ∃ s, r.1.task = .stream s none ∧ s.mode = .compat ∧
    ((∃ i, s.queue.peeked = some (.ok i)) ∨ s.Ended)

theorem deliverLast_looked {e : Option Error} (hg : s.gen.isOver = true)
    (hp : s.queue.peeked = none) (hc : consumer = .columns → s.mode = .compat)
    (ho : .columns (.ok columns) ∈ (s.deliverLast client consumer e).2) :
    Looked (s.deliverLast client consumer e) := by
  unfold deliverLast at ho ⊢
  split at ho
  · cases e with
    | none => exact ⟨_, rfl, hc rfl, .inr ⟨hg, hp⟩⟩
    | some e => simp [QueryStream.lookAhead] at ho
  · simp at ho
  · simp at ho
  · simp at ho

theorem proceed_looked (hp : s.queue.peeked = none) (hc : consumer = .columns → s.mode = .compat)
    (h : s.proceed client consumer = some r) (ho : .columns (.ok columns) ∈ r.2) : Looked r := by
  unfold proceed at h
  split at h <;> cases h
  · simp at ho
  · exact deliverLast_looked (s := { s with gen := .yielded .error }) rfl hp hc ho
  · exact deliverLast_looked (s := { s with gen := .finished }) rfl hp hc ho

theorem settle_looked {x : StreamResumed} (hp : s.queue.peeked = none)
    (hc : consumer = .columns → s.mode = .compat) (h : s.settle client consumer x = some r)
    (ho : .columns (.ok columns) ∈ r.2) : Looked r := by
  cases x with
  | await guard a => cases h; simp at ho
  | error e =>
    cases h
    exact deliverLast_looked (s := { s with gen := .yielded .error }) rfl hp hc ho
  | finished =>
    cases h
    exact deliverLast_looked (s := { s with gen := .finished }) rfl hp hc ho
  | item i y =>
    simp only [settle, deliverItem] at h
    split at h
    · cases h; exact ⟨_, rfl, hc rfl, .inl ⟨i, rfl⟩⟩
    · cases h; simp at ho
    · split at h
      · cases h; simp at ho
      · exact proceed_looked (by simpa using hp) (by simp) h ho
    · exact proceed_looked (by simpa using hp) (by simp) h ho

theorem pollColumns_looked (hp : ∀ e, s.queue.peeked ≠ some (.error e))
    (h : s.pollColumns client = some r) (ho : .columns (.ok columns) ∈ r.2) : Looked r := by
  unfold pollColumns at h
  split at h
  · next i hmode hpeek =>
    cases h
    cases i with
    | error e => exact absurd hpeek (hp e)
    | ok i => exact ⟨s, rfl, hmode, .inl ⟨i, hpeek⟩⟩
  · next hmode hpeek =>
    unfold pollInner at h
    split at h
    · cases h; cases ho
    · exact settle_looked hpeek (fun _ => hmode) h ho
  · cases h

end StreamTask

namespace QueryCall

variable {c : QueryCall} {s : Session} {ev : QueryEvent} {columns : Option (List Column)}

theorem Owns.unique {s' : Session} (h : c.Owns s) (h' : c.Owns s') : s = s' := by
  cases c with
  | unpolled => exact Option.some.inj (h.symm.trans h')
  | looking | opened => exact h.symm.trans h'
  | ended => exact h.trans h'.symm

theorem settle_opened {r : Stepped} (h : settle r = some (.opened s, [.opened columns])) :
    r = (s, [.columns (.ok columns)]) := by
  unfold settle at h
  split at h
  · cases h
  · cases h
  · cases h; rfl
  · obtain ⟨r, -, h⟩ := Option.map_eq_some_iff.mp h
    cases h
  · cases h

/-- The step of the stream by which the future returns it. -/
theorem opened_step (hc : c.pending = true)
    (h : c.step ev = some (.opened s, [.opened columns])) :
    ∃ s₀, c.Owns s₀ ∧ (s₀.step .columns = some (s, [.columns (.ok columns)]) ∨
      ∃ r, s₀.step (.reply r) = some (s, [.columns (.ok columns)])) := by
  unfold step at h
  split at h
  · obtain ⟨s₀, hstart, h⟩ := Option.bind_eq_some_iff.mp h
    obtain ⟨r, hstep, h⟩ := Option.bind_eq_some_iff.mp h
    exact ⟨s₀, hstart, .inl (hstep.trans (congrArg some (settle_opened h)))⟩
  · cases h
  · obtain ⟨r, hstep, h⟩ := Option.bind_eq_some_iff.mp h
    exact ⟨_, rfl, .inl (hstep.trans (congrArg some (settle_opened h)))⟩
  · obtain ⟨r, hstep, h⟩ := Option.bind_eq_some_iff.mp h
    exact ⟨_, rfl, .inr ⟨_, hstep.trans (congrArg some (settle_opened h))⟩⟩
  · obtain ⟨r, -, h⟩ := Option.map_eq_some_iff.mp h
    cases h
  · cases hc
  · cases hc
  · cases h

end QueryCall

/-- The items that the future or the stream handed over. -/
def queryHanded (t : Trace QueryEvent QueryObs) : List (Result QueryItem) :=
  t.observed.filterMap fun o => o.inner.handed

/-- The rows that a row stream made of it returned. -/
def queryRows (t : Trace QueryEvent QueryObs) : List (Result Row) :=
  t.observed.filterMap fun o => o.inner.rowSeen

/-- The future was dropped, or the stream that it returned. -/
def queryDropped (t : Trace QueryEvent QueryObs) : Bool := t.any fun l => l.1.inner.drops

section Runs

variable {client : Client} {q : Query} {script : Script} {t : Trace QueryEvent QueryObs}
  {p : QueryCall × Cursor}

theorem observed_within (t : Trace QueryEvent QueryObs) :
    Trace.observed (t.flatMap QueryCall.within) = t.observed.map QueryObs.inner := by
  induction t with
  | nil => rfl
  | cons l t ih =>
    have hl : Trace.observed (QueryCall.within l) = l.2.map QueryObs.inner := by
      unfold QueryCall.within
      split <;> simp
    rw [List.flatMap_cons, Trace.observed_append, Trace.observed_cons, hl, ih, List.map_append]

theorem handed_within (t : Trace QueryEvent QueryObs) :
    handed (t.flatMap QueryCall.within) = queryHanded t := by
  rw [handed, observed_within, List.filterMap_map, queryHanded]
  rfl

theorem rowsSeen_within (t : Trace QueryEvent QueryObs) :
    rowsSeen (t.flatMap QueryCall.within) = queryRows t := by
  rw [rowsSeen, observed_within, List.filterMap_map, queryRows]
  rfl

/-- The stream inside is dropped with the future, or for its error. -/
theorem dropped_within (h : dropped (t.flatMap QueryCall.within) = true) :
    queryDropped t = true ∨ ∃ e, .failed e ∈ t.observed := by
  obtain ⟨l', hl', hd⟩ := List.any_eq_true.mp h
  obtain ⟨l, hl, hm⟩ := List.mem_flatMap.mp hl'
  rcases List.mem_cons.mp hm with rfl | hm
  · exact .inl (List.any_eq_true.mpr ⟨l, hl, hd⟩)
  · split at hm
    · next hf =>
      obtain ⟨o, ho, hf⟩ := List.any_eq_true.mp hf
      cases o with
      | failed e => exact .inr ⟨e, List.mem_flatMap.mpr ⟨l, hl, ho⟩⟩
      | issued | opened | stream => cases hf
    · cases hm

theorem returned_within {v : Result Value}
    (h : .returned v ∈ Trace.observed (t.flatMap QueryCall.within)) :
    .stream (.returned v) ∈ t.observed := by
  rw [observed_within] at h
  obtain ⟨o, ho, hv⟩ := List.mem_map.mp h
  cases o with
  | stream o =>
    cases hv
    exact ho
  | issued | opened | failed => cases hv

/-- The stream inside accounts for the items of the script. -/
theorem query_streams (h : Run QueryPlays (.unpolled client q, .start script) t p) :
    ∃ s, p.1.Owns s ∧
      StreamsOn (script.items client.inner.dead) (t.flatMap QueryCall.within) (s, p.2) := by
  obtain ⟨s, hs⟩ := q.start_isSome client
  obtain ⟨⟨s', cur⟩, hrun, hown, rfl⟩ :=
    QueryCall.plays_simulates.run (a := (s, .start script)) h ⟨hs, rfl⟩
  exact ⟨s', hown, hrun.history (fun _ _ _ _ _ hi h => plays_streams hi h)
    (start_streamsOn script (e := q.query) rfl hs)⟩

/-- Until the future returns, it hands nothing over. -/
theorem pending_hands_nothing (h : Run QueryPlays (.unpolled client q, .start script) t p)
    (hp : p.1.pending = true) : queryHanded t = [] := by
  let I : Trace QueryEvent QueryObs → QueryCall × Cursor → Prop := fun t p =>
    p.1.pending = true → queryHanded t = []
  refine h.history (I := I) ?_ (fun _ => rfl) hp
  intro t p ev os p' ih hs hp'
  have hstep := QueryCall.step_moves (QueryCall.plays_step hs)
  obtain ⟨c, cur⟩ := p
  obtain ⟨c', cur'⟩ := p'
  cases hstep with
  | wait hc ho =>
    have hnone : os.filterMap (fun o => o.inner.handed) = [] := by
      refine List.filterMap_eq_nil_iff.mpr fun o hm => ?_
      obtain ⟨call, rfl⟩ := ho o hm
      rfl
    have := ih hc
    rw [queryHanded] at this ⊢
    rw [Trace.observed_append, List.filterMap_append, this]
    simpa using hnone
  | hand | fail | use => cases hp'

/-- A future that fails hands over the error that is the script's first item. -/
theorem failed_first {e : Error} (h : Run QueryPlays (.unpolled client q, .start script) t p)
    (hf : .failed e ∈ t.observed) : ∃ rest, script.items client.inner.dead = .error e :: rest := by
  obtain ⟨⟨ev, os⟩, hl, ho⟩ := List.mem_flatMap.mp hf
  obtain ⟨before, after, rfl⟩ := List.append_of_mem hl
  obtain ⟨m, hbefore, hrest⟩ := h.split
  cases hrest with
  | @cons _ m' _ _ _ _ hs _ =>
    have hmoves := QueryCall.step_moves (QueryCall.plays_step hs)
    obtain ⟨c, cur⟩ := m
    obtain ⟨c', cur'⟩ := m'
    cases hmoves with
    | wait hc hissued =>
      obtain ⟨call, hcall⟩ := hissued _ ho
      cases hcall
    | hand hc => cases List.mem_singleton.mp ho
    | use =>
      obtain ⟨o, -, hfail⟩ := List.mem_map.mp ho
      cases hfail
    | fail hc =>
      cases List.mem_singleton.mp ho
      obtain ⟨s, -, hon⟩ := query_streams (hbefore.snoc hs)
      obtain ⟨consumed, left, htotal, -⟩ := hon.seen
      have hnone := pending_hands_nothing hbefore hc
      rw [handed_within, queryHanded, Trace.observed_append, List.filterMap_append,
        ← queryHanded, hnone] at htotal
      exact ⟨consumed ++ left, by simpa [QueryObs.inner] using htotal⟩

/-- The stream that a future returns holds its first item back, or it has none. -/
theorem opened_looked {c : QueryCall} {s : Session} {cur : Cursor} {ev : QueryEvent}
    {columns : Option (List Column)} {total : List (Result QueryItem)} {u : Trace Event Obs}
    {s₀ : Session} (hown : c.Owns s₀) (hon : StreamsOn total u (s₀, cur)) (hc : c.pending = true)
    (h : c.step ev = some (.opened s, [.opened columns])) :
    StreamTask.Looked (s, [.columns (.ok columns)]) := by
  obtain ⟨s₁, hown', hstep⟩ := QueryCall.opened_step hc h
  obtain rfl := hown.unique hown'
  have hmem : Obs.columns (.ok columns) ∈ [Obs.columns (.ok columns)] := List.mem_singleton.mpr rfl
  obtain ⟨client, task⟩ := s₀
  have hg := hon.guarded
  have hrun := hon.running
  cases task with
  | unpolled | operation | reset => exact hrun.elim
  | idle => rcases hstep with h | ⟨r, h⟩ <;> cases h
  | stream st polling =>
    obtain ⟨hacc, hcompat⟩ := hrun
    rcases hstep with h | ⟨r, h⟩
    · cases polling with
      | some => cases h
      | none => exact StreamTask.pollColumns_looked hacc.peeked h hmem
    · cases polling with
      | none => cases h
      | some consumer =>
        obtain ⟨-, -, hpeek⟩ := hg
        simp only [Session.step, Session.reply] at h
        split at h
        · cases h
        · unfold StreamTask.resume at h
          split at h
          · cases h
          · exact StreamTask.settle_looked hpeek (fun hc => hcompat (by rw [hc])) h hmem
        · cases h

/-- A future that returns its stream met no error first. -/
theorem opened_first {columns : Option (List Column)}
    (h : Run QueryPlays (.unpolled client q, .start script) t p)
    (hf : .opened columns ∈ t.observed) (e : Error) (rest : List (Result QueryItem)) :
    script.items client.inner.dead ≠ .error e :: rest := by
  obtain ⟨⟨ev, os⟩, hl, ho⟩ := List.mem_flatMap.mp hf
  obtain ⟨before, after, rfl⟩ := List.append_of_mem hl
  obtain ⟨m, hbefore, hrest⟩ := h.split
  cases hrest with
  | @cons _ m' _ _ _ _ hs _ =>
    have hstep := QueryCall.plays_step hs
    have hmoves := QueryCall.step_moves hstep
    obtain ⟨c, cur⟩ := m
    obtain ⟨c', cur'⟩ := m'
    cases hmoves with
    | wait hc hissued =>
      obtain ⟨call, hcall⟩ := hissued _ ho
      cases hcall
    | fail hc => cases List.mem_singleton.mp ho
    | use =>
      obtain ⟨o, -, hopen⟩ := List.mem_map.mp ho
      cases hopen
    | @hand _ s columns hc =>
      obtain ⟨s₀, hown, hon⟩ := query_streams hbefore
      obtain ⟨st, hst, hmode, hlooked⟩ := opened_looked hown hon hc hstep
      obtain ⟨s₁, hown', hon'⟩ := query_streams (hbefore.snoc hs)
      obtain rfl : s = s₁ := hown'
      have hrun := hon'.running
      have hnone := pending_hands_nothing hbefore hc
      have hhanded : queryHanded (before ++ [(ev, [.opened columns])]) = [] := by
        rw [queryHanded, Trace.observed_append, List.filterMap_append, ← queryHanded, hnone]
        rfl
      rw [show (s, cur').1.task = .stream st none from hst, handed_within, hhanded] at hrun
      obtain ⟨⟨consumed, left, htotal, hm, hy⟩, -, -⟩ := hrun.1
      rw [hmode] at hm
      obtain ⟨rfl, -⟩ := hm
      rcases hlooked with ⟨i, hi⟩ | ⟨hover, hpeek⟩
      · rw [htotal, hi]
        simp
      · rw [htotal, hpeek, hy.nothing_left hover]
        simp

/-- The future has its result. -/
def Returned (os : List QueryObs) : Prop :=
  (∃ columns, .opened columns ∈ os) ∨ ∃ e, .failed e ∈ os

/-- Some run takes the future to its result. -/
def Returns (p : QueryCall × Cursor) : Prop :=
  ∃ t p', Run QueryPlays p t p' ∧ Returned t.observed

theorem Returned.mono {os os' : List QueryObs} (h : Returned os) (hs : os ⊆ os') :
    Returned os' := by
  rcases h with ⟨columns, ho⟩ | ⟨e, ho⟩
  · exact .inl ⟨columns, hs ho⟩
  · exact .inr ⟨e, hs ho⟩

theorem Returns.cons {p' : QueryCall × Cursor} {ev : QueryEvent} {os : List QueryObs}
    (h : QueryPlays p ev os p') (hr : Returns p') : Returns p := by
  obtain ⟨t, p'', hrun, hshown⟩ := hr
  exact ⟨_, p'', .cons h hrun, hshown.mono (List.subset_append_right _ _)⟩

theorem Returns.now {p' : QueryCall × Cursor} {ev : QueryEvent} {os : List QueryObs}
    (h : QueryPlays p ev os p') (hr : Returned os) : Returns p :=
  ⟨_, p', .single h, hr.mono (List.subset_append_left _ _)⟩

/-- Unless the look ahead waits for the driver, the future returns. -/
theorem settle_returned (s : StreamTask) (client : Client) {x : StreamResumed}
    (hx : ∀ guard a, x ≠ .await guard a) : ∃ r c os, s.settle client .columns x = some r ∧
      QueryCall.settle r = some (c, os) ∧ Returned os := by
  cases x with
  | await guard a => exact absurd rfl (hx guard a)
  | item i y => exact ⟨_, _, _, rfl, rfl, .inl ⟨_, List.mem_singleton.mpr rfl⟩⟩
  | error e => exact ⟨_, _, _, rfl, rfl, .inr ⟨e, List.mem_singleton.mpr rfl⟩⟩
  | finished => exact ⟨_, _, _, rfl, rfl, .inl ⟨_, List.mem_singleton.mpr rfl⟩⟩

/-- What is played to the stream looked ahead in is played to the future. -/
theorem QueryPlays.ofReply {s : Session} {c : QueryCall} {cur cur' : Cursor} {rp : Reply}
    {r : Stepped} {os : List QueryObs} (h : Plays (s, cur) (.reply rp) r.2 (r.1, cur'))
    (hr : QueryCall.settle r = some (c, os)) :
    QueryPlays (.looking s, cur) (.reply rp) os (c, cur') := by
  cases h with
  | user hn hf h => cases hf
  | driver hc ha h => exact .driver hc ha (Option.bind_eq_some_iff.mpr ⟨r, h, hr⟩)

theorem looking_returns {s : StreamTask} {cur : Cursor} {total : List (Result QueryItem)}
    {u : Trace Event Obs} {client : Client}
    (hs : StreamsOn total u (⟨client, .stream s (some .columns)⟩, cur)) :
    Returns (.looking ⟨client, .stream s (some .columns)⟩, cur) := by
  induction hn : cur.size using Nat.strong_induction_on generalizing s client cur u with
  | h n ih =>
    obtain ⟨rp, cur', client', x, hlt, hplays⟩ := hs.can_settle
    by_cases hwait : ∃ guard a, x = .await guard a
    · obtain ⟨guard, a, rfl⟩ := hwait
      have hplay := hplays rfl
      exact .cons (.ofReply hplay rfl) (ih _ (hn ▸ hlt) (plays_streams hs hplay) rfl)
    · obtain ⟨r, c, os, hr, hsettle, hret⟩ :=
        settle_returned s client' fun guard a hx => hwait ⟨guard, a, hx⟩
      exact .now (.ofReply (hplays hr) hsettle) hret

theorem query_returns (client : Client) (q : Query) (script : Script) :
    Returns (.unpolled client q, .start script) := by
  obtain ⟨s, hs⟩ := q.start_isSome client
  have hon := start_streamsOn script (e := q.query) rfl hs
  obtain ⟨rpc, rfl⟩ := Query.start_query hs
  have hplay : ∀ {r c os},
      StreamTask.settle { mode := .compat, queue := {}, gen := .unpolled q.sql rpc } client .columns
        (streamStart client.inner q.sql rpc) = some r →
      QueryCall.settle r = some (c, os) →
        Session.step ⟨client, .stream { mode := .compat, queue := {}, gen := .unpolled q.sql rpc }
          none⟩ .columns = some r ∧
        QueryPlays (.unpolled client q, .start script) .poll os (c, .start script) := by
    intro r c os hr hsettle
    refine ⟨hr, .user rfl ?_⟩
    exact Option.bind_eq_some_iff.mpr ⟨_, hs, Option.bind_eq_some_iff.mpr ⟨r, hr, hsettle⟩⟩
  by_cases hwait : ∃ guard a, streamStart client.inner q.sql rpc = .await guard a
  · obtain ⟨guard, a, hx⟩ := hwait
    rw [hx] at hplay
    obtain ⟨hstep, hplay⟩ := hplay rfl rfl
    exact .cons hplay (looking_returns (plays_streams hon (.user rfl rfl hstep)))
  · obtain ⟨r, c, os, hr, hsettle, hret⟩ := settle_returned
      { mode := .compat, queue := {}, gen := .unpolled q.sql rpc } client
      fun guard a hx => hwait ⟨guard, a, hx⟩
    exact .now (hplay hr hsettle).2 hret

/-- A future that is awaited returns. -/
theorem QueryCall.Waits.returns {s : Session} {cur : Cursor} {total : List (Result QueryItem)}
    {u : Trace Event Obs} (hw : Waits s) (hs : StreamsOn total u (s, cur)) :
    Returns (.looking s, cur) := by
  cases hw with
  | @mk client st polling hm hp hsusp hg hn =>
    cases polling with
    | some consumer =>
      cases consumer with
      | next => exact absurd rfl hn
      | columns => exact looking_returns hs
    | none =>
      obtain ⟨mode, ⟨peeked, columns⟩, gen⟩ := st
      cases hm
      cases hp
      obtain ⟨guard, a, rfl⟩ := StreamState.eq_suspended hsusp
      have hpoll : Plays (⟨client, .stream ⟨.compat, ⟨none, columns⟩, .suspended guard a⟩ none⟩,
          cur) .columns [] (⟨client, .stream ⟨.compat, ⟨none, columns⟩, .suspended guard a⟩
            (some .columns)⟩, cur) := .user rfl rfl rfl
      have hpolled : QueryPlays (.looking ⟨client, .stream ⟨.compat, ⟨none, columns⟩,
          .suspended guard a⟩ none⟩, cur) .poll [] (.looking ⟨client, .stream ⟨.compat,
            ⟨none, columns⟩, .suspended guard a⟩ (some .columns)⟩, cur) := .user rfl rfl
      exact .cons hpolled (looking_returns (plays_streams hs hpoll))

/-- Wherever a run has come to, a future that is not dropped goes on to its result. -/
theorem pending_returns (h : Run QueryPlays (.unpolled client q, .start script) t p)
    (hp : p.1.pending = true) : Returns p := by
  obtain ⟨s, hown, hon⟩ := query_streams h
  have hok : p.1.Ok := h.invariant (I := fun p => p.1.Ok)
    (fun _ _ _ _ hc hs => (QueryCall.step_ok hc (QueryCall.plays_step hs)).1) trivial
  obtain ⟨c, cur⟩ := p
  cases c with
  | opened | ended => cases hp
  | looking s' =>
    obtain rfl : s' = s := hown
    exact QueryCall.Waits.returns hok hon
  | unpolled client' q' =>
    -- the stream has not been polled, so that nothing was played of its script
    obtain ⟨rpc, rfl⟩ := Query.start_query hown
    obtain ⟨⟨consumed, left, -, -, hy⟩, -, -⟩ := hon.running.1
    cases cur with
    | start script' => exact query_returns client' q' script'
    | drained | between | onSet | exhausted => exact hy.elim

/-- What the caller does with the stream that it was given. -/
def Event.toQuery : Event → QueryEvent
  | .reply r => .reply r
  | ev => .stream ev

def ofStream (u : Trace Event Obs) : Trace QueryEvent QueryObs :=
  u.map fun l => (l.1.toQuery, l.2.map .stream)

theorem Plays.opened {s s' : Session} {cur cur' : Cursor} {ev : Event} {os : List Obs}
    (h : Plays (s, cur) ev os (s', cur')) :
    QueryPlays (.opened s, cur) ev.toQuery (os.map .stream) (.opened s', cur') := by
  cases h with
  | user hn hr h =>
    have hev : ev.toQuery = .stream ev := by
      cases ev with
      | reply => cases hr
      | _ => rfl
    rw [hev]
    refine .user rfl ?_
    simp only [QueryCall.step, hn, hr, h]
    rfl
  | driver hc ha h => exact .driver hc ha (Option.map_eq_some_iff.mpr ⟨_, h, rfl⟩)

/-- A run of the stream is one of its caller. -/
theorem runs_opened {p p' : Playback} {u : Trace Event Obs} (h : Run Plays p u p') :
    Run QueryPlays (.opened p.1, p.2) (ofStream u) (.opened p'.1, p'.2) := by
  induction h with
  | nil => exact .nil _
  | cons hs _ ih => exact .cons hs.opened ih

/-- The future has returned its stream, which some run takes to its end. -/
def StreamFinishes (p : QueryCall × Cursor) : Prop :=
  ∃ s st polling u p', p.1 = .opened s ∧ s.task = .stream st polling ∧
    Run QueryPlays p (ofStream u) p' ∧ st.mode.wrapper.Completed u.observed

/-- No run gets the future or its stream to where it can go no further. -/
theorem query_completes (h : Run QueryPlays (.unpolled client q, .start script) t p) :
    queryDropped t = true ∨ (∃ e, .failed e ∈ t.observed) ∨
      (∃ v, .stream (.returned v) ∈ t.observed) ∨ (p.1.pending = true ∧ Returns p) ∨
        StreamFinishes p := by
  obtain ⟨s, hown, hon⟩ := query_streams h
  have concluded : s.task = .idle → queryDropped t = true ∨ (∃ e, .failed e ∈ t.observed) ∨
      ∃ v, .stream (.returned v) ∈ t.observed := by
    intro hidle
    rcases hon.concluded hidle with hd | ⟨v, hv⟩
    · exact (dropped_within hd).imp_right .inl
    · exact .inr (.inr ⟨v, returned_within hv⟩)
  cases hp : p.1.pending with
  | true => exact .inr (.inr (.inr (.inl ⟨rfl, pending_returns h hp⟩)))
  | false =>
    obtain ⟨c, cur⟩ := p
    cases c with
    | unpolled | looking => cases hp
    | ended client' =>
      obtain rfl : s = ⟨client', .idle⟩ := hown
      exact (concluded rfl).imp_right (Or.imp_right .inl)
    | opened s' =>
      obtain rfl : s' = s := hown
      obtain ⟨client', task⟩ := s'
      cases task with
      | unpolled | operation | reset => exact hon.running.elim
      | idle => exact (concluded rfl).imp_right (Or.imp_right .inl)
      | stream st polling =>
        obtain ⟨u, p', hrun, hc, -⟩ := hon.finishes
        exact .inr (.inr (.inr (.inr ⟨_, st, polling, u, _, rfl, rfl, runs_opened hrun, hc⟩)))

/-- On a script, of any run of the future and of the stream that it returns. -/
structure QueryDelivers (client : Client) (q : Query) (script : Script) : Prop where
  /-- The look ahead loses nothing: the items come in order, and a row stream's rows after them. -/
  streamed : ∀ t p, Run QueryPlays (.unpolled client q, .start script) t p →
    ∃ consumed left, script.items client.inner.dead = queryHanded t ++ consumed ++ left ∧
      queryRows t = rowItems consumed
  items_end : ∀ t p, Run QueryPlays (.unpolled client q, .start script) t p →
    .stream (.item none) ∈ t.observed → queryHanded t = script.items client.inner.dead
  collected : ∀ t p v, Run QueryPlays (.unpolled client q, .start script) t p →
    queryHanded t = [] → .stream (.returned v) ∈ t.observed →
      v = (script.sets client.inner.dead).map .results
  /-- The future fails with the error that precedes every result set. -/
  failed : ∀ t p e, Run QueryPlays (.unpolled client q, .start script) t p →
    .failed e ∈ t.observed → script.items client.inner.dead = [.error e]
  opened : ∀ t p columns e, Run QueryPlays (.unpolled client q, .start script) t p →
    .opened columns ∈ t.observed → script.items client.inner.dead ≠ [.error e]
  returns : Returns (.unpolled client q, .start script)
  /-- Wherever a run has come to, an awaited future can be taken to its result, and a stream that
  it returned to its end. -/
  completes : ∀ t p, Run QueryPlays (.unpolled client q, .start script) t p →
    queryDropped t = true ∨ (∃ e, .failed e ∈ t.observed) ∨
      (∃ v, .stream (.returned v) ∈ t.observed) ∨ (p.1.pending = true ∧ Returns p) ∨
        StreamFinishes p

theorem query_delivers (client : Client) (q : Query) (script : Script) :
    QueryDelivers client q script := by
  refine ⟨?_, ?_, ?_, ?_, ?_, query_returns client q script, fun t p h => query_completes h⟩
  · intro t p h
    obtain ⟨s, -, hon⟩ := query_streams h
    rw [← handed_within, ← rowsSeen_within]
    exact hon.seen
  · intro t p h ho
    obtain ⟨s, -, hon⟩ := query_streams h
    rw [← handed_within]
    refine (hon.items_ended ?_).symm
    rw [observed_within]
    exact List.mem_map_of_mem ho
  · intro t p v h hnone ho
    obtain ⟨s, -, hon⟩ := query_streams h
    have hv : Obs.returned v ∈ Trace.observed (t.flatMap QueryCall.within) := by
      rw [observed_within]
      exact List.mem_map_of_mem ho
    obtain ⟨-, consumed, htotal, hcollect⟩ := hon.returned v hv
    rw [handed_within, hnone, List.nil_append] at htotal
    rw [hcollect, ← htotal, Script.collectItems_items]
  · intro t p e h ho
    obtain ⟨rest, hrest⟩ := failed_first h ho
    cases hsets : script.sets client.inner.dead with
    | ok sets =>
      obtain ⟨items, hitems⟩ := Script.items_ok hsets
      rw [hitems] at hrest
      cases items <;> cases hrest
    | error e' =>
      -- an error ends the script
      obtain ⟨before, hitems⟩ := Script.items_error hsets
      rw [hitems] at hrest ⊢
      cases before <;> cases hrest
      rfl
  · intro t p columns e h ho
    exact opened_first h ho e []

end Runs

end

end TiberiusBridge

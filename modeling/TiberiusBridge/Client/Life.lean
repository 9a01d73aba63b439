import TiberiusBridge.Client.StreamEquivalence

/-!
# The life of a client

One operation follows another: read to its end, left unread, dropped between two
rows or in the middle of a call, refused or failed. Whatever came before, a query
shows what the server sends for it and nothing else, unless the connection is
dead.
-/
namespace TiberiusBridge

open Lib (Run Trace ofStep)

section

variable [MssqlTds]

/-- An operation is begun, with the script that the server plays to it, or goes on. -/
inductive LifeEvent
  | start (e : Entry) (script : Script)
  | during (ev : Event)

def LifeEvent.event : LifeEvent → Event
  | start e _ => .start e
  | during ev => ev

inductive Lives : Playback → LifeEvent → List Obs → Playback → Prop
  | start {s s' : Session} {cur : Cursor} {e : Entry} {script : Script} {os : List Obs}
      (h : s.step (.start e) = some (s', os)) :
      Lives (s, cur) (.start e script) os (s', .start script)
  | during {p p' : Playback} {ev : Event} {os : List Obs} (h : Plays p ev os p') :
      Lives p (.during ev) os p'

abbrev Life := Trace LifeEvent Obs

/-- What the session sees of a life. -/
def Life.session (t : Life) : Trace Event Obs := t.map fun l => (l.1.event, l.2)

/-- Part of a life in which no operation is begun. -/
def Life.ofPlays (t : Trace Event Obs) : Life := t.map fun l => (.during l.1, l.2)

/-- In a life, `e` was begun after `before`, and `t` is what has come of it, or its beginning. -/
def Life.Has (life before : Life) (e : Entry) (script : Script) (t : Trace Event Obs) : Prop :=
  ∃ os after, life = before ++ (.start e script, os) :: (ofPlays t ++ after)

variable {p p' : Playback}

theorem Lives.session {ev : LifeEvent} {os : List Obs} (h : Lives p ev os p') :
    p.1.step ev.event = some (p'.1, os) := by
  cases h with
  | start h => exact h
  | during h =>
    cases h with
    | user _ _ h => exact h
    | driver _ _ h => exact h

theorem Life.runs {t : Life} (h : Run Lives p t p') : p.1.Runs t.session p'.1 := by
  induction h with
  | nil => exact .nil _
  | cons hs _ ih => exact .cons hs.session ih

theorem Life.plays {t : Trace Event Obs} (h : Run Lives p (ofPlays t) p') : Run Plays p t p' := by
  induction t generalizing p with
  | nil =>
    cases h
    exact .nil _
  | cons l t ih =>
    cases h with
    | cons hs h =>
      cases hs with
      | during hs => exact .cons hs (ih h)

/-- An operation is begun by a client on its own, and then is a run on its script. -/
theorem Life.Has.run {life before : Life} {e : Entry} {script : Script} {t : Trace Event Obs}
    (hhas : life.Has before e script t) (h : Run Lives p life p') : ∃ client cur s q,
      Run Lives p before (⟨client, .idle⟩, cur) ∧ client.start e = some s ∧
        Run Plays (s, .start script) t q := by
  obtain ⟨os, after, rfl⟩ := hhas
  obtain ⟨⟨s, cur⟩, hbefore, hrest⟩ := h.split
  cases hrest with
  | cons hs htail =>
    cases hs with
    | start hs =>
      obtain ⟨client, task⟩ := s
      cases task with
      | idle =>
        obtain ⟨s', hstart, heq⟩ := Option.map_eq_some_iff.mp hs
        cases heq
        obtain ⟨q, hplays, -⟩ := htail.split
        exact ⟨client, cur, _, q, hbefore, hstart, Life.plays hplays⟩
      | _ => cases hs

/-- What a query begun on a connection that is `dead` or not shows of its script. -/
structure OwnResults (script : Script) (dead : Bool) (e : Entry) (t : Trace Event Obs) : Prop where
  buffered : e.collects = true → ∀ v, .returned v ∈ t.observed → v = (script.sets dead).map .results
  streamed : e.streams = true → ∃ consumed left,
    script.items dead = handed t ++ consumed ++ left ∧ rowsSeen t = rowItems consumed
  ended : e.streams = true → .item none ∈ t.observed → handed t = script.items dead
  collected : e.streams = true → ∀ v, .returned v ∈ t.observed → ∃ left,
    script.items dead = handed t ++ left ∧ v = (collectItems [] left).map .results

theorem ownResults {client : Client} {e : Entry} {s : Session} {script : Script}
    {t : Trace Event Obs} {q : Playback} (hs : client.start e = some s)
    (h : Run Plays (s, .start script) t q) : OwnResults script client.inner.dead e t := by
  have streams : e.streams = true → StreamsOn (script.items client.inner.dead) t q := fun he =>
    h.history (fun _ _ _ _ _ hi hstep => plays_streams hi hstep) (start_streamsOn script he hs)
  refine ⟨fun he v hv => ?_, fun he => (streams he).seen, fun he hend => ?_, fun he v hv => ?_⟩
  · have hb := h.history (fun _ _ _ _ _ hi hstep => plays_buffering hi hstep)
      (start_buffering he hs)
    exact hb.returned v hv
  · exact ((streams he).items_ended hend).symm
  · exact ((streams he).returned v hv).2

/-- A query whose parameters convert can be begun. -/
theorem start_of_converts {client : Client} {e : Entry} (h : e.Converts client) :
    ∃ s, client.start e = some s := by
  cases e with
  | queryCompat sql params =>
    obtain ⟨rpc, hs⟩ := Session.openStream_ok sql .compat h
    exact ⟨_, hs⟩
  | queryStreamed sql params =>
    obtain ⟨rpc, hs⟩ := Session.openStream_ok sql (.rows .active) h
    exact ⟨_, hs⟩
  | _ => exact ⟨_, rfl⟩

theorem runs_of_plays {t : Trace Event Obs} (h : Run Plays p t p') :
    p.1.Runs t p'.1 ∧ ∀ l ∈ t, l.1.starts = false := by
  induction h with
  | nil => exact ⟨.nil _, fun l hl => absurd hl List.not_mem_nil⟩
  | cons hs _ ih =>
    obtain ⟨hstep, hn⟩ := hs.session
    exact ⟨.cons hstep ih.1, List.forall_mem_cons.mpr ⟨hn, ih.2⟩⟩

/-- Whatever a client has been used for, and however. -/
structure ClientLife (client : Client) : Prop where
  /-- A query shows its own script, or `ConnectionClosed` once the connection is dead, which it is
  where something killed it before. -/
  own : ∀ cur life p, Run Lives (.connected client, cur) life p →
    ∀ before e script t, Life.Has life before e script t → ∃ m : Client,
      (m.inner.dead = true ↔ client.inner.dead = true ∨ ∃ u ev os v s,
        Life.session before = u ++ (ev, os) :: v ∧ (Session.connected client).Runs u s ∧
          s.Runs ((ev, os) :: v) ⟨m, .idle⟩ ∧ s.Killed ev) ∧
      OwnResults script m.inner.dead e t ∧ (m.inner.dead = true → Session.ShowsRefusal t)
  /-- A client on its own can be given any query, and read it to its end from wherever it has
  come to. -/
  goesOn : ∀ cur life p, Run Lives (.connected client, cur) life p → p.1.task = .idle →
    ∀ e script, e.Converts p.1.client → ∃ s, Lives p (.start e script) [] (s, .start script) ∧
      (e.collects = true → AlwaysReturns (s, .start script)) ∧
      (e.streams = true → AlwaysFinishes (s, .start script)) ∧
      ∀ w ∈ e.wrappers, Finishes w (s, .start script)

theorem client_life (client : Client) : ClientLife client where
  own cur life p h before e script t hhas := by
    obtain ⟨m, cur', s, q, hbefore, hs, hplays⟩ := hhas.run h
    have hdead := Session.runs_dead (Life.runs hbefore) trivial
    refine ⟨m, hdead, ownResults hs hplays, fun hd => ?_⟩
    have hstart : Session.step (.connected m) (.start e) = some (s, []) := by
      show (m.start e).map (·, []) = _
      rw [hs]
      rfl
    obtain ⟨hruns, hn⟩ := runs_of_plays hplays
    exact Session.runs_refusing hruns (Session.start_refusing hd hstart).2 hn
  goesOn _ _ p _ hidle e script hc := by
    obtain ⟨⟨m, task⟩, cur⟩ := p
    cases hidle
    obtain ⟨s, hs⟩ := start_of_converts hc
    have hstart : Session.step ⟨m, .idle⟩ (.start e) = some (s, []) := by
      show (m.start e).map (·, []) = _
      rw [hs]
      rfl
    refine ⟨s, .start hstart, fun he => ?_, fun he => streams_complete script he hs,
      fun w hw => ?_⟩
    · obtain ⟨s', hs', hreturns⟩ := collects_complete script he hc
      cases hs.symm.trans hs'
      exact hreturns
    · obtain ⟨s', hs', hfinishes⟩ := streams_finish script hw hc
      cases hs.symm.trans hs'
      exact hfinishes

end

end TiberiusBridge

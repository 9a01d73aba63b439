import TiberiusBridge.Client.Cancellation
import TiberiusBridge.Client.Script

/-!
# Playing a script to a session

The user polls, looks ahead, converts and drops as the session allows; the
driver answers the call in flight as its cursor allows.
-/
namespace TiberiusBridge

open Lib (Run Trace ofStep)

section

variable [MssqlTds]

/-- The driver call that waits for an answer. -/
def Task.inFlight : Task → Option Call
  | .operation _ a false => some a.call
  | .reset _ _ a false => some a.call
  | .stream s (some _) =>
    match s.gen with
    | .suspended _ a => some a.call
    | _ => none
  | _ => none

def Event.replies : Event → Bool
  | .reply _ => true
  | _ => false

def Event.drops : Event → Bool
  | .drop => true
  | _ => false

def dropped (t : Trace Event Obs) : Bool := t.any fun l => l.1.drops

abbrev Playback := Session × Cursor

inductive Plays : Playback → Event → List Obs → Playback → Prop
  | user {s s' : Session} {cur : Cursor} {ev : Event} {os : List Obs} (hn : ev.starts = false)
      (hr : ev.replies = false) (h : s.step ev = some (s', os)) : Plays (s, cur) ev os (s', cur)
  | driver {s s' : Session} {cur cur' : Cursor} {call : Call} {r : Reply} {os : List Obs}
      (hc : s.task.inFlight = some call) (ha : cur.Answers call r cur')
      (h : s.step (.reply r) = some (s', os)) : Plays (s, cur) (.reply r) os (s', cur')

theorem Plays.session {p p' : Playback} {ev : Event} {os : List Obs} (h : Plays p ev os p') :
    p.1.step ev = some (p'.1, os) ∧ ev.starts = false := by
  cases h with
  | user hn _ h => exact ⟨h, hn⟩
  | driver _ _ h => exact ⟨h, rfl⟩

/-- What is over was dropped or has returned. -/
def Concluded (t : Trace Event Obs) (p : Playback) : Prop :=
  p.1.task = .idle → dropped t = true ∨ ∃ v, .returned v ∈ t.observed

section Concluded

variable {t : Trace Event Obs} {p : Playback} {ev : Event} {os : List Obs}

theorem Concluded.running (h : p.1.task ≠ .idle) : Concluded t p := fun hi => absurd hi h

theorem Concluded.dropped : Concluded (t ++ [(.drop, os)]) p := fun _ =>
  .inl (by simp [TiberiusBridge.dropped, Event.drops])

theorem Concluded.returned {v : Result Value} (h : .returned v ∈ os) :
    Concluded (t ++ [(ev, os)]) p := fun _ => .inr ⟨v, by simp [h]⟩

end Concluded

/-- Commands whose rows are collected. -/
def Command.collects : Command → Bool
  | .simpleQuery _ | .query _ _ | .queryPrepared _ _ => true
  | _ => false

/-- With the driver at the cursor, a body suspended here returns `out`. -/
def Await.Denotes : Await → Cursor → Result (List (List Row)) → Prop
  | .drain command, .start s, out => command.collects = true ∧ out = s.sets false
  | .sent command call, .drained s, out =>
    command.collects = true ∧ call.isRequest = true ∧ out = s.setsSent
  | .collect (.head sets index), .between r, out
  | .collect (.tail sets index), .between r, out => out = (r.sets index).map (sets ++ ·)
  | .collect (.row sets index writer rows), .onSet set, out =>
    writer = .withResultIndex (.fromMetadata set.metadata) index ∧
      out = (Response.setsAfter (index + 1) set.after).map
        (sets ++ (rows ++ rowsOf set.metadata index set.rows) :: ·)
  | _, _, _ => False

def Resumed.Denotes (x : Resumed) (cur : Cursor) (out : Result (List (List Row))) : Prop :=
  match x with
  | .await next => next.Denotes cur out
  | .done r => r = out.map .results

variable {client : Client} {cur cur' : Cursor} {call : Call} {r : Reply}
  {out : Result (List (List Row))}

theorem collectSet_denotes {inner : TdsClient} {set : ResultSet} (sets : List (List Row))
    (index : Nat) (hm : inner.metadata = set.metadata) :
    (collectSet inner sets index).Denotes (.onSet set)
      ((Response.setsAfter (index + 1) set.after).map
        (sets ++ rowsOf set.metadata index set.rows :: ·)) := by
  unfold collectSet
  rw [hm]
  exact ⟨rfl, rfl⟩

/-- Standing on the set where the response stops, the loop goes on with that set. -/
theorem collectHead_denotes_set {inner : TdsClient} {set : ResultSet} {resp : Response}
    (sets : List (List Row)) (index : Nat) (ha : resp.advance = .ok (some set))
    (hr : inner.onRows = true) (hm : inner.metadata = set.metadata) :
    (collectHead inner sets index).Denotes (.onSet set) ((resp.sets index).map (sets ++ ·)) := by
  unfold collectHead
  rw [if_pos hr, Response.sets_of_set ha]
  have h := collectSet_denotes sets index hm
  cases hs : Response.setsAfter (index + 1) set.after <;> rw [hs] at h <;> exact h

theorem collectHead_denotes_between {inner : TdsClient} (resp : Response)
    (sets : List (List Row)) (index : Nat) (hr : inner.onRows = false) :
    (collectHead inner sets index).Denotes (.between resp) ((resp.sets index).map (sets ++ ·)) := by
  unfold collectHead
  rw [if_neg (by rw [hr]; exact Bool.false_ne_true)]
  rfl

theorem map_map {α β γ : Type} (r : Result α) (f : α → β) (g : β → γ) :
    (r.map f).map g = r.map fun a => g (f a) := by cases r <;> rfl

theorem map_append_nil {α : Type} (r : Result (List α)) : r.map ([] ++ ·) = r := by cases r <;> rfl

theorem Command.send_denotes {command : Command} {s : Script} {x : Resumed}
    (hc : command.collects = true) (h : command.send client = some x) :
    x.Denotes (.drained s) s.setsSent := by
  cases command with
  | simpleQuery | query | queryPrepared => cases h; exact ⟨rfl, rfl, rfl⟩
  | execute | prepare | executePrepared | unprepare => cases hc

theorem Command.sentResult_collects {command : Command} (hc : command.collects = true)
    (r : StatementResult) : command.sentResult client r = collectHead client.inner [] 0 := by
  cases command with
  | simpleQuery | query | queryPrepared => rfl
  | execute | prepare | executePrepared | unprepare => cases hc

/-- A body keeps denoting the same result, and returns it. -/
theorem Await.resume_denotes {a : Await} {o : Except TdsError Answer} {x : Resumed}
    (hd : a.Denotes cur out) (ha : cur.Answers a.call r cur') (ho : r.outcome = .ready o)
    (hrows : client.inner.onRows = r.onRows) (hmeta : client.inner.metadata = r.metadata)
    (h : a.resume client o = some x) : x.Denotes cur' out := by
  unfold Await.Denotes at hd
  split at hd
  · obtain ⟨hc, rfl⟩ := hd
    cases ha with
    | pending hp => rw [hp] at ho; cases ho
    | drain hdr ho' =>
      cases ho.symm.trans ho'
      rw [Script.sets_drained hdr]
      exact Command.send_denotes hc h
    | drainError hdr ho' =>
      cases ho.symm.trans ho'
      cases h
      simp [Resumed.Denotes, Script.sets_drainError hdr, Except.map]
  · next _ command call s =>
    obtain ⟨hc, hq, rfl⟩ := hd
    cases ha with
    | pending hp => rw [hp] at ho; cases ho
    | request _ he ho' _ hr =>
      cases ho.symm.trans ho'
      cases h
      rw [Command.sentResult_collects hc, Script.setsSent_ok he]
      have h := collectHead_denotes_between s.response [] 0 (hrows.trans hr)
      rwa [map_append_nil] at h
    | requestOnRows _ he ho' _ hadv hr hm =>
      cases ho.symm.trans ho'
      cases h
      rw [Command.sentResult_collects hc, Script.setsSent_ok he]
      have h := collectHead_denotes_set [] 0 hadv (hrows.trans hr) (hmeta.trans hm)
      rwa [map_append_nil] at h
    | requestError _ he ho' =>
      cases ho.symm.trans ho'
      cases h
      simp [Resumed.Denotes, Script.setsSent_error he, Except.map]
  · subst hd
    cases ha with
    | pending hp => rw [hp] at ho; cases ho
    | advanceEnd hadv ho' =>
      cases ho.symm.trans ho'
      cases h
      simp [Resumed.Denotes, Response.sets_of_end hadv, Except.map]
    | advanceSet hadv ho' _ hr hm =>
      cases ho.symm.trans ho'
      cases h
      rw [Response.sets_of_set hadv, map_map]
      exact collectSet_denotes _ _ (hmeta.trans hm)
    | advanceError hadv ho' =>
      cases ho.symm.trans ho'
      cases h
      simp [Resumed.Denotes, Response.sets_of_error hadv, Except.map]
  · subst hd
    cases ha with
    | pending hp => rw [hp] at ho; cases ho
    | advanceEnd hadv ho' =>
      cases ho.symm.trans ho'
      cases h
      simp [Resumed.Denotes, Response.sets_of_end hadv, Except.map]
    | advanceSet hadv ho' _ hr hm =>
      cases ho.symm.trans ho'
      cases h
      exact collectHead_denotes_set _ _ hadv (hrows.trans hr) (hmeta.trans hm)
    | advanceError hadv ho' =>
      cases ho.symm.trans ho'
      cases h
      simp [Resumed.Denotes, Response.sets_of_error hadv, Except.map]
  · obtain ⟨rfl, rfl⟩ := hd
    cases ha with
    | pending hp => rw [hp] at ho; cases ho
    | row ho' =>
      cases ho.symm.trans ho'
      simp only [Await.resume, takeRow_writeAll, if_true, Option.some.injEq] at h
      subst h
      refine ⟨rfl, ?_⟩
      simp [rowsOf]
    | rowEnd ho' =>
      cases ho.symm.trans ho'
      cases h
      simp [Resumed.Denotes, Await.Denotes, Response.setsAfter, rowsOf]
    | rowError ho' =>
      cases ho.symm.trans ho'
      cases h
      simp [Resumed.Denotes, Response.setsAfter, Except.map]
  · exact hd.elim

/-- What a buffered query returns on a script: `out` while it runs, and `out` when it has. -/
structure Buffering (out : Result (List (List Row))) (t : Trace Event Obs) (p : Playback) :
    Prop where
  running : match p.1.task with
    | .unpolled (.simpleQuery _) | .unpolled (.query _ _) =>
      t = [] ∧ ∃ s, p.2 = .start s ∧ out = s.sets p.1.dead
    | .operation _ a _ => a.Denotes p.2 out
    | .idle => True
    | _ => False
  returned : ∀ v, .returned v ∈ t.observed → v = out.map .results
  concluded : Concluded t p

theorem Cursor.Answers.pending_eq (h : cur.Answers call r cur') (ho : r.outcome = .pending) :
    cur' = cur ∧ r.kills = false := by
  cases h with
  | pending _ hk => exact ⟨rfl, hk⟩
  | _ => simp_all

variable {t : Trace Event Obs} {p p' : Playback} {ev : Event} {os : List Obs}

/-- A step that returns nothing but `out` keeps what has been returned. -/
theorem returned_snoc (h : ∀ v, .returned v ∈ t.observed → v = out.map .results)
    (hos : ∀ v, .returned v ∈ os → v = out.map .results) :
    ∀ v, .returned v ∈ Trace.observed (t ++ [(ev, os)]) → v = out.map .results := by
  intro v hv
  rw [Lib.Trace.observed_append] at hv
  rcases List.mem_append.mp hv with hv | hv
  · exact h v hv
  · exact hos v (by simpa using hv)

theorem beginOperation_buffering {command : Command} {s : Script} {s' : Session}
    (hout : out = s.sets client.inner.dead) (hc : command.collects = true)
    (hret : ∀ v, .returned v ∈ t.observed → v = out.map .results)
    (h : client.beginOperation (.drain command) = (s', os)) :
    Buffering out (t ++ [(ev, os)]) (s', .start s) := by
  cases hd : client.inner.dead with
  | true =>
    rw [Client.beginOperation_dead hd] at h
    cases h
    refine ⟨trivial, returned_snoc hret ?_, .returned (List.mem_singleton.mpr rfl)⟩
    intro v hv
    simp only [List.mem_singleton, Obs.returned.injEq] at hv
    rw [hv, hout, hd]
    rfl
  | false =>
    rw [Client.beginOperation, Operation.new_usable hd] at h
    cases h
    refine ⟨⟨hc, ?_⟩, returned_snoc hret (by simp), .running (by simp)⟩
    rw [hout, hd]

/-- Each step of a buffered query keeps to its result. -/
theorem plays_buffering (hb : Buffering out t p) (h : Plays p ev os p') :
    Buffering out (t ++ [(ev, os)]) p' := by
  cases h with
  | @user s s' cur ev os hn hr h =>
    obtain ⟨client, task⟩ := s
    have hret := hb.returned
    cases task with
    | idle => rw [Session.step_idle client hn] at h; cases h
    | reset | stream => exact hb.running.elim
    | operation guard a parked =>
      cases ev with
      | start => cases hn
      | reply => cases hr
      | columns | intoRowStream | intoResults => cases h
      | poll alloc =>
        cases parked <;> cases h
        exact ⟨hb.running, returned_snoc hret (by simp), .running (by simp)⟩
      | drop =>
        cases parked <;> cases h
        exact ⟨trivial, returned_snoc hret (by simp), .dropped⟩
    | unpolled e =>
      cases ev with
      | start => cases hn
      | reply => cases hr
      | columns | intoRowStream | intoResults => cases h
      | drop =>
        cases h
        exact ⟨trivial, returned_snoc hret (by simp), .dropped⟩
      | poll alloc =>
        cases e with
        | simpleQuery sql =>
          obtain ⟨-, s, rfl, hout⟩ := hb.running
          exact beginOperation_buffering hout rfl hret (Option.some.inj h)
        | query sql params =>
          obtain ⟨-, s, rfl, hout⟩ := hb.running
          simp only [Session.step, Client.firstPoll] at h
          split at h
          · exact beginOperation_buffering hout rfl hret (Option.some.inj h)
          · split at h
            · cases h
            · exact beginOperation_buffering hout rfl hret (Option.some.inj h)
        | _ => exact hb.running.elim
  | @driver s s' cur cur' call r os hc ha h =>
    obtain ⟨client, task⟩ := s
    have hret := hb.returned
    cases task with
    | idle | unpolled => cases hc
    | reset | stream => exact hb.running.elim
    | operation guard a parked =>
      cases parked with
      | true => cases hc
      | false =>
        cases hc
        simp only [Session.step, Session.reply] at h
        split at h
        · next hp =>
          cases h
          rw [(ha.pending_eq hp).1]
          exact ⟨hb.running, returned_snoc hret (by simp), .running (by simp)⟩
        · next o hp =>
          unfold Client.resumeOperation at h
          split at h
          · cases h
          · next next hx =>
            cases h
            have hd := Await.resume_denotes hb.running ha hp rfl rfl hx
            exact ⟨hd, returned_snoc hret (by simp), .running (by simp)⟩
          · next v hx =>
            cases h
            have hd := Await.resume_denotes hb.running ha hp rfl rfl hx
            refine ⟨trivial, returned_snoc hret ?_, .returned (List.mem_singleton.mpr rfl)⟩
            intro v' hv
            simp only [List.mem_singleton, Obs.returned.injEq] at hv
            rw [hv]
            exact hd

end

end TiberiusBridge

import TiberiusBridge.Client.Playback

/-!
# The streaming path

At every point the generator has a list of items left to yield, fixed by the
script. What has been handed over, what a wrapper has consumed, the item held
back and the items left are, in this order, the items of the script.
-/
namespace TiberiusBridge

open Lib (Run Trace ofStep)

section

variable [MssqlTds]

/-- The items of a set after its metadata. -/
def ResultSet.rest (set : ResultSet) (index : Nat) : List (Result QueryItem) :=
  (rowsOf set.metadata index set.rows).map (fun row => .ok (.row row)) ++
    Response.itemsAfter (index + 1) set.after

def ResultSet.fresh (set : ResultSet) (index : Nat) : BridgeRowWriter :=
  .withResultIndex (.fromMetadata set.metadata) index

namespace StreamState

def isOver : StreamState → Bool
  | yielded .error | finished => true
  | _ => false

/-- With the driver at the cursor, and the client `dead` or not, the generator has `items` left. -/
def Yields (dead : Bool) : StreamState → Cursor → List (Result QueryItem) → Prop
  | unpolled _ _, .start s, items => items = s.items dead
  | suspended _ (.drain _ _), .start s, items => dead = false ∧ items = s.items false
  | suspended _ (.sent call), .drained s, items =>
    dead = false ∧ call.isRequest = true ∧ items = s.itemsSent
  | suspended _ (.head index), .between r, items
  | suspended _ (.tail index), .between r, items => dead = false ∧ items = r.items index
  | suspended _ (.row index writer), .onSet set, items
  | yielded (.row index writer), .onSet set, items =>
    dead = false ∧ writer = set.fresh index ∧ items = set.rest index
  | yielded (.metadata index schema), .onSet set, items =>
    dead = false ∧ schema = .fromMetadata set.metadata ∧ items = set.rest index
  | yielded .error, _, items | finished, _, items => items = []
  | _, _, _ => False

theorem Yields.nothing_left {dead : Bool} {g : StreamState} {cur : Cursor}
    {items : List (Result QueryItem)} (h : g.Yields dead cur items) (hg : g.isOver = true) :
    items = [] := by
  cases g with
  | unpolled | suspended => cases hg
  | yielded y =>
    cases y with
    | metadata | row => cases hg
    | error => exact h
  | finished => exact h

theorem isOver_at_rest {g : StreamState} (h : g.isOver = true) : g.isSuspended = false := by
  cases g with
  | suspended => cases h
  | unpolled | yielded | finished => rfl

end StreamState

/-- The items left when the generator resumes so. -/
def StreamResumed.Continues (dead : Bool) (x : StreamResumed) (cur : Cursor)
    (items : List (Result QueryItem)) : Prop :=
  match x with
  | .await guard a => (StreamState.suspended guard a).Yields dead cur items
  | .item i y => ∃ rest, items = .ok i :: rest ∧ (StreamState.yielded y).Yields dead cur rest
  | .error e => items = [.error e]
  | .finished => items = []

section Generator

variable {inner : TdsClient} {cur cur' : Cursor} {items : List (Result QueryItem)} {r : Reply}

theorem StreamResumed.guarded_live (hd : inner.dead = false) (a : StreamAwait) :
    guarded inner a = .await { armed := true } a := by rw [guarded, Operation.new_usable hd]

theorem StreamState.poll_continues {g : StreamState} (hy : g.Yields inner.dead cur items)
    (hs : g.isSuspended = false) : (g.poll inner).Continues inner.dead cur items := by
  cases g with
  | suspended => cases hs
  | finished => exact hy
  | unpolled sql params =>
    cases cur with
    | start s =>
      cases hd : inner.dead with
      | true =>
        rw [hd] at hy
        rw [poll, streamStart, StreamResumed.guarded, Operation.new_dead hd]
        exact hy
      | false =>
        rw [hd] at hy
        rw [poll, streamStart, StreamResumed.guarded_live hd]
        exact ⟨rfl, hy⟩
    | _ => exact hy.elim
  | yielded y =>
    cases y with
    | error => exact hy
    | metadata index schema =>
      cases cur with
      | onSet set =>
        obtain ⟨hd, rfl, rfl⟩ := hy
        rw [poll, StreamYield.resume, StreamResumed.guarded_live hd]
        exact ⟨hd, rfl, rfl⟩
      | _ => exact hy.elim
    | row index writer =>
      cases cur with
      | onSet set =>
        obtain ⟨hd, rfl, rfl⟩ := hy
        rw [poll, StreamYield.resume, StreamResumed.guarded_live hd]
        exact ⟨hd, rfl, rfl⟩
      | _ => exact hy.elim

theorem streamSet_continues {set : ResultSet} (index : Nat) (hd : inner.dead = false)
    (hm : inner.metadata = set.metadata) :
    (streamSet inner index).Continues inner.dead (.onSet set)
      (setItems set.metadata index set.rows ++ Response.itemsAfter (index + 1) set.after) := by
  unfold streamSet
  rw [hm]
  exact ⟨set.rest index, rfl, hd, rfl, rfl⟩

theorem streamHead_continues_set {set : ResultSet} {resp : Response} (index : Nat)
    (hd : inner.dead = false) (ha : resp.advance = .ok (some set)) (hr : inner.onRows = true)
    (hm : inner.metadata = set.metadata) :
    (streamHead inner index).Continues inner.dead (.onSet set) (resp.items index) := by
  rw [streamHead, if_pos hr, Response.items_of_set ha]
  exact streamSet_continues index hd hm

theorem streamHead_continues_between (resp : Response) (index : Nat) (hd : inner.dead = false)
    (hr : inner.onRows = false) :
    (streamHead inner index).Continues inner.dead (.between resp) (resp.items index) := by
  rw [streamHead, if_neg (by rw [hr]; exact Bool.false_ne_true), StreamResumed.guarded_live hd]
  exact ⟨hd, rfl⟩

/-- An answer takes the generator on through the same items. -/
theorem StreamAwait.resume_continues {a : StreamAwait} {guard : Operation}
    {o : Except TdsError Answer} {x : StreamResumed}
    (hy : (StreamState.suspended guard a).Yields inner.dead cur items)
    (ha : cur.Answers a.call r cur') (ho : r.outcome = .ready o)
    (h : a.resume (inner.after r) guard o = some x) :
    x.Continues (inner.after r).dead cur' items := by
  have live : inner.dead = false → r.kills = false → (inner.after r).dead = false := by
    intro hd hk
    rw [TdsClient.after_dead, hd, hk]
    rfl
  cases a with
  | drain sql params =>
    cases cur with
    | start s =>
      obtain ⟨hd, rfl⟩ := hy
      cases ha with
      | pending hp => rw [hp] at ho; cases ho
      | drain hdr ho' hk =>
        cases ho.symm.trans ho'
        cases h
        refine ⟨live hd hk, ?_, Script.items_drained hdr⟩
        cases params <;> rfl
      | drainError hdr ho' =>
        cases ho.symm.trans ho'
        cases h
        exact Script.items_drainError hdr
    | _ => exact hy.elim
  | sent call =>
    cases cur with
    | drained s =>
      obtain ⟨hd, hq, rfl⟩ := hy
      cases ha with
      | pending hp => rw [hp] at ho; cases ho
      | request _ he ho' hk hr =>
        cases ho.symm.trans ho'
        cases h
        rw [Script.itemsSent_ok he]
        exact streamHead_continues_between s.response 0 (live hd hk) hr
      | requestOnRows _ he ho' hk hadv hr hm =>
        cases ho.symm.trans ho'
        cases h
        rw [Script.itemsSent_ok he]
        exact streamHead_continues_set 0 (live hd hk) hadv hr hm
      | requestError _ he ho' =>
        cases ho.symm.trans ho'
        cases h
        exact Script.itemsSent_error he
    | _ => exact hy.elim
  | head index =>
    cases cur with
    | between resp =>
      obtain ⟨hd, rfl⟩ := hy
      cases ha with
      | pending hp => rw [hp] at ho; cases ho
      | advanceEnd hadv ho' =>
        cases ho.symm.trans ho'
        cases h
        exact Response.items_of_end hadv
      | advanceSet hadv ho' hk hr hm =>
        cases ho.symm.trans ho'
        cases h
        rw [Response.items_of_set hadv]
        exact streamSet_continues index (live hd hk) hm
      | advanceError hadv ho' =>
        cases ho.symm.trans ho'
        cases h
        exact Response.items_of_error hadv
    | _ => exact hy.elim
  | tail index =>
    cases cur with
    | between resp =>
      obtain ⟨hd, rfl⟩ := hy
      cases ha with
      | pending hp => rw [hp] at ho; cases ho
      | advanceEnd hadv ho' =>
        cases ho.symm.trans ho'
        cases h
        exact Response.items_of_end hadv
      | advanceSet hadv ho' hk hr hm =>
        cases ho.symm.trans ho'
        cases h
        exact streamHead_continues_set index (live hd hk) hadv hr hm
      | advanceError hadv ho' =>
        cases ho.symm.trans ho'
        cases h
        exact Response.items_of_error hadv
    | _ => exact hy.elim
  | row index writer =>
    cases cur with
    | onSet set =>
      obtain ⟨hd, rfl, rfl⟩ := hy
      cases ha with
      | pending hp => rw [hp] at ho; cases ho
      | row ho' hk =>
        cases ho.symm.trans ho'
        simp only [StreamAwait.resume, ResultSet.fresh, takeRow_writeAll, if_true,
          Option.some.injEq] at h
        subst h
        exact ⟨_, rfl, live hd hk, rfl, rfl⟩
      | rowEnd ho' hk =>
        cases ho.symm.trans ho'
        cases h
        rw [StreamResumed.guarded_live (live hd hk)]
        exact ⟨live hd hk, rfl⟩
      | rowError ho' =>
        cases ho.symm.trans ho'
        cases h
        rfl
    | _ => exact hy.elim

end Generator

/-- The inner item an observation hands over to the user of a `QueryStream`. -/
def Obs.handed : Obs → Option (Result QueryItem)
  | .item i => i
  | .columns (.error e) => some (.error e)
  | _ => none

def Obs.rowSeen : Obs → Option (Result Row)
  | .row r => r
  | _ => none

namespace Obs

@[simp] theorem handed_issued (c : Call) : (issued c).handed = none := rfl
@[simp] theorem handed_returned (r : Result Value) : (returned r).handed = none := rfl
@[simp] theorem handed_row (r : Option (Result Row)) : (row r).handed = none := rfl
@[simp] theorem handed_item (i : Option (Result QueryItem)) : (item i).handed = i := rfl

@[simp] theorem handed_columns_ok (c : Option (List Column)) :
    (columns (.ok c)).handed = none := rfl

@[simp] theorem handed_columns_error (e : Error) :
    (columns (.error e)).handed = some (.error e) := rfl

@[simp] theorem rowSeen_issued (c : Call) : (issued c).rowSeen = none := rfl
@[simp] theorem rowSeen_returned (r : Result Value) : (returned r).rowSeen = none := rfl
@[simp] theorem rowSeen_row (r : Option (Result Row)) : (row r).rowSeen = r := rfl
@[simp] theorem rowSeen_item (i : Option (Result QueryItem)) : (item i).rowSeen = none := rfl

@[simp] theorem rowSeen_columns (r : Result (Option (List Column))) :
    (columns r).rowSeen = none := rfl

end Obs

/-- The items the user of a `QueryStream` was handed in a run. -/
def handed (t : Trace Event Obs) : List (Result QueryItem) := t.observed.filterMap Obs.handed

/-- The rows a row stream returned in a run. -/
def rowsSeen (t : Trace Event Obs) : List (Result Row) := t.observed.filterMap Obs.rowSeen

/-- What a wrapper has made of the items it consumed. -/
def StreamMode.Consumed (mode : StreamMode) (consumed : List (Result QueryItem))
    (seen : List (Result Row)) : Prop :=
  match mode with
  | .compat => consumed = [] ∧ seen = []
  | .rows _ => seen = rowItems consumed
  | .results sets => seen = [] ∧ collectItems [] consumed = .ok sets

/-- A stream whose generator is over and that holds nothing back. -/
def StreamTask.Ended (s : StreamTask) : Prop := s.gen.isOver = true ∧ s.queue.peeked = none

/-- A row stream that is not active any more has nothing left. -/
def StreamTask.ActiveOrOver (s : StreamTask) : Prop :=
  s.mode = .rows .failed ∨ s.mode = .rows .finished → s.Ended

/-- Of `total` items, the user was handed `given` and saw the rows `seen`. -/
structure Accounts (total given : List (Result QueryItem)) (seen : List (Result Row))
    (s : StreamTask) (dead : Bool) (cur : Cursor) : Prop where
  items : ∃ consumed left, total = given ++ consumed ++ s.queue.peeked.toList ++ left ∧
    s.mode.Consumed consumed seen ∧ s.gen.Yields dead cur left
  peeked : ∀ e, s.queue.peeked ≠ some (.error e)
  active : s.ActiveOrOver

/-- What a step that showed `os` comes to. -/
structure Accounted (total given : List (Result QueryItem)) (seen : List (Result Row))
    (cur : Cursor) (r : Stepped) : Prop where
  running : match r.1.task with
    | .stream s polling =>
      Accounts total (given ++ r.2.filterMap Obs.handed) (seen ++ r.2.filterMap Obs.rowSeen) s
        r.1.dead cur ∧ (polling = some .columns → s.mode = .compat)
    | .idle => r.2.filterMap Obs.handed = [] ∧ r.2.filterMap Obs.rowSeen = [] ∧ seen = []
    | _ => False
  returned : ∀ v, .returned v ∈ r.2 → r.1.task = .idle ∧
    ∃ consumed, total = given ++ consumed ∧ v = (collectItems [] consumed).map .results
  items_ended : .item none ∈ r.2 → ∃ s, r.1.task = .stream s none ∧ s.Ended ∧ s.mode = .compat
  rows_ended : .row none ∈ r.2 →
    ∃ s st, r.1.task = .stream s none ∧ s.Ended ∧ s.mode = .rows st
  concluded : r.1.task = .idle → ∃ v, .returned v ∈ r.2

namespace StreamTask

variable {s : StreamTask} {client : Client} {consumer : Consumer} {cur cur' : Cursor}
  {total given consumed left : List (Result QueryItem)} {seen : List (Result Row)} {r : Stepped}

/-- The generator's error or end, the last of its items. -/
theorem deliverLast_accounted {e : Option Error} (hg : s.gen.isOver = true)
    (hp : s.queue.peeked = none) (hc : consumer = .columns → s.mode = .compat)
    (ht : total = given ++ consumed ++ (e.map .error).toList)
    (hm : s.mode.Consumed consumed seen) :
    Accounted total given seen cur (s.deliverLast client consumer e) := by
  have hy : ∀ dead, s.gen.Yields dead cur [] := by
    intro dead
    obtain ⟨mode, queue, gen⟩ := s
    cases gen with
    | unpolled | suspended => cases hg
    | yielded y => cases y <;> first | rfl | cases hg
    | finished => rfl
  unfold deliverLast
  split
  · have hcompat := hc rfl
    rw [hcompat] at hm
    obtain ⟨rfl, rfl⟩ := hm
    refine ⟨⟨⟨⟨[], [], ?_, ?_, hy _⟩, ?_, ?_⟩, fun _ => hcompat⟩, by simp, by simp, by simp,
      by simp⟩
    · cases e <;> simp [QueryStream.lookAhead, ht, hp]
    · rw [hcompat]; exact ⟨rfl, by simp⟩
    · intro err
      cases e <;> simp [QueryStream.lookAhead, hp]
    · intro _
      exact ⟨hg, by cases e <;> exact hp⟩
  · next hmode =>
    rw [hmode] at hm
    obtain ⟨rfl, rfl⟩ := hm
    refine ⟨⟨⟨⟨[], [], ?_, ?_, hy _⟩, ?_, ?_⟩, fun h => nomatch h⟩, by simp, fun _ => ?_, by simp,
      by simp⟩
    · cases e <;> simp [ht, hp]
    · rw [hmode]; exact ⟨rfl, by simp⟩
    · intro err; simp [hp]
    · intro _; exact ⟨hg, by simp [hp]⟩
    · exact ⟨_, rfl, ⟨hg, by simp [hp]⟩, hmode⟩
  · next hmode =>
    rw [hmode] at hm
    simp only [StreamMode.Consumed] at hm
    refine ⟨⟨⟨⟨consumed ++ (e.map .error).toList, [], ?_, ?_, hy _⟩, ?_, ?_⟩,
      fun h => nomatch h⟩, by simp, by simp, fun _ => ?_, by simp⟩
    · cases e <;> simp [ht, hp]
    · cases e <;> simp [StreamMode.Consumed, hm]
    · intro err; simp [hp]
    · intro _; exact ⟨hg, by simp [hp]⟩
    · exact ⟨_, _, rfl, ⟨hg, by simp [hp]⟩, rfl⟩
  · next sets hmode =>
    rw [hmode] at hm
    obtain ⟨rfl, hcol⟩ := hm
    refine ⟨⟨by simp, by simp, rfl⟩, ?_, by simp, by simp,
      fun _ => ⟨_, List.mem_singleton.mpr rfl⟩⟩
    intro v hv
    simp only [List.mem_singleton, Obs.returned.injEq] at hv
    subst hv
    refine ⟨rfl, _, by rw [ht, List.append_assoc], ?_⟩
    cases e with
    | none => simp [hcol, Except.map]
    | some e => rw [collectItems_append hcol]; rfl

theorem suspend_accounted {guard : Operation} {a : StreamAwait} (hp : s.queue.peeked = none)
    (hc : consumer = .columns → s.mode = .compat)
    (hact : ¬ (s.mode = .rows .failed ∨ s.mode = .rows .finished))
    (ht : total = given ++ consumed ++ left) (hm : s.mode.Consumed consumed seen)
    (hy : (StreamState.suspended guard a).Yields client.inner.dead cur left) :
    Accounted total given seen cur
      (⟨client, .stream { s with gen := .suspended guard a } (some consumer)⟩,
        [.issued a.call]) := by
  refine ⟨⟨⟨⟨consumed, left, ?_, ?_, hy⟩, ?_, ?_⟩, ?_⟩, by simp, by simp, by simp, by simp⟩
  · simpa [List.filterMap_cons, hp] using ht
  · simpa [List.filterMap_cons] using hm
  · intro err; rw [hp]; exact fun h => nomatch h
  · exact fun h => absurd h hact
  · intro h; exact hc (Option.some.inj h)

theorem proceed_accounted (hg : s.gen.isSuspended = false) (hp : s.queue.peeked = none)
    (hc : consumer = .columns → s.mode = .compat)
    (hact : ¬ (s.mode = .rows .failed ∨ s.mode = .rows .finished))
    (ht : total = given ++ consumed ++ left) (hm : s.mode.Consumed consumed seen)
    (hy : s.gen.Yields client.inner.dead cur left) (h : s.proceed client consumer = some r) :
    Accounted total given seen cur r := by
  have hx := StreamState.poll_continues hy hg
  unfold proceed at h
  split at h
  · next guard a hpoll =>
    cases h
    rw [hpoll] at hx
    exact suspend_accounted hp hc hact ht hm hx
  · next e hpoll =>
    cases h
    rw [hpoll] at hx
    exact deliverLast_accounted rfl hp hc (by rw [ht, hx]; rfl) hm
  · next hpoll =>
    cases h
    rw [hpoll] at hx
    exact deliverLast_accounted rfl hp hc (by rw [ht, hx]; rfl) hm
  · cases h

theorem deliverItem_accounted {i : QueryItem} (hg : s.gen.isSuspended = false)
    (hp : s.queue.peeked = none) (hc : consumer = .columns → s.mode = .compat)
    (hact : ¬ (s.mode = .rows .failed ∨ s.mode = .rows .finished))
    (ht : total = given ++ consumed ++ .ok i :: left) (hm : s.mode.Consumed consumed seen)
    (hy : s.gen.Yields client.inner.dead cur left)
    (h : s.deliverItem client consumer i = some r) : Accounted total given seen cur r := by
  have hshift : total = given ++ (consumed ++ [.ok i]) ++ left := by rw [ht]; simp
  unfold deliverItem at h
  split at h
  · cases h
    have hcompat := hc rfl
    rw [hcompat] at hm
    obtain ⟨rfl, rfl⟩ := hm
    refine ⟨⟨⟨⟨[], left, ?_, ?_, hy⟩, ?_, ?_⟩, fun _ => hcompat⟩, by simp, by simp, by simp,
      by simp⟩
    · simpa [List.filterMap_cons, QueryStream.lookAhead] using ht
    · rw [hcompat]; exact ⟨rfl, by simp⟩
    · intro err; simp
    · exact fun h => absurd h hact
  · next hmode =>
    cases h
    rw [hmode] at hm
    obtain ⟨rfl, rfl⟩ := hm
    refine ⟨⟨⟨⟨[], left, ?_, ?_, hy⟩, ?_, ?_⟩, fun h => nomatch h⟩, by simp, by simp,
      by simp, by simp⟩
    · simpa [hp] using ht
    · rw [hmode]; exact ⟨rfl, by simp⟩
    · intro err; simp [hp]
    · exact fun h => absurd h hact
  · next st hmode =>
    rw [hmode] at hm
    simp only [StreamMode.Consumed] at hm
    simp only at h
    split at h
    · next row =>
      cases h
      refine ⟨⟨⟨⟨consumed ++ [.ok (.row row)], left, ?_, ?_, hy⟩, ?_, ?_⟩, fun h => nomatch h⟩,
        by simp, by simp, by simp, by simp⟩
      · simpa [List.filterMap_cons, hp] using ht
      · rw [hmode]; simp [StreamMode.Consumed, hm]
      · intro err; simp [hp]
      · exact fun h => absurd h hact
    · next m =>
      refine proceed_accounted (s := { s with queue := s.queue.observe (some (.ok (.metadata m))) })
        ?_ ?_ ?_ hact hshift ?_ hy h
      · exact hg
      · exact (QueryStream.observe_peeked _ _).trans hp
      · exact fun h => nomatch h
      · rw [hmode]; simp [StreamMode.Consumed, hm]
  · next sets hmode =>
    rw [hmode] at hm
    obtain ⟨rfl, hcol⟩ := hm
    refine proceed_accounted (s := { s with
        mode := .results (collectItem sets i)
        queue := s.queue.observe (some (.ok i)) }) ?_ ?_ ?_ ?_ hshift ?_ hy h
    · exact hg
    · exact (QueryStream.observe_peeked _ _).trans hp
    · exact fun h => nomatch h
    · simp
    · exact ⟨rfl, by rw [collectItems_append hcol]; rfl⟩

theorem settle_accounted {x : StreamResumed} (hp : s.queue.peeked = none)
    (hc : consumer = .columns → s.mode = .compat)
    (hact : ¬ (s.mode = .rows .failed ∨ s.mode = .rows .finished))
    (ht : total = given ++ consumed ++ left) (hm : s.mode.Consumed consumed seen)
    (hx : x.Continues client.inner.dead cur left) (h : s.settle client consumer x = some r) :
    Accounted total given seen cur r := by
  cases x with
  | await guard a => cases h; exact suspend_accounted hp hc hact ht hm hx
  | item i y =>
    obtain ⟨rest, rfl, hy⟩ := hx
    refine deliverItem_accounted ?_ ?_ ?_ ?_ ht ?_ hy h
    · rfl
    · exact hp
    · exact hc
    · exact hact
    · exact hm
  | error e =>
    cases h
    exact deliverLast_accounted rfl hp hc (by rw [ht, show left = _ from hx]; rfl) hm
  | finished =>
    cases h
    exact deliverLast_accounted rfl hp hc (by rw [ht, show left = _ from hx]; rfl) hm

/-- Polling the inner stream, with no item held back. -/
theorem pollInner_accounted (ha : Accounts total given seen s client.inner.dead cur)
    (hp : s.queue.peeked = none) (hc : consumer = .columns → s.mode = .compat)
    (hact : ¬ (s.mode = .rows .failed ∨ s.mode = .rows .finished))
    (h : s.pollInner client consumer = some r) : Accounted total given seen cur r := by
  obtain ⟨⟨consumed, left, ht, hm, hy⟩, hpeek, hover⟩ := ha
  have ht' : total = given ++ consumed ++ left := by simpa [hp] using ht
  unfold pollInner at h
  cases hg : s.gen with
  | suspended guard a =>
    rw [hg] at h
    cases h
    refine ⟨⟨⟨⟨consumed, left, by simpa using ht, by simpa using hm, hy⟩, hpeek, hover⟩, ?_⟩,
      by simp, by simp, by simp, by simp⟩
    exact fun h => hc (Option.some.inj h)
  | unpolled | yielded | finished =>
    rw [hg] at h hy
    exact settle_accounted hp hc hact ht' hm (StreamState.poll_continues hy rfl) h

theorem pollColumns_accounted (ha : Accounts total given seen s client.inner.dead cur)
    (h : s.pollColumns client = some r) : Accounted total given seen cur r := by
  unfold pollColumns at h
  split at h
  · next hmode _ =>
    cases h
    obtain ⟨⟨consumed, left, ht, hm, hy⟩, hpeek, hover⟩ := ha
    refine ⟨⟨⟨⟨consumed, left, ?_, ?_, hy⟩, hpeek, hover⟩, fun h => nomatch h⟩, by simp,
      by simp, by simp, by simp⟩
    · simpa [List.filterMap_cons] using ht
    · simpa [List.filterMap_cons] using hm
  · next hmode hp =>
    exact pollInner_accounted ha hp (fun _ => hmode) (by simp [hmode]) h
  · cases h

theorem pollNext_accounted (ha : Accounts total given seen s client.inner.dead cur)
    (hg : (Task.stream s none).Guarded) (h : s.pollNext client = some r) :
    Accounted total given seen cur r := by
  by_cases hact : s.mode = .rows .failed ∨ s.mode = .rows .finished
  · -- the row stream has handed out its error or its end
    have hr : r = (⟨client, .stream { s with mode := .rows .finished } none⟩, [.row none]) := by
      unfold pollNext at h
      rcases hact with hm | hm <;> rw [hm] at h <;> exact (Option.some.inj h).symm
    subst hr
    have hover := ha.active hact
    obtain ⟨consumed, left, ht, hm, hy⟩ := ha.items
    have hrows : seen = rowItems consumed := by
      rcases hact with hs | hs <;> rw [hs] at hm <;> exact hm
    refine ⟨⟨⟨⟨consumed, left, ?_, ?_, hy⟩, ha.peeked, fun _ => hover⟩, by simp⟩,
      by simp, by simp, fun _ => ⟨_, _, rfl, hover, rfl⟩, by simp⟩
    · simpa [List.filterMap_cons] using ht
    · simpa [List.filterMap_cons, StreamMode.Consumed] using hrows
  · unfold pollNext at h
    split at h
    · next hm => exact absurd (.inl hm) hact
    · next hm => exact absurd (.inr hm) hact
    cases hp : s.queue.peeked with
    | none =>
      simp only [QueryStream.takePeeked, hp] at h
      obtain ⟨mode, ⟨peeked, columns⟩, gen⟩ := s
      cases hp
      have hc : Consumer.next = .columns → mode = .compat := by simp
      exact pollInner_accounted ha rfl hc hact h
    | some i =>
      cases i with
      | error e => exact absurd hp (ha.peeked e)
      | ok i =>
        simp only [QueryStream.takePeeked, hp] at h
        obtain ⟨consumed, left, ht, hm, hy⟩ := ha.items
        have hrest : s.gen.isSuspended = false := hg.2 (by rw [hp]; rfl)
        refine deliverItem_accounted (s := { s with queue.peeked := none }) ?_ ?_ ?_ hact ?_ hm hy h
        · exact hrest
        · rfl
        · simp
        · rw [ht, hp]; simp

/-- An answer to the generator's call. -/
theorem resume_accounted {guard : Operation} {a : StreamAwait} {o : Except TdsError Answer}
    {rp : Reply} {inner : TdsClient} (ha : Accounts total given seen s inner.dead cur)
    (hgen : s.gen = .suspended guard a) (hp : s.queue.peeked = none)
    (hc : consumer = .columns → s.mode = .compat) (hans : cur.Answers a.call rp cur')
    (ho : rp.outcome = .ready o) (hinner : client.inner = inner.after rp)
    (h : s.resume client consumer guard a o = some r) : Accounted total given seen cur' r := by
  obtain ⟨⟨consumed, left, ht, hm, hy⟩, hpeek, hover⟩ := ha
  have hact : ¬ (s.mode = .rows .failed ∨ s.mode = .rows .finished) := by
    intro hm
    have hg := (hover hm).1
    rw [hgen] at hg
    cases hg
  have ht' : total = given ++ consumed ++ left := by simpa [hp] using ht
  unfold resume at h
  split at h
  · cases h
  · next x hx =>
    rw [StreamResumed.release_eq, Client.withInner_self] at h
    rw [hgen] at hy
    rw [hinner] at hx
    have hcont := StreamAwait.resume_continues hy hans ho hx
    rw [← hinner] at hcont
    exact settle_accounted hp hc hact ht' hm hcont h

end StreamTask

namespace StreamTask

variable {s : StreamTask} {client : Client} {consumer : Consumer} {r : Stepped}

/-- The step hands nothing over, and leaves the stream ended or done. -/
def StaysEnded (r : Stepped) : Prop :=
  r.2.filterMap Obs.handed = [] ∧ r.2.filterMap Obs.rowSeen = [] ∧
    (r.1.task = .idle ∨ ∃ s, r.1.task = .stream s none ∧ s.Ended)

theorem ended_pollInner (h : s.Ended) (hr : s.pollInner client consumer = some r) :
    StaysEnded r := by
  have hin : s.pollInner client consumer =
      some ({ s with gen := .finished }.deliverLast client consumer none) := by
    obtain ⟨mode, queue, gen⟩ := s
    obtain ⟨hg, -⟩ := h
    cases gen with
    | unpolled | suspended => cases hg
    | finished => rfl
    | yielded y =>
      cases y with
      | metadata | row => cases hg
      | error => rfl
  rw [hin] at hr
  cases hr
  unfold deliverLast
  split
  · exact ⟨by simp [QueryStream.lookAhead, List.filterMap_cons], by simp, .inr ⟨_, rfl, rfl, h.2⟩⟩
  · exact ⟨by simp [List.filterMap_cons], by simp, .inr ⟨_, rfl, rfl, h.2⟩⟩
  · exact ⟨by simp [List.filterMap_cons], by simp [List.filterMap_cons], .inr ⟨_, rfl, rfl, h.2⟩⟩
  · exact ⟨by simp, by simp, .inl rfl⟩

theorem ended_pollColumns (h : s.Ended) (hr : s.pollColumns client = some r) : StaysEnded r := by
  unfold pollColumns at hr
  split at hr
  · next hp => rw [h.2] at hp; cases hp
  · exact ended_pollInner h hr
  · cases hr

theorem ended_pollNext (h : s.Ended) (hr : s.pollNext client = some r) : StaysEnded r := by
  unfold pollNext at hr
  split at hr
  · cases hr
    exact ⟨by simp, by simp [List.filterMap_cons], .inr ⟨_, rfl, h⟩⟩
  · cases hr
    exact ⟨by simp, by simp [List.filterMap_cons], .inr ⟨_, rfl, h⟩⟩
  · simp only [QueryStream.takePeeked, h.2] at hr
    exact ended_pollInner (s := { s with queue.peeked := none }) ⟨h.1, rfl⟩ hr

end StreamTask

/-- Over a run on a script of `total` items. -/
structure StreamsOn (total : List (Result QueryItem)) (t : Trace Event Obs) (p : Playback) :
    Prop where
  guarded : p.1.task.Guarded
  running : match p.1.task with
    | .stream s polling =>
      Accounts total (handed t) (rowsSeen t) s p.1.dead p.2 ∧
        (polling = some .columns → s.mode = .compat)
    | .idle => True
    | _ => False
  seen : ∃ consumed left, total = handed t ++ consumed ++ left ∧ rowsSeen t = rowItems consumed
  returned : ∀ v, .returned v ∈ t.observed → p.1.task = .idle ∧
    ∃ consumed, total = handed t ++ consumed ∧ v = (collectItems [] consumed).map .results
  ended : .item none ∈ t.observed ∨ .row none ∈ t.observed →
    (p.1.task = .idle ∨ ∃ s, p.1.task = .stream s none ∧ s.Ended) ∧
      ∃ consumed, total = handed t ++ consumed ∧ rowsSeen t = rowItems consumed
  items_ended : .item none ∈ t.observed → total = handed t
  concluded : Concluded t p

section Runs

variable {total : List (Result QueryItem)} {t : Trace Event Obs} {p p' : Playback} {ev : Event}
  {os : List Obs}

theorem handed_snoc : handed (t ++ [(ev, os)]) = handed t ++ os.filterMap Obs.handed := by
  simp [handed]

theorem rowsSeen_snoc : rowsSeen (t ++ [(ev, os)]) = rowsSeen t ++ os.filterMap Obs.rowSeen := by
  simp [rowsSeen]

/-- What a stream has accounted for splits the script's items. -/
theorem Accounts.seen {given : List (Result QueryItem)} {seen : List (Result Row)}
    {s : StreamTask} {dead : Bool} {cur : Cursor} (h : Accounts total given seen s dead cur) :
    ∃ consumed left, total = given ++ consumed ++ left ∧ seen = rowItems consumed := by
  obtain ⟨⟨consumed, left, ht, hm, -⟩, -, -⟩ := h
  unfold StreamMode.Consumed at hm
  split at hm
  · obtain ⟨rfl, rfl⟩ := hm
    exact ⟨[], _, by rw [ht, List.append_assoc], rfl⟩
  · exact ⟨consumed, _, by rw [ht, List.append_assoc], hm⟩
  · obtain ⟨rfl, -⟩ := hm
    exact ⟨[], consumed ++ s.queue.peeked.toList ++ left, by rw [ht]; simp, rfl⟩

/-- A step that shows nothing and leaves the accounts in order. -/
theorem StreamsOn.quiet (hs : StreamsOn total t p) (hg : p'.1.task.Guarded)
    (hrun : match p'.1.task with
      | .stream s polling =>
        Accounts total (handed t) (rowsSeen t) s p'.1.dead p'.2 ∧
          (polling = some .columns → s.mode = .compat)
      | .idle => True
      | _ => False)
    (hidle : p.1.task ≠ .idle)
    (hend : (∃ s, p.1.task = .stream s none ∧ s.Ended) →
      p'.1.task = .idle ∨ ∃ s, p'.1.task = .stream s none ∧ s.Ended)
    (hover : Concluded (t ++ [(ev, [])]) p') :
    StreamsOn total (t ++ [(ev, [])]) p' := by
  have hh : handed (t ++ [(ev, [])]) = handed t := by simp [handed_snoc]
  have hr : rowsSeen (t ++ [(ev, [])]) = rowsSeen t := by simp [rowsSeen_snoc]
  have ho : Trace.observed (t ++ [(ev, [])]) = t.observed := by simp
  refine ⟨hg, ?_, ?_, ?_, ?_, ?_, hover⟩
  · rw [hh, hr]; exact hrun
  · rw [hh, hr]; exact hs.seen
  · rw [hh, ho]
    exact fun v hv => absurd (hs.returned v hv).1 hidle
  · rw [hh, hr, ho]
    intro he
    obtain ⟨hst, hc⟩ := hs.ended he
    exact ⟨hend (hst.resolve_left hidle), hc⟩
  · rw [hh, ho]; exact hs.items_ended

/-- A step of a stream that keeps the accounts. -/
theorem StreamsOn.step {s : StreamTask} {polling : Option Consumer} {cur cur' : Cursor}
    {client : Client} {r : Stepped}
    (hs : StreamsOn total t (⟨client, .stream s polling⟩, cur))
    (hg : r.1.task.Guarded) (ha : Accounted total (handed t) (rowsSeen t) cur' r)
    (hend : polling = none → s.Ended → StreamTask.StaysEnded r) :
    StreamsOn total (t ++ [(ev, r.2)]) (r.1, cur') := by
  obtain ⟨⟨client', task⟩, os⟩ := r
  have hnotidle : (Task.stream s polling) ≠ .idle := by simp
  have same : os.filterMap Obs.handed = [] → os.filterMap Obs.rowSeen = [] →
      handed (t ++ [(ev, os)]) = handed t ∧ rowsSeen (t ++ [(ev, os)]) = rowsSeen t := by
    intro h₁ h₂
    rw [handed_snoc, rowsSeen_snoc, h₁, h₂, List.append_nil, List.append_nil]
    exact ⟨rfl, rfl⟩
  have hmem : ∀ o : Obs, o ∈ Trace.observed (t ++ [(ev, os)]) ↔ o ∈ t.observed ∨ o ∈ os := by
    intro o
    simp
  -- what the new accounts say once nothing is left
  have hover : ∀ s', task = .stream s' none → s'.Ended →
      ∃ consumed, total = handed (t ++ [(ev, os)]) ++ consumed ∧
        s'.mode.Consumed consumed (rowsSeen (t ++ [(ev, os)])) := by
    rintro s' rfl ⟨hg', hp'⟩
    obtain ⟨⟨consumed, left, ht, hm, hy⟩, -, -⟩ := ha.running.1
    rw [hy.nothing_left hg', hp'] at ht
    refine ⟨consumed, ?_, by rw [rowsSeen_snoc]; exact hm⟩
    rw [handed_snoc]
    simpa using ht
  refine ⟨hg, ?_, ?_, ?_, ?_, ?_, fun hi => ?_⟩
  · have hrun := ha.running
    rw [handed_snoc, rowsSeen_snoc]
    cases task with
    | stream => exact hrun
    | idle => trivial
    | _ => exact hrun.elim
  · have hrun := ha.running
    cases task with
    | stream => rw [handed_snoc, rowsSeen_snoc]; exact hrun.1.seen
    | idle =>
      obtain ⟨h₁, h₂⟩ := same hrun.1 hrun.2.1
      rw [h₁, h₂]
      exact hs.seen
    | _ => exact hrun.elim
  · intro v hv
    rcases (hmem _).mp hv with hv | hv
    · exact absurd (hs.returned v hv).1 hnotidle
    · obtain ⟨hidle, consumed, ht, hv⟩ := ha.returned v hv
      refine ⟨hidle, consumed, ?_, hv⟩
      have hrun := ha.running
      simp only at hidle
      subst hidle
      rw [handed_snoc, hrun.1, List.append_nil]
      exact ht
  · intro he
    have hcases : (.item none ∈ t.observed ∨ .row none ∈ t.observed) ∨ .item none ∈ os ∨
        .row none ∈ os := by
      rw [hmem, hmem] at he
      tauto
    rcases hcases with he | he | he
    · obtain ⟨hst, consumed, ht, hr⟩ := hs.ended he
      rcases hst with hst | ⟨s', hst, hend'⟩
      · exact absurd hst hnotidle
      · cases hst
        obtain ⟨h₁, h₂, h₃⟩ := hend rfl hend'
        obtain ⟨h₁, h₂⟩ := same h₁ h₂
        exact ⟨h₃, consumed, by rw [h₁]; exact ht, by rw [h₂]; exact hr⟩
    · obtain ⟨s', hst, hend', hmode⟩ := ha.items_ended he
      obtain ⟨consumed, ht, hm⟩ := hover s' hst hend'
      rw [hmode] at hm
      exact ⟨.inr ⟨s', hst, hend'⟩, consumed, ht, by rw [hm.2, hm.1]; rfl⟩
    · obtain ⟨s', st, hst, hend', hmode⟩ := ha.rows_ended he
      obtain ⟨consumed, ht, hm⟩ := hover s' hst hend'
      rw [hmode] at hm
      exact ⟨.inr ⟨s', hst, hend'⟩, consumed, ht, hm⟩
  · intro he
    rcases (hmem _).mp he with he | he
    · obtain ⟨hst, -⟩ := hs.ended (.inl he)
      rcases hst with hst | ⟨s', hst, hend'⟩
      · exact absurd hst hnotidle
      · cases hst
        obtain ⟨h₁, h₂, -⟩ := hend rfl hend'
        rw [(same h₁ h₂).1]
        exact hs.items_ended he
    · obtain ⟨s', hst, hend', hmode⟩ := ha.items_ended he
      obtain ⟨consumed, ht, hm⟩ := hover s' hst hend'
      rw [hmode] at hm
      rw [hm.1, List.append_nil] at ht
      exact ht
  · obtain ⟨v, hv⟩ := ha.concluded hi
    exact .inr ⟨v, (hmem _).mpr (.inr hv)⟩

/-- Each step of a stream keeps its accounts. -/
theorem plays_streams (hs : StreamsOn total t p) (h : Plays p ev os p') :
    StreamsOn total (t ++ [(ev, os)]) p' := by
  cases h with
  | @user s s' cur ev os hn hr h =>
    have hg' := (Session.step_client hs.guarded h).2
    obtain ⟨client, task⟩ := s
    have hrun := hs.running
    have hg := hs.guarded
    cases task with
    | idle => rw [Session.step_idle client hn] at h; cases h
    | unpolled | operation | reset => exact hrun.elim
    | stream s polling =>
      cases ev with
      | start => cases hn
      | reply => cases hr
      | poll alloc =>
        cases polling with
        | some => cases h
        | none =>
          exact hs.step hg' (StreamTask.pollNext_accounted hrun.1 hg h)
            (fun _ he => StreamTask.ended_pollNext he h)
      | columns =>
        cases polling with
        | some => cases h
        | none =>
          exact hs.step hg' (StreamTask.pollColumns_accounted hrun.1 h)
            (fun _ he => StreamTask.ended_pollColumns he h)
      | intoRowStream =>
        simp only [Session.step] at h
        split at h
        · next q g heq =>
          cases heq
          cases h
          obtain ⟨⟨⟨consumed, left, ht, ⟨rfl, hm⟩, hy⟩, hpeek, -⟩, -⟩ := hrun
          refine hs.quiet hg' ?_ (by simp) ?_ (.running (by simp))
          · exact ⟨⟨⟨[], left, ht, by rw [hm]; rfl, hy⟩, hpeek, by simp [StreamTask.ActiveOrOver]⟩,
              by simp⟩
          · rintro ⟨s, hst, he⟩
            cases hst
            exact .inr ⟨_, rfl, he⟩
        · cases h
      | intoResults =>
        simp only [Session.step] at h
        split at h
        · next q g heq =>
          cases heq
          cases h
          obtain ⟨⟨⟨consumed, left, ht, ⟨rfl, hm⟩, hy⟩, hpeek, -⟩, -⟩ := hrun
          refine hs.quiet hg' ?_ (by simp) ?_ (.running (by simp))
          · exact ⟨⟨⟨[], left, ht, ⟨hm, rfl⟩, hy⟩, hpeek, by simp [StreamTask.ActiveOrOver]⟩,
              by simp⟩
          · rintro ⟨s, hst, he⟩
            cases hst
            exact .inr ⟨_, rfl, he⟩
        · cases h
      | drop =>
        cases polling <;> cases h
        exact hs.quiet hg' trivial (by simp) (fun _ => .inl rfl) .dropped
  | @driver s s' cur cur' call r os hc ha h =>
    have hg' := (Session.step_client hs.guarded h).2
    obtain ⟨client, task⟩ := s
    have hrun := hs.running
    have hg := hs.guarded
    cases task with
    | idle | unpolled => cases hc
    | operation | reset => exact hrun.elim
    | stream s polling =>
      cases polling with
      | none => cases hc
      | some consumer =>
        obtain ⟨hacc, hcons⟩ := hrun
        have hcols : consumer = .columns → s.mode = .compat := fun h => hcons (congrArg some h)
        simp only [Session.step, Session.reply] at h
        split at h
        · next guard a hgen hp =>
          cases h
          obtain ⟨rfl, hk⟩ := ha.pending_eq hp
          refine hs.quiet hg' ⟨?_, by simp⟩ (by simp) ?_ (.running (by simp))
          · have hd : (client.inner.after r).dead = client.inner.dead := by
              rw [TdsClient.after_dead, hk, Bool.or_false]
            simp only [Session.dead, Client.withInner_inner, hd]
            exact hacc
          · rintro ⟨s, hst, he⟩
            cases hst
        · next guard a o hgen hp =>
          simp only [Task.inFlight, hgen, Option.some.injEq] at hc
          subst hc
          refine hs.step (r := (s', os)) hg' ?_ (by simp)
          exact StreamTask.resume_accounted hacc hgen hg.2.2 hcols ha hp rfl h
        · cases h

end Runs

end

end TiberiusBridge

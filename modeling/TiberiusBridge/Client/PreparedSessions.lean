import Mathlib.Logic.Function.Basic
import TiberiusBridge.Client.Handles

/-!
# Prepared statements over many clients

A world holds any number of clients and the statements their users own. Each
client's place counts the sessions begun there, by a connect or a reset, and
each statement remembers where and in which session its prepare began. These
counts are for the proof only: the code sees addresses of `Arc`s, and a new one
may be any address that no live `Arc` has.
-/
namespace TiberiusBridge

open Lib (Run Trace)

section

variable [MssqlTds] {ι : Type}

/-- A statement returned by the prepare that began on `owner` in its session `number`. -/
structure Held (ι : Type) where
  stmt : PreparedStatement
  owner : ι
  number : Nat

/-- A connected client: its session, the statement its running entry point was called with, and
the number of the session in which that entry point was called. -/
structure Place (ι : Type) where
  session : Session
  lent : Option (Held ι)
  began : Nat

abbrev Place.token (p : Place ι) : Token := p.session.client.preparedSession

structure World (ι : Type) where
  places : ι → Option (Place ι)
  number : ι → Nat
  held : List (Held ι)

inductive WorldEvent (ι : Type)
  | connect (i : ι) (client : Client)
  | close (i : ι)
  /-- Call an entry point that takes no statement. -/
  | call (i : ι) (e : Entry)
  /-- Call an entry point on a statement the user holds. -/
  | use (i : ι) (h : Held ι) (e : Entry)
  | act (i : ι) (ev : Event)
  | discard (h : Held ι)

/-- `unprepare` takes its statement; the others borrow it. -/
def Entry.consumes : Entry → Bool
  | .unprepare _ => true
  | _ => false

/-- The address an event stores as the client's new session token. -/
def Session.newToken (s : Session) : Event → Option Token
  | .poll alloc =>
    match s.task with
    | .unpolled e => if e.resets && !s.client.inner.dead then some alloc else none
    | _ => none
  | _ => none

/-- The statement still lent once the entry point may have ended. -/
def Session.stillLent (s : Session) (lent : Option (Held ι)) : Option (Held ι) :=
  match s.task with
  | .idle => none
  | _ => lent

def Obs.statement : Obs → Option PreparedStatement
  | .returned (.ok (.statement stmt)) => some stmt
  | _ => none

namespace World

variable {w w' : World ι}

/-- The statement is held by a user, or by an entry point still running. -/
def Live (w : World ι) (h : Held ι) : Prop :=
  h ∈ w.held ∨ ∃ i p, w.places i = some p ∧ p.lent = some h

/-- No live `Arc` has this address. -/
def Fresh (w : World ι) (token : Token) : Prop :=
  (∀ i p, w.places i = some p → p.token ≠ token) ∧ ∀ h, w.Live h → h.stmt.session ≠ token

def empty : World ι := ⟨fun _ => none, fun _ => 0, []⟩

variable [DecidableEq ι]

inductive Step : World ι → WorldEvent ι → List Obs → World ι → Prop
  | connect {w : World ι} {i : ι} {client : Client} (hn : w.places i = none)
      (hf : w.Fresh client.preparedSession) :
      Step w (.connect i client) []
        { w with
          places := Function.update w.places i (some ⟨.connected client, none, 0⟩)
          number := Function.update w.number i (w.number i + 1) }
  | close {w : World ι} {i : ι} {p : Place ι} (hp : w.places i = some p)
      (hi : p.session.task = .idle) :
      Step w (.close i) [] { w with places := Function.update w.places i none }
  | call {w : World ι} {i : ι} {p : Place ι} {e : Entry} {s : Session} {os : List Obs}
      (hp : w.places i = some p) (he : e.statement = none)
      (hs : p.session.step (.start e) = some (s, os)) :
      Step w (.call i e) os
        { w with places := Function.update w.places i (some ⟨s, none, w.number i⟩) }
  | use {w : World ι} {i : ι} {p : Place ι} {h : Held ι} {e : Entry} {s : Session}
      {os : List Obs} {before after : List (Held ι)} (hp : w.places i = some p)
      (he : e.statement = some h.stmt) (hh : w.held = before ++ h :: after)
      (hs : p.session.step (.start e) = some (s, os)) :
      Step w (.use i h e) os
        { w with
          places := Function.update w.places i (some ⟨s, some h, w.number i⟩)
          held := if e.consumes then before ++ after else w.held }
  | act {w : World ι} {i : ι} {p : Place ι} {ev : Event} {s : Session} {os : List Obs}
      (hp : w.places i = some p) (hn : ev.starts = false)
      (hf : ∀ token, p.session.newToken ev = some token → w.Fresh token)
      (hs : p.session.step ev = some (s, os)) :
      Step w (.act i ev) os
        { places := Function.update w.places i
            (some ⟨s, s.stillLent p.lent, p.began⟩)
          number := if (p.session.newToken ev).isSome then
            Function.update w.number i (w.number i + 1) else w.number
          held := w.held ++ (os.filterMap Obs.statement).map (⟨·, i, p.began⟩) }
  | discard {w : World ι} {h : Held ι} {before after : List (Held ι)}
      (hh : w.held = before ++ h :: after) :
      Step w (.discard h) [] { w with held := before ++ after }

/-- The statement was prepared at `i`, in the session that is still the current one there. -/
def Current (w : World ι) (h : Held ι) (i : ι) : Prop := h.owner = i ∧ h.number = w.number i

/-- What a place keeps: armed guards, a task bound to the client's session, and the record of the
statement it was called with. -/
structure PlaceOk (w : World ι) (i : ι) (p : Place ι) : Prop where
  guarded : p.session.task.Guarded
  bound : p.session.task.Bound p.token
  began : p.session.task.prepares = true → p.began = w.number i
  lent : ∀ stmt, p.session.task.statement = some stmt → ∃ h, p.lent = some h ∧ h.stmt = stmt

/-- A live statement's address is a client's token exactly when it is of that client's current
session. -/
structure HeldOk (w : World ι) (h : Held ι) : Prop where
  number_le : h.number ≤ w.number h.owner
  token_iff : ∀ i p, w.places i = some p → (h.stmt.session = p.token ↔ w.Current h i)

structure Inv (w : World ι) : Prop where
  place : ∀ i p, w.places i = some p → w.PlaceOk i p
  distinct : ∀ i j p q, w.places i = some p → w.places j = some q → p.token = q.token → i = j
  held : ∀ h, w.Live h → w.HeldOk h

end World

namespace Session

variable {s s' : Session} {os : List Obs} {ev : Event}

/-- The client's token after an event. -/
theorem nextClient_token (s : Session) (ev : Event) :
    (s.nextClient ev).preparedSession = (s.newToken ev).getD s.client.preparedSession := by
  cases ev with
  | start | columns | intoRowStream | intoResults => rfl
  | reply r => simp only [nextClient, newToken]; split <;> rfl
  | drop => simp only [nextClient, newToken]; split <;> rfl
  | poll alloc =>
    obtain ⟨client, task⟩ := s
    cases task with
    | unpolled e => simp only [nextClient, newToken]; split <;> rfl
    | _ => rfl

/-- A call starts with the entry point's own statement. -/
theorem start_task {e : Entry} (h : s.step (.start e) = some (s', os)) (token : Token) :
    os = [] ∧ s'.task.Bound token ∧
      ∀ stmt, s'.task.statement = some stmt → e.statement = some stmt := by
  simp only [step] at h
  split at h
  · obtain ⟨s₁, hs, h⟩ := Option.map_eq_some_iff.mp h
    cases h
    unfold Client.start at hs
    split at hs
    · unfold Client.start.openStream at hs
      split at hs <;> cases hs
      exact ⟨rfl, trivial, by simp [Task.statement]⟩
    · unfold Client.start.openStream at hs
      split at hs <;> cases hs
      exact ⟨rfl, trivial, by simp [Task.statement]⟩
    · cases hs; exact ⟨rfl, trivial, fun _ h => h⟩
  · cases h

theorem beginReset_task (client : Client) (alloc : Token) (pooled : Bool) (token : Token) :
    (client.beginReset alloc pooled).1.task.Bound token := by
  unfold Client.beginReset
  split <;> trivial

theorem stillLent_some {lent : Option (Held ι)} {h : Held ι} (hl : s.stillLent lent = some h) :
    lent = some h := by
  unfold stillLent at hl
  split at hl
  · cases hl
  · exact hl

theorem stillLent_of_statement {lent : Option (Held ι)} {stmt : PreparedStatement}
    (h : s.task.statement = some stmt) : s.stillLent lent = lent := by
  unfold stillLent
  split
  · next ht => rw [ht] at h; cases h
  · rfl

theorem mem_statements {stmt : PreparedStatement} :
    stmt ∈ os.filterMap Obs.statement ↔ .returned (.ok (.statement stmt)) ∈ os := by
  rw [List.mem_filterMap]
  constructor
  · rintro ⟨o, ho, hs⟩
    unfold Obs.statement at hs
    split at hs <;> cases hs
    exact ho
  · exact fun h => ⟨_, h, rfl⟩

theorem resets_task {client : Client} {alloc : Token} {e : Entry} {r : Stepped}
    (he : e.resets = true) (h : client.firstPoll alloc e = some r) (token : Token) :
    e.prepares = false ∧ e.statement = none ∧ r.1.task.Bound token := by
  cases e with
  | resetSession =>
    simp only [Client.firstPoll, Option.some.injEq] at h
    subst h
    exact ⟨rfl, rfl, beginReset_task client alloc false token⟩
  | recycle method =>
    simp only [Client.firstPoll, Option.some.injEq] at h
    subst h
    refine ⟨rfl, rfl, ?_⟩
    unfold Client.beginRecycle
    split
    · trivial
    · cases method with
      | reset => exact beginReset_task client alloc true token
      | ping => cases he
  | _ => cases he

/-- An event that stores a new token neither prepares nor uses a statement. -/
theorem newToken_task {token : Token} (ht : s.newToken ev = some token)
    (h : s.step ev = some (s', os)) (token' : Token) :
    s.task.prepares = false ∧ s.task.statement = none ∧ s'.task.Bound token' := by
  obtain ⟨client, task⟩ := s
  cases ev with
  | poll alloc =>
    cases task with
    | unpolled e =>
      simp only [newToken] at ht
      split at ht
      · next hr => exact resets_task (Bool.and_eq_true_iff.mp hr).1 h token'
      · cases ht
    | _ => cases ht
  | _ => cases ht

end Session

namespace World

variable {w w' : World ι} {i : ι}

theorem inv_empty : (empty : World ι).Inv where
  place i p h := by cases h
  distinct i j p q h := by cases h
  held h hl := by
    rcases hl with hl | ⟨i, p, hp, -⟩
    · cases hl
    · cases hp

/-- A place's record does not depend on the other places. -/
theorem PlaceOk.congr {j : ι} {p : Place ι} (h : w.PlaceOk j p) (hn : w'.number j = w.number j) :
    w'.PlaceOk j p :=
  ⟨h.guarded, h.bound, fun hp => (h.began hp).trans hn.symm, h.lent⟩

theorem Live.of_held {h : Held ι} {before after : List (Held ι)}
    (hh : w.held = before ++ h :: after) : w.Live h :=
  .inl (by rw [hh]; exact List.mem_append_right _ List.mem_cons_self)

/-- The statements other than the one taken out are held. -/
theorem mem_held {h k : Held ι} {before after : List (Held ι)}
    (hh : w.held = before ++ h :: after) (hk : k ∈ before ++ after) : k ∈ w.held := by
  rw [hh]
  exact ((List.sublist_cons_self h after).append_left before).mem hk

theorem inv_discard {h : Held ι} {before after : List (Held ι)} (hi : w.Inv)
    (hh : w.held = before ++ h :: after) : Inv { w with held := before ++ after } := by
  refine ⟨fun j p hp => ?_, hi.distinct, fun k hk => ?_⟩
  · exact (hi.place j p hp).congr rfl
  · have hw : w.Live k := by
      rcases hk with hk | hk
      · exact .inl (mem_held hh hk)
      · exact .inr hk
    exact ⟨(hi.held k hw).number_le, (hi.held k hw).token_iff⟩

variable [DecidableEq ι]

/-- A world in which one place, the counts and the held statements have changed. -/
def put (w : World ι) (i : ι) (q : Option (Place ι)) (number : ι → Nat) (held : List (Held ι)) :
    World ι :=
  ⟨Function.update w.places i q, number, held⟩

variable {q : Option (Place ι)} {number : ι → Nat} {held : List (Held ι)}

theorem put_places {j : ι} {p : Place ι} (h : (w.put i q number held).places j = some p) :
    j = i ∧ q = some p ∨ j ≠ i ∧ w.places j = some p := by
  by_cases hj : j = i
  · subst hj
    exact .inl ⟨rfl, by simpa [put] using h⟩
  · exact .inr ⟨hj, by simpa [put, Function.update_of_ne hj] using h⟩

theorem put_live {h : Held ι} (hl : (w.put i q number held).Live h) :
    h ∈ held ∨ (∃ p, q = some p ∧ p.lent = some h) ∨ w.Live h := by
  rcases hl with hl | ⟨j, p, hp, hl⟩
  · exact .inl hl
  · rcases put_places hp with ⟨-, hq⟩ | ⟨-, hp⟩
    · exact .inr (.inl ⟨p, hq, hl⟩)
    · exact .inr (.inr (.inr ⟨j, p, hp, hl⟩))

theorem put_place (hi : w.Inv) (hq : ∀ p, q = some p → (w.put i q number held).PlaceOk i p)
    (hn : ∀ j, j ≠ i → number j = w.number j) :
    ∀ j p, (w.put i q number held).places j = some p → (w.put i q number held).PlaceOk j p := by
  intro j p hp
  rcases put_places hp with ⟨rfl, h⟩ | ⟨hj, h⟩
  · exact hq p h
  · exact (hi.place j p h).congr (hn j hj)

theorem put_distinct (hi : w.Inv)
    (hq : ∀ p, q = some p → ∀ j r, j ≠ i → w.places j = some r → p.token ≠ r.token) :
    ∀ j k p r, (w.put i q number held).places j = some p →
      (w.put i q number held).places k = some r → p.token = r.token → j = k := by
  intro j k p r hp hr ht
  rcases put_places hp with ⟨rfl, h⟩ | ⟨hj, h⟩ <;> rcases put_places hr with ⟨rfl, h'⟩ | ⟨hk, h'⟩
  · rfl
  · exact absurd ht (hq p h k r hk h')
  · exact absurd ht.symm (hq r h' j p hj h)
  · exact hi.distinct j k p r h h' ht

/-- A place whose token is kept keeps every live statement's record. -/
theorem heldOk_keep {h : Held ι} (hi : w.Inv) {p₀ : Place ι} (hp₀ : w.places i = some p₀)
    (hq : ∀ p, q = some p → p.token = p₀.token) (hw : w.Live h) :
    (w.put i q w.number held).HeldOk h := by
  obtain ⟨hle, htok⟩ := hi.held h hw
  refine ⟨hle, fun j p hp => ?_⟩
  rcases put_places hp with ⟨rfl, h'⟩ | ⟨-, h'⟩
  · rw [hq p h']; exact htok j p₀ hp₀
  · exact htok j p h'

/-- A fresh token makes every live statement of the place stale. -/
theorem heldOk_renew {h : Held ι} {token : Token} (hi : w.Inv) (hf : w.Fresh token)
    (hq : ∀ p, q = some p → p.token = token) (hw : w.Live h) :
    (w.put i q (Function.update w.number i (w.number i + 1)) held).HeldOk h := by
  obtain ⟨hle, htok⟩ := hi.held h hw
  refine ⟨?_, fun j p hp => ?_⟩
  · by_cases ho : h.owner = i
    · simp only [put, ho, Function.update_self]; rw [ho] at hle; omega
    · simpa only [put, Function.update_of_ne ho] using hle
  · rcases put_places hp with ⟨rfl, h'⟩ | ⟨hj, h'⟩
    · rw [hq p h']
      refine ⟨fun h' => absurd h' (hf.2 h hw), ?_⟩
      rintro ⟨ho, hnum⟩
      simp only [put, Function.update_self] at hnum
      rw [ho] at hle
      omega
    · rw [htok j p h']
      simp only [Current, put, Function.update_of_ne hj]

theorem inv_connect {client : Client} (hi : w.Inv)
    (hf : w.Fresh client.preparedSession) :
    (w.put i (some ⟨.connected client, none, 0⟩) (Function.update w.number i (w.number i + 1))
      w.held).Inv := by
  refine ⟨put_place hi ?_ fun j hj => Function.update_of_ne hj _ _, put_distinct hi ?_, ?_⟩
  · intro p hp
    cases hp
    exact ⟨trivial, trivial, fun h => (nomatch h), fun _ h => (nomatch h)⟩
  · intro p hp j r hj hr
    cases hp
    exact (hf.1 j r hr).symm
  · intro h hl
    refine heldOk_renew hi hf (fun p hp => by cases hp; rfl) ?_
    rcases put_live hl with hl | ⟨p, hp, hl⟩ | hl
    · exact .inl hl
    · cases hp; cases hl
    · exact hl

theorem inv_close {p : Place ι} (hi : w.Inv) (hp : w.places i = some p) :
    (w.put i none w.number w.held).Inv := by
  refine ⟨put_place hi (by simp) fun _ _ => rfl, put_distinct hi (by simp), ?_⟩
  intro h hl
  refine heldOk_keep hi hp (by simp) ?_
  rcases put_live hl with hl | ⟨p, hp, -⟩ | hl
  · exact .inl hl
  · cases hp
  · exact hl

/-- Calling an entry point, on the statement it is lent if it takes one. -/
theorem inv_start {p : Place ι} {e : Entry} {s : Session} {os : List Obs}
    {lent : Option (Held ι)} (hi : w.Inv) (hp : w.places i = some p)
    (hlent : ∀ h, lent = some h → w.Live h)
    (he : ∀ stmt, e.statement = some stmt → ∃ h, lent = some h ∧ h.stmt = stmt)
    (hheld : ∀ h ∈ held, h ∈ w.held) (hs : p.session.step (.start e) = some (s, os)) :
    (w.put i (some ⟨s, lent, w.number i⟩) w.number held).Inv := by
  obtain ⟨hc, hg⟩ := Session.step_client (hi.place i p hp).guarded hs
  have htok : s.client.preparedSession = p.token := by rw [hc]; rfl
  refine ⟨put_place hi ?_ fun _ _ => rfl, put_distinct hi ?_, ?_⟩
  · intro q hq
    cases hq
    exact ⟨hg, (Session.start_task hs _).2.1, fun _ => rfl,
      fun stmt hst => he stmt ((Session.start_task hs p.token).2.2 stmt hst)⟩
  · intro q hq j r hj hr hjr
    cases hq
    exact hj (hi.distinct j i r p hr hp (hjr.symm.trans htok))
  · intro h hl
    refine heldOk_keep hi hp (fun q hq => by cases hq; exact htok) ?_
    rcases put_live hl with hl | ⟨q, hq, hl⟩ | hl
    · exact .inl (hheld h hl)
    · cases hq; exact hlent h hl
    · exact hl

/-- What a task at rest, polled, answered or dropped does to the world. -/
theorem inv_act {p : Place ι} {ev : Event} {s : Session} {os : List Obs} (hi : w.Inv)
    (hp : w.places i = some p) (hn : ev.starts = false)
    (hf : ∀ token, p.session.newToken ev = some token → w.Fresh token)
    (hs : p.session.step ev = some (s, os)) :
    (w.put i (some ⟨s, s.stillLent p.lent, p.began⟩)
      (if (p.session.newToken ev).isSome then
        Function.update w.number i (w.number i + 1) else w.number)
      (w.held ++ (os.filterMap Obs.statement).map (⟨·, i, p.began⟩))).Inv := by
  have hok := hi.place i p hp
  obtain ⟨hc, hg⟩ := Session.step_client hok.guarded hs
  have hh := Session.step_handled hok.guarded hok.bound hn hs
  have htok : s.client.preparedSession = (p.session.newToken ev).getD p.token := by
    rw [hc, Session.nextClient_token]
  have hlent : ∀ stmt, s.task.statement = some stmt →
      ∃ h, s.stillLent p.lent = some h ∧ h.stmt = stmt := by
    intro stmt hst
    rw [Session.stillLent_of_statement hst]
    exact hok.lent stmt (hh.statement stmt hst)
  cases hnew : p.session.newToken ev with
  | none =>
    rw [hnew] at htok
    refine ⟨put_place hi ?_ fun _ _ => rfl, put_distinct hi ?_, ?_⟩
    · intro q hq
      cases hq
      refine ⟨hg, ?_, fun h => hok.began (hh.prepares h), hlent⟩
      rw [show Place.token _ = p.token from htok]
      exact hh.bound
    · intro q hq j r hj hr hjr
      cases hq
      exact hj (hi.distinct j i r p hr hp (hjr.symm.trans htok))
    · intro h hl
      have hkeep : ∀ k, w.Live k → (w.put i (some ⟨s, s.stillLent p.lent, p.began⟩) w.number
          (w.held ++ (os.filterMap Obs.statement).map (⟨·, i, p.began⟩))).HeldOk k :=
        fun k => heldOk_keep hi hp (fun q hq => by cases hq; exact htok)
      rcases put_live hl with hl | ⟨q, hq, hl⟩ | hl
      · rcases List.mem_append.mp hl with hl | hl
        · exact hkeep h (.inl hl)
        · obtain ⟨stmt, hm, rfl⟩ := List.mem_map.mp hl
          obtain ⟨hprep, hses⟩ := hh.returned stmt (Session.mem_statements.mp hm)
          have hbegan := hok.began hprep
          -- the statement just returned is of the session it was prepared in
          refine ⟨hbegan.le, fun j r hr => ?_⟩
          rcases put_places hr with ⟨rfl, h'⟩ | ⟨hj, h'⟩
          · cases h'
            exact ⟨fun _ => ⟨rfl, hbegan⟩, fun _ => hses.trans htok.symm⟩
          · refine ⟨fun ht => ?_, fun hcur => absurd hcur.1.symm hj⟩
            exact absurd (hi.distinct j i r p h' hp (ht.symm.trans hses)) hj
      · cases hq
        exact hkeep h (.inr ⟨i, p, hp, Session.stillLent_some hl⟩)
      · exact hkeep h hl
  | some token =>
    rw [hnew] at htok
    have hfresh := hf token hnew
    have hnone : os.filterMap Obs.statement = [] := by
      refine List.eq_nil_iff_forall_not_mem.mpr fun stmt hm => ?_
      have hp := (hh.returned stmt (Session.mem_statements.mp hm)).1
      rw [(Session.newToken_task hnew hs token).1] at hp
      cases hp
    rw [hnone, List.map_nil, List.append_nil]
    refine ⟨put_place hi ?_ fun j hj => Function.update_of_ne hj _ _, put_distinct hi ?_, ?_⟩
    · intro q hq
      cases hq
      obtain ⟨hprep, -, hbound⟩ := Session.newToken_task hnew hs s.client.preparedSession
      refine ⟨hg, hbound, fun h => ?_, hlent⟩
      have hp := hh.prepares h
      rw [hprep] at hp
      cases hp
    · intro q hq j r hj hr
      cases hq
      exact fun h => hfresh.1 j r hr (h.symm.trans htok)
    · intro h hl
      refine heldOk_renew hi hfresh (fun q hq => by cases hq; exact htok) ?_
      rcases put_live hl with hl | ⟨q, hq, hl⟩ | hl
      · exact .inl hl
      · cases hq
        exact .inr ⟨i, p, hp, Session.stillLent_some hl⟩
      · exact hl

theorem step_inv {ev : WorldEvent ι} {os : List Obs} (hi : w.Inv) (hs : Step w ev os w') :
    w'.Inv := by
  cases hs with
  | connect hn hf => exact inv_connect hi hf
  | close hp _ => exact inv_close hi hp
  | call hp he hs =>
    refine inv_start hi hp (fun _ h => (nomatch h)) (fun stmt h => ?_) (fun _ h => h) hs
    rw [he] at h
    cases h
  | @use i p h e s os before after hp he hh hs =>
    refine inv_start hi hp (fun k hk => ?_) (fun stmt hst => ⟨h, rfl, ?_⟩) (fun k hk => ?_) hs
    · cases hk; exact Live.of_held hh
    · rw [he] at hst; exact Option.some.inj hst
    · split at hk
      · exact mem_held hh hk
      · exact hk
  | act hp hn hf hs => exact inv_act hi hp hn hf hs
  | discard hh => exact inv_discard hi hh

/-- Only a prepare brings a statement to life. -/
theorem step_live {ev : WorldEvent ι} {os : List Obs} {k : Held ι} (hs : Step w ev os w')
    (hk : w'.Live k) :
    w.Live k ∨ ∃ a, ev = .act k.owner a ∧ .returned (.ok (.statement k.stmt)) ∈ os := by
  cases hs with
  | connect hn hf =>
    rcases put_live hk with hk | ⟨p, hp, hl⟩ | hk
    · exact .inl (.inl hk)
    · cases hp; cases hl
    · exact .inl hk
  | close hp _ =>
    rcases put_live hk with hk | ⟨p, hp, -⟩ | hk
    · exact .inl (.inl hk)
    · cases hp
    · exact .inl hk
  | call hp he hs =>
    rcases put_live hk with hk | ⟨p, hp, hl⟩ | hk
    · exact .inl (.inl hk)
    · cases hp; cases hl
    · exact .inl hk
  | @use i p h e s os before after hp he hh hs =>
    left
    rcases put_live hk with hk | ⟨p, hp, hl⟩ | hk
    · refine .inl ?_
      split at hk
      · exact mem_held hh hk
      · exact hk
    · cases hp; cases hl; exact Live.of_held hh
    · exact hk
  | @act i p ev s os hp hn hf hs =>
    rcases put_live hk with hk | ⟨q, hq, hl⟩ | hk
    · rcases List.mem_append.mp hk with hk | hk
      · exact .inl (.inl hk)
      · obtain ⟨stmt, hm, rfl⟩ := List.mem_map.mp hk
        exact .inr ⟨ev, rfl, Session.mem_statements.mp hm⟩
    · cases hq
      exact .inl (.inr ⟨i, p, hp, Session.stillLent_some hl⟩)
    · exact .inl hk
  | @discard h before after hh =>
    left
    rcases hk with hk | hk
    · exact .inl (mem_held hh hk)
    · exact .inr hk

abbrev Runs (w : World ι) (t : Trace (WorldEvent ι) Obs) (w' : World ι) : Prop := Run Step w t w'

variable {t : Trace (WorldEvent ι) Obs}

theorem runs_inv (h : (empty : World ι).Runs t w) : w.Inv :=
  h.invariant (I := Inv) (fun _ _ _ _ hi hs => step_inv hi hs) inv_empty

/-- A live statement was returned by a prepare on its owner. -/
theorem live_returned (h : (empty : World ι).Runs t w) {k : Held ι} (hk : w.Live k) :
    ∃ a os, (.act k.owner a, os) ∈ t ∧ .returned (.ok (.statement k.stmt)) ∈ os := by
  let I : Trace (WorldEvent ι) Obs → World ι → Prop := fun t w => ∀ k, w.Live k →
    ∃ a os, (.act k.owner a, os) ∈ t ∧ .returned (.ok (.statement k.stmt)) ∈ os
  refine h.history (I := I) ?_ ?_ k hk
  · intro t w ev os w' ih hs k hk
    rcases step_live hs hk with hk | ⟨a, rfl, hm⟩
    · obtain ⟨a, os', ht, hm⟩ := ih k hk
      exact ⟨a, os', List.mem_append_left _ ht, hm⟩
    · exact ⟨a, os, List.mem_append_right _ List.mem_cons_self, hm⟩
  · rintro k (hk | ⟨i, p, hp, -⟩)
    · cases hk
    · cases hp

end World

namespace Client

variable {client : Client} {stmt : PreparedStatement} {e : Entry}

theorem beginPrepared_stale (hd : client.inner.dead = false)
    (hs : stmt.session ≠ client.preparedSession) (params : List Param)
    (command : Option (List RpcParameter) → Command) :
    client.beginPrepared stmt params command =
      some (⟨client, .idle⟩, [.returned (.error .invalidPreparedStatement)]) := by
  have hc : client.checkPrepared stmt = .error .invalidPreparedStatement := by
    rw [checkPrepared, ensureUsable_usable hd]
    exact PreparedStatement.validateSession_other hs
  simp only [beginPrepared, hc]

theorem beginPrepared_current (hd : client.inner.dead = false)
    (hs : stmt.session = client.preparedSession) {params : List Param}
    {command : Option (List RpcParameter) → Command} {r : Stepped}
    (h : client.beginPrepared stmt params command = some r) : r.2 = [.issued .closeQuery] := by
  have hc : client.checkPrepared stmt = .ok () := by
    rw [checkPrepared, ensureUsable_usable hd]
    exact PreparedStatement.validateSession_ok_iff.mpr hs
  simp only [beginPrepared, hc] at h
  split at h <;> cases h
  rw [beginOperation, Operation.new_usable hd]
  rfl

/-- The dead check comes first on every entry point that takes a statement. -/
theorem firstPoll_statement_dead (he : e.statement = some stmt) (hd : client.inner.dead = true)
    (alloc : Token) : client.firstPoll alloc e =
      some (⟨client, .idle⟩, [.returned (.error connectionClosed)]) := by
  cases e with
  | queryPrepared | executePrepared | unprepare =>
    simp only [firstPoll, beginPrepared_dead hd]
  | _ => cases he

theorem firstPoll_statement_stale (he : e.statement = some stmt) (hd : client.inner.dead = false)
    (hs : stmt.session ≠ client.preparedSession) (alloc : Token) : client.firstPoll alloc e =
      some (⟨client, .idle⟩, [.returned (.error .invalidPreparedStatement)]) := by
  cases e with
  | queryPrepared | executePrepared | unprepare =>
    cases he
    simp only [firstPoll, beginPrepared_stale hd hs]
  | _ => cases he

theorem firstPoll_statement_current (he : e.statement = some stmt)
    (hd : client.inner.dead = false) (hs : stmt.session = client.preparedSession) {alloc : Token}
    {r : Stepped} (h : client.firstPoll alloc e = some r) : r.2 = [.issued .closeQuery] := by
  cases e with
  | queryPrepared | executePrepared | unprepare =>
    cases he
    simp only [firstPoll] at h
    exact beginPrepared_current hd hs h
  | _ => cases he

end Client

/-- What holds in the world `w` that a run with trace `t` reaches. -/
structure HandlesCurrent [DecidableEq ι] (t : Trace (WorldEvent ι) Obs) (w : World ι) : Prop where
  /-- A call with a handle carries that of the statement the entry point was called with, prepared
  on the same client in its present session. -/
  used : ∀ ev os w' c, w.Step ev os w' → .issued c ∈ os → c.usesHandle = true →
    ∃ i a p h, ev = .act i a ∧ w.places i = some p ∧ p.lent = some h ∧ c.Uses h.stmt ∧
      w.Current h i ∧
      ∃ a' os', (.act i a', os') ∈ t ∧ .returned (.ok (.statement h.stmt)) ∈ os'
  /-- The first poll of an entry point called with a statement. -/
  checked : ∀ i p e stmt alloc, w.places i = some p → p.session.task = .unpolled e →
    e.statement = some stmt → ∃ h, p.lent = some h ∧ h.stmt = stmt ∧
      (p.session.dead = true → p.session.step (.poll alloc) =
        some (⟨p.session.client, .idle⟩, [.returned (.error connectionClosed)])) ∧
      (p.session.dead = false → ¬ w.Current h i → p.session.step (.poll alloc) =
        some (⟨p.session.client, .idle⟩, [.returned (.error .invalidPreparedStatement)])) ∧
      (p.session.dead = false → w.Current h i → ∀ s os,
        p.session.step (.poll alloc) = some (s, os) → os = [.issued .closeQuery])

/-- Over every interleaving of any number of clients, a stale handle never reaches the server. -/
theorem stale_handle_never_sent [DecidableEq ι] {t : Trace (WorldEvent ι) Obs} {w : World ι}
    (h : (World.empty : World ι).Runs t w) : HandlesCurrent t w := by
  have hi := World.runs_inv h
  refine ⟨?_, ?_⟩
  · intro ev os w' c hs hc hu
    cases hs with
    | connect | close | discard => cases hc
    | call hp he hs | use hp he hh hs => rw [(Session.start_task hs 0).1] at hc; cases hc
    | @act i p ev s os hp hn hf hs =>
      have hok := hi.place i p hp
      have hh := Session.step_handled hok.guarded hok.bound hn hs
      obtain ⟨stmt, hst, htok, huse⟩ := hh.issued c hc hu
      obtain ⟨k, hk, rfl⟩ := hok.lent stmt hst
      have hlive : w.Live k := .inr ⟨i, p, hp, hk⟩
      have hcur : w.Current k i := ((hi.held k hlive).token_iff i p hp).mp htok
      obtain ⟨a', os', ht, hm⟩ := World.live_returned h hlive
      rw [hcur.1] at ht
      exact ⟨i, ev, p, k, rfl, hp, hk, huse, hcur, a', os', ht, hm⟩
  · intro i p e stmt alloc hp ht he
    have hok := hi.place i p hp
    obtain ⟨k, hk, rfl⟩ := hok.lent stmt (by rw [ht]; exact he)
    have htok := (hi.held k (.inr ⟨i, p, hp, hk⟩)).token_iff i p hp
    have hstep : p.session.step (.poll alloc) = p.session.client.firstPoll alloc e := by
      simp only [Session.step, ht]
    rw [hstep]
    refine ⟨k, hk, rfl, ?_, ?_, ?_⟩
    · exact fun hd => Client.firstPoll_statement_dead he hd alloc
    · exact fun hd hc => Client.firstPoll_statement_stale he hd (fun h => hc (htok.mp h)) alloc
    · exact fun hd hc s os hs => Client.firstPoll_statement_current he hd (htok.mpr hc) hs

end

section

open Reference

def selectOne : PreparedStatement := ⟨7, "SELECT 1", 0⟩

/-- The statement as its user holds it, of the first session. -/
def heldOne : Held Unit := ⟨selectOne, (), 1⟩

/-- A statement is prepared and run, then the session is reset, and it is run again. -/
def resetBetween : Trace (WorldEvent Unit) Obs :=
  [(.connect () client, []), (.call () (.prepare "SELECT 1" []), []),
    (.act () (.poll 1), [.issued .closeQuery]),
    (.act () (.reply { outcome := .ready (.ok .unit) }),
      [.issued (PreparedStatement.prepareCall "SELECT 1" "")]),
    (.act () (.reply { outcome := .ready (.ok (.statement .finished)) }), [.issued .advanceToRows]),
    (.act () (.reply
      { outcome := .ready (.ok (.flag false)), returnValues := [.int 7] }),
      [.returned (.ok (.statement selectOne))]),
    (.use () heldOne (.queryPrepared selectOne []), []),
    (.act () (.poll 1), [.issued .closeQuery]),
    (.act () (.reply { outcome := .ready (.ok .unit) }), [.issued (selectOne.executeCall none)]),
    (.act () (.reply { outcome := .ready (.ok (.statement .finished)) }), [.issued .advanceToRows]),
    (.act () (.reply { outcome := .ready (.ok (.flag false)) }), [.returned (.ok (.results []))]),
    (.call () .resetSession, []),
    (.act () (.poll 1), [.issued .closeQuery]),
    (.act () (.reply { outcome := .ready (.ok .unit) }),
      [.armReset false, .issued ResetAwait.batch.call]),
    (.act () (.reply { outcome := .ready (.ok (.statement .finished)) }), [.issued .closeQuery]),
    (.act () (.reply { outcome := .ready (.ok .unit) }), [.returned (.ok .unit)]),
    (.use () heldOne (.queryPrepared selectOne []), []),
    (.act () (.poll 2), [.returned (.error .invalidPreparedStatement)])]

/-- The statement is still held, of a session that is over. -/
theorem stale_handle_never_sent_reset :
    ∃ w : World Unit, World.empty.Runs resetBetween w ∧ HandlesCurrent resetBetween w ∧
      w.held = [heldOne] ∧ ¬w.Current heldOne () := by
  have h : ∃ w : World Unit, World.empty.Runs resetBetween w ∧
      w.held = [heldOne] ∧ w.number () = 2 := by
    refine ⟨_, .cons (.connect rfl ⟨?_, ?_⟩) (.cons (.call rfl rfl rfl)
      (.cons (.act rfl rfl ?_ rfl) (.cons (.act rfl rfl ?_ rfl) (.cons (.act rfl rfl ?_ rfl)
        (.cons (.act rfl rfl ?_ rfl)
      (.cons (@World.Step.use _ _ _ _ () _ heldOne _ _ _ [] [] rfl rfl rfl rfl)
        (.cons (.act rfl rfl ?_ rfl) (.cons (.act rfl rfl ?_ rfl) (.cons (.act rfl rfl ?_ rfl)
          (.cons (.act rfl rfl ?_ rfl)
      (.cons (.call rfl rfl rfl) (.cons (.act rfl rfl ?_ rfl) (.cons (.act rfl rfl ?_ rfl)
        (.cons (.act rfl rfl ?_ rfl) (.cons (.act rfl rfl ?_ rfl)
      (.cons (@World.Step.use _ _ _ _ () _ heldOne _ _ _ [] [] rfl rfl rfl rfl)
        (.cons (.act rfl rfl ?_ rfl) (.nil _)))))))))))))))))), rfl, rfl⟩
    · rintro i p ⟨⟩
    · rintro k (hk | ⟨i, p, hp, -⟩)
      · cases hk
      · cases hp
    all_goals rintro token ⟨⟩
    -- the address that the reset takes is neither the client's nor the statement's
    refine ⟨?_, ?_⟩
    · rintro i p ⟨⟩
      decide
    · rintro k (hk | ⟨i, p, ⟨⟩, hlent⟩)
      · cases List.mem_singleton.mp hk
        decide
      · cases hlent
  obtain ⟨w, hr, hh, hn⟩ := h
  exact ⟨w, hr, stale_handle_never_sent hr, hh, fun hc => nomatch hc.2.trans hn⟩

end

end TiberiusBridge

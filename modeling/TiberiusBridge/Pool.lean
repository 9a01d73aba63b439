import TiberiusBridge.Client.PreparedSessions
import TiberiusBridge.Client.Recycling
import TiberiusBridge.Config
import TiberiusBridge.Lib.Simulation

/-!
# The connection pool

`deadpool` calls `TdsManager` to create a connection and to recycle one that a
borrower gave back. It hands out what `create` returns and what `recycle`
accepts, and lets go of a connection whose recycle fails or is cancelled. Which
idle connections it recycles, and when it closes one, is left open here. A
borrower has the connection to itself and may call any entry point.
-/
namespace TiberiusBridge

open Lib (Run Trace Simulates ofStep)

section

variable [MssqlTds] {ι π : Type}

/-- `Client::connect`, given what `ClientContext::default()` and `from_cargo_version()` return and
how the driver answers; `alloc` is the address of the new session token. -/
def Client.connect (config : Config π) (default : ClientContext π) (driverVersion : DriverVersion)
    (createClient : ClientContext π → String → Except TdsError TdsClient) (alloc : Token) :
    Result Client :=
  match createClient (config.toClientContext default driverVersion) config.datasourceString with
  | .error e => .error (.tds e)
  | .ok inner =>
    .ok {
      inner
      sendStringParametersAsUnicode := config.sendStringParametersAsUnicode
      preparedSession := alloc }

structure TdsManager (π : Type) where
  config : Config π
  recyclingMethod : RecyclingMethod := .reset

/-- A client that `create` may return. -/
def TdsManager.Creates (mgr : TdsManager π) (client : Client) : Prop :=
  ∃ default driverVersion createClient alloc,
    Client.connect mgr.config default driverVersion createClient alloc = .ok client

/-- Who has a connection. -/
inductive Lease
  | idle
  /-- A checkout is recycling it, and has done so much. -/
  | recycling (t : Trace Event Obs)
  /-- Its recycle failed or was cancelled. -/
  | refused
  | borrowed

structure Pool (ι : Type) where
  world : World ι
  lease : ι → Lease

inductive PoolEvent (ι : Type)
  | create (i : ι) (client : Client)
  | recycle (i : ι)
  /-- The checkout polls its recycle, the driver answers it, or the checkout is cancelled. -/
  | resume (i : ι) (ev : Event)
  /-- A borrower uses its connection. -/
  | user (i : ι) (ev : WorldEvent ι)
  | giveBack (i : ι)
  | close (i : ι)
  | discard (h : Held ι)

namespace WorldEvent

/-- The connection that an event is about. -/
def place : WorldEvent ι → Option ι
  | connect i _ | close i | call i _ | use i _ _ | act i _ => some i
  | discard _ => none

/-- What a borrower does with connection `i`. -/
def By (i : ι) : WorldEvent ι → Prop
  | call j _ | use j _ _ | act j _ => j = i
  | _ => False

end WorldEvent

/-- The steps of the connections that a step of the pool takes. -/
def PoolEvent.within (method : RecyclingMethod) : PoolEvent ι × List Obs → Trace (WorldEvent ι) Obs
  | (.create i client, os) => [(.connect i client, os)]
  | (.recycle i, os) => [(.call i (.recycle method), os)]
  | (.resume i ev, os) => [(.act i ev, os)]
  | (.user _ ev, os) => [(ev, os)]
  | (.giveBack _, _) => []
  | (.close i, os) => [(.close i, os)]
  | (.discard h, os) => [(.discard h, os)]

/-- The step hands connection `i` to a borrower. -/
def PoolEvent.ChecksOut (i : ι) : PoolEvent ι → List Obs → Prop
  | .create j _, _ => j = i
  | .resume j _, os => j = i ∧ .recycled (.ok ()) ∈ os
  | _, _ => False

/-- The step that the recycle of `i` takes. -/
def PoolEvent.resumed [DecidableEq ι] (i : ι) : PoolEvent ι × List Obs → Option (Event × List Obs)
  | (.resume j ev, os) => if j = i then some (ev, os) else none
  | _ => none

namespace Pool

def empty : Pool ι := ⟨World.empty, fun _ => .idle⟩

variable [DecidableEq ι]

inductive Step (mgr : TdsManager π) : Pool ι → PoolEvent ι → List Obs → Pool ι → Prop
  | create {p : Pool ι} {i : ι} {client : Client} {os : List Obs} {w : World ι}
      (hc : mgr.Creates client) (hs : p.world.Step (.connect i client) os w) :
      Step mgr p (.create i client) os ⟨w, Function.update p.lease i .borrowed⟩
  | recycle {p : Pool ι} {i : ι} {os : List Obs} {w : World ι} (hl : p.lease i = .idle)
      (hs : p.world.Step (.call i (.recycle mgr.recyclingMethod)) os w) :
      Step mgr p (.recycle i) os ⟨w, Function.update p.lease i (.recycling [])⟩
  | resume {p : Pool ι} {i : ι} {t : Trace Event Obs} {ev : Event} {os : List Obs} {w : World ι}
      (hl : p.lease i = .recycling t) (hs : p.world.Step (.act i ev) os w)
      (hr : ∀ q, w.places i = some q → q.session.task ≠ .idle) :
      Step mgr p (.resume i ev) os ⟨w, Function.update p.lease i (.recycling (t ++ [(ev, os)]))⟩
  | handOut {p : Pool ι} {i : ι} {t : Trace Event Obs} {ev : Event} {os : List Obs} {w : World ι}
      (hl : p.lease i = .recycling t) (hs : p.world.Step (.act i ev) os w)
      (hr : .recycled (.ok ()) ∈ os) :
      Step mgr p (.resume i ev) os ⟨w, Function.update p.lease i .borrowed⟩
  | refuse {p : Pool ι} {i : ι} {t : Trace Event Obs} {ev : Event} {os : List Obs} {w : World ι}
      (hl : p.lease i = .recycling t) (hs : p.world.Step (.act i ev) os w)
      (hr : ∀ q, w.places i = some q → q.session.task = .idle)
      (hn : .recycled (.ok ()) ∉ os) :
      Step mgr p (.resume i ev) os ⟨w, Function.update p.lease i .refused⟩
  | user {p : Pool ι} {i : ι} {ev : WorldEvent ι} {os : List Obs} {w : World ι}
      (hl : p.lease i = .borrowed) (hb : ev.By i) (hs : p.world.Step ev os w) :
      Step mgr p (.user i ev) os ⟨w, p.lease⟩
  | giveBack {p : Pool ι} {i : ι} {q : Place ι} (hl : p.lease i = .borrowed)
      (hp : p.world.places i = some q) (hi : q.session.task = .idle) :
      Step mgr p (.giveBack i) [] ⟨p.world, Function.update p.lease i .idle⟩
  | close {p : Pool ι} {i : ι} {os : List Obs} {w : World ι}
      (hs : p.world.Step (.close i) os w) :
      Step mgr p (.close i) os ⟨w, p.lease⟩
  | discard {p : Pool ι} {h : Held ι} {os : List Obs} {w : World ι}
      (hs : p.world.Step (.discard h) os w) :
      Step mgr p (.discard h) os ⟨w, p.lease⟩

abbrev Runs (mgr : TdsManager π) (p : Pool ι) (t : Trace (PoolEvent ι) Obs) (p' : Pool ι) : Prop :=
  Run (Step mgr) p t p'

/-- The connections take the steps the pool has them take. -/
theorem simulates (mgr : TdsManager π) :
    Simulates (Step mgr) World.Step (fun (p : Pool ι) w => p.world = w)
      (PoolEvent.within mgr.recyclingMethod) := by
  rintro p ev os p' _ rfl hs
  cases hs with
  | create _ hs | recycle _ hs | resume _ hs _ | handOut _ hs _ | refuse _ hs _ _
  | user _ _ hs | close hs | discard hs => exact ⟨_, .single hs, rfl⟩
  | giveBack => exact ⟨_, .nil _, rfl⟩

end Pool

namespace World

variable [DecidableEq ι] {w w' : World ι} {i : ι} {ev : WorldEvent ι} {os : List Obs}

/-- No live statement is of the session that connection `i` is in. -/
def Stale (w : World ι) (i : ι) : Prop := ∀ h, w.Live h → h.owner = i → h.number < w.number i

theorem step_elsewhere (hs : Step w ev os w') (hp : ev.place ≠ some i) :
    w'.places i = w.places i ∧ w'.number i = w.number i := by
  have other : ∀ {j : ι}, some j ≠ some i → i ≠ j := fun h hij => h (by rw [hij])
  cases hs with
  | connect => exact ⟨Function.update_of_ne (other hp) _ _, Function.update_of_ne (other hp) _ _⟩
  | close | call | use => exact ⟨Function.update_of_ne (other hp) _ _, rfl⟩
  | act =>
    refine ⟨Function.update_of_ne (other hp) _ _, ?_⟩
    show (if _ then _ else w.number) i = _
    split
    · exact Function.update_of_ne (other hp) _ _
    · rfl
  | discard => exact ⟨rfl, rfl⟩

theorem step_number (hs : Step w ev os w') (i : ι) : w.number i ≤ w'.number i := by
  have renewed : ∀ j : ι, w.number i ≤ Function.update w.number j (w.number j + 1) i := by
    intro j
    by_cases hj : i = j
    · subst hj
      simp
    · rw [Function.update_of_ne hj]
  cases hs with
  | connect => exact renewed _
  | act hp hn hf hs =>
    show w.number i ≤ (if _ then _ else w.number) i
    split
    · exact renewed _
    · exact le_rfl
  | close | call | use | discard => exact le_rfl

/-- What has gone stale stays so until the connection prepares again; a new session makes
everything stale. -/
theorem step_stale (hi : w.Inv) (hs : Step w ev os w')
    (hw : w.Stale i ∨ w.number i < w'.number i)
    (hn : ∀ a stmt, ev = .act i a → .returned (.ok (.statement stmt)) ∉ os) : w'.Stale i := by
  intro h hl ho
  rcases step_live hs hl with hl | ⟨a, he, hm⟩
  · have hle := (hi.held h hl).number_le
    rw [ho] at hle
    rcases hw with hw | hw
    · exact (hw h hl ho).trans_le (step_number hs i)
    · exact hle.trans_lt hw
  · rw [ho] at he
    exact absurd hm (hn a _ he)

/-- A dead connection stays dead until it is closed. -/
theorem step_dead {q : Place ι} (hi : w.Inv)
    (hq : w.places i = some q) (hd : q.session.dead = true) (hs : Step w ev os w')
    (hc : ev ≠ .close i) : ∃ q', w'.places i = some q' ∧ q'.session.dead = true := by
  have hg := (hi.place i q hq).guarded
  have moved : ∀ {s : Session} {a : Event} {lent : Option (Held ι)} {began : Nat},
      q.session.step a = some (s, os) →
        ∃ q', Function.update w.places i (some ⟨s, lent, began⟩) i = some q' ∧
          q'.session.dead = true := fun hs =>
    ⟨_, Function.update_self _ _ _, (Session.step_dead hg hs).mpr (.inl hd)⟩
  by_cases hp : ev.place = some i
  · cases hs with
    | connect hn =>
      cases hp
      rw [hq] at hn
      cases hn
    | close => cases hp; exact absurd rfl hc
    | call hp' _ hs | use hp' _ _ hs | act hp' _ _ hs =>
      cases hp
      cases hq.symm.trans hp'
      exact moved hs
    | discard => cases hp
  · exact ⟨q, (step_elsewhere hs hp).1.trans hq, hd⟩

/-- A call that carries a handle goes out for a live statement of the connection's session. -/
theorem issued_current {c : Call} (hi : w.Inv) (hs : Step w ev os w') (hc : .issued c ∈ os)
    (hu : c.usesHandle = true) :
    ∃ i a p h, ev = .act i a ∧ w.places i = some p ∧ p.session.task.statement = some h.stmt ∧
      w.Live h ∧ w.Current h i ∧ c.Uses h.stmt := by
  cases hs with
  | connect | close | discard => cases hc
  | call hp he hs | use hp he hh hs => rw [(Session.start_task hs 0).1] at hc; cases hc
  | @act i p a s os hp hn hf hs =>
    have hok := hi.place i p hp
    obtain ⟨stmt, hst, htok, huse⟩ :=
      (Session.step_handled hok.guarded hok.bound hn hs).issued c hc hu
    obtain ⟨k, hk, rfl⟩ := hok.lent stmt hst
    have hlive : w.Live k := .inr ⟨i, p, hp, hk⟩
    exact ⟨i, a, p, k, rfl, hp, hst, hlive, ((hi.held k hlive).token_iff i p hp).mp htok, huse⟩

end World

namespace Session

variable {s s' : Session} {client : Client} {method : RecyclingMethod} {os : List Obs}
  {t : Trace Event Obs} {ev : Event}

theorem runs_recycle_task (h : Runs ⟨client, .unpolled (.recycle method)⟩ t s)
    (hn : ∀ l ∈ t, l.1.starts = false) :
    s.task = .unpolled (.recycle method) ∨ s.task.isReset = true ∨ s.task = .idle := by
  cases method with
  | reset =>
    have hp := runs_progress h hn
    unfold RecycleProgress at hp
    split at hp
    · next ht => exact .inl ht
    · next ht => exact .inr (.inl (by rw [ht]; rfl))
    · next ht => exact .inr (.inr ht)
    · exact hp.elim
  | ping =>
    -- its first poll is its last
    cases h with
    | nil => exact .inl rfl
    | @cons _ m _ ev os t hs hr =>
      have hidle : m.task = .idle := by
        cases ev with
        | start => cases hn _ List.mem_cons_self
        | columns | intoRowStream | intoResults | reply => cases hs
        | drop => cases hs; rfl
        | poll alloc =>
          simp only [ofStep, step, Client.firstPoll, Client.beginRecycle] at hs
          split at hs <;> cases hs <;> rfl
      cases hr with
      | nil => exact .inr (.inr hidle)
      | @cons _ _ _ ev' _ _ hs' _ =>
        obtain ⟨c, task⟩ := m
        cases hidle
        have hev : ev'.starts = false := hn _ (List.mem_cons_of_mem _ List.mem_cons_self)
        cases (step_idle c hev).symm.trans hs'

/-- A recycle that succeeds began on a connection that was not known to be dead. -/
theorem runs_recycle_alive (h : Runs ⟨client, .unpolled (.recycle method)⟩ t s)
    (hn : ∀ l ∈ t, l.1.starts = false) (ho : .recycled (.ok ()) ∈ t.observed) :
    client.inner.dead = false := by
  cases hd : client.inner.dead with
  | false => rfl
  | true =>
    have hp : ∀ alloc, client.firstPoll alloc (.recycle method) =
        some (⟨client, .idle⟩, [.recycled (.error connectionClosed)]) := by
      intro alloc
      rw [Client.firstPoll, Client.beginRecycle_dead hd]
    rcases runs_one_poll hp h hn with ⟨hnone, -⟩ | ⟨hone, -⟩
    · rw [hnone] at ho
      cases ho
    · rw [hone] at ho
      simp at ho

theorem step_recycle_dead (hd : client.inner.dead = true)
    (h : step ⟨client, .unpolled (.recycle method)⟩ ev = some (s, os)) :
    s.task = .idle ∧ .recycled (.ok ()) ∉ os := by
  cases ev with
  | start | columns | intoRowStream | intoResults | reply => cases h
  | drop => cases h; exact ⟨rfl, by simp⟩
  | poll alloc =>
    simp only [step, Client.firstPoll, Client.beginRecycle_dead hd] at h
    cases h
    exact ⟨rfl, by simp [connectionClosed]⟩

/-- A reset begins with a new token. -/
theorem newToken_of_isReset (h : step ⟨client, .unpolled (.recycle method)⟩ ev = some (s, os))
    (hr : s.task.isReset = true) :
    (newToken ⟨client, .unpolled (.recycle method)⟩ ev).isSome = true := by
  cases ev with
  | start | columns | intoRowStream | intoResults | reply => cases h
  | drop => cases h; cases hr
  | poll alloc =>
    cases hd : client.inner.dead with
    | true =>
      obtain ⟨hidle, -⟩ := Client.firstPoll_dead (e := .recycle method) hd h
      cases hidle
      cases hr
    | false =>
      cases method with
      | reset => simp [newToken, Entry.resets, hd]
      | ping =>
        simp only [step, Client.firstPoll, Client.beginRecycle, ensureUsable_usable hd] at h
        cases h
        cases hr

end Session

section

variable [DecidableEq ι]

/-- Place `q` of the world `w` is where a recycle of `client` is after `r`. -/
structure Recycles (method : RecyclingMethod) (client : Client) (w : World ι) (i : ι)
    (r : Trace Event Obs) (q : Place ι) : Prop where
  place : w.places i = some q
  runs : Session.Runs ⟨client, .unpolled (.recycle method)⟩ r q.session
  starts : ∀ l ∈ r, l.1.starts = false
  prepares : q.session.task.prepares = false
  /-- Once the reset runs, its session has no statement. -/
  stale : q.session.task.isReset = true → w.Stale i

variable {method : RecyclingMethod} {client : Client} {w w' : World ι} {i : ι}
  {r : Trace Event Obs} {q : Place ι} {ev : Event} {os : List Obs}

/-- A recycle returns no statement. -/
theorem Recycles.no_statement (hi : w.Inv) (h : Recycles method client w i r q)
    (hs : w.Step (.act i ev) os w') (stmt : PreparedStatement) :
    .returned (.ok (.statement stmt)) ∉ os := by
  intro hm
  cases hs with
  | @act _ p _ s _ hp hn hf hs =>
    obtain rfl : p = q := Option.some.inj (hp.symm.trans h.place)
    have hok := hi.place i p hp
    have hprep := ((Session.step_handled hok.guarded hok.bound hn hs).returned stmt hm).1
    rw [h.prepares] at hprep
    cases hprep

theorem Recycles.act (hi : w.Inv) (h : Recycles method client w i r q)
    (hs : w.Step (.act i ev) os w') :
    ∃ q', Recycles method client w' i (r ++ [(ev, os)]) q' ∧
      q.session.step ev = some (q'.session, os) ∧
      (q.session.task.isReset = true → w'.Stale i) := by
  have hno : ∀ a stmt, WorldEvent.act i ev = .act i a → .returned (.ok (.statement stmt)) ∉ os :=
    fun _ stmt _ => h.no_statement hi hs stmt
  have hkeep : q.session.task.isReset = true → w'.Stale i := fun hr =>
    World.step_stale hi hs (.inl (h.stale hr)) hno
  have hstep := hs
  cases hs with
  | @act _ p _ s _ hp hn hf hs =>
    obtain rfl : p = q := Option.some.inj (hp.symm.trans h.place)
    have hok := hi.place i p hp
    have hh := Session.step_handled hok.guarded hok.bound hn hs
    refine ⟨_, ⟨Function.update_self _ _ _, h.runs.snoc hs, ?_, ?_, fun hr => ?_⟩, hs, hkeep⟩
    · intro l hl
      rcases List.mem_append.mp hl with hl | hl
      · exact h.starts l hl
      · cases List.mem_singleton.mp hl
        exact hn
    · exact Bool.eq_false_iff.mpr fun hs => Bool.eq_false_iff.mp h.prepares (hh.prepares hs)
    · rcases Session.runs_recycle_task h.runs h.starts with ht | ht | ht
      · obtain ⟨⟨c, task⟩, lent, began⟩ := p
        cases ht
        have hnew := Session.newToken_of_isReset hs hr
        refine World.step_stale hi hstep (.inr ?_) hno
        show w.number i < (if _ then _ else w.number) i
        rw [if_pos hnew, Function.update_self]
        exact Nat.lt_succ_self _
      · exact hkeep ht
      · obtain ⟨⟨c, task⟩, lent, began⟩ := p
        cases ht
        cases (Session.step_idle c hn).symm.trans hs

theorem Recycles.elsewhere {ev : WorldEvent ι} (hi : w.Inv) (h : Recycles method client w i r q)
    (hs : w.Step ev os w') (hp : ev.place ≠ some i) : Recycles method client w' i r q where
  place := (World.step_elsewhere hs hp).1.trans h.place
  runs := h.runs
  starts := h.starts
  prepares := h.prepares
  stale hr := World.step_stale hi hs (.inl (h.stale hr)) fun a _ he => absurd (by rw [he]; rfl) hp

theorem Recycles.start (hs : w.Step (.call i (.recycle method)) os w') :
    os = [] ∧ ∃ q₀ q, w.places i = some q₀ ∧ q₀.session.task = .idle ∧
      Recycles method q₀.session.client w' i [] q ∧ q.session.task ≠ .idle := by
  cases hs with
  | @call _ q₀ _ s _ hp he hs =>
    obtain ⟨⟨c, task⟩, lent, began⟩ := q₀
    have hidle : task = .idle := by
      cases task with
      | idle => rfl
      | _ => cases hs
    subst hidle
    obtain ⟨rfl, rfl⟩ := Session.start_recycle hs
    refine ⟨rfl, _, _, hp, rfl, ⟨Function.update_self _ _ _, .nil _, ?_, rfl, ?_⟩, ?_⟩
    · exact fun l hl => nomatch hl
    · exact fun h => nomatch h
    · exact fun h => nomatch h

namespace Pool

variable {mgr : TdsManager π} {p p' : Pool ι} {t : Trace (PoolEvent ι) Obs} {ev : PoolEvent ι}
  {q₀ : Place ι}

theorem runs_world (h : Runs mgr p t p') :
    p.world.Runs (t.flatMap (PoolEvent.within mgr.recyclingMethod)) p'.world := by
  obtain ⟨w, hr, rfl⟩ := (simulates mgr).run h rfl
  exact hr

theorem runs_inv (h : Runs mgr empty t p) : p.world.Inv := World.runs_inv (runs_world h)

/-- The trace ends with a recycle of `i`, begun at the place `q₀`, that has done `r`. -/
def RecycledFrom (mgr : TdsManager π) (t : Trace (PoolEvent ι) Obs) (i : ι) (q₀ : Place ι)
    (r : Trace Event Obs) : Prop :=
  ∃ before mid m, t = before ++ (.recycle i, []) :: mid ∧ Runs mgr empty before m ∧
    m.lease i = .idle ∧ m.world.places i = some q₀ ∧ q₀.session.task = .idle ∧
    mid.filterMap (PoolEvent.resumed i) = r

theorem RecycledFrom.snoc (h : RecycledFrom mgr t i q₀ r) (l : PoolEvent ι × List Obs) :
    RecycledFrom mgr (t ++ [l]) i q₀ (r ++ (PoolEvent.resumed i l).toList) := by
  obtain ⟨before, mid, m, rfl, hm, hl, hq, ht, rfl⟩ := h
  refine ⟨before, mid ++ [l], m, by simp, hm, hl, hq, ht, ?_⟩
  rw [List.filterMap_append]
  cases hr : PoolEvent.resumed i l <;> simp [hr]

/-- Every connection that is being recycled is where its recycle has come to. -/
def RecyclesOk (mgr : TdsManager π) (t : Trace (PoolEvent ι) Obs) (p : Pool ι) : Prop :=
  ∀ i r, p.lease i = .recycling r → ∃ q₀ q, RecycledFrom mgr t i q₀ r ∧
    Recycles mgr.recyclingMethod q₀.session.client p.world i r q ∧ q.session.task ≠ .idle

theorem RecyclesOk.elsewhere {wev : WorldEvent ι} (hi : p.world.Inv) (h : RecyclesOk mgr t p)
    (hl : p.lease i = .recycling r) (hs : p.world.Step wev os w') (hp : wev.place ≠ some i)
    (hr : PoolEvent.resumed i (ev, os) = none) :
    ∃ q₀ q, RecycledFrom mgr (t ++ [(ev, os)]) i q₀ r ∧
      Recycles mgr.recyclingMethod q₀.session.client w' i r q ∧ q.session.task ≠ .idle := by
  obtain ⟨q₀, q, hfrom, hrec, hidle⟩ := h i r hl
  refine ⟨q₀, q, ?_, hrec.elsewhere hi hs hp, hidle⟩
  have hsnoc := hfrom.snoc (ev, os)
  rwa [hr, Option.toList_none, List.append_nil] at hsnoc

/-- A lease taken to something else than a recycle. -/
theorem lease_of_ne {l : Lease} {j : ι} (hl : Function.update p.lease j l i = .recycling r)
    (hn : ∀ r, l ≠ .recycling r) : j ≠ i ∧ p.lease i = .recycling r := by
  by_cases hj : j = i
  · subst hj
    rw [Function.update_self] at hl
    exact absurd hl (hn r)
  · rw [Function.update_of_ne (Ne.symm hj)] at hl
    exact ⟨hj, hl⟩

theorem step_recyclesOk (hr : Runs mgr empty t p) (h : RecyclesOk mgr t p)
    (hs : Step mgr p ev os p') : RecyclesOk mgr (t ++ [(ev, os)]) p' := by
  have hi := runs_inv hr
  intro i r hl
  have other : ∀ {j : ι}, j ≠ i → some j ≠ some i := fun hj h => hj (Option.some.inj h)
  have notResumed : ∀ {j : ι} {a : Event}, j ≠ i →
      PoolEvent.resumed i (.resume j a, os) = none := fun hj => if_neg hj
  cases hs with
  | create hc hs =>
    obtain ⟨hj, hl⟩ := lease_of_ne hl fun r h => nomatch h
    exact h.elsewhere hi hl hs (other hj) rfl
  | @recycle j _ w hidle hs =>
    by_cases hj : j = i
    · subst hj
      obtain rfl : [] = r := by simpa using hl
      obtain ⟨rfl, q₀, q, hq, ht, hrec, hne⟩ := Recycles.start hs
      exact ⟨q₀, q, ⟨t, [], p, rfl, hr, hidle, hq, ht, rfl⟩, hrec, hne⟩
    · have hl : p.lease i = .recycling r := (Function.update_of_ne (Ne.symm hj) _ _).symm.trans hl
      exact h.elsewhere hi hl hs (other hj) rfl
  | @resume j r' a _ w hlj hs hne =>
    by_cases hj : j = i
    · subst hj
      obtain rfl : r' ++ [(a, os)] = r := by simpa using hl
      obtain ⟨q₀, q, hfrom, hrec, -⟩ := h j r' hlj
      obtain ⟨q', hrec', -, -⟩ := hrec.act hi hs
      have hsnoc := hfrom.snoc (.resume j a, os)
      rw [PoolEvent.resumed, if_pos rfl] at hsnoc
      exact ⟨q₀, q', hsnoc, hrec', hne q' hrec'.place⟩
    · have hl : p.lease i = .recycling r := (Function.update_of_ne (Ne.symm hj) _ _).symm.trans hl
      exact h.elsewhere hi hl hs (other hj) (notResumed hj)
  | handOut _ hs _ | refuse _ hs _ _ =>
    obtain ⟨hj, hl⟩ := lease_of_ne hl fun r h => nomatch h
    exact h.elsewhere hi hl hs (other hj) (notResumed hj)
  | @user j wev _ w hlj hb hs =>
    have hj : j ≠ i := by
      rintro rfl
      rw [hlj] at hl
      cases hl
    refine h.elsewhere hi hl hs ?_ rfl
    cases wev with
    | connect | close | discard => exact hb.elim
    | call | use | act => cases hb; exact other hj
  | @giveBack j q hlj hp hidle =>
    obtain ⟨hj, hl⟩ := lease_of_ne hl fun r h => nomatch h
    obtain ⟨q₀, q, hfrom, hrec, hne⟩ := h i r hl
    have hsnoc := hfrom.snoc (.giveBack j, [])
    rw [show PoolEvent.resumed i (.giveBack j, []) = none from rfl, Option.toList_none,
      List.append_nil] at hsnoc
    exact ⟨q₀, q, hsnoc, hrec, hne⟩
  | @close j _ w hs =>
    refine h.elsewhere hi hl hs (other ?_) rfl
    rintro rfl
    -- a connection is closed only when nothing borrows it
    obtain ⟨q₀, q, -, hrec, hne⟩ := h j r hl
    cases hs with
    | close hp hidle =>
      rw [hrec.place] at hp
      cases hp
      exact hne hidle
  | discard hs => exact h.elsewhere hi hl hs (fun h => nomatch h) rfl

theorem runs_recyclesOk (h : Runs mgr empty t p) : RecyclesOk mgr t p := by
  let I : Trace (PoolEvent ι) Obs → Pool ι → Prop := fun t p =>
    Runs mgr empty t p ∧ RecyclesOk mgr t p
  refine (h.history (I := I) ?_ ⟨.nil _, fun i r h => nomatch h⟩).2
  exact fun t p ev os p' ⟨hr, hi⟩ hs => ⟨hr.snoc hs, step_recyclesOk hr hi hs⟩

end Pool

end

end

end TiberiusBridge
